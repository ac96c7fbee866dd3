import Dashboard.Json.Value
import Dashboard.Proofs.Text.Order

/-!
# Objects as maps

An object may have several members of one key. `Holds` says what it has at a
key: the value of the last of them. That is what `lookup` finds, and `entries`
lists exactly these values, one for a key and by ascending keys.

The entries come of a sort. It keeps the members of a key in their order
(`filter_mergeSort`), so the last of them is still the last and, among
neighbours, the one that is kept.
-/

namespace Dashboard.Json

variable {α : Type} {members : List (String × α)} {key : String} {a : α}

/-- At a key there is a value, that of the last member of the key. -/
def Holds (members : List (String × α)) (key : String) (a : α) : Prop :=
  ∃ before after, members = before ++ (key, a) :: after ∧ ∀ m ∈ after, m.1 ≠ key

theorem not_holds_nil : ¬ Holds ([] : List (String × α)) key a := by
  rintro ⟨before, after, h, -⟩
  simp at h

theorem holds_cons {m : String × α} :
    Holds (m :: members) key a ↔
      Holds members key a ∨ m = (key, a) ∧ ∀ n ∈ members, n.1 ≠ key := by
  constructor
  · rintro ⟨before, after, h, hlast⟩
    cases before with
    | nil =>
        obtain ⟨rfl, rfl⟩ := List.cons.inj h
        exact Or.inr ⟨rfl, hlast⟩
    | cons n before =>
        obtain ⟨rfl, rfl⟩ := List.cons.inj h
        exact Or.inl ⟨before, after, rfl, hlast⟩
  · rintro (⟨before, after, rfl, hlast⟩ | ⟨rfl, hlast⟩)
    · exact ⟨m :: before, after, rfl, hlast⟩
    · exact ⟨[], members, rfl, hlast⟩

theorem Holds.mem (h : Holds members key a) : (key, a) ∈ members := by
  obtain ⟨before, after, rfl, -⟩ := h
  exact List.mem_append_right _ List.mem_cons_self

/-! ## Looking a key up -/

theorem lookup_eq_none_iff {members : Members} :
    lookup key members = none ↔ ∀ m ∈ members, m.1 ≠ key := by
  induction members with
  | nil => simp [lookup]
  | cons m members ih => simp [lookup, ih, and_comm]

theorem lookup_eq_some_iff {members : Members} {v : Json} :
    lookup key members = some v ↔ Holds members key v := by
  induction members with
  | nil => exact iff_of_false nofun not_holds_nil
  | cons m members ih =>
      have hmember : (if m.1 = key then some m.2 else none) = some v ↔ m = (key, v) := by
        rw [Option.ite_none_right_eq_some, Option.some_inj, Prod.ext_iff]
      rw [lookup, Option.or_eq_some_iff, hmember, ih, lookup_eq_none_iff, holds_cons, and_comm]

/-! ## The entries -/

/-- Members by ascending keys, those of one key in any order. -/
def Sorted (members : List (String × α)) : Prop := members.Pairwise fun m n => m.1 ≤ n.1

/-- What is at a key depends on the members of the key alone. -/
theorem holds_filter_iff :
    Holds (members.filter fun m => decide (m.1 = key)) key a ↔ Holds members key a := by
  induction members with
  | nil => exact Iff.rfl
  | cons m members ih =>
      rw [holds_cons, List.filter_cons]
      split
      · rw [holds_cons, ih]
        simp
      · next hkey =>
          rw [ih]
          refine (or_iff_left fun h => hkey ?_).symm
          rw [h.1]
          exact decide_eq_true rfl

theorem keyLe_trans (l m n : String × α) (hlm : decide (l.1 ≤ m.1) = true)
    (hmn : decide (m.1 ≤ n.1) = true) : decide (l.1 ≤ n.1) = true :=
  decide_eq_true (String.le_trans (of_decide_eq_true hlm) (of_decide_eq_true hmn))

theorem keyLe_total (m n : String × α) : (decide (m.1 ≤ n.1) || decide (n.1 ≤ m.1)) = true := by
  rw [Bool.or_eq_true, decide_eq_true_eq, decide_eq_true_eq]
  exact String.le_total m.1 n.1

theorem sorted_mergeSort (members : List (String × α)) :
    Sorted (members.mergeSort fun m n => decide (m.1 ≤ n.1)) :=
  (List.pairwise_mergeSort keyLe_trans keyLe_total members).imp of_decide_eq_true

/-- Sorting keeps the members of a key in their order. -/
theorem filter_mergeSort (members : List (String × α)) (key : String) :
    (members.mergeSort fun m n => decide (m.1 ≤ n.1)).filter (fun m => decide (m.1 = key)) =
      members.filter fun m => decide (m.1 = key) := by
  have hkey : ∀ m ∈ members.filter fun m => decide (m.1 = key), m.1 = key := fun m hm =>
    of_decide_eq_true (List.mem_filter.mp hm).2
  have hsame : (members.filter fun m => decide (m.1 = key)).Pairwise
      fun m n => decide (m.1 ≤ n.1) = true := by
    refine List.pairwise_of_forall_mem_list fun m hm n hn => decide_eq_true ?_
    have heq : m.1 = n.1 := (hkey m hm).trans (hkey n hn).symm
    exact heq ▸ String.le_refl m.1
  have hsub := (List.sublist_mergeSort keyLe_trans keyLe_total hsame List.filter_sublist).filter
    fun m => decide (m.1 = key)
  rw [List.filter_filter] at hsub
  simp only [Bool.and_self] at hsub
  exact (hsub.eq_of_length ((List.mergeSort_perm members _).filter _).length_eq.symm).symm

theorem holds_mergeSort_iff :
    Holds (members.mergeSort fun m n => decide (m.1 ≤ n.1)) key a ↔ Holds members key a := by
  rw [← holds_filter_iff, filter_mergeSort, holds_filter_iff]

/-- In a sorted list no key comes back after another one. -/
theorem Sorted.lt_of_ne {m n : String × α} (h : Sorted (m :: n :: members)) (hne : m.1 ≠ n.1) :
    ∀ o ∈ n :: members, m.1 < o.1 := by
  obtain ⟨hm, hrest⟩ := List.pairwise_cons.mp h
  have hlt : m.1 < n.1 := Std.lt_of_le_of_ne (hm n List.mem_cons_self) hne
  intro o ho
  rcases List.mem_cons.mp ho with rfl | ho
  · exact hlt
  · exact Std.lt_of_lt_of_le hlt ((List.pairwise_cons.mp hrest).1 o ho)

theorem mem_keepLast_iff (h : Sorted members) :
    (key, a) ∈ keepLast members ↔ Holds members key a := by
  fun_induction keepLast members with
  | case1 => exact iff_of_false List.not_mem_nil not_holds_nil
  | case2 m => simp [holds_cons, not_holds_nil, eq_comm]
  | case3 m n members hkey ih =>
      rw [ih h.of_cons, holds_cons (m := m)]
      refine (or_iff_left ?_).symm
      rintro ⟨rfl, hlast⟩
      exact hlast n List.mem_cons_self hkey.symm
  | case4 m n members hkey ih =>
      rw [List.mem_cons, ih h.of_cons, holds_cons (m := m), or_comm, eq_comm]
      refine or_congr_right (and_iff_left_of_imp ?_).symm
      rintro rfl o ho
      exact (String.ne_of_lt (h.lt_of_ne hkey o ho)).symm

/-- What is left of a sorted list has each key once. -/
theorem ascending_keepLast (h : Sorted members) :
    (keepLast members).Pairwise fun m n => m.1 < n.1 := by
  fun_induction keepLast members with
  | case1 => exact List.Pairwise.nil
  | case2 m => exact List.pairwise_singleton _ m
  | case3 m n members hkey ih => exact ih h.of_cons
  | case4 m n members hkey ih =>
      refine List.pairwise_cons.mpr ⟨fun o ho => h.lt_of_ne hkey o ?_, ih h.of_cons⟩
      exact ((mem_keepLast_iff h.of_cons).mp ho).mem

theorem mem_entries_iff : (key, a) ∈ entries members ↔ Holds members key a := by
  rw [entries, mem_keepLast_iff (sorted_mergeSort members), holds_mergeSort_iff]

theorem ascending_entries (members : List (String × α)) :
    (entries members).Pairwise fun m n => m.1 < n.1 :=
  ascending_keepLast (sorted_mergeSort members)

/-! ## Payloads -/

theorem members?_eq_some_iff {payload : Json} {members : Members} :
    payload.members? = some members ↔ payload = .object members := by
  cases payload <;> simp [members?]

theorem members?_eq_none_iff {payload : Json} :
    payload.members? = none ↔ ∀ members, payload ≠ .object members := by
  cases payload <;> simp [members?]

theorem boolean?_eq_some_iff {payload : Json} {b : Bool} :
    payload.boolean? = some b ↔ payload = .boolean b := by
  cases payload <;> simp [boolean?]

theorem number?_eq_some_iff {payload : Json} {n : Number} :
    payload.number? = some n ↔ payload = .number n := by
  cases payload <;> simp [number?]

theorem items?_eq_some_iff {payload : Json} {items : List Json} :
    payload.items? = some items ↔ payload = .array items := by
  cases payload <;> simp [items?]

/-- A payload is an object, and at a key it has a value. -/
def Has (payload : Json) (key : String) (v : Json) : Prop :=
  ∃ members, payload = .object members ∧ Holds members key v

theorem has_object_iff {members : Members} {v : Json} :
    Has (.object members) key v ↔ Holds members key v := by
  constructor
  · rintro ⟨members, h, hv⟩
    obtain rfl := Json.object.inj h
    exact hv
  · exact fun hv => ⟨members, rfl, hv⟩

/-- What is no object has nothing at any key. -/
theorem lookup_members_eq_some_iff {payload v : Json} :
    lookup key (payload.members?.getD []) = some v ↔ payload.Has key v := by
  cases payload with
  | object members => exact lookup_eq_some_iff.trans has_object_iff.symm
  | null | boolean | number | string | array => exact iff_of_false nofun nofun

theorem get?_eq_lookup (payload : Json) :
    payload.get? key = lookup key (payload.members?.getD []) := by
  cases payload <;> rfl

/-- Where only values of one shape are read, one is read if the payload has
one at the key. -/
theorem lookup_bind_eq_some_iff {payload : Json} {read : Json → Option α} {shape : α → Json}
    (h : ∀ {v : Json} {a : α}, read v = some a ↔ v = shape a) :
    (lookup key (payload.members?.getD [])).bind read = some a ↔ payload.Has key (shape a) := by
  rw [Option.bind_eq_some_iff]
  simp only [lookup_members_eq_some_iff, h, exists_eq_right]

end Dashboard.Json
