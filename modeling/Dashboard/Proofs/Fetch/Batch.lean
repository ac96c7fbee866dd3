import Dashboard.Fetch.Batch
import Mathlib.Data.List.Basic

/-!
# What a batch comes to

A batch either runs to its end, or one of its answers stops it. In the first
case every request was started and none of the answers is one that stops. In
the second the answer belongs to a request that was started, and no answer
of the batch that stops it would have come earlier: not even one of a
request that was never started, since those are only left out when the batch
stops at its first instant.

`settle_cases` says so once, and whatever is said of the phases of a cycle
goes through it. The second statement, `settle_congr`, is that a batch looks
at nothing but the answers to the requests that it started.
-/

namespace Dashboard.Fetch

variable {kind : BatchKind}

theorem not_stopsAt_value (kind : BatchKind) (v : Json) : kind.stopsAt (.value v) = false := rfl

/-- Where failures are kept apart, only a crash stops a batch. -/
theorem eq_crashed_of_stopsAt_apart {o : Outcome} (h : BatchKind.apart.stopsAt o = true) :
    o = .crashed := by
  cases o with
  | value v => cases h
  | failed f => cases h
  | crashed => rfl

/-! ## The instant of the first stop -/

theorem stopInstant?_eq_none {answers : List Answer} (h : stopInstant? kind answers = none) :
    ∀ a ∈ answers, kind.stopsAt a.outcome = false := by
  induction answers with
  | nil => simp
  | cons a r ih =>
      simp only [stopInstant?] at h
      split at h
      · cases h
      · next hstop =>
          intro b hb
          rcases List.mem_cons.mp hb with rfl | hmem
          · simpa using hstop
          · exact ih h b hmem

/-- The instant is that of an answer that stops the batch, and of no later
one than any other. -/
theorem stopInstant?_eq_some {answers : List Answer} {instant : Nat}
    (h : stopInstant? kind answers = some instant) :
    (∃ a ∈ answers, kind.stopsAt a.outcome = true ∧ a.after = instant) ∧
      ∀ a ∈ answers, kind.stopsAt a.outcome = true → instant ≤ a.after := by
  induction answers generalizing instant with
  | nil => cases h
  | cons a r ih =>
      simp only [stopInstant?] at h
      split at h
      · next hstop =>
          cases hr : stopInstant? kind r with
          | none =>
              rw [hr] at h
              obtain rfl : a.after = instant := by simpa using h
              refine ⟨⟨a, List.mem_cons_self, hstop, rfl⟩, ?_⟩
              intro b hb hbstop
              rcases List.mem_cons.mp hb with rfl | hmem
              · exact Nat.le_refl _
              · rw [stopInstant?_eq_none hr b hmem] at hbstop
                cases hbstop
          | some later =>
              rw [hr] at h
              obtain rfl : min a.after later = instant := by simpa using h
              obtain ⟨⟨b, hb, hbstop, hbafter⟩, hleast⟩ := ih hr
              constructor
              · rcases Nat.le_total a.after later with hle | hle
                · exact ⟨a, List.mem_cons_self, hstop, (Nat.min_eq_left hle).symm⟩
                · exact ⟨b, List.mem_cons_of_mem a hb, hbstop,
                    by rw [hbafter, Nat.min_eq_right hle]⟩
              · intro c hc hcstop
                rcases List.mem_cons.mp hc with rfl | hmem
                · exact Nat.min_le_left _ _
                · exact Nat.le_trans (Nat.min_le_right _ _) (hleast c hmem hcstop)
      · next hgo =>
          obtain ⟨⟨b, hb, hbstop, hbafter⟩, hleast⟩ := ih h
          refine ⟨⟨b, List.mem_cons_of_mem a hb, hbstop, hbafter⟩, ?_⟩
          intro c hc hcstop
          rcases List.mem_cons.mp hc with rfl | hmem
          · exact absurd hcstop hgo
          · exact hleast c hmem hcstop

/-! ## The answer that stops a batch

Looking around from another place changes which of several answers at one
instant is seen first, and nothing else. -/

theorem mem_rotateLeft {α : Type} {l : List α} {n : Nat} {a : α} :
    a ∈ l.rotateLeft n ↔ a ∈ l := by
  simp only [List.rotateLeft]
  split
  · rfl
  · conv_rhs => rw [← List.take_append_drop (n % l.length) l]
    simp only [List.mem_append, or_comm]

theorem firstStop_eq_none {answers : List Answer} (h : firstStop kind answers = none) :
    ∀ a ∈ answers, kind.stopsAt a.outcome = false := by
  cases hi : stopInstant? kind answers with
  | none => exact stopInstant?_eq_none hi
  | some instant =>
      obtain ⟨⟨a, ha, hstop, hafter⟩, -⟩ := stopInstant?_eq_some hi
      simp only [firstStop, hi, Option.bind_eq_bind, Option.bind_some, List.find?_eq_none] at h
      have hno := h a (mem_rotateLeft.mpr ha)
      simp [hstop, hafter] at hno

theorem firstStop_eq_some {answers : List Answer} {a : Answer}
    (h : firstStop kind answers = some a) :
    a ∈ answers ∧ kind.stopsAt a.outcome = true ∧
      ∀ b ∈ answers, kind.stopsAt b.outcome = true → a.after ≤ b.after := by
  cases hi : stopInstant? kind answers with
  | none => simp [firstStop, hi] at h
  | some instant =>
      simp only [firstStop, hi, Option.bind_eq_bind, Option.bind_some] at h
      have hmem := mem_rotateLeft.mp (List.mem_of_find?_eq_some h)
      have hfound := List.find?_some h
      simp only [Bool.and_eq_true, beq_iff_eq] at hfound
      obtain ⟨hstop, hafter⟩ := hfound
      refine ⟨hmem, hstop, ?_⟩
      rw [hafter]
      exact (stopInstant?_eq_some hi).2

/-! ## The requests that are started -/

variable {ι : Type} {answer : ι → Answer} {requests : List ι}

/-- What a batch starts is a first part of its requests. -/
theorem isPrefix_startedOf (kind : BatchKind) (answer : ι → Answer) (requests : List ι) :
    startedOf kind answer requests <+: requests := by
  induction requests with
  | nil => exact List.prefix_refl []
  | cons i r ih =>
      rw [startedOf]
      split
      · exact ⟨r, rfl⟩
      · exact (List.prefix_cons_inj i).mpr ih

theorem mem_of_mem_startedOf {i : ι} (h : i ∈ startedOf kind answer requests) : i ∈ requests :=
  (isPrefix_startedOf kind answer requests).subset h

theorem startedOf_ne_nil (h : requests ≠ []) : startedOf kind answer requests ≠ [] := by
  cases requests with
  | nil => exact h
  | cons i r =>
      rw [startedOf]
      split <;> exact List.cons_ne_nil _ _

/-- A request is only left out behind one that stops the batch at once. -/
theorem startedOf_cases (kind : BatchKind) (answer : ι → Answer) (requests : List ι) :
    startedOf kind answer requests = requests ∨
      ∃ before i after, requests = before ++ i :: after ∧
        startedOf kind answer requests = before ++ [i] ∧
        (answer i).after = 0 ∧ kind.stopsAt (answer i).outcome = true := by
  induction requests with
  | nil => exact Or.inl rfl
  | cons j r ih =>
      simp only [startedOf]
      split
      · next hnow =>
          simp only [Bool.and_eq_true, beq_iff_eq] at hnow
          exact Or.inr ⟨[], j, r, rfl, rfl, hnow⟩
      · rcases ih with hall | ⟨before, i, after, hr, hstarted, hnow⟩
        · exact Or.inl (by rw [hall])
        · exact Or.inr ⟨j :: before, i, after, by rw [hr]; rfl, by rw [hstarted]; rfl, hnow⟩

theorem startedOf_eq_or (kind : BatchKind) (answer : ι → Answer) (requests : List ι) :
    startedOf kind answer requests = requests ∨
      ∃ i ∈ startedOf kind answer requests,
        (answer i).after = 0 ∧ kind.stopsAt (answer i).outcome = true := by
  refine (startedOf_cases kind answer requests).imp_right ?_
  rintro ⟨before, i, after, -, hstarted, hnow⟩
  refine ⟨i, ?_, hnow⟩
  rw [hstarted]
  exact List.mem_append_right _ (List.mem_singleton_self i)

theorem startedOf_congr {other : ι → Answer}
    (h : ∀ i ∈ startedOf kind answer requests, answer i = other i) :
    startedOf kind other requests = startedOf kind answer requests := by
  induction requests with
  | nil => rfl
  | cons j r ih =>
      simp only [startedOf] at h ⊢
      by_cases hnow : ((answer j).after == 0 && kind.stopsAt (answer j).outcome) = true
      · rw [if_pos hnow] at h ⊢
        rw [if_pos (by rw [← h j List.mem_cons_self]; exact hnow)]
      · rw [if_neg hnow] at h ⊢
        rw [if_neg (by rw [← h j List.mem_cons_self]; exact hnow),
          ih fun i hi => h i (List.mem_cons_of_mem j hi)]

/-! ## A whole batch -/

/-- A batch runs to its end, or it stops at one of its answers, and then at
one of the earliest of those that stop it. -/
theorem settle_cases (kind : BatchKind) (answer : ι → Answer) (requests : List ι) :
    ((settle kind answer requests).stop = none ∧
        (settle kind answer requests).started = requests ∧
        (settle kind answer requests).after = lastAfter (requests.map answer) ∧
        ∀ i ∈ requests, kind.stopsAt (answer i).outcome = false) ∨
      ∃ i ∈ (settle kind answer requests).started,
        (settle kind answer requests).stop = some (answer i).outcome ∧
        (settle kind answer requests).after = (answer i).after ∧
        kind.stopsAt (answer i).outcome = true ∧
        ∀ j ∈ requests, kind.stopsAt (answer j).outcome = true →
          (answer i).after ≤ (answer j).after := by
  simp only [settle]
  have hstarted := startedOf_eq_or kind answer requests
  split
  · next a ha =>
      obtain ⟨hmem, hstop, hleast⟩ := firstStop_eq_some ha
      obtain ⟨i, hi, rfl⟩ := List.mem_map.mp hmem
      refine Or.inr ⟨i, hi, rfl, rfl, hstop, ?_⟩
      intro j hj hjstop
      rcases hstarted with hall | ⟨z, hz, hzero, hzstop⟩
      · exact hleast _ (List.mem_map.mpr ⟨j, by rw [hall]; exact hj, rfl⟩) hjstop
      · -- A request that was left out waits behind a stop at the first instant.
        have hle := hleast _ (List.mem_map.mpr ⟨z, hz, rfl⟩) hzstop
        omega
  · next hnone =>
      have hgo : ∀ i ∈ startedOf kind answer requests,
          kind.stopsAt (answer i).outcome = false := fun i hi =>
        firstStop_eq_none hnone _ (List.mem_map.mpr ⟨i, hi, rfl⟩)
      rcases hstarted with hall | ⟨z, hz, -, hzstop⟩
      · rw [hall] at hgo ⊢
        exact Or.inl ⟨rfl, rfl, rfl, hgo⟩
      · rw [hgo z hz] at hzstop
        cases hzstop

theorem lastAfter_le {answers : List Answer} {limit : Nat} (h : ∀ a ∈ answers, a.after ≤ limit) :
    lastAfter answers ≤ limit := by
  induction answers with
  | nil => exact Nat.zero_le limit
  | cons a r ih =>
      exact Nat.max_le.mpr ⟨h a List.mem_cons_self, ih fun b hb => h b (List.mem_cons_of_mem a hb)⟩

/-- A batch takes no longer than the longest of its requests may. -/
theorem settle_after_le {limit : Nat} (h : ∀ i, (answer i).after ≤ limit) :
    (settle kind answer requests).after ≤ limit := by
  rcases settle_cases kind answer requests with ⟨-, -, hlast, -⟩ | ⟨i, -, -, hafter, -⟩
  · rw [hlast]
    refine lastAfter_le fun a ha => ?_
    obtain ⟨i, -, rfl⟩ := List.mem_map.mp ha
    exact h i
  · rw [hafter]
    exact h i

theorem settle_started (kind : BatchKind) (answer : ι → Answer) (requests : List ι) :
    (settle kind answer requests).started = startedOf kind answer requests := by
  simp only [settle]
  split <;> rfl

theorem mem_of_mem_started {i : ι} (h : i ∈ (settle kind answer requests).started) :
    i ∈ requests := by
  rw [settle_started] at h
  exact mem_of_mem_startedOf h

/-- A batch looks at nothing but the answers to the requests it started. -/
theorem settle_congr {other : ι → Answer}
    (h : ∀ i ∈ (settle kind answer requests).started, answer i = other i) :
    settle kind other requests = settle kind answer requests := by
  rw [settle_started] at h
  have hanswers : (startedOf kind answer requests).map other =
      (startedOf kind answer requests).map answer :=
    List.map_congr_left fun i hi => (h i hi).symm
  simp only [settle, startedOf_congr h, hanswers]

end Dashboard.Fetch
