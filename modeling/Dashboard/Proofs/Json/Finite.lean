import Dashboard.Proofs.Json.Number
import Dashboard.Proofs.Json.Object

/-!
# Decoded numbers are finite

No JSON value has a number that is infinite or none at all: a payload cannot
write one, and what is too large for a double is refused. So whatever a payload
decodes to is finite throughout (`allFinite_of_decode`), and a panel that takes
its figures from numbers has none to leave out.

`Yields` is what a step of the decoder promises of its result. The numbers come
first, then the values by the nesting that is left; the items of an array and
the members of an object go by the number of rounds.
-/

namespace Dashboard.Json

open Double (nearest overflow)

variable {α β : Type}

/-- Every number in a value is finite. -/
inductive AllFinite : Json → Prop
  | null : AllFinite .null
  | boolean (b : Bool) : AllFinite (.boolean b)
  | number (n : Number) (h : n.toDouble.isFinite = true) : AllFinite (.number n)
  | string (s : String) : AllFinite (.string s)
  | array (items : List Json) (h : ∀ v ∈ items, AllFinite v) : AllFinite (.array items)
  | object (members : Members) (h : ∀ m ∈ members, AllFinite m.2) : AllFinite (.object members)

/-- What is at a key is in the value. -/
theorem AllFinite.of_has {payload v : Json} {key : String} (h : payload.AllFinite)
    (hv : payload.Has key v) : v.AllFinite := by
  obtain ⟨members, rfl, hmember⟩ := hv
  cases h with
  | object _ hmembers => exact hmembers _ hmember.mem

/-! ## What a step yields -/

/-- If there is a result, it is as promised. -/
def Yields (P : α → Prop) (o : Except Fault (α × List UInt8)) : Prop :=
  ∀ a rest, o = .ok (a, rest) → P a

variable {P : α → Prop} {Q : β → Prop}

theorem yields_error (fault : Fault) : Yields P (.error fault) := nofun

theorem yields_ok {a : α} (rest : List UInt8) (h : P a) : Yields P (.ok (a, rest)) := by
  intro b rest' heq
  obtain ⟨rfl, rfl⟩ := Prod.mk.inj (Except.ok.inj heq)
  exact h

theorem Yields.bind {o : Except Fault (α × List UInt8)}
    {f : α × List UInt8 → Except Fault (β × List UInt8)} (h : Yields P o)
    (hf : ∀ a rest, P a → Yields Q (f (a, rest))) : Yields Q (o >>= f) := by
  cases o with
  | error fault => exact yields_error fault
  | ok r => exact hf r.1 r.2 (h r.1 r.2 rfl)

/-! ## Numbers -/

/-- A number of a payload is finite. -/
def Number.IsFinite (n : Number) : Prop := n.toDouble.isFinite = true

theorem yields_ofParts (negative : Bool) {significand : ℕ} (h : significand < UInt64.size)
    (exponent : ℤ) (rest : List UInt8) :
    Yields Number.IsFinite (ofParts negative significand exponent rest) := by
  rw [ofParts]
  split
  · next f hf =>
      obtain ⟨q, hq, hoverflow, rfl⟩ := rounded_of_applyExponent h hf
      refine yields_ok rest ?_
      rw [Double.nearest_signed negative hq]
      exact (Double.isFinite_nearest_iff negative hq).mpr hoverflow
  · exact yields_error _

theorem isFinite_zero (negative : Bool) : (Double.zero negative).isFinite = true := by
  cases negative <;> decide

theorem yields_exponentPart (negative : Bool) {significand : ℕ} (h : significand < UInt64.size)
    (start : ℤ) (bs : List UInt8) :
    Yields Number.IsFinite (exponentPart negative significand start bs) := by
  unfold exponentPart
  split
  next down digits _ =>
    split
    · exact yields_error _
    split
    · exact yields_error _
    split
    · exact yields_ofParts negative h _ _
    split
    · exact yields_error _
    · exact yields_ok _ (isFinite_zero negative)

/-- A digit is gathered only where it fits. -/
theorem fractionDigits_lt {significand : ℕ} (h : significand < UInt64.size) (count : ℕ)
    (bs : List UInt8) : (fractionDigits significand count bs).1 < UInt64.size := by
  fun_induction fractionDigits significand count bs with
  | case1 => exact h
  | case2 => exact h
  | case3 _ _ _ _ _ _ hfits ih => exact ih (of_decide_eq_true hfits)
  | case4 => exact h

theorem wholeDigits_lt {significand : ℕ} (h : significand < UInt64.size) (bs : List UInt8) :
    (wholeDigits significand bs).1 < UInt64.size := by
  fun_induction wholeDigits significand bs with
  | case1 => exact h
  | case2 => exact h
  | case3 _ _ _ _ _ hfits ih => exact ih (of_decide_eq_true hfits)
  | case4 => exact h

theorem yields_fractionPart (negative : Bool) {significand : ℕ} (h : significand < UInt64.size)
    (start : ℤ) (bs : List UInt8) :
    Yields Number.IsFinite (fractionPart negative significand start bs) := by
  unfold fractionPart
  split
  · exact yields_error _
  split
  · exact yields_error _
  next b r _ =>
    have hlt := fractionDigits_lt h 0 (b :: r)
    split
    next significand' count rest heq =>
    rw [heq] at hlt
    split
    · split
      · exact yields_exponentPart negative hlt _ _
      · exact yields_ofParts negative hlt _ _
    · exact yields_ofParts negative hlt _ _

theorem isFinite_negate_ofNat {n : ℕ} (h : n < UInt64.size) :
    (Double.ofNat n).negate.isFinite = true := by
  rw [Double.ofNat_eq_nearest, Double.negate_nearest false (Nat.cast_nonneg n)]
  exact (Double.isFinite_nearest_iff _ (Nat.cast_nonneg n)).mpr (natCast_lt_overflow h)

theorem isFinite_integer (negative : Bool) {significand : ℕ} (h : significand < UInt64.size) :
    (integer negative significand).IsFinite := by
  unfold integer
  split
  · exact isFinite_ofNat (UInt64.toNat_lt_size _)
  split
  · exact isFinite_negate_ofNat h
  · exact isFinite_negate_ofNat (UInt64.toNat_lt_size _)

theorem yields_afterWhole (negative : Bool) {significand : ℕ} (h : significand < UInt64.size)
    (long : ℕ) (bs : List UInt8) :
    Yields Number.IsFinite (afterWhole negative significand long bs) := by
  unfold afterWhole
  split
  · exact yields_fractionPart negative h _ _
  · split
    · exact yields_exponentPart negative h _ _
    split
    · exact yields_ok _ (isFinite_integer negative h)
    · exact yields_ofParts negative h _ _
  · split
    · exact yields_ok _ (isFinite_integer negative h)
    · exact yields_ofParts negative h _ _

theorem yields_unsignedNumber (negative : Bool) (bs : List UInt8) :
    Yields Number.IsFinite (unsignedNumber negative bs) := by
  unfold unsignedNumber
  split
  · exact yields_error _
  next b r =>
    split
    · exact yields_error _
    · split
      · split
        · exact yields_error _
        · exact yields_afterWhole negative (by decide) _ _
      · exact yields_afterWhole negative (by decide) _ _
    · have hlt := wholeDigits_lt (show 0 < UInt64.size by decide) (b :: r)
      split
      next significand long rest heq =>
      rw [heq] at hlt
      exact yields_afterWhole negative hlt _ _

/-! ## Values -/

variable {step : Step Json}

theorem yields_word {v : Json} (h : v.AllFinite) (ws bs : List UInt8) :
    Yields AllFinite (word v ws bs) := by
  fun_induction word v ws bs with
  | case1 => exact yields_ok _ h
  | case2 => exact yields_error _
  | case3 _ _ _ ih => exact ih
  | case4 => exact yields_error _

theorem yields_moreItems (hstep : ∀ bs, Yields AllFinite (step bs)) (fuel : ℕ) {acc : List Json}
    (hacc : ∀ v ∈ acc, v.AllFinite) (bs : List UInt8) :
    Yields (fun items => ∀ v ∈ items, AllFinite v) (moreItems step fuel acc bs) := by
  induction fuel generalizing acc bs with
  | zero => exact yields_error _
  | succ fuel ih =>
      unfold moreItems
      split
      · exact yields_error _
      split
      · exact yields_ok _ fun v hv => hacc v (List.mem_reverse.mp hv)
      split
      · split
        · exact yields_error _
        split
        · exact yields_error _
        · exact (hstep _).bind fun v rest hv => ih (List.forall_mem_cons.mpr ⟨hv, hacc⟩) rest
      · exact yields_error _

theorem yields_items (hstep : ∀ bs, Yields AllFinite (step bs)) (bs : List UInt8) :
    Yields (fun items => ∀ v ∈ items, AllFinite v) (items step bs) := by
  unfold items
  split
  · exact yields_error _
  split
  · exact yields_ok _ (List.forall_mem_nil _)
  · exact (hstep _).bind fun v rest hv =>
      yields_moreItems hstep _ (List.forall_mem_singleton.mpr hv) rest

theorem yields_member (hstep : ∀ bs, Yields AllFinite (step bs)) (bs : List UInt8) :
    Yields (fun m => AllFinite m.2) (member step bs) := by
  unfold member
  refine Yields.bind (P := fun _ => True) (fun _ _ _ => trivial) fun key rest _ => ?_
  dsimp only
  split
  · exact yields_error _
  split
  · exact (hstep _).bind fun v rest hv => yields_ok rest hv
  · exact yields_error _

theorem yields_moreMembers (hstep : ∀ bs, Yields AllFinite (step bs)) (fuel : ℕ) {acc : Members}
    (hacc : ∀ m ∈ acc, AllFinite m.2) (bs : List UInt8) :
    Yields (fun members => ∀ m ∈ members, AllFinite m.2) (moreMembers step fuel acc bs) := by
  induction fuel generalizing acc bs with
  | zero => exact yields_error _
  | succ fuel ih =>
      unfold moreMembers
      split
      · exact yields_error _
      split
      · exact yields_ok _ fun m hm => hacc m (List.mem_reverse.mp hm)
      split
      · split
        · exact yields_error _
        split
        · exact yields_error _
        split
        · exact (yields_member hstep _).bind fun m rest hm =>
            ih (List.forall_mem_cons.mpr ⟨hm, hacc⟩) rest
        · exact yields_error _
      · exact yields_error _

theorem yields_members (hstep : ∀ bs, Yields AllFinite (step bs)) (bs : List UInt8) :
    Yields (fun members => ∀ m ∈ members, AllFinite m.2) (members step bs) := by
  unfold members
  split
  · exact yields_error _
  split
  · exact yields_ok _ (List.forall_mem_nil _)
  split
  · exact (yields_member hstep _).bind fun m rest hm =>
      yields_moreMembers hstep _ (List.forall_mem_singleton.mpr hm) rest
  · exact yields_error _

theorem yields_value (depth : ℕ) (bs : List UInt8) : Yields AllFinite (value depth bs) := by
  induction depth using Nat.strong_induction_on generalizing bs with
  | h depth ih =>
    unfold value
    split
    · exact yields_error _
    split
    · exact yields_word .null _ _
    · exact yields_word (.boolean true) _ _
    · exact yields_word (.boolean false) _ _
    · exact Yields.bind (P := fun _ => True) (fun _ _ _ => trivial)
        fun s rest _ => yields_ok rest (.string s)
    · exact (yields_unsignedNumber true _).bind fun n rest hn => yields_ok rest (.number n hn)
    · -- An array uses one level of the nesting, and so does an object.
      split
      · exact yields_error _
      · next depth =>
        exact (yields_items (ih depth depth.lt_succ_self) _).bind fun items rest h =>
          yields_ok rest (.array items h)
    · split
      · exact yields_error _
      · next depth =>
        exact (yields_members (ih depth depth.lt_succ_self) _).bind fun members rest h =>
          yields_ok rest (.object members h)
    · split
      · exact (yields_unsignedNumber false _).bind fun n rest hn => yields_ok rest (.number n hn)
      · exact yields_error _

theorem allFinite_of_document {bs : List UInt8} {payload : Json} (h : document bs = .ok payload) :
    payload.AllFinite := by
  unfold document at h
  cases hvalue : value depthLimit bs with
  | error fault =>
      rw [hvalue] at h
      cases h
  | ok r =>
      rw [hvalue] at h
      dsimp only [bind, Except.bind] at h
      split at h
      · exact Except.ok.inj h ▸ yields_value depthLimit bs r.1 r.2 hvalue
      · cases h

/-- What a payload decodes to is finite throughout. -/
theorem allFinite_of_decode {bs : List UInt8} {payload : Json} (h : decode bs = .ok payload) :
    payload.AllFinite := by
  unfold decode at h
  split at h
  · next v hdocument => exact Except.ok.inj h ▸ allFinite_of_document hdocument
  · cases h

end Dashboard.Json
