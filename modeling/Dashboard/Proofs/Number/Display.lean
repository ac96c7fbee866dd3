import Dashboard.Display
import Dashboard.Proofs.Number.Value
import Dashboard.Proofs.Text.Numeral
import Dashboard.Proofs.Text.Pieces
import Mathlib.Algebra.Order.Floor.Semifield
import Mathlib.Data.Nat.Cast.Field

/-!
# What the text of a number says

The text of a finite number is the number taken to two places. `Written`
says what such a text looks like, place by place, and that reading it as a
decimal, without its commas, gives the rounded number and nothing else.

The text is put together from a number of hundredths. The grouping is a
recursion over the digits from the left that counts from the right, so what
it does is said by the length of its result (`length_groupThousands`): the
commas are then exactly where every fourth character from the right is.
-/

namespace Dashboard.Display

open Text (decimal numeral? digitChar)

/-! ## Reading a decimal -/

/-- The number that digits write, if there are any and nothing else. -/
def natural? (s : List Char) : Option ℕ := if s.isEmpty then none else numeral? 10 s

/-- The number that digits write, with more digits after a point or without. -/
def unsigned? (s : List Char) : Option ℚ :=
  match Text.cutAt (· == '.') s with
  | (whole, none) => (natural? whole).map Nat.cast
  | (whole, some rest) => do
    let n ← natural? whole
    let m ← natural? rest
    some (n + m / 10 ^ rest.length)

/-- The number that a decimal writes. -/
def reading? : List Char → Option ℚ
  | '-' :: s => (unsigned? s).map fun q => -q
  | s => unsigned? s

/-! ## The looks of a number -/

/-- A text without its commas. -/
def ungroup (s : List Char) : List Char := s.filter (· ≠ ',')

/-- A number taken to two places: to the nearest hundredth, and to the even
one of two that are equally near. -/
def RoundsTo (v r : ℚ) : Prop := ∃ n : ℤ, Number.Nearest (v * 100) n ∧ r = n / 100

/-- The digits of a natural number, with a comma between every three of them
counted from the right. -/
structure Grouped (n : ℕ) (s : List Char) : Prop where
  digits : natural? (ungroup s) = some n
  leading : s.head? = some '0' → s = ['0']
  first : s.head? ≠ some ','
  commas : ∀ i < s.length, s.reverse[i]? = some ',' ↔ i % 4 = 3

/-- The places of a number: none if it is whole, otherwise a point and one or
two digits that do not end in a zero. -/
structure Places (q : ℚ) (s : List Char) : Prop where
  whole : Int.fract q = 0 → s = []
  broken : Int.fract q ≠ 0 → ∃ digits, s = '.' :: digits ∧ (digits.length = 1 ∨ digits.length = 2) ∧
    (∀ c ∈ digits, c.isDigit = true) ∧ digits.getLast? ≠ some '0'

/-- The text of a number that has two places. -/
structure Written (r : ℚ) (s : List Char) : Prop where
  zero : r = 0 → s = ['0']
  parts : ∃ whole rest, s = (if r < 0 then ['-'] else []) ++ whole ++ rest ∧
    Grouped ⌊|r|⌋₊ whole ∧ Places |r| rest
  reads : reading? (ungroup s) = some r

theorem RoundsTo.unique {v r r' : ℚ} (h : RoundsTo v r) (h' : RoundsTo v r') : r = r' := by
  obtain ⟨n, hn, rfl⟩ := h
  obtain ⟨m, hm, rfl⟩ := h'
  rw [hn.unique hm]

/-! ## Grouping -/

section Grouping

variable {s : List Char}

theorem groupThousands_cons (c : Char) (r : List Char) :
    groupThousands (c :: r) =
      if r.length % 3 = 0 ∧ 0 < r.length then c :: ',' :: groupThousands r
      else c :: groupThousands r := by
  rw [groupThousands]
  congr 1
  cases r <;> simp

theorem length_groupThousands (s : List Char) :
    (groupThousands s).length = s.length + (s.length - 1) / 3 := by
  induction s with
  | nil => rfl
  | cons c r ih =>
      rw [groupThousands_cons]
      split <;> simp only [List.length_cons, ih] <;> omega

theorem head?_groupThousands (s : List Char) : (groupThousands s).head? = s.head? := by
  cases s with
  | nil => rfl
  | cons c r => rw [groupThousands_cons]; split <;> rfl

theorem ungroup_append (s t : List Char) : ungroup (s ++ t) = ungroup s ++ ungroup t :=
  List.filter_append ..

theorem ungroup_of_not_mem (h : ',' ∉ s) : ungroup s = s := by
  rw [ungroup, List.filter_eq_self]
  rintro c hc
  rw [decide_eq_true_eq]
  rintro rfl
  exact h hc

theorem ungroup_groupThousands (h : ',' ∉ s) : ungroup (groupThousands s) = s := by
  induction s with
  | nil => rfl
  | cons c r ih =>
      obtain ⟨hc, hr⟩ : ',' ≠ c ∧ ',' ∉ r := by simpa using h
      rw [groupThousands_cons]
      split <;> simpa [ungroup, Ne.symm hc] using ih hr

theorem reverse_groupThousands (h : ',' ∉ s) :
    ∀ i < (groupThousands s).length, (groupThousands s).reverse[i]? = some ',' ↔ i % 4 = 3 := by
  induction s with
  | nil => intro i hi; cases hi
  | cons c r ih =>
      obtain ⟨hc, hr⟩ : ',' ≠ c ∧ ',' ∉ r := by simpa using h
      have hlength := length_groupThousands r
      -- What is put in front comes last from the right, so only its own
      -- positions are new.
      rw [groupThousands_cons]
      split
      · next hgroup =>
          intro i hi
          simp only [List.length_cons] at hi
          rcases Nat.lt_or_ge i (groupThousands r).length with hlt | hge
          · rw [← ih hr i hlt]
            simp [List.getElem?_append, hlt]
          · rcases Nat.eq_or_lt_of_le hge with rfl | hgt
            · simp only [List.reverse_cons, List.append_assoc, List.singleton_append]
              rw [List.getElem?_append_right (by simp)]
              simp
              omega
            · obtain rfl : i = (groupThousands r).length + 1 := by omega
              rw [List.reverse_cons, List.getElem?_append_right (by simp)]
              simp [Ne.symm hc]
              omega
      · next hgroup =>
          intro i hi
          simp only [List.length_cons] at hi
          rcases Nat.lt_or_ge i (groupThousands r).length with hlt | hge
          · rw [← ih hr i hlt]
            simp [List.getElem?_append, hlt]
          · obtain rfl : i = (groupThousands r).length := by omega
            rw [List.reverse_cons, List.getElem?_append_right (by simp)]
            simp [Ne.symm hc]
            omega

end Grouping

theorem natural?_decimal (n : ℕ) : natural? (decimal n) = some n := by
  have hne : (decimal n).isEmpty = false := by
    rw [List.isEmpty_eq_false_iff]
    exact Text.decimal_ne_nil n
  rw [natural?, hne, if_neg (by simp), Text.numeral?_decimal]

theorem grouped_groupThousands (n : ℕ) : Grouped n (groupThousands (decimal n)) where
  digits := by
    rw [ungroup_groupThousands (Text.not_mem_decimal (by rfl)), natural?_decimal]
  leading h := by
    rw [head?_groupThousands] at h
    obtain rfl := Text.head?_decimal h
    rw [Text.decimal_of_lt (by decide)]
    rfl
  first := by
    rw [head?_groupThousands]
    exact fun h => Text.not_mem_decimal (by rfl) (List.mem_of_head? h)
  commas := reverse_groupThousands (Text.not_mem_decimal (by rfl))

/-! ## Places -/

theorem places_of_dvd {n : ℕ} (h : n % 100 = 0) : places n = [] := by
  simp only [places]
  rw [if_neg (by omega), if_neg (by omega)]

/-- The digits after the point, as a number over the power of ten of their
number, are the hundredths that are not whole. -/
theorem places_of_not_dvd {n : ℕ} (h : n % 100 ≠ 0) :
    ∃ digits m, places n = '.' :: digits ∧ (digits.length = 1 ∨ digits.length = 2) ∧
      (∀ c ∈ digits, c.isDigit = true) ∧ digits.getLast? ≠ some '0' ∧
      natural? digits = some m ∧ m * 100 = n % 100 * 10 ^ digits.length := by
  have htens : n / 10 % 10 < 10 := by omega
  have hones : n % 10 < 10 := by omega
  simp only [places]
  split
  · next hne =>
      refine ⟨_, n / 10 % 10 * 10 + n % 10, rfl, Or.inr rfl, ?_, ?_, ?_, ?_⟩
      · simp [Text.isDigit_digitChar _ htens, Text.isDigit_digitChar _ hones]
      · exact fun hlast => hne (Text.digitChar_eq_zero _ hones (Option.some.inj hlast))
      · have hone : numeral? 10 [digitChar (n / 10 % 10)] = some (n / 10 % 10) := by
          rw [← Text.decimal_of_lt htens, Text.numeral?_decimal]
        exact Text.numeral?_append_digit hone (Text.hexValue?_digitChar _ hones) hones
      · simp only [List.length_cons, List.length_nil]
        omega
  · next hzero =>
      have hne : n / 10 % 10 ≠ 0 := by omega
      rw [if_pos hne]
      refine ⟨_, n / 10 % 10, rfl, Or.inl rfl, ?_, ?_, ?_, ?_⟩
      · simp [Text.isDigit_digitChar _ htens]
      · exact fun hlast => hne (Text.digitChar_eq_zero _ htens (Option.some.inj hlast))
      · rw [← Text.decimal_of_lt htens, natural?_decimal]
      · simp only [List.length_cons, List.length_nil]
        omega

theorem fract_div_hundred (n : ℕ) : Int.fract ((n : ℚ) / 100) = (n % 100 : ℕ) / 100 := by
  exact_mod_cast Int.fract_div_natCast_eq_div_natCast_mod (k := ℚ) (m := n) (n := 100)

theorem places_places (n : ℕ) : Places ((n : ℚ) / 100) (places n) where
  whole h := by
    rw [fract_div_hundred, div_eq_zero_iff, or_iff_left (by norm_num)] at h
    exact places_of_dvd (by exact_mod_cast h)
  broken h := by
    rw [fract_div_hundred, Ne, div_eq_zero_iff, or_iff_left (by norm_num)] at h
    obtain ⟨digits, m, heq, hlength, hdigits, hlast, -⟩ :=
      places_of_not_dvd (n := n) (by exact_mod_cast h)
    exact ⟨digits, heq, hlength, hdigits, hlast⟩

/-! ## Reading back -/

theorem unsigned?_decimal (n : ℕ) :
    unsigned? (decimal (n / 100) ++ places n) = some ((n : ℚ) / 100) := by
  have hpoint : ∀ c ∈ decimal (n / 100), (c == '.') = false := by
    intro c hc
    rw [beq_eq_false_iff_ne]
    rintro rfl
    exact Text.not_mem_decimal (by rfl) hc
  have hsplit : n = n / 100 * 100 + n % 100 := by omega
  by_cases h : n % 100 = 0
  · rw [places_of_dvd h, List.append_nil, unsigned?, Text.cutAt_of_forall hpoint]
    simp only [natural?_decimal]
    rw [Option.map_some, Nat.cast_div (Nat.dvd_of_mod_eq_zero h) (by norm_num)]
    rfl
  · obtain ⟨digits, m, heq, -, -, -, hm, hvalue⟩ := places_of_not_dvd h
    rw [heq, unsigned?, Text.cutAt_append_cons hpoint (by rfl)]
    simp only [natural?_decimal, hm, Option.bind_eq_bind, Option.bind_some, Option.some.injEq]
    have hvalue' : (m : ℚ) * 100 = (n % 100 : ℕ) * 10 ^ digits.length := by exact_mod_cast hvalue
    have hsplit' : (n : ℚ) = (n / 100 : ℕ) * 100 + (n % 100 : ℕ) := by exact_mod_cast hsplit
    rw [hsplit', eq_div_iff (by norm_num), add_mul, div_mul_eq_mul_div, hvalue',
      mul_div_assoc, div_self (by positivity), mul_one]

/-- The text of a natural number starts with a digit. -/
theorem reading?_decimal (n : ℕ) (s : List Char) :
    reading? (decimal n ++ s) = unsigned? (decimal n ++ s) := by
  cases hd : decimal n with
  | nil => exact absurd hd (Text.decimal_ne_nil n)
  | cons c r =>
      have hsign : c ≠ '-' := by
        rintro rfl
        exact Text.not_mem_decimal (by rfl) (hd ▸ List.mem_cons_self)
      rw [List.cons_append, reading?]
      rintro t ht
      exact hsign (List.cons.inj ht).1

theorem not_mem_places {c : Char} (hdigit : c.isDigit = false) (hpoint : c ≠ '.') (n : ℕ) :
    c ∉ places n := by
  by_cases h : n % 100 = 0
  · rw [places_of_dvd h]
    exact List.not_mem_nil
  · obtain ⟨digits, m, heq, -, hdigits, -⟩ := places_of_not_dvd h
    rw [heq, List.mem_cons, not_or]
    refine ⟨hpoint, fun hmem => ?_⟩
    rw [hdigits c hmem] at hdigit
    cases hdigit

/-! ## A sign and a number of hundredths -/

/-- The number that a sign and a number of hundredths make. -/
def signed (negative : Bool) (n : ℕ) : ℚ := (if negative then -1 else 1) * (n / 100)

section Signed

variable (negative : Bool) (n : ℕ)

theorem abs_signed : |signed negative n| = n / 100 := by
  rw [signed, abs_mul, abs_of_nonneg (by positivity : (0 : ℚ) ≤ n / 100)]
  cases negative <;> simp

theorem signed_eq_zero : signed negative n = 0 ↔ n = 0 := by
  rw [← abs_eq_zero, abs_signed, div_eq_zero_iff, or_iff_left (by norm_num), Nat.cast_eq_zero]

/-- Zero has no sign, so the sign counts only with hundredths. -/
theorem signed_eq :
    signed negative n = if (negative && n != 0) = true then -((n : ℚ) / 100) else n / 100 := by
  rcases Nat.eq_zero_or_pos n with rfl | hpos
  · simp [signed]
  · cases negative <;> simp [signed, Nat.ne_of_gt hpos]

theorem signed_neg_iff : signed negative n < 0 ↔ (negative && n != 0) = true := by
  have hnonneg : (0 : ℚ) ≤ n / 100 := by positivity
  constructor
  · intro h
    by_contra hplain
    rw [signed_eq, if_neg hplain] at h
    linarith
  · intro h
    have hne : signed negative n ≠ 0 := by
      rw [Ne, signed_eq_zero]
      simpa using (Bool.and_eq_true_iff.mp h).2
    refine lt_of_le_of_ne ?_ hne
    rw [signed_eq, if_pos h]
    linarith

theorem roundsTo_hundredths (x : Double) :
    RoundsTo x.value (signed x.isNegative (hundredths x)) := by
  have hnear : Number.Nearest (|x.value| * 100) (hundredths x : ℕ) := by
    have h : Number.Nearest ((x.magnitude.1 * 100 : ℕ) / x.magnitude.2) (hundredths x : ℕ) :=
      Number.nearest_roundDiv x.magnitude_pos
    rw [Nat.cast_mul, mul_div_right_comm, x.magnitude_div] at h
    exact h
  have hvalue := x.value_eq
  cases hsign : x.isNegative with
  | false =>
      refine ⟨hundredths x, ?_, by simp [signed]⟩
      rw [hvalue, hsign]
      simpa using hnear
  | true =>
      refine ⟨-hundredths x, ?_, by simp [signed, neg_div]⟩
      rw [hvalue, hsign]
      simpa using hnear.neg

theorem ungroup_fixed : ungroup (fixed negative n) =
    (if negative && n != 0 then ['-'] else []) ++ (decimal (n / 100) ++ places n) := by
  have hsign : ',' ∉ (if negative && n != 0 then ['-'] else []) := by split <;> decide
  rw [fixed, List.append_assoc, ungroup_append, ungroup_append, ungroup_of_not_mem hsign,
    ungroup_groupThousands (Text.not_mem_decimal (by rfl)),
    ungroup_of_not_mem (not_mem_places (by rfl) (by decide) n)]

theorem not_mem_fixed {c : Char} (hdigit : c.isDigit = false) (hmarks : c ∉ ['-', ',', '.']) :
    c ∉ fixed negative n := by
  simp only [List.mem_cons, List.not_mem_nil, or_false, not_or] at hmarks
  intro hmem
  have hplain : c ∈ ungroup (fixed negative n) :=
    List.mem_filter.mpr ⟨hmem, decide_eq_true hmarks.2.1⟩
  rw [ungroup_fixed, List.mem_append, List.mem_append] at hplain
  rcases hplain with hsign | hwhole | hplaces
  · split at hsign
    · exact hmarks.1 (List.mem_singleton.mp hsign)
    · exact List.not_mem_nil hsign
  · exact Text.not_mem_decimal hdigit hwhole
  · exact not_mem_places hdigit hmarks.2.2 n hplaces

theorem reading?_fixed : reading? (ungroup (fixed negative n)) = some (signed negative n) := by
  rw [ungroup_fixed, signed_eq]
  split
  · show (unsigned? (decimal (n / 100) ++ places n)).map (fun q => -q) = _
    rw [unsigned?_decimal]
    rfl
  · rw [List.nil_append, reading?_decimal, unsigned?_decimal]

theorem written_fixed : Written (signed negative n) (fixed negative n) where
  zero h := by
    obtain rfl := (signed_eq_zero negative n).mp h
    rw [fixed, Text.decimal_of_lt (by decide)]
    cases negative <;> rfl
  parts := by
    have hfloor : ⌊(n : ℚ) / 100⌋₊ = n / 100 := by
      exact_mod_cast Nat.floor_div_eq_div (K := ℚ) n 100
    refine ⟨groupThousands (decimal (n / 100)), places n, ?_, ?_, ?_⟩
    · simp only [fixed, signed_neg_iff]
    · rw [abs_signed, hfloor]
      exact grouped_groupThousands _
    · rw [abs_signed]
      exact places_places n
  reads := reading?_fixed negative n

end Signed

/-! ## The text of a number -/

theorem finite_written (x : Double) :
    ∃ r, RoundsTo x.value r ∧ Written r (finite x).toList :=
  ⟨_, roundsTo_hundredths x, by rw [finite, String.toList_ofList]; exact written_fixed _ _⟩

theorem finite_ne_unavailable (x : Double) : finite x ≠ unavailable := by
  intro h
  obtain ⟨r, -, hr⟩ := finite_written x
  have hread := hr.reads
  rw [h] at hread
  cases hread

/-- The dashes stand for a number that is absent or not finite, and for no
other. A finite one has the text of its value taken to two places, and a unit
follows after one space. -/
theorem number_written (v : Option Double) (unit : String) :
    (number v = "--" ↔
      v = none ∨ ∃ x, v = some x ∧ (x.isNaN = true ∨ ∃ negative, x = Double.infinity negative)) ∧
    (∀ x, v = some x → x.isFinite = true →
      (∃ r, RoundsTo x.value r ∧ (∀ r', RoundsTo x.value r' → r' = r) ∧
        Written r (number v).toList) ∧
      withUnit v unit = number v ++ " " ++ unit) ∧
    ((∀ x, v = some x → x.isFinite = false) → withUnit v unit = "--") := by
  refine ⟨?_, ?_, ?_⟩
  · cases v with
    | none => simp [number, unavailable]
    | some x =>
        cases hx : x.isFinite with
        | false => simpa [number, hx, unavailable] using Double.isFinite_eq_false_iff.mp hx
        | true =>
            rw [number, if_pos hx]
            refine iff_of_false (finite_ne_unavailable x) ?_
            rintro (h | ⟨y, h, hbad⟩)
            · cases h
            · obtain rfl := Option.some.inj h
              rw [Double.isFinite_eq_false_iff.mpr hbad] at hx
              cases hx
  · rintro x rfl hx
    obtain ⟨r, hr, hwritten⟩ := finite_written x
    have htext : number (some x) = finite x := by rw [number, if_pos hx]
    refine ⟨⟨r, hr, fun r' hr' => hr'.unique hr, htext ▸ hwritten⟩, ?_⟩
    rw [withUnit, if_pos hx, htext]
  · intro h
    cases v with
    | none => rfl
    | some x => rw [withUnit, h x rfl, if_neg (by simp)]; rfl

/-- A value halfway between two hundredths, the even one being nearer to zero. -/
theorem number_written_of_tie :
    RoundsTo (Double.value ⟨13921425274001424384⟩) (-123456712 / 100) ∧
      withUnit (some ⟨13921425274001424384⟩) "MB/s" = "-1,234,567.12 MB/s" := by
  have htext : number (some ⟨13921425274001424384⟩) = String.ofList (fixed true 123456712) := by
    rfl
  have hshown : String.ofList (fixed true 123456712) = "-1,234,567.12" := by
    simp [fixed, Text.decimal, groupThousands, places, Text.digitChar]
  obtain ⟨⟨r, hr, -, hwritten⟩, hunit⟩ :=
    (number_written (some ⟨13921425274001424384⟩) "MB/s").2.1 _ rfl (by decide)
  have hread := hwritten.reads
  rw [htext, String.toList_ofList, reading?_fixed, Option.some.injEq] at hread
  rw [← hread, signed] at hr
  refine ⟨?_, ?_⟩
  · norm_num at hr ⊢
    exact hr
  · rw [hunit, htext, hshown]
    rfl

end Dashboard.Display
