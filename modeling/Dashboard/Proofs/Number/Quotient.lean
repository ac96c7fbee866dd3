import Dashboard.Proofs.Number.Value
import Mathlib.Algebra.Order.Field.Power
import Mathlib.Tactic.NormNum

/-!
# The double nearest to a rational number

A rational number that is not negative is at one scale only where doubles have
fifty-three bits for it, or at the least scale there is (`IsScale`), and at that
scale one integer is nearest to it. So what a double is rounded to depends on
the number alone and not on the quotient that it was given as, and `nearest`
says it of the number (`ofRatio_eq_nearest`). Products, quotients and decimals
are then one rounding each of the number that they are.

Three facts are used of `nearest`. It is finite below the point halfway to the
double that would come after the greatest one (`isFinite_nearest_iff`), it is
half a unit of the last bit away at most (`near_nearest`), and it gives back
every number that is a double (`nearest_value`, `abs_value_nearest_of_eq`).
-/

namespace Dashboard

namespace Number.Nearest

variable {q : ℚ} {n k : ℤ}

theorem le_of_le (h : Nearest q n) (hq : q ≤ k) : n ≤ k := by
  by_contra hlt
  have hlt' : (k : ℚ) + 1 ≤ n := by exact_mod_cast Int.not_le.mp hlt
  have hnear := h.near k
  rw [abs_sub_comm, abs_of_nonneg (by linarith), abs_sub_comm, abs_of_nonneg (by linarith)] at hnear
  linarith

theorem le_of_ge (h : Nearest q n) (hq : k ≤ q) : k ≤ n := by
  have hneg := h.neg.le_of_le (k := -k) (by push_cast; linarith)
  omega

/-- An integer is nearest to itself. -/
theorem eq_of_intCast (h : Nearest (k : ℚ) n) : n = k :=
  le_antisymm (h.le_of_le le_rfl) (h.le_of_ge le_rfl)

theorem within_half (h : Nearest q n) : |q - n| ≤ 1 / 2 := by
  have hfloor := h.near ⌊q⌋
  have hceil := h.near (⌊q⌋ + 1)
  have hle := Int.floor_le q
  have hlt := Int.lt_floor_add_one q
  push_cast at hceil
  rw [abs_of_nonneg (by linarith : 0 ≤ q - ⌊q⌋)] at hfloor
  rw [abs_sub_comm q (⌊q⌋ + 1), abs_of_nonneg (by linarith : 0 ≤ (⌊q⌋ : ℚ) + 1 - q)] at hceil
  linarith

/-- The number halfway below an even integer is rounded up to it. -/
theorem lt_iff (h : Nearest q n) (hk : Even k) : n < k ↔ q < k - 1 / 2 := by
  obtain ⟨hlow, hhigh⟩ := abs_le.mp h.within_half
  constructor
  · intro hlt
    have hle : (n : ℚ) ≤ k - 1 := by exact_mod_cast Int.le_sub_one_of_lt hlt
    refine lt_of_le_of_ne (by linarith) fun heq => ?_
    have hsame : n = k - 1 := by
      refine le_antisymm (by omega) ?_
      have : (k : ℚ) - 1 ≤ n := by linarith
      exact_mod_cast this
    have heven := h.even k (by omega) (by rw [hsame, heq]; push_cast; ring_nf; norm_num)
    rw [hsame, Int.even_sub_one] at heven
    exact heven hk
  · intro hlt
    have : (n : ℚ) < k := by linarith
    exact_mod_cast this

end Number.Nearest

namespace Double

open Number (Nearest timesPowerOfTwo roundDiv)

variable {q : ℚ} {s t : ℤ} {m n : ℕ} {negative : Bool}

/-! ## Scales -/

/-- The scale at which a number has a significand of fifty-three bits, or the
least scale there is. -/
structure IsScale (q : ℚ) (s : ℤ) : Prop where
  least : -1074 ≤ s
  below : q < 2 ^ (s + 53)
  above : s = -1074 ∨ 2 ^ (s + 52) ≤ q

theorem IsScale.le (hs : IsScale q s) (ht : IsScale q t) : t ≤ s := by
  by_contra hlt
  have hle : s + 53 ≤ t + 52 := by omega
  have habove : (2 : ℚ) ^ (t + 52) ≤ q := by
    rcases ht.above with h | h
    · have := hs.least
      omega
    · exact h
  have hpow : (2 : ℚ) ^ (s + 53) ≤ 2 ^ (t + 52) := zpow_le_zpow_right₀ (by norm_num) hle
  exact absurd hs.below (not_lt.mpr (hpow.trans habove))

theorem IsScale.unique (hs : IsScale q s) (ht : IsScale q t) : s = t :=
  le_antisymm (ht.le hs) (hs.le ht)

theorem two_pow_log2_le (h : n ≠ 0) : (2 : ℚ) ^ (n.log2 : ℤ) ≤ n := by
  rw [zpow_natCast]
  exact_mod_cast Nat.log2_self_le h

theorem lt_two_pow_log2_succ (n : ℕ) : (n : ℚ) < 2 ^ ((n.log2 : ℤ) + 1) := by
  rw [← Nat.cast_succ, zpow_natCast]
  exact_mod_cast Nat.lt_log2_self

/-- The lengths of two numbers tell their quotient up to a factor of four. -/
theorem quotient_between {num den : ℕ} (hnum : num ≠ 0) (hden : den ≠ 0) :
    (2 : ℚ) ^ ((num.log2 : ℤ) - den.log2 - 1) < num / den ∧
      (num : ℚ) / den < 2 ^ ((num.log2 : ℤ) - den.log2 + 1) := by
  have htwo : (2 : ℚ) ≠ 0 := by norm_num
  have hpos : (0 : ℚ) < den := by exact_mod_cast Nat.pos_of_ne_zero hden
  constructor
  · rw [lt_div_iff₀ hpos]
    calc (2 : ℚ) ^ ((num.log2 : ℤ) - den.log2 - 1) * den
        < 2 ^ ((num.log2 : ℤ) - den.log2 - 1) * 2 ^ ((den.log2 : ℤ) + 1) :=
          mul_lt_mul_of_pos_left (lt_two_pow_log2_succ den) (by positivity)
      _ = 2 ^ (num.log2 : ℤ) := by rw [← zpow_add₀ htwo]; congr 1; ring
      _ ≤ num := two_pow_log2_le hnum
  · rw [div_lt_iff₀ hpos]
    calc (num : ℚ) < 2 ^ ((num.log2 : ℤ) + 1) := lt_two_pow_log2_succ num
      _ = 2 ^ ((num.log2 : ℤ) - den.log2 + 1) * 2 ^ (den.log2 : ℤ) := by
          rw [← zpow_add₀ htwo]; congr 1; ring
      _ ≤ 2 ^ ((num.log2 : ℤ) - den.log2 + 1) * den :=
          mul_le_mul_of_nonneg_left (two_pow_log2_le hden) (by positivity)

theorem isScale_scaleOf {num den : ℕ} (hnum : num ≠ 0) (hden : den ≠ 0) :
    IsScale ((num : ℚ) / den) (scaleOf num den) := by
  obtain ⟨hlow, hhigh⟩ := quotient_between hnum hden
  have htwo : (2 : ℚ) ≠ 0 := by norm_num
  have hone : (1 : ℚ) ≤ 2 := by norm_num
  obtain ⟨low, hdef⟩ : ∃ low : ℤ, low = (num.log2 : ℤ) - den.log2 - 53 := ⟨_, rfl⟩
  have hpos : 0 < (timesPowerOfTwo num den (-low)).2 :=
    Number.timesPowerOfTwo_pos (Nat.pos_of_ne_zero hden) (-low)
  have hdiv := Number.timesPowerOfTwo_div num den (-low)
  obtain ⟨chosen, hchosen⟩ : ∃ chosen : ℤ,
      chosen = if Nat.pow 2 53 * (timesPowerOfTwo num den (-low)).2 ≤
        (timesPowerOfTwo num den (-low)).1 then low + 1 else low := ⟨_, rfl⟩
  have hscale : scaleOf num den = max (-1074) chosen := by
    rw [hchosen, hdef, scaleOf]
  -- Which of the two scales is taken says on which side of a power of two the quotient is.
  have hcond : Nat.pow 2 53 * (timesPowerOfTwo num den (-low)).2 ≤
      (timesPowerOfTwo num den (-low)).1 ↔ (2 : ℚ) ^ (low + 53) ≤ num / den := by
    have hpos' : (0 : ℚ) < (timesPowerOfTwo num den (-low)).2 := by exact_mod_cast hpos
    rw [← Nat.cast_le (α := ℚ), Nat.cast_mul, ← le_div_iff₀ hpos', hdiv, Nat.pow_eq,
      zpow_neg, ← div_eq_mul_inv, le_div_iff₀ (by positivity), zpow_add₀ htwo, mul_comm]
    norm_num
  have hbetween : (2 : ℚ) ^ (chosen + 52) ≤ num / den ∧ (num : ℚ) / den < 2 ^ (chosen + 53) := by
    rw [hchosen]
    split
    · next h =>
        refine ⟨?_, hhigh.trans_le (zpow_le_zpow_right₀ hone (by omega))⟩
        rw [show low + 1 + 52 = low + 53 by ring]
        exact hcond.mp h
    · next h =>
        refine ⟨(zpow_le_zpow_right₀ hone (by omega)).trans hlow.le, ?_⟩
        exact not_le.mp fun hle => h (hcond.mpr hle)
  rw [hscale]
  refine ⟨le_max_left _ _, ?_, ?_⟩
  · exact hbetween.2.trans_le (zpow_le_zpow_right₀ hone (by omega))
  · rcases le_total chosen (-1074) with h | h
    · exact Or.inl (max_eq_left h)
    · rw [max_eq_right h]
      exact Or.inr hbetween.1

/-! ## Bits -/

/-- The fields of a double make up its bits. -/
theorem eq_ofSign (x : Double) :
    x = ofSign x.isNegative (x.exponentField * Nat.pow 2 52 + x.fractionField) := by
  have hpow : Nat.pow 2 52 = 4503599627370496 ∧ Nat.pow 2 11 = 2048 ∧
      Nat.pow 2 63 = 9223372036854775808 := by decide
  have hword : x.word < 18446744073709551616 := x.bits.toNat_lt
  refine eq_of_word ?_
  cases hsign : x.isNegative with
  | true =>
      have hle : Nat.pow 2 63 ≤ x.word := of_decide_eq_true hsign
      simp only [exponentField, fractionField, hpow, if_true] at hle ⊢
      omega
  | false =>
      have hlt : ¬ Nat.pow 2 63 ≤ x.word := of_decide_eq_false hsign
      simp only [exponentField, fractionField, hpow, Bool.false_eq_true, if_false] at hlt ⊢
      omega

theorem word_ofSign (negative : Bool) {low : ℕ} (h : low < Nat.pow 2 63) :
    (ofSign negative low).word = (if negative then Nat.pow 2 63 else 0) + low := by
  have hpow : Nat.pow 2 63 = 9223372036854775808 := by decide
  refine UInt64.toNat_ofNat_of_lt' ?_
  simp only [hpow, UInt64.size] at h ⊢
  split <;> omega

/-- The fields are read off the bits below the sign. -/
theorem fields_ofSign (negative : Bool) {low : ℕ} (h : low < Nat.pow 2 63) :
    (ofSign negative low).isNegative = negative ∧
      (ofSign negative low).exponentField = low / Nat.pow 2 52 ∧
      (ofSign negative low).fractionField = low % Nat.pow 2 52 := by
  have hpow : Nat.pow 2 52 = 4503599627370496 ∧ Nat.pow 2 11 = 2048 ∧
      Nat.pow 2 63 = 9223372036854775808 := by decide
  have hword := word_ofSign negative h
  simp only [hpow] at h hword
  cases negative with
  | true =>
      simp only [isNegative, exponentField, fractionField, hpow, hword, if_true]
      refine ⟨decide_eq_true (by omega), by omega, by omega⟩
  | false =>
      simp only [isNegative, exponentField, fractionField, hpow, hword, Bool.false_eq_true,
        if_false]
      refine ⟨decide_eq_false (by omega), by omega, by omega⟩

/-- The bits below the sign of the double that is `m` at a scale. -/
def lowBits (s : ℤ) (m : ℕ) : ℕ := (s + 1074).toNat * Nat.pow 2 52 + m

/-- A significand of at most 2^53 at a scale; it is less than 2^52 at the
least scale only. -/
structure Significand (s : ℤ) (m : ℕ) : Prop where
  least : -1074 ≤ s
  le : m ≤ Nat.pow 2 53
  full : s = -1074 ∨ Nat.pow 2 52 ≤ m

theorem abs_value (x : Double) : |x.value| = x.significand * 2 ^ x.scale := by
  rw [← magnitude_div, magnitude, Number.timesPowerOfTwo_div, Nat.cast_one, div_one]

/-- A significand at a scale is what its bits say, also where it has come to
2^53 and the bits are those of the next scale. -/
theorem abs_value_ofSign (h : Significand s m) (hlow : lowBits s m < 2047 * Nat.pow 2 52) :
    |(ofSign negative (lowBits s m)).value| = m * 2 ^ s := by
  have hpow : Nat.pow 2 52 = 4503599627370496 ∧ Nat.pow 2 53 = 9007199254740992 ∧
      Nat.pow 2 63 = 9223372036854775808 := by decide
  obtain ⟨k, hk⟩ := Int.eq_ofNat_of_zero_le (show 0 ≤ s + 1074 by have := h.least; omega)
  obtain rfl : s = k - 1074 := by omega
  have hlt : lowBits (k - 1074) m < Nat.pow 2 63 := by
    simp only [hpow] at hlow ⊢
    omega
  obtain ⟨-, hexponent, hfraction⟩ := fields_ofSign negative hlt
  have hle := h.le
  have hfull := h.full
  have hlowBits : lowBits (k - 1074) m = k * 4503599627370496 + m := by
    simp only [lowBits, hpow, Int.sub_add_cancel, Int.toNat_natCast]
  simp only [hlowBits, hpow] at hexponent hfraction hle hfull
  rw [abs_value, significand, scale, hlowBits, hexponent, hfraction, hpow.1]
  rcases Nat.lt_or_ge m 4503599627370496 with hsmall | hlarge
  · obtain rfl : k = 0 := by omega
    rw [if_pos (by omega), show (0 * 4503599627370496 + m) % 4503599627370496 = m by omega,
      show (0 * 4503599627370496 + m) / 4503599627370496 = 0 by omega]
    norm_num
  rcases Nat.lt_or_eq_of_le hle with hbelow | rfl
  · have hquotient : (k * 4503599627370496 + m) / 4503599627370496 = k + 1 := by omega
    rw [hquotient, if_neg (by omega), show 4503599627370496 +
      (k * 4503599627370496 + m) % 4503599627370496 = m by omega, Nat.max_eq_left (by omega)]
    congr 2
    push_cast
    ring
  · have hquotient : (k * 4503599627370496 + 9007199254740992) / 4503599627370496 = k + 2 := by
      omega
    rw [hquotient, if_neg (by omega), show 4503599627370496 + (k * 4503599627370496 +
      9007199254740992) % 4503599627370496 = 4503599627370496 by omega, Nat.max_eq_left (by omega),
      show (((k + 2 : ℕ) : ℤ) - 1075) = (k - 1074) + 1 by push_cast; ring,
      zpow_add₀ (by norm_num)]
    push_cast
    ring

/-! ## The nearest double -/

/-- A number rounded at its scale. -/
structure Rounded (q : ℚ) (s : ℤ) (m : ℕ) : Prop where
  scale : IsScale q s
  nearest : Nearest (q / 2 ^ s) m

theorem Rounded.unique (h : Rounded q s m) (h' : Rounded q t n) : s = t ∧ m = n := by
  obtain rfl := h.scale.unique h'.scale
  have hsame := h.nearest.unique h'.nearest
  exact ⟨rfl, by exact_mod_cast hsame⟩

theorem Rounded.significand (h : Rounded q s m) : Significand s m := by
  have htwo : (2 : ℚ) ≠ 0 := by norm_num
  have hbelow : q / 2 ^ s ≤ ((Nat.pow 2 53 : ℕ) : ℤ) := by
    rw [div_le_iff₀ (by positivity)]
    refine h.scale.below.le.trans (le_of_eq ?_)
    rw [zpow_add₀ htwo, mul_comm]
    norm_num
  refine ⟨h.scale.least, by exact_mod_cast h.nearest.le_of_le hbelow, h.scale.above.imp_right ?_⟩
  intro habove
  have habove' : (((Nat.pow 2 52 : ℕ) : ℤ) : ℚ) ≤ q / 2 ^ s := by
    rw [le_div_iff₀ (by positivity)]
    refine le_trans (le_of_eq ?_) habove
    rw [zpow_add₀ htwo, mul_comm]
    norm_num
  exact_mod_cast h.nearest.le_of_ge habove'

/-- The double of a rounded number, infinite where the bits run over. -/
def ofRounded (negative : Bool) (s : ℤ) (m : ℕ) : Double :=
  ofSign negative (min (lowBits s m) (2047 * Nat.pow 2 52))

theorem exists_rounded {num den : ℕ} (hnum : num ≠ 0) (hden : den ≠ 0) :
    ∃ s m, Rounded ((num : ℚ) / den) s m ∧
      ∀ negative, ofRatio negative num den = ofRounded negative s m := by
  have hpos : 0 < (timesPowerOfTwo num den (-scaleOf num den)).2 :=
    Number.timesPowerOfTwo_pos (Nat.pos_of_ne_zero hden) (-scaleOf num den)
  have hnear : Nearest (((timesPowerOfTwo num den (-scaleOf num den)).1 : ℚ) /
      (timesPowerOfTwo num den (-scaleOf num den)).2) _ := Number.nearest_roundDiv hpos
  rw [Number.timesPowerOfTwo_div, zpow_neg, ← div_eq_mul_inv] at hnear
  refine ⟨_, _, ⟨isScale_scaleOf hnum hden, hnear⟩, fun negative => ?_⟩
  rw [ofRatio, if_neg hnum]
  rfl

/-- The double nearest to a number that is not negative, with a sign. -/
def nearest (negative : Bool) (q : ℚ) : Double := ofRatio negative q.num.toNat q.den

theorem nearest_zero (negative : Bool) : nearest negative 0 = zero negative := rfl

theorem nearest_of_rounded (hq : 0 < q) (h : Rounded q s m) :
    nearest negative q = ofRounded negative s m := by
  have hnum : 0 < q.num := Rat.num_pos.mpr hq
  obtain ⟨t, n, hrounded, heq⟩ := exists_rounded (show q.num.toNat ≠ 0 by omega) q.den_nz
  have hsame : (q.num.toNat : ℚ) / q.den = q := by
    rw [← Int.cast_natCast, Int.toNat_of_nonneg hnum.le]
    exact Rat.num_div_den q
  rw [hsame] at hrounded
  obtain ⟨rfl, rfl⟩ := hrounded.unique h
  exact heq negative

theorem ofRatio_eq_nearest (negative : Bool) (num : ℕ) {den : ℕ} (hden : den ≠ 0) :
    ofRatio negative num den = nearest negative ((num : ℚ) / den) := by
  by_cases hnum : num = 0
  · subst hnum
    rw [Nat.cast_zero, zero_div, nearest_zero, ofRatio, if_pos rfl]
  · obtain ⟨s, m, hrounded, heq⟩ := exists_rounded hnum hden
    have hq : (0 : ℚ) < num / den :=
      div_pos (by exact_mod_cast Nat.pos_of_ne_zero hnum)
        (by exact_mod_cast Nat.pos_of_ne_zero hden)
    rw [heq negative, nearest_of_rounded hq hrounded]

theorem exists_rounded_of_pos (hq : 0 < q) : ∃ s m, Rounded q s m := by
  have hnum : 0 < q.num := Rat.num_pos.mpr hq
  obtain ⟨s, m, h, -⟩ := exists_rounded (show q.num.toNat ≠ 0 by omega) q.den_nz
  refine ⟨s, m, ?_⟩
  rwa [← Int.cast_natCast, Int.toNat_of_nonneg hnum.le, Rat.num_div_den] at h

theorem nearest_cases (negative : Bool) (hq : 0 ≤ q) :
    (q = 0 ∧ nearest negative q = zero negative) ∨
      ∃ s m, Rounded q s m ∧ nearest negative q = ofRounded negative s m := by
  rcases hq.eq_or_lt with rfl | hpos
  · exact Or.inl ⟨rfl, nearest_zero negative⟩
  · obtain ⟨s, m, h⟩ := exists_rounded_of_pos hpos
    exact Or.inr ⟨s, m, h, nearest_of_rounded hpos h⟩

theorem isNegative_nearest (negative : Bool) (hq : 0 ≤ q) :
    (nearest negative q).isNegative = negative := by
  rcases nearest_cases negative hq with ⟨-, h⟩ | ⟨s, m, -, h⟩
  · rw [h]
    exact (fields_ofSign negative (by decide)).1
  · rw [h]
    exact (fields_ofSign negative (lt_of_le_of_lt (min_le_right _ _) (by decide))).1

/-! ### Finite results -/

theorem isFinite_ofRounded_iff :
    (ofRounded negative s m).isFinite = true ↔ lowBits s m < 2047 * Nat.pow 2 52 := by
  have hpow : Nat.pow 2 52 = 4503599627370496 := by decide
  have hfield := (fields_ofSign negative
    (lt_of_le_of_lt (min_le_right (lowBits s m) (2047 * Nat.pow 2 52)) (by decide))).2.1
  rw [ofRounded, isFinite, decide_eq_true_eq, hfield, hpow]
  omega

/-- The number halfway between the greatest double and the one that would come
after it. -/
def overflow : ℚ := 2 ^ (1024 : ℤ) - 2 ^ (970 : ℤ)

theorem overflow_eq : overflow = (2 ^ 53 - 1 / 2) * 2 ^ (971 : ℤ) := by
  have htwo : (2 : ℚ) ≠ 0 := by norm_num
  rw [overflow, show (1024 : ℤ) = 54 + 970 by norm_num, show (971 : ℤ) = 1 + 970 by norm_num,
    zpow_add₀ htwo, zpow_add₀ htwo]
  ring

theorem two_pow_le_overflow : (2 : ℚ) ^ (1023 : ℤ) ≤ overflow := by
  rw [overflow_eq, show (1023 : ℤ) = 52 + 971 by norm_num, zpow_add₀ (by norm_num)]
  exact mul_le_mul_of_nonneg_right (by norm_num) (zpow_nonneg (by norm_num) _)

theorem overflow_le_two_pow : overflow ≤ (2 : ℚ) ^ (1024 : ℤ) :=
  sub_le_self _ (zpow_nonneg (by norm_num) _)

theorem lowBits_lt_iff (h : Rounded q s m) :
    lowBits s m < 2047 * Nat.pow 2 52 ↔ q < overflow := by
  have hpow : Nat.pow 2 52 = 4503599627370496 ∧ Nat.pow 2 53 = 9007199254740992 := by decide
  have hone : (1 : ℚ) ≤ 2 := by norm_num
  obtain ⟨hleast, hle, hfull⟩ := h.significand
  obtain ⟨k, hk⟩ := Int.eq_ofNat_of_zero_le (show 0 ≤ s + 1074 by omega)
  obtain rfl : s = k - 1074 := by omega
  simp only [lowBits, hpow, hk, Int.toNat_natCast] at hle hfull ⊢
  -- Only the last scale needs the rounded number itself.
  rcases lt_trichotomy k 2045 with hlt | rfl | hgt
  · refine iff_of_true (by omega) (h.scale.below.trans_le ?_)
    have hmono : (2 : ℚ) ^ ((k : ℤ) - 1074 + 53) ≤ 2 ^ (1023 : ℤ) :=
      zpow_le_zpow_right₀ hone (by omega)
    exact hmono.trans two_pow_le_overflow
  · have hiff := h.nearest.lt_iff (k := 9007199254740992) (by decide)
    rw [lt_sub_iff_add_lt, show ((2045 : ℕ) : ℤ) - 1074 = 971 by norm_num] at hiff
    have hscaled : q < overflow ↔ q / 2 ^ (971 : ℤ) + 1 / 2 < (9007199254740992 : ℤ) := by
      rw [overflow_eq, ← div_lt_iff₀ (zpow_pos (by norm_num) _), lt_sub_iff_add_lt]
      norm_num only
    rw [hscaled, ← hiff]
    omega
  · refine iff_of_false (by omega) (not_lt.mpr ?_)
    have habove : (2 : ℚ) ^ ((k : ℤ) - 1074 + 52) ≤ q := h.scale.above.resolve_left (by omega)
    have hmono : (2 : ℚ) ^ (1024 : ℤ) ≤ 2 ^ ((k : ℤ) - 1074 + 52) :=
      zpow_le_zpow_right₀ hone (by omega)
    exact overflow_le_two_pow.trans (hmono.trans habove)

theorem isFinite_nearest_iff (negative : Bool) (hq : 0 ≤ q) :
    (nearest negative q).isFinite = true ↔ q < overflow := by
  rcases nearest_cases negative hq with ⟨rfl, h⟩ | ⟨s, m, hrounded, h⟩
  · rw [h]
    refine iff_of_true (by cases negative <;> decide) (lt_of_lt_of_le ?_ two_pow_le_overflow)
    positivity
  · rw [h, isFinite_ofRounded_iff, lowBits_lt_iff hrounded]

/-! ### How near the result is -/

theorem abs_value_nearest (hq : 0 < q) (h : Rounded q s m) (hfinite : q < overflow) :
    |(nearest negative q).value| = m * 2 ^ s := by
  have hlow := (lowBits_lt_iff h).mpr hfinite
  rw [nearest_of_rounded hq h, ofRounded, min_eq_left hlow.le, abs_value_ofSign h.significand hlow]

theorem abs_value_zero (negative : Bool) : |(zero negative).value| = 0 := by
  have hsignificand : (zero negative).significand = 0 := by cases negative <;> decide
  rw [abs_value, hsignificand, Nat.cast_zero, zero_mul]

/-- One rounding changes a number by a 2^53rd part of it at most, or by half of
the least double where that is more. -/
theorem near_nearest (negative : Bool) (hq : 0 ≤ q) (hfinite : q < overflow) :
    |(|(nearest negative q).value| - q)| ≤ max (q * 2 ^ (-53 : ℤ)) (2 ^ (-1075 : ℤ)) := by
  have htwo : (2 : ℚ) ≠ 0 := by norm_num
  rcases hq.eq_or_lt with rfl | hpos
  · rw [nearest_zero, abs_value_zero, sub_zero, abs_zero]
    exact le_max_of_le_right (by positivity)
  obtain ⟨s, m, h⟩ := exists_rounded_of_pos hpos
  rw [abs_value_nearest hpos h hfinite]
  have hscale : (0 : ℚ) < 2 ^ s := zpow_pos (by norm_num) s
  have herror : |(m : ℚ) * 2 ^ s - q| ≤ 2 ^ (s - 1) := by
    have hhalf := h.nearest.within_half
    have hsplit : (m : ℚ) * 2 ^ s - q = -((q / 2 ^ s - ((m : ℕ) : ℤ)) * 2 ^ s) := by
      rw [sub_mul, div_mul_cancel₀ _ hscale.ne']
      push_cast
      ring
    rw [hsplit, abs_neg, abs_mul, abs_of_pos hscale, zpow_sub₀ htwo, zpow_one]
    refine (mul_le_mul_of_nonneg_right hhalf hscale.le).trans (le_of_eq ?_)
    ring
  refine herror.trans ?_
  rcases h.scale.above with rfl | habove
  · exact le_max_right _ _
  · refine le_max_of_le_left ?_
    rw [show s - 1 = (s + 52) + -53 by ring, zpow_add₀ htwo]
    exact mul_le_mul_of_nonneg_right habove (by positivity)

theorem significand_lt (x : Double) : x.significand < 9007199254740992 := by
  have hpow : Nat.pow 2 52 = 4503599627370496 := by decide
  have hfraction : x.fractionField < 4503599627370496 := by
    rw [fractionField, hpow]
    exact Nat.mod_lt _ (by decide)
  rw [significand, hpow]
  split <;> omega

/-- No double is nearer to a number than the one it is rounded to. -/
theorem abs_sub_nearest_le (negative : Bool) (hq : 0 ≤ q) (hfinite : q < overflow) (z : Double) :
    |(|(nearest negative q).value| - q)| ≤ |(|z.value| - q)| := by
  have htwo : (2 : ℚ) ≠ 0 := by norm_num
  rcases hq.eq_or_lt with rfl | hpos
  · rw [nearest_zero, abs_value_zero, sub_zero, abs_zero]
    exact abs_nonneg _
  obtain ⟨s, m, h⟩ := exists_rounded_of_pos hpos
  have hscale : (0 : ℚ) < 2 ^ s := zpow_pos (by norm_num) s
  have hgrid : ∀ k : ℤ, |(|(nearest negative q).value| - q)| ≤ |k * 2 ^ s - q| := by
    intro k
    have hdistance : ∀ j : ℤ, |(j : ℚ) * 2 ^ s - q| = |q / 2 ^ s - j| * 2 ^ s := by
      intro j
      rw [← abs_of_pos hscale, ← abs_mul, abs_of_pos hscale, sub_mul, div_mul_cancel₀ _ hscale.ne',
        abs_sub_comm]
    have hm := hdistance m
    rw [Int.cast_natCast] at hm
    rw [abs_value_nearest hpos h hfinite, hm, hdistance k]
    exact mul_le_mul_of_nonneg_right (h.nearest.near k) hscale.le
  have hlt : (z.significand : ℚ) < 2 ^ (53 : ℤ) := by
    have hcast : (z.significand : ℚ) < (9007199254740992 : ℕ) := Nat.cast_lt.mpr z.significand_lt
    exact hcast.trans_le (by norm_num)
  rw [abs_value z]
  rcases le_or_gt s z.scale with hle | hgt
  · -- What has a scale as large is a multiple at this one.
    obtain ⟨j, hj⟩ := Int.eq_ofNat_of_zero_le (show 0 ≤ z.scale - s by omega)
    have hmultiple : (z.significand : ℚ) * 2 ^ z.scale =
        ((z.significand * 2 ^ j : ℕ) : ℤ) * 2 ^ s := by
      rw [show z.scale = j + s by omega, zpow_add₀ htwo, zpow_natCast]
      push_cast
      ring
    rw [hmultiple]
    exact hgrid _
  · -- What has a smaller scale is below all full significands at this one.
    have hleast : -1074 ≤ z.scale := by
      rw [scale]
      omega
    have habove : (2 : ℚ) ^ (s + 52) ≤ q := h.scale.above.resolve_left (by omega)
    have hbelow : (z.significand : ℚ) * 2 ^ z.scale ≤ 2 ^ (s + 52) := by
      calc (z.significand : ℚ) * 2 ^ z.scale ≤ 2 ^ (53 : ℤ) * 2 ^ z.scale :=
            mul_le_mul_of_nonneg_right hlt.le (zpow_nonneg (by norm_num) _)
        _ = 2 ^ (53 + z.scale) := (zpow_add₀ htwo _ _).symm
        _ ≤ 2 ^ (s + 52) := zpow_le_zpow_right₀ (by norm_num) (by omega)
    refine (hgrid (2 ^ 52)).trans ?_
    have hfull : (((2 : ℤ) ^ 52 : ℤ) : ℚ) * 2 ^ s = 2 ^ (s + 52) := by
      rw [zpow_add₀ htwo, mul_comm]
      norm_num
    rw [hfull, abs_sub_comm, abs_of_nonneg (by linarith), abs_sub_comm, abs_of_nonneg (by linarith)]
    linarith

/-! ### Numbers that are doubles -/

theorem isScale_abs_value (x : Double) : IsScale |x.value| x.scale := by
  have htwo : (2 : ℚ) ≠ 0 := by norm_num
  have hscale : (0 : ℚ) < 2 ^ x.scale := zpow_pos (by norm_num) _
  rw [abs_value]
  refine ⟨?_, ?_, ?_⟩
  · rw [scale]
    omega
  · rw [zpow_add₀ htwo, mul_comm]
    refine mul_lt_mul_of_pos_left ?_ hscale
    exact_mod_cast x.significand_lt
  · by_cases hexponent : x.exponentField = 0
    · exact Or.inl (by rw [scale, hexponent]; rfl)
    · refine Or.inr ?_
      rw [zpow_add₀ htwo, mul_comm]
      refine mul_le_mul_of_nonneg_right ?_ hscale.le
      have hle : 4503599627370496 ≤ x.significand := by
        rw [significand, if_neg hexponent, show Nat.pow 2 52 = 4503599627370496 by decide]
        omega
      exact_mod_cast hle

theorem lowBits_scale (x : Double) :
    lowBits x.scale x.significand = x.exponentField * Nat.pow 2 52 + x.fractionField := by
  have hpow : Nat.pow 2 52 = 4503599627370496 := by decide
  rw [lowBits, scale, significand, hpow]
  split <;> omega

/-- What is rounded to the significand of a finite double, at its scale, is
rounded to the double. -/
theorem nearest_of_significand {x : Double} (h : x.isFinite = true) (hq : 0 < q)
    (hrounded : Rounded q x.scale x.significand) : nearest x.isNegative q = x := by
  have hpow : Nat.pow 2 52 = 4503599627370496 := by decide
  have hfield : x.exponentField < 2047 := of_decide_eq_true h
  have hfraction : x.fractionField < 4503599627370496 := by
    rw [fractionField, hpow]
    exact Nat.mod_lt _ (by decide)
  rw [nearest_of_rounded hq hrounded, ofRounded, lowBits_scale,
    min_eq_left (by rw [hpow]; omega), ← eq_ofSign]

/-- A double is nearest to its own value. -/
theorem nearest_value {x : Double} (h : x.isFinite = true) :
    nearest x.isNegative |x.value| = x := by
  have hscale : (0 : ℚ) < 2 ^ x.scale := zpow_pos (by norm_num) _
  by_cases hzero : x.significand = 0
  · rw [abs_value, hzero, Nat.cast_zero, zero_mul, nearest_zero, zero]
    rw [significand, show Nat.pow 2 52 = 4503599627370496 by decide] at hzero
    split at hzero
    · next hexponent =>
        nth_rewrite 2 [eq_ofSign x]
        rw [hexponent, hzero]
    · omega
  · have hpos : 0 < |x.value| := by
      rw [abs_value]
      exact mul_pos (by exact_mod_cast Nat.pos_of_ne_zero hzero) hscale
    refine nearest_of_significand h hpos ⟨x.isScale_abs_value, ?_⟩
    rw [abs_value, mul_div_cancel_right₀ _ hscale.ne']
    exact Number.nearest_of_half (by norm_num) (by norm_num)

/-- What has few enough bits, and none below the least scale, is not changed. -/
theorem abs_value_nearest_of_eq (negative : Bool) {e : ℤ} (hq : q = m * 2 ^ e)
    (hm : m < Nat.pow 2 53) (he : -1074 ≤ e) (hfinite : q < overflow) :
    |(nearest negative q).value| = q := by
  have htwo : (2 : ℚ) ≠ 0 := by norm_num
  rcases (show 0 ≤ q by rw [hq]; positivity).eq_or_lt with rfl | hpos
  · rw [nearest_zero, abs_value_zero]
  obtain ⟨s, k, h⟩ := exists_rounded_of_pos hpos
  have hscale : (2 : ℚ) ^ s ≠ 0 := (zpow_pos (by norm_num) s).ne'
  have hle : s ≤ e := by
    by_contra hlt
    have habove : (2 : ℚ) ^ (s + 52) ≤ q := h.scale.above.resolve_left (by omega)
    have hbelow : q < 2 ^ (e + 53) := by
      rw [hq, zpow_add₀ htwo, mul_comm]
      refine mul_lt_mul_of_pos_left ?_ (zpow_pos (by norm_num) e)
      exact_mod_cast hm
    have hmono : (2 : ℚ) ^ (e + 53) ≤ 2 ^ (s + 52) :=
      zpow_le_zpow_right₀ (by norm_num) (by omega)
    linarith
  obtain ⟨j, hj⟩ := Int.eq_ofNat_of_zero_le (show 0 ≤ e - s by omega)
  have hpart : q / 2 ^ s = ((m * 2 ^ j : ℕ) : ℤ) := by
    rw [hq, mul_div_assoc, ← zpow_sub₀ htwo, hj, zpow_natCast]
    push_cast
    rfl
  have hnear := h.nearest
  rw [hpart] at hnear
  have hk : (k : ℤ) = ((m * 2 ^ j : ℕ) : ℤ) := hnear.eq_of_intCast
  rw [abs_value_nearest hpos h hfinite, ← div_mul_cancel₀ q hscale, hpart, ← hk]
  push_cast
  rfl

end Double

end Dashboard
