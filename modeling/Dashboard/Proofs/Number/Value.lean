import Dashboard.Number.Double
import Mathlib.Algebra.Order.Field.Power
import Mathlib.Algebra.Ring.Int.Parity
import Mathlib.Data.Rat.Floor
import Mathlib.Tactic.FieldSimp
import Mathlib.Tactic.Linarith
import Mathlib.Tactic.Positivity
import Mathlib.Tactic.Ring

/-!
# What a double is, and what rounding makes of it

A finite double is a rational number, which is read off its sign, its
significand and its scale. Rounding is said of rational numbers: the nearest
integer is no farther away than any other integer, and is even where another
one is as near. There is exactly one such integer (`Nearest.unique`).

The project rounds quotients of natural numbers. `nearest_roundDiv` says that
this is rounding of the quotient's value, and `magnitude_div` that the
quotient taken for a double has the double's magnitude.
-/

namespace Dashboard

/-- The rational number that a finite double is. -/
def Double.value (x : Double) : ℚ :=
  (if x.isNegative then -1 else 1) * x.significand * 2 ^ x.scale

namespace Number

/-- The integer nearest to a rational number; of two equally near ones the
even one. -/
structure Nearest (q : ℚ) (n : ℤ) : Prop where
  near : ∀ m : ℤ, |q - n| ≤ |q - m|
  even : ∀ m : ℤ, m ≠ n → |q - m| = |q - n| → Even n

theorem Nearest.unique {q : ℚ} {n m : ℤ} (hn : Nearest q n) (hm : Nearest q m) : n = m := by
  wlog hlt : n < m generalizing n m
  · rcases Int.lt_or_eq_of_le (Int.not_lt.mp hlt) with hgt | heq
    · exact (this hm hn hgt).symm
    · exact heq.symm
  have hdist : |q - m| = |q - n| := le_antisymm (hm.near n) (hn.near m)
  obtain ⟨a, ha⟩ := hn.even m (by omega) hdist
  obtain ⟨b, hb⟩ := hm.even n (by omega) hdist.symm
  -- Between two even integers there is an odd one, which is nearer.
  have hgap : n + 2 ≤ m := by omega
  have hgap' : (n : ℚ) + 2 ≤ m := by exact_mod_cast hgap
  have hbetween := hn.near (n + 1)
  push_cast at hbetween
  rcases abs_cases (q - m) with ⟨h₁, h₂⟩ | ⟨h₁, h₂⟩ <;>
    rcases abs_cases (q - n) with ⟨h₃, h₄⟩ | ⟨h₃, h₄⟩ <;>
    rcases abs_cases (q - (n + 1)) with ⟨h₅, h₆⟩ | ⟨h₅, h₆⟩ <;>
    linarith

/-- It is enough that the integer is half a unit away at most, and even if it
is just that far away. -/
theorem nearest_of_half {q : ℚ} {n : ℤ} (hnear : |q - n| ≤ 1 / 2)
    (heven : |q - n| = 1 / 2 → Even n) : Nearest q n := by
  have hother : ∀ m : ℤ, m ≠ n → 1 / 2 ≤ |q - m| := by
    intro m hm
    have hone : (1 : ℚ) ≤ |(m : ℚ) - n| := by
      exact_mod_cast Int.one_le_abs (sub_ne_zero.mpr hm)
    have htriangle : |(m : ℚ) - n| ≤ |q - n| + |q - m| := by
      rw [abs_sub_comm q m, add_comm]
      exact abs_sub_le (m : ℚ) q n
    linarith
  refine ⟨fun m => ?_, fun m hm hsame => heven ?_⟩
  · by_cases hm : m = n
    · rw [hm]
    · exact hnear.trans (hother m hm)
  · exact le_antisymm hnear (hsame ▸ hother m hm)

theorem Nearest.neg {q : ℚ} {n : ℤ} (h : Nearest q n) : Nearest (-q) (-n) := by
  have hflip : ∀ m : ℤ, |-q - m| = |q - (-m : ℤ)| := fun m => by
    rw [← abs_neg]
    push_cast
    ring_nf
  refine ⟨fun m => ?_, fun m hm hsame => ?_⟩
  · rw [hflip, hflip, neg_neg]
    exact h.near (-m)
  · rw [hflip, hflip, neg_neg] at hsame
    exact (h.even (-m) (by omega) hsame).neg

/-! ## Rounded quotients -/

/-- A quotient halfway between two integers is rounded to the even one. -/
theorem even_roundDiv {num den : ℕ} (h : 0 < den)
    (hhalf : 2 * (roundDiv num den * den) = 2 * num + den ∨
      2 * num = 2 * (roundDiv num den * den) + den) : Even (roundDiv num den) := by
  have hd : den * (num / den) + num % den = num := Nat.div_add_mod num den
  have hr : num % den < den := Nat.mod_lt num h
  have hc : num / den * den = den * (num / den) := Nat.mul_comm _ _
  rw [Nat.even_iff]
  simp only [roundDiv] at hhalf ⊢
  split at hhalf
  · omega
  · split at hhalf
    · rw [Nat.add_mul, Nat.one_mul] at hhalf
      omega
    · rw [if_neg (by omega), if_neg (by omega)]
      omega

theorem nearest_roundDiv {num den : ℕ} (h : 0 < den) :
    Nearest ((num : ℚ) / den) (roundDiv num den : ℤ) := by
  obtain ⟨hupper, hlower⟩ := roundDiv_within_half num den h
  have hden : (0 : ℚ) < den := by exact_mod_cast h
  have hsplit : (num : ℚ) / den - (roundDiv num den : ℤ) =
      (num - roundDiv num den * den) / den := by
    field_simp
    push_cast
    ring
  have hupper' : 2 * ((roundDiv num den : ℚ) * den) ≤ 2 * num + den := by exact_mod_cast hupper
  have hlower' : 2 * (num : ℚ) ≤ 2 * ((roundDiv num den : ℚ) * den) + den := by
    exact_mod_cast hlower
  refine nearest_of_half ?_ fun hhalf => ?_
  · rw [hsplit, abs_div, abs_of_pos hden, div_le_iff₀ hden, abs_le]
    constructor <;> linarith
  · rw [hsplit, abs_div, abs_of_pos hden, div_eq_iff hden.ne'] at hhalf
    have heven : Even (roundDiv num den) := by
      refine even_roundDiv h ?_
      rcases abs_cases ((num : ℚ) - roundDiv num den * den) with ⟨habs, -⟩ | ⟨habs, -⟩
      · refine Or.inr ?_
        have htie : 2 * (num : ℚ) = 2 * ((roundDiv num den : ℚ) * den) + den := by linarith
        exact_mod_cast htie
      · refine Or.inl ?_
        have htie : 2 * ((roundDiv num den : ℚ) * den) = 2 * num + den := by linarith
        exact_mod_cast htie
    exact_mod_cast heven

theorem timesPowerOfTwo_pos {num den : ℕ} (h : 0 < den) (e : ℤ) :
    0 < (timesPowerOfTwo num den e).2 := by
  unfold timesPowerOfTwo
  split
  · exact h
  · exact Nat.mul_pos h (Nat.pow_pos (by decide))

theorem timesPowerOfTwo_div (num den : ℕ) (e : ℤ) :
    ((timesPowerOfTwo num den e).1 : ℚ) / (timesPowerOfTwo num den e).2 =
      num / den * 2 ^ e := by
  have hpow (k : ℕ) : ((Nat.pow 2 k : ℕ) : ℚ) = 2 ^ k := by
    rw [Nat.pow_eq]
    push_cast
    rfl
  unfold timesPowerOfTwo
  split
  · next he =>
      obtain ⟨k, rfl⟩ := Int.eq_ofNat_of_zero_le he
      simp only [Int.toNat_natCast, Nat.cast_mul, hpow, zpow_natCast]
      ring
  · next he =>
      obtain ⟨k, hk⟩ := Int.eq_ofNat_of_zero_le (show 0 ≤ -e by omega)
      obtain rfl : e = -(k : ℤ) := by omega
      simp only [neg_neg, Int.toNat_natCast, Nat.cast_mul, hpow, zpow_neg, zpow_natCast]
      field_simp

end Number

namespace Double

/-- Nothing is lost where a double is taken for a quotient. -/
theorem magnitude_div (x : Double) : (x.magnitude.1 : ℚ) / x.magnitude.2 = |x.value| := by
  have hpow : (0 : ℚ) < 2 ^ x.scale := by positivity
  rw [magnitude, Number.timesPowerOfTwo_div, value, abs_mul, abs_mul, abs_of_pos hpow]
  have hsign : |(if x.isNegative then -1 else 1 : ℚ)| = 1 := by split <;> simp
  rw [hsign, Nat.abs_cast]
  simp

theorem magnitude_pos (x : Double) : 0 < x.magnitude.2 :=
  Number.timesPowerOfTwo_pos Nat.one_pos x.scale

theorem value_eq (x : Double) : x.value = (if x.isNegative then -1 else 1) * |x.value| := by
  have hpow : (0 : ℚ) ≤ x.significand * 2 ^ x.scale := by positivity
  unfold value
  split
  · rw [mul_assoc, abs_mul, abs_of_nonneg hpow]
    simp
  · rw [mul_assoc, abs_mul, abs_of_nonneg hpow]
    simp

/-! ## Numbers that are not finite -/

theorem eq_of_word {x : Double} {n : ℕ} (h : x.word = n) : x = ⟨UInt64.ofNat n⟩ := by
  subst h
  show x = ⟨UInt64.ofNat x.bits.toNat⟩
  rw [UInt64.ofNat_toNat]

theorem isFinite_eq_false_iff {x : Double} :
    x.isFinite = false ↔ x.isNaN = true ∨ ∃ negative, x = infinity negative := by
  have hpow : Nat.pow 2 52 = 4503599627370496 ∧ Nat.pow 2 11 = 2048 := by decide
  have hword : x.word < 18446744073709551616 := x.bits.toNat_lt
  constructor
  · intro h
    have hfull : x.exponentField = 2047 := by
      have hle : ¬ x.exponentField < 2047 := of_decide_eq_false h
      simp only [exponentField, hpow] at hle ⊢
      omega
    by_cases hfraction : x.fractionField = 0
    · simp only [exponentField, fractionField, hpow] at hfull hfraction
      rcases Nat.lt_or_ge x.word 9223372036854775808 with hlow | hhigh
      · have hlow' : x.word = 0 + 2047 * 4503599627370496 := by omega
        exact Or.inr ⟨false, eq_of_word hlow'⟩
      · have hhigh' : x.word = 9223372036854775808 + 2047 * 4503599627370496 := by omega
        exact Or.inr ⟨true, eq_of_word hhigh'⟩
    · exact Or.inl (by simp [isNaN, hfull, hfraction])
  · rintro (hnan | ⟨negative, rfl⟩)
    · have hfull : x.exponentField = 2047 := by
        simp only [isNaN, Bool.and_eq_true, decide_eq_true_eq] at hnan
        exact hnan.1
      simp [isFinite, hfull]
    · cases negative <;> rfl

end Double

end Dashboard
