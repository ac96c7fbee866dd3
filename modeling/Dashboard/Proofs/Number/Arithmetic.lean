import Dashboard.Proofs.Number.Quotient

/-!
# What arithmetic rounds

A product of doubles is the double nearest to the product of their values, and
so with quotients, natural numbers and decimals. A decimal so large or so small
that its power of ten is not formed is no exception: what it is answered with
is what it would have been rounded to.
-/

namespace Dashboard.Double

variable {x y : Double} {q : ℚ}

/-! ## Beyond both ends -/

theorem nearest_of_overflow (negative : Bool) (h : overflow ≤ q) :
    nearest negative q = infinity negative := by
  have hpos : 0 < q := lt_of_lt_of_le (by positivity) (two_pow_le_overflow.trans h)
  obtain ⟨s, m, hrounded⟩ := exists_rounded_of_pos hpos
  have hlow := fun hlt => not_lt.mpr h ((lowBits_lt_iff hrounded).mp hlt)
  rw [nearest_of_rounded hpos hrounded, ofRounded, min_eq_right (not_lt.mp hlow), infinity]

theorem nearest_of_underflow (negative : Bool) (hq : 0 ≤ q) (h : q < 2 ^ (-1075 : ℤ)) :
    nearest negative q = zero negative := by
  rcases nearest_cases negative hq with ⟨-, hzero⟩ | ⟨s, m, hrounded, hnearest⟩
  · exact hzero
  have hs : s = -1074 := by
    refine hrounded.scale.above.resolve_right fun habove => ?_
    have hlt : (2 : ℚ) ^ (s + 52) < 2 ^ (-1075 : ℤ) := habove.trans_lt h
    have hexponent := (zpow_lt_zpow_iff_right₀ (by norm_num : (1 : ℚ) < 2)).mp hlt
    have hleast := hrounded.scale.least
    omega
  subst hs
  have hpart : q / 2 ^ (-1074 : ℤ) < 1 / 2 := by
    rw [div_lt_iff₀ (zpow_pos (by norm_num) _)]
    refine h.trans_le (le_of_eq ?_)
    rw [show (-1075 : ℤ) = -1 + -1074 by norm_num, zpow_add₀ (by norm_num), zpow_neg_one, one_div]
  have hm : m = 0 := by
    have hhalf := (abs_le.mp hrounded.nearest.within_half).1
    generalize q / 2 ^ (-1074 : ℤ) = r at hpart hhalf
    have hlt : ((m : ℤ) : ℚ) < 1 := by linarith
    have hlt' : (m : ℤ) < 1 := by exact_mod_cast hlt
    omega
  rw [hnearest, hm]
  rfl

/-! ## The other sign -/

theorem negate_ofSign (negative : Bool) {low : ℕ} (h : low < Nat.pow 2 63) :
    (ofSign negative low).negate = ofSign (!negative) low := by
  have hword := word_ofSign negative h
  rw [negate, (fields_ofSign negative h).1]
  cases negative with
  | true =>
      rw [if_pos rfl, hword, if_pos rfl, Nat.add_sub_cancel_left, Bool.not_true, ofSign,
        if_neg Bool.false_ne_true, Nat.zero_add]
  | false =>
      rw [if_neg Bool.false_ne_true, hword, if_neg Bool.false_ne_true, Nat.zero_add, Bool.not_false,
        ofSign, if_pos rfl, Nat.add_comm]

theorem negate_nearest (negative : Bool) (hq : 0 ≤ q) :
    (nearest negative q).negate = nearest (!negative) q := by
  rcases hq.eq_or_lt with rfl | hpos
  · rw [nearest_zero, nearest_zero, zero, negate_ofSign negative (by decide), zero]
  · obtain ⟨s, m, hrounded⟩ := exists_rounded_of_pos hpos
    rw [nearest_of_rounded hpos hrounded, nearest_of_rounded hpos hrounded, ofRounded,
      negate_ofSign negative (lt_of_le_of_lt (min_le_right _ _) (by decide)), ofRounded]

/-- The sign may be given before the rounding or after it. -/
theorem nearest_signed (negative : Bool) (hq : 0 ≤ q) :
    (if negative then (nearest false q).negate else nearest false q) = nearest negative q := by
  cases negative with
  | false => exact if_neg Bool.false_ne_true
  | true => rw [if_pos rfl, negate_nearest false hq, Bool.not_false]

theorem abs_value_nearest_signed (negative : Bool) (hq : 0 ≤ q) (hfinite : q < overflow) :
    |(nearest negative q).value| = |(nearest false q).value| := by
  rcases hq.eq_or_lt with rfl | hpos
  · rw [nearest_zero, nearest_zero, abs_value_zero, abs_value_zero]
  · obtain ⟨s, m, hrounded⟩ := exists_rounded_of_pos hpos
    rw [abs_value_nearest hpos hrounded hfinite, abs_value_nearest hpos hrounded hfinite]

/-! ## Operations -/

theorem isNaN_of_isFinite (h : x.isFinite = true) : x.isNaN = false := by
  have hne : x.exponentField ≠ 2047 := (of_decide_eq_true h).ne
  rw [isNaN, decide_eq_false hne, Bool.false_and]

theorem isZero_iff (h : x.isFinite = true) : x.isZero = true ↔ |x.value| = 0 := by
  have hscale : (2 : ℚ) ^ x.scale ≠ 0 := (zpow_pos (by norm_num) _).ne'
  rw [isZero, h, Bool.true_and, beq_iff_eq, abs_value, mul_eq_zero, or_iff_left hscale,
    Nat.cast_eq_zero]

theorem mul_eq_nearest (hx : x.isFinite = true) (hy : y.isFinite = true) :
    x.mul y = nearest (x.isNegative != y.isNegative) (|x.value| * |y.value|) := by
  have hdens : x.magnitude.2 * y.magnitude.2 ≠ 0 :=
    (Nat.mul_pos x.magnitude_pos y.magnitude_pos).ne'
  rw [mul, isNaN_of_isFinite hx, isNaN_of_isFinite hy, hx, hy]
  simp only [Bool.false_eq_true, if_false, Bool.not_true, Bool.or_self]
  rw [ofRatio_eq_nearest _ _ hdens, Nat.cast_mul, Nat.cast_mul, mul_div_mul_comm, magnitude_div,
    magnitude_div]

theorem div_eq_nearest (hx : x.isFinite = true) (hy : y.isFinite = true) (hne : |y.value| ≠ 0) :
    x.div y = nearest (x.isNegative != y.isNegative) (|x.value| / |y.value|) := by
  have hnum : y.magnitude.1 ≠ 0 := by
    intro hzero
    have hdiv := y.magnitude_div
    rw [hzero, Nat.cast_zero, zero_div] at hdiv
    exact hne hdiv.symm
  have hdens : x.magnitude.2 * y.magnitude.1 ≠ 0 := Nat.mul_ne_zero x.magnitude_pos.ne' hnum
  have hzero : y.isZero = false := by
    rw [← Bool.not_eq_true, isZero_iff hy]
    exact hne
  rw [div, isNaN_of_isFinite hx, isNaN_of_isFinite hy, hx, hy, hzero]
  simp only [Bool.false_eq_true, if_false, Bool.not_true]
  rw [ofRatio_eq_nearest _ _ hdens, Nat.cast_mul, Nat.cast_mul, ← magnitude_div x,
    ← magnitude_div y, div_div_div_eq]

theorem ofNat_eq_nearest (n : ℕ) : ofNat n = nearest false n := by
  rw [ofNat, ofRatio_eq_nearest _ _ one_ne_zero, Nat.cast_one, div_one]

/-- A natural number with few enough bits, zeros at the end apart, is a double. -/
theorem abs_value_ofNat_of_eq {m j n : ℕ} (hn : n = m * 2 ^ j) (hm : m < Nat.pow 2 53)
    (hfinite : (n : ℚ) < overflow) : |(ofNat n).value| = n := by
  have hparts : (n : ℚ) = m * 2 ^ (j : ℤ) := by
    rw [hn, zpow_natCast]
    push_cast
    rfl
  rw [ofNat_eq_nearest]
  exact abs_value_nearest_of_eq false hparts hm (by omega) hfinite

/-! ## Decimals -/

theorem ten_pow_cast (n : ℕ) : ((Nat.pow 10 n : ℕ) : ℚ) = 10 ^ n := by
  rw [Nat.pow_eq]
  push_cast
  rfl

theorem two_pow_le_ten_pow : (2 : ℚ) ^ (1024 : ℤ) ≤ 10 ^ (311 : ℤ) := by
  have hnat : (2 : ℕ) ^ 1024 ≤ 10 ^ 311 := by decide +kernel
  have hcast : ((2 ^ 1024 : ℕ) : ℚ) ≤ (10 ^ 311 : ℕ) := Nat.cast_le.mpr hnat
  rwa [Nat.cast_pow, Nat.cast_pow, ← zpow_natCast, ← zpow_natCast] at hcast

theorem two_tenths_lt : (2 : ℚ) * 10 ^ (-331 : ℤ) < 2 ^ (-1075 : ℤ) := by
  have hnat : (2 : ℕ) ^ 1076 < 10 ^ 331 := by decide +kernel
  have hcast : ((2 ^ 1076 : ℕ) : ℚ) < (10 ^ 331 : ℕ) := Nat.cast_lt.mpr hnat
  rw [Nat.cast_pow, Nat.cast_pow, ← zpow_natCast, ← zpow_natCast] at hcast
  have hinv := inv_strictAnti₀ (zpow_pos (by norm_num) _) hcast
  rw [← zpow_neg, ← zpow_neg] at hinv
  have hdouble : (2 : ℚ) ^ (-1075 : ℤ) = 2 * 2 ^ (-1076 : ℤ) := by
    rw [show (-1075 : ℤ) = 1 + -1076 by norm_num, zpow_add₀ (by norm_num), zpow_one]
  rw [hdouble]
  exact mul_lt_mul_of_pos_left hinv (by norm_num)

/-- A number with so small a power of ten is less than half the least double. -/
theorem decimal_lt_of_exponent_lt {c : ℕ} {e : ℤ} (h : e < -(330 + c.log2 : ℕ)) :
    (c : ℚ) * 10 ^ e < 2 ^ (-1075 : ℤ) := by
  have hten : (10 : ℚ) ≠ 0 := by norm_num
  have hpow : (10 : ℚ) ^ (c.log2 : ℤ) * 10 ^ e ≤ 10 ^ (-331 : ℤ) := by
    rw [← zpow_add₀ hten]
    exact zpow_le_zpow_right₀ (by norm_num) (by omega)
  have hc : (c : ℚ) < 2 * 10 ^ (c.log2 : ℤ) := by
    refine (lt_two_pow_log2_succ c).trans_le ?_
    rw [zpow_add₀ (by norm_num), mul_comm, zpow_one, zpow_natCast, zpow_natCast]
    exact mul_le_mul_of_nonneg_left (pow_le_pow_left₀ (by norm_num) (by norm_num) _) (by norm_num)
  calc (c : ℚ) * 10 ^ e < 2 * 10 ^ (c.log2 : ℤ) * 10 ^ e :=
        mul_lt_mul_of_pos_right hc (zpow_pos (by norm_num) e)
    _ ≤ 2 * 10 ^ (-331 : ℤ) := by
        rw [mul_assoc]
        exact mul_le_mul_of_nonneg_left hpow (by norm_num)
    _ < 2 ^ (-1075 : ℤ) := two_tenths_lt

theorem ofDecimal_eq_nearest (negative : Bool) (c : ℕ) (e : ℤ) :
    ofDecimal negative c e = nearest negative (c * 10 ^ e) := by
  have hten : (1 : ℚ) ≤ 10 := by norm_num
  rw [ofDecimal]
  split
  · next hzero => rw [hzero, Nat.cast_zero, zero_mul, nearest_zero]
  next hc =>
  have hone : (1 : ℚ) ≤ c := by exact_mod_cast Nat.one_le_iff_ne_zero.mpr hc
  split
  · next he =>
      have hpow : (10 : ℚ) ^ (311 : ℤ) ≤ 10 ^ e := zpow_le_zpow_right₀ hten (by omega)
      have hle : overflow ≤ 10 ^ e := overflow_le_two_pow.trans (two_pow_le_ten_pow.trans hpow)
      have hlarge := hle.trans (le_mul_of_one_le_left (by positivity) hone)
      exact (nearest_of_overflow negative hlarge).symm
  split
  · next he => rw [nearest_of_underflow negative (by positivity) (decimal_lt_of_exponent_lt he)]
  split
  · next he =>
      obtain ⟨k, rfl⟩ := Int.eq_ofNat_of_zero_le he
      rw [ofRatio_eq_nearest _ _ one_ne_zero, Nat.cast_one, div_one, Nat.cast_mul,
        Int.toNat_natCast, ten_pow_cast, zpow_natCast]
  · next he =>
      obtain ⟨k, hk⟩ := Int.eq_ofNat_of_zero_le (show 0 ≤ -e by omega)
      obtain rfl : e = -(k : ℤ) := by omega
      have hden : Nat.pow 10 k ≠ 0 := (Nat.pow_pos (by decide)).ne'
      rw [neg_neg, Int.toNat_natCast, ofRatio_eq_nearest _ _ hden, ten_pow_cast, zpow_neg,
        zpow_natCast, div_eq_mul_inv]

end Dashboard.Double
