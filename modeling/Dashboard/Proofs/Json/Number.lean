import Dashboard.Json.Decoder
import Dashboard.Proofs.Number.Near

/-!
# What the decoder makes of a significand and an exponent

A number of a payload that is no integer is rounded several times: its
significand to a double, a power of ten to a double, and their product or
quotient; where the power would be too large for a double there are two
quotients. The result is finite and within a 2^50th part of the exact number,
or within the least double (`scaled_applyExponent`).

There is one rounding only where the significand and the power are doubles
themselves, or where there is no power, and then the result is the double
nearest to the exact number (`applyExponent_exact`).
-/

namespace Dashboard.Json

open Double (nearest overflow halfUnit)
open Dashboard.Number (Near)

variable {f x : Double} {n k : ℕ} {e : ℤ}

/-! ## The steps -/

theorem applyExponent_up (f : Double) (h : k ≤ 308) :
    applyExponent f k =
      if (f.mul (powerOfTen k)).isFinite then some (f.mul (powerOfTen k)) else none := by
  rw [← Int.ofNat_eq_natCast, applyExponent, if_pos h]

theorem applyExponent_far_up (f : Double) (h : 308 < k) :
    applyExponent f k = if f.isZero then some f else none := by
  rw [← Int.ofNat_eq_natCast, applyExponent, if_neg (by omega)]

theorem applyExponent_down (f : Double) (hpos : 0 < k) (h : k ≤ 308) :
    applyExponent f (-k) = some (f.div (powerOfTen k)) := by
  obtain ⟨j, rfl⟩ := Nat.exists_eq_add_of_lt hpos
  rw [Nat.zero_add, show -((j + 1 : ℕ) : ℤ) = Int.negSucc j from rfl, applyExponent,
    if_pos (by omega)]

theorem applyExponent_far_down (f : Double) (h : 308 < k) :
    applyExponent f (-k) =
      if f.isZero then some f
      else applyExponent (f.div (powerOfTen 308)) (-(k - 308 : ℕ)) := by
  obtain ⟨j, rfl⟩ := Nat.exists_eq_add_of_lt (Nat.zero_lt_of_lt h)
  rw [Nat.zero_add, show -((j + 1 : ℕ) : ℤ) = Int.negSucc j from rfl, applyExponent,
    if_neg (by omega)]

theorem isZero_zero (negative : Bool) : (Double.zero negative).isZero = true := by
  cases negative <;> decide

/-! ## Powers of ten -/

theorem powerOfTen_eq_nearest (k : ℕ) : powerOfTen k = nearest false (10 ^ k) := by
  rw [powerOfTen, Double.ofNat_eq_nearest, Double.ten_pow_cast]

/-- The powers of ten that are used are in the range of doubles. -/
theorem ten_pow_lt_overflow (h : k ≤ 308) : (10 : ℚ) ^ k < overflow := by
  have hnat : 10 ^ 308 + 2 ^ 970 < 2 ^ 1024 := by decide +kernel
  have hcast : ((10 ^ 308 + 2 ^ 970 : ℕ) : ℚ) < (2 ^ 1024 : ℕ) := Nat.cast_lt.mpr hnat
  rw [Nat.cast_add, Nat.cast_pow, Nat.cast_pow, Nat.cast_pow, ← zpow_natCast (2 : ℕ).cast,
    ← zpow_natCast (2 : ℕ).cast] at hcast
  have hmono : (10 : ℚ) ^ k ≤ 10 ^ 308 := pow_le_pow_right₀ (by norm_num) h
  rw [overflow, lt_sub_iff_add_lt]
  exact (add_le_add_left hmono _).trans_lt hcast

theorem isFinite_powerOfTen (h : k ≤ 308) : (powerOfTen k).isFinite = true := by
  rw [powerOfTen_eq_nearest]
  exact (Double.isFinite_nearest_iff false (by positivity)).mpr (ten_pow_lt_overflow h)

theorem isNegative_powerOfTen (k : ℕ) : (powerOfTen k).isNegative = false := by
  rw [powerOfTen_eq_nearest]
  exact Double.isNegative_nearest false (by positivity)

theorem least_le_one : (2 : ℚ) ^ (-1022 : ℤ) ≤ 1 :=
  zpow_le_one_of_nonpos₀ (by norm_num) (by norm_num)

theorem near_powerOfTen (h : k ≤ 308) :
    Near (1 - halfUnit) (1 + halfUnit) 0 |(powerOfTen k).value| (10 ^ k) := by
  rw [powerOfTen_eq_nearest]
  exact Double.near_rounded_of_le false (least_le_one.trans (one_le_pow₀ (by norm_num)))
    (ten_pow_lt_overflow h)

/-! ## Significands -/

theorem natCast_lt_overflow (h : n < UInt64.size) : (n : ℚ) < overflow := by
  refine lt_of_lt_of_le (lt_of_lt_of_le (Nat.cast_lt.mpr h) ?_) Double.two_pow_le_overflow
  have hsize : ((UInt64.size : ℕ) : ℚ) = 2 ^ (64 : ℤ) := by norm_num [UInt64.size]
  rw [hsize]
  exact zpow_le_zpow_right₀ (by norm_num) (by norm_num)

theorem isFinite_ofNat (h : n < UInt64.size) : (Double.ofNat n).isFinite = true := by
  rw [Double.ofNat_eq_nearest]
  exact (Double.isFinite_nearest_iff false (Nat.cast_nonneg n)).mpr (natCast_lt_overflow h)

theorem isNegative_ofNat (n : ℕ) : (Double.ofNat n).isNegative = false := by
  rw [Double.ofNat_eq_nearest]
  exact Double.isNegative_nearest false (Nat.cast_nonneg n)

theorem near_ofNat (hpos : 0 < n) (h : n < UInt64.size) :
    Near (1 - halfUnit) (1 + halfUnit) 0 |(Double.ofNat n).value| n := by
  rw [Double.ofNat_eq_nearest]
  exact Double.near_rounded_of_le false (least_le_one.trans (by exact_mod_cast hpos))
    (natCast_lt_overflow h)

theorem one_half_le {q v : ℚ} (hnear : Near (1 - halfUnit) (1 + halfUnit) 0 q v) (hv : 1 ≤ v) :
    1 / 2 ≤ q := by
  have habove := hnear.above
  have hunit : (1 : ℚ) / 2 ≤ 1 - halfUnit := by norm_num [halfUnit]
  have hle := mul_le_mul hunit hv zero_le_one (by norm_num [halfUnit])
  linarith

theorem one_half_le_powerOfTen (h : k ≤ 308) : 1 / 2 ≤ |(powerOfTen k).value| :=
  one_half_le (near_powerOfTen h) (one_le_pow₀ (by norm_num))

theorem one_half_le_ofNat (hpos : 0 < n) (h : n < UInt64.size) :
    1 / 2 ≤ |(Double.ofNat n).value| :=
  one_half_le (near_ofNat hpos h) (by exact_mod_cast hpos)

/-! ## One step -/

theorem mul_powerOfTen (hf : f.isFinite = true) (hsign : f.isNegative = false) (h : k ≤ 308) :
    f.mul (powerOfTen k) = nearest false (|f.value| * |(powerOfTen k).value|) := by
  rw [Double.mul_eq_nearest hf (isFinite_powerOfTen h), hsign, isNegative_powerOfTen]
  rfl

theorem div_powerOfTen (hf : f.isFinite = true) (hsign : f.isNegative = false) (h : k ≤ 308) :
    f.div (powerOfTen k) = nearest false (|f.value| / |(powerOfTen k).value|) := by
  have hne : |(powerOfTen k).value| ≠ 0 := by
    have := one_half_le_powerOfTen h
    linarith
  rw [Double.div_eq_nearest hf (isFinite_powerOfTen h) hne, hsign, isNegative_powerOfTen]
  rfl

/-- Nothing comes of zero. -/
theorem applyExponent_zero (e : ℤ) :
    applyExponent (Double.zero false) e = some (Double.zero false) := by
  have hfinite : (Double.zero false).isFinite = true := by decide
  have hsign : (Double.zero false).isNegative = false := by decide
  obtain ⟨k, rfl | rfl⟩ := e.eq_nat_or_neg
  · rcases le_or_gt k 308 with h | h
    · rw [applyExponent_up _ h, mul_powerOfTen hfinite hsign h, Double.abs_value_zero, zero_mul,
        Double.nearest_zero, if_pos hfinite]
    · rw [applyExponent_far_up _ h, if_pos (isZero_zero false)]
  · rcases Nat.eq_zero_or_pos k with rfl | hpos
    · rw [Nat.cast_zero, neg_zero, ← Nat.cast_zero, applyExponent_up _ (by omega),
        mul_powerOfTen hfinite hsign (by omega), Double.abs_value_zero, zero_mul,
        Double.nearest_zero, if_pos hfinite]
    rcases le_or_gt k 308 with h | h
    · rw [applyExponent_down _ hpos h, div_powerOfTen hfinite hsign h, Double.abs_value_zero,
        zero_div, Double.nearest_zero]
    · rw [applyExponent_far_down _ h, if_pos (isZero_zero false)]

/-! ## How near the result is -/

/-- A double that came of rounding and is near a number. -/
structure Scaled (x : Double) (v : ℚ) : Prop where
  rounded : ∃ q, 0 ≤ q ∧ q < overflow ∧ x = nearest false q
  near : Near (1 - 7 * halfUnit) (1 + 7 * halfUnit) (2 ^ (-1074 : ℤ)) |x.value| v

theorem lt_overflow_of_le {q : ℚ} (h : q ≤ 8 * (UInt64.size : ℕ)) : q < overflow := by
  refine lt_of_le_of_lt h (lt_of_lt_of_le ?_ Double.two_pow_le_overflow)
  have hsize : (8 : ℚ) * (UInt64.size : ℕ) = 2 ^ (67 : ℤ) := by norm_num [UInt64.size]
  rw [hsize]
  exact zpow_lt_zpow_right₀ (by norm_num) (by norm_num)

theorem div_powerOfTen_le {q : ℚ} (hq : 0 ≤ q) (h : k ≤ 308) :
    q / |(powerOfTen k).value| ≤ 2 * q := by
  have hhalf := one_half_le_powerOfTen h
  rw [div_le_iff₀ (by linarith)]
  have hle := mul_le_mul_of_nonneg_left hhalf (show 0 ≤ 2 * q by linarith)
  linarith

theorem scaled_mul (hpos : 0 < n) (hn : n < UInt64.size) (hk : k ≤ 308)
    (hfinite : ((Double.ofNat n).mul (powerOfTen k)).isFinite = true) :
    Scaled ((Double.ofNat n).mul (powerOfTen k)) (n * 10 ^ k) := by
  have hf := near_ofNat hpos hn
  have hp := near_powerOfTen hk
  have hexact : (0 : ℚ) ≤ n * 10 ^ k := by positivity
  rw [mul_powerOfTen (isFinite_ofNat hn) (isNegative_ofNat n) hk] at hfinite ⊢
  have hq : 0 ≤ |(Double.ofNat n).value| * |(powerOfTen k).value| := by positivity
  have hoverflow := (Double.isFinite_nearest_iff false hq).mp hfinite
  refine ⟨⟨_, hq, hoverflow, rfl⟩, ?_⟩
  have hlarge : (2 : ℚ) ^ (-1022 : ℤ) ≤ |(Double.ofNat n).value| * |(powerOfTen k).value| := by
    have hquarter : (2 : ℚ) ^ (-2 : ℤ) = 1 / 2 * (1 / 2) := by norm_num
    calc (2 : ℚ) ^ (-1022 : ℤ) ≤ 2 ^ (-2 : ℤ) := zpow_le_zpow_right₀ (by norm_num) (by norm_num)
      _ = 1 / 2 * (1 / 2) := hquarter
      _ ≤ |(Double.ofNat n).value| * |(powerOfTen k).value| :=
        mul_le_mul (one_half_le_ofNat hpos hn) (one_half_le_powerOfTen hk) (by norm_num)
          (by positivity)
  have hboth := (Double.near_rounded_of_le false hlarge hoverflow).trans
    (hf.mul hp (Nat.cast_nonneg n) (by positivity) (by norm_num [halfUnit])
      (by norm_num [halfUnit])) (by norm_num [halfUnit]) (by norm_num [halfUnit]) le_rfl
  refine hboth.mono hexact (by norm_num [halfUnit]) (by norm_num [halfUnit]) ?_
  rw [mul_zero, add_zero]
  positivity

/-- Of a positive significand and a power of ten that is a double, one quotient
is formed. -/
theorem near_div (hpos : 0 < n) (hn : n < UInt64.size) (hk : k ≤ 308) :
    ∃ q, 0 ≤ q ∧ q < overflow ∧ (Double.ofNat n).div (powerOfTen k) = nearest false q ∧
      Near (1 - 4 * halfUnit) (1 + 4 * halfUnit) (2 ^ (-1075 : ℤ))
        |(nearest false q).value| (n / 10 ^ k) := by
  have hf := near_ofNat hpos hn
  have hexact : (0 : ℚ) ≤ n / 10 ^ k := by positivity
  have hq := hf.div (near_powerOfTen hk) (abs_nonneg _) (by positivity) (by norm_num [halfUnit])
    le_rfl
  have hnonneg : 0 ≤ |(Double.ofNat n).value| / |(powerOfTen k).value| := by positivity
  have hoverflow : |(Double.ofNat n).value| / |(powerOfTen k).value| < overflow := by
    refine lt_overflow_of_le ?_
    have hsize : (n : ℚ) ≤ (UInt64.size : ℕ) := Nat.cast_le.mpr hn.le
    have hdouble : (1 + halfUnit) * (n : ℚ) ≤ 4 * n :=
      mul_le_mul_of_nonneg_right (by norm_num [halfUnit]) (Nat.cast_nonneg n)
    have hbelow := hf.below
    rw [add_zero] at hbelow
    exact (div_powerOfTen_le (abs_nonneg _) hk).trans (by linarith)
  refine ⟨_, hnonneg, hoverflow, div_powerOfTen (isFinite_ofNat hn) (isNegative_ofNat n) hk, ?_⟩
  have hboth := (Double.near_rounded false hnonneg hoverflow).trans hq (by norm_num [halfUnit])
    (by norm_num [halfUnit]) (by rw [zero_div])
  rw [zero_div, mul_zero, add_zero] at hboth
  exact hboth.mono hexact (by norm_num [halfUnit]) (by norm_num [halfUnit]) le_rfl

theorem two_pow_le_ten_pow : (2 : ℚ) ^ (1023 : ℤ) ≤ 10 ^ 308 := by
  have hnat : (2 : ℕ) ^ 1023 ≤ 10 ^ 308 := by decide +kernel
  have hcast : ((2 ^ 1023 : ℕ) : ℚ) ≤ (10 ^ 308 : ℕ) := Nat.cast_le.mpr hnat
  rwa [Nat.cast_pow, Nat.cast_pow, ← zpow_natCast] at hcast

/-- What the largest power of ten leaves of a significand. -/
theorem div_ten_pow_le (hn : n < UInt64.size) : (n : ℚ) / 10 ^ 308 ≤ 2 ^ (-959 : ℤ) := by
  have hten : (0 : ℚ) < 10 ^ 308 := by positivity
  have hsize : (n : ℚ) ≤ 2 ^ (64 : ℤ) := by
    have hcast : (n : ℚ) ≤ (UInt64.size : ℕ) := Nat.cast_le.mpr hn.le
    exact hcast.trans (le_of_eq (by norm_num [UInt64.size]))
  rw [div_le_iff₀ hten]
  calc (n : ℚ) ≤ 2 ^ (-959 : ℤ) * 2 ^ (1023 : ℤ) := by
        rwa [← zpow_add₀ (by norm_num), show (-959 : ℤ) + 1023 = 64 by norm_num]
    _ ≤ 2 ^ (-959 : ℤ) * 10 ^ 308 := mul_le_mul_of_nonneg_left two_pow_le_ten_pow (by positivity)

theorem two_halves_of_least : (2 : ℚ) ^ (-1075 : ℤ) + 2 ^ (-1075 : ℤ) = 2 ^ (-1074 : ℤ) := by
  rw [show (-1074 : ℤ) = -1075 + 1 by norm_num, zpow_add₀ (by norm_num), zpow_one]
  ring

/-- The quotient by the largest power of ten. -/
theorem near_div_largest (hpos : 0 < n) (hn : n < UInt64.size) :
    ∃ q, 0 ≤ q ∧ q < overflow ∧ (Double.ofNat n).div (powerOfTen 308) = nearest false q ∧
      Near (1 - 4 * halfUnit) (1 + 4 * halfUnit) (2 ^ (-1075 : ℤ))
        |(nearest false q).value| (n / 10 ^ 308) ∧ |(nearest false q).value| ≤ 2 ^ (-957 : ℤ) := by
  obtain ⟨q, hq, hoverflow, hdiv, hnear⟩ := near_div hpos hn (le_refl 308)
  refine ⟨q, hq, hoverflow, hdiv, hnear, ?_⟩
  have hleast : (2 : ℚ) ^ (-1075 : ℤ) ≤ 2 ^ (-959 : ℤ) :=
    zpow_le_zpow_right₀ (by norm_num) (by norm_num)
  have hsmall := div_ten_pow_le hn
  have hdouble : (1 + 4 * halfUnit) * ((n : ℚ) / 10 ^ 308) ≤ 2 * (n / 10 ^ 308) :=
    mul_le_mul_of_nonneg_right (by norm_num [halfUnit]) (by positivity)
  have hfour : (2 : ℚ) ^ (-957 : ℤ) = 4 * 2 ^ (-959 : ℤ) := by
    rw [show (-957 : ℤ) = 2 + -959 by norm_num, zpow_add₀ (by norm_num)]
    norm_num
  have hzero : (0 : ℚ) ≤ 2 ^ (-959 : ℤ) := zpow_nonneg (by norm_num) _
  have hbelow := hnear.below
  rw [hfour]
  generalize (n : ℚ) / 10 ^ 308 = left at hsmall hdouble hbelow
  linarith

/-- A second quotient, of what the largest power of ten leaves. -/
theorem scaled_div_div (hpos : 0 < n) (hn : n < UInt64.size) (hone : 1 ≤ k) (hk : k ≤ 308) :
    Scaled (((Double.ofNat n).div (powerOfTen 308)).div (powerOfTen k))
      (n / 10 ^ 308 / 10 ^ k) := by
  obtain ⟨q, hq, hoverflow, hdiv, hfirst, hsmall⟩ := near_div_largest hpos hn
  have hfinite := (Double.isFinite_nearest_iff false hq).mpr hoverflow
  have hten : (10 : ℚ) ≤ 10 ^ k := le_self_pow₀ (by norm_num) (by omega)
  have hexact : (0 : ℚ) ≤ n / 10 ^ 308 / 10 ^ k := by positivity
  have hleast : (0 : ℚ) ≤ 2 ^ (-1075 : ℤ) := zpow_nonneg (by norm_num) _
  rw [hdiv, div_powerOfTen hfinite (Double.isNegative_nearest false hq) hk]
  have hsecond := hfirst.div (near_powerOfTen hk) (abs_nonneg _) (by positivity)
    (by norm_num [halfUnit]) hleast
  have hnonneg : 0 ≤ |(nearest false q).value| / |(powerOfTen k).value| := by positivity
  have hbelow : |(nearest false q).value| / |(powerOfTen k).value| < overflow := by
    refine lt_overflow_of_le ((div_powerOfTen_le (abs_nonneg _) hk).trans ?_)
    have hone : (2 : ℚ) ^ (-957 : ℤ) ≤ 1 := zpow_le_one_of_nonpos₀ (by norm_num) (by norm_num)
    have hsize : (1 : ℚ) ≤ (UInt64.size : ℕ) := by norm_num [UInt64.size]
    linarith
  refine ⟨⟨_, hnonneg, hbelow, rfl⟩, ?_⟩
  have hloss : 0 ≤ (2 : ℚ) ^ (-1075 : ℤ) / ((1 - halfUnit) * 10 ^ k) := by
    have hunit : (0 : ℚ) ≤ 1 - halfUnit := by norm_num [halfUnit]
    exact div_nonneg hleast (mul_nonneg hunit (by positivity))
  have hboth := (Double.near_rounded false hnonneg hbelow).trans hsecond (by norm_num [halfUnit])
    (by norm_num [halfUnit]) hloss
  refine hboth.mono hexact (by norm_num [halfUnit]) (by norm_num [halfUnit]) ?_
  have hunit : 1 + halfUnit ≤ (1 - halfUnit) * 10 ^ k := by
    have hle := mul_le_mul_of_nonneg_left hten (show 0 ≤ 1 - halfUnit by norm_num [halfUnit])
    exact le_trans (by norm_num [halfUnit]) hle
  have hless : (1 + halfUnit) * ((2 : ℚ) ^ (-1075 : ℤ) / ((1 - halfUnit) * 10 ^ k)) ≤
      2 ^ (-1075 : ℤ) := by
    rw [← mul_div_assoc, div_le_iff₀ (lt_of_lt_of_le (by norm_num [halfUnit]) hunit), mul_comm]
    exact mul_le_mul_of_nonneg_left hunit hleast
  rw [← two_halves_of_least]
  exact add_le_add_right hless _

/-- Nothing is left after two quotients by the largest power of ten. -/
theorem div_div_largest (hpos : 0 < n) (hn : n < UInt64.size) :
    ((Double.ofNat n).div (powerOfTen 308)).div (powerOfTen 308) = Double.zero false := by
  obtain ⟨q, hq, hoverflow, hdiv, -, hsmall⟩ := near_div_largest hpos hn
  have hfinite := (Double.isFinite_nearest_iff false hq).mpr hoverflow
  rw [hdiv, div_powerOfTen hfinite (Double.isNegative_nearest false hq) le_rfl]
  refine Double.nearest_of_underflow false (by positivity) ?_
  have hone : (2 : ℚ) ^ (1022 : ℤ) ≤ |(powerOfTen 308).value| := by
    have habove := (near_powerOfTen (le_refl 308)).above
    have hhalf : 1 / 2 * (10 : ℚ) ^ 308 ≤ (1 - halfUnit) * 10 ^ 308 :=
      mul_le_mul_of_nonneg_right (by norm_num [halfUnit]) (by positivity)
    have htwo : (2 : ℚ) ^ (1023 : ℤ) = 2 * 2 ^ (1022 : ℤ) := by
      rw [show (1023 : ℤ) = 1 + 1022 by norm_num, zpow_add₀ (by norm_num), zpow_one]
    have hten := two_pow_le_ten_pow
    rw [htwo] at hten
    generalize (10 : ℚ) ^ 308 = ten at habove hhalf hten
    linarith
  have hpos : (0 : ℚ) < 2 ^ (1022 : ℤ) := zpow_pos (by norm_num) _
  calc |(nearest false q).value| / |(powerOfTen 308).value|
      ≤ 2 ^ (-957 : ℤ) / 2 ^ (1022 : ℤ) :=
        div_le_div₀ (zpow_nonneg (by norm_num) _) hsmall hpos hone
    _ = 2 ^ (-957 - 1022 : ℤ) := (zpow_sub₀ (by norm_num) _ _).symm
    _ < 2 ^ (-1075 : ℤ) := zpow_lt_zpow_right₀ (by norm_num) (by norm_num)

/-- Zero is near what is less than the least double. -/
theorem scaled_of_zero {q v : ℚ} (hq : 0 ≤ q) (hoverflow : q < overflow)
    (hzero : |(nearest false q).value| = 0) (hv : 0 ≤ v) (hsmall : v ≤ 2 ^ (-1074 : ℤ)) :
    Scaled (nearest false q) v := by
  refine ⟨⟨q, hq, hoverflow, rfl⟩, ?_⟩
  rw [hzero]
  exact Near.zero hv hsmall (by norm_num [halfUnit]) (by norm_num [halfUnit])

/-- The first quotient is zero only where the exact number is less than the
least double. -/
theorem scaled_div_of_isZero (hpos : 0 < n) (hn : n < UInt64.size)
    (hzero : ((Double.ofNat n).div (powerOfTen 308)).isZero = true) :
    Scaled ((Double.ofNat n).div (powerOfTen 308)) (n / 10 ^ 308 / 10 ^ k) := by
  obtain ⟨q, hq, hoverflow, hdiv, hnear, -⟩ := near_div_largest hpos hn
  have hfinite := (Double.isFinite_nearest_iff false hq).mpr hoverflow
  rw [hdiv] at hzero ⊢
  have hvalue := (Double.isZero_iff hfinite).mp hzero
  refine scaled_of_zero hq hoverflow hvalue (by positivity) ?_
  have habove := hnear.above
  have hdouble := two_halves_of_least
  have hquotient : (n : ℚ) / 10 ^ 308 / 10 ^ k ≤ n / 10 ^ 308 :=
    div_le_self (by positivity) (one_le_pow₀ (by norm_num))
  have hhalf : 1 / 2 * ((n : ℚ) / 10 ^ 308) ≤ (1 - 4 * halfUnit) * (n / 10 ^ 308) :=
    mul_le_mul_of_nonneg_right (by norm_num [halfUnit]) (by positivity)
  rw [hvalue] at habove
  generalize (n : ℚ) / 10 ^ 308 = left at habove hquotient hhalf ⊢
  linarith

theorem scaled_zero (hn : n < UInt64.size) (hk : 308 ≤ k) :
    Scaled (Double.zero false) (n / 10 ^ 308 / 10 ^ k) := by
  refine scaled_of_zero le_rfl
    (lt_of_lt_of_le (zpow_pos (by norm_num) _) Double.two_pow_le_overflow)
    (Double.abs_value_zero false) (by positivity) ?_
  have hten : (2 : ℚ) ^ (1023 : ℤ) ≤ 10 ^ k :=
    two_pow_le_ten_pow.trans (pow_le_pow_right₀ (by norm_num) hk)
  calc (n : ℚ) / 10 ^ 308 / 10 ^ k ≤ 2 ^ (-959 : ℤ) / 2 ^ (1023 : ℤ) :=
        div_le_div₀ (zpow_nonneg (by norm_num) _) (div_ten_pow_le hn) (zpow_pos (by norm_num) _)
          hten
    _ = 2 ^ (-959 - 1023 : ℤ) := (zpow_sub₀ (by norm_num) _ _).symm
    _ ≤ 2 ^ (-1074 : ℤ) := zpow_le_zpow_right₀ (by norm_num) (by norm_num)

/-- A positive significand is no zero. -/
theorem isZero_ofNat (hpos : 0 < n) (hn : n < UInt64.size) : (Double.ofNat n).isZero = false := by
  rw [← Bool.not_eq_true, Double.isZero_iff (isFinite_ofNat hn)]
  have hhalf := one_half_le_ofNat hpos hn
  linarith

/-- What becomes of a negative exponent. -/
theorem scaled_down (hpos : 0 < n) (hn : n < UInt64.size) (hk : 0 < k)
    (hx : applyExponent (Double.ofNat n) (-k) = some x) : Scaled x (n / 10 ^ k) := by
  rcases le_or_gt k 308 with hle | hfar
  · rw [applyExponent_down _ hk hle, Option.some_inj] at hx
    obtain ⟨q, hq, hoverflow, hdiv, hnear⟩ := near_div hpos hn hle
    rw [← hx, hdiv]
    exact ⟨⟨q, hq, hoverflow, rfl⟩, hnear.mono (by positivity) (by norm_num [halfUnit])
      (by norm_num [halfUnit]) (zpow_le_zpow_right₀ (by norm_num) (by norm_num))⟩
  obtain ⟨j, rfl⟩ := Nat.exists_eq_add_of_le hfar.le
  rw [applyExponent_far_down _ hfar, if_neg (by rw [isZero_ofNat hpos hn]; decide),
    Nat.add_sub_cancel_left] at hx
  rw [pow_add, ← div_div]
  rcases le_or_gt j 308 with hle | hfurther
  · rw [applyExponent_down _ (by omega) hle, Option.some_inj] at hx
    rw [← hx]
    exact scaled_div_div hpos hn (by omega) hle
  rw [applyExponent_far_down _ hfurther] at hx
  split at hx
  · next hzero =>
    rw [← Option.some_inj.mp hx]
    exact scaled_div_of_isZero hpos hn hzero
  · rw [div_div_largest hpos hn, applyExponent_zero, Option.some_inj] at hx
    rw [← hx]
    exact scaled_zero hn (by omega)

/-- Far down nothing is left. -/
theorem abs_value_of_far (hpos : 0 < n) (hn : n < UInt64.size) (hk : 616 < k)
    (hx : applyExponent (Double.ofNat n) (-k) = some x) : |x.value| = 0 := by
  obtain ⟨q, hq, hoverflow, hdiv, -⟩ := near_div_largest hpos hn
  rw [applyExponent_far_down _ (by omega), if_neg (by rw [isZero_ofNat hpos hn]; decide),
    applyExponent_far_down _ (by omega)] at hx
  split at hx
  · next hzero =>
    rw [← Option.some_inj.mp hx, hdiv]
    rw [hdiv] at hzero
    exact (Double.isZero_iff ((Double.isFinite_nearest_iff false hq).mpr hoverflow)).mp hzero
  · rw [div_div_largest hpos hn, applyExponent_zero, Option.some_inj] at hx
    rw [← hx, Double.abs_value_zero]

/-- The result of applying an exponent is near the number that the significand
and the exponent stand for. -/
theorem scaled_applyExponent (hpos : 0 < n) (hn : n < UInt64.size)
    (hx : applyExponent (Double.ofNat n) e = some x) : Scaled x (n * 10 ^ e) := by
  have hup : ∀ k : ℕ, applyExponent (Double.ofNat n) k = some x → Scaled x (n * 10 ^ k) := by
    intro k hx
    rcases le_or_gt k 308 with hk | hk
    · rw [applyExponent_up _ hk] at hx
      split at hx
      · next hfinite =>
        rw [← Option.some_inj.mp hx]
        exact scaled_mul hpos hn hk hfinite
      · exact absurd hx nofun
    · rw [applyExponent_far_up _ hk, if_neg (by rw [isZero_ofNat hpos hn]; decide)] at hx
      exact absurd hx nofun
  obtain ⟨k, rfl | rfl⟩ := e.eq_nat_or_neg
  · rw [zpow_natCast]
    exact hup k hx
  rcases Nat.eq_zero_or_pos k with rfl | hk
  · have hzero := hup 0 (by rwa [Nat.cast_zero, neg_zero] at hx)
    rwa [Nat.cast_zero, neg_zero, zpow_zero, ← pow_zero 10]
  · rw [zpow_neg, zpow_natCast, ← div_eq_mul_inv]
    exact scaled_down hpos hn hk hx

/-- Whatever comes of an exponent is a rounded number in the range of doubles. -/
theorem rounded_of_applyExponent (hn : n < UInt64.size)
    (hx : applyExponent (Double.ofNat n) e = some x) :
    ∃ q, 0 ≤ q ∧ q < overflow ∧ x = nearest false q := by
  rcases Nat.eq_zero_or_pos n with rfl | hpos
  · rw [Double.ofNat_eq_nearest, Nat.cast_zero, Double.nearest_zero, applyExponent_zero,
      Option.some_inj] at hx
    exact ⟨0, le_rfl, lt_of_lt_of_le (zpow_pos (by norm_num) _) Double.two_pow_le_overflow,
      by rw [← hx, Double.nearest_zero]⟩
  · exact (scaled_applyExponent hpos hn hx).rounded

/-! ## One rounding -/

/-- Up to this power, powers of ten are doubles. -/
theorem abs_value_powerOfTen (h : k ≤ 22) : |(powerOfTen k).value| = 10 ^ k := by
  have hfive : 5 ^ k < Nat.pow 2 53 :=
    lt_of_le_of_lt (Nat.pow_le_pow_right (by norm_num) h) (by decide)
  have hparts : (10 : ℚ) ^ k = (5 ^ k : ℕ) * 2 ^ (k : ℤ) := by
    rw [zpow_natCast, Nat.cast_pow, ← mul_pow]
    norm_num
  rw [powerOfTen_eq_nearest]
  exact Double.abs_value_nearest_of_eq false hparts hfive (by omega)
    (ten_pow_lt_overflow (by omega))

theorem applyExponent_none (hn : n < UInt64.size) :
    applyExponent (Double.ofNat n) 0 = some (nearest false n) := by
  have hvalue := Double.nearest_value (isFinite_ofNat hn)
  rw [isNegative_ofNat] at hvalue
  rw [← Nat.cast_zero, applyExponent_up _ (by omega),
    mul_powerOfTen (isFinite_ofNat hn) (isNegative_ofNat n) (by omega),
    abs_value_powerOfTen (by omega), pow_zero, mul_one, hvalue, if_pos (isFinite_ofNat hn),
    Double.ofNat_eq_nearest]

/-- Where the significand is a double and so is the power of ten, the result is
the double nearest to the exact number. -/
theorem applyExponent_exact (hn : n < UInt64.size) (hexact : |(Double.ofNat n).value| = n)
    (he : e.natAbs ≤ 22) :
    applyExponent (Double.ofNat n) e = some (nearest false (n * 10 ^ e)) := by
  obtain ⟨k, rfl | rfl⟩ := e.eq_nat_or_neg
  · rw [Int.natAbs_natCast] at he
    have hbelow : (n : ℚ) * 10 ^ k < overflow := by
      refine lt_of_le_of_lt (b := 2 ^ (140 : ℤ)) ?_
        (lt_of_lt_of_le (zpow_lt_zpow_right₀ (by norm_num) (by norm_num))
          Double.two_pow_le_overflow)
      calc (n : ℚ) * 10 ^ k ≤ (UInt64.size : ℕ) * 10 ^ 22 :=
            mul_le_mul (Nat.cast_le.mpr hn.le) (pow_le_pow_right₀ (by norm_num) he)
              (by positivity) (Nat.cast_nonneg _)
        _ ≤ 2 ^ (140 : ℤ) := by norm_num [UInt64.size]
    rw [applyExponent_up _ (by omega),
      mul_powerOfTen (isFinite_ofNat hn) (isNegative_ofNat n) (by omega), hexact,
      abs_value_powerOfTen he,
      if_pos ((Double.isFinite_nearest_iff false (by positivity)).mpr hbelow), zpow_natCast]
  · rw [Int.natAbs_neg, Int.natAbs_natCast] at he
    rcases Nat.eq_zero_or_pos k with rfl | hk
    · rw [Nat.cast_zero, neg_zero, zpow_zero, mul_one]
      exact applyExponent_none hn
    · rw [applyExponent_down _ hk (by omega),
        div_powerOfTen (isFinite_ofNat hn) (isNegative_ofNat n) (by omega), hexact,
        abs_value_powerOfTen he, zpow_neg, zpow_natCast, ← div_eq_mul_inv]

end Dashboard.Json
