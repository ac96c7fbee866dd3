import Dashboard.Proofs.Json.Token

/-!
# How near a decoded number is

A token is decoded to a double near to the number that it stands for: within a
2^50th part of it or within the least double (`Decoded.near`). Where the digits
make a double and so does the power of ten, or where there is no power, it is
the nearest one (`decodedDouble?_of_once`).

Of the error the arithmetic makes the greater part. The digits that do not fit
are worth less than a 2^60th part of the others (`near_gathered`).
-/

namespace Dashboard.Json

open Double (nearest halfUnit)
open Dashboard.Number (Token Exponent Near digitsAfter)

variable {t : Token} {x : Double} {n k : ℕ}

/-! ## Digits that do not fit -/

/-- What is gathered of a token, counted in units of its last digit. -/
def placed (t : Token) : ℕ := (gathered t).1 * 10 ^ ((wholePart t).2 + (gathered t).2)

/-- One number is within a 2^60th part of the other. -/
def Close (p d : ℕ) : Prop := 2 ^ 60 * p ≤ 2 ^ 60 * d + d ∧ 2 ^ 60 * d ≤ 2 ^ 60 * p + d

/-- Two numbers are close where both are a little above a third. -/
theorem close_of_between {b δ p d : ℕ} (hp : b ≤ p) (hp' : p ≤ b + δ) (hd : b ≤ d)
    (hd' : d ≤ b + δ) (hsmall : 2 ^ 60 * δ ≤ b) : Close p d := by
  unfold Close
  omega

theorem coefficient_eq (t : Token) :
    t.coefficient = digitsAfter (digitsAfter 0 t.whole) t.fraction := by
  rw [Token.coefficient, Number.digitsAfter_append]

theorem wholePart_between (t : Token) :
    (wholePart t).1 * 10 ^ (wholePart t).2 ≤ digitsAfter 0 t.whole ∧
      digitsAfter 0 t.whole < ((wholePart t).1 + 1) * 10 ^ (wholePart t).2 :=
  gather_between 0 t.whole

/-- The digits after the point stay below one more in the last place before it. -/
theorem gathered_within (t : Token) :
    (wholePart t).1 * 10 ^ t.fraction.length ≤ (gathered t).1 * 10 ^ (gathered t).2 ∧
      (gathered t).1 * 10 ^ (gathered t).2 < ((wholePart t).1 + 1) * 10 ^ t.fraction.length :=
  gather_within (wholePart t).1 t.fraction

theorem digitsAfter_whole (h : (wholePart t).2 = 0) : digitsAfter 0 t.whole = (wholePart t).1 := by
  have hbetween := wholePart_between t
  rw [h, pow_zero, mul_one, mul_one] at hbetween
  omega

theorem gathered_between (h : (wholePart t).2 = 0) :
    (gathered t).1 * 10 ^ (gathered t).2 ≤ t.coefficient ∧
      t.coefficient < ((gathered t).1 + 1) * 10 ^ (gathered t).2 := by
  rw [coefficient_eq, digitsAfter_whole h]
  exact gather_between (wholePart t).1 t.fraction

/-- Both are close where digits before the point are left: they agree in the
digits before those. -/
theorem close_placed_of_whole (h : (wholePart t).2 ≠ 0) : Close (placed t) t.coefficient := by
  obtain ⟨hwhole, hwhole'⟩ := wholePart_between t
  obtain ⟨hlow, hhigh⟩ := gathered_within t
  have hmany : 2 ^ 60 ≤ (wholePart t).1 := le_gather h
  have hfraction := Number.digitsAfter_lt t.fraction
  have hplaced : placed t = (gathered t).1 * 10 ^ (gathered t).2 * 10 ^ (wholePart t).2 := by
    rw [placed, pow_add]
    ring
  have hcoefficient : t.coefficient =
      digitsAfter 0 t.whole * 10 ^ t.fraction.length + digitsAfter 0 t.fraction := by
    rw [coefficient_eq, Number.digitsAfter_eq]
  refine close_of_between
    (b := (wholePart t).1 * (10 ^ (wholePart t).2 * 10 ^ t.fraction.length))
    (δ := 10 ^ (wholePart t).2 * 10 ^ t.fraction.length) ?_ ?_ ?_ ?_ (Nat.mul_le_mul_right _ hmany)
  · rw [hplaced, mul_comm (10 ^ (wholePart t).2), ← mul_assoc]
    exact Nat.mul_le_mul_right _ hlow
  · rw [hplaced, ← Nat.succ_mul, mul_comm (10 ^ (wholePart t).2), ← mul_assoc]
    exact Nat.mul_le_mul_right _ hhigh.le
  · rw [hcoefficient, ← mul_assoc]
    exact (Nat.mul_le_mul_right _ hwhole).trans (Nat.le_add_right _ _)
  · rw [hcoefficient, ← Nat.succ_mul, ← mul_assoc]
    have hstep := Nat.mul_le_mul_right (10 ^ t.fraction.length) (Nat.succ_le_of_lt hwhole')
    rw [Nat.succ_mul] at hstep
    exact (Nat.add_le_add_left hfraction.le _).trans hstep

/-- Where only digits after the point may be left, the others are as they are
written. -/
theorem close_placed_of_fraction (h : (wholePart t).2 = 0) : Close (placed t) t.coefficient := by
  obtain ⟨hlow, hhigh⟩ := gathered_between h
  rw [placed, h, Nat.zero_add]
  by_cases hleft : (gathered t).2 = 0
  · rw [hleft, pow_zero, mul_one] at hlow hhigh
    rw [hleft, pow_zero, mul_one]
    exact close_of_between le_rfl (Nat.le_add_right _ 0) hlow (Nat.le_of_lt_succ hhigh)
      (Nat.zero_le _)
  · rw [Nat.succ_mul] at hhigh
    exact close_of_between le_rfl (Nat.le_add_right _ _) hlow hhigh.le
      (Nat.mul_le_mul_right _ (le_gather hleft))

theorem close_placed (t : Token) : Close (placed t) t.coefficient := by
  by_cases h : (wholePart t).2 = 0
  · exact close_placed_of_fraction h
  · exact close_placed_of_whole h

theorem near_gathered (t : Token) :
    Near (1 - halfUnit / 2) (1 + halfUnit / 2) 0 (placed t) t.coefficient := by
  obtain ⟨habove, hbelow⟩ := close_placed t
  have habove' : (2 : ℚ) ^ 60 * placed t ≤ 2 ^ 60 * t.coefficient + t.coefficient := by
    exact_mod_cast habove
  have hbelow' : (2 : ℚ) ^ 60 * t.coefficient ≤ 2 ^ 60 * placed t + t.coefficient := by
    exact_mod_cast hbelow
  have hnonneg : (0 : ℚ) ≤ t.coefficient := Nat.cast_nonneg _
  constructor <;> norm_num [halfUnit] <;> linarith

theorem gathered_eq_zero_iff (t : Token) : (gathered t).1 = 0 ↔ t.coefficient = 0 := by
  obtain ⟨habove, hbelow⟩ := close_placed t
  have hplaced : placed t = 0 ↔ (gathered t).1 = 0 := by
    rw [placed, Nat.mul_eq_zero, or_iff_left (by positivity)]
  rw [← hplaced]
  omega

/-- What the decoder applies its power of ten to, and the power, are what is
gathered at its place. -/
theorem gathered_mul (t : Token) :
    ((gathered t).1 : ℚ) * 10 ^ (start t + t.written) = placed t * 10 ^ t.power := by
  have hexponent : start t + t.written =
      (((wholePart t).2 + (gathered t).2 : ℕ) : ℤ) + t.power := by
    have hle : (gathered t).2 ≤ t.fraction.length := gather_left_le _ _
    rw [start, Token.power]
    omega
  rw [hexponent, zpow_add₀ (by norm_num), zpow_natCast, placed, Nat.cast_mul, Nat.cast_pow,
    Nat.cast_ofNat, mul_assoc]

theorem magnitude_nonneg (t : Token) : 0 ≤ t.magnitude :=
  mul_nonneg (Nat.cast_nonneg _) (zpow_nonneg (by norm_num) _)

theorem near_magnitude (t : Token) : Near (1 - halfUnit / 2) (1 + halfUnit / 2) 0
    ((gathered t).1 * 10 ^ (start t + t.written)) t.magnitude := by
  rw [gathered_mul, Token.magnitude]
  exact (near_gathered t).mul_right (Nat.cast_nonneg _) (by positivity) (by norm_num [halfUnit])

/-! ## Numbers that are too small -/

theorem le_least_of_exponent {v : ℚ} {e : ℤ} (he : e ≤ -616) (hv : v ≤ 2 ^ (65 : ℤ) * 10 ^ e) :
    v ≤ 2 ^ (-1074 : ℤ) := by
  have hten : (10 : ℚ) ^ e ≤ 2 ^ (-2046 : ℤ) := by
    calc (10 : ℚ) ^ e ≤ 10 ^ (-616 : ℤ) := zpow_le_zpow_right₀ (by norm_num) he
      _ = (10 ^ 308)⁻¹ * (10 ^ 308)⁻¹ := by
        rw [show (-616 : ℤ) = -(308 : ℕ) + -(308 : ℕ) by norm_num, zpow_add₀ (by norm_num),
          zpow_neg, zpow_natCast]
      _ ≤ (2 ^ (1023 : ℤ))⁻¹ * (2 ^ (1023 : ℤ))⁻¹ := by
        have hinv := inv_anti₀ (zpow_pos (by norm_num) _) two_pow_le_ten_pow
        exact mul_le_mul hinv hinv (inv_nonneg.mpr (by positivity))
          (inv_nonneg.mpr (zpow_nonneg (by norm_num) _))
      _ = 2 ^ (-2046 : ℤ) := by
        rw [← zpow_neg, ← zpow_add₀ (by norm_num)]
        norm_num
  refine hv.trans ((mul_le_mul_of_nonneg_left hten (by positivity)).trans ?_)
  rw [← zpow_add₀ (by norm_num)]
  exact zpow_le_zpow_right₀ (by norm_num) (by norm_num)

/-! ## The double of a token -/

theorem powerDouble?_eq_some {negative : Bool} {e : ℤ} (hn : n < UInt64.size)
    (hx : powerDouble? negative n e = some x) :
    ∃ q, 0 ≤ q ∧ q < Double.overflow ∧ x = nearest negative q ∧
      applyExponent (Double.ofNat n) e = some (nearest false q) := by
  obtain ⟨f, hf, hsigned⟩ := Option.map_eq_some_iff.mp hx
  obtain ⟨q, hq, hoverflow, rfl⟩ := rounded_of_applyExponent hn hf
  rw [Double.nearest_signed negative hq] at hsigned
  exact ⟨q, hq, hoverflow, hsigned.symm, hf⟩

theorem powerDouble?_of_zero (negative : Bool) (e : ℤ) :
    powerDouble? negative 0 e = some (nearest negative 0) := by
  rw [powerDouble?, Double.ofNat_eq_nearest, Nat.cast_zero, Double.nearest_zero, applyExponent_zero,
    Option.map_some, ← Double.nearest_zero, Double.nearest_signed negative le_rfl]

/-- Zero is zero with any exponent. -/
theorem decodedDouble?_of_zero (h : t.coefficient = 0) :
    decodedDouble? t = some (nearest t.negative 0) := by
  have hgathered := (gathered_eq_zero_iff t).mpr h
  rw [decodedDouble?]
  cases t.exponent with
  | none =>
      dsimp only
      rw [hgathered, powerDouble?_of_zero]
  | some y =>
      dsimp only
      rw [exponentDouble?, hgathered, powerDouble?_of_zero]
      split
      · rfl
      · exact if_neg fun hne => hne.1 rfl

/-- A decoded double is applied to its power of ten, which with an exponent may be
clamped, or is zero: for its digits, or for an exponent that is far too small. -/
theorem decodedDouble?_cases (hx : decodedDouble? t = some x) :
    powerDouble? t.negative (gathered t).1 (start t + t.written) = some x ∨
      powerDouble? t.negative (gathered t).1 (clampExponent (start t + t.written)) = some x ∨
      x = Double.zero t.negative ∧
        ((gathered t).1 = 0 ∨ t.written < -(exponentLimit : ℤ)) := by
  rw [decodedDouble?] at hx
  cases hexponent : t.exponent with
  | none =>
      have hwritten : t.written = 0 := by rw [Token.written, hexponent]; rfl
      rw [hexponent] at hx
      rw [hwritten, add_zero]
      exact .inl hx
  | some y =>
      have hwritten : t.written = y.value := by rw [Token.written, hexponent]; rfl
      rw [hexponent] at hx
      dsimp only at hx
      rw [exponentDouble?, ← hwritten] at hx
      split at hx
      · exact .inr (.inl hx)
      next hlarge =>
      split at hx
      · cases hx
      next hdown =>
      refine .inr (.inr ⟨(Option.some_inj.mp hx).symm, ?_⟩)
      by_cases hzero : (gathered t).1 = 0
      · exact .inl hzero
      have hy : y.down = true := by
        by_contra hup
        exact hdown ⟨hzero, by rw [Bool.eq_false_of_not_eq_true hup]; rfl⟩
      have hvalue : y.value = -(y.magnitude : ℤ) := by rw [Exponent.value, if_pos hy]
      right
      omega

theorem abs_value_powerDouble? {negative : Bool} {e : ℤ} (hpos : 0 < n) (hn : n < UInt64.size)
    (hx : powerDouble? negative n e = some x) :
    Near (1 - 7 * halfUnit) (1 + 7 * halfUnit) (2 ^ (-1074 : ℤ)) |x.value| (n * 10 ^ e) := by
  obtain ⟨q, hq, hoverflow, rfl, hf⟩ := powerDouble?_eq_some hn hx
  rw [Double.abs_value_nearest_signed negative hq hoverflow]
  exact (scaled_applyExponent hpos hn hf).near

/-- What is said of the double of a token. -/
structure Decoded (t : Token) (x : Double) : Prop where
  finite : x.isFinite = true
  sign : x.isNegative = t.negative
  near : t.whole.length ≤ 2 ^ 30 →
    Near (1 - 8 * halfUnit) (1 + 8 * halfUnit) (2 ^ (-1074 : ℤ)) |x.value| t.magnitude

theorem near_of_applied (hpos : 0 < (gathered t).1)
    (hx : powerDouble? t.negative (gathered t).1 (start t + t.written) = some x) :
    Near (1 - 8 * halfUnit) (1 + 8 * halfUnit) (2 ^ (-1074 : ℤ)) |x.value| t.magnitude := by
  have hboth := (abs_value_powerDouble? hpos (gathered_lt t) hx).trans (near_magnitude t)
    (by norm_num [halfUnit]) (by norm_num [halfUnit]) le_rfl
  refine hboth.mono (magnitude_nonneg t) (by norm_num [halfUnit]) (by norm_num [halfUnit]) ?_
  rw [mul_zero, add_zero]

theorem near_of_small (hzero : |x.value| = 0) (hsmall : t.magnitude ≤ 2 ^ (-1074 : ℤ)) :
    Near (1 - 8 * halfUnit) (1 + 8 * halfUnit) (2 ^ (-1074 : ℤ)) |x.value| t.magnitude := by
  rw [hzero]
  exact Near.zero (magnitude_nonneg t) hsmall (by norm_num [halfUnit]) (by norm_num [halfUnit])

theorem clampExponent_of_mem {e : ℤ} (hlow : -(exponentLimit + 1 : ℕ) ≤ e)
    (hhigh : e ≤ exponentLimit) : clampExponent e = e := by
  rw [clampExponent, min_eq_left hhigh, max_eq_right hlow]

/-- Beyond the largest exponent nothing is in range. -/
theorem powerDouble?_of_large (negative : Bool) {k : ℕ} (hpos : 0 < n) (hn : n < UInt64.size)
    (hk : 308 < k) : powerDouble? negative n k = none := by
  rw [powerDouble?, applyExponent_far_up _ hk, if_neg (by rw [isZero_ofNat hpos hn]; decide)]
  rfl

/-- Below the least exponent nothing is left. -/
theorem abs_value_of_small {negative : Bool} (hpos : 0 < n) (hn : n < UInt64.size) (hk : 616 < k)
    (hx : powerDouble? negative n (-k) = some x) : |x.value| = 0 := by
  obtain ⟨q, hq, hoverflow, rfl, hf⟩ := powerDouble?_eq_some hn hx
  rw [Double.abs_value_nearest_signed negative hq hoverflow]
  exact abs_value_of_far hpos hn hk hf

/-- A token whose last gathered digit is far behind the point is small. -/
theorem magnitude_le_of_exponent (h : start t + t.written ≤ -616) :
    t.magnitude ≤ 2 ^ (-1074 : ℤ) := by
  have habove := (near_magnitude t).above
  have hten : (0 : ℚ) ≤ 10 ^ (start t + t.written) := zpow_nonneg (by norm_num) _
  have hhalf : 1 / 2 * t.magnitude ≤ (1 - halfUnit / 2) * t.magnitude :=
    mul_le_mul_of_nonneg_right (by norm_num [halfUnit]) (magnitude_nonneg t)
  have hsize : ((gathered t).1 : ℚ) ≤ 2 ^ (64 : ℤ) := by
    have hcast : ((gathered t).1 : ℚ) ≤ (UInt64.size : ℕ) := Nat.cast_le.mpr (gathered_lt t).le
    exact hcast.trans (le_of_eq (by norm_num [UInt64.size]))
  have hproduct := mul_le_mul_of_nonneg_right hsize hten
  refine le_least_of_exponent h ?_
  rw [show (65 : ℤ) = 1 + 64 by norm_num, zpow_add₀ (by norm_num), zpow_one, mul_assoc]
  linarith

/-- A token whose exponent outweighs its digits is small. -/
theorem magnitude_le_of_written (h : t.whole.length + t.written ≤ -616) :
    t.magnitude ≤ 2 ^ (-1074 : ℤ) := by
  have hten : (1 : ℚ) ≤ 10 := by norm_num
  have hdigits := Number.digitsAfter_lt (t.whole ++ t.fraction)
  have hcoefficient : (t.coefficient : ℚ) ≤ 10 ^ (t.whole.length + t.fraction.length : ℤ) := by
    rw [← Nat.cast_add, zpow_natCast, ← List.length_append]
    exact_mod_cast hdigits.le
  refine le_least_of_exponent h ?_
  calc t.magnitude ≤ 10 ^ (t.whole.length + t.fraction.length : ℤ) * 10 ^ t.power :=
        mul_le_mul_of_nonneg_right hcoefficient (zpow_nonneg (by norm_num) _)
    _ = 10 ^ (t.whole.length + t.written) := by
        rw [← zpow_add₀ (by norm_num), Token.power]
        congr 1
        ring
    _ ≤ 2 ^ (65 : ℤ) * 10 ^ (t.whole.length + t.written) :=
        le_mul_of_one_le_left (zpow_nonneg (by norm_num) _) (by norm_num)

theorem near_of_clamped (hpos : 0 < (gathered t).1)
    (hx : powerDouble? t.negative (gathered t).1 (clampExponent (start t + t.written)) = some x) :
    Near (1 - 8 * halfUnit) (1 + 8 * halfUnit) (2 ^ (-1074 : ℤ)) |x.value| t.magnitude := by
  have hlimit : exponentLimit = 2147483647 := by decide
  rcases lt_or_ge (exponentLimit : ℤ) (start t + t.written) with hlarge | hle
  · rw [clampExponent, min_eq_right hlarge.le, max_eq_right (by omega),
      powerDouble?_of_large _ hpos (gathered_lt t) (by omega)] at hx
    cases hx
  rcases lt_or_ge (start t + t.written) (-(exponentLimit + 1 : ℕ)) with hsmall | hge
  · rw [clampExponent, min_eq_left hle, max_eq_left hsmall.le] at hx
    exact near_of_small (abs_value_of_small hpos (gathered_lt t) (by omega) hx)
      (magnitude_le_of_exponent (by omega))
  · rw [clampExponent_of_mem hge hle] at hx
    exact near_of_applied hpos hx

theorem near_of_decoded (hlength : t.whole.length ≤ 2 ^ 30) (hx : decodedDouble? t = some x) :
    Near (1 - 8 * halfUnit) (1 + 8 * halfUnit) (2 ^ (-1074 : ℤ)) |x.value| t.magnitude := by
  have hlimit : exponentLimit = 2147483647 := by decide
  rcases Nat.eq_zero_or_pos (gathered t).1 with hzero | hpos
  · have hcoefficient := (gathered_eq_zero_iff t).mp hzero
    rw [decodedDouble?_of_zero hcoefficient, Option.some_inj, Double.nearest_zero] at hx
    have hmagnitude : t.magnitude = 0 := by
      rw [Token.magnitude, hcoefficient, Nat.cast_zero, zero_mul]
    refine near_of_small ?_ (by rw [hmagnitude]; exact zpow_nonneg (by norm_num) _)
    rw [← hx, Double.abs_value_zero]
  · rcases decodedDouble?_cases hx with happlied | hclamped | ⟨rfl, hzero | hwritten⟩
    · exact near_of_applied hpos happlied
    · exact near_of_clamped hpos hclamped
    · exact absurd hzero hpos.ne'
    · exact near_of_small (Double.abs_value_zero _) (magnitude_le_of_written (by omega))

theorem rounded_of_decoded (hx : decodedDouble? t = some x) :
    ∃ q, 0 ≤ q ∧ q < Double.overflow ∧ x = nearest t.negative q := by
  have hzero : (0 : ℚ) < Double.overflow :=
    lt_of_lt_of_le (zpow_pos (by norm_num) _) Double.two_pow_le_overflow
  have hpower : ∀ e, powerDouble? t.negative (gathered t).1 e = some x →
      ∃ q, 0 ≤ q ∧ q < Double.overflow ∧ x = nearest t.negative q := by
    intro e he
    obtain ⟨q, hq, hoverflow, hrounded, -⟩ := powerDouble?_eq_some (gathered_lt t) he
    exact ⟨q, hq, hoverflow, hrounded⟩
  rcases decodedDouble?_cases hx with happlied | hclamped | ⟨hx, -⟩
  · exact hpower _ happlied
  · exact hpower _ hclamped
  · exact ⟨0, le_rfl, hzero, hx.trans (Double.nearest_zero _).symm⟩

/-- The double of a token is finite, has its sign and is near to its number. -/
theorem decoded_of_some (hx : decodedDouble? t = some x) : Decoded t x := by
  obtain ⟨q, hq, hoverflow, hrounded⟩ := rounded_of_decoded hx
  refine ⟨?_, ?_, fun hlength => near_of_decoded hlength hx⟩
  · rw [hrounded]
    exact (Double.isFinite_nearest_iff _ hq).mpr hoverflow
  · rw [hrounded]
    exact Double.isNegative_nearest _ hq

/-! ## Tokens that are rounded once -/

/-- There are no digits but zeros, or they all fit and only one step of the
decoder rounds: there is no power of ten, or the digits and the power are
doubles themselves. -/
def RoundsOnce (t : Token) : Prop :=
  t.coefficient = 0 ∨ t.coefficient < UInt64.size ∧
    (t.power = 0 ∨ |(Double.ofNat t.coefficient).value| = t.coefficient ∧ t.power.natAbs ≤ 22)

theorem gathered_of_lt (h : t.coefficient < UInt64.size) :
    (gathered t).1 = t.coefficient ∧ start t + t.written = t.power := by
  have hle : digitsAfter 0 t.whole ≤ t.coefficient := by
    rw [coefficient_eq]
    exact Number.le_digitsAfter _ _
  have hwhole : wholePart t = (digitsAfter 0 t.whole, 0) := gather_of_lt (hle.trans_lt h)
  have hgathered : gathered t = (t.coefficient, 0) := by
    rw [gathered, hwhole, coefficient_eq]
    exact gather_of_lt (by rwa [← coefficient_eq])
  refine ⟨by rw [hgathered], ?_⟩
  rw [start, hwhole, hgathered, Token.power, Nat.sub_zero, Nat.cast_zero, zero_sub, neg_add_eq_sub]

theorem powerDouble?_of_once (h : t.coefficient < UInt64.size)
    (honce : t.power = 0 ∨
      |(Double.ofNat t.coefficient).value| = t.coefficient ∧ t.power.natAbs ≤ 22) :
    powerDouble? t.negative t.coefficient t.power = some (nearest t.negative t.magnitude) := by
  rcases honce with hpower | ⟨hexact, hpower⟩
  · rw [Token.magnitude, hpower, zpow_zero, mul_one, powerDouble?_zero _ h]
  · have hsigned := Double.nearest_signed t.negative (magnitude_nonneg t)
    rw [Token.magnitude] at hsigned
    rw [powerDouble?, applyExponent_exact h hexact hpower, Option.map_some, hsigned,
      Token.magnitude]

/-- Where there is one rounding the decoded double is the nearest one. -/
theorem decodedDouble?_of_once (h : RoundsOnce t) (hx : decodedDouble? t = some x) :
    x = nearest t.negative t.magnitude := by
  rcases h with hzero | ⟨hlt, honce⟩
  · rw [decodedDouble?_of_zero hzero] at hx
    rw [← Option.some_inj.mp hx, Token.magnitude, hzero, Nat.cast_zero, zero_mul]
  obtain ⟨hgathered, hpower⟩ := gathered_of_lt hlt
  have hdouble := powerDouble?_of_once hlt honce
  have hsmall : t.power.natAbs ≤ 22 := honce.elim (fun hzero => by rw [hzero]; decide) And.right
  have hlimit : exponentLimit = 2147483647 := by decide
  rcases decodedDouble?_cases hx with happlied | hclamped | ⟨rfl, hzero | hwritten⟩
  · rw [hgathered, hpower, hdouble] at happlied
    exact (Option.some_inj.mp happlied).symm
  · rw [hgathered, hpower, clampExponent_of_mem (by omega) (by omega), hdouble] at hclamped
    exact (Option.some_inj.mp hclamped).symm
  · rw [Token.magnitude, ← hgathered, hzero, Nat.cast_zero, zero_mul, Double.nearest_zero]
  · rw [Token.power] at hsmall
    omega

end Dashboard.Json
