import Dashboard.Proofs.Number.Arithmetic

/-!
# How far rounding leads

A computation with several roundings stays near the number that it stands for:
between two multiples of it, but for a number that makes up for what is lost
below the least double. `Near` is that relation, and a rounding, a product and
a quotient each say what becomes of the multiples. Which multiples they are in
the end is arithmetic.
-/

namespace Dashboard.Number

variable {low high low' high' t t' x y v w : ℚ}

/-- `x` is between two multiples of `v`, or farther away by at most `t`. -/
structure Near (low high t x v : ℚ) : Prop where
  above : low * v - t ≤ x
  below : x ≤ high * v + t

namespace Near

theorem refl (v : ℚ) : Near 1 1 0 v v := ⟨by linarith, by linarith⟩

/-- Zero is near to what is small. -/
theorem zero (hv : 0 ≤ v) (ht : v ≤ t) (hlow : low ≤ 1) (hhigh : 0 ≤ high) :
    Near low high t 0 v := by
  have hle := mul_le_mul_of_nonneg_right hlow hv
  have hnonneg := mul_nonneg hhigh hv
  exact ⟨by linarith, by linarith⟩

theorem mono (h : Near low high t x v) (hv : 0 ≤ v) (hlow : low' ≤ low) (hhigh : high ≤ high')
    (ht : t ≤ t') : Near low' high' t' x v := by
  have hbelow := mul_le_mul_of_nonneg_right hlow hv
  have habove := mul_le_mul_of_nonneg_right hhigh hv
  exact ⟨by linarith [h.above], by linarith [h.below]⟩

theorem trans (h : Near low high t x y) (h' : Near low' high' t' y v) (hlow : 0 ≤ low)
    (hle : low ≤ high) (ht' : 0 ≤ t') :
    Near (low * low') (high * high') (t + high * t') x v := by
  have hbelow := mul_le_mul_of_nonneg_left h'.above hlow
  have habove := mul_le_mul_of_nonneg_left h'.below (hlow.trans hle)
  have hshift := mul_le_mul_of_nonneg_right hle ht'
  refine ⟨?_, ?_⟩
  · linarith [h.above, mul_sub low (low' * v) t', mul_assoc low low' v]
  · linarith [h.below, mul_add high (high' * v) t', mul_assoc high high' v]

theorem mul (h : Near low high 0 x v) (h' : Near low' high' 0 y w) (hv : 0 ≤ v) (hw : 0 ≤ w)
    (hlow : 0 ≤ low) (hlow' : 0 ≤ low') : Near (low * low') (high * high') 0 (x * y) (v * w) := by
  have hx : 0 ≤ low * v := mul_nonneg hlow hv
  have hy : 0 ≤ low' * w := mul_nonneg hlow' hw
  have habove := h.above
  have hbelow := h.below
  have habove' := h'.above
  have hbelow' := h'.below
  rw [sub_zero] at habove habove'
  rw [add_zero] at hbelow hbelow'
  refine ⟨?_, ?_⟩
  · rw [sub_zero, mul_mul_mul_comm]
    exact mul_le_mul habove habove' hy (hx.trans habove)
  · rw [add_zero, mul_mul_mul_comm]
    exact mul_le_mul hbelow hbelow' (hy.trans habove') (hx.trans (habove.trans hbelow))

/-- The same factor on both sides. -/
theorem mul_right (h : Near low high 0 x v) (hv : 0 ≤ v) (hw : 0 ≤ w) (hlow : 0 ≤ low) :
    Near low high 0 (x * w) (v * w) := by
  have hmul := h.mul (refl w) hv hw hlow zero_le_one
  rwa [mul_one, mul_one] at hmul

theorem div (h : Near low high t x v) (h' : Near low' high' 0 y w) (hx : 0 ≤ x) (hw : 0 < w)
    (hlow' : 0 < low') (ht : 0 ≤ t) :
    Near (low / high') (high / low') (t / (low' * w)) (x / y) (v / w) := by
  have habove' := h'.above
  have hbelow' := h'.below
  rw [sub_zero] at habove'
  rw [add_zero] at hbelow'
  have hpos : 0 < low' * w := mul_pos hlow' hw
  have hy : 0 < y := hpos.trans_le habove'
  have hle : low' * w ≤ high' * w := habove'.trans hbelow'
  have hpos' : 0 < high' * w := hpos.trans_le hle
  refine ⟨?_, ?_⟩
  · have hsame : low / high' * (v / w) = low * v / (high' * w) := div_mul_div_comm _ _ _ _
    have hshift : t / (high' * w) ≤ t / (low' * w) := div_le_div_of_nonneg_left ht hpos hle
    rw [hsame]
    refine (sub_le_sub_left hshift _).trans ?_
    rw [← sub_div, div_le_div_iff₀ hpos' hy]
    rcases le_total 0 (low * v - t) with hnonneg | hneg
    · exact mul_le_mul h.above hbelow' hy.le hx
    · exact (mul_nonpos_of_nonpos_of_nonneg hneg hy.le).trans (mul_nonneg hx hpos'.le)
  · have hsame : high / low' * (v / w) = high * v / (low' * w) := div_mul_div_comm _ _ _ _
    rw [hsame, ← add_div, div_le_div_iff₀ hy hpos]
    exact mul_le_mul h.below habove' hpos.le (hx.trans h.below)

end Near

end Dashboard.Number

namespace Dashboard.Double

open Number (Near)

variable {q : ℚ}

/-- The part of a number by which one rounding may change it. -/
def halfUnit : ℚ := 2 ^ (-53 : ℤ)

theorem near_rounded (negative : Bool) (hq : 0 ≤ q) (hfinite : q < overflow) :
    Near (1 - halfUnit) (1 + halfUnit) (2 ^ (-1075 : ℤ)) |(nearest negative q).value| q := by
  have hnear := abs_le.mp ((near_nearest negative hq hfinite).trans
    (max_le_add_of_nonneg (mul_nonneg hq (by positivity)) (by positivity)))
  constructor <;> rw [halfUnit] <;> linarith [hnear.1, hnear.2]

/-- Nothing is lost below the least double where a number is not small. -/
theorem near_rounded_of_le (negative : Bool) (hq : 2 ^ (-1022 : ℤ) ≤ q) (hfinite : q < overflow) :
    Near (1 - halfUnit) (1 + halfUnit) 0 |(nearest negative q).value| q := by
  have hpos : 0 ≤ q := le_trans (by positivity) hq
  have hmax : max (q * 2 ^ (-53 : ℤ)) (2 ^ (-1075 : ℤ)) = q * 2 ^ (-53 : ℤ) := by
    refine max_eq_left ?_
    rw [show (-1075 : ℤ) = -1022 + -53 by norm_num, zpow_add₀ (by norm_num)]
    exact mul_le_mul_of_nonneg_right hq (by positivity)
  have hnear := near_nearest negative hpos hfinite
  rw [hmax] at hnear
  have hboth := abs_le.mp hnear
  constructor <;> rw [halfUnit] <;> linarith [hboth.1, hboth.2]

end Dashboard.Double
