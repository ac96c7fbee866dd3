import Dashboard.Number.Shortest
import Dashboard.Proofs.Number.Arithmetic
import Dashboard.Proofs.Text.Numeral
import Mathlib.Data.Nat.Cast.Order.Field

/-!
# The shortest decimal that reads back

Rounding is monotone, so the numbers that read back as a double have no gaps
between them (`ReadsBack.between`). That carries the search: where neither of
the two multiples next to a double reads back no multiple does, and where one
does the others are farther away (`candidate_cases`).

Above the double there is nothing to find, and at the seventeenth digit there
is something at last, for a multiple is nearer there than the next double. So
the search ends with the one decimal that is `Shortest` (`exists_shortest`).
-/

namespace Dashboard

namespace Number.Nearest

variable {q r : ℚ} {n k : ℤ}

theorem mono (h : Nearest q n) (h' : Nearest r k) (hle : q ≤ r) : n ≤ k := by
  rcases hle.eq_or_lt with rfl | hlt
  · exact (h.unique h').le
  by_contra hgt
  have hgap : (k : ℚ) + 1 ≤ n := by exact_mod_cast Int.not_le.mp hgt
  have hlow := (abs_le.mp h.within_half).1
  have hhigh := (abs_le.mp h'.within_half).2
  linarith

end Number.Nearest

namespace Double

open Number (Nearest roundDiv)

variable {x : Double} {q r : ℚ} {s t : ℤ} {m n : ℕ}

/-! ## Rounding is monotone -/

theorem lowBits_le (h : Rounded q s m) (h' : Rounded r t n) (hle : q ≤ r) :
    lowBits s m ≤ lowBits t n := by
  have hpow : Nat.pow 2 52 = 4503599627370496 ∧ Nat.pow 2 53 = 9007199254740992 := by decide
  have hone : (1 : ℚ) ≤ 2 := by norm_num
  obtain ⟨hleast, hm, -⟩ := h.significand
  obtain ⟨-, -, hfull⟩ := h'.significand
  rcases lt_trichotomy s t with hlt | rfl | hgt
  · simp only [lowBits, hpow] at hm hfull ⊢
    omega
  · have hscaled : q / 2 ^ s ≤ r / 2 ^ s := div_le_div_of_nonneg_right hle (by positivity)
    have hmono := h.nearest.mono h'.nearest hscaled
    simp only [lowBits]
    omega
  · have habove : (2 : ℚ) ^ (s + 52) ≤ q :=
      h.scale.above.resolve_left (by have := h'.scale.least; omega)
    have hpowers : (2 : ℚ) ^ (t + 53) ≤ 2 ^ (s + 52) := zpow_le_zpow_right₀ hone (by omega)
    exact absurd h'.scale.below (not_lt.mpr (hpowers.trans (habove.trans hle)))

theorem exists_rounded_of_nonneg (hq : 0 ≤ q) :
    ∃ s m, Rounded q s m ∧ ∀ negative, nearest negative q = ofRounded negative s m := by
  rcases hq.eq_or_lt with rfl | hpos
  · refine ⟨-1074, 0, ⟨⟨le_rfl, by positivity, Or.inl rfl⟩, ?_⟩, fun _ => rfl⟩
    exact Number.nearest_of_half (by norm_num) (by norm_num)
  · obtain ⟨s, m, h⟩ := exists_rounded_of_pos hpos
    exact ⟨s, m, h, fun _ => nearest_of_rounded hpos h⟩

theorem ofSign_inj {negative : Bool} (hm : m < Nat.pow 2 63) (hn : n < Nat.pow 2 63)
    (h : ofSign negative m = ofSign negative n) : m = n := by
  have hword := congrArg word h
  rw [word_ofSign negative hm, word_ofSign negative hn] at hword
  exact Nat.add_left_cancel hword

/-- A number rounds to the double. -/
def ReadsBack (x : Double) (q : ℚ) : Prop := nearest x.isNegative q = x

theorem ReadsBack.between {q₁ q₂ : ℚ} (h₁ : x.ReadsBack q₁) (h₂ : x.ReadsBack q₂) (hq₁ : 0 ≤ q₁)
    (hle₁ : q₁ ≤ q) (hle₂ : q ≤ q₂) : x.ReadsBack q := by
  obtain ⟨s₁, m₁, hrounded₁, heq₁⟩ := exists_rounded_of_nonneg hq₁
  obtain ⟨s, m, hrounded, heq⟩ := exists_rounded_of_nonneg (hq₁.trans hle₁)
  obtain ⟨s₂, m₂, hrounded₂, heq₂⟩ := exists_rounded_of_nonneg (hq₁.trans (hle₁.trans hle₂))
  have hlow (low : ℕ) : min low (2047 * Nat.pow 2 52) < Nat.pow 2 63 :=
    lt_of_le_of_lt (min_le_right _ _) (by decide)
  have hsame : min (lowBits s₁ m₁) (2047 * Nat.pow 2 52) =
      min (lowBits s₂ m₂) (2047 * Nat.pow 2 52) := by
    have hbits := (heq₁ x.isNegative).symm.trans (h₁.trans (h₂.symm.trans (heq₂ _)))
    exact ofSign_inj (hlow _) (hlow _) hbits
  have hle := lowBits_le hrounded₁ hrounded hle₁
  have hle' := lowBits_le hrounded hrounded₂ hle₂
  have hmin : min (lowBits s m) (2047 * Nat.pow 2 52) =
      min (lowBits s₁ m₁) (2047 * Nat.pow 2 52) := by omega
  rw [ReadsBack, heq, ofRounded, hmin, ← ofRounded, ← heq₁]
  exact h₁

/-! ## What reads back for certain -/

theorem readsBack_of_isScale (hx : x.isFinite = true) (hq : 0 < q) (hs : IsScale q x.scale)
    (hnear : |(q - |x.value|)| < 2 ^ x.scale / 2) : x.ReadsBack q := by
  have hscale : (0 : ℚ) < 2 ^ x.scale := zpow_pos (by norm_num) _
  have hhalf : |q / 2 ^ x.scale - (x.significand : ℤ)| < 1 / 2 := by
    have hsplit : q / 2 ^ x.scale - (x.significand : ℤ) = (q - |x.value|) / 2 ^ x.scale := by
      rw [abs_value, sub_div, mul_div_cancel_right₀ _ hscale.ne', Int.cast_natCast]
    rw [hsplit, abs_div, abs_of_pos hscale, div_lt_iff₀ hscale]
    linarith
  exact nearest_of_significand hx hq
    ⟨hs, Number.nearest_of_half hhalf.le fun heq => absurd heq hhalf.ne⟩

theorem two_pow_scale_le (hpos : 0 < |x.value|) : 2 ^ x.scale ≤ |x.value| := by
  have hne : x.significand ≠ 0 := by
    intro hzero
    rw [abs_value, hzero, Nat.cast_zero, zero_mul] at hpos
    exact lt_irrefl _ hpos
  rw [abs_value]
  refine le_mul_of_one_le_left (by positivity) ?_
  exact_mod_cast Nat.one_le_iff_ne_zero.mpr hne

theorem significand_add_one_le (x : Double) : (x.significand : ℚ) + 1 ≤ 2 ^ (53 : ℤ) := by
  have hle : x.significand + 1 ≤ 9007199254740992 := x.significand_lt
  have hcast : ((x.significand + 1 : ℕ) : ℚ) ≤ (9007199254740992 : ℕ) := Nat.cast_le.mpr hle
  push_cast at hcast
  linarith [show (2 : ℚ) ^ (53 : ℤ) = 9007199254740992 by norm_num]

theorem readsBack_of_above (hx : x.isFinite = true) (hpos : 0 < |x.value|) (hle : |x.value| ≤ q)
    (hlt : q - |x.value| < 2 ^ x.scale / 2) : x.ReadsBack q := by
  have hscale : (0 : ℚ) < 2 ^ x.scale := zpow_pos (by norm_num) _
  have hown := x.isScale_abs_value
  refine readsBack_of_isScale hx (hpos.trans_le hle) ⟨hown.least, ?_, ?_⟩ ?_
  · have hfull := mul_le_mul_of_nonneg_right x.significand_add_one_le hscale.le
    rw [← zpow_add₀ (by norm_num), add_comm (53 : ℤ), add_mul, ← abs_value] at hfull
    linarith
  · exact hown.above.imp_right fun habove => habove.trans hle
  · rwa [abs_of_nonneg (by linarith)]

/-- Below the least full significand doubles are closer together. -/
theorem readsBack_of_below (hx : x.isFinite = true) (hpos : 0 < |x.value|)
    (hfull : x.scale = -1074 ∨ x.significand ≠ 2 ^ 52) (hle : q ≤ |x.value|)
    (hlt : |x.value| - q < 2 ^ x.scale / 2) : x.ReadsBack q := by
  have hscale : (0 : ℚ) < 2 ^ x.scale := zpow_pos (by norm_num) _
  have hown := x.isScale_abs_value
  have hone := two_pow_scale_le hpos
  refine readsBack_of_isScale hx (by linarith) ⟨hown.least, hle.trans_lt hown.below, ?_⟩ ?_
  · rcases hown.above with hleast | habove
    · exact Or.inl hleast
    refine hfull.imp_right fun hne => ?_
    have hsplit : (2 : ℚ) ^ (x.scale + 52) = ((2 ^ 52 : ℕ) : ℚ) * 2 ^ x.scale := by
      rw [zpow_add₀ (by norm_num), mul_comm]
      norm_num
    rw [hsplit] at habove ⊢
    rw [abs_value] at habove hlt
    have hmore : 2 ^ 52 + 1 ≤ x.significand := by
      have hle : 2 ^ 52 ≤ x.significand := by exact_mod_cast le_of_mul_le_mul_right habove hscale
      omega
    have hmore' : (((2 ^ 52 : ℕ) : ℚ) + 1) * 2 ^ x.scale ≤ x.significand * 2 ^ x.scale :=
      mul_le_mul_of_nonneg_right (by exact_mod_cast hmore) hscale.le
    linarith
  · rw [abs_sub_comm, abs_of_nonneg (by linarith)]
    exact hlt

/-- Seventeen digits are enough: one of the two multiples next to a double
reads back. -/
theorem readsBack_of_step (hx : x.isFinite = true) (hpos : 0 < |x.value|)
    (hstep : (r - q) * 10 ^ 16 ≤ |x.value|) (hle : q ≤ |x.value|) (hle' : |x.value| ≤ r) :
    x.ReadsBack q ∨ x.ReadsBack r := by
  have hscale : (0 : ℚ) < 2 ^ x.scale := zpow_pos (by norm_num) _
  rcases lt_or_ge (r - |x.value|) (2 ^ x.scale / 2) with hnear | hfar
  · exact Or.inr (readsBack_of_above hx hpos hle' hnear)
  have hfull := mul_le_mul_of_nonneg_right x.significand_add_one_le hscale.le
  refine Or.inl (readsBack_of_below hx hpos (Or.inr fun hleast => ?_) hle ?_)
  · -- The step is less than half the distance to the next double.
    rw [abs_value, hleast] at hstep
    push_cast at hstep
    linarith
  · rw [add_mul, ← abs_value] at hfull
    norm_num at hfull
    linarith

theorem not_readsBack_zero (hpos : 0 < |x.value|) : ¬ x.ReadsBack 0 := by
  intro h
  rw [ReadsBack, nearest_zero] at h
  rw [← h, abs_value_zero] at hpos
  exact lt_irrefl _ hpos

/-- Nothing that is ten times a double rounds to it. -/
theorem not_readsBack_of_tenfold (hx : x.isFinite = true) (hpos : 0 < |x.value|)
    (hle : 10 * |x.value| ≤ q) : ¬ x.ReadsBack q := by
  intro hback
  have hq : 0 ≤ q := by linarith
  have hfinite : q < overflow := (isFinite_nearest_iff x.isNegative hq).mp (by rwa [hback])
  have hnear := near_nearest x.isNegative hq hfinite
  have hscale : (2 : ℚ) ^ (-1074 : ℤ) ≤ 2 ^ x.scale :=
    zpow_le_zpow_right₀ (by norm_num) x.isScale_abs_value.least
  have hleast := hscale.trans (two_pow_scale_le hpos)
  rw [hback, abs_sub_comm, abs_of_nonneg (by linarith)] at hnear
  rcases le_max_iff.mp hnear with h | h
  · have hsmall : q * 2 ^ (-53 : ℤ) ≤ q * (1 / 2) :=
      mul_le_mul_of_nonneg_left (by norm_num) hq
    linarith [h.trans hsmall]
  · have hhalf : (2 : ℚ) ^ (-1075 : ℤ) ≤ 2 ^ (-1074 : ℤ) :=
      zpow_le_zpow_right₀ (by norm_num) (by norm_num)
    linarith [h.trans hhalf]

end Double

namespace Number

/-! ## The place of the first digit -/

theorem lt_ten_pow_digitCount (n : ℕ) : n < 10 ^ digitCount n := by
  induction n using Nat.strongRecOn with
  | _ n ih =>
      rcases Nat.lt_or_ge n 10 with h | h
      · rw [digitCount, Text.decimal_of_lt h]
        exact h
      · have hlt := ih (n / 10) (by omega)
        rw [digitCount, Text.decimal_of_le h, List.length_append, ← digitCount]
        change n < 10 ^ (digitCount (n / 10) + 1)
        rw [pow_succ]
        omega

theorem ten_pow_digitCount_le {n : ℕ} (hn : 0 < n) : 10 ^ digitCount n ≤ 10 * n := by
  induction n using Nat.strongRecOn with
  | _ n ih =>
      rcases Nat.lt_or_ge n 10 with h | h
      · rw [digitCount, Text.decimal_of_lt h]
        change 10 ^ 1 ≤ 10 * n
        omega
      · have hle := ih (n / 10) (by omega) (by omega)
        rw [digitCount, Text.decimal_of_le h, List.length_append, ← digitCount]
        change 10 ^ (digitCount (n / 10) + 1) ≤ 10 * n
        rw [pow_succ]
        omega

theorem leadingExponent_between {num den : ℕ} (hnum : 0 < num) (hden : 0 < den) :
    (10 : ℚ) ^ leadingExponent num den ≤ num / den ∧
      (num : ℚ) / den < 10 ^ (leadingExponent num den + 1) := by
  have hten : (10 : ℚ) ≠ 0 := by norm_num
  have hden' : (0 : ℚ) < den := by exact_mod_cast hden
  rw [leadingExponent]
  split
  · next hle =>
      have hpos : 0 < num / den := Nat.div_pos hle hden
      have hlow : ((10 ^ digitCount (num / den) : ℕ) : ℚ) ≤ (10 * (num / den) : ℕ) :=
        Nat.cast_le.mpr (ten_pow_digitCount_le hpos)
      have hfloor : ((num / den : ℕ) : ℚ) ≤ num / den := Nat.cast_div_le
      have hhigh : num < 10 ^ digitCount (num / den) * den :=
        (Nat.div_lt_iff_lt_mul hden).mp (lt_ten_pow_digitCount _)
      have hhigh' : (num : ℚ) < (10 ^ digitCount (num / den) * den : ℕ) := Nat.cast_lt.mpr hhigh
      push_cast at hlow hhigh'
      constructor
      · rw [zpow_sub₀ hten, zpow_one, zpow_natCast, div_le_iff₀ (by norm_num)]
        linarith
      · rw [sub_add_cancel, zpow_natCast, div_lt_iff₀ hden']
        exact hhigh'
  · next hlt =>
      have hpos : 0 < (den - 1) / num := Nat.div_pos (by omega) hnum
      have hlow : den - 1 < 10 ^ digitCount ((den - 1) / num) * num :=
        (Nat.div_lt_iff_lt_mul hnum).mp (lt_ten_pow_digitCount _)
      have hlow' : (den : ℚ) ≤ (10 ^ digitCount ((den - 1) / num) * num : ℕ) :=
        Nat.cast_le.mpr (by omega)
      have hhigh : 10 ^ digitCount ((den - 1) / num) * num < 10 * den := by
        have hmul := Nat.mul_le_mul_right num (ten_pow_digitCount_le hpos)
        have hfloor := Nat.div_mul_le_self (den - 1) num
        rw [Nat.mul_assoc] at hmul
        omega
      have hhigh' : ((10 ^ digitCount ((den - 1) / num) * num : ℕ) : ℚ) < (10 * den : ℕ) :=
        Nat.cast_lt.mpr hhigh
      push_cast at hlow' hhigh'
      have hpow : (0 : ℚ) < 10 ^ digitCount ((den - 1) / num) := by positivity
      constructor
      · rw [zpow_neg, zpow_natCast, le_div_iff₀ hden', inv_mul_le_iff₀ hpow]
        exact hlow'
      · rw [zpow_add₀ hten, zpow_one, zpow_neg, zpow_natCast, div_lt_iff₀ hden', mul_assoc,
          lt_inv_mul_iff₀ hpow]
        exact hhigh'

theorem roundDiv_eq_or (num den : ℕ) :
    roundDiv num den = num / den ∨ roundDiv num den = num / den + 1 := by
  simp only [roundDiv]
  split
  · exact Or.inl rfl
  · split
    · exact Or.inr rfl
    · omega

theorem overPowerOfTen_pos {num den : ℕ} (hden : 0 < den) (place : ℤ) :
    0 < (overPowerOfTen num den place).2 := by
  rw [overPowerOfTen]
  split
  · exact Nat.mul_pos hden (Nat.pow_pos (by decide))
  · exact hden

theorem overPowerOfTen_div (num den : ℕ) (place : ℤ) :
    ((overPowerOfTen num den place).1 : ℚ) / (overPowerOfTen num den place).2 =
      num / den / 10 ^ place := by
  rw [overPowerOfTen]
  split
  · next h =>
      obtain ⟨k, rfl⟩ := Int.eq_ofNat_of_zero_le h
      rw [Int.toNat_natCast, Nat.cast_mul, Double.ten_pow_cast, zpow_natCast, div_div]
  · next h =>
      obtain ⟨k, hk⟩ := Int.eq_ofNat_of_zero_le (show 0 ≤ -place by omega)
      obtain rfl : place = -(k : ℤ) := by omega
      rw [neg_neg, Int.toNat_natCast, Nat.cast_mul, Double.ten_pow_cast, zpow_neg, zpow_natCast,
        div_inv_eq_mul, mul_div_right_comm]

end Number

namespace Double

open Number (Nearest candidate overPowerOfTen roundDiv digitCount shortestFrom leadingExponent)

variable {x : Double} {place : ℤ} {c c' k m : ℕ}

/-! ## The multiples of one power of ten -/

/-- Of the multiples of a power of ten that read back as the double, the
nearest one; of two equally near ones the even one. -/
structure Closest (x : Double) (place : ℤ) (c : ℕ) : Prop where
  back : x.ReadsBack (c * 10 ^ place)
  near : ∀ k : ℕ, x.ReadsBack (k * 10 ^ place) →
    |(|x.value| / 10 ^ place - c)| ≤ |(|x.value| / 10 ^ place - k)|
  even : ∀ k : ℕ, k ≠ c → x.ReadsBack (k * 10 ^ place) →
    |(|x.value| / 10 ^ place - k)| = |(|x.value| / 10 ^ place - c)| → Even c

/-- Between a multiple that reads back and the double all multiples do. -/
theorem ReadsBack.toward (hx : x.isFinite = true) (hk : x.ReadsBack (k * 10 ^ place))
    (h : (k ≤ m ∧ (m : ℚ) ≤ |x.value| / 10 ^ place) ∨
      (m ≤ k ∧ |x.value| / 10 ^ place ≤ (m : ℚ))) : x.ReadsBack (m * 10 ^ place) := by
  have hpow : (0 : ℚ) < 10 ^ place := zpow_pos (by norm_num) _
  have hself : x.ReadsBack |x.value| := nearest_value hx
  rcases h with ⟨hle, hm⟩ | ⟨hle, hm⟩
  · refine hk.between hself (by positivity) ?_ ((le_div_iff₀ hpow).mp hm)
    exact mul_le_mul_of_nonneg_right (by exact_mod_cast hle) hpow.le
  · refine hself.between hk (abs_nonneg _) ((div_le_iff₀ hpow).mp hm) ?_
    exact mul_le_mul_of_nonneg_right (by exact_mod_cast hle) hpow.le

theorem Closest.unique (hx : x.isFinite = true) (h : x.Closest place c) (h' : x.Closest place c') :
    c = c' := by
  wlog hlt : c < c' generalizing c c'
  · rcases Nat.lt_or_eq_of_le (Nat.not_lt.mp hlt) with hgt | heq
    · exact (this h' h hgt).symm
    · exact heq.symm
  have hsame := le_antisymm (h.near c' h'.back) (h'.near c h.back)
  obtain ⟨a, ha⟩ := h.even c' hlt.ne' h'.back hsame.symm
  obtain ⟨b, hb⟩ := h'.even c hlt.ne h.back hsame
  -- Between two even multiples there is an odd one, which is nearer.
  have hgap : (c : ℚ) + 2 ≤ c' := by exact_mod_cast (show c + 2 ≤ c' by omega)
  generalize hv : |x.value| / 10 ^ place = v at hsame
  have hmiddle : 2 * v = c + c' := by
    rcases abs_cases (v - c) with ⟨h₁, h₂⟩ | ⟨h₁, h₂⟩ <;>
      rcases abs_cases (v - c') with ⟨h₃, h₄⟩ | ⟨h₃, h₄⟩ <;> linarith
  have hback : x.ReadsBack ((c + 1 : ℕ) * 10 ^ place) := by
    refine h.back.toward hx (Or.inl ⟨Nat.le_succ c, ?_⟩)
    rw [hv]
    push_cast
    linarith
  have hnear := h.near (c + 1) hback
  rw [hv, abs_of_nonneg (by linarith), abs_of_nonneg (by push_cast; linarith)] at hnear
  push_cast at hnear
  linarith

theorem readsBack_iff : Number.readsBack x k place = true ↔ x.ReadsBack (k * 10 ^ place) := by
  rw [Number.readsBack, decide_eq_true_eq, ofDecimal_eq_nearest, ReadsBack]

/-- Where nothing above the double reads back, the greatest multiple is nearest. -/
theorem closest_of_le (hle : (c : ℚ) ≤ |x.value| / 10 ^ place)
    (hback : x.ReadsBack (c * 10 ^ place))
    (hall : ∀ k : ℕ, x.ReadsBack (k * 10 ^ place) → k ≤ c) : x.Closest place c := by
  have hfar : ∀ k : ℕ, k ≤ c → |(|x.value| / 10 ^ place - k)| = |x.value| / 10 ^ place - k := by
    intro k hk
    refine abs_of_nonneg (sub_nonneg.mpr (le_trans ?_ hle))
    exact_mod_cast hk
  refine ⟨hback, fun k hk => ?_, fun k hne hk hsame => ?_⟩
  · rw [hfar c le_rfl, hfar k (hall k hk)]
    exact sub_le_sub_left (by exact_mod_cast hall k hk) _
  · rw [hfar c le_rfl, hfar k (hall k hk), sub_right_inj] at hsame
    exact absurd (by exact_mod_cast hsame) hne

theorem closest_of_ge (hle : |x.value| / 10 ^ place ≤ (c : ℚ))
    (hback : x.ReadsBack (c * 10 ^ place))
    (hall : ∀ k : ℕ, x.ReadsBack (k * 10 ^ place) → c ≤ k) : x.Closest place c := by
  have hfar : ∀ k : ℕ, c ≤ k → |(|x.value| / 10 ^ place - k)| = k - |x.value| / 10 ^ place := by
    intro k hk
    rw [abs_sub_comm]
    refine abs_of_nonneg (sub_nonneg.mpr (hle.trans ?_))
    exact_mod_cast hk
  refine ⟨hback, fun k hk => ?_, fun k hne hk hsame => ?_⟩
  · rw [hfar c le_rfl, hfar k (hall k hk)]
    exact sub_le_sub_right (by exact_mod_cast hall k hk) _
  · rw [hfar c le_rfl, hfar k (hall k hk), sub_left_inj] at hsame
    exact absurd (by exact_mod_cast hsame) hne

/-- A candidate is the nearest multiple that reads back, and where there is no
candidate no multiple reads back. -/
theorem candidate_cases (hx : x.isFinite = true) (place : ℤ) :
    (∃ c, candidate x place = some c ∧ x.Closest place c) ∨
      (candidate x place = none ∧ ∀ k : ℕ, ¬ x.ReadsBack (k * 10 ^ place)) := by
  have hb : 0 < (overPowerOfTen x.magnitude.1 x.magnitude.2 place).2 :=
    Number.overPowerOfTen_pos x.magnitude_pos place
  have hv := Number.overPowerOfTen_div x.magnitude.1 x.magnitude.2 place
  rw [magnitude_div] at hv
  rw [candidate]
  generalize overPowerOfTen x.magnitude.1 x.magnitude.2 place = ab at hb hv
  obtain ⟨a, b⟩ := ab
  dsimp only at hb hv ⊢
  have hb' : (0 : ℚ) < b := by exact_mod_cast hb
  have hfloor : ((a / b : ℕ) : ℚ) ≤ |x.value| / 10 ^ place := hv ▸ Nat.cast_div_le
  have hnext : |x.value| / 10 ^ place ≤ (a / b + 1 : ℕ) := by
    rw [← hv, div_le_iff₀ hb']
    exact_mod_cast (Nat.lt_mul_of_div_lt (Nat.lt_succ_self _) hb).le
  -- Whatever reads back makes the neighbour on its side of the double read back.
  have hside : ∀ k : ℕ, x.ReadsBack (k * 10 ^ place) →
      (k ≤ a / b ∧ x.ReadsBack ((a / b : ℕ) * 10 ^ place)) ∨
        (a / b + 1 ≤ k ∧ x.ReadsBack ((a / b + 1 : ℕ) * 10 ^ place)) := by
    intro k hk
    rcases Nat.lt_or_ge (a / b) k with hlt | hle
    · exact Or.inr ⟨hlt, hk.toward hx (Or.inr ⟨hlt, hnext⟩)⟩
    · exact Or.inl ⟨hle, hk.toward hx (Or.inl ⟨hle, hfloor⟩)⟩
  split
  · next hdown =>
      rw [readsBack_iff] at hdown
      split
      · next hup =>
          rw [readsBack_iff] at hup
          have hnear : Nearest (|x.value| / 10 ^ place) (roundDiv a b : ℤ) :=
            hv ▸ Number.nearest_roundDiv hb
          refine Or.inl ⟨_, rfl, ⟨?_, fun k _ => ?_, fun k hne _ hsame => ?_⟩⟩
          · rcases Number.roundDiv_eq_or a b with h | h
            · rw [h]
              exact hdown
            · rw [h]
              exact hup
          · exact_mod_cast hnear.near k
          · exact_mod_cast hnear.even k (by exact_mod_cast hne) (by exact_mod_cast hsame)
      · next hup =>
          rw [readsBack_iff] at hup
          refine Or.inl ⟨_, rfl, closest_of_le hfloor hdown fun k hk => ?_⟩
          exact (hside k hk).elim And.left fun h => absurd h.2 hup
  · next hdown =>
      rw [readsBack_iff] at hdown
      split
      · next hup =>
          rw [readsBack_iff] at hup
          refine Or.inl ⟨_, rfl, closest_of_ge hnext hup fun k hk => ?_⟩
          exact (hside k hk).elim (fun h => absurd h.2 hdown) And.left
      · next hup =>
          rw [readsBack_iff] at hup
          exact Or.inr ⟨rfl, fun k hk => (hside k hk).elim (fun h => hdown h.2) fun h => hup h.2⟩

/-! ## The search -/

/-- The shortest decimal that reads back as the double: a multiple of the
greatest power of ten that has one, and the nearest of its multiples. -/
structure Shortest (x : Double) (c : ℕ) (place : ℤ) : Prop where
  closest : x.Closest place c
  coarsest : ∀ (k : ℕ) (r : ℤ), place < r → ¬ x.ReadsBack (k * 10 ^ r)

theorem Shortest.coefficient_pos (h : x.Shortest c place) : 0 < c := by
  refine Nat.pos_of_ne_zero fun hzero => h.coarsest 0 (place + 1) (by omega) ?_
  have hback := h.closest.back
  rw [hzero, Nat.cast_zero, zero_mul] at hback
  rw [Nat.cast_zero, zero_mul]
  exact hback

/-- The zeros have none: they are multiples of every power of ten. -/
theorem Shortest.pos (hx : x.isFinite = true) (h : x.Shortest c place) : 0 < |x.value| := by
  refine (abs_nonneg _).lt_of_ne fun hzero => h.coarsest 0 (place + 1) (by omega) ?_
  rw [Nat.cast_zero, zero_mul, hzero]
  exact nearest_value hx

theorem Shortest.unique {place' : ℤ} (hx : x.isFinite = true) (h : x.Shortest c place)
    (h' : x.Shortest c' place') : c = c' ∧ place = place' := by
  rcases lt_trichotomy place place' with hlt | rfl | hgt
  · exact absurd h'.closest.back (h.coarsest c' place' hlt)
  · exact ⟨h.closest.unique hx h'.closest, rfl⟩
  · exact absurd h.closest.back (h'.coarsest c place hgt)

theorem shortestFrom_of_readsBack (hx : x.isFinite = true) (fuel : ℕ)
    (hcoarse : ∀ (k : ℕ) (r : ℤ), place < r → ¬ x.ReadsBack (k * 10 ^ r)) {r : ℤ}
    (hback : x.ReadsBack (k * 10 ^ r)) (hr : place - fuel < r) :
    ∃ c p, x.Shortest c p ∧ shortestFrom x place fuel = some ⟨c, p + digitCount c - 1⟩ := by
  induction fuel generalizing place with
  | zero => exact absurd hback (hcoarse k r (by simpa using hr))
  | succ fuel ih =>
      rw [shortestFrom]
      rcases candidate_cases hx place with ⟨c, hc, hclosest⟩ | ⟨hnone, hall⟩
      · rw [hc]
        exact ⟨c, place, ⟨hclosest, hcoarse⟩, rfl⟩
      · rw [hnone]
        refine ih (fun k r hlt => ?_) (by push_cast at hr; omega)
        rcases (show place ≤ r by omega).eq_or_lt with rfl | hgt
        · exact hall k
        · exact hcoarse k r hgt

/-- The search finds the shortest decimal of every finite double that is not
zero. -/
theorem exists_shortest (hx : x.isFinite = true) (hpos : 0 < |x.value|) :
    ∃ c p, x.Shortest c p ∧ Number.shortest x = ⟨c, p + digitCount c - 1⟩ := by
  have hten : (10 : ℚ) ≠ 0 := by norm_num
  have hnum : 0 < x.magnitude.1 := by
    refine Nat.pos_of_ne_zero fun hzero => hpos.ne ?_
    rw [← magnitude_div, hzero, Nat.cast_zero, zero_div]
  obtain ⟨hlow, hhigh⟩ := Number.leadingExponent_between hnum x.magnitude_pos
  rw [magnitude_div] at hlow hhigh
  rw [Number.shortest]
  generalize leadingExponent x.magnitude.1 x.magnitude.2 = lead at hlow hhigh
  have hcoarse : ∀ (k : ℕ) (r : ℤ), lead + 1 < r → ¬ x.ReadsBack (k * 10 ^ r) := by
    intro k r hr
    rcases Nat.eq_zero_or_pos k with rfl | hk
    · rw [Nat.cast_zero, zero_mul]
      exact not_readsBack_zero hpos
    refine not_readsBack_of_tenfold hx hpos ?_
    calc 10 * |x.value| ≤ 10 * 10 ^ (lead + 1) := by linarith
      _ = 10 ^ (lead + 2) := by
          rw [show lead + 2 = 1 + (lead + 1) by ring, zpow_add₀ hten 1, zpow_one]
      _ ≤ 10 ^ r := zpow_le_zpow_right₀ (by norm_num) (by omega)
      _ ≤ k * 10 ^ r := le_mul_of_one_le_left (by positivity) (by exact_mod_cast hk)
  obtain ⟨k, hk⟩ : ∃ k : ℕ, x.ReadsBack (k * 10 ^ (lead - 16)) := by
    have hstep : (0 : ℚ) < 10 ^ (lead - 16) := zpow_pos (by norm_num) _
    have hsmall : (10 : ℚ) ^ (lead - 16) * 10 ^ 16 ≤ |x.value| := by
      refine le_trans (le_of_eq ?_) hlow
      rw [← zpow_natCast, ← zpow_add₀ hten]
      congr 1
      push_cast
      ring
    have hfloor := (le_div_iff₀ hstep).mp (Nat.floor_le (div_nonneg hpos.le hstep.le))
    have hnext := ((div_lt_iff₀ hstep).mp (Nat.lt_floor_add_one (|x.value| / 10 ^ (lead - 16)))).le
    rw [← Nat.cast_succ] at hnext
    refine (readsBack_of_step hx hpos ?_ hfloor hnext).elim (fun h => ⟨_, h⟩) fun h => ⟨_, h⟩
    rw [Nat.cast_succ, add_mul, one_mul, add_sub_cancel_left]
    exact hsmall
  obtain ⟨c, p, hshortest, hfound⟩ :=
    shortestFrom_of_readsBack hx 18 hcoarse hk (by push_cast; omega)
  refine ⟨c, p, hshortest, ?_⟩
  rw [hfound, Option.getD_some]

end Double

end Dashboard
