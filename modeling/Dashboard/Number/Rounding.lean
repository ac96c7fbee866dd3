/-!
# Rounding a quotient

Every rounding in the project is one rounding of an exact quotient of two
natural numbers to the nearest natural number, a half going to the even
neighbour. The value of a double, the product of two of them and a decimal
with places after the point are all such quotients.
-/

namespace Dashboard.Number

/-- The natural number nearest to `num / den`; of two equally near ones the
even one. -/
def roundDiv (num den : Nat) : Nat :=
  let q := num / den
  let r := num % den
  if 2 * r < den then q
  else if den < 2 * r then q + 1
  else q + q % 2

/-- The quotient `num / den` multiplied by two to the power `e`, as a
quotient of natural numbers. -/
def timesPowerOfTwo (num den : Nat) (e : Int) : Nat × Nat :=
  if 0 ≤ e then (num * Nat.pow 2 e.toNat, den) else (num, den * Nat.pow 2 (-e).toNat)

/-- The rounded quotient is at most half a unit away from the exact one. -/
theorem roundDiv_within_half (num den : Nat) (h : 0 < den) :
    2 * (roundDiv num den * den) ≤ 2 * num + den ∧
      2 * num ≤ 2 * (roundDiv num den * den) + den := by
  have hd : den * (num / den) + num % den = num := Nat.div_add_mod num den
  have hr : num % den < den := Nat.mod_lt num h
  have hc : num / den * den = den * (num / den) := Nat.mul_comm _ _
  simp only [roundDiv]
  split
  · omega
  · split
    · rw [Nat.add_mul, Nat.one_mul]; omega
    · rcases Nat.mod_two_eq_zero_or_one (num / den) with h2 | h2 <;>
        simp only [h2, Nat.add_mul, Nat.one_mul, Nat.add_zero] <;> omega

end Dashboard.Number
