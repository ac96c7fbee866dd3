import Dashboard.Number.Double
import Dashboard.Text.Natural

/-!
# The shortest decimal that reads back

Of the decimals that read back as a double, the shortest are the multiples of
the greatest power of ten that has any, and of these the nearest one is
printed. The powers are tried from the one above the double downwards, each
with the two multiples next to the double. The place of the seventeenth digit
is the last one that can be needed.
-/

namespace Dashboard.Number

/-- A positive decimal: a digit string without its point, and the exponent
of its first digit. -/
structure Digits where
  /-- The digits as one number, without trailing zeros. -/
  coefficient : Nat
  /-- The power of ten of the first digit. -/
  exponent : Int
deriving DecidableEq

/-- How many decimal digits a number has. -/
def digitCount (n : Nat) : Nat := (Text.decimal n).length

/-- The power of ten of the first digit of `num / den`, for `num` and `den`
positive. -/
def leadingExponent (num den : Nat) : Int :=
  if den ≤ num then digitCount (num / den) - 1
  else -(digitCount ((den - 1) / num))

/-- The quotient `num / den` divided by ten to the power `place`, as a
quotient of natural numbers. -/
def overPowerOfTen (num den : Nat) (place : Int) : Nat × Nat :=
  if 0 ≤ place then (num, den * Nat.pow 10 place.toNat) else (num * Nat.pow 10 (-place).toNat, den)

/-- Whether `n` times ten to the power `place` reads back as a double. -/
def readsBack (x : Double) (n : Nat) (place : Int) : Bool :=
  decide (Double.ofDecimal x.isNegative n place = x)

/-- Of the two multiples of ten to the power `place` next to a double, the
one that reads back; if both do, the nearer one. -/
def candidate (x : Double) (place : Int) : Option Nat :=
  let (a, b) := overPowerOfTen x.magnitude.1 x.magnitude.2 place
  let below := a / b
  if readsBack x below place then
    if readsBack x (below + 1) place then some (roundDiv a b) else some below
  else if readsBack x (below + 1) place then some (below + 1)
  else none

/-- The decimal of the first place from `place` downwards, of `fuel` many,
that has one which reads back. -/
def shortestFrom (x : Double) (place : Int) : Nat → Option Digits
  | 0 => none
  | fuel + 1 =>
    match candidate x place with
    | some c => some ⟨c, place + digitCount c - 1⟩
    | none => shortestFrom x (place - 1) fuel

/-- The shortest decimal that reads back as a finite double other than zero. -/
def shortest (x : Double) : Digits :=
  let lead := leadingExponent x.magnitude.1 x.magnitude.2
  (shortestFrom x (lead + 1) 18).getD ⟨0, 0⟩

end Dashboard.Number
