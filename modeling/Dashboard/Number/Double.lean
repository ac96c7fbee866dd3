import Dashboard.Number.Rounding

/-!
# Double precision numbers

A double is its sixty-four bits. What it means is read off them: a sign, a
significand below 2^53 and a scale, the value being the significand times
two to the power of the scale, unless the exponent field is full, which
makes it infinite or no number at all.

Arithmetic is exact first and rounded once. A product or a quotient of two
finite doubles is a quotient of natural numbers, and `ofRatio` finds the
double nearest to any such quotient. So nothing here depends on a machine's
own arithmetic, and every result is a value of the logic.
-/

namespace Dashboard

/-- A double precision number, by its bits. -/
structure Double where
  /-- Sign, exponent field and fraction field, from the highest bit down. -/
  bits : UInt64
deriving DecidableEq

namespace Double

/-- The bits as a natural number. -/
def word (x : Double) : Nat := x.bits.toNat

/-- Whether the sign bit is set. -/
def isNegative (x : Double) : Bool := decide (Nat.pow 2 63 ≤ x.word)

/-- The eleven bits of the exponent field. -/
def exponentField (x : Double) : Nat := x.word / Nat.pow 2 52 % Nat.pow 2 11

/-- The fifty-two bits of the fraction field. -/
def fractionField (x : Double) : Nat := x.word % Nat.pow 2 52

/-- Neither infinite nor a failed number. -/
def isFinite (x : Double) : Bool := decide (x.exponentField < 2047)

/-- The result of an operation that has no value. -/
def isNaN (x : Double) : Bool := decide (x.exponentField = 2047) && decide (x.fractionField ≠ 0)

/-- The integer that the scale multiplies: the fraction field, with a bit
above it unless the exponent field is zero. -/
def significand (x : Double) : Nat :=
  if x.exponentField = 0 then x.fractionField else Nat.pow 2 52 + x.fractionField

/-- The power of two that multiplies the significand. -/
def scale (x : Double) : Int := (max x.exponentField 1 : Nat) - 1075

/-- The magnitude of a finite double as a quotient of natural numbers. -/
def magnitude (x : Double) : Nat × Nat := Number.timesPowerOfTwo x.significand 1 x.scale

/-- Zero in value, with either sign. -/
def isZero (x : Double) : Bool := x.isFinite && x.significand == 0

/-- The double of a sign and the sixty-three bits below it. -/
def ofSign (negative : Bool) (low : Nat) : Double :=
  ⟨UInt64.ofNat ((if negative then Nat.pow 2 63 else 0) + low)⟩

/-- Zero with a sign. -/
def zero (negative : Bool) : Double := ofSign negative 0

/-- Infinity with a sign. -/
def infinity (negative : Bool) : Double := ofSign negative (2047 * Nat.pow 2 52)

/-- The result that stands for no value. -/
def notANumber : Double := ofSign false (2047 * Nat.pow 2 52 + Nat.pow 2 51)

/-- The scale at which `num / den` has a significand of fifty-three bits, or
the least scale there is. -/
def scaleOf (num den : Nat) : Int :=
  let low : Int := (num.log2 : Int) - den.log2 - 53
  let (n, d) := Number.timesPowerOfTwo num den (-low)
  max (-1074) (if Nat.pow 2 53 * d ≤ n then low + 1 else low)

/-- The double nearest to `num / den` with the given sign, a half going to
the even significand; infinite where the nearest one would be too large.

With the scale fixed, the low bits of the answer are the rounded significand
plus the exponent field one lower, for the significand's top bit counts as
one exponent; a significand that rounds up to 2^53 then carries by itself. -/
def ofRatio (negative : Bool) (num den : Nat) : Double :=
  if num = 0 then zero negative
  else
    let scale := scaleOf num den
    let (n, d) := Number.timesPowerOfTwo num den (-scale)
    let low := (scale + 1074).toNat * Nat.pow 2 52 + Number.roundDiv n d
    ofSign negative (min low (2047 * Nat.pow 2 52))

/-- The double nearest to a natural number. -/
def ofNat (n : Nat) : Double := ofRatio false n 1

/-- The double nearest to `significand * 10 ^ exponent`. Exponents that put
the value beyond every double, or below half of the least one, are answered
without forming the power. -/
def ofDecimal (negative : Bool) (significand : Nat) (exponent : Int) : Double :=
  if significand = 0 then zero negative
  else if 310 < exponent then infinity negative
  else if exponent < -(330 + significand.log2 : Nat) then zero negative
  else if 0 ≤ exponent then ofRatio negative (significand * Nat.pow 10 exponent.toNat) 1
  else ofRatio negative significand (Nat.pow 10 (-exponent).toNat)

/-- The double with the other sign. -/
def negate (x : Double) : Double :=
  if x.isNegative then ⟨UInt64.ofNat (x.word - Nat.pow 2 63)⟩
  else ⟨UInt64.ofNat (x.word + Nat.pow 2 63)⟩

/-- A failed number that passes through an operation, marked as quiet. -/
def quiet (x : Double) : Double :=
  if x.fractionField < Nat.pow 2 51 then ⟨UInt64.ofNat (x.word + Nat.pow 2 51)⟩ else x

/-- The product, rounded once. -/
def mul (x y : Double) : Double :=
  let negative := x.isNegative != y.isNegative
  if x.isNaN then x.quiet
  else if y.isNaN then y.quiet
  else if !x.isFinite || !y.isFinite then
    if x.isZero || y.isZero then notANumber else infinity negative
  else
    let (a, b) := x.magnitude
    let (c, d) := y.magnitude
    ofRatio negative (a * c) (b * d)

/-- The quotient, rounded once. -/
def div (x y : Double) : Double :=
  let negative := x.isNegative != y.isNegative
  if x.isNaN then x.quiet
  else if y.isNaN then y.quiet
  else if !x.isFinite then if y.isFinite then infinity negative else notANumber
  else if !y.isFinite then zero negative
  else if y.isZero then if x.isZero then notANumber else infinity negative
  else
    let (a, b) := x.magnitude
    let (c, d) := y.magnitude
    ofRatio negative (a * d) (b * c)

end Double

end Dashboard
