import Dashboard.Number.Shortest
import Dashboard.Number.Decimal

/-!
# Numbers of a payload

A number without a fraction or an exponent is kept as an integer when it
fits into sixty-four bits, the non-negative ones apart from the negative
ones; every other number is a double, and so is `-0`.
-/

namespace Dashboard.Json

/-- A number as a payload holds it. -/
inductive Number where
  /-- A non-negative integer. -/
  | natural (n : UInt64)
  /-- A negative integer, by its magnitude. -/
  | negative (magnitude : UInt64)
  /-- Any other number. -/
  | real (x : Double)
deriving DecidableEq

namespace Number

/-- The nearest double. -/
def toDouble : Number → Double
  | natural n => Double.ofNat n.toNat
  | negative m => (Double.ofNat m.toNat).negate
  | real x => x

/-- The number, where it is written as an integer from 0 to 2^64 - 1. -/
def toNatural? : Number → Option UInt64
  | natural n => some n
  | _ => none

/-- How many zeros stand between the point and the first digit of a number
that is written with the point in front. -/
def zeros (n : Nat) : List Char := List.replicate n '0'

/-- A decimal with its point in place: from the fifth place after the point
to the sixteenth before it positionally, otherwise with an exponent. At
least one digit stands on either side of a point. -/
def decimalText (d : Dashboard.Number.Digits) : List Char :=
  let digits := Text.decimal d.coefficient
  match d.exponent with
  | .ofNat e =>
    if e < 16 then
      let whole := digits.take (e + 1) ++ zeros (e + 1 - digits.length)
      let rest := digits.drop (e + 1)
      whole ++ '.' :: (if rest.isEmpty then ['0'] else rest)
    else withExponent digits '+' e
  | .negSucc e =>
    if e < 5 then '0' :: '.' :: (zeros e ++ digits)
    else withExponent digits '-' (e + 1)
where
  withExponent (digits : List Char) (sign : Char) (e : Nat) : List Char :=
    let rest := digits.drop 1
    digits.take 1 ++ (if rest.isEmpty then [] else '.' :: rest) ++ 'e' :: sign :: Text.decimal e

/-- The text of a finite double. -/
def realText (x : Double) : List Char :=
  let sign := if x.isNegative then ['-'] else []
  if x.isZero then sign ++ ['0', '.', '0']
  else sign ++ decimalText (Dashboard.Number.shortest x)

/-- The text of a number. -/
def text : Number → String
  | natural n => String.ofList (Text.decimal n.toNat)
  | negative m => String.ofList ('-' :: Text.decimal m.toNat)
  | real x => String.ofList (realText x)

end Number

end Dashboard.Json
