import Dashboard.Number.Double
import Dashboard.Text.Natural

/-!
# Reading a decimal text

A decimal text is an optional sign and then either a name (`inf`,
`infinity`, `nan`, in any case) or digits with at most one point among
them, at least one digit in all, and possibly an exponent. It denotes an
exact rational, which is rounded once to the nearest double; a value beyond
the largest double reads as infinity.
-/

namespace Dashboard.Number.Decimal

/-- The digits at the front of a text, added to a number, with how many
there were and the rest. -/
def takeDigits (value count : Nat) : List Char → Nat × Nat × List Char
  | [] => (value, count, [])
  | c :: r =>
    match Text.digit? c with
    | some d => takeDigits (value * 10 + d) (count + 1) r
    | none => (value, count, c :: r)

/-- A sign at the front: whether the number is negative, and the rest. -/
def takeSign : List Char → Bool × List Char
  | '-' :: r => (true, r)
  | '+' :: r => (false, r)
  | s => (false, s)

/-- The exponent that ends a decimal text, zero if there is none. -/
def exponent? : List Char → Option Int
  | [] => some 0
  | c :: r =>
    if c == 'e' || c == 'E' then
      let (negative, r) := takeSign r
      match takeDigits 0 0 r with
      | (value, count + 1, []) => let _ := count; some (if negative then -(value : Int) else value)
      | _ => none
    else none

/-- Digits with at most one point, then an exponent. -/
def readDigits (negative : Bool) (s : List Char) : Option Double :=
  let (whole, wholeCount, r) := takeDigits 0 0 s
  let (significand, count, places, r) :=
    match r with
    | '.' :: r =>
      let (value, count, r) := takeDigits whole wholeCount r
      (value, count, count - wholeCount, r)
    | r => (whole, wholeCount, 0, r)
  if count = 0 then none
  else (exponent? r).map fun e => Double.ofDecimal negative significand (e - places)

/-- The double that a decimal text denotes. -/
def read (s : List Char) : Option Double :=
  let (negative, r) := takeSign s
  let name := String.ofList (r.map Char.toLower)
  if name == "inf" || name == "infinity" then some (Double.infinity negative)
  else if name == "nan" then some (if negative then Double.notANumber.negate else Double.notANumber)
  else readDigits negative r

end Dashboard.Number.Decimal
