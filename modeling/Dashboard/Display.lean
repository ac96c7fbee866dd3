import Dashboard.Number.Double
import Dashboard.Text.Natural

/-!
# Numbers on the panels

A panel shows a number with at most two places, rounded from the exact
value with a half going to the even hundredth. Zeros at the end of the
places are dropped, the whole part is grouped in thousands, and a number
that rounds to zero has no sign. A number that is absent or not finite is
shown as two dashes.

The text is made from the number of hundredths, so what it says is one
natural number and a sign.
-/

namespace Dashboard.Display

/-- Stands in for a value that could not be obtained. -/
def unavailable : String := "--"

/-- The whole number of hundredths nearest to a finite double's magnitude. -/
def hundredths (x : Double) : Nat :=
  let (num, den) := x.magnitude
  Number.roundDiv (num * 100) den

/-- A comma before every group of three digits counted from the right. -/
def groupThousands : List Char → List Char
  | [] => []
  | c :: r =>
    if r.length % 3 == 0 && !r.isEmpty then c :: ',' :: groupThousands r
    else c :: groupThousands r

/-- The places after the point, without zeros at the end. -/
def places (cents : Nat) : List Char :=
  let tens := cents / 10 % 10
  let ones := cents % 10
  if ones ≠ 0 then ['.', Text.digitChar tens, Text.digitChar ones]
  else if tens ≠ 0 then ['.', Text.digitChar tens]
  else []

/-- A number of hundredths with a sign, which zero does not show. -/
def fixed (negative : Bool) (cents : Nat) : List Char :=
  (if negative && cents != 0 then ['-'] else []) ++
    groupThousands (Text.decimal (cents / 100)) ++ places cents

/-- The text of a finite double. -/
def finite (x : Double) : String := String.ofList (fixed x.isNegative (hundredths x))

/-- The text of a number that may be absent. -/
def number : Option Double → String
  | some x => if x.isFinite then finite x else unavailable
  | none => unavailable

/-- The text of a number and its unit, the unit only with a number. -/
def withUnit (value : Option Double) (unit : String) : String :=
  match value with
  | some x => if x.isFinite then finite x ++ " " ++ unit else unavailable
  | none => unavailable

end Dashboard.Display
