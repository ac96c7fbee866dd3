import Dashboard.Number.Decimal
import Dashboard.Text.Natural
import Dashboard.Text.Pieces
import Dashboard.Toml.Moment
import Dashboard.Toml.Value

/-!
# Words of a settings document

A value that is neither quoted nor bracketed is one word: a truth value, an
integer, a real number or a moment. Digits of a number may be parted by
single underscores. Integers have sixty-four bits and a sign, and may be
written in base two, eight or sixteen.
-/

namespace Dashboard.Toml.Scalar

/-- The characters that words are made of. -/
def isWordChar (c : Char) : Bool :=
  c.isAlphanum || c == '+' || c == '-' || c == '_' || c == '.' || c == ':'

/-- The digits of a number without the underscores between them; every
underscore stands between two digits. -/
def joined (isDigit : Char → Bool) : List Char → Option (List Char)
  | [] => none
  | [c] => if isDigit c then some [c] else none
  | c :: d :: r =>
    if !isDigit c then none
    else if d == '_' then (joined isDigit r).map (c :: ·)
    else (joined isDigit (d :: r)).map (c :: ·)

/-- The integer of a magnitude and a sign, if it has sixty-four bits. -/
def ofMagnitude (negative : Bool) (n : Nat) : Option Value :=
  if negative then if n ≤ Nat.pow 2 63 then some (.integer (-(n : Int))) else none
  else if n < Nat.pow 2 63 then some (.integer n) else none

/-- An integer in a base that is named in front of it. -/
def inBase (base : Nat) (s : List Char) : Option Value := do
  let ds ← joined (fun c => ((Text.hexValue? c).filter (· < base)).isSome) s
  ofMagnitude false (← Text.numeral? base ds)

/-- A sign at the front: whether the number is negative, and the rest. -/
def takeSign : List Char → Bool × List Char
  | '-' :: r => (true, r)
  | '+' :: r => (false, r)
  | s => (false, s)

/-- Digits before the point or of an integer: a zero only alone. -/
def wholeDigits? (s : List Char) : Option (List Char) :=
  (joined Char.isDigit s).filter fun ds => ds.length == 1 || ds.head? != some '0'

/-- A decimal integer. -/
def decimalInteger (s : List Char) : Option Value := do
  let (negative, r) := takeSign s
  ofMagnitude negative (← Text.numeral? 10 (← wholeDigits? r))

/-- An exponent without its underscores, if it is one. -/
def exponentDigits? : Option (List Char) → Option (List Char)
  | none => some []
  | some e =>
    let (negative, r) := takeSign e
    (joined Char.isDigit r).map fun ds => 'e' :: (if negative then '-' else '+') :: ds

/-- The places after a point without their underscores, if they are some. -/
def placeDigits? : Option (List Char) → Option (List Char)
  | none => some []
  | some p => (joined Char.isDigit p).map ('.' :: ·)

/-- A decimal with a point or an exponent. One that is too large is none,
unless it is negative. -/
def decimalReal (s : List Char) : Option Value := do
  let (negative, r) := takeSign s
  let (mantissa, exponent) := Text.cutAt (fun c => c == 'e' || c == 'E') r
  let (whole, places) := Text.cutAt (· == '.') mantissa
  if exponent.isNone && places.isNone then none
  else
    let whole ← wholeDigits? whole
    let places ← placeDigits? places
    let exponent ← exponentDigits? exponent
    let x ← Number.Decimal.read ((if negative then ['-'] else []) ++ whole ++ places ++ exponent)
    if x = Double.infinity false then none else some (.real x)

/-- A real number that has a name. -/
def namedReal (s : List Char) : Option Value :=
  let (negative, r) := takeSign s
  if r == ['i', 'n', 'f'] then some (.real (Double.infinity negative))
  else if r == ['n', 'a', 'n'] then
    some (.real (if negative then Double.notANumber.negate else Double.notANumber))
  else none

/-- The value of a word. -/
def read (s : List Char) : Option Value :=
  match s with
  | ['t', 'r', 'u', 'e'] => some (.boolean true)
  | ['f', 'a', 'l', 's', 'e'] => some (.boolean false)
  | '0' :: 'x' :: r => inBase 16 r
  | '0' :: 'o' :: r => inBase 8 r
  | '0' :: 'b' :: r => inBase 2 r
  | s =>
    if Moment.isMoment s then some (.moment (String.ofList s))
    else ((decimalInteger s).or (decimalReal s)).or (namedReal s)

end Dashboard.Toml.Scalar
