/-!
# Natural numbers in decimal

A count on the command line, in an override or in a settings document is a
run of ASCII digits, at most one `+` before it, and below 2^64. Reading
stops at the first thing that is wrong, so a digit too many is reported
before a stray character that stands after it.

Within other formats numbers also appear in octal, hexadecimal and binary.
-/

namespace Dashboard.Text

/-- Why a text is no 64-bit natural number. -/
inductive NaturalError where
  | empty
  | strayCharacter
  | tooLarge
deriving DecidableEq, Repr

/-- The wording of the reason. -/
def NaturalError.message : NaturalError → String
  | empty => "cannot parse integer from empty string"
  | strayCharacter => "invalid digit found in string"
  | tooLarge => "number too large to fit in target type"

/-- The value of an ASCII decimal digit. -/
def digit? (c : Char) : Option Nat :=
  if '0' ≤ c ∧ c ≤ '9' then some (c.toNat - '0'.toNat) else none

/-- The ASCII decimal digit of a value below ten. -/
def digitChar (d : Nat) : Char := Char.ofNat ('0'.toNat + d)

/-- The decimal digits of a number without leading zeros; zero is `0`. -/
def decimal (n : Nat) : List Char :=
  if n < 10 then [digitChar n] else decimal (n / 10) ++ [digitChar (n % 10)]

/-- Reads on from the value `n` of the digits before. -/
def readDigits (n : UInt64) : List Char → Except NaturalError UInt64
  | [] => .ok n
  | c :: r =>
    match digit? c with
    | none => .error .strayCharacter
    | some d =>
      if n.toNat * 10 + d < UInt64.size then readDigits (UInt64.ofNat (n.toNat * 10 + d)) r
      else .error .tooLarge

/-- Reads a 64-bit natural number. -/
def readNatural : List Char → Except NaturalError UInt64
  | [] => .error .empty
  | ['+'] => .error .strayCharacter
  | '+' :: r => readDigits 0 r
  | s => readDigits 0 s

/-! ## Other bases -/

/-- The upper case hexadecimal digit of a value below sixteen. -/
def hexDigit (d : Nat) : Char :=
  if d < 10 then Char.ofNat (48 + d) else Char.ofNat (55 + d)

/-- The value of a hexadecimal digit of either case. -/
def hexValue? (c : Char) : Option Nat :=
  let n := c.toNat
  if 48 ≤ n ∧ n ≤ 57 then some (n - 48)
  else if 65 ≤ n ∧ n ≤ 70 then some (n - 55)
  else if 97 ≤ n ∧ n ≤ 102 then some (n - 87)
  else none

/-- The value of a text in a base of at most sixteen, if all of it is digits
of that base; the value of nothing is zero. -/
def numeral? (base : Nat) (s : List Char) : Option Nat :=
  s.foldlM (fun n c => ((hexValue? c).filter (· < base)).map (n * base + ·)) 0

end Dashboard.Text
