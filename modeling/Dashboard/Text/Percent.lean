import Dashboard.Text.Natural
import Dashboard.Text.Utf8

/-!
# Percent encoding

A text becomes a component of a query by writing its UTF-8 bytes: letters,
digits and `-`, `_`, `.`, `~` as they are, every other byte as a percent
sign and two upper case hexadecimal digits. Decoding undoes exactly that.
-/

namespace Dashboard.Text.Percent

/-- The bytes that stand for themselves. -/
def isPlain (b : UInt8) : Bool :=
  let n := b.toNat
  (48 ≤ n && n ≤ 57) || (65 ≤ n && n ≤ 90) || (97 ≤ n && n ≤ 122) ||
    n == 45 || n == 46 || n == 95 || n == 126

/-- The written form of one byte. -/
def encodeByte (b : UInt8) : List Char :=
  if isPlain b then [Char.ofNat b.toNat]
  else ['%', hexDigit (b.toNat / 16), hexDigit (b.toNat % 16)]

/-- The written form of a text. -/
def encode (s : List Char) : List Char := (Utf8.encode s).flatMap encodeByte

/-- The bytes of a written form; a percent sign that is not followed by two
hexadecimal digits, or a character above ASCII, has none. -/
def decode : List Char → Option (List UInt8)
  | [] => some []
  | '%' :: a :: b :: r => do
    let high ← hexValue? a
    let low ← hexValue? b
    return UInt8.ofNat (high * 16 + low) :: (← decode r)
  | c :: r =>
    if c = '%' ∨ 128 ≤ c.toNat then none
    else (decode r).map (UInt8.ofNat c.toNat :: ·)

end Dashboard.Text.Percent
