import Dashboard.Json.Value
import Dashboard.Text.Utf8

/-!
# Decoding a payload

A payload is a sequence of bytes and holds one JSON value with nothing but
white space around it. Decoding either gives the value or says what is
wrong and where: the line, and the column as a number of bytes, of the place
the decoder had reached.

Every step takes the bytes that are left and gives back those it leaves, so
a place is known by how many bytes come after it. An offending byte that was
only looked at is inside its place; a byte that was consumed is before it;
`Fault.at` and `Fault.after` say which.

Values nest. A step on a value may use one level less than the step that
called it, which makes the limit on nesting the measure of the recursion.
-/

namespace Dashboard.Json

/-- What is wrong with a payload. -/
inductive Cause where
  | endOfValue
  | endOfList
  | endOfObject
  | endOfString
  | expectedColon
  | expectedListCommaOrEnd
  | expectedObjectCommaOrEnd
  | expectedIdent
  | expectedValue
  | controlCharacter
  | invalidEscape
  | invalidNumber
  | numberOutOfRange
  | invalidCodePoint
  | keyNotString
  | loneSurrogate
  | trailingComma
  | trailingCharacters
  | endOfHexEscape
  | nestedTooDeep
deriving DecidableEq, Repr

/-- The wording of a cause. -/
def Cause.message : Cause → String
  | endOfValue => "EOF while parsing a value"
  | endOfList => "EOF while parsing a list"
  | endOfObject => "EOF while parsing an object"
  | endOfString => "EOF while parsing a string"
  | expectedColon => "expected `:`"
  | expectedListCommaOrEnd => "expected `,` or `]`"
  | expectedObjectCommaOrEnd => "expected `,` or `\x7d`"
  | expectedIdent => "expected ident"
  | expectedValue => "expected value"
  | controlCharacter => "control character (\\u0000-\\u001F) found while parsing a string"
  | invalidEscape => "invalid escape"
  | invalidNumber => "invalid number"
  | numberOutOfRange => "number out of range"
  | invalidCodePoint => "invalid unicode code point"
  | keyNotString => "key must be a string"
  | loneSurrogate => "lone leading surrogate in hex escape"
  | trailingComma => "trailing comma"
  | trailingCharacters => "trailing characters"
  | endOfHexEscape => "unexpected end of hex escape"
  | nestedTooDeep => "recursion limit exceeded"

/-- A cause and its place. -/
structure Fault where
  cause : Cause
  /-- How many bytes come after the place. -/
  remaining : Nat
  /-- By how much the column is moved to the left. -/
  back : Nat := 0
deriving DecidableEq, Repr

/-- A fault at the first of the bytes that are left, or at the end. -/
def Fault.at (cause : Cause) (bs : List UInt8) : Fault := ⟨cause, bs.length - 1, 0⟩

/-- A fault just before the bytes that are left. -/
def Fault.after (cause : Cause) (bs : List UInt8) : Fault := ⟨cause, bs.length, 0⟩

/-- A step of the decoder: from the bytes that are left to a result and the
bytes left after it. -/
abbrev Step (α : Type) := List UInt8 → Except Fault (α × List UInt8)

/-- White space between the parts of a payload. -/
def isSpace (b : UInt8) : Bool := b == 32 || b == 9 || b == 10 || b == 13

/-- The bytes from the first one on that is no white space. -/
def skipSpace (bs : List UInt8) : List UInt8 := bs.dropWhile isSpace

/-- The value of a decimal digit. -/
def byteDigit? (b : UInt8) : Option Nat :=
  if 48 ≤ b.toNat ∧ b.toNat ≤ 57 then some (b.toNat - 48) else none

/-- The value of a hexadecimal digit. -/
def byteHex? (b : UInt8) : Option Nat :=
  let n := b.toNat
  if 48 ≤ n ∧ n ≤ 57 then some (n - 48)
  else if 65 ≤ n ∧ n ≤ 70 then some (n - 55)
  else if 97 ≤ n ∧ n ≤ 102 then some (n - 87)
  else none

/-! ## Numbers

The digits of a number are gathered into a significand of sixty-four bits.
A digit that no longer fits is not gathered: before the point it only raises
the exponent, after the point it and all that follow are dropped. The
significand, rounded to a double, is then multiplied or divided by powers of
ten, each of them rounded as well. The result is near the written number but
not always the double nearest to it. -/

/-- Whether the next digit still fits into the significand. -/
def fits (significand d : Nat) : Bool := decide (significand * 10 + d < UInt64.size)

/-- Digits before the point: the significand, how many digits did not fit,
and the rest. -/
def wholeDigits (significand : Nat) : List UInt8 → Nat × Nat × List UInt8
  | [] => (significand, 0, [])
  | b :: r =>
    match byteDigit? b with
    | none => (significand, 0, b :: r)
    | some d =>
      if fits significand d then wholeDigits (significand * 10 + d) r
      else
        let long := (b :: r).takeWhile fun b => (byteDigit? b).isSome
        (significand, long.length, (b :: r).drop long.length)

/-- Digits after the point: the significand, how many digits went into it,
and the rest. -/
def fractionDigits (significand count : Nat) : List UInt8 → Nat × Nat × List UInt8
  | [] => (significand, count, [])
  | b :: r =>
    match byteDigit? b with
    | none => (significand, count, b :: r)
    | some d =>
      if fits significand d then fractionDigits (significand * 10 + d) (count + 1) r
      else (significand, count, (b :: r).dropWhile fun b => (byteDigit? b).isSome)

/-- The double nearest to a power of ten. -/
def powerOfTen (n : Nat) : Double := Double.ofNat (Nat.pow 10 n)

/-- Brings the exponent into range by dividing by 10^308 and then applies
it. Nothing is left of a value that underflows on the way. -/
def applyExponent (f : Double) (exponent : Int) : Option Double :=
  match exponent with
  | .ofNat e =>
    if e ≤ 308 then
      let product := f.mul (powerOfTen e)
      if product.isFinite then some product else none
    else if f.isZero then some f
    else none
  | .negSucc e =>
    if e + 1 ≤ 308 then some (f.div (powerOfTen (e + 1)))
    else if f.isZero then some f
    else applyExponent (f.div (powerOfTen 308)) (-((e + 1 - 308 : Nat) : Int))
termination_by exponent.natAbs
decreasing_by rw [Int.natAbs_neg, Int.natAbs_natCast, Int.natAbs_negSucc]; omega

/-- The double of a sign, a significand and an exponent. -/
def ofParts (negative : Bool) (significand : Nat) (exponent : Int) (rest : List UInt8) :
    Except Fault (Number × List UInt8) :=
  match applyExponent (Double.ofNat significand) exponent with
  | some f => .ok (.real (if negative then f.negate else f), rest)
  | none => .error (Fault.after .numberOutOfRange rest)

/-- The largest exponent that is gathered. -/
def exponentLimit : Nat := Nat.pow 2 31 - 1

/-- The digits of a written exponent after the first one: its value and the
rest, or the bytes after the digit with which it became too large. -/
def exponentDigits (value : Nat) : List UInt8 → Except (List UInt8) (Nat × List UInt8)
  | [] => .ok (value, [])
  | b :: r =>
    match byteDigit? b with
    | none => .ok (value, b :: r)
    | some d =>
      if value * 10 + d ≤ exponentLimit then exponentDigits (value * 10 + d) r
      else .error r

/-- Keeps an exponent within thirty-two bits. -/
def clampExponent (e : Int) : Int := max (-(exponentLimit + 1 : Nat)) (min e exponentLimit)

/-- A number from its exponent on; the bytes begin after the `e`. -/
def exponentPart (negative : Bool) (significand : Nat) (start : Int) (bs : List UInt8) :
    Except Fault (Number × List UInt8) :=
  let (down, bs) :=
    match bs with
    | 43 :: r => (false, r)
    | 45 :: r => (true, r)
    | bs => (false, bs)
  match bs with
  | [] => .error (Fault.after .endOfValue [])
  | b :: r =>
    match byteDigit? b with
    | none => .error (Fault.after .invalidNumber r)
    | some d =>
      match exponentDigits d r with
      | .ok (value, r) =>
        let written : Int := if down then -(value : Int) else value
        ofParts negative significand (clampExponent (start + written)) r
      | .error r =>
        if significand ≠ 0 ∧ !down then .error (Fault.after .numberOutOfRange r)
        else .ok (.real (Double.zero negative), r.dropWhile fun b => (byteDigit? b).isSome)

/-- Whether a byte begins an exponent. -/
def isExponentMark (b : UInt8) : Bool := b == 101 || b == 69

/-- A number from its point on; the bytes begin after the point. -/
def fractionPart (negative : Bool) (significand : Nat) (start : Int) (bs : List UInt8) :
    Except Fault (Number × List UInt8) :=
  match bs with
  | [] => .error (Fault.at .endOfValue [])
  | b :: _ =>
    if (byteDigit? b).isNone then .error (Fault.at .invalidNumber bs)
    else
      let (significand, count, r) := fractionDigits significand 0 bs
      let exponent := start - (count : Int)
      match r with
      | b :: r' =>
        if isExponentMark b then exponentPart negative significand exponent r'
        else ofParts negative significand exponent r
      | [] => ofParts negative significand exponent []

/-- The integer of a sign and a significand, a double where it is `-0` or
below -2^63. -/
def integer (negative : Bool) (significand : Nat) : Number :=
  if !negative then .natural (UInt64.ofNat significand)
  else if significand = 0 ∨ Nat.pow 2 63 < significand then .real (Double.ofNat significand).negate
  else .negative (UInt64.ofNat significand)

/-- A number after its digits before the point. -/
def afterWhole (negative : Bool) (significand long : Nat) (bs : List UInt8) :
    Except Fault (Number × List UInt8) :=
  match bs with
  | 46 :: r => fractionPart negative significand long r
  | b :: r =>
    if isExponentMark b then exponentPart negative significand long r
    else if long = 0 then .ok (integer negative significand, bs)
    else ofParts negative significand long bs
  | [] =>
    if long = 0 then .ok (integer negative significand, [])
    else ofParts negative significand long []

/-- A number after its sign. -/
def unsignedNumber (negative : Bool) : Step Number
  | [] => .error (Fault.after .endOfValue [])
  | b :: r =>
    match byteDigit? b with
    | none => .error (Fault.after .invalidNumber r)
    | some 0 =>
      match r with
      | c :: _ =>
        if (byteDigit? c).isSome then .error (Fault.at .invalidNumber r)
        else afterWhole negative 0 0 r
      | [] => afterWhole negative 0 0 []
    | some _ =>
      let (significand, long, rest) := wholeDigits 0 (b :: r)
      afterWhole negative significand long rest

/-! ## Strings -/

/-- Where the decoder stands inside a string. -/
inductive StringMode where
  /-- Among ordinary characters. -/
  | plain
  /-- After a backslash. -/
  | escape
  /-- Inside a hexadecimal escape, `count` digits read, `value` their value
  unless one of them is none, `lead` a surrogate that came before. -/
  | hex (lead : Option Nat) (count : Nat) (value : Option Nat)
  /-- After a leading surrogate: a backslash has to follow. -/
  | pairBackslash (lead : Nat)
  /-- After a leading surrogate and a backslash: `u` has to follow. -/
  | pairMark (lead : Nat)

/-- The byte that an escape letter stands for. -/
def escapeByte? (b : UInt8) : Option UInt8 :=
  match b.toNat with
  | 34 => some 34
  | 92 => some 92
  | 47 => some 47
  | 98 => some 8
  | 102 => some 12
  | 110 => some 10
  | 114 => some 13
  | 116 => some 9
  | _ => none

/-- What a hexadecimal escape adds to the content, or the leading surrogate
that it is. -/
inductive HexEscape where
  | bytes (bs : List UInt8)
  | lead (n : Nat)
  | fault

/-- The meaning of a hexadecimal escape after an optional leading surrogate. -/
def hexEscape (lead : Option Nat) (n : Nat) : HexEscape :=
  let trailing := decide (0xDC00 ≤ n ∧ n ≤ 0xDFFF)
  match lead with
  | some l =>
    if trailing then
      .bytes (Text.Utf8.encodeChar (Char.ofNat ((l - 0xD800) * 1024 + (n - 0xDC00) + 0x10000)))
    else .fault
  | none =>
    if trailing then .fault
    else if 0xD800 ≤ n ∧ n ≤ 0xDBFF then .lead n
    else .bytes (Text.Utf8.encodeChar (Char.ofNat n))

/-- The content of a string up to its closing quote, `acc` being the content
so far from its end. -/
def stringContent (mode : StringMode) (acc : List UInt8) : Step (List UInt8)
  | [] => .error (Fault.after .endOfString [])
  | b :: r =>
    match mode with
    | .plain =>
      if b == 34 then .ok (acc.reverse, r)
      else if b == 92 then stringContent .escape acc r
      else if b.toNat < 32 then .error (Fault.after .controlCharacter r)
      else stringContent .plain (b :: acc) r
    | .escape =>
      if b == 117 then
        if (r.drop 3).isEmpty then .error (Fault.after .endOfString [])
        else stringContent (.hex none 0 (some 0)) acc r
      else
        match escapeByte? b with
        | some e => stringContent .plain (e :: acc) r
        | none => .error (Fault.after .invalidEscape r)
    | .hex lead count value =>
      let value := value.bind fun v => (byteHex? b).map (v * 16 + ·)
      if count < 3 then stringContent (.hex lead (count + 1) value) acc r
      else
        match value with
        | none => .error (Fault.after .invalidEscape r)
        | some n =>
          match hexEscape lead n with
          | .bytes bs => stringContent .plain (bs.reverse ++ acc) r
          | .lead n => stringContent (.pairBackslash n) acc r
          | .fault => .error (Fault.after .loneSurrogate r)
    | .pairBackslash lead =>
      if b == 92 then stringContent (.pairMark lead) acc r
      else .error (Fault.after .endOfHexEscape r)
    | .pairMark lead =>
      if b == 117 then
        if (r.drop 3).isEmpty then .error (Fault.after .endOfString [])
        else stringContent (.hex (some lead) 0 (some 0)) acc r
      else .error (Fault.after .endOfHexEscape r)

/-- A string after its opening quote. Its content has to be valid UTF-8,
which is found out at the closing quote. -/
def quotedString : Step String := fun bs => do
  let (content, rest) ← stringContent .plain [] bs
  match Text.Utf8.decode? content with
  | some cs => .ok (String.ofList cs, rest)
  | none =>
    .error ⟨.invalidCodePoint, rest.length, content.length - Text.Utf8.validLength content⟩

/-! ## Values -/

/-- The rest of a word whose first byte has been consumed. -/
def word (v : Json) : List UInt8 → Step Json
  | [], bs => .ok (v, bs)
  | _ :: _, [] => .error (Fault.after .endOfValue [])
  | w :: ws, b :: bs =>
    if b = w then word v ws bs else .error (Fault.after .expectedIdent bs)

/-- The items of an array after the first one, `acc` being the items so far
from the last. -/
def moreItems (value : Step Json) (fuel : Nat) (acc : List Json) (bs : List UInt8) :
    Except Fault (List Json × List UInt8) :=
  match fuel with
  | 0 => .error (Fault.at .endOfList [])
  | fuel + 1 =>
    match skipSpace bs with
    | [] => .error (Fault.at .endOfList [])
    | b :: r =>
      if b == 93 then .ok (acc.reverse, r)
      else if b == 44 then
        match skipSpace r with
        | [] => .error (Fault.at .endOfValue [])
        | c :: r =>
          if c == 93 then .error (Fault.at .trailingComma (c :: r))
          else do
            let (v, rest) ← value (c :: r)
            moreItems value fuel (v :: acc) rest
      else .error (Fault.at .expectedListCommaOrEnd (b :: r))

/-- The items of an array after its opening bracket. -/
def items (value : Step Json) : Step (List Json) := fun bs =>
  match skipSpace bs with
  | [] => .error (Fault.at .endOfList [])
  | b :: r =>
    if b == 93 then .ok ([], r)
    else do
      let (v, rest) ← value (b :: r)
      moreItems value (rest.length + 1) [v] rest

/-- A member of an object; the bytes begin with the quote of its key. -/
def member (value : Step Json) : Step (String × Json) := fun bs => do
  let (key, rest) ← quotedString (bs.drop 1)
  match skipSpace rest with
  | [] => .error (Fault.at .endOfObject [])
  | b :: r =>
    if b == 58 then
      let (v, rest) ← value r
      .ok ((key, v), rest)
    else .error (Fault.at .expectedColon (b :: r))

/-- The members of an object after the first one, `acc` being the members so
far from the last. -/
def moreMembers (value : Step Json) (fuel : Nat) (acc : Members) (bs : List UInt8) :
    Except Fault (Members × List UInt8) :=
  match fuel with
  | 0 => .error (Fault.at .endOfObject [])
  | fuel + 1 =>
    match skipSpace bs with
    | [] => .error (Fault.at .endOfObject [])
    | b :: r =>
      if b == 125 then .ok (acc.reverse, r)
      else if b == 44 then
        match skipSpace r with
        | [] => .error (Fault.at .endOfValue [])
        | c :: r =>
          if c == 125 then .error (Fault.at .trailingComma (c :: r))
          else if c == 34 then do
            let (m, rest) ← member value (c :: r)
            moreMembers value fuel (m :: acc) rest
          else .error (Fault.at .keyNotString (c :: r))
      else .error (Fault.at .expectedObjectCommaOrEnd (b :: r))

/-- The members of an object after its opening brace. -/
def members (value : Step Json) : Step Members := fun bs =>
  match skipSpace bs with
  | [] => .error (Fault.at .endOfObject [])
  | b :: r =>
    if b == 125 then .ok ([], r)
    else if b == 34 then do
      let (m, rest) ← member value (b :: r)
      moreMembers value (rest.length + 1) [m] rest
    else .error (Fault.at .keyNotString (b :: r))

/-- A value in which at most `depth` arrays and objects may be nested. -/
def value (depth : Nat) : Step Json := fun bs =>
  match skipSpace bs with
  | [] => .error (Fault.at .endOfValue [])
  | b :: r =>
    match b.toNat with
    | 110 => word .null [117, 108, 108] r
    | 116 => word (.boolean true) [114, 117, 101] r
    | 102 => word (.boolean false) [97, 108, 115, 101] r
    | 34 => do
      let (s, rest) ← quotedString r
      .ok (.string s, rest)
    | 45 => do
      let (n, rest) ← unsignedNumber true r
      .ok (.number n, rest)
    | 91 =>
      match depth with
      | 0 => .error (Fault.at .nestedTooDeep (b :: r))
      | depth + 1 => do
        let (xs, rest) ← items (value depth) r
        .ok (.array xs, rest)
    | 123 =>
      match depth with
      | 0 => .error (Fault.at .nestedTooDeep (b :: r))
      | depth + 1 => do
        let (ms, rest) ← members (value depth) r
        .ok (.object ms, rest)
    | _ =>
      if (byteDigit? b).isSome then do
        let (n, rest) ← unsignedNumber false (b :: r)
        .ok (.number n, rest)
      else .error (Fault.at .expectedValue (b :: r))

/-- How deep arrays and objects may nest. -/
def depthLimit : Nat := 127

/-- The one value that a payload holds. -/
def document (bs : List UInt8) : Except Fault Json := do
  let (v, rest) ← value depthLimit bs
  match skipSpace rest with
  | [] => .ok v
  | b :: r => .error (Fault.at .trailingCharacters (b :: r))

/-- A place in a payload, as it is reported: the line from one on, and how
many bytes of that line come before the place. -/
def position (bs : List UInt8) (index : Nat) : Nat × Nat :=
  let before := bs.take index
  (before.count 10 + 1, (before.reverse.takeWhile (· != 10)).length)

/-- The report of a fault in a payload. -/
def Fault.message (fault : Fault) (bs : List UInt8) : String :=
  let (line, column) := position bs (bs.length - fault.remaining)
  fault.cause.message ++ " at line " ++ toString line ++ " column " ++
    toString (column - fault.back)

/-- Decodes a payload, or reports what is wrong with it. -/
def decode (bs : List UInt8) : Except String Json :=
  match document bs with
  | .ok v => .ok v
  | .error fault => .error (fault.message bs)

end Dashboard.Json
