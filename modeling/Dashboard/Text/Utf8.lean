/-!
# UTF-8

A character has exactly one encoding, of one to four bytes. Decoding reads
as many whole characters as it can and hands back the bytes it could not
read, so a caller learns both what the text is and how long its valid part
is. Overlong forms, surrogates and values past U+10FFFF are not read.
-/

namespace Dashboard.Text.Utf8

/-- The bytes of one character. -/
def encodeChar (c : Char) : List UInt8 :=
  let n := c.toNat
  if n < 0x80 then [UInt8.ofNat n]
  else if n < 0x800 then [UInt8.ofNat (0xC0 + n / 64), UInt8.ofNat (0x80 + n % 64)]
  else if n < 0x10000 then
    [UInt8.ofNat (0xE0 + n / 4096), UInt8.ofNat (0x80 + n / 64 % 64), UInt8.ofNat (0x80 + n % 64)]
  else
    [UInt8.ofNat (0xF0 + n / 262144), UInt8.ofNat (0x80 + n / 4096 % 64),
      UInt8.ofNat (0x80 + n / 64 % 64), UInt8.ofNat (0x80 + n % 64)]

/-- The bytes of a text, character by character. -/
def encode (s : List Char) : List UInt8 := s.flatMap encodeChar

/-- The six bits that a continuation byte carries. -/
def continuation? (b : UInt8) : Option Nat :=
  if 0x80 ≤ b.toNat ∧ b.toNat < 0xC0 then some (b.toNat - 0x80) else none

/-- The character of a code point that fits its length, if it is one. -/
def charOf? (least n : Nat) : Option Char :=
  if least ≤ n ∧ n.isValidChar then some (Char.ofNat n) else none

/-- The first character of a byte sequence and the bytes after it. -/
def next? : List UInt8 → Option (Char × List UInt8)
  | [] => none
  | a :: r =>
    if a.toNat < 0x80 then some (Char.ofNat a.toNat, r)
    else if a.toNat < 0xC0 then none
    else if a.toNat < 0xE0 then
      match r with
      | b :: r => do
        let b ← continuation? b
        return (← charOf? 0x80 ((a.toNat - 0xC0) * 64 + b), r)
      | _ => none
    else if a.toNat < 0xF0 then
      match r with
      | b :: c :: r => do
        let b ← continuation? b
        let c ← continuation? c
        return (← charOf? 0x800 (((a.toNat - 0xE0) * 64 + b) * 64 + c), r)
      | _ => none
    else if a.toNat < 0xF8 then
      match r with
      | b :: c :: d :: r => do
        let b ← continuation? b
        let c ← continuation? c
        let d ← continuation? d
        return (← charOf? 0x10000 ((((a.toNat - 0xF0) * 64 + b) * 64 + c) * 64 + d), r)
      | _ => none
    else none

theorem length_of_next? {bs r : List UInt8} {c : Char} (h : next? bs = some (c, r)) :
    r.length < bs.length := by
  unfold next? at h
  split at h
  · simp at h
  · repeat' split at h
    all_goals simp [Option.bind_eq_some_iff] at h
    all_goals grind

/-- The characters at the front of a byte sequence, and the bytes from the
first one on that starts no character. -/
def decode (bs : List UInt8) : List Char × List UInt8 :=
  match _h : next? bs with
  | none => ([], bs)
  | some (c, r) => let (cs, rest) := decode r; (c :: cs, rest)
termination_by bs.length
decreasing_by exact length_of_next? _h

/-- The text of a byte sequence, if all of it is valid. -/
def decode? (bs : List UInt8) : Option (List Char) :=
  match decode bs with
  | (cs, []) => some cs
  | _ => none

/-- How many bytes at the front of a sequence are valid. -/
def validLength (bs : List UInt8) : Nat := bs.length - (decode bs).2.length

end Dashboard.Text.Utf8
