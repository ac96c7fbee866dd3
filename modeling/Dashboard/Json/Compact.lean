import Dashboard.Json.Value
import Dashboard.Text.Percent

/-!
# Compact JSON text

The text of a value without any blank between its parts, the members of an
object in the order of their keys. Within a string only what has to be
escaped is: the quote, the backslash and the control characters below the
space, five of which have a letter of their own.
-/

namespace Dashboard.Json

/-- The letter that stands for a character after a backslash. -/
def escapeLetter? (c : Char) : Option Char :=
  match c.toNat with
  | 0x22 => some '\x22'
  | 0x5C => some '\\'
  | 0x08 => some 'b'
  | 0x09 => some 't'
  | 0x0A => some 'n'
  | 0x0C => some 'f'
  | 0x0D => some 'r'
  | _ => none

/-- A character within a string. -/
def charText (c : Char) : List Char :=
  match escapeLetter? c with
  | some letter => ['\\', letter]
  | none =>
    if c.toNat < 0x20 then
      let digit (d : Nat) := (Text.hexDigit d).toLower
      ['\\', 'u', '0', '0', digit (c.toNat / 16), digit (c.toNat % 16)]
    else [c]

/-- A string in its quotes. -/
def stringText (s : String) : List Char := '\x22' :: s.toList.flatMap charText ++ ['\x22']

/-- A member of an object. -/
def memberText (key : String) (value : List Char) : List Char := stringText key ++ ':' :: value

/-- Texts with commas between them. -/
def commaText (each : List (List Char)) : List Char := List.intercalate [','] each

mutual

/-- The text of a value. -/
def compact : Json → List Char
  | null => "null".toList
  | boolean b => (if b then "true" else "false").toList
  | number n => n.text.toList
  | string s => stringText s
  | array items => '[' :: commaText (compactItems items) ++ [']']
  | object members =>
    '\x7b' :: commaText ((entries (compactMembers members)).map fun (k, v) => memberText k v) ++
      ['\x7d']

/-- The texts of some values. -/
def compactItems : List Json → List (List Char)
  | [] => []
  | v :: rest => compact v :: compactItems rest

/-- The texts of the values of some members. -/
def compactMembers : List (String × Json) → List (String × List Char)
  | [] => []
  | (k, v) :: rest => (k, compact v) :: compactMembers rest

end

end Dashboard.Json
