import Dashboard.Text.Shown

/-!
# Quoted paths

A message that names a path in quotes shows every character of it: quotes
and backslashes are escaped, some controls appear as a letter, and every
other character without a shape of its own as its code point.
-/

namespace Dashboard.Text

/-- A character within quotes. -/
def quotedChar (c : Char) : List Char :=
  match c.toNat with
  | 0x22 => ['\\', '\x22']
  | 0x5C => ['\\', '\\']
  | 0x00 => ['\\', '0']
  | 0x09 => ['\\', 't']
  | 0x0A => ['\\', 'n']
  | 0x0D => ['\\', 'r']
  | n => if isShown c then [c] else ['\\', 'u', '\x7b'] ++ Nat.toDigits 16 n ++ ['\x7d']

/-- A text in quotes. -/
def quoted (s : String) : String :=
  String.ofList ('\x22' :: s.toList.flatMap quotedChar ++ ['\x22'])

end Dashboard.Text
