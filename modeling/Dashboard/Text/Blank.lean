/-!
# Blank characters and the edges of a text

Text that comes from payloads, settings and the command line is trimmed
before it is read, and a text that trims to nothing counts as absent. What
may be trimmed is the Unicode property White_Space, all of it and nothing
else: a zero width space or a byte order mark stays.
-/

namespace Dashboard.Text

/-- The characters that have the Unicode property White_Space. -/
def isBlank (c : Char) : Bool :=
  let n := c.toNat
  (9 ≤ n && n ≤ 13) || n == 0x20 || n == 0x85 || n == 0xA0 || n == 0x1680 ||
    (0x2000 ≤ n && n ≤ 0x200A) || n == 0x2028 || n == 0x2029 || n == 0x202F || n == 0x205F ||
    n == 0x3000

/-- A list without the elements at its end that satisfy `p`. -/
def dropTrailing {α : Type} (p : α → Bool) (l : List α) : List α :=
  (l.reverse.dropWhile p).reverse

/-- A list without the elements at either end that satisfy `p`. -/
def dropEdges {α : Type} (p : α → Bool) (l : List α) : List α :=
  dropTrailing p (l.dropWhile p)

/-- The text without blank characters at either end. -/
def trim (s : String) : String := String.ofList (dropEdges isBlank s.toList)

/-- A text that holds nothing but blank characters, or nothing at all. -/
def isBlankText (s : String) : Bool := s.toList.all isBlank

/-- The text without the slashes at its end. -/
def dropTrailingSlashes (s : String) : String :=
  String.ofList (dropTrailing (· == '/') s.toList)

/-- Lower case for the letters A to Z; every other character stays. -/
def lowerAscii (s : String) : String := String.ofList (s.toList.map Char.toLower)

@[simp] theorem dropTrailing_nil {α : Type} (p : α → Bool) :
    dropTrailing p ([] : List α) = [] := rfl

theorem dropTrailing_append_of_neg {α : Type} (p : α → Bool) (l : List α) {a : α}
    (h : p a = false) :
    dropTrailing p (l ++ [a]) = l ++ [a] := by
  simp [dropTrailing, h]

theorem dropTrailing_append_of_pos {α : Type} (p : α → Bool) (l : List α) {a : α}
    (h : p a = true) :
    dropTrailing p (l ++ [a]) = dropTrailing p l := by
  simp [dropTrailing, h]

end Dashboard.Text
