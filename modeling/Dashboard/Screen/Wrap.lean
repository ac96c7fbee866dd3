import Dashboard.Screen.Glyph

/-!
# Wrapping

A text that is wider than its panel continues in the next row. A row ends
between two words where it can, and inside a word that is longer than a row.
Blank symbols are kept together with the word after them until it is known in
which row that word goes; those at the end of a row are dropped. Trimming also
drops the blank symbols at the beginning of a row.

All widths are in cells. A symbol that is wider than the panel is left out, and
one without a width goes where the word before it goes.
-/

namespace Dashboard.Screen

/-- A text that is being wrapped. -/
structure Wrapping where
  /-- The rows that are complete. -/
  rows : List (List Glyph)
  /-- The row that is being filled. -/
  line : List Glyph
  /-- Blank symbols after it. -/
  gap : List Glyph
  /-- The word after those. -/
  word : List Glyph
  /-- Whether the last symbol was part of a word. -/
  inWord : Bool

/-- Some symbols without those at the front that fit in a room. -/
def dropFitting (room : Nat) : List Glyph → List Glyph
  | [] => []
  | g :: r => if room < g.width then g :: r else dropFitting (room - g.width) r

namespace Wrapping

/-- Before the first symbol. -/
def initial : Wrapping := ⟨[], [], [], [], false⟩

/-- Whether the word must join the row before the next symbol is taken:
because the word has ended, or because nothing else will ever fit. -/
def mustJoin (trim : Bool) (width : Nat) (w : Wrapping) (g : Glyph) : Bool :=
  (w.inWord && g.isBreak) ||
    (w.line.isEmpty &&
      if trim then width < cells w.word + g.width || width < cells w.gap + g.width
      else width < cells w.word + cells w.gap + g.width)

/-- The row with the word, and the blank symbols before the word unless they
are trimmed. -/
def joined (trim : Bool) (w : Wrapping) : List Glyph :=
  (if w.line.isEmpty && trim then [] else w.line ++ w.gap) ++ w.word

/-- Moves the word into the row. -/
def join (trim : Bool) (w : Wrapping) : Wrapping :=
  { w with line := w.joined trim, gap := [], word := [] }

/-- Adds a symbol. -/
def push (w : Wrapping) (g : Glyph) : Wrapping :=
  if g.isBreak then { w with gap := w.gap ++ [g], inWord := false }
  else { w with word := w.word ++ [g], inWord := true }

/-- Whether the row is full, or the word fills it and the next symbol needs
room. -/
def isFull (width : Nat) (w : Wrapping) (g : Glyph) : Bool :=
  width ≤ cells w.line || (0 < g.width && width ≤ cells w.line + cells w.gap + cells w.word)

/-- Takes the next symbol. -/
def step (trim : Bool) (width : Nat) (w : Wrapping) (g : Glyph) : Wrapping :=
  if width < g.width then w
  else
    let w := if w.mustJoin trim width g then w.join trim else w
    if w.isFull width g then
      let gap := dropFitting (width - cells w.line) w.gap
      let w := { w with rows := w.rows ++ [w.line], line := [], gap := gap }
      if g.isBreak && gap.isEmpty then w else w.push g
    else w.push g

/-- The rows after the last symbol, at least one. -/
def finish (trim : Bool) (w : Wrapping) : List (List Glyph) :=
  let blankRow := if w.line.isEmpty && w.word.isEmpty && !w.gap.isEmpty then [[]] else []
  let last := w.joined trim
  let rows := w.rows ++ blankRow ++ if last.isEmpty then [] else [last]
  if rows.isEmpty then [[]] else rows

end Wrapping

/-- The rows of a text in a panel of a width. -/
def wrap (trim : Bool) (width : Nat) (text : List Glyph) : List (List Glyph) :=
  (text.foldl (Wrapping.step trim width) .initial).finish trim

end Dashboard.Screen
