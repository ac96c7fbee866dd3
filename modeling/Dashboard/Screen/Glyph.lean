import Dashboard.Screen.Style
import Dashboard.Text.Blank

/-!
# Symbols on the screen

A screen shows a text symbol by symbol. A symbol is one character or several
that belong together, and it takes one cell, two cells or, where it only acts on
its neighbours, none. Which is the case is a matter of Unicode and not of the
panels, so whatever is drawn is drawn for a given way of dividing texts.
-/

namespace Dashboard.Screen

/-- What is shown as one symbol, and how many cells it takes. -/
structure Glyph where
  symbol : String
  width : Nat
deriving DecidableEq, Repr

/-- How texts divide into symbols. -/
abbrev Glyphs := String → List Glyph

/-- One cell for each character, as it is with plain text. -/
def singleCells : Glyphs := fun text => text.toList.map fun c => ⟨String.singleton c, 1⟩

/-- The symbols of a text without the ends of its lines. -/
def Glyphs.ofText (glyphs : Glyphs) (text : String) : List Glyph :=
  (glyphs text).filter (·.symbol != "\n")

/-- The symbols between words: blank ones, except a space that must not be
broken at, and the space of width zero. -/
def Glyph.isBreak (g : Glyph) : Bool :=
  g.symbol == "\u200B" || (Text.isBlankText g.symbol && g.symbol != "\u00A0")

/-- How many cells some symbols take. -/
def cells : List Glyph → Nat
  | [] => 0
  | g :: glyphs => g.width + cells glyphs

@[simp] theorem cells_nil : cells [] = 0 := rfl

@[simp] theorem cells_cons (g : Glyph) (r : List Glyph) : cells (g :: r) = g.width + cells r := rfl

@[simp] theorem cells_append (a b : List Glyph) : cells (a ++ b) = cells a + cells b := by
  induction a with
  | nil => simp
  | cons g a ih => rw [List.cons_append, cells_cons, cells_cons, ih, Nat.add_assoc]

/-- A row of the screen: symbols, each with its style. -/
abbrev Row := List (Glyph × Style)

/-- The symbols of some pieces of text. -/
def Glyphs.ofSpans (glyphs : Glyphs) (spans : List Span) : Row :=
  spans.flatMap fun s => (glyphs.ofText s.text).map (·, s.style)

end Dashboard.Screen
