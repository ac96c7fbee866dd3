import Dashboard.Screen.Area
import Dashboard.Screen.Glyph

/-!
# The canvas

A canvas is a rectangle of cells. Drawing goes on top of what is there; what
would be outside of the canvas or of the area that is drawn in is left out.
-/

namespace Dashboard.Screen

/-- One cell of the screen. -/
structure Cell where
  symbol : String := " "
  foreground : Color := .reset
  background : Color := .reset
  bold : Bool := false
deriving DecidableEq, Repr

/-- A cell with a symbol in a style; what the style does not set stays. -/
def Cell.draw (cell : Cell) (symbol : String) (style : Style) : Cell where
  symbol := symbol
  foreground := style.foreground.getD cell.foreground
  background := style.background.getD cell.background
  bold := cell.bold || style.bold

/-- A rectangle of cells, row by row. -/
structure Canvas where
  width : Nat
  height : Nat
  cells : Array Cell

namespace Canvas

/-- A canvas without anything on it. -/
def blank (width height : Nat) : Canvas := ⟨width, height, Array.replicate (width * height) {}⟩

/-- The whole canvas. -/
def area (c : Canvas) : Area := ⟨0, 0, c.width, c.height⟩

/-- Changes one cell. -/
def modify (c : Canvas) (x y : Nat) (f : Cell → Cell) : Canvas :=
  if x < c.width ∧ y < c.height then { c with cells := c.cells.modify (y * c.width + x) f } else c

/-- Draws symbols next to each other from a cell on, as long as there is room.
A wide symbol stands in the first of its cells, and one without a width is left
out. -/
def row (c : Canvas) (x y room : Nat) : Row → Canvas
  | [] => c
  | (g, style) :: r =>
    if g.width = 0 then c.row x y room r
    else if room < g.width then c
    else (c.modify x y fun cell => cell.draw g.symbol style).row (x + g.width) y (room - g.width) r

/-- Draws rows under one another, as many as there is room for. -/
def rows (c : Canvas) (a : Area) (rows : List Row) : Canvas :=
  ((rows.take a.height).zipIdx).foldl (fun c (r, i) => c.row a.x (a.y + i) a.width r) c

/-- Changes every cell of an area. -/
def fill (c : Canvas) (a : Area) (f : Cell → Cell) : Canvas :=
  (List.range a.height).foldl
    (fun c j => (List.range a.width).foldl (fun c i => c.modify (a.x + i) (a.y + j) f) c) c

/-- Makes an area empty. -/
def clear (c : Canvas) (a : Area) : Canvas := c.fill a fun _ => {}

/-- Draws a border inside the edges of an area. Where two edges meet in one
cell, the top one is seen. -/
def border (c : Canvas) (a : Area) : Canvas :=
  if a.width = 0 ∨ a.height = 0 then c
  else
    let right := a.x + a.width - 1
    let bottom := a.y + a.height - 1
    let put (symbol : String) (cell : Cell) : Cell := cell.draw symbol .plain
    let c := c.fill ⟨a.x, a.y, 1, a.height⟩ (put "│")
    let c := c.fill ⟨a.x, a.y, a.width, 1⟩ (put "─")
    let c := c.fill ⟨right, a.y, 1, a.height⟩ (put "│")
    let c := c.fill ⟨a.x, bottom, a.width, 1⟩ (put "─")
    let c := c.modify right bottom (put "┘")
    let c := c.modify right a.y (put "┐")
    let c := c.modify a.x bottom (put "└")
    c.modify a.x a.y (put "┌")

/-- Draws a border with a title in its upper edge. -/
def block (c : Canvas) (a : Area) (title : Row) : Canvas :=
  let c := c.border a
  if a.height = 0 then c else c.row (a.x + 1) a.y (a.width - 2) title

/-- The cells row by row. -/
def cellRows (c : Canvas) : List (List Cell) :=
  (List.range c.height).map fun y =>
    (c.cells.extract (y * c.width) (y * c.width + c.width)).toList

end Canvas

end Dashboard.Screen
