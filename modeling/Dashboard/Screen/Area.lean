/-!
# Areas of the screen

The screen is divided at boundaries. A boundary lies at a fraction of a
length, rounded to the nearest cell with a half going up, and two areas that
meet share it, so a division leaves no gap and has no overlap.
-/

namespace Dashboard.Screen

/-- A rectangle of cells. -/
structure Area where
  x : Nat
  y : Nat
  width : Nat
  height : Nat
deriving DecidableEq, Repr

/-- The whole number nearest to `num / den`, a half going up. -/
def roundHalfUp (num den : Nat) : Nat := (2 * num + den) / (2 * den)

namespace Area

/-- The greatest coordinate. -/
def farthest : Nat := 65535

/-- The area at a corner; what would lie beyond the greatest coordinate is
cut off. -/
def fromCorner (x y width height : Nat) : Area :=
  ⟨x, y, min width (farthest - x), min height (farthest - y)⟩

/-- The area inside a border of one cell. -/
def inner (a : Area) : Area :=
  if a.width < 2 ∨ a.height < 2 then ⟨a.x, a.y, 0, 0⟩
  else ⟨a.x + 1, a.y + 1, a.width - 2, a.height - 2⟩

/-- The boundary after `i` of `n` equal columns. -/
def boundary (a : Area) (n i : Nat) : Nat := a.x + roundHalfUp (i * a.width) n

/-- The area divided into columns of equal width, at least one. -/
def columns (a : Area) (n : Nat) : List Area :=
  let n := max n 1
  (List.range n).map fun i =>
    ⟨a.boundary n i, a.y, a.boundary n (i + 1) - a.boundary n i, a.height⟩

/-- The start and the length of the middle `percent` of a length that begins
at `origin`; the side before it is half of the rest in whole percent. -/
def middle (origin length percent : Nat) : Nat × Nat :=
  let side := (100 - percent) / 2
  let first := roundHalfUp (100 * origin + length * side) 100
  let last := roundHalfUp (100 * origin + length * (side + percent)) 100
  (first, last - first)

/-- The area in the middle that takes the given percentages of the width and
of the height. -/
def centered (a : Area) (percentX percentY : Nat) : Area :=
  let (x, width) := middle a.x a.width percentX
  let (y, height) := middle a.y a.height percentY
  ⟨x, y, width, height⟩

end Area

end Dashboard.Screen
