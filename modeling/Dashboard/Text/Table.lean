import Dashboard.Text.Natural
import Dashboard.Text.Pieces

/-!
# Tables of characters

What a standard says of characters one by one is kept in tables. A table
divides the code points into stretches, in order from zero on, and says one
thing of each. It is written as a text with an entry for each stretch, which
begins with the stretch's length in decimal; the length of a single character
may be left out. What no entry reaches is said nothing of.

A character is looked up by halving, so that a table of many stretches costs
no more than a few steps.
-/

namespace Dashboard.Text

/-- Stretches of code points, each as the first code point after it and what
is said of it. -/
structure Table (α : Type) where
  stretches : Array (Nat × α)

namespace Table

/-- The entries in the text of a table. -/
def entries (text : String) : List (List Char) :=
  (pieces Char.isWhitespace text.toList).filter (· != [])

/-- The length that an entry begins with, and the rest of the entry. -/
def cutLength (entry : List Char) : Nat × List Char :=
  (max 1 ((numeral? 10 (entry.takeWhile Char.isDigit)).getD 1), entry.dropWhile Char.isDigit)

/-- Reads a table, given what is said by the rest of an entry. -/
def read {α : Type} (said : List Char → α) (text : String) : Table α :=
  let add := fun (t : Nat × Array (Nat × α)) entry =>
    let (length, rest) := cutLength entry
    (t.1 + length, t.2.push (t.1 + length, said rest))
  ⟨((entries text).foldl add (0, #[])).2⟩

/-- The place of the first stretch that reaches beyond `n`, which is at least
`low` and at most `high`. -/
def placeOf {α : Type} (t : Table α) (n low high : Nat) : Nat :=
  if low < high then
    let middle := (low + high) / 2
    if (t.stretches[middle]?.map Prod.fst).getD 0 ≤ n then t.placeOf n (middle + 1) high
    else t.placeOf n low middle
  else low
termination_by high - low

/-- What is said of a character. -/
def find? {α : Type} (t : Table α) (c : Char) : Option α :=
  t.stretches[t.placeOf c.toNat 0 t.stretches.size]?.map Prod.snd

/-- Reads a table that divides characters into those that belong to a class,
whose entries end in `y`, and those that do not. -/
def ofClass (text : String) : Table Bool := read (· == ['y']) text

/-- Whether a character belongs to a class. -/
def holds (t : Table Bool) (c : Char) : Bool := (t.find? c).getD false

end Table

end Dashboard.Text
