import Dashboard.Text.Composition.Pair
import Dashboard.Text.Composition.Weight

/-!
# Composed texts

A letter with marks can be written in many ways that mean the same: as one
character or as several, and with marks in different orders. The composed
form is the one that all of them share. To find it a text is taken apart,
its marks are put in the order of their weights, and then every character
is taken together with the last letter before it, unless a mark in between
keeps them apart.
-/

namespace Dashboard.Text

namespace Composition

/-- What a character consists of, after at most so many steps. -/
def takeApart : Nat → Char → List Char
  | 0, c => [c]
  | steps + 1, c =>
    match parts? c with
    | some parts => parts.flatMap (takeApart steps)
    | none => [c]

/-- The most steps that taking a character apart needs. -/
def mostSteps : Nat := 3

/-- Puts a character after others, which are given from the last one back: a
mark goes before all marks at the end that weigh more. -/
def place : List Char → Char → List Char
  | [], c => [c]
  | d :: before, c =>
    if weight c ≠ 0 ∧ weight c < weight d then d :: place before c else c :: d :: before

/-- Where the composing of a text stands. All lists run from the end back. -/
structure Composer where
  /-- What stands before the last letter. -/
  before : List Char
  /-- The last letter. -/
  letter : Option Char
  /-- What follows the last letter and has not become a part of it. -/
  marks : List Char

namespace Composer

/-- All that a composer has composed, from the end back. -/
def all (c : Composer) : List Char := c.marks ++ c.letter.toList ++ c.before

/-- The character that the last letter becomes with another character. -/
def joined? (c : Composer) (d : Char) : Option Char := do
  let letter ← c.letter
  match c.marks with
  | [] => whole? letter d
  | mark :: _ => if weight mark < weight d then whole? letter d else none

/-- Takes in the next character. -/
def take (c : Composer) (d : Char) : Composer :=
  match c.joined? d with
  | some whole => { c with letter := some whole }
  | none =>
    if weight d = 0 then ⟨c.all, some d, []⟩
    else { c with marks := d :: c.marks }

end Composer

end Composition

/-- The composed form of a text. -/
def composed (s : List Char) : List Char :=
  let apart := s.flatMap (Composition.takeApart Composition.mostSteps)
  let ordered := (apart.foldl Composition.place []).reverse
  (ordered.foldl Composition.Composer.take ⟨[], none, []⟩).all.reverse

end Dashboard.Text
