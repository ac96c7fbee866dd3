/-!
# Pieces of a text

Paths, host names, addresses and lists of directives are texts with
separators. A text has one piece more than it has separators, so an empty
text is a single empty piece, and nothing but the separators is lost.
-/

namespace Dashboard.Text

/-- The stretches between the elements that satisfy `p`. -/
def pieces {α : Type} (p : α → Bool) : List α → List (List α)
  | [] => [[]]
  | a :: r =>
    if p a then [] :: pieces p r
    else
      match pieces p r with
      | [] => [[a]]
      | first :: rest => (a :: first) :: rest

/-- What stands before the first element that satisfies `p`, and what stands
after it if there is one. -/
def cutAt {α : Type} (p : α → Bool) (l : List α) : List α × Option (List α) :=
  (l.takeWhile (! p ·),
    match l.dropWhile (! p ·) with
    | [] => none
    | _ :: rest => some rest)

/-- What stands after the last element that satisfies `p`, if there is one. -/
def afterLast {α : Type} (p : α → Bool) (l : List α) : Option (List α) :=
  if l.any p then some (l.reverse.takeWhile (! p ·)).reverse else none

/-- What stands before the last element that satisfies `p`, if there is one,
and what stands after it. -/
def cutAtLast {α : Type} (p : α → Bool) (l : List α) : Option (List α) × List α :=
  match afterLast p l with
  | some rest => (some (l.take (l.length - rest.length - 1)), rest)
  | none => (none, l)

theorem pieces_ne_nil {α : Type} (p : α → Bool) (l : List α) : pieces p l ≠ [] := by
  cases l with
  | nil => simp [pieces]
  | cons a r => unfold pieces; split <;> (try split) <;> simp

theorem length_pieces {α : Type} (p : α → Bool) (l : List α) :
    (pieces p l).length = l.countP p + 1 := by
  induction l with
  | nil => rfl
  | cons a r ih =>
    cases hp : p a with
    | true => simp [pieces, hp, ih]
    | false =>
      cases h : pieces p r with
      | nil => exact absurd h (pieces_ne_nil p r)
      | cons first rest => simp_all [pieces]

end Dashboard.Text
