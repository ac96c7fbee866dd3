import Dashboard.Screen.Wrap

/-!
# The rows of a wrapped text

Every text takes a row at least. A text that is no wider than its panel takes
one with all its symbols, whatever its words are: as long as what was taken is
narrower than the panel, no row is full, so nothing is dropped and nothing is
moved (`Wrapping.Fits`).

Blank symbols alone are the exception. They take two rows, the first of them
empty, which is why a text must have a word in it to fit. Symbols without a
width are another: the row may be full before they come.
-/

namespace Dashboard.Screen

namespace Wrapping

variable {w : Wrapping} {trim : Bool} {width : Nat} {g : Glyph} {taken : List Glyph}

theorem finish_ne_nil (trim : Bool) (w : Wrapping) : w.finish trim ≠ [] := by
  have hrows : ∀ rows : List (List Glyph), (if rows.isEmpty then [[]] else rows) ≠ [] := by
    intro rows
    cases rows with
    | nil => exact List.cons_ne_nil _ _
    | cons row rows => exact List.cons_ne_nil _ _
  exact hrows _

/-- What holds of a wrapping while everything that was taken is in one row. -/
structure Fits (taken : List Glyph) (w : Wrapping) : Prop where
  rows : w.rows = []
  parts : w.line ++ w.gap ++ w.word = taken
  gap : ∀ g ∈ w.gap, g.isBreak = true
  word : w.inWord = false → w.word = []

theorem fits_initial : initial.Fits [] := ⟨rfl, rfl, by simp [initial], fun _ => rfl⟩

theorem Fits.join (h : w.Fits taken) : (w.join false).Fits taken where
  rows := h.rows
  parts := by simpa [Wrapping.join, joined] using h.parts
  gap := by simp [Wrapping.join]
  word _ := rfl

/-- A blank symbol comes after a gap, never after a word that has not joined
the row. -/
theorem Fits.push (h : w.Fits taken) (hblank : g.isBreak = true → w.word = []) :
    (w.push g).Fits (taken ++ [g]) := by
  rw [Wrapping.push]
  split
  · next hg =>
      have hword := hblank hg
      refine ⟨h.rows, ?_, fun d hd => ?_, fun _ => hword⟩
      · have hparts := h.parts
        rw [hword, List.append_nil] at hparts
        simp [hword, ← hparts]
      · rcases List.mem_append.mp hd with hd | hd
        · exact h.gap d hd
        · rwa [List.mem_singleton.mp hd]
  · next hg =>
      refine ⟨h.rows, ?_, h.gap, fun hout => by cases hout⟩
      simp [← h.parts]

theorem Fits.not_isFull (h : w.Fits taken) (hroom : cells taken < width) (g : Glyph) :
    w.isFull width g = false := by
  have hcells := congrArg cells h.parts
  rw [cells_append, cells_append] at hcells
  have hline : ¬ width ≤ cells w.line := by omega
  have hall : ¬ width ≤ cells w.line + cells w.gap + cells w.word := by omega
  rw [isFull, decide_eq_false hline, decide_eq_false hall, Bool.and_false, Bool.or_self]

theorem Fits.step (h : w.Fits taken) (hroom : cells taken < width) (hg : g.width ≤ width) :
    (w.step false width g).Fits (taken ++ [g]) := by
  rw [Wrapping.step, if_neg (Nat.not_lt.mpr hg)]
  cases hjoin : w.mustJoin false width g with
  | true =>
      simp only [if_true, h.join.not_isFull hroom g, Bool.false_eq_true, if_false]
      exact h.join.push fun _ => rfl
  | false =>
      simp only [Bool.false_eq_true, if_false, h.not_isFull hroom g]
      refine h.push fun hblank => h.word ?_
      -- A word that a blank symbol ends would have had to join the row.
      rw [mustJoin, hblank, Bool.and_true, Bool.or_eq_false_iff] at hjoin
      exact hjoin.1

theorem Fits.foldl (h : w.Fits taken) (text : List Glyph) (hsolid : ∀ g ∈ text, 0 < g.width)
    (hroom : cells (taken ++ text) ≤ width) :
    (text.foldl (Wrapping.step false width) w).Fits (taken ++ text) := by
  induction text generalizing w taken with
  | nil => rwa [List.append_nil]
  | cons g text ih =>
      have hpos := hsolid g List.mem_cons_self
      have hcells := hroom
      rw [cells_append, cells_cons] at hcells
      rw [List.append_cons] at hroom ⊢
      exact ih (h.step (by omega) (by omega))
        (fun d hd => hsolid d (List.mem_cons_of_mem _ hd)) hroom

theorem Fits.finish (h : w.Fits taken) (hword : ∃ g ∈ taken, g.isBreak = false) :
    w.finish false = [taken] := by
  have hlast : w.joined false = taken := by
    simpa [joined] using h.parts
  obtain ⟨g, hg, hspoken⟩ := hword
  have hne : taken.isEmpty = false := by
    cases taken with
    | nil => cases hg
    | cons _ _ => rfl
  have hspace : (w.line.isEmpty && w.word.isEmpty && !w.gap.isEmpty) = false := by
    rw [← Bool.not_eq_true, Bool.and_eq_true, Bool.and_eq_true, List.isEmpty_iff,
      List.isEmpty_iff]
    rintro ⟨⟨hline, hnone⟩, -⟩
    rw [← h.parts, hline, hnone, List.nil_append, List.append_nil] at hg
    rw [h.gap g hg] at hspoken
    cases hspoken
  simp [Wrapping.finish, hlast, hne, hspace, h.rows]

end Wrapping

/-! ## Texts -/

variable {trim : Bool} {width : Nat} {text : List Glyph}

theorem wrap_ne_nil (trim : Bool) (width : Nat) (text : List Glyph) : wrap trim width text ≠ [] :=
  Wrapping.finish_ne_nil trim _

/-- A text that fits in a row: it is no wider, has something to be seen in each
place and is not blank throughout. -/
structure FitsRow (width : Nat) (text : List Glyph) : Prop where
  narrow : cells text ≤ width
  solid : ∀ g ∈ text, 0 < g.width
  spoken : ∃ g ∈ text, g.isBreak = false

theorem wrap_of_fitsRow (h : FitsRow width text) : wrap false width text = [text] :=
  (Wrapping.fits_initial.foldl text h.solid h.narrow).finish h.spoken

example : wrap false 5 (singleCells "  ") = [[], singleCells "  "] := by decide

/-- An ideograph takes two cells. -/
example : (wrap false 4 (List.replicate 3 ⟨"\u78C1", 2⟩)).map List.length = [2, 1] := by decide

end Dashboard.Screen
