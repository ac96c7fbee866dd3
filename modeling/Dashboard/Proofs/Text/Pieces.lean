import Dashboard.Text.Pieces
import Mathlib.Data.List.TakeWhile

/-!
# Texts taken to pieces

A text is cut at a separator, or split at all of them. What was put together
with separators comes back when no separator is inside the parts.

The lines of a text are the case of line breaks. Texts are put under one
another by ending each with a line break. Splitting the whole takes it apart
again, text by text (`splitLines_join`), and each text contributes one line
and one more for every line break that is in it. So the texts come back as
they were put together exactly when none of them has a line break, and
`flatMap_splitLines_eq_iff` shows it by counting.
-/

namespace Dashboard.Text

/-! ## Cuts -/

section Cuts

variable {α : Type} {p : α → Bool} {s l r : List α} {b : α}

theorem cutAt_append_cons (hs : ∀ a ∈ s, p a = false) (hb : p b = true) (rest : List α) :
    cutAt p (s ++ b :: rest) = (s, some rest) := by
  have hgo : ∀ a ∈ s, (!p a) = true := fun a ha => by rw [hs a ha]; rfl
  rw [cutAt, List.takeWhile_append_of_pos hgo, List.dropWhile_append_of_pos hgo]
  simp [hb]

theorem cutAt_of_forall (hs : ∀ a ∈ s, p a = false) : cutAt p s = (s, none) := by
  have hgo : ∀ a ∈ s, (!p a) = true := fun a ha => by rw [hs a ha]; rfl
  rw [cutAt, List.takeWhile_eq_self_iff.mpr hgo, List.dropWhile_eq_nil_iff.mpr hgo]

theorem eq_append_of_cutAt (h : cutAt p l = (s, some r)) :
    (∀ a ∈ s, p a = false) ∧ ∃ b, p b = true ∧ l = s ++ b :: r := by
  rw [cutAt, Prod.mk.injEq] at h
  obtain ⟨hs, hr⟩ := h
  cases hdrop : l.dropWhile (! p ·) with
  | nil =>
      rw [hdrop] at hr
      cases hr
  | cons b rest =>
      rw [hdrop] at hr
      obtain rfl := Option.some.inj hr
      refine ⟨fun a ha => ?_, b, ?_, ?_⟩
      · rw [← hs] at ha
        simpa using List.mem_takeWhile_imp ha
      · have hb := List.head?_dropWhile_not (! p ·) l
        rw [hdrop] at hb
        simpa using hb
      · rw [← hs, ← hdrop, List.takeWhile_append_dropWhile]

theorem pieces_append_cons (hb : p b = true) (l r : List α) :
    pieces p (l ++ b :: r) = pieces p l ++ pieces p r := by
  induction l with
  | nil => simp [pieces, hb]
  | cons a l ih =>
      cases ha : p a with
      | true => simp [pieces, ha, ih]
      | false =>
          cases h : pieces p l with
          | nil => exact absurd h (pieces_ne_nil p l)
          | cons first rest => simp [pieces, ha, ih, h]

theorem pieces_of_forall (h : ∀ a ∈ l, p a = false) : pieces p l = [l] := by
  induction l with
  | nil => rfl
  | cons a l ih =>
      have hl := ih fun b hb => h b (List.mem_cons_of_mem a hb)
      simp [pieces, h a List.mem_cons_self, hl]

end Cuts

/-! ## Lines -/

/-- The stretches of a text between its line breaks. -/
def splitLines (text : String) : List String :=
  (pieces (· == '\n') text.toList).map String.ofList

/-- A text without a line break. -/
def OneLine (text : String) : Prop := '\n' ∉ text.toList

theorem oneLine_append {a b : String} : OneLine (a ++ b) ↔ OneLine a ∧ OneLine b := by
  simp only [OneLine, String.toList_append, List.mem_append, not_or]

theorem oneLine_ofList {s : List Char} : OneLine (String.ofList s) ↔ '\n' ∉ s := by
  rw [OneLine, String.toList_ofList]

/-- A literal is the text of its characters. -/
theorem oneLine_literal {s : List Char} (h : '\n' ∉ s) : OneLine (String.ofList s) :=
  oneLine_ofList.mpr h

theorem oneLine_label {label : String} (h : OneLine label) (t : String) :
    OneLine (label ++ t) ↔ OneLine t := by
  rw [oneLine_append, and_iff_right h]

theorem oneLine_intercalate {separator : String} (h : OneLine separator) (ts : List String) :
    OneLine (separator.intercalate ts) ↔ ∀ t ∈ ts, OneLine t := by
  induction ts with
  | nil => simp [OneLine]
  | cons t ts ih =>
      cases ts with
      | nil => simp
      | cons u ts =>
          rw [String.intercalate_cons_cons, oneLine_append, oneLine_append, ih,
            List.forall_mem_cons (a := t)]
          simp only [h, and_true]

theorem splitLines_of_oneLine {t : String} (h : OneLine t) : splitLines t = [t] := by
  have hnone : ∀ c ∈ t.toList, (c == '\n') = false := by
    rintro c hc
    rw [beq_eq_false_iff_ne]
    rintro rfl
    exact h hc
  rw [splitLines, pieces_of_forall hnone, List.map_singleton, String.ofList_toList]

/-- A line for every line break and one more. -/
theorem length_splitLines (t : String) : (splitLines t).length = t.toList.count '\n' + 1 := by
  rw [splitLines, List.length_map, length_pieces]
  rfl

theorem splitLines_line (t rest : String) :
    splitLines (t ++ "\n" ++ rest) = splitLines t ++ splitLines rest := by
  have hchars : (t ++ "\n" ++ rest).toList = t.toList ++ '\n' :: rest.toList := by simp
  rw [splitLines, hchars, pieces_append_cons (by rfl), List.map_append]
  rfl

/-- Texts under one another are split text by text; nothing stands after the
last line break. -/
theorem splitLines_join (ts : List String) :
    splitLines (String.join (ts.map (· ++ "\n"))) = ts.flatMap splitLines ++ [""] := by
  induction ts with
  | nil => rfl
  | cons t ts ih =>
      rw [List.map_cons, String.join_cons, splitLines_line, ih, List.flatMap_cons,
        List.append_assoc]

theorem length_flatMap_splitLines (ts : List String) :
    (ts.flatMap splitLines).length = ts.length + (ts.flatMap String.toList).count '\n' := by
  induction ts with
  | nil => rfl
  | cons t ts ih =>
      rw [List.flatMap_cons, List.flatMap_cons, List.length_append, List.count_append,
        length_splitLines, ih, List.length_cons]
      omega

/-- Texts come back from under one another exactly when each is one line. -/
theorem flatMap_splitLines_eq_iff {ts : List String} :
    ts.flatMap splitLines = ts ↔ ∀ t ∈ ts, OneLine t := by
  constructor
  · intro h t ht
    have hlength := length_flatMap_splitLines ts
    rw [h] at hlength
    have hnone : '\n' ∉ ts.flatMap String.toList := List.count_eq_zero.mp (by omega)
    exact fun hmem => hnone (List.mem_flatMap.mpr ⟨t, ht, hmem⟩)
  · intro h
    induction ts with
    | nil => rfl
    | cons t ts ih =>
        rw [List.flatMap_cons, splitLines_of_oneLine (h t List.mem_cons_self),
          ih fun u hu => h u (List.mem_cons_of_mem t hu)]
        rfl

theorem splitLines_eq_singleton_iff {t : String} : splitLines t = [t] ↔ OneLine t := by
  have h : [t].flatMap splitLines = [t] ↔ ∀ u ∈ [t], OneLine u := flatMap_splitLines_eq_iff
  rwa [List.flatMap_singleton, List.forall_mem_singleton] at h

end Dashboard.Text
