import Dashboard.Text.Blank
import Mathlib.Data.List.DropRight

/-!
# Texts without what stands at their edges

Trimming leaves a text with no blank character at either end, and does
nothing to such a text. Dropping the slashes at the end is said by what was
there: the text was the result and a number of slashes after it, and the
result does not end in one.
-/

namespace Dashboard.Text

section Trailing

variable {α : Type} (p : α → Bool) (l : List α)

theorem dropTrailing_append_rtakeWhile : dropTrailing p l ++ l.rtakeWhile p = l :=
  List.rdropWhile_append_rtakeWhile

theorem getLast?_dropTrailing {a : α} (h : (dropTrailing p l).getLast? = some a) : p a = false := by
  have hne : dropTrailing p l ≠ [] := by
    intro hnil
    rw [hnil] at h
    cases h
  rw [List.getLast?_eq_some_getLast hne, Option.some.injEq] at h
  rw [← h, ← Bool.not_eq_true]
  exact List.rdropWhile_last_not p l hne

theorem dropTrailing_of_getLast? {l : List α} (h : ∀ a, l.getLast? = some a → p a = false) :
    dropTrailing p l = l := by
  refine List.rdropWhile_eq_self_iff.mpr fun hne => ?_
  rw [h _ (List.getLast?_eq_some_getLast hne)]
  exact Bool.false_ne_true

theorem dropTrailing_append_of_forall {t : List α} (h : ∀ a ∈ t, p a = true) :
    dropTrailing p (l ++ t) = dropTrailing p l := by
  induction t using List.reverseRecOn with
  | nil => rw [List.append_nil]
  | append_singleton t a ih =>
      rw [← List.append_assoc, dropTrailing_append_of_pos p _ (h a (by simp)),
        ih fun b hb => h b (by simp [hb])]

theorem head?_dropTrailing {a : α} (h : (dropTrailing p l).head? = some a) : l.head? = some a := by
  rw [← dropTrailing_append_rtakeWhile p l, List.head?_append, h]
  rfl

/-- What does not satisfy `p` stays before anything. -/
theorem dropTrailing_append_left {l : List α} (h : ∀ a ∈ l, p a = false) (r : List α) :
    dropTrailing p (l ++ r) = l ++ dropTrailing p r := by
  induction r using List.reverseRecOn with
  | nil =>
      rw [dropTrailing_nil, List.append_nil]
      exact dropTrailing_of_getLast? p fun a ha => h a (List.mem_of_getLast? ha)
  | append_singleton r a ih =>
      rw [← List.append_assoc]
      cases ha : p a with
      | false =>
          rw [dropTrailing_append_of_neg _ _ ha, dropTrailing_append_of_neg _ _ ha,
            List.append_assoc]
      | true => rw [dropTrailing_append_of_pos _ _ ha, dropTrailing_append_of_pos _ _ ha, ih]

end Trailing

/-! ## Blank characters -/

/-- A text with no blank character at either end. -/
structure Trimmed (s : String) : Prop where
  head : ∀ c, s.toList.head? = some c → isBlank c = false
  last : ∀ c, s.toList.getLast? = some c → isBlank c = false

theorem trimmed_trim (s : String) : Trimmed (trim s) := by
  rw [trim]
  refine ⟨fun c h => ?_, fun c h => ?_⟩
  · rw [String.toList_ofList] at h
    have hhead := List.head?_dropWhile_not isBlank s.toList
    rw [head?_dropTrailing _ _ h] at hhead
    exact hhead
  · rw [String.toList_ofList] at h
    exact getLast?_dropTrailing _ _ h

theorem trim_of_trimmed {s : String} (h : Trimmed s) : trim s = s := by
  have hhead : s.toList.dropWhile isBlank = s.toList := by
    cases hs : s.toList with
    | nil => rfl
    | cons c r =>
        rw [List.dropWhile_cons_of_neg]
        rw [h.head c (by rw [hs]; rfl)]
        exact Bool.false_ne_true
  rw [trim, dropEdges, hhead, dropTrailing_of_getLast? _ h.last, String.ofList_toList]

/-! ## Slashes at the end -/

/-- `u` is `s` without the slashes at its end. -/
structure WithoutSlashes (s u : String) : Prop where
  slashes : ∃ n, s.toList = u.toList ++ List.replicate n '/'
  last : u.toList.getLast? ≠ some '/'

theorem withoutSlashes_dropTrailingSlashes (s : String) :
    WithoutSlashes s (dropTrailingSlashes s) := by
  rw [dropTrailingSlashes]
  refine ⟨⟨(s.toList.rtakeWhile (· == '/')).length, ?_⟩, fun h => ?_⟩
  · have hall : ∀ c ∈ s.toList.rtakeWhile (· == '/'), c = '/' := fun c hc =>
      eq_of_beq (List.mem_rtakeWhile_imp (p := (· == '/')) hc)
    rw [← List.eq_replicate_of_mem hall, String.toList_ofList, dropTrailing_append_rtakeWhile]
  · rw [String.toList_ofList] at h
    exact absurd (getLast?_dropTrailing _ _ h) (by decide)

theorem WithoutSlashes.eq_dropTrailingSlashes {s u : String} (h : WithoutSlashes s u) :
    dropTrailingSlashes s = u := by
  obtain ⟨n, hs⟩ := h.slashes
  rw [dropTrailingSlashes, hs, dropTrailing_append_of_forall, dropTrailing_of_getLast?,
    String.ofList_toList]
  · intro c hc
    rw [beq_eq_false_iff_ne]
    rintro rfl
    exact h.last hc
  · intro c hc
    rw [List.eq_of_mem_replicate hc]
    rfl

theorem WithoutSlashes.of_last {s : String} (h : s.toList.getLast? ≠ some '/') :
    WithoutSlashes s s :=
  ⟨⟨0, by simp⟩, h⟩

/-- Dropping the slashes at the end again changes nothing. -/
@[simp] theorem dropTrailingSlashes_idem (s : String) :
    dropTrailingSlashes (dropTrailingSlashes s) = dropTrailingSlashes s :=
  (WithoutSlashes.of_last (withoutSlashes_dropTrailingSlashes s).last).eq_dropTrailingSlashes

theorem WithoutSlashes.mem {s u : String} (h : WithoutSlashes s u) {c : Char}
    (hc : c ∈ s.toList) (hslash : c ≠ '/') : c ∈ u.toList := by
  obtain ⟨n, hs⟩ := h.slashes
  rw [hs, List.mem_append] at hc
  exact hc.resolve_right fun hmem => hslash (List.eq_of_mem_replicate hmem)

end Dashboard.Text
