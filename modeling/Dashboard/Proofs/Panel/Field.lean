import Dashboard.Panel.Field
import Dashboard.Panel.Line
import Dashboard.Proofs.Json.Finite
import Dashboard.Proofs.Json.Object
import Dashboard.Proofs.Json.Printed

/-!
# What a payload says

At a key a payload says the text of a scalar, or nothing at all. A text is
taken as it is, a number by its digits (`Writes`) and a truth value by its name.
`Says` is what counts where any text will do and `Speaks` where the text has to
be more than blank characters. Both are about the payload alone; that a field of
a panel is read like this, if the numbers are finite, is said once for each of
the two (`textField?_eq_some_iff`, `spokenField?_eq_some_iff`).

A panel takes what is said in one of two ways. Either something stands in for
a text that is missing (`OrElse`), or there is a line exactly if there is
something to say (`IfSaid`).
-/

namespace Dashboard.Json

variable {payload v : Json} {key text : String}

/-- The text of a scalar. -/
inductive Spells : Json → String → Prop
  | string (s : String) : Spells (.string s) s
  | number {n : Number} {s : String} (h : Writes n s) : Spells (.number n) s
  | yes : Spells (.boolean true) "true"
  | no : Spells (.boolean false) "false"

/-- At a key a payload has a scalar with a text. -/
def Says (payload : Json) (key text : String) : Prop := ∃ v, payload.Has key v ∧ Spells v text

/-- At a key a payload has a scalar with a text that is not blank. -/
def Speaks (payload : Json) (key text : String) : Prop :=
  payload.Says key text ∧ ∃ c ∈ text.toList, Text.isBlank c = false

theorem scalarText?_eq_some_iff (h : v.AllFinite) : scalarText? v = some text ↔ Spells v text := by
  constructor
  · intro htext
    cases h with
    | boolean b =>
        obtain rfl := Option.some.inj htext
        cases b with
        | true => exact .yes
        | false => exact .no
    | number n hfinite =>
        exact .number ((writes_iff hfinite).mpr (Option.some.inj htext))
    | string s =>
        obtain rfl := Option.some.inj htext
        exact .string s
    | null | array | object => cases htext
  · intro hspells
    cases hspells with
    | number hwrites =>
        cases h with
        | number n hfinite => exact congrArg some ((writes_iff hfinite).mp hwrites)
    | string | yes | no => rfl

theorem textField?_eq_some_iff (h : payload.AllFinite) :
    textField? key (payload.members?.getD []) = some text ↔ payload.Says key text := by
  simp only [textField?, Option.bind_eq_some_iff, lookup_members_eq_some_iff, Says]
  constructor
  · rintro ⟨v, hv, htext⟩
    exact ⟨v, hv, (scalarText?_eq_some_iff (h.of_has hv)).mp htext⟩
  · rintro ⟨v, hv, htext⟩
    exact ⟨v, hv, (scalarText?_eq_some_iff (h.of_has hv)).mpr htext⟩

theorem isBlankText_eq_false_iff :
    Text.isBlankText text = false ↔ ∃ c ∈ text.toList, Text.isBlank c = false := by
  rw [Text.isBlankText, List.all_eq_false]
  simp only [Bool.not_eq_true]

theorem spokenField?_eq_some_iff (h : payload.AllFinite) :
    spokenField? key (payload.members?.getD []) = some text ↔ payload.Speaks key text := by
  rw [spokenField?, Option.filter_eq_some_iff, textField?_eq_some_iff h, Bool.not_eq_true',
    isBlankText_eq_false_iff, Speaks]

end Dashboard.Json

namespace Dashboard

variable {P : String → Prop} {o : Option String}

/-- The text is the one that is said; where none is, another stands in. -/
structure OrElse (P : String → Prop) (standIn text : String) : Prop where
  said : ∀ t, P t → text = t
  unsaid : (∀ t, ¬ P t) → text = standIn

/-- There is a line for what is said, and none where nothing is. -/
structure IfSaid (P : String → Prop) (line : String → Line) (lines : List Line) : Prop where
  said : ∀ t, P t → lines = [line t]
  unsaid : (∀ t, ¬ P t) → lines = []

theorem orElse_getD (h : ∀ t, o = some t ↔ P t) (standIn : String) :
    OrElse P standIn (o.getD standIn) := by
  refine ⟨fun t ht => ?_, fun hnone => ?_⟩
  · rw [(h t).mpr ht, Option.getD_some]
  · rw [Option.eq_none_iff_forall_not_mem.mpr fun t ht => hnone t ((h t).mp ht), Option.getD_none]

theorem ifSaid_toList (h : ∀ t, o = some t ↔ P t) (line : String → Line) :
    IfSaid P line (o.map line).toList := by
  refine ⟨fun t ht => ?_, fun hnone => ?_⟩
  · rw [(h t).mpr ht]
    rfl
  · rw [Option.eq_none_iff_forall_not_mem.mpr fun t ht => hnone t ((h t).mp ht)]
    rfl

end Dashboard
