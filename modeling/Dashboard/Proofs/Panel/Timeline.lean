import Dashboard.Panel.Timeline
import Dashboard.Proofs.Panel.Field
import Mathlib.Data.List.Forall2

/-!
# From the history to the timeline panel

Among the events of a payload the objects count, and everything else is as if
it were not there. Each object is one event of the history, told by four
fields that may each be missing, and each event is a block of two or three
lines. The history keeps the order of the payload and the panel turns it
around.

`Reported` says which objects these are, `Tells` what an object says of an
event, and `Block` what is shown of it. `timeline_told` puts them together.
-/

namespace Dashboard

open Json (Members)

/-! ## The tone of a status -/

/-- Two texts are the same but for the case of their ASCII letters. -/
def SameLetters (s t : String) : Prop :=
  List.Forall₂ (fun c d => c.toLower = d.toLower) s.toList t.toList

def goodWords : List String := ["ok", "success", "done"]

def warnWords : List String := ["warn", "warning", "pending"]

def badWords : List String := ["error", "failed", "fail"]

/-- The tone in which a status is shown. -/
inductive Toned (status : String) : Tone → Prop
  | good {word : String} (hword : word ∈ goodWords) (h : SameLetters status word) :
      Toned status .good
  | warn {word : String} (hword : word ∈ warnWords) (h : SameLetters status word) :
      Toned status .warn
  | bad {word : String} (hword : word ∈ badWords) (h : SameLetters status word) :
      Toned status .bad
  | plain (h : ∀ word ∈ goodWords ++ warnWords ++ badWords, ¬ SameLetters status word) :
      Toned status .plain

theorem sameLetters_iff {s t : String} :
    SameLetters s t ↔ Text.lowerAscii s = Text.lowerAscii t := by
  rw [Text.lowerAscii, Text.lowerAscii, String.ofList_inj, ← List.forall₂_eq_eq_eq,
    List.forall₂_map_left_iff, List.forall₂_map_right_iff, SameLetters]

theorem lowerAscii_word : ∀ word ∈ goodWords ++ warnWords ++ badWords,
    Text.lowerAscii word = word := by
  decide

theorem sameLetters_word {status word : String} (h : word ∈ goodWords ++ warnWords ++ badWords) :
    SameLetters status word ↔ Text.lowerAscii status = word := by
  rw [sameLetters_iff, lowerAscii_word word h]

theorem toned_severity (e : FaultEvent) : Toned e.status e.severity.tone := by
  rw [FaultEvent.severity, Severity.ofStatus]
  split
  · next h =>
      have hword := List.mem_append_left badWords (List.mem_append_left warnWords h)
      exact .good h ((sameLetters_word hword).mpr rfl)
  · split
    · next h =>
        have hword := List.mem_append_left badWords (List.mem_append_right goodWords h)
        exact .warn h ((sameLetters_word hword).mpr rfl)
    · split
      · next h =>
          have hword := List.mem_append_right (goodWords ++ warnWords) h
          exact .bad h ((sameLetters_word hword).mpr rfl)
      · next hgood hwarn hbad =>
          refine .plain fun word hword hsame => ?_
          obtain rfl := (sameLetters_word hword).mp hsame
          rcases List.mem_append.mp hword with hword | hword
          · exact (List.mem_append.mp hword).elim hgood hwarn
          · exact hbad hword

/-! ## The objects that count -/

/-- The objects among some items, in their order. -/
inductive Objects : List Json → List Members → Prop
  | nil : Objects [] []
  | object {members : Members} {items : List Json} {objects : List Members}
      (h : Objects items objects) : Objects (.object members :: items) (members :: objects)
  | other {v : Json} {items : List Json} {objects : List Members}
      (hv : ∀ members, v ≠ .object members) (h : Objects items objects) :
      Objects (v :: items) objects

theorem objects_iff {items : List Json} {objects : List Members} :
    Objects items objects ↔ items.filterMap Json.members? = objects := by
  constructor
  · intro h
    induction h with
    | nil => rfl
    | object h ih => exact congrArg (List.cons _) ih
    | other hv h ih => rw [List.filterMap_cons_none (Json.members?_eq_none_iff.mpr hv), ih]
  · rintro rfl
    induction items with
    | nil => exact .nil
    | cons v items ih =>
        cases hv : v.members? with
        | none =>
            rw [List.filterMap_cons_none hv]
            exact .other (Json.members?_eq_none_iff.mp hv) ih
        | some members =>
            rw [List.filterMap_cons_some hv]
            obtain rfl := Json.members?_eq_some_iff.mp hv
            exact .object ih

/-- The objects that a payload reports as events. -/
structure Reported (payload : Json) (objects : List Members) : Prop where
  listed : ∀ items, payload.Has "events" (.array items) → Objects items objects
  unlisted : (∀ items, ¬ payload.Has "events" (.array items)) → objects = []

theorem items_eq_some_iff {payload : Json} {items : List Json} :
    (payload.get? "events").bind Json.items? = some items ↔
      payload.Has "events" (.array items) := by
  rw [Json.get?_eq_lookup]
  exact Json.lookup_bind_eq_some_iff Json.items?_eq_some_iff

theorem exists_reported (payload : Json) : ∃ objects, Reported payload objects := by
  cases h : (payload.get? "events").bind Json.items? with
  | none =>
      refine ⟨[], fun items hitems => ?_, fun _ => rfl⟩
      rw [items_eq_some_iff.mpr hitems] at h
      cases h
  | some items =>
      refine ⟨items.filterMap Json.members?, fun others hothers => ?_, fun hnone => ?_⟩
      · rw [items_eq_some_iff.mpr hothers] at h
        obtain rfl := Option.some.inj h
        exact objects_iff.mpr rfl
      · exact absurd (items_eq_some_iff.mp h) (hnone items)

/-- Each object that counts is an event, in the order of the payload. -/
theorem events_ofJson {payload : Json} {objects : List Members} (h : Reported payload objects) :
    (Timeline.ofJson payload).events = objects.map FaultEvent.ofMembers := by
  rw [Timeline.ofJson]
  split
  · next items hitems =>
      have hobjects := objects_iff.mp (h.listed items (items_eq_some_iff.mp hitems))
      rw [← hobjects, List.map_filterMap]
  · next hnone =>
      rw [h.unlisted fun items hitems => ?_]
      · rfl
      · rw [items_eq_some_iff.mpr hitems] at hnone
        cases hnone

/-! ## Events and their blocks -/

/-- What an object tells of an event. -/
structure Tells (members : Members) (e : FaultEvent) : Prop where
  action : OrElse ((Json.object members).Says "action") "" e.action
  timestamp : OrElse ((Json.object members).Says "timestamp") "" e.timestamp
  status : OrElse ((Json.object members).Says "status") "" e.status
  detail : ∀ t, e.detail = some t ↔ (Json.object members).Speaks "detail" t

theorem tells_ofMembers {members : Members} (h : (Json.object members).AllFinite) :
    Tells members (FaultEvent.ofMembers members) where
  action := orElse_getD (fun _ => Json.textField?_eq_some_iff h) ""
  timestamp := orElse_getD (fun _ => Json.textField?_eq_some_iff h) ""
  status := orElse_getD (fun _ => Json.textField?_eq_some_iff h) ""
  detail := fun _ => Json.spokenField?_eq_some_iff h

/-- The lines that are shown of an object: what was done and how it went, when
this was, and the detail if there is one. -/
def Block (members : Members) (lines : List Line) : Prop :=
  ∃ action status timestamp tone detail,
    OrElse ((Json.object members).Says "action") "" action ∧
    OrElse ((Json.object members).Says "status") "" status ∧
    OrElse ((Json.object members).Says "timestamp") "" timestamp ∧
    Toned status tone ∧
    IfSaid ((Json.object members).Speaks "detail") (fun t => .muted ("  " ++ t)) detail ∧
    lines = ⟨action ++ " [" ++ status ++ "]", tone⟩ :: .muted ("  " ++ timestamp) :: detail

theorem Tells.block {members : Members} {e : FaultEvent} (h : Tells members e) :
    Block members e.lines := by
  refine ⟨e.action, e.status, e.timestamp, e.severity.tone, _, h.action, h.status, h.timestamp,
    toned_severity e, ifSaid_toList h.detail _, ?_⟩
  rw [FaultEvent.lines]
  cases e.detail <;> rfl

/-- Items that are no objects are not missed. -/
theorem ofJson_eq_of_other {payload other v : Json} {before after : List Json}
    (hv : ∀ members, v ≠ .object members)
    (h : payload.Has "events" (.array (before ++ v :: after)))
    (hother : other.Has "events" (.array (before ++ after))) :
    Timeline.ofJson other = Timeline.ofJson payload := by
  rw [Timeline.ofJson, Timeline.ofJson, items_eq_some_iff.mpr h, items_eq_some_iff.mpr hother]
  dsimp only
  rw [List.filterMap_append, List.filterMap_append, List.filterMap_cons,
    Json.members?_eq_none_iff.mpr hv, Option.map_none]

theorem Objects.mem {items : List Json} {objects : List Members} {members : Members}
    (h : Objects items objects) (hmem : members ∈ objects) : Json.object members ∈ items := by
  induction h with
  | nil => cases hmem
  | object h ih =>
      rcases List.mem_cons.mp hmem with rfl | hmem
      · exact List.mem_cons_self
      · exact List.mem_cons_of_mem _ (ih hmem)
  | other hv h ih => exact List.mem_cons_of_mem _ (ih hmem)

theorem Reported.allFinite {payload : Json} {objects : List Members} (h : Reported payload objects)
    (hfinite : payload.AllFinite) : ∀ members ∈ objects, (Json.object members).AllFinite := by
  intro members hmem
  by_cases hlisted : ∃ items, payload.Has "events" (.array items)
  · obtain ⟨items, hitems⟩ := hlisted
    cases hfinite.of_has hitems with
    | array items hall => exact hall _ ((h.listed items hitems).mem hmem)
  · rw [h.unlisted (not_exists.mp hlisted)] at hmem
    cases hmem

/-- Whatever a payload is, its history has an event for each object among its
events, and what is shown of them is one block after the other, the newest
first, or a line that there are none. Other items make no difference. -/
theorem timeline_told :
    (∀ bs payload, Json.decode bs = .ok payload → payload.AllFinite) ∧
    ∀ payload : Json,
      (∃ objects, Reported payload objects) ∧
      (payload.AllFinite → ∀ objects, Reported payload objects →
        List.Forall₂ Tells objects (Timeline.ofJson payload).events ∧
        (objects = [] → (Panel.ready (Timeline.ofJson payload)).lines Timeline.lines =
          [.muted "No fault events recorded yet."]) ∧
        (objects ≠ [] → ∃ blocks, List.Forall₂ Block objects.reverse blocks ∧
          (Panel.ready (Timeline.ofJson payload)).lines Timeline.lines = blocks.flatten)) ∧
      ∀ other before v after, (∀ members, v ≠ .object members) →
        payload.Has "events" (.array (before ++ v :: after)) →
        Json.Has other "events" (.array (before ++ after)) →
        Timeline.ofJson other = Timeline.ofJson payload := by
  refine ⟨fun _ _ => Json.allFinite_of_decode, fun payload => ⟨exists_reported payload,
    fun hfinite objects hobjects => ?_, fun other before v after hv h hother =>
      ofJson_eq_of_other hv h hother⟩⟩
  have hevents := events_ofJson hobjects
  have hall := hobjects.allFinite hfinite
  refine ⟨?_, fun hnone => ?_, fun hsome => ?_⟩
  · rw [hevents, List.forall₂_map_right_iff, List.forall₂_same]
    exact fun members hmem => tells_ofMembers (hall members hmem)
  · rw [Panel.lines, Timeline.lines, hevents, hnone]
    rfl
  · have hne : ¬ (objects.map FaultEvent.ofMembers).isEmpty = true := by simpa using hsome
    refine ⟨objects.reverse.map fun members => (FaultEvent.ofMembers members).lines, ?_, ?_⟩
    · rw [List.forall₂_map_right_iff, List.forall₂_same]
      exact fun members hmem => (tells_ofMembers (hall members (List.mem_reverse.mp hmem))).block
    · rw [Panel.lines, Timeline.lines, Timeline.newestFirst, hevents, if_neg hne,
        ← List.map_reverse, List.flatMap_map, List.flatMap_def]

/-- An event that is told by a number, after an item that is no event. -/
def numberedText : String := "\x7b\"events\":[null,\x7b\"action\":7\x7d]\x7d"

theorem timeline_told_of_number :
    ∃ payload members, Json.decode (Text.bytes numberedText) = .ok payload ∧ payload.AllFinite ∧
      Reported payload [members] ∧
      ∃ blocks, List.Forall₂ Block [members] blocks ∧
        (Panel.ready (Timeline.ofJson payload)).lines Timeline.lines = blocks.flatten ∧
        blocks.flatten.map Line.text = ["7 []", "  "] := by
  have hdecode : Json.decode (Text.bytes numberedText) =
      .ok (.object [("events", .array [.null, .object [("action", .number (.natural 7))]])]) := by
    with_unfolding_all rfl
  have hfinite := timeline_told.1 _ _ hdecode
  obtain ⟨hexists, hshown, -⟩ := timeline_told.2
    (.object [("events", .array [.null, .object [("action", .number (.natural 7))]])])
  obtain ⟨objects, hobjects⟩ := hexists
  obtain rfl : objects = [[("action", .number (.natural 7))]] := by
    exact (objects_iff.mp (hobjects.listed _ ⟨_, rfl, [], [], rfl, List.forall_mem_nil _⟩)).symm
  obtain ⟨-, -, hlines⟩ := hshown hfinite _ hobjects
  obtain ⟨blocks, hblocks, hflatten⟩ := hlines (List.cons_ne_nil _ _)
  refine ⟨_, _, hdecode, hfinite, hobjects, blocks, hblocks, hflatten, ?_⟩
  rw [← hflatten]
  decide +kernel

end Dashboard
