import Dashboard.Panel.Status
import Dashboard.Proofs.Panel.Field

/-!
# From the status to the cluster panel

The panel has a line on the connection and one on the health, then what went
wrong or that there are no components, the components, the pods and the time
of the report. Whatever shape the payload has, each of these comes of one key
of it (`status_told`).

Components and phases are objects of their own. `Listed` says what is taken of
one: the entries that can be read, all of them, each once and in the order of
their bytes.
-/

namespace Dashboard.ClusterStatus

variable {α : Type} {payload other : Json} {key : String}

/-! ## Lists of entries -/

/-- Of the object that a payload has at a key, the entries that can be read. -/
structure Listed (payload : Json) (key : String) (Reads : Json → α → Prop)
    (listed : List (String × α)) : Prop where
  ascending : listed.Pairwise fun m n => Text.bytes m.1 < Text.bytes n.1
  mem_iff : ∀ name a, (name, a) ∈ listed ↔
    ∃ object v, payload.Has key object ∧ object.Has name v ∧ Reads v a

theorem ascending_readEntries (f : Json → Option α) (members : Json.Members) :
    ((Json.entries members).filterMap fun (k, v) => (f v).map (k, ·)).Pairwise
      fun m n => Text.bytes m.1 < Text.bytes n.1 := by
  refine List.pairwise_filterMap.mpr ((Json.ascending_entries members).imp ?_)
  intro m n hlt a ha b hb
  obtain ⟨-, -, rfl⟩ := Option.map_eq_some_iff.mp ha
  obtain ⟨-, -, rfl⟩ := Option.map_eq_some_iff.mp hb
  exact Text.bytes_lt_bytes hlt

theorem mem_readEntries_iff {f : Json → Option α} {members : Json.Members} {name : String}
    {a : α} :
    (name, a) ∈ (Json.entries members).filterMap (fun (k, v) => (f v).map (k, ·)) ↔
      ∃ v, Json.Holds members name v ∧ f v = some a := by
  rw [List.mem_filterMap]
  constructor
  · rintro ⟨⟨k, v⟩, hmem, hread⟩
    obtain ⟨b, hb, hpair⟩ := Option.map_eq_some_iff.mp hread
    obtain ⟨rfl, rfl⟩ := Prod.mk.inj hpair
    exact ⟨v, Json.mem_entries_iff.mp hmem, hb⟩
  · rintro ⟨v, hv, hread⟩
    exact ⟨(name, v), Json.mem_entries_iff.mpr hv, by simp only [hread, Option.map_some]⟩

theorem members_eq_some_iff {members : Json.Members} :
    (Json.lookup key (payload.members?.getD [])).bind Json.members? = some members ↔
      payload.Has key (.object members) :=
  Json.lookup_bind_eq_some_iff Json.members?_eq_some_iff

theorem listed_entriesOf {f : Json → Option α} {Reads : Json → α → Prop} {payload : Json}
    (hfinite : payload.AllFinite) (h : ∀ v, v.AllFinite → ∀ a, f v = some a ↔ Reads v a)
    (key : String) : Listed payload key Reads (entriesOf f key (payload.members?.getD [])) := by
  rw [entriesOf]
  split
  · next members hmembers =>
      have hobject := members_eq_some_iff.mp hmembers
      refine ⟨ascending_readEntries f members, fun name a => ?_⟩
      rw [mem_readEntries_iff]
      constructor
      · rintro ⟨v, hv, hread⟩
        have hvalue := Json.has_object_iff.mpr hv
        have hv' := (hfinite.of_has hobject).of_has hvalue
        exact ⟨_, v, hobject, hvalue, (h v hv' a).mp hread⟩
      · rintro ⟨object, v, hhas, ⟨others, rfl, hv⟩, hread⟩
        rw [members_eq_some_iff.mpr hhas] at hmembers
        obtain rfl := Option.some.inj hmembers
        have hv' := (hfinite.of_has hhas).of_has (Json.has_object_iff.mpr hv)
        exact ⟨v, hv, (h v hv' a).mpr hread⟩
  · next hnone =>
      refine ⟨List.Pairwise.nil, fun name a => iff_of_false List.not_mem_nil ?_⟩
      rintro ⟨object, v, hhas, ⟨members, rfl, hv⟩, hread⟩
      rw [members_eq_some_iff.mpr hhas] at hnone
      cases hnone

/-! ## The parts of the panel -/

/-- The line on the connection. -/
structure Connection (payload : Json) (l : Line) : Prop where
  up : payload.Has "connected" (.boolean true) → l = ⟨"Connected to Kubernetes", .good⟩
  down : ¬ payload.Has "connected" (.boolean true) → l = ⟨"Cluster not connected", .bad⟩

/-- What went wrong or, if nothing is known to have, that there are no
components. -/
structure Notice (payload : Json) (components : List (String × String)) (lines : List Line) :
    Prop where
  error : ∀ t, payload.Speaks "error" t → lines = [⟨"Status error: " ++ t, .bad⟩]
  empty : (∀ t, ¬ payload.Speaks "error" t) → components = [] →
    lines = [.muted "No component status available yet."]
  filled : (∀ t, ¬ payload.Speaks "error" t) → components ≠ [] → lines = []

/-- The line on the pods, if any are counted. -/
structure Pods (phases : List (String × UInt64)) (lines : List Line) : Prop where
  none : phases = [] → lines = []
  counted : phases ≠ [] → lines = [.muted ("Pods: " ++
    ", ".intercalate (phases.map fun (phase, count) => phase ++ " " ++ toString count.toNat))]

/-- A count is an integer that is not negative. -/
def Counts (v : Json) (n : UInt64) : Prop := v = .number (.natural n)

theorem counts_iff (v : Json) (n : UInt64) :
    v.number?.bind Json.Number.toNatural? = some n ↔ Counts v n := by
  rw [Option.bind_eq_some_iff, Counts]
  constructor
  · rintro ⟨number, hnumber, hn⟩
    obtain rfl := Json.number?_eq_some_iff.mp hnumber
    cases number with
    | natural m =>
        obtain rfl := Option.some.inj hn
        rfl
    | negative | real => cases hn
  · rintro rfl
    exact ⟨_, rfl, rfl⟩

theorem connected_ofJson_iff (payload : Json) :
    (ofJson payload).connected = true ↔ payload.Has "connected" (.boolean true) := by
  have hread : (Json.lookup "connected" (payload.members?.getD [])).bind Json.boolean? = some true ↔
      payload.Has "connected" (.boolean true) :=
    Json.lookup_bind_eq_some_iff Json.boolean?_eq_some_iff
  rw [← hread, ofJson, ofMembers]
  cases (Json.lookup "connected" (payload.members?.getD [])).bind Json.boolean? <;> simp

theorem connection_ofJson (payload : Json) :
    Connection payload (ofJson payload).connectionLine where
  up h := if_pos ((connected_ofJson_iff payload).mpr h)
  down h := if_neg fun hup => h ((connected_ofJson_iff payload).mp hup)

theorem notice_ofJson (hfinite : payload.AllFinite) :
    Notice payload (ofJson payload).components (ofJson payload).noticeLines := by
  have herror : ∀ t, (ofJson payload).error = some t ↔ payload.Speaks "error" t := fun _ =>
    Json.spokenField?_eq_some_iff hfinite
  have hsilent : (∀ t, ¬ payload.Speaks "error" t) → (ofJson payload).error = none := fun h =>
    Option.eq_none_iff_forall_not_mem.mpr fun t ht => h t ((herror t).mp ht)
  refine ⟨fun t ht => ?_, fun h hempty => ?_, fun h hfilled => ?_⟩
  · rw [noticeLines, (herror t).mpr ht]
  · rw [noticeLines, hsilent h, hempty]
    rfl
  · rw [noticeLines, hsilent h]
    exact if_neg (by simpa using hfilled)

theorem pods_ofJson (payload : Json) :
    Pods (ofJson payload).phases (ofJson payload).phaseLines := by
  refine ⟨fun h => if_pos (by rw [h]; rfl), fun h => if_neg (by simpa using h)⟩

/-- What is expected of the panel of a payload. -/
def Told (payload : Json) (lines : List Line) : Prop :=
  ∃ connection health notice components pods phases generated,
    Connection payload connection ∧
    OrElse (payload.Speaks "observabilityHealth") "unknown" health ∧
    Listed payload "components" Json.Spells components ∧
    Notice payload components notice ∧
    Listed payload "phases" Counts phases ∧
    Pods phases pods ∧
    IfSaid (payload.Speaks "generatedAt") (fun t => .muted ("Generated at " ++ t)) generated ∧
    lines = connection :: .plain ("Observability: " ++ health) :: (notice ++
      components.map (fun (name, status) => .plain (name ++ ": " ++ status)) ++ pods ++ generated)

/-- The keys of a payload that matter. -/
def keys : List String :=
  ["connected", "observabilityHealth", "components", "error", "generatedAt", "phases"]

theorem ofJson_congr (h : ∀ key ∈ keys, ∀ v, payload.Has key v ↔ other.Has key v) :
    ofJson payload = ofJson other := by
  have hlookup : ∀ key ∈ keys, Json.lookup key (payload.members?.getD []) =
      Json.lookup key (other.members?.getD []) := by
    intro key hkey
    refine Option.ext fun v => ?_
    rw [Json.lookup_members_eq_some_iff, Json.lookup_members_eq_some_iff]
    exact h key hkey v
  simp only [keys, List.forall_mem_cons] at hlookup
  obtain ⟨hconnected, hhealth, hcomponents, herror, hgenerated, hphases, -⟩ := hlookup
  simp only [ofJson, ofMembers, entriesOf, Json.spokenField?, Json.textField?, hconnected, hhealth,
    hcomponents, herror, hgenerated, hphases]

/-- Whatever a payload is, its panel says what the payload says at six keys,
each in its place, and nothing else that a payload may hold matters. -/
theorem status_told :
    (∀ bs payload, Json.decode bs = .ok payload → payload.AllFinite) ∧
    ∀ payload : Json,
      (payload.AllFinite → Told payload ((Panel.ready (ofJson payload)).lines lines)) ∧
      ∀ other, (∀ key ∈ keys, ∀ v, payload.Has key v ↔ Json.Has other key v) →
        ofJson payload = ofJson other := by
  refine ⟨fun _ _ => Json.allFinite_of_decode, fun payload => ⟨fun hfinite => ?_,
    fun other h => ofJson_congr h⟩⟩
  have hgenerated : ∀ t, (ofJson payload).generatedAt = some t ↔
      payload.Speaks "generatedAt" t := fun _ => Json.spokenField?_eq_some_iff hfinite
  refine ⟨_, (ofJson payload).health, _, (ofJson payload).components, _, (ofJson payload).phases, _,
    connection_ofJson payload, orElse_getD (fun _ => Json.spokenField?_eq_some_iff hfinite) _,
    listed_entriesOf hfinite (fun _ hv _ => Json.scalarText?_eq_some_iff hv) "components",
    notice_ofJson hfinite, listed_entriesOf hfinite (fun v _ a => counts_iff v a) "phases",
    pods_ofJson payload, ifSaid_toList hgenerated _, ?_⟩
  have hlines : (ofJson payload).generatedLines =
      ((ofJson payload).generatedAt.map fun t => Line.muted ("Generated at " ++ t)).toList := by
    rw [generatedLines]
    cases (ofJson payload).generatedAt <;> rfl
  rw [Panel.lines, lines, hlines]
  rfl

/-- A status with a component that is a number, and with pods. -/
def numbered : Json :=
  .object [("components", .object [("queue", .number (.natural 3))]),
    ("phases", .object [("Running", .number (.natural 2))])]

theorem status_told_of_number :
    numbered.AllFinite ∧ ∃ shown, Told numbered shown ∧ shown.map Line.text =
      ["Cluster not connected", "Observability: unknown", "queue: 3", "Pods: Running 2"] := by
  have hdecode : Json.decode (Text.bytes
      "\x7b\"components\":\x7b\"queue\":3\x7d,\"phases\":\x7b\"Running\":2\x7d\x7d") =
        .ok numbered := by with_unfolding_all rfl
  have hfinite := status_told.1 _ _ hdecode
  refine ⟨hfinite, _, (status_told.2 numbered).1 hfinite, ?_⟩
  decide +kernel

end Dashboard.ClusterStatus
