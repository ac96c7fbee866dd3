import Dashboard.Config.Document
import Dashboard.Proofs.Toml.Document
import Mathlib.Algebra.Order.Ring.Nat

/-!
# Settings survive being written and read

A written document holds a section for every part of the settings and a line
for every setting, so what the reader finds in it are the settings as entries
(`read_document`), and entries made from settings give the settings back
(`ofEntries?_entries`). That every text reads back, whatever characters it
has, is the theorem about quoted texts; a number reads back where it is below
2^63, which is why the writer refuses all others.
-/

namespace Dashboard

/-! ## Choices have their names -/

theorem OverlapPolicy.ofName?_name (p : OverlapPolicy) : ofName? p.name = some p := by
  cases p <;> rfl

theorem BatchPolicy.ofName?_name (p : BatchPolicy) : ofName? p.name = some p := by
  cases p <;> rfl

theorem LogFormat.ofName?_name (f : LogFormat) : ofName? f.name = some f := by
  cases f <;> rfl

namespace Config

open Toml (Value Entries Says Statement)

/-! ## Settings as entries -/

/-- The entry of a count. -/
def naturalEntry (name : String) (n : UInt64) : String × Value := (name, .integer n.toNat)

/-- The settings as the entries of a document, section by section. -/
def entries (c : Config) : List (String × Entries) :=
  [("backend",
      [("base_url", .text c.backend.baseUrl),
        naturalEntry "request_timeout_ms" c.backend.requestTimeout]),
    ("refresh",
      [naturalEntry "interval_ms" c.refresh.interval, ("overlap", .text c.refresh.overlap.name),
        ("primary_batch", .text c.refresh.primaryBatch.name)]),
    ("links",
      [("prometheus_fallback", .text c.links.storeFallback),
        ("grafana_url", .text c.links.grafanaUrl)]),
    ("logging",
      [("level", .text c.logging.level), ("format", .text c.logging.format.name)] ++
        (c.logging.file.map fun file => ("file", Value.text file)).toList)]

theorem nodup_sections (c : Config) : (c.entries.map (·.1)).Nodup := by
  simp [entries]

theorem nodup_settings (c : Config) : ∀ s ∈ c.entries, (s.2.map (·.1)).Nodup := by
  cases hfile : c.logging.file <;> simp [entries, naturalEntry, hfile]

theorem ofEntries?_entries (c : Config) :
    ofEntries? (c.entries.map fun s => (s.1, .table .opened s.2)) = some c := by
  obtain ⟨⟨baseUrl, timeout⟩, ⟨interval, overlap, batch⟩, ⟨store, grafana⟩,
    ⟨level, format, file⟩⟩ := c
  cases file <;>
    simp [ofEntries?, entries, naturalEntry, readSection, readBackend, readRefresh, readLinks,
      readLogging, Fields.ofValue?, Fields.read, Fields.find?, List.lookup_cons, text?, natural?,
      choice?, OverlapPolicy.ofName?_name, BatchPolicy.ofName?_name, LogFormat.ofName?_name]

/-! ## Lines say entries -/

/-- The lines of a section with its header. -/
def groupOf (s : String × List (List Char)) : List (List Char) :=
  ('[' :: s.1.toList ++ [']']) :: s.2

theorem sectionText_eq (name : String) (lines : List (List Char)) :
    sectionText name lines = Toml.linesText (groupOf (name, lines)) := by
  simp [sectionText, Toml.linesText, groupOf]

theorem says_textLine {name : String} (hname : Toml.isPlain name = true) (value : String) :
    Says (textLine name value) (.assignment ⟨[name], .text value⟩) := by
  have hsays := Toml.says_assignment hname (Toml.denotes_write value.toList)
  rw [String.ofList_toList] at hsays
  exact hsays

theorem says_naturalLine {name : String} (hname : Toml.isPlain name = true) {n : UInt64}
    (hn : isWritable n = true) :
    Says (naturalLine name n) (.assignment ⟨[name], (naturalEntry name n).2⟩) :=
  Toml.says_assignment hname (Toml.denotes_decimal (of_decide_eq_true hn))

/-- The lines of a section say its entries where the lines below its header
do. -/
theorem says_group {name : String} (hname : Toml.isPlain name = true) {lines : List (List Char)}
    {es : Entries} (h : List.Forall₂ Says lines ((Entries.assignments es).map .assignment)) :
    List.Forall₂ Says (groupOf (name, lines)) (Toml.sectionSaid (name, es)) :=
  .cons (Toml.says_header hname) h

/-- What the lines of the sections say are the settings as entries. -/
theorem sections_say {c : Config} (htimeout : isWritable c.backend.requestTimeout = true)
    (hinterval : isWritable c.refresh.interval = true) :
    List.Forall₂ (List.Forall₂ Says) (c.sections.map groupOf)
      (c.entries.map Toml.sectionSaid) := by
  refine .cons (says_group rfl ?backend) <| .cons (says_group rfl ?refresh) <|
    .cons (says_group rfl ?links) <| .cons (says_group rfl ?logging) .nil
  case backend => exact .cons (says_textLine rfl _) <| .cons (says_naturalLine rfl htimeout) .nil
  case refresh =>
    exact .cons (says_naturalLine rfl hinterval) <| .cons (says_textLine rfl _) <|
      .cons (says_textLine rfl _) .nil
  case links => exact .cons (says_textLine rfl _) <| .cons (says_textLine rfl _) .nil
  case logging =>
    refine .cons (says_textLine rfl _) <| .cons (says_textLine rfl _) ?_
    cases c.logging.file with
    | none => exact .nil
    | some file => exact .cons (says_textLine rfl _) .nil

/-! ## The document -/

theorem document_eq {c : Config} {text : String} (h : c.document = .ok text) :
    isWritable c.backend.requestTimeout = true ∧ isWritable c.refresh.interval = true ∧
      text = String.ofList
        (List.intercalate ['\n'] ((c.sections.map groupOf).map Toml.linesText)) := by
  rw [document] at h
  split at h
  · next hwritable =>
      obtain ⟨htimeout, hinterval⟩ := Bool.and_eq_true_iff.mp hwritable
      refine ⟨htimeout, hinterval, ?_⟩
      rw [← Except.ok.inj h, List.map_map]
      congr 2
      exact List.map_congr_left fun s _ => sectionText_eq s.1 s.2
  · cases h

/-- The document of settings, where it can be written, holds their entries. -/
theorem read_document {c : Config} {text : String} (h : c.document = .ok text) :
    Toml.read text.toList = some (c.entries.map fun s => (s.1, .table .opened s.2)) := by
  obtain ⟨htimeout, hinterval, rfl⟩ := document_eq h
  rw [String.toList_ofList]
  exact Toml.read_sections (sections_say htimeout hinterval) (nodup_sections c)
    (nodup_settings c)

theorem isWritable_iff (n : UInt64) : isWritable n = true ↔ n.toNat ≤ 2 ^ 63 - 1 := by
  rw [isWritable, decide_eq_true_iff]
  exact Nat.lt_iff_le_pred (by decide)

/-- Settings can be written exactly when neither number is above 2^63 - 1, and
what is written reads back as the same settings, whatever characters their
texts have. All other settings are refused. -/
theorem document_roundTrip (c : Config) :
    ((∃ text, c.document = .ok text) ↔
        c.backend.requestTimeout.toNat ≤ 2 ^ 63 - 1 ∧ c.refresh.interval.toNat ≤ 2 ^ 63 - 1) ∧
      (∀ text, c.document = .ok text → parse text = .ok c) ∧
      (¬ (c.backend.requestTimeout.toNat ≤ 2 ^ 63 - 1 ∧
          c.refresh.interval.toNat ≤ 2 ^ 63 - 1) → c.document = .error .unwritable) := by
  rw [← isWritable_iff, ← isWritable_iff, ← Bool.and_eq_true_iff]
  refine ⟨⟨fun ⟨text, h⟩ => ?_, fun h => ⟨_, if_pos h⟩⟩, fun text h => ?_, fun h => if_neg h⟩
  · obtain ⟨htimeout, hinterval, -⟩ := document_eq h
    exact Bool.and_eq_true_iff.mpr ⟨htimeout, hinterval⟩
  · rw [parse, read_document h, Option.bind_some, ofEntries?_entries]

/-- Settings with every kind of character that a document has to take care
of, and the largest number that can be written. -/
def awkward : Config where
  backend := { baseUrl := "\x22\x22\x22 \\ ''' \n", requestTimeout := 9223372036854775807 }
  refresh := { interval := 100, overlap := .concurrent, primaryBatch := .allOrNothing }
  links := { storeFallback := "C:\\dir\t'\x00\r\n", grafanaUrl := "" }
  logging := { level := "''\u00e9\x7f", format := .json, file := some "\nlog\x22\x22" }

theorem document_roundTrip_of_awkward :
    (∃ text, awkward.document = .ok text ∧ parse text = .ok awkward) ∧
      { awkward with refresh := { interval := 9223372036854775808 } }.document =
        .error .unwritable := by
  obtain ⟨hwritten, hread, -⟩ := document_roundTrip awkward
  obtain ⟨text, htext⟩ := hwritten.mpr (by decide)
  exact ⟨⟨text, htext, hread text htext⟩, (document_roundTrip _).2.2 (by decide)⟩

end Config

end Dashboard
