import Dashboard.Proofs.Config.Precedence
import Dashboard.Proofs.Config.RoundTrip
import Dashboard.Proofs.Text.Edges

/-!
# A document and an override that say the same

The nine settings with a key can be set by an override and by a document, and
each way has a reader of its own: an override is nothing but text, while in a
document a number is an integer and everything else is a string.

A document that does nothing but assign one value reads as the value alone
(`parse_document`), and the settings that it makes are the defaults with the
value in place (`ofEntries?_single`), as they are after an override
(`Config.set_eq`). So the two ways come down to two readers for each setting.
They accept the same values, with two exceptions, and there it is the override
that accepts more: it knows a second name for one of the log formats, and it
takes numbers that no integer of a document can be.
-/

namespace Dashboard

open Text (dropTrailingSlashes)

namespace ConfigKey

/-- Whether the setting of a key is a number. -/
def isNumeric : ConfigKey → Bool
  | backendRequestTimeout | refreshInterval => true
  | _ => false

/-- The document that assigns a value to a key and nothing else. -/
def document (k : ConfigKey) (written : List Char) : String :=
  String.ofList (Config.sectionText k.path.1 [Config.lineOf k.path.2 written])

/-- How the value of an override is written in a document: a number as the
digits of the number that it denotes, and everything else as a string in any
of its forms. -/
inductive Writes (k : ConfigKey) (text : String) : List Char → Prop where
  | string (h : k.isNumeric = false) (written : List Char)
    (denotes : Toml.Denotes written (.text text)) : Writes k text written
  | number (h : k.isNumeric = true) (n : UInt64)
    (denotes : Text.readNatural text.toList = .ok n) : Writes k text (Text.decimal n.toNat)

/-- The values that only an override may have: the second name of a format,
and numbers from 2^63 on. -/
def OverrideOnly (k : ConfigKey) (text : String) : Prop :=
  (k = loggingFormat ∧ text = "text") ∨
    k.isNumeric = true ∧ ∃ n, Text.readNatural text.toList = .ok n ∧ 2 ^ 63 ≤ n.toNat

end ConfigKey

/-! ## Documents with one assignment -/

namespace Config

open Toml (Value Says)

variable {k : ConfigKey} {written : List Char}

theorem isPlain_path (k : ConfigKey) :
    Toml.isPlain k.path.1 = true ∧ Toml.isPlain k.path.2 = true := by
  cases k <;> exact ⟨rfl, rfl⟩

/-- The settings of a document with a single value are the defaults with the
value in place. -/
theorem ofEntries?_single (k : ConfigKey) (x : Value) :
    ofEntries? [(k.path.1, .table .opened [(k.path.2, x)])] =
      (ofValue? k.setting x).map (({} : Config).put k.setting) := by
  cases k <;>
    simp [ConfigKey.path, ConfigKey.setting, ofEntries?, readSection, readBackend, readRefresh,
      readLinks, readLogging, Fields.ofValue?, Fields.read, Fields.find?, List.lookup_cons,
      ofValue?]
  case backendBaseUrl | linksStoreFallback | linksGrafanaUrl | loggingLevel =>
    cases text? x <;> rfl
  case backendRequestTimeout | refreshInterval => cases natural? x <;> rfl
  case refreshOverlap => cases choice? OverlapPolicy.ofName? x <;> rfl
  case refreshPrimaryBatch => cases choice? BatchPolicy.ofName? x <;> rfl
  case loggingFormat => cases choice? LogFormat.ofName? x <;> rfl

theorem parse_document {x : Value} (h : Toml.Denotes written x) :
    parse (k.document written) =
      match ofValue? k.setting x with
      | some v => .ok (({} : Config).put k.setting v)
      | none => .error .malformed := by
  have hsays : List.Forall₂ (List.Forall₂ Says)
      [groupOf (k.path.1, [lineOf k.path.2 written])]
      ([(k.path.1, [(k.path.2, x)])].map Toml.sectionSaid) := by
    refine .cons (says_group (isPlain_path k).1 ?_) .nil
    exact .cons (Toml.says_assignment (isPlain_path k).2 h) .nil
  have hread := Toml.read_sections hsays (by simp) (by simp)
  rw [List.map_singleton, List.intercalate_singleton, ← sectionText_eq] at hread
  rw [parse, ConfigKey.document, String.toList_ofList, hread]
  simp only [List.map_singleton, Option.bind_some, ofEntries?_single]
  cases ofValue? k.setting x <;> rfl

/-- No document holds a number from 2^63 on: the line that assigns it says
nothing. -/
theorem parse_document_of_le (k : ConfigKey) {n : Nat} (h : Nat.pow 2 63 ≤ n) :
    parse (k.document (Text.decimal n)) = .error .malformed := by
  obtain ⟨hsection, hname⟩ := isPlain_path k
  have hheader := Toml.says_header hsection
  have htext : sectionText k.path.1 [lineOf k.path.2 (Text.decimal n)] =
      '[' :: k.path.1.toList ++ [']'] ++
        '\n' :: (lineOf k.path.2 (Text.decimal n) ++ '\n' :: []) := by
    simp [sectionText]
  have hline : Toml.statement (lineOf k.path.2 (Text.decimal n) ++ '\n' :: []) = none := by
    rw [lineOf, Toml.statement_assignment hname (Toml.exists_cons_decimal n), Toml.value_decimal,
      Toml.Scalar.read_decimal_of_le h]
    rfl
  have hstart : ∃ c r, lineOf k.path.2 (Text.decimal n) = c :: r ∧
      (c = '[' ∨ Toml.isKeyChar c = true) := by
    obtain ⟨c, r, hcons, hc⟩ := Toml.exists_cons_of_isPlain hname
    exact ⟨c, r ++ [' ', '=', ' '] ++ Text.decimal n, by rw [lineOf, hcons]; rfl, Or.inr hc⟩
  have hread : Toml.read (k.document (Text.decimal n)).toList = none := by
    rw [ConfigKey.document, String.toList_ofList, htext, Toml.read, Toml.dropMark_line hheader]
    simp only [Toml.statements_line hheader, Toml.statements_eq_none hstart hline]
    rfl
  rw [parse, hread]
  rfl

/-! ## The two readers of a setting -/

/-- How settings from a document and settings from an override with the same
value compare: both are there and differ at most by slashes at the end of an
address, or neither is, or only the override may have the value. -/
inductive Compared (k : ConfigKey) (text : String) :
    Except ConfigError Config → Except ConfigError Config → Prop where
  | both (c d : Config) (common : ¬ k.OverrideOnly text)
    (same : c.withoutSlashes = d.withoutSlashes) : Compared k text (.ok c) (.ok d)
  | neither (e e' : ConfigError) (common : ¬ k.OverrideOnly text) :
    Compared k text (.error e) (.error e')
  | override (e : ConfigError) (d : Config) (only : k.OverrideOnly text) :
    Compared k text (.error e) (.ok d)

/-- Where the two readers of a setting say the same, so do the settings. -/
theorem compared_of_toOption {text : String} {x : Value} (common : ¬ k.OverrideOnly text)
    (hsame : (k.read text).toOption = ofValue? k.setting x)
    (denotes : Toml.Denotes written x) :
    Compared k text (parse (k.document written)) (({} : Config).set k text) := by
  rw [parse_document denotes, set_eq, ← hsame]
  cases k.read text with
  | error e => exact .neither _ _ common
  | ok v => exact .both _ _ common rfl

theorem compared_string {text : String} (hk : k.isNumeric = false)
    (denotes : Toml.Denotes written (.text text)) :
    Compared k text (parse (k.document written)) (({} : Config).set k text) := by
  have hcommon (h : k = .loggingFormat → text ≠ "text") : ¬ k.OverrideOnly text := by
    rintro (⟨hformat, htext⟩ | ⟨hnumeric, -⟩)
    · exact h hformat htext
    · rw [hk] at hnumeric
      cases hnumeric
  cases k with
  | backendRequestTimeout | refreshInterval => cases hk
  | backendBaseUrl | linksStoreFallback =>
      rw [parse_document denotes, set_eq]
      refine .both _ _ (hcommon (by simp)) ?_
      simp [withoutSlashes, put, ofValues, get, ConfigKey.setting]
  | linksGrafanaUrl | loggingLevel =>
      exact compared_of_toOption (hcommon (by simp)) rfl denotes
  | refreshOverlap =>
      refine compared_of_toOption (hcommon (by simp)) ?_ denotes
      show (ConfigKey.refreshOverlap.read text).toOption = OverlapPolicy.ofName? text
      rw [ConfigKey.read]
      cases OverlapPolicy.ofName? text <;> rfl
  | refreshPrimaryBatch =>
      refine compared_of_toOption (hcommon (by simp)) ?_ denotes
      show (ConfigKey.refreshPrimaryBatch.read text).toOption = BatchPolicy.ofName? text
      rw [ConfigKey.read]
      cases BatchPolicy.ofName? text <;> rfl
  | loggingFormat =>
      by_cases htext : text = "text"
      · subst htext
        rw [parse_document denotes, set_eq]
        exact .override _ _ (Or.inl ⟨rfl, rfl⟩)
      · have hname : formatFor? text = LogFormat.ofName? text := by
          rw [formatFor?, if_neg (by simpa using htext)]
        refine compared_of_toOption (hcommon fun _ => htext) ?_ denotes
        show (ConfigKey.loggingFormat.read text).toOption = LogFormat.ofName? text
        rw [ConfigKey.read, hname]
        cases LogFormat.ofName? text <;> rfl

theorem compared_number {text : String} (hk : k.isNumeric = true) {n : UInt64}
    (hn : Text.readNatural text.toList = .ok n) :
    Compared k text (parse (k.document (Text.decimal n.toNat))) (({} : Config).set k text) := by
  have honly : k.OverrideOnly text ↔ Nat.pow 2 63 ≤ n.toNat := by
    constructor
    · rintro (⟨rfl, -⟩ | ⟨-, m, hm, hle⟩)
      · cases hk
      · rwa [Except.ok.inj (hn.symm.trans hm)]
    · intro hle
      exact Or.inr ⟨hk, n, hn, hle⟩
  have hread : (k.read text).toOption = ofValue? k.setting (.integer n.toNat) ∧
      ∃ v, k.read text = .ok v := by
    have hnatural (key : ConfigKey) : naturalFor key text = .ok n := by rw [naturalFor, hn]
    have hback : natural? (.integer n.toNat) = some n := by simp [natural?]
    cases k with
    | backendRequestTimeout | refreshInterval =>
        simp only [ConfigKey.read, ofValue?, ConfigKey.setting, hnatural, hback]
        exact ⟨rfl, n, rfl⟩
    | backendBaseUrl | refreshOverlap | refreshPrimaryBatch | linksStoreFallback
    | linksGrafanaUrl | loggingLevel | loggingFormat => cases hk
  rcases Nat.lt_or_ge n.toNat (Nat.pow 2 63) with hlt | hle
  · refine compared_of_toOption ?_ hread.1 (Toml.denotes_decimal hlt)
    rw [honly]
    exact Nat.not_le.mpr hlt
  · obtain ⟨-, v, hv⟩ := hread
    rw [parse_document_of_le k hle, set_eq, hv]
    exact .override _ _ (honly.mpr hle)

/-! ## Both ways -/

theorem compared_of_writes {text : String} (h : k.Writes text written) :
    Compared k text (parse (k.document written)) (({} : Config).set k text) := by
  cases h with
  | string hk _ denotes => exact compared_string hk denotes
  | number hk n hn => exact compared_number hk hn

/-- A value can be written unless it has to be a number and is none, and then
the override is refused. -/
theorem writes_or_refused (k : ConfigKey) (text : String) :
    (∃ written, k.Writes text written) ∨
      k.isNumeric = true ∧ (∀ n, Text.readNatural text.toList ≠ .ok n) ∧
        ∃ e, ({} : Config).set k text = .error e := by
  cases hk : k.isNumeric with
  | false =>
      have hdenotes := Toml.denotes_write text.toList
      rw [String.ofList_toList] at hdenotes
      exact Or.inl ⟨_, .string hk _ hdenotes⟩
  | true =>
      cases hn : Text.readNatural text.toList with
      | ok n => exact Or.inl ⟨_, .number hk n hn⟩
      | error e =>
          refine Or.inr ⟨rfl, by simp, ?_⟩
          have hnatural (key : ConfigKey) :
              naturalFor key text = .error (.invalidNumber key.dotted text) := by
            rw [naturalFor, hn]
          rw [set_eq]
          cases k with
          | backendRequestTimeout | refreshInterval =>
              rw [ConfigKey.read, hnatural]
              exact ⟨_, rfl⟩
          | backendBaseUrl | refreshOverlap | refreshPrimaryBatch | linksStoreFallback
          | linksGrafanaUrl | loggingLevel | loggingFormat => cases hk

/-- How a document and an override with the same value agree. -/
structure Agree (k : ConfigKey) (text : String) : Prop where
  /-- A value can be written, unless it has to be a number and is none; then the
  override is refused. -/
  written : (∃ written, k.Writes text written) ∨
    k.isNumeric = true ∧ (∀ n, Text.readNatural text.toList ≠ .ok n) ∧
      ∃ e, ({} : Config).set k text = .error e
  /-- The document is accepted exactly when the override is, unless only an
  override may have the value. -/
  accepted : ∀ written, k.Writes text written → ((∃ c, parse (k.document written) = .ok c) ↔
    (∃ d, ({} : Config).set k text = .ok d) ∧ ¬ k.OverrideOnly text)
  /-- A value that only an override may have is accepted there. -/
  only : k.OverrideOnly text → ∃ d, ({} : Config).set k text = .ok d
  /-- Settings from both differ at most by slashes at the end of an address. -/
  same : ∀ written c d, k.Writes text written → parse (k.document written) = .ok c →
    ({} : Config).set k text = .ok d → c.withoutSlashes = d.withoutSlashes

/-- Every key can be set to the same values by a document and by an override,
with the same outcome, but for the values that only an override may have. -/
theorem document_override_agree (k : ConfigKey) (text : String) : Agree k text where
  written := writes_or_refused k text
  accepted := by
    intro written h
    have hcompared := compared_of_writes h
    generalize parse (k.document written) = file at hcompared ⊢
    generalize ({} : Config).set k text = outcome at hcompared ⊢
    cases hcompared with
    | both c d common same => exact ⟨fun _ => ⟨⟨d, rfl⟩, common⟩, fun _ => ⟨c, rfl⟩⟩
    | neither e e' common => simp
    | override e d only => simp [only]
  only := by
    intro honly
    rcases writes_or_refused k text with ⟨written, h⟩ | ⟨hk, hnone, -⟩
    · have hcompared := compared_of_writes h
      generalize parse (k.document written) = file at hcompared
      generalize ({} : Config).set k text = outcome at hcompared ⊢
      cases hcompared with
      | both c d common same => exact absurd honly common
      | neither e e' common => exact absurd honly common
      | override e d only => exact ⟨d, rfl⟩
    · rcases honly with ⟨rfl, -⟩ | ⟨-, n, hn, -⟩
      · cases hk
      · exact absurd hn (hnone n)
  same := by
    intro written c d h hfile hover
    have hcompared := compared_of_writes h
    rw [hfile, hover] at hcompared
    cases hcompared with
    | both _ _ common same => exact same

/-- The first number that only an override may have. -/
example :
    (({} : Config).set .refreshInterval "9223372036854775808").toOption.isSome ∧
      parse "[refresh]\ninterval_ms = 9223372036854775808\n" = .error .malformed ∧
      (parse "[refresh]\ninterval_ms = 9223372036854775807\n").toOption.isSome := by
  decide +kernel

/-- The second name of a format is none in a document. -/
theorem not_accepted_of_text :
    ¬ ((∃ d, ({} : Config).set .loggingFormat "text" = .ok d) ↔
      ∃ c, parse (ConfigKey.loggingFormat.document (Toml.Quoted.write "text".toList)) = .ok c) := by
  have hset : ({} : Config).set .loggingFormat "text" = .ok {} := by decide
  have hparse : parse (ConfigKey.loggingFormat.document (Toml.Quoted.write "text".toList)) =
      .error .malformed := by decide +kernel
  rintro ⟨haccepted, -⟩
  obtain ⟨c, hc⟩ := haccepted ⟨{}, hset⟩
  rw [hparse] at hc
  cases hc

end Config

end Dashboard
