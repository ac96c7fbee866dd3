import Dashboard.CommandLine.Program
import Dashboard.Proofs.Config.Setting

/-!
# The highest layer that names a setting decides it

Settings come in layers. Each layer names some of the ten settings and says
nothing of the others: the overrides name the settings of their keys, the
later one winning; the options name five; a document names what it holds a
value for; the defaults name everything. Which value is in effect is decided
setting by setting, by the highest layer that names it.

The program does not work that way. It fills in the defaults as it reads the
document, and then lets options and overrides write over what is there. The
lemmas follow it from step to step and say of each what it leaves in every
single setting: `get_ofEntries?` for a document, `get_layer` for the options
and `overrideAll_cases` for the overrides. `merged` is what the layers come to
when they are put over each other, and the last step, checking the settings,
sees nothing but that. So what a lower layer says of a setting that a higher
one names cannot do any harm, once the file that says it has been read.
-/

namespace Dashboard

open Toml (Value Entries)

/-- What a layer says of each setting, if it names it. -/
abbrev Layer := (s : Setting) → Option s.Value

/-! ## Overrides -/

/-- The value that the last override for a setting gives to it. -/
def overrideLayer (raws : List String) : Layer := fun s =>
  raws.reverse.findSome? fun raw => (Assignment.ofText raw).toOption.bind (·.for? s)

/-- An override that is refused whatever the settings are. -/
def Refused (raw : String) : Prop := ∀ c : Config, ∃ e, c.override raw = .error e

theorem refused_iff {raw : String} : Refused raw ↔ ∃ e, Assignment.ofText raw = .error e := by
  constructor
  · intro h
    obtain ⟨e, he⟩ := h {}
    rw [Config.override_eq] at he
    cases ha : Assignment.ofText raw with
    | error e' => exact ⟨e', rfl⟩
    | ok a => rw [ha] at he; cases he
  · rintro ⟨e, he⟩ c
    exact ⟨e, by rw [Config.override_eq, he]; rfl⟩

theorem overrideLayer_cons {raw : String} {a : Assignment} (ha : Assignment.ofText raw = .ok a)
    (raws : List String) (s : Setting) :
    overrideLayer (raw :: raws) s = (overrideLayer raws s).or (a.for? s) := by
  simp only [overrideLayer, List.reverse_cons, List.findSome?_append, List.findSome?_singleton, ha]
  rfl

/-- Overrides are applied to the last one, or one of them is refused, and
then in the same way whatever the settings are. -/
theorem overrideAll_cases (raws : List String) :
    ((∃ raw ∈ raws, Refused raw) ∧ ∃ e, ∀ c : Config, c.overrideAll raws = .error e) ∨
      (¬ ∃ raw ∈ raws, Refused raw) ∧ ∀ c : Config, ∃ d, c.overrideAll raws = .ok d ∧
        ∀ s, d.get s = (overrideLayer raws s).getD (c.get s) := by
  induction raws with
  | nil => exact Or.inr ⟨by simp, fun c => ⟨c, rfl, fun s => rfl⟩⟩
  | cons raw raws ih =>
      have hstep (c : Config) : c.overrideAll (raw :: raws) =
          (c.override raw).bind fun d => d.overrideAll raws := rfl
      cases ha : Assignment.ofText raw with
      | error e =>
          refine Or.inl ⟨⟨raw, List.mem_cons_self, refused_iff.mpr ⟨e, ha⟩⟩, e, fun c => ?_⟩
          rw [hstep, Config.override_eq, ha]
          rfl
      | ok a =>
          have hraw : ¬ Refused raw := by
            rw [refused_iff, ha]
            rintro ⟨e, he⟩
            cases he
          have hrest (c : Config) :
              c.overrideAll (raw :: raws) = (c.apply a).overrideAll raws := by
            rw [hstep, Config.override_eq, ha]
            rfl
          rcases ih with ⟨⟨bad, hbad, href⟩, e, herror⟩ | ⟨hnone, happlied⟩
          · refine Or.inl ⟨⟨bad, List.mem_cons_of_mem raw hbad, href⟩, e, fun c => ?_⟩
            rw [hrest, herror]
          · refine Or.inr ⟨?_, fun c => ?_⟩
            · rintro ⟨bad, hbad, href⟩
              rcases List.mem_cons.mp hbad with rfl | hmem
              · exact hraw href
              · exact hnone ⟨bad, hmem, href⟩
            · obtain ⟨d, hd, hget⟩ := happlied (c.apply a)
              refine ⟨d, by rw [hrest, hd], fun s => ?_⟩
              rw [hget, Config.get_apply, overrideLayer_cons ha]
              cases overrideLayer raws s <;> rfl

/-! ## A document -/

namespace Config

/-- Where a document has a setting: its section, its name there, and its
place where the section is a list. -/
def writtenAt : Setting → String × String × Nat
  | .baseUrl => ("backend", "base_url", 0)
  | .requestTimeout => ("backend", "request_timeout_ms", 1)
  | .interval => ("refresh", "interval_ms", 0)
  | .overlap => ("refresh", "overlap", 1)
  | .primaryBatch => ("refresh", "primary_batch", 2)
  | .storeFallback => ("links", "prometheus_fallback", 0)
  | .grafanaUrl => ("links", "grafana_url", 1)
  | .logLevel => ("logging", "level", 0)
  | .logFormat => ("logging", "format", 1)
  | .logFile => ("logging", "file", 2)

/-- What a value says of a setting. -/
def ofValue? : (s : Setting) → Value → Option s.Value
  | .baseUrl | .storeFallback | .grafanaUrl | .logLevel => text?
  | .requestTimeout | .interval => natural?
  | .overlap => choice? OverlapPolicy.ofName?
  | .primaryBatch => choice? BatchPolicy.ofName?
  | .logFormat => choice? LogFormat.ofName?
  | .logFile => fun v => (text? v).map some

/-- The value that a document holds in a place. -/
def written? (es : Entries) (at_ : String × String × Nat) : Option Value :=
  ((es.lookup at_.1).bind Fields.ofValue?).bind (Fields.find? at_.2.1 at_.2.2)

/-- The settings that a document names. -/
def documentLayer (es : Entries) : Layer := fun s =>
  (written? es (writtenAt s)).bind (ofValue? s)

variable {es : Entries}

theorem Fields.read_eq_some {α : Type} {f : Fields} {name : String} {place : Nat} {default x : α}
    {ofValue? : Value → Option α} (h : f.read name place default ofValue? = some x) :
    x = ((f.find? name place).bind ofValue?).getD default := by
  rw [read] at h
  split at h
  · next hnone => rw [hnone, ← Option.some.inj h]; rfl
  · next v hv => rw [hv, Option.bind_some, h]; rfl

/-- A setting of a section that was read is what the document says of it, or
its default. -/
theorem eq_of_readSection {α β : Type} {section_ name : String} {place : Nat} {default x : α}
    {read : Fields → Option α} (h : readSection es section_ default read = some x)
    (project : α → β) {ofValue? : Value → Option β}
    (hread : ∀ f x, read f = some x →
      project x = ((f.find? name place).bind ofValue?).getD (project default)) :
    project x =
      ((written? es (section_, name, place)).bind ofValue?).getD (project default) := by
  rw [readSection] at h
  rw [written?]
  split at h
  · next hnone => rw [hnone, ← Option.some.inj h]; rfl
  · next v hv =>
      obtain ⟨f, hf, hx⟩ := Option.bind_eq_some_iff.mp h
      rw [hv, Option.bind_some, hf, Option.bind_some]
      exact hread f x hx

theorem readBackend_eq_some {f : Fields} {b : BackendConfig} (h : readBackend f = some b) :
    b.baseUrl = ((f.find? "base_url" 0).bind text?).getD ({} : BackendConfig).baseUrl ∧
      b.requestTimeout = ((f.find? "request_timeout_ms" 1).bind natural?).getD
        ({} : BackendConfig).requestTimeout := by
  simp only [readBackend, Option.bind_eq_bind, Option.bind_eq_some_iff] at h
  obtain ⟨baseUrl, hurl, timeout, htimeout, hb⟩ := h
  obtain rfl := Option.some.inj hb
  exact ⟨Fields.read_eq_some hurl, Fields.read_eq_some htimeout⟩

theorem readRefresh_eq_some {f : Fields} {r : RefreshConfig} (h : readRefresh f = some r) :
    r.interval = ((f.find? "interval_ms" 0).bind natural?).getD ({} : RefreshConfig).interval ∧
      r.overlap = ((f.find? "overlap" 1).bind (choice? OverlapPolicy.ofName?)).getD
        ({} : RefreshConfig).overlap ∧
      r.primaryBatch = ((f.find? "primary_batch" 2).bind (choice? BatchPolicy.ofName?)).getD
        ({} : RefreshConfig).primaryBatch := by
  simp only [readRefresh, Option.bind_eq_bind, Option.bind_eq_some_iff] at h
  obtain ⟨interval, hinterval, overlap, hoverlap, batch, hbatch, hr⟩ := h
  obtain rfl := Option.some.inj hr
  exact ⟨Fields.read_eq_some hinterval, Fields.read_eq_some hoverlap, Fields.read_eq_some hbatch⟩

theorem readLinks_eq_some {f : Fields} {l : LinksConfig} (h : readLinks f = some l) :
    l.storeFallback = ((f.find? "prometheus_fallback" 0).bind text?).getD
        ({} : LinksConfig).storeFallback ∧
      l.grafanaUrl = ((f.find? "grafana_url" 1).bind text?).getD
        ({} : LinksConfig).grafanaUrl := by
  simp only [readLinks, Option.bind_eq_bind, Option.bind_eq_some_iff] at h
  obtain ⟨store, hstore, grafana, hgrafana, hl⟩ := h
  obtain rfl := Option.some.inj hl
  exact ⟨Fields.read_eq_some hstore, Fields.read_eq_some hgrafana⟩

theorem readLogging_eq_some {f : Fields} {l : LoggingConfig} (h : readLogging f = some l) :
    l.level = ((f.find? "level" 0).bind text?).getD ({} : LoggingConfig).level ∧
      l.format = ((f.find? "format" 1).bind (choice? LogFormat.ofName?)).getD
        ({} : LoggingConfig).format ∧
      l.file = ((f.find? "file" 2).bind fun v => (text? v).map some).getD
        ({} : LoggingConfig).file := by
  simp only [readLogging, Option.bind_eq_bind, Option.bind_eq_some_iff] at h
  obtain ⟨level, hlevel, format, hformat, file, hfile, hl⟩ := h
  obtain rfl := Option.some.inj hl
  exact ⟨Fields.read_eq_some hlevel, Fields.read_eq_some hformat, Fields.read_eq_some hfile⟩

/-- The settings of a document are what it names, and defaults elsewhere. -/
theorem get_ofEntries? {c : Config} (h : ofEntries? es = some c) (s : Setting) :
    c.get s = (documentLayer es s).getD (({} : Config).get s) := by
  simp only [ofEntries?, Option.bind_eq_bind, Option.bind_eq_some_iff] at h
  obtain ⟨backend, hbackend, refresh, hrefresh, links, hlinks, logging, hlogging, hc⟩ := h
  obtain rfl := Option.some.inj hc
  cases s with
  | baseUrl =>
      exact eq_of_readSection hbackend BackendConfig.baseUrl fun f x hx =>
        (readBackend_eq_some hx).1
  | requestTimeout =>
      exact eq_of_readSection hbackend BackendConfig.requestTimeout fun f x hx =>
        (readBackend_eq_some hx).2
  | interval =>
      exact eq_of_readSection hrefresh RefreshConfig.interval fun f x hx =>
        (readRefresh_eq_some hx).1
  | overlap =>
      exact eq_of_readSection hrefresh RefreshConfig.overlap fun f x hx =>
        (readRefresh_eq_some hx).2.1
  | primaryBatch =>
      exact eq_of_readSection hrefresh RefreshConfig.primaryBatch fun f x hx =>
        (readRefresh_eq_some hx).2.2
  | storeFallback =>
      exact eq_of_readSection hlinks LinksConfig.storeFallback fun f x hx =>
        (readLinks_eq_some hx).1
  | grafanaUrl =>
      exact eq_of_readSection hlinks LinksConfig.grafanaUrl fun f x hx =>
        (readLinks_eq_some hx).2
  | logLevel =>
      exact eq_of_readSection hlogging LoggingConfig.level fun f x hx =>
        (readLogging_eq_some hx).1
  | logFormat =>
      exact eq_of_readSection hlogging LoggingConfig.format fun f x hx =>
        (readLogging_eq_some hx).2.1
  | logFile =>
      exact eq_of_readSection hlogging LoggingConfig.file fun f x hx =>
        (readLogging_eq_some hx).2.2

end Config

/-! ## Options and the file -/

namespace CommandLine

/-- The settings that options name. -/
def Options.flagLayer (o : Options) : Layer
  | .baseUrl => o.backend.map Text.dropTrailingSlashes
  | .requestTimeout => o.timeout
  | .interval => o.interval
  | .logLevel => o.logLevel
  | .logFile => o.logFile.map some
  | _ => none

theorem Options.get_layer (o : Options) (c : Config) (s : Setting) :
    (o.layer c).get s = (o.flagLayer s).getD (c.get s) := by
  cases s with
  | logFile =>
      show o.logFile.or c.logging.file = (o.logFile.map some).getD c.logging.file
      cases o.logFile <;> rfl
  | baseUrl | requestTimeout | interval | logLevel => rfl
  | overlap | primaryBatch | storeFallback | grafanaUrl | logFormat => rfl

/-- The settings that a file names. -/
def fileLayer : FileState → Layer
  | .text t => fun s => (Toml.read t.toList).bind (Config.documentLayer · s)
  | _ => fun _ => none

/-- The file to read the settings from is no use. -/
inductive Unusable (o : Options) (read : String → FileState) : Prop where
  /-- A file was named and is not there. -/
  | missing (path : String) (named : o.config = some path) (absent : read path = .absent)
  /-- The file is there and cannot be read. -/
  | unreadable (e : SystemError) (h : read o.file = .unreadable e)
  /-- The file holds no settings document. -/
  | malformed (t : String) (h : read o.file = .text t) (e : ConfigError)
    (refused : Config.parse t = .error e)

theorem Options.file_of_config {o : Options} {path : String} (h : o.config = some path) :
    o.file = path := by
  rw [file, h]
  rfl

/-- A file gives its settings with defaults where it names none, unless it is
no use. -/
theorem Options.fileConfig_cases (o : Options) (read : String → FileState) :
    (Unusable o read ∧ ∃ e, o.fileConfig (read o.file) = .error e) ∨
      ¬ Unusable o read ∧ ∃ c, o.fileConfig (read o.file) = .ok c ∧
        ∀ s, c.get s = (fileLayer (read o.file) s).getD (({} : Config).get s) := by
  cases hstate : read o.file with
  | absent =>
      cases hconfig : o.config with
      | some path =>
          have habsent : read path = .absent := by rw [← file_of_config hconfig, hstate]
          exact Or.inl
            ⟨.missing path hconfig habsent, .noFile path, by simp only [fileConfig, hconfig]⟩
      | none =>
          refine Or.inr ⟨?_, {}, by simp only [fileConfig, hconfig], fun s => rfl⟩
          rintro (⟨path, hnamed, -⟩ | ⟨e, h⟩ | ⟨t, h, -⟩)
          · rw [hconfig] at hnamed; cases hnamed
          · rw [hstate] at h; cases h
          · rw [hstate] at h; cases h
  | unreadable e => exact Or.inl ⟨.unreadable e hstate, _, rfl⟩
  | text t =>
      cases hparse : Config.parse t with
      | error e => exact Or.inl ⟨.malformed t hstate e hparse, e, hparse⟩
      | ok c =>
          refine Or.inr ⟨?_, c, hparse, fun s => ?_⟩
          · rintro (⟨path, hnamed, habsent⟩ | ⟨e, h⟩ | ⟨t', h, e, hrefused⟩)
            · rw [← file_of_config hnamed, hstate] at habsent; cases habsent
            · rw [hstate] at h; cases h
            · obtain rfl := FileState.text.inj (hstate.symm.trans h)
              rw [hparse] at hrefused; cases hrefused
          · rw [Config.parse] at hparse
            split at hparse
            · next d hd =>
                obtain rfl := Except.ok.inj hparse
                obtain ⟨es, hes, hentries⟩ := Option.bind_eq_some_iff.mp hd
                rw [fileLayer, hes]
                exact Config.get_ofEntries? hentries s
            · cases hparse

/-! ## All layers -/

/-- What is in effect for a setting: the value of the highest layer that
names it. -/
def Options.highest (o : Options) (file : FileState) (s : Setting) : s.Value :=
  ((overrideLayer o.overrides s).or ((o.flagLayer s).or (fileLayer file s))).getD
    (({} : Config).get s)

/-- The settings that all layers together come to. -/
def Options.merged (o : Options) (file : FileState) : Config := .ofValues (o.highest file)

/-- How the settings in effect follow from the layers. -/
structure Layered (o : Options) (read : String → FileState) : Prop where
  /-- Nothing but these leaves the program without settings. -/
  fails : (∃ e, o.effective (read o.file) = .error e) ↔
    Unusable o read ∨ (∃ raw ∈ o.overrides, Refused raw) ∨
      ∃ e, (o.merged (read o.file)).validate = .error e
  /-- Every setting by itself has the value of the highest layer naming it. -/
  values : ∀ c, o.effective (read o.file) = .ok c → ∀ s, c.get s = o.highest (read o.file) s
  /-- What a lower layer says of a setting that a higher one names does not
  matter. -/
  hidden : ∀ (o' : Options) (read' : String → FileState), o'.overrides = o.overrides →
    ¬ Unusable o read → ¬ Unusable o' read' →
    (∀ s, overrideLayer o.overrides s = none →
      o'.flagLayer s = o.flagLayer s ∧
        (o.flagLayer s = none → fileLayer (read' o'.file) s = fileLayer (read o.file) s)) →
    o'.effective (read' o'.file) = o.effective (read o.file)

/-- Once the file is read and no override is refused, the settings are those
of the layers, if they can be used. -/
theorem Options.effective_eq {o : Options} {read : String → FileState} (hfile : ¬ Unusable o read)
    (hset : ¬ ∃ raw ∈ o.overrides, Refused raw) :
    o.effective (read o.file) =
      (o.merged (read o.file)).validate.map fun _ => o.merged (read o.file) := by
  rcases o.fileConfig_cases read with ⟨hbad, -⟩ | ⟨-, c, hc, hcget⟩
  · exact absurd hbad hfile
  rcases overrideAll_cases o.overrides with ⟨hbad, -⟩ | ⟨-, happlied⟩
  · exact absurd hbad hset
  obtain ⟨d, hd, hdget⟩ := happlied (o.layer c)
  have hmerged : d = o.merged (read o.file) := by
    refine Config.ext_get fun s => ?_
    rw [hdget, get_layer, hcget, merged, Config.get_ofValues, highest]
    cases overrideLayer o.overrides s <;> cases o.flagLayer s <;> rfl
  have hstep : o.effective (read o.file) = d.validate.map fun _ => d := by
    simp only [effective, hc, bind, Except.bind, hd]
    cases d.validate <;> rfl
  rw [hstep, hmerged]

theorem Options.effective_of_unusable {o : Options} {read : String → FileState}
    (h : Unusable o read) : ∃ e, o.effective (read o.file) = .error e := by
  rcases o.fileConfig_cases read with ⟨-, e, he⟩ | ⟨hgood, -⟩
  · exact ⟨e, by simp only [effective, he, bind, Except.bind]⟩
  · exact absurd h hgood

/-- An override that is refused is reported, whatever is below it. -/
theorem Options.effective_of_refused {raws : List String} (h : ∃ raw ∈ raws, Refused raw) :
    ∃ e, ∀ (o : Options) (read : String → FileState), o.overrides = raws → ¬ Unusable o read →
      o.effective (read o.file) = .error e := by
  rcases overrideAll_cases raws with ⟨-, e, he⟩ | ⟨hgood, -⟩
  · refine ⟨e, fun o read hraws hfile => ?_⟩
    rcases o.fileConfig_cases read with ⟨hbad, -⟩ | ⟨-, c, hc, -⟩
    · exact absurd hbad hfile
    · simp only [effective, hc, bind, Except.bind, hraws, he]
  · exact absurd h hgood

/-- Whatever files there are, whatever options are given and whatever is
overridden, the settings in effect follow from the layers. -/
theorem effective_layered (o : Options) (read : String → FileState) : Layered o read where
  fails := by
    by_cases hfile : Unusable o read
    · exact ⟨fun _ => Or.inl hfile, fun _ => Options.effective_of_unusable hfile⟩
    by_cases hset : ∃ raw ∈ o.overrides, Refused raw
    · obtain ⟨e, he⟩ := Options.effective_of_refused hset
      exact ⟨fun _ => Or.inr (Or.inl hset), fun _ => ⟨e, he o read rfl hfile⟩⟩
    rw [Options.effective_eq hfile hset]
    cases (o.merged (read o.file)).validate with
    | error e => exact ⟨fun _ => Or.inr (Or.inr ⟨e, rfl⟩), fun _ => ⟨e, rfl⟩⟩
    | ok u =>
        constructor
        · rintro ⟨e, he⟩
          cases he
        · rintro (h | h | ⟨e, he⟩)
          · exact absurd h hfile
          · exact absurd h hset
          · cases he
  values := by
    intro c hc s
    have hfile : ¬ Unusable o read := fun h => by
      obtain ⟨e, he⟩ := Options.effective_of_unusable h
      rw [hc] at he
      cases he
    have hset : ¬ ∃ raw ∈ o.overrides, Refused raw := fun h => by
      obtain ⟨e, he⟩ := Options.effective_of_refused h
      rw [he o read rfl hfile] at hc
      cases hc
    rw [Options.effective_eq hfile hset] at hc
    cases hvalid : (o.merged (read o.file)).validate with
    | error e => rw [hvalid] at hc; cases hc
    | ok u =>
        rw [hvalid] at hc
        rw [← Except.ok.inj hc]
        exact Config.get_ofValues _ s
  hidden := by
    intro o' read' hraws hfile hfile' hsame
    by_cases hset : ∃ raw ∈ o.overrides, Refused raw
    · obtain ⟨e, he⟩ := Options.effective_of_refused hset
      rw [he o read rfl hfile, he o' read' hraws hfile']
    have hmerged : o'.merged (read' o'.file) = o.merged (read o.file) := by
      refine Config.ext_get fun s => ?_
      rw [Options.merged, Options.merged, Config.get_ofValues, Config.get_ofValues,
        Options.highest, Options.highest, hraws]
      cases hover : overrideLayer o.overrides s with
      | some v => rfl
      | none =>
          obtain ⟨hflag, hrest⟩ := hsame s hover
          rw [hflag]
          cases hnone : o.flagLayer s with
          | some v => rfl
          | none => rw [hrest hnone]
    rw [Options.effective_eq hfile hset, Options.effective_eq hfile' (hraws ▸ hset), hmerged]

/-- The address of the file is none of the web and its interval is too short,
but neither is in effect. -/
example :
    let o : Options :=
      { backend := some "http://h/"
        overrides := ["refresh.interval_ms=250", "refresh.interval_ms = 500"] }
    (o.effective (.text "[backend]\nbase_url = 'ftp://x'\n[refresh]\ninterval_ms = 7\n")).toOption =
      some { backend := { baseUrl := "http://h" }, refresh := { interval := 500 } } := by
  decide +kernel

end CommandLine

end Dashboard
