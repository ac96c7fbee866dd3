import Dashboard.Config.Override

/-!
# Settings one by one

Settings are ten values, and for what is said of each of them alone the
sections do not matter. `Config.get` reads one setting and `Config.put`
replaces one; between them they say that settings do not touch each other
(`get_put`), and settings with the same ten values are the same
(`Config.ext_get`).

An override then is an assignment: one of nine settings with a value for it,
read off the text of the override and of nothing else. `override_eq` says
that applying an override is reading its assignment and putting it in place,
so whether an override is refused is a matter of its text alone, and what it
does to a setting is `get_apply`.
-/

namespace Dashboard

/-- The ten settings. -/
inductive Setting where
  | baseUrl
  | requestTimeout
  | interval
  | overlap
  | primaryBatch
  | storeFallback
  | grafanaUrl
  | logLevel
  | logFormat
  | logFile
deriving DecidableEq, Repr

/-- What a setting can be set to. The log has no file unless one is named. -/
abbrev Setting.Value : Setting → Type
  | baseUrl | storeFallback | grafanaUrl | logLevel => String
  | requestTimeout | interval => UInt64
  | overlap => OverlapPolicy
  | primaryBatch => BatchPolicy
  | logFormat => LogFormat
  | logFile => Option String

namespace Config

/-- The value of a setting. -/
def get (c : Config) : (s : Setting) → s.Value
  | .baseUrl => c.backend.baseUrl
  | .requestTimeout => c.backend.requestTimeout
  | .interval => c.refresh.interval
  | .overlap => c.refresh.overlap
  | .primaryBatch => c.refresh.primaryBatch
  | .storeFallback => c.links.storeFallback
  | .grafanaUrl => c.links.grafanaUrl
  | .logLevel => c.logging.level
  | .logFormat => c.logging.format
  | .logFile => c.logging.file

/-- Settings from the values of all ten. -/
def ofValues (f : (s : Setting) → s.Value) : Config where
  backend := ⟨f .baseUrl, f .requestTimeout⟩
  refresh := ⟨f .interval, f .overlap, f .primaryBatch⟩
  links := ⟨f .storeFallback, f .grafanaUrl⟩
  logging := ⟨f .logLevel, f .logFormat, f .logFile⟩

@[simp] theorem get_ofValues (f : (s : Setting) → s.Value) (s : Setting) :
    (ofValues f).get s = f s := by
  cases s <;> rfl

theorem ofValues_get (c : Config) : ofValues c.get = c := rfl

theorem ext_get {c d : Config} (h : ∀ s, c.get s = d.get s) : c = d := by
  rw [← ofValues_get c, ← ofValues_get d, funext h]

/-- Replaces the value of one setting. -/
def put (c : Config) (s : Setting) (v : s.Value) : Config :=
  ofValues fun t => if h : s = t then h ▸ v else c.get t

theorem get_put (c : Config) (s : Setting) (v : s.Value) (t : Setting) :
    (c.put s v).get t = if h : s = t then h ▸ v else c.get t :=
  get_ofValues _ t

/-- Settings whose addresses have no slash at their end. -/
def withoutSlashes (c : Config) : Config where
  backend := { c.backend with baseUrl := Text.dropTrailingSlashes c.backend.baseUrl }
  refresh := c.refresh
  links :=
    { storeFallback := Text.dropTrailingSlashes c.links.storeFallback
      grafanaUrl := Text.dropTrailingSlashes c.links.grafanaUrl }
  logging := c.logging

end Config

/-! ## Assignments -/

/-- The setting of a key. -/
def ConfigKey.setting : ConfigKey → Setting
  | backendBaseUrl => .baseUrl
  | backendRequestTimeout => .requestTimeout
  | refreshInterval => .interval
  | refreshOverlap => .overlap
  | refreshPrimaryBatch => .primaryBatch
  | linksStoreFallback => .storeFallback
  | linksGrafanaUrl => .grafanaUrl
  | loggingLevel => .logLevel
  | loggingFormat => .logFormat

/-- The value that a text gives to the setting of a key. -/
def ConfigKey.read (k : ConfigKey) (text : String) : Except ConfigError k.setting.Value :=
  match k with
  | backendBaseUrl | linksStoreFallback => .ok (Text.dropTrailingSlashes text)
  | linksGrafanaUrl | loggingLevel => .ok text
  | backendRequestTimeout => Config.naturalFor backendRequestTimeout text
  | refreshInterval => Config.naturalFor refreshInterval text
  | refreshOverlap =>
    match OverlapPolicy.ofName? text with
    | some p => .ok p
    | none => .error (.invalidOverlap text)
  | refreshPrimaryBatch =>
    match BatchPolicy.ofName? text with
    | some p => .ok p
    | none => .error (.invalidBatch text)
  | loggingFormat =>
    match Config.formatFor? text with
    | some f => .ok f
    | none => .error (.invalidFormat text)

/-- A setting with a value for it. -/
structure Assignment where
  setting : Setting
  value : setting.Value

namespace Assignment

/-- The assignment of a text `key=value`, with blanks allowed around both. -/
def ofText (raw : String) : Except ConfigError Assignment :=
  match Text.cutAt (· == '=') raw.toList with
  | (_, none) => .error (.notAnAssignment raw)
  | (name, some value) =>
    match ConfigKey.ofDotted? (Text.trim (String.ofList name)) with
    | none => .error (.unknownKey (String.ofList name))
    | some key => (key.read (Text.trim (String.ofList value))).map fun v => ⟨key.setting, v⟩

/-- The value for a setting, if the assignment is for that one. -/
def for? (a : Assignment) (s : Setting) : Option s.Value :=
  if h : a.setting = s then some (h ▸ a.value) else none

end Assignment

namespace Config

/-- Settings with an assignment in place. -/
def apply (c : Config) (a : Assignment) : Config := c.put a.setting a.value

theorem get_apply (c : Config) (a : Assignment) (s : Setting) :
    (c.apply a).get s = (a.for? s).getD (c.get s) := by
  rw [apply, get_put, Assignment.for?]
  split <;> rfl

theorem set_eq (c : Config) (k : ConfigKey) (text : String) :
    c.set k text = (k.read text).map (c.put k.setting) := by
  cases k with
  | backendBaseUrl | linksStoreFallback | linksGrafanaUrl | loggingLevel => rfl
  | backendRequestTimeout | refreshInterval => rfl
  | refreshOverlap =>
      simp only [set, ConfigKey.read]
      cases OverlapPolicy.ofName? text <;> rfl
  | refreshPrimaryBatch =>
      simp only [set, ConfigKey.read]
      cases BatchPolicy.ofName? text <;> rfl
  | loggingFormat =>
      simp only [set, ConfigKey.read]
      cases formatFor? text <;> rfl

/-- An override does what its assignment says, whatever the settings are. -/
theorem override_eq (c : Config) (raw : String) :
    c.override raw = (Assignment.ofText raw).map c.apply := by
  unfold override Assignment.ofText
  obtain ⟨name, value⟩ := Text.cutAt (· == '=') raw.toList
  cases value with
  | none => rfl
  | some value =>
      dsimp only
      cases ConfigKey.ofDotted? (Text.trim (String.ofList name)) with
      | none => rfl
      | some key =>
          dsimp only
          rw [set_eq]
          cases key.read (Text.trim (String.ofList value)) <;> rfl

end Config

end Dashboard
