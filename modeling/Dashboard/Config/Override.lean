import Dashboard.Config.Basic
import Dashboard.Text.Blank
import Dashboard.Text.Natural
import Dashboard.Text.Pieces

/-!
# Overrides

Nine settings have a dotted key and can be set one at a time. An override is
a text `key=value` with blanks allowed around both. It is applied whole or
refused, and what it does depends on nothing but its own text.
-/

namespace Dashboard

/-- The settings that have a key. -/
inductive ConfigKey where
  | backendBaseUrl
  | backendRequestTimeout
  | refreshInterval
  | refreshOverlap
  | refreshPrimaryBatch
  | linksStoreFallback
  | linksGrafanaUrl
  | loggingLevel
  | loggingFormat
deriving DecidableEq, Repr

namespace ConfigKey

/-- All keys in their order. -/
def all : List ConfigKey :=
  [backendBaseUrl, backendRequestTimeout, refreshInterval, refreshOverlap, refreshPrimaryBatch,
    linksStoreFallback, linksGrafanaUrl, loggingLevel, loggingFormat]

/-- The section of a key and its name within the section. -/
def path : ConfigKey → String × String
  | backendBaseUrl => ("backend", "base_url")
  | backendRequestTimeout => ("backend", "request_timeout_ms")
  | refreshInterval => ("refresh", "interval_ms")
  | refreshOverlap => ("refresh", "overlap")
  | refreshPrimaryBatch => ("refresh", "primary_batch")
  | linksStoreFallback => ("links", "prometheus_fallback")
  | linksGrafanaUrl => ("links", "grafana_url")
  | loggingLevel => ("logging", "level")
  | loggingFormat => ("logging", "format")

/-- The dotted form of a key. -/
def dotted (k : ConfigKey) : String := k.path.1 ++ "." ++ k.path.2

/-- The key of a dotted form. -/
def ofDotted? (s : String) : Option ConfigKey := all.find? fun k => k.dotted == s

theorem mem_all (k : ConfigKey) : k ∈ all := by cases k <;> decide

end ConfigKey

namespace Config

/-- The number that an override gives. -/
def naturalFor (key : ConfigKey) (value : String) : Except ConfigError UInt64 :=
  match Text.readNatural value.toList with
  | .ok n => .ok n
  | .error _ => .error (.invalidNumber key.dotted value)

/-- The format that an override gives; it may also be called `text`. -/
def formatFor? (value : String) : Option LogFormat :=
  if value == "text" then some .pretty else LogFormat.ofName? value

/-- Sets one setting. -/
def set (c : Config) (key : ConfigKey) (value : String) : Except ConfigError Config :=
  match key with
  | .backendBaseUrl =>
    .ok { c with backend := { c.backend with baseUrl := Text.dropTrailingSlashes value } }
  | .backendRequestTimeout =>
    (naturalFor key value).map fun n =>
      { c with backend := { c.backend with requestTimeout := n } }
  | .refreshInterval =>
    (naturalFor key value).map fun n => { c with refresh := { c.refresh with interval := n } }
  | .refreshOverlap =>
    match OverlapPolicy.ofName? value with
    | some p => .ok { c with refresh := { c.refresh with overlap := p } }
    | none => .error (.invalidOverlap value)
  | .refreshPrimaryBatch =>
    match BatchPolicy.ofName? value with
    | some p => .ok { c with refresh := { c.refresh with primaryBatch := p } }
    | none => .error (.invalidBatch value)
  | .linksStoreFallback =>
    .ok { c with links := { c.links with storeFallback := Text.dropTrailingSlashes value } }
  | .linksGrafanaUrl => .ok { c with links := { c.links with grafanaUrl := value } }
  | .loggingLevel => .ok { c with logging := { c.logging with level := value } }
  | .loggingFormat =>
    match formatFor? value with
    | some f => .ok { c with logging := { c.logging with format := f } }
    | none => .error (.invalidFormat value)

/-- Applies an override. -/
def override (c : Config) (raw : String) : Except ConfigError Config :=
  match Text.cutAt (· == '=') raw.toList with
  | (_, none) => .error (.notAnAssignment raw)
  | (name, some value) =>
    match ConfigKey.ofDotted? (Text.trim (String.ofList name)) with
    | none => .error (.unknownKey (String.ofList name))
    | some key => c.set key (Text.trim (String.ofList value))

/-- Applies overrides one after the other. -/
def overrideAll (c : Config) (raws : List String) : Except ConfigError Config :=
  raws.foldlM override c

end Config

end Dashboard
