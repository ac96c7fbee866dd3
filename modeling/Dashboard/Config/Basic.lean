/-!
# Settings

The settings of the dashboard in four sections: the backend it asks, how it
refreshes, the links it shows and how it logs. Every setting has a default.
-/

namespace Dashboard

/-- What happens to a cycle that is unfinished when the next one starts. -/
inductive OverlapPolicy where
  /-- The next cycle ends it. -/
  | cancelPrevious
  /-- Both go on; what an older cycle finds never replaces what a newer one
  found. -/
  | concurrent
deriving DecidableEq, Repr

/-- How failures of the primary sources affect each other. -/
inductive BatchPolicy where
  /-- Each source fails on its own. -/
  | isolated
  /-- One that fails makes all of them fail. -/
  | allOrNothing
deriving DecidableEq, Repr

/-- The form of the log. -/
inductive LogFormat where
  | pretty
  | json
deriving DecidableEq, Repr

/-- Settings for the backend. -/
structure BackendConfig where
  baseUrl : String := "http://127.0.0.1:8088"
  /-- How long a request may take, in milliseconds. -/
  requestTimeout : UInt64 := 5000
deriving DecidableEq, Repr

/-- Settings for the refresh cycles. -/
structure RefreshConfig where
  /-- The time from one cycle to the next, in milliseconds. -/
  interval : UInt64 := 6000
  overlap : OverlapPolicy := .cancelPrevious
  primaryBatch : BatchPolicy := .isolated
deriving DecidableEq, Repr

/-- Settings for the links. -/
structure LinksConfig where
  /-- Where the metrics store is unless the backend announces it. -/
  storeFallback : String := "http://127.0.0.1:9090"
  grafanaUrl : String := "http://127.0.0.1:3000"
deriving DecidableEq, Repr

/-- Settings for the log. -/
structure LoggingConfig where
  level : String := "info"
  format : LogFormat := .pretty
  /-- The file that the log goes to, if any. -/
  file : Option String := none
deriving DecidableEq, Repr

/-- All settings. -/
structure Config where
  backend : BackendConfig := {}
  refresh : RefreshConfig := {}
  links : LinksConfig := {}
  logging : LoggingConfig := {}
deriving DecidableEq, Repr

/-- The name of a policy in settings. -/
def OverlapPolicy.name : OverlapPolicy → String
  | cancelPrevious => "cancel-previous"
  | concurrent => "concurrent"

/-- The policy of a name. -/
def OverlapPolicy.ofName? (name : String) : Option OverlapPolicy :=
  [cancelPrevious, concurrent].find? fun p => p.name == name

/-- The name of a policy in settings. -/
def BatchPolicy.name : BatchPolicy → String
  | isolated => "isolated"
  | allOrNothing => "all-or-nothing"

/-- The policy of a name. -/
def BatchPolicy.ofName? (name : String) : Option BatchPolicy :=
  [isolated, allOrNothing].find? fun p => p.name == name

/-- The name of a format in settings. -/
def LogFormat.name : LogFormat → String
  | pretty => "pretty"
  | json => "json"

/-- The format of a name. -/
def LogFormat.ofName? (name : String) : Option LogFormat :=
  [pretty, json].find? fun f => f.name == name

/-- Why settings cannot be read, changed or used. -/
inductive ConfigError where
  /-- There is no file where one was asked for. -/
  | noFile (path : String)
  /-- The file is there and cannot be read. -/
  | unreadable (path reason : String)
  /-- The document is no settings document. -/
  | malformed
  /-- A number is too large for a settings document. -/
  | unwritable
  /-- An override has no equals sign. -/
  | notAnAssignment (raw : String)
  | unknownKey (key : String)
  | invalidNumber (key value : String)
  | invalidOverlap (value : String)
  | invalidBatch (value : String)
  | invalidFormat (value : String)
  /-- An address is none of the web. -/
  | notWebUrl (key url : String)
  | noTimeout
  | shortInterval
deriving DecidableEq, Repr

/-- The shortest interval between two cycles, in milliseconds. -/
def Config.leastInterval : UInt64 := 100

/-- The wording of an error. -/
def ConfigError.message : ConfigError → String
  | noFile path => "Config file not found: " ++ path
  | unreadable path reason => "Failed to read config file " ++ path ++ ": " ++ reason
  | malformed => "Failed to parse config"
  | unwritable => "Failed to serialize config: out-of-range value for u64 type"
  | notAnAssignment raw => "Invalid config override '" ++ raw ++ "': expected key=value format"
  | unknownKey key => "Unknown config key: " ++ key
  | invalidNumber key value => "Invalid " ++ key ++ " value: " ++ value
  | invalidOverlap value =>
    "Invalid refresh.overlap: " ++ value ++ ". Expected: cancel-previous, concurrent"
  | invalidBatch value =>
    "Invalid refresh.primary_batch: " ++ value ++ ". Expected: isolated, all-or-nothing"
  | invalidFormat value => "Invalid logging format: " ++ value ++ ". Expected: json, pretty"
  | notWebUrl key url => key ++ " must be an http(s) URL, got '" ++ url ++ "'"
  | noTimeout => "Request timeout cannot be 0"
  | shortInterval =>
    "Refresh interval must be at least " ++ toString Config.leastInterval.toNat ++ "ms"

end Dashboard
