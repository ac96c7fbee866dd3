import Dashboard.Config.Basic
import Dashboard.Text.Natural
import Dashboard.Toml.Document

/-!
# Settings as a document

Settings are read from a document with a table for each section. What the
document leaves out has its default, and what it holds beyond the settings
is ignored; a setting of the wrong kind makes the document unusable. A
section may also be a list of its settings in their order, and a choice by
name may also be a table whose only key is the name.

Written settings hold every section and every setting, the log file only
where there is one. A document holds integers below 2^63, so settings with a
larger number cannot be written.
-/

namespace Dashboard.Config

open Toml (Value Entries)

/-! ## Reading -/

/-- The text of a value. -/
def text? : Value → Option String
  | .text s => some s
  | _ => none

/-- The count of a value. -/
def natural? : Value → Option UInt64
  | .integer (.ofNat n) => some (UInt64.ofNat n)
  | _ => none

/-- Whether a value is a table or a list without content. -/
def isHollow : Value → Bool
  | .array items => items.isEmpty
  | .table _ es => es.isEmpty
  | .tables each => each.isEmpty
  | _ => false

/-- The choice of a value: its name, or a table with the name as its key. -/
def choice? {α : Type} (ofName? : String → Option α) : Value → Option α
  | .text s => ofName? s
  | .table _ [(name, v)] => if isHollow v then ofName? name else none
  | _ => none

/-- The settings of a section before they are read, by their names or by
their places. -/
inductive Fields where
  | named (entries : Entries)
  | listed (items : List Value)

/-- The settings that a section's value holds; a date holds none. -/
def Fields.ofValue? : Value → Option Fields
  | .table _ es => some (named es)
  | .moment _ => some (named [])
  | .array items => some (listed items)
  | .tables each => some (listed (each.map (.table .opened)))
  | _ => none

/-- The value of a setting, if it is present. -/
def Fields.find? (name : String) (place : Nat) : Fields → Option Value
  | named es => es.lookup name
  | listed items => items[place]?

/-- Reads a setting, which has its default where it is absent. -/
def Fields.read {α : Type} (f : Fields) (name : String) (place : Nat) (default : α)
    (ofValue? : Value → Option α) : Option α :=
  match f.find? name place with
  | none => some default
  | some v => ofValue? v

/-- Reads the settings for the backend. -/
def readBackend (f : Fields) : Option BackendConfig := do
  let default : BackendConfig := {}
  return {
    baseUrl := ← f.read "base_url" 0 default.baseUrl text?
    requestTimeout := ← f.read "request_timeout_ms" 1 default.requestTimeout natural? }

/-- Reads the settings for the refresh cycles. -/
def readRefresh (f : Fields) : Option RefreshConfig := do
  let default : RefreshConfig := {}
  return {
    interval := ← f.read "interval_ms" 0 default.interval natural?
    overlap := ← f.read "overlap" 1 default.overlap (choice? OverlapPolicy.ofName?)
    primaryBatch := ← f.read "primary_batch" 2 default.primaryBatch (choice? BatchPolicy.ofName?) }

/-- Reads the settings for the links. -/
def readLinks (f : Fields) : Option LinksConfig := do
  let default : LinksConfig := {}
  return {
    storeFallback := ← f.read "prometheus_fallback" 0 default.storeFallback text?
    grafanaUrl := ← f.read "grafana_url" 1 default.grafanaUrl text? }

/-- Reads the settings for the log. -/
def readLogging (f : Fields) : Option LoggingConfig := do
  let default : LoggingConfig := {}
  return {
    level := ← f.read "level" 0 default.level text?
    format := ← f.read "format" 1 default.format (choice? LogFormat.ofName?)
    file := ← f.read "file" 2 default.file fun v => (text? v).map some }

/-- Reads a section, which has its defaults where it is absent. -/
def readSection {α : Type} (es : Entries) (name : String) (default : α)
    (read : Fields → Option α) : Option α :=
  match es.lookup name with
  | none => some default
  | some v => (Fields.ofValue? v).bind read

/-- The settings of a document's table. -/
def ofEntries? (es : Entries) : Option Config := do
  return {
    backend := ← readSection es "backend" {} readBackend
    refresh := ← readSection es "refresh" {} readRefresh
    links := ← readSection es "links" {} readLinks
    logging := ← readSection es "logging" {} readLogging }

/-- The settings that a document holds. -/
def parse (document : String) : Except ConfigError Config :=
  match (Toml.read document.toList).bind ofEntries? with
  | some c => .ok c
  | none => .error .malformed

/-! ## Writing -/

/-- A line of a written document, without its end. -/
def lineOf (name : String) (value : List Char) : List Char :=
  name.toList ++ [' ', '=', ' '] ++ value

/-- The line of a text. -/
def textLine (name value : String) : List Char := lineOf name (Toml.Quoted.write value.toList)

/-- The line of a count. -/
def naturalLine (name : String) (value : UInt64) : List Char :=
  lineOf name (Text.decimal value.toNat)

/-- The lines of every section under its name. -/
def sections (c : Config) : List (String × List (List Char)) :=
  [("backend",
      [textLine "base_url" c.backend.baseUrl,
        naturalLine "request_timeout_ms" c.backend.requestTimeout]),
    ("refresh",
      [naturalLine "interval_ms" c.refresh.interval, textLine "overlap" c.refresh.overlap.name,
        textLine "primary_batch" c.refresh.primaryBatch.name]),
    ("links",
      [textLine "prometheus_fallback" c.links.storeFallback,
        textLine "grafana_url" c.links.grafanaUrl]),
    ("logging",
      [textLine "level" c.logging.level, textLine "format" c.logging.format.name] ++
        (c.logging.file.map (textLine "file")).toList)]

/-- A section: its header and its lines, each with its end. -/
def sectionText (name : String) (lines : List (List Char)) : List Char :=
  '[' :: name.toList ++ [']', '\n'] ++ lines.flatMap (· ++ ['\n'])

/-- Whether a number can stand in a document. -/
def isWritable (n : UInt64) : Bool := decide (n.toNat < Nat.pow 2 63)

/-- The settings as a document, an empty line between its sections. -/
def document (c : Config) : Except ConfigError String :=
  if isWritable c.backend.requestTimeout && isWritable c.refresh.interval then
    .ok (String.ofList
      (List.intercalate ['\n'] (c.sections.map fun (name, lines) => sectionText name lines)))
  else .error .unwritable

end Dashboard.Config
