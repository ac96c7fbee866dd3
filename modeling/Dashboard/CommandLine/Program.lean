import Dashboard.CommandLine.Files
import Dashboard.CommandLine.Filter
import Dashboard.CommandLine.Help
import Dashboard.CommandLine.Session
import Dashboard.Config.Document
import Dashboard.Config.Override
import Dashboard.Config.Validate
import Dashboard.Fetch.Http
import Dashboard.Report
import Dashboard.Text.Quotation

/-!
# The program

The program reads its options and its settings, and then shows the settings,
prints one report, or takes over the terminal. Settings come in layers: the
defaults, a file, the options, and the overrides, each over those before.

What the program needs of its surroundings are four things: to read a file,
to append to one, to visit addresses and to know the time. It is a function
of these in whatever way they are provided.
-/

namespace Dashboard.CommandLine

open Fetch

/-! ## Settings -/

/-- The file with settings that is read unless another one is named. -/
def defaultFile : String := "kube-pfs-dashboard.toml"

/-- The file to read the settings from. -/
def Options.file (o : Options) : String := o.config.getD defaultFile

/-- The settings of a file; only a file that was named has to be there. -/
def Options.fileConfig (o : Options) (file : FileState) : Except ConfigError Config :=
  match file, o.config with
  | .absent, some path => .error (.noFile path)
  | .absent, none => .ok {}
  | .unreadable e, _ => .error (.unreadable (Text.quoted o.file) e.message)
  | .text s, _ => Config.parse s

/-- The settings with those that options name in place. -/
def Options.layer (o : Options) (c : Config) : Config :=
  { c with
    backend := {
      baseUrl := (o.backend.map Text.dropTrailingSlashes).getD c.backend.baseUrl
      requestTimeout := o.timeout.getD c.backend.requestTimeout }
    refresh := { c.refresh with interval := o.interval.getD c.refresh.interval }
    logging := { c.logging with
      level := o.logLevel.getD c.logging.level
      file := o.logFile.or c.logging.file } }

/-- The settings in effect. -/
def Options.effective (o : Options) (file : FileState) : Except ConfigError Config := do
  let c ← (o.layer (← o.fileConfig file)).overrideAll o.overrides
  c.validate
  return c

/-! ## Endings -/

/-- A log: the file it goes to, or else the error output, and its entries. -/
structure Log where
  file : Option String
  format : LogFormat
  entries : List Entry

/-- How the program ends. -/
structure Ending where
  code : UInt8
  output : String := ""
  errors : String := ""
  log : Option Log := none

/-- The ending with a message. -/
def Ending.failed (message : String) : Ending where
  code := 1
  errors := "Error: " ++ message ++ "\n"

/-- The ending where the arguments are not read to their end. -/
def Ending.stopped (env : String → Option String) : Stop → Ending
  | .help => { code := 0, output := helpText env }
  | .version => { code := 0, output := versionText }
  | .misuse e =>
    { code := 2, errors := "error: " ++ e.message ++ "\n\nFor more information, try '--help'.\n" }

/-- The ending that shows settings. -/
def Ending.dump (c : Config) : Ending :=
  match c.document with
  | .ok d => { code := 0, output := d }
  | .error e => failed (Failure.config e.message).message

/-! ## Logging -/

/-- The environment variable with a filter for the log. -/
def filterVariable : String := "RUST_LOG"

/-- The filter for the log, and the texts that are ignored in it with the
reasons. A filter of the environment that can be read comes before the level
of the settings. -/
def logFilter (c : Config) (env : String → Option String) :
    Filter × List (String × DirectiveError) :=
  match (env filterVariable).bind Filter.read? with
  | some f => (f, [])
  | none => (Filter.readSome c.logging.level, Filter.ignored c.logging.level)

/-- What is said about a text that is ignored in a filter. -/
def ignoringLine : String × DirectiveError → String
  | (word, e) => "ignoring \x60" ++ word ++ "\x60: " ++ e.message ++ "\n"

/-- The ending with a log of those entries that the filter keeps. On the
screen nothing is logged without a file. -/
def Ending.logged (e : Ending) (o : Options) (c : Config) (env : String → Option String)
    (entries : List Entry) : Ending :=
  if c.logging.file.isNone && ! o.once then e
  else
    let (filter, ignored) := logFilter c env
    { e with
      errors := String.join (ignored.map ignoringLine) ++ e.errors
      log := some ⟨c.logging.file, c.logging.format, entries.filter filter.keeps⟩ }

/-! ## Running -/

/-- What the program needs of its surroundings. -/
structure Surroundings (m : Type → Type) where
  /-- What is in a file. -/
  read : String → m FileState
  /-- Whether a file can be appended to. -/
  canAppend : String → m (Except SystemError Unit)
  /-- Visits addresses side by side, each for a number of milliseconds. -/
  visit : Nat → List Url → m (Url → Visit)
  /-- The seconds since the beginning of 1970. -/
  now : m Int

/-- The ending of a program that was taken down. -/
def Ending.crashed : Ending := { code := 101 }

/-- The ending after a report. -/
def Ending.report (ctx : Context) (backend : HttpBackend) (run : CycleRun) : Ending :=
  match run.snapshot with
  | none => .crashed
  | some s =>
    let report := Report.render s ctx.storeUrl ctx.grafanaUrl
    if s.allSourcesFailed then
      { failed ("every source failed; is the backend at " ++ backend.baseUrl ++ " running?") with
        output := report }
    else { code := 0, output := report }

/-- The ending without a terminal. -/
def Ending.noTerminal : Ending :=
  failed (Failure.system SystemError.noDevice.message).message

variable {m : Type → Type} [Monad m]

/-- What requests come back with. -/
def ask (s : Surroundings m) (b : HttpBackend) (requests : List Endpoint) : m Answers := do
  return b.answers (← s.visit b.timeout (b.targets requests))

/-- Runs one cycle and ends with its report. -/
def reportOnce (s : Surroundings m) (b : HttpBackend) (ctx : Context) :
    m (Ending × List Entry) := do
  let primary ← ask s b Endpoint.primary
  let gauges ← ask s b Endpoint.gauges
  let answers : Answers := fun e =>
    match e with
    | .gauge g => gauges (.gauge g)
    | e => primary e
  let run := runCycle ctx 1 (← s.now) answers
  return (Ending.report ctx b run, cycleEntries ctx.primaryBatch answers)

/-- Runs a session with settings that can be used. -/
def session (s : Surroundings m) (o : Options) (c : Config)
    (env : String → Option String) : m Ending := do
  let b := HttpBackend.ofUrl c.backend.baseUrl c.backend.requestTimeout.toNat
  match ((← ask s b [.settings]) .settings).outcome.result? with
  | none => return Ending.crashed.logged o c env [openingEntry, requestEntry]
  | some settings =>
    let ctx := Context.ofSettings c settings.toOption
    let entries := openingEntry :: settingsEntries c settings
    let (ending, more) ← if o.once then reportOnce s b ctx else pure (.noTerminal, closingEntries)
    return ending.logged o c env (entries ++ more)

/-- Opens the log, if there is a file for it, and runs a session. -/
def start (s : Surroundings m) (o : Options) (c : Config) (env : String → Option String) :
    m Ending := do
  let opened ←
    match c.logging.file with
    | some path => s.canAppend path
    | none => pure (.ok ())
  match opened with
  | .ok () => session s o c env
  | .error e =>
    return .failed ("failed to initialize logging: " ++ (Failure.system e.message).message)

/-- Runs the program. -/
def run (s : Surroundings m) (arguments : List String) (env : String → Option String) :
    m Ending := do
  match Options.read arguments env with
  | .error stop => return .stopped env stop
  | .ok o =>
    match o.effective (← s.read o.file) with
    | .error e => return .failed (Failure.config e.message).message
    | .ok c => if o.dumpConfig then return .dump c else start s o c env

end Dashboard.CommandLine
