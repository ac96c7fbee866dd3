import Dashboard.Text.Natural
import Dashboard.Text.Pieces

/-!
# Options of the command line

An option is given by its long name or by a letter, some with a value that
follows as the next argument or is attached. An option may be given once;
only overrides may be repeated. Options that are absent take the value of
their environment variable.

A value that follows as an argument of its own is looked at when the next
known option begins or when the arguments are at their end. An argument that
is no option is reported at once, and therefore before such a value.
-/

namespace Dashboard.CommandLine

/-- What can be given on the command line. -/
inductive Flag where
  | config
  | backend
  | interval
  | timeout
  | logLevel
  | logFile
  | once
  | dumpConfig
  | set
  | help
  | version
deriving DecidableEq, Repr

namespace Flag

/-- All flags in their order. -/
def all : List Flag :=
  [config, backend, interval, timeout, logLevel, logFile, once, dumpConfig, set, help, version]

/-- The long name of a flag. -/
def long : Flag → String
  | config => "config"
  | backend => "backend"
  | interval => "interval"
  | timeout => "timeout"
  | logLevel => "log-level"
  | logFile => "log-file"
  | once => "once"
  | dumpConfig => "dump-config"
  | set => "set"
  | help => "help"
  | version => "version"

/-- The letter of a flag. -/
def letter? : Flag → Option Char
  | config => some 'c'
  | backend => some 'b'
  | interval => some 'i'
  | logLevel => some 'l'
  | help => some 'h'
  | version => some 'V'
  | _ => none

/-- What the value of a flag is called. -/
def valueName? : Flag → Option String
  | config => some "FILE"
  | backend => some "URL"
  | interval => some "MS"
  | timeout => some "MS"
  | logLevel => some "LEVEL"
  | logFile => some "PATH"
  | set => some "KEY=VALUE"
  | _ => none

/-- The environment variable that stands in for a flag. -/
def envName? : Flag → Option String
  | config => some "KUBE_PFS_DASHBOARD_CONFIG"
  | backend => some "KUBE_PFS_BACKEND_URL"
  | interval => some "KUBE_PFS_REFRESH_MS"
  | timeout => some "KUBE_PFS_TIMEOUT_MS"
  | logLevel => some "KUBE_PFS_LOG_LEVEL"
  | logFile => some "KUBE_PFS_LOG_FILE"
  | _ => none

/-- Whether a flag has a value. -/
def takesValue (f : Flag) : Bool := f.valueName?.isSome

/-- A flag with its value as messages name it. -/
def usage (f : Flag) : String :=
  "--" ++ f.long ++ (f.valueName?.map fun v => " <" ++ v ++ ">").getD ""

/-- The flag of a long name. -/
def ofLong? (name : String) : Option Flag := all.find? fun f => f.long == name

/-- The flag of a letter. -/
def ofLetter? (c : Char) : Option Flag := all.find? fun f => f.letter? == some c

end Flag

/-- What was given on the command line or by the environment. -/
structure Options where
  config : Option String := none
  backend : Option String := none
  interval : Option UInt64 := none
  timeout : Option UInt64 := none
  logLevel : Option String := none
  logFile : Option String := none
  once : Bool := false
  dumpConfig : Bool := false
  /-- The overrides in their order. -/
  overrides : List String := []
deriving DecidableEq, Repr

/-- Why a command line cannot be used. -/
inductive UsageError where
  | unexpectedArgument (argument : String)
  | unexpectedValue (flag : Flag) (value : String)
  | missingValue (flag : Flag)
  | repeated (flag : Flag)
  | invalidNumber (flag : Flag) (value : String) (reason : Text.NaturalError)
deriving DecidableEq, Repr

/-- The wording of an error. -/
def UsageError.message : UsageError → String
  | unexpectedArgument a => "unexpected argument '" ++ a ++ "' found"
  | unexpectedValue f v =>
    "unexpected value '" ++ v ++ "' for '" ++ f.usage ++ "' found; no more were expected"
  | missingValue f => "a value is required for '" ++ f.usage ++ "' but none was supplied"
  | repeated f => "the argument '" ++ f.usage ++ "' cannot be used multiple times"
  | invalidNumber f v reason =>
    "invalid value '" ++ v ++ "' for '" ++ f.usage ++ "': " ++ reason.message

/-- Why the arguments are not read to their end. -/
inductive Stop where
  | help
  | version
  | misuse (e : UsageError)
deriving DecidableEq, Repr

namespace Options

/-- Whether a flag is given and may not be given again. -/
def isGiven (o : Options) : Flag → Bool
  | .config => o.config.isSome
  | .backend => o.backend.isSome
  | .interval => o.interval.isSome
  | .timeout => o.timeout.isSome
  | .logLevel => o.logLevel.isSome
  | .logFile => o.logFile.isSome
  | .once => o.once
  | .dumpConfig => o.dumpConfig
  | .set | .help | .version => false

/-- The number that a flag is given. -/
def numberFor (f : Flag) (value : String) : Except Stop UInt64 :=
  match Text.readNatural value.toList with
  | .ok n => .ok n
  | .error reason => .error (.misuse (.invalidNumber f value reason))

/-- The path that a flag is given; nothing is no path. -/
def pathFor (f : Flag) (value : String) : Except Stop String :=
  if value.isEmpty then .error (.misuse (.missingValue f)) else .ok value

/-- Gives a flag its value; one without a value ignores it. -/
def assign (o : Options) (f : Flag) (value : String) : Except Stop Options := do
  match f with
  | .config => return { o with config := ← pathFor f value }
  | .backend => return { o with backend := value }
  | .interval => return { o with interval := ← numberFor f value }
  | .timeout => return { o with timeout := ← numberFor f value }
  | .logLevel => return { o with logLevel := value }
  | .logFile => return { o with logFile := ← pathFor f value }
  | .once => return { o with once := true }
  | .dumpConfig => return { o with dumpConfig := true }
  | .set => return { o with overrides := o.overrides ++ [value] }
  | .help => throw .help
  | .version => throw .version

/-- Gives a flag its value for the first time. -/
def give (o : Options) (f : Flag) (value : String) : Except Stop Options :=
  if o.isGiven f then .error (.misuse (.repeated f)) else o.assign f value

end Options

/-! ## Arguments -/

/-- What an argument looks like. -/
inductive Argument where
  /-- Two dashes: no option follows. -/
  | terminator
  | long (name : String) (value : Option String)
  | letters (cs : List Char)
  | plain

/-- The look of an argument. -/
def Argument.ofText (s : String) : Argument :=
  match s.toList with
  | ['-', '-'] => terminator
  | '-' :: '-' :: r =>
    let (name, value) := Text.cutAt (· == '=') r
    long (String.ofList name) (value.map String.ofList)
  | '-' :: c :: r => letters (c :: r)
  | _ => plain

/-- Where reading stands. -/
structure Reader where
  options : Options
  /-- A flag that was given without an attached value, and the argument after
  it if it has come. -/
  waiting : Option (Flag × Option String)

namespace Reader

/-- Looks at the value that was waited for. -/
def settle (r : Reader) : Except Stop Options :=
  match r.waiting with
  | none => .ok r.options
  | some (f, some value) => r.options.give f value
  | some (f, none) => .error (.misuse (.missingValue f))

/-- Reads a flag with the value attached to it. -/
def attached (r : Reader) (f : Flag) (value : String) : Except Stop Reader := do
  return ⟨← (← r.settle).give f value, none⟩

/-- Reads a flag without an attached value. -/
def alone (r : Reader) (f : Flag) : Except Stop Reader := do
  let o ← r.settle
  if f.takesValue then return ⟨o, some (f, none)⟩ else return ⟨← o.give f "", none⟩

/-- Reads a flag given by its long name. -/
def long (r : Reader) (name : String) (value : Option String) : Except Stop Reader :=
  match Flag.ofLong? name, value with
  | none, _ => .error (.misuse (.unexpectedArgument ("--" ++ name)))
  | some f, none => r.alone f
  | some f, some v =>
    if f.takesValue then r.attached f v else .error (.misuse (.unexpectedValue f v))

/-- Reads flags given by their letters; what follows one with a value is the
value. -/
def letters (r : Reader) : List Char → Except Stop Reader
  | [] => .ok r
  | c :: rest =>
    match Flag.ofLetter? c with
    | none => .error (.misuse (.unexpectedArgument (String.ofList ['-', c])))
    | some f =>
      if f.takesValue && ! rest.isEmpty then
        r.attached f (String.ofList (if rest.head? = some '=' then rest.drop 1 else rest))
      else do (← r.alone f).letters rest

/-- Reads arguments to their end. -/
def arguments (r : Reader) : List String → Except Stop Options
  | [] => r.settle
  | a :: rest =>
    match Argument.ofText a with
    | .terminator =>
      match rest with
      | [] => r.settle
      | b :: _ => .error (.misuse (.unexpectedArgument b))
    | .long name value => do (← r.long name value).arguments rest
    | .letters cs => do (← r.letters cs).arguments rest
    | .plain =>
      match r.waiting with
      | some (f, none) => arguments ⟨r.options, some (f, some a)⟩ rest
      | _ => .error (.misuse (.unexpectedArgument a))

end Reader

/-! ## The environment -/

/-- Takes the value of a flag from its environment variable, where the flag
is absent and the variable is there. -/
def Options.fill (env : String → Option String) (o : Options) (f : Flag) :
    Except Stop Options :=
  match f.envName?.bind env with
  | some value => if o.isGiven f then .ok o else o.assign f value
  | none => .ok o

/-- The options of a command line in an environment. -/
def Options.read (arguments : List String) (env : String → Option String) :
    Except Stop Options := do
  Flag.all.foldlM (Options.fill env) (← Reader.arguments ⟨{}, none⟩ arguments)

end Dashboard.CommandLine
