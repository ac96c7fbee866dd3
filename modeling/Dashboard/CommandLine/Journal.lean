import Dashboard.Config.Basic
import Dashboard.Json.Compact

/-!
# The journal

What happens in a session is noted as entries, each with a level and the
part of the program it is about. An entry has a message, and some have named
values beside it; which of them are kept can depend on these names.
-/

namespace Dashboard.CommandLine

/-- How much an entry matters. -/
inductive Level where
  | error
  | warn
  | info
  | debug
  | trace
deriving DecidableEq, Repr

namespace Level

/-- All levels from the one that matters most. -/
def all : List Level := [error, warn, info, debug, trace]

/-- The name of a level. -/
def name : Level → String
  | error => "ERROR"
  | warn => "WARN"
  | info => "INFO"
  | debug => "DEBUG"
  | trace => "TRACE"

/-- The place of a level, from one on. -/
def place : Level → Nat
  | error => 1
  | warn => 2
  | info => 3
  | debug => 4
  | trace => 5

end Level

/-- The parts of the program that make entries. -/
inductive Origin where
  | program
  | backend
  | poller
  | metrics
deriving DecidableEq, Repr

/-- The name of a part. -/
def Origin.name : Origin → String
  | program => "kube_pfs_dashboard"
  | backend => "kube_pfs_dashboard::backend"
  | poller => "kube_pfs_dashboard::poller"
  | metrics => "kube_pfs_dashboard::prometheus"

/-- An entry. -/
structure Entry where
  level : Level
  origin : Origin
  message : String
  /-- The names of the values beside the message. -/
  values : List String := []
deriving DecidableEq, Repr

/-- The name under which an entry has its message. -/
def messageField : String := "message"

/-- The names of everything that an entry has. -/
def Entry.fields (e : Entry) : List String := messageField :: e.values

/-- The line of an entry. -/
def Entry.line (e : Entry) : LogFormat → String
  | .pretty => "  " ++ e.level.name ++ " " ++ e.origin.name ++ ": " ++ e.message ++ "\n"
  | .json =>
    let member (key value : String) := Json.memberText key (Json.stringText value)
    let fields := '\x7b' :: member messageField e.message ++ ['\x7d']
    String.ofList ('\x7b' :: Json.commaText
      [member "level" e.level.name, Json.memberText "fields" fields,
        member "target" e.origin.name] ++ ['\x7d', '\n'])

end Dashboard.CommandLine
