import Dashboard.Panel.Field
import Dashboard.Panel.Line

/-!
# The fault timeline

The history of injected faults comes oldest first and is kept that way; the
panel shows it newest first, two or three lines for each event.
-/

namespace Dashboard

/-- How an event's status is to be taken. -/
inductive Severity where
  | ok
  | warn
  | error
  | other
deriving DecidableEq, Repr

namespace Severity

/-- The severity of a status, whatever the case of its ASCII letters. -/
def ofStatus (status : String) : Severity :=
  let s := Text.lowerAscii status
  if s ∈ ["ok", "success", "done"] then ok
  else if s ∈ ["warn", "warning", "pending"] then warn
  else if s ∈ ["error", "failed", "fail"] then error
  else other

/-- The tone in which an event of this severity is shown. -/
def tone : Severity → Tone
  | ok => .good
  | warn => .warn
  | error => .bad
  | other => .plain

end Severity

/-- One entry of the history. -/
structure FaultEvent where
  action : String
  timestamp : String
  status : String
  detail : Option String
deriving DecidableEq

namespace FaultEvent

/-- How the event's status is to be taken. -/
def severity (e : FaultEvent) : Severity := Severity.ofStatus e.status

/-- The event of an object in the payload. -/
def ofMembers (members : Json.Members) : FaultEvent where
  action := Json.textField "action" members
  timestamp := Json.textField "timestamp" members
  status := Json.textField "status" members
  detail := Json.spokenField? "detail" members

/-- The lines of one event. -/
def lines (e : FaultEvent) : List Line :=
  ⟨e.action ++ " [" ++ e.status ++ "]", e.severity.tone⟩ ::
    Line.muted ("  " ++ e.timestamp) ::
    match e.detail with
    | some detail => [Line.muted ("  " ++ detail)]
    | none => []

end FaultEvent

/-- The history, oldest event first. -/
structure Timeline where
  events : List FaultEvent
deriving DecidableEq

namespace Timeline

/-- The events, newest first. -/
def newestFirst (t : Timeline) : List FaultEvent := t.events.reverse

/-- The history of a payload: the objects among its events, in their order. -/
def ofJson (payload : Json) : Timeline where
  events :=
    match (payload.get? "events").bind Json.items? with
    | some items => items.filterMap fun item => item.members?.map FaultEvent.ofMembers
    | none => []

/-- Shown where there are no events. -/
def emptyText : String := "No fault events recorded yet."

/-- The lines of the panel. -/
def lines (t : Timeline) : List Line :=
  if t.events.isEmpty then [Line.muted emptyText] else t.newestFirst.flatMap FaultEvent.lines

end Timeline

end Dashboard
