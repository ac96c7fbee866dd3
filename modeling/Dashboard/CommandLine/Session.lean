import Dashboard.CommandLine.Journal
import Dashboard.Fetch.Cycle

/-!
# What a session notes

A session notes when it starts, what it asks, what failed and when it ends.
Every request that is started is noted before anything that comes of it; the
failures of a batch are noted when the batch has ended, in the order of the
requests.
-/

namespace Dashboard.CommandLine

open Fetch

/-- The entry of a request. -/
def requestEntry : Entry :=
  { level := .debug, origin := .backend, message := "GET", values := ["url"] }

/-- The entry of a source that failed. Sources are often out of reach;
anything else is a fault of the program's own surroundings. -/
def failureEntry (f : Failure) : Entry where
  level := if f.isFetch then .warn else .error
  origin := .poller
  message := "Source failed: " ++ f.message

/-- The failure that an outcome is. -/
def failure? : Outcome → Option Failure
  | .failed f => some f
  | _ => none

/-- The entry that opens a session. -/
def openingEntry : Entry where
  level := .info
  origin := .program
  message := "Starting dashboard"
  values := ["config", "backend"]

/-- The entry of the request for the backend's settings when it failed. -/
def noSettingsEntry (config : Config) (f : Failure) : Entry where
  level := .warn
  origin := .poller
  message :=
    "Failed to load demo config, using " ++ config.links.storeFallback ++ ": " ++ f.message

/-- The entry that a session is ready for its cycles. -/
def readyEntry : Entry where
  level := .info
  origin := .poller
  message := "Dashboard context ready"
  values := ["backend", "prometheus"]

/-- The entries of the request for the backend's settings. -/
def settingsEntries (config : Config) : Except Failure Json → List Entry
  | .ok _ => [requestEntry, readyEntry]
  | .error f => [requestEntry, noSettingsEntry config f, readyEntry]

/-- The failures of the primary sources that are noted. -/
def primaryFailures (policy : BatchPolicy) (answers : Answers) : List Failure :=
  match policy with
  | .isolated => Endpoint.primary.filterMap fun e => failure? (answers e).outcome
  | .allOrNothing => ((settle .together answers Endpoint.primary).stop.bind failure?).toList

/-- The entry of the gauges' outcome. -/
def gaugesEntry (outcome : Option Outcome) : Entry :=
  match outcome.bind failure? with
  | some f =>
    { level := .warn
      origin := .metrics
      message := "Prometheus query batch failed: " ++ f.message }
  | none =>
    { level := .debug, origin := .metrics, message := "prometheus samples", values := ["samples"] }

/-- The entry that opens a cycle. -/
def cycleEntry : Entry where
  level := .debug
  origin := .poller
  message := "Refresh cycle started"
  values := ["cycle"]

/-- The entries of a cycle. -/
def cycleEntries (policy : BatchPolicy) (answers : Answers) : List Entry :=
  let primary := settle (batchKind policy) answers Endpoint.primary
  let gauges := settle .together answers Endpoint.gauges
  cycleEntry ::
    primary.started.map (fun _ => requestEntry) ++
    (primaryFailures policy answers).map failureEntry ++
    gauges.started.map (fun _ => requestEntry) ++ [gaugesEntry gauges.stop]

/-- The entries that close a session on the screen. -/
def closingEntries : List Entry :=
  [{ level := .info, origin := .poller, message := "Poller shutting down" },
    { level := .info, origin := .program, message := "Dashboard stopped" }]

end Dashboard.CommandLine
