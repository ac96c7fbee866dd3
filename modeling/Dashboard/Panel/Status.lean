import Dashboard.Panel.Field
import Dashboard.Panel.Line

/-!
# The cluster panel

The status payload says whether the cluster is connected, how its
observability fares, which components it has, what went wrong, how many
pods are in each phase and when all this was found out. Whatever it leaves
out or gives in another shape takes a default, so every payload has a
reading.
-/

namespace Dashboard

/-- What is known about the cluster. -/
structure ClusterStatus where
  connected : Bool
  health : String
  /-- Components with their status, by ascending name. -/
  components : List (String × String)
  error : Option String
  generatedAt : Option String
  /-- Pod phases with their counts, by ascending name. -/
  phases : List (String × UInt64)
deriving DecidableEq

namespace ClusterStatus

/-- The health of a cluster that reports none. -/
def unknownHealth : String := "unknown"

/-- The entries of an object field whose values `f` accepts. -/
def entriesOf {α : Type} (f : Json → Option α) (key : String) (members : Json.Members) :
    List (String × α) :=
  match (Json.lookup key members).bind Json.members? with
  | some ms => (Json.entries ms).filterMap fun (k, v) => (f v).map (k, ·)
  | none => []

/-- The status of a payload that is an object. -/
def ofMembers (members : Json.Members) : ClusterStatus where
  connected := ((Json.lookup "connected" members).bind Json.boolean?).getD false
  health := (Json.spokenField? "observabilityHealth" members).getD unknownHealth
  components := entriesOf Json.scalarText? "components" members
  error := Json.spokenField? "error" members
  generatedAt := Json.spokenField? "generatedAt" members
  phases := entriesOf (fun v => v.number?.bind Json.Number.toNatural?) "phases" members

/-- The status of a payload; one that is no object says nothing. -/
def ofJson (payload : Json) : ClusterStatus := ofMembers (payload.members?.getD [])

/-- The line on the connection. -/
def connectionLine (s : ClusterStatus) : Line :=
  if s.connected then ⟨"Connected to Kubernetes", .good⟩ else ⟨"Cluster not connected", .bad⟩

/-- The line on what went wrong, or on the lack of components. -/
def noticeLines (s : ClusterStatus) : List Line :=
  match s.error with
  | some error => [⟨"Status error: " ++ error, .bad⟩]
  | none => if s.components.isEmpty then [Line.muted "No component status available yet."] else []

/-- The line on the pods. -/
def phaseLines (s : ClusterStatus) : List Line :=
  if s.phases.isEmpty then []
  else
    let counts := s.phases.map fun (phase, count) => phase ++ " " ++ toString count.toNat
    [Line.muted ("Pods: " ++ ", ".intercalate counts)]

/-- The line on the time of the report. -/
def generatedLines (s : ClusterStatus) : List Line :=
  match s.generatedAt with
  | some t => [Line.muted ("Generated at " ++ t)]
  | none => []

/-- The lines of the panel. -/
def lines (s : ClusterStatus) : List Line :=
  [s.connectionLine, Line.plain ("Observability: " ++ s.health)] ++ s.noticeLines ++
    (s.components.map fun (name, status) => Line.plain (name ++ ": " ++ status)) ++
    s.phaseLines ++ s.generatedLines

end ClusterStatus

end Dashboard
