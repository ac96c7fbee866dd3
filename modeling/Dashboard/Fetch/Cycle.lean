import Dashboard.Fetch.Batch
import Dashboard.Fetch.Bootstrap
import Dashboard.Snapshot

/-!
# Refresh cycles

A cycle has two phases. First the three primary sources are requested as one
batch; when that has ended, however it ended, the four gauges are, as
another. Whatever fails becomes the text of a panel, so that a cycle always
ends with a snapshot, unless a reply takes the whole cycle down.

A cycle reads each answer once. It is therefore a function of what every
request would come back with.
-/

namespace Dashboard.Fetch

/-- What every request of a cycle would come back with. -/
abbrev Answers := Endpoint → Answer

/-- One phase of a cycle. -/
structure Phase (α : Type) where
  /-- The requests that were started, at the start of the phase. -/
  started : List Endpoint
  /-- How long the phase took. -/
  after : Nat
  /-- What it found out, unless the cycle was taken down. -/
  result : Option α

/-- The panels of the primary sources. -/
structure PrimaryPanels where
  status : Panel ClusterStatus
  timeline : Panel Timeline
  benchmark : Panel Benchmark
deriving DecidableEq

/-- The text of a panel whose source failed. -/
def failureText (reason : String) : String := "Refresh failed: " ++ reason

/-- The panel of a source. -/
def panelOf {α : Type} (read : Json → α) : Except Failure Json → Panel α
  | .ok v => .ready (read v)
  | .error f => .failed (failureText f.message)

/-- Three panels that failed for one reason. -/
def PrimaryPanels.failed (reason : String) : PrimaryPanels :=
  let text := failureText reason
  ⟨.failed text, .failed text, .failed text⟩

/-- The kind of batch that a policy asks for. -/
def batchKind : BatchPolicy → BatchKind
  | .isolated => .apart
  | .allOrNothing => .together

/-- The panels of the sources, each from its own outcome. -/
def ownPanels (answers : Answers) : Option PrimaryPanels := do
  return {
    status := panelOf ClusterStatus.ofJson (← (answers (.source .status)).outcome.result?)
    timeline := panelOf Timeline.ofJson (← (answers (.source .faults)).outcome.result?)
    benchmark := panelOf Benchmark.ofJson (← (answers (.source .benchmark)).outcome.result?) }

/-- The first phase. Under the policy that keeps failures together, the
first one is that of all panels. -/
def primaryPhase (policy : BatchPolicy) (answers : Answers) : Phase PrimaryPanels :=
  let batch := settle (batchKind policy) answers Endpoint.primary
  let result :=
    match policy, batch.stop with
    | .allOrNothing, some (.failed f) => some (PrimaryPanels.failed f.message)
    | _, _ => ownPanels answers
  ⟨batch.started, batch.after, result⟩

/-- The values of all gauges, if all were answered with one. -/
def gaugeValues (answers : Answers) : Option (PerGauge Json) := do
  let value (g : Gauge) : Option Json := (answers (.gauge g)).outcome.value?
  return ⟨← value .writeLatency, ← value .readThroughput, ← value .operations,
    ← value .lockContention⟩

/-- The second phase. -/
def metricsPhase (answers : Answers) : Phase MetricsOutcome :=
  let batch := settle .together answers Endpoint.gauges
  let result :=
    match batch.stop with
    | some (.failed f) => some (.failed f.message)
    | _ => (gaugeValues answers).map MetricsOutcome.ofAnswers
  ⟨batch.started, batch.after, result⟩

/-- The snapshot of what both phases found out. -/
def snapshotOf (ctx : Context) (cycle : Nat) (completedAt : Int) (primary : PrimaryPanels)
    (outcome : MetricsOutcome) : Snapshot where
  cycle := cycle
  completedAt := completedAt
  status := primary.status
  timeline := primary.timeline
  benchmark := primary.benchmark
  metrics := ⟨outcome, ctx.storeUrl⟩

/-- How a cycle went. -/
structure CycleRun where
  /-- Its requests with the time since its start. -/
  requests : List (Nat × Endpoint)
  after : Nat
  /-- The snapshot, unless the cycle was taken down. -/
  snapshot : Option Snapshot

/-- Runs one cycle. -/
def runCycle (ctx : Context) (cycle : Nat) (completedAt : Int) (answers : Answers) : CycleRun :=
  let first := primaryPhase ctx.primaryBatch answers
  let firstRequests := first.started.map (0, ·)
  match first.result with
  | none => ⟨firstRequests, first.after, none⟩
  | some panels =>
    let second := metricsPhase answers
    { requests := firstRequests ++ second.started.map (first.after, ·)
      after := first.after + second.after
      snapshot := second.result.map (snapshotOf ctx cycle completedAt panels) }

end Dashboard.Fetch
