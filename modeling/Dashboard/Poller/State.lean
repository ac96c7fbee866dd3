import Dashboard.Fetch.Cycle

/-!
# The poller

The poller starts cycles, one whenever its timer ticks and one whenever a
refresh is asked for, and publishes what they find out. Each cycle is a task
of its own. Several can be under way; a task that has ended waits until its
result is taken up, and only then can its snapshot be published. A snapshot
is published unless one of a newer cycle is shown already.

Under the policy that ends the previous cycle, starting one aborts every
task that is still running. If the latest cycle had not been taken up by
then, a stand-in is published for it that says so; a task that had ended just
before still delivers its own snapshot, which then replaces the stand-in.

Calls for a refresh do not queue up. A call that finds the poller waiting is
handed to it, and any other is kept, unless one is kept already. The poller
leaves its wait for whatever comes first; when that is not the call it was
handed, the call is kept like any other, and two calls have become one.

The poller is a machine that takes one event at a time. An event that does
not fit the state changes nothing. Instants are milliseconds since the
poller was started.
-/

namespace Dashboard.Poller

open Fetch

/-- How far a cycle has come. -/
inductive Progress where
  /-- It was started and has not run yet. -/
  | queued
  /-- Its first phase ends at an instant with panels, or with a crash. -/
  | primary (due : Nat) (panels : Option PrimaryPanels)
  /-- Its second phase ends at an instant with an outcome, or with a crash. -/
  | metrics (due : Nat) (panels : PrimaryPanels) (outcome : Option MetricsOutcome)
  /-- It has ended, and its snapshot has not been taken up yet. -/
  | finished (snapshot : Snapshot)
  /-- It was taken down. -/
  | crashed
  /-- It was aborted. -/
  | aborted

/-- Whether a cycle has neither ended nor been aborted. -/
def Progress.isRunning : Progress → Bool
  | queued | primary .. | metrics .. => true
  | finished _ | crashed | aborted => false

/-- A cycle that was started and has not been taken up yet. -/
structure Task where
  cycle : Nat
  progress : Progress

/-- A task after an abort, which comes too late for one that has ended. -/
def Task.abort (t : Task) : Task :=
  if t.progress.isRunning then { t with progress := .aborted } else t

/-- A request that was started. -/
structure Request where
  instant : Nat
  cycle : Nat
  endpoint : Endpoint
deriving DecidableEq, Repr

/-- How far the latest calls for a refresh have come. -/
inductive Notice where
  /-- The poller does not wait for a call, and one may be kept for it. -/
  | away (kept : Bool)
  /-- The poller waits for a call. -/
  | waiting
  /-- A call was handed to the waiting poller, and another one may be kept. -/
  | handed (kept : Bool)
deriving DecidableEq, Repr

namespace Notice

/-- Someone asks for a refresh. -/
def call : Notice → Notice
  | away _ => away true
  | waiting => handed false
  | handed _ => handed true

/-- The poller begins to wait, unless a call is kept for it. -/
def listen : Notice → Notice
  | away false => waiting
  | n => n

/-- The poller leaves its wait for something else. A call that it was handed
is kept from then on. -/
def release : Notice → Notice
  | waiting => away false
  | handed _ => away true
  | away kept => away kept

/-- The poller takes up a call, the one it was handed before the one that is
kept. -/
def take? : Notice → Option Notice
  | away true => some (away false)
  | handed kept => some (away kept)
  | away false | waiting => none

/-- How many cycles the calls are going to start if nothing comes before
them. -/
def pending : Notice → Nat
  | away kept => kept.toNat
  | waiting => 0
  | handed kept => kept.toNat + 1

end Notice

/-- The poller between two events. -/
structure State where
  /-- When the poller was started, in seconds since the start of 1970. -/
  openedAt : Int
  /-- The number of the latest cycle, zero before the first one. -/
  lastStarted : Nat
  /-- The latest cycle and the instant of its start, until it is taken up. -/
  inFlight : Option (Nat × Nat)
  /-- The cycles that have not been taken up, in the order of their numbers. -/
  tasks : List Task
  /-- The calls for a refresh that have not been taken up. -/
  notice : Notice
  /-- All snapshots that were published, the newest first. -/
  published : List Snapshot
  /-- All requests that were started, the newest first. -/
  requests : List Request
  /-- Whether the poller has been shut down. -/
  stopped : Bool

/-- A poller before its first event. -/
def State.initial (openedAt : Int) : State :=
  ⟨openedAt, 0, none, [], .away false, [], [], false⟩

/-- What happens to a poller. -/
inductive Event where
  /-- The timer ticks. -/
  | tick (now : Nat)
  /-- Someone asks for a refresh. -/
  | notify
  /-- The poller begins to wait for a call. -/
  | listen
  /-- The poller takes up a call. -/
  | refresh (now : Nat)
  /-- A task runs for the first time. -/
  | begin (cycle now : Nat) (answers : Answers)
  /-- The first phase of a cycle has ended, and the second one begins. -/
  | proceed (cycle now : Nat) (answers : Answers)
  /-- The second phase of a cycle has ended. -/
  | complete (cycle now : Nat)
  /-- The result of a task that has ended is taken up. -/
  | join (cycle : Nat)
  /-- The poller is shut down. -/
  | shutdown

/-- The reason that a stand-in gives. -/
def overrunText (cycle elapsed : Nat) : String :=
  "cycle " ++ toString cycle ++ " still running after " ++ toString elapsed ++ "ms"

/-- The snapshot that stands in for a cycle that was not taken up in time. -/
def standIn (ctx : Context) (cycle elapsed : Nat) (completedAt : Int) : Snapshot :=
  let reason := overrunText cycle elapsed
  snapshotOf ctx cycle completedAt (PrimaryPanels.failed reason) (.failed reason)

namespace State

/-- How many cycles are going to start because someone asked for them. -/
def pending (s : State) : Nat := s.notice.pending

/-- The snapshot that is shown. -/
def shown? (s : State) : Option Snapshot := s.published.head?

/-- The time of day at an instant. -/
def timeOf (s : State) (now : Nat) : Int := s.openedAt + (now / 1000 : Nat)

/-- Whether a snapshot would replace what is shown. -/
def accepts (s : State) (snapshot : Snapshot) : Bool :=
  match s.shown? with
  | some shown => shown.cycle ≤ snapshot.cycle
  | none => true

/-- Publishes a snapshot unless one of a newer cycle is shown. -/
def publish (s : State) (snapshot : Snapshot) : State :=
  if s.accepts snapshot then { s with published := snapshot :: s.published } else s

/-- The task of a cycle. -/
def task? (s : State) (cycle : Nat) : Option Task := s.tasks.find? fun t => t.cycle == cycle

/-- Puts the task of a cycle into another state. -/
def setProgress (s : State) (cycle : Nat) (progress : Progress) : State :=
  { s with tasks := s.tasks.map fun t => if t.cycle = cycle then ⟨cycle, progress⟩ else t }

/-- Removes the task of a cycle. -/
def removeTask (s : State) (cycle : Nat) : State :=
  { s with tasks := s.tasks.filter fun t => t.cycle != cycle }

/-- Notes requests that were started. -/
def logRequests (s : State) (cycle now : Nat) (endpoints : List Endpoint) : State :=
  { s with requests := (endpoints.map fun e => ⟨now, cycle, e⟩).reverse ++ s.requests }

/-- Ends what is still running, and publishes a stand-in for the latest cycle
if it has not been taken up. -/
def supersede (ctx : Context) (s : State) (now : Nat) : State :=
  let aborted := { s with tasks := s.tasks.map Task.abort, inFlight := none }
  match s.inFlight with
  | some (cycle, started) => aborted.publish (standIn ctx cycle (now - started) (s.timeOf now))
  | none => aborted

/-- Starts the next cycle. -/
def startCycle (ctx : Context) (s : State) (now : Nat) : State :=
  let s :=
    match ctx.overlap with
    | .cancelPrevious => s.supersede ctx now
    | .concurrent => s
  let cycle := s.lastStarted + 1
  { s with
    lastStarted := cycle
    inFlight := some (cycle, now)
    tasks := s.tasks ++ [⟨cycle, .queued⟩] }

/-- Runs a task for the first time. -/
def beginCycle (ctx : Context) (s : State) (cycle now : Nat) (answers : Answers) : State :=
  match (s.task? cycle).map Task.progress with
  | some .queued =>
    let phase := primaryPhase ctx.primaryBatch answers
    (s.setProgress cycle (.primary (now + phase.after) phase.result)).logRequests cycle now
      phase.started
  | _ => s

/-- Goes from the first phase of a cycle to the second one, once the first
one has ended. -/
def proceedCycle (s : State) (cycle now : Nat) (answers : Answers) : State :=
  match (s.task? cycle).map Task.progress with
  | some (.primary due panels) =>
    if now < due then s
    else
      match panels with
      | none => s.setProgress cycle .crashed
      | some panels =>
        let phase := metricsPhase answers
        (s.setProgress cycle (.metrics (now + phase.after) panels phase.result)).logRequests cycle
          now phase.started
  | _ => s

/-- Ends a cycle, once its second phase has ended. -/
def completeCycle (ctx : Context) (s : State) (cycle now : Nat) : State :=
  match (s.task? cycle).map Task.progress with
  | some (.metrics due panels outcome) =>
    if now < due then s
    else
      match outcome with
      | none => s.setProgress cycle .crashed
      | some outcome =>
        s.setProgress cycle (.finished (snapshotOf ctx cycle (s.timeOf now) panels outcome))
  | _ => s

/-- Notes that a cycle has been taken up. -/
def landed (s : State) (cycle : Nat) : State :=
  match s.inFlight with
  | some (latest, _) => if latest = cycle then { s with inFlight := none } else s
  | none => s

/-- The poller once it has left its wait for something else than a call. -/
def released (s : State) : State := { s with notice := s.notice.release }

/-- Takes up the result of a task that has ended. -/
def joinTask (s : State) (cycle : Nat) : State :=
  match (s.task? cycle).map Task.progress with
  | some (.finished snapshot) => ((s.released.removeTask cycle).landed cycle).publish snapshot
  | some .crashed | some .aborted => s.released.removeTask cycle
  | _ => s

/-- The poller after an event; one that was shut down stays as it is. -/
def step (ctx : Context) (s : State) (e : Event) : State :=
  if s.stopped then s
  else
    match e with
    | .tick now => s.released.startCycle ctx now
    | .notify => { s with notice := s.notice.call }
    | .listen => { s with notice := s.notice.listen }
    | .refresh now =>
      match s.notice.take? with
      | some notice => State.startCycle ctx { s with notice } now
      | none => s
    | .begin cycle now answers => s.beginCycle ctx cycle now answers
    | .proceed cycle now answers => s.proceedCycle cycle now answers
    | .complete cycle now => s.completeCycle ctx cycle now
    | .join cycle => s.joinTask cycle
    | .shutdown => { s with stopped := true, tasks := s.tasks.map Task.abort }

/-- The poller after some events. -/
def run (ctx : Context) (s : State) (events : List Event) : State := events.foldl (step ctx) s

end State

end Dashboard.Poller
