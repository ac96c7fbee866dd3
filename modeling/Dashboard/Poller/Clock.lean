import Dashboard.Fetch.Script
import Dashboard.Poller.State

/-!
# The poller in time

Time passes only when nothing can happen. At every instant the timer comes
first, then the refreshes that were asked for, then every task that can go
on, the older cycles before the newer ones, and last the results of the tasks
that have ended. After that the poller waits.

The timer ticks at the start and then once in every interval. A tick that
comes more than five milliseconds late happens once, and the next one at the
next multiple of the interval. One that is less late is followed by those
after it that are due by then, before anything else happens.

A timer needs an interval. Without one the poller breaks down at its start,
and nothing happens ever after.
-/

namespace Dashboard.Poller

open Fetch

/-- A poller with its backend, which is a scripted one where nothing else is
said, its timer and the current instant. -/
structure Clock (β : Type := Script) where
  now : Nat
  /-- The instant of the next tick. -/
  nextTick : Nat
  backend : β
  state : State
  /-- What was passed on to the poller, each with its instant, the newest
  first. -/
  log : List (Nat × Event)

namespace Clock

variable {β : Type}

/-- A poller that has just been started. -/
def initial (openedAt : Int) (backend : β) : Clock β := ⟨0, 0, backend, .initial openedAt, []⟩

/-- How late a tick may come without losing the ticks in between. -/
def tolerance : Nat := 5

/-- The tick after one that was due at an instant and came at another. -/
def tickAfter (interval due now : Nat) : Nat :=
  if due + tolerance < now then now + interval - (now - due) % interval else due + interval

/-- The numbers of the cycles that have not been taken up. -/
def cycles (c : Clock β) : List Nat := c.state.tasks.map Task.cycle

variable [Backend β]

/-- What requests that are made now come back with. -/
def answers (ctx : Context) (c : Clock β) : Answers := Backend.answers c.backend c.now ctx.timeout

/-- Passes an event on to the poller; the backend sees the requests that it
starts. -/
def send (ctx : Context) (c : Clock β) (e : Event) : Clock β :=
  let s := c.state.step ctx e
  let fresh := s.requests.take (s.requests.length - c.state.requests.length)
  { c with
    state := s
    backend := Backend.after c.backend c.now (fresh.map Request.endpoint)
    log := (c.now, e) :: c.log }

/-- Lets the timer tick if it is time. -/
def handleTick (ctx : Context) (c : Clock β) : Clock β :=
  if c.nextTick ≤ c.now then
    { c.send ctx (.tick c.now) with nextTick := tickAfter ctx.interval c.nextTick c.now }
  else c

/-- Lets the timer tick until the next tick is yet to come. Since only a tick
that is hardly late is followed by another one at the same instant, there are
no more of them than there are such milliseconds. -/
def handleTicks (ctx : Context) (c : Clock β) : Clock β :=
  (List.range (tolerance + 1)).foldl (fun c _ => c.handleTick ctx) c

/-- Takes up the refreshes that were asked for. -/
def handleRefreshes (ctx : Context) (c : Clock β) : Clock β :=
  (List.range c.state.pending).foldl (fun c _ => c.send ctx (.refresh c.now)) c

/-- Lets the task of a cycle go on as far as it can at this instant. -/
def runTask (ctx : Context) (c : Clock β) (cycle : Nat) : Clock β :=
  let c := c.send ctx (.begin cycle c.now (c.answers ctx))
  let c := c.send ctx (.proceed cycle c.now (c.answers ctx))
  c.send ctx (.complete cycle c.now)

/-- Lets every task go on as far as it can at this instant. -/
def runTasks (ctx : Context) (c : Clock β) : Clock β := c.cycles.foldl (runTask ctx) c

/-- Takes up the results of the tasks that have ended. -/
def joinTasks (ctx : Context) (c : Clock β) : Clock β :=
  c.cycles.foldl (fun c cycle => c.send ctx (.join cycle)) c

/-- Lets everything happen that can happen at this instant. -/
def settle (ctx : Context) (c : Clock β) : Clock β :=
  ((((c.handleTicks ctx).handleRefreshes ctx).runTasks ctx).joinTasks ctx).send ctx .listen

/-- The instant at which a task can go on. -/
def dueOf (t : Task) : Nat :=
  match t.progress with
  | .primary due _ | .metrics due _ _ => due
  | _ => 0

/-- The next instant at which something can happen. -/
def nextInstant (c : Clock β) : Nat :=
  max c.now (c.state.tasks.foldl (fun least t => min least (dueOf t)) c.nextTick)

/-- Lets everything happen until an instant; every instant at which something
happens takes one of `fuel`. -/
def advance (ctx : Context) (until_ : Nat) : Nat → Clock β → Clock β
  | 0, c => c
  | fuel + 1, c =>
    if c.nextInstant ≤ until_ && !c.state.stopped then
      advance ctx until_ fuel (settle ctx { c with now := c.nextInstant })
    else { c with now := max c.now until_ }

/-- Lets time pass. -/
def sleep (ctx : Context) (c : Clock β) (ms : Nat) : Clock β := c.advance ctx (c.now + ms) (ms + 2)

/-- Lets time pass without anything happening in between. -/
def jump (ctx : Context) (c : Clock β) (ms : Nat) : Clock β :=
  sleep ctx { c with now := c.now + ms } 0

/-- Asks for a refresh a number of times at once. -/
def refresh (ctx : Context) (c : Clock β) (times : Nat) : Clock β :=
  let c := (List.range times).foldl (fun c _ => c.send ctx .notify) c
  if c.state.stopped then c else c.settle ctx

/-- Shuts the poller down. -/
def shutdown (ctx : Context) (c : Clock β) : Clock β := c.send ctx .shutdown

/-- A poller after everything has happened that happens at its start. -/
def start (ctx : Context) (openedAt : Int) (backend : β) : Clock β :=
  let c := initial openedAt backend
  if ctx.interval = 0 then c.shutdown ctx else c.sleep ctx 0

end Clock

end Dashboard.Poller
