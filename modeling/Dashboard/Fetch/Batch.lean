import Dashboard.Fetch.Reply

/-!
# Batches of requests

The requests of a batch are started in order at the same instant and then
run side by side. Certain outcomes stop a batch: it ends at the instant of
the first of them, and what is still running is abandoned. Without such an
outcome the batch ends when its last request has ended.

An outcome that is there at once is seen while the batch is being started,
so a batch that stops at its first instant does not start the requests after
the one that stops it. Each time the batch is looked at again, the look begins
one request further on and goes around; of several outcomes at one instant
the one seen first counts.
-/

namespace Dashboard.Fetch

/-- Which outcomes stop a batch. -/
inductive BatchKind where
  /-- Failures are kept apart; only a crash stops the batch. -/
  | apart
  /-- The first failure is that of the batch. -/
  | together
deriving DecidableEq, Repr

/-- Whether an outcome stops a batch. -/
def BatchKind.stopsAt (kind : BatchKind) : Outcome → Bool
  | .value _ => false
  | .failed _ => kind == .together
  | .crashed => true

/-- How a batch went. -/
structure Settled (ι : Type) where
  /-- The requests that were started. -/
  started : List ι
  /-- When the batch ended. -/
  after : Nat
  /-- The outcome that stopped it, if one did. -/
  stop : Option Outcome

/-- The requests up to the first one that stops the batch at once. -/
def startedOf {ι : Type} (kind : BatchKind) (answer : ι → Answer) : List ι → List ι
  | [] => []
  | i :: r =>
    if (answer i).after == 0 && kind.stopsAt (answer i).outcome then [i]
    else i :: startedOf kind answer r

/-- The earliest instant at which an answer stops a batch. -/
def stopInstant? (kind : BatchKind) : List Answer → Option Nat
  | [] => none
  | a :: r =>
    let later := stopInstant? kind r
    if kind.stopsAt a.outcome then some (later.elim a.after (min a.after)) else later

/-- How often a batch is looked at before an instant: when it starts, and
whenever an answer has come. -/
def looksBefore (instant : Nat) (answers : List Answer) : Nat :=
  ((0 :: answers.map Answer.after).filter (· < instant)).eraseDups.length

/-- The answer that stops a batch. -/
def firstStop (kind : BatchKind) (answers : List Answer) : Option Answer := do
  let instant ← stopInstant? kind answers
  (answers.rotateLeft (looksBefore instant answers)).find? fun a =>
    kind.stopsAt a.outcome && a.after == instant

/-- When the last of some answers has come. -/
def lastAfter : List Answer → Nat
  | [] => 0
  | a :: r => max a.after (lastAfter r)

/-- Runs a batch. -/
def settle {ι : Type} (kind : BatchKind) (answer : ι → Answer) (requests : List ι) : Settled ι :=
  let started := startedOf kind answer requests
  let answers := started.map answer
  match firstStop kind answers with
  | some a => ⟨started, a.after, some a.outcome⟩
  | none => ⟨started, lastAfter answers, none⟩

end Dashboard.Fetch
