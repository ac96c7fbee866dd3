import Dashboard.Failure
import Dashboard.Json.Decoder

/-!
# Replies and answers

A backend replies to a request after some time or never: with a value, with
a failure, or in a way that takes down whoever asked. A request does not
wait forever. What comes back of it is an answer, the reply itself if it is
ready when the deadline has come, and a failure at the deadline otherwise.

Times are in milliseconds.
-/

namespace Dashboard.Fetch

/-- How a request ends. -/
inductive Outcome where
  | value (v : Json)
  | failed (f : Failure)
  /-- The task that made the request ends with it. -/
  | crashed

/-- What a backend makes of a request. -/
structure Reply where
  /-- How long it takes, if it ever ends. -/
  delay : Option Nat
  outcome : Outcome

/-- What comes back of a request, and when. -/
structure Answer where
  after : Nat
  outcome : Outcome

/-- The value, if there is one. -/
def Outcome.value? : Outcome → Option Json
  | value v => some v
  | _ => none

/-- The value or the failure, unless the task crashed. -/
def Outcome.result? : Outcome → Option (Except Failure Json)
  | value v => some (.ok v)
  | failed f => some (.error f)
  | crashed => none

/-- The outcome of a payload that was received for a path. -/
def Outcome.ofPayload (path : String) (payload : List UInt8) : Outcome :=
  match Json.decode payload with
  | .ok v => value v
  | .error message => failed (.decode path message)

/-- A reply under a deadline. -/
def Reply.within (r : Reply) (limit : Nat) (path : String) : Answer :=
  let late : Answer := ⟨limit, .failed (.timeout path (Duration.ofMillis limit))⟩
  match r.delay with
  | some d => if d ≤ limit then ⟨d, r.outcome⟩ else late
  | none => late

theorem Reply.within_after_le (r : Reply) (limit : Nat) (path : String) :
    (r.within limit path).after ≤ limit := by
  unfold within
  split
  · split <;> simp [*]
  · simp

end Dashboard.Fetch
