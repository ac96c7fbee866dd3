import Dashboard.Poller.State
import Mathlib.Data.List.Induction

/-!
# The history of a poller

The state of a poller keeps what it has published and asked for, but not
which event did what. A history does: it lists the events of a run, each
with the state that it met. What an event started, took up and published,
and what its requests came back with, is read off such a moment.

A run is taken apart from its last event. `history_induction` is the one
induction over runs; every invariant below is an instance of it.
-/

namespace Dashboard.Poller

open Fetch

/-- What the requests that an event starts come back with. -/
def Event.answers? : Event → Option Answers
  | .begin _ _ answers | .proceed _ _ answers => some answers
  | _ => none

/-- An event of a run with the poller that it met. -/
structure Moment where
  before : State
  event : Event

namespace Moment

/-- The poller after the event. -/
def after (ctx : Context) (m : Moment) : State := m.before.step ctx m.event

/-- The cycle that the event starts, and when. -/
def started? (m : Moment) : Option (Nat × Nat) :=
  if m.before.stopped then none
  else
    match m.event with
    | .tick now => some (m.before.lastStarted + 1, now)
    | .refresh now => m.before.notice.take?.map fun _ => (m.before.lastStarted + 1, now)
    | _ => none

/-- The snapshot that the event takes up from a task that has ended. -/
def joined? (m : Moment) : Option Snapshot :=
  if m.before.stopped then none
  else
    match m.event with
    | .join cycle =>
      match (m.before.task? cycle).map Task.progress with
      | some (.finished snapshot) => some snapshot
      | _ => none
    | _ => none

/-- The event puts a snapshot on display. -/
def Publishes (ctx : Context) (m : Moment) (snapshot : Snapshot) : Prop :=
  (m.after ctx).published = snapshot :: m.before.published

/-- The requests that the event starts, the newest first. -/
def requests (ctx : Context) (m : Moment) : List Request :=
  (m.after ctx).requests.take ((m.after ctx).requests.length - m.before.requests.length)

/-- The requests that the event starts with what they come back with. -/
def replies (ctx : Context) (m : Moment) : List (Request × Answer) :=
  match m.event.answers? with
  | some answers => (m.requests ctx).map fun r => (r, answers r.endpoint)
  | none => []

theorem requests_eq {ctx : Context} {m : Moment} {new : List Request}
    (h : (m.after ctx).requests = new ++ m.before.requests) : m.requests ctx = new := by
  simp [requests, h]

theorem requests_eq_nil {ctx : Context} {m : Moment}
    (h : (m.after ctx).requests = m.before.requests) : m.requests ctx = [] :=
  requests_eq (by simpa using h)

theorem replies_eq_nil {ctx : Context} {m : Moment}
    (h : (m.after ctx).requests = m.before.requests) : m.replies ctx = [] := by
  unfold replies
  split <;> simp [requests_eq_nil h]

/-- The replies to requests that were started together for a cycle. -/
theorem mem_replies {ctx : Context} {m : Moment} {answers : Answers} {cycle now : Nat}
    {endpoints : List Endpoint} (ha : m.event.answers? = some answers)
    (h : (m.after ctx).requests =
      (endpoints.map fun e => ⟨now, cycle, e⟩).reverse ++ m.before.requests)
    {r : Request × Answer} :
    r ∈ m.replies ctx ↔ ∃ e ∈ endpoints, r = (⟨now, cycle, e⟩, answers e) := by
  simp only [replies, ha, requests_eq h, List.mem_map, List.mem_reverse, exists_exists_and_eq_and]
  exact ⟨fun ⟨e, he, hr⟩ => ⟨e, he, hr.symm⟩, fun ⟨e, he, hr⟩ => ⟨e, he, hr.symm⟩⟩

end Moment

namespace State

/-- The events of a run with the pollers that they met. -/
def moments (ctx : Context) : State → List Event → List Moment
  | _, [] => []
  | s, e :: rest => ⟨s, e⟩ :: moments ctx (s.step ctx e) rest

variable {ctx : Context}

theorem run_concat (s : State) (events : List Event) (e : Event) :
    run ctx s (events ++ [e]) = (run ctx s events).step ctx e := by
  simp [run, List.foldl_append]

theorem run_append (s : State) (first second : List Event) :
    run ctx s (first ++ second) = run ctx (run ctx s first) second := by
  simp [run, List.foldl_append]

theorem moments_append (s : State) (first second : List Event) :
    moments ctx s (first ++ second) =
      moments ctx s first ++ moments ctx (run ctx s first) second := by
  induction first generalizing s with
  | nil => rfl
  | cons e rest ih => simp [moments, ih, run]

theorem moments_concat (s : State) (events : List Event) (e : Event) :
    moments ctx s (events ++ [e]) = moments ctx s events ++ [⟨run ctx s events, e⟩] := by
  rw [moments_append]
  rfl

/-- A place in a history is a place in its run. -/
theorem exists_of_moments_eq {s : State} {events : List Event} {before after : List Moment}
    {m : Moment} (h : moments ctx s events = before ++ m :: after) :
    ∃ first e second, events = first ++ e :: second ∧ before = moments ctx s first ∧
      m = ⟨run ctx s first, e⟩ := by
  induction events generalizing s before with
  | nil => simp [moments] at h
  | cons e rest ih =>
      cases before with
      | nil =>
          simp only [moments, List.nil_append, List.cons.injEq] at h
          exact ⟨[], e, rest, rfl, rfl, h.1.symm⟩
      | cons m₀ before =>
          simp only [moments, List.cons_append, List.cons.injEq] at h
          obtain ⟨rfl, h⟩ := h
          obtain ⟨first, e', second, rfl, rfl, rfl⟩ := ih h
          exact ⟨e :: first, e', second, rfl, rfl, rfl⟩

/-- What holds of a poller with its history at the start, and is kept by one
more event, holds after every run. -/
theorem history_induction {P : State → List Moment → Prop} {s : State} (start : P s [])
    (step : ∀ events e, P (run ctx s events) (moments ctx s events) →
      P ((run ctx s events).step ctx e) (moments ctx s events ++ [⟨run ctx s events, e⟩]))
    (events : List Event) : P (run ctx s events) (moments ctx s events) := by
  induction events using List.reverseRecOn with
  | nil => exact start
  | append_singleton events e ih =>
      rw [run_concat, moments_concat]
      exact step events e ih

end State

/-! ## What a history tells -/

/-- All requests of a history with what they came back with. -/
def heard (ctx : Context) (history : List Moment) : List (Request × Answer) :=
  history.flatMap (Moment.replies ctx)

/-- All snapshots that were taken up. -/
def joins (history : List Moment) : List Snapshot := history.filterMap Moment.joined?

theorem heard_concat (ctx : Context) (history : List Moment) (m : Moment) :
    heard ctx (history ++ [m]) = heard ctx history ++ m.replies ctx := by
  simp [heard]

theorem joins_concat (history : List Moment) (m : Moment) :
    joins (history ++ [m]) = joins history ++ m.joined?.toList := by
  simp only [joins, List.filterMap_append]
  cases hm : m.joined? <;> simp [hm]

theorem joins_concat_of_some {history : List Moment} {m : Moment} {p : Snapshot}
    (h : m.joined? = some p) : joins (history ++ [m]) = joins history ++ [p] := by
  simp [joins_concat, h]

theorem joins_concat_of_none {history : List Moment} {m : Moment} (h : m.joined? = none) :
    joins (history ++ [m]) = joins history := by
  simp [joins_concat, h]

end Dashboard.Poller
