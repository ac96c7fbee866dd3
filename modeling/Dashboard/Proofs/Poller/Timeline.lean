import Dashboard.Poller.Clock
import Dashboard.Proofs.Poller.Origin

/-!
# The poller in time is a run of the poller

A clock passes events on and does nothing else to its poller, so the poller
is where the events of its log have brought it, and everything that holds of
all runs holds of it. Its timeline is the history of that run with an instant
for each moment, and what went on display when can be read off it.
-/

namespace Dashboard.Poller

open Fetch

variable {ctx : Context}

/-! ## Histories with instants -/

/-- The events of a run with their instants and the pollers that they met. -/
def timedMoments (ctx : Context) : State → List (Nat × Event) → List (Nat × Moment)
  | _, [] => []
  | s, (t, e) :: rest => (t, ⟨s, e⟩) :: timedMoments ctx (s.step ctx e) rest

theorem map_snd_timedMoments (s : State) (log : List (Nat × Event)) :
    (timedMoments ctx s log).map Prod.snd = State.moments ctx s (log.map Prod.snd) := by
  induction log generalizing s with
  | nil => rfl
  | cons x rest ih =>
      obtain ⟨t, e⟩ := x
      rw [timedMoments, List.map_cons, ih]
      rfl

theorem timedMoments_concat (s : State) (log : List (Nat × Event)) (t : Nat) (e : Event) :
    timedMoments ctx s (log ++ [(t, e)]) =
      timedMoments ctx s log ++ [(t, ⟨State.run ctx s (log.map Prod.snd), e⟩)] := by
  induction log generalizing s with
  | nil => rfl
  | cons x rest ih =>
      obtain ⟨u, f⟩ := x
      rw [List.cons_append, timedMoments, ih]
      rfl

/-- Where a change of the context changes no step, it changes no history. -/
theorem timedMoments_congr {ctx' : Context} {s : State} {log : List (Nat × Event)}
    (h : ∀ x ∈ timedMoments ctx s log, x.2.after ctx' = x.2.after ctx) :
    timedMoments ctx' s log = timedMoments ctx s log := by
  induction log generalizing s with
  | nil => rfl
  | cons x rest ih =>
      obtain ⟨t, e⟩ := x
      have hstep : s.step ctx' e = s.step ctx e := h _ List.mem_cons_self
      rw [timedMoments, timedMoments, hstep, ih fun y hy => h y (List.mem_cons_of_mem _ hy)]

/-! ## What goes on display -/

/-- The snapshots that an event puts on display. -/
def Moment.displayed (ctx : Context) (m : Moment) : List Snapshot :=
  (m.after ctx).published.take ((m.after ctx).published.length - m.before.published.length)

/-- Only a start and a result that is taken up change the display. -/
theorem Moment.published_eq {m : Moment} (hs : m.started? = none) (hj : m.joined? = none) :
    (m.after ctx).published = m.before.published := by
  have hchange := m.change ctx
  generalize m.after ctx = s' at hchange ⊢
  cases hchange with
  | started now notice live hstarted => rw [hs] at hstarted; cases hstarted
  | joined t snapshot live he hjoined => rw [hj] at hjoined; cases hjoined
  | idle | noted | begun | proceeded | completed | crashed | dropped | halted => rfl

theorem Moment.not_publishes {m : Moment} (h : (m.after ctx).published = m.before.published)
    (p : Snapshot) : ¬ m.Publishes ctx p := by
  intro hp
  have := congrArg List.length (h.symm.trans hp)
  simp at this

/-- An event puts at most one snapshot on display. -/
theorem Moment.published_cases (ctx : Context) (m : Moment) :
    (m.after ctx).published = m.before.published ∨ ∃ p, m.Publishes ctx p := by
  have hchange := m.change ctx
  unfold Publishes
  generalize m.after ctx = s' at hchange ⊢
  have hwith (p : Snapshot) : m.before.publishedWith p = m.before.published ∨
      ∃ q, m.before.publishedWith p = q :: m.before.published := by
    rcases m.before.publishedWith_cases p with ⟨h, -⟩ | ⟨h, -⟩
    · exact Or.inr ⟨p, h⟩
    · exact Or.inl h
  cases hchange with
  | started now notice =>
      rw [State.startCycle_eq]
      simp only [State.publishedAtStart]
      split
      · exact hwith _
      · exact Or.inl rfl
  | joined t snapshot =>
      rw [State.publish_landed_eq]
      exact hwith snapshot
  | idle | noted | begun | proceeded | completed | crashed | dropped | halted => exact Or.inl rfl

/-- Whatever was published was put on display at some moment. -/
theorem exists_publishes_of_mem (openedAt : Int) (events : List Event) :
    ∀ p ∈ (State.run ctx (.initial openedAt) events).published,
      ∃ m ∈ State.moments ctx (.initial openedAt) events, m.Publishes ctx p := by
  refine State.history_induction
    (P := fun s history => ∀ p ∈ s.published, ∃ m ∈ history, m.Publishes ctx p)
    (by simp [State.initial]) (fun events e ih p hp => ?_) events
  rcases Moment.published_cases ctx ⟨State.run ctx (.initial openedAt) events, e⟩ with
    hsame | ⟨q, hq⟩
  · have hold : p ∈ (State.run ctx (.initial openedAt) events).published := hsame ▸ hp
    obtain ⟨m, hm, hpublishes⟩ := ih p hold
    exact ⟨m, List.mem_append_left _ hm, hpublishes⟩
  · have hmem : p ∈ q :: (State.run ctx (.initial openedAt) events).published := hq ▸ hp
    rcases List.mem_cons.mp hmem with rfl | hold
    · exact ⟨_, List.mem_append_right _ (List.mem_singleton_self _), hq⟩
    · obtain ⟨m, hm, hpublishes⟩ := ih p hold
      exact ⟨m, List.mem_append_left _ hm, hpublishes⟩

/-! ## The run of a clock -/

namespace Clock

variable {β : Type}

/-- The moments of a clock with their instants. -/
def timeline (ctx : Context) (openedAt : Int) (c : Clock β) : List (Nat × Moment) :=
  timedMoments ctx (.initial openedAt) c.log.reverse

/-- The moments of a clock. -/
def history (ctx : Context) (openedAt : Int) (c : Clock β) : List Moment :=
  (c.timeline ctx openedAt).map Prod.snd

/-- All that went on display, in order and with the instants. -/
def displays (ctx : Context) (openedAt : Int) (c : Clock β) : List (Nat × Snapshot) :=
  (c.timeline ctx openedAt).flatMap fun x => (x.2.displayed ctx).map (x.1, ·)

/-- The events of a clock's log. -/
def events (c : Clock β) : List Event := c.log.reverse.map Prod.snd

/-- The poller is where the events of the log have brought it. -/
def Logged (ctx : Context) (openedAt : Int) (c : Clock β) : Prop :=
  c.state = State.run ctx (.initial openedAt) c.events

theorem history_eq (openedAt : Int) (c : Clock β) :
    c.history ctx openedAt = State.moments ctx (.initial openedAt) c.events :=
  map_snd_timedMoments _ _

theorem logged_initial (ctx : Context) (openedAt : Int) (backend : β) :
    Logged ctx openedAt (initial openedAt backend) := rfl

variable {openedAt : Int} {c : Clock β}

/-- What was taken up is the result of its own cycle. -/
theorem Logged.sourced (h : Logged ctx openedAt c) :
    Sourced ctx c.state (c.history ctx openedAt) := by
  rw [history_eq, h]
  exact sourced_run ctx openedAt c.events

theorem Logged.exists_publishes (h : Logged ctx openedAt c) {p : Snapshot}
    (hp : p ∈ c.state.published) :
    ∃ x ∈ c.timeline ctx openedAt, x.2.Publishes ctx p := by
  rw [h] at hp
  obtain ⟨m, hm, hpublishes⟩ := exists_publishes_of_mem openedAt c.events p hp
  rw [← history_eq] at hm
  obtain ⟨x, hx, rfl⟩ := List.mem_map.mp hm
  exact ⟨x, hx, hpublishes⟩

variable [Backend β]

theorem events_send (ctx : Context) (c : Clock β) (e : Event) :
    (c.send ctx e).events = c.events ++ [e] := by
  simp [events, send]

theorem Logged.send (h : Logged ctx openedAt c) (e : Event) :
    Logged ctx openedAt (c.send ctx e) := by
  rw [Logged, events_send, State.run_concat, ← h]
  rfl

theorem Logged.timeline_send (h : Logged ctx openedAt c) (e : Event) :
    (c.send ctx e).timeline ctx openedAt =
      c.timeline ctx openedAt ++ [(c.now, ⟨c.state, e⟩)] := by
  have hlog : (c.send ctx e).log.reverse = c.log.reverse ++ [(c.now, e)] := List.reverse_cons
  rw [timeline, hlog, timedMoments_concat, h]
  rfl

end Clock

end Dashboard.Poller
