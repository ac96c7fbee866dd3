import Dashboard.Poller.Session
import Dashboard.Proofs.Poller.Cadence
import Dashboard.Proofs.Poller.Requests

/-!
# What a session asks for

A session asks for the settings before its poller is started; after that only
its cycles ask for anything. What they may ask for is known already. Here it
is said when they do.

A cycle that was started runs at the same instant, or it is aborted before it
has run. The reason is that time does not pass while a task is queued, and
nothing else has to be known about time: ticks and replies may come late
(`Delayed`). So at every instant a started cycle is in one of the three states
of `Outset`. When it runs, it does so on the replies that the backend has at
that instant (`RanAt`), and from these follows what it asks for: under the
policy that keeps failures apart all of its sources, unless a reply takes the
cycle down while it is still asking.
-/

namespace Dashboard.Poller

open Fetch

variable {ctx : Context} {s : State} {m : Moment} {n start : Nat}

/-! ## Out of the queue -/

theorem mem_setProgress_of_ne {t : Task} {k : Nat} (ht : t ∈ s.tasks) (hne : t.cycle ≠ k)
    (progress : Progress) : t ∈ (s.setProgress k progress).tasks :=
  List.mem_map.mpr ⟨t, ht, if_neg hne⟩

theorem abort_queued (n : Nat) : (⟨n, .queued⟩ : Task).abort = ⟨n, .aborted⟩ := rfl

theorem Numbered.ne_of_queued (h : Numbered s) (hqueued : ⟨n, .queued⟩ ∈ s.tasks) {t : Task}
    (ht : t ∈ s.tasks) (hp : t.progress ≠ .queued) : n ≠ t.cycle := by
  rintro rfl
  exact hp (Option.some.inj ((h.progress_eq ht).symm.trans (h.progress_eq hqueued)))

/-- A queued task waits until it runs or is aborted. -/
theorem queued_step (ctx : Context) (h : Numbered s) (hqueued : ⟨n, .queued⟩ ∈ s.tasks)
    (e : Event) :
    ⟨n, .queued⟩ ∈ (s.step ctx e).tasks ∨ ⟨n, .aborted⟩ ∈ (s.step ctx e).tasks ∨
      ∃ now answers, e = .begin n now answers := by
  have hchange := Moment.change ctx ⟨s, e⟩
  simp only [Moment.after] at hchange
  generalize s.step ctx e = s' at hchange
  cases hchange with
  | idle | noted => exact Or.inl hqueued
  | started now notice =>
      rw [State.startCycle_eq]
      refine (?_ : ⟨n, .queued⟩ ∈ s.tasksAtStart ctx ∨ ⟨n, .aborted⟩ ∈ s.tasksAtStart ctx).imp
        (List.mem_append_left _) fun haborted => Or.inl (List.mem_append_left _ haborted)
      -- The policy decides whether the new cycle ends the one that waits.
      unfold State.tasksAtStart
      split
      · exact Or.inr (List.mem_map.mpr ⟨_, hqueued, abort_queued n⟩)
      · exact Or.inl hqueued
  | begun t now answers he =>
      by_cases hn : n = t.cycle
      · exact Or.inr (Or.inr ⟨now, answers, hn ▸ he⟩)
      · exact Or.inl (mem_setProgress_of_ne hqueued hn _)
  | proceeded t now answers he ht due panels hp =>
      exact Or.inl (mem_setProgress_of_ne hqueued
        (h.ne_of_queued hqueued ht (by simp [hp])) _)
  | completed t now he ht due panels outcome hp =>
      exact Or.inl (mem_setProgress_of_ne hqueued
        (h.ne_of_queued hqueued ht (by simp [hp])) _)
  | crashed t ht _ _ ran =>
      exact Or.inl (mem_setProgress_of_ne hqueued (h.ne_of_queued hqueued ht ran) _)
  | joined t snapshot live he hj ht hp =>
      rw [State.publish_landed_eq]
      exact Or.inl (State.mem_removeTask.mpr
        ⟨hqueued, h.ne_of_queued hqueued ht (by simp [hp])⟩)
  | dropped t live he hj ht hp =>
      refine Or.inl (State.mem_removeTask.mpr ⟨hqueued, h.ne_of_queued hqueued ht ?_⟩)
      rcases hp with hp | hp <;> simp [hp]
  | halted =>
      exact Or.inr (Or.inl (List.mem_map.mpr ⟨_, hqueued, abort_queued n⟩))

/-- A cycle that is started is queued first. -/
theorem Moment.queued_of_started (h : m.started? = some (n, start)) :
    ⟨n, .queued⟩ ∈ (m.after ctx).tasks := by
  rcases m.started_cases ctx with ⟨hnone, -⟩ | ⟨now, hsome, hlast⟩
  · rw [h] at hnone
    cases hnone
  · obtain ⟨rfl, -⟩ := Prod.mk.inj (Option.some.inj (h.symm.trans hsome))
    have hchange := m.change ctx
    generalize m.after ctx = s' at hchange hlast ⊢
    -- No other event gives out a number.
    cases hchange with
    | started now notice =>
        rw [State.startCycle_eq]
        exact List.mem_append_right _ (List.mem_singleton_self _)
    | joined t snapshot =>
        rw [State.publish_landed_eq] at hlast
        exact absurd hlast.symm (Nat.succ_ne_self _)
    | idle | noted | begun | proceeded | completed | crashed | dropped | halted =>
        exact absurd hlast.symm (Nat.succ_ne_self _)

/-- The instant that an event tells. -/
def Event.instant? : Event → Option Nat
  | .tick now | .refresh now | .begin _ now _ | .proceed _ now _ | .complete _ now => some now
  | .notify | .listen | .join _ | .shutdown => none

namespace Clock

section Histories

variable {β : Type} {openedAt : Int} {c c' : Clock β} {e : Event}

theorem Logged.asking (h : Logged ctx openedAt c) :
    Asking ctx c.state (c.history ctx openedAt) := by
  rw [history_eq, h]
  exact asking_run ctx openedAt c.events

theorem Extends.subset (h : Extends ctx openedAt c c' e) :
    c.timeline ctx openedAt ⊆ c'.timeline ctx openedAt := by
  rw [h.timeline]
  exact List.subset_append_left _ _

theorem Extends.mem (h : Extends ctx openedAt c c' e) :
    (c.now, ⟨c.state, e⟩) ∈ c'.timeline ctx openedAt := by
  rw [h.timeline]
  exact List.mem_append_right _ (List.mem_singleton_self _)

end Histories

variable {β : Type} [Backend β] {openedAt : Int} {backend : β} {c c' c₀ : Clock β} {e : Event}

/-! ## Late ticks and late replies -/

/-- The clocks that a poller can come to when anything may be late but the
first run of a cycle: time passes whenever no task is queued. -/
inductive Delayed (ctx : Context) (openedAt : Int) (backend : β) : Clock β → Prop where
  | initial : Delayed ctx openedAt backend (initial openedAt backend)
  | tick {c : Clock β} (h : Delayed ctx openedAt backend c) (due : c.nextTick ≤ c.now) :
      Delayed ctx openedAt backend (c.handleTick ctx)
  | send {c : Clock β} {e : Event} (h : Delayed ctx openedAt backend c)
      (offered : Offered ctx c e) : Delayed ctx openedAt backend (c.send ctx e)
  | wait {c : Clock β} (h : Delayed ctx openedAt backend c) (ms : Nat)
      (idle : ∀ t ∈ c.state.tasks, t.progress ≠ .queued) :
      Delayed ctx openedAt backend { c with now := c.now + ms }

theorem Delayed.logged (h : Delayed ctx openedAt backend c) : Logged ctx openedAt c := by
  induction h with
  | initial => exact logged_initial ctx openedAt backend
  | @tick c _ due ih =>
      rw [handleTick, if_pos due]
      exact (ih.send (.tick c.now) :)
  | send _ _ ih => exact ih.send _
  | wait _ _ _ ih => exact ih

theorem Delayed.numbered (h : Delayed ctx openedAt backend c) : Numbered c.state := by
  rw [h.logged]
  exact numbered_run ctx openedAt c.events

/-- Nothing is queued while time passes on time. -/
theorem Reachable.delayed (h : Reachable ctx openedAt backend c) :
    Delayed ctx openedAt backend c := by
  induction h with
  | initial => exact .initial
  | tick _ _ due ih => exact ih.tick due
  | send _ offered ih => exact ih.send offered
  | wait h idle ih =>
      refine ih.wait 1 fun t ht hqueued => ?_
      rcases idle with hquiet | hstopped
      · have hlate := hquiet.waiting t ht
        simp [dueOf, hqueued] at hlate
      · have hended := h.logged.asking.ended hstopped t ht
        rw [hqueued] at hended
        cases hended

/-! ## When cycles run -/

/-- A cycle ran for the first time when the clock was at `c₀`. -/
structure RanAt (ctx : Context) (openedAt : Int) (backend : β) (c c₀ : Clock β) (n start : Nat) :
    Prop where
  reachable : Delayed ctx openedAt backend c₀
  now : c₀.now = start
  /-- It ran on the replies of the backend at that instant. -/
  event : (start, ⟨c₀.state, .begin n start (c₀.answers ctx)⟩) ∈ c.timeline ctx openedAt
  queued : ⟨n, .queued⟩ ∈ c₀.state.tasks

/-- What has become of a cycle that was started at an instant. -/
inductive Outset (ctx : Context) (openedAt : Int) (backend : β) (c : Clock β) (n start : Nat) :
    Prop where
  /-- It is about to run, still at that instant. -/
  | waiting (queued : ⟨n, .queued⟩ ∈ c.state.tasks) (now : c.now = start)
  /-- It was aborted before it first ran. -/
  | aborted (m : Moment) (hm : m ∈ c.history ctx openedAt)
      (queued : ⟨n, .queued⟩ ∈ m.before.tasks) (aborted : ⟨n, .aborted⟩ ∈ (m.after ctx).tasks)
  /-- It ran at that instant. -/
  | ran (c₀ : Clock β) (h : RanAt ctx openedAt backend c c₀ n start)

/-- Everything happens at the instant at which it says it does. -/
structure Punctual (ctx : Context) (openedAt : Int) (backend : β) (c : Clock β) : Prop where
  instants : ∀ x ∈ c.timeline ctx openedAt, ∀ r ∈ x.2.requests ctx, r.instant = x.1
  ran : ∀ x ∈ c.timeline ctx openedAt, ∀ n start answers, Begins n start answers x.2 →
    ∃ c₀, RanAt ctx openedAt backend c c₀ n start ∧ c₀.answers ctx = answers
  outset : ∀ x ∈ c.timeline ctx openedAt, ∀ n start, x.2.started? = some (n, start) →
    Outset ctx openedAt backend c n start

/-- An event tells the instant of the clock and the replies of the backend. -/
structure Current (ctx : Context) (c : Clock β) (e : Event) : Prop where
  instant : ∀ t, e.instant? = some t → t = c.now
  answers : ∀ answers, e.answers? = some answers → answers = c.answers ctx

theorem current_tick (ctx : Context) (c : Clock β) : Current ctx c (.tick c.now) where
  instant := by simp [Event.instant?]
  answers := by simp [Event.answers?]

theorem Offered.current (h : Offered ctx c e) : Current ctx c e where
  instant := by cases h <;> simp [Event.instant?]
  answers := by cases h <;> simp [Event.answers?]

/-- What has happened stays so. -/
theorem RanAt.of_subset (h : RanAt ctx openedAt backend c c₀ n start)
    (hsub : c.timeline ctx openedAt ⊆ c'.timeline ctx openedAt) :
    RanAt ctx openedAt backend c' c₀ n start :=
  ⟨h.reachable, h.now, hsub h.event, h.queued⟩

/-- A cycle that runs now runs on what the backend replies now. -/
theorem Extends.ranAt (h : Extends ctx openedAt c c' e)
    (hdelayed : Delayed ctx openedAt backend c) (hcurrent : Current ctx c e) {answers : Answers}
    (hb : Begins n start answers ⟨c.state, e⟩) :
    RanAt ctx openedAt backend c' c n start ∧ c.now = start ∧ c.answers ctx = answers := by
  obtain rfl : e = .begin n start answers := hb.event
  obtain rfl := hcurrent.instant start rfl
  obtain rfl := hcurrent.answers answers rfl
  exact ⟨⟨hdelayed, rfl, h.mem, hb.queued⟩, rfl, rfl⟩

theorem Outset.extend (h : Outset ctx openedAt backend c n start)
    (hdelayed : Delayed ctx openedAt backend c) (hext : Extends ctx openedAt c c' e)
    (hcurrent : Current ctx c e) : Outset ctx openedAt backend c' n start := by
  cases h with
  | waiting hqueued hnow =>
      rcases queued_step ctx hdelayed.numbered hqueued e with
        hstill | haborted | ⟨now, answers, he⟩
      · exact .waiting (hext.state ▸ hstill) (hext.now.trans hnow)
      · exact .aborted ⟨c.state, e⟩ (List.mem_map_of_mem hext.mem) hqueued haborted
      · obtain ⟨hran, hsame, -⟩ := hext.ranAt hdelayed hcurrent ⟨he, hqueued⟩
        obtain rfl : now = start := hsame.symm.trans hnow
        exact .ran c hran
  | aborted m hm hqueued haborted =>
      exact .aborted m (List.map_subset _ hext.subset hm) hqueued haborted
  | ran c₀ h => exact .ran c₀ (h.of_subset hext.subset)

theorem punctual_initial (ctx : Context) (openedAt : Int) (backend : β) :
    Punctual ctx openedAt backend (initial openedAt backend) where
  instants := by simp [timeline, initial, timedMoments]
  ran := by simp [timeline, initial, timedMoments]
  outset := by simp [timeline, initial, timedMoments]

theorem Punctual.extend (h : Punctual ctx openedAt backend c)
    (hdelayed : Delayed ctx openedAt backend c) (hext : Extends ctx openedAt c c' e)
    (hcurrent : Current ctx c e) : Punctual ctx openedAt backend c' := by
  have hcases {x : Nat × Moment} (hx : x ∈ c'.timeline ctx openedAt) :
      x ∈ c.timeline ctx openedAt ∨ x = (c.now, ⟨c.state, e⟩) := by
    rw [hext.timeline] at hx
    exact (List.mem_append.mp hx).imp_right List.mem_singleton.mp
  refine ⟨fun x hx r hr => ?_, fun x hx n start answers hb => ?_, fun x hx n start hs => ?_⟩
  · rcases hcases hx with hold | rfl
    · exact h.instants x hold r hr
    · obtain ⟨-, answers, he | he⟩ := Moment.mem_requests hr
      · obtain rfl : e = .begin r.cycle r.instant answers := he
        exact hcurrent.instant r.instant rfl
      · obtain rfl : e = .proceed r.cycle r.instant answers := he
        exact hcurrent.instant r.instant rfl
  · rcases hcases hx with hold | rfl
    · obtain ⟨c₀, hran, hanswers⟩ := h.ran x hold n start answers hb
      exact ⟨c₀, hran.of_subset hext.subset, hanswers⟩
    · obtain ⟨hran, -, hanswers⟩ := hext.ranAt hdelayed hcurrent hb
      exact ⟨c, hran, hanswers⟩
  · rcases hcases hx with hold | rfl
    · exact (h.outset x hold n start hs).extend hdelayed hext hcurrent
    · have hnow : start = c.now := by
        rcases Moment.event_of_started hs with he | he
        · obtain rfl : e = .tick start := he
          exact hcurrent.instant start rfl
        · obtain rfl : e = .refresh start := he
          exact hcurrent.instant start rfl
      refine .waiting ?_ (hext.now.trans hnow.symm)
      rw [hext.state]
      exact Moment.queued_of_started hs

/-- Whatever else is late, no cycle waits for its first run meanwhile. -/
theorem Punctual.wait (h : Punctual ctx openedAt backend c) (ms : Nat)
    (idle : ∀ t ∈ c.state.tasks, t.progress ≠ .queued) :
    Punctual ctx openedAt backend { c with now := c.now + ms } where
  instants := h.instants
  ran := fun x hx n start answers hb => by
    obtain ⟨c₀, hran, hanswers⟩ := h.ran x hx n start answers hb
    exact ⟨c₀, hran.of_subset (List.Subset.refl _), hanswers⟩
  outset := fun x hx n start hs => by
    cases h.outset x hx n start hs with
    | waiting hqueued => exact absurd rfl (idle _ hqueued)
    | aborted m hm hqueued haborted => exact .aborted m hm hqueued haborted
    | ran c₀ h => exact .ran c₀ (h.of_subset (List.Subset.refl _))

theorem Delayed.punctual (h : Delayed ctx openedAt backend c) :
    Punctual ctx openedAt backend c := by
  induction h with
  | initial => exact punctual_initial ctx openedAt backend
  | @tick c h due ih => exact ih.extend h (extends_tick h.logged due) (current_tick ctx c)
  | send h offered ih => exact ih.extend h (extends_send h.logged _) offered.current
  | wait _ ms idle ih => exact ih.wait ms idle

end Clock

/-! ## What they ask for -/

/-- The requests of a cycle that ran at an instant: some of its sources, all
at that instant, and then perhaps some of its gauges. -/
structure Asks (ctx : Context) (start : Nat) (answers : Answers) (sources : List Endpoint)
    (gauges : List Request) : Prop where
  first : sources <+: Endpoint.primary
  /-- Only a reply that takes the cycle down at once keeps it from asking on. -/
  isolated : ctx.primaryBatch = .isolated → sources = Endpoint.primary ∨
    ∃ before e after, Endpoint.primary = before ++ e :: after ∧ sources = before ++ [e] ∧
      answers e = ⟨0, .crashed⟩
  second : ∀ r ∈ gauges, ∃ g, r.endpoint = .gauge g
  /-- They wait for the end of the first phase. -/
  later : ∀ r ∈ gauges, start + (primaryPhase ctx.primaryBatch answers).after ≤ r.instant

theorem asks_sources (ctx : Context) (start : Nat) (answers : Answers) {gauges : List Request}
    (second : ∀ r ∈ gauges, ∃ g, r.endpoint = .gauge g)
    (later : ∀ r ∈ gauges, start + (primaryPhase ctx.primaryBatch answers).after ≤ r.instant) :
    Asks ctx start answers (primaryPhase ctx.primaryBatch answers).started gauges where
  first := isPrefix_primaryPhase _ _
  isolated := fun policy => by
    rw [policy]
    exact primaryPhase_started_isolated answers
  second := second
  later := later

theorem AskedBy.asks {answers : Answers} {requests : List Request}
    (h : AskedBy ctx n start answers requests) :
    ∃ sources gauges, requests = sources.map (⟨start, n, ·⟩) ++ gauges ∧
      Asks ctx start answers sources gauges := by
  cases h with
  | sources =>
      exact ⟨_, [], (List.append_nil _).symm, asks_sources ctx start answers (by simp) (by simp)⟩
  | gauges later second ended =>
      refine ⟨_, gaugeRequests n later second, rfl, asks_sources ctx start answers ?_ ?_⟩
      all_goals
        intro r hr
        obtain ⟨e, he, rfl⟩ := List.mem_map.mp hr
      · exact metricsPhase_started_subset he
      · exact ended

/-- What a poller asks for, from its start up to a clock. -/
structure Disciplined {β : Type} [Backend β] (ctx : Context) (openedAt : Int) (backend : β)
    (c : Clock β) : Prop extends Clock.Punctual ctx openedAt backend c where
  traced : c.state.requests.reverse =
    (c.history ctx openedAt).flatMap fun m => (m.requests ctx).reverse
  within : ∀ r ∈ c.state.requests, r.endpoint ∈ Endpoint.primary ++ Endpoint.gauges
  once : ∀ n, ((c.state.requestsOf n).map fun r => r.endpoint.path).Nodup
  owned : ∀ r ∈ c.state.requests, ∃ c₀ start,
    Clock.RanAt ctx openedAt backend c c₀ r.cycle start
  asked : ∀ c₀ n start, Clock.RanAt ctx openedAt backend c c₀ n start →
    ∃ sources gauges, c.state.requestsOf n = sources.map (⟨start, n, ·⟩) ++ gauges ∧
      Asks ctx start (c₀.answers ctx) sources gauges
  /-- A cycle that has ended or was aborted asks for nothing more. -/
  silent : ∀ before m after, c.history ctx openedAt = before ++ m :: after →
    ∀ t ∈ (m.after ctx).tasks, t.progress.isRunning = false →
      ∀ m' ∈ after, ∀ r ∈ m'.requests ctx, r.cycle ≠ t.cycle
  few : ctx.overlap = .cancelPrevious → c.state.awaited.length ≤ 4

theorem silent_of_history (openedAt : Int) {events : List Event} {before after : List Moment}
    (hsplit : State.moments ctx (.initial openedAt) events = before ++ m :: after) {t : Task}
    (ht : t ∈ (m.after ctx).tasks) (hended : t.progress.isRunning = false) :
    ∀ m' ∈ after, ∀ r ∈ m'.requests ctx, r.cycle ≠ t.cycle := by
  obtain ⟨first, rest, rfl, hrest⟩ := moments_eq_append hsplit
  cases rest with
  | nil => cases hrest
  | cons e second =>
      obtain ⟨rfl, rfl⟩ := List.cons.inj hrest
      have hnumbered : Numbered ((State.run ctx (.initial openedAt) first).step ctx e) :=
        (numbered_run ctx openedAt first).step e
      exact silent_run (hnumbered.bounded t.cycle (mem_cycles ht)).2
        (hnumbered.not_mem_running ht hended) second

theorem Clock.Delayed.disciplined {β : Type} [Backend β] {openedAt : Int} {backend : β}
    {c : Clock β} (h : Clock.Delayed ctx openedAt backend c) :
    Disciplined ctx openedAt backend c where
  toPunctual := h.punctual
  traced := by
    rw [Clock.history_eq, h.logged]
    exact requests_run ctx openedAt c.events
  within := fun r hr =>
    (h.logged.asking.sublist r.cycle).subset (List.mem_map_of_mem (mem_requestsOf.mpr ⟨hr, rfl⟩))
  once := fun n => by
    have hpaths := ((h.logged.asking.sublist n).map Endpoint.path).nodup (by decide +kernel)
    rwa [List.map_map] at hpaths
  owned := fun r hr => by
    have hsome : c.state.requestsOf r.cycle ≠ [] :=
      List.ne_nil_of_mem (mem_requestsOf.mpr ⟨hr, rfl⟩)
    obtain ⟨m, hm, start, answers, hb⟩ := h.logged.asking.ran r.cycle hsome
    obtain ⟨x, hx, rfl⟩ := List.mem_map.mp hm
    obtain ⟨c₀, hran, -⟩ := h.punctual.ran x hx r.cycle start answers hb
    exact ⟨c₀, start, hran⟩
  asked := fun c₀ n start hran =>
    (h.logged.asking.asked _ (List.mem_map_of_mem hran.event) n start _ ⟨rfl, hran.queued⟩).asks
  silent := fun before m after hsplit t ht hended => by
    rw [Clock.history_eq] at hsplit
    exact silent_of_history openedAt hsplit ht hended
  few := fun policy => by
    rw [h.logged]
    exact awaited_run policy openedAt c.events

/-- What a session has asked for, in order, once its poller is at a clock. -/
def Session.trace {β : Type} (session : Session β) (c : Clock β) : List String :=
  (session.requests ++ c.state.requests.reverse.map Request.endpoint).map Endpoint.path

/-- The settings are asked for first and once, whatever comes back of that, and
every cycle keeps to its own requests. -/
theorem disciplined_delayed {β : Type} [Backend β] (config : Config) (openedAt : Int)
    (backend : β) :
    let session := Session.opened config backend
    session.requests.map Endpoint.path = ["/api/demo/config"] ∧
      (session.ctx = none ↔ session.answer.outcome = .crashed) ∧
      ∀ ctx, session.ctx = some ctx →
        (∀ c, Clock.Delayed ctx openedAt session.backend c →
          (session.trace c).head? = some "/api/demo/config" ∧
            (session.trace c).count "/api/demo/config" = 1 ∧
            Disciplined ctx openedAt session.backend c) ∧
          (config.validate = .ok () → ∀ actions, Clock.Delayed ctx openedAt session.backend
            (Clock.follow ctx openedAt session.backend actions)) := by
  intro session
  have hopened : session.ctx = none ↔ session.answer.outcome = .crashed := by
    show (session.answer.outcome.result?.map _) = none ↔ _
    cases session.answer.outcome <;> simp [Outcome.result?]
  refine ⟨rfl, hopened, fun ctx hctx => ?_⟩
  have hinterval : ctx.interval = config.refresh.interval.toNat := by
    obtain ⟨settings, -, rfl⟩ := Option.map_eq_some_iff.mp hctx
    rfl
  refine ⟨fun c h => ⟨rfl, ?_, h.disciplined⟩, fun valid actions => ?_⟩
  · have hother : ∀ e ∈ Endpoint.primary ++ Endpoint.gauges, e.path ≠ "/api/demo/config" := by
      decide +kernel
    have hrest : "/api/demo/config" ∉
        (c.state.requests.reverse.map Request.endpoint).map Endpoint.path := by
      intro hmem
      obtain ⟨e, he, hpath⟩ := List.mem_map.mp hmem
      obtain ⟨r, hr, rfl⟩ := List.mem_map.mp he
      exact hother _ (h.disciplined.within r (List.mem_reverse.mp hr)) hpath
    show List.count _ ("/api/demo/config" ::
      (c.state.requests.reverse.map Request.endpoint).map Endpoint.path) = 1
    rw [List.count_cons_self, List.count_eq_zero.mpr hrest]
  · have hpos : 0 < ctx.interval := hinterval ▸ interval_pos_of_validate valid
    exact (Clock.rests_follow hpos openedAt session.backend actions).1.reachable.delayed

/-- A cycle that was asked for while another one waits takes its place. -/
theorem disciplined_of_sluggish :
    let session := Session.opened hastyConfig (⟨⟩ : Sluggish)
    let c := Clock.follow hastyContext 0 session.backend [.sleep 20, .refresh 1, .sleep 60]
    hastyConfig.validate = .ok () ∧ session.ctx = some hastyContext ∧
      c.state.requestsOf 1 = Endpoint.primary.map (⟨0, 1, ·⟩) ∧
      c.state.requestsOf 2 =
        Endpoint.primary.map (⟨20, 2, ·⟩) ++ Endpoint.gauges.map (⟨70, 2, ·⟩) ∧
      Clock.Delayed hastyContext 0 session.backend c ∧
      Disciplined hastyContext 0 session.backend c := by
  have hvalid : hastyConfig.validate = .ok () := by decide
  have hctx : (Session.opened hastyConfig (⟨⟩ : Sluggish)).ctx = some hastyContext := by decide
  obtain ⟨-, -, hrun⟩ := disciplined_delayed hastyConfig 0 (⟨⟩ : Sluggish)
  obtain ⟨hall, hfollow⟩ := hrun hastyContext hctx
  have hdelayed := hfollow hvalid [.sleep 20, .refresh 1, .sleep 60]
  exact ⟨hvalid, hctx, by decide +kernel, by decide +kernel, hdelayed, (hall _ hdelayed).2.2⟩

/-- A cycle asks for each of its sources once, at an instant. -/
def Clock.AsksAll {β : Type} (c : Clock β) (n start : Nat) : Prop :=
  ∀ e ∈ Endpoint.primary, (c.state.requestsOf n).count ⟨start, n, e⟩ = 1

/-- A backend that takes every cycle down as soon as it is asked for the
status. -/
structure Fragile where

instance : Backend Fragile where
  reply _ _
    | .source .status => ⟨some 0, .crashed⟩
    | _ => ⟨some 7, .value .null⟩
  after backend _ _ := backend

/-- A cycle that is taken down while it is still asking does not ask for the
rest of its sources, though failures are kept apart. -/
theorem not_asksAll_of_fragile :
    let session := Session.opened hastyConfig (⟨⟩ : Fragile)
    let c := Clock.follow hastyContext 0 session.backend []
    session.ctx = some hastyContext ∧ hastyContext.primaryBatch = .isolated ∧
      Clock.Reachable hastyContext 0 session.backend c ∧
        ∃ c₀ start, Clock.RanAt hastyContext 0 session.backend c c₀ 1 start ∧
          ¬ c.AsksAll 1 start := by
  intro session c
  have hreach : Clock.Reachable hastyContext 0 session.backend c :=
    (Clock.rests_follow (by decide) 0 session.backend []).1.reachable
  have hone : c.state.requests = [⟨0, 1, .source .status⟩] := by decide +kernel
  obtain ⟨c₀, start, hran⟩ :=
    hreach.delayed.disciplined.owned ⟨0, 1, .source .status⟩ (by simp [hone])
  refine ⟨by decide, rfl, hreach, c₀, start, hran, fun hall => ?_⟩
  have hfaults := hall (.source .faults) (by decide)
  have hof : c.state.requestsOf 1 = [⟨0, 1, .source .status⟩] := by
    rw [State.requestsOf, hone]
    rfl
  rw [hof] at hfaults
  simp at hfaults

end Dashboard.Poller
