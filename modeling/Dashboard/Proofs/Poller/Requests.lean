import Dashboard.Proofs.Fetch.Policies
import Dashboard.Proofs.Poller.Succession

/-!
# What a cycle asks for

A cycle asks for its sources when it runs for the first time and for its
gauges when it goes on to its second phase, and for nothing else. What a
batch starts is a first part of its list (`isPrefix_startedOf`), so nothing is
asked for twice. `AskedBy` lists the two ways in which the requests of a
cycle that has run can look, and `Asking` ties them to the tasks: a task that
is queued has asked for nothing, and one in its first phase has asked for its
sources only, so what comes next is always the next part of the list.

Only a task under way asks for anything, and a cycle that is no longer under
way never is again. Hence an aborted cycle falls silent (`silent_run`), and
where only one cycle is under way, only the requests of one phase can be
waited for (`awaited_run`).
-/

namespace Dashboard.Fetch

theorem isPrefix_primaryPhase (policy : BatchPolicy) (answers : Answers) :
    (primaryPhase policy answers).started <+: Endpoint.primary := by
  rw [primaryPhase_started, settle_started]
  exact isPrefix_startedOf _ _ _

theorem isPrefix_metricsPhase (answers : Answers) :
    (metricsPhase answers).started <+: Endpoint.gauges := by
  rw [metricsPhase_started, settle_started]
  exact isPrefix_startedOf _ _ _

/-- Where failures are kept apart, only a crash keeps a source from being
asked for. -/
theorem primaryPhase_started_isolated (answers : Answers) :
    (primaryPhase .isolated answers).started = Endpoint.primary ∨
      ∃ before e after, Endpoint.primary = before ++ e :: after ∧
        (primaryPhase .isolated answers).started = before ++ [e] ∧
        answers e = ⟨0, .crashed⟩ := by
  rw [primaryPhase_started, settle_started]
  refine (startedOf_cases _ answers Endpoint.primary).imp_right ?_
  rintro ⟨before, e, after, heq, hstarted, hzero, hstop⟩
  have hcrashed : (answers e).outcome = .crashed := eq_crashed_of_stopsAt_apart hstop
  refine ⟨before, e, after, heq, hstarted, ?_⟩
  rw [← hzero, ← hcrashed]

end Dashboard.Fetch

namespace Dashboard.Poller

open Fetch

variable {ctx : Context} {s s' : State} {history : List Moment} {m : Moment} {n start now : Nat}
  {answers : Answers}

/-- The requests of a cycle, in their order. -/
def State.requestsOf (s : State) (n : Nat) : List Request :=
  s.requests.reverse.filter fun r => r.cycle = n

/-- The requests of a first phase. -/
def sourceRequests (ctx : Context) (n now : Nat) (answers : Answers) : List Request :=
  (primaryPhase ctx.primaryBatch answers).started.map (⟨now, n, ·⟩)

/-- The requests of a second phase. -/
def gaugeRequests (n now : Nat) (answers : Answers) : List Request :=
  (metricsPhase answers).started.map (⟨now, n, ·⟩)

/-- A cycle runs for the first time. -/
structure Begins (n now : Nat) (answers : Answers) (m : Moment) : Prop where
  event : m.event = .begin n now answers
  queued : ⟨n, .queued⟩ ∈ m.before.tasks

/-- What a cycle may have asked for that has run. -/
inductive AskedBy (ctx : Context) (n start : Nat) (answers : Answers) : List Request → Prop where
  | sources : AskedBy ctx n start answers (sourceRequests ctx n start answers)
  /-- The gauges come once the first phase has ended. -/
  | gauges (later : Nat) (second : Answers)
      (ended : start + (primaryPhase ctx.primaryBatch answers).after ≤ later) :
      AskedBy ctx n start answers
        (sourceRequests ctx n start answers ++ gaugeRequests n later second)

/-! ## The requests of one cycle -/

theorem map_endpoint_sourceRequests (ctx : Context) (n now : Nat) (answers : Answers) :
    (sourceRequests ctx n now answers).map Request.endpoint =
      (primaryPhase ctx.primaryBatch answers).started := by
  simp [sourceRequests, Function.comp_def]

theorem map_endpoint_gaugeRequests (n now : Nat) (answers : Answers) :
    (gaugeRequests n now answers).map Request.endpoint = (metricsPhase answers).started := by
  simp [gaugeRequests, Function.comp_def]

theorem sourceRequests_ne_nil (ctx : Context) (n now : Nat) (answers : Answers) :
    sourceRequests ctx n now answers ≠ [] := by
  intro h
  have hnone := congrArg (List.map Request.endpoint) h
  rw [map_endpoint_sourceRequests, primaryPhase_started, settle_started] at hnone
  exact startedOf_ne_nil (by decide) hnone

theorem AskedBy.ne_nil {requests : List Request} (h : AskedBy ctx n start answers requests) :
    requests ≠ [] := by
  cases h with
  | sources => exact sourceRequests_ne_nil ctx n start answers
  | gauges => exact List.append_ne_nil_of_left_ne_nil (sourceRequests_ne_nil ctx n start answers) _

/-- Some of the sources and then some of the gauges, none of them twice. -/
theorem AskedBy.sublist {requests : List Request} (h : AskedBy ctx n start answers requests) :
    (requests.map Request.endpoint).Sublist (Endpoint.primary ++ Endpoint.gauges) := by
  cases h with
  | sources =>
      rw [map_endpoint_sourceRequests]
      exact (isPrefix_primaryPhase _ _).sublist.trans (List.sublist_append_left _ _)
  | gauges later second =>
      rw [List.map_append, map_endpoint_sourceRequests, map_endpoint_gaugeRequests]
      exact (isPrefix_primaryPhase _ _).sublist.append
        (isPrefix_metricsPhase second).sublist

theorem requestsOf_of_requests_eq (h : s'.requests = s.requests) (n : Nat) :
    s'.requestsOf n = s.requestsOf n := by
  rw [State.requestsOf, State.requestsOf, h]

theorem requestsOf_logRequests (s : State) (k now : Nat) (endpoints : List Endpoint) (n : Nat) :
    (s.logRequests k now endpoints).requestsOf n =
      s.requestsOf n ++ if k = n then endpoints.map (⟨now, k, ·⟩) else [] := by
  simp only [State.requestsOf, State.logRequests, List.reverse_append, List.reverse_reverse,
    List.filter_append]
  congr 1
  split
  · next h => simp [List.filter_map, Function.comp_def, h]
  · next h => simp [List.filter_map, Function.comp_def, h]

theorem mem_requestsOf {r : Request} : r ∈ s.requestsOf n ↔ r ∈ s.requests ∧ r.cycle = n := by
  simp [State.requestsOf]

/-! ## As far as the tasks have come -/

/-- A cycle has run and waits for the end of its first phase. -/
structure Waits (ctx : Context) (s : State) (history : List Moment) (n due : Nat) : Prop where
  ran : ∃ m ∈ history, ∃ start answers, Begins n start answers m
  asked : ∀ m ∈ history, ∀ start answers, Begins n start answers m →
    s.requestsOf n = sourceRequests ctx n start answers ∧
      due = start + (primaryPhase ctx.primaryBatch answers).after

/-- The requests of all cycles. -/
structure Asking (ctx : Context) (s : State) (history : List Moment) : Prop where
  ran : ∀ n, s.requestsOf n ≠ [] → ∃ m ∈ history, ∃ start answers, Begins n start answers m
  asked : ∀ m ∈ history, ∀ n start answers, Begins n start answers m →
    AskedBy ctx n start answers (s.requestsOf n)
  queued : ∀ t ∈ s.tasks, t.progress = .queued → s.requestsOf t.cycle = []
  primary : ∀ t ∈ s.tasks, ∀ due panels, t.progress = .primary due panels →
    Waits ctx s history t.cycle due
  known : ∀ r ∈ s.requests, r.cycle ≤ s.lastStarted
  /-- After the end nothing is under way. -/
  ended : s.stopped = true → ∀ t ∈ s.tasks, t.progress.isRunning = false

theorem Waits.append {due : Nat} (h : Waits ctx s history n due)
    (hm : ∀ start answers, ¬ Begins n start answers m)
    (hof : s'.requestsOf n = s.requestsOf n) : Waits ctx s' (history ++ [m]) n due where
  ran := by
    obtain ⟨m₀, hm₀, hbegins⟩ := h.ran
    exact ⟨m₀, List.mem_append_left _ hm₀, hbegins⟩
  asked := fun m₀ hm₀ start answers hb => by
    rw [hof]
    rcases List.mem_append.mp hm₀ with hold | hlast
    · exact h.asked m₀ hold start answers hb
    · obtain rfl := List.mem_singleton.mp hlast
      exact absurd hb (hm start answers)

namespace Asking

theorem requestsOf_eq_nil (h : Asking ctx s history) (hn : s.lastStarted < n) :
    s.requestsOf n = [] := by
  refine List.filter_eq_nil_iff.mpr fun r hr => ?_
  have hknown := h.known r (List.mem_reverse.mp hr)
  rw [decide_eq_true_eq]
  omega

theorem live (h : Asking ctx s history) {t : Task} (ht : t ∈ s.tasks)
    (hrunning : t.progress.isRunning = true) : s.stopped = false := by
  cases hstopped : s.stopped with
  | false => rfl
  | true =>
      rw [h.ended hstopped t ht] at hrunning
      cases hrunning

/-- A cycle that is queued has not run before. -/
theorem not_begins (h : Asking ctx s history) (hqueued : ⟨n, .queued⟩ ∈ s.tasks)
    (hm : m ∈ history) : ¬ Begins n start answers m := fun hb =>
  (h.asked m hm n start answers hb).ne_nil (h.queued _ hqueued rfl)

theorem sublist (h : Asking ctx s history) (n : Nat) :
    ((s.requestsOf n).map Request.endpoint).Sublist (Endpoint.primary ++ Endpoint.gauges) := by
  by_cases hnone : s.requestsOf n = []
  · rw [hnone]
    exact List.nil_sublist _
  · obtain ⟨m, hm, start, answers, hb⟩ := h.ran n hnone
    exact (h.asked m hm n start answers hb).sublist

/-! ### What the events do to it -/

/-- An event that asks for nothing. -/
theorem quiet (h : Asking ctx s history) (hbegins : ∀ n now answers, ¬ Begins n now answers m)
    (hrequests : s'.requests = s.requests) (hlast : s.lastStarted ≤ s'.lastStarted)
    (hqueued : ∀ t ∈ s'.tasks, t.progress = .queued → t ∈ s.tasks ∨ s.lastStarted < t.cycle)
    (hprimary : ∀ t ∈ s'.tasks, ∀ due panels, t.progress = .primary due panels → t ∈ s.tasks)
    (hover : s'.stopped = true → ∀ t ∈ s'.tasks, t.progress.isRunning = false) :
    Asking ctx s' (history ++ [m]) := by
  have hof := requestsOf_of_requests_eq hrequests
  refine ⟨?_, ?_, ?_, ?_, ?_, hover⟩
  · intro n hsome
    rw [hof] at hsome
    obtain ⟨m₀, hm₀, hb⟩ := h.ran n hsome
    exact ⟨m₀, List.mem_append_left _ hm₀, hb⟩
  · intro m₀ hm₀ n now answers hb
    rw [hof]
    rcases List.mem_append.mp hm₀ with hold | hnew
    · exact h.asked m₀ hold n now answers hb
    · obtain rfl := List.mem_singleton.mp hnew
      exact absurd hb (hbegins n now answers)
  · intro t ht hp
    rw [hof]
    rcases hqueued t ht hp with hold | hnew
    · exact h.queued t hold hp
    · exact h.requestsOf_eq_nil hnew
  · intro t ht due panels hp
    exact (h.primary t (hprimary t ht due panels hp) due panels hp).append
      (hbegins t.cycle) (hof t.cycle)
  · rw [hrequests]
    exact fun r hr => Nat.le_trans (h.known r hr) hlast

/-- An event that asks for something for one cycle, whose requests are then
still as they should be. -/
theorem logging (h : Asking ctx s history) (live : s.stopped = false) {progress : Progress}
    {endpoints : List Endpoint} {requests : List Request}
    (hrequests : s.requestsOf n ++ endpoints.map (⟨now, n, ·⟩) = requests)
    (hn : n ≤ s.lastStarted) (hqueued : progress ≠ .queued)
    (hbegins : ∀ k start answers, Begins k start answers m → k = n)
    (hran : ∃ m₀ ∈ history ++ [m], ∃ start answers, Begins n start answers m₀)
    (hasked : ∀ m₀ ∈ history ++ [m], ∀ start answers, Begins n start answers m₀ →
      AskedBy ctx n start answers requests)
    (hprimary : ∀ due panels, progress = .primary due panels →
      ∀ m₀ ∈ history ++ [m], ∀ start answers, Begins n start answers m₀ →
        requests = sourceRequests ctx n start answers ∧
          due = start + (primaryPhase ctx.primaryBatch answers).after) :
    Asking ctx ((s.setProgress n progress).logRequests n now endpoints) (history ++ [m]) := by
  have hof (k : Nat) : ((s.setProgress n progress).logRequests n now endpoints).requestsOf k =
      s.requestsOf k ++ if n = k then endpoints.map (⟨now, n, ·⟩) else [] :=
    requestsOf_logRequests (s.setProgress n progress) n now endpoints k
  have hown := hof n
  rw [if_pos rfl, hrequests] at hown
  have hother {k : Nat} (hne : n ≠ k) :
      ((s.setProgress n progress).logRequests n now endpoints).requestsOf k = s.requestsOf k := by
    rw [hof, if_neg hne, List.append_nil]
  refine ⟨?_, ?_, ?_, ?_, ?_, fun hstopped => absurd (live.symm.trans hstopped) nofun⟩
  · intro k hsome
    by_cases hk : n = k
    · subst hk
      exact hran
    · rw [hother hk] at hsome
      obtain ⟨m₀, hm₀, hb⟩ := h.ran k hsome
      exact ⟨m₀, List.mem_append_left _ hm₀, hb⟩
  · intro m₀ hm₀ k start answers hb
    by_cases hk : n = k
    · subst hk
      rw [hown]
      exact hasked m₀ hm₀ start answers hb
    · rw [hother hk]
      rcases List.mem_append.mp hm₀ with hold | hlast
      · exact h.asked m₀ hold k start answers hb
      · obtain rfl := List.mem_singleton.mp hlast
        exact absurd (hbegins k start answers hb).symm hk
  · intro t ht hp
    rcases State.mem_setProgress ht with rfl | ⟨hold, hne⟩
    · exact absurd hp hqueued
    · rw [hother hne.symm]
      exact h.queued t hold hp
  · intro t ht due panels hp
    rcases State.mem_setProgress ht with rfl | ⟨hold, hne⟩
    · refine ⟨hran, ?_⟩
      rw [hown]
      exact hprimary due panels hp
    · exact (h.primary t hold due panels hp).append
        (fun start answers hb => hne (hbegins t.cycle start answers hb)) (hother hne.symm)
  · intro r hr
    rcases List.mem_append.mp hr with hfresh | hold
    · obtain ⟨e, -, rfl⟩ := List.mem_map.mp (List.mem_reverse.mp hfresh)
      exact hn
    · exact h.known r hold

end Asking

/-- What becomes of a poller when a cycle runs for the first time. -/
theorem Begins.after_eq (h : Begins n now answers m) (hnumbered : Numbered m.before)
    (live : m.before.stopped = false) :
    m.after ctx = (m.before.setProgress n
      (.primary (now + (primaryPhase ctx.primaryBatch answers).after)
        (primaryPhase ctx.primaryBatch answers).result)).logRequests n now
          (primaryPhase ctx.primaryBatch answers).started := by
  obtain ⟨s, e⟩ := m
  obtain ⟨rfl, hqueued⟩ := h
  have live : s.stopped = false := live
  have hprogress : (s.task? n).map Task.progress = some .queued := hnumbered.progress_eq hqueued
  simp [Moment.after, State.step, live, State.beginCycle, hprogress]

/-- A task under way is none that starting a cycle has ended. -/
theorem mem_tasksAtStart_of_isRunning {t : Task} (h : t ∈ s.tasksAtStart ctx)
    (hrunning : t.progress.isRunning = true) : t ∈ s.tasks := by
  rcases mem_tasksAtStart h with hold | ⟨u, -, rfl⟩
  · exact hold
  · rw [u.isRunning_abort] at hrunning
    cases hrunning

namespace Asking

theorem beginning (h : Asking ctx s history) (hnumbered : Numbered s) {e : Event}
    (hb : Begins n now answers ⟨s, e⟩) : Asking ctx (s.step ctx e) (history ++ [⟨s, e⟩]) := by
  have live : s.stopped = false := h.live hb.queued rfl
  have hnone : s.requestsOf n = [] := h.queued _ hb.queued rfl
  have hnew : ⟨s, e⟩ ∈ history ++ [⟨s, e⟩] := List.mem_append_right _ (List.mem_singleton_self _)
  have hlast {k start : Nat} {first : Answers} (hb' : Begins k start first ⟨s, e⟩) :
      k = n ∧ start = now ∧ first = answers :=
    Event.begin.inj (hb'.event.symm.trans hb.event)
  have honly : ∀ m₀ ∈ history ++ [⟨s, e⟩], ∀ start first, Begins n start first m₀ →
      start = now ∧ first = answers := by
    intro m₀ hm₀ start first hb'
    rcases List.mem_append.mp hm₀ with hold | hsame
    · exact absurd hb' (h.not_begins hb.queued hold)
    · obtain rfl := List.mem_singleton.mp hsame
      exact (hlast hb').2
  have hown : s.requestsOf n ++ (primaryPhase ctx.primaryBatch answers).started.map (⟨now, n, ·⟩) =
      sourceRequests ctx n now answers := by
    rw [hnone]
    rfl
  show Asking ctx ((⟨s, e⟩ : Moment).after ctx) _
  rw [hb.after_eq hnumbered live]
  refine h.logging live hown (hnumbered.bounded n (mem_cycles hb.queued)).2 (by simp)
    (fun k start first hb' => (hlast hb').1) ⟨_, hnew, now, answers, hb⟩ ?_ ?_
  · intro m₀ hm₀ start first hb'
    obtain ⟨rfl, rfl⟩ := honly m₀ hm₀ start first hb'
    exact .sources
  · intro due panels hp m₀ hm₀ start first hb'
    obtain ⟨rfl, rfl⟩ := honly m₀ hm₀ start first hb'
    exact ⟨rfl, (Progress.primary.inj hp).1.symm⟩

theorem proceeding (h : Asking ctx s history) (hnumbered : Numbered s) {t : Task}
    (ht : t ∈ s.tasks) {due : Nat} {panels : Option PrimaryPanels}
    (hp : t.progress = .primary due panels) (ready : due ≤ now)
    (hbegins : ∀ n now answers, ¬ Begins n now answers m) (due' : Nat) (panels' : PrimaryPanels)
    (outcome : Option MetricsOutcome) (second : Answers) :
    Asking ctx ((s.setProgress t.cycle (.metrics due' panels' outcome)).logRequests t.cycle now
      (metricsPhase second).started) (history ++ [m]) := by
  -- So far the cycle has asked for its sources, and its first phase is over.
  obtain ⟨⟨m₀, hm₀, start₀, answers₀, hb₀⟩, hown⟩ := h.primary t ht due panels hp
  refine h.logging (h.live ht (by rw [hp]; rfl)) rfl (hnumbered.bounded t.cycle (mem_cycles ht)).2
    (by simp) (fun k start answers hb => absurd hb (hbegins k start answers))
    ⟨m₀, List.mem_append_left _ hm₀, start₀, answers₀, hb₀⟩ ?_ (by simp)
  intro m₁ hm₁ start answers hb
  rcases List.mem_append.mp hm₁ with hold | hlast
  · obtain ⟨hsources, rfl⟩ := hown m₁ hold start answers hb
    rw [hsources]
    exact .gauges now second ready
  · obtain rfl := List.mem_singleton.mp hlast
    exact absurd hb (hbegins _ _ _)

theorem starting (h : Asking ctx s history) (live : s.stopped = false)
    (hbegins : ∀ n now answers, ¬ Begins n now answers m) (notice : Notice) (now : Nat) :
    Asking ctx (State.startCycle ctx { s with notice } now) (history ++ [m]) := by
  rw [State.startCycle_eq]
  refine h.quiet hbegins rfl (Nat.le_succ _) ?_ ?_
    fun hstopped => absurd (live.symm.trans hstopped) nofun
  · intro t ht hp
    rcases List.mem_append.mp ht with hold | hnew
    · exact Or.inl (mem_tasksAtStart_of_isRunning hold (by rw [hp]; rfl))
    · obtain rfl := List.mem_singleton.mp hnew
      exact Or.inr (Nat.lt_succ_self _)
  · intro t ht due panels hp
    rcases List.mem_append.mp ht with hold | hnew
    · exact mem_tasksAtStart_of_isRunning hold (by rw [hp]; rfl)
    · obtain rfl := List.mem_singleton.mp hnew
      cases hp

/-- A task that comes to an end asks for nothing. -/
theorem ending (h : Asking ctx s history) (hbegins : ∀ n now answers, ¬ Begins n now answers m)
    {progress : Progress} (hended : progress.isRunning = false) (n : Nat) :
    Asking ctx (s.setProgress n progress) (history ++ [m]) := by
  refine h.quiet hbegins rfl (Nat.le_refl _) ?_ ?_ ?_
  · intro t ht hp
    rcases State.mem_setProgress ht with rfl | ⟨hold, -⟩
    · obtain rfl : progress = .queued := hp
      cases hended
    · exact Or.inl hold
  · intro t ht due panels hp
    rcases State.mem_setProgress ht with rfl | ⟨hold, -⟩
    · obtain rfl : progress = .primary due panels := hp
      cases hended
    · exact hold
  · intro hstopped t ht
    rcases State.mem_setProgress ht with rfl | ⟨hold, -⟩
    · exact hended
    · exact h.ended hstopped t hold

/-- Fewer tasks ask for no more. -/
theorem leaving (h : Asking ctx s history) (hbegins : ∀ n now answers, ¬ Begins n now answers m)
    (hrequests : s'.requests = s.requests) (hlast : s'.lastStarted = s.lastStarted)
    (hstopped : s'.stopped = s.stopped) (htasks : ∀ t ∈ s'.tasks, t ∈ s.tasks) :
    Asking ctx s' (history ++ [m]) :=
  h.quiet hbegins hrequests (Nat.le_of_eq hlast.symm) (fun t ht _ => Or.inl (htasks t ht))
    (fun t ht _ _ _ => htasks t ht) fun hs t ht => h.ended (hstopped.symm.trans hs) t (htasks t ht)

theorem step (h : Asking ctx s history) (hnumbered : Numbered s) (e : Event) :
    Asking ctx (s.step ctx e) (history ++ [⟨s, e⟩]) := by
  by_cases hb : ∃ n now answers, Begins n now answers ⟨s, e⟩
  · obtain ⟨n, now, answers, hb⟩ := hb
    exact h.beginning hnumbered hb
  push Not at hb
  have hchange := Moment.change ctx ⟨s, e⟩
  simp only [Moment.after] at hchange
  generalize s.step ctx e = s' at hchange
  cases hchange with
  | idle | noted => exact h.leaving hb rfl rfl rfl fun _ ht => ht
  | started now notice live => exact h.starting live hb notice now
  | begun t now answers he ht hp =>
      obtain ⟨cycle, progress⟩ := t
      obtain rfl : progress = .queued := hp
      exact absurd ⟨he, ht⟩ (hb cycle now answers)
  | proceeded t now answers he ht due panels hp ready =>
      exact h.proceeding hnumbered ht hp ready hb _ _ _ _
  | completed t | crashed t => exact h.ending hb rfl t.cycle
  | joined t snapshot =>
      rw [State.publish_landed_eq]
      exact h.leaving hb rfl rfl rfl fun u hu => (State.mem_removeTask.mp hu).1
  | dropped t => exact h.leaving hb rfl rfl rfl fun u hu => (State.mem_removeTask.mp hu).1
  | halted =>
      have hended : ∀ t ∈ s.tasks.map Task.abort, t.progress.isRunning = false := by
        intro t ht
        obtain ⟨u, -, rfl⟩ := List.mem_map.mp ht
        exact u.isRunning_abort
      refine h.quiet hb rfl (Nat.le_refl _) ?_ ?_ fun _ => hended
      · intro t ht hp
        have := hended t ht
        rw [hp] at this
        cases this
      · intro t ht due panels hp
        have := hended t ht
        rw [hp] at this
        cases this

end Asking

theorem asking_initial (ctx : Context) (openedAt : Int) : Asking ctx (.initial openedAt) [] where
  ran := by simp [State.initial, State.requestsOf]
  asked := by simp
  queued := by simp [State.initial]
  primary := by simp [State.initial]
  known := by simp [State.initial]
  ended := by simp [State.initial]

theorem asking_run (ctx : Context) (openedAt : Int) (events : List Event) :
    Asking ctx (State.run ctx (.initial openedAt) events)
      (State.moments ctx (.initial openedAt) events) :=
  State.history_induction (P := fun s history => Asking ctx s history)
    (asking_initial ctx openedAt)
    (fun events e h => h.step (numbered_run ctx openedAt events) e) events

/-! ## Who asks -/

theorem mem_running : n ∈ s.running ↔ ∃ t ∈ s.tasks, t.progress.isRunning = true ∧ t.cycle = n := by
  simp [State.running, and_assoc]

/-- A task that has ended is the only one of its cycle. -/
theorem Numbered.not_mem_running (h : Numbered s) {t : Task} (ht : t ∈ s.tasks)
    (hended : t.progress.isRunning = false) : t.cycle ∉ s.running := by
  intro hmem
  obtain ⟨u, hu, hrunning, hcycle⟩ := mem_running.mp hmem
  have hsame := h.progress_eq hu
  rw [hcycle, h.progress_eq ht] at hsame
  rw [← Option.some.inj hsame, hended] at hrunning
  cases hrunning

/-- Putting a running task into another state makes no other one run. -/
theorem running_setProgress {t : Task} {progress : Progress} (ht : t ∈ s.tasks)
    (hrunning : progress.isRunning = true → t.progress.isRunning = true)
    (hn : n ∈ (s.setProgress t.cycle progress).running) : n ∈ s.running := by
  obtain ⟨u, hu, hurunning, rfl⟩ := mem_running.mp hn
  rcases State.mem_setProgress hu with rfl | ⟨hold, -⟩
  · exact mem_running.mpr ⟨t, ht, hrunning hurunning, rfl⟩
  · exact mem_running.mpr ⟨u, hold, hurunning, rfl⟩

theorem running_of_subset {tasks : List Task} (h : ∀ t ∈ tasks, t ∈ s.tasks)
    (hn : n ∈ ({ s with tasks } : State).running) : n ∈ s.running := by
  obtain ⟨t, ht, hrunning, rfl⟩ := mem_running.mp hn
  exact mem_running.mpr ⟨t, h t ht, hrunning, rfl⟩

/-- Only a cycle that is under way asks for something. -/
theorem Moment.mem_requests {r : Request} (hr : r ∈ m.requests ctx) :
    r.cycle ∈ m.before.running ∧ ∃ answers, m.event = .begin r.cycle r.instant answers ∨
      m.event = .proceed r.cycle r.instant answers := by
  rcases m.requests_cases ctx with hsame | ⟨t, ht, hrunning, now, answers, endpoints, he, hnew⟩
  · rw [requests_eq_nil hsame] at hr
    cases hr
  · rw [requests_eq hnew] at hr
    obtain ⟨e, -, rfl⟩ := List.mem_map.mp (List.mem_reverse.mp hr)
    exact ⟨mem_running.mpr ⟨t, ht, hrunning, rfl⟩, answers, he⟩

/-- The requests of a run are those of its moments. -/
theorem requests_run (ctx : Context) (openedAt : Int) (events : List Event) :
    (State.run ctx (.initial openedAt) events).requests.reverse =
      (State.moments ctx (.initial openedAt) events).flatMap
        fun m => (m.requests ctx).reverse := by
  refine State.history_induction
    (P := fun s history => s.requests.reverse = history.flatMap fun m => (m.requests ctx).reverse)
    rfl (fun events e ih => ?_) events
  have hmore := Moment.requests_append ctx ⟨State.run ctx (.initial openedAt) events, e⟩
  rw [Moment.after] at hmore
  rw [hmore, List.reverse_append, ih, List.flatMap_append, List.flatMap_singleton]

/-- No cycle is under way again. -/
theorem Moment.running_cases (ctx : Context) (m : Moment) :
    m.before.lastStarted ≤ (m.after ctx).lastStarted ∧
      ∀ n ∈ (m.after ctx).running, n ∈ m.before.running ∨ m.before.lastStarted < n := by
  have hchange := m.change ctx
  generalize m.after ctx = s' at hchange ⊢
  cases hchange with
  | idle | noted => exact ⟨Nat.le_refl _, fun n hn => Or.inl hn⟩
  | started now notice =>
      rw [State.startCycle_eq]
      refine ⟨Nat.le_succ _, fun n hn => ?_⟩
      obtain ⟨t, ht, hrunning, rfl⟩ := mem_running.mp hn
      rcases List.mem_append.mp ht with hold | hnew
      · exact Or.inl (mem_running.mpr
          ⟨t, mem_tasksAtStart_of_isRunning hold hrunning, hrunning, rfl⟩)
      · obtain rfl := List.mem_singleton.mp hnew
        exact Or.inr (Nat.lt_succ_self _)
  | begun t now answers he ht hp =>
      exact ⟨Nat.le_refl _, fun n hn =>
        Or.inl (running_setProgress ht (fun _ => by rw [hp]; rfl) hn)⟩
  | proceeded t now answers he ht due panels hp =>
      exact ⟨Nat.le_refl _, fun n hn =>
        Or.inl (running_setProgress ht (fun _ => by rw [hp]; rfl) hn)⟩
  | completed t now he ht | crashed t ht =>
      exact ⟨Nat.le_refl _, fun n hn =>
        Or.inl (running_setProgress ht (by simp [Progress.isRunning]) hn)⟩
  | joined t snapshot =>
      rw [State.publish_landed_eq]
      exact ⟨Nat.le_refl _, fun n hn => Or.inl
        (running_of_subset (fun u hu => (State.mem_removeTask.mp hu).1) hn)⟩
  | dropped t =>
      exact ⟨Nat.le_refl _, fun n hn => Or.inl
        (running_of_subset (fun u hu => (State.mem_removeTask.mp hu).1) hn)⟩
  | halted =>
      refine ⟨Nat.le_refl _, fun n hn => ?_⟩
      obtain ⟨t, ht, hrunning, rfl⟩ := mem_running.mp hn
      obtain ⟨u, -, rfl⟩ := List.mem_map.mp ht
      rw [u.isRunning_abort] at hrunning
      cases hrunning

/-- A cycle that is not under way any more asks for nothing ever after. -/
theorem silent_run (hn : n ≤ s.lastStarted) (hover : n ∉ s.running) (events : List Event) :
    ∀ m ∈ State.moments ctx s events, ∀ r ∈ m.requests ctx, r.cycle ≠ n := by
  induction events generalizing s with
  | nil => simp [State.moments]
  | cons e rest ih =>
      obtain ⟨hlast, hrunning⟩ := Moment.running_cases ctx ⟨s, e⟩
      intro m hm r hr
      rcases List.mem_cons.mp hm with rfl | hlater
      · rintro rfl
        exact hover (Moment.mem_requests hr).1
      · -- A cycle that comes under way is a new one, with a higher number.
        have hstill : n ∉ (s.step ctx e).running := fun hmem =>
          (hrunning n hmem).elim hover (Nat.not_lt.mpr hn)
        exact ih (Nat.le_trans hn hlast) hstill m hlater r hr

/-! ## What is waited for -/

/-- Whether a cycle may be waiting for what it has asked for. -/
def Progress.awaits : Progress → Endpoint → Bool
  | .primary .., .source _ => true
  | .metrics .., .gauge _ => true
  | _, _ => false

/-- The requests of all phases that have not ended. No other ones are on
their way, for a phase that ends leaves none behind. -/
def State.awaited (s : State) : List Request :=
  s.requests.filter fun r => (s.task? r.cycle).any fun t => t.progress.awaits r.endpoint

/-- Only one phase is waited for at a time. -/
theorem Progress.countP_awaits_le (p : Progress) :
    (Endpoint.primary ++ Endpoint.gauges).countP p.awaits ≤ 4 := by
  cases p with
  | queued | finished | crashed | aborted => exact Nat.zero_le _
  | primary => exact (by decide : 3 ≤ 4)
  | metrics => exact Nat.le_refl 4

theorem Progress.isRunning_of_awaits {p : Progress} {e : Endpoint} (h : p.awaits e = true) :
    p.isRunning = true := by
  cases p with
  | queued | primary | metrics => rfl
  | finished | crashed | aborted => cases h

/-- Where one cycle is under way at most, no more than its four gauges are
waited for. -/
theorem Asking.length_awaited_le (h : Asking ctx s history) (halone : ∀ k ∈ s.running, k = n) :
    s.awaited.length ≤ 4 := by
  obtain ⟨p, hp⟩ : ∃ p : Progress, ∀ e,
      (s.task? n).any (fun t => t.progress.awaits e) = p.awaits e := by
    cases s.task? n with
    | none => exact ⟨.aborted, fun _ => rfl⟩
    | some t => exact ⟨t.progress, fun _ => rfl⟩
  -- What is waited for belongs to the cycle under way, and to the phase it is in.
  have hown : ∀ r ∈ s.requests, (s.task? r.cycle).any (fun t => t.progress.awaits r.endpoint) →
      (p.awaits r.endpoint && decide (r.cycle = n)) = true := by
    intro r hr hawaits
    obtain ⟨t, htask, hrunning⟩ := (Option.any_eq_true _ _).mp hawaits
    obtain ⟨ht, hcycle⟩ := State.task?_eq_some htask
    have hn : r.cycle = n :=
      halone _ (mem_running.mpr ⟨t, ht, Progress.isRunning_of_awaits hrunning, hcycle⟩)
    rw [hn, hp] at hawaits
    simp [hawaits, hn]
  calc s.awaited.length
      = s.requests.countP fun r => (s.task? r.cycle).any fun t => t.progress.awaits r.endpoint :=
        List.countP_eq_length_filter.symm
    _ ≤ s.requests.countP fun r => p.awaits r.endpoint && decide (r.cycle = n) :=
        List.countP_mono_left hown
    _ = ((s.requestsOf n).map Request.endpoint).countP p.awaits := by
        rw [State.requestsOf, List.countP_map, List.countP_filter, List.countP_reverse]
        rfl
    _ ≤ (Endpoint.primary ++ Endpoint.gauges).countP p.awaits := (h.sublist n).countP_le
    _ ≤ 4 := p.countP_awaits_le

/-- Under the policy that ends the previous cycle, four requests are on their
way at most. -/
theorem awaited_run (policy : ctx.overlap = .cancelPrevious) (openedAt : Int)
    (events : List Event) : (State.run ctx (.initial openedAt) events).awaited.length ≤ 4 := by
  refine (asking_run ctx openedAt events).length_awaited_le
    (n := (State.run ctx (.initial openedAt) events).lastStarted) fun k hk => ?_
  rcases (succeeding_run policy openedAt events).running_cases
    (numbered_run ctx openedAt events) with hnone | hone
  · rw [hnone] at hk
    cases hk
  · rw [hone] at hk
    exact List.mem_singleton.mp hk

end Dashboard.Poller
