import Dashboard.Proofs.Poller.Numbering
import Dashboard.Proofs.Poller.StandIn

/-!
# Where a snapshot comes from

A task carries what its cycle has found out so far. `Told` says where that
comes from: from the replies to the requests that this cycle itself has
started, and from nothing else. A task that has not run has asked for
nothing; one in a phase holds the result of that phase on its replies; one
that has ended holds the snapshot that the whole cycle makes of them.

An event that asks for something asks for one cycle, and a number belongs to
one task, so every other task keeps its contents and its replies. With that
`Sourced` is kept by every event. It also says what can be on display: what
was taken up from a task that had ended, and stand-ins.

`Genuine.madeFrom` then turns the matter around. Whatever would answer the
requests of the cycle as they were answered makes the same snapshot.
-/

namespace Dashboard.Poller

open Fetch

/-- A cycle has asked for some endpoints, and each was answered as `answers`
says. -/
structure Consulted (heard : List (Request × Answer)) (cycle : Nat) (endpoints : List Endpoint)
    (answers : Answers) : Prop where
  only : ∀ r ∈ heard, r.1.cycle = cycle →
    r.1.endpoint ∈ endpoints ∧ answers r.1.endpoint = r.2
  all : ∀ e ∈ endpoints, ∃ r ∈ heard, r.1.cycle = cycle ∧ r.1.endpoint = e

/-- A snapshot is what its cycle makes of what it asked for. -/
def Genuine (ctx : Context) (heard : List (Request × Answer)) (p : Snapshot) : Prop :=
  ∃ answers, Consulted heard p.cycle (asked ctx.primaryBatch answers) answers ∧
    (runCycle ctx p.cycle p.completedAt answers).snapshot = some p

/-- What a task carries comes from the replies to its own requests. -/
def Told (ctx : Context) (heard : List (Request × Answer)) (t : Task) : Prop :=
  match t.progress with
  | .queued => ∀ r ∈ heard, r.1.cycle ≠ t.cycle
  | .primary _ panels =>
    ∃ answers, Consulted heard t.cycle (primaryPhase ctx.primaryBatch answers).started answers ∧
      (primaryPhase ctx.primaryBatch answers).result = panels
  | .metrics _ panels outcome =>
    ∃ answers, Consulted heard t.cycle (asked ctx.primaryBatch answers) answers ∧
      (primaryPhase ctx.primaryBatch answers).result = some panels ∧
      (metricsPhase answers).result = outcome
  | .finished p => p.cycle = t.cycle ∧ Genuine ctx heard p
  | .crashed | .aborted => True

variable {ctx : Context} {heard new : List (Request × Answer)}

/-! ## The replies of other cycles do not matter -/

theorem Consulted.append {cycle : Nat} {endpoints : List Endpoint} {answers : Answers}
    (h : Consulted heard cycle endpoints answers) (hnew : ∀ r ∈ new, r.1.cycle ≠ cycle) :
    Consulted (heard ++ new) cycle endpoints answers where
  only := fun r hr hcycle => by
    rcases List.mem_append.mp hr with hold | hfresh
    · exact h.only r hold hcycle
    · exact absurd hcycle (hnew r hfresh)
  all := fun e he => by
    obtain ⟨r, hr, hr'⟩ := h.all e he
    exact ⟨r, List.mem_append_left _ hr, hr'⟩

theorem Genuine.append {p : Snapshot} (h : Genuine ctx heard p)
    (hnew : ∀ r ∈ new, r.1.cycle ≠ p.cycle) : Genuine ctx (heard ++ new) p := by
  obtain ⟨answers, hconsulted, hp⟩ := h
  exact ⟨answers, hconsulted.append hnew, hp⟩

theorem Told.append {t : Task} (h : Told ctx heard t) (hnew : ∀ r ∈ new, r.1.cycle ≠ t.cycle) :
    Told ctx (heard ++ new) t := by
  obtain ⟨cycle, progress⟩ := t
  cases progress with
  | queued =>
      intro r hr
      rcases List.mem_append.mp hr with hold | hfresh
      · exact h r hold
      · exact hnew r hfresh
  | primary due panels =>
      obtain ⟨answers, hconsulted, hpanels⟩ := h
      exact ⟨answers, hconsulted.append hnew, hpanels⟩
  | metrics due panels outcome =>
      obtain ⟨answers, hconsulted, hresults⟩ := h
      exact ⟨answers, hconsulted.append hnew, hresults⟩
  | finished p =>
      obtain ⟨hcycle, hgenuine⟩ := h
      exact ⟨hcycle, hgenuine.append fun r hr => by rw [hcycle]; exact hnew r hr⟩
  | crashed => trivial
  | aborted => trivial

/-! ## The steps of one task -/

/-- A task that runs for the first time has asked for its first phase. -/
theorem told_primary {cycle now : Nat} {answers : Answers}
    (hnone : ∀ r ∈ heard, r.1.cycle ≠ cycle)
    (hnew : ∀ r, r ∈ new ↔ ∃ e ∈ (primaryPhase ctx.primaryBatch answers).started,
      r = (⟨now, cycle, e⟩, answers e)) (due : Nat) :
    Told ctx (heard ++ new)
      ⟨cycle, .primary due (primaryPhase ctx.primaryBatch answers).result⟩ := by
  refine ⟨answers, ⟨?_, ?_⟩, rfl⟩
  · intro r hr hcycle
    rcases List.mem_append.mp hr with hold | hfresh
    · exact absurd hcycle (hnone r hold)
    · obtain ⟨e, he, rfl⟩ := (hnew r).mp hfresh
      exact ⟨he, rfl⟩
  · intro e he
    exact ⟨_, List.mem_append_right _ ((hnew _).mpr ⟨e, he, rfl⟩), rfl, rfl⟩

/-- A task that goes on to its second phase has asked for both. -/
theorem told_metrics {cycle now due : Nat} {panels : PrimaryPanels} {answers : Answers}
    (h : Told ctx heard ⟨cycle, .primary due (some panels)⟩)
    (hnew : ∀ r, r ∈ new ↔ ∃ e ∈ (metricsPhase answers).started,
      r = (⟨now, cycle, e⟩, answers e)) (due' : Nat) :
    Told ctx (heard ++ new) ⟨cycle, .metrics due' panels (metricsPhase answers).result⟩ := by
  obtain ⟨first, hconsulted, hpanels⟩ := h
  -- The two phases ask for different things, so one set of answers does for both.
  have hprimary := primaryPhase_combine ctx.primaryBatch first answers
  have hmetrics := metricsPhase_combine first answers
  refine ⟨combine first answers, ⟨?_, ?_⟩, by rw [hprimary]; exact hpanels, by rw [hmetrics]⟩
  · intro r hr hcycle
    rw [asked, hprimary, hmetrics, List.mem_append]
    rcases List.mem_append.mp hr with hold | hfresh
    · obtain ⟨hmem, hanswer⟩ := hconsulted.only r hold hcycle
      refine ⟨Or.inl hmem, ?_⟩
      obtain ⟨s, hs⟩ := primaryPhase_started_subset hmem
      rw [← hanswer, hs]
      rfl
    · obtain ⟨e, he, rfl⟩ := (hnew r).mp hfresh
      refine ⟨Or.inr he, ?_⟩
      obtain ⟨g, rfl⟩ := metricsPhase_started_subset he
      rfl
  · intro e he
    rw [asked, hprimary, hmetrics, List.mem_append] at he
    rcases he with hfirst | hsecond
    · obtain ⟨r, hr, hr'⟩ := hconsulted.all e hfirst
      exact ⟨r, List.mem_append_left _ hr, hr'⟩
    · exact ⟨_, List.mem_append_right _ ((hnew _).mpr ⟨e, hsecond, rfl⟩), rfl, rfl⟩

/-- A task that ends holds the snapshot of its cycle. -/
theorem told_finished {cycle due : Nat} {panels : PrimaryPanels} {outcome : MetricsOutcome}
    (h : Told ctx heard ⟨cycle, .metrics due panels (some outcome)⟩) (completedAt : Int) :
    Told ctx heard ⟨cycle, .finished (snapshotOf ctx cycle completedAt panels outcome)⟩ := by
  obtain ⟨answers, hconsulted, hpanels, houtcome⟩ := h
  exact ⟨rfl, answers, hconsulted,
    runCycle_snapshot_eq_some_iff.mpr ⟨panels, outcome, hpanels, houtcome, rfl⟩⟩

theorem told_of_aborted {t : Task} (h : t.progress = .aborted) : Told ctx heard t := by
  unfold Told
  rw [h]
  trivial

theorem told_abort {t : Task} (h : Told ctx heard t) : Told ctx heard t.abort := by
  rcases t.abort_cases with haborted | ⟨hsame, -⟩
  · exact told_of_aborted haborted
  · rw [hsame]
    exact h

/-! ## A whole poller -/

/-- Tasks and published snapshots come from where they should. -/
structure Sourced (ctx : Context) (s : State) (history : List Moment) : Prop where
  known : ∀ r ∈ Poller.heard ctx history, r.1.cycle ≤ s.lastStarted
  told : ∀ t ∈ s.tasks, Told ctx (Poller.heard ctx history) t
  genuine : ∀ p ∈ joins history, Genuine ctx (Poller.heard ctx history) p
  bounded : ∀ p ∈ joins history, 1 ≤ p.cycle ∧ p.cycle ≤ s.lastStarted
  /-- What was taken up has no task any more. -/
  gone : ∀ p ∈ joins history, p.cycle ∉ s.cycles
  /-- No cycle is taken up twice. -/
  distinct : (joins history).Pairwise fun p q => p.cycle ≠ q.cycle
  published : ∀ p ∈ s.published, p ∈ joins history ∨ IsStandIn ctx p

variable {s s' : State} {history : List Moment} {m : Moment}

/-- An event that neither asks for anything nor takes anything up. -/
theorem Sourced.quiet (h : Sourced ctx s history) (hreplies : m.replies ctx = [])
    (hjoined : m.joined? = none) (hlast : s.lastStarted ≤ s'.lastStarted)
    (htold : ∀ t ∈ s'.tasks, Told ctx (Poller.heard ctx history) t)
    (hcycles : ∀ c ∈ s'.cycles, c ∈ s.cycles ∨ s.lastStarted < c)
    (hpublished : ∀ p ∈ s'.published, p ∈ s.published ∨ IsStandIn ctx p) :
    Sourced ctx s' (history ++ [m]) := by
  have hheard : Poller.heard ctx (history ++ [m]) = Poller.heard ctx history := by
    rw [heard_concat, hreplies, List.append_nil]
  have hjoins : joins (history ++ [m]) = joins history := joins_concat_of_none hjoined
  constructor
  · rw [hheard]
    exact fun r hr => Nat.le_trans (h.known r hr) hlast
  · rw [hheard]
    exact htold
  · rw [hheard, hjoins]
    exact h.genuine
  · rw [hjoins]
    exact fun p hp => ⟨(h.bounded p hp).1, Nat.le_trans (h.bounded p hp).2 hlast⟩
  · rw [hjoins]
    intro p hp hmem
    rcases hcycles _ hmem with hold | hnew
    · exact h.gone p hp hold
    · have := (h.bounded p hp).2
      omega
  · rw [hjoins]
    exact h.distinct
  · rw [hjoins]
    intro p hp
    rcases hpublished p hp with hold | hstand
    · exact h.published p hold
    · exact Or.inr hstand

/-- An event that asks for the requests of one task. -/
theorem Sourced.asking (h : Sourced ctx s history) {t : Task} {progress : Progress}
    (ht : t ∈ s.tasks) (hreplies : ∀ r ∈ m.replies ctx, r.1.cycle = t.cycle)
    (hjoined : m.joined? = none) (hlast : s'.lastStarted = s.lastStarted)
    (htasks : s'.tasks = (s.setProgress t.cycle progress).tasks)
    (htold : Told ctx (Poller.heard ctx history ++ m.replies ctx) ⟨t.cycle, progress⟩)
    (hnumbered : Numbered s) (hpublished : s'.published = s.published) :
    Sourced ctx s' (history ++ [m]) := by
  have hjoins : joins (history ++ [m]) = joins history := joins_concat_of_none hjoined
  have hcycles : s'.cycles = s.cycles := by
    rw [State.cycles, htasks]
    exact cycles_setProgress s t.cycle progress
  constructor
  · rw [heard_concat, hlast]
    intro r hr
    rcases List.mem_append.mp hr with hold | hfresh
    · exact h.known r hold
    · rw [hreplies r hfresh]
      exact (hnumbered.bounded _ (mem_cycles ht)).2
  · rw [heard_concat, htasks]
    intro u hu
    rcases State.mem_setProgress hu with rfl | ⟨hold, hne⟩
    · exact htold
    · -- The new replies are of the task at work, so this one keeps its own.
      exact (h.told u hold).append fun r hr => by rw [hreplies r hr]; exact hne.symm
  · rw [heard_concat, hjoins]
    -- Nor are they of a cycle that was taken up, since that has no task.
    intro p hp
    refine (h.genuine p hp).append fun r hr hcycle => h.gone p hp ?_
    rw [← hcycle, hreplies r hr]
    exact mem_cycles ht
  · rw [hjoins, hlast]
    exact h.bounded
  · rw [hjoins, hcycles]
    exact h.gone
  · rw [hjoins]
    exact h.distinct
  · rw [hjoins, hpublished]
    exact h.published

/-- What a task that has ended holds is the result of its own cycle. -/
theorem Sourced.told_of_finished (h : Sourced ctx s history) {t : Task} {p : Snapshot}
    (ht : t ∈ s.tasks) (hp : t.progress = .finished p) :
    p.cycle = t.cycle ∧ Genuine ctx (Poller.heard ctx history) p := by
  have htold := h.told t ht
  rw [Told, hp] at htold
  exact htold

theorem Sourced.joining (h : Sourced ctx s history) {t : Task} {snapshot : Snapshot}
    (ht : t ∈ s.tasks) (hp : t.progress = .finished snapshot) (hnumbered : Numbered s)
    (hreplies : m.replies ctx = []) (hjoined : m.joined? = some snapshot) :
    Sourced ctx (((s.released.removeTask t.cycle).landed t.cycle).publish snapshot)
      (history ++ [m]) := by
  have hheard : Poller.heard ctx (history ++ [m]) = Poller.heard ctx history := by
    rw [heard_concat, hreplies, List.append_nil]
  have hjoins : joins (history ++ [m]) = joins history ++ [snapshot] :=
    joins_concat_of_some hjoined
  obtain ⟨hcycle, hgenuine⟩ := h.told_of_finished ht hp
  rw [State.publish_landed_eq]
  constructor
  · rw [hheard]
    exact h.known
  · rw [hheard]
    exact fun u hu => h.told u (State.mem_removeTask.mp hu).1
  · rw [hheard, hjoins]
    intro p hp'
    rcases List.mem_append.mp hp' with hold | hnew
    · exact h.genuine p hold
    · obtain rfl := List.mem_singleton.mp hnew
      exact hgenuine
  · rw [hjoins]
    intro p hp'
    rcases List.mem_append.mp hp' with hold | hnew
    · exact h.bounded p hold
    · obtain rfl := List.mem_singleton.mp hnew
      rw [hcycle]
      exact hnumbered.bounded _ (mem_cycles ht)
  · rw [hjoins]
    intro p hp' hmem
    obtain ⟨u, hu, hucycle⟩ := List.mem_map.mp hmem
    obtain ⟨hold, hne⟩ := State.mem_removeTask.mp hu
    rcases List.mem_append.mp hp' with hpold | hpnew
    · exact h.gone p hpold (hucycle ▸ mem_cycles hold)
    · obtain rfl := List.mem_singleton.mp hpnew
      exact hne (hucycle.trans hcycle)
  · rw [hjoins, List.pairwise_append]
    refine ⟨h.distinct, List.pairwise_singleton _ _, ?_⟩
    intro p hpold q hq
    obtain rfl := List.mem_singleton.mp hq
    rw [hcycle]
    exact fun heq => h.gone p hpold (heq ▸ mem_cycles ht)
  · rw [hjoins]
    intro p hp'
    rcases State.mem_publishedWith hp' with rfl | hold
    · exact Or.inl (List.mem_append_right _ (List.mem_singleton_self _))
    · exact (h.published p hold).imp_left (List.mem_append_left _)

theorem mem_tasksAtStart {t : Task} (h : t ∈ s.tasksAtStart ctx) :
    t ∈ s.tasks ∨ ∃ u ∈ s.tasks, t = u.abort := by
  unfold State.tasksAtStart at h
  split at h
  · obtain ⟨u, hu, rfl⟩ := List.mem_map.mp h
    exact Or.inr ⟨u, hu, rfl⟩
  · exact Or.inl h

/-- Starting a cycle publishes nothing but a stand-in. -/
theorem mem_publishedAtStart {now : Nat} {p : Snapshot} (h : p ∈ s.publishedAtStart ctx now) :
    p ∈ s.published ∨ IsStandIn ctx p := by
  unfold State.publishedAtStart at h
  split at h
  · next cycle started _ _ =>
      rcases State.mem_publishedWith h with rfl | hold
      · exact Or.inr (isStandIn_standIn ctx cycle _ _)
      · exact Or.inl hold
  · exact Or.inl h

theorem Sourced.starting (h : Sourced ctx s history) (notice : Notice) (now : Nat)
    (hreplies : m.replies ctx = []) (hjoined : m.joined? = none) :
    Sourced ctx (State.startCycle ctx { s with notice } now) (history ++ [m]) := by
  rw [State.startCycle_eq]
  refine h.quiet hreplies hjoined (Nat.le_succ _) ?_ ?_ fun p hp => mem_publishedAtStart hp
  · intro t ht
    rcases List.mem_append.mp ht with hold | hnew
    · rcases mem_tasksAtStart hold with hsame | ⟨u, hu, rfl⟩
      · exact h.told t hsame
      · exact told_abort (h.told u hu)
    · obtain rfl := List.mem_singleton.mp hnew
      intro r hr hcycle
      have := h.known r hr
      simp only at hcycle
      omega
  · intro c hc
    simp only [State.cycles, List.map_append, List.map_cons, List.map_nil] at hc
    rw [cycles_tasksAtStart] at hc
    rcases List.mem_append.mp hc with hold | hnew
    · exact Or.inl hold
    · obtain rfl := List.mem_singleton.mp hnew
      exact Or.inr (Nat.lt_succ_self _)

theorem Sourced.step (h : Sourced ctx s history) (hnumbered : Numbered s) (e : Event) :
    Sourced ctx (s.step ctx e) (history ++ [⟨s, e⟩]) := by
  have hquiet : (s.step ctx e).requests = s.requests →
      (⟨s, e⟩ : Moment).replies ctx = [] := fun hsame => Moment.replies_eq_nil hsame
  have hasked := @Moment.mem_replies ctx ⟨s, e⟩
  have hchange := Moment.change ctx ⟨s, e⟩
  simp only [Moment.after] at hchange hasked
  generalize s.step ctx e = s' at hchange hasked hquiet
  cases hchange with
  | idle _ hj =>
      exact h.quiet (hquiet rfl) hj (Nat.le_refl _) h.told (fun c hc => Or.inl hc)
        fun p hp => Or.inl hp
  | noted notice he hs hj =>
      exact h.quiet (hquiet rfl) hj (Nat.le_refl _) h.told (fun c hc => Or.inl hc)
        fun p hp => Or.inl hp
  | started now notice live _ hj =>
      refine h.starting notice now (hquiet ?_) hj
      rw [State.startCycle_eq]
  | begun t now answers he ht hp =>
      obtain rfl : e = .begin t.cycle now answers := he
      have hnew : ∀ r, r ∈ (⟨s, .begin t.cycle now answers⟩ : Moment).replies ctx ↔
          ∃ e ∈ (primaryPhase ctx.primaryBatch answers).started,
            r = (⟨now, t.cycle, e⟩, answers e) := fun r => hasked rfl rfl
      have hnone : ∀ r ∈ Poller.heard ctx history, r.1.cycle ≠ t.cycle := by
        have := h.told t ht
        rw [Told, hp] at this
        exact this
      refine h.asking ht (fun r hr => ?_) (by simp [Moment.joined?]) rfl rfl
        (told_primary hnone hnew _) hnumbered rfl
      obtain ⟨_, _, rfl⟩ := (hnew r).mp hr
      rfl
  | proceeded t now answers he ht due panels hp =>
      obtain rfl : e = .proceed t.cycle now answers := he
      have hnew : ∀ r, r ∈ (⟨s, .proceed t.cycle now answers⟩ : Moment).replies ctx ↔
          ∃ e ∈ (metricsPhase answers).started, r = (⟨now, t.cycle, e⟩, answers e) :=
        fun r => hasked rfl rfl
      have htold : Told ctx (Poller.heard ctx history) ⟨t.cycle, .primary due (some panels)⟩ := by
        rw [← hp]
        exact h.told t ht
      refine h.asking ht (fun r hr => ?_) (by simp [Moment.joined?]) rfl rfl
        (told_metrics htold hnew _) hnumbered rfl
      obtain ⟨_, _, rfl⟩ := (hnew r).mp hr
      rfl
  | completed t now he ht due panels outcome hp =>
      obtain rfl : e = .complete t.cycle now := he
      have htold : Told ctx (Poller.heard ctx history)
          ⟨t.cycle, .metrics due panels (some outcome)⟩ := by
        rw [← hp]
        exact h.told t ht
      have hreplies := hquiet rfl
      refine h.asking ht (by simp [hreplies]) (by simp [Moment.joined?]) rfl rfl ?_ hnumbered rfl
      rw [hreplies, List.append_nil]
      exact told_finished htold _
  | crashed t ht _ hj =>
      have hreplies := hquiet rfl
      exact h.asking ht (by simp [hreplies]) hj rfl rfl trivial hnumbered rfl
  | joined t snapshot live he hj ht hp =>
      refine h.joining ht hp hnumbered (hquiet ?_) hj
      rw [State.publish_landed_eq]
  | dropped t live he hj ht hp =>
      refine h.quiet (hquiet rfl) hj (Nat.le_refl _)
        (fun u hu => h.told u (State.mem_removeTask.mp hu).1) (fun c hc => Or.inl ?_)
        fun p hp => Or.inl hp
      obtain ⟨u, hu, rfl⟩ := List.mem_map.mp hc
      exact mem_cycles (State.mem_removeTask.mp hu).1
  | halted he =>
      obtain rfl : e = .shutdown := he
      refine h.quiet (hquiet rfl) (by simp [Moment.joined?]) (Nat.le_refl _) (fun t ht => ?_)
        (fun c hc => Or.inl ?_) fun p hp => Or.inl hp
      · obtain ⟨u, hu, rfl⟩ := List.mem_map.mp ht
        exact told_abort (h.told u hu)
      · simp only [State.cycles] at hc
        rw [cycles_map_abort] at hc
        exact hc

theorem sourced_initial (ctx : Context) (openedAt : Int) :
    Sourced ctx (State.initial openedAt) [] where
  known := by simp [Poller.heard]
  told := by simp [State.initial]
  genuine := by simp [joins]
  bounded := by simp [joins]
  gone := by simp [joins]
  distinct := List.Pairwise.nil
  published := by simp [State.initial]

theorem sourced_run (ctx : Context) (openedAt : Int) (events : List Event) :
    Sourced ctx (State.run ctx (.initial openedAt) events)
      (State.moments ctx (.initial openedAt) events) :=
  State.history_induction (sourced_initial ctx openedAt)
    (fun events e h => h.step (numbered_run ctx openedAt events) e) events

/-! ## Every request is heard of -/

/-- A moment hears of the requests that it adds. -/
theorem Moment.map_fst_replies (ctx : Context) (m : Moment) :
    (m.replies ctx).map Prod.fst ++ m.before.requests = (m.after ctx).requests := by
  rcases m.requests_cases ctx with hsame | ⟨t, -, -, now, answers, endpoints, he, hnew⟩
  · rw [replies_eq_nil hsame, hsame]
    rfl
  · have ha : m.event.answers? = some answers := by
      rcases he with he | he <;> rw [he] <;> rfl
    rw [hnew, replies, ha, requests_eq hnew]
    simp [Function.comp_def]

theorem perm_requests_run (ctx : Context) (openedAt : Int) (events : List Event) :
    ((Poller.heard ctx (State.moments ctx (.initial openedAt) events)).map Prod.fst).Perm
      (State.run ctx (.initial openedAt) events).requests := by
  refine State.history_induction
    (P := fun s history => ((Poller.heard ctx history).map Prod.fst).Perm s.requests)
    (List.Perm.refl _) (fun events e h => ?_) events
  have hstep := Moment.map_fst_replies ctx ⟨State.run ctx (.initial openedAt) events, e⟩
  simp only [Moment.after] at hstep
  rw [heard_concat, List.map_append, ← hstep]
  exact (h.append_right _).trans List.perm_append_comm

/-! ## What a snapshot was made from -/

/-- The requests of a cycle came back with what `answers` says. -/
def Answered (heard : List (Request × Answer)) (cycle : Nat) (answers : Answers) : Prop :=
  ∀ r ∈ heard, r.1.cycle = cycle → answers r.1.endpoint = r.2

/-- A snapshot is the result of its own cycle, and it is fixed by the replies
to the requests of that cycle. -/
structure MadeFrom (ctx : Context) (heard : List (Request × Answer)) (p : Snapshot) : Prop where
  answered : ∃ answers, Answered heard p.cycle answers
  result : ∀ answers, Answered heard p.cycle answers →
    (runCycle ctx p.cycle p.completedAt answers).snapshot = some p

theorem Genuine.madeFrom {p : Snapshot} (h : Genuine ctx heard p) : MadeFrom ctx heard p := by
  obtain ⟨answers, hconsulted, hp⟩ := h
  refine ⟨⟨answers, fun r hr hcycle => (hconsulted.only r hr hcycle).2⟩, fun other hother => ?_⟩
  rw [← hp]
  refine runCycle_snapshot_congr fun e he => ?_
  obtain ⟨r, hr, hcycle, rfl⟩ := hconsulted.all e he
  rw [(hconsulted.only r hr hcycle).2, hother r hr hcycle]

theorem Genuine.not_isStandIn {p : Snapshot} (h : Genuine ctx heard p) : ¬ IsStandIn ctx p := by
  obtain ⟨answers, -, hp⟩ := h
  exact not_isStandIn_of_runCycle hp

end Dashboard.Poller
