import Dashboard.Proofs.Poller.History

/-!
# What one event can do to a poller

`Change` lists all that can come of an event, one case for each, with what
the poller knew and what it looks like afterwards; `Moment.change` says that
the list is complete. An invariant is then kept by going through the cases,
and the step function is never opened again.

The two operations that look at the state before they change it are written
here as plain updates: `startCycle_eq` for the start of a cycle and
`publish_landed_eq` for taking one up. What they look at has a name of its
own, `publishedWith` for the guard of the display and `publishedAtStart` for
what starting a cycle does to it.
-/

namespace Dashboard.Poller

open Fetch

/-! ## Calls -/

namespace Notice

variable {n n' : Notice}

theorem take?_eq_none_iff : n.take? = none ↔ n.pending = 0 := by
  rcases n with (_ | _) | _ | (_ | _) <;> decide

theorem pending_of_take? (h : n.take? = some n') : n'.pending + 1 = n.pending := by
  rcases n with (_ | _) | _ | (_ | _) <;> cases h <;> rfl

theorem pending_call_le (n : Notice) : n.call.pending ≤ n.pending + 1 := by
  rcases n with (_ | _) | _ | (_ | _) <;> decide

theorem pending_call_pos (n : Notice) : 0 < n.call.pending := by
  rcases n with (_ | _) | _ | (_ | _) <;> decide

@[simp]
theorem pending_listen (n : Notice) : n.listen.pending = n.pending := by
  rcases n with (_ | _) | _ | (_ | _) <;> rfl

theorem listen_of_pending (h : n.pending = 0) : n.listen = .waiting := by
  rcases n with (_ | _) | _ | (_ | _) <;> first | rfl | cases h

/-- A poller that leaves its wait may have two calls merged, and loses none. -/
theorem pending_release_le (n : Notice) : n.release.pending ≤ n.pending := by
  rcases n with (_ | _) | _ | (_ | _) <;> decide

theorem pending_release_pos_iff : 0 < n.release.pending ↔ 0 < n.pending := by
  rcases n with (_ | _) | _ | (_ | _) <;> decide

end Notice

/-! ## Tasks -/

theorem Task.cycle_abort (t : Task) : t.abort.cycle = t.cycle := by
  unfold abort
  split <;> rfl

/-- An aborted task had not ended, and every other task is as it was. -/
theorem Task.abort_cases (t : Task) :
    t.abort.progress = .aborted ∨ (t.abort = t ∧ t.progress.isRunning = false) := by
  unfold abort
  split
  · exact Or.inl rfl
  · next h => exact Or.inr ⟨rfl, by simpa using h⟩

theorem Task.isRunning_abort (t : Task) : t.abort.progress.isRunning = false := by
  rcases t.abort_cases with h | ⟨h, hended⟩
  · rw [h]; rfl
  · rw [h]; exact hended

namespace State

theorem task?_eq_some {s : State} {cycle : Nat} {t : Task} (h : s.task? cycle = some t) :
    t ∈ s.tasks ∧ t.cycle = cycle :=
  ⟨List.mem_of_find?_eq_some h, by simpa using List.find?_some h⟩

theorem mem_setProgress {s : State} {cycle : Nat} {progress : Progress} {t : Task}
    (h : t ∈ (s.setProgress cycle progress).tasks) :
    t = ⟨cycle, progress⟩ ∨ (t ∈ s.tasks ∧ t.cycle ≠ cycle) := by
  obtain ⟨u, hu, rfl⟩ := List.mem_map.mp h
  split
  · exact Or.inl rfl
  · next hne => exact Or.inr ⟨hu, hne⟩

theorem mem_removeTask {s : State} {cycle : Nat} {t : Task} :
    t ∈ (s.removeTask cycle).tasks ↔ t ∈ s.tasks ∧ t.cycle ≠ cycle := by
  simp [removeTask]

/-! ## The display -/

/-- What has been published once a snapshot is offered. -/
def publishedWith (s : State) (snapshot : Snapshot) : List Snapshot :=
  if s.accepts snapshot then snapshot :: s.published else s.published

theorem accepts_iff {s : State} {snapshot : Snapshot} :
    s.accepts snapshot = true ↔ ∀ p, s.shown? = some p → p.cycle ≤ snapshot.cycle := by
  unfold accepts
  split
  · next shown h => simp [h]
  · next h => simp [h]

/-- An offer is taken, or a newer snapshot is on display and stays. -/
theorem publishedWith_cases (s : State) (snapshot : Snapshot) :
    (s.publishedWith snapshot = snapshot :: s.published ∧
        ∀ p, s.shown? = some p → p.cycle ≤ snapshot.cycle) ∨
      (s.publishedWith snapshot = s.published ∧
        ∃ p, s.shown? = some p ∧ snapshot.cycle < p.cycle) := by
  unfold publishedWith
  by_cases h : s.accepts snapshot = true
  · rw [if_pos h]
    exact Or.inl ⟨rfl, accepts_iff.mp h⟩
  · rw [if_neg h]
    rw [accepts_iff] at h
    push Not at h
    obtain ⟨p, hp, hnewer⟩ := h
    exact Or.inr ⟨rfl, p, hp, by omega⟩

theorem mem_publishedWith {s : State} {snapshot p : Snapshot}
    (h : p ∈ s.publishedWith snapshot) : p = snapshot ∨ p ∈ s.published := by
  rcases s.publishedWith_cases snapshot with ⟨hpub, -⟩ | ⟨hpub, -⟩
  · rw [hpub] at h
    exact List.mem_cons.mp h
  · rw [hpub] at h
    exact Or.inr h

theorem publish_eq (s : State) (snapshot : Snapshot) :
    s.publish snapshot = { s with published := s.publishedWith snapshot } := by
  unfold publish publishedWith
  split <;> rfl

theorem landed_eq (s : State) (cycle : Nat) :
    s.landed cycle = { s with inFlight := s.inFlight.filter fun f => f.1 != cycle } := by
  obtain ⟨_, _, inFlight, _, _, _, _, _⟩ := s
  unfold landed
  cases inFlight with
  | none => rfl
  | some f =>
      by_cases h : f.1 = cycle
      · simp [Option.filter, h]
      · simp [Option.filter, h]

theorem publish_landed_eq (s : State) (cycle : Nat) (snapshot : Snapshot) :
    ((s.released.removeTask cycle).landed cycle).publish snapshot =
      { s with
        tasks := (s.removeTask cycle).tasks
        inFlight := s.inFlight.filter fun f => f.1 != cycle
        notice := s.notice.release
        published := s.publishedWith snapshot } := by
  rw [publish_eq, landed_eq]
  rfl

/-! ## The wait -/

/-- Nothing is asked for by leaving the wait. -/
theorem pending_released {s : State} (h : s.pending = 0) : s.released.pending = 0 :=
  Nat.le_zero.mp (h ▸ Notice.pending_release_le s.notice)

theorem step_listen (ctx : Context) {s : State} (live : s.stopped = false) :
    s.step ctx .listen = { s with notice := s.notice.listen } := by
  simp [step, live]

@[simp] theorem notice_beginCycle (ctx : Context) (s : State) (cycle now : Nat)
    (answers : Answers) : (s.beginCycle ctx cycle now answers).notice = s.notice := by
  unfold beginCycle
  split <;> rfl

@[simp] theorem notice_proceedCycle (s : State) (cycle now : Nat) (answers : Answers) :
    (s.proceedCycle cycle now answers).notice = s.notice := by
  unfold proceedCycle
  split
  · split
    · rfl
    · split <;> rfl
  · rfl

@[simp] theorem notice_completeCycle (ctx : Context) (s : State) (cycle now : Nat) :
    (s.completeCycle ctx cycle now).notice = s.notice := by
  unfold completeCycle
  split
  · split
    · rfl
    · split <;> rfl
  · rfl

/-! ## The start of a cycle -/

/-- The tasks once the previous cycles have been dealt with. -/
def tasksAtStart (ctx : Context) (s : State) : List Task :=
  match ctx.overlap with
  | .cancelPrevious => s.tasks.map Task.abort
  | .concurrent => s.tasks

/-- What has been published once the previous cycles have been dealt with. -/
def publishedAtStart (ctx : Context) (s : State) (now : Nat) : List Snapshot :=
  match ctx.overlap, s.inFlight with
  | .cancelPrevious, some (cycle, started) =>
    s.publishedWith (standIn ctx cycle (now - started) (s.timeOf now))
  | _, _ => s.published

theorem startCycle_eq (ctx : Context) (s : State) (notice : Notice) (now : Nat) :
    startCycle ctx { s with notice } now =
      { s with
        notice
        lastStarted := s.lastStarted + 1
        inFlight := some (s.lastStarted + 1, now)
        tasks := s.tasksAtStart ctx ++ [⟨s.lastStarted + 1, .queued⟩]
        published := s.publishedAtStart ctx now } := by
  unfold startCycle tasksAtStart publishedAtStart
  cases ctx.overlap with
  | concurrent => rfl
  | cancelPrevious =>
      unfold supersede
      cases s.inFlight with
      | none => rfl
      | some f =>
          simp only [publish_eq]
          rfl

end State

/-! ## The list of changes -/

/-- All that can come of an event. -/
inductive Change (ctx : Context) (m : Moment) : State → Prop where
  /-- The event does not fit the state. -/
  | idle (hs : m.started? = none) (hj : m.joined? = none) : Change ctx m m.before
  /-- A refresh is asked for, or the poller begins to wait for that. -/
  | noted (notice : Notice) (he : m.event = .notify ∨ m.event = .listen)
      (hs : m.started? = none) (hj : m.joined? = none) : Change ctx m { m.before with notice }
  /-- A cycle starts. -/
  | started (now : Nat) (notice : Notice) (live : m.before.stopped = false)
      (hs : m.started? = some (m.before.lastStarted + 1, now)) (hj : m.joined? = none) :
      Change ctx m (State.startCycle ctx { m.before with notice } now)
  /-- A task runs for the first time. -/
  | begun (t : Task) (now : Nat) (answers : Answers) (he : m.event = .begin t.cycle now answers)
      (ht : t ∈ m.before.tasks) (hp : t.progress = .queued) :
      Change ctx m
        ((m.before.setProgress t.cycle
            (.primary (now + (primaryPhase ctx.primaryBatch answers).after)
              (primaryPhase ctx.primaryBatch answers).result)).logRequests
          t.cycle now (primaryPhase ctx.primaryBatch answers).started)
  /-- A task goes on to its second phase. -/
  | proceeded (t : Task) (now : Nat) (answers : Answers)
      (he : m.event = .proceed t.cycle now answers) (ht : t ∈ m.before.tasks) (due : Nat)
      (panels : PrimaryPanels) (hp : t.progress = .primary due (some panels)) (ready : due ≤ now) :
      Change ctx m
        ((m.before.setProgress t.cycle
            (.metrics (now + (metricsPhase answers).after) panels
              (metricsPhase answers).result)).logRequests
          t.cycle now (metricsPhase answers).started)
  /-- A task ends with a snapshot. -/
  | completed (t : Task) (now : Nat) (he : m.event = .complete t.cycle now)
      (ht : t ∈ m.before.tasks) (due : Nat) (panels : PrimaryPanels) (outcome : MetricsOutcome)
      (hp : t.progress = .metrics due panels (some outcome)) :
      Change ctx m
        (m.before.setProgress t.cycle
          (.finished (snapshotOf ctx t.cycle (m.before.timeOf now) panels outcome)))
  /-- A task is taken down. -/
  | crashed (t : Task) (ht : t ∈ m.before.tasks) (hs : m.started? = none)
      (hj : m.joined? = none) (ran : t.progress ≠ .queued) :
      Change ctx m (m.before.setProgress t.cycle .crashed)
  /-- A snapshot is taken up. -/
  | joined (t : Task) (snapshot : Snapshot) (live : m.before.stopped = false)
      (he : m.event = .join t.cycle) (hj : m.joined? = some snapshot) (ht : t ∈ m.before.tasks)
      (hp : t.progress = .finished snapshot) :
      Change ctx m (((m.before.released.removeTask t.cycle).landed t.cycle).publish snapshot)
  /-- A task without a snapshot is taken up. -/
  | dropped (t : Task) (live : m.before.stopped = false) (he : m.event = .join t.cycle)
      (hj : m.joined? = none) (ht : t ∈ m.before.tasks)
      (hp : t.progress = .crashed ∨ t.progress = .aborted) :
      Change ctx m (m.before.released.removeTask t.cycle)
  /-- The poller is shut down. -/
  | halted (he : m.event = .shutdown) :
      Change ctx m { m.before with stopped := true, tasks := m.before.tasks.map Task.abort }

/-- The case of an event that works on a task, by how far the task has come. -/
theorem task?_cases (s : State) (cycle : Nat) :
    (s.task? cycle).map Task.progress = none ∨
      ∃ t ∈ s.tasks, t.cycle = cycle ∧
        (s.task? cycle).map Task.progress = some t.progress := by
  cases h : s.task? cycle with
  | none => exact Or.inl rfl
  | some t =>
      obtain ⟨ht, hcycle⟩ := State.task?_eq_some h
      exact Or.inr ⟨t, ht, hcycle, rfl⟩

variable (ctx : Context)

theorem Moment.change_begin (s : State) (cycle now : Nat) (answers : Answers) :
    Change ctx ⟨s, .begin cycle now answers⟩ (s.beginCycle ctx cycle now answers) := by
  have hs : (⟨s, .begin cycle now answers⟩ : Moment).started? = none := by simp [started?]
  have hj : (⟨s, .begin cycle now answers⟩ : Moment).joined? = none := by simp [joined?]
  unfold State.beginCycle
  rcases task?_cases s cycle with hnone | ⟨t, ht, rfl, hsome⟩
  · simp only [hnone]
    exact .idle hs hj
  · simp only [hsome]
    split
    · next hp => exact .begun t now answers rfl ht (Option.some.inj hp)
    · exact .idle hs hj

theorem Moment.change_proceed (s : State) (cycle now : Nat) (answers : Answers) :
    Change ctx ⟨s, .proceed cycle now answers⟩ (s.proceedCycle cycle now answers) := by
  have hs : (⟨s, .proceed cycle now answers⟩ : Moment).started? = none := by simp [started?]
  have hj : (⟨s, .proceed cycle now answers⟩ : Moment).joined? = none := by simp [joined?]
  unfold State.proceedCycle
  rcases task?_cases s cycle with hnone | ⟨t, ht, rfl, hsome⟩
  · simp only [hnone]
    exact .idle hs hj
  · simp only [hsome]
    split
    · next due panels hp =>
        have hp := Option.some.inj hp
        split
        · exact .idle hs hj
        · next hready =>
            cases panels with
            | none => exact .crashed t ht hs hj (by simp [hp])
            | some panels =>
                exact .proceeded t now answers rfl ht due panels hp (Nat.le_of_not_lt hready)
    · exact .idle hs hj

theorem Moment.change_complete (s : State) (cycle now : Nat) :
    Change ctx ⟨s, .complete cycle now⟩ (s.completeCycle ctx cycle now) := by
  have hs : (⟨s, .complete cycle now⟩ : Moment).started? = none := by simp [started?]
  have hj : (⟨s, .complete cycle now⟩ : Moment).joined? = none := by simp [joined?]
  unfold State.completeCycle
  rcases task?_cases s cycle with hnone | ⟨t, ht, rfl, hsome⟩
  · simp only [hnone]
    exact .idle hs hj
  · simp only [hsome]
    split
    · next due panels outcome hp =>
        have hp := Option.some.inj hp
        split
        · exact .idle hs hj
        · cases outcome with
          | none => exact .crashed t ht hs hj (by simp [hp])
          | some outcome => exact .completed t now rfl ht due panels outcome hp
    · exact .idle hs hj

theorem Moment.change_join {s : State} (live : s.stopped = false) (cycle : Nat) :
    Change ctx ⟨s, .join cycle⟩ (s.joinTask cycle) := by
  have hs : (⟨s, .join cycle⟩ : Moment).started? = none := by simp [started?]
  unfold State.joinTask
  rcases task?_cases s cycle with hnone | ⟨t, ht, rfl, hsome⟩
  · simp only [hnone]
    exact .idle hs (by simp [joined?, hnone])
  · simp only [hsome]
    split
    · next snapshot hp =>
        have hp := Option.some.inj hp
        exact .joined t snapshot live rfl (by simp [joined?, live, hsome, hp]) ht hp
    · next hp =>
        have hp := Option.some.inj hp
        exact .dropped t live rfl (by simp [joined?, hsome, hp]) ht (Or.inl hp)
    · next hp =>
        have hp := Option.some.inj hp
        exact .dropped t live rfl (by simp [joined?, hsome, hp]) ht (Or.inr hp)
    · next hfinished _ _ =>
        refine .idle hs ?_
        simp only [joined?, live, hsome]
        split <;> simp_all

theorem Moment.change (m : Moment) : Change ctx m (m.after ctx) := by
  obtain ⟨s, e⟩ := m
  simp only [after, State.step]
  by_cases hstopped : s.stopped = true
  · rw [if_pos hstopped]
    exact .idle (by simp [started?, hstopped]) (by simp [joined?, hstopped])
  · rw [if_neg hstopped]
    have live : s.stopped = false := by simpa using hstopped
    cases e with
    | tick now =>
        exact .started now _ live (by simp [started?, live]) (by simp [joined?])
    | notify => exact .noted _ (Or.inl rfl) (by simp [started?]) (by simp [joined?])
    | listen => exact .noted _ (Or.inr rfl) (by simp [started?]) (by simp [joined?])
    | refresh now =>
        simp only []
        split
        · next notice htaken =>
            exact .started now notice live (by simp [started?, live, htaken]) (by simp [joined?])
        · next hnone => exact .idle (by simp [started?, hnone]) (by simp [joined?])
    | begin cycle now answers => exact change_begin ctx s cycle now answers
    | proceed cycle now answers => exact change_proceed ctx s cycle now answers
    | complete cycle now => exact change_complete ctx s cycle now
    | join cycle => exact change_join ctx live cycle
    | shutdown => exact .halted rfl

/-- A snapshot that is taken up goes on display, unless a newer one is there. -/
theorem Moment.joined_cases {m : Moment} {p : Snapshot} (h : m.joined? = some p) :
    (m.Publishes ctx p ∧ ∀ q, m.before.shown? = some q → q.cycle ≤ p.cycle) ∨
      ((m.after ctx).published = m.before.published ∧
        ∃ q, m.before.shown? = some q ∧ p.cycle < q.cycle) := by
  have hchange := m.change ctx
  unfold Publishes
  generalize m.after ctx = s' at hchange ⊢
  cases hchange with
  | joined t snapshot live he hj ht hp =>
      obtain rfl : snapshot = p := Option.some.inj (hj.symm.trans h)
      rw [State.publish_landed_eq]
      exact m.before.publishedWith_cases snapshot
  | idle hs hj => simp [hj] at h
  | started now notice live hs hj => simp [hj] at h
  | crashed t ht hs hj => simp [hj] at h
  | dropped t live he hj => simp [hj] at h
  | noted notice he hs hj => simp [hj] at h
  | begun t now answers he => simp [joined?, he] at h
  | proceeded t now answers he => simp [joined?, he] at h
  | completed t now he => simp [joined?, he] at h
  | halted he => simp [joined?, he] at h

/-! ## What is asked for -/

/-- An event asks for nothing, or it makes a task that is under way ask. -/
theorem Moment.requests_cases (m : Moment) :
    (m.after ctx).requests = m.before.requests ∨
      ∃ t ∈ m.before.tasks, t.progress.isRunning = true ∧
        ∃ (now : Nat) (answers : Answers) (endpoints : List Endpoint),
          (m.event = .begin t.cycle now answers ∨ m.event = .proceed t.cycle now answers) ∧
            (m.after ctx).requests =
              (endpoints.map (⟨now, t.cycle, ·⟩)).reverse ++ m.before.requests := by
  have hchange := m.change ctx
  generalize m.after ctx = s' at hchange ⊢
  cases hchange with
  | begun t now answers he ht hp =>
      exact Or.inr ⟨t, ht, by rw [hp]; rfl, now, answers, _, Or.inl he, rfl⟩
  | proceeded t now answers he ht due panels hp =>
      exact Or.inr ⟨t, ht, by rw [hp]; rfl, now, answers, _, Or.inr he, rfl⟩
  | started now notice =>
      rw [State.startCycle_eq]
      exact Or.inl rfl
  | joined t snapshot =>
      rw [State.publish_landed_eq]
      exact Or.inl rfl
  | idle | noted | completed | crashed | dropped | halted => exact Or.inl rfl

theorem Moment.requests_append (m : Moment) :
    (m.after ctx).requests = m.requests ctx ++ m.before.requests := by
  rcases m.requests_cases ctx with hsame | ⟨t, -, -, now, answers, endpoints, -, hnew⟩
  · rw [requests_eq_nil hsame, hsame]
    rfl
  · rw [requests_eq hnew, hnew]

end Dashboard.Poller
