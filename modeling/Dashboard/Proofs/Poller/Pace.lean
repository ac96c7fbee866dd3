import Dashboard.Proofs.Fetch.Policies
import Dashboard.Proofs.Poller.Timeline

/-!
# A cycle that keeps its time

Where no request takes longer than the deadline, a phase takes no longer
either, and a cycle no longer than two. `Timely` says it of a task on its
way: by when its phase ends at the latest, counted from the tick that
started it. The poller is then `Idle`, with every cycle so far on display, or
`Working` on the latest one, with all others on display.

The lemmas follow a task through one instant. It runs, goes on to its second
phase and ends, as far as it can, and what has ended is taken up; then the
poller is idle or the task waits for a later instant.
-/

namespace Dashboard.Poller

open Fetch

/-! ## Backends that neither crash nor are waited for too long -/

/-- No request crashes or takes longer than it may. -/
def Prompt (ctx : Context) (answers : Answers) : Prop :=
  ∀ e, (answers e).outcome ≠ .crashed ∧ (answers e).after ≤ ctx.timeout

/-- No reply of a backend takes the cycle down. -/
def Harmless (β : Type) [Backend β] : Prop :=
  ∀ (backend : β) (now : Nat) (e : Endpoint), (Backend.reply backend now e).outcome ≠ .crashed

theorem Harmless.prompt {β : Type} [Backend β] (h : Harmless β) (ctx : Context) (backend : β)
    (now : Nat) : Prompt ctx (Backend.answers backend now ctx.timeout) := fun e =>
  ⟨within_not_crashed (h backend now e) ctx.timeout e.path,
    Reply.within_after_le (Backend.reply backend now e) ctx.timeout e.path⟩

/-! ## States -/

/-- When the timer starts a cycle. -/
def startOf (ctx : Context) (cycle : Nat) : Nat := (cycle - 1) * ctx.interval

theorem startOf_succ (ctx : Context) (n : Nat) : startOf ctx (n + 1) = n * ctx.interval := rfl

/-- How far a cycle may be at an instant. -/
def Timely (ctx : Context) (cycle now : Nat) : Progress → Prop
  | .queued => now = startOf ctx cycle
  | .primary due panels =>
    (∃ p, panels = some p) ∧ now ≤ due ∧ due ≤ startOf ctx cycle + ctx.timeout
  | .metrics due _ outcome =>
    (∃ o, outcome = some o) ∧ now ≤ due ∧ due ≤ startOf ctx cycle + 2 * ctx.timeout
  | .finished p => p.cycle = cycle ∧ now ≤ startOf ctx cycle + 2 * ctx.timeout
  | .crashed | .aborted => False

/-- The numbers from a number down to one. -/
def countdown : Nat → List Nat
  | 0 => []
  | n + 1 => (n + 1) :: countdown n

theorem mem_countdown {k n : Nat} : k ∈ countdown n ↔ 1 ≤ k ∧ k ≤ n := by
  induction n with
  | zero => simp [countdown]; omega
  | succ n ih => rw [countdown, List.mem_cons, ih]; omega

/-- Every cycle has been taken up and is on display, each once. -/
structure Idle (s : State) : Prop where
  live : s.stopped = false
  calm : s.pending = 0
  tasks : s.tasks = []
  flight : s.inFlight = none
  shown : s.published.map Snapshot.cycle = countdown s.lastStarted

/-- The latest cycle is under way, and every other is on display. -/
structure Working (ctx : Context) (now n : Nat) (progress : Progress) (s : State) : Prop where
  live : s.stopped = false
  calm : s.pending = 0
  last : s.lastStarted = n + 1
  tasks : s.tasks = [⟨n + 1, progress⟩]
  flight : ∃ start, s.inFlight = some (n + 1, start)
  shown : s.published.map Snapshot.cycle = countdown n
  timely : Timely ctx (n + 1) now progress

variable {ctx : Context} {now n : Nat} {progress : Progress} {s : State}

/-! ## One task -/

namespace Working

theorem progress_eq (h : Working ctx now n progress s) :
    (s.task? (n + 1)).map Task.progress = some progress := by
  simp [State.task?, h.tasks]

/-- The task of the latest cycle comes to another state in time. -/
theorem setProgress (h : Working ctx now n progress s) {progress' : Progress}
    (ht : Timely ctx (n + 1) now progress') :
    Working ctx now n progress' (s.setProgress (n + 1) progress') where
  live := h.live
  calm := h.calm
  last := h.last
  tasks := by simp [State.setProgress, h.tasks]
  flight := h.flight
  shown := h.shown
  timely := ht

theorem logRequests (h : Working ctx now n progress s) (cycle instant : Nat)
    (endpoints : List Endpoint) :
    Working ctx now n progress (s.logRequests cycle instant endpoints) :=
  ⟨h.live, h.calm, h.last, h.tasks, h.flight, h.shown, h.timely⟩

/-- A task that runs is no longer queued. -/
theorem begin (h : Working ctx now n progress s) {answers : Answers} (ha : Prompt ctx answers) :
    ∃ progress', Working ctx now n progress' (s.step ctx (.begin (n + 1) now answers)) ∧
      progress' ≠ .queued := by
  have hstep : s.step ctx (.begin (n + 1) now answers) =
      s.beginCycle ctx (n + 1) now answers := by simp [State.step, h.live]
  rw [hstep]
  have htimely := h.timely
  cases hp : progress with
  | queued =>
      rw [hp] at htimely
      obtain ⟨panels, hpanels⟩ := primaryPhase_isSome ctx.primaryBatch fun s => (ha (.source s)).1
      have hafter : (primaryPhase ctx.primaryBatch answers).after ≤ ctx.timeout :=
        primaryPhase_after_le fun e => (ha e).2
      have hbegin : s.beginCycle ctx (n + 1) now answers =
          (s.setProgress (n + 1) (.primary (now + (primaryPhase ctx.primaryBatch answers).after)
            (primaryPhase ctx.primaryBatch answers).result)).logRequests (n + 1) now
              (primaryPhase ctx.primaryBatch answers).started := by
        simp [State.beginCycle, h.progress_eq, hp]
      generalize primaryPhase ctx.primaryBatch answers = phase at hpanels hafter hbegin
      rw [hbegin]
      refine ⟨_, (h.setProgress ?_).logRequests _ _ _, by simp⟩
      have hnow : now = startOf ctx (n + 1) := htimely
      exact ⟨⟨panels, hpanels⟩, by omega, by omega⟩
  | primary | metrics | finished | crashed | aborted =>
      have hbegin : s.beginCycle ctx (n + 1) now answers = s := by
        simp [State.beginCycle, h.progress_eq, hp]
      rw [hbegin]
      exact ⟨progress, h, by simp [hp]⟩

/-- A task whose first phase has ended is in its second one. -/
theorem proceed (h : Working ctx now n progress s) (hran : progress ≠ .queued)
    {answers : Answers} (ha : Prompt ctx answers) :
    ∃ progress', Working ctx now n progress' (s.step ctx (.proceed (n + 1) now answers)) ∧
      progress' ≠ .queued ∧ ∀ due panels, progress' = .primary due panels → now < due := by
  have hstep : s.step ctx (.proceed (n + 1) now answers) =
      s.proceedCycle (n + 1) now answers := by simp [State.step, h.live]
  rw [hstep]
  have htimely := h.timely
  cases hp : progress with
  | queued => exact absurd hp hran
  | primary due panels =>
      rw [hp] at htimely
      obtain ⟨⟨p, rfl⟩, hle, hdue⟩ := htimely
      by_cases hearly : now < due
      · have hproceed : s.proceedCycle (n + 1) now answers = s := by
          simp [State.proceedCycle, h.progress_eq, hp, hearly]
        rw [hproceed]
        refine ⟨progress, h, hran, fun due' panels' heq => ?_⟩
        obtain ⟨rfl, -⟩ := Progress.primary.inj (hp.symm.trans heq)
        exact hearly
      · obtain ⟨outcome, houtcome⟩ := metricsPhase_isSome fun g => (ha (.gauge g)).1
        have hafter : (metricsPhase answers).after ≤ ctx.timeout :=
          metricsPhase_after_le fun e => (ha e).2
        have hproceed : s.proceedCycle (n + 1) now answers =
            (s.setProgress (n + 1) (.metrics (now + (metricsPhase answers).after) p
              (metricsPhase answers).result)).logRequests (n + 1) now
                (metricsPhase answers).started := by
          simp [State.proceedCycle, h.progress_eq, hp, hearly]
        generalize metricsPhase answers = phase at houtcome hafter hproceed
        rw [hproceed]
        refine ⟨_, (h.setProgress ?_).logRequests _ _ _, by simp, by simp⟩
        exact ⟨⟨outcome, houtcome⟩, by omega, by omega⟩
  | metrics | finished | crashed | aborted =>
      have hproceed : s.proceedCycle (n + 1) now answers = s := by
        simp [State.proceedCycle, h.progress_eq, hp]
      rw [hproceed]
      exact ⟨progress, h, hran, by simp [hp]⟩

/-- A task whose second phase has ended has its snapshot. -/
theorem complete (h : Working ctx now n progress s) (hran : progress ≠ .queued)
    (hphase : ∀ due panels, progress = .primary due panels → now < due) :
    ∃ progress', Working ctx now n progress' (s.step ctx (.complete (n + 1) now)) ∧
      (now < Clock.dueOf ⟨n + 1, progress'⟩ ∨ ∃ p, progress' = .finished p) := by
  have hstep : s.step ctx (.complete (n + 1) now) = s.completeCycle ctx (n + 1) now := by
    simp [State.step, h.live]
  rw [hstep]
  have htimely := h.timely
  cases hp : progress with
  | queued => exact absurd hp hran
  | primary due panels =>
      have hcomplete : s.completeCycle ctx (n + 1) now = s := by
        simp [State.completeCycle, h.progress_eq, hp]
      rw [hcomplete]
      refine ⟨progress, h, Or.inl ?_⟩
      rw [hp]
      exact hphase due panels hp
  | metrics due panels outcome =>
      rw [hp] at htimely
      obtain ⟨⟨o, rfl⟩, hle, hdue⟩ := htimely
      by_cases hearly : now < due
      · have hcomplete : s.completeCycle ctx (n + 1) now = s := by
          simp [State.completeCycle, h.progress_eq, hp, hearly]
        rw [hcomplete]
        refine ⟨progress, h, Or.inl ?_⟩
        rw [hp]
        exact hearly
      · have hcomplete : s.completeCycle ctx (n + 1) now =
            s.setProgress (n + 1)
              (.finished (snapshotOf ctx (n + 1) (s.timeOf now) panels o)) := by
          simp [State.completeCycle, h.progress_eq, hp, hearly]
        rw [hcomplete]
        exact ⟨_, h.setProgress ⟨rfl, by omega⟩, Or.inr ⟨_, rfl⟩⟩
  | finished p =>
      have hcomplete : s.completeCycle ctx (n + 1) now = s := by
        simp [State.completeCycle, h.progress_eq, hp]
      rw [hcomplete]
      exact ⟨progress, h, Or.inr ⟨p, hp⟩⟩
  | crashed | aborted =>
      rw [hp] at htimely
      exact htimely.elim

/-- A snapshot that is there is taken up and goes on display. -/
theorem join (h : Working ctx now n progress s)
    (hdone : now < Clock.dueOf ⟨n + 1, progress⟩ ∨ ∃ p, progress = .finished p) :
    (Idle (s.step ctx (.join (n + 1))) ∧ (s.step ctx (.join (n + 1))).lastStarted = n + 1) ∨
      (Working ctx now n progress (s.step ctx (.join (n + 1))) ∧
        now < Clock.dueOf ⟨n + 1, progress⟩) := by
  have hstep : s.step ctx (.join (n + 1)) = s.joinTask (n + 1) := by simp [State.step, h.live]
  rw [hstep]
  have htimely := h.timely
  have hwaiting : now < Clock.dueOf ⟨n + 1, progress⟩ → s.joinTask (n + 1) = s := by
    intro hlate
    cases hp : progress with
    | primary due panels => simp [State.joinTask, h.progress_eq, hp]
    | metrics due panels outcome => simp [State.joinTask, h.progress_eq, hp]
    | queued | finished | crashed | aborted =>
        rw [hp] at hlate
        exact absurd hlate (Nat.not_lt_zero now)
  rcases hdone with hlate | ⟨p, hp⟩
  · rw [hwaiting hlate]
    exact Or.inr ⟨h, hlate⟩
  · refine Or.inl ?_
    rw [hp] at htimely
    obtain ⟨hcycle, -⟩ := htimely
    obtain ⟨start, hflight⟩ := h.flight
    have hjoin : s.joinTask (n + 1) =
        ((s.released.removeTask (n + 1)).landed (n + 1)).publish p := by
      simp [State.joinTask, h.progress_eq, hp]
    have hpublished : s.publishedWith p = p :: s.published := by
      rcases s.publishedWith_cases p with ⟨heq, -⟩ | ⟨-, q, hshown, hlt⟩
      · exact heq
      · -- Every cycle on display is an earlier one.
        have hq : q.cycle ∈ s.published.map Snapshot.cycle :=
          List.mem_map_of_mem (List.mem_of_mem_head? hshown)
        rw [h.shown, mem_countdown] at hq
        omega
    rw [hjoin, State.publish_landed_eq, hpublished]
    have hidle : Idle { s with
        tasks := (s.removeTask (n + 1)).tasks
        inFlight := s.inFlight.filter fun f => f.1 != n + 1
        notice := s.notice.release
        published := p :: s.published } := {
      live := h.live
      calm := State.pending_released h.calm
      tasks := by simp [State.removeTask, h.tasks]
      flight := by simp [hflight]
      shown := by simp [h.shown, h.last, hcycle, countdown] }
    exact ⟨hidle, h.last⟩

theorem listen (h : Working ctx now n progress s) :
    Working ctx now n progress (s.step ctx .listen) := by
  rw [State.step_listen ctx h.live]
  exact ⟨h.live, (Notice.pending_listen s.notice).trans h.calm, h.last, h.tasks, h.flight, h.shown,
    h.timely⟩

/-- A task that waits is in one of its phases, which ends in time. -/
theorem due_le (h : Working ctx now n progress s)
    (hlate : now < Clock.dueOf ⟨n + 1, progress⟩) :
    Clock.dueOf ⟨n + 1, progress⟩ ≤ startOf ctx (n + 1) + 2 * ctx.timeout := by
  have htimely := h.timely
  cases hp : progress with
  | primary due panels =>
      rw [hp] at htimely
      have hdue : due ≤ startOf ctx (n + 1) + ctx.timeout := htimely.2.2
      show due ≤ _
      omega
  | metrics due panels outcome =>
      rw [hp] at htimely
      exact htimely.2.2
  | queued | finished | crashed | aborted =>
      rw [hp] at hlate
      exact absurd hlate (Nat.not_lt_zero now)

/-- Until its phase ends nothing happens to a task. -/
theorem wait (h : Working ctx now n progress s) (hlate : now < Clock.dueOf ⟨n + 1, progress⟩)
    {later : Nat} (hle : later ≤ Clock.dueOf ⟨n + 1, progress⟩) :
    Working ctx later n progress s := by
  refine ⟨h.live, h.calm, h.last, h.tasks, h.flight, h.shown, ?_⟩
  have htimely := h.timely
  cases hp : progress with
  | primary due panels =>
      rw [hp] at htimely hle
      exact ⟨htimely.1, hle, htimely.2.2⟩
  | metrics due panels outcome =>
      rw [hp] at htimely hle
      exact ⟨htimely.1, hle, htimely.2.2⟩
  | queued | finished | crashed | aborted =>
      rw [hp] at hlate
      exact absurd hlate (Nat.not_lt_zero now)

end Working

/-! ## The start of a cycle -/

/-- Nothing has to be ended when an idle poller starts a cycle. -/
theorem Idle.step_tick (h : Idle s) (ctx : Context) (now : Nat) :
    s.step ctx (.tick now) =
      { s with
        lastStarted := s.lastStarted + 1
        inFlight := some (s.lastStarted + 1, now)
        notice := s.notice.release
        tasks := [⟨s.lastStarted + 1, .queued⟩] } := by
  have hstep : s.step ctx (.tick now) = s.released.startCycle ctx now := by
    simp [State.step, h.live]
  have hstart := State.startCycle_eq ctx s s.notice.release now
  have htasks : s.tasksAtStart ctx = [] := by
    simp only [State.tasksAtStart, h.tasks]
    split <;> rfl
  have hpublished : s.publishedAtStart ctx now = s.published := by
    simp only [State.publishedAtStart, h.flight]
    cases ctx.overlap <;> rfl
  rw [htasks, hpublished] at hstart
  rw [hstep]
  exact hstart

theorem Idle.listen (h : Idle s) (ctx : Context) : Idle (s.step ctx .listen) := by
  rw [State.step_listen ctx h.live]
  exact ⟨h.live, (Notice.pending_listen s.notice).trans h.calm, h.tasks, h.flight, h.shown⟩

theorem Idle.tick (h : Idle s) (hlast : s.lastStarted = n) (hnow : now = startOf ctx (n + 1)) :
    Working ctx now n .queued (s.step ctx (.tick now)) := by
  rw [h.step_tick]
  subst hlast
  exact {
    live := h.live
    calm := State.pending_released h.calm
    last := rfl
    tasks := rfl
    flight := ⟨now, rfl⟩
    shown := h.shown
    timely := hnow }

end Dashboard.Poller
