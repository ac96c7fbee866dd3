import Dashboard.Proofs.Poller.Calls
import Dashboard.Proofs.Poller.Unhurried

/-!
# Whoever comes first

The clock handles what comes together in an order of its own. A poller does
not have to: when the timer ticks, a refresh is asked for and a task can go
on at the same instant, any of them may come first, and calls may come at any
time, whether the poller waits for them or not. `Reachable` has all of these
orders. Only two things are fixed. The timer ticks no earlier than it is due,
and time passes only when nothing is left to do and the poller waits
(`Quiet`), or after the end.

An invariant of `Reachable` is one of every schedule of calls and of every
order in which things are done. It is shown for one event, for a tick and for
a millisecond that passes, and nothing has to be said about the loop.

The rest of the file is about the loop nevertheless. Its clock is reachable
whatever is done with it, and it comes to rest at every instant, so time does
pass: a task that can go on goes on until it waits for a later instant or
has ended, and what has ended is taken up. Where the next instant is later
than the present one, the fuel of the loop is never used up.
-/

namespace Dashboard.Poller

open Fetch

variable {ctx : Context} {s : State} {n now : Nat}

namespace Clock

/-- Nothing can happen before time passes. -/
structure Quiet {β : Type} (c : Clock β) : Prop where
  ahead : c.now < c.nextTick
  calm : c.state.notice = .waiting
  waiting : ∀ t ∈ c.state.tasks, c.now < dueOf t

/-- What may reach a poller at the current instant, the timer apart. -/
inductive Offered {β : Type} [Backend β] (ctx : Context) (c : Clock β) : Event → Prop where
  | notify : Offered ctx c .notify
  | listen : Offered ctx c .listen
  | refresh : Offered ctx c (.refresh c.now)
  | begin (n : Nat) : Offered ctx c (.begin n c.now (c.answers ctx))
  | proceed (n : Nat) : Offered ctx c (.proceed n c.now (c.answers ctx))
  | complete (n : Nat) : Offered ctx c (.complete n c.now)
  | join (n : Nat) : Offered ctx c (.join n)
  | shutdown : Offered ctx c .shutdown

/-- The clocks that a poller can come to. -/
inductive Reachable {β : Type} [Backend β] (ctx : Context) (openedAt : Int) (backend : β) :
    Clock β → Prop where
  | initial : Reachable ctx openedAt backend (initial openedAt backend)
  | tick {c : Clock β} (h : Reachable ctx openedAt backend c) (live : c.state.stopped = false)
      (due : c.nextTick ≤ c.now) : Reachable ctx openedAt backend (c.handleTick ctx)
  | send {c : Clock β} {e : Event} (h : Reachable ctx openedAt backend c)
      (offered : Offered ctx c e) : Reachable ctx openedAt backend (c.send ctx e)
  | wait {c : Clock β} (h : Reachable ctx openedAt backend c)
      (idle : c.Quiet ∨ c.state.stopped = true) :
      Reachable ctx openedAt backend { c with now := c.now + 1 }

end Clock

/-! ## One task -/

/-- A task that has nothing left to do at an instant but to be taken up. -/
def Parked (now : Nat) (t : Task) : Prop := now < Clock.dueOf t ∨ t.progress.isRunning = false

theorem mem_begin (ctx : Context) (h : Numbered s) (live : s.stopped = false) {answers : Answers}
    {t : Task} (ht : t ∈ (s.step ctx (.begin n now answers)).tasks) :
    (t ∈ s.tasks ∧ (t.cycle = n → t.progress ≠ .queued)) ∨
      (t.cycle = n ∧ t.progress ≠ .queued) := by
  have hstep : s.step ctx (.begin n now answers) = s.beginCycle ctx n now answers := by
    simp [State.step, live]
  rw [hstep] at ht
  unfold State.beginCycle at ht
  split at ht
  · rcases State.mem_setProgress ht with rfl | ⟨hold, hne⟩
    · exact Or.inr ⟨rfl, by simp⟩
    · exact Or.inl ⟨hold, fun heq => absurd heq hne⟩
  · next hother =>
      refine Or.inl ⟨ht, ?_⟩
      rintro rfl hqueued
      exact hother ((h.progress_eq ht).trans (congrArg some hqueued))

theorem mem_proceed (ctx : Context) (h : Numbered s) (live : s.stopped = false) {answers : Answers}
    {t : Task} (ht : t ∈ (s.step ctx (.proceed n now answers)).tasks) :
    (t ∈ s.tasks ∧ (t.cycle = n → ∀ due panels, t.progress = .primary due panels → now < due)) ∨
      (t.cycle = n ∧ t.progress ≠ .queued ∧ ∀ due panels, t.progress ≠ .primary due panels) := by
  have hstep : s.step ctx (.proceed n now answers) = s.proceedCycle n now answers := by
    simp [State.step, live]
  rw [hstep] at ht
  unfold State.proceedCycle at ht
  split at ht
  · next due panels hprogress =>
      split at ht
      · next hearly =>
          refine Or.inl ⟨ht, ?_⟩
          rintro rfl due' panels' hp
          have heq := (h.progress_eq ht).symm.trans hprogress
          rw [hp] at heq
          cases heq
          exact hearly
      · split at ht
        · rcases State.mem_setProgress ht with rfl | ⟨hold, hne⟩
          · exact Or.inr ⟨rfl, by simp, by simp⟩
          · exact Or.inl ⟨hold, fun heq => absurd heq hne⟩
        · rcases State.mem_setProgress ht with rfl | ⟨hold, hne⟩
          · exact Or.inr ⟨rfl, by simp, by simp⟩
          · exact Or.inl ⟨hold, fun heq => absurd heq hne⟩
  · next hother =>
      refine Or.inl ⟨ht, ?_⟩
      rintro rfl due panels hp
      exact absurd ((h.progress_eq ht).trans (congrArg some hp)) (hother due panels)

theorem mem_complete (ctx : Context) (h : Numbered s) (live : s.stopped = false) {t : Task}
    (ht : t ∈ (s.step ctx (.complete n now)).tasks) :
    (t ∈ s.tasks ∧ (t.cycle = n →
        ∀ due panels outcome, t.progress = .metrics due panels outcome → now < due)) ∨
      (t.cycle = n ∧ t.progress.isRunning = false) := by
  have hstep : s.step ctx (.complete n now) = s.completeCycle ctx n now := by
    simp [State.step, live]
  rw [hstep] at ht
  unfold State.completeCycle at ht
  split at ht
  · next due panels outcome hprogress =>
      split at ht
      · next hearly =>
          refine Or.inl ⟨ht, ?_⟩
          rintro rfl due' panels' outcome' hp
          have heq := (h.progress_eq ht).symm.trans hprogress
          rw [hp] at heq
          cases heq
          exact hearly
      · split at ht
        · rcases State.mem_setProgress ht with rfl | ⟨hold, hne⟩
          · exact Or.inr ⟨rfl, rfl⟩
          · exact Or.inl ⟨hold, fun heq => absurd heq hne⟩
        · rcases State.mem_setProgress ht with rfl | ⟨hold, hne⟩
          · exact Or.inr ⟨rfl, rfl⟩
          · exact Or.inl ⟨hold, fun heq => absurd heq hne⟩
  · next hother =>
      refine Or.inl ⟨ht, ?_⟩
      rintro rfl due panels outcome hp
      exact absurd ((h.progress_eq ht).trans (congrArg some hp)) (hother due panels outcome)

theorem mem_join (ctx : Context) (h : Numbered s) (live : s.stopped = false) {t : Task}
    (ht : t ∈ (s.step ctx (.join n)).tasks) :
    t ∈ s.tasks ∧ (t.cycle = n → t.progress.isRunning = true) := by
  have hstep : s.step ctx (.join n) = s.joinTask n := by
    simp [State.step, live]
  rw [hstep] at ht
  unfold State.joinTask at ht
  split at ht
  · next snapshot hprogress =>
      rw [State.publish_landed_eq] at ht
      obtain ⟨hold, hne⟩ := State.mem_removeTask.mp ht
      exact ⟨hold, fun heq => absurd heq hne⟩
  · obtain ⟨hold, hne⟩ := State.mem_removeTask.mp ht
    exact ⟨hold, fun heq => absurd heq hne⟩
  · obtain ⟨hold, hne⟩ := State.mem_removeTask.mp ht
    exact ⟨hold, fun heq => absurd heq hne⟩
  · next hfinished hcrashed haborted =>
      refine ⟨ht, ?_⟩
      rintro rfl
      have heq := h.progress_eq ht
      cases hp : t.progress with
      | queued | primary | metrics => rfl
      | finished snapshot => exact absurd (heq.trans (congrArg some hp)) (hfinished snapshot)
      | crashed => exact absurd (heq.trans (congrArg some hp)) hcrashed
      | aborted => exact absurd (heq.trans (congrArg some hp)) haborted

/-- Only the end of the poller stops it. -/
theorem stopped_step (ctx : Context) (s : State) {e : Event} (he : e ≠ .shutdown) :
    (s.step ctx e).stopped = s.stopped := by
  have hchange := Moment.change ctx ⟨s, e⟩
  simp only [Moment.after] at hchange
  generalize s.step ctx e = s' at hchange
  cases hchange with
  | started =>
      rw [State.startCycle_eq]
  | joined =>
      rw [State.publish_landed_eq]
  | halted hshutdown => exact absurd hshutdown he
  | idle | noted | begun | proceeded | completed | crashed | dropped => rfl

/-- An event that neither starts a cycle nor comes from outside. -/
def Event.IsInner : Event → Prop
  | .listen | .begin .. | .proceed .. | .complete .. | .join _ => True
  | .tick _ | .notify | .refresh _ | .shutdown => False

/-- Such an event adds no call and does not end the poller. -/
theorem step_of_isInner (ctx : Context) (s : State) {e : Event} (he : e.IsInner) :
    (s.step ctx e).pending ≤ s.pending ∧ (s.step ctx e).stopped = s.stopped := by
  constructor
  · rcases Moment.pending_cases ctx ⟨s, e⟩ with ⟨hcall, -⟩ | ⟨-, hasked, -⟩ | ⟨-, -, hle, -⟩
    · cases e <;> first | exact he.elim | cases hcall
    · cases e <;> first | exact he.elim | cases hasked
    · exact hle
  · refine stopped_step ctx s fun heq => ?_
    rw [heq] at he
    exact he

theorem step_of_stopped (h : s.stopped = true) (e : Event) : s.step ctx e = s := by
  unfold State.step
  rw [if_pos h]

theorem live_of_step {e : Event} (h : (s.step ctx e).stopped = false) : s.stopped = false := by
  cases hstopped : s.stopped with
  | false => rfl
  | true => rw [step_of_stopped hstopped, hstopped] at h; cases h

namespace Clock

variable {β : Type} {c : Clock β}

/-! ## Rest -/

theorem lt_foldl_dueOf {tasks : List Task} {first t : Nat} :
    t < tasks.foldl (fun least u => min least (dueOf u)) first ↔
      t < first ∧ ∀ u ∈ tasks, t < dueOf u := by
  induction tasks generalizing first with
  | nil => simp
  | cons u rest ih =>
      rw [List.foldl_cons, ih, List.forall_mem_cons, Nat.lt_min, and_assoc]

/-- A clock at rest stays so until the next instant. -/
theorem Quiet.of_lt (h : c.Quiet) {t : Nat} (hlt : t < c.nextInstant) :
    ({ c with now := t } : Clock β).Quiet := by
  have hnow : c.now < c.state.tasks.foldl (fun least u => min least (dueOf u)) c.nextTick :=
    lt_foldl_dueOf.mpr ⟨h.ahead, h.waiting⟩
  have hleast : t < c.state.tasks.foldl (fun least u => min least (dueOf u)) c.nextTick := by
    unfold nextInstant at hlt
    omega
  obtain ⟨hahead, hwaiting⟩ := lt_foldl_dueOf.mp hleast
  exact ⟨hahead, h.calm, hwaiting⟩

theorem Quiet.now_lt (h : c.Quiet) : c.now < c.nextInstant :=
  Nat.lt_of_lt_of_le (lt_foldl_dueOf.mpr ⟨h.ahead, h.waiting⟩) (Nat.le_max_right _ _)

variable [Backend β] {openedAt : Int} {backend : β}

/-! ## What holds of every reachable clock -/

theorem Reachable.logged (h : Reachable ctx openedAt backend c) : Logged ctx openedAt c := by
  induction h with
  | initial => exact logged_initial ctx openedAt backend
  | @tick c _ _ due ih =>
      rw [handleTick, if_pos due]
      exact (ih.send (.tick c.now) :)
  | send _ _ ih => exact ih.send _
  | wait _ _ ih => exact ih

theorem Reachable.numbered (h : Reachable ctx openedAt backend c) : Numbered c.state := by
  rw [h.logged]
  exact numbered_run ctx openedAt c.events

/-- The timer is not behind, so its ticks are never late. -/
theorem Reachable.now_le (h : Reachable ctx openedAt backend c) (live : c.state.stopped = false) :
    c.now ≤ c.nextTick := by
  induction h with
  | initial => exact Nat.le_refl 0
  | @tick c h hlive due ih =>
      have hnow : c.now = c.nextTick := Nat.le_antisymm (ih hlive) due
      rw [handleTick_of_eq hnow]
      show c.now ≤ c.nextTick + ctx.interval
      omega
  | send _ _ ih => exact ih (live_of_step live)
  | wait _ idle ih =>
      rcases idle with hquiet | hstopped
      · exact hquiet.ahead
      · exact absurd (hstopped.symm.trans live) nofun

/-! ## The order of the clock -/

/-- A clock after some work of its tasks, at the same instant. -/
structure Stays (ctx : Context) (openedAt : Int) (backend : β) (c c' : Clock β) : Prop where
  reachable : Reachable ctx openedAt backend c'
  now : c'.now = c.now
  nextTick : c'.nextTick = c.nextTick
  pending : c'.state.pending ≤ c.state.pending
  live : c'.state.stopped = false

theorem Stays.refl (h : Reachable ctx openedAt backend c) (live : c.state.stopped = false) :
    Stays ctx openedAt backend c c := ⟨h, rfl, rfl, Nat.le_refl _, live⟩

theorem Stays.trans {c₁ c₂ : Clock β} (h : Stays ctx openedAt backend c c₁)
    (h' : Stays ctx openedAt backend c₁ c₂) : Stays ctx openedAt backend c c₂ where
  reachable := h'.reachable
  now := h'.now.trans h.now
  nextTick := h'.nextTick.trans h.nextTick
  pending := Nat.le_trans h'.pending h.pending
  live := h'.live

theorem Stays.send {c' : Clock β} (h : Stays ctx openedAt backend c c') {e : Event}
    (offered : Offered ctx c' e) (he : e.IsInner) :
    Stays ctx openedAt backend c (c'.send ctx e) := by
  obtain ⟨hpending, hstopped⟩ := step_of_isInner ctx c'.state he
  exact ⟨h.reachable.send offered, h.now, h.nextTick, Nat.le_trans hpending h.pending,
    hstopped.trans h.live⟩

theorem parked_of_waiting {t : Task} (hqueued : t.progress ≠ .queued)
    (hprimary : ∀ due panels, t.progress = .primary due panels → now < due)
    (hmetrics : ∀ due panels outcome, t.progress = .metrics due panels outcome → now < due) :
    Parked now t := by
  obtain ⟨cycle, progress⟩ := t
  cases progress with
  | queued => exact absurd rfl hqueued
  | primary due panels => exact Or.inl (hprimary due panels rfl)
  | metrics due panels outcome => exact Or.inl (hmetrics due panels outcome rfl)
  | finished | crashed | aborted => exact Or.inr rfl

/-- A task that is run goes on until it waits or has ended. -/
theorem runTask_parks (h : Reachable ctx openedAt backend c) (live : c.state.stopped = false)
    (n : Nat) :
    Stays ctx openedAt backend c (c.runTask ctx n) ∧
      ∀ t ∈ (c.runTask ctx n).state.tasks,
        (t ∈ c.state.tasks ∧ t.cycle ≠ n) ∨ (t.cycle = n ∧ Parked c.now t) := by
  let c₁ := c.send ctx (.begin n c.now (c.answers ctx))
  let c₂ := c₁.send ctx (.proceed n c₁.now (c₁.answers ctx))
  have h₁ : Stays ctx openedAt backend c c₁ := (Stays.refl h live).send (.begin n) trivial
  have h₂ : Stays ctx openedAt backend c c₂ := h₁.send (.proceed n) trivial
  refine ⟨h₂.send (.complete n) trivial, fun t ht => ?_⟩
  -- From the last of the three events back to the first.
  rcases mem_complete ctx h₂.reachable.numbered h₂.live ht with ⟨ht₂, hmetrics⟩ | ⟨hn, hended⟩
  · rcases mem_proceed ctx h₁.reachable.numbered h₁.live ht₂ with
      ⟨ht₁, hprimary⟩ | ⟨hn, hqueued, hprimary⟩
    · rcases mem_begin ctx h.numbered live ht₁ with ⟨ht₀, hqueued⟩ | ⟨hn, hqueued⟩
      · by_cases hn : t.cycle = n
        · exact Or.inr ⟨hn, parked_of_waiting (hqueued hn) (hprimary hn) (hmetrics hn)⟩
        · exact Or.inl ⟨ht₀, hn⟩
      · exact Or.inr ⟨hn, parked_of_waiting hqueued (hprimary hn) (hmetrics hn)⟩
    · refine Or.inr ⟨hn, parked_of_waiting hqueued ?_ (hmetrics hn)⟩
      exact fun due panels hp => absurd hp (hprimary due panels)
  · exact Or.inr ⟨hn, Or.inr hended⟩

/-- Something is done for the task of every cycle in turn, and each time that
task is brought to `Q`, where all of them shall be. -/
theorem Stays.foldl_cycles {work : Clock β → Nat → Clock β} {P Q : Task → Prop}
    (hwork : ∀ c' n, Stays ctx openedAt backend c c' → (∀ t ∈ c'.state.tasks, P t) →
      Stays ctx openedAt backend c (work c' n) ∧ ∀ t ∈ (work c' n).state.tasks,
        P t ∧ ((t ∈ c'.state.tasks ∧ t.cycle ≠ n) ∨ Q t))
    (h : Stays ctx openedAt backend c c) (hbefore : ∀ t ∈ c.state.tasks, P t) :
    Stays ctx openedAt backend c (c.cycles.foldl work c) ∧
      ∀ t ∈ (c.cycles.foldl work c).state.tasks, Q t := by
  have hrun : ∀ (ns : List Nat) (c' : Clock β), Stays ctx openedAt backend c c' →
      (∀ t ∈ c'.state.tasks, P t ∧ (t.cycle ∈ ns ∨ Q t)) →
      Stays ctx openedAt backend c (ns.foldl work c') ∧
        ∀ t ∈ (ns.foldl work c').state.tasks, Q t := by
    intro ns
    induction ns with
    | nil => exact fun c' h' hall => ⟨h', fun t ht => (hall t ht).2.resolve_left List.not_mem_nil⟩
    | cons n rest ih =>
        intro c' h' hall
        obtain ⟨hstays, htasks⟩ := hwork c' n h' fun t ht => (hall t ht).1
        refine ih (work c' n) hstays fun t ht => ?_
        obtain ⟨hbefore, ⟨hold, hne⟩ | hafter⟩ := htasks t ht
        · exact ⟨hbefore, (hall t hold).2.imp_left fun hmem =>
            (List.mem_cons.mp hmem).resolve_left hne⟩
        · exact ⟨hbefore, Or.inr hafter⟩
  exact hrun c.cycles c h fun t ht => ⟨hbefore t ht, Or.inl (List.mem_map_of_mem ht)⟩

theorem runTasks_park (h : Reachable ctx openedAt backend c) (live : c.state.stopped = false) :
    Stays ctx openedAt backend c (c.runTasks ctx) ∧
      ∀ t ∈ (c.runTasks ctx).state.tasks, Parked c.now t := by
  rw [runTasks]
  refine (Stays.refl h live).foldl_cycles (P := fun _ => True) (fun c' n h' _ => ?_)
    fun _ _ => trivial
  obtain ⟨hstays, hparks⟩ := runTask_parks h'.reachable h'.live n
  refine ⟨h'.trans hstays, fun t ht => ⟨trivial, (hparks t ht).imp_right fun hparked => ?_⟩⟩
  rw [h'.now] at hparked
  exact hparked.2

/-- What has ended is taken up, and what is left waits. -/
theorem joinTasks_wait (h : Reachable ctx openedAt backend c) (live : c.state.stopped = false)
    (hparked : ∀ t ∈ c.state.tasks, Parked c.now t) :
    Stays ctx openedAt backend c (c.joinTasks ctx) ∧
      ∀ t ∈ (c.joinTasks ctx).state.tasks, c.now < dueOf t := by
  rw [joinTasks]
  refine (Stays.refl h live).foldl_cycles (fun c' n h' hparked' => ?_) hparked
  refine ⟨h'.send (.join n) trivial, fun t ht => ?_⟩
  obtain ⟨hold, hrunning⟩ := mem_join ctx h'.reachable.numbered h'.live ht
  refine ⟨hparked' t hold, ?_⟩
  by_cases hn : t.cycle = n
  · refine Or.inr ((hparked' t hold).resolve_right ?_)
    rw [hrunning hn]
    exact Bool.noConfusion
  · exact Or.inl ⟨hold, hn⟩

/-- The timer ticks once if it is time. -/
theorem handleTicks_ahead (h : Reachable ctx openedAt backend c) (live : c.state.stopped = false)
    (hinterval : 0 < ctx.interval) :
    Reachable ctx openedAt backend (c.handleTicks ctx) ∧ (c.handleTicks ctx).now = c.now ∧
      c.now < (c.handleTicks ctx).nextTick ∧ (c.handleTicks ctx).state.stopped = false := by
  rcases Nat.lt_or_ge c.now c.nextTick with hahead | hdue
  · rw [handleTicks_of_lt hahead]
    exact ⟨h, rfl, hahead, live⟩
  · have hnow : c.now = c.nextTick := Nat.le_antisymm (h.now_le live) hdue
    have htick := h.tick live hdue
    have hone : c.handleTick ctx =
        { c.send ctx (.tick c.now) with nextTick := c.nextTick + ctx.interval } :=
      handleTick_of_eq hnow
    have hnext : (c.handleTick ctx).now < (c.handleTick ctx).nextTick := by
      rw [hone]
      show c.now < c.nextTick + ctx.interval
      omega
    rw [handleTicks_of_tick hnext]
    refine ⟨htick, by rw [hone]; rfl, ?_, ?_⟩
    · rw [hone] at hnext ⊢
      exact hnext
    · rw [hone]
      exact (stopped_step ctx c.state Event.noConfusion).trans live

/-- Every refresh that was asked for is taken up. -/
theorem handleRefreshes_calm (h : Reachable ctx openedAt backend c)
    (live : c.state.stopped = false) :
    Reachable ctx openedAt backend (c.handleRefreshes ctx) ∧
      (c.handleRefreshes ctx).now = c.now ∧ (c.handleRefreshes ctx).nextTick = c.nextTick ∧
      (c.handleRefreshes ctx).state.pending = 0 ∧
      (c.handleRefreshes ctx).state.stopped = false := by
  have hrun : ∀ (l : List Nat) (c' : Clock β), Reachable ctx openedAt backend c' →
      c'.state.stopped = false → c'.state.pending = l.length →
      Reachable ctx openedAt backend (l.foldl (fun c _ => c.send ctx (.refresh c.now)) c') ∧
        (l.foldl (fun c _ => c.send ctx (.refresh c.now)) c').now = c'.now ∧
        (l.foldl (fun c _ => c.send ctx (.refresh c.now)) c').nextTick = c'.nextTick ∧
        (l.foldl (fun c _ => c.send ctx (.refresh c.now)) c').state.pending = 0 ∧
        (l.foldl (fun c _ => c.send ctx (.refresh c.now)) c').state.stopped = false := by
    intro l
    induction l with
    | nil => exact fun c' h' live' hpending => ⟨h', rfl, rfl, hpending, live'⟩
    | cons _ rest ih =>
        intro c' h' live' hpending
        obtain ⟨notice, htaken⟩ : ∃ notice, c'.state.notice.take? = some notice := by
          refine Option.ne_none_iff_exists'.mp fun hnone => ?_
          have hzero : c'.state.pending = 0 := Notice.take?_eq_none_iff.mp hnone
          rw [hzero] at hpending
          cases hpending
        have hstep : c'.state.step ctx (.refresh c'.now) =
            State.startCycle ctx { c'.state with notice } c'.now := by
          simp [State.step, live', htaken]
        have hstart := hstep.trans (State.startCycle_eq ctx c'.state notice c'.now)
        refine ih (c'.send ctx (.refresh c'.now)) (h'.send .refresh) ?_ ?_
        · exact (congrArg State.stopped hstart).trans live'
        · have hone : notice.pending + 1 = rest.length + 1 :=
            (Notice.pending_of_take? htaken).trans hpending
          exact (congrArg State.pending hstart).trans (Nat.succ.inj hone)
  rw [handleRefreshes]
  exact hrun (List.range c.state.pending) c h live List.length_range.symm

/-- After everything has happened that can, nothing is left to do. -/
theorem settle_quiet (h : Reachable ctx openedAt backend c) (live : c.state.stopped = false)
    (hinterval : 0 < ctx.interval) :
    Reachable ctx openedAt backend (c.settle ctx) ∧ (c.settle ctx).Quiet ∧
      (c.settle ctx).now = c.now ∧ (c.settle ctx).state.stopped = false := by
  obtain ⟨h₁, hnow₁, hahead, live₁⟩ := handleTicks_ahead h live hinterval
  obtain ⟨h₂, hnow₂, htick₂, hcalm, live₂⟩ := handleRefreshes_calm h₁ live₁
  obtain ⟨hran, hparked⟩ := runTasks_park h₂ live₂
  rw [← hran.now] at hparked
  obtain ⟨hjoined, hwaiting⟩ := joinTasks_wait hran.reachable hran.live hparked
  rw [settle]
  generalize hdone : (((c.handleTicks ctx).handleRefreshes ctx).runTasks ctx).joinTasks ctx = c'
    at hjoined hwaiting ⊢
  have hlisten : (c'.send ctx .listen).state = { c'.state with notice := c'.state.notice.listen } :=
    State.step_listen ctx hjoined.live
  have hnow : (c'.send ctx .listen).now = c.now := by
    show c'.now = c.now
    rw [hjoined.now, hran.now, hnow₂, hnow₁]
  refine ⟨hjoined.reachable.send .listen, ⟨?_, ?_, ?_⟩, hnow,
    (congrArg State.stopped hlisten).trans hjoined.live⟩
  · rw [hnow]
    show c.now < c'.nextTick
    rw [hjoined.nextTick, hran.nextTick, htick₂]
    exact hahead
  · have hnone : c'.state.pending = 0 := by
      have := hjoined.pending
      have := hran.pending
      omega
    exact (congrArg State.notice hlisten).trans (Notice.listen_of_pending hnone)
  · intro t ht
    rw [hlisten] at ht
    have hlate := hwaiting t ht
    rw [← hjoined.now] at hlate
    exact hlate

/-! ### Time passes -/

/-- It waits a millisecond at a time. -/
theorem Reachable.wait_until (h : Reachable ctx openedAt backend c) (hquiet : c.Quiet) {t : Nat}
    (hle : c.now ≤ t) (hnext : t ≤ c.nextInstant) :
    Reachable ctx openedAt backend { c with now := t } := by
  induction t, hle using Nat.le_induction with
  | base => exact h
  | succ t hle ih => exact (ih (by omega)).wait (Or.inl (hquiet.of_lt (by omega)))

theorem Reachable.wait_stopped (h : Reachable ctx openedAt backend c)
    (hstopped : c.state.stopped = true) {t : Nat} (hle : c.now ≤ t) :
    Reachable ctx openedAt backend { c with now := t } := by
  induction t, hle using Nat.le_induction with
  | base => exact h
  | succ t hle ih => exact ih.wait (Or.inr hstopped)

/-- A clock of a schedule: it was left alone for some time, and it is at rest
unless it was shut down. -/
structure Rests (ctx : Context) (openedAt : Int) (backend : β) (t : Nat) (c : Clock β) : Prop where
  reachable : Reachable ctx openedAt backend c
  idle : c.Quiet ∨ c.state.stopped = true
  now : c.now = t

/-- Whatever happens until an instant, the clock gets there. -/
theorem Rests.advance (h : Rests ctx openedAt backend c.now c) (hinterval : 0 < ctx.interval)
    (t fuel : Nat) (hle : c.now ≤ t) (hfuel : t < c.now + fuel) :
    Rests ctx openedAt backend t (c.advance ctx t fuel) ∧
      (c.advance ctx t fuel).state.stopped = c.state.stopped := by
  -- A clock at rest moves on by a millisecond at least, and pays it from the fuel.
  induction fuel generalizing c with
  | zero => omega
  | succ fuel ih =>
      by_cases hgo : (decide (c.nextInstant ≤ t) && !c.state.stopped) = true
      · rw [Clock.advance, if_pos hgo]
        simp only [Bool.and_eq_true, decide_eq_true_eq, Bool.not_eq_true'] at hgo
        obtain ⟨hnext, live⟩ := hgo
        have hquiet : c.Quiet := h.idle.resolve_right (by simp [live])
        have hmoved : Reachable ctx openedAt backend { c with now := c.nextInstant } :=
          h.reachable.wait_until hquiet (Nat.le_of_lt hquiet.now_lt) (Nat.le_refl _)
        obtain ⟨hreach, hrest, hnow, live'⟩ := settle_quiet hmoved live hinterval
        have hlater : (Clock.settle ctx { c with now := c.nextInstant }).now = c.nextInstant :=
          hnow
        have hmore := hquiet.now_lt
        obtain ⟨hrests, hsame⟩ := ih ⟨hreach, Or.inl hrest, rfl⟩ (by omega) (by omega)
        exact ⟨hrests, hsame.trans (live'.trans live.symm)⟩
      · rw [Clock.advance, if_neg hgo, Nat.max_eq_right hle]
        refine ⟨?_, rfl⟩
        rcases h.idle with hquiet | hstopped
        · by_cases live : c.state.stopped = false
          · have hlt : t < c.nextInstant := by
              simpa [live] using hgo
            exact ⟨h.reachable.wait_until hquiet hle (Nat.le_of_lt hlt),
              Or.inl (hquiet.of_lt hlt), rfl⟩
          · have hstopped : c.state.stopped = true := by simpa using live
            exact ⟨h.reachable.wait_stopped hstopped hle, Or.inr hstopped, rfl⟩
        · exact ⟨h.reachable.wait_stopped hstopped hle, Or.inr hstopped, rfl⟩

theorem rests_start (hinterval : 0 < ctx.interval) (openedAt : Int) (backend : β) :
    Rests ctx openedAt backend 0 (start ctx openedAt backend) ∧
      (start ctx openedAt backend).state.stopped = false := by
  obtain ⟨hreach, hquiet, hnow, live⟩ :=
    settle_quiet (c := Clock.initial openedAt backend) .initial rfl hinterval
  have hzero : ((Clock.initial openedAt backend).settle ctx).now = 0 := hnow
  have hstart : start ctx openedAt backend =
      ((Clock.initial openedAt backend).settle ctx).advance ctx 0 1 := by
    have hgo : (decide ((Clock.initial openedAt backend).nextInstant ≤ 0) &&
        !(Clock.initial openedAt backend).state.stopped) = true := rfl
    rw [start, if_neg (Nat.ne_of_gt hinterval), sleep]
    show advance ctx 0 (1 + 1) (Clock.initial openedAt backend) = _
    rw [Clock.advance, if_pos hgo]
    rfl
  rw [hstart]
  have hrests : Rests ctx openedAt backend ((Clock.initial openedAt backend).settle ctx).now
      ((Clock.initial openedAt backend).settle ctx) := ⟨hreach, Or.inl hquiet, rfl⟩
  obtain ⟨hthere, hsame⟩ := hrests.advance hinterval 0 1 (Nat.le_of_eq hzero) (by omega)
  exact ⟨hthere, hsame.trans live⟩

/-! ### Schedules -/

/-- What is done with a poller. -/
inductive Action where
  | sleep (ms : Nat)
  /-- A refresh is asked for a number of times at once. -/
  | refresh (times : Nat)
  | shutdown
deriving DecidableEq

/-- How long it takes. -/
def Action.length : Action → Nat
  | sleep ms => ms
  | refresh _ | shutdown => 0

def act (ctx : Context) (c : Clock β) : Action → Clock β
  | .sleep ms => c.sleep ctx ms
  | .refresh times => c.refresh ctx times
  | .shutdown => c.shutdown ctx

/-- A poller with which some things have been done, one after the other. -/
def follow (ctx : Context) (openedAt : Int) (backend : β) (actions : List Action) : Clock β :=
  actions.foldl (act ctx) (start ctx openedAt backend)

theorem reachable_notify (h : Reachable ctx openedAt backend c) (times : List Nat) :
    Reachable ctx openedAt backend (times.foldl (fun c _ => c.send ctx .notify) c) ∧
      (times.foldl (fun c _ => c.send ctx .notify) c).now = c.now ∧
      (times.foldl (fun c _ => c.send ctx .notify) c).state.stopped = c.state.stopped := by
  induction times generalizing c with
  | nil => exact ⟨h, rfl, rfl⟩
  | cons _ rest ih =>
      obtain ⟨hreach, hnow, hstopped⟩ := ih (h.send .notify)
      exact ⟨hreach, hnow, hstopped.trans (stopped_step ctx c.state Event.noConfusion)⟩

theorem Rests.act (h : Rests ctx openedAt backend n c) (hinterval : 0 < ctx.interval)
    (action : Action) :
    Rests ctx openedAt backend (n + action.length) (c.act ctx action) ∧
      ((c.act ctx action).state.stopped = true →
        c.state.stopped = true ∨ action = .shutdown) := by
  obtain rfl := h.now
  cases action with
  | sleep ms =>
      obtain ⟨hrests, hsame⟩ := h.advance hinterval (c.now + ms) (ms + 2)
        (Nat.le_add_right _ _) (by omega)
      exact ⟨hrests, fun hstopped => Or.inl (hsame.symm.trans hstopped)⟩
  | refresh times =>
      obtain ⟨hasked, hnow, hsame⟩ := reachable_notify h.reachable (List.range times)
      show Rests ctx openedAt backend c.now (c.refresh ctx times) ∧ _
      unfold Clock.act Clock.refresh
      simp only
      split
      · next hstopped =>
          exact ⟨⟨hasked, Or.inr hstopped, hnow⟩, fun _ => Or.inl (hsame.symm.trans hstopped)⟩
      · next hlive =>
          have live := Bool.eq_false_of_not_eq_true hlive
          obtain ⟨hreach, hquiet, hnow', live'⟩ := settle_quiet hasked live hinterval
          exact ⟨⟨hreach, Or.inl hquiet, hnow'.trans hnow⟩, fun hstopped =>
            absurd (live'.symm.trans hstopped) nofun⟩
  | shutdown =>
      refine ⟨⟨h.reachable.send .shutdown, Or.inr ?_, rfl⟩, fun _ => Or.inr rfl⟩
      show (c.state.step ctx .shutdown).stopped = true
      unfold State.step
      split
      · assumption
      · rfl

/-- Every schedule runs through reachable clocks, takes the time that its
actions take and comes to rest. -/
theorem rests_follow (hinterval : 0 < ctx.interval) (openedAt : Int) (backend : β)
    (actions : List Action) :
    Rests ctx openedAt backend (actions.map Action.length).sum
        (follow ctx openedAt backend actions) ∧
      ((follow ctx openedAt backend actions).state.stopped = true → .shutdown ∈ actions) := by
  induction actions using List.reverseRecOn with
  | nil =>
      obtain ⟨hrests, live⟩ := rests_start hinterval openedAt backend
      exact ⟨hrests, fun hstopped => absurd (live.symm.trans hstopped) nofun⟩
  | append_singleton actions action ih =>
      obtain ⟨hrests, hstopped⟩ := ih
      have hconcat : follow ctx openedAt backend (actions ++ [action]) =
          (follow ctx openedAt backend actions).act ctx action := by
        rw [follow, List.foldl_append]
        rfl
      obtain ⟨hrests', hstopped'⟩ := hrests.act hinterval action
      rw [hconcat, List.map_append, List.sum_append]
      refine ⟨by simpa using hrests', fun h => ?_⟩
      rcases hstopped' h with hbefore | rfl
      · exact List.mem_append_left _ (hstopped hbefore)
      · exact List.mem_append_right _ (List.mem_singleton_self _)

end Clock

end Dashboard.Poller
