import Dashboard.Proofs.Poller.Display

/-!
# One cycle after the other

Under the policy that ends the previous cycle, starting a cycle leaves no
other one running, and it leaves none unaccounted for: the previous cycle has
its own snapshot on display already, or a stand-in is published for it there
and then.

What ties this together is the note of the cycle in flight. It is set when a
cycle starts and cleared when its snapshot is taken up, so as long as it is
set the latest cycle has not been taken up, and nothing of it can have been
published; once it is cleared, the snapshot of the latest cycle is on
display. `Succeeding.latest` is this alternative. A cycle that was taken down
leaves the note set, which is why a stand-in is due for it as well.

From the invariant follows what a run shows: no cycle is skipped, a stand-in
comes once, in time and never after the cycle's own snapshot, and a snapshot
that arrives late still replaces its stand-in.
-/

namespace Dashboard.Poller

open Fetch

/-- The cycles that have neither ended nor been aborted. -/
def State.running (s : State) : List Nat :=
  (s.tasks.filter fun t => t.progress.isRunning).map Task.cycle

/-- What the poller has to know about the latest cycle to keep the display
without gaps. -/
structure Succeeding (ctx : Context) (s : State) (history : List Moment) : Prop where
  alone : ∀ t ∈ s.tasks, t.progress.isRunning = true → t.cycle = s.lastStarted
  /-- The latest cycle is yet to come, or not taken up, or on display. -/
  latest : s.lastStarted = 0 ∨
    (∃ start, s.inFlight = some (s.lastStarted, start) ∧
      (∃ m ∈ history, m.started? = some (s.lastStarted, start)) ∧
      ∀ p ∈ joins history, p.cycle ≠ s.lastStarted) ∨
    s.inFlight = none ∧ ∃ p, s.shown? = some p ∧ p.cycle = s.lastStarted
  /-- Stand-ins are for earlier cycles. -/
  passed : ∀ p ∈ s.published, IsStandIn ctx p → p.cycle < s.lastStarted
  shown : ∀ n, 1 ≤ n → s.lastStarted = n + 1 → ∃ p, s.shown? = some p ∧ n ≤ p.cycle
  covered : ∀ k, 1 ≤ k → k < s.lastStarted → ∃ p ∈ s.published, p.cycle = k
  /-- No stand-in comes after another snapshot of its cycle. -/
  once : s.published.Pairwise fun newer older => IsStandIn ctx newer → older.cycle ≠ newer.cycle

variable {ctx : Context} {s s' : State} {history : List Moment} {m : Moment}

theorem mem_of_shown? {p : Snapshot} (h : s.shown? = some p) : p ∈ s.published :=
  List.mem_of_mem_head? h

/-! ## What starting a cycle publishes -/

/-- Either nothing is in flight, or the cycle in flight gets a stand-in. -/
theorem publishedAtStart_cases (policy : ctx.overlap = .cancelPrevious) (hnumbered : Numbered s)
    (hbounded : ∀ p ∈ s.published, p.cycle ≤ s.lastStarted) (now : Nat) :
    (s.inFlight = none ∧ s.publishedAtStart ctx now = s.published) ∨
      ∃ start, s.inFlight = some (s.lastStarted, start) ∧
        s.publishedAtStart ctx now =
          standIn ctx s.lastStarted (now - start) (s.timeOf now) :: s.published := by
  cases hflight : s.inFlight with
  | none =>
      refine Or.inl ⟨rfl, ?_⟩
      simp only [State.publishedAtStart, policy, hflight]
  | some f =>
      obtain ⟨cycle, start⟩ := f
      obtain rfl : cycle = s.lastStarted := (hnumbered.flight _ hflight).1
      refine Or.inr ⟨start, rfl, ?_⟩
      simp only [State.publishedAtStart, policy, hflight]
      rcases s.publishedWith_cases (standIn ctx s.lastStarted (now - start) (s.timeOf now)) with
        ⟨hpub, -⟩ | ⟨-, p, hp, hnewer⟩
      · exact hpub
      · exact absurd hnewer (Nat.not_lt_of_le (hbounded p (mem_of_shown? hp)))

theorem not_isRunning_at_start (policy : ctx.overlap = .cancelPrevious) {t : Task}
    (h : t ∈ s.tasksAtStart ctx) : t.progress.isRunning = false := by
  simp only [State.tasksAtStart, policy] at h
  obtain ⟨u, -, rfl⟩ := List.mem_map.mp h
  exact u.isRunning_abort

/-- A cycle in flight was started when it says, and was not taken up. -/
theorem Succeeding.of_inFlight (h : Succeeding ctx s history) (hnumbered : Numbered s)
    {start : Nat} (hflight : s.inFlight = some (s.lastStarted, start)) :
    (∃ m ∈ history, m.started? = some (s.lastStarted, start)) ∧
      ∀ p ∈ joins history, p.cycle ≠ s.lastStarted := by
  rcases h.latest with hzero | ⟨start', hsome, hstart, hjoins⟩ | ⟨hnone, -⟩
  · have := hnumbered.flight _ hflight
    omega
  · obtain rfl : start' = start :=
      (Prod.mk.inj (Option.some.inj (hsome.symm.trans hflight))).2
    exact ⟨hstart, hjoins⟩
  · rw [hflight] at hnone
    cases hnone

/-! ## The invariant is kept -/

/-- An event that leaves the latest cycle and the display alone. -/
theorem Succeeding.quiet (h : Succeeding ctx s history) (hjoined : m.joined? = none)
    (hlast : s'.lastStarted = s.lastStarted) (hflight : s'.inFlight = s.inFlight)
    (hpublished : s'.published = s.published)
    (halone : ∀ t ∈ s'.tasks, t.progress.isRunning = true → t.cycle = s.lastStarted) :
    Succeeding ctx s' (history ++ [m]) := by
  have hshown : s'.shown? = s.shown? := by rw [State.shown?, State.shown?, hpublished]
  refine ⟨by rw [hlast]; exact halone, ?_, ?_, ?_, ?_, ?_⟩
  · rw [hlast, hflight, hshown, joins_concat_of_none hjoined]
    refine h.latest.imp_right (Or.imp_left ?_)
    rintro ⟨start, hstart, ⟨m₀, hm₀, hs₀⟩, hjoins⟩
    exact ⟨start, hstart, ⟨m₀, List.mem_append_left _ hm₀, hs₀⟩, hjoins⟩
  · rw [hpublished, hlast]
    exact h.passed
  · rw [hshown, hlast]
    exact h.shown
  · rw [hpublished, hlast]
    exact h.covered
  · rw [hpublished]
    exact h.once

/-- Once a cycle is about to start, the previous one is on display, and a
stand-in for it is the first snapshot of its cycle. -/
theorem Succeeding.at_start (h : Succeeding ctx s history) (policy : ctx.overlap = .cancelPrevious)
    (hnumbered : Numbered s) (hbounded : ∀ p ∈ s.published, p.cycle ≤ s.lastStarted)
    (hsourced : Sourced ctx s history) (now : Nat) :
    (1 ≤ s.lastStarted →
        ∃ p, (s.publishedAtStart ctx now).head? = some p ∧ p.cycle = s.lastStarted) ∧
      (∀ p ∈ s.publishedAtStart ctx now, IsStandIn ctx p → p.cycle ≤ s.lastStarted) ∧
      (s.publishedAtStart ctx now).Pairwise fun newer older =>
        IsStandIn ctx newer → older.cycle ≠ newer.cycle := by
  rcases publishedAtStart_cases policy hnumbered hbounded now with
    ⟨hnone, hpub⟩ | ⟨start, hflight, hpub⟩
  · rw [hpub]
    refine ⟨fun hpos => ?_, fun p hp hstand => Nat.le_of_lt (h.passed p hp hstand), h.once⟩
    rcases h.latest with hzero | ⟨start, hsome, -⟩ | ⟨-, hp⟩
    · omega
    · rw [hnone] at hsome
      cases hsome
    · exact hp
  · rw [hpub]
    refine ⟨fun _ => ⟨_, rfl, rfl⟩, ?_, ?_⟩
    · intro p hp hstand
      rcases List.mem_cons.mp hp with rfl | hold
      · exact Nat.le_refl _
      · exact Nat.le_of_lt (h.passed p hold hstand)
    · refine List.pairwise_cons.mpr ⟨fun older holder _ => ?_, h.once⟩
      change older.cycle ≠ s.lastStarted
      -- The cycle is in flight, so nothing of it was taken up, and no stand-in is as late.
      rcases hsourced.published older holder with hjoin | hstand
      · exact (h.of_inFlight hnumbered hflight).2 older hjoin
      · exact Nat.ne_of_lt (h.passed older holder hstand)

/-- When a cycle starts, no other is under way and none was left out. -/
theorem Succeeding.starting (h : Succeeding ctx s history) (policy : ctx.overlap = .cancelPrevious)
    (hnumbered : Numbered s) (hbounded : ∀ p ∈ s.published, p.cycle ≤ s.lastStarted)
    (hsourced : Sourced ctx s history) (notice : Notice) (now : Nat)
    (hstarted : m.started? = some (s.lastStarted + 1, now)) (hjoined : m.joined? = none) :
    Succeeding ctx (State.startCycle ctx { s with notice } now) (history ++ [m]) := by
  have hsuffix := published_suffix_publishedAtStart ctx s now
  obtain ⟨hhead, hpassed, honce⟩ := h.at_start policy hnumbered hbounded hsourced now
  rw [State.startCycle_eq]
  refine ⟨?_, Or.inr (Or.inl ?_), ?_, ?_, ?_, honce⟩
  · intro t ht hrunning
    rcases List.mem_append.mp ht with hold | hnew
    · rw [not_isRunning_at_start policy hold] at hrunning
      cases hrunning
    · obtain rfl := List.mem_singleton.mp hnew
      rfl
  · refine ⟨now, rfl, ⟨m, List.mem_append_right _ (List.mem_singleton_self m), hstarted⟩, ?_⟩
    rw [joins_concat_of_none hjoined]
    intro p hp heq
    have := (hsourced.bounded p hp).2
    simp only at heq
    omega
  · exact fun p hp hstand => Nat.lt_succ_of_le (hpassed p hp hstand)
  · intro n hn hlast
    obtain rfl : s.lastStarted = n := Nat.succ.inj hlast
    obtain ⟨p, hp, hcycle⟩ := hhead hn
    exact ⟨p, hp, Nat.le_of_eq hcycle.symm⟩
  · intro k hk hlt
    rcases Nat.lt_or_eq_of_le (Nat.le_of_lt_succ hlt) with hold | rfl
    · obtain ⟨p, hp, hcycle⟩ := h.covered k hk hold
      exact ⟨p, hsuffix.subset hp, hcycle⟩
    · obtain ⟨p, hp, hcycle⟩ := hhead hk
      exact ⟨p, List.mem_of_mem_head? hp, hcycle⟩

/-- When the latest cycle is taken up it goes on display; another one leaves
the latest as it was. -/
theorem Succeeding.latest_joining (h : Succeeding ctx s history) {t : Task} {snapshot : Snapshot}
    (ht : t ∈ s.tasks) (hcycle : snapshot.cycle = t.cycle) (hnumbered : Numbered s)
    (hbounded : ∀ p ∈ s.published, p.cycle ≤ s.lastStarted) :
    (∃ start, (s.inFlight.filter fun f => f.1 != t.cycle) = some (s.lastStarted, start) ∧
      (∃ m₀ ∈ history, m₀.started? = some (s.lastStarted, start)) ∧
      ∀ p ∈ joins history ++ [snapshot], p.cycle ≠ s.lastStarted) ∨
    (s.inFlight.filter fun f => f.1 != t.cycle) = none ∧
      ∃ p, (s.publishedWith snapshot).head? = some p ∧ p.cycle = s.lastStarted := by
  have hcases := s.publishedWith_cases snapshot
  by_cases hlatest : t.cycle = s.lastStarted
  · -- Nothing newer than the latest cycle can be shown, so its snapshot is.
    refine Or.inr ⟨?_, snapshot, ?_, hcycle.trans hlatest⟩
    · cases hf : s.inFlight with
      | none => rfl
      | some f =>
          have := (hnumbered.flight f hf).1
          simp [Option.filter, hlatest, this]
    · rcases hcases with ⟨hpub, -⟩ | ⟨-, p, hp, hnewer⟩
      · rw [hpub]
        rfl
      · have := hbounded p (mem_of_shown? hp)
        omega
  · have hin := hnumbered.bounded _ (mem_cycles ht)
    rcases h.latest with hzero | ⟨start, hsome, hstart, hjoins⟩ | ⟨hnone, p, hp, hpcycle⟩
    · omega
    · refine Or.inl ⟨start, by simp [hsome, Option.filter, Ne.symm hlatest], hstart, ?_⟩
      intro q hq
      rcases List.mem_append.mp hq with hold | hfresh
      · exact hjoins q hold
      · obtain rfl := List.mem_singleton.mp hfresh
        rw [hcycle]
        exact hlatest
    · refine Or.inr ⟨by rw [hnone]; rfl, p, ?_, hpcycle⟩
      rcases hcases with ⟨-, hguard⟩ | ⟨hpub, -⟩
      · have := hguard p hp
        omega
      · rw [hpub]
        exact hp

theorem Succeeding.joining (h : Succeeding ctx s history) {t : Task} {snapshot : Snapshot}
    (ht : t ∈ s.tasks) (hcycle : snapshot.cycle = t.cycle) (hreal : ¬ IsStandIn ctx snapshot)
    (hnumbered : Numbered s) (hbounded : ∀ p ∈ s.published, p.cycle ≤ s.lastStarted)
    (hjoined : m.joined? = some snapshot) :
    Succeeding ctx (((s.released.removeTask t.cycle).landed t.cycle).publish snapshot)
      (history ++ [m]) := by
  have hcases := s.publishedWith_cases snapshot
  have hsuffix := published_suffix_publishedWith s snapshot
  have hlatest := h.latest_joining ht hcycle hnumbered hbounded
  rw [State.publish_landed_eq]
  refine ⟨?_, Or.inr ?_, ?_, ?_, ?_, ?_⟩
  · exact fun u hu => h.alone u (State.mem_removeTask.mp hu).1
  · rw [joins_concat_of_some hjoined]
    refine hlatest.imp_left ?_
    rintro ⟨start, hsome, ⟨m₀, hm₀, hs₀⟩, hjoins⟩
    exact ⟨start, hsome, ⟨m₀, List.mem_append_left _ hm₀, hs₀⟩, hjoins⟩
  · intro p hp hstand
    rcases State.mem_publishedWith hp with rfl | hold
    · exact absurd hstand hreal
    · exact h.passed p hold hstand
  · intro n hn hsucc
    obtain ⟨p, hp, hle⟩ := h.shown n hn hsucc
    simp only [State.shown?]
    rcases hcases with ⟨hpub, hguard⟩ | ⟨hpub, -⟩
    · rw [hpub]
      exact ⟨snapshot, rfl, Nat.le_trans hle (hguard p hp)⟩
    · rw [hpub]
      exact ⟨p, hp, hle⟩
  · intro k hk hlt
    obtain ⟨p, hp, hpcycle⟩ := h.covered k hk hlt
    exact ⟨p, hsuffix.subset hp, hpcycle⟩
  · simp only []
    rcases hcases with ⟨hpub, -⟩ | ⟨hpub, -⟩
    · rw [hpub]
      exact List.pairwise_cons.mpr ⟨fun _ _ hstand => absurd hstand hreal, h.once⟩
    · rw [hpub]
      exact h.once

theorem Succeeding.alone_setProgress (h : Succeeding ctx s history) {t : Task}
    {progress : Progress} (ht : t ∈ s.tasks)
    (hrunning : progress.isRunning = true → t.progress.isRunning = true) :
    ∀ u ∈ (s.setProgress t.cycle progress).tasks, u.progress.isRunning = true →
      u.cycle = s.lastStarted := by
  intro u hu hurunning
  rcases State.mem_setProgress hu with rfl | ⟨hold, -⟩
  · exact h.alone t ht (hrunning hurunning)
  · exact h.alone u hold hurunning

theorem Succeeding.step (h : Succeeding ctx s history) (policy : ctx.overlap = .cancelPrevious)
    (hnumbered : Numbered s) (hbounded : ∀ p ∈ s.published, p.cycle ≤ s.lastStarted)
    (hsourced : Sourced ctx s history) (e : Event) :
    Succeeding ctx (s.step ctx e) (history ++ [⟨s, e⟩]) := by
  have hchange := Moment.change ctx ⟨s, e⟩
  simp only [Moment.after] at hchange
  generalize s.step ctx e = s' at hchange
  cases hchange with
  | idle _ hj => exact h.quiet hj rfl rfl rfl h.alone
  | noted notice he hs hj => exact h.quiet hj rfl rfl rfl h.alone
  | started now notice live hs hj =>
      exact h.starting policy hnumbered hbounded hsourced notice now hs hj
  | begun t now answers he ht hp =>
      obtain rfl : e = .begin t.cycle now answers := he
      refine h.quiet (by simp [Moment.joined?]) rfl rfl rfl (h.alone_setProgress ht fun _ => ?_)
      rw [hp]
      rfl
  | proceeded t now answers he ht due panels hp =>
      obtain rfl : e = .proceed t.cycle now answers := he
      refine h.quiet (by simp [Moment.joined?]) rfl rfl rfl (h.alone_setProgress ht fun _ => ?_)
      rw [hp]
      rfl
  | completed t now he ht =>
      obtain rfl : e = .complete t.cycle now := he
      exact h.quiet (by simp [Moment.joined?]) rfl rfl rfl
        (h.alone_setProgress ht fun hrunning => by cases hrunning)
  | crashed t ht _ hj =>
      exact h.quiet hj rfl rfl rfl (h.alone_setProgress ht fun hrunning => by cases hrunning)
  | joined t snapshot live he hj ht hp =>
      obtain ⟨hcycle, hgenuine⟩ := hsourced.told_of_finished ht hp
      exact h.joining ht hcycle hgenuine.not_isStandIn hnumbered hbounded hj
  | dropped t live he hj =>
      exact h.quiet hj rfl rfl rfl fun u hu => h.alone u (State.mem_removeTask.mp hu).1
  | halted he =>
      obtain rfl : e = .shutdown := he
      refine h.quiet (by simp [Moment.joined?]) rfl rfl rfl fun u hu hrunning => ?_
      obtain ⟨t, -, rfl⟩ := List.mem_map.mp hu
      rw [t.isRunning_abort] at hrunning
      cases hrunning

theorem succeeding_initial (ctx : Context) (openedAt : Int) :
    Succeeding ctx (State.initial openedAt) [] where
  alone := by simp [State.initial]
  latest := Or.inl rfl
  passed := by simp [State.initial]
  shown := by simp [State.initial]
  covered := by simp [State.initial]
  once := List.Pairwise.nil

theorem succeeding_run (policy : ctx.overlap = .cancelPrevious) (openedAt : Int)
    (events : List Event) :
    Succeeding ctx (State.run ctx (.initial openedAt) events)
      (State.moments ctx (.initial openedAt) events) :=
  State.history_induction (succeeding_initial ctx openedAt)
    (fun events e h =>
      h.step policy (numbered_run ctx openedAt events) (bounded_run ctx openedAt events)
        (sourced_run ctx openedAt events) e)
    events

/-! ## What a run shows -/

theorem eq_nil_or_singleton {numbers : List Nat} {n : Nat} (h : numbers.Pairwise (· < ·))
    (hall : ∀ k ∈ numbers, k = n) : numbers = [] ∨ numbers = [n] := by
  cases numbers with
  | nil => exact Or.inl rfl
  | cons first rest =>
      obtain rfl := hall first List.mem_cons_self
      cases rest with
      | nil => exact Or.inr rfl
      | cons second _ =>
          have hlt : first < second := List.rel_of_pairwise_cons h List.mem_cons_self
          rw [hall second (by simp)] at hlt
          exact absurd hlt (Nat.lt_irrefl _)

theorem Succeeding.running_cases (h : Succeeding ctx s history) (hnumbered : Numbered s) :
    s.running = [] ∨ s.running = [s.lastStarted] := by
  refine eq_nil_or_singleton (hnumbered.ascending.sublist (List.filter_sublist.map _)) ?_
  intro c hc
  obtain ⟨t, ht, rfl⟩ := List.mem_map.mp hc
  obtain ⟨hmem, hrunning⟩ := List.mem_filter.mp ht
  exact h.alone t hmem hrunning

/-- An event that publishes a stand-in is the start of the next cycle, and
the snapshot of the previous one has not been taken up. -/
theorem Succeeding.standIn_origin (h : Succeeding ctx m.before history)
    (policy : ctx.overlap = .cancelPrevious) (hnumbered : Numbered m.before)
    (hbounded : ∀ p ∈ m.before.published, p.cycle ≤ m.before.lastStarted)
    (hreal : ∀ q, m.joined? = some q → ¬ IsStandIn ctx q) {p : Snapshot}
    (hp : m.Publishes ctx p) (hstand : IsStandIn ctx p) :
    ∃ start now, (∃ m₀ ∈ history, m₀.started? = some (p.cycle, start)) ∧
      m.started? = some (p.cycle + 1, now) ∧
      p = standIn ctx p.cycle (now - start) (m.before.timeOf now) ∧
      ∀ q ∈ joins history, q.cycle ≠ p.cycle := by
  have hsilent : (m.after ctx).published ≠ m.before.published := by
    rw [hp]
    exact List.cons_ne_self _ _
  cases hjoined : m.joined? with
  | some snapshot =>
      rcases Moment.joined_cases ctx hjoined with ⟨hpublishes, -⟩ | ⟨hsame, -⟩
      · obtain rfl := (List.cons.inj (hp.symm.trans hpublishes)).1
        exact absurd hstand (hreal p hjoined)
      · exact absurd hsame hsilent
  | none =>
      have hchange := m.change ctx
      unfold Moment.Publishes at hp
      generalize m.after ctx = s' at hchange hp hsilent
      cases hchange with
      | started now notice live hs hj =>
          rw [State.startCycle_eq] at hp hsilent
          rcases publishedAtStart_cases policy hnumbered hbounded now with
            ⟨-, hpub⟩ | ⟨start, hflight, hpub⟩
          · exact absurd hpub hsilent
          · obtain rfl := (List.cons.inj (hpub.symm.trans hp)).1
            obtain ⟨hstart, hjoins⟩ := h.of_inFlight hnumbered hflight
            exact ⟨start, now, hstart, hs, rfl, hjoins⟩
      | joined t snapshot live he hj =>
          rw [hjoined] at hj
          cases hj
      | idle | noted | begun | proceeded | completed | crashed | dropped | halted =>
          exact absurd rfl hsilent

/-- One cycle after the other: who runs, what is shown, and when a stand-in
comes and goes. -/
structure Succession (ctx : Context) (s : State) (history : List Moment) : Prop where
  /-- No cycle but the latest one is under way. -/
  alone : s.running = [] ∨ s.running = [s.lastStarted]
  /-- The latest cycle or the one before is on display. -/
  shown : ∀ n, 1 ≤ n → s.lastStarted = n + 1 →
    ∃ p, s.shown? = some p ∧ (p.cycle = n ∨ p.cycle = n + 1)
  /-- No earlier cycle was left out. -/
  covered : ∀ k, 1 ≤ k → k < s.lastStarted → ∃ p ∈ s.published, p.cycle = k
  /-- A stand-in comes before all other snapshots of its cycle. -/
  once : s.published.Pairwise fun newer older => IsStandIn ctx newer → older.cycle ≠ newer.cycle
  /-- It comes when the next cycle starts, unless its own cycle was taken up,
  and every panel of it tells the time between the two starts. -/
  standIns : ∀ before m after, history = before ++ m :: after → ∀ p, m.Publishes ctx p →
    IsStandIn ctx p → ∃ start now, (∃ m₀ ∈ before, m₀.started? = some (p.cycle, start)) ∧
      m.started? = some (p.cycle + 1, now) ∧
      p = standIn ctx p.cycle (now - start) (m.before.timeOf now) ∧
      TellsOverrun p (now - start) ∧ ∀ q ∈ joins before, q.cycle ≠ p.cycle
  /-- What is taken up goes on display, unless a later cycle is there. -/
  replaced : ∀ m ∈ history, ∀ p, m.joined? = some p → ¬ IsStandIn ctx p ∧
    ((m.after ctx).shown? = some p ∨
      ∃ q, m.before.shown? = some q ∧ p.cycle < q.cycle ∧ (m.after ctx).shown? = some q)

/-- Under the policy that ends the previous cycle, every run shows one cycle
after the other. -/
theorem succession_run (policy : ctx.overlap = .cancelPrevious) (openedAt : Int)
    (events : List Event) :
    Succession ctx (State.run ctx (.initial openedAt) events)
      (State.moments ctx (.initial openedAt) events) := by
  have h := succeeding_run policy openedAt events
  have hreal : ∀ m ∈ State.moments ctx (.initial openedAt) events, ∀ p, m.joined? = some p →
      ¬ IsStandIn ctx p := fun m hm p hjoined =>
    ((sourced_run ctx openedAt events).genuine p
      (List.mem_filterMap.mpr ⟨m, hm, hjoined⟩)).not_isStandIn
  refine ⟨h.running_cases (numbered_run ctx openedAt events), ?_, h.covered, h.once, ?_, ?_⟩
  · intro n hn hlast
    obtain ⟨p, hp, hle⟩ := h.shown n hn hlast
    have := bounded_run ctx openedAt events p (mem_of_shown? hp)
    exact ⟨p, hp, by omega⟩
  · intro before m after hsplit p hp hstand
    have hmem : m ∈ State.moments ctx (.initial openedAt) events := by
      rw [hsplit]
      simp
    obtain ⟨first, e, second, -, rfl, rfl⟩ := State.exists_of_moments_eq hsplit
    obtain ⟨start, now, hstart, hnow, hmade, hjoins⟩ :=
      (succeeding_run policy openedAt first).standIn_origin policy
        (numbered_run ctx openedAt first) (bounded_run ctx openedAt first)
        (hreal _ hmem) hp hstand
    have htells := tellsOverrun_standIn ctx p.cycle (now - start)
      ((State.run ctx (.initial openedAt) first).timeOf now)
    rw [← hmade] at htells
    exact ⟨start, now, hstart, hnow, hmade, htells, hjoins⟩
  · intro m hm p hjoined
    refine ⟨hreal m hm p hjoined, ?_⟩
    rcases Moment.joined_cases ctx hjoined with ⟨hpublishes, -⟩ | ⟨hsame, q, hq, hnewer⟩
    · refine Or.inl ?_
      rw [State.shown?, hpublishes]
      rfl
    · refine Or.inr ⟨q, hq, hnewer, ?_⟩
      rw [State.shown?, hsame]
      exact hq

/-- A cycle that ends just before the next one starts, and is taken up just
after. -/
def overtakenCycle : List Event :=
  let answers : Answers := fun _ => ⟨0, .failed (.status "/api" 503)⟩
  [.tick 0, .begin 1 0 answers, .proceed 1 10 answers, .complete 1 90, .tick 100, .join 1]

/-- A context in which a new cycle ends the previous one. -/
def endingContext : Context :=
  ⟨"http://store", "http://links", 25, 100, .cancelPrevious, .isolated⟩

/-- The stand-in of the first cycle is shown, and then its own snapshot. -/
theorem succession_of_overtakenCycle :
    endingContext.overlap = .cancelPrevious ∧
      (State.run endingContext (.initial 0) overtakenCycle).published.map Snapshot.cycle =
        [1, 1] ∧
      Succession endingContext (State.run endingContext (.initial 0) overtakenCycle)
        (State.moments endingContext (.initial 0) overtakenCycle) :=
  ⟨rfl, rfl, succession_run rfl 0 overtakenCycle⟩

end Dashboard.Poller
