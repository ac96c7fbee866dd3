import Dashboard.Proofs.Poller.Origin
import Mathlib.Data.List.Nodup

/-!
# Cycles side by side

Under the policy that leaves the previous cycles alone, any number of cycles
can be under way, and they can end in any order. The display does not depend
on that order: it is the snapshot with the highest number among those that
were taken up so far. Numbers are never taken up twice, so there is only one
such snapshot.

Starting a cycle publishes nothing here, whatever is in flight. So what is on
display was taken up from a task, and each time one more snapshot is taken up
the guard of the display compares it with the highest so far.

A cycle that is not taken down stays in the list of tasks until it is taken
up. So once the latest cycle has left that list, it is the one on display.
-/

namespace Dashboard.Poller

open Fetch

/-- The newest snapshot that was taken up is on display, and nothing else
was ever published. -/
structure Newest (s : State) (history : List Moment) : Prop where
  published : ∀ p ∈ s.published, p ∈ joins history
  highest : ∀ q ∈ joins history, ∃ p, s.shown? = some p ∧ q.cycle ≤ p.cycle

/-- Every cycle is still there or was taken up, as long as none is taken
down. -/
structure Accounted (s : State) (history : List Moment) : Prop where
  /-- Only a shutdown aborts a task. -/
  aborted : ∀ t ∈ s.tasks, t.progress = .aborted → s.stopped = true
  taken : ∀ k, 1 ≤ k → k ≤ s.lastStarted → k ∈ s.cycles ∨ ∃ p ∈ joins history, p.cycle = k

/-- No cycle is taken down. -/
def Unbroken (history : List Moment) : Prop :=
  ∀ m ∈ history, ∀ t ∈ m.before.tasks, t.progress ≠ .crashed

variable {ctx : Context} {s s' : State} {history : List Moment} {m : Moment}

/-! ## The start of a cycle -/

theorem publishedAtStart_concurrent (policy : ctx.overlap = .concurrent) (s : State) (now : Nat) :
    s.publishedAtStart ctx now = s.published := by
  simp only [State.publishedAtStart, policy]

theorem tasksAtStart_concurrent (policy : ctx.overlap = .concurrent) (s : State) :
    s.tasksAtStart ctx = s.tasks := by
  simp only [State.tasksAtStart, policy]

/-! ## The newest snapshot is on display -/

theorem Newest.quiet (h : Newest s history) (hjoined : m.joined? = none)
    (hpublished : s'.published = s.published) : Newest s' (history ++ [m]) := by
  have hjoins : joins (history ++ [m]) = joins history := joins_concat_of_none hjoined
  refine ⟨?_, ?_⟩
  · rw [hpublished, hjoins]
    exact h.published
  · rw [hjoins, State.shown?, hpublished]
    exact h.highest

/-- The guard keeps the higher of two numbers. -/
theorem Newest.joining (h : Newest s history) {snapshot : Snapshot}
    (hjoined : m.joined? = some snapshot)
    (hpublished : (s'.published = snapshot :: s.published ∧
        ∀ q, s.shown? = some q → q.cycle ≤ snapshot.cycle) ∨
      (s'.published = s.published ∧ ∃ q, s.shown? = some q ∧ snapshot.cycle < q.cycle)) :
    Newest s' (history ++ [m]) := by
  have hjoins : joins (history ++ [m]) = joins history ++ [snapshot] :=
    joins_concat_of_some hjoined
  rcases hpublished with ⟨hpub, hguard⟩ | ⟨hpub, q, hq, hnewer⟩
  · refine ⟨?_, ?_⟩
    · rw [hpub, hjoins]
      intro p hp
      rcases List.mem_cons.mp hp with rfl | hold
      · exact List.mem_append_right _ (List.mem_singleton_self _)
      · exact List.mem_append_left _ (h.published p hold)
    · rw [hjoins, State.shown?, hpub]
      intro r hr
      refine ⟨snapshot, rfl, ?_⟩
      rcases List.mem_append.mp hr with hold | hnew
      · obtain ⟨q, hq, hle⟩ := h.highest r hold
        exact Nat.le_trans hle (hguard q hq)
      · obtain rfl := List.mem_singleton.mp hnew
        exact Nat.le_refl _
  · refine ⟨?_, ?_⟩
    · rw [hpub, hjoins]
      exact fun p hp => List.mem_append_left _ (h.published p hp)
    · rw [hjoins, State.shown?, hpub]
      intro r hr
      rcases List.mem_append.mp hr with hold | hnew
      · exact h.highest r hold
      · obtain rfl := List.mem_singleton.mp hnew
        exact ⟨q, hq, Nat.le_of_lt hnewer⟩

theorem Newest.step (h : Newest s history) (policy : ctx.overlap = .concurrent) (e : Event) :
    Newest (s.step ctx e) (history ++ [⟨s, e⟩]) := by
  cases hjoined : (⟨s, e⟩ : Moment).joined? with
  | some snapshot => exact h.joining hjoined (Moment.joined_cases ctx hjoined)
  | none =>
      have hchange := Moment.change ctx ⟨s, e⟩
      simp only [Moment.after] at hchange
      generalize s.step ctx e = s' at hchange
      cases hchange with
      | started now notice =>
          refine h.quiet hjoined ?_
          rw [State.startCycle_eq]
          exact publishedAtStart_concurrent policy s now
      | joined t snapshot live he hj =>
          rw [hjoined] at hj
          cases hj
      | idle | noted | begun | proceeded | completed | crashed | dropped | halted =>
          exact h.quiet hjoined rfl

theorem newest_run (policy : ctx.overlap = .concurrent) (openedAt : Int) (events : List Event) :
    Newest (State.run ctx (.initial openedAt) events)
      (State.moments ctx (.initial openedAt) events) :=
  State.history_induction ⟨by simp [State.initial], by simp [joins]⟩
    (fun _ e h => h.step policy e) events

/-! ## Every cycle is accounted for -/

theorem Accounted.quiet (h : Accounted s history) (hjoined : m.joined? = none)
    (hlast : s'.lastStarted = s.lastStarted) (hcycles : s'.cycles = s.cycles)
    (haborted : ∀ t ∈ s'.tasks, t.progress = .aborted → s'.stopped = true) :
    Accounted s' (history ++ [m]) := by
  refine ⟨haborted, ?_⟩
  rw [hlast, hcycles, joins_concat_of_none hjoined]
  exact h.taken

theorem Accounted.aborted_setProgress (h : Accounted s history) {cycle : Nat}
    {progress : Progress} (hp : progress ≠ .aborted) :
    ∀ t ∈ (s.setProgress cycle progress).tasks, t.progress = .aborted → s.stopped = true := by
  intro t ht haborted
  rcases State.mem_setProgress ht with rfl | ⟨hold, -⟩
  · exact absurd haborted hp
  · exact h.aborted t hold haborted

theorem Accounted.starting (h : Accounted s history) (policy : ctx.overlap = .concurrent)
    (notice : Notice) (now : Nat) (hjoined : m.joined? = none) :
    Accounted (State.startCycle ctx { s with notice } now) (history ++ [m]) := by
  rw [State.startCycle_eq, tasksAtStart_concurrent policy]
  refine ⟨?_, ?_⟩
  · intro t ht haborted
    rcases List.mem_append.mp ht with hold | hnew
    · exact h.aborted t hold haborted
    · obtain rfl := List.mem_singleton.mp hnew
      cases haborted
  · rw [joins_concat_of_none hjoined]
    intro k hk hle
    simp only [State.cycles, List.map_append, List.map_cons, List.map_nil, List.mem_append]
    rcases Nat.lt_or_eq_of_le hle with hlt | rfl
    · exact (h.taken k hk (Nat.le_of_lt_succ hlt)).imp_left Or.inl
    · exact Or.inl (Or.inr (List.mem_singleton_self _))

theorem Accounted.joining (h : Accounted s history) {t : Task} {snapshot : Snapshot}
    (hcycle : snapshot.cycle = t.cycle) (hjoined : m.joined? = some snapshot) :
    Accounted (((s.released.removeTask t.cycle).landed t.cycle).publish snapshot)
      (history ++ [m]) := by
  rw [State.publish_landed_eq]
  refine ⟨fun u hu => h.aborted u (State.mem_removeTask.mp hu).1, ?_⟩
  rw [joins_concat_of_some hjoined]
  intro k hk hle
  by_cases hsame : k = t.cycle
  · refine Or.inr ⟨snapshot, List.mem_append_right _ (List.mem_singleton_self _), ?_⟩
    rw [hcycle, hsame]
  · rcases h.taken k hk hle with hmem | ⟨p, hp, hpcycle⟩
    · obtain ⟨u, hu, rfl⟩ := List.mem_map.mp hmem
      exact Or.inl (List.mem_map.mpr ⟨u, State.mem_removeTask.mpr ⟨hu, hsame⟩, rfl⟩)
    · exact Or.inr ⟨p, List.mem_append_left _ hp, hpcycle⟩

/-- Every event keeps the account, unless it takes up a cycle that was taken
down. -/
theorem Accounted.step (h : Accounted s history) (policy : ctx.overlap = .concurrent)
    (hsourced : Sourced ctx s history) (hbroken : ∀ t ∈ s.tasks, t.progress ≠ .crashed)
    (e : Event) : Accounted (s.step ctx e) (history ++ [⟨s, e⟩]) := by
  have hchange := Moment.change ctx ⟨s, e⟩
  simp only [Moment.after] at hchange
  generalize s.step ctx e = s' at hchange
  cases hchange with
  | idle _ hj => exact h.quiet hj rfl rfl h.aborted
  | noted notice he hs hj => exact h.quiet hj rfl rfl h.aborted
  | started now notice live hs hj => exact h.starting policy notice now hj
  | begun t now answers he =>
      obtain rfl : e = .begin t.cycle now answers := he
      exact h.quiet (by simp [Moment.joined?]) rfl (cycles_setProgress s t.cycle _)
        (h.aborted_setProgress (by simp))
  | proceeded t now answers he =>
      obtain rfl : e = .proceed t.cycle now answers := he
      exact h.quiet (by simp [Moment.joined?]) rfl (cycles_setProgress s t.cycle _)
        (h.aborted_setProgress (by simp))
  | completed t now he =>
      obtain rfl : e = .complete t.cycle now := he
      exact h.quiet (by simp [Moment.joined?]) rfl (cycles_setProgress s t.cycle _)
        (h.aborted_setProgress (by simp))
  | crashed t ht _ hj =>
      exact h.quiet hj rfl (cycles_setProgress s t.cycle _) (h.aborted_setProgress (by simp))
  | joined t snapshot live he hj ht hp =>
      exact h.joining (hsourced.told_of_finished ht hp).1 hj
  | dropped t live he hj ht hp =>
      -- A task without a snapshot is one of a cycle taken down or of a poller shut down.
      rcases hp with hcrashed | haborted
      · exact absurd hcrashed (hbroken t ht)
      · have hstopped : s.stopped = true := h.aborted t ht haborted
        rw [show s.stopped = false from live] at hstopped
        cases hstopped
  | halted he =>
      obtain rfl : e = .shutdown := he
      exact h.quiet (by simp [Moment.joined?]) rfl (cycles_map_abort s.tasks) fun _ _ _ => rfl

theorem accounted_run (policy : ctx.overlap = .concurrent) (openedAt : Int)
    (events : List Event) :
    Unbroken (State.moments ctx (.initial openedAt) events) →
      Accounted (State.run ctx (.initial openedAt) events)
        (State.moments ctx (.initial openedAt) events) := by
  refine State.history_induction (P := fun s history => Unbroken history → Accounted s history)
    (fun _ => ⟨by simp [State.initial], ?_⟩) (fun events e ih hunbroken => ?_) events
  · intro k hk hle
    have hzero : k ≤ 0 := hle
    omega
  · have hbefore : Unbroken (State.moments ctx (.initial openedAt) events) :=
      fun m hm => hunbroken m (List.mem_append_left _ hm)
    exact (ih hbefore).step policy (sourced_run ctx openedAt events)
      (hunbroken _ (List.mem_append_right _ (List.mem_singleton_self _))) e

/-! ## What a run shows -/

/-- Cycles side by side: which of them is shown, and which is discarded. -/
structure Overlapping (ctx : Context) (s : State) (history : List Moment) : Prop where
  /-- No stand-in is ever published. -/
  published : ∀ p ∈ s.published, p ∈ joins history ∧ ¬ IsStandIn ctx p
  /-- What was taken up is the result of its own cycle. -/
  origin : ∀ p ∈ joins history, MadeFrom ctx (heard ctx history) p
  /-- Nothing is shown until the first snapshot is taken up. -/
  empty : s.shown? = none ↔ joins history = []
  /-- The one with the highest number is shown. -/
  newest : ∀ p, s.shown? = some p ↔ p ∈ joins history ∧ ∀ q ∈ joins history, q.cycle ≤ p.cycle
  /-- One is discarded if a newer one is shown, and published otherwise. -/
  discarded : ∀ m ∈ history, ∀ p, m.joined? = some p →
    ((m.after ctx).published = m.before.published ↔
      ∃ q, m.before.shown? = some q ∧ p.cycle < q.cycle) ∧
    (m.Publishes ctx p ↔ ∀ q, m.before.shown? = some q → q.cycle ≤ p.cycle)
  /-- Once the latest cycle has left the tasks, it is shown. -/
  settled : Unbroken history → 1 ≤ s.lastStarted → (∀ t ∈ s.tasks, t.cycle ≠ s.lastStarted) →
    ∃ p ∈ joins history, s.shown? = some p ∧ p.cycle = s.lastStarted

/-- Two snapshots that were taken up for one cycle are the same. -/
theorem Sourced.joins_unique (h : Sourced ctx s history) {p q : Snapshot}
    (hp : p ∈ joins history) (hq : q ∈ joins history) (hcycle : p.cycle = q.cycle) : p = q := by
  have hnodup : ((joins history).map Snapshot.cycle).Nodup := List.pairwise_map.mpr h.distinct
  exact List.inj_on_of_nodup_map hnodup hp hq hcycle

theorem Newest.shown?_eq_some_iff (h : Newest s history) (hsourced : Sourced ctx s history)
    {p : Snapshot} :
    s.shown? = some p ↔ p ∈ joins history ∧ ∀ q ∈ joins history, q.cycle ≤ p.cycle := by
  constructor
  · intro hp
    refine ⟨h.published p (List.mem_of_mem_head? hp), fun q hq => ?_⟩
    obtain ⟨shown, hshown, hle⟩ := h.highest q hq
    obtain rfl := Option.some.inj (hshown.symm.trans hp)
    exact hle
  · -- A number is taken up once, so the highest one belongs to what is shown.
    rintro ⟨hp, hhighest⟩
    obtain ⟨shown, hshown, hle⟩ := h.highest p hp
    have hmem := h.published shown (List.mem_of_mem_head? hshown)
    obtain rfl := hsourced.joins_unique hp hmem (Nat.le_antisymm hle (hhighest shown hmem))
    exact hshown

theorem Newest.shown?_eq_none_iff (h : Newest s history) :
    s.shown? = none ↔ joins history = [] := by
  constructor
  · intro hnone
    refine List.eq_nil_iff_forall_not_mem.mpr fun q hq => ?_
    obtain ⟨p, hp, -⟩ := h.highest q hq
    rw [hnone] at hp
    cases hp
  · intro hjoins
    refine List.head?_eq_none_iff.mpr (List.eq_nil_iff_forall_not_mem.mpr fun p hp => ?_)
    have hmem := h.published p hp
    rw [hjoins] at hmem
    cases hmem

/-- Under the policy that leaves the previous cycles alone, every run shows
the newest of what was taken up. -/
theorem overlapping_run (policy : ctx.overlap = .concurrent) (openedAt : Int)
    (events : List Event) :
    Overlapping ctx (State.run ctx (.initial openedAt) events)
      (State.moments ctx (.initial openedAt) events) := by
  have hnewest := newest_run policy openedAt events
  have hsourced := sourced_run ctx openedAt events
  refine ⟨fun p hp => ?_, fun p hp => (hsourced.genuine p hp).madeFrom,
    hnewest.shown?_eq_none_iff, fun p => hnewest.shown?_eq_some_iff hsourced,
    fun m hm p hjoined => ?_, fun hunbroken hpos hgone => ?_⟩
  · have hmem := hnewest.published p hp
    exact ⟨hmem, (hsourced.genuine p hmem).not_isStandIn⟩
  · rcases Moment.joined_cases ctx hjoined with ⟨hpublishes, hguard⟩ | ⟨hsame, q, hq, hnewer⟩
    · refine ⟨⟨fun hsame => ?_, fun ⟨q, hq, hnewer⟩ => ?_⟩, fun _ => hguard, fun _ => hpublishes⟩
      · exact absurd (hpublishes.symm.trans hsame) (List.cons_ne_self _ _)
      · exact absurd (hguard q hq) (Nat.not_le_of_lt hnewer)
    · refine ⟨⟨fun _ => ⟨q, hq, hnewer⟩, fun _ => hsame⟩, fun hpublishes => ?_, fun hguard => ?_⟩
      · exact absurd (Eq.symm hpublishes |>.trans hsame) (List.cons_ne_self _ _)
      · exact absurd (hguard q hq) (Nat.not_le_of_lt hnewer)
  · rcases (accounted_run policy openedAt events hunbroken).taken _ hpos (Nat.le_refl _) with
      hmem | ⟨p, hp, hcycle⟩
    · obtain ⟨t, ht, hlast⟩ := List.mem_map.mp hmem
      exact absurd hlast (hgone t ht)
    · refine ⟨p, hp, (hnewest.shown?_eq_some_iff hsourced).mpr ⟨hp, ?_⟩, hcycle⟩
      intro q hq
      rw [hcycle]
      exact (hsourced.bounded q hq).2

/-- Two cycles that end in the other order than they started. -/
def crossingCycles : List Event :=
  let answers : Answers := fun _ => ⟨0, .failed (.status "/api" 503)⟩
  [.tick 0, .begin 1 0 answers, .notify, .refresh 5, .begin 2 5 answers, .proceed 2 6 answers,
    .complete 2 7, .join 2, .proceed 1 8 answers, .complete 1 9, .join 1]

/-- A context in which a new cycle leaves the previous one alone. -/
def sparingContext : Context :=
  ⟨"http://store", "http://links", 25, 100, .concurrent, .allOrNothing⟩

/-- Both are taken up, and the later one stays on display. -/
theorem overlapping_of_crossingCycles :
    sparingContext.overlap = .concurrent ∧
      (joins (State.moments sparingContext (.initial 0) crossingCycles)).map Snapshot.cycle =
        [2, 1] ∧
      (State.run sparingContext (.initial 0) crossingCycles).published.map Snapshot.cycle =
        [2] ∧
      Overlapping sparingContext (State.run sparingContext (.initial 0) crossingCycles)
        (State.moments sparingContext (.initial 0) crossingCycles) :=
  ⟨rfl, rfl, rfl, overlapping_run rfl 0 crossingCycles⟩

end Dashboard.Poller
