import Dashboard.Proofs.Config.Usable
import Dashboard.Proofs.Poller.Schedule

/-!
# The pace of a poller

The timer starts a cycle at every multiple of the interval, whatever else
goes on. What keeps it there is that it is never late: time passes only when
nothing is due, so a tick comes at its own instant, and the next one is due
an interval after it (`OnTime`). Cycles that take long, fail or crash have no
part in this, and neither have the cycles that someone asked for.

No call is lost: as long as one has not been answered something is pending,
and then time does not pass (`OnTime.wait`). That there are never more starts
than calls, and when calls become one, holds of any events in any order
(`startsAsked_add_pending_le`, `merged_run`).
-/

namespace Dashboard.Poller

open Fetch

variable {ctx : Context}

/-! ## Starts -/

namespace Moment

theorem event_of_started {m : Moment} {n t : Nat} (h : m.started? = some (n, t)) :
    m.event = .tick t ∨ m.event = .refresh t := by
  unfold started? at h
  split at h
  · cases h
  · split at h
    · next now he =>
        rw [he, (Prod.mk.inj (Option.some.inj h)).2]
        exact Or.inl rfl
    · next now he =>
        obtain ⟨-, -, hstarted⟩ := Option.map_eq_some_iff.mp h
        rw [he, (Prod.mk.inj hstarted).2]
        exact Or.inr rfl
    · cases h

/-- A cycle that starts gets the next number. -/
theorem started_cases (ctx : Context) (m : Moment) :
    (m.started? = none ∧ (m.after ctx).lastStarted = m.before.lastStarted) ∨
      ∃ now, m.started? = some (m.before.lastStarted + 1, now) ∧
        (m.after ctx).lastStarted = m.before.lastStarted + 1 := by
  have hchange := m.change ctx
  generalize m.after ctx = s' at hchange ⊢
  cases hchange with
  | started now notice live hs =>
      rw [State.startCycle_eq]
      exact Or.inr ⟨now, hs, rfl⟩
  | idle hs => exact Or.inl ⟨hs, rfl⟩
  | crashed t ht hs => exact Or.inl ⟨hs, rfl⟩
  | joined t snapshot live he =>
      rw [State.publish_landed_eq]
      exact Or.inl ⟨by simp [started?, he], rfl⟩
  | noted notice he hs => exact Or.inl ⟨hs, rfl⟩
  | begun t now answers he => exact Or.inl ⟨by simp [started?, he], rfl⟩
  | proceeded t now answers he => exact Or.inl ⟨by simp [started?, he], rfl⟩
  | completed t now he => exact Or.inl ⟨by simp [started?, he], rfl⟩
  | dropped t live he => exact Or.inl ⟨by simp [started?, he], rfl⟩
  | halted he => exact Or.inl ⟨by simp [started?, he], rfl⟩

end Moment

/-- The numbers of the cycles that started. -/
def startedNumbers (history : List Moment) : List Nat :=
  (history.filterMap Moment.started?).map Prod.fst

/-- Cycles are numbered in the order of their start. -/
theorem startedNumbers_run (openedAt : Int) (events : List Event) :
    startedNumbers (State.moments ctx (.initial openedAt) events) =
      List.range' 1 (State.run ctx (.initial openedAt) events).lastStarted := by
  refine State.history_induction
    (P := fun s history => startedNumbers history = List.range' 1 s.lastStarted) rfl
    (fun events e ih => ?_) events
  simp only [startedNumbers, List.filterMap_append, List.map_append] at ih ⊢
  rw [ih]
  rcases Moment.started_cases ctx ⟨State.run ctx (.initial openedAt) events, e⟩ with
    ⟨hnone, hlast⟩ | ⟨now, hstarted, hlast⟩
  · simp only [Moment.after] at hlast
    rw [hlast, List.filterMap_cons_none hnone]
    simp
  · simp only [Moment.after] at hlast
    rw [hlast, List.filterMap_cons_some hstarted, List.range'_concat]
    simp [Nat.add_comm]

/-! ## Instants -/

theorem append_cons_eq_concat {α : Type} {before after l : List α} {x z : α}
    (h : before ++ x :: after = l ++ [z]) :
    (l = before ∧ z = x ∧ after = []) ∨
      ∃ rest, after = rest ++ [z] ∧ l = before ++ x :: rest := by
  rcases List.eq_nil_or_concat after with rfl | ⟨rest, y, rfl⟩
  · obtain ⟨hl, hz⟩ := List.append_inj' h rfl
    exact Or.inl ⟨hl.symm, (List.singleton_inj.mp hz).symm, rfl⟩
  · rw [List.concat_eq_append, ← List.cons_append, ← List.append_assoc] at h
    obtain ⟨hl, hz⟩ := List.append_inj' h rfl
    obtain rfl := List.singleton_inj.mp hz
    exact Or.inr ⟨rest, List.concat_eq_append, hl.symm⟩

namespace Clock

variable {β : Type} {openedAt : Int} {backend : β} {c : Clock β}

/-- When the timer started a cycle. -/
def timedStarts (ctx : Context) (openedAt : Int) (c : Clock β) : List Nat :=
  ((c.timeline ctx openedAt).filter fun x => x.2.isTimed).map Prod.fst

/-- A start that was asked for comes at an instant. -/
def Heeded (later : List (Nat × Moment)) (t : Nat) : Prop :=
  ∃ y ∈ later, y.2.isAsked = true ∧ y.1 = t

/-- The timer is on time, and so is the answer to every call. -/
structure OnTime (ctx : Context) (openedAt : Int) (c : Clock β) : Prop where
  timer : ∃ k, c.nextTick = k * ctx.interval ∧ k * ctx.interval ≤ c.now + ctx.interval ∧
    c.timedStarts ctx openedAt = (List.range k).map (· * ctx.interval)
  instants : ∀ x ∈ c.timeline ctx openedAt, ∀ n t, x.2.started? = some (n, t) → t = x.1
  answered : c.state.stopped = false → ∀ before x later,
    c.timeline ctx openedAt = before ++ x :: later → x.2.isCall = true →
      Heeded later x.1 ∨ (0 < c.state.pending ∧ x.1 = c.now)

theorem onTime_initial (ctx : Context) (openedAt : Int) (backend : β) :
    OnTime ctx openedAt (initial openedAt backend) where
  timer := ⟨0, (Nat.zero_mul _).symm, by omega, rfl⟩
  instants := by simp [timeline, initial, timedMoments]
  answered := by simp [timeline, initial, timedMoments]

/-- One more event at the current instant. -/
structure Extends (ctx : Context) (openedAt : Int) (c c' : Clock β) (e : Event) : Prop where
  timeline : c'.timeline ctx openedAt = c.timeline ctx openedAt ++ [(c.now, ⟨c.state, e⟩)]
  state : c'.state = c.state.step ctx e
  now : c'.now = c.now

variable {c' : Clock β} {e : Event}

theorem OnTime.instants_concat (h : OnTime ctx openedAt c) (hext : Extends ctx openedAt c c' e)
    (he : ∀ n t, (⟨c.state, e⟩ : Moment).started? = some (n, t) → t = c.now) :
    ∀ x ∈ c'.timeline ctx openedAt, ∀ n t, x.2.started? = some (n, t) → t = x.1 := by
  intro x hx n t hstarted
  rw [hext.timeline] at hx
  rcases List.mem_append.mp hx with hold | hnew
  · exact h.instants x hold n t hstarted
  · obtain rfl := List.mem_singleton.mp hnew
    exact he n t hstarted

/-- A call waits for its answer at the instant at which it came. -/
theorem OnTime.answered_concat (h : OnTime ctx openedAt c) (hext : Extends ctx openedAt c c' e)
    (live : c.state.stopped = false) {before later : List (Nat × Moment)} {x : Nat × Moment}
    (hsplit : c'.timeline ctx openedAt = before ++ x :: later) (hcall : x.2.isCall = true) :
    Heeded later x.1 ∨ (0 < c'.state.pending ∧ x.1 = c'.now) := by
  have hpending := Moment.pending_cases ctx ⟨c.state, e⟩
  simp only [Moment.after, ← hext.state] at hpending
  rw [hext.now]
  rcases append_cons_eq_concat (hsplit.symm.trans hext.timeline) with
    ⟨-, rfl, -⟩ | ⟨rest, rfl, hrest⟩
  · rcases hpending with ⟨-, -, hpos, -⟩ | ⟨hnone, -⟩ | ⟨hnone, -⟩
    · exact Or.inr ⟨hpos, rfl⟩
    · rw [hcall] at hnone
      cases hnone
    · rw [hcall] at hnone
      cases hnone
  · rcases h.answered live before x rest hrest hcall with ⟨y, hy, hasked⟩ | ⟨hpos, hnow⟩
    · exact Or.inl ⟨y, List.mem_append_left _ hy, hasked⟩
    · rcases hpending with ⟨-, -, hpos', -⟩ | ⟨-, hasked, -⟩ | ⟨-, -, -, hkept⟩
      · exact Or.inr ⟨hpos', hnow⟩
      · exact Or.inl ⟨_, List.mem_append_right _ (List.mem_singleton_self _), hasked, hnow.symm⟩
      · exact Or.inr ⟨hkept hpos, hnow⟩

theorem timedStarts_concat (hext : Extends ctx openedAt c c' e) :
    c'.timedStarts ctx openedAt = c.timedStarts ctx openedAt ++
      if (⟨c.state, e⟩ : Moment).isTimed then [c.now] else [] := by
  rw [timedStarts, hext.timeline, List.filter_append, List.map_append]
  congr 1
  cases htimed : (⟨c.state, e⟩ : Moment).isTimed <;> simp [htimed]

/-- Nothing pends while time passes. -/
theorem OnTime.wait (h : OnTime ctx openedAt c) (idle : c.Quiet ∨ c.state.stopped = true) :
    OnTime ctx openedAt { c with now := c.now + 1 } := by
  obtain ⟨k, hnext, hle, hstarts⟩ := h.timer
  refine ⟨⟨k, hnext, ?_, hstarts⟩, h.instants, fun live before x later hsplit hcall => ?_⟩
  · show _ ≤ c.now + 1 + ctx.interval
    omega
  · have hquiet : c.Quiet := idle.resolve_right fun hstopped =>
      absurd (hstopped.symm.trans live) nofun
    rcases h.answered live before x later hsplit hcall with hanswered | ⟨hpos, -⟩
    · exact Or.inl hanswered
    · have hnone : c.state.pending = 0 := congrArg Notice.pending hquiet.calm
      omega

variable [Backend β]

theorem extends_send (h : Logged ctx openedAt c) (e : Event) :
    Extends ctx openedAt c (c.send ctx e) e := ⟨h.timeline_send e, rfl, rfl⟩

theorem extends_tick (h : Logged ctx openedAt c) (due : c.nextTick ≤ c.now) :
    Extends ctx openedAt c (c.handleTick ctx) (.tick c.now) := by
  rw [handleTick, if_pos due]
  exact ⟨h.timeline_send (.tick c.now), rfl, rfl⟩

theorem OnTime.tick (h : OnTime ctx openedAt c) (hlogged : Logged ctx openedAt c)
    (live : c.state.stopped = false) (hnow : c.now = c.nextTick) :
    OnTime ctx openedAt (c.handleTick ctx) := by
  have hext := extends_tick hlogged (Nat.le_of_eq hnow.symm)
  rw [handleTick_of_eq hnow] at hext ⊢
  have hstarted : (⟨c.state, .tick c.now⟩ : Moment).started? =
      some (c.state.lastStarted + 1, c.now) := by
    simp [Moment.started?, live]
  refine ⟨?_, ?_, fun _ _ _ _ hsplit => h.answered_concat hext live hsplit⟩
  · obtain ⟨k, hnext, -, hstarts⟩ := h.timer
    have hsucc : (k + 1) * ctx.interval = c.nextTick + ctx.interval := by
      rw [hnext, Nat.add_mul, Nat.one_mul]
    refine ⟨k + 1, hsucc.symm, ?_, ?_⟩
    · show _ ≤ c.now + ctx.interval
      omega
    · have htimed : (⟨c.state, .tick c.now⟩ : Moment).isTimed = true := by
        simp [Moment.isTimed, hstarted]
      rw [timedStarts_concat hext, hstarts, htimed, List.range_succ, List.map_append, hnow, hnext]
      rfl
  · refine h.instants_concat hext fun n t hs => ?_
    rw [hstarted] at hs
    exact (Prod.mk.inj (Option.some.inj hs)).2.symm

theorem OnTime.send (h : OnTime ctx openedAt c) (hlogged : Logged ctx openedAt c)
    (offered : Offered ctx c e) : OnTime ctx openedAt (c.send ctx e) := by
  have hext := extends_send hlogged e
  refine ⟨?_, ?_, fun live _ _ _ hsplit => h.answered_concat hext (live_of_step live) hsplit⟩
  · obtain ⟨k, hnext, hle, hstarts⟩ := h.timer
    have htimed : (⟨c.state, e⟩ : Moment).isTimed = false := by
      cases offered <;> rfl
    refine ⟨k, hnext, hle, ?_⟩
    rw [timedStarts_concat hext, htimed, hstarts]
    simp
  · refine h.instants_concat hext fun n t hs => ?_
    rcases Moment.event_of_started hs with he | he
    · obtain rfl : e = .tick t := he
      cases offered
    · obtain rfl : e = .refresh t := he
      cases offered
      rfl

theorem Reachable.onTime (h : Reachable ctx openedAt backend c) : OnTime ctx openedAt c := by
  induction h with
  | initial => exact onTime_initial ctx openedAt backend
  | tick h live due ih =>
      exact ih.tick h.logged live (Nat.le_antisymm (h.now_le live) due)
  | send h offered ih => exact ih.send h.logged offered
  | wait _ idle ih => exact ih.wait idle

end Clock

/-! ## All of it -/

/-- The pace of a poller, from its start up to a clock. -/
structure Cadence {β : Type} (ctx : Context) (openedAt : Int) (c : Clock β) : Prop extends
    Clock.OnTime ctx openedAt c where
  /-- No tick is missing, except one that is due at this very instant. -/
  prompt : c.state.stopped = false → c.now ≤ c.nextTick
  /-- At no time there have been more starts that were asked for than calls. -/
  asked : ∀ before after, c.history ctx openedAt = before ++ after →
    startsAsked before ≤ calls before
  /-- Calls become one, apart from two the first of which was handed over. -/
  merged : Merged (c.history ctx openedAt)
  numbered : startedNumbers (c.history ctx openedAt) = List.range' 1 c.state.lastStarted

theorem Clock.Reachable.cadence {β : Type} [Backend β] {openedAt : Int} {backend : β}
    {c : Clock β} (h : Clock.Reachable ctx openedAt backend c) : Cadence ctx openedAt c where
  toOnTime := h.onTime
  prompt := h.now_le
  asked := fun before after hsplit => by
    rw [Clock.history_eq] at hsplit
    obtain ⟨first, second, rfl, -⟩ := moments_eq_append hsplit
    have := startsAsked_add_pending_le ctx (.initial openedAt) first
    have hnone : (State.initial openedAt).pending = 0 := rfl
    omega
  merged := by
    rw [Clock.history_eq]
    exact merged_run openedAt c.events
  numbered := by
    rw [Clock.history_eq, h.logged]
    exact startedNumbers_run openedAt c.events

theorem interval_pos_of_validate {config : Config} (h : config.validate = .ok ()) :
    0 < config.refresh.interval.toNat := by
  obtain ⟨-, -, -, -, hshort⟩ := Config.validate_eq_ok_iff.mp h
  have hle : Config.leastInterval.toNat ≤ config.refresh.interval.toNat :=
    Nat.le_of_not_lt fun hlt => hshort (UInt64.lt_iff_toNat_lt.mpr hlt)
  have hleast : Config.leastInterval.toNat = 100 := rfl
  omega

/-- Whatever happens to a poller, the timer starts a cycle in every interval
and no call is lost; and things do happen, in any schedule, until it is over. -/
theorem cadence_reachable {β : Type} [Backend β] (config : Config)
    (valid : config.validate = .ok ()) (settings : Option Json) (openedAt : Int) (backend : β) :
    let ctx : Context := .ofSettings config settings
    0 < ctx.interval ∧
      (∀ c, Clock.Reachable ctx openedAt backend c → Cadence ctx openedAt c) ∧
      ∀ actions, Clock.Rests ctx openedAt backend (actions.map Clock.Action.length).sum
          (Clock.follow ctx openedAt backend actions) ∧
        ((Clock.follow ctx openedAt backend actions).state.stopped = true →
          .shutdown ∈ actions) := by
  intro ctx
  have hinterval : 0 < ctx.interval := interval_pos_of_validate valid
  exact ⟨hinterval, fun c h => h.cadence, Clock.rests_follow hinterval openedAt backend⟩

/-- A context in which cycles follow each other quickly. -/
def hastyContext : Context := .ofSettings hastyConfig none

/-- Someone asks for a refresh between two ticks, and the ticks stay where
they are. -/
theorem cadence_of_sluggish :
    hastyConfig.validate = .ok () ∧
      let c : Clock Sluggish := Clock.follow hastyContext 0 ⟨⟩ [.sleep 50, .refresh 1, .sleep 160]
      c.timedStarts hastyContext 0 = [0, 101, 202] ∧ calls (c.history hastyContext 0) = 1 ∧
        startedNumbers (c.history hastyContext 0) = [1, 2, 3, 4] ∧ Cadence hastyContext 0 c := by
  have hvalid : hastyConfig.validate = .ok () := by decide
  refine ⟨hvalid, by decide +kernel, by decide +kernel, by decide +kernel, ?_⟩
  obtain ⟨-, hcadence, hfollow⟩ := cadence_reachable hastyConfig hvalid none 0 (⟨⟩ : Sluggish)
  exact hcadence _ (hfollow [.sleep 50, .refresh 1, .sleep 160]).1.reachable

/-- Of two calls at once the first is handed to the waiting poller and the
second is kept, so they start two cycles and not one. -/
theorem not_merged_of_twoCalls :
    hastyConfig.validate = .ok () ∧
      let c : Clock Sluggish := Clock.follow hastyContext 0 ⟨⟩ [.sleep 50, .refresh 2]
      Clock.Reachable hastyContext 0 ⟨⟩ c ∧
        ∃ before between after, c.history hastyContext 0 = before ++ between ++ after ∧
          calls between = 0 ∧ startsAsked between = 2 := by
  refine ⟨by decide, (Clock.rests_follow (by decide) 0 _ _).1.reachable, ?_⟩
  let history := (Clock.follow hastyContext 0 (⟨⟩ : Sluggish) [.sleep 50, .refresh 2]).history
    hastyContext 0
  -- The two calls are the last events before the cut.
  have hcut : history = history.take 13 ++ history.drop 13 ++ [] := by simp
  have hcalls : calls (history.drop 13) = 0 := by decide +kernel
  have htwo : startsAsked (history.drop 13) = 2 := by decide +kernel
  exact ⟨_, _, _, hcut, hcalls, htwo⟩

end Dashboard.Poller
