import Dashboard.Config.Validate
import Dashboard.Proofs.Poller.Pace
import Mathlib.Algebra.Order.Ring.Nat

/-!
# Where two deadlines fit into an interval, no cycle meets another

As long as nobody asks for a refresh, the timer alone starts cycles. A clock
goes from one instant at which something happens to the next (`Ready`) and
comes to rest there (`Resting`): the poller is idle, or the latest cycle waits
for the end of a phase, and that end comes before the next tick. So a tick
always meets an idle poller, and an event never meets a second cycle.

`Easy` says it of a single moment. It also says that the policy for
unfinished cycles makes no difference to the moment; since a clock does
nothing but pass events on, both policies run through the same moments and
show the same snapshots at the same instants.
-/

namespace Dashboard.Poller

open Fetch

/-- The same session under a policy for unfinished cycles. -/
abbrev underPolicy (ctx : Context) (overlap : OverlapPolicy) : Context := { ctx with overlap }

variable {ctx : Context} {now n : Nat} {progress : Progress} {s : State} {e : Event}

/-! ## Moments -/

/-- An event that meets no other cycle. -/
structure Easy (ctx : Context) (t : Nat) (m : Moment) : Prop where
  alone : m.before.tasks.length ≤ 1
  /-- Only the timer starts a cycle, at the instant of its number. -/
  timed : ∀ k start, m.started? = some (k, start) →
    m.event = .tick t ∧ start = t ∧ t = startOf ctx k
  /-- Only what was taken up goes on display, and in time. -/
  own : ∀ p, m.Publishes ctx p →
    m.joined? = some p ∧ t ≤ startOf ctx p.cycle + 2 * ctx.timeout
  /-- The policy makes no difference. -/
  indifferent : ∀ overlap, m.after (underPolicy ctx overlap) = m.after ctx

/-- An event that starts nothing and takes nothing up. -/
theorem easy_of_quiet (halone : s.tasks.length ≤ 1) (hs : (⟨s, e⟩ : Moment).started? = none)
    (hj : (⟨s, e⟩ : Moment).joined? = none)
    (hsame : ∀ overlap, s.step (underPolicy ctx overlap) e = s.step ctx e) :
    Easy ctx now ⟨s, e⟩ where
  alone := halone
  timed := fun k start h => by rw [hs] at h; cases h
  own := fun p hp => absurd hp (Moment.not_publishes (Moment.published_eq hs hj) p)
  indifferent := hsame

theorem easy_listen (halone : s.tasks.length ≤ 1) : Easy ctx now ⟨s, .listen⟩ :=
  easy_of_quiet halone (by simp [Moment.started?]) (by simp [Moment.joined?]) fun _ => rfl

theorem Idle.easy_tick (h : Idle s) (hnow : now = startOf ctx (s.lastStarted + 1)) :
    Easy ctx now ⟨s, .tick now⟩ where
  alone := by simp [h.tasks]
  timed := by
    intro k start hstarted
    simp only [Moment.started?, h.live, Bool.false_eq_true, if_false, Option.some.injEq,
      Prod.mk.injEq] at hstarted
    obtain ⟨rfl, rfl⟩ := hstarted
    exact ⟨rfl, rfl, hnow⟩
  own := fun p hp => by
    have hsame : ((⟨s, .tick now⟩ : Moment).after ctx).published = s.published := by
      rw [Moment.after, h.step_tick]
    exact absurd hp (Moment.not_publishes hsame p)
  indifferent := fun overlap => by
    rw [Moment.after, Moment.after, h.step_tick, h.step_tick]

namespace Working

theorem length_tasks (h : Working ctx now n progress s) : s.tasks.length ≤ 1 := by
  rw [h.tasks]
  exact Nat.le_refl 1

theorem easy_begin (h : Working ctx now n progress s) (cycle : Nat) (answers : Answers) :
    Easy ctx now ⟨s, .begin cycle now answers⟩ :=
  easy_of_quiet h.length_tasks (by simp [Moment.started?]) (by simp [Moment.joined?])
    fun _ => rfl

theorem easy_proceed (h : Working ctx now n progress s) (cycle : Nat) (answers : Answers) :
    Easy ctx now ⟨s, .proceed cycle now answers⟩ :=
  easy_of_quiet h.length_tasks (by simp [Moment.started?]) (by simp [Moment.joined?])
    fun _ => rfl

theorem easy_complete (h : Working ctx now n progress s) (cycle : Nat) :
    Easy ctx now ⟨s, .complete cycle now⟩ :=
  easy_of_quiet h.length_tasks (by simp [Moment.started?]) (by simp [Moment.joined?])
    fun _ => rfl

theorem easy_join (h : Working ctx now n progress s) : Easy ctx now ⟨s, .join (n + 1)⟩ where
  alone := h.length_tasks
  timed := by simp [Moment.started?]
  own := by
    intro p hp
    have hs : (⟨s, .join (n + 1)⟩ : Moment).started? = none := by simp [Moment.started?]
    cases hj : (⟨s, .join (n + 1)⟩ : Moment).joined? with
    | none => exact absurd hp (Moment.not_publishes (Moment.published_eq hs hj) p)
    | some q =>
        have hq : progress = .finished q := by
          simp only [Moment.joined?, h.live, h.progress_eq] at hj
          cases progress <;> simp_all
        rcases Moment.joined_cases ctx hj with ⟨hpublishes, -⟩ | ⟨hsame, -⟩
        · obtain rfl : q = p := (List.cons.inj (hpublishes.symm.trans hp)).1
          have htimely := h.timely
          rw [hq] at htimely
          rw [htimely.1]
          exact ⟨rfl, htimely.2⟩
        · exact absurd hp (Moment.not_publishes hsame p)
  indifferent := fun _ => rfl

end Working

/-! ## Clocks -/

namespace Clock

variable {β : Type} {openedAt : Int} {c : Clock β}

theorem cycles_of_working (h : Working ctx now n progress c.state) : c.cycles = [n + 1] := by
  rw [cycles, h.tasks]
  rfl

/-- A clock all of whose events met no other cycle. -/
structure Orderly (ctx : Context) (openedAt : Int) (c : Clock β) : Prop where
  logged : Logged ctx openedAt c
  easy : ∀ x ∈ c.timeline ctx openedAt, Easy ctx x.1 x.2

/-- A clock at which something happens now. -/
inductive Ready (ctx : Context) (c : Clock β) : Prop where
  /-- The timer ticks. -/
  | ticking (n : Nat) (idle : Idle c.state) (last : c.state.lastStarted = n)
      (tick : c.nextTick = startOf ctx (n + 1)) (now : c.now = c.nextTick)
  /-- A cycle goes on. -/
  | going (n : Nat) (progress : Progress) (working : Working ctx c.now n progress c.state)
      (tick : c.nextTick = startOf ctx (n + 2)) (begun : startOf ctx (n + 1) ≤ c.now)
      (ahead : c.now < c.nextTick)

/-- A clock at which nothing more happens now. -/
structure Resting (ctx : Context) (n : Nat) (c : Clock β) : Prop where
  last : c.state.lastStarted = n + 1
  state : Idle c.state ∨ ∃ progress, Working ctx c.now n progress c.state ∧
    c.now < dueOf ⟨n + 1, progress⟩
  tick : c.nextTick = startOf ctx (n + 2)
  begun : startOf ctx (n + 1) ≤ c.now
  ahead : c.now < c.nextTick

/-! ### From one instant to the next -/

theorem startOf_add (ctx : Context) (n : Nat) :
    startOf ctx (n + 2) = startOf ctx (n + 1) + ctx.interval := by
  rw [startOf_succ, startOf_succ, Nat.add_mul, Nat.one_mul]

theorem Resting.live (h : Resting ctx n c) : c.state.stopped = false := by
  rcases h.state with hidle | ⟨progress, hworking, -⟩
  · exact hidle.live
  · exact hworking.live

theorem nextInstant_of_idle (h : Idle c.state) (hahead : c.now ≤ c.nextTick) :
    c.nextInstant = c.nextTick := by
  rw [nextInstant, h.tasks]
  exact Nat.max_eq_right hahead

/-- The phase of a cycle ends before the next one starts. -/
theorem Resting.due_lt (h : Resting ctx n c) (hshort : 2 * ctx.timeout < ctx.interval)
    (hworking : Working ctx c.now n progress c.state) (hlate : c.now < dueOf ⟨n + 1, progress⟩) :
    dueOf ⟨n + 1, progress⟩ < c.nextTick := by
  have hdue := hworking.due_le hlate
  have := startOf_add ctx n
  rw [h.tick]
  omega

theorem Resting.nextInstant_of_working (h : Resting ctx n c)
    (hshort : 2 * ctx.timeout < ctx.interval) (hworking : Working ctx c.now n progress c.state)
    (hlate : c.now < dueOf ⟨n + 1, progress⟩) : c.nextInstant = dueOf ⟨n + 1, progress⟩ := by
  have hdue := h.due_lt hshort hworking hlate
  rw [nextInstant, hworking.tasks]
  show max c.now (min c.nextTick (dueOf ⟨n + 1, progress⟩)) = _
  omega

theorem Resting.now_lt (h : Resting ctx n c) (hshort : 2 * ctx.timeout < ctx.interval) :
    c.now < c.nextInstant := by
  rcases h.state with hidle | ⟨progress, hworking, hlate⟩
  · rw [nextInstant_of_idle hidle (Nat.le_of_lt h.ahead)]
    exact h.ahead
  · rw [h.nextInstant_of_working hshort hworking hlate]
    exact hlate

/-- The next thing that happens is a tick, or the end of a phase. -/
theorem Resting.next (h : Resting ctx n c) (hshort : 2 * ctx.timeout < ctx.interval) :
    Ready ctx { c with now := c.nextInstant } := by
  have hlt := h.now_lt hshort
  have hbegun := h.begun
  rcases h.state with hidle | ⟨progress, hworking, hlate⟩
  · exact .ticking (n + 1) hidle h.last h.tick
      (nextInstant_of_idle hidle (Nat.le_of_lt h.ahead))
  · have hnext := h.nextInstant_of_working hshort hworking hlate
    have hdue := h.due_lt hshort hworking hlate
    refine .going n progress (hworking.wait hlate (Nat.le_of_eq hnext)) h.tick ?_ ?_
    · show startOf ctx (n + 1) ≤ c.nextInstant
      omega
    · show c.nextInstant < c.nextTick
      omega

/-- Before the next instant nothing happens. -/
theorem Resting.wait (h : Resting ctx n c) (hshort : 2 * ctx.timeout < ctx.interval) {t : Nat}
    (hle : c.now ≤ t) (hlt : t < c.nextInstant) : Resting ctx n { c with now := t } := by
  have hbegun := h.begun
  refine ⟨h.last, ?_, h.tick, Nat.le_trans hbegun hle, ?_⟩
  · rcases h.state with hidle | ⟨progress, hworking, hlate⟩
    · exact Or.inl hidle
    · rw [h.nextInstant_of_working hshort hworking hlate] at hlt
      exact Or.inr ⟨progress, hworking.wait hlate (Nat.le_of_lt hlt), hlt⟩
  · rcases h.state with hidle | ⟨progress, hworking, hlate⟩
    · rw [nextInstant_of_idle hidle (Nat.le_of_lt h.ahead)] at hlt
      exact hlt
    · have hdue := h.due_lt hshort hworking hlate
      rw [h.nextInstant_of_working hshort hworking hlate] at hlt
      exact Nat.lt_trans hlt hdue

theorem Resting.easy_listen (h : Resting ctx n c) : Easy ctx c.now ⟨c.state, .listen⟩ := by
  rcases h.state with hidle | ⟨progress, hworking, -⟩
  · exact Poller.easy_listen (by simp [hidle.tasks])
  · exact Poller.easy_listen hworking.length_tasks

/-! ### One instant -/

variable [Backend β]

theorem Orderly.send (h : Orderly ctx openedAt c) (he : Easy ctx c.now ⟨c.state, e⟩) :
    Orderly ctx openedAt (c.send ctx e) where
  logged := h.logged.send e
  easy := by
    rw [h.logged.timeline_send e]
    intro x hx
    rcases List.mem_append.mp hx with hold | hnew
    · exact h.easy x hold
    · obtain rfl := List.mem_singleton.mp hnew
      exact he

/-- A clock at rest that begins to wait for a call stays at rest. -/
theorem Resting.listen (h : Resting ctx n c) : Resting ctx n (c.send ctx .listen) where
  last := by
    have hstep : (c.send ctx .listen).state = { c.state with notice := c.state.notice.listen } :=
      State.step_listen ctx h.live
    rw [hstep]
    exact h.last
  state := h.state.imp (fun hidle => hidle.listen ctx)
    fun ⟨progress, hworking, hlate⟩ => ⟨progress, hworking.listen, hlate⟩
  tick := h.tick
  begun := h.begun
  ahead := h.ahead

/-- The task of the latest cycle goes as far as it can. -/
theorem runTask_of_working (hβ : Harmless β) (h : Working ctx c.now n progress c.state)
    (ho : Orderly ctx openedAt c) :
    Orderly ctx openedAt (c.runTask ctx (n + 1)) ∧
      ∃ progress', Working ctx c.now n progress' (c.runTask ctx (n + 1)).state ∧
        (c.now < dueOf ⟨n + 1, progress'⟩ ∨ ∃ p, progress' = .finished p) := by
  let c₁ := c.send ctx (.begin (n + 1) c.now (c.answers ctx))
  let c₂ := c₁.send ctx (.proceed (n + 1) c₁.now (c₁.answers ctx))
  obtain ⟨first, hfirst, hran⟩ : ∃ progress', Working ctx c₁.now n progress' c₁.state ∧
      progress' ≠ .queued := h.begin (hβ.prompt ctx c.backend c.now)
  obtain ⟨second, hsecond, hran', hphase⟩ : ∃ progress',
      Working ctx c₂.now n progress' c₂.state ∧ progress' ≠ .queued ∧
        ∀ due panels, progress' = .primary due panels → c₂.now < due :=
    hfirst.proceed hran (hβ.prompt ctx c₁.backend c₁.now)
  have ho₁ : Orderly ctx openedAt c₁ := ho.send (h.easy_begin (n + 1) _)
  have ho₂ : Orderly ctx openedAt c₂ := ho₁.send (hfirst.easy_proceed (n + 1) _)
  exact ⟨ho₂.send (hsecond.easy_complete (n + 1)), hsecond.complete hran' hphase⟩

theorem resting_of_working (hβ : Harmless β) (h : Working ctx c.now n progress c.state)
    (ho : Orderly ctx openedAt c) (htick : c.nextTick = startOf ctx (n + 2))
    (hbegun : startOf ctx (n + 1) ≤ c.now) (hahead : c.now < c.nextTick) :
    Resting ctx n (((c.runTasks ctx).joinTasks ctx).send ctx .listen) ∧
      Orderly ctx openedAt (((c.runTasks ctx).joinTasks ctx).send ctx .listen) ∧
      (((c.runTasks ctx).joinTasks ctx).send ctx .listen).now = c.now := by
  obtain ⟨hran, progress', hworking, hdone⟩ := runTask_of_working hβ h ho
  have hrun : c.runTasks ctx = c.runTask ctx (n + 1) := by
    rw [runTasks, cycles_of_working h]
    rfl
  have hjoin : (c.runTask ctx (n + 1)).joinTasks ctx =
      (c.runTask ctx (n + 1)).send ctx (.join (n + 1)) := by
    rw [joinTasks, cycles_of_working hworking]
    rfl
  rw [hrun, hjoin]
  have hrest : Resting ctx n ((c.runTask ctx (n + 1)).send ctx (.join (n + 1))) := by
    rcases hworking.join hdone with ⟨hidle, hlast⟩ | ⟨hworking', hlate⟩
    · exact ⟨hlast, Or.inl hidle, htick, hbegun, hahead⟩
    · exact ⟨hworking'.last, Or.inr ⟨progress', hworking', hlate⟩, htick, hbegun, hahead⟩
  exact ⟨hrest.listen, (hran.send hworking.easy_join).send hrest.easy_listen, rfl⟩

theorem handleRefreshes_of_calm (h : c.state.pending = 0) : c.handleRefreshes ctx = c := by
  rw [handleRefreshes, h]
  rfl

theorem handleTick_of_lt (h : c.now < c.nextTick) : c.handleTick ctx = c := by
  rw [handleTick, if_neg (Nat.not_le.mpr h)]

theorem foldl_handleTick_of_lt (h : c.now < c.nextTick) (times : List Nat) :
    times.foldl (fun c _ => c.handleTick ctx) c = c :=
  List.foldl_fixed' (fun _ => handleTick_of_lt h) times

theorem handleTicks_of_lt (h : c.now < c.nextTick) : c.handleTicks ctx = c :=
  foldl_handleTick_of_lt h _

/-- A tick that leaves the next one in the future comes alone. -/
theorem handleTicks_of_tick (h : (c.handleTick ctx).now < (c.handleTick ctx).nextTick) :
    c.handleTicks ctx = c.handleTick ctx := by
  rw [handleTicks, List.range_succ_eq_map, List.foldl_cons]
  exact foldl_handleTick_of_lt h _

theorem handleTick_of_eq (h : c.now = c.nextTick) :
    c.handleTick ctx =
      { c.send ctx (.tick c.now) with nextTick := c.nextTick + ctx.interval } := by
  have hnext : tickAfter ctx.interval c.nextTick c.now = c.nextTick + ctx.interval := by
    rw [tickAfter, if_neg (by omega)]
  rw [handleTick, if_pos (Nat.le_of_eq h.symm), hnext]

theorem send_tick_underPolicy (h : Idle c.state) (overlap : OverlapPolicy) (now : Nat) :
    c.send (underPolicy ctx overlap) (.tick now) = c.send ctx (.tick now) := by
  rw [send, send, h.step_tick, h.step_tick]

theorem settle_of_ticks {c₁ : Clock β} (hticks : c.handleTicks ctx = c₁)
    (hcalm : c₁.state.pending = 0) :
    c.settle ctx = ((c₁.runTasks ctx).joinTasks ctx).send ctx .listen := by
  rw [settle, hticks, handleRefreshes_of_calm hcalm]

/-- What happens at an instant leaves nothing to do, meets no other cycle and
does not depend on the policy. -/
theorem Ready.settle (h : Ready ctx c) (hβ : Harmless β) (ho : Orderly ctx openedAt c)
    (hinterval : 0 < ctx.interval) :
    (∃ n, Resting ctx n (c.settle ctx)) ∧ Orderly ctx openedAt (c.settle ctx) ∧
      (c.settle ctx).now = c.now ∧
      ∀ overlap, c.settle (underPolicy ctx overlap) = c.settle ctx := by
  cases h with
  | ticking n idle last tick now =>
      have hnow : c.now = startOf ctx (n + 1) := now.trans tick
      let c₁ : Clock β := { c.send ctx (.tick c.now) with nextTick := c.nextTick + ctx.interval }
      have hworking : Working ctx c₁.now n .queued c₁.state := idle.tick last hnow
      have htick : c₁.nextTick = startOf ctx (n + 2) := by
        show c.nextTick + ctx.interval = _
        rw [tick, startOf_add]
      have hahead : c₁.now < c₁.nextTick := by
        show c.now < c.nextTick + ctx.interval
        omega
      have hsent := ho.send (idle.easy_tick (by rw [last]; exact hnow))
      have ho₁ : Orderly ctx openedAt c₁ := ⟨hsent.logged, hsent.easy⟩
      -- The next tick is ahead of the one handled now, under either policy.
      have hticks : c.handleTicks ctx = c₁ := by
        have hone : c.handleTick ctx = c₁ := handleTick_of_eq now
        rw [handleTicks_of_tick (by rw [hone]; exact hahead), hone]
      have hticks' (overlap : OverlapPolicy) : c.handleTicks (underPolicy ctx overlap) = c₁ := by
        have hone : c.handleTick (underPolicy ctx overlap) = c₁ := by
          rw [handleTick_of_eq now, send_tick_underPolicy idle]
        rw [handleTicks_of_tick (by rw [hone]; exact hahead), hone]
      obtain ⟨hresting, horderly, hstill⟩ :=
        resting_of_working hβ hworking ho₁ htick (Nat.le_of_eq hnow.symm) hahead
      rw [settle_of_ticks hticks hworking.calm]
      exact ⟨⟨n, hresting⟩, horderly, hstill,
        fun overlap => settle_of_ticks (hticks' overlap) hworking.calm⟩
  | going n progress working tick begun ahead =>
      obtain ⟨hresting, horderly, hnow⟩ := resting_of_working hβ working ho tick begun ahead
      rw [settle_of_ticks (handleTicks_of_lt ahead) working.calm]
      exact ⟨⟨n, hresting⟩, horderly, hnow,
        fun overlap => settle_of_ticks (handleTicks_of_lt ahead) working.calm⟩

/-! ### Time passes -/

/-- A clock at rest that has met no two cycles at once. -/
structure Steady (ctx : Context) (openedAt : Int) (c : Clock β) : Prop where
  resting : ∃ n, Resting ctx n c
  orderly : Orderly ctx openedAt c

/-- Until an instant a clock goes from rest to rest. -/
theorem Steady.advance (hβ : Harmless β) (hshort : 2 * ctx.timeout < ctx.interval) {t fuel : Nat}
    (h : Steady ctx openedAt c) (hle : c.now ≤ t) (hfuel : t < c.now + fuel) :
    Steady ctx openedAt (c.advance ctx t fuel) ∧ (c.advance ctx t fuel).now = t ∧
      ∀ overlap, c.advance (underPolicy ctx overlap) t fuel = c.advance ctx t fuel := by
  -- A clock at rest moves on by a millisecond at least, and pays it from the fuel.
  induction fuel generalizing c with
  | zero => omega
  | succ fuel ih =>
      obtain ⟨⟨n, hresting⟩, horderly⟩ := h
      have hnow := hresting.now_lt hshort
      by_cases hnext : c.nextInstant ≤ t
      · have hgo : (decide (c.nextInstant ≤ t) && !c.state.stopped) = true := by
          simp [hnext, hresting.live]
        have hmoved : Orderly ctx openedAt { c with now := c.nextInstant } :=
          ⟨horderly.logged, horderly.easy⟩
        obtain ⟨hrest, hclean, hstill, hsame⟩ :=
          (hresting.next hshort).settle hβ hmoved (by omega)
        have hstill' : (Clock.settle ctx { c with now := c.nextInstant }).now = c.nextInstant :=
          hstill
        obtain ⟨hsteady, hthere, hother⟩ := ih ⟨hrest, hclean⟩ (by omega) (by omega)
        rw [Clock.advance, if_pos hgo]
        refine ⟨hsteady, hthere, fun overlap => ?_⟩
        rw [Clock.advance, if_pos hgo, hsame, hother]
      · have hstop : ¬ (decide (c.nextInstant ≤ t) && !c.state.stopped) = true := by
          simp [hnext]
        have hwait := hresting.wait hshort hle (Nat.lt_of_not_le hnext)
        rw [Clock.advance, if_neg hstop, Nat.max_eq_right hle]
        refine ⟨⟨⟨n, hwait⟩, horderly.logged, horderly.easy⟩, rfl, fun overlap => ?_⟩
        rw [Clock.advance, if_neg hstop, Nat.max_eq_right hle]

theorem Steady.sleep (hβ : Harmless β) (hshort : 2 * ctx.timeout < ctx.interval)
    (h : Steady ctx openedAt c) (ms : Nat) :
    Steady ctx openedAt (c.sleep ctx ms) ∧ (c.sleep ctx ms).now = c.now + ms ∧
      ∀ overlap, c.sleep (underPolicy ctx overlap) ms = c.sleep ctx ms :=
  h.advance hβ hshort (Nat.le_add_right _ _) (by omega)

/-- The first cycle starts at once. -/
theorem steady_start (hβ : Harmless β) (hshort : 2 * ctx.timeout < ctx.interval) (openedAt : Int)
    (backend : β) :
    Steady ctx openedAt (start ctx openedAt backend) ∧ (start ctx openedAt backend).now = 0 ∧
      ∀ overlap, start (underPolicy ctx overlap) openedAt backend = start ctx openedAt backend := by
  have hready : Ready ctx (initial openedAt backend) :=
    .ticking 0 ⟨rfl, rfl, rfl, rfl, rfl⟩ rfl (by rw [startOf_succ, Nat.zero_mul]; rfl) rfl
  have hinitial : Orderly ctx openedAt (initial openedAt backend) :=
    ⟨logged_initial ctx openedAt backend, by simp [timeline, initial, timedMoments]⟩
  obtain ⟨hrest, hclean, hstill, hsame⟩ := hready.settle hβ hinitial (by omega)
  have hsteady : Steady ctx openedAt ((initial openedAt backend).settle ctx) := ⟨hrest, hclean⟩
  have hle : ((initial openedAt backend).settle ctx).now ≤ 0 := Nat.le_of_eq hstill
  have hfuel : 0 < ((initial openedAt backend).settle ctx).now + 1 := Nat.succ_pos _
  obtain ⟨hsteady', hthere, hother⟩ := hsteady.advance hβ hshort hle hfuel
  have hstart (ctx' : Context) (hinterval : ctx'.interval = ctx.interval) :
      start ctx' openedAt backend =
        ((initial openedAt backend).settle ctx').advance ctx' 0 1 := by
    have hzero : (initial openedAt backend).nextInstant = 0 := rfl
    have hhere : { initial openedAt backend with now := 0 } = initial openedAt backend := rfl
    have hgo : (decide ((initial openedAt backend).nextInstant ≤ 0) &&
        !(initial openedAt backend).state.stopped) = true := rfl
    rw [start, if_neg (by omega), sleep]
    show advance ctx' 0 (1 + 1) (initial openedAt backend) = _
    rw [advance, if_pos hgo, hzero, hhere]
  rw [hstart ctx rfl]
  refine ⟨hsteady', hthere, fun overlap => ?_⟩
  rw [hstart (underPolicy ctx overlap) rfl, hsame, hother]

/-- A poller that is left alone for some stretches of time, one after the
other. -/
def leftAlone (ctx : Context) (openedAt : Int) (backend : β) (stretches : List Nat) : Clock β :=
  stretches.foldl (sleep ctx) (start ctx openedAt backend)

theorem steady_leftAlone (hβ : Harmless β) (hshort : 2 * ctx.timeout < ctx.interval)
    (openedAt : Int) (backend : β) (stretches : List Nat) :
    Steady ctx openedAt (leftAlone ctx openedAt backend stretches) ∧
      (leftAlone ctx openedAt backend stretches).now = stretches.sum ∧
      ∀ overlap, leftAlone (underPolicy ctx overlap) openedAt backend stretches =
        leftAlone ctx openedAt backend stretches := by
  induction stretches using List.reverseRecOn with
  | nil => exact steady_start hβ hshort openedAt backend
  | append_singleton stretches ms ih =>
      have hconcat (ctx' : Context) : leftAlone ctx' openedAt backend (stretches ++ [ms]) =
          (leftAlone ctx' openedAt backend stretches).sleep ctx' ms := by
        rw [leftAlone, List.foldl_append]
        rfl
      obtain ⟨hsteady, hnow, hsame⟩ := ih
      obtain ⟨hsteady', hthere, hother⟩ := hsteady.sleep hβ hshort ms
      rw [hconcat, hthere, hnow, List.sum_append]
      refine ⟨hsteady', by simp, fun overlap => ?_⟩
      rw [hconcat, hsame, hother]

end Clock

/-! ## What a poller that is left alone shows -/

/-- Cycle after cycle, each on display before the next one starts. -/
structure Unhurried {β : Type} (ctx : Context) (openedAt : Int) (c : Clock β) : Prop where
  /-- A cycle for every interval, the first one at once. -/
  started : c.state.lastStarted = c.now / ctx.interval + 1
  /-- Only the timer starts cycles, each at its own instant. -/
  timed : ∀ x ∈ c.timeline ctx openedAt, ∀ n start, x.2.started? = some (n, start) →
    x.2.event = .tick x.1 ∧ start = x.1 ∧ x.1 = (n - 1) * ctx.interval
  /-- Two deadlines after its start the snapshot of a cycle has been shown,
  which is before the next cycle starts. -/
  shown : ∀ n, 1 ≤ n → (n - 1) * ctx.interval + 2 * ctx.timeout ≤ c.now →
    ∃ x ∈ c.timeline ctx openedAt, ∃ p, x.2.Publishes ctx p ∧ p.cycle = n ∧
      x.1 < n * ctx.interval
  /-- Every cycle is shown once, in order. -/
  once : ∃ k, c.state.published.map Snapshot.cycle = countdown k
  /-- Nothing but what cycles found out is ever shown. -/
  real : ∀ x ∈ c.timeline ctx openedAt, ∀ p, x.2.Publishes ctx p →
    MadeFrom ctx (heard ctx (c.history ctx openedAt)) p ∧ ¬ IsStandIn ctx p
  /-- No cycle meets another one. -/
  alone : (∀ x ∈ c.timeline ctx openedAt, x.2.before.tasks.length ≤ 1) ∧ c.state.tasks.length ≤ 1

namespace Clock

variable {β : Type} {openedAt : Int} {c : Clock β}

theorem Resting.exists_shown (h : Resting ctx n c) :
    ∃ k, c.state.published.map Snapshot.cycle = countdown k ∧
      ∀ cycle, 1 ≤ cycle → startOf ctx cycle + 2 * ctx.timeout ≤ c.now → cycle ≤ k := by
  have hlast (cycle : Nat) (hpos : 1 ≤ cycle) (hle : startOf ctx cycle ≤ c.now) :
      cycle ≤ n + 1 := by
    refine Nat.le_of_not_lt fun hlt => ?_
    have hmono : startOf ctx (n + 2) ≤ startOf ctx cycle :=
      Nat.mul_le_mul_right ctx.interval (by omega)
    have hahead := h.ahead
    rw [h.tick] at hahead
    omega
  rcases h.state with hidle | ⟨progress, hworking, hlate⟩
  · refine ⟨n + 1, by rw [hidle.shown, h.last], fun cycle hpos hle => hlast cycle hpos (by omega)⟩
  · refine ⟨n, hworking.shown, fun cycle hpos hle => ?_⟩
    have hcycle := hlast cycle hpos (by omega)
    have hdue := hworking.due_le hlate
    -- The latest cycle is still waiting, so its two deadlines are not over.
    have hne : cycle ≠ n + 1 := by
      rintro rfl
      omega
    omega

theorem Orderly.real (h : Orderly ctx openedAt c) {x : Nat × Moment}
    (hx : x ∈ c.timeline ctx openedAt) {p : Snapshot} (hp : x.2.Publishes ctx p) :
    MadeFrom ctx (heard ctx (c.history ctx openedAt)) p ∧ ¬ IsStandIn ctx p := by
  have hjoined : p ∈ joins (c.history ctx openedAt) :=
    List.mem_filterMap.mpr ⟨x.2, List.mem_map_of_mem hx, ((h.easy x hx).own p hp).1⟩
  have hgenuine := h.logged.sourced.genuine p hjoined
  exact ⟨hgenuine.madeFrom, hgenuine.not_isStandIn⟩

theorem Steady.unhurried [Backend β] (h : Steady ctx openedAt c)
    (hshort : 2 * ctx.timeout < ctx.interval) : Unhurried ctx openedAt c := by
  obtain ⟨⟨n, hresting⟩, horderly⟩ := h
  obtain ⟨k, hpublished, hcount⟩ := hresting.exists_shown
  constructor
  · have hbegun : n * ctx.interval ≤ c.now := hresting.begun
    have hahead : c.now < (n + 1) * ctx.interval := Nat.lt_of_lt_of_eq hresting.ahead hresting.tick
    rw [hresting.last, Nat.div_eq_of_lt_le hbegun hahead]
  · exact fun x hx => (horderly.easy x hx).timed
  · intro cycle hpos hle
    have hmem : cycle ∈ c.state.published.map Snapshot.cycle := by
      rw [hpublished]
      exact mem_countdown.mpr ⟨hpos, hcount cycle hpos hle⟩
    obtain ⟨p, hp, rfl⟩ := List.mem_map.mp hmem
    obtain ⟨x, hx, hpublishes⟩ := horderly.logged.exists_publishes hp
    refine ⟨x, hx, p, hpublishes, rfl, ?_⟩
    have htime := ((horderly.easy x hx).own p hpublishes).2
    have hsucc : p.cycle * ctx.interval = startOf ctx p.cycle + ctx.interval := by
      obtain ⟨m, hm⟩ : ∃ m, p.cycle = m + 1 := ⟨p.cycle - 1, by omega⟩
      rw [hm, startOf_succ, Nat.add_mul, Nat.one_mul]
    omega
  · exact ⟨k, hpublished⟩
  · exact fun x hx p hp => horderly.real hx hp
  · refine ⟨fun x hx => (horderly.easy x hx).alone, ?_⟩
    rcases hresting.state with hidle | ⟨progress, hworking, -⟩
    · simp [hidle.tasks]
    · exact hworking.length_tasks

/-- Where no event meets another cycle, the policy does not change what went
on display, nor when. -/
theorem Orderly.displays_underPolicy (h : Orderly ctx openedAt c) (overlap : OverlapPolicy) :
    c.displays (underPolicy ctx overlap) openedAt = c.displays ctx openedAt := by
  have htimeline : c.timeline (underPolicy ctx overlap) openedAt = c.timeline ctx openedAt :=
    timedMoments_congr fun x hx => (h.easy x hx).indifferent overlap
  have hdisplayed : ∀ x ∈ c.timeline ctx openedAt,
      (x.2.displayed (underPolicy ctx overlap)).map (x.1, ·) =
        (x.2.displayed ctx).map (x.1, ·) := fun x hx => by
    rw [Moment.displayed, Moment.displayed, (h.easy x hx).indifferent overlap]
  rw [displays, displays, htimeline]
  exact List.flatMap_congr hdisplayed

end Clock

/-- Where two deadlines fit into an interval and nobody asks for a refresh,
every cycle is over before the next one starts, whatever the backend does
short of a crash. Neither policy has anything to do then, and both show the
same snapshots at the same instants. -/
theorem unhurried_leftAlone {β : Type} [Backend β] (hβ : Harmless β) (config : Config)
    (hshort : 2 * config.backend.requestTimeout.toNat < config.refresh.interval.toNat)
    (settings : Option Json) (openedAt : Int) (backend : β) (stretches : List Nat) :
    let ctx (overlap : OverlapPolicy) : Context :=
      .ofSettings { config with refresh := { config.refresh with overlap } } settings
    let clock (overlap : OverlapPolicy) : Clock β :=
      Clock.leftAlone (ctx overlap) openedAt backend stretches
    (∀ overlap, Unhurried (ctx overlap) openedAt (clock overlap) ∧
        (clock overlap).now = stretches.sum) ∧
      (clock .cancelPrevious).displays (ctx .cancelPrevious) openedAt =
        (clock .concurrent).displays (ctx .concurrent) openedAt := by
  intro ctx clock
  have hsteady (overlap : OverlapPolicy) :
      Clock.Steady (ctx overlap) openedAt (clock overlap) ∧
        (clock overlap).now = stretches.sum ∧
        ∀ other, Clock.leftAlone (underPolicy (ctx overlap) other) openedAt backend stretches =
          clock overlap :=
    Clock.steady_leftAlone hβ hshort openedAt backend stretches
  refine ⟨fun overlap => ⟨(hsteady overlap).1.unhurried hshort, (hsteady overlap).2.1⟩, ?_⟩
  have hsame : clock .concurrent = clock .cancelPrevious :=
    (hsteady .cancelPrevious).2.2 .concurrent
  rw [hsame]
  exact ((hsteady .cancelPrevious).1.orderly.displays_underPolicy .concurrent).symm

/-- A backend that never says anything about the faults, has no metrics, and
takes its time for the rest. -/
structure Sluggish where

instance : Backend Sluggish where
  reply _ _
    | .source .faults => ⟨none, .value .null⟩
    | .gauge g => ⟨some 30, .failed (.status (Endpoint.gauge g).path 503)⟩
    | _ => ⟨some 7, .value .null⟩
  after backend _ _ := backend

theorem harmless_sluggish : Harmless Sluggish := by
  intro backend now e
  cases e with
  | settings => nofun
  | source s => cases s <;> nofun
  | gauge g => nofun

/-- Settings under which two deadlines just fit into an interval. -/
def hastyConfig : Config :=
  { backend := { requestTimeout := 50 }, refresh := { interval := 101 } }

/-- Each cycle waits for one deadline and then for the metrics. -/
theorem unhurried_of_sluggish :
    hastyConfig.validate = .ok () ∧
      let ctx : Context := .ofSettings hastyConfig none
      let clock : Clock Sluggish := Clock.leftAlone ctx 0 ⟨⟩ [250, 60]
      (clock.displays ctx 0).map (fun x => (x.1, x.2.cycle)) = [(80, 1), (181, 2), (282, 3)] ∧
        Unhurried ctx 0 clock := by
  refine ⟨by decide, by decide +kernel, ?_⟩
  exact ((unhurried_leftAlone harmless_sluggish hastyConfig (by decide) _ 0 ⟨⟩ [250, 60]).1
    .cancelPrevious).1

end Dashboard.Poller
