import Dashboard.Proofs.Fetch.Policies
import Mathlib.Order.Bounds.Basic

/-!
# How long a cycle takes

A request ends when its reply is there or when the deadline has come,
whichever is first. From that the length of everything else follows. Requests
that wait for each other take as long as the longest of them; where the first
failure counts for all, they take until that failure. A cycle is one such
batch after the other, so it takes the sum of the two, and since no request
takes longer than the deadline, a cycle takes no longer than two.

Lengths are stated as bounds of sets of instants, the greatest or the least
of those at which something ends. For a batch both come out of `settle_cases`:
a batch that was not stopped has waited for its last answer, and one that was
stopped was stopped by the earliest answer that does. The same case
distinction tells what became of a single request. It was waited for, or
another one had stopped the batch by then.
-/

namespace Dashboard.Fetch

/-! ## Batches -/

section Batch

variable {ι : Type} {kind : BatchKind} {answer : ι → Answer} {requests : List ι}

theorem le_lastAfter {answers : List Answer} {a : Answer} (h : a ∈ answers) :
    a.after ≤ lastAfter answers := by
  induction answers with
  | nil => cases h
  | cons b r ih =>
      show a.after ≤ max b.after (lastAfter r)
      rcases List.mem_cons.mp h with rfl | hmem
      · omega
      · have := ih hmem; omega

theorem exists_lastAfter {answers : List Answer} (h : answers ≠ []) :
    ∃ a ∈ answers, a.after = lastAfter answers := by
  induction answers with
  | nil => exact absurd rfl h
  | cons b r ih =>
      show ∃ a ∈ b :: r, a.after = max b.after (lastAfter r)
      by_cases hr : r = []
      · subst hr
        exact ⟨b, List.mem_cons_self, (Nat.max_zero _).symm⟩
      · obtain ⟨a, ha, hafter⟩ := ih hr
        rcases Nat.le_total b.after (lastAfter r) with hle | hle
        · exact ⟨a, List.mem_cons_of_mem b ha, by omega⟩
        · exact ⟨b, List.mem_cons_self, by omega⟩

/-- A batch that nothing stops takes as long as the longest of its requests. -/
theorem settle_isGreatest (hne : requests ≠ [])
    (h : ∀ i ∈ requests, kind.stopsAt (answer i).outcome = false) :
    IsGreatest {t | ∃ i ∈ requests, (answer i).after = t} (settle kind answer requests).after := by
  rcases settle_cases kind answer requests with ⟨-, -, hlast, -⟩ | ⟨i, hi, -, -, hstop, -⟩
  · rw [hlast]
    constructor
    · have hmap : requests.map answer ≠ [] := by simpa
      obtain ⟨a, ha, hafter⟩ := exists_lastAfter hmap
      obtain ⟨i, hi, rfl⟩ := List.mem_map.mp ha
      exact ⟨i, hi, hafter⟩
    · rintro t ⟨i, hi, rfl⟩
      exact le_lastAfter (List.mem_map_of_mem hi)
  · rw [h i (mem_of_mem_started hi)] at hstop
    cases hstop

/-- A batch that something stops takes until the first time it does. -/
theorem settle_isLeast (h : ∃ i ∈ requests, kind.stopsAt (answer i).outcome = true) :
    IsLeast {t | ∃ i ∈ requests, kind.stopsAt (answer i).outcome = true ∧ (answer i).after = t}
      (settle kind answer requests).after := by
  rcases settle_cases kind answer requests with
    ⟨-, -, -, hgo⟩ | ⟨i, hi, -, hafter, hstop, hleast⟩
  · obtain ⟨i, hi, hstop⟩ := h
    rw [hgo i hi] at hstop
    cases hstop
  · rw [hafter]
    refine ⟨⟨i, mem_of_mem_started hi, hstop, rfl⟩, ?_⟩
    rintro t ⟨j, hj, hjstop, rfl⟩
    exact hleast j hj hjstop

/-- Every request of a batch is started and waited for, unless another one
has stopped the batch by then. -/
theorem settle_waits (kind : BatchKind) (answer : ι → Answer) {i : ι} (hi : i ∈ requests) :
    (i ∈ (settle kind answer requests).started ∧
        (answer i).after ≤ (settle kind answer requests).after) ∨
      ∃ j ∈ requests, j ≠ i ∧ kind.stopsAt (answer j).outcome = true ∧
        (answer j).after = (settle kind answer requests).after ∧
        (answer j).after ≤ (answer i).after := by
  rcases settle_cases kind answer requests with
    ⟨-, hall, hlast, -⟩ | ⟨j, hj, -, hafter, hstop, hleast⟩
  · refine Or.inl ⟨by rw [hall]; exact hi, ?_⟩
    rw [hlast]
    exact le_lastAfter (List.mem_map_of_mem hi)
  · by_cases hstarted : i ∈ (settle kind answer requests).started
    · rcases Nat.lt_or_ge (answer j).after (answer i).after with hlt | hge
      · refine Or.inr ⟨j, mem_of_mem_started hj, ?_, hstop, hafter.symm, Nat.le_of_lt hlt⟩
        rintro rfl
        exact Nat.lt_irrefl _ hlt
      · exact Or.inl ⟨hstarted, by omega⟩
    · -- A request is only left out when one before it stops the batch at once.
      have hzero : (answer j).after = 0 := by
        rcases startedOf_eq_or kind answer requests with hall | ⟨z, hz, hnow, hzstop⟩
        · rw [settle_started, hall] at hstarted
          exact absurd hi hstarted
        · have := hleast z (mem_of_mem_startedOf hz) hzstop
          omega
      refine Or.inr ⟨j, mem_of_mem_started hj, ?_, hstop, hafter.symm, by omega⟩
      rintro rfl
      exact hstarted hj

end Batch

/-! ## Requests -/

/-- A backend that completes each request some time after it was issued, or
never, with a value or a failure. -/
structure Service where
  delay : Endpoint → Option Nat
  result : Endpoint → Except Failure Json

/-- The outcome of a request that was completed. -/
def Outcome.ofResult : Except Failure Json → Outcome
  | .ok v => .value v
  | .error f => .failed f

namespace Service

/-- What the requests come back with under a deadline. -/
def answers (b : Service) (limit : Nat) : Answers := fun e =>
  Reply.within ⟨b.delay e, .ofResult (b.result e)⟩ limit e.path

/-- How long a request takes: its delay, but no longer than the deadline. -/
def length (b : Service) (limit : Nat) (e : Endpoint) : Nat := (b.delay e).elim limit (min · limit)

/-- A request fails, be it for want of time. -/
def Fails (b : Service) (limit : Nat) (e : Endpoint) : Prop :=
  ∃ f, (b.answers limit e).outcome = .failed f

variable {b : Service} {limit : Nat} {e : Endpoint}

theorem answers_of_le {d : Nat} (hdelay : b.delay e = some d) (hle : d ≤ limit) :
    b.answers limit e = ⟨d, .ofResult (b.result e)⟩ := by
  simp only [answers, Reply.within, hdelay, if_pos hle]

theorem answers_of_late (h : ∀ d, b.delay e = some d → limit < d) :
    b.answers limit e = ⟨limit, .failed (.timeout e.path (Duration.ofMillis limit))⟩ := by
  cases hdelay : b.delay e with
  | none => simp only [answers, Reply.within, hdelay]
  | some d =>
      have hlate : ¬ d ≤ limit := Nat.not_le.mpr (h d hdelay)
      simp only [answers, Reply.within, hdelay, if_neg hlate]

theorem after_answers (b : Service) (limit : Nat) (e : Endpoint) :
    (b.answers limit e).after = b.length limit e := by
  cases hdelay : b.delay e with
  | none =>
      have hlate : ∀ d, b.delay e = some d → limit < d := fun d hd => by
        rw [hdelay] at hd
        cases hd
      rw [answers_of_late hlate, length, hdelay]
      rfl
  | some d =>
      rw [length, hdelay]
      show _ = min d limit
      rcases Nat.lt_or_ge limit d with hlt | hle
      · have hlate : ∀ d', b.delay e = some d' → limit < d' := fun d' hd' => by
          rw [hdelay] at hd'
          obtain rfl := Option.some.inj hd'
          exact hlt
        rw [answers_of_late hlate]
        show limit = min d limit
        omega
      · rw [answers_of_le hdelay hle]
        show d = min d limit
        omega

theorem length_le (b : Service) (limit : Nat) (e : Endpoint) : b.length limit e ≤ limit := by
  rw [← after_answers]
  exact Reply.within_after_le _ limit e.path

theorem outcome_answers_ne_crashed (b : Service) (limit : Nat) (e : Endpoint) :
    (b.answers limit e).outcome ≠ .crashed := by
  refine within_not_crashed ?_ limit e.path
  show Outcome.ofResult (b.result e) ≠ .crashed
  cases b.result e <;> simp [Outcome.ofResult]

/-- Where the first failure counts for all, failing is what stops a batch. -/
theorem stopsAt_together_iff :
    BatchKind.together.stopsAt (b.answers limit e).outcome = true ↔ b.Fails limit e := by
  cases hout : (b.answers limit e).outcome with
  | value v => simp [BatchKind.stopsAt, Fails, hout]
  | failed f => simp [BatchKind.stopsAt, Fails, hout]
  | crashed => exact absurd hout (outcome_answers_ne_crashed b limit e)

theorem stopsAt_apart (b : Service) (limit : Nat) (e : Endpoint) :
    BatchKind.apart.stopsAt (b.answers limit e).outcome = false := by
  cases hout : (b.answers limit e).outcome with
  | value v => rfl
  | failed f => rfl
  | crashed => exact absurd hout (outcome_answers_ne_crashed b limit e)

end Service

/-! ## Phases -/

/-- How long some requests take of which the first failure counts for all: as
long as the longest of them, or until the first failure if there is one. -/
structure UntilFailure (b : Service) (limit : Nat) (requests : List Endpoint) (after : Nat) :
    Prop where
  succeeded : (∀ e ∈ requests, ¬ b.Fails limit e) →
    IsGreatest {t | ∃ e ∈ requests, b.length limit e = t} after
  failed : (∃ e ∈ requests, b.Fails limit e) →
    IsLeast {t | ∃ e ∈ requests, b.Fails limit e ∧ b.length limit e = t} after

/-- Another request of the batch fails and ends it, no later than this one
would have ended. -/
def Dropped (b : Service) (limit : Nat) (requests : List Endpoint) (after : Nat) (e : Endpoint) :
    Prop :=
  ∃ other ∈ requests, other ≠ e ∧ b.Fails limit other ∧ b.length limit other = after ∧
    b.length limit other ≤ b.length limit e

variable {b : Service} {limit : Nat} {requests : List Endpoint} {e : Endpoint}

theorem untilFailure_settle (hne : requests ≠ []) :
    UntilFailure b limit requests (settle .together (b.answers limit) requests).after where
  succeeded := fun h => by
    simp only [← Service.after_answers]
    refine settle_isGreatest hne fun e he => ?_
    rw [← Bool.not_eq_true, Service.stopsAt_together_iff]
    exact h e he
  failed := fun h => by
    simp only [← Service.after_answers, ← Service.stopsAt_together_iff] at h ⊢
    exact settle_isLeast h

theorem ended_or_dropped (b : Service) (limit : Nat) (he : e ∈ requests) :
    (e ∈ (settle .together (b.answers limit) requests).started ∧
        b.length limit e ≤ (settle .together (b.answers limit) requests).after) ∨
      Dropped b limit requests (settle .together (b.answers limit) requests).after e := by
  simp only [Dropped, ← Service.after_answers, ← Service.stopsAt_together_iff]
  exact settle_waits .together (b.answers limit) he

/-- Where failures are kept apart every request is started and waited for. -/
theorem ended_apart (b : Service) (limit : Nat) (he : e ∈ requests) :
    e ∈ (settle .apart (b.answers limit) requests).started ∧
      b.length limit e ≤ (settle .apart (b.answers limit) requests).after := by
  rcases settle_waits .apart (b.answers limit) he with
    hended | ⟨other, -, -, hstop, -⟩
  · rw [← Service.after_answers]
    exact hended
  · rw [Service.stopsAt_apart] at hstop
    cases hstop

/-! ## A whole cycle -/

/-- How a request comes back under a deadline. -/
structure Bounded (b : Service) (limit : Nat) (e : Endpoint) : Prop where
  after : (b.answers limit e).after = b.length limit e
  /-- In time, with what the backend made of it. -/
  own : ∀ d, b.delay e = some d → d ≤ limit →
    (b.answers limit e).outcome = .ofResult (b.result e)
  late : (∀ d, b.delay e = some d → limit < d) →
    (b.answers limit e).outcome = .failed (.timeout e.path (Duration.ofMillis limit))

/-- How long a cycle takes that spends some time in its first phase and some
in its second. -/
structure CycleTimed (ctx : Context) (b : Service) (run : CycleRun) (first second : Nat) :
    Prop where
  /-- Where failures are kept apart, the first phase waits for all. -/
  isolated : ctx.primaryBatch = .isolated →
    IsGreatest {t | ∃ e ∈ Endpoint.primary, b.length ctx.timeout e = t} first
  together : ctx.primaryBatch = .allOrNothing →
    UntilFailure b ctx.timeout Endpoint.primary first
  metrics : UntilFailure b ctx.timeout Endpoint.gauges second
  /-- Sources are asked at the start, gauges when the first phase ends. -/
  issued : ∀ r ∈ run.requests,
    (∃ s, r = (0, Endpoint.source s)) ∨ ∃ g, r = (first, Endpoint.gauge g)
  source : ∀ e ∈ Endpoint.primary,
    ((0, e) ∈ run.requests ∧ b.length ctx.timeout e ≤ first) ∨
      (ctx.primaryBatch = .allOrNothing ∧ Dropped b ctx.timeout Endpoint.primary first e)
  gauge : ∀ e ∈ Endpoint.gauges,
    ((first, e) ∈ run.requests ∧ b.length ctx.timeout e ≤ second) ∨
      Dropped b ctx.timeout Endpoint.gauges second e
  after : run.after = first + second
  atMost : run.after ≤ 2 * ctx.timeout
  snapshot : ∃ p, run.snapshot = some p

/-- A cycle that comes to panels goes on to the gauges when its first phase
has ended. -/
theorem runCycle_of_panels {ctx : Context} {answers : Answers} {panels : PrimaryPanels}
    (h : (primaryPhase ctx.primaryBatch answers).result = some panels) (cycle : Nat)
    (completedAt : Int) :
    runCycle ctx cycle completedAt answers =
      { requests := (primaryPhase ctx.primaryBatch answers).started.map (0, ·) ++
          (metricsPhase answers).started.map ((primaryPhase ctx.primaryBatch answers).after, ·)
        after := (primaryPhase ctx.primaryBatch answers).after + (metricsPhase answers).after
        snapshot := (metricsPhase answers).result.map
          (snapshotOf ctx cycle completedAt panels) } := by
  simp only [runCycle, h]

/-- Whenever the requests of a cycle are completed, if ever, the cycle comes
to its snapshot after the two phases, and after no more than two deadlines. -/
theorem cycle_timed (ctx : Context) (b : Service) (cycle : Nat) (completedAt : Int) :
    (∀ e, Bounded b ctx.timeout e) ∧ ∃ first second,
      CycleTimed ctx b (runCycle ctx cycle completedAt (b.answers ctx.timeout)) first second := by
  refine ⟨fun e => ⟨b.after_answers ctx.timeout e, fun d hd hle => ?_, fun hlate => ?_⟩, ?_⟩
  · rw [Service.answers_of_le hd hle]
  · rw [Service.answers_of_late hlate]
  have hcalm := b.outcome_answers_ne_crashed ctx.timeout
  have hle (e : Endpoint) : (b.answers ctx.timeout e).after ≤ ctx.timeout := by
    rw [Service.after_answers]
    exact b.length_le ctx.timeout e
  obtain ⟨panels, hpanels⟩ := primaryPhase_isSome ctx.primaryBatch fun s => hcalm (.source s)
  obtain ⟨outcome, houtcome⟩ := metricsPhase_isSome fun g => hcalm (.gauge g)
  have hfirst : (primaryPhase ctx.primaryBatch (b.answers ctx.timeout)).after ≤ ctx.timeout :=
    primaryPhase_after_le hle
  have hsecond := metricsPhase_after_le hle
  rw [runCycle_of_panels hpanels]
  refine ⟨(primaryPhase ctx.primaryBatch (b.answers ctx.timeout)).after,
    (metricsPhase (b.answers ctx.timeout)).after, ?_⟩
  exact {
    isolated := fun hpolicy => by
      rw [hpolicy]
      simp only [← Service.after_answers]
      exact settle_isGreatest (by decide) fun e _ => b.stopsAt_apart ctx.timeout e
    together := fun hpolicy => by
      rw [hpolicy]
      exact untilFailure_settle (by decide)
    metrics := untilFailure_settle (by decide)
    issued := fun r hr => by
      rcases List.mem_append.mp hr with hmem | hmem
      · obtain ⟨e, he, rfl⟩ := List.mem_map.mp hmem
        obtain ⟨s, rfl⟩ := primaryPhase_started_subset he
        exact Or.inl ⟨s, rfl⟩
      · obtain ⟨e, he, rfl⟩ := List.mem_map.mp hmem
        obtain ⟨g, rfl⟩ := metricsPhase_started_subset he
        exact Or.inr ⟨g, rfl⟩
    source := fun e he => by
      cases hpolicy : ctx.primaryBatch with
      | isolated =>
          obtain ⟨hstarted, hended⟩ := ended_apart b ctx.timeout he
          exact Or.inl ⟨List.mem_append_left _ (List.mem_map_of_mem hstarted), hended⟩
      | allOrNothing =>
          rcases ended_or_dropped b ctx.timeout he with
            ⟨hstarted, hended⟩ | hdropped
          · exact Or.inl ⟨List.mem_append_left _ (List.mem_map_of_mem hstarted), hended⟩
          · exact Or.inr ⟨rfl, hdropped⟩
    gauge := fun e he => by
      rcases ended_or_dropped b ctx.timeout he with
        ⟨hstarted, hended⟩ | hdropped
      · exact Or.inl ⟨List.mem_append_right _ (List.mem_map_of_mem hstarted), hended⟩
      · exact Or.inr hdropped
    after := rfl
    atMost := by
      show _ + _ ≤ 2 * ctx.timeout
      omega
    snapshot := ⟨_, by rw [houtcome]; rfl⟩ }

end Dashboard.Fetch
