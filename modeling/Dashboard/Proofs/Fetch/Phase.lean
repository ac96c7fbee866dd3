import Dashboard.Fetch.Cycle
import Dashboard.Proofs.Fetch.Batch

/-!
# The phases of a cycle read only what they asked for

A phase is given what every request would come back with, and it starts some
of them. What it finds out depends on the answers to those alone. When all
of them were started there is nothing to show; when some were left out, one
that was started has failed or crashed, and then the result is fixed by that
one.

So a cycle can be told apart from others by its own replies: two answers to
everything that agree on what the cycle asked for give the same cycle.
-/

namespace Dashboard.Fetch

variable {policy : BatchPolicy} {answers other : Answers}

theorem eq_source_of_mem_primary {e : Endpoint} (h : e ∈ Endpoint.primary) :
    ∃ s, e = .source s := by
  obtain ⟨s, -, rfl⟩ := List.mem_map.mp h
  exact ⟨s, rfl⟩

theorem eq_gauge_of_mem_gauges {e : Endpoint} (h : e ∈ Endpoint.gauges) : ∃ g, e = .gauge g := by
  obtain ⟨g, -, rfl⟩ := List.mem_map.mp h
  exact ⟨g, rfl⟩

theorem source_mem_primary (s : Source) : .source s ∈ Endpoint.primary := by
  cases s <;> decide

theorem gauge_mem_gauges (g : Gauge) : .gauge g ∈ Endpoint.gauges :=
  List.mem_map_of_mem (Gauge.mem_all g)

/-! ## The first phase -/

/-- The batch of the first phase. -/
abbrev primaryBatch (policy : BatchPolicy) (answers : Answers) : Settled Endpoint :=
  settle (batchKind policy) answers Endpoint.primary

theorem primaryPhase_started :
    (primaryPhase policy answers).started = (primaryBatch policy answers).started := rfl

theorem primaryPhase_after_le {limit : Nat} (h : ∀ e, (answers e).after ≤ limit) :
    (primaryPhase policy answers).after ≤ limit :=
  settle_after_le h

theorem primaryPhase_started_subset {e : Endpoint}
    (h : e ∈ (primaryPhase policy answers).started) : ∃ s, e = .source s :=
  eq_source_of_mem_primary (mem_of_mem_started h)

theorem ownPanels_congr (h : ∀ s, answers (.source s) = other (.source s)) :
    ownPanels answers = ownPanels other := by
  simp only [ownPanels, h]

theorem ownPanels_eq_none {s : Source} (h : (answers (.source s)).outcome = .crashed) :
    ownPanels answers = none := by
  cases s <;> simp [ownPanels, h, Outcome.result?]

theorem result?_isSome {o : Outcome} (h : o ≠ .crashed) : ∃ r, o.result? = some r := by
  cases o with
  | value v => exact ⟨.ok v, rfl⟩
  | failed f => exact ⟨.error f, rfl⟩
  | crashed => exact absurd rfl h

theorem ownPanels_isSome (h : ∀ s, (answers (.source s)).outcome ≠ .crashed) :
    ∃ panels, ownPanels answers = some panels := by
  obtain ⟨status, hstatus⟩ := result?_isSome (h .status)
  obtain ⟨faults, hfaults⟩ := result?_isSome (h .faults)
  obtain ⟨benchmark, hbenchmark⟩ := result?_isSome (h .benchmark)
  exact ⟨_, by simp [ownPanels, hstatus, hfaults, hbenchmark]; rfl⟩

/-- A failure that stops the batch is the result of the first phase. -/
theorem primaryPhase_result_of_failed {f : Failure}
    (h : (primaryBatch policy answers).stop = some (.failed f))
    (hstop : (batchKind policy).stopsAt (.failed f) = true) :
    (primaryPhase policy answers).result = some (PrimaryPanels.failed f.message) := by
  cases policy with
  | isolated => cases hstop
  | allOrNothing => simp only [primaryPhase, h]

/-- Otherwise each source has a panel of its own. -/
theorem primaryPhase_result_of_not_failed
    (h : ∀ f, (primaryBatch policy answers).stop ≠ some (.failed f)) :
    (primaryPhase policy answers).result = ownPanels answers := by
  simp only [primaryPhase]
  split
  · next f hf => exact absurd hf (h f)
  · rfl

theorem primaryPhase_congr (h : ∀ e ∈ (primaryPhase policy answers).started, answers e = other e) :
    primaryPhase policy other = primaryPhase policy answers := by
  have hbatch : primaryBatch policy other = primaryBatch policy answers := settle_congr h
  have hresult : (primaryPhase policy other).result = (primaryPhase policy answers).result := by
    rcases settle_cases (batchKind policy) answers Endpoint.primary with
      ⟨hnone, hall, -, -⟩ | ⟨e, he, hstop, -, hstops, -⟩
    · have hsame : ∀ s, answers (.source s) = other (.source s) := fun s =>
        h _ (by rw [primaryPhase_started, hall]; exact source_mem_primary s)
      rw [primaryPhase_result_of_not_failed (by rw [hbatch, hnone]; simp),
        primaryPhase_result_of_not_failed (by rw [hnone]; simp), ownPanels_congr hsame]
    · cases hout : (answers e).outcome with
      | value v => rw [hout, not_stopsAt_value] at hstops; cases hstops
      | failed f =>
          rw [hout] at hstop hstops
          rw [primaryPhase_result_of_failed (by rw [hbatch, hstop]) hstops,
            primaryPhase_result_of_failed hstop hstops]
      | crashed =>
          rw [hout] at hstop
          obtain ⟨s, rfl⟩ := primaryPhase_started_subset he
          rw [primaryPhase_result_of_not_failed (by rw [hbatch, hstop]; simp),
            primaryPhase_result_of_not_failed (by rw [hstop]; simp), ownPanels_eq_none hout,
            ownPanels_eq_none (by rw [← h _ he]; exact hout)]
  calc primaryPhase policy other
      = ⟨(primaryBatch policy other).started, (primaryBatch policy other).after,
          (primaryPhase policy other).result⟩ := rfl
    _ = primaryPhase policy answers := by rw [hbatch, hresult]; rfl

/-! ## The second phase -/

/-- The batch of the second phase. -/
abbrev metricsBatch (answers : Answers) : Settled Endpoint :=
  settle .together answers Endpoint.gauges

theorem metricsPhase_started :
    (metricsPhase answers).started = (metricsBatch answers).started := rfl

theorem metricsPhase_after_le {limit : Nat} (h : ∀ e, (answers e).after ≤ limit) :
    (metricsPhase answers).after ≤ limit :=
  settle_after_le h

theorem metricsPhase_started_subset {e : Endpoint} (h : e ∈ (metricsPhase answers).started) :
    ∃ g, e = .gauge g :=
  eq_gauge_of_mem_gauges (mem_of_mem_started h)

theorem gaugeValues_congr (h : ∀ g, answers (.gauge g) = other (.gauge g)) :
    gaugeValues answers = gaugeValues other := by
  simp only [gaugeValues, h]

theorem gaugeValues_eq_none {g : Gauge} (h : (answers (.gauge g)).outcome = .crashed) :
    gaugeValues answers = none := by
  cases g <;> simp [gaugeValues, h, Outcome.value?]

theorem metricsPhase_result_of_failed {f : Failure}
    (h : (metricsBatch answers).stop = some (.failed f)) :
    (metricsPhase answers).result = some (.failed f.message) := by
  simp only [metricsPhase, h]

theorem metricsPhase_result_of_not_failed
    (h : ∀ f, (metricsBatch answers).stop ≠ some (.failed f)) :
    (metricsPhase answers).result = (gaugeValues answers).map MetricsOutcome.ofAnswers := by
  unfold metricsPhase
  dsimp only
  split
  · next f hf => exact absurd hf (h f)
  · rfl

theorem metricsPhase_congr (h : ∀ e ∈ (metricsPhase answers).started, answers e = other e) :
    metricsPhase other = metricsPhase answers := by
  have hbatch : metricsBatch other = metricsBatch answers := settle_congr h
  have hresult : (metricsPhase other).result = (metricsPhase answers).result := by
    rcases settle_cases .together answers Endpoint.gauges with
      ⟨hnone, hall, -, -⟩ | ⟨e, he, hstop, -, hstops, -⟩
    · have hsame : ∀ g, answers (.gauge g) = other (.gauge g) := fun g =>
        h _ (by rw [metricsPhase_started, hall]; exact gauge_mem_gauges g)
      rw [metricsPhase_result_of_not_failed (by rw [hbatch, hnone]; simp),
        metricsPhase_result_of_not_failed (by rw [hnone]; simp), gaugeValues_congr hsame]
    · cases hout : (answers e).outcome with
      | value v => rw [hout, not_stopsAt_value] at hstops; cases hstops
      | failed f =>
          rw [hout] at hstop
          rw [metricsPhase_result_of_failed (by rw [hbatch, hstop]),
            metricsPhase_result_of_failed hstop]
      | crashed =>
          rw [hout] at hstop
          obtain ⟨g, rfl⟩ := metricsPhase_started_subset he
          rw [metricsPhase_result_of_not_failed (by rw [hbatch, hstop]; simp),
            metricsPhase_result_of_not_failed (by rw [hstop]; simp), gaugeValues_eq_none hout,
            gaugeValues_eq_none (by rw [← h _ he]; exact hout)]
  calc metricsPhase other
      = ⟨(metricsBatch other).started, (metricsBatch other).after,
          (metricsPhase other).result⟩ := rfl
    _ = metricsPhase answers := by rw [hbatch, hresult]; rfl

/-- Every query was answered with a value. -/
def Answering (answers : Answers) : Prop := ∀ g, ∃ v, (answers (.gauge g)).outcome = .value v

/-- A query failed, for a reason, and none failed before it. -/
def FirstFailure (answers : Answers) (g : Gauge) (f : Failure) : Prop :=
  (answers (.gauge g)).outcome = .failed f ∧
    ∀ g' f', (answers (.gauge g')).outcome = .failed f' →
      (answers (.gauge g)).after ≤ (answers (.gauge g')).after

theorem gaugeValues_isSome (h : Answering answers) :
    ∃ values, gaugeValues answers = some values := by
  obtain ⟨a, ha⟩ := h .writeLatency
  obtain ⟨b, hb⟩ := h .readThroughput
  obtain ⟨c, hc⟩ := h .operations
  obtain ⟨d, hd⟩ := h .lockContention
  exact ⟨⟨a, b, c, d⟩, by simp [gaugeValues, ha, hb, hc, hd, Outcome.value?]⟩

/-- Either all queries were answered, or one that failed first speaks for the
batch, or a crash takes the phase down. -/
theorem metricsPhase_together (answers : Answers) :
    (Answering answers ∧ ∃ values, gaugeValues answers = some values ∧
        (metricsPhase answers).result = some (MetricsOutcome.ofAnswers values)) ∨
      (∃ g f, FirstFailure answers g f ∧
        (metricsPhase answers).result = some (.failed f.message)) ∨
      (∃ g, (answers (.gauge g)).outcome = .crashed) ∧ (metricsPhase answers).result = none := by
  rcases settle_cases .together answers Endpoint.gauges with
    ⟨hnone, -, -, hgo⟩ | ⟨e, he, hstop, -, hstops, hleast⟩
  · have hvalue : Answering answers := by
      intro g
      have hg := hgo _ (gauge_mem_gauges g)
      cases hout : (answers (.gauge g)).outcome with
      | value v => exact ⟨v, rfl⟩
      | failed f => rw [hout] at hg; cases hg
      | crashed => rw [hout] at hg; cases hg
    obtain ⟨values, hvalues⟩ := gaugeValues_isSome hvalue
    refine Or.inl ⟨hvalue, values, hvalues, ?_⟩
    rw [metricsPhase_result_of_not_failed (by rw [hnone]; simp), hvalues]
    rfl
  · obtain ⟨g, rfl⟩ := eq_gauge_of_mem_gauges (mem_of_mem_started he)
    cases hout : (answers (.gauge g)).outcome with
    | value v => rw [hout] at hstops; cases hstops
    | crashed =>
        rw [hout] at hstop
        refine Or.inr (Or.inr ⟨⟨g, hout⟩, ?_⟩)
        rw [metricsPhase_result_of_not_failed (by rw [hstop]; simp), gaugeValues_eq_none hout]
        rfl
    | failed f =>
        rw [hout] at hstop
        refine Or.inr (Or.inl ⟨g, f, ⟨hout, ?_⟩, metricsPhase_result_of_failed hstop⟩)
        intro g' f' hf'
        exact hleast _ (gauge_mem_gauges g') (by rw [hf']; rfl)

theorem metricsPhase_cases (calm : ∀ g, (answers (.gauge g)).outcome ≠ .crashed) :
    (Answering answers ∧ ∃ values, gaugeValues answers = some values ∧
        (metricsPhase answers).result = some (MetricsOutcome.ofAnswers values)) ∨
      ∃ g f, FirstFailure answers g f ∧
        (metricsPhase answers).result = some (.failed f.message) := by
  rcases metricsPhase_together answers with hanswering | hfailed | ⟨⟨g, hg⟩, -⟩
  · exact Or.inl hanswering
  · exact Or.inr hfailed
  · exact absurd hg (calm g)

/-- Without a crash the second phase always comes to an outcome. -/
theorem metricsPhase_isSome (h : ∀ g, (answers (.gauge g)).outcome ≠ .crashed) :
    ∃ outcome, (metricsPhase answers).result = some outcome := by
  rcases metricsPhase_cases h with ⟨-, values, -, hresult⟩ | ⟨g, f, -, hresult⟩
  · exact ⟨_, hresult⟩
  · exact ⟨_, hresult⟩

/-- When the metrics have failed, the reason is the message of a failure. -/
theorem eq_message_of_metricsPhase_failed {message : String}
    (h : (metricsPhase answers).result = some (.failed message)) :
    ∃ f : Failure, message = f.message := by
  simp only [metricsPhase] at h
  split at h
  · next f hf =>
      simp only [Option.some.injEq, MetricsOutcome.failed.injEq] at h
      exact ⟨f, h.symm⟩
  · obtain ⟨values, -, hvalues⟩ := Option.map_eq_some_iff.mp h
    simp only [MetricsOutcome.ofAnswers, MetricsOutcome.ofSamples] at hvalues
    split at hvalues <;> cases hvalues

/-! ## A whole cycle -/

theorem runCycle_snapshot_eq_some_iff {ctx : Context} {cycle : Nat} {completedAt : Int}
    {snapshot : Snapshot} :
    (runCycle ctx cycle completedAt answers).snapshot = some snapshot ↔
      ∃ panels outcome, (primaryPhase ctx.primaryBatch answers).result = some panels ∧
        (metricsPhase answers).result = some outcome ∧
        snapshot = snapshotOf ctx cycle completedAt panels outcome := by
  simp only [runCycle]
  split
  · next hnone => simp [hnone]
  · next panels hpanels =>
      simp only [Option.map_eq_some_iff, hpanels, Option.some.injEq]
      constructor
      · rintro ⟨outcome, houtcome, rfl⟩
        exact ⟨panels, outcome, rfl, houtcome, rfl⟩
      · rintro ⟨_, outcome, rfl, houtcome, rfl⟩
        exact ⟨outcome, houtcome, rfl⟩

/-- The requests of a cycle that comes to its end. -/
def asked (policy : BatchPolicy) (answers : Answers) : List Endpoint :=
  (primaryPhase policy answers).started ++ (metricsPhase answers).started

/-- A cycle reads nothing but the answers to what it asked for. -/
theorem runCycle_snapshot_congr {ctx : Context} {cycle : Nat} {completedAt : Int}
    (h : ∀ e ∈ asked ctx.primaryBatch answers, answers e = other e) :
    (runCycle ctx cycle completedAt other).snapshot =
      (runCycle ctx cycle completedAt answers).snapshot := by
  have hprimary : primaryPhase ctx.primaryBatch other = primaryPhase ctx.primaryBatch answers :=
    primaryPhase_congr fun e he => h e (List.mem_append_left _ he)
  have hmetrics : metricsPhase other = metricsPhase answers :=
    metricsPhase_congr fun e he => h e (List.mem_append_right _ he)
  simp only [runCycle, hprimary, hmetrics]

/-- The answers of one set to the sources and of another to the gauges. -/
def combine (sources gauges : Answers) : Answers
  | .gauge g => gauges (.gauge g)
  | e => sources e

theorem primaryPhase_combine (policy : BatchPolicy) (sources gauges : Answers) :
    primaryPhase policy (combine sources gauges) = primaryPhase policy sources := by
  refine primaryPhase_congr fun e he => ?_
  obtain ⟨s, rfl⟩ := primaryPhase_started_subset he
  rfl

theorem metricsPhase_combine (sources gauges : Answers) :
    metricsPhase (combine sources gauges) = metricsPhase gauges := by
  refine metricsPhase_congr fun e he => ?_
  obtain ⟨g, rfl⟩ := metricsPhase_started_subset he
  rfl

end Dashboard.Fetch
