import Dashboard.Proofs.Fetch.Isolation

/-!
# From the replies to the gauges

Four queries go out as one batch, and four gauges come of it. Either a query
failed, and then the panel tells of one that failed first and shows no
reading; or all were answered. Then a gauge shows the sample of its own
query, in its own unit, and two dashes where there is none: because the
answer had no finite sample, or because the sample left the finite numbers
when it was converted.

What becomes of the batch is `metricsPhase_cases`. Here `ofAnswers_cases` says
what is made of its answers, and the rest reads the panel off the outcome.
-/

namespace Dashboard

open Fetch

/-! ## The text of a gauge -/

/-- A reading that is there is never shown as if it were not. -/
theorem Display.withUnit_ne_unavailable {x : Double} (h : x.isFinite = true) (unit : String) :
    withUnit (some x) unit ≠ unavailable := by
  intro heq
  have hblank : ' ' ∈ unavailable.toList := by
    rw [← heq, withUnit, if_pos h, String.toList_append, String.toList_append]
    exact List.mem_append_left _ (List.mem_append_right _ (by simp))
  simp [unavailable] at hblank

theorem MetricsOutcome.reading_eq_some {g : Gauge} {sample : Option Double} {x : Double} :
    reading g sample = some x ↔
      (∃ raw, sample = some raw ∧ g.convert raw = x) ∧ x.isFinite = true := by
  simp only [reading, Option.filter_eq_some_iff, Option.map_eq_some_iff]

theorem MetricsOutcome.reading_eq_none {g : Gauge} {sample : Option Double} :
    reading g sample = none ↔
      sample = none ∨ ∃ raw, sample = some raw ∧ (g.convert raw).isFinite = false := by
  cases sample with
  | none => simp [reading]
  | some raw => simp [reading, Option.filter_eq_none_iff]

namespace Metrics

/-- A gauge, found by its label and on its own line, shows a text. -/
def Reads (m : Metrics) (g : Gauge) (text : String) : Prop :=
  m.values.lookup g.label = some text ∧ Line.plain (g.label ++ ": " ++ text) ∈ m.lines

theorem reads_iff {m : Metrics} {g : Gauge} {text : String} :
    m.Reads g text ↔ text = m.gaugeText g := by
  have hlookup : m.values.lookup g.label = some (m.gaugeText g) := by
    cases g <;> rfl
  have hline : Line.plain (g.label ++ ": " ++ m.gaugeText g) ∈ m.lines := by
    refine List.mem_append_left _ (List.mem_map.mpr ⟨(g.label, m.gaugeText g), ?_, rfl⟩)
    exact List.mem_map.mpr ⟨g, Gauge.mem_all g, rfl⟩
  constructor
  · rintro ⟨htext, -⟩
    exact Option.some.inj (htext.symm.trans hlookup)
  · rintro rfl
    exact ⟨hlookup, hline⟩

/-- Without samples no gauge has a reading. -/
theorem reads_of_no_samples {m : Metrics} (h : ∀ r, m.outcome ≠ .samples r) (g : Gauge) :
    m.Reads g "--" := by
  have hnone : m.readings.get g = none := by
    unfold readings
    split
    · next r hr => exact absurd hr (h r)
    · cases g <;> rfl
  rw [reads_iff, gaugeText, hnone]
  rfl

end Metrics

/-! ## The batch of queries -/

namespace Fetch

variable {answers other : Answers}

/-- The sample of a query's answer. -/
def sampleOf? (answers : Answers) (g : Gauge) : Option Double :=
  (answers (.gauge g)).outcome.value?.bind Gauge.firstSample?

theorem gaugeValues_eq_some {values : PerGauge Json} (h : gaugeValues answers = some values)
    (g : Gauge) : (answers (.gauge g)).outcome.value? = some (values.get g) := by
  simp only [gaugeValues, Option.bind_eq_bind, Option.bind_eq_some_iff] at h
  obtain ⟨a, ha, b, hb, c, hc, d, hd, hvalues⟩ := h
  obtain rfl := Option.some.inj hvalues
  cases g with
  | writeLatency => exact ha
  | readThroughput => exact hb
  | operations => exact hc
  | lockContention => exact hd

end Fetch

/-! ## What is made of the answers -/

/-- Without any sample there is nothing to show; otherwise each gauge is read
from its own answer. -/
theorem MetricsOutcome.ofAnswers_cases (values : PerGauge Json) :
    ((∀ g, Gauge.firstSample? (values.get g) = none) ∧ ofAnswers values = noRecentSamples) ∨
      ((∃ g, Gauge.firstSample? (values.get g) ≠ none) ∧
        ∃ r, ofAnswers values = samples r ∧
          ∀ g, r.get g = reading g (Gauge.firstSample? (values.get g))) := by
  simp only [ofAnswers, ofSamples, PerGauge.get_ofFn]
  split
  · next hall =>
      refine Or.inl ⟨fun g => ?_, rfl⟩
      simpa using List.all_eq_true.mp hall g (Gauge.mem_all g)
  · next hsome =>
      refine Or.inr ⟨?_, _, rfl, fun g => PerGauge.get_ofFn _ g⟩
      by_contra hnone
      push Not at hnone
      exact hsome (List.all_eq_true.mpr fun g _ => by rw [hnone g]; rfl)

namespace Fetch

variable {answers other : Answers}

/-- How the panel follows from the replies to the queries. -/
structure Piped (ctx : Context) (answers : Answers) (m : Metrics) : Prop where
  /-- A failed query fails all, and the hint names the store. -/
  failed : (∃ g f, (answers (.gauge g)).outcome = .failed f) →
    (∃ g f, FirstFailure answers g f ∧ m.outcome = .failed f.message) ∧
      (∀ g, m.Reads g "--") ∧
      ∃ before after, m.hint.text = before ++ ctx.storeUrl ++ after ∧ m.hint ∈ m.lines
  /-- Without samples there are no readings. -/
  absent : Answering answers → (∀ g, sampleOf? answers g = none) →
    m.outcome = .noRecentSamples ∧ ∀ g, m.Reads g "--"
  /-- Otherwise every gauge shows the converted sample of its own query. -/
  shown : Answering answers → (∃ g, sampleOf? answers g ≠ none) →
    (∃ r, m.outcome = .samples r) ∧
      ∀ g,
        (m.Reads g "--" ↔
          sampleOf? answers g = none ∨
            ∃ raw, sampleOf? answers g = some raw ∧ (g.convert raw).isFinite = false) ∧
        ∀ raw, sampleOf? answers g = some raw → (g.convert raw).isFinite = true →
          m.Reads g (Display.withUnit (some (g.convert raw)) g.unit)
  finite : ∀ g x, m.readings.get g = some x → x.isFinite = true

theorem Answering.not_failed (h : Answering answers) {g : Gauge} {f : Failure} :
    (answers (.gauge g)).outcome ≠ .failed f := by
  intro hf
  obtain ⟨v, hv⟩ := h g
  rw [hf] at hv
  cases hv

/-- A panel of a failed batch. -/
theorem piped_of_failed (ctx : Context) {g : Gauge} {f : Failure}
    (h : FirstFailure answers g f) : Piped ctx answers ⟨.failed f.message, ctx.storeUrl⟩ where
  failed := fun _ => by
    refine ⟨⟨g, f, h, rfl⟩, fun g => Metrics.reads_of_no_samples (by simp) g,
      "Prometheus query failed (", "): " ++ f.message ++ ". Port-forward the metrics store: " ++
        "kubectl -n kube-pfs-observability port-forward svc/kube-pfs-prometheus 9090:9090", ?_,
      List.mem_append_right _ (List.mem_singleton_self _)⟩
    simp only [Metrics.hint, Metrics.hintText, String.append_assoc]
  absent := fun hall => absurd h.1 hall.not_failed
  shown := fun hall => absurd h.1 hall.not_failed
  finite := fun g x hx => by cases g <;> cases hx

/-- A panel of a batch without samples. -/
theorem piped_of_absent (ctx : Context) (hall : Answering answers)
    (h : ∀ g, sampleOf? answers g = none) :
    Piped ctx answers ⟨.noRecentSamples, ctx.storeUrl⟩ where
  failed := fun ⟨_, _, hf⟩ => absurd hf hall.not_failed
  absent := fun _ _ => ⟨rfl, fun g => Metrics.reads_of_no_samples (by simp) g⟩
  shown := fun _ ⟨g, hg⟩ => absurd (h g) hg
  finite := fun g x hx => by cases g <;> cases hx

/-- A panel of a batch with samples. -/
theorem piped_of_samples (ctx : Context) (hall : Answering answers)
    (h : ∃ g, sampleOf? answers g ≠ none) {r : Readings}
    (hr : ∀ g, r.get g = MetricsOutcome.reading g (sampleOf? answers g)) :
    Piped ctx answers ⟨.samples r, ctx.storeUrl⟩ := by
  have htext : ∀ g, (⟨.samples r, ctx.storeUrl⟩ : Metrics).gaugeText g =
      Display.withUnit (MetricsOutcome.reading g (sampleOf? answers g)) g.unit := by
    intro g
    rw [← hr g]
    rfl
  refine ⟨fun ⟨_, _, hf⟩ => absurd hf hall.not_failed, fun _ hnone => ?_, fun _ _ => ?_,
    fun g x hx => ?_⟩
  · obtain ⟨g, hg⟩ := h
    exact absurd (hnone g) hg
  · refine ⟨⟨r, rfl⟩, fun g => ⟨?_, ?_⟩⟩
    · rw [Metrics.reads_iff, htext, ← MetricsOutcome.reading_eq_none]
      constructor
      · intro hdash
        cases hread : MetricsOutcome.reading g (sampleOf? answers g) with
        | none => rfl
        | some x =>
            rw [hread] at hdash
            have hfinite := (MetricsOutcome.reading_eq_some.mp hread).2
            exact absurd hdash.symm (Display.withUnit_ne_unavailable hfinite g.unit)
      · intro hread
        rw [hread]
        rfl
    · intro raw hraw hfinite
      have hread : MetricsOutcome.reading g (sampleOf? answers g) = some (g.convert raw) :=
        MetricsOutcome.reading_eq_some.mpr ⟨⟨raw, hraw, rfl⟩, hfinite⟩
      rw [Metrics.reads_iff, htext, hread]
  · have hread : MetricsOutcome.reading g (sampleOf? answers g) = some x := by
      rw [← hr g]
      exact hx
    exact (MetricsOutcome.reading_eq_some.mp hread).2

/-- Whatever the queries come back with, the panel follows from it. -/
theorem piped_metricsPhase (ctx : Context) (calm : ∀ g, (answers (.gauge g)).outcome ≠ .crashed)
    {outcome : MetricsOutcome} (h : (metricsPhase answers).result = some outcome) :
    Piped ctx answers ⟨outcome, ctx.storeUrl⟩ := by
  rcases metricsPhase_cases calm with ⟨hall, values, hvalues, hresult⟩ | ⟨g, f, hfirst, hresult⟩
  · obtain rfl := Option.some.inj (hresult.symm.trans h)
    have hsample : ∀ g, sampleOf? answers g = Gauge.firstSample? (values.get g) := by
      intro g
      rw [sampleOf?, gaugeValues_eq_some hvalues g, Option.bind_some]
    rcases MetricsOutcome.ofAnswers_cases values with ⟨hnone, heq⟩ | ⟨⟨g, hg⟩, r, heq, hr⟩
    · rw [heq]
      exact piped_of_absent ctx hall fun g => (hsample g).trans (hnone g)
    · rw [heq]
      exact piped_of_samples ctx hall ⟨g, by rw [hsample g]; exact hg⟩ fun g => by
        rw [hr g, hsample g]
  · obtain rfl := Option.some.inj (hresult.symm.trans h)
    exact piped_of_failed ctx hfirst

/-- Some query had a sample. -/
def HasSample (answers : Answers) : Prop := ∃ g, sampleOf? answers g ≠ none

/-- With all queries answered, a gauge depends on its own query and on
whether there was any sample. -/
theorem Piped.reads_congr {ctx ctx' : Context} {m m' : Metrics} (h : Piped ctx answers m)
    (h' : Piped ctx' other m') (hall : Answering answers) (hall' : Answering other)
    (hsome : HasSample answers ↔ HasSample other) {g : Gauge}
    (hsame : (answers (.gauge g)).outcome = (other (.gauge g)).outcome) (text : String) :
    m.Reads g text ↔ m'.Reads g text := by
  have hsample : sampleOf? answers g = sampleOf? other g := by
    rw [sampleOf?, sampleOf?, hsame]
  obtain ⟨common, hm, hm'⟩ : ∃ common, m.Reads g common ∧ m'.Reads g common := by
    by_cases hany : HasSample answers
    · obtain ⟨-, hshown⟩ := h.shown hall hany
      obtain ⟨-, hshown'⟩ := h'.shown hall' (hsome.mp hany)
      cases hraw : sampleOf? other g with
      | none =>
          exact ⟨"--", (hshown g).1.mpr (Or.inl (hsample.trans hraw)),
            (hshown' g).1.mpr (Or.inl hraw)⟩
      | some raw =>
          cases hfinite : (g.convert raw).isFinite with
          | true =>
              exact ⟨_, (hshown g).2 raw (hsample.trans hraw) hfinite,
                (hshown' g).2 raw hraw hfinite⟩
          | false =>
              exact ⟨"--", (hshown g).1.mpr (Or.inr ⟨raw, hsample.trans hraw, hfinite⟩),
                (hshown' g).1.mpr (Or.inr ⟨raw, hraw, hfinite⟩)⟩
    · have hnone : ∀ g, sampleOf? answers g = none := by
        simpa [HasSample] using hany
      have hnone' : ∀ g, sampleOf? other g = none := by
        simpa [HasSample] using fun hother => hany (hsome.mpr hother)
      exact ⟨"--", (h.absent hall hnone).2 g, (h'.absent hall' hnone').2 g⟩
  rw [Metrics.reads_iff] at hm hm' ⊢
  rw [Metrics.reads_iff, ← hm, ← hm']

/-- The metrics panel of a cycle follows from the replies to the four queries,
gauge by gauge. -/
theorem metrics_piped (ctx : Context) (backend : String → Reply)
    (calm : Calm backend ctx.timeout) (cycle : Nat) (completedAt : Int) :
    ∃ p,
      (runCycle ctx cycle completedAt (answersOf backend ctx.timeout)).snapshot = some p ∧
      Piped ctx (answersOf backend ctx.timeout) p.metrics ∧
      ∀ second, Calm second ctx.timeout → ∃ q,
        (runCycle ctx cycle completedAt (answersOf second ctx.timeout)).snapshot = some q ∧
        (Answering (answersOf backend ctx.timeout) → Answering (answersOf second ctx.timeout) →
          (HasSample (answersOf backend ctx.timeout) ↔
            HasSample (answersOf second ctx.timeout)) →
          ∀ g : Gauge,
            (answersOf backend ctx.timeout (.gauge g)).outcome =
              (answersOf second ctx.timeout (.gauge g)).outcome →
            ∀ text, p.metrics.Reads g text ↔ q.metrics.Reads g text) := by
  have hpiped : ∀ backend, Calm backend ctx.timeout → ∃ p,
      (runCycle ctx cycle completedAt (answersOf backend ctx.timeout)).snapshot = some p ∧
      Piped ctx (answersOf backend ctx.timeout) p.metrics := by
    intro backend calm
    obtain ⟨panels, outcome, -, houtcome, hp⟩ :=
      exists_snapshot ctx cycle completedAt fun e => calm e.path
    exact ⟨_, hp, piped_metricsPhase ctx (fun g => calm g.path) houtcome⟩
  obtain ⟨p, hp, hm⟩ := hpiped backend calm
  refine ⟨p, hp, hm, fun second calm' => ?_⟩
  obtain ⟨q, hq, hm'⟩ := hpiped second calm'
  exact ⟨q, hq, fun hall hall' hsome g hsame text =>
    hm.reads_congr hm' hall hall' hsome hsame text⟩

/-- A backend that has the number 7 for every query. -/
def steadyBackend (_path : String) : Reply :=
  ⟨some 3, .value (.object [("data", .object [("result", .array [.object [("value", .array
    [.number (.natural 0), .number (.natural 7)])]])])])⟩

/-- Seven seconds of latency are seven thousand milliseconds. -/
theorem metrics_piped_of_steadyBackend :
    Calm steadyBackend 25 ∧
      ∃ p,
        (runCycle ⟨"http://store", "http://links", 25, 100, .concurrent, .isolated⟩ 1 0
          (answersOf steadyBackend 25)).snapshot = some p ∧
        Piped ⟨"http://store", "http://links", 25, 100, .concurrent, .isolated⟩
          (answersOf steadyBackend 25) p.metrics ∧
        p.metrics.Reads .writeLatency "7,000 ms" := by
  have hcalm : Calm steadyBackend 25 := fun path =>
    within_not_crashed (by simp [steadyBackend]) 25 path
  obtain ⟨p, hp, hpiped, -⟩ :=
    metrics_piped ⟨"http://store", "http://links", 25, 100, .concurrent, .isolated⟩
      steadyBackend hcalm 1 0
  refine ⟨hcalm, p, hp, hpiped, ?_⟩
  have hsample : ∀ g, sampleOf? (answersOf steadyBackend 25) g = some (Double.ofNat 7) :=
    fun _ => rfl
  have hall : Answering (answersOf steadyBackend 25) := fun _ => ⟨_, rfl⟩
  have hshown := (hpiped.shown hall ⟨.writeLatency, by rw [hsample]; simp⟩).2 .writeLatency
  have htext : Display.withUnit (some (Gauge.writeLatency.convert (Double.ofNat 7)))
      Gauge.writeLatency.unit = "7,000 ms" := by decide +kernel
  rw [← htext]
  exact hshown.2 (Double.ofNat 7) (hsample _) (by decide +kernel)

end Fetch

end Dashboard
