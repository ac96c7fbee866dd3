import Dashboard.Proofs.Fetch.Phase

/-!
# The two batch policies on one backend

Let a backend answer each path in one way for the whole cycle, and let no
answer take the cycle down. Under either policy the cycle then ends with a
snapshot, and the two snapshots differ in little: their metrics are the same,
and so are the primary panels when no primary source fails. When one does,
the policy that keeps failures together shows one text in all three panels,
and it is the text that the other policy shows for a source that fails no
later than any other.

`snapshots_compared` says this. The batch that stops is described by
`settle_cases`; what is left is to read off the panels on both sides.
-/

namespace Dashboard

/-- The text of a panel that could not be filled. -/
def Panel.message? {α : Type} : Panel α → Option String
  | ready _ => none
  | failed message => some message

namespace Fetch

/-- The text that a snapshot shows in place of a source. -/
def failedText? (p : Snapshot) : Source → Option String
  | .status => p.status.message?
  | .faults => p.timeline.message?
  | .benchmark => p.benchmark.message?

/-- What requests come back with from a backend that answers each path in
one way. -/
def answersOf (backend : String → Reply) (limit : Nat) : Answers := fun e =>
  (backend e.path).within limit e.path

/-- A primary source fails, or does not answer in time. -/
def Fails (answers : Answers) (s : Source) : Prop := ∃ f, (answers (.source s)).outcome = .failed f

/-- A primary source fails, and none fails before it. -/
def FailsFirst (answers : Answers) (s : Source) : Prop :=
  Fails answers s ∧
    ∀ other, Fails answers other → (answers (.source s)).after ≤ (answers (.source other)).after

/-- How the snapshot of the policy that keeps failures apart compares with
that of the policy that keeps them together. -/
structure Compared (answers : Answers) (apart together : Snapshot) : Prop where
  metrics : together.metrics = apart.metrics
  /-- Without a failure the panels are the same. -/
  primary : (∀ s, ¬ Fails answers s) →
    together.status = apart.status ∧ together.timeline = apart.timeline ∧
      together.benchmark = apart.benchmark
  /-- With one, a source that fails first speaks for all. -/
  reported : (∃ s, Fails answers s) →
    ∃ s text, FailsFirst answers s ∧ failedText? apart s = some text ∧
      ∀ other, failedText? together other = some text

variable {answers : Answers}

theorem within_not_crashed {r : Reply} (h : r.outcome ≠ .crashed) (limit : Nat) (path : String) :
    (r.within limit path).outcome ≠ .crashed := by
  unfold Reply.within
  dsimp only
  split
  · split
    · exact h
    · simp
  · simp

/-- A request fails when its reply is a failure that comes in time, or when
no reply comes in time. -/
theorem failed_within_iff {r : Reply} {limit : Nat} {path : String} :
    (∃ f, (r.within limit path).outcome = .failed f) ↔
      (∃ d f, r.delay = some d ∧ d ≤ limit ∧ r.outcome = .failed f) ∨
        ∀ d, r.delay = some d → limit < d := by
  unfold Reply.within
  cases r.delay with
  | none => simp
  | some d =>
      by_cases hd : d ≤ limit
      · simp [hd, Nat.not_lt.mpr hd]
      · simp [hd, Nat.lt_of_not_le hd]

/-- A failed source shows its own failure where failures are kept apart. -/
theorem failedText?_ownPanels {panels : PrimaryPanels} (h : ownPanels answers = some panels)
    {s : Source} {f : Failure} (hf : (answers (.source s)).outcome = .failed f) (ctx : Context)
    (cycle : Nat) (completedAt : Int) (outcome : MetricsOutcome) :
    failedText? (snapshotOf ctx cycle completedAt panels outcome) s =
      some (failureText f.message) := by
  simp only [ownPanels, Option.bind_eq_bind, Option.bind_eq_some_iff] at h
  obtain ⟨status, hstatus, faults, hfaults, benchmark, hbenchmark, hpanels⟩ := h
  obtain rfl := Option.some.inj hpanels
  cases s with
  | status =>
      obtain rfl : .error f = status := by simpa [hf, Outcome.result?] using hstatus
      rfl
  | faults =>
      obtain rfl : .error f = faults := by simpa [hf, Outcome.result?] using hfaults
      rfl
  | benchmark =>
      obtain rfl : .error f = benchmark := by simpa [hf, Outcome.result?] using hbenchmark
      rfl

theorem failedText?_failed (reason : String) (ctx : Context) (cycle : Nat) (completedAt : Int)
    (outcome : MetricsOutcome) (s : Source) :
    failedText? (snapshotOf ctx cycle completedAt (PrimaryPanels.failed reason) outcome) s =
      some (failureText reason) := by
  cases s <;> rfl

/-- Where failures are kept apart, each source has a panel of its own unless
there is a crash. -/
theorem primaryPhase_isolated (h : ∀ s, (answers (.source s)).outcome ≠ .crashed) :
    (primaryPhase .isolated answers).result = ownPanels answers := by
  refine primaryPhase_result_of_not_failed fun f hf => ?_
  rcases settle_cases .apart answers Endpoint.primary with
    ⟨hnone, -⟩ | ⟨e, he, -, -, hstops, -⟩
  · rw [show (primaryBatch .isolated answers).stop = none from hnone] at hf
    cases hf
  · obtain ⟨s, rfl⟩ := eq_source_of_mem_primary (mem_of_mem_started he)
    exact h s (eq_crashed_of_stopsAt_apart hstops)

/-- Where failures are kept together, either every source answers, or the
message of one that fails first is that of all, or a crash takes the phase
down. -/
theorem primaryPhase_together (answers : Answers) :
    ((∀ s, ∃ v, (answers (.source s)).outcome = .value v) ∧
        (primaryPhase .allOrNothing answers).result = ownPanels answers) ∨
      (∃ s f, FailsFirst answers s ∧ (answers (.source s)).outcome = .failed f ∧
        (primaryPhase .allOrNothing answers).result = some (PrimaryPanels.failed f.message)) ∨
      (∃ s, (answers (.source s)).outcome = .crashed) ∧
        (primaryPhase .allOrNothing answers).result = none := by
  rcases settle_cases .together answers Endpoint.primary with
    ⟨hnone, -, -, hgo⟩ | ⟨e, he, hstop, -, hstops, hleast⟩
  · refine Or.inl ⟨fun s => ?_, primaryPhase_result_of_not_failed fun f hf => ?_⟩
    · have hs := hgo _ (source_mem_primary s)
      cases hout : (answers (.source s)).outcome with
      | value v => exact ⟨v, rfl⟩
      | failed f => rw [hout] at hs; cases hs
      | crashed => rw [hout] at hs; cases hs
    · rw [show (primaryBatch .allOrNothing answers).stop = none from hnone] at hf
      cases hf
  · obtain ⟨s, rfl⟩ := eq_source_of_mem_primary (mem_of_mem_started he)
    cases hout : (answers (.source s)).outcome with
    | value v => rw [hout] at hstops; cases hstops
    | crashed =>
        have hresult : (primaryPhase .allOrNothing answers).result = ownPanels answers :=
          primaryPhase_result_of_not_failed fun f hf => by
            rw [show (primaryBatch .allOrNothing answers).stop = _ from hstop, hout] at hf
            cases hf
        exact Or.inr (Or.inr ⟨⟨s, hout⟩, hresult.trans (ownPanels_eq_none hout)⟩)
    | failed f =>
        rw [hout] at hstop hstops
        have hresult : (primaryPhase .allOrNothing answers).result =
            some (PrimaryPanels.failed f.message) := primaryPhase_result_of_failed hstop hstops
        refine Or.inr (Or.inl ⟨s, f, ⟨⟨f, hout⟩, ?_⟩, hout, hresult⟩)
        rintro other ⟨g, hg⟩
        exact hleast _ (source_mem_primary other) (by rw [hg]; rfl)

theorem primaryPhase_allOrNothing (h : ∀ s, (answers (.source s)).outcome ≠ .crashed) :
    ((∀ s, ¬ Fails answers s) ∧ (primaryPhase .allOrNothing answers).result = ownPanels answers) ∨
      ∃ s f, FailsFirst answers s ∧ (answers (.source s)).outcome = .failed f ∧
        (primaryPhase .allOrNothing answers).result = some (PrimaryPanels.failed f.message) := by
  rcases primaryPhase_together answers with ⟨hvalue, hresult⟩ | hfailed | ⟨⟨s, hs⟩, -⟩
  · refine Or.inl ⟨?_, hresult⟩
    rintro s ⟨f, hf⟩
    obtain ⟨v, hv⟩ := hvalue s
    rw [hv] at hf
    cases hf
  · exact Or.inr hfailed
  · exact absurd hs (h s)

/-- Without a crash the first phase always comes to panels. -/
theorem primaryPhase_isSome (policy : BatchPolicy)
    (h : ∀ s, (answers (.source s)).outcome ≠ .crashed) :
    ∃ panels, (primaryPhase policy answers).result = some panels := by
  obtain ⟨own, hown⟩ := ownPanels_isSome h
  cases policy with
  | isolated => exact ⟨own, (primaryPhase_isolated h).trans hown⟩
  | allOrNothing =>
      rcases primaryPhase_allOrNothing h with ⟨-, hresult⟩ | ⟨s, f, -, -, hresult⟩
      · exact ⟨own, hresult.trans hown⟩
      · exact ⟨_, hresult⟩

/-- A cycle on one backend ends with a snapshot under either policy, and the
two snapshots agree in all but the panels that a failure reaches. -/
theorem snapshots_compared (ctx : Context) (backend : String → Reply)
    (calm : ∀ path, (backend path).outcome ≠ .crashed) (cycle : Nat) (apartAt togetherAt : Int) :
    ∃ apart together,
      (runCycle { ctx with primaryBatch := .isolated } cycle apartAt
        (answersOf backend ctx.timeout)).snapshot = some apart ∧
      (runCycle { ctx with primaryBatch := .allOrNothing } cycle togetherAt
        (answersOf backend ctx.timeout)).snapshot = some together ∧
      Compared (answersOf backend ctx.timeout) apart together := by
  have hcalm : ∀ e, (answersOf backend ctx.timeout e).outcome ≠ .crashed := fun e =>
    within_not_crashed (calm e.path) ctx.timeout e.path
  generalize answersOf backend ctx.timeout = answers at hcalm ⊢
  obtain ⟨own, hown⟩ := ownPanels_isSome fun s => hcalm (.source s)
  obtain ⟨outcome, houtcome⟩ := metricsPhase_isSome fun g => hcalm (.gauge g)
  have hapart := (primaryPhase_isolated fun s => hcalm (.source s)).trans hown
  rcases primaryPhase_allOrNothing fun s => hcalm (.source s) with
    ⟨hnone, htogether⟩ | ⟨s, f, hfirst, hf, htogether⟩
  · rw [hown] at htogether
    refine ⟨_, _, runCycle_snapshot_eq_some_iff.mpr ⟨own, outcome, hapart, houtcome, rfl⟩,
      runCycle_snapshot_eq_some_iff.mpr ⟨own, outcome, htogether, houtcome, rfl⟩, ?_⟩
    exact
      { metrics := rfl
        primary := fun _ => ⟨rfl, rfl, rfl⟩
        reported := fun ⟨s, hs⟩ => absurd hs (hnone s) }
  · refine ⟨_, _, runCycle_snapshot_eq_some_iff.mpr ⟨own, outcome, hapart, houtcome, rfl⟩,
      runCycle_snapshot_eq_some_iff.mpr ⟨_, outcome, htogether, houtcome, rfl⟩, ?_⟩
    exact
      { metrics := rfl
        primary := fun h => absurd hfirst.1 (h s)
        reported := fun _ =>
          ⟨s, failureText f.message, hfirst, failedText?_ownPanels hown hf _ _ _ _,
            failedText?_failed f.message _ _ _ _⟩ }

/-- A backend that is silent about the status, refuses the faults after some
time and has no more to say. -/
def troubledBackend (path : String) : Reply :=
  if path = Source.status.path then ⟨none, .value .null⟩
  else if path = Source.faults.path then ⟨some 20, .failed (.status path 503)⟩
  else ⟨some 0, .value .null⟩

/-- The faults are refused before the status is given up. -/
theorem snapshots_compared_of_troubledBackend :
    (∀ path, (troubledBackend path).outcome ≠ .crashed) ∧
      FailsFirst (answersOf troubledBackend 25) .faults ∧
      ∃ apart together,
        (runCycle ⟨"http://store", "http://links", 25, 100, .concurrent, .isolated⟩ 1 0
          (answersOf troubledBackend 25)).snapshot = some apart ∧
        (runCycle ⟨"http://store", "http://links", 25, 100, .concurrent, .allOrNothing⟩ 1 0
          (answersOf troubledBackend 25)).snapshot = some together ∧
        Compared (answersOf troubledBackend 25) apart together := by
  have hcalm : ∀ path, (troubledBackend path).outcome ≠ .crashed := by
    intro path
    unfold troubledBackend
    split
    · simp
    · split <;> simp
  refine ⟨hcalm, ⟨⟨.status "/api/faults" 503, rfl⟩, ?_⟩, ?_⟩
  · rintro other ⟨f, hf⟩
    cases other with
    | status => decide
    | faults => exact Nat.le_refl _
    | benchmark => cases hf
  · exact snapshots_compared ⟨"http://store", "http://links", 25, 100, .concurrent, .isolated⟩
      troubledBackend hcalm 1 0 0

end Fetch

end Dashboard
