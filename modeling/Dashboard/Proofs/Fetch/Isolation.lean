import Dashboard.Proofs.Fetch.Policies

/-!
# No source sees another

Where failures are kept apart, the panel of a source is a function of the
reply on its own path: two backends that give the same reply there show the
same panel, whatever they do on every other path. The metrics are a function
of the replies on the four query paths alone, under either policy.

A panel that could not be filled says why. The reason is the failure of its
own source, and the text goes on with the path of the source whenever that
failure names the path it was for. Every failure of a request does; only a
failure that was none of a request, such as one of the settings, can leave
the path out.
-/

namespace Dashboard

/-- The path that a failed request was for. -/
def Failure.path? : Failure → Option String
  | transport path _ | status path _ | decode path _ | timeout path _ => some path
  | config _ | terminal _ | system _ => none

/-- A failed request is reported under its path. -/
theorem Failure.message_of_path? {f : Failure} {path : String} (h : f.path? = some path) :
    ∃ rest, f.message = path ++ rest := by
  cases f with
  | transport p m =>
      obtain rfl : p = path := by simpa [path?] using h
      exact ⟨" -> " ++ m, String.append_assoc⟩
  | status p code =>
      obtain rfl : p = path := by simpa [path?] using h
      exact ⟨" -> " ++ toString code, String.append_assoc⟩
  | decode p m =>
      obtain rfl : p = path := by simpa [path?] using h
      exact ⟨" -> invalid JSON: " ++ m, String.append_assoc⟩
  | timeout p after =>
      obtain rfl : p = path := by simpa [path?] using h
      refine ⟨" -> timed out after " ++ (toString after.millis ++ "ms"), ?_⟩
      show p ++ " -> timed out after " ++ toString after.millis ++ "ms" = _
      rw [String.append_assoc, String.append_assoc]
  | config m => cases h
  | terminal m => cases h
  | system m => cases h

namespace Fetch

/-- No reply on any path takes the cycle down. -/
def Calm (backend : String → Reply) (limit : Nat) : Prop :=
  ∀ path, ((backend path).within limit path).outcome ≠ .crashed

/-- Two snapshots show the same for a source. -/
def SamePanel (p q : Snapshot) : Source → Prop
  | .status => p.status = q.status
  | .faults => p.timeline = q.timeline
  | .benchmark => p.benchmark = q.benchmark

/-- The text begins like that of a failed request for a source. -/
def NamesSource (s : Source) (text : String) : Prop :=
  ∃ rest, text = "Refresh failed: " ++ s.path ++ rest

/-- What a panel says instead of its content: it names its own source, unless
the backend's failure on that path does not. -/
def Reported (backend : String → Reply) (s : Source) (text : String) : Prop :=
  NamesSource s text ∨
    ∃ f, (backend s.path).outcome = .failed f ∧ f.path? ≠ some s.path ∧
      text = failureText f.message

variable {answers other : Answers}

/-! ## A panel and its source -/

/-- The panels of the sources, source by source. -/
theorem ownPanels_eq_some_iff {panels : PrimaryPanels} :
    ownPanels answers = some panels ↔
      (answers (.source .status)).outcome.result?.map (panelOf ClusterStatus.ofJson) =
          some panels.status ∧
        (answers (.source .faults)).outcome.result?.map (panelOf Timeline.ofJson) =
          some panels.timeline ∧
        (answers (.source .benchmark)).outcome.result?.map (panelOf Benchmark.ofJson) =
          some panels.benchmark := by
  simp only [ownPanels, Option.bind_eq_bind, Option.bind_eq_some_iff, Option.map_eq_some_iff]
  constructor
  · rintro ⟨status, hstatus, faults, hfaults, benchmark, hbenchmark, hpanels⟩
    obtain rfl := Option.some.inj hpanels
    exact ⟨⟨status, hstatus, rfl⟩, ⟨faults, hfaults, rfl⟩, ⟨benchmark, hbenchmark, rfl⟩⟩
  · rintro ⟨⟨status, hstatus, h₁⟩, ⟨faults, hfaults, h₂⟩, ⟨benchmark, hbenchmark, h₃⟩⟩
    refine ⟨status, hstatus, faults, hfaults, benchmark, hbenchmark, ?_⟩
    rw [h₁, h₂, h₃]
    rfl

theorem samePanel_ownPanels {left right : PrimaryPanels} {s : Source}
    (hleft : ownPanels answers = some left) (hright : ownPanels other = some right)
    (hsame : answers (.source s) = other (.source s)) (ctx : Context) (cycle cycle' : Nat)
    (at_ at' : Int) (outcome outcome' : MetricsOutcome) :
    SamePanel (snapshotOf ctx cycle at_ left outcome) (snapshotOf ctx cycle' at' right outcome')
      s := by
  obtain ⟨hstatus, hfaults, hbenchmark⟩ := ownPanels_eq_some_iff.mp hleft
  obtain ⟨hstatus', hfaults', hbenchmark'⟩ := ownPanels_eq_some_iff.mp hright
  cases s with
  | status =>
      rw [hsame, hstatus'] at hstatus
      exact (Option.some.inj hstatus).symm
  | faults =>
      rw [hsame, hfaults'] at hfaults
      exact (Option.some.inj hfaults).symm
  | benchmark =>
      rw [hsame, hbenchmark'] at hbenchmark
      exact (Option.some.inj hbenchmark).symm

/-- Only a failure leaves a panel without its content. -/
theorem failed_of_panelOf {α : Type} {read : Json → α} {o : Outcome} {panel : Panel α}
    {text : String} (h : o.result?.map (panelOf read) = some panel)
    (htext : panel.message? = some text) :
    ∃ f, o = .failed f ∧ text = failureText f.message := by
  cases o with
  | value v =>
      obtain rfl := Option.some.inj h
      cases htext
  | failed f =>
      obtain rfl := Option.some.inj h
      exact ⟨f, rfl, (Option.some.inj htext).symm⟩
  | crashed => cases h

theorem failed_of_failedText? {panels : PrimaryPanels} (h : ownPanels answers = some panels)
    {ctx : Context} {cycle : Nat} {completedAt : Int} {outcome : MetricsOutcome} {s : Source}
    {text : String}
    (htext : failedText? (snapshotOf ctx cycle completedAt panels outcome) s = some text) :
    ∃ f, (answers (.source s)).outcome = .failed f ∧ text = failureText f.message := by
  obtain ⟨hstatus, hfaults, hbenchmark⟩ := ownPanels_eq_some_iff.mp h
  cases s with
  | status => exact failed_of_panelOf hstatus htext
  | faults => exact failed_of_panelOf hfaults htext
  | benchmark => exact failed_of_panelOf hbenchmark htext

/-! ## What a failure says -/

theorem namesSource_of_path? {s : Source} {f : Failure} (h : f.path? = some s.path) :
    NamesSource s (failureText f.message) := by
  obtain ⟨rest, hrest⟩ := f.message_of_path? h
  refine ⟨rest, ?_⟩
  show "Refresh failed: " ++ f.message = _
  rw [hrest, String.append_assoc]

/-- An answer that failed is the backend's failure, or the deadline's. -/
theorem failed_within {r : Reply} {limit : Nat} {path : String} {f : Failure}
    (h : (r.within limit path).outcome = .failed f) :
    r.outcome = .failed f ∨ f = .timeout path (Duration.ofMillis limit) := by
  unfold Reply.within at h
  dsimp only at h
  split at h
  · split at h
    · exact Or.inl h
    · exact Or.inr (Outcome.failed.inj h).symm
  · exact Or.inr (Outcome.failed.inj h).symm

theorem reported_of_failed {backend : String → Reply} {limit : Nat} {s : Source} {f : Failure}
    (h : (answersOf backend limit (.source s)).outcome = .failed f) :
    Reported backend s (failureText f.message) := by
  by_cases hpath : f.path? = some s.path
  · exact Or.inl (namesSource_of_path? hpath)
  · rcases failed_within h with hown | hlate
    · exact Or.inr ⟨f, hown, hpath, rfl⟩
    · rw [hlate] at hpath
      exact absurd rfl hpath

/-! ## Whole cycles -/

/-- Without a crash a cycle comes to a snapshot under either policy. -/
theorem exists_snapshot (ctx : Context) (cycle : Nat) (completedAt : Int)
    (calm : ∀ e, (answers e).outcome ≠ .crashed) :
    ∃ panels outcome, (primaryPhase ctx.primaryBatch answers).result = some panels ∧
      (metricsPhase answers).result = some outcome ∧
      (runCycle ctx cycle completedAt answers).snapshot =
        some (snapshotOf ctx cycle completedAt panels outcome) := by
  obtain ⟨outcome, houtcome⟩ := metricsPhase_isSome fun g => calm (.gauge g)
  obtain ⟨panels, hpanels⟩ :=
    primaryPhase_isSome ctx.primaryBatch fun s => calm (.source s)
  exact ⟨panels, outcome, hpanels, houtcome,
    runCycle_snapshot_eq_some_iff.mpr ⟨panels, outcome, hpanels, houtcome, rfl⟩⟩

/-- Two backends under one roof: each source shows what its own path replied,
and the metrics what the query paths did. -/
theorem sources_isolated (ctx : Context) (left right : String → Reply)
    (calmLeft : Calm left ctx.timeout) (calmRight : Calm right ctx.timeout) (cycle : Nat)
    (leftAt rightAt : Int) :
    (∃ p q,
      (runCycle { ctx with primaryBatch := .isolated } cycle leftAt
        (answersOf left ctx.timeout)).snapshot = some p ∧
      (runCycle { ctx with primaryBatch := .isolated } cycle rightAt
        (answersOf right ctx.timeout)).snapshot = some q ∧
      ∀ s, (left s.path = right s.path → SamePanel p q s) ∧
        ∀ text, failedText? p s = some text → Reported left s text) ∧
    ∀ policy policy', ∃ p q,
      (runCycle { ctx with primaryBatch := policy } cycle leftAt
        (answersOf left ctx.timeout)).snapshot = some p ∧
      (runCycle { ctx with primaryBatch := policy' } cycle rightAt
        (answersOf right ctx.timeout)).snapshot = some q ∧
      ((∀ g : Gauge, left g.path = right g.path) → p.metrics.outcome = q.metrics.outcome) := by
  have hleft : ∀ e, (answersOf left ctx.timeout e).outcome ≠ .crashed := fun e => calmLeft e.path
  have hright : ∀ e, (answersOf right ctx.timeout e).outcome ≠ .crashed :=
    fun e => calmRight e.path
  constructor
  · obtain ⟨own, outcome, hown, -, hp⟩ :=
      exists_snapshot { ctx with primaryBatch := .isolated } cycle leftAt hleft
    obtain ⟨own', outcome', hown', -, hq⟩ :=
      exists_snapshot { ctx with primaryBatch := .isolated } cycle rightAt hright
    have hpanels := (primaryPhase_isolated fun s => hleft (.source s)).symm.trans hown
    have hpanels' := (primaryPhase_isolated fun s => hright (.source s)).symm.trans hown'
    refine ⟨_, _, hp, hq, fun s => ⟨fun hsame => ?_, fun text htext => ?_⟩⟩
    · refine samePanel_ownPanels hpanels hpanels' ?_ _ _ _ _ _ _ _
      simp only [answersOf, Endpoint.path, hsame]
    · obtain ⟨f, hf, rfl⟩ := failed_of_failedText? hpanels htext
      exact reported_of_failed hf
  · intro policy policy'
    obtain ⟨panels, outcome, -, houtcome, hp⟩ :=
      exists_snapshot { ctx with primaryBatch := policy } cycle leftAt hleft
    obtain ⟨panels', outcome', -, houtcome', hq⟩ :=
      exists_snapshot { ctx with primaryBatch := policy' } cycle rightAt hright
    refine ⟨_, _, hp, hq, fun hsame => ?_⟩
    have hphase : metricsPhase (answersOf left ctx.timeout) =
        metricsPhase (answersOf right ctx.timeout) := by
      refine metricsPhase_congr fun e he => ?_
      obtain ⟨g, rfl⟩ := metricsPhase_started_subset he
      simp only [answersOf, Endpoint.path, hsame g]
    rw [hphase] at houtcome
    exact Option.some.inj (houtcome.symm.trans houtcome')

/-- A backend that gives nothing away without a session. -/
def lockedBackend (_path : String) : Reply := ⟨some 0, .failed (.config "no session")⟩

/-- A backend that is silent about the status, like `troubledBackend`, and of
one mind with it on the faults only. -/
def lockedButFaults (path : String) : Reply :=
  if path = Source.faults.path then troubledBackend path else lockedBackend path

theorem calm_troubledBackend (limit : Nat) : Calm troubledBackend limit := by
  intro path
  refine within_not_crashed ?_ limit path
  unfold troubledBackend
  split
  · simp
  · split <;> simp

theorem calm_lockedBackend (limit : Nat) : Calm lockedBackend limit := fun path =>
  within_not_crashed (by simp [lockedBackend]) limit path

/-- The faults look the same next to whatever happens to the status. -/
theorem sources_isolated_of_lockedButFaults :
    Calm troubledBackend 25 ∧ Calm lockedButFaults 25 ∧
      troubledBackend Source.faults.path = lockedButFaults Source.faults.path ∧
      ∃ p q,
        (runCycle ⟨"http://store", "http://links", 25, 100, .concurrent, .isolated⟩ 1 0
          (answersOf troubledBackend 25)).snapshot = some p ∧
        (runCycle ⟨"http://store", "http://links", 25, 100, .concurrent, .isolated⟩ 1 0
          (answersOf lockedButFaults 25)).snapshot = some q ∧
        SamePanel p q .faults := by
  have hcalm : Calm lockedButFaults 25 := by
    intro path
    unfold lockedButFaults
    split
    · exact calm_troubledBackend 25 path
    · exact calm_lockedBackend 25 path
  have hsame : troubledBackend Source.faults.path = lockedButFaults Source.faults.path := by
    simp [lockedButFaults]
  obtain ⟨⟨p, q, hp, hq, hpanels⟩, -⟩ :=
    sources_isolated ⟨"http://store", "http://links", 25, 100, .concurrent, .isolated⟩
      troubledBackend lockedButFaults (calm_troubledBackend 25) hcalm 1 0 0
  exact ⟨calm_troubledBackend 25, hcalm, hsame, p, q, hp, hq, (hpanels .faults).1 hsame⟩

/-- A failure that is none of a request is reported without a path. -/
theorem unnamed_of_lockedBackend :
    Calm lockedBackend 25 ∧
      ∃ p,
        (runCycle ⟨"http://store", "http://links", 25, 100, .concurrent, .isolated⟩ 1 0
          (answersOf lockedBackend 25)).snapshot = some p ∧
        failedText? p .status = some "Refresh failed: Configuration error: no session" ∧
        ¬ NamesSource .status "Refresh failed: Configuration error: no session" := by
  refine ⟨calm_lockedBackend 25, _, rfl, rfl, ?_⟩
  rintro ⟨rest, hrest⟩
  have hchars := congrArg (fun t => t.toList[16]?) hrest
  simp [Source.path] at hchars

end Fetch

end Dashboard
