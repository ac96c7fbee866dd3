import Dashboard.CommandLine.Program
import Dashboard.Proofs.Fetch.Isolation

/-!
# When every source is said to have failed

A snapshot says that every source has failed when all of its panels have.
What that means for the backend depends on the batch policy, since the panels
are all that is left of a batch. Where failures are kept apart, each panel
stands for its own request, and the verdict is that each of the three
requests failed and a query failed. Where failures are kept together, the
first failure of the batch has taken all three panels, so one failed request
is enough, and a source that has answered is said to have failed as well
(`overruled_of_halfBackend`).

Whether a request fails is said of the reply alone: it is a failure that
comes in time, or none comes in time. `Panel.isFailed_panelOf` carries that
to a panel, `primaryPhase_lost_iff` and `metricsPhase_isFailed_iff` to the
two phases. A program that prints one report ends by the verdict on its only
snapshot, and there always is one, because a backend on the web takes nobody
down.
-/

namespace Dashboard

open Fetch

/-- A request ends in time with a value. -/
def Fetch.Reply.Succeeds (r : Reply) (limit : Nat) : Prop :=
  ∃ d v, r.delay = some d ∧ d ≤ limit ∧ r.outcome = .value v

/-- A request ends in time with a failure, or not in time. -/
def Fetch.Reply.Fails (r : Reply) (limit : Nat) : Prop :=
  (∃ d f, r.delay = some d ∧ d ≤ limit ∧ r.outcome = .failed f) ∨
    ∀ d, r.delay = some d → limit < d

namespace Fetch

/-- What requests come back with under a deadline, given the reply to each. -/
def answersTo (replies : Endpoint → Reply) (limit : Nat) : Answers := fun e =>
  (replies e).within limit e.path

/-- A query failed, or was not answered in time. -/
def QueryFails (answers : Answers) : Prop := ∃ g f, (answers (.gauge g)).outcome = .failed f

/-- What a batch policy makes of failures as a failure of all sources. -/
def Lost : BatchPolicy → Answers → Prop
  | .isolated, answers => ∀ s, Fails answers s
  | .allOrNothing, answers => ∃ s, Fails answers s

variable {answers : Answers} {policy : BatchPolicy}

/-! ## Replies -/

theorem Reply.Succeeds.not_fails {r : Reply} {limit : Nat} (h : r.Succeeds limit) :
    ¬ r.Fails limit := by
  obtain ⟨d, v, hdelay, hle, hvalue⟩ := h
  rintro (⟨-, f, -, -, hfailed⟩ | hlate)
  · rw [hvalue] at hfailed
    cases hfailed
  · exact absurd (hlate d hdelay) (Nat.not_lt.mpr hle)

theorem fails_answersTo_iff {replies : Endpoint → Reply} {limit : Nat} {s : Source} :
    Fails (answersTo replies limit) s ↔ (replies (.source s)).Fails limit :=
  failed_within_iff

theorem queryFails_answersTo_iff {replies : Endpoint → Reply} {limit : Nat} :
    QueryFails (answersTo replies limit) ↔ ∃ g, (replies (.gauge g)).Fails limit :=
  exists_congr fun _ => failed_within_iff

/-! ## The two phases -/

theorem Panel.isFailed_panelOf {α : Type} {read : Json → α} {o : Outcome} {panel : Panel α}
    (h : o.result?.map (panelOf read) = some panel) :
    panel.isFailed = true ↔ ∃ f, o = .failed f := by
  cases o with
  | value v =>
      obtain rfl := Option.some.inj h
      simp [panelOf, Panel.isFailed]
  | failed f =>
      obtain rfl := Option.some.inj h
      simp [panelOf, Panel.isFailed]
  | crashed => cases h

/-- All panels have failed. -/
def PrimaryPanels.AllFailed (panels : PrimaryPanels) : Prop :=
  panels.status.isFailed = true ∧ panels.timeline.isFailed = true ∧
    panels.benchmark.isFailed = true

theorem allFailed_ownPanels {panels : PrimaryPanels} (h : ownPanels answers = some panels) :
    panels.AllFailed ↔ ∀ s, Fails answers s := by
  obtain ⟨hstatus, hfaults, hbenchmark⟩ := ownPanels_eq_some_iff.mp h
  rw [PrimaryPanels.AllFailed, Panel.isFailed_panelOf hstatus, Panel.isFailed_panelOf hfaults,
    Panel.isFailed_panelOf hbenchmark]
  constructor
  · rintro ⟨h₁, h₂, h₃⟩ s
    cases s with
    | status => exact h₁
    | faults => exact h₂
    | benchmark => exact h₃
  · exact fun hall => ⟨hall .status, hall .faults, hall .benchmark⟩

/-- The panels that the first phase comes to have all failed when the policy
takes the sources for lost. -/
theorem primaryPhase_lost_iff {panels : PrimaryPanels}
    (h : (primaryPhase policy answers).result = some panels) :
    panels.AllFailed ↔ Lost policy answers := by
  cases policy with
  | isolated => exact allFailed_ownPanels h
  | allOrNothing =>
      rcases primaryPhase_together answers with
        ⟨hvalue, hresult⟩ | ⟨s, f, -, hf, hresult⟩ | ⟨-, hresult⟩
      · have hcalm : ∀ s, ¬ Fails answers s := by
          rintro s ⟨f, hf⟩
          obtain ⟨v, hv⟩ := hvalue s
          rw [hv] at hf
          cases hf
        rw [allFailed_ownPanels (hresult.symm.trans h)]
        exact ⟨fun hall => absurd (hall .status) (hcalm .status),
          fun ⟨s, hs⟩ => absurd hs (hcalm s)⟩
      · obtain rfl := Option.some.inj (hresult.symm.trans h)
        exact ⟨fun _ => ⟨s, f, hf⟩, fun _ => ⟨rfl, rfl, rfl⟩⟩
      · rw [hresult] at h
        cases h

theorem MetricsOutcome.isFailed_ofAnswers (values : PerGauge Json) :
    (MetricsOutcome.ofAnswers values).isFailed = false := by
  unfold MetricsOutcome.ofAnswers MetricsOutcome.ofSamples
  split <;> rfl

/-- The outcome that the second phase comes to is a failure when a query
failed. -/
theorem metricsPhase_isFailed_iff {outcome : MetricsOutcome}
    (h : (metricsPhase answers).result = some outcome) :
    outcome.isFailed = true ↔ QueryFails answers := by
  rcases metricsPhase_together answers with
    ⟨hanswering, values, -, hresult⟩ | ⟨g, f, hfirst, hresult⟩ | ⟨-, hresult⟩
  · have hcalm : ¬ QueryFails answers := by
      rintro ⟨g, f, hf⟩
      obtain ⟨v, hv⟩ := hanswering g
      rw [hv] at hf
      cases hf
    obtain rfl := Option.some.inj (hresult.symm.trans h)
    simp [MetricsOutcome.isFailed_ofAnswers, hcalm]
  · obtain rfl := Option.some.inj (hresult.symm.trans h)
    exact ⟨fun _ => ⟨g, f, hfirst.1⟩, fun _ => rfl⟩
  · rw [hresult] at h
    cases h

/-! ## A whole cycle -/

theorem allSourcesFailed_snapshotOf {ctx : Context} {cycle : Nat} {completedAt : Int}
    {panels : PrimaryPanels} {outcome : MetricsOutcome} :
    (snapshotOf ctx cycle completedAt panels outcome).allSourcesFailed = true ↔
      panels.AllFailed ∧ outcome.isFailed = true := by
  simp [snapshotOf, Snapshot.allSourcesFailed, PrimaryPanels.AllFailed, and_assoc]

theorem allSourcesFailed_runCycle {ctx : Context} {cycle : Nat} {completedAt : Int}
    {p : Snapshot} (h : (runCycle ctx cycle completedAt answers).snapshot = some p) :
    p.allSourcesFailed = true ↔ Lost ctx.primaryBatch answers ∧ QueryFails answers := by
  obtain ⟨panels, outcome, hpanels, houtcome, rfl⟩ := runCycle_snapshot_eq_some_iff.mp h
  rw [allSourcesFailed_snapshotOf, primaryPhase_lost_iff hpanels,
    metricsPhase_isFailed_iff houtcome]

/-- No source produced data; the metrics, which come by four queries, are one
source. -/
def NoData (replies : Endpoint → Reply) (limit : Nat) : Prop :=
  (∀ s, (replies (.source s)).Fails limit) ∧ ∃ g, (replies (.gauge g)).Fails limit

/-- A source that did not fail is lost with one that did, and a query failed. -/
structure Overruled (ctx : Context) (replies : Endpoint → Reply) : Prop where
  together : ctx.primaryBatch = .allOrNothing
  spoiled : ∃ s, (replies (.source s)).Fails ctx.timeout
  unspoiled : ∃ s, ¬ (replies (.source s)).Fails ctx.timeout
  query : ∃ g, (replies (.gauge g)).Fails ctx.timeout

/-- What the verdict of a snapshot says about the replies it was made from. -/
structure Verdict (ctx : Context) (replies : Endpoint → Reply) (p : Snapshot) : Prop where
  /-- It is right unless a source was lost with another one. -/
  right : (p.allSourcesFailed = true ↔ NoData replies ctx.timeout) ↔ ¬ Overruled ctx replies
  isolated : ctx.primaryBatch = .isolated →
    (p.allSourcesFailed = true ↔ NoData replies ctx.timeout)
  together : ctx.primaryBatch = .allOrNothing →
    (p.allSourcesFailed = true ↔
      (∃ s, (replies (.source s)).Fails ctx.timeout) ∧ ∃ g, (replies (.gauge g)).Fails ctx.timeout)
  /-- Then one source that answers is enough. -/
  answered : ¬ Overruled ctx replies →
    (∃ s, (replies (.source s)).Succeeds ctx.timeout) → p.allSourcesFailed = false
  /-- Under either policy it is enough that no source fails, or no query. -/
  unspoiled : ((∀ s, (replies (.source s)).Succeeds ctx.timeout) ∨
    ∀ g, (replies (.gauge g)).Succeeds ctx.timeout) → p.allSourcesFailed = false

theorem verdict_runCycle {ctx : Context} {replies : Endpoint → Reply} {cycle : Nat}
    {completedAt : Int} {p : Snapshot}
    (h : (runCycle ctx cycle completedAt (answersTo replies ctx.timeout)).snapshot = some p) :
    Verdict ctx replies p := by
  have hverdict := allSourcesFailed_runCycle h
  rw [queryFails_answersTo_iff] at hverdict
  have hisolated : ctx.primaryBatch = .isolated →
      (p.allSourcesFailed = true ↔ NoData replies ctx.timeout) := fun hpolicy => by
    simpa only [NoData, hpolicy, Lost, fails_answersTo_iff] using hverdict
  have htogether : ctx.primaryBatch = .allOrNothing → (p.allSourcesFailed = true ↔
      (∃ s, (replies (.source s)).Fails ctx.timeout) ∧
        ∃ g, (replies (.gauge g)).Fails ctx.timeout) := fun hpolicy => by
    simpa only [hpolicy, Lost, fails_answersTo_iff] using hverdict
  have hright : ¬ Overruled ctx replies →
      (p.allSourcesFailed = true ↔ NoData replies ctx.timeout) := fun hkept => by
    cases hpolicy : ctx.primaryBatch with
    | isolated => exact hisolated hpolicy
    | allOrNothing =>
        rw [htogether hpolicy]
        constructor
        · rintro ⟨hspoiled, hquery⟩
          refine ⟨fun s => ?_, hquery⟩
          by_contra hs
          exact hkept ⟨hpolicy, hspoiled, ⟨s, hs⟩, hquery⟩
        · rintro ⟨hall, hquery⟩
          exact ⟨⟨.status, hall .status⟩, hquery⟩
  refine ⟨⟨fun hsame hoverruled => ?_, hright⟩, hisolated, htogether, fun hkept hs => ?_, ?_⟩
  · obtain ⟨hpolicy, hspoiled, ⟨s, hs⟩, hquery⟩ := hoverruled
    exact hs ((hsame.mp ((htogether hpolicy).mpr ⟨hspoiled, hquery⟩)).1 s)
  · obtain ⟨s, hs⟩ := hs
    rw [← Bool.not_eq_true, hright hkept]
    rintro ⟨hall, -⟩
    exact hs.not_fails (hall s)
  · rintro hgood
    rw [← Bool.not_eq_true, hverdict]
    rintro ⟨hlost, g, hg⟩
    rcases hgood with hsources | hgauges
    · obtain ⟨s, hs⟩ : ∃ s, Fails (answersTo replies ctx.timeout) s := by
        cases hpolicy : ctx.primaryBatch with
        | isolated => rw [hpolicy] at hlost; exact ⟨.status, hlost .status⟩
        | allOrNothing => rw [hpolicy] at hlost; exact hlost
      exact (hsources s).not_fails (fails_answersTo_iff.mp hs)
    · exact (hgauges g).not_fails hg

end Fetch

/-! ## A program that prints one report -/

namespace CommandLine

/-- The backend of a session. -/
def backendOf (c : Config) : HttpBackend :=
  HttpBackend.ofUrl c.backend.baseUrl c.backend.requestTimeout.toNat

/-- The requests that are made together with one. -/
def madeWith : Endpoint → List Endpoint
  | .settings => [.settings]
  | .source _ => Endpoint.primary
  | .gauge _ => Endpoint.gauges

/-- What the requests of a session are replied with. -/
def repliesTo (s : Surroundings Id) (c : Config) (e : Endpoint) : Reply :=
  let b := backendOf c
  b.reply (s.visit b.timeout (b.targets (madeWith e))) e.path

/-- The context of a session. -/
def contextOf (s : Surroundings Id) (c : Config) : Context :=
  Context.ofSettings c ((ask s (backendOf c) [.settings] : Answers) .settings).outcome.value?

/-- The only cycle of a session that prints one report. -/
def onlyCycle (s : Surroundings Id) (c : Config) : CycleRun :=
  runCycle (contextOf s c) 1 s.now (answersTo (repliesTo s c) (contextOf s c).timeout)

/-- What is said about the log's filter where it cannot be read. -/
def complaints (c : Config) (env : String → Option String) : String :=
  String.join ((logFilter c env).2.map ignoringLine)

theorem ofPayload_ne_crashed (path : String) (payload : List UInt8) :
    Outcome.ofPayload path payload ≠ .crashed := by
  unfold Outcome.ofPayload
  split <;> simp

theorem Body.reply_ne_crashed (body : Body) (path : String) (limit headAt : Nat) :
    (body.reply path limit headAt).outcome ≠ .crashed := by
  cases body with
  | missing => simp [Body.reply, bodyLost]
  | broken at_ => simp [Body.reply, bodyLost]
  | complete at_ bytes =>
      simp only [Body.reply]
      split
      · exact ofPayload_ne_crashed path bytes
      · simp [bodyLost]

theorem Visit.reply_ne_crashed (v : Visit) (path : String) (limit : Nat) :
    (v.reply path limit).outcome ≠ .crashed := by
  unfold Visit.reply
  split
  · simp [late]
  · split <;> simp [late]
  · split
    · simp [late]
    · split
      · exact Body.reply_ne_crashed _ _ _ _
      · simp

/-- A backend on the web takes nobody down. -/
theorem repliesTo_ne_crashed (s : Surroundings Id) (c : Config) (e : Endpoint) :
    (repliesTo s c e).outcome ≠ .crashed := by
  unfold repliesTo HttpBackend.reply
  dsimp only
  split
  · exact Visit.reply_ne_crashed _ _ _
  · simp

theorem report_congr {ctx : Context} {b : HttpBackend} {run other : CycleRun}
    (h : run.snapshot = other.snapshot) : Ending.report ctx b run = Ending.report ctx b other := by
  simp only [Ending.report, h]

theorem fst_reportOnce (s : Surroundings Id) (b : HttpBackend) (ctx : Context) :
    (reportOnce s b ctx : Ending × List Entry).1 = Ending.report ctx b
      (runCycle ctx 1 s.now (combine (ask s b Endpoint.primary) (ask s b Endpoint.gauges))) := by
  refine congrArg (fun answers => Ending.report ctx b (runCycle ctx 1 s.now answers)) ?_
  funext e
  cases e <;> rfl

theorem answersTo_repliesTo (s : Surroundings Id) (c : Config) (e : Endpoint) :
    answersTo (repliesTo s c) (contextOf s c).timeout e =
      (ask s (backendOf c) (madeWith e) : Answers) e := by
  generalize hlimit : (contextOf s c).timeout = limit
  obtain rfl : (backendOf c).timeout = limit := hlimit
  unfold answersTo repliesTo
  generalize backendOf c = b
  rfl

/-- The cycle of a session reads the reply to each of its requests once. -/
theorem fst_reportOnce_onlyCycle (s : Surroundings Id) (c : Config) :
    (reportOnce s (backendOf c) (contextOf s c) : Ending × List Entry).1 =
      Ending.report (contextOf s c) (backendOf c) (onlyCycle s c) := by
  rw [fst_reportOnce]
  refine report_congr (runCycle_snapshot_congr fun e he => ?_)
  rw [answersTo_repliesTo]
  rcases List.mem_append.mp he with hmem | hmem
  · obtain ⟨source, rfl⟩ := primaryPhase_started_subset hmem
    rw [combine, madeWith]
    simp
  · obtain ⟨g, rfl⟩ := metricsPhase_started_subset hmem
    rw [combine, madeWith]

/-- Something comes back of the request for the settings. -/
theorem exists_settings (s : Surroundings Id) (c : Config) :
    ∃ settings, ((ask s (backendOf c) [.settings] : Answers) .settings).outcome.result? =
        some settings ∧
      ((ask s (backendOf c) [.settings] : Answers) .settings).outcome.value? =
        settings.toOption := by
  have hcalm : ((ask s (backendOf c) [.settings] : Answers) .settings).outcome ≠ .crashed := by
    rw [← madeWith, ← answersTo_repliesTo]
    exact within_not_crashed (repliesTo_ne_crashed s c .settings) _ _
  cases houtcome : ((ask s (backendOf c) [.settings] : Answers) .settings).outcome with
  | value v => exact ⟨.ok v, rfl, rfl⟩
  | failed f => exact ⟨.error f, rfl, rfl⟩
  | crashed => exact absurd houtcome hcalm

theorem session_once {s : Surroundings Id} {o : Options} {c : Config}
    {env : String → Option String} (once : o.once = true) :
    ∃ entries, session s o c env =
      (Ending.report (contextOf s c) (backendOf c) (onlyCycle s c)).logged o c env entries := by
  obtain ⟨settings, hsettings, hvalue⟩ := exists_settings s c
  have hctx : Context.ofSettings c settings.toOption = contextOf s c := by
    rw [contextOf, hvalue]
  rw [← fst_reportOnce_onlyCycle, ← hctx]
  refine ⟨openingEntry :: settingsEntries c settings ++ (reportOnce s (backendOf c)
    (Context.ofSettings c settings.toOption) : Ending × List Entry).2, ?_⟩
  simp only [session, once, if_true, pure, bind]
  split
  · next hnone => cases hsettings.symm.trans hnone
  · next settings' hsome =>
      obtain rfl : settings = settings' := Option.some.inj (hsettings.symm.trans hsome)
      rfl

theorem snapshot_onlyCycle (s : Surroundings Id) (c : Config) :
    ∃ p, (onlyCycle s c).snapshot = some p := by
  have hcalm (e : Endpoint) :
      (answersTo (repliesTo s c) (contextOf s c).timeout e).outcome ≠ .crashed :=
    within_not_crashed (repliesTo_ne_crashed s c e) _ _
  obtain ⟨panels, outcome, -, -, hp⟩ := exists_snapshot (contextOf s c) 1 s.now hcalm
  exact ⟨_, hp⟩

/-- How a program ends that prints one report: with the code of a failure, and
the reason for it, when the verdict is that every source failed. -/
structure Concluded (s : Surroundings Id) (c : Config) (env : String → Option String)
    (p : Snapshot) (e : Ending) : Prop where
  code : e.code = if p.allSourcesFailed then 1 else 0
  errors : e.errors = complaints c env ++
    if p.allSourcesFailed then
      "Error: " ++ ("every source failed; is the backend at " ++ (backendOf c).baseUrl ++
        " running?") ++ "\n"
    else ""
  output : e.output = Report.render p (contextOf s c).storeUrl (contextOf s c).grafanaUrl

theorem logged_once (e : Ending) {o : Options} (c : Config) (env : String → Option String)
    (entries : List Entry) (once : o.once = true) :
    (e.logged o c env entries).code = e.code ∧
      (e.logged o c env entries).errors = complaints c env ++ e.errors ∧
      (e.logged o c env entries).output = e.output := by
  simp [Ending.logged, once, complaints]

theorem concluded_session {s : Surroundings Id} {o : Options} {c : Config}
    {env : String → Option String} {p : Snapshot} (once : o.once = true)
    (h : (onlyCycle s c).snapshot = some p) : Concluded s c env p (session s o c env) := by
  obtain ⟨entries, hsession⟩ := session_once (s := s) (o := o) (c := c) once
  obtain ⟨hcode, herrors, houtput⟩ := logged_once
    (Ending.report (contextOf s c) (backendOf c) (onlyCycle s c)) c env entries once
  rw [← hsession] at hcode herrors houtput
  simp only [Ending.report, h] at hcode herrors houtput
  cases hfailed : p.allSourcesFailed with
  | true =>
      simp only [hfailed, if_true] at hcode herrors houtput
      exact ⟨by rw [hcode, hfailed]; rfl, by rw [herrors, hfailed]; rfl, houtput⟩
  | false =>
      simp only [hfailed, Bool.false_eq_true, if_false] at hcode herrors houtput
      exact ⟨by rw [hcode, hfailed]; rfl, by rw [herrors, hfailed]; rfl, houtput⟩

/-- A cycle that nothing takes down reaches a verdict, the verdict is right
unless a source was lost with another one, and a program that prints one report
ends by it. -/
theorem verdict_concluded (ctx : Context) (replies : Endpoint → Reply) (cycle : Nat)
    (completedAt : Int) (s : Surroundings Id) (o : Options) (c : Config)
    (env : String → Option String) :
    ((∀ e, (replies e).outcome ≠ .crashed) →
      ∃ p, (runCycle ctx cycle completedAt (answersTo replies ctx.timeout)).snapshot = some p) ∧
    (∀ p, (runCycle ctx cycle completedAt (answersTo replies ctx.timeout)).snapshot = some p →
      Verdict ctx replies p) ∧
    (o.once = true → ∃ p, (onlyCycle s c).snapshot = some p ∧
      Verdict (contextOf s c) (repliesTo s c) p ∧ Concluded s c env p (session s o c env)) := by
  refine ⟨fun hcalm => ?_, fun p hp => verdict_runCycle hp, fun once => ?_⟩
  · obtain ⟨panels, outcome, -, -, hp⟩ := exists_snapshot ctx cycle completedAt fun e =>
      within_not_crashed (hcalm e) ctx.timeout e.path
    exact ⟨_, hp⟩
  · obtain ⟨p, hp⟩ := snapshot_onlyCycle s c
    exact ⟨p, hp, verdict_runCycle hp, concluded_session once hp⟩

/-- A backend that has lost its benchmarks and its metrics store. -/
def halfBackend : Endpoint → Reply
  | .source .benchmark => ⟨some 20, .failed (.status Source.benchmark.path 503)⟩
  | .gauge g => ⟨some 0, .failed (.status g.path 503)⟩
  | _ => ⟨some 0, .value .null⟩

/-- Surroundings in which the network is silent. -/
def silence : Surroundings Id where
  read := fun _ => .absent
  canAppend := fun _ => .ok ()
  visit := fun _ _ url => ⟨url, .silent⟩
  now := 0

theorem repliesTo_silence (c : Config) (e : Endpoint) :
    (repliesTo silence c e).Fails (contextOf silence c).timeout := by
  unfold repliesTo HttpBackend.reply
  dsimp only
  split
  · exact Or.inl ⟨(backendOf c).timeout, _, rfl, Nat.le_refl _, rfl⟩
  · exact Or.inl ⟨0, _, rfl, Nat.zero_le _, rfl⟩

/-- Two sources that answer are enough where failures are kept apart, and a
silent network is reported. -/
theorem verdict_concluded_of_halfBackend :
    (∃ p, (runCycle ⟨"http://store", "http://links", 25, 100, .concurrent, .isolated⟩ 1 0
        (answersTo halfBackend 25)).snapshot = some p ∧ p.allSourcesFailed = false) ∧
      (session silence { once := true } {} fun _ => none).code = 1 := by
  obtain ⟨hsome, hverdict, hsession⟩ := verdict_concluded
    ⟨"http://store", "http://links", 25, 100, .concurrent, .isolated⟩ halfBackend 1 0
    silence { once := true } {} fun _ => none
  constructor
  · obtain ⟨p, hp⟩ := hsome fun e => by unfold halfBackend; split <;> simp
    refine ⟨p, hp, (hverdict p hp).answered (fun hoverruled => ?_)
      ⟨.faults, 0, .null, rfl, Nat.zero_le _, rfl⟩⟩
    cases hoverruled.together
  · obtain ⟨p, hp, hverdict, hconcluded⟩ := hsession rfl
    have hfailed : p.allSourcesFailed = true := (hverdict.isolated rfl).mpr
      ⟨fun s => repliesTo_silence {} _, .operations, repliesTo_silence {} _⟩
    rw [hconcluded.code, hfailed]
    rfl

/-- Where failures are kept together, every source is said to have failed though
two have answered. -/
theorem overruled_of_halfBackend :
    (halfBackend (.source .status)).Succeeds 25 ∧ (halfBackend (.source .faults)).Succeeds 25 ∧
      ∃ p, (runCycle ⟨"http://store", "http://links", 25, 100, .concurrent, .allOrNothing⟩ 1 0
          (answersTo halfBackend 25)).snapshot = some p ∧
        p.allSourcesFailed = true :=
  ⟨⟨0, .null, rfl, Nat.zero_le _, rfl⟩, ⟨0, .null, rfl, Nat.zero_le _, rfl⟩, _, rfl, rfl⟩

end CommandLine

end Dashboard
