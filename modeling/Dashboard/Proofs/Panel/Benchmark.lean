import Mathlib
import Dashboard.Panel.Benchmark
import Dashboard.Proofs.Json.Finite
import Dashboard.Proofs.Number.Display
import Dashboard.Proofs.Panel.Field

/-!
# From the latest run to the benchmark panel

Either a payload announces a run and describes it in an object, or the panel is
the one of a benchmark that has not been run (`noRunLines`). Of a run there are
four figures. `Figure` names them, with the label on the panel and the key in
the summary, so that a figure that is read in another's place would be a wrong
entry here.

A figure that the summary has as a number is stored and shown; for any other
there are dashes (`Shows`). That no number is left out for not being finite is
what is known of every payload (`Json.allFinite_of_decode`).
-/

namespace Dashboard.Benchmark

variable {payload summary other : Json} {members : Json.Members} {field : String}

/-! ## The figures -/

/-- The four figures of a run. -/
inductive Figure where
  | seqRead
  | seqWrite
  | randRead
  | randWrite

/-- The figures, in the order of the panel. -/
def Figure.all : List Figure := [seqRead, seqWrite, randRead, randWrite]

/-- What stands before a figure on the panel. -/
def Figure.label : Figure → String
  | seqRead => "Seq read (MB/s)"
  | seqWrite => "Seq write (MB/s)"
  | randRead => "Rand read (IOPS)"
  | randWrite => "Rand write (IOPS)"

/-- Where a summary has a figure. -/
def Figure.key : Figure → String
  | seqRead => "seqReadMBps"
  | seqWrite => "seqWriteMBps"
  | randRead => "randReadIops"
  | randWrite => "randWriteIops"

/-- A figure of a run. -/
def Figure.of (f : Figure) (r : BenchmarkRun) : Option Double :=
  match f with
  | seqRead => r.figures.seqRead
  | seqWrite => r.figures.seqWrite
  | randRead => r.figures.randRead
  | randWrite => r.figures.randWrite

theorem of_ofMembers (f : Figure) (members : Json.Members) :
    f.of (.ofMembers members) = Json.finiteField? f.key members := by
  cases f <;> rfl

theorem lines_figures (r : BenchmarkRun) : r.figures.lines =
    Figure.all.map fun f => Line.plain (f.label ++ ": " ++ Display.number (f.of r)) := rfl

theorem finiteField?_eq_some_iff (h : summary.AllFinite) {x : Double} :
    Json.finiteField? field (summary.members?.getD []) = some x ↔
      ∃ n, summary.Has field (.number n) ∧ n.toDouble = x := by
  simp only [Json.finiteField?, Option.filter_eq_some_iff, Option.map_eq_some_iff,
    Json.lookup_bind_eq_some_iff Json.number?_eq_some_iff]
  refine ⟨And.left, fun hx => ⟨hx, ?_⟩⟩
  obtain ⟨n, hn, rfl⟩ := hx
  cases h.of_has hn with
  | number _ hfinite => exact hfinite

/-- A figure is shown as its number if the summary has one, and as dashes if it
has none; the number is what is stored. -/
structure Shows (summary : Json) (field : String) (stored : Option Double) (text : String) :
    Prop where
  stored_iff : ∀ x, stored = some x ↔ ∃ n, summary.Has field (.number n) ∧ n.toDouble = x
  finite : ∀ x, stored = some x → x.isFinite = true
  number : ∀ n, summary.Has field (.number n) → text = Display.number (some n.toDouble)
  dashes_iff : text = "--" ↔ ¬ ∃ n, summary.Has field (.number n)

theorem isFinite_of_finiteField? {x : Double} (h : Json.finiteField? field members = some x) :
    x.isFinite = true :=
  (Option.filter_eq_some_iff.mp h).2

theorem shows_finiteField? (h : summary.AllFinite) :
    Shows summary field (Json.finiteField? field (summary.members?.getD []))
      (Display.number (Json.finiteField? field (summary.members?.getD []))) where
  stored_iff _ := finiteField?_eq_some_iff h
  finite _ := isFinite_of_finiteField?
  number n hn := by rw [(finiteField?_eq_some_iff h).mpr ⟨n, hn, rfl⟩]
  dashes_iff := by
    cases hx : Json.finiteField? field (summary.members?.getD []) with
    | none =>
        refine iff_of_true rfl ?_
        rintro ⟨n, hn⟩
        rw [(finiteField?_eq_some_iff h).mpr ⟨n, hn, rfl⟩] at hx
        exact absurd hx nofun
    | some x =>
        obtain ⟨n, hn, -⟩ := (finiteField?_eq_some_iff h).mp hx
        rw [Display.number, if_pos (isFinite_of_finiteField? hx)]
        exact iff_of_false (Display.finite_ne_unavailable x) (not_not_intro ⟨n, hn⟩)

/-! ## The run -/

/-- A payload announces a run and describes it in an object. -/
structure Announces (payload summary : Json) : Prop where
  available : payload.Has "available" (.boolean true)
  described : payload.Has "summary" summary
  object : ∃ members, summary = .object members

theorem announces_iff : Announces payload summary ↔
    (payload.get? "available").bind Json.boolean? = some true ∧
      ∃ members, (payload.get? "summary").bind Json.members? = some members ∧
        summary = .object members := by
  rw [Json.get?_eq_lookup, Json.get?_eq_lookup,
    Json.lookup_bind_eq_some_iff Json.boolean?_eq_some_iff]
  simp only [Json.lookup_bind_eq_some_iff Json.members?_eq_some_iff]
  constructor
  · rintro ⟨havailable, hdescribed, members, rfl⟩
    exact ⟨havailable, members, hdescribed, rfl⟩
  · rintro ⟨havailable, members, hdescribed, rfl⟩
    exact ⟨havailable, hdescribed, members, rfl⟩

theorem ofJson_of_announces (h : Announces payload summary) :
    ofJson payload = run (.ofMembers (summary.members?.getD [])) := by
  obtain ⟨havailable, members, hdescribed, rfl⟩ := announces_iff.mp h
  rw [ofJson, havailable, hdescribed]
  rfl

theorem ofJson_of_not_announces (h : ∀ summary, ¬ Announces payload summary) :
    ofJson payload = unavailable := by
  rw [ofJson]
  split
  · next members havailable hdescribed =>
      exact absurd (announces_iff.mpr ⟨havailable, members, hdescribed, rfl⟩) (h _)
  · rfl

/-! ## The panel -/

/-- The panel of a benchmark that has not been run. -/
def noRunLines : List Line :=
  [⟨"No benchmark run found yet.", .strong⟩, .plain "Seq read (MB/s): --",
    .plain "Seq write (MB/s): --", .plain "Rand read (IOPS): --", .plain "Rand write (IOPS): --",
    .muted "Run make benchmark to generate live results."]

/-- The panel of a run: each line, and what it tells. -/
def Told (summary : Json) (r : BenchmarkRun) (lines : List Line) : Prop :=
  ∃ (runId : String) (text : Figure → String) (metadata : String) (collected : List Line),
    OrElse (summary.Says "runId") "" runId ∧
    (∀ f : Figure, Shows summary f.key (f.of r) (text f)) ∧
    OrElse (summary.Speaks "metadataInfo") "No metadata benchmark info." metadata ∧
    IfSaid (summary.Speaks "collectedAt") (fun t => .muted ("Collected at " ++ t)) collected ∧
    lines = ⟨"Latest run: " ++ runId, .strong⟩ ::
      (Figure.all.map fun f => .plain (f.label ++ ": " ++ text f)) ++ .muted metadata :: collected

theorem told_ofMembers (h : summary.AllFinite) :
    Told summary (.ofMembers (summary.members?.getD []))
      (BenchmarkRun.lines (.ofMembers (summary.members?.getD []))) := by
  have hcollected : ∀ r : BenchmarkRun, r.collectedLines =
      (r.collectedAt.map fun t => Line.muted ("Collected at " ++ t)).toList := by
    intro r
    rw [BenchmarkRun.collectedLines]
    cases r.collectedAt <;> rfl
  refine ⟨_, fun f => Display.number (f.of (.ofMembers (summary.members?.getD []))), _, _,
    orElse_getD (fun _ => Json.textField?_eq_some_iff h) "", fun f => ?_,
    orElse_getD (fun _ => Json.spokenField?_eq_some_iff h) _,
    ifSaid_toList (fun _ => Json.spokenField?_eq_some_iff h) _, ?_⟩
  · change Shows summary f.key _ (Display.number (f.of _))
    rw [of_ofMembers]
    exact shows_finiteField? h
  · rw [BenchmarkRun.lines, hcollected, lines_figures]
    rfl

theorem lines_run_ne_noRunLines (r : BenchmarkRun) : r.lines ≠ noRunLines := by
  intro h
  have hheading := congrArg Line.text (List.cons.inj h).1
  have hfirst := congrArg (fun s => s.toList.head?) hheading
  simp at hfirst

theorem lines_eq_noRunLines_iff :
    lines (ofJson payload) = noRunLines ↔ ¬ ∃ summary, Announces payload summary := by
  constructor
  · rintro h ⟨summary, hsummary⟩
    rw [ofJson_of_announces hsummary] at h
    exact lines_run_ne_noRunLines _ h
  · intro h
    rw [ofJson_of_not_announces (not_exists.mp h)]
    rfl

/-- A figure comes of its own field and of no other. -/
theorem of_congr {f : Figure} {r r' : BenchmarkRun} {payload' summary' : Json}
    (h : Announces payload summary) (h' : Announces payload' summary')
    (hsame : ∀ v, summary.Has f.key v ↔ Json.Has summary' f.key v)
    (hr : ofJson payload = run r) (hr' : ofJson payload' = run r') : f.of r = f.of r' := by
  have hlookup : Json.lookup f.key (summary.members?.getD []) =
      Json.lookup f.key (summary'.members?.getD []) := by
    refine Option.ext fun v => ?_
    rw [Json.lookup_members_eq_some_iff, Json.lookup_members_eq_some_iff]
    exact hsame v
  rw [ofJson_of_announces h] at hr
  rw [ofJson_of_announces h'] at hr'
  rw [← Benchmark.run.inj hr, ← Benchmark.run.inj hr', of_ofMembers, of_ofMembers,
    Json.finiteField?, Json.finiteField?, hlookup]

/-- Of every JSON value comes either the panel without a run or a run, each
figure of which is the number at its own field or absent. -/
theorem benchmark_told :
    (∀ bs payload, Json.decode bs = .ok payload → payload.AllFinite) ∧
    ∀ payload : Json, payload.AllFinite →
      ((Panel.ready (ofJson payload)).lines lines = noRunLines ↔
        ¬ ∃ summary, Announces payload summary) ∧
      ∀ summary, Announces payload summary →
        ∃ r, ofJson payload = run r ∧
          Told summary r ((Panel.ready (ofJson payload)).lines lines) ∧
          ∀ payload' summary' r' (f : Figure), Announces payload' summary' →
            ofJson payload' = run r' → (∀ v, summary.Has f.key v ↔ summary'.Has f.key v) →
              f.of r = f.of r' := by
  refine ⟨fun _ _ => Json.allFinite_of_decode, fun payload hfinite => ⟨?_, ?_⟩⟩
  · exact lines_eq_noRunLines_iff
  intro summary h
  refine ⟨_, ofJson_of_announces h, ?_, ?_⟩
  · rw [ofJson_of_announces h]
    exact told_ofMembers (hfinite.of_has h.described)
  · intro payload' summary' r' f h' hr' hsame
    exact of_congr h h' hsame (ofJson_of_announces h) hr'

/-- A payload that announces a run with a summary. -/
def announcing (summary : Json) : Json :=
  .object [("available", .boolean true), ("summary", summary)]

theorem announces_announcing (members : Json.Members) :
    Announces (announcing (.object members)) (.object members) where
  available := by
    refine ⟨_, rfl, [], _, rfl, List.forall_mem_singleton.mpr ?_⟩
    change "summary" ≠ "available"
    decide
  described := ⟨_, rfl, [("available", .boolean true)], [], rfl, List.forall_mem_nil _⟩
  object := ⟨members, rfl⟩

/-- A summary with one figure, which is zero. -/
def zeroSummary : Json := .object [("seqReadMBps", .number (.natural 0))]

/-- The same summary with another figure in front. -/
def twoFigures : Json :=
  .object [("seqWriteMBps", .number (.natural 7)), ("seqReadMBps", .number (.natural 0))]

/-- A zero that is delivered is shown as one, whatever else is delivered. -/
theorem benchmark_told_of_zero :
    (announcing zeroSummary).AllFinite ∧
      lines (ofJson (announcing zeroSummary)) ≠ noRunLines ∧
      ∃ r r', ofJson (announcing zeroSummary) = run r ∧ ofJson (announcing twoFigures) = run r' ∧
        Told zeroSummary r (lines (ofJson (announcing zeroSummary))) ∧
        Figure.seqRead.of r = Figure.seqRead.of r' := by
  have hdecode : Json.decode
      (Text.bytes "\x7b\"available\":true,\"summary\":\x7b\"seqReadMBps\":0\x7d\x7d") =
        .ok (announcing zeroSummary) := by cbv
  have hfinite := benchmark_told.1 _ _ hdecode
  have hzero : Announces (announcing zeroSummary) zeroSummary := announces_announcing _
  have htwo : Announces (announcing twoFigures) twoFigures := announces_announcing _
  obtain ⟨hnone, hrun⟩ := benchmark_told.2 _ hfinite
  obtain ⟨r, hr, htold, hsame⟩ := hrun zeroSummary hzero
  refine ⟨hfinite, fun h => hnone.mp h ⟨_, hzero⟩, r, _, hr, ofJson_of_announces htwo, htold,
    hsame _ _ _ _ htwo (ofJson_of_announces htwo) fun v => ?_⟩
  rw [zeroSummary, twoFigures, Json.has_object_iff, Json.has_object_iff,
    Json.holds_cons (m := ("seqWriteMBps", _))]
  refine (or_iff_left ?_).symm
  rintro ⟨h, -⟩
  exact absurd (Prod.mk.inj h).1 (by decide)

end Dashboard.Benchmark
