import Dashboard.Proofs.Number.Display
import Dashboard.Proofs.Text.Pieces
import Dashboard.Report

/-!
# The lines of the report

The report puts texts under one another. Most of a text is the dashboard's
own wording, a number or a date, none of which has a line break. The rest are
strings that arrived in a payload, in a message or in the settings and are
shown as they came.

For each panel `verbatim` lists those strings, and `oneLine_lines` says that
the panel's lines have no line break exactly when these strings have none. Put
together, the report comes apart into the lines that were put into it exactly
when no such string has a line break (`faithful_iff`).
-/

namespace Dashboard

open Text (OneLine oneLine_append oneLine_ofList oneLine_literal oneLine_label
  oneLine_intercalate splitLines)

/-! ## Texts without line breaks -/

namespace Display

theorem oneLine_unavailable : OneLine unavailable := oneLine_literal (by decide)

theorem oneLine_finite (x : Double) : OneLine (finite x) := by
  rw [finite, oneLine_ofList]
  exact not_mem_fixed _ _ (by rfl) (by decide)

theorem oneLine_number (v : Option Double) : OneLine (number v) := by
  cases v with
  | none => exact oneLine_unavailable
  | some x =>
      rw [number]
      split
      · exact oneLine_finite x
      · exact oneLine_unavailable

theorem oneLine_withUnit {unit : String} (h : OneLine unit) (v : Option Double) :
    OneLine (withUnit v unit) := by
  cases v with
  | none => exact oneLine_unavailable
  | some x =>
      have hspace : OneLine " " := oneLine_literal (by decide)
      rw [withUnit]
      split
      · rw [oneLine_append, oneLine_append]
        exact ⟨⟨oneLine_finite x, hspace⟩, h⟩
      · exact oneLine_unavailable

end Display

theorem oneLine_toString (n : Nat) : OneLine (toString n) := by
  have hdigits : toString n = String.ofList (Nat.toDigits 10 n) := rfl
  rw [hdigits, oneLine_ofList]
  intro h
  exact absurd (Nat.isDigit_of_mem_toDigits (by decide) (by decide) h) (by decide)

namespace Calendar

theorem oneLine_padded (width n : Nat) : OneLine (padded width n) := by
  rw [padded, oneLine_ofList, List.mem_append, not_or, List.mem_replicate]
  exact ⟨fun h => absurd h.2 (by decide), Text.not_mem_decimal (by rfl)⟩

theorem oneLine_yearText (year : Int) : OneLine (yearText year) := by
  cases year with
  | ofNat y =>
      rw [yearText]
      split
      · exact oneLine_padded 4 y
      · exact oneLine_append.mpr ⟨oneLine_literal (by decide), oneLine_padded 4 y⟩
  | negSucc y => exact oneLine_append.mpr ⟨oneLine_literal (by decide), oneLine_padded 4 (y + 1)⟩

theorem oneLine_momentText (moment : Int) : OneLine (momentText moment) := by
  have hdash : OneLine "-" := oneLine_literal (by decide)
  have hcolon : OneLine ":" := oneLine_literal (by decide)
  have hspace : OneLine " " := oneLine_literal (by decide)
  simp only [momentText, timeText, oneLine_append, oneLine_yearText, oneLine_padded, hdash, hcolon,
    hspace, and_true]

end Calendar

/-! ## What the panels show as it came -/

namespace ClusterStatus

/-- The strings that the cluster panel shows as they came. -/
def verbatim (s : ClusterStatus) : List String :=
  s.health :: s.error.toList ++ s.components.flatMap (fun (name, status) => [name, status]) ++
    s.phases.map Prod.fst ++ s.generatedAt.toList

variable (s : ClusterStatus)

theorem oneLine_noticeLines :
    (∀ l ∈ s.noticeLines, OneLine l.text) ↔ ∀ t ∈ s.error.toList, OneLine t := by
  have hlabel : OneLine "Status error: " := oneLine_literal (by decide)
  have hmuted : OneLine (Line.muted "No component status available yet.").text :=
    oneLine_literal (by decide)
  unfold noticeLines
  cases h : s.error with
  | some error => simp [oneLine_label hlabel]
  | none => dsimp only; split <;> simp [hmuted]

theorem oneLine_phaseLines :
    (∀ l ∈ s.phaseLines, OneLine l.text) ↔ ∀ t ∈ s.phases.map Prod.fst, OneLine t := by
  have hcomma : OneLine ", " := oneLine_literal (by decide)
  have hspace : OneLine " " := oneLine_literal (by decide)
  have hlabel : OneLine "Pods: " := oneLine_literal (by decide)
  unfold phaseLines
  cases s.phases with
  | nil => simp
  | cons p ps =>
      simp only [List.isEmpty_cons, Bool.false_eq_true, if_false, List.forall_mem_singleton,
        Line.muted, oneLine_append, oneLine_intercalate hcomma, List.forall_mem_map,
        oneLine_toString, hspace, hlabel, and_true, true_and]

theorem oneLine_generatedLines :
    (∀ l ∈ s.generatedLines, OneLine l.text) ↔ ∀ t ∈ s.generatedAt.toList, OneLine t := by
  have hlabel : OneLine "Generated at " := oneLine_literal (by decide)
  unfold generatedLines
  cases s.generatedAt <;> simp [Line.muted, oneLine_label hlabel]

theorem oneLine_componentLines :
    (∀ l ∈ s.components.map fun (name, status) => Line.plain (name ++ ": " ++ status),
      OneLine l.text) ↔
      ∀ t ∈ s.components.flatMap (fun (name, status) => [name, status]), OneLine t := by
  have hcolon : OneLine ": " := oneLine_literal (by decide)
  rw [List.forall_mem_map, List.forall_mem_flatMap]
  refine forall₂_congr fun (name, status) _ => ?_
  simp only [Line.plain, oneLine_append, hcolon, and_true, List.forall_mem_cons]
  simp

theorem oneLine_lines :
    (∀ l ∈ s.lines, OneLine l.text) ↔ ∀ t ∈ s.verbatim, OneLine t := by
  have hconnection : OneLine s.connectionLine.text := by
    unfold connectionLine
    split <;> exact oneLine_literal (by decide)
  have hlabel : OneLine "Observability: " := oneLine_literal (by decide)
  have hhealth : OneLine (Line.plain ("Observability: " ++ s.health)).text ↔ OneLine s.health := by
    rw [Line.plain, oneLine_label hlabel]
  simp only [lines, verbatim, List.forall_mem_append, List.forall_mem_cons, List.cons_append,
    List.nil_append, oneLine_noticeLines, oneLine_componentLines, oneLine_phaseLines,
    oneLine_generatedLines, hhealth, hconnection, true_and]

end ClusterStatus

namespace FaultEvent

def verbatim (e : FaultEvent) : List String :=
  [e.action, e.status, e.timestamp] ++ e.detail.toList

theorem oneLine_lines (e : FaultEvent) :
    (∀ l ∈ e.lines, OneLine l.text) ↔ ∀ t ∈ e.verbatim, OneLine t := by
  have hopen : OneLine " [" := oneLine_literal (by decide)
  have hclose : OneLine "]" := oneLine_literal (by decide)
  have hindent : OneLine "  " := oneLine_literal (by decide)
  cases h : e.detail <;>
    simp [lines, verbatim, Line.muted, h, oneLine_append, hopen, hclose, hindent, and_assoc]

end FaultEvent

namespace Timeline

def verbatim (t : Timeline) : List String := t.events.flatMap FaultEvent.verbatim

theorem oneLine_lines (t : Timeline) :
    (∀ l ∈ t.lines, OneLine l.text) ↔ ∀ u ∈ t.verbatim, OneLine u := by
  have hmuted : OneLine (Line.muted emptyText).text := oneLine_literal (by decide)
  unfold lines verbatim
  cases h : t.events with
  | nil => simp [hmuted]
  | cons e es =>
      simp only [newestFirst, h, List.isEmpty_cons, Bool.false_eq_true, if_false,
        List.forall_mem_flatMap, FaultEvent.oneLine_lines, List.mem_reverse]

end Timeline

namespace Benchmark

def verbatim : Benchmark → List String
  | unavailable => []
  | run r => r.runId :: r.metadata.toList ++ r.collectedAt.toList

theorem oneLine_figures (f : Figures) : ∀ l ∈ f.lines, OneLine l.text := by
  have hcolon : OneLine ": " := oneLine_literal (by decide)
  simp only [Figures.lines, List.map_cons, List.map_nil, List.forall_mem_cons, Line.plain,
    oneLine_append, Display.oneLine_number, hcolon, and_true]
  exact ⟨oneLine_literal (by decide), oneLine_literal (by decide), oneLine_literal (by decide),
    oneLine_literal (by decide), by simp⟩

theorem oneLine_lines (b : Benchmark) :
    (∀ l ∈ b.lines, OneLine l.text) ↔ ∀ t ∈ b.verbatim, OneLine t := by
  cases b with
  | unavailable =>
      refine iff_of_true ?_ (by simp [verbatim])
      simp only [lines, unavailableLines, List.cons_append, List.forall_mem_cons,
        List.forall_mem_append]
      exact ⟨oneLine_literal (by decide), oneLine_figures _, oneLine_literal (by decide), by simp⟩
  | run r =>
      have hmetadata : OneLine (r.metadata.getD "No metadata benchmark info.") ↔
          ∀ t ∈ r.metadata.toList, OneLine t := by
        have hdefault : OneLine "No metadata benchmark info." := oneLine_literal (by decide)
        cases r.metadata <;> simp [hdefault]
      have hcollected : (∀ l ∈ r.collectedLines, OneLine l.text) ↔
          ∀ t ∈ r.collectedAt.toList, OneLine t := by
        have hlabel : OneLine "Collected at " := oneLine_literal (by decide)
        unfold BenchmarkRun.collectedLines
        cases r.collectedAt <;> simp [Line.muted, oneLine_label hlabel]
      have hfigures := oneLine_figures r.figures
      have hlabel : OneLine "Latest run: " := oneLine_literal (by decide)
      simp only [lines, BenchmarkRun.lines, verbatim, List.cons_append, List.forall_mem_cons,
        List.forall_mem_append, oneLine_append, hlabel, hcollected, Line.muted, hmetadata,
        true_and]
      simp only [iff_true_intro hfigures, true_and]

end Benchmark

namespace Metrics

def verbatim (m : Metrics) : List String :=
  match m.outcome with
  | .samples _ => [m.storeUrl]
  | .noRecentSamples => []
  | .failed message => [m.storeUrl, message]

theorem oneLine_value (m : Metrics) (g : Gauge) : OneLine (g.label ++ ": " ++ m.gaugeText g) := by
  have hunit : OneLine g.unit := by cases g <;> exact oneLine_literal (by decide)
  rw [oneLine_append]
  refine ⟨?_, Display.oneLine_withUnit hunit _⟩
  cases g <;> exact oneLine_append.mpr ⟨oneLine_literal (by decide), oneLine_literal (by decide)⟩

theorem oneLine_hintText (m : Metrics) : OneLine m.hintText ↔ ∀ t ∈ m.verbatim, OneLine t := by
  have hsource : OneLine "Prometheus source: " := oneLine_literal (by decide)
  have hempty : OneLine "Prometheus is reachable, but there are no recent samples yet. " :=
    oneLine_literal (by decide)
  have hseed : OneLine "Run \"make seed-metrics N=20\" and refresh in 10-20 seconds." :=
    oneLine_literal (by decide)
  have hfailed : OneLine "Prometheus query failed (" := oneLine_literal (by decide)
  have hcolon : OneLine "): " := oneLine_literal (by decide)
  have hforward : OneLine ". Port-forward the metrics store: " := oneLine_literal (by decide)
  have hcommand : OneLine
      "kubectl -n kube-pfs-observability port-forward svc/kube-pfs-prometheus 9090:9090" :=
    oneLine_literal (by decide)
  unfold hintText verbatim
  cases m.outcome with
  | samples readings => simp [oneLine_label hsource]
  | noRecentSamples => exact iff_of_true (oneLine_append.mpr ⟨hempty, hseed⟩) (by simp)
  | failed message => simp [oneLine_append, hfailed, hcolon, hforward, hcommand]

theorem oneLine_lines (m : Metrics) :
    (∀ l ∈ m.lines, OneLine l.text) ↔ ∀ t ∈ m.verbatim, OneLine t := by
  have hvalues : ∀ l ∈ m.values.map fun (label, text) => Line.plain (label ++ ": " ++ text),
      OneLine l.text := by
    rw [values, List.map_map, List.forall_mem_map]
    exact fun g _ => m.oneLine_value g
  rw [lines, List.forall_mem_append, and_iff_right hvalues, ← oneLine_hintText]
  simp [hint]

end Metrics

namespace Panel

variable {α : Type} {contentLines : α → List Line} {contentVerbatim : α → List String}

/-- The strings that a panel shows as they came, given those of its content. -/
def verbatim (contentVerbatim : α → List String) : Panel α → List String
  | ready a => contentVerbatim a
  | failed message => [message]

theorem oneLine_lines (h : ∀ a, (∀ l ∈ contentLines a, OneLine l.text) ↔
      ∀ t ∈ contentVerbatim a, OneLine t) (p : Panel α) :
    (∀ l ∈ p.lines contentLines, OneLine l.text) ↔ ∀ t ∈ p.verbatim contentVerbatim, OneLine t := by
  cases p with
  | ready a => exact h a
  | failed message => simp [lines, verbatim]

end Panel

/-! ## The report, line by line -/

namespace Report

/-- The strings that the report shows as they came. -/
def verbatim (s : Snapshot) (storeUrl grafanaUrl : String) : List String :=
  s.status.verbatim ClusterStatus.verbatim ++ s.timeline.verbatim Timeline.verbatim ++
    s.benchmark.verbatim Benchmark.verbatim ++ s.metrics.verbatim ++ [storeUrl, grafanaUrl]

/-- At its line breaks the report comes apart into the heading and, for each
section, an empty line, the title and one line for every line of the panel,
each as the panel has it. Nothing comes after the last line break. -/
def Faithful (s : Snapshot) (storeUrl grafanaUrl : String) : Prop :=
  splitLines (render s storeUrl grafanaUrl) =
    heading s :: (sections s storeUrl grafanaUrl).flatMap (fun sec =>
      "" :: ("== " ++ sec.title ++ " ==") :: sec.lines.map Line.text) ++ [""]

variable (s : Snapshot) (storeUrl grafanaUrl : String)

theorem oneLine_heading : OneLine (heading s) := by
  have hopen : OneLine "kube-pfs dashboard (cycle " := oneLine_literal (by decide)
  have hcomma : OneLine ", " := oneLine_literal (by decide)
  have hclose : OneLine " UTC)" := oneLine_literal (by decide)
  unfold heading
  simp only [oneLine_append]
  exact ⟨⟨⟨⟨hopen, oneLine_toString s.cycle⟩, hcomma⟩,
    Calendar.oneLine_momentText s.completedAt⟩, hclose⟩

theorem oneLine_titles :
    ∀ sec ∈ sections s storeUrl grafanaUrl, OneLine ("== " ++ sec.title ++ " ==") := by
  intro sec hsec
  have htitle : sec.title ∈ ["Cluster", "Fault timeline", "Benchmark", "Live metrics", "Links"] :=
    List.mem_map_of_mem (f := Section.title) hsec
  have hopen : OneLine "== " := oneLine_literal (by decide)
  have hclose : OneLine " ==" := oneLine_literal (by decide)
  have hmiddle : OneLine sec.title := by
    simp only [List.mem_cons, List.not_mem_nil, or_false] at htitle
    rcases htitle with h | h | h | h | h <;> rw [h] <;> exact oneLine_literal (by decide)
  exact oneLine_append.mpr ⟨oneLine_append.mpr ⟨hopen, hmiddle⟩, hclose⟩

theorem oneLine_linkLines :
    (∀ l ∈ linkLines storeUrl grafanaUrl, OneLine l.text) ↔
      ∀ t ∈ [storeUrl, grafanaUrl], OneLine t := by
  have hstore : OneLine "Prometheus: " := oneLine_literal (by decide)
  have hgrafana : OneLine "Grafana: " := oneLine_literal (by decide)
  simp [linkLines, Line.plain, oneLine_label hstore, oneLine_label hgrafana]

theorem oneLine_sections :
    (∀ sec ∈ sections s storeUrl grafanaUrl, ∀ l ∈ sec.lines, OneLine l.text) ↔
      ∀ t ∈ verbatim s storeUrl grafanaUrl, OneLine t := by
  simp only [sections, verbatim, List.forall_mem_cons, List.forall_mem_append, oneLine_linkLines,
    Panel.oneLine_lines ClusterStatus.oneLine_lines, Panel.oneLine_lines Timeline.oneLine_lines,
    Panel.oneLine_lines Benchmark.oneLine_lines, Metrics.oneLine_lines, and_assoc]
  simp

theorem oneLine_texts :
    (∀ t ∈ texts s storeUrl grafanaUrl, OneLine t) ↔
      ∀ t ∈ verbatim s storeUrl grafanaUrl, OneLine t := by
  have hempty : OneLine "" := oneLine_literal (by decide)
  rw [texts, List.forall_mem_cons, and_iff_right (oneLine_heading s), List.forall_mem_flatMap,
    ← oneLine_sections]
  refine forall₂_congr fun sec hsec => ?_
  simp only [Section.texts, List.forall_mem_cons, List.forall_mem_map,
    oneLine_titles s storeUrl grafanaUrl sec hsec, hempty, true_and]

/-- Each text stands where it was put, as the lines that it has itself. -/
theorem splitLines_render :
    splitLines (render s storeUrl grafanaUrl) =
      heading s :: (sections s storeUrl grafanaUrl).flatMap (fun sec =>
        "" :: ("== " ++ sec.title ++ " ==") :: sec.lines.flatMap fun l => splitLines l.text) ++
      [""] := by
  have hsection : ∀ sec ∈ sections s storeUrl grafanaUrl, sec.texts.flatMap splitLines =
      "" :: ("== " ++ sec.title ++ " ==") :: sec.lines.flatMap fun l => splitLines l.text := by
    intro sec hsec
    rw [Section.texts, List.flatMap_cons, List.flatMap_cons, List.flatMap_map,
      Text.splitLines_of_oneLine (oneLine_titles s storeUrl grafanaUrl sec hsec)]
    rfl
  rw [render, Text.splitLines_join, texts, List.flatMap_cons,
    Text.splitLines_of_oneLine (oneLine_heading s), List.flatMap_assoc,
    List.flatMap_congr hsection]
  rfl

theorem faithful_iff :
    Faithful s storeUrl grafanaUrl ↔ ∀ t ∈ verbatim s storeUrl grafanaUrl, OneLine t := by
  rw [← oneLine_texts, ← Text.flatMap_splitLines_eq_iff, ← List.append_left_inj [""],
    ← Text.splitLines_join]
  rfl

/-- The five sections come in their order, and a line of a panel gives the
lines that its text has: one, unless there are line breaks in it, and one more
for each of those. So the report is faithful exactly when none of the strings
that it shows as they came has a line break. -/
theorem report_lines :
    (sections s storeUrl grafanaUrl).map (fun sec => (sec.title, sec.lines)) =
      [("Cluster", s.status.lines ClusterStatus.lines),
        ("Fault timeline", s.timeline.lines Timeline.lines),
        ("Benchmark", s.benchmark.lines Benchmark.lines),
        ("Live metrics", s.metrics.lines),
        ("Links", linkLines storeUrl grafanaUrl)] ∧
    splitLines (render s storeUrl grafanaUrl) =
      heading s :: (sections s storeUrl grafanaUrl).flatMap (fun sec =>
        "" :: ("== " ++ sec.title ++ " ==") :: sec.lines.flatMap fun l => splitLines l.text) ++
      [""] ∧
    (∀ t, (splitLines t).length = t.toList.count '\n' + 1 ∧ (splitLines t = [t] ↔ OneLine t)) ∧
    (Faithful s storeUrl grafanaUrl ↔ ∀ t ∈ verbatim s storeUrl grafanaUrl, OneLine t) :=
  ⟨rfl, splitLines_render s storeUrl grafanaUrl,
    fun t => ⟨Text.length_splitLines t, Text.splitLines_eq_singleton_iff⟩,
    faithful_iff s storeUrl grafanaUrl⟩

/-- The name of a component opens a section of its own. -/
theorem not_faithful_of_forgedSection :
    ¬ Faithful
      { cycle := 1
        completedAt := 1714557600
        status := .ready (ClusterStatus.ofJson (.object [("components",
          .object [("ost\n\n== Links ==\nGrafana", .string "http://elsewhere")])]))
        timeline := .ready (Timeline.ofJson (.object []))
        benchmark := .ready (Benchmark.ofJson (.object []))
        metrics := ⟨.noRecentSamples, "http://prom:9090"⟩ }
      "http://prom:9090" "http://127.0.0.1:3000" := by
  have hbroken : ¬ OneLine "ost\n\n== Links ==\nGrafana" := by simp [OneLine]
  rw [faithful_iff]
  intro h
  refine hbroken (h _ ?_)
  simp [verbatim, Panel.verbatim, ClusterStatus.verbatim, ClusterStatus.ofJson,
    ClusterStatus.ofMembers, ClusterStatus.entriesOf, Json.members?, Json.lookup, Json.entries,
    Json.keepLast, Json.scalarText?]

end Report

end Dashboard
