import Dashboard.Calendar
import Dashboard.Snapshot

/-!
# The report

A snapshot as plain text: a heading, then a section for each panel, an empty
line and a title before its lines.
-/

namespace Dashboard.Report

/-- A titled list of lines. -/
structure Section where
  title : String
  lines : List Line

/-- The line that heads the report. -/
def heading (s : Snapshot) : String :=
  "kube-pfs dashboard (cycle " ++ toString s.cycle ++ ", " ++ Calendar.momentText s.completedAt ++
    " UTC)"

/-- The lines with the addresses of the metrics store and of its dashboards. -/
def linkLines (storeUrl grafanaUrl : String) : List Line :=
  [Line.plain ("Prometheus: " ++ storeUrl), Line.plain ("Grafana: " ++ grafanaUrl)]

/-- The sections of the report. -/
def sections (s : Snapshot) (storeUrl grafanaUrl : String) : List Section :=
  [⟨"Cluster", s.status.lines ClusterStatus.lines⟩,
    ⟨"Fault timeline", s.timeline.lines Timeline.lines⟩,
    ⟨"Benchmark", s.benchmark.lines Benchmark.lines⟩,
    ⟨"Live metrics", s.metrics.lines⟩,
    ⟨"Links", linkLines storeUrl grafanaUrl⟩]

/-- The texts that a section puts under one another. -/
def Section.texts (sec : Section) : List String :=
  "" :: ("== " ++ sec.title ++ " ==") :: sec.lines.map Line.text

/-- The texts that the report puts under one another. -/
def texts (s : Snapshot) (storeUrl grafanaUrl : String) : List String :=
  heading s :: (sections s storeUrl grafanaUrl).flatMap Section.texts

/-- The report as one text, every line with its end. -/
def render (s : Snapshot) (storeUrl grafanaUrl : String) : String :=
  String.join ((texts s storeUrl grafanaUrl).map (· ++ "\n"))

end Dashboard.Report
