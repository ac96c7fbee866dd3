import Dashboard.Display
import Dashboard.Panel.Gauge
import Dashboard.Panel.Line

/-!
# The metrics panel

The four queries of a refresh are one batch. Either a query failed, and then
the batch did; or every query was answered and none had a sample; or there
are samples, of which some may be missing. Only in the last case does the
panel show readings.
-/

namespace Dashboard

/-- The readings of the gauges, in their units. -/
abbrev Readings := PerGauge (Option Double)

/-- What became of the batch of queries. -/
inductive MetricsOutcome where
  | samples (readings : Readings)
  | noRecentSamples
  | failed (message : String)
deriving DecidableEq

/-- The metrics panel: the outcome, and the address of the metrics store. -/
structure Metrics where
  outcome : MetricsOutcome
  storeUrl : String
deriving DecidableEq

namespace MetricsOutcome

/-- The reading of a gauge from its raw sample; a conversion that leaves the
finite numbers leaves no reading. -/
def reading (g : Gauge) (sample : Option Double) : Option Double :=
  (sample.map g.convert).filter Double.isFinite

/-- The outcome of a batch in which every query was answered. -/
def ofSamples (samples : PerGauge (Option Double)) : MetricsOutcome :=
  if Gauge.all.all fun g => (samples.get g).isNone then noRecentSamples
  else .samples (PerGauge.ofFn fun g => reading g (samples.get g))

/-- The outcome of the answers to all queries. -/
def ofAnswers (answers : PerGauge Json) : MetricsOutcome :=
  ofSamples (PerGauge.ofFn fun g => Gauge.firstSample? (answers.get g))

/-- Whether the batch failed. -/
def isFailed : MetricsOutcome → Bool
  | failed _ => true
  | _ => false

end MetricsOutcome

namespace Metrics

/-- The readings that are shown. -/
def readings (m : Metrics) : Readings :=
  match m.outcome with
  | .samples r => r
  | _ => PerGauge.ofFn fun _ => none

/-- What the panel says about its source. -/
def hintText (m : Metrics) : String :=
  match m.outcome with
  | .samples _ => "Prometheus source: " ++ m.storeUrl
  | .noRecentSamples =>
    "Prometheus is reachable, but there are no recent samples yet. " ++
      "Run \"make seed-metrics N=20\" and refresh in 10-20 seconds."
  | .failed message =>
    "Prometheus query failed (" ++ m.storeUrl ++ "): " ++ message ++
      ". Port-forward the metrics store: " ++
      "kubectl -n kube-pfs-observability port-forward svc/kube-pfs-prometheus 9090:9090"

/-- The line on the source. -/
def hint (m : Metrics) : Line :=
  let tone : Tone :=
    match m.outcome with
    | .samples _ => .muted
    | .noRecentSamples => .warn
    | .failed _ => .bad
  ⟨m.hintText, tone⟩

/-- What a gauge shows. -/
def gaugeText (m : Metrics) (g : Gauge) : String :=
  Display.withUnit (m.readings.get g) g.unit

/-- The gauges with their labels and texts. -/
def values (m : Metrics) : List (String × String) :=
  Gauge.all.map fun g => (g.label, m.gaugeText g)

/-- The lines of the panel. -/
def lines (m : Metrics) : List Line :=
  (m.values.map fun (label, text) => Line.plain (label ++ ": " ++ text)) ++ [m.hint]

end Metrics

end Dashboard
