import Dashboard.Json.Value
import Dashboard.Number.Decimal
import Dashboard.Text.Blank
import Dashboard.Text.Percent

/-!
# The four gauges

Each gauge is one fixed query to the metrics store. The answer to a query is
a vector of series, of which the first sample counts: a number, or a text
that reads as one. A gauge shows its sample in a unit of its own.
-/

namespace Dashboard

/-- The gauges, in the order in which they are shown and queried. -/
inductive Gauge where
  | writeLatency
  | readThroughput
  | operations
  | lockContention
deriving DecidableEq, Repr

/-- One value for each gauge. -/
structure PerGauge (α : Type) where
  writeLatency : α
  readThroughput : α
  operations : α
  lockContention : α
deriving DecidableEq

namespace PerGauge

/-- The value of a gauge. -/
def get {α : Type} (p : PerGauge α) : Gauge → α
  | .writeLatency => p.writeLatency
  | .readThroughput => p.readThroughput
  | .operations => p.operations
  | .lockContention => p.lockContention

/-- The values that a function gives. -/
def ofFn {α : Type} (f : Gauge → α) : PerGauge α :=
  ⟨f .writeLatency, f .readThroughput, f .operations, f .lockContention⟩

@[simp] theorem get_ofFn {α : Type} (f : Gauge → α) (g : Gauge) : (ofFn f).get g = f g := by
  cases g <;> rfl

end PerGauge

namespace Gauge

/-- All gauges in their order. -/
def all : List Gauge := [writeLatency, readThroughput, operations, lockContention]

theorem mem_all (g : Gauge) : g ∈ all := by cases g <;> decide

/-- The query that the metrics store answers. -/
def query : Gauge → String
  | writeLatency =>
    "histogram_quantile(0.95, sum(rate(pfs_write_latency_seconds_bucket[5m])) by (le))"
  | readThroughput => "sum(rate(pfs_read_throughput_bytes[5m]))"
  | operations => "sum(rate(pfs_iops_total[5m]))"
  | lockContention =>
    "histogram_quantile(0.95, sum(rate(pfs_mds_lock_contention_seconds_bucket[5m])) by (le))"

/-- The label on the panel. -/
def label : Gauge → String
  | writeLatency => "Write p95"
  | readThroughput => "Read throughput"
  | operations => "IOPS"
  | lockContention => "MDS lock p95"

/-- The unit in which the gauge is shown. -/
def unit : Gauge → String
  | writeLatency | lockContention => "ms"
  | readThroughput => "MB/s"
  | operations => "ops/s"

/-- A sample in the unit of the gauge: seconds become milliseconds, and bytes
become binary megabytes. -/
def convert (g : Gauge) (raw : Double) : Double :=
  match g with
  | writeLatency | lockContention => raw.mul (Double.ofNat 1000)
  | readThroughput => raw.div (Double.ofNat (1024 * 1024))
  | operations => raw

/-- The path under which the backend passes a query on. -/
def queryPath (expr : String) : String :=
  "/api/prometheus?expr=" ++ String.ofList (Text.Percent.encode expr.toList)

/-- The path of the gauge's query. -/
def path (g : Gauge) : String := queryPath g.query

/-- The number of a sample: a number itself, or a trimmed text that reads as
one. -/
def sampleNumber? : Json → Option Double
  | .string s => Number.Decimal.read (Text.trim s).toList
  | .number n => some n.toDouble
  | _ => none

/-- The first sample of an answer, if it is a finite number. -/
def firstSample? (answer : Json) : Option Double := do
  let data ← answer.get? "data"
  let result ← data.get? "result"
  let first ← (← result.items?)[0]?
  let value ← first.get? "value"
  let raw ← (← value.items?)[1]?
  (sampleNumber? raw).filter Double.isFinite

end Gauge

end Dashboard
