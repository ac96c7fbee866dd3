import Dashboard.Panel.Benchmark
import Dashboard.Panel.Metrics
import Dashboard.Panel.Status
import Dashboard.Panel.Timeline

/-!
# Snapshots

A snapshot is what one refresh cycle found out, all panels together. It is
made whole and never mixed with another.
-/

namespace Dashboard

/-- The content of all panels after one cycle. -/
structure Snapshot where
  /-- The number of the cycle, from one on. -/
  cycle : Nat
  /-- When the cycle was complete, in seconds since the start of 1970. -/
  completedAt : Int
  status : Panel ClusterStatus
  timeline : Panel Timeline
  benchmark : Panel Benchmark
  metrics : Metrics
deriving DecidableEq

/-- Whether no source at all had data. -/
def Snapshot.allSourcesFailed (s : Snapshot) : Bool :=
  s.status.isFailed && s.timeline.isFailed && s.benchmark.isFailed && s.metrics.outcome.isFailed

end Dashboard
