import Dashboard.Panel.Gauge

/-!
# What is asked of the backend

The backend is asked for its settings once, for three primary sources in
every cycle, and for the query of each gauge in every cycle. Each of these
has a path of its own.
-/

namespace Dashboard.Fetch

/-- The primary sources, in the order in which they are requested. -/
inductive Source where
  | status
  | faults
  | benchmark
deriving DecidableEq, Repr

/-- What can be asked of the backend. -/
inductive Endpoint where
  | settings
  | source (s : Source)
  | gauge (g : Gauge)
deriving DecidableEq, Repr

/-- All primary sources in their order. -/
def Source.all : List Source := [status, faults, benchmark]

/-- The path of a primary source. -/
def Source.path : Source → String
  | status => "/api/status"
  | faults => "/api/faults"
  | benchmark => "/api/benchmarks/latest"

/-- The path of a request. -/
def Endpoint.path : Endpoint → String
  | settings => "/api/demo/config"
  | source s => s.path
  | gauge g => g.path

/-- The requests of the first phase of a cycle. -/
def Endpoint.primary : List Endpoint := Source.all.map source

/-- The requests of the second phase of a cycle. -/
def Endpoint.gauges : List Endpoint := Gauge.all.map gauge

end Dashboard.Fetch
