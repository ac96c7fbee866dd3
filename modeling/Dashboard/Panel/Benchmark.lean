import Dashboard.Display
import Dashboard.Panel.Field
import Dashboard.Panel.Line

/-!
# The benchmark panel

The latest benchmark run has four figures, each of which may be missing. A
payload that announces no run, or announces one and does not describe it,
shows the panel of a benchmark that has not been run.
-/

namespace Dashboard

/-- The four figures of a run. -/
structure Figures where
  seqRead : Option Double
  seqWrite : Option Double
  randRead : Option Double
  randWrite : Option Double
deriving DecidableEq

/-- One benchmark run. -/
structure BenchmarkRun where
  runId : String
  figures : Figures
  metadata : Option String
  collectedAt : Option String
deriving DecidableEq

/-- The latest run, if there is one. -/
inductive Benchmark where
  | unavailable
  | run (r : BenchmarkRun)
deriving DecidableEq

/-- No figure at all. -/
def Figures.none : Figures := ⟨.none, .none, .none, .none⟩

/-- The lines of the figures, each under its label. -/
def Figures.lines (f : Figures) : List Line :=
  [("Seq read (MB/s)", f.seqRead), ("Seq write (MB/s)", f.seqWrite),
    ("Rand read (IOPS)", f.randRead), ("Rand write (IOPS)", f.randWrite)].map
    fun (label, value) => Line.plain (label ++ ": " ++ Display.number value)

namespace BenchmarkRun

/-- The run that an object describes. -/
def ofMembers (members : Json.Members) : BenchmarkRun where
  runId := Json.textField "runId" members
  figures :=
    { seqRead := Json.finiteField? "seqReadMBps" members
      seqWrite := Json.finiteField? "seqWriteMBps" members
      randRead := Json.finiteField? "randReadIops" members
      randWrite := Json.finiteField? "randWriteIops" members }
  metadata := Json.spokenField? "metadataInfo" members
  collectedAt := Json.spokenField? "collectedAt" members

/-- The line on the time of the run. -/
def collectedLines (r : BenchmarkRun) : List Line :=
  match r.collectedAt with
  | some t => [Line.muted ("Collected at " ++ t)]
  | none => []

/-- The lines of a run. -/
def lines (r : BenchmarkRun) : List Line :=
  ⟨"Latest run: " ++ r.runId, .strong⟩ :: r.figures.lines ++
    Line.muted (r.metadata.getD "No metadata benchmark info.") :: r.collectedLines

end BenchmarkRun

namespace Benchmark

/-- The latest run of a payload. -/
def ofJson (payload : Json) : Benchmark :=
  let available := (payload.get? "available").bind Json.boolean?
  match available, (payload.get? "summary").bind Json.members? with
  | some true, some summary => run (BenchmarkRun.ofMembers summary)
  | _, _ => unavailable

/-- The lines shown where there is no run. -/
def unavailableLines : List Line :=
  ⟨"No benchmark run found yet.", .strong⟩ :: Figures.none.lines ++
    [Line.muted "Run make benchmark to generate live results."]

/-- The lines of the panel. -/
def lines : Benchmark → List Line
  | unavailable => unavailableLines
  | run r => r.lines

end Benchmark

end Dashboard
