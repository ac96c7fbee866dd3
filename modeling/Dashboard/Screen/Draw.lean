import Dashboard.Calendar
import Dashboard.Report
import Dashboard.Screen.Canvas
import Dashboard.Screen.Wrap
import Dashboard.Viewer

/-!
# Drawing the viewer

From top to bottom the screen has a line of head, the cluster and the
benchmark side by side, the timeline and the metrics side by side, the links
and a line of help. Before the first refresh a notice stands in the middle
instead of the four panels.

The upper panels take some less than half of the screen, and give way where
the lower ones would get less than eight rows.
-/

namespace Dashboard.Screen

/-- Where the parts of the screen are. -/
structure Layout where
  header : Area
  upper : Area
  lower : Area
  links : Area
  help : Area
deriving DecidableEq, Repr

/-- The row in which the lower panels begin. -/
def lowerStart (height : Nat) : Nat := min (roundHalfUp (100 + 45 * height) 100) (height - 12)

/-- The layout of a screen. -/
def Layout.ofSize (width height : Nat) : Layout :=
  let start := lowerStart height
  { header := ⟨0, 0, width, 1⟩
    upper := ⟨0, 1, width, start - 1⟩
    lower := ⟨0, start, width, height - 4 - start⟩
    links := ⟨0, height - 4, width, 3⟩
    help := ⟨0, height - 1, width, 1⟩ }

/-- The left and the right half of an area. -/
def halves (a : Area) : Area × Area :=
  match a.columns 2 with
  | [left, right] => (left, right)
  | _ => (a, a)

section

variable (glyphs : Glyphs)

/-- The rows of some lines in a panel of a width. -/
def panelRows (trim : Bool) (width : Nat) (lines : List Line) : List Row :=
  lines.flatMap fun l =>
    (wrap trim width (glyphs.ofText l.text)).map fun row => row.map (·, toneStyle l.tone)

/-- The rows of a panel that are seen when the first ones are scrolled away. -/
def visibleRows (scroll height : Nat) (rows : List Row) : List Row :=
  (rows.drop scroll).take height

/-- A title with a space on either side. -/
def titleRow (title : String) : Row := glyphs.ofSpans [⟨" " ++ title ++ " ", .plain⟩]

/-- Draws a panel of lines. -/
def drawPanel (c : Canvas) (a : Area) (title : String) (lines : List Line) (scroll : Nat) :
    Canvas :=
  let inner := a.inner
  (c.block a (titleRow glyphs title)).rows inner
    (visibleRows scroll inner.height (panelRows glyphs false inner.width lines))

/-- The title of the timeline panel, with the number of events if there are
any. -/
def timelineTitle (s : Snapshot) : String :=
  match s.timeline with
  | .ready t =>
    if t.events.isEmpty then "Fault timeline"
    else "Fault timeline (" ++ toString t.events.length ++ ")"
  | .failed _ => "Fault timeline"

/-- Draws one gauge. -/
def drawGauge (c : Canvas) (a : Area) (label text : String) : Canvas :=
  (c.block a (titleRow glyphs label)).rows a.inner
    [glyphs.ofSpans [⟨text, { foreground := some (gaugeColor text), bold := true }⟩]]

/-- The two rows of gauges and the room for the hint. Three rows are enough
for a gauge; where there are only six in all, the second row of gauges gives
one up. -/
def metricsAreas (a : Area) : Area × Area × Area :=
  let first := min 3 a.height
  let second := min 3 (a.height - first - 1)
  (⟨a.x, a.y, a.width, first⟩, ⟨a.x, a.y + first, a.width, second⟩,
    ⟨a.x, a.y + first + second, a.width, a.height - first - second⟩)

/-- Draws the metrics panel. -/
def drawMetrics (c : Canvas) (a : Area) (m : Metrics) : Canvas :=
  let (first, second, rest) := metricsAreas a.inner
  let c := c.block a (titleRow glyphs "Live metrics")
  let gauge (c : Canvas) (a : Area) (g : Gauge) := drawGauge glyphs c a g.label (m.gaugeText g)
  let c := gauge c (halves first).1 .writeLatency
  let c := gauge c (halves first).2 .readThroughput
  let c := gauge c (halves second).1 .operations
  let c := gauge c (halves second).2 .lockContention
  c.rows rest (panelRows glyphs true rest.width [m.hint])

/-- Draws the four panels. -/
def drawSnapshot (c : Canvas) (layout : Layout) (s : Snapshot) (scroll : Nat) : Canvas :=
  let (cluster, benchmark) := halves layout.upper
  let (timeline, metrics) := halves layout.lower
  let c := drawPanel glyphs c cluster "Cluster" (s.status.lines ClusterStatus.lines) 0
  let c := drawPanel glyphs c benchmark "Benchmark" (s.benchmark.lines Benchmark.lines) 0
  let c := drawPanel glyphs c timeline (timelineTitle s) (Viewer.timelineLines s) scroll
  drawMetrics glyphs c metrics s.metrics

/-- Draws the notice that is shown before the first refresh. -/
def drawWaiting (c : Canvas) (backend : String) : Canvas :=
  let a := c.area.centered 50 20
  ((c.clear a).border a).rows a.inner
    [glyphs.ofSpans [⟨"Waiting for the first refresh...", .plain⟩],
      glyphs.ofSpans [⟨backend, .colored .darkGray⟩]]

/-- What the head says about the snapshot. -/
def refreshedText : Option Snapshot → String
  | some s => "cycle " ++ toString s.cycle ++ " at " ++ Calendar.timeText s.completedAt
  | none => "waiting for first refresh"

/-- The head of the screen. -/
def headerSpans (v : Viewer) : List Span :=
  [⟨" kube-pfs dashboard ", .badge .cyan⟩, ⟨"  " ++ v.backend ++ "  ", .plain⟩,
    ⟨refreshedText v.snapshot, .colored .darkGray⟩]

/-- The links, with some room after each. -/
def linkSpans (v : Viewer) : List Span :=
  (Report.linkLines v.storeUrl v.grafanaUrl).flatMap fun l =>
    [⟨l.text, .plain⟩, ⟨"    ", .plain⟩]

/-- The line of help. -/
def helpSpans : List Span :=
  [⟨" LIVE ", .badge .green⟩,
    ⟨" q:quit  r:refresh  j/k:scroll timeline ", .colored .darkGray⟩]

/-- Draws the viewer on a screen of a size. -/
def draw (v : Viewer) (width height : Nat) : Canvas :=
  let layout := Layout.ofSize width height
  let c := (Canvas.blank width height).rows layout.header [glyphs.ofSpans (headerSpans v)]
  let c :=
    match v.snapshot with
    | some s => drawSnapshot glyphs c layout s v.scroll
    | none => drawWaiting glyphs c v.backend
  let c := (c.block layout.links (titleRow glyphs "Links")).rows layout.links.inner
    [glyphs.ofSpans (linkSpans v)]
  c.rows layout.help [glyphs.ofSpans helpSpans]

end

end Dashboard.Screen
