import Dashboard.Snapshot

/-!
# The viewer

The viewer shows one snapshot and reacts to keys. It remembers how far the
timeline is scrolled, never past its last line, and whether it is to quit.
-/

namespace Dashboard

/-- The keys that can be pressed. -/
inductive Key where
  | char (c : Char)
  | escape
  | up
  | down
  /-- Any other key. -/
  | other
deriving DecidableEq, Repr

/-- What a key asks of others. -/
inductive Action where
  | none
  /-- Start an extra cycle. -/
  | refresh
deriving DecidableEq, Repr

/-- The state of the viewer. -/
structure Viewer where
  /-- The address of the backend. -/
  backend : String
  /-- The address of the metrics store. -/
  storeUrl : String
  grafanaUrl : String
  /-- What is shown, after the first refresh. -/
  snapshot : Option Snapshot
  /-- How many rows of the timeline are scrolled away. -/
  scroll : Nat
  quitting : Bool
deriving DecidableEq

namespace Viewer

/-- A viewer before the first refresh. -/
def initial (backend storeUrl grafanaUrl : String) : Viewer :=
  ⟨backend, storeUrl, grafanaUrl, none, 0, false⟩

/-- The lines of a snapshot's timeline panel. -/
def timelineLines (s : Snapshot) : List Line := s.timeline.lines Timeline.lines

/-- How far the timeline can be scrolled at all. -/
def scrollLimit : Nat := 65535

/-- How far the timeline of a snapshot can be scrolled: its last line stays. -/
def maxScroll (s : Snapshot) : Nat := min ((timelineLines s).length - 1) scrollLimit

/-- Shows another snapshot. -/
def display (v : Viewer) (s : Snapshot) : Viewer :=
  { v with snapshot := some s, scroll := min v.scroll (maxScroll s) }

/-- Scrolls one row down, unless the last line would go. -/
def scrollDown (v : Viewer) : Viewer :=
  if v.scroll < v.snapshot.elim 0 maxScroll then { v with scroll := v.scroll + 1 } else v

/-- Scrolls one row up. -/
def scrollUp (v : Viewer) : Viewer := { v with scroll := v.scroll - 1 }

/-- Reacts to a key. -/
def press (v : Viewer) (key : Key) : Viewer × Action :=
  match key with
  | .char 'q' | .escape => ({ v with quitting := true }, .none)
  | .char 'r' => (v, .refresh)
  | .char 'j' | .down => (v.scrollDown, .none)
  | .char 'k' | .up => (v.scrollUp, .none)
  | _ => (v, .none)

end Viewer

end Dashboard
