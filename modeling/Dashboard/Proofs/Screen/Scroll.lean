import Dashboard.Proofs.Screen.Wrap
import Dashboard.Screen.Draw

/-!
# Scrolling the timeline

The timeline is a list of lines, and the panel wraps them into rows. A press
of `j` moves the panel down by one row, as far as the offset `maxScroll`. That
one is found from the lines and not from the rows, and it ends at 65535. Every
row before it and within a panel's height after it is seen on the way, and no
other one is (`exists_shows_iff`).

So a timeline is read to its end exactly if it has no more rows than that
(`timeline_read`). It has no more if none of its lines is wrapped, unless there
are more lines than the offset can count. Where lines are wrapped, rows that the
panel could show may lie beyond the greatest offset, and are never seen
(`not_shows_end`).
-/

namespace Dashboard.Viewer

open Screen (FitsRow Glyphs Row panelRows singleCells visibleRows wrap)

variable {v : Viewer} {s : Snapshot} {t : Timeline} {glyphs : Glyphs} {width height n i : Nat}

/-! ## The offset -/

/-- The viewer at another offset of the timeline. -/
def scrolledTo (v : Viewer) (offset : Nat) : Viewer := { v with scroll := offset }

@[simp] theorem snapshot_scrolledTo (v : Viewer) (offset : Nat) :
    (v.scrolledTo offset).snapshot = v.snapshot := rfl

@[simp] theorem scroll_scrolledTo (v : Viewer) (offset : Nat) :
    (v.scrolledTo offset).scroll = offset := rfl

@[simp] theorem scrolledTo_scrolledTo (v : Viewer) (offset other : Nat) :
    (v.scrolledTo offset).scrolledTo other = v.scrolledTo other := rfl

/-- The viewer after some keys, one after the other. -/
def pressed (v : Viewer) (keys : List Key) : Viewer := keys.foldl (fun v key => (v.press key).1) v

/-- The viewer after the key that scrolls down was pressed a number of times. -/
def scrolled (v : Viewer) (n : Nat) : Viewer := v.pressed (List.replicate n (.char 'j'))

theorem scrolled_succ (v : Viewer) (n : Nat) :
    v.scrolled (n + 1) = ((v.scrolled n).press (.char 'j')).1 := by
  rw [scrolled, scrolled, pressed, pressed, List.replicate_succ', List.foldl_append]
  rfl

/-- The greatest offset, while nothing is shown none but the first. -/
def lastOffset (v : Viewer) : Nat := v.snapshot.elim 0 maxScroll

theorem lastOffset_of_snapshot (hsnapshot : v.snapshot = some s) :
    v.lastOffset = maxScroll s := by
  rw [lastOffset, hsnapshot]
  rfl

theorem scrollDown_eq (h : v.scroll ≤ v.lastOffset) :
    v.scrollDown = v.scrolledTo (min (v.scroll + 1) v.lastOffset) := by
  have hdown : v.scrollDown =
      if v.scroll < v.lastOffset then v.scrolledTo (v.scroll + 1) else v := rfl
  rw [hdown]
  by_cases hlt : v.scroll < v.lastOffset
  · rw [if_pos hlt, Nat.min_eq_left hlt]
  · have hmin : min (v.scroll + 1) v.lastOffset = v.scroll := by omega
    rw [if_neg hlt, hmin]
    rfl

theorem press_j (hsnapshot : v.snapshot = some s) (hscroll : v.scroll ≤ maxScroll s) :
    (v.press (.char 'j')).1 = v.scrolledTo (min (v.scroll + 1) (maxScroll s)) := by
  rw [← lastOffset_of_snapshot hsnapshot] at hscroll ⊢
  exact scrollDown_eq hscroll

/-- Presses move the panel down row by row up to the greatest offset. -/
theorem scrolled_eq (hsnapshot : v.snapshot = some s) (hscroll : v.scroll ≤ maxScroll s) (n : Nat) :
    v.scrolled n = v.scrolledTo (min (v.scroll + n) (maxScroll s)) := by
  induction n with
  | zero =>
      have hmin : min (v.scroll + 0) (maxScroll s) = v.scroll := Nat.min_eq_left hscroll
      rw [hmin]
      rfl
  | succ n ih =>
      rw [scrolled_succ, ih, press_j (by simpa using hsnapshot) (Nat.min_le_right _ _),
        scrolledTo_scrolledTo, scroll_scrolledTo]
      congr 1
      omega

/-! ## The rows -/

/-- The rows that the timeline of a snapshot takes in a panel of a width. -/
def timelineRows (glyphs : Glyphs) (s : Snapshot) (width : Nat) : List Row :=
  panelRows glyphs false width (timelineLines s)

/-- A row of the timeline, by its number, is among those that are drawn in its
panel (`drawPanel_timelineRows`). -/
def Shows (v : Viewer) (glyphs : Glyphs) (width height i : Nat) : Prop :=
  ∃ s j row, v.snapshot = some s ∧ i = v.scroll + j ∧
    (timelineRows glyphs s width)[i]? = some row ∧
    (visibleRows v.scroll height (timelineRows glyphs s width))[j]? = some row

theorem drawPanel_timelineRows (glyphs : Glyphs) (v : Viewer) (c : Screen.Canvas)
    (a : Screen.Area) (title : String) :
    Screen.drawPanel glyphs c a title (timelineLines s) v.scroll =
      (c.block a (Screen.titleRow glyphs title)).rows a.inner
        (visibleRows v.scroll a.inner.height (timelineRows glyphs s a.inner.width)) :=
  rfl

theorem getElem?_visibleRows (scroll height : Nat) (rows : List Row) (j : Nat) :
    (visibleRows scroll height rows)[j]? = if j < height then rows[scroll + j]? else none := by
  rw [visibleRows, List.getElem?_take, List.getElem?_drop]

theorem shows_iff (hsnapshot : v.snapshot = some s) :
    v.Shows glyphs width height i ↔
      i < (timelineRows glyphs s width).length ∧ v.scroll ≤ i ∧ i < v.scroll + height := by
  constructor
  · rintro ⟨s', j, row, hs', rfl, hrow, hseen⟩
    obtain rfl : s' = s := Option.some.inj (hs'.symm.trans hsnapshot)
    rw [getElem?_visibleRows] at hseen
    obtain ⟨hbound, -⟩ := List.getElem?_eq_some_iff.mp hrow
    split at hseen
    · exact ⟨hbound, by omega, by omega⟩
    · cases hseen
  · rintro ⟨hbound, hle, hlt⟩
    obtain ⟨j, rfl⟩ := Nat.exists_eq_add_of_le hle
    have hrow := List.getElem?_eq_getElem hbound
    refine ⟨s, j, _, hsnapshot, rfl, hrow, ?_⟩
    rw [getElem?_visibleRows, if_pos (by omega), hrow]

theorem shows_scrolled_iff (hsnapshot : v.snapshot = some s) (hstart : v.scroll = 0) :
    (v.scrolled n).Shows glyphs width height i ↔
      i < (timelineRows glyphs s width).length ∧ min n (maxScroll s) ≤ i ∧
        i < min n (maxScroll s) + height := by
  rw [scrolled_eq hsnapshot (by omega) n, shows_iff (by simpa using hsnapshot), scroll_scrolledTo,
    hstart, Nat.zero_add]

/-- The rows that are seen on the way are those before the greatest offset and
those within the panel's height after it. -/
theorem exists_shows_iff (hsnapshot : v.snapshot = some s) (hstart : v.scroll = 0)
    (hheight : 1 ≤ height) :
    (∃ n, (v.scrolled n).Shows glyphs width height i) ↔
      i < (timelineRows glyphs s width).length ∧ i < maxScroll s + height := by
  constructor
  · rintro ⟨n, hshows⟩
    obtain ⟨hbound, -, hlt⟩ := (shows_scrolled_iff hsnapshot hstart).mp hshows
    exact ⟨hbound, by omega⟩
  · rintro ⟨hbound, hlt⟩
    exact ⟨i, (shows_scrolled_iff hsnapshot hstart).mpr ⟨hbound, by omega, by omega⟩⟩

/-! ## Lines and rows -/

theorem timelineLines_ne_nil (s : Snapshot) : timelineLines s ≠ [] := by
  rw [timelineLines]
  cases s.timeline with
  | failed message => exact List.cons_ne_nil _ _
  | ready t =>
      rw [Panel.lines, Timeline.lines]
      split
      · exact List.cons_ne_nil _ _
      · next hevents =>
          rw [List.isEmpty_iff] at hevents
          intro hnone
          rw [List.flatMap_eq_nil_iff] at hnone
          obtain ⟨e, he⟩ := List.exists_mem_of_ne_nil _ hevents
          exact List.cons_ne_nil _ _ (hnone e (List.mem_reverse.mpr he))

theorem length_panelRows_cons (glyphs : Glyphs) (trim : Bool) (width : Nat) (l : Line)
    (lines : List Line) :
    (panelRows glyphs trim width (l :: lines)).length =
      (wrap trim width (glyphs.ofText l.text)).length +
        (panelRows glyphs trim width lines).length := by
  simp [panelRows]

theorem length_le_length_panelRows (glyphs : Glyphs) (trim : Bool) (width : Nat)
    (lines : List Line) : lines.length ≤ (panelRows glyphs trim width lines).length := by
  induction lines with
  | nil => exact Nat.zero_le _
  | cons l lines ih =>
      have hpos := List.length_pos_iff.mpr (Screen.wrap_ne_nil trim width (glyphs.ofText l.text))
      rw [length_panelRows_cons, List.length_cons]
      omega

theorem length_panelRows_of_fitsRow (lines : List Line)
    (h : ∀ l ∈ lines, FitsRow width (glyphs.ofText l.text)) :
    (panelRows glyphs false width lines).length = lines.length := by
  induction lines with
  | nil => rfl
  | cons l lines ih =>
      have hone := congrArg List.length (Screen.wrap_of_fitsRow (h l List.mem_cons_self))
      have hrest := ih fun l' hl' => h l' (List.mem_cons_of_mem _ hl')
      rw [length_panelRows_cons, hone, hrest, List.length_singleton, List.length_cons, Nat.add_comm]

theorem maxScroll_lt (glyphs : Glyphs) (s : Snapshot) (width : Nat) :
    maxScroll s < (timelineRows glyphs s width).length := by
  have hpos := List.length_pos_iff.mpr (timelineLines_ne_nil s)
  have hle := length_le_length_panelRows glyphs false width (timelineLines s)
  rw [maxScroll, timelineRows]
  omega

/-- The last rows are those of the oldest event. -/
theorem timelineRows_oldest (hready : s.timeline = .ready t) {e : FaultEvent}
    {newer : List FaultEvent} (hevents : t.events = e :: newer) (glyphs : Glyphs) (width : Nat) :
    panelRows glyphs false width e.lines <:+ timelineRows glyphs s width := by
  have hlines : timelineLines s = newer.reverse.flatMap FaultEvent.lines ++ e.lines := by
    rw [timelineLines, hready, Panel.lines, Timeline.lines, Timeline.newestFirst, hevents]
    simp
  rw [timelineRows, hlines, panelRows, panelRows, List.flatMap_append]
  exact List.suffix_append _ _

/-! ## Reading to the end -/

/-- A timeline is read to its end: its last row comes into the panel and
stays there, and every row before it was there on the way. -/
structure ReadThrough (v : Viewer) (s : Snapshot) (glyphs : Glyphs) (width height : Nat) :
    Prop where
  last : ∀ n, maxScroll s ≤ n →
    (v.scrolled n).Shows glyphs width height ((timelineRows glyphs s width).length - 1)
  passed : ∀ i < (timelineRows glyphs s width).length,
    ∃ n ≤ maxScroll s, (v.scrolled n).Shows glyphs width height i

theorem readThrough_iff (hsnapshot : v.snapshot = some s) (hstart : v.scroll = 0)
    (hheight : 1 ≤ height) :
    ReadThrough v s glyphs width height ↔
      (timelineRows glyphs s width).length ≤ maxScroll s + height := by
  have hlt := maxScroll_lt glyphs s width
  constructor
  · intro h
    obtain ⟨-, -, hend⟩ := (shows_scrolled_iff hsnapshot hstart).mp (h.last _ (Nat.le_refl _))
    omega
  · intro hrows
    exact ⟨fun n hn => (shows_scrolled_iff hsnapshot hstart).mpr ⟨by omega, by omega, by omega⟩,
      fun i hi => ⟨min i (maxScroll s), Nat.min_le_right _ _,
        (shows_scrolled_iff hsnapshot hstart).mpr ⟨hi, by omega, by omega⟩⟩⟩

theorem length_timelineRows_le (hheight : 1 ≤ height)
    (hlines : ∀ l ∈ timelineLines s, FitsRow width (glyphs.ofText l.text))
    (hlength : (timelineLines s).length ≤ scrollLimit + height) :
    (timelineRows glyphs s width).length ≤ maxScroll s + height := by
  rw [timelineRows, length_panelRows_of_fitsRow _ hlines, maxScroll]
  omega

/-- From the beginning of a history each press moves the panel down by a row,
up to the offset at which the last line would be the first in the panel or the
offset cannot grow. A history is read to the end of its oldest event exactly if
it has no more rows than the panel has room for there, as it is with few enough
lines none of which is wrapped. -/
theorem timeline_read (hsnapshot : v.snapshot = some s) (hready : s.timeline = .ready t)
    (hstart : v.scroll = 0) (hheight : 1 ≤ height) (glyphs : Glyphs) (width : Nat) :
    (∀ n, v.scrolled n = v.scrolledTo (min n (maxScroll s))) ∧
    (∀ e newer, t.events = e :: newer →
      panelRows glyphs false width e.lines <:+ timelineRows glyphs s width ∧
        panelRows glyphs false width e.lines ≠ []) ∧
    (ReadThrough v s glyphs width height ↔
      (timelineRows glyphs s width).length ≤ maxScroll s + height) ∧
    ((∀ l ∈ timelineLines s, FitsRow width (glyphs.ofText l.text)) →
      (timelineLines s).length ≤ scrollLimit + height →
        ReadThrough v s glyphs width height) := by
  refine ⟨fun n => ?_, fun e newer hevents => ⟨timelineRows_oldest hready hevents glyphs width, ?_⟩,
    readThrough_iff hsnapshot hstart hheight, fun hlines hlength => ?_⟩
  · rw [scrolled_eq hsnapshot (by omega) n, hstart, Nat.zero_add]
  · have hle := length_le_length_panelRows glyphs false width e.lines
    rw [FaultEvent.lines, List.length_cons] at hle
    exact List.ne_nil_of_length_pos (Nat.lt_of_lt_of_le (Nat.succ_pos _) hle)
  · exact (readThrough_iff hsnapshot hstart hheight).mpr
      (length_timelineRows_le hheight hlines hlength)

/-! ## Histories -/

/-- A snapshot of a history and of nothing else. -/
def historySnapshot (events : List FaultEvent) : Snapshot where
  cycle := 1
  completedAt := 0
  status := .failed "no status"
  timeline := .ready ⟨events⟩
  benchmark := .failed "no benchmark"
  metrics := ⟨.noRecentSamples, "http://store"⟩

/-- A viewer that was just told a history. -/
def historyViewer (events : List FaultEvent) : Viewer :=
  (Viewer.initial "http://backend" "http://store" "http://grafana").display
    (historySnapshot events)

/-- Two events, of which the older one has a detail. -/
def shortHistory : List FaultEvent :=
  [⟨"fail-disk", "10:00", "ok", some "two of three copies are left"⟩,
    ⟨"heal", "10:05", "pending", none⟩]

/-- A panel with room for one row shows all five lines of two events, one
after the other. -/
theorem timeline_read_of_shortHistory :
    ((historyViewer shortHistory).scrolled 7).scroll = 4 ∧
      ReadThrough (historyViewer shortHistory) (historySnapshot shortHistory) singleCells 38 1 := by
  have hsnapshot : (historyViewer shortHistory).snapshot = some (historySnapshot shortHistory) :=
    rfl
  have hready : (historySnapshot shortHistory).timeline = .ready ⟨shortHistory⟩ := rfl
  have hstart : (historyViewer shortHistory).scroll = 0 := rfl
  obtain ⟨hoffset, -, hread, -⟩ := timeline_read hsnapshot hready hstart (Nat.le_refl 1)
    singleCells 38
  refine ⟨?_, hread.mpr (by decide +kernel)⟩
  rw [hoffset, scroll_scrolledTo]
  decide

/-- The rows beyond the panel at its greatest offset are never seen. -/
theorem not_shows_last {events : List FaultEvent} (hheight : 1 ≤ height)
    (hrows : maxScroll (historySnapshot events) + height <
      (timelineRows glyphs (historySnapshot events) width).length) (n : Nat) :
    ¬ ((historyViewer events).scrolled n).Shows glyphs width height
      ((timelineRows glyphs (historySnapshot events) width).length - 1) := by
  intro hshows
  have hlt := ((exists_shows_iff (s := historySnapshot events) rfl rfl hheight).mp ⟨n, hshows⟩).2
  omega

/-- The same event, of two lines, again and again. -/
def steadyHistory (n : Nat) : List FaultEvent := List.replicate n ⟨"beat", "10:00", "ok", none⟩

theorem length_timelineLines_steadyHistory (n : Nat) :
    (timelineLines (historySnapshot (steadyHistory (n + 1)))).length = 2 * (n + 1) := by
  have hevents : (steadyHistory (n + 1)).isEmpty = false := rfl
  rw [timelineLines, historySnapshot, Panel.lines, Timeline.lines, hevents, if_neg (by decide),
    Timeline.newestFirst, steadyHistory, List.reverse_replicate, List.length_flatMap,
    List.map_replicate, List.sum_replicate_nat]
  exact Nat.mul_comm _ _

/-- One event of three lines, one of which takes many rows in a narrow panel. -/
def wordyHistory : List FaultEvent :=
  [⟨"fail-disk", "10:00", "ok",
    some "the second controller of the third rack has lost its power supply"⟩]

/-- The end of a long history is never seen, though none of its lines needs
more than a row, and neither is that of one event with a long detail. -/
theorem not_shows_end :
    (∀ n, ¬ ((historyViewer (steadyHistory 32772)).scrolled n).Shows singleCells 38 6
      ((timelineRows singleCells (historySnapshot (steadyHistory 32772)) 38).length - 1)) ∧
    (∀ n, ¬ ((historyViewer wordyHistory).scrolled n).Shows singleCells 8 6
      ((timelineRows singleCells (historySnapshot wordyHistory) 8).length - 1)) := by
  constructor
  · refine not_shows_last (by decide) ?_
    have hlength : (timelineLines (historySnapshot (steadyHistory 32772))).length = 65544 :=
      length_timelineLines_steadyHistory 32771
    have hle := length_le_length_panelRows singleCells false 38
      (timelineLines (historySnapshot (steadyHistory 32772)))
    have hlimit : scrollLimit = 65535 := rfl
    rw [maxScroll, timelineRows]
    omega
  · exact not_shows_last (by decide) (by decide +kernel)

end Dashboard.Viewer
