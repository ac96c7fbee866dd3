import Dashboard.Proofs.Screen.Scroll
import Mathlib.Data.List.Basic

/-!
# Keys and snapshots

Snapshots arrive and keys are pressed in any order. The offset of the timeline
is never greater than the greatest offset of what is shown: an arrival pulls
it back, and a key moves it by one at most and not over that bound
(`placed_run`). So there is always a line where the offset points to, since the
timeline of a snapshot has at least one, be it that there are no events or why
they are not known.

What else a key can do is `stroke_press`. None of it lets a viewer that is to
quit stay, so a viewer is to quit exactly if it was told so at some time
(`quitting_run`).
-/

namespace Dashboard.Viewer

variable {v : Viewer} {key : Key}

/-! ## Runs -/

/-- What happens to a viewer. -/
inductive Event where
  /-- A snapshot arrives. -/
  | arrival (s : Snapshot)
  /-- A key is pressed. -/
  | stroke (key : Key)

/-- The snapshot that arrives, if one does. -/
def Event.arrival? : Event → Option Snapshot
  | arrival s => some s
  | stroke _ => none

/-- The viewer after something happened. -/
def step (v : Viewer) : Event → Viewer
  | .arrival s => v.display s
  | .stroke key => (v.press key).1

/-- The viewer after some events, one after the other. -/
def run (v : Viewer) (events : List Event) : Viewer := events.foldl step v

/-- What holds at the beginning and after each step holds after every run. -/
theorem run_induction {P : Viewer → Prop} (h : P v) (hstep : ∀ v e, P v → P (v.step e))
    (events : List Event) : P (v.run events) := by
  induction events generalizing v with
  | nil => exact h
  | cons e events ih => exact ih (hstep v e h)

/-! ## What a key can do -/

def downKeys : List Key := [.char 'j', .down]

def upKeys : List Key := [.char 'k', .up]

def quitKeys : List Key := [.char 'q', .escape]

/-- What becomes of a viewer by a key, and what the key asks of others. -/
inductive Stroke (v : Viewer) : Key → Viewer × Action → Prop
  | quit {key : Key} (h : key ∈ quitKeys) : Stroke v key ({ v with quitting := true }, .none)
  | refresh : Stroke v (.char 'r') (v, .refresh)
  | down {key : Key} (h : key ∈ downKeys) : Stroke v key (v.scrollDown, .none)
  | up {key : Key} (h : key ∈ upKeys) : Stroke v key (v.scrolledTo (v.scroll - 1), .none)
  | other {key : Key} (h : key ∉ .char 'r' :: quitKeys ++ downKeys ++ upKeys) :
      Stroke v key (v, .none)

theorem stroke_press (v : Viewer) (key : Key) : Stroke v key (v.press key) := by
  unfold press
  split
  · exact .quit (by decide)
  · exact .quit (by decide)
  · exact .refresh
  · exact .down (by decide)
  · exact .down (by decide)
  · exact .up (by decide)
  · exact .up (by decide)
  · next hq hescape hr hj hdown hk hup =>
      refine .other fun hmem => ?_
      simp only [quitKeys, downKeys, upKeys, List.cons_append, List.nil_append, List.mem_cons,
        List.not_mem_nil, or_false] at hmem
      rcases hmem with h | h | h | h | h | h | h
      · exact hr h
      · exact hq h
      · exact hescape h
      · exact hj h
      · exact hdown h
      · exact hk h
      · exact hup h

/-! ## The offset stays in its place -/

/-- The offset of the timeline is none that is too great. -/
def Placed (v : Viewer) : Prop := v.scroll ≤ v.lastOffset

theorem placed_initial (backend storeUrl grafanaUrl : String) :
    Placed (.initial backend storeUrl grafanaUrl) :=
  Nat.le_refl _

theorem Placed.step (h : Placed v) (e : Event) : Placed (v.step e) := by
  cases e with
  | arrival s => exact Nat.min_le_right _ _
  | stroke key =>
      have hstroke := stroke_press v key
      rw [Viewer.step]
      generalize v.press key = answer at hstroke
      cases hstroke with
      | quit => exact h
      | refresh => exact h
      | down =>
          rw [scrollDown_eq h]
          exact Nat.min_le_right _ _
      | up => exact Nat.le_trans (Nat.sub_le _ _) h
      | other => exact h

theorem placed_run (h : Placed v) (events : List Event) : Placed (v.run events) :=
  run_induction h (fun _ e hplaced => hplaced.step e) events

/-- Where the offset points to there is a line. -/
theorem Placed.exists_line (h : Placed v) {s : Snapshot} (hsnapshot : v.snapshot = some s) :
    ∃ l, (timelineLines s)[v.scroll]? = some l := by
  have hpos := List.length_pos_iff.mpr (timelineLines_ne_nil s)
  rw [Placed, lastOffset_of_snapshot hsnapshot, maxScroll] at h
  exact ⟨_, List.getElem?_eq_getElem (by omega)⟩

/-! ## What a run leaves -/

@[simp] theorem snapshot_scrollDown (v : Viewer) : v.scrollDown.snapshot = v.snapshot := by
  unfold scrollDown
  split <;> rfl

@[simp] theorem quitting_scrollDown (v : Viewer) : v.scrollDown.quitting = v.quitting := by
  unfold scrollDown
  split <;> rfl

/-- Only two keys make a viewer quit, and nothing makes it stay. -/
theorem quitting_press (v : Viewer) (key : Key) :
    (v.press key).1.quitting = true ↔ v.quitting = true ∨ key ∈ quitKeys := by
  have hstroke := stroke_press v key
  generalize v.press key = answer at hstroke
  cases hstroke with
  | quit h => exact iff_of_true rfl (Or.inr h)
  | refresh => exact (or_iff_left (by decide)).symm
  | down h =>
      rw [quitting_scrollDown]
      refine (or_iff_left ?_).symm
      rcases List.mem_pair.mp h with rfl | rfl <;> decide
  | up h =>
      refine (or_iff_left ?_).symm
      rcases List.mem_pair.mp h with rfl | rfl <;> decide
  | other h => exact (or_iff_left fun hquit => h (by simp [hquit])).symm

theorem quitting_run (v : Viewer) (events : List Event) :
    (v.run events).quitting = true ↔
      v.quitting = true ∨ ∃ key ∈ quitKeys, Event.stroke key ∈ events := by
  induction events generalizing v with
  | nil => simp [run]
  | cons e events ih =>
      have hrun : v.run (e :: events) = (v.step e).run events := rfl
      rw [hrun, ih]
      cases e with
      | arrival s => simp [step, display]
      | stroke key =>
          rw [step, quitting_press, or_assoc]
          simp only [List.mem_cons, Event.stroke.injEq, and_or_left, exists_or, exists_eq_right]

theorem snapshot_press (v : Viewer) (key : Key) : (v.press key).1.snapshot = v.snapshot := by
  have hstroke := stroke_press v key
  generalize v.press key = answer at hstroke
  cases hstroke with
  | quit => rfl
  | refresh => rfl
  | down => exact snapshot_scrollDown v
  | up => rfl
  | other => rfl

/-- What is shown is what arrived last. -/
theorem snapshot_run (v : Viewer) (events : List Event) :
    (v.run events).snapshot = (events.filterMap Event.arrival?).getLast?.or v.snapshot := by
  induction events generalizing v with
  | nil => rfl
  | cons e events ih =>
      have hrun : v.run (e :: events) = (v.step e).run events := rfl
      rw [hrun, ih]
      cases e with
      | arrival s =>
          rw [List.filterMap_cons_some (rfl : Event.arrival? (.arrival s) = some s),
            List.getLast?_cons, step, display]
          cases (events.filterMap Event.arrival?).getLast? <;> rfl
      | stroke key =>
          rw [List.filterMap_cons_none (rfl : Event.arrival? (.stroke key) = none), step,
            snapshot_press]

/-- Where a key leaves the offset. -/
theorem scroll_press (h : Placed v) (key : Key) :
    (v.press key).1.scroll =
      if key ∈ downKeys then min (v.scroll + 1) v.lastOffset
      else if key ∈ upKeys then v.scroll - 1
      else v.scroll := by
  have hstroke := stroke_press v key
  generalize v.press key = answer at hstroke
  cases hstroke with
  | quit h => rcases List.mem_pair.mp h with rfl | rfl <;> rfl
  | refresh => rfl
  | down hkey => rw [if_pos hkey, scrollDown_eq h, scroll_scrolledTo]
  | up hkey => rcases List.mem_pair.mp hkey with rfl | rfl <;> rfl
  | other hkey =>
      simp only [List.cons_append, List.mem_cons, List.mem_append, not_or] at hkey
      rw [if_neg hkey.2.1.2, if_neg hkey.2.2]

theorem press_eq_refresh_iff (v : Viewer) (key : Key) :
    (v.press key).2 = .refresh ↔ key = .char 'r' := by
  have hstroke := stroke_press v key
  generalize v.press key = answer at hstroke
  cases hstroke with
  | quit h => rcases List.mem_pair.mp h with rfl | rfl <;> simp
  | refresh => exact iff_of_true rfl rfl
  | down h => rcases List.mem_pair.mp h with rfl | rfl <;> simp
  | up h => rcases List.mem_pair.mp h with rfl | rfl <;> simp
  | other h => exact iff_of_false (by simp) fun hr => h (by simp [hr])

/-! ## What is expected of a viewer -/

/-- What a key is expected to do to a viewer, and to ask of others. -/
structure Obeyed (v : Viewer) (key : Key) (after : Viewer) (action : Action) : Prop where
  near : after.scroll ≤ v.scroll + 1 ∧ v.scroll ≤ after.scroll + 1
  down : key ∈ downKeys → after.scroll = min (v.scroll + 1) v.lastOffset
  up : key ∈ upKeys → after.scroll = v.scroll - 1
  still : key ∉ downKeys ++ upKeys → after.scroll = v.scroll
  snapshot : after.snapshot = v.snapshot
  quitting : after.quitting = true ↔ v.quitting = true ∨ key ∈ quitKeys
  refresh : action = .refresh ↔ key = .char 'r'

theorem Placed.obeyed_press (h : Placed v) (key : Key) :
    Obeyed v key (v.press key).1 (v.press key).2 := by
  have hscroll := scroll_press h key
  refine
    { near := ?_
      down := fun hkey => by rw [hscroll, if_pos hkey]
      up := fun hkey => ?_
      still := fun hkey => ?_
      snapshot := snapshot_press v key
      quitting := quitting_press v key
      refresh := press_eq_refresh_iff v key }
  · rw [Placed] at h
    split at hscroll
    · omega
    · split at hscroll <;> omega
  · rw [hscroll]
    rcases List.mem_pair.mp hkey with rfl | rfl <;> rfl
  · rw [List.mem_append, not_or] at hkey
    rw [hscroll, if_neg hkey.1, if_neg hkey.2]

/-- What is expected of a viewer that was started and then saw some events. -/
structure Steered (v : Viewer) (events : List Event) : Prop where
  shown : v.snapshot = (events.filterMap Event.arrival?).getLast?
  start : v.snapshot = none → v.scroll = 0
  within : ∀ s, v.snapshot = some s →
    1 ≤ (timelineLines s).length ∧ v.scroll ≤ min ((timelineLines s).length - 1) 65535 ∧
      ∃ l, (timelineLines s)[v.scroll]? = some l
  quits : v.quitting = true ↔ ∃ key ∈ quitKeys, Event.stroke key ∈ events

/-- Whatever snapshots arrive and whatever keys are pressed, in any order: the
offset is that of a line, as far as it can count lines, and the next key does
to it, to what is shown and to the end of the session what that key is for. -/
theorem steered_run (backend storeUrl grafanaUrl : String) (events : List Event) :
    Steered ((initial backend storeUrl grafanaUrl).run events) events ∧
      ∀ key, Obeyed ((initial backend storeUrl grafanaUrl).run events) key
        (((initial backend storeUrl grafanaUrl).run events).press key).1
        (((initial backend storeUrl grafanaUrl).run events).press key).2 := by
  have hplaced := placed_run (placed_initial backend storeUrl grafanaUrl) events
  refine ⟨?_, hplaced.obeyed_press⟩
  refine
    { shown := ?_
      start := fun hnone => ?_
      within := fun s hs => ⟨?_, ?_, hplaced.exists_line hs⟩
      quits := ?_ }
  · rw [snapshot_run]
    exact Option.or_none
  · rw [Placed, lastOffset, hnone] at hplaced
    exact Nat.eq_zero_of_le_zero hplaced
  · exact List.length_pos_iff.mpr (timelineLines_ne_nil s)
  · rw [Placed, lastOffset_of_snapshot hs] at hplaced
    exact hplaced
  · rw [quitting_run]
    exact or_iff_right Bool.false_ne_true

end Dashboard.Viewer
