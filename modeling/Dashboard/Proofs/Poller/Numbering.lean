import Dashboard.Proofs.Poller.Change
import Mathlib.Data.List.Nodup

/-!
# Cycles are numbered in the order of their start

The tasks of a poller are listed by ascending numbers, none above the number
of the latest cycle, so a number belongs to at most one task. The cycle that
is noted as being in flight is always the latest one.

This is all that the other invariants need to know about numbers: an event
that works on the task of a cycle leaves every other task alone, and a cycle
that starts is new to everything that was there before.
-/

namespace Dashboard.Poller

open Fetch

/-- The numbers of the cycles that have not been taken up. -/
def State.cycles (s : State) : List Nat := s.tasks.map Task.cycle

/-- Numbers are given out in order. -/
structure Numbered (s : State) : Prop where
  ascending : s.cycles.Pairwise (· < ·)
  bounded : ∀ c ∈ s.cycles, 1 ≤ c ∧ c ≤ s.lastStarted
  /-- The cycle in flight is the latest one. -/
  flight : ∀ f, s.inFlight = some f → f.1 = s.lastStarted ∧ 1 ≤ f.1

variable {ctx : Context} {s : State}

theorem mem_cycles {t : Task} (h : t ∈ s.tasks) : t.cycle ∈ s.cycles := List.mem_map_of_mem h

/-- A number leads to its task. -/
theorem Numbered.progress_eq (h : Numbered s) {t : Task} (ht : t ∈ s.tasks) :
    (s.task? t.cycle).map Task.progress = some t.progress := by
  cases hfind : s.task? t.cycle with
  | none =>
      have := List.find?_eq_none.mp hfind t ht
      simp at this
  | some u =>
      obtain ⟨hu, hcycle⟩ := State.task?_eq_some hfind
      have hnodup : (s.tasks.map Task.cycle).Nodup := h.ascending.imp Nat.ne_of_lt
      rw [List.inj_on_of_nodup_map hnodup hu ht hcycle]
      rfl

theorem cycles_setProgress (s : State) (cycle : Nat) (progress : Progress) :
    (s.setProgress cycle progress).cycles = s.cycles := by
  simp only [State.cycles, State.setProgress, List.map_map]
  refine List.map_congr_left fun t _ => ?_
  simp only [Function.comp_apply]
  split
  · next h => exact h.symm
  · rfl

/-- Numbers stay in order when tasks are removed and nothing else happens. -/
theorem Numbered.of_sublist (h : Numbered s) {s' : State} (hsub : s'.cycles.Sublist s.cycles)
    (hlast : s'.lastStarted = s.lastStarted)
    (hflight : ∀ f, s'.inFlight = some f → s.inFlight = some f) : Numbered s' where
  ascending := h.ascending.sublist hsub
  bounded := fun c hc => by
    rw [hlast]
    exact h.bounded c (hsub.subset hc)
  flight := fun f hf => by
    rw [hlast]
    exact h.flight f (hflight f hf)

theorem Numbered.of_cycles_eq (h : Numbered s) {s' : State} (hcycles : s'.cycles = s.cycles)
    (hlast : s'.lastStarted = s.lastStarted) (hflight : s'.inFlight = s.inFlight) :
    Numbered s' :=
  h.of_sublist (hcycles ▸ List.Sublist.refl _) hlast fun _ hf => hflight ▸ hf

theorem cycles_map_abort (tasks : List Task) :
    (tasks.map Task.abort).map Task.cycle = tasks.map Task.cycle := by
  rw [List.map_map]
  exact List.map_congr_left fun t _ => t.cycle_abort

theorem cycles_tasksAtStart (ctx : Context) (s : State) :
    (s.tasksAtStart ctx).map Task.cycle = s.cycles := by
  unfold State.tasksAtStart
  split
  · exact cycles_map_abort s.tasks
  · rfl

theorem Numbered.startCycle (h : Numbered s) (notice : Notice) (now : Nat) :
    Numbered (State.startCycle ctx { s with notice } now) := by
  have hcycles : (State.startCycle ctx { s with notice } now).cycles =
      s.cycles ++ [s.lastStarted + 1] := by
    rw [State.startCycle_eq]
    simp only [State.cycles, List.map_append, List.map_cons, List.map_nil]
    rw [cycles_tasksAtStart]
    rfl
  have hlast : (State.startCycle ctx { s with notice } now).lastStarted = s.lastStarted + 1 := by
    rw [State.startCycle_eq]
  refine ⟨?_, ?_, ?_⟩
  · rw [hcycles, List.pairwise_append]
    refine ⟨h.ascending, List.pairwise_singleton _ _, ?_⟩
    intro c hc d hd
    obtain rfl := List.mem_singleton.mp hd
    have := (h.bounded c hc).2
    omega
  · intro c hc
    rw [hcycles] at hc
    rw [hlast]
    rcases List.mem_append.mp hc with hold | hnew
    · have := h.bounded c hold
      omega
    · obtain rfl := List.mem_singleton.mp hnew
      omega
  · intro f hf
    rw [State.startCycle_eq] at hf ⊢
    obtain rfl := Option.some.inj hf
    exact ⟨rfl, by simp⟩

theorem Numbered.step (h : Numbered s) (e : Event) : Numbered (s.step ctx e) := by
  have hchange := Moment.change ctx ⟨s, e⟩
  simp only [Moment.after] at hchange
  generalize s.step ctx e = s' at hchange
  cases hchange with
  | idle => exact h
  | noted notice => exact h.of_cycles_eq rfl rfl rfl
  | started now notice => exact h.startCycle notice now
  | begun t => exact h.of_cycles_eq (cycles_setProgress s t.cycle _) rfl rfl
  | proceeded t => exact h.of_cycles_eq (cycles_setProgress s t.cycle _) rfl rfl
  | completed t => exact h.of_cycles_eq (cycles_setProgress s t.cycle _) rfl rfl
  | crashed t => exact h.of_cycles_eq (cycles_setProgress s t.cycle _) rfl rfl
  | joined t snapshot =>
      rw [State.publish_landed_eq]
      refine h.of_sublist (List.filter_sublist.map _) rfl fun f hf => ?_
      exact (Option.filter_eq_some_iff.mp hf).1
  | dropped t => exact h.of_sublist (List.filter_sublist.map _) rfl fun _ hf => hf
  | halted => exact h.of_cycles_eq (cycles_map_abort s.tasks) rfl rfl

theorem numbered_initial (openedAt : Int) : Numbered (State.initial openedAt) where
  ascending := List.Pairwise.nil
  bounded := by simp [State.initial, State.cycles]
  flight := by simp [State.initial]

theorem numbered_run (ctx : Context) (openedAt : Int) (events : List Event) :
    Numbered (State.run ctx (.initial openedAt) events) :=
  State.history_induction (P := fun s _ => Numbered s) (numbered_initial openedAt)
    (fun _ e h => h.step e) events

end Dashboard.Poller
