import Dashboard.Poller.State
import Dashboard.Proofs.Fetch.Phase

/-!
# Stand-ins can be told from what a cycle found out

A stand-in is a snapshot in which every source has failed, for a reason that
no failed request gives: it names no path, and it does not begin like the
failures that are not about requests. So nothing that a cycle can find out
looks like a stand-in, and whether a published snapshot is one can be read
off the snapshot itself.
-/

namespace Dashboard.Poller

open Fetch

/-- A snapshot that stands in for its cycle. -/
def IsStandIn (ctx : Context) (p : Snapshot) : Prop :=
  ∃ elapsed completedAt, p = standIn ctx p.cycle elapsed completedAt

variable {ctx : Context}

theorem isStandIn_standIn (ctx : Context) (cycle elapsed : Nat) (completedAt : Int) :
    IsStandIn ctx (standIn ctx cycle elapsed completedAt) := ⟨elapsed, completedAt, rfl⟩

/-- Every panel of a snapshot says for how many milliseconds its cycle has been
running. -/
structure TellsOverrun (p : Snapshot) (elapsed : Nat) : Prop where
  status : p.status = .failed ("Refresh failed: " ++
    ("cycle " ++ toString p.cycle ++ " still running after " ++ toString elapsed ++ "ms"))
  timeline : p.timeline = .failed ("Refresh failed: " ++
    ("cycle " ++ toString p.cycle ++ " still running after " ++ toString elapsed ++ "ms"))
  benchmark : p.benchmark = .failed ("Refresh failed: " ++
    ("cycle " ++ toString p.cycle ++ " still running after " ++ toString elapsed ++ "ms"))
  metrics : p.metrics.outcome = .failed
    ("cycle " ++ toString p.cycle ++ " still running after " ++ toString elapsed ++ "ms")

theorem tellsOverrun_standIn (ctx : Context) (cycle elapsed : Nat) (completedAt : Int) :
    TellsOverrun (standIn ctx cycle elapsed completedAt) elapsed := ⟨rfl, rfl, rfl, rfl⟩

theorem IsStandIn.allSourcesFailed {p : Snapshot} (h : IsStandIn ctx p) :
    p.allSourcesFailed = true := by
  obtain ⟨elapsed, completedAt, hp⟩ := h
  rw [hp]
  rfl

/-- No arrow is in the reason of a stand-in. -/
theorem arrow_not_mem_overrunText (cycle elapsed : Nat) :
    '>' ∉ (overrunText cycle elapsed).toList := by
  have hdigits : ∀ n, '>' ∉ Nat.toDigits 10 n := fun n hmem =>
    absurd (Nat.isDigit_of_mem_toDigits (by decide) (by decide) hmem) (by decide)
  simp [overrunText, hdigits]

theorem head?_overrunText (cycle elapsed : Nat) :
    (overrunText cycle elapsed).toList.head? = some 'c' := by
  simp [overrunText]

theorem mem_toList_between {c : Char} {word : String} (h : c ∈ word.toList) (left right : String) :
    c ∈ (left ++ word ++ right).toList := by
  rw [String.toList_append, String.toList_append]
  exact List.mem_append_left _ (List.mem_append_right _ h)

theorem head?_toList_append {word : String} {c : Char} (h : word.toList.head? = some c)
    (right : String) : (word ++ right).toList.head? = some c := by
  rw [String.toList_append, List.head?_append, h, Option.some_or]

/-- Every failure names a path with an arrow, or begins with a capital. -/
theorem message_cases (f : Failure) :
    '>' ∈ f.message.toList ∨ ∃ c, c.isUpper = true ∧ f.message.toList.head? = some c := by
  cases f with
  | transport path m =>
      have harrow : '>' ∈ " -> ".toList := by simp
      exact Or.inl (mem_toList_between harrow path m)
  | status path code =>
      have harrow : '>' ∈ " -> ".toList := by simp
      exact Or.inl (mem_toList_between harrow path (toString code))
  | decode path m =>
      have harrow : '>' ∈ " -> invalid JSON: ".toList := by simp
      exact Or.inl (mem_toList_between harrow path m)
  | timeout path after =>
      have harrow : '>' ∈ " -> timed out after ".toList := by simp
      change '>' ∈ (path ++ " -> timed out after " ++ toString after.millis ++ "ms").toList ∨ _
      rw [String.toList_append]
      exact Or.inl (List.mem_append_left _ (mem_toList_between harrow path _))
  | config m => exact Or.inr ⟨'C', by decide, head?_toList_append (by simp) m⟩
  | terminal m => exact Or.inr ⟨'T', by decide, head?_toList_append (by simp) m⟩
  | system m => exact Or.inr ⟨'I', by decide, head?_toList_append (by simp) m⟩

theorem overrunText_ne_message (cycle elapsed : Nat) (f : Failure) :
    overrunText cycle elapsed ≠ f.message := by
  intro h
  rcases message_cases f with hmem | ⟨c, hupper, hhead⟩
  · rw [← h] at hmem
    exact arrow_not_mem_overrunText cycle elapsed hmem
  · rw [← h, head?_overrunText] at hhead
    obtain rfl := Option.some.inj hhead
    exact absurd hupper (by decide)

/-- What a cycle found out is no stand-in. -/
theorem not_isStandIn_of_runCycle {answers : Answers} {cycle : Nat} {completedAt : Int}
    {p : Snapshot} (h : (runCycle ctx cycle completedAt answers).snapshot = some p) :
    ¬ IsStandIn ctx p := by
  rintro ⟨elapsed, at_, hp⟩
  obtain ⟨panels, outcome, -, houtcome, hmade⟩ := runCycle_snapshot_eq_some_iff.mp h
  have hmetrics : outcome = .failed (overrunText p.cycle elapsed) :=
    calc outcome = p.metrics.outcome := by rw [hmade]; rfl
      _ = .failed (overrunText p.cycle elapsed) := by rw [hp]; rfl
  rw [hmetrics] at houtcome
  obtain ⟨f, hf⟩ := eq_message_of_metricsPhase_failed houtcome
  exact overrunText_ne_message p.cycle elapsed f hf

end Dashboard.Poller
