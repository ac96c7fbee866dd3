import Dashboard.Proofs.Poller.Change

/-!
# Calls for a refresh

A call is handed to the poller or kept for it, and a start takes one up.
`Notes` lists what an event does to the calls that have not been taken up.
Their number (`State.pending`) grows by at most one with a call and falls by
one with a start that was asked for. When the poller leaves its wait for
something else, two calls may become one, but never none. So there are never
more starts than calls, and as long as a call has not been answered something
is pending.

A stretch without calls starts as many cycles as are pending at its
beginning, or fewer. That is one, except after two calls the first of which
was handed to the poller (`Doubled`): then the second is kept beside it, and
unless the poller leaves its wait in between, both start a cycle.
-/

namespace Dashboard.Poller

open Fetch

variable {ctx : Context} {s : State}

/-! ## What an event does to the calls -/

namespace Moment

/-- Someone asks for a refresh while there is a poller to hear it. -/
def isCall (m : Moment) : Bool :=
  match m.event with
  | .notify => !m.before.stopped
  | _ => false

/-- The timer starts a cycle. -/
def isTimed (m : Moment) : Bool :=
  match m.event with
  | .tick _ => m.started?.isSome
  | _ => false

/-- A cycle starts because someone asked for it. -/
def isAsked (m : Moment) : Bool :=
  match m.event with
  | .refresh _ => m.started?.isSome
  | _ => false

/-- The poller leaves its wait: the timer ticks, or a call or a task that has
ended is taken up. -/
def isTurn (m : Moment) : Bool :=
  !m.before.stopped &&
    match m.event with
    | .tick _ => true
    | .refresh _ => m.before.notice.take?.isSome
    | .join cycle => ((m.before.task? cycle).map Task.progress).any fun p => !p.isRunning
    | _ => false

/-- What becomes of the calls with an event. -/
inductive Notes (m : Moment) : Notice → Prop where
  | called (call : m.isCall = true) (asked : m.isAsked = false) (turn : m.isTurn = false) :
      Notes m m.before.notice.call
  | asked (call : m.isCall = false) (asked : m.isAsked = true) {n : Notice}
      (taken : m.before.notice.take? = some n) : Notes m n
  | turned (call : m.isCall = false) (asked : m.isAsked = false) :
      Notes m m.before.notice.release
  | listened (call : m.isCall = false) (asked : m.isAsked = false) (turn : m.isTurn = false) :
      Notes m m.before.notice.listen
  | kept (call : m.isCall = false) (asked : m.isAsked = false) (turn : m.isTurn = false) :
      Notes m m.before.notice

theorem notes_join (s : State) (live : s.stopped = false) (cycle : Nat) :
    Notes ⟨s, .join cycle⟩ (s.joinTask cycle).notice := by
  unfold State.joinTask
  split
  · rw [State.publish_landed_eq]
    exact .turned rfl rfl
  · exact .turned rfl rfl
  · exact .turned rfl rfl
  · next hfinished hcrashed haborted =>
      refine .kept rfl rfl ?_
      simp only [isTurn, live]
      cases hp : (s.task? cycle).map Task.progress with
      | none => rfl
      | some p => cases p <;> simp_all [Progress.isRunning]

theorem notes (ctx : Context) (m : Moment) : m.Notes (m.after ctx).notice := by
  obtain ⟨s, e⟩ := m
  simp only [after, State.step]
  by_cases hstopped : s.stopped = true
  · rw [if_pos hstopped]
    refine .kept ?_ ?_ (by simp [isTurn, hstopped])
    · cases e <;> simp [isCall, hstopped]
    · cases e <;> simp [isAsked, started?, hstopped]
  · rw [if_neg hstopped]
    have live : s.stopped = false := by simpa using hstopped
    cases e with
    | tick now =>
        have hstart := State.startCycle_eq ctx s s.notice.release now
        refine (congrArg (Notes ⟨s, .tick now⟩) (congrArg State.notice hstart)).mpr ?_
        exact .turned rfl rfl
    | notify => exact .called (by simp [isCall, live]) rfl (by simp [isTurn])
    | listen => exact .listened rfl rfl (by simp [isTurn])
    | refresh now =>
        simp only []
        split
        · next notice htaken =>
            rw [State.startCycle_eq]
            exact .asked rfl (by simp [isAsked, started?, live, htaken]) htaken
        · next hnone =>
            exact .kept rfl (by simp [isAsked, started?, hnone]) (by simp [isTurn, hnone])
    | begin cycle now answers =>
        simp only [State.notice_beginCycle]
        exact .kept rfl rfl (by simp [isTurn])
    | proceed cycle now answers =>
        simp only [State.notice_proceedCycle]
        exact .kept rfl rfl (by simp [isTurn])
    | complete cycle now =>
        simp only [State.notice_completeCycle]
        exact .kept rfl rfl (by simp [isTurn])
    | join cycle => exact notes_join s live cycle
    | shutdown => exact .kept rfl rfl (by simp [isTurn])

/-- A call leaves something pending, a start that was asked for takes one
away, and nothing else loses the last call or adds one. -/
theorem pending_cases (ctx : Context) (m : Moment) :
    (m.isCall = true ∧ m.isAsked = false ∧ 0 < (m.after ctx).pending ∧
        (m.after ctx).pending ≤ m.before.pending + 1) ∨
      (m.isCall = false ∧ m.isAsked = true ∧ (m.after ctx).pending + 1 = m.before.pending) ∨
      (m.isCall = false ∧ m.isAsked = false ∧ (m.after ctx).pending ≤ m.before.pending ∧
        (0 < m.before.pending → 0 < (m.after ctx).pending)) := by
  have hnotes := m.notes ctx
  unfold State.pending
  generalize (m.after ctx).notice = n at hnotes ⊢
  cases hnotes with
  | called hcall hasked =>
      exact Or.inl ⟨hcall, hasked, Notice.pending_call_pos _, Notice.pending_call_le _⟩
  | asked hcall hasked htaken =>
      exact Or.inr (Or.inl ⟨hcall, hasked, Notice.pending_of_take? htaken⟩)
  | turned hcall hasked =>
      exact Or.inr (Or.inr ⟨hcall, hasked, Notice.pending_release_le _,
        Notice.pending_release_pos_iff.mpr⟩)
  | listened hcall hasked =>
      rw [Notice.pending_listen]
      exact Or.inr (Or.inr ⟨hcall, hasked, Nat.le_refl _, id⟩)
  | kept hcall hasked => exact Or.inr (Or.inr ⟨hcall, hasked, Nat.le_refl _, id⟩)

end Moment

/-! ## Calls and starts in a history -/

/-- How often a refresh was asked for. -/
def calls (history : List Moment) : Nat := history.countP Moment.isCall

/-- How many cycles started because of it. -/
def startsAsked (history : List Moment) : Nat := history.countP Moment.isAsked

theorem calls_concat (history : List Moment) (m : Moment) :
    calls (history ++ [m]) = calls history + if m.isCall then 1 else 0 := by
  simp [calls, List.countP_append, List.countP_singleton]

theorem startsAsked_concat (history : List Moment) (m : Moment) :
    startsAsked (history ++ [m]) = startsAsked history + if m.isAsked then 1 else 0 := by
  simp [startsAsked, List.countP_append, List.countP_singleton]

/-- Every start was asked for. -/
theorem startsAsked_add_pending_le (ctx : Context) (s : State) (events : List Event) :
    startsAsked (State.moments ctx s events) + (State.run ctx s events).pending ≤
      s.pending + calls (State.moments ctx s events) := by
  refine State.history_induction
    (P := fun s' history => startsAsked history + s'.pending ≤ s.pending + calls history)
    (by simp [startsAsked, calls]) (fun events e ih => ?_) events
  rw [startsAsked_concat, calls_concat]
  rcases Moment.pending_cases ctx ⟨State.run ctx s events, e⟩ with
    ⟨hcall, hasked, -, hpending⟩ | ⟨hcall, hasked, hpending⟩ | ⟨hcall, hasked, hpending, -⟩
  all_goals
    simp only [Moment.after] at hpending
    simp only [hcall, hasked, if_true, if_false, Bool.false_eq_true]
    omega

/-! ## Calls that become one -/

/-- A call has found the poller waiting, another one has followed it, and the
poller has not left its wait since. -/
def Doubled (history : List Moment) : Prop :=
  ∃ before first later, history = before ++ first :: later ∧ first.isCall = true ∧
    first.before.notice = .waiting ∧ (∃ second ∈ later, second.isCall = true) ∧
    ∀ m ∈ later, m.isTurn = false

/-- A call that was handed to the poller found it waiting, and a call that is
kept beside it came later. -/
def HandedOver (s : State) (history : List Moment) : Prop :=
  ∀ kept, s.notice = .handed kept →
    ∃ before first later, history = before ++ first :: later ∧ first.isCall = true ∧
      first.before.notice = .waiting ∧ (kept = true → ∃ second ∈ later, second.isCall = true) ∧
      ∀ m ∈ later, m.isTurn = false

theorem HandedOver.doubled {history : List Moment} (h : HandedOver s history)
    (hnotice : s.notice = .handed true) : Doubled history := by
  obtain ⟨before, first, later, hsplit, hcall, hwaiting, hsecond, hstill⟩ := h true hnotice
  exact ⟨before, first, later, hsplit, hcall, hwaiting, hsecond rfl, hstill⟩

/-- As long as the poller does not leave its wait, a call stays handed over. -/
theorem HandedOver.still {s' : State} {history : List Moment} {m : Moment}
    (h : HandedOver s history) (hturn : m.isTurn = false)
    (hnotice : ∀ kept, s'.notice = .handed kept →
      ∃ kept', s.notice = .handed kept' ∧ (kept = true → kept' = true ∨ m.isCall = true)) :
    HandedOver s' (history ++ [m]) := by
  intro kept hkept
  obtain ⟨kept', hold, hmore⟩ := hnotice kept hkept
  obtain ⟨before, first, later, rfl, hcall, hwaiting, hsecond, hstill⟩ := h kept' hold
  refine ⟨before, first, later ++ [m], by simp, hcall, hwaiting, fun hk => ?_, fun x hx => ?_⟩
  · rcases hmore hk with hbefore | hnow
    · obtain ⟨second, hmem, hs⟩ := hsecond hbefore
      exact ⟨second, List.mem_append_left _ hmem, hs⟩
    · exact ⟨m, List.mem_append_right _ (List.mem_singleton_self m), hnow⟩
  · rcases List.mem_append.mp hx with hold | hnew
    · exact hstill x hold
    · obtain rfl := List.mem_singleton.mp hnew
      exact hturn

theorem HandedOver.step {history : List Moment} (h : HandedOver s history) (e : Event) :
    HandedOver (s.step ctx e) (history ++ [⟨s, e⟩]) := by
  have hnotes := Moment.notes ctx ⟨s, e⟩
  simp only [Moment.after] at hnotes
  generalize hs' : s.step ctx e = s' at hnotes ⊢
  generalize hn : s'.notice = n at hnotes
  cases hnotes with
  | called hcall _ hturn =>
      cases hbefore : s.notice with
      | waiting =>
          -- This is the call that is handed over.
          intro kept hkept
          rw [hn] at hkept
          simp only [hbefore, Notice.call, Notice.handed.injEq] at hkept
          exact ⟨history, ⟨s, e⟩, [], rfl, hcall, hbefore, by simp [← hkept], by simp⟩
      | away =>
          intro kept hkept
          rw [hn] at hkept
          simp [hbefore, Notice.call] at hkept
      | handed kept' =>
          exact h.still hturn fun kept _ => ⟨kept', hbefore, fun _ => Or.inr hcall⟩
  | asked _ _ htaken =>
      intro kept hkept
      rw [hn] at hkept
      rcases hbefore : s.notice with (_ | _) | _ | _ <;> simp_all [Notice.take?]
  | turned =>
      intro kept hkept
      rw [hn] at hkept
      rcases hbefore : s.notice with _ | _ | _ <;> simp_all [Notice.release]
  | listened _ _ hturn =>
      refine h.still hturn fun kept hkept => ⟨kept, ?_, Or.inl⟩
      rw [hn] at hkept
      rcases hbefore : s.notice with (_ | _) | _ | _ <;> simp_all [Notice.listen]
  | kept _ _ hturn => exact h.still hturn fun kept hkept => ⟨kept, hn.symm.trans hkept, Or.inl⟩

theorem handedOver_run (openedAt : Int) (events : List Event) :
    HandedOver (State.run ctx (.initial openedAt) events)
      (State.moments ctx (.initial openedAt) events) :=
  State.history_induction (P := HandedOver) (by simp [HandedOver, State.initial])
    (fun _ e h => h.step e) events

/-- Two calls at most are pending, and two only where one was handed over and
one is kept. -/
theorem pending_le (s : State) :
    s.pending ≤ 1 ∨ (s.pending = 2 ∧ s.notice = .handed true) := by
  unfold State.pending
  rcases s.notice with (_ | _) | _ | (_ | _) <;> decide

/-- Where nobody calls, no more is started than was pending. -/
theorem startsAsked_le_pending (s : State) (events : List Event)
    (h : calls (State.moments ctx s events) = 0) :
    startsAsked (State.moments ctx s events) ≤ s.pending := by
  have := startsAsked_add_pending_le ctx s events
  omega

theorem moments_eq_append {events : List Event} {first second : List Moment}
    (h : State.moments ctx s events = first ++ second) :
    ∃ before after, first = State.moments ctx s before ∧
      second = State.moments ctx (State.run ctx s before) after := by
  induction events generalizing s first with
  | nil =>
      obtain ⟨rfl, rfl⟩ := List.append_eq_nil_iff.mp h.symm
      exact ⟨[], [], rfl, rfl⟩
  | cons e rest ih =>
      cases first with
      | nil => exact ⟨[], e :: rest, rfl, h.symm⟩
      | cons m first =>
          obtain ⟨hm, hrest⟩ := List.cons.inj h
          obtain ⟨before, after, rfl, rfl⟩ := ih hrest
          exact ⟨e :: before, after, by rw [← hm]; rfl, rfl⟩

/-- Between two calls at most one cycle that was asked for starts, or two if
the calls before have not become one. -/
def Merged (history : List Moment) : Prop :=
  ∀ before between after, history = before ++ between ++ after → calls between = 0 →
    startsAsked between ≤ 1 ∨ (startsAsked between = 2 ∧ Doubled before)

theorem merged_run (openedAt : Int) (events : List Event) :
    Merged (State.moments ctx (.initial openedAt) events) := by
  intro before between after hsplit hcalls
  rw [List.append_assoc] at hsplit
  obtain ⟨first, rest, rfl, hrest⟩ := moments_eq_append hsplit
  obtain ⟨second, third, rfl, -⟩ := moments_eq_append hrest.symm
  have hle := startsAsked_le_pending (State.run ctx (.initial openedAt) first) second hcalls
  rcases pending_le (State.run ctx (.initial openedAt) first) with hone | ⟨htwo, hnotice⟩
  · exact Or.inl (Nat.le_trans hle hone)
  · rcases Nat.lt_or_eq_of_le (htwo ▸ hle) with hless | heq
    · exact Or.inl (Nat.le_of_lt_succ hless)
    · exact Or.inr ⟨heq, (handedOver_run openedAt first).doubled hnotice⟩

/-- A tick that comes between two calls and the poller makes them one. -/
example :
    let ctx : Context := ⟨"http://store", "http://links", 25, 100, .concurrent, .isolated⟩
    let starts (events : List Event) : Nat :=
      startsAsked (State.moments ctx (.initial 0) (.listen :: .notify :: .notify :: events))
    starts [.refresh 0, .refresh 0] = 2 ∧ starts [.tick 0, .refresh 0, .refresh 0] = 1 :=
  ⟨rfl, rfl⟩

end Dashboard.Poller
