import Dashboard.Proofs.Poller.Origin

/-!
# What is on display

Whatever the policies are and in whatever order things happen, the numbers of
the snapshots on display never go down and never run ahead of the cycles that
were started. Each snapshot was made whole: by the cycle of its number, from
the replies to that cycle's own requests, or in its stead as one in which
every source has failed. It names the store that the session was opened with.
After a shutdown the display stays as it is.

`published` lists all snapshots that were ever on display, the newest first,
and the display is its head. So the argument is about how that list grows:
only by the guard of `publishedWith`, which lets no older number pass.
-/

namespace Dashboard.Poller

open Fetch

variable {ctx : Context} {s : State}

/-! ## How the list of published snapshots grows -/

theorem published_suffix_publishedWith (s : State) (p : Snapshot) :
    s.published <:+ s.publishedWith p := by
  rcases s.publishedWith_cases p with ⟨h, -⟩ | ⟨h, -⟩
  · rw [h]
    exact List.suffix_cons p s.published
  · exact h ▸ List.suffix_refl _

theorem published_suffix_publishedAtStart (ctx : Context) (s : State) (now : Nat) :
    s.published <:+ s.publishedAtStart ctx now := by
  unfold State.publishedAtStart
  split
  · exact published_suffix_publishedWith s _
  · exact List.suffix_refl _

theorem published_suffix_step (ctx : Context) (s : State) (e : Event) :
    s.published <:+ (s.step ctx e).published := by
  have hchange := Moment.change ctx ⟨s, e⟩
  simp only [Moment.after] at hchange
  generalize s.step ctx e = s' at hchange
  cases hchange with
  | started now notice =>
      rw [State.startCycle_eq]
      exact published_suffix_publishedAtStart ctx s now
  | joined t snapshot =>
      rw [State.publish_landed_eq]
      exact published_suffix_publishedWith _ snapshot
  | idle | noted | begun | proceeded | completed | crashed | dropped | halted =>
      exact List.suffix_refl _

theorem published_suffix_run (ctx : Context) (s : State) (events : List Event) :
    s.published <:+ (State.run ctx s events).published := by
  induction events generalizing s with
  | nil => exact List.suffix_refl _
  | cons e rest ih => exact (published_suffix_step ctx s e).trans (ih (s.step ctx e))

/-! ## Numbers on display -/

/-- Newer snapshots have numbers that are no lower. -/
abbrev Descending (published : List Snapshot) : Prop :=
  published.Pairwise fun newer older => older.cycle ≤ newer.cycle

theorem Descending.le_head {published : List Snapshot} (h : Descending published) {shown : Snapshot}
    (hshown : published.head? = some shown) : ∀ p ∈ published, p.cycle ≤ shown.cycle := by
  cases published with
  | nil => cases hshown
  | cons newest older =>
      obtain rfl := Option.some.inj hshown
      intro p hp
      rcases List.mem_cons.mp hp with rfl | hold
      · exact Nat.le_refl _
      · exact List.rel_of_pairwise_cons h hold

theorem Descending.publishedWith (h : Descending s.published) (p : Snapshot) :
    Descending (s.publishedWith p) := by
  rcases s.publishedWith_cases p with ⟨hpub, hguard⟩ | ⟨hpub, -⟩
  · rw [hpub]
    refine List.pairwise_cons.mpr ⟨fun older holder => ?_, h⟩
    obtain ⟨shown, hshown⟩ : ∃ shown, s.shown? = some shown := by
      rw [State.shown?]
      cases hlist : s.published with
      | nil => rw [hlist] at holder; cases holder
      | cons newest rest => exact ⟨newest, rfl⟩
    exact Nat.le_trans (h.le_head hshown older holder) (hguard shown hshown)
  · rw [hpub]
    exact h

theorem Descending.step (h : Descending s.published) (e : Event) :
    Descending (s.step ctx e).published := by
  have hchange := Moment.change ctx ⟨s, e⟩
  simp only [Moment.after] at hchange
  generalize s.step ctx e = s' at hchange
  cases hchange with
  | started now notice =>
      rw [State.startCycle_eq]
      simp only [State.publishedAtStart]
      split
      · exact h.publishedWith _
      · exact h
  | joined t snapshot =>
      rw [State.publish_landed_eq]
      exact h.publishedWith snapshot
  | idle | noted | begun | proceeded | completed | crashed | dropped | halted => exact h

theorem descending_run (ctx : Context) (openedAt : Int) (events : List Event) :
    Descending (State.run ctx (.initial openedAt) events).published :=
  State.history_induction (P := fun s _ => Descending s.published) List.Pairwise.nil
    (fun _ e h => h.step e) events

/-- No number on display is ahead of the cycles that were started. -/
theorem bounded_step (hnumbered : Numbered s) {history : List Moment}
    (hsourced : Sourced ctx s history) (h : ∀ p ∈ s.published, p.cycle ≤ s.lastStarted)
    (e : Event) : ∀ p ∈ (s.step ctx e).published, p.cycle ≤ (s.step ctx e).lastStarted := by
  have hchange := Moment.change ctx ⟨s, e⟩
  simp only [Moment.after] at hchange
  generalize s.step ctx e = s' at hchange
  cases hchange with
  | started now notice =>
      rw [State.startCycle_eq]
      intro p hp
      simp only [State.publishedAtStart] at hp ⊢
      split at hp
      · next cycle started _ hflight =>
          -- A stand-in is for the cycle in flight, which is the latest one.
          have hlatest := (hnumbered.flight _ hflight).1
          rcases State.mem_publishedWith hp with rfl | hold
          · exact Nat.le_trans (Nat.le_of_eq hlatest) (Nat.le_succ _)
          · exact Nat.le_succ_of_le (h p hold)
      · exact Nat.le_succ_of_le (h p hp)
  | joined t snapshot live he hj ht hp =>
      rw [State.publish_landed_eq]
      intro p hmem
      rcases State.mem_publishedWith hmem with rfl | hold
      · rw [(hsourced.told_of_finished ht hp).1]
        exact (hnumbered.bounded _ (mem_cycles ht)).2
      · exact h p hold
  | idle | noted | begun | proceeded | completed | crashed | dropped | halted => exact h

theorem bounded_run (ctx : Context) (openedAt : Int) (events : List Event) :
    ∀ p ∈ (State.run ctx (.initial openedAt) events).published,
      p.cycle ≤ (State.run ctx (.initial openedAt) events).lastStarted :=
  State.history_induction
    (P := fun s _ => ∀ p ∈ s.published, p.cycle ≤ s.lastStarted)
    (by simp [State.initial])
    (fun events e h => bounded_step (numbered_run ctx openedAt events)
      (sourced_run ctx openedAt events) h e) events

/-! ## The end -/

theorem run_of_stopped (h : s.stopped = true) (events : List Event) :
    State.run ctx s events = s := by
  induction events with
  | nil => rfl
  | cons e rest ih =>
      have hstep : s.step ctx e = s := by
        unfold State.step
        rw [if_pos h]
      rw [State.run, List.foldl_cons, hstep]
      exact ih

/-- From a shutdown on the display stays as it is. -/
theorem published_of_shutdown (ctx : Context) (s : State) (events : List Event) :
    (State.run ctx s (.shutdown :: events)).published = s.published := by
  have hstopped : (s.step ctx .shutdown).stopped = true ∧
      (s.step ctx .shutdown).published = s.published := by
    unfold State.step
    split
    · next h => exact ⟨h, rfl⟩
    · exact ⟨rfl, rfl⟩
  calc (State.run ctx s (.shutdown :: events)).published
      = (State.run ctx (s.step ctx .shutdown) events).published := rfl
    _ = s.published := by rw [run_of_stopped hstopped.1, hstopped.2]

/-! ## All of it -/

/-- What a run has put on display. -/
structure Displayed (ctx : Context) (s : State) (history : List Moment) : Prop where
  /-- No request is left out of what the history heard. -/
  requests : ((heard ctx history).map Prod.fst).Perm s.requests
  /-- The numbers never go down. -/
  descending : Descending s.published
  /-- They are those of cycles that were started. -/
  bounded : ∀ p ∈ s.published, p.cycle ≤ s.lastStarted
  /-- Each snapshot is the result of its own cycle, or stands in for it. -/
  origin : ∀ p ∈ s.published,
    MadeFrom ctx (heard ctx history) p ∨ (IsStandIn ctx p ∧ p.allSourcesFailed = true)
  storeUrl : ∀ p ∈ s.published, p.metrics.storeUrl = ctx.storeUrl

theorem storeUrl_of_genuine {heard : List (Request × Answer)} {p : Snapshot}
    (h : Genuine ctx heard p) : p.metrics.storeUrl = ctx.storeUrl := by
  obtain ⟨answers, -, hp⟩ := h
  obtain ⟨panels, outcome, -, -, hmade⟩ := runCycle_snapshot_eq_some_iff.mp hp
  rw [hmade]
  rfl

theorem IsStandIn.storeUrl {p : Snapshot} (h : IsStandIn ctx p) :
    p.metrics.storeUrl = ctx.storeUrl := by
  obtain ⟨elapsed, completedAt, hp⟩ := h
  rw [hp]
  rfl

/-- The display over a whole run: what is on it, that it only ever adds to
what was on it before, and that a shutdown is its end. -/
theorem displayed_run (ctx : Context) (openedAt : Int) (events : List Event) :
    Displayed ctx (State.run ctx (.initial openedAt) events)
        (State.moments ctx (.initial openedAt) events) ∧
      (∀ first second, events = first ++ second →
        (State.run ctx (.initial openedAt) first).published <:+
          (State.run ctx (.initial openedAt) events).published) ∧
      ∀ first second, events = first ++ .shutdown :: second →
        (State.run ctx (.initial openedAt) events).published =
          (State.run ctx (.initial openedAt) first).published := by
  have hsourced := sourced_run ctx openedAt events
  refine ⟨⟨perm_requests_run ctx openedAt events, descending_run ctx openedAt events,
    bounded_run ctx openedAt events, ?_, ?_⟩, ?_, ?_⟩
  · intro p hp
    rcases hsourced.published p hp with hjoined | hstand
    · exact Or.inl (hsourced.genuine p hjoined).madeFrom
    · exact Or.inr ⟨hstand, hstand.allSourcesFailed⟩
  · intro p hp
    rcases hsourced.published p hp with hjoined | hstand
    · exact storeUrl_of_genuine (hsourced.genuine p hjoined)
    · exact hstand.storeUrl
  · rintro first second rfl
    rw [State.run_append]
    exact published_suffix_run ctx _ second
  · rintro first second rfl
    rw [State.run_append]
    exact published_of_shutdown ctx _ second

end Dashboard.Poller
