import Mathlib
import Dashboard.Fetch.Http
import Dashboard.Proofs.Fetch.Isolation

/-!
# What a request comes back with

Three things can settle an exchange before its deadline: a head whose status
is no success, a connection that breaks, and an answer that is there in full.
The first settles it whatever becomes of the body. Where none of them happens
the request should have timed out, and a reply that says so, and says what
happened where something did, classifies the exchange (`Classified`).

`Course` is what a visit can lead to, one constructor for each of these and
one for the exchange that stalls: its head means success and came in time,
and then the body neither ends nor breaks off by the deadline. That one is
reported as a body that was lost, at the deadline, so the network is blamed
for what was a timeout. Every other exchange is classified
(`classified_iff`). Which status was received, what a body holds and which
path was asked for are right even where an exchange stalls.
-/

namespace Dashboard.Fetch

namespace Exchange

/-! ## What settles an exchange -/

/-- A head has come in time, and its status is no success. -/
def Declined (limit code : Nat) : Exchange → Prop
  | answered at_ c _ => at_ ≤ limit ∧ c = code ∧ ¬(200 ≤ c ∧ c ≤ 299)
  | _ => False

/-- The connection has broken in time, before the head or after it. -/
def Cut (limit : Nat) : Exchange → Prop
  | broken at_ _ => at_ ≤ limit
  | answered headAt _ (.broken at_) => max headAt at_ ≤ limit
  | _ => False

/-- An answer has come in time and in full, and its status is a success. -/
def Delivered (limit : Nat) (bytes : List UInt8) : Exchange → Prop
  | answered headAt code (.complete at_ received) =>
    max headAt at_ ≤ limit ∧ (200 ≤ code ∧ code ≤ 299) ∧ received = bytes
  | _ => False

/-- A head has come in time, and its status is a success. -/
def Accepted (limit : Nat) : Exchange → Prop
  | answered at_ code _ => at_ ≤ limit ∧ 200 ≤ code ∧ code ≤ 299
  | _ => False

/-- Nothing has settled the exchange in time. -/
structure Pending (limit : Nat) (e : Exchange) : Prop where
  kept : ¬ e.Cut limit
  undeclined : ∀ code, ¬ e.Declined limit code
  undelivered : ∀ bytes, ¬ e.Delivered limit bytes

/-- Nothing has settled the exchange in time although its head has come. -/
def Stalled (limit : Nat) (e : Exchange) : Prop := e.Accepted limit ∧ e.Pending limit

variable {e : Exchange} {limit code : Nat} {bytes : List UInt8}

theorem Declined.code_unique {other : Nat} (h : e.Declined limit code)
    (hother : e.Declined limit other) : code = other := by
  cases e with
  | answered => exact h.2.1.symm.trans hother.2.1
  | silent | broken => cases h

theorem Declined.not_accepted (h : e.Declined limit code) : ¬ e.Accepted limit := by
  cases e with
  | answered => exact fun haccepted => h.2.2 haccepted.2
  | silent | broken => cases h

theorem Delivered.accepted (h : e.Delivered limit bytes) : e.Accepted limit := by
  match e, h with
  | answered _ _ (.complete _ _), h => exact ⟨Nat.le_trans (Nat.le_max_left _ _) h.1, h.2.1⟩

theorem Delivered.not_cut (h : e.Delivered limit bytes) : ¬ e.Cut limit := by
  match e, h with
  | answered _ _ (.complete _ _), _ => exact id

theorem Delivered.bytes_unique {other : List UInt8} (h : e.Delivered limit bytes)
    (hother : e.Delivered limit other) : bytes = other := by
  match e, h, hother with
  | answered _ _ (.complete _ _), h, hother => exact h.2.2.symm.trans hother.2.2

end Exchange

open Exchange

/-! ## What a visit leads to -/

/-- The replies that an exchange can be given under a deadline. -/
inductive Course (e : Exchange) (path : String) (limit : Nat) : Reply → Prop
  | declined {after code : Nat} : after ≤ limit → e.Declined limit code →
      Course e path limit ⟨some after, .failed (.status path code)⟩
  | cut {after : Nat} (message : String) : after ≤ limit → e.Cut limit →
      (∀ code, ¬ e.Declined limit code) →
      Course e path limit ⟨some after, .failed (.transport path message)⟩
  | delivered {after : Nat} {bytes : List UInt8} : after ≤ limit → e.Delivered limit bytes →
      Course e path limit ⟨some after, .ofPayload path bytes⟩
  | stalled : e.Stalled limit → Course e path limit ⟨some limit, bodyLost path⟩
  | late : ¬ e.Accepted limit → e.Pending limit → Course e path limit ⟨some limit, late path limit⟩

theorem isSuccess_iff {code : Nat} : isSuccess code = true ↔ 200 ≤ code ∧ code ≤ 299 := by
  simp [isSuccess]

/-- An answer whose head means success and has come in time. -/
theorem Body.course (body : Body) {path : String} {limit headAt code : Nat}
    (htime : headAt ≤ limit) (hcode : 200 ≤ code ∧ code ≤ 299) :
    Course (.answered headAt code body) path limit (body.reply path limit headAt) := by
  have hundeclined : ∀ c, ¬ (answered headAt code body).Declined limit c :=
    fun c h => h.2.2 hcode
  have haccepted : (answered headAt code body).Accepted limit := ⟨htime, hcode⟩
  cases body with
  | missing => exact .stalled ⟨haccepted, id, hundeclined, fun _ => id⟩
  | broken at_ =>
      -- Where the deadline comes first nobody learns that the body breaks off.
      rcases Nat.lt_or_ge limit (max headAt at_) with hlate | hle
      · rw [Body.reply, Nat.min_eq_left (Nat.le_of_lt hlate)]
        exact .stalled ⟨haccepted, Nat.not_le.mpr hlate, hundeclined, fun _ => id⟩
      · rw [Body.reply, Nat.min_eq_right hle]
        exact .cut _ hle hle hundeclined
  | complete at_ bytes =>
      rw [Body.reply]
      split
      case isTrue hle => exact .delivered hle ⟨hle, hcode, rfl⟩
      case isFalse hlate =>
        exact .stalled ⟨haccepted, id, hundeclined, fun _ h => hlate h.1⟩

theorem Visit.course (v : Visit) (path : String) (limit : Nat) :
    Course v.exchange path limit (v.reply path limit) := by
  obtain ⟨url, e⟩ := v
  cases e with
  | silent => exact .late id ⟨id, fun _ => id, fun _ => id⟩
  | broken at_ cause =>
      simp only [Visit.reply]
      split
      case isTrue hle => exact .cut _ hle hle fun _ => id
      case isFalse hlate => exact .late id ⟨hlate, fun _ => id, fun _ => id⟩
  | answered at_ code body =>
      simp only [Visit.reply]
      split
      case isTrue hlate =>
        refine .late (fun h => Nat.not_le.mpr hlate h.1) ⟨?_, ?_, ?_⟩
        · cases body with
          | broken => exact fun h => Nat.not_le.mpr hlate (Nat.le_trans (Nat.le_max_left _ _) h)
          | missing | complete => exact id
        · exact fun _ h => Nat.not_le.mpr hlate h.1
        · exact fun _ h => Nat.not_le.mpr hlate h.accepted.1
      case isFalse hle =>
        have htime : at_ ≤ limit := Nat.le_of_not_lt hle
        split
        case isTrue hsuccess => exact body.course htime (isSuccess_iff.mp hsuccess)
        case isFalse hsuccess =>
          exact .declined htime ⟨htime, rfl, fun h => hsuccess (isSuccess_iff.mpr h)⟩

/-! ## What the outcome says -/

section Payload

variable {path : String} {bytes : List UInt8}

theorem ofPayload_eq_value_iff {v : Json} :
    Outcome.ofPayload path bytes = .value v ↔ Json.decode bytes = .ok v := by
  unfold Outcome.ofPayload
  split <;> simp [*]

theorem ofPayload_eq_failed_iff {f : Failure} :
    Outcome.ofPayload path bytes = .failed f ↔
      ∃ message, Json.decode bytes = .error message ∧ f = .decode path message := by
  unfold Outcome.ofPayload
  split <;> simp [*, eq_comm]

end Payload

namespace Course

variable {e : Exchange} {path : String} {limit : Nat} {r : Reply}

theorem exists_delay (h : Course e path limit r) :
    ∃ d ≤ limit, r.delay = some d ∧ (e.Pending limit → d = limit) := by
  cases h with
  | declined hd hdeclined =>
      exact ⟨_, hd, rfl, fun hpending => absurd hdeclined (hpending.undeclined _)⟩
  | cut _ hd hcut => exact ⟨_, hd, rfl, fun hpending => absurd hcut hpending.kept⟩
  | delivered hd hdelivered =>
      exact ⟨_, hd, rfl, fun hpending => absurd hdelivered (hpending.undelivered _)⟩
  | stalled | late => exact ⟨limit, Nat.le_refl limit, rfl, fun _ => rfl⟩

theorem path?_eq (h : Course e path limit r) {f : Failure} (hf : r.outcome = .failed f) :
    f.path? = some path := by
  cases h with
  | declined | cut | stalled | late =>
      obtain rfl := Outcome.failed.inj hf
      rfl
  | delivered =>
      obtain ⟨message, -, rfl⟩ := ofPayload_eq_failed_iff.mp hf
      rfl

theorem status_iff (h : Course e path limit r) (code : Nat) :
    r.outcome = .failed (.status path code) ↔ e.Declined limit code := by
  cases h with
  | @declined _ received _ hdeclined =>
      constructor
      · intro heq
        obtain rfl : received = code := by simpa using heq
        exact hdeclined
      · intro hcode
        rw [hdeclined.code_unique hcode]
  | cut _ _ _ hnone => exact iff_of_false (by simp) (hnone code)
  | delivered _ hdelivered =>
      exact iff_of_false (by simp [ofPayload_eq_failed_iff])
        fun hcode => hcode.not_accepted hdelivered.accepted
  | stalled hstalled => exact iff_of_false (by simp [bodyLost]) (hstalled.2.undeclined code)
  | late _ hpending => exact iff_of_false (by simp [Fetch.late]) (hpending.undeclined code)

/-- What a body holds is only looked at where it was delivered. -/
theorem delivered_or (h : Course e path limit r) :
    (∃ bytes, e.Delivered limit bytes ∧ r.outcome = .ofPayload path bytes) ∨
      (∀ bytes, ¬ e.Delivered limit bytes) ∧
        ∃ f, r.outcome = .failed f ∧ ∀ message, f ≠ .decode path message := by
  cases h with
  | delivered _ hdelivered => exact .inl ⟨_, hdelivered, rfl⟩
  | declined _ hdeclined =>
      exact .inr ⟨fun _ h => hdeclined.not_accepted h.accepted, _, rfl, by simp⟩
  | cut _ _ hcut => exact .inr ⟨fun _ h => h.not_cut hcut, _, rfl, by simp⟩
  | stalled hstalled => exact .inr ⟨hstalled.2.undelivered, _, rfl, by simp⟩
  | late _ hpending => exact .inr ⟨hpending.undelivered, _, rfl, by simp⟩

theorem value_iff (h : Course e path limit r) (v : Json) :
    r.outcome = .value v ↔ ∃ bytes, e.Delivered limit bytes ∧ Json.decode bytes = .ok v := by
  rcases h.delivered_or with ⟨received, hreceived, houtcome⟩ | ⟨hnone, f, houtcome, -⟩
  · rw [houtcome, ofPayload_eq_value_iff]
    constructor
    · exact fun hv => ⟨received, hreceived, hv⟩
    · rintro ⟨bytes, hbytes, hv⟩
      rwa [hreceived.bytes_unique hbytes]
  · rw [houtcome]
    exact iff_of_false (by simp) fun ⟨bytes, hbytes, _⟩ => hnone bytes hbytes

theorem decode_iff (h : Course e path limit r) :
    (∃ message, r.outcome = .failed (.decode path message)) ↔
      ∃ bytes, e.Delivered limit bytes ∧ ∀ v, Json.decode bytes ≠ .ok v := by
  rcases h.delivered_or with ⟨received, hreceived, houtcome⟩ | ⟨hnone, f, houtcome, hother⟩
  · constructor
    · rintro ⟨message, hmessage⟩
      rw [houtcome, ofPayload_eq_failed_iff] at hmessage
      obtain ⟨_, herror, -⟩ := hmessage
      exact ⟨received, hreceived, fun v hv => by simp [herror] at hv⟩
    · rintro ⟨bytes, hbytes, hnot⟩
      obtain rfl := hreceived.bytes_unique hbytes
      cases hdecode : Json.decode received with
      | ok v => exact absurd hdecode (hnot v)
      | error message =>
          refine ⟨message, ?_⟩
          rw [houtcome, ofPayload_eq_failed_iff]
          exact ⟨message, hdecode, rfl⟩
  · refine iff_of_false ?_ fun ⟨bytes, hbytes, _⟩ => hnone bytes hbytes
    rintro ⟨message, hmessage⟩
    exact hother message (Outcome.failed.inj (houtcome.symm.trans hmessage))

/-- A timeout is reported where nothing has settled the exchange, unless it
stalls. -/
theorem timeout_iff (h : Course e path limit r) :
    r.outcome = Fetch.late path limit ↔ e.Pending limit ∧ ¬ e.Stalled limit := by
  cases h with
  | declined _ hdeclined =>
      exact iff_of_false (by simp [Fetch.late]) fun hp => hp.1.undeclined _ hdeclined
  | cut _ _ hcut => exact iff_of_false (by simp [Fetch.late]) fun hp => hp.1.kept hcut
  | delivered _ hdelivered =>
      exact iff_of_false (by simp [Fetch.late, ofPayload_eq_failed_iff])
        fun hp => hp.1.undelivered _ hdelivered
  | stalled hstalled =>
      exact iff_of_false (by simp [Fetch.late, bodyLost]) fun hp => hp.2 hstalled
  | late hhead hpending => exact iff_of_true rfl ⟨hpending, fun hstalled => hhead hstalled.1⟩

/-- The network is blamed where the connection has broken, and also where an
exchange stalls. -/
theorem transport_iff (h : Course e path limit r) :
    (∃ message, r.outcome = .failed (.transport path message)) ↔
      (e.Cut limit ∧ ∀ code, ¬ e.Declined limit code) ∨ e.Stalled limit := by
  cases h with
  | declined _ hdeclined =>
      refine iff_of_false (by simp) ?_
      rintro (⟨-, hnone⟩ | hstalled)
      · exact hnone _ hdeclined
      · exact hstalled.2.undeclined _ hdeclined
  | cut message _ hcut hnone => exact iff_of_true ⟨message, rfl⟩ (.inl ⟨hcut, hnone⟩)
  | delivered _ hdelivered =>
      refine iff_of_false (by simp [ofPayload_eq_failed_iff]) ?_
      rintro (⟨hcut, -⟩ | hstalled)
      · exact hdelivered.not_cut hcut
      · exact hstalled.2.undelivered _ hdelivered
  | stalled hstalled => exact iff_of_true ⟨_, rfl⟩ (.inr hstalled)
  | late hhead hpending =>
      refine iff_of_false (by simp [Fetch.late]) ?_
      rintro (⟨hcut, -⟩ | hstalled)
      · exact hpending.kept hcut
      · exact hhead hstalled.1

end Course

/-! ## Classification -/

/-- An outcome says what has settled an exchange by the deadline, and that it
was too late where nothing has. -/
structure Classified (e : Exchange) (path : String) (limit : Nat) (o : Outcome) : Prop where
  status : ∀ code, o = .failed (.status path code) ↔ e.Declined limit code
  timeout : o = late path limit ↔ e.Pending limit
  transport : (∃ message, o = .failed (.transport path message)) ↔
    e.Cut limit ∧ ∀ code, ¬ e.Declined limit code
  decode : (∃ message, o = .failed (.decode path message)) ↔
    ∃ bytes, e.Delivered limit bytes ∧ ∀ v, Json.decode bytes ≠ .ok v
  value : ∀ v, o = .value v ↔ ∃ bytes, e.Delivered limit bytes ∧ Json.decode bytes = .ok v
  path : ∀ f, o = .failed f → f.path? = some path

namespace Course

variable {e : Exchange} {path : String} {limit : Nat} {r : Reply}

theorem outcome_of_stalled (h : Course e path limit r) (hstalled : e.Stalled limit) :
    r.outcome = bodyLost path := by
  cases h with
  | stalled => rfl
  | declined _ hdeclined => exact absurd hdeclined (hstalled.2.undeclined _)
  | cut _ _ hcut => exact absurd hcut hstalled.2.kept
  | delivered _ hdelivered => exact absurd hdelivered (hstalled.2.undelivered _)
  | late hhead => exact absurd hstalled.1 hhead

theorem classified_of_not_stalled (h : Course e path limit r) (hstalled : ¬ e.Stalled limit) :
    Classified e path limit r.outcome where
  status := h.status_iff
  timeout := h.timeout_iff.trans (and_iff_left hstalled)
  transport := h.transport_iff.trans (or_iff_left hstalled)
  decode := h.decode_iff
  value := h.value_iff
  path := fun _ => h.path?_eq

theorem not_classified_of_stalled (h : Course e path limit r) (hstalled : e.Stalled limit) :
    ¬ Classified e path limit r.outcome := by
  intro hclassified
  have hblamed := h.transport_iff.mpr (.inr hstalled)
  exact hstalled.2.kept (hclassified.transport.mp hblamed).1

end Course

/-- Every request ends by its deadline, and at no other time if nothing has
settled the exchange by then. Its outcome classifies the exchange it led to
unless that stalls; then the body counts as lost. -/
theorem classified_iff (b : HttpBackend) (visit : Url → Visit) (path : String) {url : Url}
    (h : b.target path = .ok url) :
    (∃ d ≤ b.timeout, (b.reply visit path).delay = some d ∧
        ((visit url).exchange.Pending b.timeout → d = b.timeout)) ∧
      (Classified (visit url).exchange path b.timeout (b.reply visit path).outcome ↔
        ¬ (visit url).exchange.Stalled b.timeout) ∧
      ((visit url).exchange.Stalled b.timeout →
        (b.reply visit path).outcome = bodyLost path) := by
  have hreply : b.reply visit path = (visit url).reply path b.timeout := by
    rw [HttpBackend.reply, h]
  have hcourse := (visit url).course path b.timeout
  rw [hreply]
  refine ⟨hcourse.exists_delay, ⟨fun hclassified hstalled => ?_, ?_⟩, ?_⟩
  · exact hcourse.not_classified_of_stalled hstalled hclassified
  · exact hcourse.classified_of_not_stalled
  · exact hcourse.outcome_of_stalled

set_option maxRecDepth 4000 in
/-- Of two answers with the same head, the one that is there in full is
classified. The other, of which no more than the head comes, is not. -/
theorem classified_of_full_of_stalled :
    let b := HttpBackend.ofUrl "http://127.0.0.1:8088" 200
    let full : Exchange := .answered 3 200 (.complete 7 [0x7b, 0x7d])
    let stalled : Exchange := .answered 3 200 .missing
    ∃ url, b.target "/x" = .ok url ∧
      Classified full "/x" 200 (b.reply (fun url => ⟨url, full⟩) "/x").outcome ∧
      stalled.Stalled 200 ∧
      (b.reply (fun url => ⟨url, stalled⟩) "/x").outcome = bodyLost "/x" ∧
      ¬ Classified stalled "/x" 200 (bodyLost "/x") := by
  intro b full stalled
  have hasked : (b.target "/x").isOk = true := by cbv
  cases htarget : b.target "/x" with
  | error e =>
      rw [htarget] at hasked
      cases hasked
  | ok url =>
      have hfull : ¬ full.Stalled 200 := fun h => h.2.undelivered _ ⟨by decide, by decide, rfl⟩
      have hstalled : stalled.Stalled 200 :=
        ⟨⟨by decide, by decide⟩, id, fun _ h => h.2.2 (by decide), fun _ => id⟩
      obtain ⟨-, hiff, -⟩ := classified_iff b (fun url => ⟨url, full⟩) "/x" htarget
      obtain ⟨-, hiff', hlost⟩ := classified_iff b (fun url => ⟨url, stalled⟩) "/x" htarget
      have hnot := fun h => hiff'.mp h hstalled
      rw [hlost hstalled] at hnot
      exact ⟨url, rfl, hiff.mpr hfull, hstalled, hlost hstalled, hnot⟩

end Dashboard.Fetch
