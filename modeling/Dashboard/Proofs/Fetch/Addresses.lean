import Dashboard.Fetch.Http
import Dashboard.Proofs.Fetch.StoreUrl

/-!
# Addresses between the check and their use

A session uses three addresses of its settings: the backend's, to which the
paths of all requests are appended, that of the metrics store if the backend
announces none, and the one of the link. All three are checked as they are
written and used without the slashes at their end.

What is used is then what was checked but for these slashes, and it is an
address of the web still unless nothing else stood after the scheme (`Kept`).
A path appended to a bare address of the backend begins no address of the web
either. It is read as one all the same, since the number of slashes before a
host does not matter, and so the path loses its first piece to the host
(`target_of_bare`).
-/

namespace Dashboard

open Config (Bare isWebUrl webSchemes)
open Text (WithoutSlashes dropTrailingSlashes)

/-! ## Reading an address of the web -/

namespace Url

variable {s r : List Char}

/-- A text without the characters up to the space at its end, and without
tabs and line breaks anywhere. -/
def tidyEnd (s : List Char) : List Char :=
  (Text.dropTrailing (·.toNat ≤ 32) s).filter fun c => c != '\t' && c != '\n' && c != '\r'

theorem tidy_append (hne : s ≠ []) (h : ∀ a ∈ s, 32 < a.toNat) :
    tidy (s ++ r) = s ++ tidyEnd r := by
  have hgreater : ∀ a ∈ s, decide (a.toNat ≤ 32) = false := fun a ha => by
    simpa using h a ha
  have hstart : (s ++ r).dropWhile (·.toNat ≤ 32) = s ++ r := by
    obtain ⟨a, t, rfl⟩ := List.exists_cons_of_ne_nil hne
    rw [List.cons_append, List.dropWhile_cons_of_neg]
    rw [hgreater a List.mem_cons_self]
    exact Bool.false_ne_true
  have hkept : s.filter (fun a => a != '\t' && a != '\n' && a != '\r') = s := by
    refine List.filter_eq_self.mpr fun a ha => ?_
    have hother : ∀ b : Char, b.toNat ≤ 32 → (a != b) = true := fun b hb => by
      rw [bne_iff_ne]
      rintro rfl
      exact absurd hb (Nat.not_le.mpr (h a ha))
    rw [hother '\t' (by decide), hother '\n' (by decide), hother '\r' (by decide)]
    rfl
  rw [tidy, Text.dropEdges, hstart, Text.dropTrailing_append_left _ hgreater, List.filter_append,
    hkept, tidyEnd]

/-- A scheme and slashes stay when a text is tidied. -/
theorem tidy_scheme (hs : s ∈ webSchemes) (n : Nat) :
    tidy (s ++ (List.replicate n '/' ++ r)) = s ++ (List.replicate n '/' ++ tidyEnd r) := by
  rw [← List.append_assoc, ← List.append_assoc]
  refine tidy_append ?_ fun a ha => ?_
  · rcases List.mem_pair.mp hs with rfl | rfl <;> simp
  · rcases List.mem_append.mp ha with ha | ha
    · exact Config.lt_of_mem_webSchemes hs ha
    · rw [List.eq_of_mem_replicate ha]
      decide

theorem cutScheme?_scheme (hs : s ∈ webSchemes) : cutScheme? (s ++ r) = some (s.dropLast, r) := by
  rcases List.mem_pair.mp hs with rfl | rfl <;> rfl

/-- The scheme of an address is the one that its text begins with. -/
theorem scheme_of_read? {url : Url} (hs : s ∈ webSchemes) (h : read? (s ++ r) = some url) :
    url.scheme ++ [':'] = s := by
  have htidy : tidy (s ++ r) = s ++ tidyEnd r := tidy_scheme hs 0
  rw [read?, htidy, cutScheme?_scheme hs] at h
  simp only [Option.bind_eq_bind, Option.bind_some, Option.bind_eq_some_iff] at h
  obtain ⟨place, -, hurl⟩ := h
  have hscheme : s.dropLast = url.scheme := congrArg Url.scheme (Option.some.inj hurl)
  rw [← hscheme]
  rcases List.mem_pair.mp hs with rfl | rfl <;> rfl

/-- One slash before a host is as good as two. -/
theorem read?_slash (hs : s ∈ webSchemes) :
    read? (s ++ '/' :: r) = read? (s ++ '/' :: '/' :: r) := by
  have hone : tidy (s ++ '/' :: r) = s ++ '/' :: tidyEnd r := tidy_scheme hs 1
  have htwo : tidy (s ++ '/' :: '/' :: r) = s ++ '/' :: '/' :: tidyEnd r := tidy_scheme hs 2
  rw [read?, read?, hone, htwo, cutScheme?_scheme hs, cutScheme?_scheme hs]
  rcases List.mem_pair.mp hs with rfl | rfl <;> rfl

end Url

namespace Fetch

/-! ## What is used of the settings -/

variable {c : Config} {checked used : String}

/-- What is used of an address that passed the check: the address without the
slashes at its end, which is one of the web unless the address was bare. -/
structure Kept (checked used : String) : Prop where
  slashes : WithoutSlashes checked used
  web : isWebUrl used = true ↔ ¬ Bare checked

theorem kept_of_isWebUrl (h : isWebUrl checked = true) (hused : WithoutSlashes checked used) :
    Kept checked used := by
  refine ⟨hused, ?_⟩
  rw [← hused.eq_dropTrailingSlashes, Config.isWebUrl_dropTrailingSlashes]
  exact and_iff_right h

/-! ## What is asked of the backend -/

/-- The address under which a backend is asked for a path. -/
def HttpBackend.address (b : HttpBackend) (path : String) : String := b.baseUrl ++ path

theorem HttpBackend.read?_of_target {b : HttpBackend} {path : String} {url : Url}
    (h : b.target path = .ok url) :
    ∃ read, Url.read? (b.address path).toList = some read ∧ url = read.anonymous ∧
      isUsable url = true := by
  rw [HttpBackend.target] at h
  rw [HttpBackend.address, String.toList_append]
  split at h
  · cases h
  case _ read hread =>
    split at h
    case isTrue husable =>
      obtain rfl : read.anonymous = url := Except.ok.inj h
      exact ⟨read, hread, rfl, husable⟩
    case isFalse => cases h

/-- The text of an address that can be asked for begins with its scheme and
the two slashes of a host. -/
theorem begins_text {url : Url} (h : isUsable url = true) :
    url.scheme ++ [':', '/', '/'] <+: url.text := by
  rw [isUsable, Bool.and_eq_true, Bool.and_eq_true] at h
  obtain ⟨⟨-, hhost⟩, -⟩ := h
  rw [Url.text, Url.placeText]
  cases hauthority : url.authority with
  | none =>
      rw [hauthority] at hhost
      cases hhost
  | some a => simp

theorem begins_queryPath (expr : String) : ['/', 'a'] <+: (Gauge.queryPath expr).toList := by
  have hfirst : ['/', 'a'] <+: "/api/prometheus?expr=".toList := by decide
  unfold Gauge.queryPath
  simp only [String.toList_append]
  exact hfirst.trans (List.prefix_append _ _)

theorem begins_path (e : Endpoint) : ['/', 'a'] <+: e.path.toList := by
  cases e with
  | settings => decide
  | source s => cases s <;> decide
  | gauge g => exact begins_queryPath g.query

/-- How a request belongs to an address that passed the check. -/
structure Asked (checked : String) (b : HttpBackend) (path : String) : Prop where
  appended : ∃ used, WithoutSlashes checked used ∧ b.address path = used ++ path
  web : isWebUrl (b.address path) = true ↔ ¬ Bare checked
  scheme : ∀ url, b.target path = .ok url →
    ∃ s ∈ webSchemes, s <+: checked.toList ∧ s ++ ['/', '/'] <+: url.text

theorem toList_address (checked : String) (timeout : Nat) (path : String) :
    ((HttpBackend.ofUrl checked timeout).address path).toList =
      (dropTrailingSlashes checked).toList ++ path.toList :=
  String.toList_append ..

/-- One slash alone comes after the scheme of a bare address. -/
theorem not_isWebUrl_address (h : Bare checked) (timeout : Nat) (e : Endpoint) :
    isWebUrl ((HttpBackend.ofUrl checked timeout).address e.path) ≠ true := by
  intro hweb
  obtain ⟨s, hs, hleft⟩ := Config.dropTrailingSlashes_of_bare h
  obtain ⟨r, hr⟩ := begins_path e
  obtain ⟨s', hs', hbegins⟩ := Config.isWebUrl_iff.mp hweb
  rw [toList_address, hleft, String.toList_ofList, ← hr] at hbegins
  rcases List.mem_pair.mp hs with rfl | rfl <;> rcases List.mem_pair.mp hs' with rfl | rfl <;>
    simp at hbegins

/-- The scheme that is asked is the one that was checked. -/
theorem begins_target (h : isWebUrl checked = true) {timeout : Nat} {path : String} {url : Url}
    (htarget : (HttpBackend.ofUrl checked timeout).target path = .ok url) :
    ∃ s ∈ webSchemes, s <+: checked.toList ∧ s ++ ['/', '/'] <+: url.text := by
  obtain ⟨s, hs, r, hr⟩ := Config.exists_scheme h
  obtain ⟨read, hread, rfl, husable⟩ := HttpBackend.read?_of_target htarget
  have hscheme : read.scheme ++ [':'] = s := by
    rw [toList_address, ← hr, List.append_assoc] at hread
    exact Url.scheme_of_read? hs hread
  have hchecked : s <+: checked.toList := by
    obtain ⟨n, hslashes⟩ := (Text.withoutSlashes_dropTrailingSlashes checked).slashes
    rw [hslashes, ← hr, List.append_assoc]
    exact List.prefix_append _ _
  refine ⟨s, hs, hchecked, ?_⟩
  have htext : read.scheme ++ [':', '/', '/'] <+: read.anonymous.text := begins_text husable
  rw [← hscheme, List.append_assoc]
  exact htext

theorem asked_ofUrl (h : isWebUrl checked = true) (timeout : Nat) (e : Endpoint) :
    Asked checked (HttpBackend.ofUrl checked timeout) e.path where
  appended := ⟨_, Text.withoutSlashes_dropTrailingSlashes checked, rfl⟩
  web := by
    constructor
    · intro hweb hbare
      exact not_isWebUrl_address hbare timeout e hweb
    · intro hbare
      have hused := Config.isWebUrl_dropTrailingSlashes.mpr ⟨h, hbare⟩
      exact Config.isWebUrl_of_begins hused ⟨e.path.toList, (toList_address ..).symm⟩
  scheme _ := begins_target h

/-- Where nothing else stands after the scheme, a path loses its first piece
to the host. -/
theorem target_of_bare (h : Bare checked) {path : String} {r : List Char}
    (hpath : path.toList = '/' :: r) (timeout : Nat) :
    ∃ s ∈ webSchemes, s <+: checked.toList ∧
      (HttpBackend.ofUrl checked timeout).target path =
        (HttpBackend.mk (String.ofList (s ++ ['/', '/'])) timeout).target (String.ofList r) := by
  obtain ⟨s, hs, n, hn⟩ := h
  have hleft := (Config.withoutSlashes_scheme hs hn).eq_dropTrailingSlashes
  refine ⟨s, hs, ⟨_, hn.symm⟩, ?_⟩
  rw [HttpBackend.target, HttpBackend.target, HttpBackend.ofUrl]
  simp only [hleft, String.toList_ofList, hpath, List.append_assoc, List.cons_append,
    List.nil_append]
  rw [Url.read?_slash hs]

/-! ## Settings that passed the check -/

/-- Of settings that pass the check every address is used as it was checked
but for the slashes at its end. It begins like an address of the web still,
and so does what is asked for under it, exactly if something stood after its
scheme, which is also what a check without the slashes looks for. -/
theorem addresses_kept (c : Config) (settings : Option Json) (valid : c.validate = .ok ()) :
    Kept c.backend.baseUrl
      (HttpBackend.ofUrl c.backend.baseUrl c.backend.requestTimeout.toNat).baseUrl ∧
    (∀ e : Endpoint, Asked c.backend.baseUrl
      (HttpBackend.ofUrl c.backend.baseUrl c.backend.requestTimeout.toNat) e.path) ∧
    Kept c.links.grafanaUrl (Context.ofSettings c settings).grafanaUrl ∧
    ((∀ t, announcedText? settings = some t → Text.trim t = "") →
      Kept c.links.storeFallback (Context.ofSettings c settings).storeUrl) ∧
    (c.withoutSlashes.validate = .ok () ↔
      ¬ Bare c.backend.baseUrl ∧ ¬ Bare c.links.storeFallback ∧ ¬ Bare c.links.grafanaUrl) := by
  obtain ⟨hbase, hstore, hgrafana, -⟩ := Config.validate_eq_ok_iff.mp valid
  refine ⟨?_, fun e => asked_ofUrl hbase _ e, ?_, fun hsilent => ?_, ?_⟩
  · exact kept_of_isWebUrl hbase (Text.withoutSlashes_dropTrailingSlashes _)
  · exact kept_of_isWebUrl hgrafana (Text.withoutSlashes_dropTrailingSlashes _)
  · exact kept_of_isWebUrl hstore (storeUrl_of_silent hsilent)
  · rw [Config.validate_withoutSlashes]
    exact and_iff_right valid

/-- Settings that pass the check with addresses of the backend and of the
link that are bare, one of them with a slash too many. -/
def bareConfig : Config where
  backend := { baseUrl := "http:///" }
  links := { grafanaUrl := "https://" }

/-- The slashes that make a bare address pass the check are those that are
dropped. -/
theorem addresses_kept_of_bareConfig :
    bareConfig.validate = .ok () ∧
      (Context.ofSettings bareConfig (some .null)).grafanaUrl = "https:" ∧
      isWebUrl "https:" = false ∧
      (∀ e : Endpoint,
        isWebUrl ((HttpBackend.ofUrl "http:///" 5000).address e.path) = false) ∧
      bareConfig.withoutSlashes.validate ≠ .ok () := by
  have hvalid : bareConfig.validate = .ok () := by decide
  obtain ⟨-, hasked, hlink, -, hcheck⟩ :=
    addresses_kept bareConfig (some .null) hvalid
  have hbare : Bare "http:///" := ⟨"http:".toList, by decide, 3, by decide⟩
  have hleft : WithoutSlashes "https://" "https:" := ⟨⟨2, by decide⟩, by decide⟩
  refine ⟨hvalid, ?_, by decide, fun e => ?_, fun h => (hcheck.mp h).1 hbare⟩
  · rw [← hlink.slashes.eq_dropTrailingSlashes]
    exact hleft.eq_dropTrailingSlashes
  · rw [← Bool.not_eq_true]
    exact fun hweb => (hasked e).web.mp hweb hbare

end Fetch

end Dashboard
