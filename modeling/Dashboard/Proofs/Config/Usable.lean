import Dashboard.Config.Validate
import Dashboard.Proofs.Config.Setting
import Dashboard.Proofs.Text.Edges

/-!
# Usable settings and the slashes of their addresses

Settings are checked before the slashes at the end of their addresses are
dropped. Dropping them changes nothing about how an address begins unless
they are all that stands after its scheme: such an address passes the check
as one of the web and is none when it is used (`isWebUrl_dropTrailingSlashes`).

So checking settings without these slashes is checking them as they are and
looking for bare addresses (`validate_withoutSlashes`). An override drops the
slashes first, and no bare address that it sets passes (`not_bare_of_set`).
-/

namespace Dashboard.Config

open Text (WithoutSlashes dropTrailingSlashes)

/-! ## Addresses of the web -/

/-- The schemes of the web, each with its colon. -/
def webSchemes : List (List Char) := ["http:".toList, "https:".toList]

/-- Nothing but slashes stands after the scheme of an address. -/
def Bare (url : String) : Prop :=
  ∃ s ∈ webSchemes, ∃ n, url.toList = s ++ List.replicate n '/'

variable {url : String} {s : List Char}

theorem lt_of_mem_webSchemes {c : Char} (hs : s ∈ webSchemes) (hc : c ∈ s) : 32 < c.toNat := by
  have hall : (webSchemes.all fun s => s.all fun c => decide (32 < c.toNat)) = true := by decide
  exact of_decide_eq_true (List.all_eq_true.mp (List.all_eq_true.mp hall s hs) c hc)

theorem isWebUrl_iff :
    isWebUrl url = true ↔ ∃ s ∈ webSchemes, s ++ ['/', '/'] <+: url.toList := by
  rw [isWebUrl, Bool.or_eq_true, List.isPrefixOf_iff_prefix, List.isPrefixOf_iff_prefix]
  constructor
  · rintro (h | h)
    · exact ⟨"http:".toList, by decide, h⟩
    · exact ⟨"https:".toList, by decide, h⟩
  · rintro ⟨s, hs, h⟩
    rcases List.mem_pair.mp hs with rfl | rfl
    · exact Or.inl h
    · exact Or.inr h

theorem isWebUrl_of_begins {longer : String} (h : isWebUrl url = true)
    (hbegins : url.toList <+: longer.toList) : isWebUrl longer = true := by
  obtain ⟨s, hs, hslashes⟩ := isWebUrl_iff.mp h
  exact isWebUrl_iff.mpr ⟨s, hs, hslashes.trans hbegins⟩

theorem isWebUrl_scheme (hs : s ∈ webSchemes) : isWebUrl (String.ofList s) = false := by
  rcases List.mem_pair.mp hs with rfl | rfl <;> decide

/-- What is left of a scheme with slashes after it is the scheme. -/
theorem withoutSlashes_scheme (hs : s ∈ webSchemes) {n : Nat}
    (h : url.toList = s ++ List.replicate n '/') : WithoutSlashes url (String.ofList s) := by
  refine ⟨⟨n, by rw [String.toList_ofList, h]⟩, ?_⟩
  rw [String.toList_ofList]
  rcases List.mem_pair.mp hs with rfl | rfl <;> decide

theorem dropTrailingSlashes_of_bare (h : Bare url) :
    ∃ s ∈ webSchemes, dropTrailingSlashes url = String.ofList s := by
  obtain ⟨s, hs, n, hn⟩ := h
  exact ⟨s, hs, (withoutSlashes_scheme hs hn).eq_dropTrailingSlashes⟩

/-- Without the slashes at its end an address is one of the web exactly if it
was one before and has something after its scheme. -/
theorem isWebUrl_dropTrailingSlashes :
    isWebUrl (dropTrailingSlashes url) = true ↔ isWebUrl url = true ∧ ¬ Bare url := by
  have hdrop := Text.withoutSlashes_dropTrailingSlashes url
  obtain ⟨n, hurl⟩ := hdrop.slashes
  constructor
  · intro h
    refine ⟨isWebUrl_of_begins h ⟨List.replicate n '/', hurl.symm⟩, fun hbare => ?_⟩
    obtain ⟨s, hs, hscheme⟩ := dropTrailingSlashes_of_bare hbare
    rw [hscheme, isWebUrl_scheme hs] at h
    cases h
  · rintro ⟨hweb, hbare⟩
    obtain ⟨s, hs, r, hr⟩ := isWebUrl_iff.mp hweb
    rw [hurl] at hr
    rcases List.append_eq_append_iff.mp hr with ⟨c, hkept, -⟩ | ⟨c, hscheme, hslashes⟩
    · -- The two slashes of the scheme stay.
      exact isWebUrl_iff.mpr ⟨s, hs, c, hkept.symm⟩
    · -- The slashes at the end begin with those of the scheme, or within them.
      obtain ⟨-, hc, -⟩ := List.append_eq_replicate_iff.mp hslashes.symm
      have hsame : WithoutSlashes (String.ofList (s ++ List.replicate 2 '/'))
          (dropTrailingSlashes url) :=
        ⟨⟨c.length, by rw [← hc, ← hscheme, String.toList_ofList]; rfl⟩, hdrop.last⟩
      have hleft : dropTrailingSlashes url = String.ofList s :=
        hsame.eq_dropTrailingSlashes.symm.trans
          (withoutSlashes_scheme hs (String.toList_ofList ..)).eq_dropTrailingSlashes
      exact absurd ⟨s, hs, n, by rw [hurl, hleft, String.toList_ofList]⟩ hbare

theorem not_bare_of_last (h : isWebUrl url = true) (hlast : url.toList.getLast? ≠ some '/') :
    ¬ Bare url := by
  have hsame := (WithoutSlashes.of_last hlast).eq_dropTrailingSlashes
  rw [← hsame] at h
  exact (isWebUrl_dropTrailingSlashes.mp h).2

/-- Bare or not, an address of the web keeps its scheme. -/
theorem exists_scheme (h : isWebUrl url = true) :
    ∃ s ∈ webSchemes, s <+: (dropTrailingSlashes url).toList := by
  by_cases hbare : Bare url
  · obtain ⟨s, hs, hleft⟩ := dropTrailingSlashes_of_bare hbare
    have hsame : (dropTrailingSlashes url).toList = s := by rw [hleft, String.toList_ofList]
    exact ⟨s, hs, hsame ▸ List.prefix_rfl⟩
  · obtain ⟨s, hs, hbegins⟩ := isWebUrl_iff.mp (isWebUrl_dropTrailingSlashes.mpr ⟨h, hbare⟩)
    exact ⟨s, hs, (List.prefix_append ..).trans hbegins⟩

/-! ## The check -/

variable {c : Config}

theorem requireWebUrl_bind_eq_ok_iff {key : String} {f : Unit → Except ConfigError Unit} :
    requireWebUrl key url >>= f = .ok () ↔ isWebUrl url = true ∧ f () = .ok () := by
  rw [requireWebUrl]
  cases isWebUrl url with
  | false => simp [bind, Except.bind]
  | true => simp [bind, Except.bind]

theorem validate_eq_ok_iff :
    c.validate = .ok () ↔
      isWebUrl c.backend.baseUrl = true ∧ isWebUrl c.links.storeFallback = true ∧
        isWebUrl c.links.grafanaUrl = true ∧ c.backend.requestTimeout ≠ 0 ∧
        ¬ c.refresh.interval < leastInterval := by
  rw [validate, requireWebUrl_bind_eq_ok_iff, requireWebUrl_bind_eq_ok_iff,
    requireWebUrl_bind_eq_ok_iff]
  by_cases htimeout : c.backend.requestTimeout = 0
  · simp [htimeout, throw, throwThe, MonadExceptOf.throw, bind, Except.bind]
  · simp [htimeout, throw, throwThe, MonadExceptOf.throw, pure, Except.pure]

/-- Settings can be used without the slashes at the end of their addresses
exactly if they can be used as they are and none of the addresses is bare. -/
theorem validate_withoutSlashes :
    c.withoutSlashes.validate = .ok () ↔
      c.validate = .ok () ∧ ¬ Bare c.backend.baseUrl ∧ ¬ Bare c.links.storeFallback ∧
        ¬ Bare c.links.grafanaUrl := by
  rw [validate_eq_ok_iff, validate_eq_ok_iff]
  simp only [withoutSlashes, isWebUrl_dropTrailingSlashes]
  grind

/-- An override drops the slashes before the check, which then refuses an
address that was bare. -/
theorem not_bare_of_set {d : Config} {k : ConfigKey} {text : String} (h : c.set k text = .ok d)
    (valid : d.validate = .ok ()) :
    (k = .backendBaseUrl → ¬ Bare d.backend.baseUrl) ∧
      (k = .linksStoreFallback → ¬ Bare d.links.storeFallback) := by
  have hlast := (Text.withoutSlashes_dropTrailingSlashes text).last
  obtain ⟨hbase, hstore, -⟩ := validate_eq_ok_iff.mp valid
  constructor
  · rintro rfl
    obtain rfl := Except.ok.inj h
    exact not_bare_of_last hbase hlast
  · rintro rfl
    obtain rfl := Except.ok.inj h
    exact not_bare_of_last hstore hlast

end Dashboard.Config
