import Dashboard.Fetch.Bootstrap
import Dashboard.Proofs.Config.Usable

/-!
# The address of the metrics store

The address that a session uses is the one that the backend's settings
announce or, where they announce none, the configured one. An announced
address is trimmed, then it is looked at whether anything is left, and then
the slashes at its end are dropped. Dropping them can undo what was looked
at: it can leave nothing, and it can leave a blank character at the end.

`Proper` says what one expects of the address, and `proper_iff` that it is
so exactly when the announced address is not of this kind.
-/

namespace Dashboard.Fetch

open Text (Trimmed WithoutSlashes dropTrailingSlashes isBlank trim)

/-- The text that the backend's settings announce, if they could be had. -/
def announcedText? (settings : Option Json) : Option String :=
  (settings.bind (Json.get? "prometheusURL")).bind Json.string?

/-- Something is left of a text without blank characters at its ends and
slashes after that. -/
def Usable (t : String) : Prop := ∃ u, WithoutSlashes (trim t) u ∧ u ≠ ""

/-- The slashes at the end of a text have nothing or a blank character before
them. -/
def Ragged (t : String) : Prop :=
  ∃ s n, (trim t).toList = s ++ List.replicate (n + 1) '/' ∧
    ∀ c, s.getLast? = some c → isBlank c = true

/-- What is expected of an address, given the announced text if there is one
and the configured address. -/
structure Proper (announced : Option String) (fallback url : String) : Prop where
  nonempty : url ≠ ""
  clean : ∀ t, announced = some t → Usable t → Trimmed url ∧ url.toList.getLast? ≠ some '/'
  standIn : (∀ t, announced = some t → ¬ Usable t) → WithoutSlashes fallback url
  stable : ∀ t, announced = some t → Usable t →
    storeUrl (some (.object [("prometheusURL", .string url)])) fallback = url

/-! ## The two ways to an address -/

variable {config : Config} {settings : Option Json} {t : String}

theorem storeUrl_ofSettings (config : Config) (settings : Option Json) :
    (Context.ofSettings config settings).storeUrl =
      dropTrailingSlashes ((((announcedText? settings).map trim).filter (· != "")).getD
        config.links.storeFallback) := by
  rw [Context.ofSettings, storeUrl, announcedText?]
  cases settings <;> rfl

/-- An announced text that is not blank is used. -/
theorem storeUrl_of_announced (h : announcedText? settings = some t) (ht : trim t ≠ "") :
    WithoutSlashes (trim t) (Context.ofSettings config settings).storeUrl := by
  have hkept : (some (trim t)).filter (· != "") = some (trim t) := by simpa using ht
  rw [storeUrl_ofSettings, h, Option.map_some, hkept]
  exact Text.withoutSlashes_dropTrailingSlashes _

theorem storeUrl_of_silent (h : ∀ t, announcedText? settings = some t → trim t = "") :
    WithoutSlashes config.links.storeFallback (Context.ofSettings config settings).storeUrl := by
  have hnone : ((announcedText? settings).map trim).filter (· != "") = none := by
    cases hannounced : announcedText? settings with
    | none => rfl
    | some t => simp [h t hannounced]
  rw [storeUrl_ofSettings, hnone]
  exact Text.withoutSlashes_dropTrailingSlashes _

/-- What stands in is never empty, for it is an address of the web. -/
theorem ne_empty_of_validate {url : String} (valid : config.validate = .ok ())
    (h : WithoutSlashes config.links.storeFallback url) : url ≠ "" := by
  obtain ⟨-, hweb, -⟩ := Config.validate_eq_ok_iff.mp valid
  have hletter : 'h' ∈ config.links.storeFallback.toList := by
    rw [Config.isWebUrl, Bool.or_eq_true, List.isPrefixOf_iff_prefix,
      List.isPrefixOf_iff_prefix] at hweb
    rcases hweb with hprefix | hprefix
    · exact hprefix.subset (by simp)
    · exact hprefix.subset (by simp)
  rintro rfl
  exact List.not_mem_nil (h.mem hletter (by decide))

/-! ## What the slashes leave -/

theorem not_usable_of_blank (ht : trim t = "") : ¬ Usable t := by
  rintro ⟨u, hu, hne⟩
  obtain ⟨n, hs⟩ := hu.slashes
  rw [ht] at hs
  exact hne (String.toList_eq_nil_iff.mp (List.append_eq_nil_iff.mp hs.symm).1)

/-- Of a text that is not ragged a clean text is left, unless it is blank. -/
theorem clean_of_not_ragged {u : String} (h : ¬ Ragged t) (ht : trim t ≠ "")
    (hu : WithoutSlashes (trim t) u) : u ≠ "" ∧ Trimmed u := by
  obtain ⟨n, hs⟩ := hu.slashes
  have htrimmed := Text.trimmed_trim t
  cases n with
  | zero =>
      have hsame : trim t = u := String.toList_inj.mp (by simpa using hs)
      rw [← hsame]
      exact ⟨ht, htrimmed⟩
  | succ n =>
      have hlast : ¬ ∀ c, u.toList.getLast? = some c → isBlank c = true := fun hblank =>
        h ⟨u.toList, n, hs, hblank⟩
      push Not at hlast
      obtain ⟨c, hc, hplain⟩ := hlast
      refine ⟨?_, fun d hd => htrimmed.head d ?_, fun d hd => ?_⟩
      · rintro rfl
        cases hc
      · rw [hs, List.head?_append, hd]
        rfl
      · obtain rfl := Option.some.inj (hc.symm.trans hd)
        exact Bool.not_eq_true _ ▸ hplain

/-- Of a ragged text nothing is left, or a text that ends in a blank. -/
theorem ragged_left {u : String} (h : Ragged t) (hu : WithoutSlashes (trim t) u) :
    ∀ c, u.toList.getLast? = some c → isBlank c = true := by
  obtain ⟨s, n, hs, hblank⟩ := h
  have hleft : WithoutSlashes (trim t) (String.ofList s) := by
    refine ⟨⟨n + 1, by rw [hs, String.toList_ofList]⟩, fun hlast => ?_⟩
    rw [String.toList_ofList] at hlast
    exact absurd (hblank _ hlast) (by decide)
  rw [← hu.eq_dropTrailingSlashes, hleft.eq_dropTrailingSlashes, String.toList_ofList]
  exact hblank

theorem not_blank_of_ragged (h : Ragged t) : trim t ≠ "" := by
  obtain ⟨s, n, hs, -⟩ := h
  intro hempty
  rw [hempty] at hs
  simp at hs

theorem stable_of_clean {fallback url : String} (hne : url ≠ "") (htrimmed : Trimmed url)
    (hslash : url.toList.getLast? ≠ some '/') :
    storeUrl (some (.object [("prometheusURL", .string url)])) fallback = url := by
  have hannounced : announcedUrl? (.object [("prometheusURL", .string url)]) = some url := by
    simp [announcedUrl?, Json.get?, Json.members?, Json.lookup, Json.string?,
      Text.trim_of_trimmed htrimmed, hne]
  rw [storeUrl, Option.bind_some, hannounced]
  exact (WithoutSlashes.of_last hslash).eq_dropTrailingSlashes

section Addresses

variable {announced : Option String} {fallback url : String}

theorem not_proper_of_ragged (ht : announced = some t) (h : Ragged t)
    (hurl : WithoutSlashes (trim t) url) : ¬ Proper announced fallback url := by
  intro hproper
  have husable : Usable t := ⟨url, hurl, hproper.nonempty⟩
  have hclean := (hproper.clean t ht husable).1
  cases hlast : url.toList.getLast? with
  | none =>
      have hnil := List.getLast?_eq_none_iff.mp hlast
      exact hproper.nonempty (String.toList_eq_nil_iff.mp hnil)
  | some c =>
      have hblank := ragged_left h hurl c hlast
      rw [hclean.last c hlast] at hblank
      cases hblank

theorem proper_of_not_ragged (ht : announced = some t) (hblank : trim t ≠ "") (h : ¬ Ragged t)
    (hurl : WithoutSlashes (trim t) url) : Proper announced fallback url := by
  obtain ⟨hne, htrimmed⟩ := clean_of_not_ragged h hblank hurl
  exact
    { nonempty := hne
      clean := fun _ _ _ => ⟨htrimmed, hurl.last⟩
      standIn := fun hnone => absurd ⟨url, hurl, hne⟩ (hnone t ht)
      stable := fun _ _ _ => stable_of_clean hne htrimmed hurl.last }

theorem proper_of_silent (h : ∀ t, announced = some t → trim t = "")
    (hurl : WithoutSlashes fallback url) (hne : url ≠ "") : Proper announced fallback url where
  nonempty := hne
  clean t ht husable := absurd husable (not_usable_of_blank (h t ht))
  standIn _ := hurl
  stable t ht husable := absurd husable (not_usable_of_blank (h t ht))

end Addresses

/-- Whatever comes back of the request for the settings, the address is the
announced text, trimmed and then without slashes at its end, or the configured
address without them where the announced text is blank or missing. It is what
one expects of it unless the announced text is ragged, and then it is not. -/
theorem proper_iff (settings : Option Json) (valid : config.validate = .ok ()) :
    (∀ t, announcedText? settings = some t → trim t ≠ "" →
      WithoutSlashes (trim t) (Context.ofSettings config settings).storeUrl) ∧
    ((∀ t, announcedText? settings = some t → trim t = "") →
      WithoutSlashes config.links.storeFallback (Context.ofSettings config settings).storeUrl) ∧
    (Proper (announcedText? settings) config.links.storeFallback
        (Context.ofSettings config settings).storeUrl ↔
      ∀ t, announcedText? settings = some t → ¬ Ragged t) := by
  refine ⟨fun t => storeUrl_of_announced, storeUrl_of_silent, ?_, fun hsmooth => ?_⟩
  · intro hproper t ht hragged
    exact not_proper_of_ragged ht hragged
      (storeUrl_of_announced ht (not_blank_of_ragged hragged)) hproper
  · by_cases hsilent : ∀ t, announcedText? settings = some t → trim t = ""
    · have hurl : WithoutSlashes config.links.storeFallback
          (Context.ofSettings config settings).storeUrl := storeUrl_of_silent hsilent
      exact proper_of_silent hsilent hurl (ne_empty_of_validate valid hurl)
    · push Not at hsilent
      obtain ⟨t, ht, hblank⟩ := hsilent
      exact proper_of_not_ragged ht hblank (hsmooth t ht) (storeUrl_of_announced ht hblank)

/-- A slash at the end of an address goes. A slash that is all there is counts
as an address, and nothing is left of it. -/
theorem proper_iff_of_slashes :
    Proper (some " http://store/ ") "http://127.0.0.1:9090" (Context.ofSettings {}
        (some (.object [("prometheusURL", .string " http://store/ ")]))).storeUrl ∧
      ¬ Proper (some "/") "http://127.0.0.1:9090" (Context.ofSettings {}
        (some (.object [("prometheusURL", .string "/")]))).storeUrl := by
  have hvalid : Config.validate {} = .ok () := by decide
  constructor
  · refine (proper_iff (some (.object [("prometheusURL", .string " http://store/ ")]))
      hvalid).2.2.mpr fun t ht hragged => ?_
    obtain rfl : " http://store/ " = t := Option.some.inj ht
    have hleft : WithoutSlashes (trim " http://store/ ") "http://store" :=
      ⟨⟨1, by decide⟩, by decide⟩
    exact absurd (ragged_left hragged hleft 'e' (by decide)) (by decide)
  · intro hproper
    have hsmooth := (proper_iff (some (.object [("prometheusURL", .string "/")]))
      hvalid).2.2.mp hproper
    exact hsmooth "/" rfl ⟨[], 0, by decide, fun c hc => by cases hc⟩

end Dashboard.Fetch
