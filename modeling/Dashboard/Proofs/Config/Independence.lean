import Dashboard.Proofs.Config.Precedence
import Dashboard.Proofs.Text.Pieces

/-!
# Overrides do not depend on the settings

What an override does is a matter of its text: whether it is refused, which
setting it is for and which value that setting gets. The settings that it is
applied to matter for nothing but what it leaves alone. An override by which
settings are changed in place is refused before anything is written, so a
refusal leaves them as they were.

Of a list of overrides, what counts for a setting is the last one that names
its key (`overrideLayer`), and two lists that agree on that do the same
(`overrideAll_congr`). Everything about the order of overrides follows:
two of them with different keys can be swapped unless one in between has a
key of theirs, and one before another with the same key may as well be
missing.
-/

namespace Dashboard

/-! ## The key that a text names -/

theorem ConfigKey.setting_injective : Function.Injective setting := by
  intro k l h
  cases k <;> cases l <;> first | rfl | cases h

theorem ConfigKey.dotted_injective : Function.Injective dotted := by
  have hall : ∀ k ∈ all, ∀ l ∈ all, k.dotted = l.dotted → k = l := by decide +kernel
  intro k l h
  exact hall k (mem_all k) l (mem_all l) h

theorem ConfigKey.dotted_of_ofDotted? {s : String} {k : ConfigKey} (h : ofDotted? s = some k) :
    k.dotted = s :=
  eq_of_beq (List.find?_some (p := fun k : ConfigKey => k.dotted == s) h)

/-- What stands before the first equals sign of a text is, without blank
characters around it, a key. -/
def Names (raw : String) (k : ConfigKey) : Prop :=
  ∃ name value, raw.toList = name ++ '=' :: value ∧ '=' ∉ name ∧
    Text.trim (String.ofList name) = k.dotted

theorem Names.unique {raw : String} {k l : ConfigKey} (hk : Names raw k) (hl : Names raw l) :
    k = l := by
  obtain ⟨name, value, hraw, hname, htrim⟩ := hk
  obtain ⟨name', value', hraw', hname', htrim'⟩ := hl
  have hcut {s : List Char} (hs : '=' ∉ s) (r : List Char) :
      Text.cutAt (· == '=') (s ++ '=' :: r) = (s, some r) := by
    refine Text.cutAt_append_cons (fun c hc => ?_) rfl r
    exact beq_false_of_ne fun h => hs (h ▸ hc)
  have hsame : (name, some value) = (name', some value') := by
    rw [← hcut hname, ← hcut hname', ← hraw, ← hraw']
  apply ConfigKey.dotted_injective
  rw [← htrim, ← htrim', (Prod.mk.inj hsame).1]

/-- The assignment of a text is for the setting of the key that it names. -/
theorem names_of_ofText {raw : String} {a : Assignment} (h : Assignment.ofText raw = .ok a) :
    ∃ k, Names raw k ∧ k.setting = a.setting := by
  rw [Assignment.ofText] at h
  split at h
  · cases h
  · next name value hcut =>
      split at h
      · cases h
      · next k hkey =>
          cases hread : k.read (Text.trim (String.ofList value)) with
          | error e =>
              rw [hread] at h
              cases h
          | ok v =>
              rw [hread] at h
              obtain ⟨hname, b, hb, hraw⟩ := Text.eq_append_of_cutAt hcut
              obtain rfl : b = '=' := eq_of_beq hb
              have hnot : '=' ∉ name := fun hmem => absurd (hname _ hmem) (by decide)
              refine ⟨k, ⟨name, value, hraw, hnot, ?_⟩, ?_⟩
              · exact (ConfigKey.dotted_of_ofDotted? hkey).symm
              · rw [← Except.ok.inj h]

/-! ## Settings that are changed in place -/

/-- Changes of settings in place. A change that fails leaves what it has
written by then. -/
abbrev InPlace := EStateM ConfigError Config

/-- Reads the value of a key and writes it. -/
def InPlace.set (k : ConfigKey) (text : String) : InPlace Unit := do
  let v ← MonadExcept.ofExcept (k.read text)
  modify fun c => c.put k.setting v

/-- Changes settings by an override. -/
def InPlace.override (raw : String) : InPlace Unit :=
  match Text.cutAt (· == '=') raw.toList with
  | (_, none) => throw (.notAnAssignment raw)
  | (name, some value) =>
    match ConfigKey.ofDotted? (Text.trim (String.ofList name)) with
    | none => throw (.unknownKey (String.ofList name))
    | some k => set k (Text.trim (String.ofList value))

/-- Changing settings in place comes to the settings with the override
applied, and leaves them as they are where the override is refused. -/
theorem InPlace.override_eq (c : Config) (raw : String) :
    InPlace.override raw c =
      match c.override raw with
      | .ok d => .ok () d
      | .error e => .error e c := by
  unfold InPlace.override Config.override
  obtain ⟨name, value⟩ := Text.cutAt (· == '=') raw.toList
  cases value with
  | none => rfl
  | some value =>
      dsimp only
      cases ConfigKey.ofDotted? (Text.trim (String.ofList name)) with
      | none => rfl
      | some k =>
          dsimp only
          rw [Config.set_eq]
          unfold InPlace.set
          cases k.read (Text.trim (String.ofList value)) <;> rfl

/-! ## One override -/

/-- What an override does is a matter of its text alone: it is refused and
leaves all settings as they are, or it sets the setting of its key to one
value and leaves the others. -/
def Independent (raw : String) : Prop :=
  (∃ e, ∀ c : Config, c.override raw = .error e ∧ InPlace.override raw c = .error e c) ∨
    ∃ (k : ConfigKey) (v : k.setting.Value), Names raw k ∧ ∀ c : Config, ∃ d,
      c.override raw = .ok d ∧ InPlace.override raw c = .ok () d ∧
      d.get k.setting = v ∧ ∀ s, s ≠ k.setting → d.get s = c.get s

theorem independent (raw : String) : Independent raw := by
  cases ha : Assignment.ofText raw with
  | error e =>
      refine Or.inl ⟨e, fun c => ?_⟩
      have hrefused : c.override raw = .error e := by rw [Config.override_eq, ha]; rfl
      exact ⟨hrefused, by rw [InPlace.override_eq, hrefused]⟩
  | ok a =>
      obtain ⟨s, v⟩ := a
      obtain ⟨k, hk, rfl⟩ := names_of_ofText ha
      refine Or.inr ⟨k, v, hk, fun c => ?_⟩
      have happlied : c.override raw = .ok (c.put k.setting v) := by
        rw [Config.override_eq, ha]
        rfl
      refine ⟨c.put k.setting v, happlied, by rw [InPlace.override_eq, happlied], ?_, ?_⟩
      · rw [Config.get_put, dif_pos rfl]
      · intro s hs
        rw [Config.get_put, dif_neg hs.symm]

/-! ## Lists of overrides -/

/-- An override that is not refused, for some settings and hence for all. -/
def Accepted (raw : String) : Prop := ∃ c d : Config, c.override raw = .ok d

theorem Accepted.exists_assignment {raw : String} (h : Accepted raw) :
    ∃ a, Assignment.ofText raw = .ok a := by
  obtain ⟨c, d, hd⟩ := h
  rw [Config.override_eq] at hd
  cases ha : Assignment.ofText raw with
  | error e => rw [ha] at hd; cases hd
  | ok a => exact ⟨a, rfl⟩

theorem Accepted.not_refused {raw : String} (h : Accepted raw) : ¬ Refused raw := by
  obtain ⟨a, ha⟩ := h.exists_assignment
  rw [refused_iff, ha]
  rintro ⟨e, he⟩
  cases he

theorem overrideLayer_append (before after : List String) (s : Setting) :
    overrideLayer (before ++ after) s = (overrideLayer after s).or (overrideLayer before s) := by
  simp only [overrideLayer, List.reverse_append, List.findSome?_append]

theorem overrideLayer_insert (before after : List String) (raw : String) (s : Setting) :
    overrideLayer (before ++ raw :: after) s =
      ((overrideLayer after s).or (overrideLayer [raw] s)).or (overrideLayer before s) := by
  rw [overrideLayer_append, ← List.singleton_append, overrideLayer_append]

/-- Overrides say nothing of a setting whose key none of them names. -/
theorem overrideLayer_eq_none {raws : List String} {s : Setting}
    (h : ∀ raw ∈ raws, ∀ k, Names raw k → s ≠ k.setting) : overrideLayer raws s = none := by
  rw [overrideLayer, List.findSome?_eq_none_iff]
  intro raw hraw
  cases ha : Assignment.ofText raw with
  | error e => rfl
  | ok a =>
      obtain ⟨k, hk, hsetting⟩ := names_of_ofText ha
      have hne : a.setting ≠ s := by
        rw [← hsetting]
        exact (h raw (List.mem_reverse.mp hraw) k hk).symm
      show a.for? s = none
      rw [Assignment.for?, dif_neg hne]

theorem overrideLayer_of_names {raw : String} {k : ConfigKey} (hraw : Names raw k) {s : Setting}
    (hs : s ≠ k.setting) : overrideLayer [raw] s = none := by
  refine overrideLayer_eq_none fun raw' hmem l hl => ?_
  obtain rfl := List.mem_singleton.mp hmem
  rwa [hl.unique hraw]

theorem overrideLayer_of_not_names {raws : List String} {k : ConfigKey}
    (h : ∀ raw ∈ raws, ¬ Names raw k) : overrideLayer raws k.setting = none := by
  refine overrideLayer_eq_none fun raw hmem l hl heq => ?_
  rw [ConfigKey.setting_injective heq] at h
  exact h raw hmem hl

/-- An accepted override gives a value to the setting of its key. -/
theorem Accepted.exists_value {raw : String} (h : Accepted raw) {k : ConfigKey}
    (hraw : Names raw k) : ∃ v, overrideLayer [raw] k.setting = some v := by
  obtain ⟨a, ha⟩ := h.exists_assignment
  obtain ⟨l, hl, hsetting⟩ := names_of_ofText ha
  obtain rfl := hl.unique hraw
  refine ⟨hsetting ▸ a.value, ?_⟩
  rw [overrideLayer, List.reverse_singleton, List.findSome?_singleton, ha]
  show a.for? l.setting = _
  rw [Assignment.for?, dif_pos hsetting.symm]

/-- Accepted overrides are applied to the last one, and what they do to a
setting is what they say of it as a layer. -/
theorem overrideAll_of_accepted {raws : List String} (h : ∀ raw ∈ raws, Accepted raw)
    (c : Config) :
    ∃ d, c.overrideAll raws = .ok d ∧ ∀ s, d.get s = (overrideLayer raws s).getD (c.get s) := by
  rcases overrideAll_cases raws with ⟨⟨raw, hraw, hrefused⟩, -⟩ | ⟨-, happlied⟩
  · exact absurd hrefused (h raw hraw).not_refused
  · exact happlied c

/-- Lists of accepted overrides that say the same as layers do the same. -/
theorem overrideAll_congr {raws raws' : List String} (h : ∀ raw ∈ raws, Accepted raw)
    (h' : ∀ raw ∈ raws', Accepted raw)
    (hlayer : ∀ s, overrideLayer raws s = overrideLayer raws' s) (c : Config) :
    c.overrideAll raws = c.overrideAll raws' := by
  obtain ⟨d, hd, hget⟩ := overrideAll_of_accepted h c
  obtain ⟨d', hd', hget'⟩ := overrideAll_of_accepted h' c
  have hsame : d = d' := by
    apply Config.ext_get
    intro s
    rw [hget, hget', hlayer]
  rw [hd, hd', hsame]

/-! ## The order of overrides -/

variable {before between after : List String} {x y : String} {k l : ConfigKey}

/-- Two overrides with different keys come to the same layer either way round,
unless one between them has a key of theirs. -/
theorem overrideLayer_swap (hx : Names x k) (hy : Names y l) (hne : k ≠ l)
    (hbetween : ∀ raw ∈ between, ¬ Names raw k ∧ ¬ Names raw l) (s : Setting) :
    overrideLayer (before ++ y :: (between ++ x :: after)) s =
      overrideLayer (before ++ x :: (between ++ y :: after)) s := by
  simp only [overrideLayer_insert]
  by_cases hk : s = k.setting
  · -- Neither `y` nor anything in between says a word about the setting of `x`.
    have hl : s ≠ l.setting := by
      rw [hk]
      exact fun heq => hne (ConfigKey.setting_injective heq)
    have hnone : overrideLayer between s = none := by
      rw [hk]
      exact overrideLayer_of_not_names fun raw hraw => (hbetween raw hraw).1
    rw [overrideLayer_of_names hy hl, hnone]
    simp only [Option.or_none]
  · rw [overrideLayer_of_names hx hk]
    by_cases hl : s = l.setting
    · have hnone : overrideLayer between s = none := by
        rw [hl]
        exact overrideLayer_of_not_names fun raw hraw => (hbetween raw hraw).2
      rw [hnone]
      simp only [Option.or_none]
    · rw [overrideLayer_of_names hy hl]

/-- An override says nothing that one after it with the same key does not
replace. -/
theorem overrideLayer_drop (hx : Names x k) (hy : Names y k) (accepted : Accepted y)
    (s : Setting) :
    overrideLayer (before ++ (between ++ y :: after)) s =
      overrideLayer (before ++ x :: (between ++ y :: after)) s := by
  rw [overrideLayer_insert, overrideLayer_append, overrideLayer_insert]
  by_cases hk : s = k.setting
  · obtain ⟨v, hv⟩ := accepted.exists_value hy
    rw [hk, hv]
    cases overrideLayer after k.setting <;> rfl
  · rw [overrideLayer_of_names hx hk, Option.or_none]

/-- What the order of overrides matters for. -/
structure LastCounts (raws : List String) : Prop where
  /-- Two overrides with different keys can be swapped, also where there are
  others between them with neither key. -/
  swap : ∀ before between after x y k l, raws = before ++ x :: (between ++ y :: after) →
    Names x k → Names y l → k ≠ l → (∀ raw ∈ between, ¬ Names raw k ∧ ¬ Names raw l) →
    ∀ c : Config, c.overrideAll (before ++ y :: (between ++ x :: after)) = c.overrideAll raws
  /-- Of two overrides with the same key the first may be missing. -/
  drop : ∀ before between after x y k, raws = before ++ x :: (between ++ y :: after) →
    Names x k → Names y k →
    ∀ c : Config, c.overrideAll (before ++ (between ++ y :: after)) = c.overrideAll raws
  /-- A setting gets what the last override with its key gives it alone. -/
  last : ∀ before after y k, raws = before ++ y :: after → Names y k →
    (∀ raw ∈ after, ¬ Names raw k) → ∀ c c' d d' : Config, c.overrideAll raws = .ok d →
    c'.override y = .ok d' → d.get k.setting = d'.get k.setting
  /-- A setting whose key no override names stays as it is. -/
  rest : ∀ s, (∀ raw ∈ raws, ∀ k, Names raw k → s ≠ k.setting) →
    ∀ c d : Config, c.overrideAll raws = .ok d → d.get s = c.get s

theorem lastCounts {raws : List String} (accepted : ∀ raw ∈ raws, Accepted raw) :
    LastCounts raws where
  swap := by
    rintro before between after x y k l rfl hx hy hne hbetween c
    refine overrideAll_congr (fun raw hraw => accepted raw ?_) accepted
      (overrideLayer_swap hx hy hne hbetween) c
    simp only [List.mem_append, List.mem_cons] at hraw ⊢
    grind
  drop := by
    rintro before between after x y k rfl hx hy c
    have haccepted : Accepted y := accepted y (by simp)
    refine overrideAll_congr (fun raw hraw => accepted raw ?_) accepted
      (overrideLayer_drop hx hy haccepted) c
    simp only [List.mem_append, List.mem_cons] at hraw ⊢
    grind
  last := by
    rintro before after y k rfl hy hafter c c' d d' hd hd'
    obtain ⟨d₁, hd₁, hget⟩ := overrideAll_of_accepted accepted c
    obtain rfl := Except.ok.inj (hd.symm.trans hd₁)
    have hone : ∀ raw ∈ [y], Accepted raw := fun raw hraw =>
      List.mem_singleton.mp hraw ▸ accepted y (by simp)
    obtain ⟨d₂, hd₂, hget'⟩ := overrideAll_of_accepted hone c'
    have hsingle : c'.overrideAll [y] = c'.override y := by
      rw [Config.overrideAll, List.foldlM_cons, hd']
      rfl
    obtain rfl := Except.ok.inj (hd'.symm.trans (hsingle.symm.trans hd₂))
    obtain ⟨v, hv⟩ := (accepted y (by simp)).exists_value hy
    rw [hget, hget', overrideLayer_insert, overrideLayer_of_not_names hafter, hv]
    rfl
  rest := by
    intro s hs c d hd
    obtain ⟨d₁, hd₁, hget⟩ := overrideAll_of_accepted accepted c
    obtain rfl := Except.ok.inj (hd.symm.trans hd₁)
    rw [hget, overrideLayer_eq_none hs]
    rfl

/-- Every override is independent of the settings, and of accepted ones it is
only the last with each key that counts. -/
theorem overrides_independent :
    (∀ raw, Independent raw) ∧
      ∀ raws : List String, (∀ raw ∈ raws, Accepted raw) →
        (∀ c : Config, ∃ d, c.overrideAll raws = .ok d) ∧ LastCounts raws := by
  refine ⟨independent, fun raws accepted => ⟨fun c => ?_, lastCounts accepted⟩⟩
  obtain ⟨d, hd, -⟩ := overrideAll_of_accepted accepted c
  exact ⟨d, hd⟩

/-- An interval, a level, another interval. -/
def mixedOverrides : List String :=
  ["refresh.interval_ms=1000", "logging.level = a=b", " refresh.interval_ms = +250 "]

/-- The two intervals cannot change places, but the level can stand anywhere,
and the first interval may as well be missing. An interval that is no number
is refused and changes nothing. -/
theorem overrides_independent_of_mixed :
    (∀ raw ∈ mixedOverrides, Accepted raw) ∧
      (∀ c : Config, c.overrideAll ["logging.level = a=b", "refresh.interval_ms=1000",
        " refresh.interval_ms = +250 "] = c.overrideAll mixedOverrides) ∧
      (∀ c : Config, c.overrideAll ["logging.level = a=b", " refresh.interval_ms = +250 "] =
        c.overrideAll mixedOverrides) ∧
      ∃ e, ∀ c : Config, InPlace.override "refresh.interval_ms=soon" c = .error e c := by
  obtain ⟨hindependent, hlists⟩ := overrides_independent
  have hfirst : Names "refresh.interval_ms=1000" .refreshInterval :=
    ⟨"refresh.interval_ms".toList, "1000".toList, by decide, by decide, by decide +kernel⟩
  have hlevel : Names "logging.level = a=b" .loggingLevel :=
    ⟨"logging.level ".toList, " a=b".toList, by decide, by decide, by decide +kernel⟩
  have hsecond : Names " refresh.interval_ms = +250 " .refreshInterval :=
    ⟨" refresh.interval_ms ".toList, " +250 ".toList, by decide, by decide, by decide +kernel⟩
  have haccepted : ∀ raw ∈ mixedOverrides, Accepted raw := by
    intro raw hraw
    simp only [mixedOverrides, List.mem_cons, List.not_mem_nil, or_false] at hraw
    rcases hraw with rfl | rfl | rfl
    · exact ⟨{}, { refresh := { interval := 1000 } }, by decide +kernel⟩
    · exact ⟨{}, { logging := { level := "a=b" } }, by decide +kernel⟩
    · exact ⟨{}, { refresh := { interval := 250 } }, by decide +kernel⟩
  obtain ⟨-, horder⟩ := hlists mixedOverrides haccepted
  refine ⟨haccepted, fun c => ?_, fun c => ?_, ?_⟩
  · exact horder.swap [] [] [" refresh.interval_ms = +250 "] _ _ _ _ rfl hfirst hlevel
      (by decide) (by simp) c
  · exact horder.drop [] ["logging.level = a=b"] [] _ _ _ rfl hfirst hsecond c
  · rcases hindependent "refresh.interval_ms=soon" with ⟨e, he⟩ | ⟨k, v, -, happlied⟩
    · exact ⟨e, fun c => (he c).2⟩
    · obtain ⟨d, hd, -⟩ := happlied {}
      have hrefused : Config.override {} "refresh.interval_ms=soon" =
          .error (.invalidNumber "refresh.interval_ms" "soon") := by decide +kernel
      rw [hrefused] at hd
      cases hd

end Dashboard
