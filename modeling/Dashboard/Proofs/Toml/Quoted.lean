import Dashboard.Proofs.Text.Numeral
import Dashboard.Toml.Quoted

/-!
# Quoted text reads back

Whichever of the four forms the writer picks for a text, the reader gives the
text back and stops right after the closing quotes.

Between double quotes the argument goes character by character. What is
written for one character is a letter after a backslash, a number after a
backslash, or the character itself, and `escaped_cases` says which; in each
case the reader comes to that character and stands where the next one begins.

The long forms need more care with quotes, since the reader looks three
quotes ahead and takes up to two of those before the closing ones for the
text. So a quote of the text must be followed by fewer than two others unless
the text ends with them. For single quotes that is what the longest run says;
for double quotes the writer sees to it, and no text it writes after two
quotes begins with a third.
-/

namespace Dashboard.Toml.Quoted

/-! ## Characters -/

theorem ofCode?_toNat (c : Char) : ofCode? c.toNat = some c := by
  have hvalid : c.toNat.isValidChar := c.valid
  rw [ofCode?, if_pos hvalid, Char.ofNat_toNat]

/-- No letter that stands for something ends a line. -/
theorem startsLine_of_escape? {l : Char} {e : Escape} (h : escape? l = some e) (t : List Char) :
    startsLine ((l :: t).dropWhile isGap) = false := by
  have hspace : l ≠ ' ' := by rintro rfl; cases h
  have htab : l ≠ '\t' := by rintro rfl; cases h
  have hfeed : l ≠ '\n' := by rintro rfl; cases h
  have hreturn : l ≠ '\r' := by rintro rfl; cases h
  have hgap : isGap l = false := by simp [isGap, hspace, htab]
  rw [List.dropWhile_cons_of_neg (by simp [hgap])]
  unfold startsLine
  split
  · next heq => exact absurd (List.cons.inj heq).1 hfeed
  · next heq => exact absurd (List.cons.inj heq).1 hreturn
  · rfl

/-- What is written for a character between double quotes. -/
theorem escaped_cases (c : Char) :
    (∃ l, escaped c = ['\\', l] ∧ escape? l = some (.char c)) ∨
      (∃ h l, escaped c = ['\\', 'u', '0', '0', h, l] ∧
        Text.hexValue? h = some (c.toNat / 16) ∧ Text.hexValue? l = some (c.toNat % 16)) ∨
      escaped c = [c] ∧ isPrintable c = true ∧ c ≠ '\x22' ∧ c ≠ '\\' ∧ c ≠ '\r' := by
  by_cases hb : c = '\x08'
  · exact Or.inl ⟨'b', by subst hb; exact ⟨rfl, rfl⟩⟩
  by_cases ht : c = '\t'
  · exact Or.inl ⟨'t', by subst ht; exact ⟨rfl, rfl⟩⟩
  by_cases hn : c = '\n'
  · exact Or.inl ⟨'n', by subst hn; exact ⟨rfl, rfl⟩⟩
  by_cases hf : c = '\x0c'
  · exact Or.inl ⟨'f', by subst hf; exact ⟨rfl, rfl⟩⟩
  by_cases hr : c = '\r'
  · exact Or.inl ⟨'r', by subst hr; exact ⟨rfl, rfl⟩⟩
  by_cases hq : c = '\x22'
  · exact Or.inl ⟨'\x22', by subst hq; exact ⟨rfl, rfl⟩⟩
  by_cases hs : c = '\\'
  · exact Or.inl ⟨'\\', by subst hs; exact ⟨rfl, rfl⟩⟩
  refine Or.inr ?_
  by_cases hc : isControl c = true
  · have hsmall : c.toNat < 128 := by
      simp only [isControl, isPrintable] at hc
      simp at hc
      omega
    refine Or.inl ⟨Text.hexDigit (c.toNat / 16), Text.hexDigit (c.toNat % 16), ?_,
      Text.hexValue?_hexDigit _ (by omega), Text.hexValue?_hexDigit _ (by omega)⟩
    simp [escaped, hb, ht, hn, hf, hr, hq, hs, hc]
  · have hprintable : isPrintable c = true := by
      simpa [isControl, hn] using hc
    refine Or.inr ⟨?_, hprintable, hq, hs, hr⟩
    simp [escaped, hb, ht, hn, hf, hr, hq, hs, hc]

/-! ## The short forms -/

theorem basic_plain_cons (c : Char) (r : List Char) : basic .plain (c :: r) =
    if c == '\x22' then some ([], r)
    else if c == '\\' then basic .escape r
    else if isPrintable c then push c (basic .plain r)
    else none := rfl

theorem basic_escape_cons (c : Char) (r : List Char) : basic .escape (c :: r) =
    match escape? c with
    | some (.char d) => push d (basic .plain r)
    | some (.code n) => basic (.code n 0) r
    | none => none := rfl

theorem basic_code_cons (left value : Nat) (c : Char) (r : List Char) :
    basic (.code left value) (c :: r) =
      match Text.hexValue? c with
      | none => none
      | some d =>
        if 1 < left then basic (.code (left - 1) (value * 16 + d)) r
        else
          match ofCode? (value * 16 + d) with
          | some c => push c (basic .plain r)
          | none => none := rfl

theorem literal_cons (c : Char) (r : List Char) : literal (c :: r) =
    if c == '\x27' then some ([], r)
    else if isPrintable c then push c (literal r)
    else none := rfl

theorem basic_escape {l c : Char} (h : escape? l = some (.char c)) (t : List Char) :
    basic .plain ('\\' :: l :: t) = push c (basic .plain t) := by
  simp [basic_plain_cons, basic_escape_cons, h]

theorem basic_code {h l : Char} {high low : Nat} (hh : Text.hexValue? h = some high)
    (hl : Text.hexValue? l = some low) {c : Char} (hc : high * 16 + low = c.toNat)
    (t : List Char) :
    basic .plain ('\\' :: 'u' :: '0' :: '0' :: h :: l :: t) = push c (basic .plain t) := by
  have hu : escape? 'u' = some (.code 4) := rfl
  have hzero : Text.hexValue? '0' = some 0 := rfl
  simp [basic_plain_cons, basic_escape_cons, basic_code_cons, hu, hzero, hh, hl, hc, ofCode?_toNat]

theorem basic_char {c : Char} (hp : isPrintable c = true) (hq : c ≠ '\x22') (hs : c ≠ '\\')
    (t : List Char) : basic .plain (c :: t) = push c (basic .plain t) := by
  simp [basic_plain_cons, hp, hq, hs]

theorem basic_escaped (c : Char) (t : List Char) :
    basic .plain (escaped c ++ t) = push c (basic .plain t) := by
  rcases escaped_cases c with ⟨l, he, hl⟩ | ⟨h, l, he, hh, hl⟩ | ⟨he, hp, hq, hs, -⟩
  · rw [he]
    exact basic_escape hl t
  · rw [he]
    exact basic_code hh hl (by omega) t
  · rw [he]
    exact basic_char hp hq hs t

/-- Between double quotes every text can stand. -/
theorem basic_flatMap_escaped (s rest : List Char) :
    basic .plain (s.flatMap escaped ++ '\x22' :: rest) = some (s, rest) := by
  induction s with
  | nil => simp [basic_plain_cons]
  | cons c s ih =>
      rw [List.flatMap_cons, List.append_assoc, basic_escaped, ih]
      rfl

/-- Between single quotes a text stands as it is. -/
theorem literal_append {s : List Char} (hs : ∀ c ∈ s, isPrintable c = true ∧ c ≠ '\x27')
    (rest : List Char) : literal (s ++ '\x27' :: rest) = some (s, rest) := by
  induction s with
  | nil => simp [literal_cons]
  | cons c s ih =>
      obtain ⟨hp, hq⟩ := hs c List.mem_cons_self
      have hrest := ih fun d hd => hs d (List.mem_cons_of_mem c hd)
      rw [List.cons_append, literal_cons, if_neg (by simpa using hq), if_pos hp, hrest]
      rfl

/-! ## Three quotes -/

/-- Three quotes are not closing ones unless they are three. -/
theorem closing?_eq_none {q : Char} {t : List Char}
    (h : ∀ r, t ≠ q :: q :: r) : closing? q (q :: t) = none := by
  unfold closing?
  split
  · next a b c r heq =>
      obtain ⟨rfl, rfl⟩ := List.cons.inj heq
      refine if_neg fun hall => h r ?_
      simp only [Bool.and_eq_true, beq_iff_eq] at hall
      rw [hall.1.2, hall.2]
  · rfl

/-- Up to two quotes before the closing ones belong to the text. -/
theorem closing?_triple {q : Char} {rest : List Char} (hrest : rest.head? ≠ some q)
    {extra : List Char} (hextra : extra = [] ∨ extra = [q] ∨ extra = [q, q]) :
    closing? q (extra ++ triple q ++ rest) = some (extra, rest) := by
  have hone : (rest.take 1).takeWhile (· == q) = [] := by
    cases rest with
    | nil => rfl
    | cons c r => simpa [List.takeWhile_cons] using hrest
  have htwo : (rest.take 2).takeWhile (· == q) = [] := by
    cases rest with
    | nil => rfl
    | cons c r => simpa [List.takeWhile_cons] using hrest
  rcases hextra with rfl | rfl | rfl
  · simp [triple, closing?, htwo]
  · simp [triple, closing?, hone]
  · simp [triple, closing?]

/-! ## Three double quotes -/

theorem longBasic_plain_cons (c : Char) (r : List Char) : longBasic .plain (c :: r) =
    if c == '\r' then if startsLine r then longBasic .plain r else none
    else if c == '\x22' then
      match closing? '\x22' (c :: r) with
      | some found => some found
      | none => push c (longBasic .plain r)
    else if c == '\\' then
      if startsLine (r.dropWhile isGap) then longBasic .fold r else longBasic .escape r
    else if c == '\n' || isPrintable c then push c (longBasic .plain r)
    else none := rfl

theorem longBasic_escape_cons (c : Char) (r : List Char) : longBasic .escape (c :: r) =
    match escape? c with
    | some (.char d) => push d (longBasic .plain r)
    | some (.code n) => longBasic (.code n 0) r
    | none => none := rfl

theorem longBasic_code_cons (left value : Nat) (c : Char) (r : List Char) :
    longBasic (.code left value) (c :: r) =
      match Text.hexValue? c with
      | none => none
      | some d =>
        if 1 < left then longBasic (.code (left - 1) (value * 16 + d)) r
        else
          match ofCode? (value * 16 + d) with
          | some c => push c (longBasic .plain r)
          | none => none := rfl

theorem longBasic_escape {l c : Char} (h : escape? l = some (.char c)) (t : List Char) :
    longBasic .plain ('\\' :: l :: t) = push c (longBasic .plain t) := by
  have hline := startsLine_of_escape? h t
  simp [longBasic_plain_cons, longBasic_escape_cons, hline, h]

theorem longBasic_code {h l : Char} {high low : Nat} (hh : Text.hexValue? h = some high)
    (hl : Text.hexValue? l = some low) {c : Char} (hc : high * 16 + low = c.toNat)
    (t : List Char) :
    longBasic .plain ('\\' :: 'u' :: '0' :: '0' :: h :: l :: t) =
      push c (longBasic .plain t) := by
  have hu : escape? 'u' = some (.code 4) := rfl
  have hzero : Text.hexValue? '0' = some 0 := rfl
  have hline := startsLine_of_escape? hu ('0' :: '0' :: h :: l :: t)
  simp [longBasic_plain_cons, longBasic_escape_cons, longBasic_code_cons, hline, hu, hzero, hh, hl,
    hc, ofCode?_toNat]

theorem longBasic_char {c : Char} (hp : c = '\n' ∨ isPrintable c = true) (hq : c ≠ '\x22')
    (hs : c ≠ '\\') (hr : c ≠ '\r') (t : List Char) :
    longBasic .plain (c :: t) = push c (longBasic .plain t) := by
  simp [longBasic_plain_cons, hp, hq, hs, hr]

theorem longBasic_quote {t : List Char} (h : ∀ r, t ≠ '\x22' :: '\x22' :: r) :
    longBasic .plain ('\x22' :: t) = push '\x22' (longBasic .plain t) := by
  simp [longBasic_plain_cons, closing?_eq_none h]

theorem longBasic_escaped (c : Char) (t : List Char) :
    longBasic .plain (escaped c ++ t) = push c (longBasic .plain t) := by
  rcases escaped_cases c with ⟨l, he, hl⟩ | ⟨h, l, he, hh, hl⟩ | ⟨he, hp, hq, hs, hr⟩
  · rw [he]
    exact longBasic_escape hl t
  · rw [he]
    exact longBasic_code hh hl (by omega) t
  · rw [he]
    exact longBasic_char (Or.inr hp) hq hs hr t

/-- The quotes a text ends with are read with the closing ones. -/
theorem longBasic_triple {rest : List Char} (hrest : rest.head? ≠ some '\x22')
    {extra : List Char}
    (hextra : extra = [] ∨ extra = ['\x22'] ∨ extra = ['\x22', '\x22']) :
    longBasic .plain (extra ++ triple '\x22' ++ rest) = some (extra, rest) := by
  have hclosing := closing?_triple hrest hextra
  rcases hextra with rfl | rfl | rfl <;>
    simp [triple] at hclosing <;> simp [triple, longBasic_plain_cons, hclosing]

/-- What is written for a character between double quotes begins with no
quote and no carriage return. -/
theorem head_escaped (c : Char) (t : List Char) :
    ∃ d r, escaped c ++ t = d :: r ∧ d ≠ '\x22' ∧ d ≠ '\r' ∧ (d = '\n' → c = '\n') := by
  rcases escaped_cases c with ⟨l, he, -⟩ | ⟨h, l, he, -, -⟩ | ⟨he, -, hq, -, hr⟩
  · exact ⟨'\\', l :: t, by rw [he]; rfl, by decide, by decide, nofun⟩
  · exact ⟨'\\', _, by rw [he]; rfl, by decide, by decide, nofun⟩
  · exact ⟨c, t, by rw [he]; rfl, hq, hr, id⟩

/-- After a text that is not a quote, and after two quotes, no quote is
written. -/
theorem head_longEscaped {run : Nat} {c : Char} (h : c ≠ '\x22' ∨ 2 ≤ run) (r t : List Char) :
    ∃ d u, longEscaped run (c :: r) ++ t = d :: u ∧ d ≠ '\x22' ∧ d ≠ '\r' ∧
      (d = '\n' → c = '\n') := by
  by_cases hq : c = '\x22'
  · have hrun : ¬ run < 2 := by
      rcases h with hne | hle
      · exact absurd hq hne
      · omega
    refine ⟨'\\', c :: longEscaped 0 r ++ t, ?_, by decide, by decide, nofun⟩
    simp [longEscaped, hq, hrun]
  · by_cases hn : c = '\n'
    · refine ⟨'\n', longEscaped 0 r ++ t, ?_, by decide, by decide, fun _ => hn⟩
      simp [longEscaped, hn]
    · have heq : longEscaped run (c :: r) ++ t = escaped c ++ (longEscaped 0 r ++ t) := by
        simp [longEscaped, hq, hn]
      rw [heq]
      exact head_escaped c _

/-- After a quote the reader finds no two others, unless the text ends there
or with one more quote. -/
theorem longEscaped_succ_cases {run : Nat} (hrun : run < 2) (r t : List Char) :
    r = [] ∨ (run = 0 ∧ r = ['\x22']) ∨
      ∀ u, longEscaped (run + 1) r ++ t ≠ '\x22' :: '\x22' :: u := by
  cases r with
  | nil => exact Or.inl rfl
  | cons d r =>
      refine Or.inr ?_
      by_cases hnext : d ≠ '\x22' ∨ 2 ≤ run + 1
      · refine Or.inr fun v hv => ?_
        obtain ⟨e, u, heq, he, -, -⟩ := head_longEscaped hnext r t
        rw [heq] at hv
        exact he (List.cons.inj hv).1
      · have hd : d = '\x22' := Decidable.byContradiction fun hd => hnext (Or.inl hd)
        have hzero : run = 0 := by
          have : ¬ 2 ≤ run + 1 := fun h => hnext (Or.inr h)
          omega
        subst hd hzero
        have htwo : longEscaped 1 ('\x22' :: r) = '\x22' :: longEscaped 2 r := by
          simp [longEscaped]
        cases r with
        | nil => exact Or.inl ⟨rfl, rfl⟩
        | cons e r =>
            refine Or.inr fun v hv => ?_
            obtain ⟨f, u, heq, hf, -, -⟩ :=
              head_longEscaped (c := e) (Or.inr (Nat.le_refl 2)) r t
            rw [htwo, List.cons_append, heq] at hv
            exact hf (List.cons.inj (List.cons.inj hv).2).1

/-- Between three double quotes every text can stand. `run` are the quotes
written just before. -/
theorem longBasic_longEscaped {rest : List Char} (hrest : rest.head? ≠ some '\x22')
    (s : List Char) (run : Nat) :
    longBasic .plain (longEscaped run s ++ (triple '\x22' ++ rest)) = some (s, rest) := by
  induction s generalizing run with
  | nil => exact longBasic_triple hrest (Or.inl rfl)
  | cons c r ih =>
      by_cases hq : c = '\x22'
      · subst hq
        by_cases hrun : run < 2
        · have hhead : longEscaped run ('\x22' :: r) = '\x22' :: longEscaped (run + 1) r := by
            simp [longEscaped, hrun]
          rw [hhead, List.cons_append]
          -- Where the text ends here or after one more quote, the closing quotes join in.
          rcases longEscaped_succ_cases hrun r (triple '\x22' ++ rest) with
            rfl | ⟨rfl, rfl⟩ | hnone
          · exact longBasic_triple hrest (Or.inr (Or.inl rfl))
          · exact longBasic_triple hrest (Or.inr (Or.inr rfl))
          · rw [longBasic_quote hnone, ih]
            rfl
        · -- Two quotes stand before this one, which is escaped and so ends the run.
          have hhead : longEscaped run ('\x22' :: r) = '\\' :: '\x22' :: longEscaped 0 r := by
            simp [longEscaped, hrun]
          rw [hhead, List.cons_append, List.cons_append, longBasic_escape rfl, ih]
          rfl
      · by_cases hn : c = '\n'
        · have hhead : longEscaped run (c :: r) = c :: longEscaped 0 r := by
            simp [longEscaped, hn]
          rw [hhead, List.cons_append, longBasic_char (Or.inl hn) hq (by rw [hn]; decide)
            (by rw [hn]; decide), ih]
          rfl
        · have hhead : longEscaped run (c :: r) = escaped c ++ longEscaped 0 r := by
            simp [longEscaped, hq, hn]
          rw [hhead, List.append_assoc, longBasic_escaped, ih]
          rfl

/-! ## Three single quotes -/

theorem longestRun_mono {q : Char} {s : List Char} {run more : Nat} (h : run ≤ more) :
    longestRun q run s ≤ longestRun q more s := by
  induction s generalizing run more with
  | nil => exact h
  | cons c r ih =>
      rw [longestRun, longestRun]
      split
      · exact ih (by omega)
      · omega

theorem le_longestRun {q : Char} (s : List Char) (run : Nat) : run ≤ longestRun q run s := by
  induction s generalizing run with
  | nil => exact Nat.le_refl run
  | cons c r ih =>
      rw [longestRun]
      split
      · have := ih (run + 1)
        omega
      · omega

theorem longestRun_tail {q c : Char} {r : List Char} {n : Nat}
    (h : longestRun q 0 (c :: r) ≤ n) : longestRun q 0 r ≤ n := by
  rw [longestRun] at h
  split at h
  · exact Nat.le_trans (longestRun_mono (Nat.zero_le _)) h
  · omega

/-- No quote stands in a text whose longest run is empty. -/
theorem ne_of_longestRun_eq_zero {q : Char} {s : List Char} (h : longestRun q 0 s = 0) :
    ∀ c ∈ s, c ≠ q := by
  induction s with
  | nil => exact fun c hc => absurd hc (List.not_mem_nil)
  | cons d r ih =>
      have hd : d ≠ q := by
        rintro rfl
        have := le_longestRun (q := d) r 1
        simp [longestRun] at h
        omega
      intro c hc
      rcases List.mem_cons.mp hc with rfl | hr
      · exact hd
      · exact ih (Nat.le_zero.mp (longestRun_tail (Nat.le_of_eq h))) c hr

/-- Among single quotes in runs of at most two, the reader finds no two after
another, unless the text ends there or with one more quote. -/
theorem quote_cases {q : Char} {r : List Char} (h : longestRun q 0 (q :: r) ≤ 2)
    (t : List Char) :
    r = [] ∨ r = [q] ∨ ∀ u, r ++ t ≠ q :: q :: u := by
  match r with
  | [] => exact Or.inl rfl
  | [d] =>
      by_cases hd : d = q
      · exact Or.inr (Or.inl (by rw [hd]))
      · exact Or.inr (Or.inr fun u hu => hd (List.cons.inj hu).1)
  | d :: e :: r =>
      refine Or.inr (Or.inr fun u hu => ?_)
      obtain ⟨rfl, hu⟩ := List.cons.inj hu
      obtain ⟨rfl, -⟩ := List.cons.inj hu
      have := le_longestRun (q := e) r 3
      simp [longestRun] at h
      omega

/-- Single quotes a text ends with are read with the closing ones, too. -/
theorem longLiteral_triple {rest : List Char} (hrest : rest.head? ≠ some '\x27')
    {extra : List Char}
    (hextra : extra = [] ∨ extra = ['\x27'] ∨ extra = ['\x27', '\x27']) :
    longLiteral (extra ++ triple '\x27' ++ rest) = some (extra, rest) := by
  have hclosing := closing?_triple hrest hextra
  rcases hextra with rfl | rfl | rfl <;>
    simp [triple] at hclosing <;> simp [triple, longLiteral, hclosing]

/-- Between three single quotes a text stands as it is, where nothing in it
needs an escape and no more than two quotes follow one another. -/
theorem longLiteral_append {s rest : List Char} (hrest : rest.head? ≠ some '\x27')
    (hs : ∀ c ∈ s, isControl c = false) (hrun : longestRun '\x27' 0 s ≤ 2) :
    longLiteral (s ++ (triple '\x27' ++ rest)) = some (s, rest) := by
  induction s with
  | nil => exact longLiteral_triple hrest (Or.inl rfl)
  | cons c r ih =>
      have hr : c ≠ '\r' := by
        rintro rfl
        exact absurd (hs _ List.mem_cons_self) (by decide)
      have htail := ih (fun d hd => hs d (List.mem_cons_of_mem c hd)) (longestRun_tail hrun)
      by_cases hq : c = '\x27'
      · subst hq
        rcases quote_cases hrun (triple '\x27' ++ rest) with rfl | rfl | hnone
        · exact longLiteral_triple hrest (Or.inr (Or.inl rfl))
        · exact longLiteral_triple hrest (Or.inr (Or.inr rfl))
        · rw [List.cons_append, longLiteral, if_neg (by decide), if_pos (by decide),
            closing?_eq_none hnone, htail]
          rfl
      · have hshown : (c == '\n' || isPrintable c) = true := by
          have := hs c List.mem_cons_self
          simp only [isControl, Bool.and_eq_false_iff, Bool.not_eq_false', bne_eq_false_iff_eq]
            at this
          simpa using this.symm
        rw [List.cons_append, longLiteral, if_neg (by simpa using hr),
          if_neg (by simpa using hq), if_pos hshown, htail]
        rfl

/-! ## Whatever form is picked -/

theorem dropLineBreak_of_head {t : List Char} (hn : t.head? ≠ some '\n')
    (hr : t.head? ≠ some '\r') : dropLineBreak t = t := by
  unfold dropLineBreak
  split
  · exact absurd rfl hn
  · exact absurd rfl hr
  · rfl

/-- The line break the writer puts after the opening quotes is not part of
the text. -/
theorem dropLineBreak_openingBreak {s t : List Char} (hr : t.head? ≠ some '\r')
    (hn : t.head? = some '\n' → '\n' ∈ s) : dropLineBreak (openingBreak s ++ t) = t := by
  by_cases hlines : '\n' ∈ s
  · simp [openingBreak, hlines, dropLineBreak]
  · simp only [openingBreak, List.contains_eq_mem, hlines, decide_false, Bool.false_eq_true,
      if_false, List.nil_append]
    exact dropLineBreak_of_head (fun h => hlines (hn h)) hr

theorem read_longBasic {rest : List Char} (hrest : rest.head? ≠ some '\x22') (s : List Char) :
    read (triple '\x22' ++ openingBreak s ++ longEscaped 0 s ++ triple '\x22' ++ rest) =
      some (s, rest) := by
  have hdrop : dropLineBreak (openingBreak s ++ (longEscaped 0 s ++ (triple '\x22' ++ rest))) =
      longEscaped 0 s ++ (triple '\x22' ++ rest) := by
    cases s with
    | nil => rfl
    | cons c r =>
        by_cases hq : c = '\x22'
        · subst hq
          exact dropLineBreak_openingBreak (by simp [longEscaped]) (by simp [longEscaped])
        · obtain ⟨d, u, heq, -, hr, hn⟩ :=
            @head_longEscaped 0 c (Or.inl hq) r (triple '\x22' ++ rest)
          rw [heq]
          refine dropLineBreak_openingBreak (by simpa using hr) fun h => ?_
          rw [hn (by simpa using h)]
          exact List.mem_cons_self
  have hform (t : List Char) : read (triple '\x22' ++ t) = longBasic .plain (dropLineBreak t) :=
    rfl
  rw [List.append_assoc, List.append_assoc, List.append_assoc, hform, hdrop,
    longBasic_longEscaped hrest]

theorem read_longLiteral {s rest : List Char} (hrest : rest.head? ≠ some '\x27')
    (hs : ∀ c ∈ s, isControl c = false) (hrun : longestRun '\x27' 0 s ≤ 2) :
    read (triple '\x27' ++ openingBreak s ++ s ++ triple '\x27' ++ rest) = some (s, rest) := by
  have hdrop : dropLineBreak (openingBreak s ++ (s ++ (triple '\x27' ++ rest))) =
      s ++ (triple '\x27' ++ rest) := by
    cases s with
    | nil => rfl
    | cons c r =>
        refine dropLineBreak_openingBreak (fun h => ?_) fun h => ?_
        · have hc : c = '\r' := by simpa using h
          exact absurd (hs c List.mem_cons_self) (by rw [hc]; decide)
        · rw [← show c = '\n' by simpa using h]
          exact List.mem_cons_self
  have hform (t : List Char) : read (triple '\x27' ++ t) = longLiteral (dropLineBreak t) := rfl
  rw [List.append_assoc, List.append_assoc, List.append_assoc, hform, hdrop,
    longLiteral_append hrest hs hrun]

/-- Double quotes begin no long form, unless another quote follows the empty
text. -/
theorem read_basic {rest : List Char} (hrest : rest.head? ≠ some '\x22') (s : List Char) :
    read ('\x22' :: s.flatMap escaped ++ ['\x22'] ++ rest) = some (s, rest) := by
  have hshort : short ('\x22' :: (s.flatMap escaped ++ '\x22' :: rest)) = some (s, rest) :=
    basic_flatMap_escaped s rest
  have hform : read ('\x22' :: (s.flatMap escaped ++ '\x22' :: rest)) =
      short ('\x22' :: (s.flatMap escaped ++ '\x22' :: rest)) := by
    unfold read
    split
    · next r heq =>
        have heq := (List.cons.inj heq).2
        cases s with
        | nil =>
            have := (List.cons.inj heq).2
            rw [this] at hrest
            exact absurd rfl hrest
        | cons c s =>
            obtain ⟨d, u, hd, hne, -, -⟩ := head_escaped c (s.flatMap escaped ++ '\x22' :: rest)
            rw [List.flatMap_cons, List.append_assoc, hd] at heq
            exact absurd (List.cons.inj heq).1 hne
    · next heq => cases (List.cons.inj heq).1
    · rfl
  rw [List.append_assoc]
  exact hform.trans hshort

theorem read_literal {s : List Char} (hne : s ≠ [])
    (hs : ∀ c ∈ s, isPrintable c = true ∧ c ≠ '\x27') (rest : List Char) :
    read ('\x27' :: s ++ ['\x27'] ++ rest) = some (s, rest) := by
  have hshort : short ('\x27' :: (s ++ '\x27' :: rest)) = some (s, rest) :=
    literal_append hs rest
  have hform : read ('\x27' :: (s ++ '\x27' :: rest)) =
      short ('\x27' :: (s ++ '\x27' :: rest)) := by
    unfold read
    split
    · next heq => cases (List.cons.inj heq).1
    · next r heq =>
        have heq := (List.cons.inj heq).2
        cases s with
        | nil => exact absurd rfl hne
        | cons c s => exact absurd (List.cons.inj heq).1 (hs c List.mem_cons_self).2
    · rfl
  rw [List.append_assoc]
  exact hform.trans hshort

/-- What the writer knows of a text for which it picks a form without
escapes. -/
theorem form_cases (s : List Char) :
    form s = .basic ∨ form s = .longBasic ∨
      (form s = .literal ∧ s ≠ [] ∧ ∀ c ∈ s, isPrintable c = true ∧ c ≠ '\x27') ∨
      (form s = .longLiteral ∧ (∀ c ∈ s, isControl c = false) ∧ longestRun '\x27' 0 s ≤ 2) := by
  have hcontrol : (!s.any isControl) = true → ∀ c ∈ s, isControl c = false := by
    simp
  have hprintable : '\n' ∉ s → ∀ c ∈ s, isControl c = false → isPrintable c = true := by
    intro hn c hc h
    have hne : c ≠ '\n' := fun h => hn (h ▸ hc)
    simpa [isControl, hne] using h
  unfold form
  simp only
  split
  · exact Or.inl rfl
  · next hbasic =>
      split
      · next hliteral =>
          simp only [Bool.and_eq_true, beq_iff_eq, List.contains_eq_mem, Bool.not_eq_true',
            decide_eq_false_iff_not] at hliteral
          obtain ⟨⟨hc, hn⟩, hsingle⟩ := hliteral
          have hs := hcontrol (by simp [hc])
          refine Or.inr (Or.inr (Or.inl ⟨rfl, ?_, fun c hc => ⟨hprintable hn c hc (hs c hc),
            ne_of_longestRun_eq_zero hsingle c hc⟩⟩))
          rintro rfl
          exact hbasic rfl
      · split
        · exact Or.inr (Or.inl rfl)
        · split
          · next hliteral =>
              simp only [Bool.and_eq_true, decide_eq_true_eq] at hliteral
              exact Or.inr (Or.inr (Or.inr ⟨rfl, hcontrol hliteral.1, hliteral.2⟩))
          · split
            · exact Or.inr (Or.inl rfl)
            · exact Or.inl rfl

/-- Whatever a text holds, the form the writer picks for it reads back as the
text, and reading stops where the form ends. -/
theorem read_write (s : List Char) {rest : List Char} (hdouble : rest.head? ≠ some '\x22')
    (hsingle : rest.head? ≠ some '\x27') : read (write s ++ rest) = some (s, rest) := by
  rw [write]
  rcases form_cases s with hf | hf | ⟨hf, hne, hs⟩ | ⟨hf, hs, hrun⟩
  · rw [hf]
    exact read_basic hdouble s
  · rw [hf]
    exact read_longBasic hdouble s
  · rw [hf]
    exact read_literal hne hs rest
  · rw [hf]
    exact read_longLiteral hsingle hs hrun

end Dashboard.Toml.Quoted
