import Dashboard.Proofs.Text.Numeral
import Dashboard.Proofs.Text.Pieces
import Dashboard.Proofs.Toml.Quoted
import Dashboard.Toml.Document
import Mathlib.Data.List.TakeDrop

/-!
# Documents of plain sections read back

A document that is written has lines of three kinds: the header of a section,
a name with its value, and nothing. A line says something whatever comes after
its end, so lines can be taken one at a time, and a line of any kind uses one
of the reader's steps, of which there is one for every character.

Headers and names are single keys. Where they differ from each other, every
assignment adds an entry at the end and every header a table, so the table of
the document is the list of its sections as written.
-/

namespace Dashboard.Toml

/-! ## Numbers -/

namespace Moment

/-- What is left after some digits was there before. -/
theorem digits_suffix {count value n : Nat} {s r : List Char}
    (h : digits count value s = some (n, r)) : r <:+ s := by
  induction count generalizing value s with
  | zero =>
      cases h
      exact List.suffix_refl _
  | succ count ih =>
      cases s with
      | nil => cases h
      | cons c s =>
          obtain ⟨d, -, hd⟩ := Option.bind_eq_some_iff.mp h
          exact (ih hd).trans (List.suffix_cons c s)

theorem twoDigits_suffix {least most n : Nat} {s r : List Char}
    (h : twoDigits least most s = some (n, r)) : r <:+ s :=
  digits_suffix (Option.filter_eq_some_iff.mp h).1

theorem skip_eq_none {c : Char} {s : List Char} (h : c ∉ s) : skip c s = none := by
  cases s with
  | nil => rfl
  | cons d r =>
      have hne : d ≠ c := fun heq => h (heq ▸ List.mem_cons_self)
      simp [skip, hne]

/-- A moment has a colon or a hyphen. -/
theorem isMoment_eq_false {s : List Char} (hcolon : ':' ∉ s) (hhyphen : '-' ∉ s) :
    isMoment s = false := by
  have htime : afterTime s = none := by
    rw [afterTime]
    cases h : twoDigits 0 23 s with
    | none => rfl
    | some p =>
        have hnot : ':' ∉ p.2 := fun hc => hcolon ((twoDigits_suffix h).subset hc)
        simp [skip_eq_none hnot]
  have hdate : afterDate s = none := by
    rw [afterDate]
    cases h : digits 4 0 s with
    | none => rfl
    | some p =>
        have hnot : '-' ∉ p.2 := fun hc => hhyphen ((digits_suffix h).subset hc)
        simp [skip_eq_none hnot]
  simp [isMoment, isTime, htime, hdate]

end Moment

namespace Scalar

/-- Nothing is left out of digits that stand without underscores. -/
theorem joined_eq_some {isDigit : Char → Bool} {s : List Char} (hne : s ≠ [])
    (hs : ∀ c ∈ s, isDigit c = true) (hunderscore : '_' ∉ s) : joined isDigit s = some s := by
  induction s with
  | nil => exact absurd rfl hne
  | cons c r ih =>
      have hc := hs c List.mem_cons_self
      cases r with
      | nil => simp [joined, hc]
      | cons d r =>
          have hd : d ≠ '_' := by
            rintro rfl
            exact hunderscore (List.mem_cons_of_mem c List.mem_cons_self)
          have := ih (List.cons_ne_nil d r) (fun e he => hs e (List.mem_cons_of_mem c he))
            (fun he => hunderscore (List.mem_cons_of_mem c he))
          simp [joined, hc, hd, this]

section Decimal

variable {n : Nat}

theorem takeSign_decimal : takeSign (Text.decimal n) = (false, Text.decimal n) := by
  unfold takeSign
  split
  · next heq => exact absurd (heq ▸ List.mem_cons_self) (Text.not_mem_decimal (c := '-') rfl)
  · next heq => exact absurd (heq ▸ List.mem_cons_self) (Text.not_mem_decimal (c := '+') rfl)
  · rfl

theorem decimalInteger_decimal : decimalInteger (Text.decimal n) = ofMagnitude false n := by
  have hdigit : ∀ c ∈ Text.decimal n, c.isDigit = true := Text.isDigit_of_mem_decimal
  have hwhole : wholeDigits? (Text.decimal n) = some (Text.decimal n) := by
    rw [wholeDigits?, joined_eq_some (Text.decimal_ne_nil n) hdigit
      (Text.not_mem_decimal rfl)]
    refine Option.filter_eq_some_iff.mpr ⟨rfl, ?_⟩
    by_cases hzero : n = 0
    · simp [hzero, Text.decimal_of_lt]
    · have : (Text.decimal n).head? ≠ some '0' := fun hhead => hzero (Text.head?_decimal hhead)
      simp [this]
  simp [decimalInteger, takeSign_decimal, hwhole, Text.numeral?_decimal]

/-- Digits alone are an integer or nothing: a real number has a point, an
exponent or a name. -/
theorem read_decimal_eq : read (Text.decimal n) = ofMagnitude false n := by
  have hfirst {c : Char} (r : List Char) (hc : c.isDigit = false) : Text.decimal n ≠ c :: r :=
    fun heq => Text.not_mem_decimal hc (heq ▸ List.mem_cons_self)
  have hsecond (c d : Char) (r : List Char) (hd : d.isDigit = false) :
      Text.decimal n ≠ c :: d :: r := fun heq =>
    Text.not_mem_decimal hd (heq ▸ List.mem_cons_of_mem c List.mem_cons_self)
  have hcut {p : Char → Bool} (hp : ∀ c, c.isDigit = true → p c = false) :
      Text.cutAt p (Text.decimal n) = (Text.decimal n, none) :=
    Text.cutAt_of_forall fun c hc => hp c (Text.isDigit_of_mem_decimal c hc)
  have hreal : decimalReal (Text.decimal n) = none := by
    have hexponent : ∀ c : Char, c.isDigit = true → (c == 'e' || c == 'E') = false := by
      intro c hc
      rw [Bool.or_eq_false_iff]
      exact ⟨beq_false_of_ne (by rintro rfl; cases hc), beq_false_of_ne (by rintro rfl; cases hc)⟩
    have hpoint : ∀ c : Char, c.isDigit = true → (c == '.') = false := fun c hc =>
      beq_false_of_ne (by rintro rfl; cases hc)
    simp [decimalReal, takeSign_decimal, hcut hexponent, hcut hpoint]
  have hnamed : namedReal (Text.decimal n) = none := by
    simp [namedReal, takeSign_decimal, hfirst (c := 'i') _ rfl, hfirst (c := 'n') _ rfl]
  unfold read
  split
  · next heq => exact absurd heq (hsecond _ _ _ rfl)
  · next heq => exact absurd heq (hsecond _ _ _ rfl)
  · next heq => exact absurd heq (hsecond _ _ _ rfl)
  · next heq => exact absurd heq (hsecond _ _ _ rfl)
  · next heq => exact absurd heq (hsecond _ _ _ rfl)
  · rw [Moment.isMoment_eq_false (Text.not_mem_decimal rfl) (Text.not_mem_decimal rfl),
      decimalInteger_decimal, hreal, hnamed]
    simp

/-- A number below 2^63 is an integer of a document. -/
theorem read_decimal (h : n < Nat.pow 2 63) : read (Text.decimal n) = some (.integer n) := by
  rw [read_decimal_eq, ofMagnitude, if_neg Bool.false_ne_true, if_pos h]

theorem read_decimal_of_le (h : Nat.pow 2 63 ≤ n) : read (Text.decimal n) = none := by
  rw [read_decimal_eq, ofMagnitude, if_neg Bool.false_ne_true, if_neg (Nat.not_lt.mpr h)]

end Decimal

end Scalar

/-! ## Values -/

/-- What is written reads as a value, whatever line follows. -/
structure Denotes (written : List Char) (v : Value) : Prop where
  /-- The value begins where the gap before it ends. -/
  starts : ∃ c r, written = c :: r ∧ Quoted.isGap c = false
  reads : ∀ rest, value nestingLimit (written ++ '\n' :: rest) = some (v, '\n' :: rest)

theorem takeWhile_append_cons {p : Char → Bool} {s : List Char} {c : Char}
    (hs : ∀ d ∈ s, p d = true) (hc : p c = false) (rest : List Char) :
    (s ++ c :: rest).takeWhile p = s := by
  rw [List.takeWhile_append_of_pos hs, List.takeWhile_cons_of_neg (by simp [hc]),
    List.append_nil]

theorem dropWhile_append_cons {p : Char → Bool} {s : List Char} {c : Char}
    (hs : ∀ d ∈ s, p d = true) (hc : p c = false) (rest : List Char) :
    (s ++ c :: rest).dropWhile p = c :: rest := by
  rw [List.dropWhile_append_of_pos hs, List.dropWhile_cons_of_neg (by simp [hc])]

theorem denotes_write (s : List Char) :
    Denotes (Quoted.write s) (.text (String.ofList s)) := by
  have hstart : ∃ c r, Quoted.write s = c :: r ∧ (c = '\x22' ∨ c = '\x27') := by
    rw [Quoted.write]
    cases Quoted.form s
    · exact ⟨_, _, rfl, Or.inl rfl⟩
    · exact ⟨_, _, rfl, Or.inr rfl⟩
    · exact ⟨_, _, rfl, Or.inl rfl⟩
    · exact ⟨_, _, rfl, Or.inr rfl⟩
  obtain ⟨c, r, hwrite, hc⟩ := hstart
  refine ⟨⟨c, r, hwrite, ?_⟩, fun rest => ?_⟩
  · rcases hc with rfl | rfl <;> rfl
  · have hread : Quoted.read (Quoted.write s ++ '\n' :: rest) = some (s, '\n' :: rest) :=
      Quoted.read_write s (by simp) (by simp)
    rw [hwrite] at hread ⊢
    rw [List.cons_append] at hread ⊢
    rw [value.eq_def]
    simp only [if_pos (show (c == '\x22' || c == '\x27') = true by simpa using hc), hread]
    rfl

theorem isWordChar_of_isDigit {c : Char} (h : c.isDigit = true) :
    Scalar.isWordChar c = true := by
  simp [Scalar.isWordChar, Char.isAlphanum, h]

/-- Digits up to the end of a line are a word of their own. -/
theorem value_decimal (n : Nat) (rest : List Char) :
    value nestingLimit (Text.decimal n ++ '\n' :: rest) =
      (Scalar.read (Text.decimal n)).map (·, '\n' :: rest) := by
  have hword : ∀ d ∈ Text.decimal n, Scalar.isWordChar d = true :=
    fun d hd => isWordChar_of_isDigit (Text.isDigit_of_mem_decimal d hd)
  have hspan : (Text.decimal n ++ '\n' :: rest).span Scalar.isWordChar =
      (Text.decimal n, '\n' :: rest) := by
    rw [List.span_eq_takeWhile_dropWhile, takeWhile_append_cons hword rfl,
      dropWhile_append_cons hword rfl]
  have hread : word (Text.decimal n ++ '\n' :: rest) =
      (Scalar.read (Text.decimal n)).map (·, '\n' :: rest) := by
    rw [word, hspan]
    simp
  obtain ⟨c, r, hcons⟩ := List.exists_cons_of_ne_nil (Text.decimal_ne_nil n)
  have hnot {d : Char} (hd : d.isDigit = false) : c ≠ d := by
    rintro rfl
    exact Text.not_mem_decimal hd (hcons ▸ List.mem_cons_self)
  rw [← hread, hcons, List.cons_append, value.eq_def]
  simp only
  rw [if_neg (by simp [hnot (d := '\x22') rfl, hnot (d := '\x27') rfl]),
    if_neg (by simp [hnot (d := '[') rfl]), if_neg (by simp [hnot (d := '\x7b') rfl])]

/-- A number begins where the gap before it ends. -/
theorem exists_cons_decimal (n : Nat) :
    ∃ c r, Text.decimal n = c :: r ∧ Quoted.isGap c = false := by
  obtain ⟨c, r, hcons⟩ := List.exists_cons_of_ne_nil (Text.decimal_ne_nil n)
  refine ⟨c, r, hcons, ?_⟩
  have hnot {d : Char} (hd : d.isDigit = false) : c ≠ d := by
    rintro rfl
    exact Text.not_mem_decimal hd (hcons ▸ List.mem_cons_self)
  simp [Quoted.isGap, hnot (d := ' ') rfl, hnot (d := '\t') rfl]

theorem denotes_decimal {n : Nat} (h : n < Nat.pow 2 63) :
    Denotes (Text.decimal n) (.integer n) := by
  refine ⟨exists_cons_decimal n, fun rest => ?_⟩
  rw [value_decimal, Scalar.read_decimal h]
  rfl

/-! ## Lines -/

/-- Whether a name can stand as a key without quotes. -/
def isPlain (name : String) : Bool := !name.toList.isEmpty && name.toList.all isKeyChar

theorem isKeyChar_of_isPlain {name : String} (h : isPlain name = true) :
    ∀ c ∈ name.toList, isKeyChar c = true :=
  List.all_eq_true.mp (Bool.and_eq_true_iff.mp h).2

theorem exists_cons_of_isPlain {name : String} (h : isPlain name = true) :
    ∃ c r, name.toList = c :: r ∧ isKeyChar c = true := by
  have hchars := isKeyChar_of_isPlain h
  cases hname : name.toList with
  | nil =>
      rw [isPlain, hname] at h
      cases h
  | cons c r => exact ⟨c, r, rfl, hchars c (hname ▸ List.mem_cons_self)⟩

/-- What a line says, whatever line follows. -/
structure Says (line : List Char) (said : Statement) : Prop where
  /-- The line is no empty one and no comment. -/
  starts : ∃ c r, line = c :: r ∧ (c = '[' ∨ isKeyChar c = true)
  reads : ∀ rest, statement (line ++ '\n' :: rest) = some (said, '\n' :: rest)

theorem ne_of_isKeyChar {c d : Char} (hc : isKeyChar c = true) (hd : isKeyChar d = false) :
    c ≠ d := by
  rintro rfl
  rw [hc] at hd
  cases hd

theorem skipGap_cons {c : Char} (h : Quoted.isGap c = false) (r : List Char) :
    skipGap (c :: r) = c :: r :=
  List.dropWhile_cons_of_neg (by simp [h])

/-- A plain name is a key of one part. -/
theorem key_plain {name : String} (hname : isPlain name = true) {c : Char}
    (hc : isKeyChar c = false) {rest after : List Char} (hafter : skipGap (c :: rest) = after)
    (hdot : ∀ r, after ≠ '.' :: r) :
    key (name.toList ++ c :: rest) = some ([name], after) := by
  have hchars := isKeyChar_of_isPlain hname
  obtain ⟨d, r, hcons, hd⟩ := exists_cons_of_isPlain hname
  have hgap : skipGap (name.toList ++ c :: rest) = name.toList ++ c :: rest := by
    rw [hcons, List.cons_append]
    refine skipGap_cons ?_ _
    simp [Quoted.isGap, ne_of_isKeyChar hd (d := ' ') rfl, ne_of_isKeyChar hd (d := '\t') rfl]
  have hpart : keyPart (name.toList ++ c :: rest) = some (name, c :: rest) := by
    have htake := takeWhile_append_cons hchars hc rest
    have hdrop := dropWhile_append_cons hchars hc rest
    rw [hcons, List.cons_append] at htake hdrop
    have hquote : ¬ (d == '\x22' || d == '\x27') = true := by
      simp [ne_of_isKeyChar hd (d := '\x22') rfl, ne_of_isKeyChar hd (d := '\x27') rfl]
    rw [hcons, List.cons_append, keyPart]
    simp only [if_neg hquote, if_pos hd, htake, hdrop]
    rw [← hcons, String.ofList_toList]
  show keyParts (78 + 1) _ = _
  rw [keyParts]
  simp only [hgap, hpart, Option.bind_eq_bind, Option.bind_some, hafter]
  rfl

theorem says_header {name : String} (hname : isPlain name = true) :
    Says ('[' :: name.toList ++ [']']) (.header (.table [name])) := by
  refine ⟨⟨'[', _, rfl, Or.inl rfl⟩, fun rest => ?_⟩
  have hkey : key (name.toList ++ ']' :: '\n' :: rest) = some ([name], ']' :: '\n' :: rest) :=
    key_plain hname rfl rfl (by simp)
  have hline : '[' :: name.toList ++ [']'] ++ '\n' :: rest =
      '[' :: (name.toList ++ ']' :: '\n' :: rest) := by simp
  have hheader : header ('[' :: (name.toList ++ ']' :: '\n' :: rest)) =
      some (.table [name], '\n' :: rest) := by
    unfold header
    split
    · next r heq =>
        obtain ⟨d, u, hcons, hd⟩ := exists_cons_of_isPlain hname
        rw [hcons] at heq
        exact absurd (List.cons.inj (List.cons.inj heq).2).1 (ne_of_isKeyChar hd rfl)
    · next r hno heq =>
        obtain rfl := (List.cons.inj heq).2
        rw [hkey]
        rfl
    · next hno => exact absurd rfl (hno _)
  rw [hline, statement, hheader]
  rfl

/-- A line that gives a plain name a value says what the value is, if there is
one. -/
theorem statement_assignment {name : String} (hname : isPlain name = true) {written : List Char}
    (hstart : ∃ c r, written = c :: r ∧ Quoted.isGap c = false) (rest : List Char) :
    statement (name.toList ++ [' ', '=', ' '] ++ written ++ '\n' :: rest) =
      (value nestingLimit (written ++ '\n' :: rest)).map fun v =>
        (.assignment ⟨[name], v.1⟩, v.2) := by
  obtain ⟨d, r, hcons, hd⟩ := exists_cons_of_isPlain hname
  obtain ⟨c, u, hwritten, hc⟩ := hstart
  have hkey : key (name.toList ++ ' ' :: '=' :: ' ' :: (written ++ '\n' :: rest)) =
      some ([name], '=' :: ' ' :: (written ++ '\n' :: rest)) :=
    key_plain hname rfl rfl (by simp)
  have hgap : skipGap (' ' :: (written ++ '\n' :: rest)) = written ++ '\n' :: rest := by
    rw [hwritten, List.cons_append]
    exact skipGap_cons hc _
  have hassignment : assignment (value nestingLimit)
      (name.toList ++ ' ' :: '=' :: ' ' :: (written ++ '\n' :: rest)) =
        (value nestingLimit (written ++ '\n' :: rest)).map fun v => (⟨[name], v.1⟩, v.2) := by
    simp only [assignment, hkey, Option.bind_eq_bind, Option.bind_some, hgap]
    cases value nestingLimit (written ++ '\n' :: rest) <;> rfl
  have hline : name.toList ++ [' ', '=', ' '] ++ written ++ '\n' :: rest =
      name.toList ++ ' ' :: '=' :: ' ' :: (written ++ '\n' :: rest) := by simp
  rw [hline]
  unfold statement
  split
  · next heq =>
      rw [hcons] at heq
      exact absurd (List.cons.inj heq).1 (ne_of_isKeyChar hd rfl)
  · rw [hassignment]
    cases value nestingLimit (written ++ '\n' :: rest) <;> rfl

theorem says_assignment {name : String} (hname : isPlain name = true) {written : List Char}
    {v : Value} (hv : Denotes written v) :
    Says (name.toList ++ [' ', '=', ' '] ++ written) (.assignment ⟨[name], v⟩) := by
  obtain ⟨d, r, hcons, hd⟩ := exists_cons_of_isPlain hname
  refine ⟨⟨d, r ++ [' ', '=', ' '] ++ written, by rw [hcons]; rfl, Or.inr hd⟩, fun rest => ?_⟩
  rw [statement_assignment hname hv.starts, hv.reads]
  rfl

/-! ## Lines one after another -/

/-- A line that is no empty one and no comment is a statement, up to its end. -/
theorem statements_statement {line : List Char}
    (hstart : ∃ c r, line = c :: r ∧ (c = '[' ∨ isKeyChar c = true)) (fuel : Nat)
    (rest : List Char) :
    statements (fuel + 1) (line ++ '\n' :: rest) =
      (statement (line ++ '\n' :: rest)).bind fun said =>
        ((lineEnd? said.2).bind (statements fuel)).map (said.1 :: ·) := by
  obtain ⟨c, r, hline, hc⟩ := hstart
  have hnot {d : Char} (hbracket : d ≠ '[') (hd : isKeyChar d = false) : c ≠ d := by
    rcases hc with rfl | hc
    · exact hbracket.symm
    · exact ne_of_isKeyChar hc hd
  have hgap : skipGap (line ++ '\n' :: rest) = line ++ '\n' :: rest := by
    rw [hline, List.cons_append]
    refine skipGap_cons ?_ _
    simp [Quoted.isGap, hnot (d := ' ') (by decide) rfl, hnot (d := '\t') (by decide) rfl]
  have hsays : ¬ (c == '#' || c == '\n' || c == '\r') = true := by
    simp [hnot (d := '#') (by decide) rfl, hnot (d := '\n') (by decide) rfl,
      hnot (d := '\r') (by decide) rfl]
  rw [statements, hgap, hline, List.cons_append]
  simp only [if_neg hsays, Option.bind_eq_bind]
  cases statement (c :: (r ++ '\n' :: rest)) with
  | none => rfl
  | some said =>
      simp only [Option.bind_some]
      cases lineEnd? said.2 with
      | none => rfl
      | some next =>
          simp only [Option.bind_some]
          cases statements fuel next <;> rfl

theorem statements_line {line : List Char} {said : Statement} (h : Says line said) (fuel : Nat)
    (rest : List Char) :
    statements (fuel + 1) (line ++ '\n' :: rest) = (statements fuel rest).map (said :: ·) := by
  rw [statements_statement h.starts, h.reads]
  rfl

/-- A line that says nothing makes a document unreadable. -/
theorem statements_eq_none {line : List Char}
    (hstart : ∃ c r, line = c :: r ∧ (c = '[' ∨ isKeyChar c = true)) {rest : List Char}
    (h : statement (line ++ '\n' :: rest) = none) (fuel : Nat) :
    statements fuel (line ++ '\n' :: rest) = none := by
  cases fuel with
  | zero => rfl
  | succ fuel =>
      rw [statements_statement hstart, h]
      rfl

theorem statements_empty_line (fuel : Nat) (rest : List Char) :
    statements (fuel + 1) ('\n' :: rest) = statements fuel rest := rfl

/-- More steps than needed change nothing. -/
theorem statements_mono {fuel more : Nat} {s : List Char} {said : List Statement}
    (h : statements fuel s = some said) (hle : fuel ≤ more) : statements more s = some said := by
  induction fuel generalizing more s said with
  | zero => cases h
  | succ fuel ih =>
      obtain ⟨more, rfl⟩ : ∃ m, more = m + 1 := ⟨more - 1, by omega⟩
      rw [statements] at h ⊢
      cases heq : skipGap s with
      | nil =>
          rw [heq] at h
          exact h
      | cons c r =>
          rw [heq] at h
          simp only at h ⊢
          split at h
          · next hskip =>
              rw [if_pos hskip]
              obtain ⟨rest, hend, hrest⟩ := Option.bind_eq_some_iff.mp h
              exact Option.bind_eq_some_iff.mpr ⟨rest, hend, ih hrest (by omega)⟩
          · next hskip =>
              rw [if_neg hskip]
              obtain ⟨⟨one, rest⟩, hone, h⟩ := Option.bind_eq_some_iff.mp h
              obtain ⟨next, hend, h⟩ := Option.bind_eq_some_iff.mp h
              obtain ⟨later, hlater, h⟩ := Option.bind_eq_some_iff.mp h
              exact Option.bind_eq_some_iff.mpr ⟨(one, rest), hone, Option.bind_eq_some_iff.mpr
                ⟨next, hend, Option.bind_eq_some_iff.mpr ⟨later, ih hlater (by omega), h⟩⟩⟩

/-! ## Sections -/

/-- The assignments that make entries with single keys. -/
def Entries.assignments (es : Entries) : List Assignment := es.map fun e => ⟨[e.1], e.2⟩

/-- What the lines of a section say: its header, and each name with its
value. -/
def sectionSaid (s : String × Entries) : List Statement :=
  .header (.table [s.1]) :: (Entries.assignments s.2).map .assignment

/-- Lines as they stand in a document. -/
def linesText (lines : List (List Char)) : List Char := lines.flatMap (· ++ ['\n'])

theorem length_le_length_linesText (lines : List (List Char)) :
    lines.length ≤ (linesText lines).length := by
  induction lines with
  | nil => exact Nat.le_refl 0
  | cons line lines ih =>
      rw [linesText, List.flatMap_cons, List.length_append, ← linesText]
      simp
      omega

theorem statements_lines {lines : List (List Char)} {said : List Statement}
    (h : List.Forall₂ Says lines said) {fuel : Nat} {rest : List Char} {more : List Statement}
    (hrest : statements fuel rest = some more) :
    statements (fuel + lines.length) (linesText lines ++ rest) = some (said ++ more) := by
  induction h with
  | nil => exact hrest
  | @cons line one lines said hline _ ih =>
      have hcons : linesText (line :: lines) ++ rest =
          line ++ '\n' :: (linesText lines ++ rest) := by simp [linesText]
      rw [hcons, List.length_cons, ← Nat.add_assoc, statements_line hline, ih]
      rfl

/-- Groups of lines with an empty line between them. -/
theorem exists_statements_groups {groups : List (List (List Char))} {said : List (List Statement)}
    (h : List.Forall₂ (List.Forall₂ Says) groups said) :
    ∃ fuel, fuel ≤ (List.intercalate ['\n'] (groups.map linesText)).length + 1 ∧
      statements fuel (List.intercalate ['\n'] (groups.map linesText)) = some said.flatten := by
  -- Every step of the reader is paid for by the end of a line, the last one by the extra step.
  induction h with
  | nil => exact ⟨1, Nat.le_refl 1, rfl⟩
  | @cons group one groups said hgroup hgroups ih =>
      have hlength := length_le_length_linesText group
      cases hgroups with
      | nil =>
          refine ⟨1 + group.length, ?_, ?_⟩
          · simp only [List.map_cons, List.map_nil, List.intercalate_singleton]
            omega
          · have hend : statements 1 [] = some [] := rfl
            simpa using statements_lines hgroup hend
      | @cons group' one' groups said hgroup' hgroups =>
          obtain ⟨fuel, hle, hrest⟩ := ih
          have hempty : statements (fuel + 1)
              ('\n' :: List.intercalate ['\n'] ((group' :: groups).map linesText)) =
                some (one' :: said).flatten := (statements_empty_line _ _).trans hrest
          have hread := statements_lines hgroup hempty
          have htext : List.intercalate ['\n'] ((group :: group' :: groups).map linesText) =
              linesText group ++
                '\n' :: List.intercalate ['\n'] ((group' :: groups).map linesText) := by
            rw [List.map_cons, List.map_cons, List.intercalate_cons_cons, List.append_assoc]
            rfl
          refine ⟨fuel + 1 + group.length, ?_, ?_⟩
          · rw [htext, List.length_append, List.length_cons]
            omega
          · rw [htext]
            exact hread

/-- The headers in order, each with the entries of its section. -/
theorem blocks_sections (sections : List (String × Entries)) :
    blocks (sections.flatMap sectionSaid) =
      ([], sections.map fun s => ⟨.table [s.1], Entries.assignments s.2⟩) := by
  have hassignments (as : List Assignment) (more : List Statement) :
      blocks (as.map .assignment ++ more) = (as ++ (blocks more).1, (blocks more).2) := by
    induction as with
    | nil => rfl
    | cons a as ih =>
        rw [List.map_cons, List.cons_append, blocks, ih]
        rfl
  induction sections with
  | nil => rfl
  | cons s sections ih =>
      rw [List.flatMap_cons, sectionSaid, List.cons_append, blocks, hassignments, ih]
      simp

namespace Entries

theorem lookup_eq_none {key : String} {es : Entries} (h : key ∉ es.map (·.1)) :
    es.lookup key = none := by
  induction es with
  | nil => rfl
  | cons e es ih =>
      rw [List.map_cons, List.mem_cons, not_or] at h
      rw [List.lookup_cons, beq_false_of_ne h.1]
      exact ih h.2

/-- Assignments to different single keys, none of them present, add their
entries in order. -/
theorem assignAll_assignments {es before : Entries}
    (h : (before.map (·.1) ++ es.map (·.1)).Nodup) :
    assignAll (assignments es) before = some (before ++ es) := by
  induction es generalizing before with
  | nil => simp [assignAll, assignments]
  | cons e es ih =>
      have hkey : e.1 ∉ before.map (·.1) := by
        intro hmem
        rw [List.map_cons, List.nodup_append] at h
        exact h.2.2 _ hmem _ List.mem_cons_self rfl
      have hstep : assign e.2 [e.1] before = some (before ++ [e]) := by
        simp [assign, add, lookup_eq_none hkey]
      have hrest : assignAll (assignments es) (before ++ [e]) = some (before ++ [e] ++ es) :=
        ih (by simpa using h)
      rw [List.append_assoc] at hrest
      rw [assignments, List.map_cons, assignAll, List.foldlM_cons, hstep]
      exact hrest

/-- Headers of different single keys, none of them present, add their tables
in order. -/
theorem foldlM_addBlock {sections : List (String × Entries)} {before : Entries}
    (hnames : (before.map (·.1) ++ sections.map (·.1)).Nodup)
    (hkeys : ∀ s ∈ sections, (s.2.map (·.1)).Nodup) :
    (sections.map fun s => Block.mk (.table [s.1]) (assignments s.2)).foldlM addBlock before =
      some (before ++ sections.map fun s => (s.1, .table .opened s.2)) := by
  induction sections generalizing before with
  | nil => simp
  | cons s sections ih =>
      have hname : s.1 ∉ before.map (·.1) := by
        intro hmem
        rw [List.map_cons, List.nodup_append] at hnames
        exact hnames.2.2 _ hmem _ List.mem_cons_self rfl
      have hes : assignAll (assignments s.2) [] = some s.2 :=
        assignAll_assignments (hkeys s List.mem_cons_self)
      have hstep : addBlock before ⟨.table [s.1], assignments s.2⟩ =
          some (before ++ [(s.1, .table .opened s.2)]) := by
        simp [addBlock, descend, openTable, lookup_eq_none hname, hes]
      have hnext : ((before ++ [(s.1, Value.table .opened s.2)]).map (·.1) ++
          sections.map (·.1)).Nodup := by simpa using hnames
      have hrest := ih hnext fun t ht => hkeys t (List.mem_cons_of_mem s ht)
      rw [List.append_assoc] at hrest
      rw [List.map_cons, List.foldlM_cons, hstep]
      exact hrest

end Entries

/-- No line of a document begins with a byte order mark. -/
theorem dropMark_line {line : List Char} {said : Statement} (h : Says line said)
    (t : List Char) : dropMark (line ++ t) = line ++ t := by
  obtain ⟨c, r, rfl, hc⟩ := h.starts
  unfold dropMark
  split
  · next heq =>
      obtain rfl := (List.cons.inj heq).1
      rcases hc with hc | hc
      · cases hc
      · cases hc
  · rfl

theorem exists_intercalate_eq_append (line : List Char) (lines : List (List Char))
    (groups : List (List (List Char))) :
    ∃ t, List.intercalate ['\n'] (((line :: lines) :: groups).map linesText) = line ++ t := by
  cases groups with
  | nil => exact ⟨'\n' :: linesText lines, by simp [linesText]⟩
  | cons group groups =>
      rw [List.map_cons, List.map_cons, List.intercalate_cons_cons]
      exact ⟨_, by simp only [linesText, List.flatMap_cons, List.append_assoc]; rfl⟩

/-- The sections of a document that is written line by line, their names and
the keys of each different from one another. -/
theorem read_sections {groups : List (List (List Char))} {sections : List (String × Entries)}
    (h : List.Forall₂ (List.Forall₂ Says) groups (sections.map sectionSaid))
    (hnames : (sections.map (·.1)).Nodup) (hkeys : ∀ s ∈ sections, (s.2.map (·.1)).Nodup) :
    read (List.intercalate ['\n'] (groups.map linesText)) =
      some (sections.map fun s => (s.1, .table .opened s.2)) := by
  have hmark : dropMark (List.intercalate ['\n'] (groups.map linesText)) =
      List.intercalate ['\n'] (groups.map linesText) := by
    cases sections with
    | nil => cases h; rfl
    | cons s sections =>
        cases h with
        | cons hgroup _ =>
            cases hgroup with
            | cons hline _ =>
                obtain ⟨t, ht⟩ := exists_intercalate_eq_append ..
                rw [ht]
                exact dropMark_line hline t
  obtain ⟨fuel, hle, hsaid⟩ := exists_statements_groups h
  rw [read, hmark]
  simp only [statements_mono hsaid hle, ← List.flatMap_def, blocks_sections, Option.bind_eq_bind,
    Option.bind_some]
  have hnames' : (([] : Entries).map (·.1) ++ sections.map (·.1)).Nodup := hnames
  exact Entries.foldlM_addBlock hnames' hkeys

end Dashboard.Toml
