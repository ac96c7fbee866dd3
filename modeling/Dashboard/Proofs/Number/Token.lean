import Dashboard.Number.Decimal
import Dashboard.Proofs.Number.Arithmetic
import Dashboard.Proofs.Text.Edges
import Dashboard.Proofs.Text.Numeral
import Mathlib.Data.Bool.AllAny

/-!
# Numbers as they are written

A token is a number in the form that payloads have: a sign, digits without a
zero in front, digits after a point and an exponent, of which all but the first
digits may be missing. It stands for an exact number, and as a decimal text it
reads as the double nearest to that number (`read_token`), however many digits
there are and however large the exponent is.
-/

namespace Dashboard.Number

variable {n : ℕ} {ds : List (Fin 10)} {s : List Char}

/-! ## Digits -/

/-- The number that digits make after those of another number. -/
def digitsAfter (n : ℕ) : List (Fin 10) → ℕ
  | [] => n
  | d :: ds => digitsAfter (n * 10 + d) ds

/-- The characters of digits. -/
def digitChars (ds : List (Fin 10)) : List Char := ds.map fun d : Fin 10 => Text.digitChar d

theorem digitChars_append (ds es : List (Fin 10)) :
    digitChars (ds ++ es) = digitChars ds ++ digitChars es :=
  List.map_append

theorem digitChars_zeros (count : ℕ) :
    digitChars (List.replicate count 0) = List.replicate count '0' :=
  List.map_replicate

theorem digitsAfter_append (n : ℕ) (ds es : List (Fin 10)) :
    digitsAfter n (ds ++ es) = digitsAfter (digitsAfter n ds) es := by
  induction ds generalizing n with
  | nil => rfl
  | cons d ds ih => exact ih (n * 10 + d)

theorem digitsAfter_eq (n : ℕ) (ds : List (Fin 10)) :
    digitsAfter n ds = n * 10 ^ ds.length + digitsAfter 0 ds := by
  induction ds generalizing n with
  | nil => simp [digitsAfter]
  | cons d ds ih =>
      rw [digitsAfter, digitsAfter, ih, ih (0 * 10 + d), List.length_cons, pow_succ]
      ring

theorem le_digitsAfter (n : ℕ) (ds : List (Fin 10)) : n ≤ digitsAfter n ds := by
  rw [digitsAfter_eq]
  exact (Nat.le_mul_of_pos_right n (by positivity)).trans (Nat.le_add_right _ _)

theorem digitsAfter_lt (ds : List (Fin 10)) : digitsAfter 0 ds < 10 ^ ds.length := by
  induction ds with
  | nil => exact Nat.one_pos
  | cons d ds ih =>
      rw [digitsAfter, digitsAfter_eq, List.length_cons, pow_succ]
      have hd : (0 * 10 + (d : ℕ)) * 10 ^ ds.length ≤ 9 * 10 ^ ds.length :=
        Nat.mul_le_mul_right _ (by omega)
      omega

theorem digitsAfter_zeros (n count : ℕ) :
    digitsAfter n (List.replicate count 0) = n * 10 ^ count := by
  induction count generalizing n with
  | zero => rw [List.replicate_zero, digitsAfter, pow_zero, Nat.mul_one]
  | succ count ih =>
      rw [List.replicate_succ, digitsAfter, ih, pow_succ', Fin.val_zero, Nat.add_zero,
        Nat.mul_assoc]

theorem exists_digits (n : ℕ) :
    ∃ ds : List (Fin 10), Text.decimal n = digitChars ds ∧ digitsAfter 0 ds = n := by
  induction n using Nat.strongRecOn with
  | _ n ih =>
      rcases Nat.lt_or_ge n 10 with h | h
      · refine ⟨[⟨n, h⟩], Text.decimal_of_lt h, ?_⟩
        rw [digitsAfter, digitsAfter, Nat.zero_mul, Nat.zero_add]
      · obtain ⟨ds, hds, hvalue⟩ := ih (n / 10) (by omega)
        refine ⟨ds ++ [⟨n % 10, Nat.mod_lt _ (by decide)⟩], ?_, ?_⟩
        · rw [Text.decimal_of_le h, hds, digitChars, digitChars, List.map_append,
            List.map_singleton]
        · rw [digitsAfter_append, hvalue, digitsAfter, digitsAfter]
          exact Nat.div_add_mod' n 10

/-- A text that does not go on with a digit. -/
def NoDigit (s : List Char) : Prop := ∀ c ∈ s.head?, Text.digit? c = none

theorem digit?_digitChar : ∀ d : Fin 10, Text.digit? (Text.digitChar d) = some ↑d := by decide

theorem takeDigits_digitChars (n count : ℕ) (ds : List (Fin 10)) (h : NoDigit s) :
    Decimal.takeDigits n count (digitChars ds ++ s) = (digitsAfter n ds, count + ds.length, s) := by
  induction ds generalizing n count with
  | nil =>
      cases s with
      | nil => rfl
      | cons c s =>
          change Decimal.takeDigits n count (c :: s) = _
          rw [Decimal.takeDigits, h c rfl]
          rfl
  | cons d ds ih =>
      change Decimal.takeDigits n count (Text.digitChar d :: (digitChars ds ++ s)) = _
      rw [Decimal.takeDigits, digit?_digitChar]
      change Decimal.takeDigits (n * 10 + d) (count + 1) (digitChars ds ++ s) = _
      rw [ih, digitsAfter, List.length_cons, Nat.add_assoc, Nat.add_comm 1]

/-! ## Tokens -/

/-- The sign of an exponent. -/
inductive ExponentSign where
  | none
  | plus
  | minus

def ExponentSign.chars : ExponentSign → List Char
  | none => []
  | plus => ['+']
  | minus => ['-']

/-- An exponent as it is written. -/
structure Exponent where
  capital : Bool
  sign : ExponentSign
  digits : List (Fin 10)
  nonempty : digits ≠ []

namespace Exponent

def mark (x : Exponent) : Char := if x.capital then 'E' else 'e'

def chars (x : Exponent) : List Char := x.mark :: (x.sign.chars ++ digitChars x.digits)

/-- The exponent without its sign. -/
def magnitude (x : Exponent) : ℕ := digitsAfter 0 x.digits

/-- Whether the exponent makes a number smaller. -/
def down (x : Exponent) : Bool :=
  match x.sign with
  | .minus => true
  | _ => false

def value (x : Exponent) : ℤ := if x.down then -(x.magnitude : ℤ) else x.magnitude

end Exponent

/-- A number as it is written; without digits after the point there is no
point. -/
structure Token where
  negative : Bool
  whole : List (Fin 10)
  fraction : List (Fin 10)
  exponent : Option Exponent
  nonempty : whole ≠ []
  noZeroInFront : whole.head? = some 0 → whole = [0]

namespace Token

def fractionChars (t : Token) : List Char :=
  if t.fraction = [] then [] else '.' :: digitChars t.fraction

def exponentChars (t : Token) : List Char := (t.exponent.map Exponent.chars).getD []

/-- A token without its sign. -/
def unsignedChars (t : Token) : List Char :=
  digitChars t.whole ++ (t.fractionChars ++ t.exponentChars)

def chars (t : Token) : List Char := (if t.negative then ['-'] else []) ++ t.unsignedChars

/-- The number that all digits make. -/
def coefficient (t : Token) : ℕ := digitsAfter 0 (t.whole ++ t.fraction)

def written (t : Token) : ℤ := (t.exponent.map Exponent.value).getD 0

/-- The power of ten at the last digit. -/
def power (t : Token) : ℤ := t.written - t.fraction.length

/-- The exact number, without its sign. -/
def magnitude (t : Token) : ℚ := t.coefficient * 10 ^ t.power

end Token

/-- The characters that tokens are made of, digits apart. -/
def markChars : List Char := ['-', '+', '.', 'e', 'E']

theorem mem_digitChars {c : Char} (h : c ∈ digitChars ds) : ∃ d : Fin 10, c = Text.digitChar d := by
  obtain ⟨d, -, rfl⟩ := List.mem_map.mp h
  exact ⟨d, rfl⟩

theorem mem_exponentChars (t : Token) {c : Char} (h : c ∈ t.exponentChars) :
    c ∈ markChars ∨ ∃ d : Fin 10, c = Text.digitChar d := by
  rw [Token.exponentChars] at h
  cases hexponent : t.exponent with
  | none =>
      rw [hexponent] at h
      exact absurd h List.not_mem_nil
  | some x =>
      rw [hexponent] at h
      rcases List.mem_cons.mp h with rfl | h
      · rw [Exponent.mark]
        split <;> exact Or.inl (by decide)
      · rcases List.mem_append.mp h with h | h
        · have hsign : ∀ sign : ExponentSign, ∀ c ∈ sign.chars, c ∈ markChars := by
            intro sign
            cases sign <;> exact List.all_iff_forall_prop.mp (by decide)
          exact Or.inl (hsign x.sign c h)
        · exact Or.inr (mem_digitChars h)

theorem mem_chars (t : Token) :
    ∀ c ∈ t.chars, c ∈ markChars ∨ ∃ d : Fin 10, c = Text.digitChar d := by
  intro c hc
  rw [Token.chars, Token.unsignedChars, Token.fractionChars, List.mem_append, List.mem_append,
    List.mem_append] at hc
  rcases hc with hc | hc | hc | hc
  · refine Or.inl ?_
    split at hc
    · rw [List.mem_singleton.mp hc]
      decide
    · exact absurd hc List.not_mem_nil
  · exact Or.inr (mem_digitChars hc)
  · split at hc
    · exact absurd hc List.not_mem_nil
    · rcases List.mem_cons.mp hc with rfl | hc
      · exact Or.inl (by decide)
      · exact Or.inr (mem_digitChars hc)
  · exact mem_exponentChars t hc

theorem isBlank_of_mem_chars (t : Token) : ∀ c ∈ t.chars, Text.isBlank c = false := by
  have hmark : ∀ c ∈ markChars, Text.isBlank c = false := List.all_iff_forall_prop.mp (by decide)
  have hdigit : ∀ d : Fin 10, Text.isBlank (Text.digitChar d) = false := by decide
  intro c hc
  rcases mem_chars t c hc with hc | ⟨d, rfl⟩
  · exact hmark c hc
  · exact hdigit d

/-- There is nothing to trim. -/
theorem trim_chars (t : Token) : Text.trim (String.ofList t.chars) = String.ofList t.chars := by
  have hplain := isBlank_of_mem_chars t
  refine Text.trim_of_trimmed ⟨fun c hc => hplain c ?_, fun c hc => hplain c ?_⟩
  · rw [String.toList_ofList] at hc
    exact List.mem_of_head? hc
  · rw [String.toList_ofList] at hc
    exact List.mem_of_getLast? hc

/-! ## Reading a token as a decimal text -/

namespace Decimal

/-- No digit is a sign or begins a name. -/
theorem digitChar_ne : ∀ d : Fin 10, ∀ c ∈ ['-', '+', 'i', 'n'], (Text.digitChar d).toLower ≠ c ∧
    Text.digitChar d ≠ c := by
  simp only [← List.all_iff_forall_prop]
  decide

theorem takeSign_digitChars (h : ds ≠ []) (s : List Char) :
    takeSign (digitChars ds ++ s) = (false, digitChars ds ++ s) := by
  obtain ⟨d, es, rfl⟩ := List.exists_cons_of_ne_nil h
  change takeSign (Text.digitChar d :: (digitChars es ++ s)) = _
  unfold takeSign
  split
  · next heq => exact absurd (List.cons.inj heq).1 (digitChar_ne d '-' (by decide)).2
  · next heq => exact absurd (List.cons.inj heq).1 (digitChar_ne d '+' (by decide)).2
  · rfl

theorem takeSign_exponent (x : Exponent) :
    takeSign (x.sign.chars ++ digitChars x.digits) = (x.down, digitChars x.digits) := by
  have hdigits := takeSign_digitChars x.nonempty []
  rw [List.append_nil] at hdigits
  rw [Exponent.down]
  cases x.sign with
  | none => exact hdigits
  | plus => rfl
  | minus => rfl

theorem exponent?_chars (x : Exponent) : exponent? x.chars = some x.value := by
  have hmark : (x.mark == 'e' || x.mark == 'E') = true := by
    rw [Exponent.mark]
    split <;> rfl
  have hdigits := takeDigits_digitChars 0 0 x.digits (s := []) nofun
  obtain ⟨d, es, hcons⟩ := List.exists_cons_of_ne_nil x.nonempty
  rw [List.append_nil, hcons, List.length_cons, Nat.zero_add] at hdigits
  rw [Exponent.chars, exponent?, if_pos hmark, takeSign_exponent, hcons]
  dsimp only
  rw [hdigits, Exponent.value, Exponent.magnitude, hcons]

theorem exponent?_exponentChars (t : Token) : exponent? t.exponentChars = some t.written := by
  rw [Token.exponentChars, Token.written]
  cases t.exponent with
  | none => rfl
  | some x => exact exponent?_chars x

theorem noDigit_exponentChars (t : Token) : NoDigit t.exponentChars := by
  rw [Token.exponentChars]
  cases t.exponent with
  | none => exact nofun
  | some x =>
      rintro c hc
      obtain rfl : x.mark = c := Option.some.inj hc
      rw [Exponent.mark]
      split <;> decide

theorem exponentChars_ne (t : Token) (s : List Char) : t.exponentChars ≠ '.' :: s := by
  rw [Token.exponentChars]
  cases t.exponent with
  | none => exact nofun
  | some x =>
      intro h
      have hmark : x.mark = '.' := (List.cons.inj h).1
      rw [Exponent.mark] at hmark
      split at hmark <;> exact absurd hmark (by decide)

theorem readDigits_token (negative : Bool) (t : Token) :
    readDigits negative t.unsignedChars = some (Double.nearest negative t.magnitude) := by
  have hcount : t.whole.length ≠ 0 := fun h => t.nonempty (List.eq_nil_of_length_eq_zero h)
  have hexponent := exponent?_exponentChars t
  rw [Token.magnitude, Token.power, Token.coefficient, ← Double.ofDecimal_eq_nearest]
  unfold readDigits Token.unsignedChars Token.fractionChars
  by_cases hfraction : t.fraction = []
  · rw [if_pos hfraction, List.nil_append,
      takeDigits_digitChars 0 0 t.whole (noDigit_exponentChars t), hfraction]
    dsimp only
    split
    · next r heq => exact absurd heq (exponentChars_ne t r)
    · dsimp only
      rw [if_neg (by omega), hexponent, Option.map_some, List.append_nil]
      rfl
  · rw [if_neg hfraction, takeDigits_digitChars 0 0 t.whole (by rintro c ⟨⟩; rfl)]
    simp only [List.cons_append, takeDigits_digitChars _ _ t.fraction (noDigit_exponentChars t)]
    rw [if_neg (by omega), hexponent, Option.map_some, digitsAfter_append, Nat.add_sub_cancel_left]

/-- A text that begins with a digit is no name. -/
theorem name_ne (d : Fin 10) (s : List Char) {name : String}
    (h : name ∈ ["inf", "infinity", "nan"]) :
    (String.ofList ((Text.digitChar d :: s).map Char.toLower) == name) = false := by
  have hfirst : ∀ name ∈ ["inf", "infinity", "nan"], ∃ c ∈ ['-', '+', 'i', 'n'],
      name.toList.head? = some c := by
    simp only [← List.all_iff_forall_prop, ← List.any_iff_exists_prop]
    decide
  obtain ⟨c, hc, hname⟩ := hfirst name h
  rw [beq_eq_false_iff_ne]
  rintro rfl
  rw [String.toList_ofList, List.map_cons, List.head?_cons, Option.some_inj] at hname
  exact (digitChar_ne d c hc).1 hname

/-- As a decimal text a token is the double nearest to its number. -/
theorem read_token (t : Token) : read t.chars = some (Double.nearest t.negative t.magnitude) := by
  obtain ⟨d, ds, hds⟩ := List.exists_cons_of_ne_nil t.nonempty
  have hunsigned : t.unsignedChars =
      Text.digitChar d :: (digitChars ds ++ (t.fractionChars ++ t.exponentChars)) := by
    rw [Token.unsignedChars, hds]
    rfl
  have hsign : takeSign t.chars = (t.negative, t.unsignedChars) := by
    rw [Token.chars]
    cases t.negative with
    | true => rfl
    | false => exact takeSign_digitChars t.nonempty _
  have hread := readDigits_token t.negative t
  rw [read, hsign]
  dsimp only
  rw [hunsigned] at hread ⊢
  rw [name_ne d _ (by decide), name_ne d _ (by decide), name_ne d _ (by decide), ← hread]
  rfl

end Decimal

end Dashboard.Number
