import Dashboard.Json.Number
import Dashboard.Proofs.Number.Shortest
import Dashboard.Proofs.Number.Token

/-!
# What the text of a number is

An integer is written by its digits, and a double by those of the shortest
decimal that reads back as it. `Laid` says where the point of such a decimal is
and when there is an exponent instead, and `Writes` puts digits and sign
together. Nothing of it refers to how the text is made.

A finite number has exactly one such text (`writes_iff`), which is never blank
and reads as the number again (`Writes.read`).
-/

namespace Dashboard.Json

open Dashboard.Number (Exponent ExponentSign Token digitChars digitCount digitsAfter
  digitChars_append digitChars_zeros digitsAfter_append digitsAfter_zeros exists_digits)
open Dashboard.Json.Number (decimalText zeros)

variable {first : Char} {digits rest t : List Char} {place : ℤ} {c e : ℕ}

/-! ## Where the point is -/

/-- Digits after a point, if there are any. -/
def pointed : List Char → List Char
  | [] => []
  | rest => '.' :: rest

/-- The text of a positive decimal, by its digits and the power of ten of the
last one. A point is among the digits or next to zeros that fill them up, if
the first digit is from the sixteenth place before it to the fifth one after
it. Otherwise there is one digit in front of it and an exponent. -/
inductive Laid (digits : List Char) : ℤ → List Char → Prop
  | whole (n : ℕ) (h : digits.length + n ≤ 16) :
      Laid digits n (digits ++ List.replicate n '0' ++ ['.', '0'])
  | within (front back : List Char) (hdigits : digits = front ++ back) (hfront : front ≠ [])
      (hback : back ≠ []) (h : front.length ≤ 16) :
      Laid digits (-back.length) (front ++ '.' :: back)
  | small (n : ℕ) (h : n < 5) :
      Laid digits (-(n + digits.length)) ('0' :: '.' :: (List.replicate n '0' ++ digits))
  | large (first : Char) (rest : List Char) (hdigits : digits = first :: rest) (e : ℕ)
      (h : 16 ≤ e) :
      Laid digits (e - rest.length) (first :: pointed rest ++ 'e' :: '+' :: (toString e).toList)
  | tiny (first : Char) (rest : List Char) (hdigits : digits = first :: rest) (e : ℕ) (h : 5 < e) :
      Laid digits (-e - rest.length) (first :: pointed rest ++ 'e' :: '-' :: (toString e).toList)

/-! ### The cases of the printer -/

theorem decimalText_of_lt (h : e < 16) :
    decimalText ⟨c, e⟩ = (Text.decimal c).take (e + 1) ++ zeros (e + 1 - digitCount c) ++
      '.' :: (if ((Text.decimal c).drop (e + 1)).isEmpty then ['0']
        else (Text.decimal c).drop (e + 1)) :=
  if_pos h

theorem withExponent_cons (sign : Char) (e : ℕ) :
    decimalText.withExponent (first :: rest) sign e =
      first :: pointed rest ++ 'e' :: sign :: (toString e).toList := by
  rw [Text.toString_eq_decimal, String.toList_ofList]
  cases rest <;> rfl

theorem decimalText_of_ge (h : 16 ≤ e) (hdigits : Text.decimal c = first :: rest) :
    decimalText ⟨c, e⟩ = first :: pointed rest ++ 'e' :: '+' :: (toString e).toList := by
  rw [← withExponent_cons, ← hdigits]
  exact if_neg (by omega)

theorem decimalText_neg_of_le (h : e < 5) :
    decimalText ⟨c, -(e + 1 : ℕ)⟩ = '0' :: '.' :: (zeros e ++ Text.decimal c) :=
  if_pos h

theorem decimalText_neg_of_gt (h : 5 ≤ e) (hdigits : Text.decimal c = first :: rest) :
    decimalText ⟨c, -(e + 1 : ℕ)⟩ =
      first :: pointed rest ++ 'e' :: '-' :: (toString (e + 1)).toList := by
  rw [← withExponent_cons, ← hdigits]
  exact if_neg (by omega)

theorem laid_decimalText (c : ℕ) (place : ℤ) :
    Laid (Text.decimal c) place (decimalText ⟨c, place + digitCount c - 1⟩) := by
  obtain ⟨first, rest, hdigits⟩ := List.exists_cons_of_ne_nil (Text.decimal_ne_nil c)
  have hcount : digitCount c = rest.length + 1 := by rw [digitCount, hdigits, List.length_cons]
  rcases lt_or_ge (place + digitCount c - 1) 0 with hneg | hpos
  · obtain ⟨e, he⟩ : ∃ e : ℕ, place + digitCount c - 1 = -(e + 1 : ℕ) :=
      ⟨(-(place + digitCount c)).toNat, by omega⟩
    rw [he]
    rcases Nat.lt_or_ge e 5 with h | h
    · rw [decimalText_neg_of_le h]
      obtain rfl : place = -(e + (Text.decimal c).length) := by
        rw [digitCount] at he
        omega
      exact .small e h
    · rw [decimalText_neg_of_gt h hdigits]
      obtain rfl : place = -(e + 1 : ℕ) - rest.length := by omega
      exact .tiny first rest hdigits (e + 1) (by omega)
  · obtain ⟨e, he⟩ := Int.eq_ofNat_of_zero_le hpos
    rw [he]
    rcases Nat.lt_or_ge e 16 with h | h
    · rw [decimalText_of_lt h]
      rcases Nat.lt_or_ge (e + 1) (digitCount c) with hlt | hle
      · have hlength : ((Text.decimal c).drop (e + 1)).length = digitCount c - (e + 1) :=
          List.length_drop
        have hback : (Text.decimal c).drop (e + 1) ≠ [] := by
          rw [← List.length_pos_iff]
          omega
        have hfront : (Text.decimal c).take (e + 1) ≠ [] := by
          rw [hdigits]
          exact List.cons_ne_nil _ _
        obtain rfl : place = -((Text.decimal c).drop (e + 1)).length := by omega
        rw [Nat.sub_eq_zero_of_le hlt.le, zeros, List.replicate_zero, List.append_nil,
          if_neg (by simpa using hback)]
        refine .within _ _ (List.take_append_drop _ _).symm hfront hback ?_
        exact (List.length_take_le _ _).trans (by omega)
      · obtain rfl : place = (e + 1 - digitCount c : ℕ) := by omega
        rw [List.take_of_length_le hle, List.drop_eq_nil_of_le hle]
        exact .whole _ (by rw [← digitCount]; omega)
    · rw [decimalText_of_ge h hdigits]
      obtain rfl : place = e - rest.length := by omega
      exact .large first rest hdigits e h

theorem Laid.eq_decimalText (h : Laid (Text.decimal c) place t) :
    t = decimalText ⟨c, place + digitCount c - 1⟩ := by
  have hne : 0 < digitCount c := List.length_pos_iff.mpr (Text.decimal_ne_nil c)
  cases h with
  | whole n h =>
      rw [← digitCount] at h
      have he : (n : ℤ) + digitCount c - 1 = (digitCount c + n - 1 : ℕ) := by omega
      have hall : (Text.decimal c).length ≤ digitCount c + n - 1 + 1 := by
        rw [← digitCount]
        omega
      rw [he, decimalText_of_lt (by omega), List.take_of_length_le hall,
        List.drop_eq_nil_of_le hall,
        show digitCount c + n - 1 + 1 - digitCount c = n by omega]
      rfl
  | within front back hdigits hfront hback h =>
      have hlength : digitCount c = front.length + back.length := by
        rw [digitCount, hdigits, List.length_append]
      have hfront' := List.length_pos_iff.mpr hfront
      have he : -(back.length : ℤ) + digitCount c - 1 = (front.length - 1 : ℕ) := by omega
      rw [he, decimalText_of_lt (by omega), Nat.sub_add_cancel hfront', hdigits,
        List.take_left, List.drop_left, if_neg (by simpa using hback),
        Nat.sub_eq_zero_of_le (by omega), zeros, List.replicate_zero, List.append_nil]
  | small n h =>
      have he : -((n : ℤ) + (Text.decimal c).length) + digitCount c - 1 = -(n + 1 : ℕ) := by
        rw [digitCount]
        omega
      rw [he, decimalText_neg_of_le h, zeros]
  | large first rest hdigits e h =>
      have he : (e : ℤ) - rest.length + digitCount c - 1 = e := by
        rw [digitCount, hdigits, List.length_cons]
        omega
      rw [he, decimalText_of_ge h hdigits]
  | tiny first rest hdigits e h =>
      obtain ⟨e, rfl⟩ := Nat.exists_eq_succ_of_ne_zero (show e ≠ 0 by omega)
      have he : -((e + 1 : ℕ) : ℤ) - rest.length + digitCount c - 1 = -(e + 1 : ℕ) := by
        rw [digitCount, hdigits, List.length_cons]
        omega
      rw [Nat.succ_eq_add_one, he, decimalText_neg_of_gt (by omega) hdigits]

/-! ## The text of a number -/

/-- The sign of a negative number. -/
def signChars (negative : Bool) : List Char := if negative then ['-'] else []

/-- The text of a number. -/
inductive Writes : Number → String → Prop
  | natural (n : UInt64) : Writes (.natural n) (toString n.toNat)
  | negative (m : UInt64) : Writes (.negative m) ("-" ++ toString m.toNat)
  | zero (negative : Bool) :
      Writes (.real (.zero negative)) (String.ofList (signChars negative ++ ['0', '.', '0']))
  | real {x : Double} {c : ℕ} {place : ℤ} {t : List Char} (h : x.Shortest c place)
      (ht : Laid (toString c).toList place t) :
      Writes (.real x) (String.ofList (signChars x.isNegative ++ t))

theorem toList_toString (n : ℕ) : (toString n).toList = Text.decimal n := by
  rw [Text.toString_eq_decimal, String.toList_ofList]

theorem text_negative (m : UInt64) : (Number.negative m).text = "-" ++ toString m.toNat := by
  rw [Text.toString_eq_decimal, Number.text, ← List.singleton_append, String.ofList_append]

theorem text_zero (negative : Bool) :
    (Number.real (.zero negative)).text =
      String.ofList (signChars negative ++ ['0', '.', '0']) := by
  cases negative <;> rfl

theorem text_real_of_pos {x : Double} {c : ℕ} {place : ℤ} (hx : x.isFinite = true)
    (hpos : 0 < |x.value|) (h : x.Shortest c place) :
    (Number.real x).text =
      String.ofList (signChars x.isNegative ++ decimalText ⟨c, place + digitCount c - 1⟩) := by
  have hzero : ¬ x.isZero = true := fun hzero => hpos.ne' ((Double.isZero_iff hx).mp hzero)
  obtain ⟨c', place', h', hshortest⟩ := Double.exists_shortest hx hpos
  obtain ⟨rfl, rfl⟩ := h.unique hx h'
  rw [Number.text, Number.realText, ← hshortest]
  exact congrArg String.ofList (if_neg hzero)

/-- A finite number has one text and no other. -/
theorem writes_iff {n : Number} {s : String} (h : n.toDouble.isFinite = true) :
    Writes n s ↔ n.text = s := by
  constructor
  · rintro (n | m | negative | ⟨hshortest, ht⟩)
    · rw [Text.toString_eq_decimal]
      rfl
    · exact text_negative m
    · exact text_zero negative
    · rw [toList_toString] at ht
      rw [ht.eq_decimalText]
      exact text_real_of_pos h (hshortest.pos h) hshortest
  · rintro rfl
    cases n with
    | natural n =>
        rw [Number.text, ← Text.toString_eq_decimal]
        exact .natural n
    | negative m =>
        rw [text_negative]
        exact .negative m
    | real x =>
        change x.isFinite = true at h
        rcases (abs_nonneg x.value).eq_or_lt with hzero | hpos
        · have hx := Double.nearest_value h
          rw [← hzero, Double.nearest_zero] at hx
          rw [← hx, text_zero]
          exact .zero _
        · obtain ⟨c, place, hshortest, -⟩ := Double.exists_shortest h hpos
          rw [text_real_of_pos h hpos hshortest]
          refine .real hshortest ?_
          rw [toList_toString]
          exact laid_decimalText c place

example : (Number.real ⟨0x3fb999999999999a⟩).text = "0.1" := by decide +kernel

/-! ## Reading the text -/

/-- A text is that of a token, and the number is what the token stands for. -/
def Stands (t : List Char) (negative : Bool) (q : ℚ) : Prop :=
  ∃ token : Token, token.chars = signChars negative ++ t ∧ token.negative = negative ∧
    token.magnitude = q

theorem head?_digits {ds : List (Fin 10)} (hds : Text.decimal c = digitChars ds)
    (h : ds.head? = some 0) : c = 0 := by
  refine Text.head?_decimal ?_
  rw [hds, digitChars, List.head?_map, h]
  rfl

theorem pointed_digitChars (ds : List (Fin 10)) :
    pointed (digitChars ds) = if ds = [] then [] else '.' :: digitChars ds := by
  cases ds <;> rfl

theorem stands_exponent (hdigits : Text.decimal c = first :: rest) (x : Exponent)
    (negative : Bool) :
    Stands (first :: pointed rest ++ x.chars) negative (c * 10 ^ (x.value - rest.length)) := by
  obtain ⟨ds, hds, hvalue⟩ := exists_digits c
  rw [hds] at hdigits
  obtain ⟨d, ds, rfl, rfl, rfl⟩ := List.map_eq_cons_iff.mp hdigits
  refine ⟨⟨negative, [d], ds, some x, List.cons_ne_nil _ _, fun h => by rw [Option.some.inj h]⟩,
    ?_, rfl, ?_⟩
  · change _ ++ (_ :: (Token.fractionChars _ ++ _)) = _
    rw [Token.fractionChars, ← pointed_digitChars]
    rfl
  · rw [← hvalue, List.length_map]
    rfl

theorem stands_point (front back : List (Fin 10)) (hfront : front ≠ []) (hback : back ≠ [])
    (hhead : front.head? = some 0 → front = [0]) (negative : Bool) :
    Stands (digitChars front ++ '.' :: digitChars back) negative
      (digitsAfter 0 (front ++ back) * 10 ^ (-(back.length : ℤ))) := by
  refine ⟨⟨negative, front, back, none, hfront, hhead⟩, ?_, rfl, ?_⟩
  · change _ ++ (_ ++ (Token.fractionChars _ ++ [])) = _
    rw [Token.fractionChars, if_neg hback, List.append_nil]
    rfl
  · change (digitsAfter 0 (front ++ back) : ℚ) * 10 ^ (0 - (back.length : ℤ)) = _
    rw [zero_sub]

theorem exists_exponent (sign : ExponentSign) (e : ℕ) :
    ∃ x : Exponent, x.chars = 'e' :: (sign.chars ++ (toString e).toList) ∧ x.sign = sign ∧
      x.magnitude = e := by
  obtain ⟨es, hes, hvalue⟩ := exists_digits e
  have hne : es ≠ [] := by
    rintro rfl
    exact Text.decimal_ne_nil e hes
  refine ⟨⟨false, sign, es, hne⟩, ?_, rfl, hvalue⟩
  rw [toList_toString, hes]
  rfl

/-- A decimal stands for the multiple of its power of ten. -/
theorem Laid.stands (hc : 0 < c) (h : Laid (Text.decimal c) place t) (negative : Bool) :
    Stands t negative (c * 10 ^ place) := by
  obtain ⟨ds, hds, hvalue⟩ := exists_digits c
  have hne : ds ≠ [] := by
    rintro rfl
    exact Text.decimal_ne_nil c hds
  have hhead : ds.head? ≠ some 0 := fun h => hc.ne' (head?_digits hds h)
  cases h with
  | whole n h =>
      have hfront : (ds ++ List.replicate n 0).head? ≠ some 0 := by
        rwa [List.head?_append_of_ne_nil _ hne]
      have hpoint := stands_point _ [0] (List.append_ne_nil_of_left_ne_nil hne _)
        (List.cons_ne_nil _ _) (fun h => absurd h hfront) negative
      rw [digitsAfter_append, digitsAfter_append, digitsAfter_zeros, hvalue] at hpoint
      have hvalue' : (digitsAfter (c * 10 ^ n) [0] : ℚ) * 10 ^ (-(1 : ℤ)) = c * 10 ^ (n : ℤ) := by
        rw [digitsAfter, digitsAfter, Fin.val_zero, Nat.add_zero, zpow_neg_one, zpow_natCast]
        push_cast
        rw [mul_inv_cancel_right₀ (by norm_num)]
      rw [List.length_singleton, Nat.cast_one, hvalue', digitChars_append,
        digitChars_zeros] at hpoint
      rw [hds]
      exact hpoint
  | within front back hdigits hfront hback h =>
      rw [hds] at hdigits
      obtain ⟨ds₁, ds₂, rfl, rfl, rfl⟩ := List.map_eq_append_iff.mp hdigits
      have hfront' : ds₁ ≠ [] := by simpa using hfront
      rw [List.head?_append_of_ne_nil _ hfront'] at hhead
      have hpoint := stands_point ds₁ ds₂ hfront' (by simpa using hback)
        (fun h => absurd h hhead) negative
      rw [hvalue] at hpoint
      rw [List.length_map]
      exact hpoint
  | small n h =>
      have hzeros : digitsAfter 0 ([0] ++ List.replicate n 0) = 0 :=
        (digitsAfter_zeros 0 (n + 1)).trans (Nat.zero_mul _)
      have hpoint := stands_point [0] (List.replicate n 0 ++ ds)
        (List.cons_ne_nil _ _) (List.append_ne_nil_of_right_ne_nil _ hne) (fun _ => rfl) negative
      rw [← List.append_assoc, digitsAfter_append, hzeros, hvalue] at hpoint
      rw [List.length_append, List.length_replicate, digitChars_append, digitChars_zeros] at hpoint
      rw [hds, digitChars, List.length_map, ← Nat.cast_add]
      exact hpoint
  | large first rest hdigits e h =>
      obtain ⟨x, hchars, hsign, hmagnitude⟩ := exists_exponent .plus e
      have hx := stands_exponent hdigits x negative
      rw [hchars, Exponent.value, Exponent.down, hsign, hmagnitude] at hx
      exact hx
  | tiny first rest hdigits e h =>
      obtain ⟨x, hchars, hsign, hmagnitude⟩ := exists_exponent .minus e
      have hx := stands_exponent hdigits x negative
      rw [hchars, Exponent.value, Exponent.down, hsign, hmagnitude] at hx
      exact hx

theorem stands_integer (negative : Bool) (n : ℕ) : Stands (Text.decimal n) negative n := by
  obtain ⟨ds, hds, hvalue⟩ := exists_digits n
  have hne : ds ≠ [] := by
    rintro rfl
    exact Text.decimal_ne_nil n hds
  have hzero : ds.head? = some 0 → ds = [0] := by
    intro h
    rw [head?_digits hds h, Text.decimal_of_lt (by decide)] at hds
    obtain ⟨d, rest, rfl, -, hrest⟩ := List.map_eq_cons_iff.mp hds.symm
    rw [List.map_eq_nil_iff.mp hrest, Option.some.inj h]
  refine ⟨⟨negative, ds, [], none, hne, hzero⟩, ?_, rfl, ?_⟩
  · change _ ++ (_ ++ []) = _
    rw [List.append_nil, hds]
    rfl
  · change (digitsAfter 0 (ds ++ []) : ℚ) * 10 ^ ((0 : ℤ) - (0 : ℕ)) = n
    rw [List.append_nil, hvalue, Nat.cast_zero, sub_zero, zpow_zero, mul_one]

/-- What the text of a number stands for is nearest to the number. -/
theorem Writes.exists_token {n : Number} {s : String} (h : Writes n s) :
    ∃ token : Token, token.chars = s.toList ∧
      Double.nearest token.negative token.magnitude = n.toDouble := by
  suffices hstands : ∃ negative t q, Stands t negative q ∧ s.toList = signChars negative ++ t ∧
      Double.nearest negative q = n.toDouble by
    obtain ⟨_, t, _, ⟨token, hchars, rfl, rfl⟩, hs, hnearest⟩ := hstands
    exact ⟨token, hchars.trans hs.symm, hnearest⟩
  rcases h with n | m | negative | @⟨x, c, place, t, hshortest, ht⟩
  · exact ⟨false, _, _, stands_integer false n.toNat, toList_toString _,
      (Double.ofNat_eq_nearest _).symm⟩
  · refine ⟨true, _, _, stands_integer true m.toNat, ?_, ?_⟩
    · rw [String.toList_append, toList_toString]
      rfl
    · rw [← Bool.not_false, ← Double.negate_nearest false (Nat.cast_nonneg _),
        ← Double.ofNat_eq_nearest]
      rfl
  · refine ⟨negative, _, _, stands_point [0] [0] (List.cons_ne_nil _ _)
      (List.cons_ne_nil _ _) (fun _ => rfl) negative, String.toList_ofList, ?_⟩
    have hvalue : digitsAfter 0 ([0] ++ [0]) = 0 := rfl
    rw [hvalue, Nat.cast_zero, zero_mul]
    exact Double.nearest_zero negative
  · rw [toList_toString] at ht
    exact ⟨_, _, _, ht.stands hshortest.coefficient_pos x.isNegative, String.toList_ofList,
      hshortest.closest.back⟩

/-- Read as a decimal the text gives the number. -/
theorem Writes.read {n : Number} {s : String} (h : Writes n s) :
    Dashboard.Number.Decimal.read s.toList = some n.toDouble := by
  obtain ⟨token, hchars, hnearest⟩ := h.exists_token
  rw [← hchars, Dashboard.Number.Decimal.read_token, hnearest]

theorem Writes.not_blank {n : Number} {s : String} (h : Writes n s) :
    ∃ c ∈ s.toList, Text.isBlank c = false := by
  obtain ⟨token, hchars, -⟩ := h.exists_token
  have hne : s.toList ≠ [] := by
    intro hempty
    have hread := h.read
    rw [hempty] at hread
    cases hread
  obtain ⟨c, hc⟩ := List.exists_mem_of_ne_nil _ hne
  refine ⟨c, hc, Dashboard.Number.isBlank_of_mem_chars token c ?_⟩
  rwa [hchars]

end Dashboard.Json
