import Dashboard.Proofs.Json.Number
import Dashboard.Proofs.Number.Token

/-!
# Decoding a token

The decoder gathers the digits of a token as far as they fit into sixty-four
bits and counts the others (`gather`). What is gathered, with the power of ten
that is then applied, makes the double of the token (`decodedDouble?`), if it is in
range.
-/

namespace Dashboard.Json

open Double (nearest)
open Dashboard.Number (Token Exponent ExponentSign digitsAfter digitChars)

variable {n m left : ℕ} {ds : List (Fin 10)} {rest : List UInt8}

/-! ## Bytes -/

/-- The byte of an ASCII character. -/
def asciiByte (c : Char) : UInt8 := UInt8.ofNat c.toNat

/-- The bytes of digits. -/
def digitBytes (ds : List (Fin 10)) : List UInt8 := (digitChars ds).map asciiByte

/-- Bytes that do not go on with a digit. -/
def NoDigit (rest : List UInt8) : Prop := ∀ b ∈ rest.head?, byteDigit? b = none

theorem byteDigit?_digitChar :
    ∀ d : Fin 10, byteDigit? (asciiByte (Text.digitChar d)) = some ↑d := by decide

theorem isSome_byteDigit?_of_mem : ∀ b ∈ digitBytes ds, (byteDigit? b).isSome = true := by
  simp only [digitBytes, digitChars, List.map_map, List.mem_map, Function.comp_apply]
  rintro b ⟨d, -, rfl⟩
  rw [byteDigit?_digitChar]
  rfl

theorem takeWhile_digitBytes (ds : List (Fin 10)) (h : NoDigit rest) :
    (digitBytes ds ++ rest).takeWhile (fun b => (byteDigit? b).isSome) = digitBytes ds := by
  rw [List.takeWhile_append_of_pos isSome_byteDigit?_of_mem]
  cases rest with
  | nil => exact List.append_nil _
  | cons b rest =>
      rw [List.takeWhile_cons_of_neg (by rw [h b rfl]; exact Bool.false_ne_true), List.append_nil]

theorem dropWhile_digitBytes (ds : List (Fin 10)) (h : NoDigit rest) :
    (digitBytes ds ++ rest).dropWhile (fun b => (byteDigit? b).isSome) = rest := by
  rw [List.dropWhile_append_of_pos isSome_byteDigit?_of_mem]
  cases rest with
  | nil => rfl
  | cons b rest => rw [List.dropWhile_cons_of_neg (by rw [h b rfl]; exact Bool.false_ne_true)]

/-! ## Gathering digits -/

/-- The number that digits make as far as they fit, and how many digits are
left. -/
def gather (n : ℕ) : List (Fin 10) → ℕ × ℕ
  | [] => (n, 0)
  | d :: ds => if fits n d then gather (n * 10 + d) ds else (n, ds.length + 1)

theorem wholeDigits_digitBytes (n : ℕ) (ds : List (Fin 10)) (h : NoDigit rest) :
    wholeDigits n (digitBytes ds ++ rest) = ((gather n ds).1, (gather n ds).2, rest) := by
  induction ds generalizing n with
  | nil =>
      cases rest with
      | nil => rfl
      | cons b rest =>
          change wholeDigits n (b :: rest) = (n, 0, b :: rest)
          rw [wholeDigits, h b rfl]
  | cons d ds ih =>
      have hlong := takeWhile_digitBytes (d :: ds) h
      change wholeDigits n (asciiByte (Text.digitChar d) :: (digitBytes ds ++ rest)) = _
      rw [wholeDigits, byteDigit?_digitChar, gather]
      dsimp only
      split
      · exact ih (n * 10 + d)
      · have hbytes : asciiByte (Text.digitChar d) :: (digitBytes ds ++ rest) =
            digitBytes (d :: ds) ++ rest := rfl
        rw [hbytes, hlong, List.drop_left]
        simp [digitBytes, digitChars]

theorem gather_left_le (n : ℕ) (ds : List (Fin 10)) : (gather n ds).2 ≤ ds.length := by
  induction ds generalizing n with
  | nil => exact le_rfl
  | cons d ds ih =>
      rw [gather]
      split
      · exact (ih _).trans (Nat.le_succ _)
      · exact le_rfl

theorem fractionDigits_digitBytes (n count : ℕ) (ds : List (Fin 10)) (h : NoDigit rest) :
    fractionDigits n count (digitBytes ds ++ rest) =
      ((gather n ds).1, count + (ds.length - (gather n ds).2), rest) := by
  induction ds generalizing n count with
  | nil =>
      cases rest with
      | nil => rfl
      | cons b rest =>
          change fractionDigits n count (b :: rest) = (n, count, b :: rest)
          rw [fractionDigits, h b rfl]
  | cons d ds ih =>
      have hlong := dropWhile_digitBytes (d :: ds) h
      change fractionDigits n count (asciiByte (Text.digitChar d) :: (digitBytes ds ++ rest)) = _
      rw [fractionDigits, byteDigit?_digitChar, gather]
      dsimp only
      split
      · have hle := gather_left_le (n * 10 + d) ds
        rw [ih, List.length_cons, Nat.add_assoc, Nat.succ_sub hle, Nat.succ_eq_one_add]
      · have hbytes : asciiByte (Text.digitChar d) :: (digitBytes ds ++ rest) =
            digitBytes (d :: ds) ++ rest := rfl
        rw [hbytes, hlong, List.length_cons, Nat.sub_self]
        rfl

theorem gather_lt (ds : List (Fin 10)) (h : n < UInt64.size) : (gather n ds).1 < UInt64.size := by
  induction ds generalizing n with
  | nil => exact h
  | cons d ds ih =>
      rw [gather]
      split
      · next hfits => exact ih (of_decide_eq_true hfits)
      · exact h

/-- Where all digits fit, all are gathered. -/
theorem gather_of_lt (h : digitsAfter n ds < UInt64.size) :
    gather n ds = (digitsAfter n ds, 0) := by
  induction ds generalizing n with
  | nil => rfl
  | cons d ds ih =>
      have hfits := lt_of_le_of_lt (Number.le_digitsAfter (n * 10 + d) ds) h
      rw [gather, if_pos (show fits n d = true from decide_eq_true hfits)]
      exact ih h

/-- The digits that are left are worth less than one in the last place that is
gathered. -/
theorem gather_between (n : ℕ) (ds : List (Fin 10)) :
    (gather n ds).1 * 10 ^ (gather n ds).2 ≤ digitsAfter n ds ∧
      digitsAfter n ds < ((gather n ds).1 + 1) * 10 ^ (gather n ds).2 := by
  induction ds generalizing n with
  | nil => simp [gather, digitsAfter]
  | cons d ds ih =>
      rw [gather]
      split
      · exact ih (n * 10 + d)
      · have hlt := Number.digitsAfter_lt (d :: ds)
        rw [Number.digitsAfter_eq, List.length_cons] at *
        constructor <;> dsimp only <;> linarith

/-- The number that the digits begin with stays in front. -/
theorem gather_within (n : ℕ) (ds : List (Fin 10)) :
    n * 10 ^ ds.length ≤ (gather n ds).1 * 10 ^ (gather n ds).2 ∧
      (gather n ds).1 * 10 ^ (gather n ds).2 < (n + 1) * 10 ^ ds.length := by
  constructor
  · induction ds generalizing n with
    | nil => exact le_rfl
    | cons d ds ih =>
        rw [gather]
        split
        · refine le_trans ?_ (ih (n * 10 + d))
          rw [List.length_cons, pow_succ, mul_comm (10 ^ _) 10, ← mul_assoc]
          exact Nat.mul_le_mul_right _ (Nat.le_add_right _ _)
        · exact le_rfl
  · have hbetween := (gather_between n ds).1
    have hlt := Number.digitsAfter_lt ds
    rw [Number.digitsAfter_eq] at hbetween
    linarith

/-- If digits are left, many have been gathered. -/
theorem le_gather (h : (gather n ds).2 ≠ 0) : 2 ^ 60 ≤ (gather n ds).1 := by
  induction ds generalizing n with
  | nil => exact absurd rfl h
  | cons d ds ih =>
      rw [gather] at h ⊢
      split
      · next hfits => exact ih (by rwa [if_pos hfits] at h)
      · next hfits =>
          have hsize : ¬ n * 10 + d < UInt64.size := fun hlt => hfits (decide_eq_true hlt)
          have hd := d.isLt
          simp only [UInt64.size] at hsize
          omega

theorem exponentDigits_of_le (h : NoDigit rest) (hle : digitsAfter n ds ≤ exponentLimit) :
    exponentDigits n (digitBytes ds ++ rest) = .ok (digitsAfter n ds, rest) := by
  induction ds generalizing n with
  | nil =>
      cases rest with
      | nil => rfl
      | cons b rest =>
          change exponentDigits n (b :: rest) = .ok (n, b :: rest)
          rw [exponentDigits, h b rfl]
  | cons d ds ih =>
      change exponentDigits n (asciiByte (Text.digitChar d) :: (digitBytes ds ++ rest)) = _
      rw [exponentDigits, byteDigit?_digitChar]
      dsimp only
      rw [if_pos ((Number.le_digitsAfter (n * 10 + d) ds).trans hle)]
      exact ih hle

theorem exponentDigits_of_lt (h : NoDigit rest) (hn : n ≤ exponentLimit)
    (hlt : exponentLimit < digitsAfter n ds) :
    ∃ r, exponentDigits n (digitBytes ds ++ rest) = .error r ∧
      r.dropWhile (fun b => (byteDigit? b).isSome) = rest := by
  induction ds generalizing n with
  | nil => exact absurd hn (Nat.not_le.mpr hlt)
  | cons d ds ih =>
      change ∃ r, exponentDigits n (asciiByte (Text.digitChar d) :: (digitBytes ds ++ rest)) = _ ∧ _
      rw [exponentDigits, byteDigit?_digitChar]
      dsimp only
      split
      · next hle => exact ih hle hlt
      · exact ⟨_, rfl, dropWhile_digitBytes ds h⟩

/-! ## Exponents -/

/-- The double of gathered digits and a power of ten. -/
def powerDouble? (negative : Bool) (n : ℕ) (e : ℤ) : Option Double :=
  (applyExponent (Double.ofNat n) e).map fun f => if negative then f.negate else f

/-- The same with an exponent. One that is too large makes zero of a number, or
puts it out of range. -/
def exponentDouble? (negative : Bool) (n : ℕ) (start : ℤ) (x : Exponent) : Option Double :=
  if x.magnitude ≤ exponentLimit then powerDouble? negative n (clampExponent (start + x.value))
  else if n ≠ 0 ∧ !x.down then none
  else some (Double.zero negative)

theorem toOption_ofParts (negative : Bool) (n : ℕ) (e : ℤ) (rest : List UInt8) :
    (ofParts negative n e rest).toOption =
      (powerDouble? negative n e).map fun x => (Number.real x, rest) := by
  rw [ofParts, powerDouble?]
  cases applyExponent (Double.ofNat n) e <;> rfl

/-- No digit is a sign. -/
theorem asciiByte_digitChar_ne : ∀ d : Fin 10, asciiByte (Text.digitChar d) ≠ 43 ∧
    asciiByte (Text.digitChar d) ≠ 45 := by decide

/-- An exponent from the byte after its sign on. -/
def exponentStep (negative down : Bool) (n : ℕ) (start : ℤ) :
    List UInt8 → Except Fault (Number × List UInt8)
  | [] => .error (Fault.after .endOfValue [])
  | b :: r =>
    match byteDigit? b with
    | none => .error (Fault.after .invalidNumber r)
    | some d =>
      match exponentDigits d r with
      | .ok (value, r) =>
        ofParts negative n (clampExponent (start + if down then -(value : ℤ) else value)) r
      | .error r =>
        if n ≠ 0 ∧ !down then .error (Fault.after .numberOutOfRange r)
        else .ok (.real (Double.zero negative), r.dropWhile fun b => (byteDigit? b).isSome)

theorem exponentPart_sign (negative : Bool) (n : ℕ) (start : ℤ) (x : Exponent) (rest : List UInt8) :
    exponentPart negative n start (x.sign.chars.map asciiByte ++ (digitBytes x.digits ++ rest)) =
      exponentStep negative x.down n start (digitBytes x.digits ++ rest) := by
  rw [Exponent.down]
  cases x.sign with
  | plus => rfl
  | minus => rfl
  | none =>
      obtain ⟨d, ds, hds⟩ := List.exists_cons_of_ne_nil x.nonempty
      rw [hds]
      change exponentPart negative n start
        (asciiByte (Text.digitChar d) :: (digitBytes ds ++ rest)) = _
      unfold exponentPart
      split
      next down bs heq =>
        split at heq
        · next hsign => exact absurd (List.cons.inj hsign).1 (asciiByte_digitChar_ne d).1
        · next hsign => exact absurd (List.cons.inj hsign).1 (asciiByte_digitChar_ne d).2
        · obtain ⟨rfl, rfl⟩ := Prod.mk.inj heq
          rfl

theorem toOption_exponentPart (negative : Bool) (n : ℕ) (start : ℤ) (x : Exponent)
    (h : NoDigit rest) :
    (exponentPart negative n start
        (x.sign.chars.map asciiByte ++ (digitBytes x.digits ++ rest))).toOption =
      (exponentDouble? negative n start x).map fun x => (Number.real x, rest) := by
  obtain ⟨d, ds, hds⟩ := List.exists_cons_of_ne_nil x.nonempty
  have hmagnitude : digitsAfter (d : ℕ) ds = x.magnitude := by
    rw [Exponent.magnitude, hds, digitsAfter, Nat.zero_mul, Nat.zero_add]
  rw [exponentPart_sign, hds]
  change (exponentStep negative x.down n start
    (asciiByte (Text.digitChar d) :: (digitBytes ds ++ rest))).toOption = _
  rw [exponentStep, byteDigit?_digitChar, exponentDouble?]
  dsimp only
  rcases le_or_gt x.magnitude exponentLimit with hle | hgt
  · rw [if_pos hle, exponentDigits_of_le h (hmagnitude ▸ hle), hmagnitude]
    exact toOption_ofParts negative n _ rest
  · have hfirst : (d : ℕ) ≤ exponentLimit := (Nat.le_of_lt_succ d.isLt).trans (by decide)
    obtain ⟨r, hr, hdrop⟩ := exponentDigits_of_lt h hfirst (hmagnitude ▸ hgt)
    rw [if_neg (Nat.not_le.mpr hgt), hr]
    dsimp only
    split
    · rfl
    · rw [hdrop]
      rfl

/-! ## The number of a token -/

/-- What is gathered of the digits before the point. -/
def wholePart (t : Token) : ℕ × ℕ := gather 0 t.whole

/-- What is gathered of all digits. -/
def gathered (t : Token) : ℕ × ℕ := gather (wholePart t).1 t.fraction

/-- The power of ten at the last digit that is gathered, before an exponent is
applied. -/
def start (t : Token) : ℤ := (wholePart t).2 - (t.fraction.length - (gathered t).2 : ℕ)

/-- The double of a token, if it is in range. -/
def decodedDouble? (t : Token) : Option Double :=
  match t.exponent with
  | none => powerDouble? t.negative (gathered t).1 (start t)
  | some x => exponentDouble? t.negative (gathered t).1 (start t) x

/-- The number of a token, an integer where it is written as one. -/
def decodedNumber? (t : Token) : Option Number :=
  if t.exponent.isNone ∧ t.fraction = [] ∧ (wholePart t).2 = 0 then
    some (integer t.negative (gathered t).1)
  else (decodedDouble? t).map .real

theorem toDouble_integer (negative : Bool) (h : n < UInt64.size) :
    (integer negative n).toDouble = nearest negative n := by
  have hword : (UInt64.ofNat n).toNat = n := UInt64.toNat_ofNat_of_lt' h
  have hneg : (Double.ofNat n).negate = nearest true n := by
    rw [Double.ofNat_eq_nearest, Double.negate_nearest false (Nat.cast_nonneg n), Bool.not_false]
  cases negative with
  | false =>
      change Double.ofNat (UInt64.ofNat n).toNat = nearest false n
      rw [hword, Double.ofNat_eq_nearest]
  | true =>
      unfold integer
      rw [if_neg (by decide)]
      split
      · exact hneg
      · change (Double.ofNat (UInt64.ofNat n).toNat).negate = nearest true n
        rw [hword, hneg]

theorem powerDouble?_zero (negative : Bool) (h : n < UInt64.size) :
    powerDouble? negative n 0 = some (nearest negative n) := by
  rw [powerDouble?, applyExponent_none h, Option.map_some,
    Double.nearest_signed negative (Nat.cast_nonneg n)]

theorem gathered_lt (t : Token) : (gathered t).1 < UInt64.size :=
  gather_lt t.fraction (gather_lt t.whole (by decide))

/-- As a double an integer is like any other number. -/
theorem map_toDouble_decodedNumber? (t : Token) :
    (decodedNumber? t).map Number.toDouble = decodedDouble? t := by
  rw [decodedNumber?]
  split
  · next h =>
      obtain ⟨hexponent, hfraction, hleft⟩ := h
      have hstart : start t = 0 := by
        rw [start, hleft, hfraction, List.length_nil, Nat.zero_sub, Nat.cast_zero, sub_zero]
      rw [decodedDouble?, Option.isNone_iff_eq_none.mp hexponent]
      dsimp only
      rw [hstart, powerDouble?_zero _ (gathered_lt t), Option.map_some,
        toDouble_integer _ (gathered_lt t)]
  · rw [Option.map_map]
    exact Option.map_id'

/-! ## Decoding -/

/-- Bytes that may come after a number. -/
def Follows (rest : List UInt8) : Prop := ∀ b ∈ rest.head?, b ∈ [44, 93, 125]

theorem Follows.noDigit (h : Follows rest) : NoDigit rest := by
  have hmarks : ∀ b ∈ ([44, 93, 125] : List UInt8), byteDigit? b = none :=
    List.all_iff_forall_prop.mp (by decide)
  exact fun b hb => hmarks b (h b hb)

theorem Follows.not_mark (h : Follows rest) :
    ∀ b ∈ rest.head?, isExponentMark b = false ∧ b ≠ 46 := by
  have hmarks : ∀ b ∈ ([44, 93, 125] : List UInt8), isExponentMark b = false ∧ b ≠ 46 :=
    List.all_iff_forall_prop.mp (by decide)
  exact fun b hb => hmarks b (h b hb)

theorem isExponentMark_mark (x : Exponent) : isExponentMark (asciiByte x.mark) = true := by
  rw [Exponent.mark]
  split <;> rfl

theorem afterWhole_of_mark {b : UInt8} (hb : isExponentMark b = true) (negative : Bool)
    (n left : ℕ) (r : List UInt8) :
    afterWhole negative n left (b :: r) = exponentPart negative n left r := by
  unfold afterWhole
  split
  · next heq =>
      obtain ⟨rfl, rfl⟩ := List.cons.inj heq
      exact absurd hb (by decide)
  · next heq =>
      obtain ⟨rfl, rfl⟩ := List.cons.inj heq
      exact if_pos hb
  · next heq => exact absurd heq nofun

theorem afterWhole_of_follows (h : Follows rest) (negative : Bool) (n left : ℕ) :
    afterWhole negative n left rest =
      if left = 0 then .ok (integer negative n, rest) else ofParts negative n left rest := by
  unfold afterWhole
  split
  · next r => exact absurd rfl (h.not_mark 46 rfl).2
  · next b r _ => exact if_neg (by rw [(h.not_mark b rfl).1]; exact Bool.false_ne_true)
  · rfl

theorem exponentChars_bytes (x : Exponent) (rest : List UInt8) :
    x.chars.map asciiByte ++ rest =
      asciiByte x.mark :: (x.sign.chars.map asciiByte ++ (digitBytes x.digits ++ rest)) := by
  rw [Exponent.chars, List.map_cons, List.map_append, List.cons_append, List.append_assoc]
  rfl

/-- A number without digits after the point. -/
theorem toOption_afterWhole_of_nil (t : Token) (hfraction : t.fraction = []) (h : Follows rest) :
    (afterWhole t.negative (wholePart t).1 (wholePart t).2
        (t.exponentChars.map asciiByte ++ rest)).toOption =
      (decodedNumber? t).map fun n => (n, rest) := by
  have hgathered : (gathered t).1 = (wholePart t).1 := by rw [gathered, hfraction, gather]
  have hstart : start t = (wholePart t).2 := by
    rw [start, hfraction, List.length_nil, Nat.zero_sub, Nat.cast_zero, sub_zero]
  rw [Token.exponentChars, decodedNumber?, decodedDouble?, hgathered, hstart]
  cases t.exponent with
  | some x =>
      change (afterWhole t.negative _ _ (x.chars.map asciiByte ++ rest)).toOption = _
      rw [exponentChars_bytes, afterWhole_of_mark (isExponentMark_mark x),
        toOption_exponentPart t.negative _ _ x h.noDigit, if_neg (by simp), Option.map_map]
      rfl
  | none =>
      change (afterWhole t.negative _ _ rest).toOption = _
      rw [afterWhole_of_follows h]
      split
      · next hleft => rw [if_pos ⟨rfl, hfraction, hleft⟩]; rfl
      · next hleft =>
          rw [if_neg (fun hall => hleft hall.2.2), toOption_ofParts, Option.map_map]
          rfl

theorem noDigit_exponentBytes (t : Token) (h : Follows rest) :
    NoDigit (t.exponentChars.map asciiByte ++ rest) := by
  rw [Token.exponentChars]
  cases t.exponent with
  | none => exact h.noDigit
  | some x =>
      rintro b hb
      obtain rfl : asciiByte x.mark = b := Option.some.inj hb
      rw [Exponent.mark]
      split <;> decide

/-- An exponent or the end of a number. -/
def exponentOrEnd (negative : Bool) (n : ℕ) (e : ℤ) (bs : List UInt8) :
    Except Fault (Number × List UInt8) :=
  match bs with
  | b :: r => if isExponentMark b then exponentPart negative n e r else ofParts negative n e bs
  | [] => ofParts negative n e []

theorem toOption_exponentOrEnd (t : Token) (h : Follows rest) :
    (exponentOrEnd t.negative (gathered t).1 (start t)
        (t.exponentChars.map asciiByte ++ rest)).toOption =
      (decodedDouble? t).map fun x => (Number.real x, rest) := by
  rw [Token.exponentChars, decodedDouble?]
  cases t.exponent with
  | some x =>
      change (exponentOrEnd t.negative _ _ (x.chars.map asciiByte ++ rest)).toOption = _
      rw [exponentChars_bytes, exponentOrEnd, if_pos (isExponentMark_mark x)]
      exact toOption_exponentPart t.negative _ _ x h.noDigit
  | none =>
      change (exponentOrEnd t.negative _ _ rest).toOption = _
      have hend : exponentOrEnd t.negative (gathered t).1 (start t) rest =
          ofParts t.negative (gathered t).1 (start t) rest := by
        unfold exponentOrEnd
        split
        · next b r => exact if_neg (by rw [(h.not_mark b rfl).1]; exact Bool.false_ne_true)
        · rfl
      rw [hend]
      exact toOption_ofParts t.negative _ _ rest

/-- The digits after a point, and what comes then. -/
theorem toOption_fractionPart (t : Token) (hfraction : t.fraction ≠ []) (h : Follows rest) :
    (fractionPart t.negative (wholePart t).1 (wholePart t).2
        (digitBytes t.fraction ++ (t.exponentChars.map asciiByte ++ rest))).toOption =
      (decodedNumber? t).map fun n => (n, rest) := by
  have hdigits := fractionDigits_digitBytes (wholePart t).1 0 t.fraction (noDigit_exponentBytes t h)
  rw [Nat.zero_add] at hdigits
  have hnumber : decodedNumber? t = (decodedDouble? t).map .real :=
    if_neg fun hall => hfraction hall.2.1
  obtain ⟨d, ds, hds⟩ := List.exists_cons_of_ne_nil hfraction
  unfold fractionPart
  split
  · next heq =>
      rw [hds] at heq
      exact absurd heq nofun
  next b r heq =>
    have hb : (byteDigit? b).isNone = false := by
      rw [hds] at heq
      rw [← (List.cons.inj heq).1, byteDigit?_digitChar]
      rfl
    rw [hdigits, hb, if_neg Bool.false_ne_true, hnumber, Option.map_map]
    exact toOption_exponentOrEnd t h

/-- A token after its digits before the point. -/
def tailBytes (t : Token) (rest : List UInt8) : List UInt8 :=
  (t.fractionChars ++ t.exponentChars).map asciiByte ++ rest

theorem noDigit_tailBytes (t : Token) (h : Follows rest) : NoDigit (tailBytes t rest) := by
  rw [tailBytes, Token.fractionChars]
  split
  · exact noDigit_exponentBytes t h
  · rintro b hb
    obtain rfl : asciiByte '.' = b := Option.some.inj hb
    rfl

theorem toOption_afterWhole (t : Token) (h : Follows rest) :
    (afterWhole t.negative (wholePart t).1 (wholePart t).2 (tailBytes t rest)).toOption =
      (decodedNumber? t).map fun n => (n, rest) := by
  rw [tailBytes, Token.fractionChars]
  split
  · next hfraction => exact toOption_afterWhole_of_nil t hfraction h
  · next hfraction =>
      rw [List.map_append, List.append_assoc]
      exact toOption_fractionPart t hfraction h

theorem unsignedNumber_eq_afterWhole (t : Token) (h : Follows rest) :
    unsignedNumber t.negative (digitBytes t.whole ++ tailBytes t rest) =
      afterWhole t.negative (wholePart t).1 (wholePart t).2 (tailBytes t rest) := by
  have htail := noDigit_tailBytes t h
  have hdigits := wholeDigits_digitBytes 0 t.whole htail
  obtain ⟨d, ds, hds⟩ := List.exists_cons_of_ne_nil t.nonempty
  have hbytes : digitBytes t.whole ++ tailBytes t rest =
      asciiByte (Text.digitChar d) :: (digitBytes ds ++ tailBytes t rest) := by
    rw [hds]
    rfl
  rw [hbytes] at hdigits ⊢
  unfold unsignedNumber
  dsimp only
  split
  · next hnone =>
      rw [byteDigit?_digitChar] at hnone
      exact absurd hnone nofun
  · next hzero =>
      -- A zero in front is the only digit there.
      rw [byteDigit?_digitChar, Option.some_inj] at hzero
      obtain rfl : d = 0 := Fin.ext hzero
      have hwhole : t.whole = [0] := t.noZeroInFront (by rw [hds]; rfl)
      obtain rfl : ds = [] := (List.cons.inj (hds.symm.trans hwhole)).2
      have hpart : wholePart t = (0, 0) := by
        rw [wholePart, hwhole]
        rfl
      rw [hpart]
      change (match tailBytes t rest with
        | c :: _ =>
          if (byteDigit? c).isSome then _ else afterWhole t.negative 0 0 (tailBytes t rest)
        | [] => afterWhole t.negative 0 0 []) = _
      split
      · next c r heq =>
          rw [heq] at htail
          rw [if_neg (by rw [htail c rfl]; exact Bool.false_ne_true)]
      · next heq => rw [heq]
  · rw [hdigits]
    rfl

theorem toOption_unsignedNumber (t : Token) (h : Follows rest) :
    (unsignedNumber t.negative (t.unsignedChars.map asciiByte ++ rest)).toOption =
      (decodedNumber? t).map fun n => (n, rest) := by
  have hbytes : t.unsignedChars.map asciiByte ++ rest = digitBytes t.whole ++ tailBytes t rest := by
    rw [Token.unsignedChars, List.map_append, List.append_assoc]
    rfl
  rw [hbytes, unsignedNumber_eq_afterWhole t h, toOption_afterWhole t h]

end Dashboard.Json
