import Dashboard.Panel.Gauge
import Dashboard.Proofs.Text.Numeral
import Dashboard.Proofs.Text.Order
import Dashboard.Proofs.Text.Pieces
import Mathlib.Data.Bool.AllAny

/-!
# Queries in a path

A query goes into a path percent-encoded. The written form of a byte is either
the character that it is or a percent sign with its two hexadecimal digits, and
reading takes exactly one such form for one byte. So the bytes of a text come
back from its written form (`decode_encode`), whatever the text is.

None of the characters with a meaning in a query can stand in a written form
(`Escaped`). A path therefore has the one parameter that it was made with, and
two paths are the same only for the same query.
-/

namespace Dashboard.Text

/-! ## The bytes of a text -/

theorem Utf8.encodeChar_eq (c : Char) : encodeChar c = String.utf8EncodeChar c := by
  have hvalid := c.valid
  rw [UInt32.isValidChar, Nat.isValidChar] at hvalid
  simp only [encodeChar, String.utf8EncodeChar, Char.toNat]
  generalize c.val.toNat = n at *
  have hswap : ∀ m, 0x80 + m % 64 = m % 64 + 128 := fun m => Nat.add_comm _ _
  by_cases h1 : n < 0x80
  · rw [if_pos h1, if_pos (by omega)]
  by_cases h2 : n < 0x800
  · have hlead : 0xC0 + n / 64 = n / 64 % 32 + 192 := by omega
    rw [if_neg h1, if_pos h2, if_neg (by omega), if_pos (by omega), hlead, hswap]
  by_cases h3 : n < 0x10000
  · have hlead : 0xE0 + n / 4096 = n / 4096 % 16 + 224 := by omega
    rw [if_neg h1, if_neg h2, if_pos h3, if_neg (by omega), if_neg (by omega),
      if_pos (by omega), hlead, hswap, hswap]
  · have hlead : 0xF0 + n / 262144 = n / 262144 % 8 + 240 := by omega
    rw [if_neg h1, if_neg h2, if_neg h3, if_neg (by omega), if_neg (by omega),
      if_neg (by omega), hlead, hswap, hswap, hswap]

theorem bytes_eq (s : String) : bytes s = s.toUTF8.data.toList := by
  have hchars : Utf8.encodeChar = String.utf8EncodeChar := funext Utf8.encodeChar_eq
  rw [bytes, Utf8.encode, hchars, String.toUTF8, ← String.utf8Encode_toList, List.utf8Encode,
    List.data_toByteArray]

namespace Percent

variable {b : UInt8} {c : Char} {s r : List Char}

/-! ## Written forms -/

/-- The characters that stand for themselves. -/
def IsUnreserved (c : Char) : Prop := c.isAlphanum = true ∨ c ∈ ['-', '_', '.', '~']

instance (c : Char) : Decidable (IsUnreserved c) := inferInstanceAs (Decidable (_ ∨ _))

/-- The digits of base sixteen, in either case. -/
def IsHexDigit (c : Char) : Prop := c ∈ "0123456789ABCDEFabcdef".toList

instance (c : Char) : Decidable (IsHexDigit c) := inferInstanceAs (Decidable (_ ∈ _))

/-- Characters that stand for themselves, and percent signs with two
hexadecimal digits each. -/
inductive Escaped : List Char → Prop
  | nil : Escaped []
  | plain {c : Char} {r : List Char} (hc : IsUnreserved c) (hr : Escaped r) : Escaped (c :: r)
  | percent {a b : Char} {r : List Char} (ha : IsHexDigit a) (hb : IsHexDigit b)
      (hr : Escaped r) : Escaped ('%' :: a :: b :: r)

theorem unreserved_of_isPlain :
    ∀ n < 256, isPlain (UInt8.ofNat n) = true →
      IsUnreserved (Char.ofNat n) ∧ (Char.ofNat n).toNat = n ∧ n < 128 ∧ n ≠ 37 := by
  decide +kernel

theorem isHexDigit_hexDigit : ∀ d < 16, IsHexDigit (hexDigit d) := by decide

/-- The two written forms of a byte. -/
theorem encodeByte_cases (b : UInt8) :
    (∃ c, encodeByte b = [c] ∧ IsUnreserved c ∧ c ≠ '%' ∧ c.toNat < 128 ∧
      UInt8.ofNat c.toNat = b) ∨
    ∃ high < 16, ∃ low < 16, encodeByte b = ['%', hexDigit high, hexDigit low] ∧
      UInt8.ofNat (high * 16 + low) = b := by
  have hlt : b.toNat < 256 := b.toNat_lt
  rw [encodeByte]
  split
  · next hplain =>
      rw [← UInt8.ofNat_toNat (x := b)] at hplain
      obtain ⟨hc, hn, hascii, hne⟩ := unreserved_of_isPlain b.toNat hlt hplain
      refine Or.inl ⟨_, rfl, hc, fun h => ?_, by omega, by rw [hn, UInt8.ofNat_toNat]⟩
      rw [h] at hn
      exact hne hn.symm
  · refine Or.inr ⟨b.toNat / 16, by omega, b.toNat % 16, by omega, rfl, ?_⟩
    rw [Nat.div_add_mod', UInt8.ofNat_toNat]

theorem escaped_encodeByte (b : UInt8) (hr : Escaped r) : Escaped (encodeByte b ++ r) := by
  rcases encodeByte_cases b with ⟨c, hform, hc, -⟩ | ⟨high, hhigh, low, hlow, hform, -⟩
  · rw [hform]
    exact .plain hc hr
  · rw [hform]
    exact .percent (isHexDigit_hexDigit high hhigh) (isHexDigit_hexDigit low hlow) hr

theorem escaped_encode (s : List Char) : Escaped (encode s) := by
  rw [encode]
  induction Utf8.encode s with
  | nil => exact .nil
  | cons b bs ih => exact escaped_encodeByte b ih

/-- One byte is read from its written form, whatever comes after it. -/
theorem decode_encodeByte (b : UInt8) (r : List Char) :
    decode (encodeByte b ++ r) = (decode r).map (b :: ·) := by
  rcases encodeByte_cases b with
    ⟨c, hform, -, hne, hascii, hb⟩ | ⟨high, hhigh, low, hlow, hform, hb⟩
  · have hself : ¬ (c = '%' ∨ 128 ≤ c.toNat) := by
      rintro (h | h)
      · exact hne h
      · omega
    rw [hform, List.singleton_append, decode.eq_3 _ _ (fun _ _ _ h _ => hne h), if_neg hself, hb]
  · rw [hform, List.cons_append, List.cons_append, List.cons_append, List.nil_append, decode,
      hexValue?_hexDigit high hhigh, hexValue?_hexDigit low hlow, ← hb]
    cases decode r <;> rfl

theorem decode_encode (s : List Char) : decode (encode s) = some (Utf8.encode s) := by
  rw [encode]
  induction Utf8.encode s with
  | nil => rfl
  | cons b bs ih => rw [List.flatMap_cons, decode_encodeByte, ih, Option.map_some]

/-- No other character can stand in a written form. -/
theorem Escaped.not_mem (h : Escaped s) (hc : ¬ IsUnreserved c) (hhex : ¬ IsHexDigit c)
    (hpercent : c ≠ '%') : c ∉ s := by
  induction h with
  | nil => exact List.not_mem_nil
  | plain hd _ ih =>
      rw [List.mem_cons, not_or]
      exact ⟨fun heq => hc (heq ▸ hd), ih⟩
  | percent ha hb _ ih =>
      simp only [List.mem_cons, not_or]
      exact ⟨hpercent, fun heq => hhex (heq ▸ ha), fun heq => hhex (heq ▸ hb), ih⟩

end Percent

end Dashboard.Text

namespace Dashboard.Gauge

open Text (cutAt pieces)
open Text.Percent (Escaped)

/-! ## The path of a query -/

/-- The parameters that a path ends with: names and written values, after the
question mark and before a fragment. -/
def parameters (path : String) : List (List Char × List Char) :=
  match cutAt (· == '?') (cutAt (· == '#') path.toList).1 with
  | (_, some query) => (pieces (· == '&') query).map fun parameter =>
      let (name, value) := cutAt (· == '=') parameter
      (name, value.getD [])
  | (_, none) => []

theorem toList_queryPath (expr : String) :
    (queryPath expr).toList =
      "/api/prometheus?expr=".toList ++ Text.Percent.encode expr.toList :=
  (String.toList_append ..).trans (congrArg _ String.toList_ofList)

/-- No character that would begin something else is written for a query. -/
theorem not_mem_encode {c : Char} (hc : c ∈ ['#', '&', ' ']) (s : List Char) :
    c ∉ Text.Percent.encode s := by
  have hfacts : ∀ d ∈ ['#', '&', ' '],
      ¬ Text.Percent.IsUnreserved d ∧ ¬ Text.Percent.IsHexDigit d ∧ d ≠ '%' :=
    List.all_iff_forall_prop.mp (by decide +kernel)
  obtain ⟨hplain, hhex, hpercent⟩ := hfacts c hc
  exact (Text.Percent.escaped_encode s).not_mem hplain hhex hpercent

theorem not_mem_queryPath {c : Char} (hc : c ∈ ['#', '&', ' ']) (expr : String) :
    c ∉ (queryPath expr).toList := by
  have hfixed : ∀ d ∈ ['#', '&', ' '], d ∉ "/api/prometheus?expr=".toList :=
    List.all_iff_forall_prop.mp (by decide +kernel)
  rw [toList_queryPath, List.mem_append, not_or]
  exact ⟨hfixed c hc, not_mem_encode hc expr.toList⟩

theorem parameters_queryPath (expr : String) :
    parameters (queryPath expr) = [("expr".toList, Text.Percent.encode expr.toList)] := by
  have hne {c d : Char} {s : List Char} (h : c ∉ s) (hd : d ∈ s) : (d == c) = false :=
    beq_eq_false_iff_ne.mpr fun heq => h (heq ▸ hd)
  have hsplit : (queryPath expr).toList = "/api/prometheus".toList ++
      '?' :: ("expr".toList ++ '=' :: Text.Percent.encode expr.toList) := toList_queryPath expr
  have hand : '&' ∉ "expr".toList ++ '=' :: Text.Percent.encode expr.toList := by
    have h := not_mem_queryPath (c := '&') (by decide) expr
    rw [hsplit, List.mem_append, not_or, List.mem_cons, not_or] at h
    exact h.2.2
  rw [parameters,
    Text.cutAt_of_forall fun _ h => hne (not_mem_queryPath (c := '#') (by decide) expr) h,
    hsplit, Text.cutAt_append_cons (List.all_iff_forall_prop.mp (by decide)) rfl]
  dsimp only
  rw [Text.pieces_of_forall fun _ h => hne hand h, List.map_singleton,
    Text.cutAt_append_cons (List.all_iff_forall_prop.mp (by decide)) rfl]
  rfl

/-- The path of a query is a fixed beginning and a text from which the bytes of
the query can be read back. It has the query for its only parameter, without a
fragment or a space, and no other query has the same path. -/
theorem query_kept (expr : String) :
    ∃ text, queryPath expr = "/api/prometheus?expr=" ++ String.ofList text ∧ Escaped text ∧
      Text.Percent.decode text = some expr.toUTF8.data.toList ∧
      parameters (queryPath expr) = [("expr".toList, text)] ∧
      '#' ∉ (queryPath expr).toList ∧ ' ' ∉ (queryPath expr).toList ∧
      ∀ other, queryPath other = queryPath expr → other = expr := by
  have hread (expr : String) :
      Text.Percent.decode (Text.Percent.encode expr.toList) = some expr.toUTF8.data.toList := by
    rw [Text.Percent.decode_encode, ← Text.bytes_eq, Text.bytes]
  refine ⟨_, rfl, Text.Percent.escaped_encode _, hread expr, parameters_queryPath expr,
    not_mem_queryPath (by decide) expr, not_mem_queryPath (by decide) expr, fun other h => ?_⟩
  have hparameters := congrArg parameters h
  rw [parameters_queryPath, parameters_queryPath, List.cons.injEq, Prod.mk.injEq] at hparameters
  have hbytes := hread other
  rw [hparameters.1.2, hread expr, Option.some_inj, Array.toList_inj] at hbytes
  exact (String.toByteArray_inj.mp (ByteArray.ext hbytes)).symm

example : queryPath "a b&c=%é" = "/api/prometheus?expr=a%20b%26c%3D%25%C3%A9" := by decide

end Dashboard.Gauge
