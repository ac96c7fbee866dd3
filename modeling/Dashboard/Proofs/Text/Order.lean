import Dashboard.Text.Utf8

/-!
# The order of texts

Texts are ordered by their characters. UTF-8 keeps that order: of two
characters the greater one has the greater encoding, whatever comes after
either. So texts in ascending order are so byte by byte too.
-/

namespace Dashboard.Text

namespace Utf8

/-- Bytes are compared by the first place where they differ. -/
theorem ofNat_cons_lt_iff {a b : Nat} (ha : a < 256) (hb : b < 256) (r t : List UInt8) :
    UInt8.ofNat a :: r < UInt8.ofNat b :: t ↔ a < b ∨ a = b ∧ r < t := by
  have hlt : UInt8.ofNat a < UInt8.ofNat b ↔ a < b := by
    rw [UInt8.lt_iff_toNat_lt, UInt8.toNat_ofNat_of_lt' ha, UInt8.toNat_ofNat_of_lt' hb]
  have heq : UInt8.ofNat a = UInt8.ofNat b ↔ a = b := by
    rw [← UInt8.toNat_inj, UInt8.toNat_ofNat_of_lt' ha, UInt8.toNat_ofNat_of_lt' hb]
  rw [List.cons_lt_cons_iff, hlt, heq]

theorem encodeChar_append_lt {c d : Char} (h : c < d) (r t : List UInt8) :
    encodeChar c ++ r < encodeChar d ++ t := by
  have hlt : c.toNat < d.toNat := h
  have hd : d.toNat < 0x110000 := by
    have hvalid := d.valid
    rw [UInt32.isValidChar, Nat.isValidChar] at hvalid
    rw [Char.toNat]
    omega
  unfold encodeChar
  generalize c.toNat = n at *
  generalize d.toNat = m at *
  dsimp only
  repeat' split
  all_goals
    simp (disch := omega) only [List.cons_append, List.nil_append, ofNat_cons_lt_iff]
    omega

theorem encode_cons_ne_nil (c : Char) (s : List Char) : encode (c :: s) ≠ [] := by
  rw [encode, List.flatMap_cons, encodeChar]
  repeat' split
  all_goals exact List.cons_ne_nil _ _

/-- Greater texts have greater encodings. -/
theorem encode_lt_encode {s t : List Char} (h : s < t) : encode s < encode t := by
  induction h with
  | nil =>
      obtain ⟨b, r, hcons⟩ := List.exists_cons_of_ne_nil (encode_cons_ne_nil _ _)
      rw [hcons]
      exact List.nil_lt_cons b r
  | rel h => exact encodeChar_append_lt h _ _
  | cons _ ih => exact List.append_left_lt ih

end Utf8

/-- The bytes of a text. -/
def bytes (s : String) : List UInt8 := Utf8.encode s.toList

theorem bytes_lt_bytes {s t : String} (h : s < t) : bytes s < bytes t := Utf8.encode_lt_encode h

end Dashboard.Text
