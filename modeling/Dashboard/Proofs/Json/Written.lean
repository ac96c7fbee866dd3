import Dashboard.Proofs.Json.Token
import Mathlib.Tactic.FinCases

/-!
# Decoding what is written without white space

Bytes read as a value if the decoder makes that value of them, whatever comes
after (`Reads`); where a number is out of range it makes none. Tokens and plain
strings read as what they are, and arrays and objects as what their items and
members read as.
-/

namespace Dashboard.Json

open Dashboard.Number (Token)

variable {α β : Type} {depth : ℕ} {cs : List Char} {rest : List UInt8}

theorem toOption_bind (o : Except Fault α) (f : α → Except Fault β) :
    (o >>= f).toOption = o.toOption.bind fun a => (f a).toOption := by
  cases o <;> rfl

theorem toOption_eq_some {ε : Type} {r : Except ε α} {a : α} :
    r.toOption = some a ↔ r = .ok a := by
  cases r with
  | error message => exact iff_of_false nofun nofun
  | ok b => exact ⟨fun h => congrArg Except.ok (Option.some_inj.mp h), fun h => congrArg _ h⟩

/-- The bytes read as a value, or as none. -/
structure Reads (depth : ℕ) (bs : List UInt8) (o : Option Json) : Prop where
  starts : ∃ b r, bs = b :: r ∧ isSpace b = false ∧ b ≠ 93
  decoded : ∀ rest, Follows rest →
    (value depth (bs ++ rest)).toOption = o.map fun v => (v, rest)

theorem skipSpace_cons {b : UInt8} (h : isSpace b = false) (r : List UInt8) :
    skipSpace (b :: r) = b :: r :=
  List.dropWhile_cons_of_neg (by rw [h]; exact Bool.false_ne_true)

theorem Reads.skipSpace_append {bs : List UInt8} {o : Option Json} (h : Reads depth bs o)
    (rest : List UInt8) : skipSpace (bs ++ rest) = bs ++ rest := by
  obtain ⟨b, r, rfl, hb, -⟩ := h.starts
  exact skipSpace_cons hb _

/-! ## Numbers -/

theorem toOption_map_number (negative : Bool) {bs rest : List UInt8} {o : Option Number}
    (h : (unsignedNumber negative bs).toOption = o.map fun n => (n, rest)) :
    (do
      let (n, rest) ← unsignedNumber negative bs
      return (Json.number n, rest) : Except Fault (Json × List UInt8)).toOption =
      (o.map Json.number).map fun v => (v, rest) := by
  rw [toOption_bind, h]
  cases o <;> rfl

theorem value_digit (d : Fin 10) (r : List UInt8) :
    value depth (asciiByte (Text.digitChar d) :: r) = (do
      let (n, rest) ← unsignedNumber false (asciiByte (Text.digitChar d) :: r)
      return (Json.number n, rest)) := by
  unfold value
  fin_cases d <;> rfl

theorem value_minus (r : List UInt8) :
    value depth (45 :: r) = (do
      let (n, rest) ← unsignedNumber true r
      return (Json.number n, rest)) := by
  unfold value
  rfl

theorem reads_token (t : Token) :
    Reads depth (t.chars.map asciiByte) ((decodedNumber? t).map .number) := by
  obtain ⟨d, ds, hds⟩ := List.exists_cons_of_ne_nil t.nonempty
  have hunsigned : t.unsignedChars.map asciiByte = asciiByte (Text.digitChar d) ::
      (digitBytes ds ++ (t.fractionChars ++ t.exponentChars).map asciiByte) := by
    rw [Token.unsignedChars, hds, List.map_append]
    rfl
  have hnumber := fun rest (h : Follows rest) =>
    toOption_map_number t.negative (toOption_unsignedNumber t h)
  have hdigit : ∀ d : Fin 10, isSpace (asciiByte (Text.digitChar d)) = false ∧
      asciiByte (Text.digitChar d) ≠ 93 := by decide
  rw [Token.chars]
  cases hsign : t.negative with
  | true =>
      refine ⟨⟨45, t.unsignedChars.map asciiByte, rfl, rfl, by decide⟩, fun rest h => ?_⟩
      change (value depth (45 :: (t.unsignedChars.map asciiByte ++ rest))).toOption = _
      rw [value_minus, ← hnumber rest h, hsign]
  | false =>
      refine ⟨⟨_, _, hunsigned, (hdigit d).1, (hdigit d).2⟩, fun rest h => ?_⟩
      change (value depth (t.unsignedChars.map asciiByte ++ rest)).toOption = _
      rw [← hnumber rest h, hsign, hunsigned]
      exact congrArg Except.toOption (value_digit d _)

/-! ## Strings -/

/-- A character that stands for itself in a string and is one byte. -/
structure Plain (c : Char) : Prop where
  printable : 32 ≤ c.toNat
  ascii : c.toNat < 128
  notQuote : c ≠ '\x22'
  notBackslash : c ≠ '\\'

instance : DecidablePred Plain := fun c =>
  decidable_of_iff (32 ≤ c.toNat ∧ c.toNat < 128 ∧ c ≠ '\x22' ∧ c ≠ '\\')
    ⟨fun ⟨h, h', hquote, hbackslash⟩ => ⟨h, h', hquote, hbackslash⟩,
      fun ⟨h, h', hquote, hbackslash⟩ => ⟨h, h', hquote, hbackslash⟩⟩

theorem plain_chars (t : Token) : ∀ c ∈ t.chars, Plain c := by
  have hmark : ∀ c ∈ Dashboard.Number.markChars, Plain c := List.all_iff_forall_prop.mp (by decide)
  have hdigit : ∀ d : Fin 10, Plain (Text.digitChar d) := by decide
  intro c hc
  rcases Dashboard.Number.mem_chars t c hc with hc | ⟨d, rfl⟩
  · exact hmark c hc
  · exact hdigit d

theorem toNat_asciiByte {c : Char} (h : c.toNat < 128) : (asciiByte c).toNat = c.toNat :=
  UInt8.toNat_ofNat_of_lt' (lt_trans h (by decide))

theorem Plain.byte {c : Char} (h : Plain c) :
    (asciiByte c == 34) = false ∧ (asciiByte c == 92) = false ∧ ¬ (asciiByte c).toNat < 32 := by
  have hbyte := toNat_asciiByte h.ascii
  refine ⟨?_, ?_, by rw [hbyte, Nat.not_lt]; exact h.printable⟩
  · rw [beq_eq_false_iff_ne]
    intro heq
    rw [heq] at hbyte
    exact h.notQuote (Char.toNat_inj.mp hbyte.symm)
  · rw [beq_eq_false_iff_ne]
    intro heq
    rw [heq] at hbyte
    exact h.notBackslash (Char.toNat_inj.mp hbyte.symm)

theorem stringContent_plain (h : ∀ c ∈ cs, Plain c) (acc rest : List UInt8) :
    stringContent .plain acc (cs.map asciiByte ++ 34 :: rest) =
      .ok (acc.reverse ++ cs.map asciiByte, rest) := by
  induction cs generalizing acc with
  | nil =>
      rw [List.map_nil, List.append_nil]
      rfl
  | cons c cs ih =>
      obtain ⟨hquote, hbackslash, hcontrol⟩ := (h c List.mem_cons_self).byte
      rw [List.map_cons, List.cons_append, stringContent]
      rw [hquote, hbackslash, if_neg Bool.false_ne_true, if_neg Bool.false_ne_true, if_neg hcontrol,
        ih fun d hd => h d (List.mem_cons_of_mem c hd), List.reverse_cons, List.append_assoc]
      rfl

theorem encode_asciiBytes (h : ∀ c ∈ cs, c.toNat < 128) :
    Text.Utf8.encode cs = cs.map asciiByte := by
  induction cs with
  | nil => rfl
  | cons c cs ih =>
      rw [List.map_cons, ← ih fun d hd => h d (List.mem_cons_of_mem c hd)]
      change Text.Utf8.encodeChar c ++ Text.Utf8.encode cs = _
      unfold Text.Utf8.encodeChar
      rw [if_pos (h c List.mem_cons_self)]
      rfl

theorem decode_asciiBytes (h : ∀ c ∈ cs, c.toNat < 128) :
    Text.Utf8.decode (cs.map asciiByte) = (cs, []) := by
  induction cs with
  | nil => rw [List.map_nil, Text.Utf8.decode]; rfl
  | cons c cs ih =>
      have hascii := h c List.mem_cons_self
      have hnext : Text.Utf8.next? (asciiByte c :: cs.map asciiByte) =
          some (c, cs.map asciiByte) := by
        unfold Text.Utf8.next?
        dsimp only
        rw [toNat_asciiByte hascii, if_pos hascii, Char.ofNat_toNat]
      rw [List.map_cons, Text.Utf8.decode]
      split
      · next hnone =>
          rw [hnext] at hnone
          cases hnone
      · next d r hsome =>
          rw [hnext] at hsome
          obtain ⟨rfl, rfl⟩ := Prod.mk.inj (Option.some.inj hsome)
          rw [ih fun d hd => h d (List.mem_cons_of_mem c hd)]

theorem quotedString_plain (h : ∀ c ∈ cs, Plain c) (rest : List UInt8) :
    quotedString (cs.map asciiByte ++ 34 :: rest) = .ok (String.ofList cs, rest) := by
  have hdecode : Text.Utf8.decode? (cs.map asciiByte) = some cs := by
    rw [Text.Utf8.decode?, decode_asciiBytes fun c hc => (h c hc).ascii]
  rw [quotedString, stringContent_plain h]
  dsimp only [bind, Except.bind]
  rw [List.reverse_nil, List.nil_append, hdecode]

/-- A string between its quotes. -/
def quoted (cs : List Char) : List UInt8 := 34 :: (cs.map asciiByte ++ [34])

theorem value_quote (r : List UInt8) :
    value depth (34 :: r) = (quotedString r).bind fun p => .ok (.string p.1, p.2) := by
  unfold value
  rfl

theorem reads_quoted (h : ∀ c ∈ cs, Plain c) :
    Reads depth (quoted cs) (some (.string (String.ofList cs))) := by
  refine ⟨⟨34, _, rfl, rfl, by decide⟩, fun rest _ => ?_⟩
  change (value depth (34 :: ((cs.map asciiByte ++ [34]) ++ rest))).toOption = _
  rw [value_quote, List.append_assoc]
  change ((quotedString (cs.map asciiByte ++ 34 :: rest)).bind _).toOption = _
  rw [quotedString_plain h]
  rfl

/-! ## Arrays -/

/-- The items of an array after its first one, to its end. -/
def moreItemBytes : List (List UInt8) → List UInt8
  | [] => [93]
  | bs :: r => 44 :: (bs ++ moreItemBytes r)

/-- An array. -/
def arrayBytes : List (List UInt8) → List UInt8
  | [] => [91, 93]
  | bs :: r => 91 :: (bs ++ moreItemBytes r)

theorem follows_moreItemBytes (ps : List (List UInt8)) (rest : List UInt8) :
    Follows (moreItemBytes ps ++ rest) := by
  cases ps with
  | nil =>
      rintro b hb
      obtain rfl : (93 : UInt8) = b := Option.some.inj hb
      decide
  | cons bs ps =>
      rintro b hb
      obtain rfl : (44 : UInt8) = b := Option.some.inj hb
      decide

theorem length_lt_moreItemBytes (ps : List (List UInt8)) :
    ps.length < (moreItemBytes ps).length := by
  induction ps with
  | nil => exact Nat.one_pos
  | cons bs ps ih =>
      rw [moreItemBytes, List.length_cons, List.length_cons, List.length_append]
      omega

theorem moreItems_comma {bs : List UInt8} {o : Option Json} (h : Reads depth bs o)
    (step : Step Json) (fuel : ℕ) (acc : List Json) (rest : List UInt8) :
    moreItems step (fuel + 1) acc (44 :: (bs ++ rest)) = (do
      let (v, rest) ← step (bs ++ rest)
      moreItems step fuel (v :: acc) rest) := by
  obtain ⟨b, r, rfl, hspace, hbracket⟩ := h.starts
  have hb : (b == 93) = false := beq_eq_false_iff_ne.mpr hbracket
  have hskip : skipSpace (b :: r ++ rest) = b :: (r ++ rest) := skipSpace_cons hspace _
  rw [moreItems, skipSpace_cons rfl]
  dsimp only
  rw [if_neg (by decide), if_pos (by decide), hskip]
  dsimp only
  rw [hb, if_neg Bool.false_ne_true]
  rfl

theorem items_first {bs : List UInt8} {o : Option Json} (h : Reads depth bs o) (step : Step Json)
    (rest : List UInt8) :
    items step (bs ++ rest) = (do
      let (v, rest) ← step (bs ++ rest)
      moreItems step (rest.length + 1) [v] rest) := by
  have hskip := h.skipSpace_append rest
  obtain ⟨b, r, rfl, -, hbracket⟩ := h.starts
  have hb : (b == 93) = false := beq_eq_false_iff_ne.mpr hbracket
  rw [List.cons_append] at hskip ⊢
  rw [items, hskip]
  dsimp only
  rw [hb, if_neg Bool.false_ne_true]

section Arrays

variable {ps : List (List UInt8 × Option Json)}

theorem toOption_moreItems (h : ∀ p ∈ ps, Reads depth p.1 p.2) (acc : List Json) {fuel : ℕ}
    (hfuel : ps.length < fuel) (rest : List UInt8) :
    (moreItems (value depth) fuel acc (moreItemBytes (ps.map Prod.fst) ++ rest)).toOption =
      (ps.mapM Prod.snd).map fun vs => (acc.reverse ++ vs, rest) := by
  induction ps generalizing acc fuel with
  | nil =>
      obtain ⟨fuel, rfl⟩ := Nat.exists_eq_succ_of_ne_zero (Nat.pos_iff_ne_zero.mp hfuel)
      simp only [List.mapM_nil, Option.pure_def, Option.map_some, List.append_nil]
      rfl
  | cons p ps ih =>
      obtain ⟨fuel, rfl⟩ := Nat.exists_eq_succ_of_ne_zero (Nat.ne_zero_of_lt hfuel)
      have hp := h p List.mem_cons_self
      rw [List.map_cons, moreItemBytes, List.cons_append, List.append_assoc, Nat.succ_eq_add_one,
        moreItems_comma hp, toOption_bind, hp.decoded _ (follows_moreItemBytes _ _), List.mapM_cons]
      cases hv : p.2 with
      | none => rfl
      | some v =>
          change (moreItems (value depth) fuel (v :: acc)
            (moreItemBytes (ps.map Prod.fst) ++ rest)).toOption = _
          rw [ih (fun q hq => h q (List.mem_cons_of_mem p hq)) (v :: acc)
            (Nat.lt_of_succ_lt_succ hfuel)]
          cases ps.mapM Prod.snd with
          | none => rfl
          | some vs =>
              rw [List.reverse_cons]
              simp

theorem value_bracket (r : List UInt8) :
    value (depth + 1) (91 :: r) = (do
      let (vs, rest) ← items (value depth) r
      return (Json.array vs, rest)) := by
  unfold value
  rfl

theorem toOption_items (h : ∀ p ∈ ps, Reads depth p.1 p.2) (rest : List UInt8) :
    (items (value depth) ((arrayBytes (ps.map Prod.fst)).tail ++ rest)).toOption =
      (ps.mapM Prod.snd).map fun vs => (vs, rest) := by
  cases ps with
  | nil =>
      simp only [List.mapM_nil, Option.pure_def, Option.map_some]
      rfl
  | cons p ps =>
      have hp := h p List.mem_cons_self
      change (items (value depth) ((p.1 ++ moreItemBytes (ps.map Prod.fst)) ++ rest)).toOption = _
      rw [List.append_assoc, items_first hp, toOption_bind,
        hp.decoded _ (follows_moreItemBytes _ _), List.mapM_cons]
      cases hv : p.2 with
      | none => rfl
      | some v =>
          have hlength := length_lt_moreItemBytes (ps.map Prod.fst)
          rw [List.length_map] at hlength
          change (moreItems (value depth) ((moreItemBytes (ps.map Prod.fst) ++ rest).length + 1) [v]
            (moreItemBytes (ps.map Prod.fst) ++ rest)).toOption = _
          rw [toOption_moreItems (fun q hq => h q (List.mem_cons_of_mem p hq)) [v]
            (by rw [List.length_append]; omega)]
          cases ps.mapM Prod.snd <;> rfl

theorem reads_array (ps : List (List UInt8 × Option Json)) (h : ∀ p ∈ ps, Reads depth p.1 p.2) :
    Reads (depth + 1) (arrayBytes (ps.map Prod.fst)) ((ps.mapM Prod.snd).map .array) := by
  have hcons : arrayBytes (ps.map Prod.fst) = 91 :: (arrayBytes (ps.map Prod.fst)).tail := by
    cases ps <;> rfl
  refine ⟨⟨91, _, hcons, rfl, by decide⟩, fun rest _ => ?_⟩
  rw [hcons, List.cons_append, value_bracket, toOption_bind, toOption_items h]
  cases ps.mapM Prod.snd <;> rfl

end Arrays

/-! ## Objects -/

/-- A member of an object as it is written: its key, the bytes of its value, and
what they read as. -/
structure Member where
  key : List Char
  bytes : List UInt8
  reads : Option Json

/-- A member that reads as it says. -/
structure Member.Ok (depth : ℕ) (m : Member) : Prop where
  key : ∀ c ∈ m.key, Plain c
  value : Reads depth m.bytes m.reads

/-- A member of an object. -/
def memberBytes (m : Member) : List UInt8 := quoted m.key ++ 58 :: m.bytes

/-- The members of an object after its first one, to its end. -/
def moreMemberBytes : List Member → List UInt8
  | [] => [125]
  | m :: r => 44 :: (memberBytes m ++ moreMemberBytes r)

/-- An object. -/
def objectBytes : List Member → List UInt8
  | [] => [123, 125]
  | m :: r => 123 :: (memberBytes m ++ moreMemberBytes r)

/-- The member that is read, if its value is one. -/
def Member.read (m : Member) : Option (String × Json) :=
  m.reads.map fun v => (String.ofList m.key, v)

theorem follows_moreMemberBytes (ms : List Member) (rest : List UInt8) :
    Follows (moreMemberBytes ms ++ rest) := by
  cases ms with
  | nil =>
      rintro b hb
      obtain rfl : (125 : UInt8) = b := Option.some.inj hb
      decide
  | cons m ms =>
      rintro b hb
      obtain rfl : (44 : UInt8) = b := Option.some.inj hb
      decide

theorem length_lt_moreMemberBytes (ms : List Member) : ms.length < (moreMemberBytes ms).length := by
  induction ms with
  | nil => exact Nat.one_pos
  | cons m ms ih =>
      rw [moreMemberBytes, List.length_cons, List.length_cons, List.length_append]
      omega

theorem toOption_member {m : Member} (h : m.Ok depth) (hrest : Follows rest) :
    (member (value depth) (memberBytes m ++ rest)).toOption = m.read.map fun p => (p, rest) := by
  have hdrop : (memberBytes m ++ rest).drop 1 =
      m.key.map asciiByte ++ 34 :: (58 :: (m.bytes ++ rest)) := by
    rw [memberBytes, quoted]
    simp
  unfold member
  rw [hdrop, quotedString_plain h.key]
  change (do
    let (v, rest) ← value depth (m.bytes ++ rest)
    Except.ok ((String.ofList m.key, v), rest) : Except Fault _).toOption = _
  rw [toOption_bind, h.value.decoded rest hrest, Member.read]
  cases m.reads <;> rfl

theorem moreMembers_comma (step : Step Json) (fuel : ℕ) (acc : Members) (m : Member)
    (rest : List UInt8) :
    moreMembers step (fuel + 1) acc (44 :: (memberBytes m ++ rest)) = (do
      let (m, rest) ← member step (memberBytes m ++ rest)
      moreMembers step fuel (m :: acc) rest) := by
  rw [moreMembers, skipSpace_cons rfl]
  rfl

theorem toOption_moreMembers {ms : List Member} (h : ∀ m ∈ ms, m.Ok depth) (acc : Members)
    {fuel : ℕ} (hfuel : ms.length < fuel) (rest : List UInt8) :
    (moreMembers (value depth) fuel acc (moreMemberBytes ms ++ rest)).toOption =
      (ms.mapM Member.read).map fun vs => (acc.reverse ++ vs, rest) := by
  induction ms generalizing acc fuel with
  | nil =>
      obtain ⟨fuel, rfl⟩ := Nat.exists_eq_succ_of_ne_zero (Nat.pos_iff_ne_zero.mp hfuel)
      simp only [List.mapM_nil, Option.pure_def, Option.map_some, List.append_nil]
      rfl
  | cons m ms ih =>
      obtain ⟨fuel, rfl⟩ := Nat.exists_eq_succ_of_ne_zero (Nat.ne_zero_of_lt hfuel)
      have hm := h m List.mem_cons_self
      rw [moreMemberBytes, List.cons_append, List.append_assoc, Nat.succ_eq_add_one,
        moreMembers_comma, toOption_bind, toOption_member hm (follows_moreMemberBytes _ _),
        List.mapM_cons]
      cases hv : m.read with
      | none => rfl
      | some v =>
          change (moreMembers (value depth) fuel (v :: acc)
            (moreMemberBytes ms ++ rest)).toOption = _
          rw [ih (fun n hn => h n (List.mem_cons_of_mem m hn)) (v :: acc)
            (Nat.lt_of_succ_lt_succ hfuel)]
          cases ms.mapM Member.read with
          | none => rfl
          | some vs =>
              rw [List.reverse_cons]
              simp

theorem members_first (step : Step Json) (m : Member) (rest : List UInt8) :
    members step (memberBytes m ++ rest) = (do
      let (m, rest) ← member step (memberBytes m ++ rest)
      moreMembers step (rest.length + 1) [m] rest) := by
  unfold members
  rfl

theorem value_brace (r : List UInt8) :
    value (depth + 1) (123 :: r) = (do
      let (ms, rest) ← members (value depth) r
      return (Json.object ms, rest)) := by
  unfold value
  rfl

theorem toOption_members {ms : List Member} (h : ∀ m ∈ ms, m.Ok depth) (rest : List UInt8) :
    (members (value depth) ((objectBytes ms).tail ++ rest)).toOption =
      (ms.mapM Member.read).map fun vs => (vs, rest) := by
  cases ms with
  | nil =>
      simp only [List.mapM_nil, Option.pure_def, Option.map_some]
      rfl
  | cons m ms =>
      have hm := h m List.mem_cons_self
      change (members (value depth) ((memberBytes m ++ moreMemberBytes ms) ++ rest)).toOption = _
      rw [List.append_assoc, members_first, toOption_bind,
        toOption_member hm (follows_moreMemberBytes _ _), List.mapM_cons]
      cases hv : m.read with
      | none => rfl
      | some v =>
          have hlength := length_lt_moreMemberBytes ms
          change (moreMembers (value depth) ((moreMemberBytes ms ++ rest).length + 1) [v]
            (moreMemberBytes ms ++ rest)).toOption = _
          rw [toOption_moreMembers (fun n hn => h n (List.mem_cons_of_mem m hn)) [v]
            (by rw [List.length_append]; omega)]
          cases ms.mapM Member.read <;> rfl

theorem reads_object (ms : List Member) (h : ∀ m ∈ ms, m.Ok depth) :
    Reads (depth + 1) (objectBytes ms) ((ms.mapM Member.read).map .object) := by
  have hcons : objectBytes ms = 123 :: (objectBytes ms).tail := by cases ms <;> rfl
  refine ⟨⟨123, _, hcons, rfl, by decide⟩, fun rest _ => ?_⟩
  rw [hcons, List.cons_append, value_brace, toOption_bind, toOption_members h]
  cases ms.mapM Member.read <;> rfl

/-! ## Payloads -/

/-- A payload decodes to what its bytes read as. -/
theorem Reads.toOption_decode {bs : List UInt8} {o : Option Json} (h : Reads depthLimit bs o) :
    (decode bs).toOption = o := by
  have hvalue := h.decoded [] nofun
  rw [List.append_nil] at hvalue
  have hdocument : (document bs).toOption = o := by
    unfold document
    rw [toOption_bind, hvalue]
    cases o <;> rfl
  rw [← hdocument, decode]
  cases document bs <;> rfl

end Dashboard.Json
