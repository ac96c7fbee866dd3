import Dashboard.Panel.Gauge
import Dashboard.Proofs.Json.Accuracy
import Dashboard.Proofs.Json.Written

/-!
# The two spellings of a sample

The answer to an instant query has its sample as a string or as a number. A
string is read as a decimal text and gives the double nearest to what is
written. A number goes through the decoder, which may round several times, so
the two can differ in the last places; where the decoder rounds once they are
the same (`samples_spelled`).
-/

namespace Dashboard.Gauge

open Double (nearest halfUnit)
open Json (Plain Member Reads RoundsOnce asciiByte quoted objectBytes arrayBytes decodedNumber?
  decodedDouble?)
open Dashboard.Number (Token Near)

/-! ## The answer to a query -/

/-- The answer to an instant query up to the time of the sample. -/
def vectorHead : String :=
  "\x7b\"status\":\"success\",\"data\":\x7b\"resultType\":\"vector\",\"result\":" ++
    "[\x7b\"metric\":\x7b\x7d,\"value\":["

/-- The answer from the end of the sample on. -/
def vectorTail : String := "]\x7d]\x7d\x7d"

/-- The answer to an instant query: a vector of one series, with the time and
the sample as they are written. -/
def vectorText (time sample : List Char) : List Char :=
  vectorHead.toList ++ (time ++ ',' :: (sample ++ vectorTail.toList))

/-- The value of an answer. -/
def vectorJson (time sample : Json) : Json :=
  .object [("status", .string "success"), ("data", .object [("resultType", .string "vector"),
    ("result", .array [.object [("metric", .object []), ("value", .array [time, sample])]])])]

theorem firstSample?_vectorJson (time sample : Json) :
    firstSample? (vectorJson time sample) = (sampleNumber? sample).filter Double.isFinite := rfl

/-- The one series of an answer. -/
def seriesMembers (time sample : List UInt8 × Option Json) : List Member :=
  [⟨"metric".toList, objectBytes [], some (.object [])⟩,
    ⟨"value".toList, arrayBytes ([time, sample].map Prod.fst),
      ([time, sample].mapM Prod.snd).map .array⟩]

/-- The series, and what it reads as. -/
def series (time sample : List UInt8 × Option Json) : List UInt8 × Option Json :=
  (objectBytes (seriesMembers time sample),
    ((seriesMembers time sample).mapM Member.read).map .object)

/-- What an answer has as its data. -/
def dataMembers (time sample : List UInt8 × Option Json) : List Member :=
  [⟨"resultType".toList, quoted "vector".toList, some (.string "vector")⟩,
    ⟨"result".toList, arrayBytes ([series time sample].map Prod.fst),
      ([series time sample].mapM Prod.snd).map .array⟩]

/-- An answer, with the bytes of its time and sample and what they read as. -/
def vectorMembers (time sample : List UInt8 × Option Json) : List Member :=
  [⟨"status".toList, quoted "success".toList, some (.string "success")⟩,
    ⟨"data".toList, objectBytes (dataMembers time sample),
      ((dataMembers time sample).mapM Member.read).map .object⟩]

/-- The names that an answer has. -/
def names : List String :=
  ["status", "success", "data", "resultType", "vector", "result", "metric", "value"]

theorem plain_names : ∀ name ∈ names, ∀ c ∈ name.toList, Plain c := by
  simp only [← List.all_iff_forall_prop]
  decide +kernel

variable {depth : ℕ} {bs : List UInt8} {o : Option Json} {time sample : List UInt8 × Option Json}

theorem ok_member {name : String} (hname : name ∈ names) (h : Reads depth bs o) :
    Member.Ok depth ⟨name.toList, bs, o⟩ :=
  ⟨plain_names name hname, h⟩

theorem reads_name {name : String} (hname : name ∈ names) :
    Reads depth (quoted name.toList) (some (.string name)) := by
  have hreads : Reads depth (quoted name.toList) (some (.string (String.ofList name.toList))) :=
    Json.reads_quoted (plain_names name hname)
  rwa [String.ofList_toList] at hreads

theorem ok_seriesMembers (htime : Reads depth time.1 time.2)
    (hsample : Reads depth sample.1 sample.2) :
    ∀ m ∈ seriesMembers time sample, m.Ok (depth + 1) := by
  have hnone : Reads (depth + 1) (objectBytes []) (some (.object [])) :=
    Json.reads_object [] (List.forall_mem_nil _)
  have hvalue := Json.reads_array [time, sample]
    (List.forall_mem_cons.mpr ⟨htime, List.forall_mem_singleton.mpr hsample⟩)
  exact List.forall_mem_cons.mpr ⟨ok_member (by decide) hnone,
    List.forall_mem_singleton.mpr (ok_member (by decide) hvalue)⟩

theorem ok_dataMembers (htime : Reads depth time.1 time.2)
    (hsample : Reads depth sample.1 sample.2) :
    ∀ m ∈ dataMembers time sample, m.Ok (depth + 3) := by
  have hseries : Reads (depth + 2) (series time sample).1 (series time sample).2 :=
    Json.reads_object _ (ok_seriesMembers htime hsample)
  have hresult := Json.reads_array [series time sample] (List.forall_mem_singleton.mpr hseries)
  exact List.forall_mem_cons.mpr ⟨ok_member (by decide) (reads_name (by decide)),
    List.forall_mem_singleton.mpr (ok_member (by decide) hresult)⟩

theorem ok_vectorMembers (htime : Reads depth time.1 time.2)
    (hsample : Reads depth sample.1 sample.2) :
    ∀ m ∈ vectorMembers time sample, m.Ok (depth + 4) :=
  List.forall_mem_cons.mpr ⟨ok_member (by decide) (reads_name (by decide)),
    List.forall_mem_singleton.mpr
      (ok_member (by decide) (Json.reads_object _ (ok_dataMembers htime hsample)))⟩

theorem reads_vector {times samples : List UInt8} {o o' : Option Json} (htime : Reads depth times o)
    (hsample : Reads depth samples o') :
    Reads (depth + 5) (objectBytes (vectorMembers (times, o) (samples, o')))
      (o.bind fun a => o'.map fun b => vectorJson a b) := by
  have hok : ∀ m ∈ vectorMembers (times, o) (samples, o'), m.Ok (depth + 4) :=
    ok_vectorMembers htime hsample
  have hreads : (o.bind fun a => o'.map fun b => vectorJson a b) =
      ((vectorMembers (times, o) (samples, o')).mapM Member.read).map .object := by
    cases o <;> cases o' <;>
      simp [vectorMembers, dataMembers, series, seriesMembers, Member.read, vectorJson]
  rw [hreads]
  exact Json.reads_object _ hok

theorem ascii_frame : ∀ c ∈ vectorHead.toList ++ vectorTail.toList, c.toNat < 128 :=
  List.all_iff_forall_prop.mp (by decide +kernel)

theorem bytes_vectorHead : vectorHead.toList.map asciiByte =
    123 :: (quoted "status".toList ++ 58 :: (quoted "success".toList ++
      44 :: (quoted "data".toList ++ 58 :: 123 :: (quoted "resultType".toList ++
        58 :: (quoted "vector".toList ++ 44 :: (quoted "result".toList ++
          58 :: 91 :: 123 :: (quoted "metric".toList ++ 58 :: 123 :: 125 :: 44 ::
            (quoted "value".toList ++ [58, 91])))))))) := by
  decide +kernel

theorem bytes_vectorTail : vectorTail.toList.map asciiByte = [93, 125, 93, 125, 125] := by
  decide +kernel

theorem encode_vectorText {time sample : List Char} (htime : ∀ c ∈ time, Plain c)
    (hsample : ∀ c ∈ sample, c.toNat < 128) (o o' : Option Json) :
    Text.Utf8.encode (vectorText time sample) =
      objectBytes (vectorMembers (time.map asciiByte, o) (sample.map asciiByte, o')) := by
  have hframe := ascii_frame
  have hascii : ∀ c ∈ vectorText time sample, c.toNat < 128 := by
    intro c hc
    rw [vectorText] at hc
    simp only [List.mem_append, List.mem_cons] at hc
    rcases hc with hc | hc | rfl | hc | hc
    · exact hframe c (List.mem_append_left _ hc)
    · exact (htime c hc).ascii
    · decide
    · exact hsample c hc
    · exact hframe c (List.mem_append_right _ hc)
  have hcomma : asciiByte ',' = 44 := rfl
  rw [Json.encode_asciiBytes hascii, vectorText, vectorMembers, List.map_append, List.map_append,
    List.map_cons, List.map_append, bytes_vectorHead, bytes_vectorTail, hcomma]
  simp only [dataMembers, series, seriesMembers, List.map_cons, List.map_nil, objectBytes,
    Json.memberBytes, Json.moreMemberBytes, arrayBytes, Json.moreItemBytes, List.cons_append,
    List.append_assoc, List.nil_append]

/-! ## Both spellings -/

/-- The payload with a sample that is a number. -/
def numberPayload (time t : Token) : List UInt8 := Text.Utf8.encode (vectorText time.chars t.chars)

/-- The payload with a sample that is a string. -/
def stringPayload (time t : Token) : List UInt8 :=
  Text.Utf8.encode (vectorText time.chars ('\x22' :: (t.chars ++ ['\x22'])))

theorem toOption_numberPayload (time t : Token) :
    (Json.decode (numberPayload time t)).toOption =
      (decodedNumber? time).bind fun n => (decodedNumber? t).map fun m =>
        vectorJson (.number n) (.number m) := by
  have hreads : Reads (122 + 5) _ _ := reads_vector (Json.reads_token time) (Json.reads_token t)
  rw [numberPayload, encode_vectorText (Json.plain_chars time)
    (fun c hc => (Json.plain_chars t c hc).ascii)
    ((decodedNumber? time).map .number) ((decodedNumber? t).map .number),
    Reads.toOption_decode hreads]
  cases decodedNumber? time <;> cases decodedNumber? t <;> rfl

theorem toOption_stringPayload (time t : Token) :
    (Json.decode (stringPayload time t)).toOption =
      (decodedNumber? time).map fun n =>
        vectorJson (.number n) (.string (String.ofList t.chars)) := by
  have hreads : Reads (122 + 5) _ _ :=
    reads_vector (Json.reads_token time) (Json.reads_quoted (Json.plain_chars t))
  have hascii : ∀ c ∈ '\x22' :: (t.chars ++ ['\x22']), c.toNat < 128 := by
    refine List.forall_mem_cons.mpr ⟨by decide, fun c hc => ?_⟩
    rcases List.mem_append.mp hc with hc | hc
    · exact (Json.plain_chars t c hc).ascii
    · rw [List.mem_singleton.mp hc]
      decide
  have hquoted : ('\x22' :: (t.chars ++ ['\x22'])).map asciiByte = quoted t.chars := by
    rw [List.map_cons, List.map_append]
    rfl
  rw [stringPayload, encode_vectorText (Json.plain_chars time) hascii
    ((decodedNumber? time).map .number) (some (.string (String.ofList t.chars))), hquoted,
    Reads.toOption_decode hreads]
  cases decodedNumber? time <;> rfl

/-! ## The samples -/

theorem sampleNumber?_string (t : Token) :
    sampleNumber? (.string (String.ofList t.chars)) = some (nearest t.negative t.magnitude) := by
  rw [sampleNumber?, Dashboard.Number.trim_chars, String.toList_ofList,
    Dashboard.Number.Decimal.read_token]

/-- What the two spellings of a token give. -/
structure Spelled (t : Token) (number string : Option Double) : Prop where
  /-- As a number it is there, with its sign and near to what is written. -/
  number_near : ∃ x, number = some x ∧ x.isNegative = t.negative ∧
    (t.whole.length ≤ 2 ^ 30 →
      Near (1 - 2 ^ (-50 : ℤ)) (1 + 2 ^ (-50 : ℤ)) (2 ^ (-1074 : ℤ)) |x.value| t.magnitude)
  /-- As a string it is there if it is in the range of doubles. -/
  string_isSome : string.isSome = true ↔ t.magnitude < Double.overflow
  /-- As a string it is the nearest double. -/
  string_nearest : ∀ y, string = some y → y = nearest t.negative t.magnitude ∧
    y.isNegative = t.negative ∧
      ∀ z : Double, |(|y.value| - t.magnitude)| ≤ |(|z.value| - t.magnitude)|
  /-- Rounded once they are the same. -/
  once : RoundsOnce t → number = string

theorem spelled_of_decoded {t : Token} {x : Double} (hx : decodedDouble? t = some x) :
    Spelled t ((some x).filter Double.isFinite)
      ((some (nearest t.negative t.magnitude)).filter Double.isFinite) := by
  obtain ⟨hfinite, hsign, hnear⟩ := Json.decoded_of_some hx
  have hmagnitude := Json.magnitude_nonneg t
  have hiff := Double.isFinite_nearest_iff t.negative hmagnitude
  have hunit : 8 * halfUnit = 2 ^ (-50 : ℤ) := by norm_num [halfUnit]
  rw [hunit] at hnear
  refine ⟨⟨x, ?_, hsign, hnear⟩, ?_, fun y hy => ?_, fun honce => ?_⟩
  · rw [Option.filter_some, if_pos hfinite]
  · rw [Option.filter_some, ← hiff]
    split
    · next h => exact iff_of_true rfl h
    · next h => exact iff_of_false Bool.false_ne_true h
  · obtain ⟨hsome, hinrange⟩ := Option.filter_eq_some_iff.mp hy
    have hoverflow := hiff.mp (Option.some_inj.mp hsome ▸ hinrange)
    rw [← Option.some_inj.mp hsome]
    exact ⟨rfl, Double.isNegative_nearest _ hmagnitude,
      Double.abs_sub_nearest_le _ hmagnitude hoverflow⟩
  · rw [Json.decodedDouble?_of_once honce hx]

theorem decode_payloads {time t : Token} {n m : Json.Number} (hn : decodedNumber? time = some n)
    (hm : decodedNumber? t = some m) :
    Json.decode (numberPayload time t) = .ok (vectorJson (.number n) (.number m)) ∧
      Json.decode (stringPayload time t) =
        .ok (vectorJson (.number n) (.string (String.ofList t.chars))) := by
  constructor
  · rw [← Json.toOption_eq_some, toOption_numberPayload, hn, hm]
    rfl
  · rw [← Json.toOption_eq_some, toOption_stringPayload, hn]
    rfl

/-- If a sample decodes as a number, it decodes as a string. The number may be
off in the last places, and the string may be out of range. -/
theorem samples_spelled (time t : Token) {v : Json}
    (h : Json.decode (numberPayload time t) = .ok v) :
    ∃ w, Json.decode (stringPayload time t) = .ok w ∧
      Spelled t (firstSample? v) (firstSample? w) := by
  have hnumber := toOption_numberPayload time t
  rw [Json.toOption_eq_some.mpr h] at hnumber
  obtain ⟨n, hn, hrest⟩ := Option.bind_eq_some_iff.mp hnumber.symm
  obtain ⟨m, hm, rfl⟩ := Option.map_eq_some_iff.mp hrest
  have hdouble : decodedDouble? t = some m.toDouble := by
    rw [← Json.map_toDouble_decodedNumber?, hm, Option.map_some]
  refine ⟨_, (decode_payloads hn hm).2, ?_⟩
  rw [firstSample?_vectorJson, firstSample?_vectorJson, sampleNumber?_string]
  exact spelled_of_decoded hdouble

/-- The token `1`. -/
def one : Token := ⟨false, [1], [], none, by decide, by decide⟩

theorem decodedNumber?_one : decodedNumber? one = some (.natural 1) := by decide +kernel

/-- The token `0.25`. -/
def quarter : Token := ⟨false, [0], [2, 5], none, by decide, by decide⟩

theorem decodedNumber?_quarter : decodedNumber? quarter = some (.real ⟨0x3fd0000000000000⟩) := by
  have happly : Json.applyExponent (Double.ofNat 25) (-(2 : ℕ)) = some ⟨0x3fd0000000000000⟩ := by
    rw [Json.applyExponent_down _ (by decide) (by decide)]
    decide +kernel
  change ((Json.applyExponent (Double.ofNat 25) (-(2 : ℕ))).map fun f => f).map
    Json.Number.real = _
  rw [happly]
  rfl

theorem roundsOnce_quarter : RoundsOnce quarter := by
  have hcoefficient : quarter.coefficient = 25 * 2 ^ 0 := by decide
  have hfinite : (quarter.coefficient : ℚ) < Double.overflow := by
    refine lt_of_lt_of_le ?_ Double.two_pow_le_overflow
    rw [hcoefficient]
    calc ((25 * 2 ^ 0 : ℕ) : ℚ) < 2 ^ (5 : ℤ) := by norm_num
      _ ≤ 2 ^ (1023 : ℤ) := zpow_le_zpow_right₀ (by norm_num) (by norm_num)
  have hexact := Double.abs_value_ofNat_of_eq hcoefficient (by decide) hfinite
  exact .inr ⟨by decide, .inr ⟨hexact, by decide⟩⟩

/-- A quarter is rounded once, and both spellings give it. -/
theorem samples_spelled_of_quarter :
    ∃ v w, Json.decode (numberPayload one quarter) = .ok v ∧
      Json.decode (stringPayload one quarter) = .ok w ∧
      firstSample? v = some ⟨0x3fd0000000000000⟩ ∧ firstSample? w = some ⟨0x3fd0000000000000⟩ := by
  have hdecode := (decode_payloads decodedNumber?_one decodedNumber?_quarter).1
  obtain ⟨w, hstring, hspelled⟩ := samples_spelled one quarter hdecode
  have hsample : firstSample?
      (vectorJson (.number (.natural 1)) (.number (.real ⟨0x3fd0000000000000⟩))) =
        some ⟨0x3fd0000000000000⟩ := by decide +kernel
  exact ⟨_, w, hdecode, hstring, hsample, (hspelled.once roundsOnce_quarter) ▸ hsample⟩

/-- The token `3e23`. -/
def large : Token := ⟨false, [3], [], some ⟨false, .none, [2, 3], by decide⟩, by decide, by decide⟩

/-- The token `179769313486231581e291`. -/
def largest : Token :=
  ⟨false, [1, 7, 9, 7, 6, 9, 3, 1, 3, 4, 8, 6, 2, 3, 1, 5, 8, 1], [],
    some ⟨false, .none, [2, 9, 1], by decide⟩, by decide, by decide⟩

theorem decodedNumber?_large : decodedNumber? large = some (.real ⟨0x44cfc3842bd1f071⟩) := by
  have happly : Json.applyExponent (Double.ofNat 3) (23 : ℕ) = some ⟨0x44cfc3842bd1f071⟩ := by
    rw [Json.applyExponent_up _ (by decide)]
    decide +kernel
  change ((Json.applyExponent (Double.ofNat 3) (23 : ℕ)).map fun f => f).map Json.Number.real = _
  rw [happly]
  rfl

theorem decodedNumber?_largest : decodedNumber? largest = some (.real ⟨0x7fefffffffffffff⟩) := by
  have happly : Json.applyExponent (Double.ofNat 179769313486231581) (291 : ℕ) =
      some ⟨0x7fefffffffffffff⟩ := by
    rw [Json.applyExponent_up _ (by decide)]
    decide +kernel
  change ((Json.applyExponent (Double.ofNat 179769313486231581) (291 : ℕ)).map fun f => f).map
    Json.Number.real = _
  rw [happly]
  rfl

/-- As numbers and as strings samples may differ in the last place, and one may
be there where the other is not. -/
theorem spellings_differ :
    (∃ v w, Json.decode (numberPayload one large) = .ok v ∧
      Json.decode (stringPayload one large) = .ok w ∧
      firstSample? v = some ⟨0x44cfc3842bd1f071⟩ ∧ firstSample? w = some ⟨0x44cfc3842bd1f072⟩) ∧
    ∃ v w, Json.decode (numberPayload one largest) = .ok v ∧
      Json.decode (stringPayload one largest) = .ok w ∧
      firstSample? v = some ⟨0x7fefffffffffffff⟩ ∧ firstSample? w = none := by
  obtain ⟨hlarge, hlarge'⟩ := decode_payloads decodedNumber?_one decodedNumber?_large
  obtain ⟨hlargest, hlargest'⟩ := decode_payloads decodedNumber?_one decodedNumber?_largest
  exact ⟨⟨_, _, hlarge, hlarge', by decide +kernel, by decide +kernel⟩,
    ⟨_, _, hlargest, hlargest', by decide +kernel, by decide +kernel⟩⟩

end Dashboard.Gauge
