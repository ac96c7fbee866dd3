import Dashboard.Text.Natural
import Dashboard.Text.Pieces

/-!
# Names outside ASCII

A part of a host name that holds characters above ASCII is written with
letters and digits only: first its ASCII characters, then, for each other
character in the order of code points, how far it is from the one before it
as a number with digits of varying weight. The weights adapt to the numbers
written so far. Reading goes the same way and refuses numbers of more than
32 bits.
-/

namespace Dashboard.Url.Punycode

/-- The digit of a value below 36: a letter, or from 26 on a decimal digit. -/
def digit (d : Nat) : Char :=
  if d < 26 then Char.ofNat ('a'.toNat + d) else Text.digitChar (d - 26)

/-- The least value of a digit that is not the last of its number. -/
def threshold (place bias : Nat) : Nat := min 26 (max 1 (place - bias))

/-- The digits of a number. -/
def number (bias place n : Nat) : List Char :=
  let t := threshold place bias
  if n < t then [digit n]
  else digit (t + (n - t) % (36 - t)) :: number bias (place + 36) ((n - t) / (36 - t))
termination_by n
decreasing_by
  have := Nat.div_le_self (n - threshold place bias) (36 - threshold place bias)
  have : 1 ≤ threshold place bias := by unfold threshold; omega
  omega

/-- How often a number is divided until it is small, and what is left. -/
def shrink (n : Nat) : Nat × Nat :=
  if n ≤ 455 then (0, n) else let (k, rest) := shrink (n / 35); (k + 1, rest)
termination_by n

/-- The bias after a number, which is the first one or not, when `count`
characters have been written. -/
def adapt (n count : Nat) (isFirst : Bool) : Nat :=
  let n := if isFirst then n / 700 else n / 2
  let (k, rest) := shrink (n + n / count)
  36 * k + 36 * rest / (rest + 38)

/-! ## Writing -/

/-- Where the writing of a name stands. -/
structure Writer where
  /-- What is written, from the last character back. -/
  reversed : List Char
  /-- How far it is from the last character written. -/
  distance : Nat
  bias : Nat
  /-- How many characters of the name are written. -/
  written : Nat

/-- Goes past one character of the name while those with code `code` are
written; `plain` of its characters are ASCII. -/
def Writer.pass (plain code : Nat) (w : Writer) (c : Char) : Writer :=
  if c.toNat < code then { w with distance := w.distance + 1 }
  else if c.toNat = code then
    { reversed := (number w.bias 36 w.distance).reverse ++ w.reversed
      distance := 0
      bias := adapt w.distance (w.written + 1) (w.written == plain)
      written := w.written + 1 }
  else w

/-- Writes the characters of the given codes, which ascend from `least`. -/
def Writer.writeCodes (name : List Char) (plain : Nat) : Writer → Nat → List Nat → Writer
  | w, _, [] => w
  | w, least, code :: rest =>
    let w := { w with distance := w.distance + (code - least) * (w.written + 1) }
    let w := name.foldl (Writer.pass plain code) w
    writeCodes name plain { w with distance := w.distance + 1 } (code + 1) rest

/-- The written form of a name. -/
def encode (name : List Char) : List Char :=
  let plain := name.filter fun c => c.toNat < 128
  let codes := ((name.map Char.toNat).filter (128 ≤ ·)).mergeSort.eraseDups
  let start := if plain.isEmpty then [] else '-' :: plain.reverse
  let first : Writer := ⟨start, 0, 72, plain.length⟩
  (first.writeCodes name plain.length 128 codes).reversed.reverse

/-! ## Reading -/

/-- The value of a digit. -/
def digitValue? (c : Char) : Option Nat :=
  if c.isAlpha then some (c.toLower.toNat - 'a'.toNat)
  else (Text.digit? c).map (26 + ·)

/-- A value, if it has at most 32 bits. -/
def fitting? (n : Nat) : Option Nat := if n < UInt32.size then some n else none

/-- Reads on in a number, given the weight of its next digit and the value of
those before, and returns the text behind it. -/
def readNumber? (bias : Nat) : Nat → Nat → Nat → List Char → Option (Nat × List Char)
  | _, _, _, [] => none
  | place, weight, value, c :: rest => do
    let d ← digitValue? c
    let value ← fitting? (value + (← fitting? (d * weight)))
    let t := threshold place bias
    if d < t then return (value, rest)
    else readNumber? bias (place + 36) (← fitting? (weight * (36 - t))) value rest

theorem length_readNumber? {bias place weight value n : Nat} {s rest : List Char}
    (h : readNumber? bias place weight value s = some (n, rest)) : rest.length < s.length := by
  induction s generalizing place weight value with
  | nil => simp [readNumber?] at h
  | cons c s ih =>
    simp only [readNumber?, Option.bind_eq_bind, Option.bind_eq_some_iff] at h
    obtain ⟨d, _, product, _, value, _, h⟩ := h
    split at h
    · simp_all
    · obtain ⟨weight, _, h⟩ := Option.bind_eq_some_iff.1 h
      have := ih h
      simp
      omega

/-- The character with a code, if there is one. -/
def char? (code : Nat) : Option Char := if code.isValidChar then some (Char.ofNat code) else none

/-- Reads on, given the name so far, the least code of the characters that
are missing, the place of the next one, and the bias. -/
def decodeFrom? (name : List Char) (code place bias : Nat) (s : List Char) : Option (List Char) :=
  match s with
  | [] => some name
  | c :: r =>
    match h : readNumber? bias 36 1 place (c :: r) with
    | none => none
    | some (n, rest) =>
      have : rest.length < (c :: r).length := length_readNumber? h
      let count := name.length + 1
      let code := code + n / count
      match char? code with
      | none => none
      | some d =>
        decodeFrom? (name.insertIdx (n % count) d) code (n % count + 1)
          (adapt (n - place) count (place == 0)) rest
termination_by s.length
decreasing_by simpa using this

/-- Reads a name from its written form. -/
def decode? (s : List Char) : Option (List Char) :=
  match Text.cutAtLast (· == '-') s with
  | (none, _) | (some [], _) => decodeFrom? [] 128 0 72 s
  | (some plain, rest) => decodeFrom? plain 128 0 72 rest

end Dashboard.Url.Punycode
