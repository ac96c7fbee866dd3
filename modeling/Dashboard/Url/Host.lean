import Dashboard.Text.Percent
import Dashboard.Text.Pieces
import Dashboard.Url.Name

/-!
# Hosts

The host of an address is a name, an IPv4 address of four bytes or an IPv6
address of eight groups of sixteen bits. A name of the web is kept in lower
case and in ASCII. One whose last part is a number is meant to be an IPv4
address and is refused if it is none; such an address may have fewer than
four parts, the last of which then stands for all that are missing, and
each part may be octal or hexadecimal.
-/

namespace Dashboard.Url

open Text (numeral? pieces)

/-- A host. -/
inductive Host where
  | name (text : List Char)
  | v4 (address : Nat)
  | v6 (groups : List Nat)
deriving DecidableEq, Repr

namespace Host

/-! ## IPv4 -/

/-- The value of one part of an IPv4 address. -/
def part? : List Char → Option Nat
  | [] => none
  | '0' :: 'x' :: r | '0' :: 'X' :: r => numeral? 16 r
  | '0' :: c :: r => numeral? 8 (c :: r)
  | s => numeral? 10 s

/-- The parts of a name; one point at its end does not count. -/
def parts (name : List Char) : List (List Char) :=
  let all := pieces (· == '.') name
  if 1 < all.length && all.getLast? == some [] then all.dropLast else all

/-- Whether the last part of a name is a number. -/
def endsInNumber (name : List Char) : Bool :=
  match (parts name).getLast? with
  | some last => (part? last).isSome || (last != [] && (numeral? 10 last).isSome)
  | none => false

/-- The address that the values of its parts give. -/
def v4OfParts? : List Nat → Option Nat
  | [] => none
  | first :: rest =>
    let all := first :: rest
    let missing := 4 - rest.length
    let last := all.getLast (by simp [all])
    if all.length ≤ 4 ∧ all.dropLast.all (· < 256) ∧ last < Nat.pow 256 missing then
      some (all.dropLast.foldl (fun n x => n * 256 + x) 0 * Nat.pow 256 missing + last)
    else none

/-- Reads an IPv4 address. -/
def v4? (name : List Char) : Option Nat := do v4OfParts? (← (parts name).mapM part?)

/-! ## IPv6 -/

/-- One group of an IPv6 address. -/
def group? (s : List Char) : Option Nat :=
  if s ≠ [] ∧ s.length ≤ 4 then numeral? 16 s else none

/-- A byte of an IPv4 address within an IPv6 address. -/
def byte? (s : List Char) : Option Nat :=
  if s = [] ∨ (s.head? = some '0' ∧ s ≠ ['0']) then none else (numeral? 10 s).filter (· < 256)

/-- The last groups of an IPv6 address: one group, or an IPv4 address. -/
def lastGroups? (s : List Char) : Option (List Nat) :=
  if s.contains '.' then
    match (pieces (· == '.') s).mapM byte? with
    | some [a, b, c, d] => some [a * 256 + b, c * 256 + d]
    | _ => none
  else (group? s).map ([·])

/-- A run of groups; an IPv4 address may only end the whole address. -/
def groups? (atEnd : Bool) (s : List Char) : Option (List Nat) :=
  if s = [] then some []
  else do
    let all := pieces (· == ':') s
    let last := all.getLast?.getD []
    let before ← all.dropLast.mapM group?
    return before ++ (← if atEnd then lastGroups? last else (group? last).map ([·]))

/-- The two sides of the first pair of colons. -/
def cutPair : List Char → Option (List Char × List Char)
  | ':' :: ':' :: r => some ([], r)
  | c :: r => (cutPair r).map fun (a, b) => (c :: a, b)
  | [] => none

/-- Reads an IPv6 address; a pair of colons stands for the groups that are
missing, at least one. -/
def v6? (s : List Char) : Option (List Nat) :=
  match cutPair s with
  | some (a, b) => do
    let before ← groups? false a
    let after ← groups? true b
    let given := before.length + after.length
    if given < 8 then return before ++ List.replicate (8 - given) 0 ++ after else none
  | none => (groups? true s).filter (·.length == 8)

/-! ## Reading -/

/-- The characters that no host may hold. -/
def isForbidden (c : Char) : Bool :=
  c.toNat == 0 || c == '\t' || c == '\n' || c == '\r' || " #/:<>?@[\\]^|".contains c

/-- The characters that no host of the web may hold. -/
def isForbiddenInName (c : Char) : Bool :=
  c.toNat ≤ 32 || c.toNat == 127 || c == '%' || isForbidden c

/-- The bytes of a text in which percent signs with two hexadecimal digits
stand for a byte. -/
def unescape : List Char → List UInt8
  | [] => []
  | '%' :: a :: b :: r =>
    match Text.hexValue? a, Text.hexValue? b with
    | some high, some low => UInt8.ofNat (high * 16 + low) :: unescape r
    | _, _ => Text.Utf8.encodeChar '%' ++ unescape (a :: b :: r)
  | c :: r => Text.Utf8.encodeChar c ++ unescape r

/-- The inside of a text in brackets. -/
def bracketed? (s : List Char) : Option (List Char) :=
  if s.head? = some '[' ∧ 1 < s.length ∧ s.getLast? = some ']' then some (s.drop 1).dropLast
  else none

/-- Reads a host of the web. -/
def ofWeb? (s : List Char) : Option Host :=
  if s.head? = some '[' then do return v6 (← v6? (← bracketed? s))
  else do
    let name ← Name.ascii? (← Text.Utf8.decode? (unescape s))
    if name = [] ∨ name.any isForbiddenInName then none
    else if endsInNumber name then return v4 (← v4? name)
    else return .name name

/-! ## Writing -/

/-- A text in which the characters that satisfy `p`, and all above ASCII, are
written as percent signs with two hexadecimal digits. -/
def escape (p : Char → Bool) (s : List Char) : List Char :=
  s.flatMap fun c =>
    if p c || c.toNat < 32 || 127 ≤ c.toNat then
      (Text.Utf8.encodeChar c).flatMap fun b =>
        ['%', Text.hexDigit (b.toNat / 16), Text.hexDigit (b.toNat % 16)]
    else [c]

/-- Reads a host outside of the web. -/
def ofOther? (s : List Char) : Option Host :=
  if s.head? = some '[' then do return v6 (← v6? (← bracketed? s))
  else if s.any isForbidden then none
  else some (.name (escape (fun _ => false) s))

/-- The hexadecimal digits of a group. -/
def groupText (n : Nat) : List Char := Nat.toDigits 16 n

/-- How many groups at the front are zero. -/
def zeroRun (groups : List Nat) : Nat := (groups.takeWhile (· == 0)).length

/-- The place of the longest run of zeros and its length; of equally long
ones the first. -/
def longestZeros : List Nat → Nat → Nat × Nat
  | [], at_ => (at_, 0)
  | n :: rest, at_ =>
    let here := zeroRun (n :: rest)
    let later := longestZeros rest (at_ + 1)
    if later.2 ≤ here then (at_, here) else later

/-- Groups with colons between them. -/
def groupsText (groups : List Nat) : List Char :=
  List.intercalate [':'] (groups.map groupText)

/-- The text of an IPv6 address; the longest run of at least two zeros is a
pair of colons. -/
def v6Text (groups : List Nat) : List Char :=
  let (at_, length) := longestZeros groups 0
  if length < 2 then groupsText groups
  else groupsText (groups.take at_) ++ [':', ':'] ++ groupsText (groups.drop (at_ + length))

/-- The text of an IPv4 address. -/
def v4Text (address : Nat) : List Char :=
  List.intercalate ['.']
    ([address / 16777216, address / 65536 % 256, address / 256 % 256, address % 256].map
      Text.decimal)

/-- The text of a host. -/
def text : Host → List Char
  | name s => s
  | v4 address => v4Text address
  | v6 groups => '[' :: v6Text groups ++ [']']

end Host

end Dashboard.Url
