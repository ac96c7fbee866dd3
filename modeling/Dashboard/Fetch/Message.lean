import Dashboard.Fetch.Http
import Dashboard.Text.Pieces

/-!
# Messages on the wire

A request is a few lines of text. A response is a head of lines up to an
empty one, and a body whose end the head tells: after a number of bytes,
after the last of some chunks, or when the connection is closed. A response
arrives bit by bit, so what has arrived is read again as more of it comes.
-/

namespace Dashboard.Fetch.Message

/-- The request for an address. -/
def request (url : Url) : String :=
  let host := String.ofList ((url.authority.map Url.Authority.site).getD [])
  "GET " ++ String.ofList url.target ++ " HTTP/1.1\r\naccept: */*\r\nhost: " ++ host ++
    "\r\nconnection: close\r\n\r\n"

/-- What a response says before its body. -/
structure Head where
  code : Nat
  /-- The headers, their names in lower case. -/
  headers : List (String × String)

/-- How far a response has come. -/
inductive Progress where
  /-- There is no whole head. -/
  | waiting
  /-- There is a head and a part of the body. -/
  | headed (h : Head)
  /-- All of it is there. -/
  | whole (h : Head) (body : List UInt8)
  /-- The body will not come. -/
  | cutOff (h : Head)
  /-- There will be no head. -/
  | broken

/-! ## Heads -/

/-- The line at the front of some bytes, without its end, and the bytes
after it. -/
def cutLine? (bytes : List UInt8) : Option (List UInt8 × List UInt8) :=
  match Text.cutAt (· == 10) bytes with
  | (line, some rest) => some (Text.dropTrailing (· == 13) line, rest)
  | (_, none) => none

/-- The lines up to the first empty one and the bytes after that, in at most
`fuel` lines. -/
def cutLines? : Nat → List UInt8 → Option (List (List UInt8) × List UInt8)
  | 0, _ => none
  | fuel + 1, bytes => do
    let (line, rest) ← cutLine? bytes
    if line = [] then return ([], rest)
    let (lines, rest) ← cutLines? fuel rest
    return (line :: lines, rest)

/-- The text of bytes that are ASCII; others are taken by their value. -/
def plainText (bytes : List UInt8) : String := String.ofList (bytes.map fun b => Char.ofNat b.toNat)

/-- The code of a status line. -/
def statusCode? (line : List UInt8) : Option Nat := do
  let words := Text.pieces (· == ' ') (plainText line).toList
  if "HTTP/1.".toList.isPrefixOf (← words[0]?) then Text.numeral? 10 (← words[1]?) else none

/-- The header of a line. -/
def header? (line : List UInt8) : Option (String × String) :=
  match Text.cutAt (· == ':') (plainText line).toList with
  | (name, some value) =>
    some (Text.lowerAscii (String.ofList name), Text.trim (String.ofList value))
  | (_, none) => none

/-- The head at the front of some bytes and the bytes after it. -/
def cutHead? (bytes : List UInt8) : Option (Option Head × List UInt8) := do
  let (lines, rest) ← cutLines? (bytes.length + 1) bytes
  return (lines.head?.bind fun line =>
    (statusCode? line).map (⟨·, lines.tail.filterMap header?⟩), rest)

/-! ## Bodies -/

/-- How far a body has come: nothing is known, or all is there. -/
abbrev Gathered := Option (List UInt8)

/-- The bytes of a sequence of chunks, at most `fuel` of them. -/
def gatherChunks : Nat → List UInt8 → Gathered
  | 0, _ => none
  | fuel + 1, bytes => do
    let (line, rest) ← cutLine? bytes
    let (size, _) := Text.cutAt (· == ';') (plainText line).toList
    let n ← Text.numeral? 16 (Text.dropEdges Text.isBlank size)
    if n = 0 then do let _ ← cutLines? (rest.length + 1) rest; return []
    else if rest.length < n then none
    else do
      let (_, rest') ← cutLine? (rest.drop n)
      return rest.take n ++ (← gatherChunks fuel rest')

/-- The body of a response, as far as its bytes have arrived. -/
def gather (h : Head) (bytes : List UInt8) (closed : Bool) : Gathered :=
  if h.code = 204 ∨ h.code = 304 then some []
  else if ((h.headers.lookup "transfer-encoding").map Text.lowerAscii) = some "chunked" then
    gatherChunks (bytes.length + 1) bytes
  else
    match (h.headers.lookup "content-length").bind fun s => Text.numeral? 10 s.toList with
    | some n => if n ≤ bytes.length then some (bytes.take n) else none
    | none => if closed then some bytes else none

/-- How far a response has come with the bytes that have arrived, and whether
the connection is closed. -/
def progress (bytes : List UInt8) (closed : Bool) : Progress :=
  match cutHead? bytes with
  | none => if closed then .broken else .waiting
  | some (none, _) => .broken
  | some (some h, rest) =>
    match gather h rest closed with
    | some body => .whole h body
    | none => if closed then .cutOff h else .headed h

end Dashboard.Fetch.Message
