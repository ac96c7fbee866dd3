import Dashboard.Text.Blank
import Dashboard.Url.Host

/-!
# Addresses

An address has a scheme, mostly a host with a service on it, a path, and
possibly a query and a fragment. Reading one is generous: blank edges and line
breaks do not count, the number of slashes before a host does not matter, dots
are resolved, and characters that may not stand where they stand are escaped.
Writing an address gives the one form that all its spellings share.

The address of a file may begin with the letter of a drive, which takes the
place of a host and from which no dots lead back.
-/

namespace Dashboard

open Text (cutAt numeral? pieces)

/-- Who asks: a name and a password, both escaped and either of them possibly
empty. -/
structure Url.Asker where
  name : List Char
  password : List Char
deriving DecidableEq, Repr

/-- A host and the number of the service on it; no number where it is the
usual one of the scheme. -/
structure Url.Authority where
  asker : Url.Asker
  host : Url.Host
  service : Option Nat
deriving DecidableEq, Repr

/-- An address. -/
structure Url where
  scheme : List Char
  authority : Option Url.Authority
  path : List Char
  query : Option (List Char)
  fragment : Option (List Char)
deriving DecidableEq, Repr

namespace Url

/-! ## Schemes -/

/-- The rules that the scheme of an address sets for the rest of it. -/
inductive Kind where
  /-- A scheme of the web with its usual service; there is always a host. -/
  | web (usual : Nat)
  /-- Files; there is always a host, which may be empty. -/
  | file
  /-- Anything else. -/
  | other
deriving DecidableEq, Repr

/-- The kind of a scheme. -/
def Kind.ofScheme (scheme : List Char) : Kind :=
  match String.ofList scheme with
  | "http" | "ws" => web 80
  | "https" | "wss" => web 443
  | "ftp" => web 21
  | "file" => file
  | _ => other

/-- Whether a character is a slash; a backslash is one too where a host is
expected. -/
def Kind.isSlash (kind : Kind) (c : Char) : Bool := c == '/' || (kind != other && c == '\\')

/-- Whether a character may stand in a scheme after its first letter. -/
def isSchemeChar (c : Char) : Bool := c.isAlphanum || c == '+' || c == '-' || c == '.'

/-- The scheme of an address in lower case, and what follows its colon. -/
def cutScheme? (s : List Char) : Option (List Char × List Char) :=
  match s with
  | [] => none
  | c :: _ =>
    match cutAt (· == ':') s with
    | (scheme, some rest) =>
      if c.isAlpha && scheme.all isSchemeChar then some (scheme.map Char.toLower, rest) else none
    | (_, none) => none

/-! ## Characters that are escaped -/

/-- The characters that are escaped in a path. -/
def isUnfitForPath (c : Char) : Bool := " \"<>\x60#?\x7b\x7d".contains c

/-- The characters that are escaped in a name or a password. -/
def isUnfitForAsker (c : Char) : Bool := isUnfitForPath c || "/:;=@[\\]^|".contains c

/-- The characters that are escaped in a query; an apostrophe is one of them
where a host is expected. -/
def isUnfitForQuery (kind : Kind) (c : Char) : Bool :=
  " \"#<>".contains c || (kind != .other && c == '\x27')

/-- The characters that are escaped in a fragment. -/
def isUnfitForFragment (c : Char) : Bool := " \"<>\x60".contains c

/-! ## Hosts and services -/

/-- Who asks when nobody is named. -/
def Asker.nobody : Asker := ⟨[], []⟩

/-- The name and the password of a text, which are separated by the first
colon. -/
def Asker.ofText (s : List Char) : Asker :=
  let (name, password) := cutAt (· == ':') s
  ⟨Host.escape isUnfitForAsker name, Host.escape isUnfitForAsker (password.getD [])⟩

/-- The number of a service. -/
def service? (s : List Char) : Option Nat := (numeral? 10 s).filter (· < 65536)

/-- The host and the service of a text, which are separated by the first
colon outside of brackets. -/
def cutService (s : List Char) : List Char × Option (List Char) :=
  match s with
  | '[' :: _ =>
    match cutAt (· == ']') s with
    | (inside, some rest) =>
      let (more, service) := cutAt (· == ':') rest
      (inside ++ ']' :: more, service)
    | (_, none) => (s, none)
  | _ => cutAt (· == ':') s

/-- The number of a service of which possibly only the colon is there. -/
def serviceOf? (digits : Option (List Char)) : Option (Option Nat) :=
  match digits with
  | none | some [] => some none
  | some digits => (service? digits).map some

/-- Reads what stands between the slashes and the path of a web address. -/
def webAuthority? (usual : Nat) (s : List Char) : Option Authority := do
  let (asker, site) := Text.cutAtLast (· == '@') s
  let (host, digits) := cutService site
  let service ← serviceOf? digits
  return ⟨(asker.map Asker.ofText).getD .nobody, ← Host.ofWeb? host, service.filter (· != usual)⟩

/-- Reads what stands between the slashes and the path of any other address,
given whether it is followed by something. A backslash after the colon of a
service begins the path. -/
def otherAuthority? (isFollowed : Bool) (s : List Char) : Option (Authority × List Char) := do
  let (askerText, site) := Text.cutAtLast (· == '@') s
  let asker := (askerText.map Asker.ofText).getD .nobody
  let (host, digits) := cutService site
  let (digits, path) := ((digits.getD []).span (· != '\\') : List Char × List Char)
  let service ← serviceOf? digits
  let isLost := asker != .nobody || site != [] || (askerText == some [] && isFollowed)
  if host = [] ∧ isLost then none
  else return (⟨asker, ← Host.ofOther? host, service⟩, path)

/-! ## Paths -/

/-- The points of a path's segment, some of which may be escaped. -/
def points : List Char → Option Nat
  | [] => some 0
  | '.' :: r => (points r).map (· + 1)
  | '%' :: '2' :: e :: r => if e.toLower = 'e' then (points r).map (· + 1) else none
  | _ => none

/-- Whether a segment is the letter of a drive with a colon or a bar. -/
def isDrive : List Char → Bool
  | [letter, sign] => letter.isAlpha && (sign == ':' || sign == '|')
  | _ => false

/-- The segments before the last one, which are given from the last one back;
no way leads back from a drive. -/
def goBack : List (List Char) → List (List Char)
  | [] => []
  | s :: before => if isDrive s then s :: before else before

/-- A segment of a path behind others. The first one of a file's path may be
a drive, which is written with a colon. -/
def writeSegment (kind : Kind) (before : List (List Char)) (s : List Char) : List Char :=
  if kind = .file ∧ before = [] ∧ isDrive s then s.take 1 ++ [':'] else Host.escape isUnfitForPath s

/-- Resolves the segments of a path, given those before, last first: a
segment of one point stays where it is and one of two points goes back. -/
def resolveSegments (kind : Kind) : List (List Char) → List (List Char) → List (List Char)
  | before, [] => before
  | before, s :: rest =>
    match points s, rest with
    | some 1, [] => [] :: before
    | some 1, _ => resolveSegments kind before rest
    | some 2, [] => [] :: goBack before
    | some 2, _ => resolveSegments kind (goBack before) rest
    | _, _ => resolveSegments kind (writeSegment kind before s :: before) rest

/-- The segments of a path, whose first slash is left out. -/
def segments (kind : Kind) (path : List Char) : List (List Char) :=
  (resolveSegments kind [] (pieces kind.isSlash path)).reverse

/-- The text of a path with the given segments. -/
def pathText (segments : List (List Char)) : List Char := segments.flatMap ('/' :: ·)

/-- A path without its first slash. -/
def dropSlash (kind : Kind) (path : List Char) : List Char :=
  if (path.head?.map kind.isSlash).getD false then path.drop 1 else path

/-- A path in its resolved form, with a slash before each segment. -/
def resolvePath (kind : Kind) (path : List Char) : List Char :=
  pathText (segments kind (dropSlash kind path))

/-! ## Reading -/

/-- Without the characters up to the space at either end, and without tabs
and line breaks anywhere. -/
def tidy (s : List Char) : List Char :=
  (Text.dropEdges (·.toNat ≤ 32) s).filter fun c => c != '\t' && c != '\n' && c != '\r'

/-- The two sides of the first slash, which stays with the second one. -/
def cutAtSlash (kind : Kind) (s : List Char) : List Char × List Char :=
  s.span (! kind.isSlash ·)

/-- The authority of an address that has neither a host nor anything else. -/
def noAuthority : Authority := ⟨.nobody, .name [], none⟩

/-- The host of a file's address; the name of this host stands for none. -/
def fileHost? (s : List Char) : Option Host :=
  if s = [] then some (.name [])
  else (Host.ofWeb? s).map fun host => if host = .name "localhost".toList then .name [] else host

/-- A file's address with a host and a path, whose first slash is left out. A
drive takes the place of the host, and slashes at the beginning of the path
count as one. -/
def filePlace (host : Host) (path : List Char) : Option Authority × List Char :=
  let all := segments .file path
  let host := if (all.head?.map isDrive).getD false then .name [] else host
  (some { noAuthority with host }, '/' :: (pathText all).dropWhile (· == '/'))

/-- The host and the path of what follows the scheme of a file's address. -/
def filePlace? (s : List Char) : Option (Option Authority × List Char) :=
  if 2 ≤ s.length ∧ (s.take 2).all Kind.file.isSlash then
    let (hostText, path) := cutAtSlash .file (s.drop 2)
    if isDrive hostText then some (filePlace (.name []) (s.drop 2))
    else
      (fileHost? hostText).map fun host =>
        filePlace host (if host = .name [] then path else path.drop 1)
  else some (filePlace (.name []) (dropSlash .file s))

/-- The host and the path of what follows a scheme up to the query, given
whether there is a query or a fragment. -/
def place? (kind : Kind) (hasMore : Bool) (s : List Char) :
    Option (Option Authority × List Char) :=
  match kind with
  | .web usual => do
    let (host, path) := cutAtSlash kind (s.dropWhile kind.isSlash)
    return (some (← webAuthority? usual host), resolvePath kind path)
  | .file => filePlace? s
  | .other =>
    if s.take 2 = ['/', '/'] then do
      let (host, path) := cutAtSlash kind (s.drop 2)
      let (authority, first) ← otherAuthority? (hasMore || path != []) host
      let path := if first = [] then path else '/' :: first ++ path
      return (some authority, if path = [] then [] else resolvePath kind path)
    else if s.head? = some '/' then some (none, resolvePath kind s)
    else some (none, Host.escape (fun _ => false) s)

/-- Reads an address. -/
def read? (text : List Char) : Option Url := do
  let (scheme, rest) ← cutScheme? (tidy text)
  let kind := Kind.ofScheme scheme
  let (rest, fragment) := cutAt (· == '#') rest
  let (rest, query) := cutAt (· == '?') rest
  let (authority, path) ← place? kind (query.isSome || fragment.isSome) rest
  return {
    scheme
    authority
    path
    query := query.map (Host.escape (isUnfitForQuery kind))
    fragment := fragment.map (Host.escape isUnfitForFragment) }

/-! ## Writing -/

/-- The text of who asks; nothing for nobody. -/
def Asker.text (a : Asker) : List Char :=
  if a = .nobody then []
  else a.name ++ (if a.password = [] then [] else ':' :: a.password) ++ ['@']

/-- The text of a host with its service. -/
def Authority.site (a : Authority) : List Char :=
  a.host.text ++ (a.service.map fun n => ':' :: Text.decimal n).getD []

/-- The text of who asks, and of a host with its service. -/
def Authority.text (a : Authority) : List Char := a.asker.text ++ a.site

/-- Whether a name and a password can be told to a host, which takes text
only: the name, if it is not empty, or else the password. -/
def Asker.isTellable (a : Asker) : Bool :=
  match Text.Utf8.decode? (Host.unescape a.name) with
  | none => false
  | some [] => (Text.Utf8.decode? (Host.unescape a.password)).isSome
  | some _ => true

/-- The address without who asks, which is told to the host in another way if
it can be told at all. -/
def anonymous (u : Url) : Url :=
  { u with authority := u.authority.map fun a =>
      if a.asker.isTellable then { a with asker := .nobody } else a }

/-- What follows the host of an address when it is asked for. -/
def target (u : Url) : List Char := u.path ++ (u.query.map ('?' :: ·)).getD []

/-- What stands between the scheme and the path. -/
def placeText (u : Url) : List Char :=
  match u.authority with
  | some a => '/' :: '/' :: a.text
  | none => if u.path.take 2 = ['/', '/'] then ['/', '.'] else []

/-- The text of an address. -/
def text (u : Url) : List Char :=
  u.scheme ++ ':' :: u.placeText ++ u.target ++ (u.fragment.map ('#' :: ·)).getD []

/-! ## References -/

/-- The address that a reference found at another address stands for. -/
def resolve? (base : Url) (reference : List Char) : Option Url :=
  let kind := Kind.ofScheme base.scheme
  let reference := tidy reference
  let site := base.scheme ++ [':'] ++ base.placeText
  if (cutScheme? reference).isSome then read? reference
  else
    match reference with
    | [] => read? (site ++ base.target)
    | '#' :: _ => read? (site ++ base.target ++ reference)
    | '?' :: _ => read? (site ++ base.path ++ reference)
    | c :: r =>
      if ! kind.isSlash c then
        read? (site ++ (base.path.reverse.dropWhile (! kind.isSlash ·)).reverse ++ reference)
      else if (r.head?.map kind.isSlash).getD false then
        read? (base.scheme ++ [':'] ++ reference)
      else read? (site ++ reference)

end Url

end Dashboard
