import Dashboard.Text.Blank
import Dashboard.Text.Letter
import Dashboard.Text.Natural
import Dashboard.Text.Pieces

/-!
# Search patterns

A search pattern stands for a set of texts: it has repetitions, groups,
alternatives and classes of characters. Nothing is searched here; it is only
decided which texts are patterns, since a text that should be one and is not
is refused.

No properties of characters are known to a pattern. So the classes that are
given by a property, and a comparison without regard to case, have to be
limited to ASCII by the flag `-u`, and words end at ASCII boundaries only. A
closing brace never stands in a pattern that is read here, so there are no
counts of repetitions either.
-/

namespace Dashboard.Text.Pattern

/-- Why a text is no pattern. -/
inductive PatternError where
  | malformed
  /-- The pattern asks for the boundary of a word outside of ASCII. -/
  | wordBoundary
deriving DecidableEq, Repr

/-- The wording of the reason. -/
def PatternError.message : PatternError → String
  | malformed => "error building NFA"
  | wordBoundary =>
    "unsupported regex feature for DFAs: cannot build DFAs for regexes with Unicode word " ++
      "boundaries; switch to ASCII word boundaries, or heuristically enable Unicode word " ++
      "boundaries or use a different regex engine"

/-! ## Flags -/

/-- The flags that matter to what a pattern may hold. -/
structure Flags where
  ascii : Bool := false
  caseless : Bool := false
  /-- Blanks and comments stand between the parts of the pattern. -/
  spaced : Bool := false
deriving DecidableEq, Repr

namespace Flags

/-- Whether characters can be compared. -/
def compares (f : Flags) : Bool := f.ascii || ! f.caseless

/-- Switches a flag. -/
def switch (f : Flags) (on : Bool) : Char → Flags
  | 'u' => { f with ascii := ! on }
  | 'i' => { f with caseless := on }
  | 'x' => { f with spaced := on }
  | _ => f

/-- The characters of flags. -/
def letters : List Char := ['i', 'm', 's', 'U', 'u', 'R', 'x']

/-- Switches the flags of a text: those before a hyphen on, those after it
off. No flag stands there twice, and a hyphen not at the end. -/
def read? (f : Flags) (words : List Char) : Option Flags :=
  let (on, off) := cutAt (· == '-') words
  let all := on ++ off.getD []
  if off = some [] ∨ ! all.all letters.contains ∨ all.eraseDups.length < all.length then none
  else some ((off.getD []).foldl (·.switch false ·) (on.foldl (·.switch true ·) f))

end Flags

/-- What follows blanks and comments; a comment ends with its line. -/
def dropSpace (inComment : Bool) : List Char → List Char
  | [] => []
  | c :: r =>
    if inComment then dropSpace (c != '\n') r
    else if isBlank c then dropSpace false r
    else if c == '#' then dropSpace true r
    else c :: r

/-- What follows the space between two parts of a pattern. -/
def next (f : Flags) (s : List Char) : List Char := if f.spaced then dropSpace false s else s

/-! ## Escapes -/

/-- What a backslash and the characters after it stand for. -/
inductive Escape where
  | literal (c : Char)
  /-- The characters with a property, or those without it. -/
  | property (negated : Bool)
  /-- An end of the text. -/
  | edge
  | wordBoundary

/-- The character whose number is given by so many hexadecimal digits. -/
def numbered? (digits : Nat) (s : List Char) : Option (Escape × List Char) := do
  guard (digits ≤ s.length)
  let n ← numeral? 16 (s.take digits)
  guard n.isValidChar
  return (.literal (Char.ofNat n), s.drop digits)

/-- Reads what stands after a backslash. -/
def escape? : List Char → Option (Escape × List Char)
  | [] => none
  | c :: r =>
    match c with
    | 'x' => numbered? 2 r
    | 'u' => numbered? 4 r
    | 'U' => numbered? 8 r
    | 'd' | 's' | 'w' => some (.property false, r)
    | 'D' | 'S' | 'W' => some (.property true, r)
    | 'a' => some (.literal '\x07', r)
    | 'f' => some (.literal '\x0c', r)
    | 'n' => some (.literal '\n', r)
    | 'r' => some (.literal '\r', r)
    | 't' => some (.literal '\t', r)
    | 'v' => some (.literal '\x0b', r)
    | 'A' | 'z' => some (.edge, r)
    | 'b' | 'B' | '<' | '>' => some (.wordBoundary, r)
    | c => if c.isAlphanum || 128 ≤ c.toNat then none else some (.literal c, r)

/-! ## Classes in brackets -/

/-- The names of the classes of ASCII characters. -/
def classNames : List String :=
  ["alnum", "alpha", "ascii", "blank", "cntrl", "digit", "graph", "lower", "print", "punct",
    "space", "upper", "word", "xdigit"]

/-- What follows the name of a class that begins after a bracket. -/
def namedClass? : List Char → Option (List Char)
  | ':' :: r =>
    let r := if r.head? = some '^' then r.tail else r
    match cutAt (· == ':') r with
    | (name, some (']' :: rest)) =>
      if classNames.contains (String.ofList name) then some rest else none
    | _ => none
  | _ => none

/-- Reads one member of a class: a character, or else a class of its own. -/
def member? (f : Flags) : List Char → Option (Option Char × List Char)
  | [] => none
  | '\\' :: r =>
    match escape? r with
    | some (.literal c, r) => if f.ascii && 128 ≤ c.toNat then none else some (some c, r)
    | some (.property negated, r) => if f.ascii && ! negated then some (none, r) else none
    | _ => none
  | c :: r => if f.ascii && 128 ≤ c.toNat then none else some (some c, r)

/-- What follows the beginning of a class: it may be negated, and hyphens, or
else a closing bracket, are characters there. -/
def classBody? (f : Flags) (s : List Char) : Option (List Char) :=
  let s := next f s
  let negated := s.head? = some '^'
  let s := if negated then next f s.tail else s
  if negated ∧ f.ascii then none
  else
    match s with
    | '-' :: r => some (r.dropWhile fun c => c == '-' || f.spaced && isBlank c)
    | ']' :: r => some r
    | s => some s

/-- What follows the end of a class that has so many others around it. -/
def afterClass? (f : Flags) : Nat → Nat → List Char → Option (List Char)
  | 0, _, _ => none
  | fuel + 1, outer, s =>
    match next f s with
    | [] => none
    | ']' :: r => if outer = 0 then some r else afterClass? f fuel (outer - 1) r
    | '[' :: r =>
      match namedClass? r with
      | some r => afterClass? f fuel outer r
      | none => do afterClass? f fuel (outer + 1) (← classBody? f r)
    | '&' :: '&' :: r | '-' :: '-' :: r | '~' :: '~' :: r => afterClass? f fuel outer r
    | s => do
      let (first, r) ← member? f s
      match next f r with
      | '-' :: r' =>
        match next f r' with
        | ']' :: _ | '-' :: _ => afterClass? f fuel outer r
        | r' =>
          let (last, rest) ← member? f r'
          guard ((← first) ≤ (← last))
          afterClass? f fuel outer rest
      | _ => afterClass? f fuel outer r

/-! ## Patterns -/

/-- What has been read of a pattern. -/
structure Progress where
  flags : Flags := {}
  /-- The flags around the groups that are open. -/
  outer : List Flags := []
  /-- Whether there is something before that can be repeated. -/
  repeatable : Bool := false
  names : List (List Char) := []
  hasWordBoundary : Bool := false

namespace Progress

/-- Something has been read that can be repeated. -/
def item (p : Progress) : Progress := { p with repeatable := true }

/-- A group begins. -/
def enter (p : Progress) (flags : Flags) : Progress :=
  { p with flags, outer := p.flags :: p.outer, repeatable := false }

/-- Whether a text can be the name of a group. -/
def isGroupName (name : List Char) : Bool :=
  name.head?.any (fun c => c == '_' || isLetter c && ! c.isDigit) &&
    name.all fun c => c == '_' || c == '.' || c == '[' || c == ']' || isLetter c

/-- Reads the name of a group that begins. -/
def enterNamed? (p : Progress) (s : List Char) : Option (Progress × List Char) :=
  match cutAt (· == '>') s with
  | (name, some rest) =>
    if isGroupName name && ! p.names.contains name then
      some ({ p.enter p.flags with names := name :: p.names }, rest)
    else none
  | _ => none

/-- Reads what stands after an opening parenthesis. Groups that only look
ahead or back do not exist. -/
def enter? (p : Progress) (s : List Char) : Option (Progress × List Char) :=
  match s with
  | '?' :: '=' :: _ | '?' :: '!' :: _ | '?' :: '<' :: '=' :: _ | '?' :: '<' :: '!' :: _ => none
  | '?' :: 'P' :: '<' :: r | '?' :: '<' :: r => p.enterNamed? r
  | '?' :: r => do
    let words := r.takeWhile fun c => c != ':' && c != ')'
    let flags ← p.flags.read? words
    match r.drop words.length with
    | ':' :: r => return (p.enter flags, r)
    | ')' :: r => if words = [] then none else return ({ p with flags, repeatable := false }, r)
    | _ => none
  | r => some (p.enter p.flags, r)

/-- Adds what a backslash stands for. -/
def addEscape? (p : Progress) : Escape → Option Progress
  | .literal c =>
    if p.flags.compares && ! (p.flags.ascii && 128 ≤ c.toNat) then some p.item else none
  | .property negated => if p.flags.ascii && ! negated then some p.item else none
  | .edge => some p.item
  | .wordBoundary => some { p.item with hasWordBoundary := p.hasWordBoundary || ! p.flags.ascii }

/-- Reads one part of a pattern that is not at its end. -/
def step? (p : Progress) : List Char → Option (Progress × List Char)
  | [] => none
  | '(' :: r => p.enter? (next p.flags r)
  | ')' :: r =>
    match p.outer with
    | [] => none
    | flags :: outer => some ({ p.item with flags, outer }, r)
  | '|' :: r => some ({ p with repeatable := false }, r)
  | '*' :: r | '+' :: r | '?' :: r =>
    if p.repeatable then some (p, if r.head? = some '?' then r.tail else r) else none
  | '\x7b' :: _ => none
  | '[' :: r => do
    guard p.flags.compares
    let body ← classBody? p.flags r
    return (p.item, ← afterClass? p.flags (body.length + 1) 0 body)
  | '\\' :: r => do
    let (e, r) ← escape? r
    return (← p.addEscape? e, r)
  | '.' :: r => if p.flags.ascii then none else some (p.item, r)
  | '^' :: r | '$' :: r => some (p.item, r)
  | _ :: r => if p.flags.compares then some (p.item, r) else none

/-- Reads on to the end of a pattern. -/
def finish? : Nat → Progress → List Char → Option Progress
  | 0, _, _ => none
  | fuel + 1, p, s =>
    match next p.flags s with
    | [] => if p.outer = [] then some p else none
    | s => do
      let (p, r) ← p.step? s
      finish? fuel p r

end Progress

/-- Why a text is no pattern, if it is none. -/
def error? (s : List Char) : Option PatternError :=
  match Progress.finish? (s.length + 1) {} s with
  | none => some .malformed
  | some p => if p.hasWordBoundary then some .wordBoundary else none

end Dashboard.Text.Pattern
