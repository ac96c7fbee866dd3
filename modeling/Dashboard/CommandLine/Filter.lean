import Dashboard.CommandLine.Journal
import Dashboard.Number.Decimal
import Dashboard.Text.Blank
import Dashboard.Text.Letter
import Dashboard.Text.Natural
import Dashboard.Text.Pattern
import Dashboard.Text.Pieces
import Dashboard.Text.Utf8

/-!
# Filters for the journal

A filter decides which entries of the journal are kept. It is a list of
directives, each of them a limit for the levels of some entries:

    target[span{field=value}]=limit

Every part of this may be missing. A target is the beginning of the name of
the part that makes an entry, and a field is something the entry must have;
a value is a number or a search pattern. No entry is made within a span, so
directives for spans and for values of fields let nothing pass by
themselves. Of the directives that are for an entry the most specific one
decides: first the longer target counts, then the field.
-/

namespace Dashboard.CommandLine

/-- What a directive asks of the fields. -/
structure FieldTest where
  name : String
  /-- Whether the field has to have a certain value. -/
  hasValue : Bool
deriving DecidableEq, Repr

/-- A directive. The limit is the last level it lets pass, from zero for none
to five for all. -/
structure Directive where
  target : Option String := none
  span : Option String := none
  field : Option FieldTest := none
  limit : Nat
deriving DecidableEq, Repr

/-- Why a text is no directive. -/
inductive DirectiveError where
  | malformed
  | badLimit
  | badValue (e : Text.Pattern.PatternError)
deriving DecidableEq, Repr

/-- The wording of the reason. -/
def DirectiveError.message : DirectiveError → String
  | malformed => "invalid filter directive"
  | badLimit =>
    "error parsing level filter: expected one of \"off\", \"error\", \"warn\", \"info\", " ++
      "\"debug\", \"trace\", or a number 0-5"
  | badValue e => "invalid field filter: " ++ e.message

/-- The limit that lets everything pass. -/
def Level.noLimit : Nat := Level.trace.place

/-- The limit of a word or a number. -/
def limitOf? (word : List Char) : Option Nat :=
  match Text.readNatural word with
  | .ok n => if n.toNat ≤ Level.noLimit then some n.toNat else none
  | .error _ =>
    let name := (String.ofList word).toUpper
    if name = "OFF" then some 0 else (Level.all.find? (·.name == name)).map Level.place

namespace Directive

/-- The limit after an equals sign, where nothing means no limit. -/
def limitAfter (word : List Char) : Except DirectiveError Nat :=
  if word = [] then .ok Level.noLimit
  else
    match limitOf? word with
    | some limit => .ok limit
    | none => .error .badLimit

/-- The characters of a text, each with its place in bytes from `n` on. -/
def placesFrom (n : Nat) : List Char → List (Char × Nat)
  | [] => []
  | c :: r => (c, n) :: placesFrom (n + (Text.Utf8.encodeChar c).length) r

/-- The characters of a text that stand from one place on and before another. -/
def stretch (s : List Char) (first : Nat) (stop : Option Nat) : List Char :=
  ((placesFrom 0 s).filter fun (_, n) => first ≤ n ∧ stop.all (n < ·)).map Prod.fst

/-- Whether a directive can begin with a character. -/
def canBegin (c : Char) : Bool :=
  c == '[' || c == '-' || c == ':' || c == '_' || Text.isLetter c

/-- Why a text is no value of a field, if it is none. -/
def valueError? (value : List Char) : Option DirectiveError :=
  if (Number.Decimal.read value).isSome then none else (Text.Pattern.error? value).map .badValue

/-- The test for a field in the words `name` or `name=value`. What follows a
second equals sign does not count. -/
def fieldTest (words : List Char) : Except DirectiveError FieldTest :=
  match Text.cutAt (· == '=') words with
  | ([], none) => .error .malformed
  | (name, none) => .ok ⟨String.ofList name, false⟩
  | (name, some value) =>
    match valueError? (Text.cutAt (· == '=') value).1 with
    | none => .ok ⟨String.ofList name, true⟩
    | some e => .error e

/-- The first of some characters in a text, with its place and what follows
it. -/
def cutAtMark (marks : List Char) (s : List (Char × Nat)) :
    Option (Char × Nat × List (Char × Nat)) :=
  match s.dropWhile fun (c, _) => ! marks.contains c with
  | [] => none
  | (c, n) :: rest => some (c, n, rest)

/-- Reads what follows the brackets: nothing, or an equals sign and a limit. -/
def readEnd (text : List Char) (d : Directive) :
    List (Char × Nat) → Except DirectiveError Directive
  | [] => .ok d
  | ('=', n) :: _ => do return { d with limit := ← limitAfter (stretch text (n + 1) none) }
  | _ => .error .malformed

/-- Reads the test for a field, from the place after its opening brace. -/
def readField (text : List Char) (d : Directive) (first : Nat) (s : List (Char × Nat)) :
    Except DirectiveError Directive := do
  let some (_, stop, rest) := cutAtMark ['\x7d'] s | .error .malformed
  let field ← fieldTest (stretch text first (some stop))
  match rest with
  | (']', _) :: rest => readEnd text { d with field } rest
  | _ => .error .malformed

/-- Reads what stands in brackets, from the place after the first of them. -/
def readSpan (text : List Char) (d : Directive) (first : Nat) (s : List (Char × Nat)) :
    Except DirectiveError Directive :=
  match cutAtMark [']', '\x7b'] s with
  | some (']', stop, rest) =>
    readEnd text { d with span := some (String.ofList (stretch text first (some stop))) } rest
  | some (_, stop, rest) =>
    let name := stretch text first (some stop)
    let span := if name = [] then none else some (String.ofList name)
    readField text { d with span } (stop + 1) rest
  | none => .error .malformed

/-- Reads a directive without brackets and equals sign: a limit for all
parts, or a target without a limit. -/
def ofWord (text : List Char) : Directive :=
  match limitOf? text with
  | some limit => { limit }
  | none => { target := some (String.ofList text), limit := Level.noLimit }

/-- Reads a directive. Its marks are looked for in the text without the
blanks around it; what stands between them is then taken from the same
places of the whole text. -/
def read (text : List Char) : Except DirectiveError Directive :=
  let s := placesFrom 0 (Text.dropEdges Text.isBlank text)
  if ! s.head?.any (canBegin ·.1) then .error .malformed
  else
    match cutAtMark ['=', '['] s with
    | none => .ok (ofWord text)
    | some (mark, stop, rest) =>
      let target :=
        if stop = 0 then none else some (String.ofList (stretch text 0 (some stop)))
      if mark = '[' then readSpan text { target, limit := Level.noLimit } (stop + 1) rest
      else readEnd text { target, limit := Level.noLimit } ((mark, stop) :: rest)

/-- Whether a directive can be for an entry at all. -/
def isStatic (d : Directive) : Bool := d.span.isNone && ! d.field.any (·.hasValue)

/-- Whether a directive is for an entry. -/
def appliesTo (d : Directive) (e : Entry) : Bool :=
  d.isStatic && d.target.all (fun t => e.origin.name.startsWith t) &&
    d.field.all fun f => e.fields.contains f.name

/-- Whether the second of two directives for an entry is at least as specific
as the first. -/
def yieldsTo (d e : Directive) : Bool :=
  let size (d : Directive) := (d.target.map fun t => t.length + 1).getD 0
  let name (d : Directive) := (d.field.map (·.name)).getD ""
  size d < size e || size d == size e &&
    (d.field.isNone || e.field.isSome && ! decide (name e < name d))

end Directive

/-- A list of directives. -/
abbrev Filter := List Directive

namespace Filter

/-- The filter of a text without directives lets errors pass. -/
def orErrors (f : Filter) : Filter :=
  if f.isEmpty then [{ limit := Level.error.place }] else f

/-- The texts of the directives in a text. -/
def words (s : String) : List (List Char) :=
  (Text.pieces (· == ',') s.toList).filter (· != [])

/-- Reads a filter, all of whose directives have to be right. -/
def read? (s : String) : Option Filter := do
  return orErrors (← (words s).mapM fun w => (Directive.read w).toOption)

/-- Reads those directives of a filter that are right. -/
def readSome (s : String) : Filter :=
  orErrors ((words s).filterMap fun w => (Directive.read w).toOption)

/-- The texts in a filter that are no directives, and why. -/
def ignored (s : String) : List (String × DirectiveError) :=
  (words s).filterMap fun w =>
    match Directive.read w with
    | .ok _ => none
    | .error e => some (String.ofList w, e)

/-- The more specific of two directives, and of equal ones the second. -/
def moreSpecific (d : Option Directive) (e : Directive) : Option Directive :=
  match d with
  | none => some e
  | some d => if d.yieldsTo e then some e else some d

/-- The directives for an entry, in the order of the filter. -/
def applicable (f : Filter) (e : Entry) : List Directive := f.filter (·.appliesTo e)

/-- The directive that decides on an entry. -/
def directiveFor (f : Filter) (e : Entry) : Option Directive :=
  (f.applicable e).foldl moreSpecific none

/-- Whether an entry is kept. -/
def keeps (f : Filter) (e : Entry) : Bool :=
  (f.directiveFor e).any fun d => e.level.place ≤ d.limit

end Filter

end Dashboard.CommandLine
