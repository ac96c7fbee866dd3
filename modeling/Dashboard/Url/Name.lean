import Dashboard.Text.Composition
import Dashboard.Text.Mark
import Dashboard.Url.Name.Direction
import Dashboard.Url.Name.Joining
import Dashboard.Url.Name.Meaning
import Dashboard.Url.Punycode

/-!
# Names of hosts

A name of the web has parts with points between them, and a written form in
ASCII that all its spellings share. To find it every character is replaced by
what it stands for and the result is composed. A part may also be given in
its written form, with a mark that says so; it has to stand for a part in
just the form that the other way leads to.

Parts must be readable: none begins with a mark, joiners stand where they
make a difference, and where something is written from right to left each
part keeps to one direction.
-/

namespace Dashboard.Url.Name

open Text (composed isMark pieces)

/-- The beginning of a part that stands for characters above ASCII. -/
def codeMark : List Char := ['x', 'n', '-', '-']

/-- The greatest length of a written part that is read, without its mark. -/
def longestRead : Nat := 2000

/-- The greatest length of a part that is written. -/
def longestWritten : Nat := 1000

/-- Whether a text is ASCII. -/
def isAscii (s : List Char) : Bool := s.all fun c => c.toNat < 128

/-- Whether a name is ASCII and means nothing else. -/
def isPlain (name : List Char) : Bool :=
  isAscii name &&
    (pieces (· == '.') name).all fun part => ! codeMark.isPrefixOf (part.map Char.toLower)

/-- The text that a part in its written form stands for. -/
def decodePart? (part : List Char) : Option (List Char) := do
  let code := part.drop codeMark.length
  if code.length ≤ longestRead ∧ part.getLast? ≠ some '-' then
    let s ← Punycode.decode? code
    if s.all (fun c => meaning c == .itself) ∧ composed s = s then return s else none
  else none

/-- The text that a part stands for and the part in its written form. -/
def bothForms? (part : List Char) : Option (List Char × List Char) :=
  if codeMark.isPrefixOf part then (decodePart? part).map (·, part)
  else if isAscii part then some (part, part)
  else if part.length ≤ longestWritten then some (part, codeMark ++ Punycode.encode part)
  else none

/-- Whether the marks and joiners of a part stand where they may. -/
def isReadable (part : List Char) : Bool :=
  ! (part.head?.map isMark).getD false && joinersFit [] part

/-- The written form of a name. -/
def ascii? (name : List Char) : Option (List Char) :=
  if isPlain name then some (name.map Char.toLower)
  else do
    let spelled ← name.mapM spelledOut?
    let forms ← (pieces (· == '.') (composed spelled.flatten)).mapM bothForms?
    let parts := forms.map Prod.fst
    let fit := ! parts.any hasRightToLeft || parts.all fun s => directionsFit (s.map direction)
    if parts.all isReadable && fit then
      return List.intercalate ['.'] (forms.map Prod.snd)
    else none

end Dashboard.Url.Name
