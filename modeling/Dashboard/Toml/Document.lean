import Dashboard.Toml.Quoted
import Dashboard.Toml.Scalar
import Dashboard.Toml.Table

/-!
# Reading a settings document

A document is read line by line. A line holds a header, an assignment or
nothing, and may end with a comment. Values in brackets and braces nest, to
a limit, which is the measure of their recursion; a list in brackets may
spread over lines, a table in braces may not.

Either the whole document is read or none of it.
-/

namespace Dashboard.Toml

open Quoted (isGap isPrintable startsLine)

/-- A step of the reader: a result and the rest of the text. -/
abbrev Step (α : Type) := List Char → Option (α × List Char)

/-- How deep values nest, and how many parts a dotted key has, at most. -/
def nestingLimit : Nat := 79

/-- The rest after white space within the line. -/
def skipGap (s : List Char) : List Char := s.dropWhile isGap

/-- The rest after white space, line breaks and comments. -/
def skipLines (comment : Bool) : List Char → List Char
  | [] => []
  | c :: r =>
    if c == '\n' || (c == '\r' && startsLine (c :: r)) then skipLines false r
    else if comment then if isPrintable c then skipLines true r else c :: r
    else if isGap c then skipLines false r
    else if c == '#' then skipLines true r
    else c :: r

/-- The rest after a line break or at the end. -/
def lineBreak? : List Char → Option (List Char)
  | [] => some []
  | '\n' :: r => some r
  | '\r' :: '\n' :: r => some r
  | _ => none

/-- The rest after the end of the line, which a comment may come before. -/
def lineEnd? (s : List Char) : Option (List Char) :=
  match skipGap s with
  | '#' :: r => lineBreak? (r.dropWhile isPrintable)
  | s => lineBreak? s

/-- The characters of a key without quotes. -/
def isKeyChar (c : Char) : Bool := c.isAlphanum || c == '_' || c == '-'

/-- One part of a key. -/
def keyPart : Step String := fun s =>
  match s with
  | [] => none
  | c :: _ =>
    if c == '\x22' || c == '\x27' then
      (Quoted.short s).map fun (text, rest) => (String.ofList text, rest)
    else if isKeyChar c then some (String.ofList (s.takeWhile isKeyChar), s.dropWhile isKeyChar)
    else none

/-- The parts of a key, with dots between them, and white space around each. -/
def keyParts (fuel : Nat) : Step (List String) := fun s =>
  match fuel with
  | 0 => none
  | fuel + 1 => do
    let (part, rest) ← keyPart (skipGap s)
    match skipGap rest with
    | '.' :: rest => do
      let (parts, rest) ← keyParts fuel rest
      return (part :: parts, rest)
    | rest => return ([part], rest)

/-- A key. -/
def key : Step (List String) := keyParts nestingLimit

/-- A key, an equals sign and a value. -/
def assignment (value : Step Value) : Step Assignment := fun s => do
  let (path, rest) ← key s
  match rest with
  | '=' :: rest => do
    let (v, rest) ← value (skipGap rest)
    return (⟨path, v⟩, rest)
  | _ => none

/-- The items of a list after its opening bracket or after a comma, `acc`
being the items so far from the last. -/
def items (value : Step Value) (fuel : Nat) (acc : List Value) (s : List Char) :
    Option (List Value × List Char) :=
  match fuel with
  | 0 => none
  | fuel + 1 =>
    match skipLines false s with
    | ']' :: rest => some (acc.reverse, rest)
    | s => do
      let (v, rest) ← value s
      match skipLines false rest with
      | ',' :: rest => items value fuel (v :: acc) rest
      | ']' :: rest => some ((v :: acc).reverse, rest)
      | _ => none

/-- The assignments of a table in braces, at least one. -/
def members (value : Step Value) (fuel : Nat) (s : List Char) :
    Option (List Assignment × List Char) :=
  match fuel with
  | 0 => none
  | fuel + 1 => do
    let (a, rest) ← assignment value s
    match skipGap rest with
    | ',' :: rest => do
      let (more, rest) ← members value fuel rest
      return (a :: more, rest)
    | '\x7d' :: rest => return ([a], rest)
    | _ => none

/-- A word; a date and a time may have a space between them. -/
def word : Step Value := fun s =>
  let (first, rest) := s.span Scalar.isWordChar
  match rest with
  | ' ' :: c :: _ =>
    if Moment.isDate first && c.isDigit then
      let (second, rest) := (rest.drop 1).span Scalar.isWordChar
      if Moment.isOffsetTime second then
        some (.moment (String.ofList (first ++ ' ' :: second)), rest)
      else none
    else (Scalar.read first).map (·, rest)
  | _ => (Scalar.read first).map (·, rest)

/-- A value in which at most `depth` brackets and braces may be nested. -/
def value (depth : Nat) : Step Value := fun s =>
  match s with
  | [] => none
  | c :: r =>
    if c == '\x22' || c == '\x27' then
      (Quoted.read s).map fun (text, rest) => (.text (String.ofList text), rest)
    else if c == '[' then
      match depth with
      | 0 => none
      | depth + 1 =>
        (items (value depth) (r.length + 1) [] r).map fun (vs, rest) => (.array vs, rest)
    else if c == '\x7b' then
      match depth with
      | 0 => none
      | depth + 1 =>
        match skipGap r with
        | '\x7d' :: rest => some (.table .inline [], rest)
        | r => do
          let (assignments, rest) ← members (value depth) (r.length + 1) r
          let es ← Entries.assignAll assignments []
          return (.table .inline es, rest)
    else word s

/-- What a line says. -/
inductive Statement where
  | header (h : Header)
  | assignment (a : Assignment)

/-- A header. -/
def header : Step Header := fun s =>
  match s with
  | '[' :: '[' :: r => do
    match ← key r with
    | (path, ']' :: ']' :: rest) => return (.element path, rest)
    | _ => none
  | '[' :: r => do
    match ← key r with
    | (path, ']' :: rest) => return (.table path, rest)
    | _ => none
  | _ => none

/-- What a line that is not empty says. -/
def statement : Step Statement := fun s =>
  match s with
  | '[' :: _ => (header s).map fun (h, rest) => (.header h, rest)
  | _ => (assignment (value nestingLimit) s).map fun (a, rest) => (.assignment a, rest)

/-- What the lines of a document say; every line takes one of `fuel`. -/
def statements (fuel : Nat) (s : List Char) : Option (List Statement) :=
  match fuel with
  | 0 => none
  | fuel + 1 =>
    match skipGap s with
    | [] => some []
    | c :: r =>
      if c == '#' || c == '\n' || c == '\r' then do statements fuel (← lineEnd? (c :: r))
      else do
        let (said, rest) ← statement (c :: r)
        let more ← statements fuel (← lineEnd? rest)
        return said :: more

/-- The assignments before the first header, and the blocks. -/
def blocks : List Statement → List Assignment × List Block
  | [] => ([], [])
  | .assignment a :: r => let (top, bs) := blocks r; (a :: top, bs)
  | .header h :: r => let (top, bs) := blocks r; ([], ⟨h, top⟩ :: bs)

/-- A document without the byte order mark that may begin it. -/
def dropMark : List Char → List Char
  | '\uFEFF' :: r => r
  | s => s

/-- The table of a document. -/
def read (s : List Char) : Option Entries := do
  let s := dropMark s
  let (top, bs) := blocks (← statements (s.length + 1) s)
  Entries.ofBlocks top bs

end Dashboard.Toml
