import Dashboard.Toml.Value

/-!
# Building the tables of a document

A document is a list of blocks: the assignments before the first header, and
then each header with the assignments after it. An assignment puts a new
value under its key and never replaces one. A dotted key passes through
tables, which it creates where they are missing, but it may not add to a
table that was opened elsewhere. A header opens its table, which must not be
open already; one in double brackets adds a table to a list of them, and a
path that meets such a list goes on in its last table.
-/

namespace Dashboard.Toml

/-- A key, possibly dotted, and its value. -/
structure Assignment where
  path : List String
  value : Value

/-- What a header opens. -/
inductive Header where
  | table (path : List String)
  | element (path : List String)

/-- A header and the assignments after it. -/
structure Block where
  header : Header
  assignments : List Assignment

namespace Entries

/-- Changes the last of some tables. -/
def changeLast (f : Entries → Option Entries) : List Entries → Option (List Entries)
  | [] => none
  | [t] => (f t).map ([·])
  | t :: u :: r => (changeLast f (u :: r)).map (t :: ·)

/-- Puts a value under a key that is not present. -/
def add (key : String) (value : Value) (es : Entries) : Option Entries :=
  if (es.lookup key).isSome then none else some (es ++ [(key, value)])

/-- Puts a value under a key, possibly dotted. The last table that a dotted
key passes through has to be one that dotted keys made. -/
def assign (value : Value) : List String → Entries → Option Entries
  | [], _ => none
  | [key], es => es.add key value
  | key :: next :: path, es =>
    match es.lookup key with
    | none => (assign value (next :: path) []).map fun t => es ++ [(key, .table .dotted t)]
    | some (.table .dotted t) =>
      (assign value (next :: path) t).map fun t => es.replace key (.table .dotted t)
    | some (.table .passed t) =>
      if path.isEmpty then none
      else (assign value (next :: path) t).map fun t => es.replace key (.table .passed t)
    | some (.tables each) =>
      if path.isEmpty then none
      else
        (changeLast (assign value (next :: path)) each).map fun each =>
          es.replace key (.tables each)
    | some _ => none

/-- Makes assignments one after the other. -/
def assignAll (assignments : List Assignment) (es : Entries) : Option Entries :=
  assignments.foldlM (fun es a => es.assign a.value a.path) es

/-- Changes the table at a path, which is created where it is missing. -/
def descend (f : Entries → Option Entries) : List String → Entries → Option Entries
  | [], es => f es
  | key :: path, es =>
    match es.lookup key with
    | none => (descend f path []).map fun t => es ++ [(key, .table .passed t)]
    | some (.table .inline _) => none
    | some (.table origin t) =>
      (descend f path t).map fun t => es.replace key (.table origin t)
    | some (.tables each) =>
      (changeLast (descend f path) each).map fun each => es.replace key (.tables each)
    | some _ => none

/-- Opens the table of a key and fills it. A table that was only passed
through so far can still be opened. -/
def openTable (assignments : List Assignment) (key : String) (es : Entries) : Option Entries :=
  match es.lookup key with
  | none => (assignAll assignments []).map fun t => es ++ [(key, .table .opened t)]
  | some (.table .passed t) =>
    (assignAll assignments t).map fun t => es.replace key (.table .opened t)
  | some _ => none

/-- Adds a table to those of a key and fills it. -/
def openElement (assignments : List Assignment) (key : String) (es : Entries) : Option Entries :=
  match es.lookup key with
  | none => (assignAll assignments []).map fun t => es ++ [(key, .tables [t])]
  | some (.tables each) =>
    (assignAll assignments []).map fun t => es.replace key (.tables (each ++ [t]))
  | some _ => none

/-- Adds a block to the document. -/
def addBlock (es : Entries) (block : Block) : Option Entries :=
  match block.header with
  | .table path =>
    (path.getLast?).bind fun key => descend (openTable block.assignments key) path.dropLast es
  | .element path =>
    (path.getLast?).bind fun key => descend (openElement block.assignments key) path.dropLast es

/-- The table of a document: first the assignments before any header, then
block after block. -/
def ofBlocks (top : List Assignment) (blocks : List Block) : Option Entries :=
  (assignAll top []).bind fun es => blocks.foldlM addBlock es

end Entries

end Dashboard.Toml
