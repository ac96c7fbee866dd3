import Dashboard.Number.Double

/-!
# Settings documents

A settings document is a table of named values. How a table came to be is
kept with it, because a document may add to some tables and not to others:
a header opens a table once, the path of a header or a dotted key may pass
through tables that were never opened, and an inline table is complete where
it stands.
-/

namespace Dashboard.Toml

/-- How a table came to be. -/
inductive Origin where
  /-- Opened by a header of its own. -/
  | opened
  /-- Passed through by the path of a header. -/
  | passed
  /-- Passed through by a dotted key. -/
  | dotted
  /-- Written in braces. -/
  | inline
deriving DecidableEq, Repr

/-- A value of a settings document. -/
inductive Value where
  | text (s : String)
  | integer (i : Int)
  | real (x : Double)
  | boolean (b : Bool)
  /-- A date, a time or both, as written. -/
  | moment (written : String)
  | array (items : List Value)
  | table (origin : Origin) (entries : List (String × Value))
  /-- The tables that headers in double brackets opened. -/
  | tables (each : List (List (String × Value)))

/-- The entries of a table, each key once. -/
abbrev Entries := List (String × Value)

/-- Replaces the value of a key that is present. -/
def Entries.replace (key : String) (value : Value) : Entries → Entries
  | [] => []
  | (k, v) :: r => if k = key then (k, value) :: r else (k, v) :: replace key value r

end Dashboard.Toml
