import Dashboard.Json.Number

/-!
# Payload values

A payload is a JSON value. An object keeps its members as they were
written, one key possibly several times; what an object means is a finite
map in which the last member of a key wins. `lookup` reads that map and
`entries` lists it in the order of its keys.
-/

namespace Dashboard

/-- A JSON value. -/
inductive Json where
  | null
  | boolean (b : Bool)
  | number (n : Json.Number)
  | string (s : String)
  | array (items : List Json)
  | object (members : List (String × Json))

namespace Json

/-- The members of an object. -/
abbrev Members := List (String × Json)

/-- The value of a key: that of its last member. -/
def lookup (key : String) : Members → Option Json
  | [] => none
  | (k, v) :: r => (lookup key r).or (if k = key then some v else none)

/-- Of neighbours with one key, the last. -/
def keepLast {α : Type} : List (String × α) → List (String × α)
  | [] => []
  | [m] => [m]
  | m :: n :: r => if m.1 = n.1 then keepLast (n :: r) else m :: keepLast (n :: r)

/-- The keys with their values, each key once, in ascending order. -/
def entries {α : Type} (members : List (String × α)) : List (String × α) :=
  keepLast (members.mergeSort fun a b => decide (a.1 ≤ b.1))

/-- The members of a value that is an object. -/
def members? : Json → Option Members
  | object ms => some ms
  | _ => none

/-- The items of a value that is an array. -/
def items? : Json → Option (List Json)
  | array xs => some xs
  | _ => none

/-- The value of a key, where the value is an object that has it. -/
def get? (key : String) (v : Json) : Option Json := v.members?.bind (lookup key)

/-- The truth value of a value that is one. -/
def boolean? : Json → Option Bool
  | boolean b => some b
  | _ => none

/-- The text of a value that is one. -/
def string? : Json → Option String
  | string s => some s
  | _ => none

/-- The number of a value that is one. -/
def number? : Json → Option Number
  | number n => some n
  | _ => none

/-- The words that JSON has for the kinds of its values. -/
def kindName : Json → String
  | null => "null"
  | boolean _ => "boolean"
  | number _ => "number"
  | string _ => "string"
  | array _ => "array"
  | object _ => "object"

end Json

end Dashboard
