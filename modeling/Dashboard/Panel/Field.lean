import Dashboard.Json.Value
import Dashboard.Text.Blank

/-!
# Fields of a payload

A payload is read leniently. A text field takes a text as it is, and a
number or a truth value by its text; anything else counts as absent. Where a
field has to say something, a blank text counts as absent too.
-/

namespace Dashboard.Json

/-- The text of a scalar. -/
def scalarText? : Json → Option String
  | string s => some s
  | number n => some n.text
  | boolean b => some (if b then "true" else "false")
  | _ => none

/-- The text of a scalar field, if it is present. -/
def textField? (key : String) (members : Members) : Option String :=
  (lookup key members).bind scalarText?

/-- The text of a scalar field, empty if it is absent. -/
def textField (key : String) (members : Members) : String :=
  (textField? key members).getD ""

/-- The text of a scalar field that is not blank. -/
def spokenField? (key : String) (members : Members) : Option String :=
  (textField? key members).filter fun s => !Text.isBlankText s

/-- The finite number of a number field. -/
def finiteField? (key : String) (members : Members) : Option Double :=
  (((lookup key members).bind number?).map Number.toDouble).filter Double.isFinite

end Dashboard.Json
