import Dashboard.Display
import Dashboard.Panel.Line

/-!
# Colours on the screen

A piece of text has a style, which may leave the colours as they are. The
tone of a line determines its style.
-/

namespace Dashboard.Screen

/-- The colours that are used. -/
inductive Color where
  | reset
  | black
  | red
  | green
  | yellow
  | cyan
  | darkGray
  | white
deriving DecidableEq, Repr

/-- How a piece of text is drawn. -/
structure Style where
  /-- The colour of the text, if it is set. -/
  foreground : Option Color := none
  /-- The colour behind the text, if it is set. -/
  background : Option Color := none
  bold : Bool := false
deriving DecidableEq, Repr

/-- The style that sets nothing. -/
def Style.plain : Style := {}

/-- The style that sets the colour of the text. -/
def Style.colored (c : Color) : Style := { foreground := some c }

/-- The style of a label: black and bold on a colour. -/
def Style.badge (c : Color) : Style := ⟨some .black, some c, true⟩

/-- A piece of text in one style. -/
structure Span where
  text : String
  style : Style
deriving DecidableEq, Repr

/-- The style of a tone. -/
def toneStyle : Tone → Style
  | .plain => .colored .white
  | .muted => .colored .darkGray
  | .good => .colored .green
  | .warn => .colored .yellow
  | .bad => .colored .red
  | .strong => { foreground := some .cyan, bold := true }

/-- The colour of a gauge's text, which is dimmed where there is no reading. -/
def gaugeColor (text : String) : Color :=
  if text = Display.unavailable then .darkGray else .cyan

end Dashboard.Screen
