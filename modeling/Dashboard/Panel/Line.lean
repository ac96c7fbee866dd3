/-!
# Lines and panels

What a panel shows is a list of lines, each a text with a tone. A panel
that could not be filled shows the reason instead, as one line of its own.
-/

namespace Dashboard

/-- The emphasis of a line. -/
inductive Tone where
  | plain
  | muted
  | good
  | warn
  | bad
  | strong
deriving DecidableEq, Repr

/-- All tones. -/
def Tone.all : List Tone := [plain, muted, good, warn, bad, strong]

/-- One line of a panel. -/
structure Line where
  text : String
  tone : Tone
deriving DecidableEq, Repr

namespace Line

/-- A line without emphasis. -/
def plain (text : String) : Line := ⟨text, .plain⟩

/-- A line of lesser weight. -/
def muted (text : String) : Line := ⟨text, .muted⟩

end Line

/-- The content of a panel, or why it could not be filled. -/
inductive Panel (α : Type) where
  | ready (content : α)
  | failed (message : String)
deriving DecidableEq

namespace Panel

/-- Whether the panel could not be filled. -/
def isFailed {α : Type} : Panel α → Bool
  | ready _ => false
  | failed _ => true

/-- The lines of a panel, given those of its content. -/
def lines {α : Type} (contentLines : α → List Line) : Panel α → List Line
  | ready a => contentLines a
  | failed message => [⟨message, .bad⟩]

end Panel

end Dashboard
