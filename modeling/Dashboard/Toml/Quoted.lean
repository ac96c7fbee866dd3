import Dashboard.Text.Percent

/-!
# Quoted text in a settings document

There are four forms. Double quotes hold escapes and single quotes hold
everything as it stands; three quotes instead of one let the text run over
several lines. In the long forms a line break right after the opening quotes
is not part of the text, up to two quotes may stand before the closing ones,
and a backslash at the end of a line leaves out the white space that
follows.

Writing picks the plainest form that can hold the text. Whatever form is
picked, reading gives the text back.
-/

namespace Dashboard.Toml.Quoted

/-- A tab, or a character that is no ASCII control character. -/
def isPrintable (c : Char) : Bool := c == '\t' || (0x20 ≤ c.toNat && c.toNat != 0x7F)

/-! ## Reading -/

/-- Where the reader stands in a text with escapes. -/
inductive Mode where
  /-- Among ordinary characters. -/
  | plain
  /-- After a backslash. -/
  | escape
  /-- Inside an escape by number: the digits still to come, and the value of
  those before. -/
  | code (left : Nat) (value : Nat)
  /-- In the white space after a backslash that ends a line. -/
  | fold
deriving DecidableEq

/-- What a letter after a backslash stands for. -/
inductive Escape where
  /-- A character. -/
  | char (c : Char)
  /-- As many digits of its code point. -/
  | code (digits : Nat)

/-- The escape of a letter. -/
def escape? (c : Char) : Option Escape :=
  if c == 'b' then some (.char '\x08')
  else if c == 't' then some (.char '\t')
  else if c == 'n' then some (.char '\n')
  else if c == 'f' then some (.char '\x0c')
  else if c == 'r' then some (.char '\r')
  else if c == '\x22' then some (.char '\x22')
  else if c == '\\' then some (.char '\\')
  else if c == 'u' then some (.code 4)
  else if c == 'U' then some (.code 8)
  else none

/-- The character of a code point. -/
def ofCode? (n : Nat) : Option Char := if n.isValidChar then some (Char.ofNat n) else none

/-- Puts a character in front of what was read. -/
def push (c : Char) (read : Option (List Char × List Char)) : Option (List Char × List Char) :=
  read.map fun (text, rest) => (c :: text, rest)

/-- A text in double quotes after the opening one: the text and the rest. -/
def basic (mode : Mode) : List Char → Option (List Char × List Char)
  | [] => none
  | c :: r =>
    match mode with
    | .escape =>
      match escape? c with
      | some (.char d) => push d (basic .plain r)
      | some (.code n) => basic (.code n 0) r
      | none => none
    | .code left value =>
      match Text.hexValue? c with
      | none => none
      | some d =>
        if 1 < left then basic (.code (left - 1) (value * 16 + d)) r
        else
          match ofCode? (value * 16 + d) with
          | some c => push c (basic .plain r)
          | none => none
    | _ =>
      if c == '\x22' then some ([], r)
      else if c == '\\' then basic .escape r
      else if isPrintable c then push c (basic .plain r)
      else none

/-- A text in single quotes after the opening one. -/
def literal : List Char → Option (List Char × List Char)
  | [] => none
  | c :: r =>
    if c == '\x27' then some ([], r)
    else if isPrintable c then push c (literal r)
    else none

/-- Where three quotes stand, the quotes of the text that come before the
closing ones, at most two, and what comes after them. -/
def closing? (quote : Char) : List Char → Option (List Char × List Char)
  | a :: b :: c :: r =>
    if a == quote && b == quote && c == quote then
      let extra := (r.take 2).takeWhile (· == quote)
      some (extra, r.drop extra.length)
    else none
  | _ => none

/-- White space within a line. -/
def isGap (c : Char) : Bool := c == ' ' || c == '\t'

/-- Whether a line break stands at the front. -/
def startsLine : List Char → Bool
  | '\n' :: _ => true
  | '\r' :: '\n' :: _ => true
  | _ => false

/-- What comes after a line break at the front, if there is one. -/
def dropLineBreak : List Char → List Char
  | '\n' :: r => r
  | '\r' :: '\n' :: r => r
  | s => s

/-- A text in three double quotes after the opening ones. -/
def longBasic (mode : Mode) : List Char → Option (List Char × List Char)
  | [] => none
  | c :: r =>
    if mode == .escape then
      match escape? c with
      | some (.char d) => push d (longBasic .plain r)
      | some (.code n) => longBasic (.code n 0) r
      | none => none
    else
      match mode with
      | .code left value =>
        match Text.hexValue? c with
        | none => none
        | some d =>
          if 1 < left then longBasic (.code (left - 1) (value * 16 + d)) r
          else
            match ofCode? (value * 16 + d) with
            | some c => push c (longBasic .plain r)
            | none => none
      | mode =>
        if c == '\r' then if startsLine r then longBasic mode r else none
        else if mode == .fold && (isGap c || c == '\n') then longBasic .fold r
        else if c == '\x22' then
          match closing? '\x22' (c :: r) with
          | some found => some found
          | none => push c (longBasic .plain r)
        else if c == '\\' then
          if startsLine (r.dropWhile isGap) then longBasic .fold r else longBasic .escape r
        else if c == '\n' || isPrintable c then push c (longBasic .plain r)
        else none

/-- A text in three single quotes after the opening ones. -/
def longLiteral : List Char → Option (List Char × List Char)
  | [] => none
  | c :: r =>
    if c == '\r' then if startsLine r then longLiteral r else none
    else if c == '\x27' then
      match closing? '\x27' (c :: r) with
      | some found => some found
      | none => push c (longLiteral r)
    else if c == '\n' || isPrintable c then push c (longLiteral r)
    else none

/-- A text in one pair of quotes. -/
def short : List Char → Option (List Char × List Char)
  | '\x22' :: r => basic .plain r
  | '\x27' :: r => literal r
  | _ => none

/-- A text in any of the four forms. -/
def read : List Char → Option (List Char × List Char)
  | '\x22' :: '\x22' :: '\x22' :: r => longBasic .plain (dropLineBreak r)
  | '\x27' :: '\x27' :: '\x27' :: r => longLiteral (dropLineBreak r)
  | s => short s

/-! ## Writing -/

/-- Whether a character can only be written as an escape. -/
def isControl (c : Char) : Bool := !isPrintable c && c != '\n'

/-- The length of the longest run of a character; `run` are the ones just
before. -/
def longestRun (q : Char) (run : Nat) : List Char → Nat
  | [] => run
  | c :: r => if c == q then longestRun q (run + 1) r else max run (longestRun q 0 r)

/-- A character between double quotes. -/
def escaped (c : Char) : List Char :=
  if c == '\x08' then ['\\', 'b']
  else if c == '\t' then ['\\', 't']
  else if c == '\n' then ['\\', 'n']
  else if c == '\x0c' then ['\\', 'f']
  else if c == '\r' then ['\\', 'r']
  else if c == '\x22' then ['\\', '\x22']
  else if c == '\\' then ['\\', '\\']
  else if isControl c then
    ['\\', 'u', '0', '0', Text.hexDigit (c.toNat / 16), Text.hexDigit (c.toNat % 16)]
  else [c]

/-- The characters between three double quotes: a line break stands for
itself, and so does a quote unless two stand right before it; `run` are the
quotes just before. -/
def longEscaped (run : Nat) : List Char → List Char
  | [] => []
  | c :: r =>
    if c == '\x22' then
      if run < 2 then c :: longEscaped (run + 1) r else '\\' :: c :: longEscaped 0 r
    else if c == '\n' then c :: longEscaped 0 r
    else escaped c ++ longEscaped 0 r

/-- The forms in which a text can be written. -/
inductive Form where
  | basic
  | literal
  | longBasic
  | longLiteral
deriving DecidableEq, Repr

/-- The plainest form that can hold a text. -/
def form (s : List Char) : Form :=
  let control := s.any isControl
  let backslash := s.contains '\\'
  let lines := s.contains '\n'
  let double := longestRun '\x22' 0 s
  let single := longestRun '\x27' 0 s
  if !control && !backslash && !lines && double == 0 then .basic
  else if !control && !lines && single == 0 then .literal
  else if !control && !backslash && double ≤ 2 then .longBasic
  else if !control && single ≤ 2 then .longLiteral
  else if lines then .longBasic
  else .basic

/-- Three times the same quote. -/
def triple (q : Char) : List Char := [q, q, q]

/-- The line break after opening quotes, for a text of several lines. -/
def openingBreak (s : List Char) : List Char := if s.contains '\n' then ['\n'] else []

/-- A text in its plainest form. -/
def write (s : List Char) : List Char :=
  match form s with
  | .basic => '\x22' :: s.flatMap escaped ++ ['\x22']
  | .literal => '\x27' :: s ++ ['\x27']
  | .longBasic => triple '\x22' ++ openingBreak s ++ longEscaped 0 s ++ triple '\x22'
  | .longLiteral => triple '\x27' ++ openingBreak s ++ s ++ triple '\x27'

end Dashboard.Toml.Quoted
