import Dashboard.Text.Natural

/-!
# Dates and times in a settings document

A date is written year, month, day and a time hour, minute, second, with any
number of places after the second. A date may stand alone, a time may stand
alone, and both together may have an offset from universal time. Only days
that exist are dates.
-/

namespace Dashboard.Toml.Moment

/-- Reads a number of exactly `count` digits. -/
def digits (count value : Nat) (s : List Char) : Option (Nat × List Char) :=
  match count, s with
  | 0, s => some (value, s)
  | _ + 1, [] => none
  | count + 1, c :: r => (Text.digit? c).bind fun d => digits count (value * 10 + d) r

/-- Reads two digits whose value is in a range. -/
def twoDigits (least most : Nat) (s : List Char) : Option (Nat × List Char) :=
  (digits 2 0 s).filter fun (n, _) => least ≤ n && n ≤ most

/-- Leaves out a character that has to stand at the front. -/
def skip (c : Char) : List Char → Option (List Char)
  | d :: r => if d == c then some r else none
  | [] => none

/-- How many days a month has. -/
def daysIn (year month : Nat) : Nat :=
  if month == 2 then
    if year % 4 == 0 && (year % 100 != 0 || year % 400 == 0) then 29 else 28
  else if month == 4 || month == 6 || month == 9 || month == 11 then 30
  else 31

/-- The rest after a date. -/
def afterDate (s : List Char) : Option (List Char) := do
  let (year, s) ← digits 4 0 s
  let (month, s) ← twoDigits 1 12 (← skip '-' s)
  let (_, s) ← twoDigits 1 (daysIn year month) (← skip '-' s)
  return s

/-- The rest after the places of a second, if there are any. -/
def afterPlaces : List Char → Option (List Char)
  | '.' :: c :: r =>
    if c.isDigit then some (r.dropWhile Char.isDigit) else none
  | ['.'] => none
  | s => some s

/-- The rest after a time. -/
def afterTime (s : List Char) : Option (List Char) := do
  let (_, s) ← twoDigits 0 23 s
  let (_, s) ← twoDigits 0 59 (← skip ':' s)
  let (_, s) ← twoDigits 0 60 (← skip ':' s)
  afterPlaces s

/-- Whether a text is an offset, or nothing. -/
def isOffset : List Char → Bool
  | [] => true
  | c :: r =>
    if c == 'Z' || c == 'z' then r.isEmpty
    else if c == '+' || c == '-' then
      let rest := do
        let (_, s) ← twoDigits 0 23 r
        let (_, s) ← twoDigits 0 59 (← skip ':' s)
        return s
      rest == some []
    else false

/-- Whether a text is a time. -/
def isTime (s : List Char) : Bool := afterTime s == some []

/-- Whether a text is a date. -/
def isDate (s : List Char) : Bool := afterDate s == some []

/-- Whether a text is a time that may have an offset. -/
def isOffsetTime (s : List Char) : Bool := ((afterTime s).map isOffset).getD false

/-- Whether a text is a date, a time, or a date and a time with a letter
between them. -/
def isMoment (s : List Char) : Bool :=
  isTime s ||
    match afterDate s with
    | some [] => true
    | some (c :: r) => (c == 'T' || c == 't') && isOffsetTime r
    | none => false

end Dashboard.Toml.Moment
