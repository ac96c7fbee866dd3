import Dashboard.Text.Natural

/-!
# Dates

A moment is a number of seconds since the start of 1970. Its date is that of
the Gregorian calendar extended to all years, with a year zero. A year from
0 to 9999 is written with four digits, a later one with a plus sign before
it, an earlier one with a minus sign and at least four digits.

The calendar repeats every 146097 days. Within such an era the years are
counted from the first of March, so that the day that a leap year adds comes
last.
-/

namespace Dashboard.Calendar

/-- A day of the calendar. -/
structure Date where
  year : Int
  month : Nat
  day : Nat
deriving DecidableEq, Repr

/-- The date of a day, counted from the start of 1970. -/
def dateOfDay (days : Int) : Date :=
  let shifted := days + 719468
  let era := shifted.fdiv 146097
  let dayOfEra := (shifted.fmod 146097).toNat
  let yearOfEra := (dayOfEra - dayOfEra / 1460 + dayOfEra / 36524 - dayOfEra / 146096) / 365
  let dayOfYear := dayOfEra - (365 * yearOfEra + yearOfEra / 4 - yearOfEra / 100)
  let monthFromMarch := (5 * dayOfYear + 2) / 153
  let month := if monthFromMarch < 10 then monthFromMarch + 3 else monthFromMarch - 9
  { year := yearOfEra + era * 400 + (if month ≤ 2 then 1 else 0)
    month := month
    day := dayOfYear - (153 * monthFromMarch + 2) / 5 + 1 }

/-- A number with at least `width` digits. -/
def padded (width n : Nat) : String :=
  let digits := Text.decimal n
  String.ofList (List.replicate (width - digits.length) '0' ++ digits)

/-- The text of a year. -/
def yearText (year : Int) : String :=
  match year with
  | .ofNat y => if y ≤ 9999 then padded 4 y else "+" ++ padded 4 y
  | .negSucc y => "-" ++ padded 4 (y + 1)

/-- The time of day of a moment. -/
def timeText (moment : Int) : String :=
  let second := (moment.fmod 86400).toNat
  padded 2 (second / 3600) ++ ":" ++ padded 2 (second / 60 % 60) ++ ":" ++ padded 2 (second % 60)

/-- The date and the time of a moment. -/
def momentText (moment : Int) : String :=
  let date := dateOfDay (moment.fdiv 86400)
  yearText date.year ++ "-" ++ padded 2 date.month ++ "-" ++ padded 2 date.day ++ " " ++
    timeText moment

end Dashboard.Calendar
