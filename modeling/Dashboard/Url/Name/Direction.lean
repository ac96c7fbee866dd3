import Dashboard.Text.Table

/-!
# Directions of writing

A name in which some character is written from right to left is readable only
if each of its parts keeps to one direction: it begins with a letter of that
direction, holds no letter of the other one, and ends in a letter or a
number. A part from right to left does not mix the two kinds of digits.
-/

namespace Dashboard.Url.Name

/-- What a character does to the direction of a text. -/
inductive Direction where
  | leftToRight
  | rightToLeft
  /-- A digit of the Arabic kind. -/
  | arabicDigit
  /-- A digit of the European kind. -/
  | europeanDigit
  /-- A mark, which goes with the character before it. -/
  | mark
  | neutral
deriving DecidableEq, Repr

/-- The directions: `l` and `r` for letters, `a` and `e` for digits, `m` for
marks and `o` for all others. -/
def directionText : String :=
  "
  48o 10e 39o 26l 100o 24l o 449l 2o 7l 14o 2l 28o l 17o 113m 4l 2o 127l 2o 139l 8m 255l 7o 45m
  r m r 2m r 2m r 9m 54r 2o r 2o r o r 2o 11m 48r 21m 10a o 2a 3r m 101r 8m o 6m 2r 2m o 4m 2r
  10e 23r m 30r 29m 89r 11m 58r 9m 2r 4o 3r m 24r 4m r 9m r 3m r 7m 41r 5m 57r 9m 42r 57m 55l m
  l m 4l 8m 4l m 3l 15m 2l 2m 29l m 58l m 4l 6m 6l m 20l 4m 12l 2o 7l o 2l 5m 57l 2m 3l 27m 20l
  2m 3l m 11l 2m 57l m 4l 8m 4l 3m 18l 4m 11l 8o l 8m 58l m 2l m l 6m 6l 10m 11l 4m 28l m 61l m
  12l 3m 35l 13o m 3l m 55l m l 3m 5l 18m 10l 4m 18l 7o 2l m 58l m 15l 9m 13l 4m 26l 2m 57l 2m
  4l 5m 7l m 20l 4m 27l m 72l 5m 3l 6m 89l m 2l 11m o 7l 8m 98l m 2l 9m 11l 8m 72l 2m 27l m l m
  l m 4o 51l 14m l 5m l 2m 5l 49m 8l m 102l 4m l 6m l 2m 2l 2m 25l 2m 4l 3m 16l 4m 13l m 2l 2m
  6l m 15l m 703l 3m 48l 16o 96l o 666l 5o 114l 3m 29l 2m 30l 14m 18l 14m 55l 7m 8l m 2l 11m 7l
  o l 3m 16l 32o 117l 2m 34l m 118l 3m 4l 2m 9l m 6l 7m 6o 152l 34o 23l 2m 2l 3m 56l m l 9m l m
  2l 8m 6l 13m 48l 84m 48l m l 5m l m 5l m 40l 9m 12l 2m 32l 4m 2l 2m l 3m 56l m l 2m 3l m l 3m
  58l 8m 2l 5m 149l 3m l 13m l 7m 4l m 6l m 3l 2m 198l 65m 523l 196o 52m 74o 60l 428o 69l 26o l
  790o l 339o 256l 816o 181l 7o 3l 4m 6l 7o 127l m 96l 32m 517o 3l 25o 9l 4m 2l o 6l 4o 2l 4o
  88l 4m 3l o 90l o 196l 48o 7120l 64o 22160l 64o 317l 3o 95l 4m o 10m 3o 29l 2m 80l 2m 14l 35o
  101l o 121l m 3l m 4l m 25l 2m l 4o 4m 8l 8o 52l 12o 68l 10m 18l 18m 13l m 38l 8m 25l 11m 46l
  3m 48l m 2l 4m 2l 2m 39l m 67l 6m 2l 2m 2l 11m 3l m 8l m 47l m 51l m l 3m 2l 2m 5l 2m l m 42l
  2m 8l 11m 105l 86o 37l m 2l m 4l 3m 20270l 148m 17r 605o 37m 46o 397r 257l o 62l 77o 3l 64o
  45l 131m 96l m 31e 118l 10m 1152l 287r o 225r 15m 40r 8m 165r 6m 78r 7o 484r 12m 16a 41r 5m o
  241r 32a 43r 2m 35r 42o 6m 70r 11m 49r 4m 122r l m 54l 15m 11l 20o 10l m 2l 2m 10l 3m 49l 4m
  2l 2m 7l 14m 48l 3m 36l 5m l 9m 61l m 12l 2m 52l 9m 10l 4m 2l m 95l 3m 2l m l 2m 6l m 2l 63m
  95l m 3l 13m 16l 2m 57l 2m 3l m 37l 26m 59l 7m 12l m l m l m 14l 31m 56l 8m 2l 3m l m 23l m
  84l 6m l m 4l 2m l 2m 238l 6m 4l 2m l 2m 27l 36m 51l 8m 2l m l 2m 31l 32o 43l m l m 2l 6m l m
  101l 3m 2l 4m l 9m 255l 9m l 2m 256l 2m l m 4l m 144l 8m 4l m 32l 6m 2l 2m 40l 6m 2l 4m 8l 9m
  l 6m 2l 3m 46l 13m l 2m 198l m l 3m l m 201l 14m 84l 23m l 7m l 2m l 75m 49l 21m l 9m 64l 3m
  2l m l m 347l 2m 11l 2m 52l 8m 2l m l m 23l 86m 37l 42o 5185l m 6l 25m 11454l 12m 3l 3m 2496l
  5m 59l 7m 1048l m 63l 4m 79l o l 12m 19629l 2m 3937l 768o 80m 535l 3m 17l 8m 2l 7m 30l 4m 59l
  89o 3m 123o 64l 96o 1696l 55m 4l 50m 8l m 14l m 22l 1125m 256l 256m 48l 7m 375l 18m 44l 4m 15l
  465o 28l 4m 254l 2m 243l m 2l m 7l 2m 5l 9m 258l 208r 82m 34r 7m 1445r 608o 29l 3o 61l 57o
  122l 3488o
  "

/-- What an entry of the table says. -/
def Direction.ofMark : List Char → Direction
  | ['r'] => rightToLeft
  | ['a'] => arabicDigit
  | ['e'] => europeanDigit
  | ['m'] => mark
  | ['o'] => neutral
  | _ => leftToRight

/-- The table of directions. -/
def directionTable : Text.Table Direction := .read Direction.ofMark directionText

/-- What a character does to the direction. -/
def direction (c : Char) : Direction := (directionTable.find? c).getD .leftToRight

/-- Whether a text has a character that is written from right to left. -/
def hasRightToLeft (s : List Char) : Bool :=
  s.any fun c => direction c == .rightToLeft || direction c == .arabicDigit

/-- Whether the directions of a part that is not empty fit together. -/
def directionsFit (ds : List Direction) : Bool :=
  let last := (ds.reverse.dropWhile (· == .mark)).head?
  match ds.head? with
  | some .leftToRight =>
    ! ds.contains .rightToLeft && ! ds.contains .arabicDigit &&
      (last == some .leftToRight || last == some .europeanDigit)
  | some .rightToLeft =>
    ! ds.contains .leftToRight && ! (ds.contains .arabicDigit && ds.contains .europeanDigit) &&
      last != some .neutral
  | some _ => false
  | none => true

end Dashboard.Url.Name
