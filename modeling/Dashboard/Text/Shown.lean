import Dashboard.Text.Table

/-!
# Characters with a shape of their own

A text that is quoted in a message shows a character as it is only if it has
a shape of its own. Controls, format characters, unassigned and private
ones have none, nor has any space but the common one; and a mark that
attaches itself to the character before it would change that one.
-/

namespace Dashboard.Text

/-- Which characters are shown: `y` for one that is, `n` for one that is not. -/
def shownText : String :=
  "
  32n 95y 34n 12y n 594y 112n 8y 2n 6y 4n 7y n y n 20y n 224y 7n 166y n 38y 2n 50y 2n 3y 46n y n
  y 2n y 2n y 9n 27y 4n 6y 17n 10y 11n y n 46y 21n 16y n 101y 8n y 6n 2y 2n y 4n 32y 2n y n 30y
  29n 89y 11n y 14n 43y 9n 7y 3n 24y 4n y 9n y 3n y 7n 15y n 25y 5n y n 11y 5n 32y 16n 42y 57n
  55y n y n 4y 8n 4y n 3y 7n 10y 2n 29y n 2y n 8y 2n 2y 2n 22y n 7y n y 3n 4y 3n y n 2y 6n 2y 2n
  2y n y 13n 2y n 3y 4n 24y 5n y n 6y 4n 2y 2n 22y n 7y n 2y n 2y n 2y 4n 3y 24n 4y n y 7n 10y
  2n 3y n y 12n y n 9y n 3y n 22y n 7y n 2y n 5y 3n 4y 8n y n 2y 3n y 15n 2y 4n 12y 7n y 8n 2y n
  8y 2n 2y 2n 22y n 7y n 2y n 5y 3n y 2n y 6n 2y 2n 2y 15n 2y n 3y 4n 18y 11n y n 6y 3n 3y n 4y
  3n 2y n y n 2y 3n 2y 3n 3y 3n 12y 5n y n 2y 3n 3y n 3y 3n y 21n 21y 6n 3y n 8y n 3y n 23y n
  16y 3n y 3n 4y 19n 3y n 2y 2n 2y 4n 10y 7n 10y n 11y n 3y n 23y n 10y n 5y 3n 2y 2n y n 2y 23n
  3y n 2y 4n 10y n 3y 14n 11y n 3y n 41y 2n y n 2y 5n 3y n 3y n 2y 4n 3y n 10y 4n 26y 2n 2y n
  18y 3n 24y n 9y n y 2n 7y 9n 2y 6n 7y 7n 10y 2n 3y 12n 48y n 2y 11n 8y 8n 13y 37n 2y n y n 5y
  n 24y n y n 10y n 2y 9n y 2n 5y n y 9n 10y 2n 4y 32n 24y 2n 27y n y n y n 14y n 36y 18n y 5n y
  2n 5y 49n 8y n 6y n 13y 37n 45y 4n y 6n y 2n 2y 2n 25y 2n 4y 3n 16y 4n 13y n 2y 2n 6y n 15y n
  40y n y 5n y 2n 377y n 4y 2n 7y n y n 4y 2n 41y n 4y 2n 33y n 4y 2n 7y n y n 4y 2n 15y n 57y n
  4y 2n 67y 5n 29y 3n 26y 6n 86y 2n 6y 2n 640y n 28y 3n 89y 7n 18y 13n 19y 3n 2y 9n 18y 14n 13y
  n 3y 15n 52y 2n y 7n 8y n 2y 11n 9y 3n 10y 6n 10y 6n 11y 5n 10y 6n 89y 7n 5y 2n 34y n y 5n 70y
  10n 31y 4n 4y 2n 3y 4n 2y n 6y 7n y 3n 42y 2n 5y 11n 44y 4n 26y 6n 11y 3n 57y 2n 2y 3n 56y n y
  9n y n 2y 8n 6y 13n 10y 6n 10y 6n 14y 86n 48y 10n 4y 3n 8y n 29y 9n 12y 2n 32y 4n 2y 6n 56y n
  y 2n 3y n y 13n 48y 8n 2y 5n 15y 3n 62y 5n 43y 2n 11y 11n y 13n y 7n 4y n 6y n 3y 2n y 5n 192y
  64n 278y 2n 6y 2n 38y 2n 6y 2n 8y n y n y n y n 31y 2n 53y n 15y n 14y 2n 6y n 19y 2n 3y n 9y
  17n 24y 8n 47y 17n 2y 2n 27y n 13y 3n 34y 62n 140y 4n 666y 22n 11y 21n 1812y 2n 377y 3n 2y 5n
  45y n y 5n y 2n 56y 7n 2y 15n 23y 9n 7y n 7y n 7y n 7y n 7y n 7y n 7y n 7y 33n 94y 34n 26y n
  89y 12n 214y 26n 16y n 41y 6n 16y n 86y 4n 101y 5n 43y n 94y n 86y 9n 48y n 29293y 3n 55y 9n
  348y 20n 47y 4n y 10n 32y 2n 80y 2n 6y 8n 221y 20n 17y n 3y n 4y n 25y 2n 5y 4n 10y 6n 56y 8n
  68y 10n 12y 24n 13y n 38y 8n 25y 11n y 12n 30y 6n 48y n 2y 4n 2y 2n 2y n 13y n 11y 4n 7y n 25y
  n 41y 6n 2y 2n 2y 11n 3y n 8y n y 2n 10y 2n 32y n 51y n y 3n 2y 2n 5y 2n y n y 24n 17y 2n 8y
  11n 6y 2n 6y 2n 6y 9n 7y n 7y n 60y 4n 117y n 2y n 4y 3n 10y 6n 11172y 12n 23y 4n 49y 8452n
  366y 2n 106y 38n 7y 12n 5y 5n y n 24y n 5y n y n 2y n 2y n 650y 32n 16y 16n 10y 22n 35y n 19y
  n 4y 4n 5y n 135y 4n 157y 2n 31y 3n 6y 2n 6y 2n 6y 2n 3y 3n 7y n 7y 13n 2y 2n 12y n 26y n 19y
  n 2y n 15y 2n 14y 34n 123y 5n 3y 4n 45y 3n 88y n 13y 3n y 47n 45y 131n 29y 3n 49y 16n 27y 4n
  36y 9n 30y 5n 38y 10n 30y n 37y 4n 14y 42n 158y 2n 10y 6n 36y 4n 36y 4n 40y 8n 52y 11n 12y n
  15y n 7y n 2y n 11y n 15y n 7y n 2y 3n 52y 12n 311y 9n 22y 10n 8y 24n 6y n 42y n 9y 69n 6y 2n
  y n 44y n 2y 3n y 2n 23y n 72y 8n 9y 48n 19y n 2y 5n 33y 3n 27y 5n 27y 38n 56y 4n 20y 2n 47y
  15n 4y n 3y n 29y 10n 9y 7n 9y 7n 64y 32n 37y 6n 12y 9n 54y 3n 29y 2n 27y 5n 26y 7n 4y 12n 7y
  80n 73y 55n 51y 13n 51y 7n 42y 12n 10y 6n 38y 8n 24y 8n 2y 208n 31y n 42y 3n y 2n 2y 16n 6y 8n
  9y 39n 40y 8n 22y 11n 9y 22n 18y 4n 4y 38n 28y 20n 23y 9n y n 54y 15n 7y 4n 30y n 2y 2n y 12n
  49y 4n 2y 2n 2y n 4y 14n 25y 7n 10y 9n 36y 5n y 9n 18y 8n 35y n 3y 11n 52y 9n y n 8y 4n 2y n
  16y n 20y 11n 18y n 28y 3n 2y 4n 6y n 2y 63n 7y n y n 4y n 15y n 11y 6n 47y n 3y 13n 10y 8n 2y
  n 8y 2n 2y 2n 22y n 7y n 2y n 5y 3n y n y n 4y 2n 2y 2n 2y 3n y 12n 7y 28n 10y n y 2n y n 38y
  n y n 2y 15n y n 2y 3n y n 3y n 2y 39n 56y 8n 2y 3n y n 21y n y n 3y 30n 48y n 2y 6n y n 2y n
  y 2n y 2n 4y 8n 10y 166n 47y n 2y 6n 4y 2n y 2n 27y 36n 51y 8n 2y n y 2n 4y 11n 10y 6n 13y 19n
  43y n y n 2y 8n 2y 6n 10y 6n 20y 28n 27y 3n y n 2y 4n y 9n 23y 185n 47y 9n y 2n y 100n 83y 12n
  8y 2n y 2n 8y n 2y n 24y n 5y n 2y 6n 4y n 3y 9n 10y 70n 8y 2n 42y 8n 4y n 4y 27n y 10n 40y 6n
  2y 4n 8y 9n y 6n 2y 3n 46y 13n y 2n 9y 13n 73y 7n 10y 87n y 3n y n y 88n 34y 14n 10y 6n 9y n
  38y 14n y n 6y 10n 29y 3n 32y 25n y 7n y 2n y 75n 7y n 2y n 38y 21n y 9n 10y 6n 6y n 2y n 37y
  4n 2y n y n y 7n 10y 6n 44y 4n 10y 246n 19y 2n 4y 9n 15y n 36y 8n 2y 3n 23y 86n y 15n 50y 13n
  923y 102n 111y n 5y 11n 196y 2636n 99y 13n 1072y 17n 6y 25n 3995y 5n 583y 6841n 30y 12n 3y 3n
  10y 1734n 569y 7n 31y n 10y 4n 81y n 10y 6n 30y 7n y 10n 48y 7n 15y 10n 10y n 7y n 21y 5n 19y
  432n 58y 198n 91y 5n 25y 2n 25y 44n 75y 5n 56y 11n 13y 64n 4y 14n 5y 9n 7382y 41n 32y 97n 115y
  8701n 4y n 7y n 2y n 291y 15n y 29n 3y 2n y 14n 4y 8n 396y 2308n 107y 5n 13y 3n 9y 7n 10y 2n y
  2n y 3936n 253y 3n 436y 6n 23y 15n 17y 95n 116y 60n 246y 10n 39y 2n 60y 5n 3y 22n 2y 7n 30y 4n
  61y 21n 66y 3n y 122n 20y 12n 20y 12n 87y 9n 25y 135n 85y n 71y n 2y 2n y 2n 2y 2n 4y n 12y n
  y n 7y n 65y n 4y 2n 8y n 7y n 28y n 4y n 5y n y 3n 7y n 340y 2n 292y 2n 562y 55n 4y 50n 8y n
  14y n 7y 1140n 31y 6n 6y 261n 62y 146n 45y 10n 7y 2n 10y 4n 2y 320n 30y 18n 44y 4n 10y 5n y
  464n 28y 4n 10y 214n 30y 2n 11y 4n y 192n 31y n 3y n 2y n 7y 2n 5y 9n 2y 224n 7y n 4y n 2y n
  15y n 197y 2n 9y 48n 68y 7n y 4n 10y 4n 2y 785n 68y 76n 61y 194n 4y n 27y n 2y n y 2n y n 10y
  n 4y n y n y 6n y 4n y n y n y n 3y n 2y n y 2n y n y n y n y n y n 2y n y 2n 4y n 7y n 4y n
  4y n y n 10y n 17y 5n 3y n 5y n 17y 52n 2y 270n 44y 4n 100y 12n 15y 2n 15y n 15y n 37y 10n
  174y 56n 29y 13n 44y 4n 9y 7n 2y 14n 6y 154n 985y 3n 17y 3n 13y 3n 218y 6n 12y 4n y 15n 12y 4n
  56y 8n 10y 6n 40y 8n 30y 2n 12y 4n 2y 14n 9y 39n 344y 8n 14y 2n 13y 3n 11y 3n 57y n y 4n 16y
  2n 12y 4n 10y 7n 147y n 103y 1029n 42720y 32n 4382y 2n 5774y 2n 7473y 15n 622y 2466n 542y
  1506n 4939y 5n 8490y
  "

/-- The table of the characters that are shown. -/
def shownTable : Table Bool := .ofClass shownText

/-- Whether a character has a shape of its own. -/
def isShown (c : Char) : Bool :=
  if c.toNat < 0x7F then 0x20 ≤ c.toNat else shownTable.holds c

end Dashboard.Text
