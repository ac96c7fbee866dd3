import Dashboard.Text.Table

/-!
# Letters and numbers

The characters of any script that words and numbers are made of: those with
the Unicode property Alphabetic and those of the categories Nd, Nl and No.
-/

namespace Dashboard.Text

/-- Which characters are letters or numbers: `y` for one that is, `n` for one
that is not. -/
def letterText : String :=
  "
  48n 10y 7n 26y 6n 26y 47n y 7n 2y n y 3n 2y n 3y n 23y n 31y n 458y 4n 12y 14n 5y 7n y n y 86n
  y 29n 18y n 2y 2n 4y n y 6n y n 3y n y n 20y n 83y n 139y 8n 166y n 38y 2n y 6n 41y 39n 14y n
  y n 2y n 2y n y 8n 27y 4n 4y 29n 11y 5n 56y n 17y 4n 102y n 8y 4n 8y 4n 16y 2n y 16n 48y 13n
  101y 14n 43y 9n 2y 4n y 5n 24y 2n 19y 19n 25y 7n 11y 5n 24y n 7y 7n y 8n 42y 10n 12y 3n 7y 6n
  76y n 16y n 3y 4n 15y 2n 10y n 19y n 8y 2n 2y 2n 22y n 7y n y 3n 4y 3n 8y 2n 2y 2n 2y n y 8n y
  4n 2y n 5y 2n 12y 2n 6y 2n y 4n 3y n 6y 4n 2y 2n 22y n 7y n 2y n 2y n 2y 4n 5y 4n 2y 2n 2y 4n
  y 7n 4y n y 7n 16y 11n 3y n 9y n 3y n 22y n 7y n 2y n 5y 3n 9y n 3y n 2y 3n y 15n 4y 2n 10y 9n
  4y 4n 3y n 8y 2n 2y 2n 22y n 7y n 2y n 5y 3n 8y 2n 2y 2n 2y 9n 2y 4n 2y n 5y 2n 10y n 7y 10n
  2y n 6y 3n 3y n 4y 3n 2y n y n 2y 3n 2y 3n 3y 3n 12y 4n 5y 3n 3y n 3y 3n y 6n y 14n 13y 13n
  13y n 3y n 23y n 16y 3n 8y n 3y n 3y 8n 2y n 3y n 2y 2n 4y 2n 10y 8n 7y n 4y n 8y n 3y n 23y n
  10y n 5y 3n 8y n 3y n 3y 8n 2y 5n 3y n 4y 2n 10y n 3y 12n 13y n 3y n 41y 2n 8y n 3y n 3y n y
  5n 16y 2n 19y n 6y n 3y n 18y 3n 24y n 9y n y 2n 7y 8n 6y n y n 8y 6n 10y 2n 2y 13n 58y 5n 7y
  6n y 2n 10y 39n 2y n y n 5y n 24y n y n 19y n 3y 2n 5y n y 6n y 2n 10y 2n 4y 32n y 31n 20y 12n
  8y n 36y 4n 19y 4n 16y n 36y 67n 55y n y 2n 15y 6n 78y 2n 38y n y 5n y 2n 43y n 333y n 4y 2n
  7y n y n 4y 2n 41y n 4y 2n 33y n 4y 2n 7y n y n 4y 2n 15y n 57y n 4y 2n 67y 14n 20y 3n 16y 16n
  86y 2n 6y 3n 620y 2n 17y n 26y 5n 75y 3n 11y 7n 20y 11n 21y 12n 20y 12n 13y n 3y n 2y 12n 52y
  2n 19y 14n y 4n y 3n 10y 6n 10y 22n 10y 6n 89y 7n 43y 5n 70y 10n 31y n 12y 4n 9y 13n 40y 2n 5y
  11n 44y 4n 26y 6n 11y 37n 28y 4n 63y 2n 20y 11n 10y 6n 10y 13n y 23n 2y 11n 3y 49n 52y n 15y n
  8y 3n 10y 38n 42y 2n 58y n 11y 14n 55y 9n 10y 3n 49y 2n 11y 5n 43y 2n 3y 41n 4y n 6y n 2y 3n y
  5n 192y 19n 34y 11n 278y 2n 6y 2n 38y 2n 6y 2n 8y n y n y n y n 31y 2n 53y n 7y n y 3n 3y n 7y
  3n 4y 2n 6y 4n 13y 5n 3y n 7y 115n 2y 2n 6y 5n 11y 6n 13y 101n y 4n y 2n 10y n y 3n 5y 6n y n
  y n y n 4y n 11y 2n 4y 5n 5y 4n y n 58y 726n 60y 26n 74y 630n 30y 1132n 229y 6n 4y 3n 2y 9n y
  2n 38y n y 5n y 2n 56y 7n y 16n 23y 9n 7y n 7y n 7y n 7y n 7y n 7y n 7y n 7y n 32y 47n y 469n
  3y 25n 9y 7n 5y 2n 5y 4n 86y 6n 3y n 90y n 4y 5n 43y n 94y 3n 4y 10n 32y 48n 16y 32n 10y 30n
  8y n 15y 32n 10y 39n 15y 320n 6592y 64n 22157y 67n 46y 2n 269y 3n 28y 20n 47y 5n 8y 3n 113y
  39n 9y 2n 103y 2n 82y 20n 21y n 33y 8n 6y 10n 52y 12n 68y n y 10n 10y 24n 6y 3n y n 46y 5n 35y
  13n 29y 3n 51y n 12y 15n 11y 6n 31y n 55y 9n 14y 2n 10y 6n 23y 3n 69y n y n y 24n 3y 2n 16y 2n
  4y 11n 6y 2n 6y 2n 6y 9n 7y n 7y n 43y n 14y 6n 123y 5n 10y 6n 11172y 12n 23y 4n 49y 8452n
  366y 2n 106y 38n 7y 12n 5y 5n 12y n 13y n 5y n y n 2y n 2y n 108y 33n 363y 18n 64y 2n 54y 40n
  12y 116n 5y n 135y 19n 10y 7n 26y 6n 26y 11n 89y 3n 6y 2n 6y 2n 6y 2n 3y 35n 12y n 26y n 19y n
  2y n 15y 2n 14y 34n 123y 12n 45y 12n 57y 17n 2y 244n 29y 3n 49y 16n 27y 4n 36y 9n 30y 5n 43y
  5n 30y 2n 36y 4n 8y n 5y 42n 158y 2n 10y 6n 36y 4n 36y 4n 40y 8n 52y 12n 11y n 15y n 7y n 2y n
  11y n 15y n 7y n 2y 3n 52y 12n 311y 9n 22y 10n 8y 24n 6y n 42y n 9y 69n 6y 2n y n 44y n 2y 3n
  y 2n 23y 2n 31y 2n 38y 8n 9y 48n 19y n 2y 5n 33y 4n 26y 6n 26y 38n 56y 4n 20y 2n 50y n 2y 5n
  8y n 3y n 29y 10n 9y 23n 31y n 32y 32n 8y n 28y 6n 5y 16n 54y 10n 22y 2n 27y 5n 26y 23n 7y 80n
  73y 55n 51y 13n 51y 7n 46y 8n 10y 6n 38y 3n y 5n 23y 218n 31y n 42y n 2y 3n 2y 16n 6y 50n 3y
  3n 40y 8n 22y 11n 4y 27n 18y 46n 28y 20n 23y 9n 70y 12n 30y n 5y 10n 57y 9n y 13n 25y 7n 10y
  6n 51y 3n 10y 4n 4y 8n 35y 3n y 9n 64y n 4y 9n 13y n y 4n 20y 11n 18y n 34y 2n y 6n 4y 62n 7y
  n y n 4y n 15y n 10y 7n 57y 7n 10y 6n 4y n 8y 2n 2y 2n 22y n 7y n 2y n 5y 3n 8y 2n 2y 2n 2y 3n
  y 6n y 5n 7y 28n 10y n y 2n y n 38y n 10y n y 2n y n 4y n 2y 3n y n y 44n 66y n 3y n 4y 5n 10y
  5n 3y 30n 66y 2n 2y n y 8n 10y 166n 54y 2n 7y 25n 6y 34n 63y n y 3n y 11n 10y 38n 54y 2n y 7n
  10y 6n 20y 28n 27y 2n 14y 5n 12y 4n 7y 185n 57y 103n 83y 12n 8y 2n y 2n 8y n 2y n 30y n 2y 2n
  2y 2n 4y 13n 10y 70n 8y 2n 46y 2n 6y n y n 2y 27n 51y 2n 10y 17n 72y 5n y 18n 73y 103n 8y 88n
  33y 15n 10y 6n 9y n 45y n 7y n y 15n 29y 5n 30y 2n 22y n 14y 73n 7y n 2y n 44y 3n y n 2y n 3y
  n y 2n 2y 8n 10y 6n 6y n 2y n 37y n 2y n 4y n y 7n 10y 6n 44y 4n 10y 246n 23y 9n 17y n 41y 3n
  3y 15n 10y 86n y 15n 21y 43n 922y 102n 111y 17n 196y 2636n 97y 15n 1072y 17n 6y 25n 3995y 5n
  583y 6841n 47y n 10y 1734n 569y 7n 31y n 10y 6n 79y n 10y 6n 30y 18n 48y 16n 4y 12n 10y n 7y n
  21y 5n 19y 432n 45y 3n 10y 198n 87y 9n 25y 2n 25y 44n 75y 4n 57y 7n 17y 64n 2y n y 12n 7y 9n
  7382y 41n 32y 97n 115y 8701n 4y n 7y n 2y n 291y 15n y 29n 3y 2n y 14n 4y 8n 396y 2308n 107y
  5n 13y 3n 9y 7n 10y 4n y 4177n 10y 1478n 20y 12n 20y 108n 25y 135n 85y n 71y n 2y 2n y 2n 2y
  2n 4y n 12y n y n 7y n 65y n 4y 2n 8y n 7y n 28y n 4y n 5y n y 3n 7y n 340y 2n 25y n 25y n 31y
  n 25y n 31y n 25y n 31y n 25y n 31y n 25y n 8y 2n 50y 1792n 31y 6n 6y 213n 7y n 17y 2n 7y n 2y
  n 5y 5n 62y 33n y 112n 45y 10n 7y 2n 10y 4n y 321n 30y 18n 44y 4n 10y 470n 28y 4n 10y 214n 30y
  2n 11y 197n 31y n 22y 8n 2y 224n 7y n 4y n 2y n 15y n 197y 2n 9y 48n 68y 3n y 3n y 4n 10y 791n
  59y n 3y n 4y 76n 45y n 15y 194n 4y n 27y n 2y n y 2n y n 10y n 4y n y n y 6n y 4n y n y n y n
  3y n 2y n y 2n y n y n y n y n y n 2y n y 2n 4y n 7y n 4y n 4y n y n 10y n 17y 5n 3y n 5y n
  17y 580n 13y 35n 26y 6n 26y 6n 26y 2662n 10y 1030n 42720y 32n 4382y 2n 5774y 2n 7473y 15n 622y
  2466n 542y 1506n 4939y 5n 8490y
  "

/-- The table of letters and numbers. -/
def letterTable : Table Bool := .ofClass letterText

/-- Whether a character is a letter or a number. -/
def isLetter (c : Char) : Bool :=
  if c.toNat < 0x80 then c.isAlphanum else letterTable.holds c

end Dashboard.Text
