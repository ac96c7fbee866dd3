import Dashboard.Text.Table

/-!
# Marks

Marks attach themselves to the character before them, so a text should not
begin with one. They are the characters of the categories Mn, Mc and Me.
-/

namespace Dashboard.Text

/-- Which characters are marks: `y` for one that is, `n` for one that is not. -/
def markText : String :=
  "
  768n 112y 275n 7y 263n 45y n y n 2y n 2y n y 72n 11y 48n 21y 16n y 101n 7y 2n 6y 2n 2y n 4y
  35n y 30n 27y 91n 11y 58n 9y 9n y 24n 4y n 9y n 3y n 5y 43n 3y 59n 9y 42n 24y n 33y 54n 3y n
  18y n 7y 10n 2y 29n 3y 56n y n 7y 2n 2y 2n 3y 9n y 10n 2y 26n y 2n 3y 56n y n 5y 4n 2y 2n 3y
  3n y 30n 2y 3n y 11n 3y 56n y n 8y n 3y n 3y 20n 2y 22n 6y n 3y 56n y n 7y 2n 2y 2n 3y 7n 3y
  10n 2y 30n y 59n 5y 3n 3y n 4y 9n y 40n 5y 55n y n 7y n 3y n 4y 7n 2y 11n 2y 29n 3y 56n y n 7y
  n 3y n 4y 7n 2y 11n 2y 15n y 12n 4y 55n 2y n 7y n 3y n 4y 9n y 10n 2y 29n 3y 70n y 4n 6y n y n
  8y 18n 2y 61n y 2n 7y 12n 8y 98n y 2n 9y 11n 7y 73n 2y 27n y n y n y 4n 2y 49n 20y n 2y 5n 11y
  n 36y 9n y 100n 20y 23n 4y 4n 3y n 3y 2n 7y 3n 4y 13n 12y n y 10n 4y 703n 3y 946n 4y 28n 3y
  29n 2y 30n 2y 64n 32y 9n y 45n 3y n y 117n 2y 34n y 118n 12y 4n 12y 219n 5y 57n 10y n 29y 2n y
  48n 46y 2n 12y 20n 5y 47n 17y 38n 9y 12n 3y 30n 13y 56n 14y 48n 20y 152n 3y n 21y 4n y 6n y 2n
  3y 198n 64y 720n 33y 3070n 3y 141n y 96n 32y 554n 6y 105n 2y 30164n 4y n 10y 32n 2y 80n 2y
  272n y 3n y 4n y 23n 5y 4n y 83n 2y 50n 18y 26n 18y 13n y 38n 8y 25n 13y 44n 4y 47n 14y 36n y
  67n 14y 12n y 8n 2y 45n 3y 50n y n 3y 2n 2y 5n 2y n y 41n 5y 5n 2y 236n 8y n 2y 20272n y 737n
  16y 16n 16y 973n y 226n y 149n 5y 1670n 3y n 2y 5n 4y 40n 3y 4n y 165n 2y 573n 4y 65n 5y 317n
  2y 77n 6y 70n 11y 49n 4y 122n 3y 53n 15y 41n y 2n 2y 10n 4y 45n 11y 7n y 61n 3y 36n 14y 16n 2y
  44n y 12n 3y 48n 14y 8n 4y n 2y 92n 12y 6n y 2n y 157n 12y 21n 4y 55n 2y n 7y 2n 2y 2n 3y 9n y
  10n 2y 2n 7y 3n 5y 67n 9y n y 2n y n 4y n 5y n y 14n 2y 82n 18y 23n y 81n 20y 235n 7y 2n 9y
  27n 2y 82n 17y 106n 13y 101n 15y 256n 15y 245n 6y n 2y 2n 4y n y n 2y 141n 7y 2n 7y 3n y 28n
  10y 40n 7y n 4y 8n y 9n 11y 46n 16y 198n 8y 199n 8y n 8y 82n 22y n 14y 122n 6y 3n y n 2y n 7y
  n y 66n 5y n 2y n 5y 347n 4y 9n 2y n y 48n 7y 3n 5y 23n y 5349n y 6n 15y 11464n 18y 2496n 5y
  59n 7y 1048n y n 55y 7n 4y 81n y 11n 2y 19627n 2y 4705n 46y 2n 23y 542n 5y 3n 6y 8n 8y 2n 7y
  30n 4y 148n 3y 1979n 55y 4n 50y 8n y 14n y 22n 5y n 15y 1360n 7y n 17y 2n 7y n 2y n 5y 100n y
  160n 7y 375n y 61n 4y 508n 4y 254n 2y 243n y 2n y 7n 2y 5n y 474n 7y 109n 7y 792501n 240y
  "

/-- The table of marks. -/
def markTable : Table Bool := .ofClass markText

/-- Whether a character is a mark. -/
def isMark (c : Char) : Bool := 0x300 ≤ c.toNat && markTable.holds c

end Dashboard.Text
