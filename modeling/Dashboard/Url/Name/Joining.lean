import Dashboard.Text.Composition.Weight
import Dashboard.Text.Table

/-!
# Joined letters

In some scripts the shape of a letter depends on the letters next to it, with
which it is joined. Two characters without a shape of their own force or
prevent that. They may stand in a name only where they make a difference:
after the mark that joins consonants, and the one that prevents a joint also
between two letters that would otherwise be joined.
-/

namespace Dashboard.Url.Name

/-- How a character takes part in joints. -/
inductive Joining where
  /-- With what comes before it. -/
  | before
  /-- With what comes after it. -/
  | after
  | both
  /-- Not at all, and joints go through it. -/
  | through
  | never
deriving DecidableEq, Repr

/-- How characters take part: `r` for with what comes before, `l` for with
what comes after, `d` for both, `t` for going through, and `n` for never. -/
def joiningText : String :=
  "
  768n 113t 274n 8t 262n 45t n t n 2t n 2t n 9t 64n 11t 5n d n 4r d r d r 5d 4r 13d n 7d r 2d
  21t 14n 2d t 3r 5n 15d 18r 38d r 2d 9r d r d r 2d 2r n r 8t n 6t 2n 2t n 4t 2r 10n 3d 2n d 16n
  r t 3d 5r 4d r 9d r d r d r 2d r 29t r 11d 3r 15d 2r 4d r d 2r 3d 2r 6d 38n 11t 25n 33d 9t 9n
  t 24n 4t n 9t n 3t n 7t 16n r 5d 2r d r 10d r d 3r 5t 2n d n 4d n r d 26r 3n d 2n 5d r 8d 9t
  10d 3r n r 2d 2r 6d r 15d n 57t 55n t n t 4n 8t 4n t 3n 15t 2n 2t 29n t 58n t 4n 6t 6n t 20n
  4t 24n 5t 57n 2t 3n 27t 20n 2t 3n t 11n 2t 57n t 4n 8t 4n 3t 18n 4t 20n 8t 58n t 2n t n 6t 6n
  10t 11n 4t 28n t 61n t 12n 3t 48n t 3n t 55n t n 3t 5n 18t 10n 4t 27n t 58n t 2n t 6n t 5n 9t
  13n 4t 26n 2t 57n 2t 4n 5t 7n t 20n 4t 27n t 72n 5t 3n 6t 89n t 2n 11t 8n 8t 98n t 2n 9t 11n
  8t 72n 2t 27n t n t n t 55n 14t n 5t n 2t 5n 49t 8n t 102n 4t n 6t n 2t 2n 2t 25n 2t 4n 3t 16n
  4t 13n t 2n 2t 6n t 15n t 703n 3t 946n 3t 29n 2t 30n 14t 18n 14t 55n 7t 8n t 2n 11t 9n 3t 39n
  d 24n 96d 5n 2t 34d t 6d 112n 3t 4n 2t 9n t 6n 7t 215n 2t 2n 3t 56n t n 9t n t 2n 8t 6n 13t
  48n 84t 48n t n 5t n t 5n t 40n 9t 12n 2t 32n 4t 2n 2t n 3t 56n t n 2t 3n t n 3t 58n 8t 2n 5t
  149n 3t n 13t n 7t 4n t 6n t 3n 2t 198n 65t 719n 52t 3051n 4t 140n t 96n 32t 554n 4t 107n 4t
  30162n 4t n 10t 32n 2t 80n 2t 272n t 3n t 4n t 25n 2t 5n 4t 16n 50d l 81n 10t 18n 18t 13n t
  38n 8t 25n 11t 46n 3t 48n t 2n 4t 2n 2t 39n t 67n 6t 2n 2t 2n 11t 3n t 8n t 47n t 51n t n 3t
  2n 2t 5n 2t n t 42n 2t 8n 11t 228n t 2n t 4n 3t 20270n 148t 622n 37t 952n 131t 96n t 149n 10t
  1665n 15t 40n 8t 128n 5d r n r n 2r 2n l 5r 4d l 5d r 3d r 2n r 6t 4d r 144n d r d 3r 3d r 2d
  r d 2r d 8r 16n 4r 2d 337n l 33d r d 12t 57n 5t 317n 2t 21n r 2d n 10d 42n 6t 48n 3d r 17d n
  11t 3d r 27n 4d 2r 12d 4t 42n d n 2d 3r n d 2r 2d r 2d n d 2r d 4n r d 21l 33n t 54n 15t 41n t
  2n 2t 10n 3t 49n 4t 2n 2t 7n 14t 48n 3t 36n 5t n 9t 61n t 12n 2t 52n 9t 10n 4t 2n t 95n 3t 2n
  t n 2t 6n t 2n 63t 95n t 3n 13t 16n 2t 57n 2t 3n t 37n 26t 59n 7t 12n t n t n t 14n 31t 56n 8t
  2n 3t n t 23n t 84n 6t n t 4n 2t n 2t 238n 6t 4n 2t n 2t 27n 36t 51n 8t 2n t n 2t 106n t n t
  2n 6t n t 101n t n t 2n 4t n 9t 255n 9t n 2t 256n 2t n t 4n t 144n 8t 4n t 32n 10t 40n 6t 2n
  4t 8n 9t n 6t 2n 3t 46n 13t n 2t 198n t n 3t n t 201n 14t n t 82n 23t n 7t n 2t n 75t 49n 21t
  n 9t 64n 3t 2n t n t 347n 2t 11n 2t 52n 8t 2n t n t 23n 86t 5264n t 6n 25t 11454n 12t 3n 3t
  2496n 5t 59n 7t 1048n t 63n 4t 81n 12t 19629n 2t 4705n 80t 535n 3t 17n 8t 2n 7t 30n 4t 148n 3t
  1979n 55t 4n 50t 8n t 14n t 22n 1125t 256n 256t 48n 7t 375n 18t 44n 4t 508n 4t 254n 2t 243n t
  2n t 7n 2t 5n 9t 466n 82t 34d 12t
  "

/-- What an entry of the table says. -/
def Joining.ofMark : List Char → Joining
  | ['r'] => before
  | ['l'] => after
  | ['d'] => both
  | ['t'] => through
  | _ => never

/-- The table of joints. -/
def joiningTable : Text.Table Joining := .read Joining.ofMark joiningText

/-- How a character takes part in joints. -/
def joining (c : Char) : Joining := (joiningTable.find? c).getD .never

/-- The first character of a text that joints do not go through. -/
def firstJoining (s : List Char) : Joining :=
  match s.dropWhile fun c => joining c == .through with
  | [] => .never
  | c :: _ => joining c

/-- The character that forces a joint. -/
def joiner : Char := '\u200D'

/-- The character that prevents a joint. -/
def nonJoiner : Char := '\u200C'

/-- The weight of the marks that join consonants. -/
def consonantJoiner : Nat := 9

/-- Whether the joiners in a text stand where they make a difference, given
what comes before it from the last character back. -/
def joinersFit : List Char → List Char → Bool
  | _, [] => true
  | before, c :: rest =>
    let afterConsonant := (before.head?.map Text.Composition.weight) == some consonantJoiner
    let left := firstJoining before
    let right := firstJoining rest
    let between := (left == .after || left == .both) && (right == .before || right == .both)
    ((c != joiner && c != nonJoiner) || afterConsonant || (c == nonJoiner && between)) &&
      joinersFit (c :: before) rest

end Dashboard.Url.Name
