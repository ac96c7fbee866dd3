import Dashboard.Text.Table

/-!
# Weights of marks

Every mark that attaches itself to a character has a weight, the canonical
combining class. Marks of different weights do not get in each other's way,
so their order does not matter. All other characters weigh nothing.
-/

namespace Dashboard.Text.Composition

/-- The weights: after the length of each stretch there is a colon and the
weight. -/
def weightText : String :=
  "
  768:0 21:230 1:232 4:220 1:232 1:216 5:220 2:202 4:220 2:202 11:220 5:1 4:220 3:230 2:0 1:230
  2:0 1:240 1:230 3:220 3:230 2:220 1:0 3:230 4:220 1:230 1:232 2:220 1:230 1:233 2:234 1:233
  2:234 1:233 13:230 275:0 5:230 265:0 1:220 4:230 1:220 3:230 1:222 1:220 6:230 6:220 2:230
  1:220 2:230 1:222 1:228 1:230 1:10 1:11 1:12 1:13 1:14 1:15 1:16 1:17 1:18 2:19 1:20 1:21 1:22
  1:0 1:23 1:0 1:24 1:25 1:0 1:230 1:220 1:0 1:18 72:0 8:230 1:30 1:31 1:32 48:0 1:27 1:28 1:29
  1:30 1:31 1:32 1:33 1:34 2:230 2:220 5:230 1:220 2:230 1:220 16:0 1:35 101:0 7:230 2:0 4:230
  1:220 1:230 2:0 2:230 1:0 1:220 2:230 1:220 35:0 1:36 30:0 1:230 1:220 2:230 1:220 2:230 3:220
  1:230 2:220 1:230 1:220 3:230 1:220 1:230 1:220 1:230 1:220 1:230 1:220 2:230 160:0 7:230
  1:220 1:230 9:0 1:220 24:0 4:230 1:0 9:230 1:0 3:230 1:0 5:230 43:0 3:220 59:0 2:230 3:220
  4:230 42:0 5:230 5:220 14:230 1:0 1:220 2:230 1:220 2:230 1:220 3:230 3:220 1:27 1:28 1:29
  3:230 1:220 2:230 2:220 5:230 60:0 1:7 16:0 1:9 3:0 1:230 1:220 2:230 103:0 1:7 16:0 1:9 48:0
  1:230 61:0 1:7 16:0 1:9 110:0 1:7 16:0 1:9 110:0 1:7 16:0 1:9 127:0 1:9 110:0 1:7 16:0 1:9 7:0
  1:84 1:91 101:0 1:7 16:0 1:9 109:0 2:9 16:0 1:9 124:0 1:9 109:0 2:103 1:9 13:0 4:107 108:0
  2:118 1:9 13:0 4:122 76:0 2:220 27:0 1:220 1:0 1:220 1:0 1:216 55:0 1:129 1:130 1:0 1:132 5:0
  4:130 2:0 1:130 1:0 2:230 1:9 1:0 2:230 62:0 1:220 112:0 1:7 1:0 2:9 82:0 1:220 719:0 3:230
  948:0 2:9 30:0 1:9 157:0 1:9 10:0 1:230 203:0 1:228 143:0 1:222 1:230 1:220 219:0 1:230 1:220
  71:0 1:9 20:0 8:230 2:0 1:220 48:0 5:230 6:220 2:230 1:220 1:0 2:220 2:230 2:220 5:230 1:220
  18:230 1:220 2:0 6:230 1:220 4:230 1:234 72:0 1:7 15:0 1:9 38:0 1:230 1:220 7:230 54:0 2:9
  58:0 1:7 11:0 2:9 67:0 1:7 152:0 3:230 1:0 1:1 5:220 2:230 4:220 1:230 1:0 7:1 4:0 1:220 6:0
  1:230 3:0 2:230 198:0 2:230 1:220 7:230 1:220 2:230 1:234 1:214 1:220 1:202 37:230 1:232 2:228
  1:220 1:218 1:230 1:233 1:220 1:230 1:220 720:0 2:230 2:1 4:230 3:1 2:230 4:0 1:230 3:0 2:1
  1:230 1:220 1:230 2:1 4:220 1:230 3070:0 3:230 141:0 1:9 96:0 32:230 554:0 1:218 1:228 1:232
  1:222 2:224 105:0 2:8 30164:0 1:230 4:0 10:230 32:0 2:230 80:0 2:230 276:0 1:9 37:0 1:9 151:0
  1:9 27:0 18:230 57:0 3:220 37:0 1:9 95:0 1:7 12:0 1:9 239:0 1:230 1:0 2:230 1:220 2:0 2:230
  5:0 2:230 1:0 1:230 52:0 1:9 246:0 1:9 20272:0 1:26 769:0 7:230 7:220 2:230 973:0 1:220 226:0
  1:220 149:0 5:230 1682:0 1:220 1:0 1:230 40:0 1:230 1:1 1:220 4:0 1:9 165:0 1:230 1:220 573:0
  4:230 65:0 5:230 317:0 2:230 77:0 2:220 1:0 3:220 70:0 2:220 3:230 1:220 1:230 4:220 49:0
  1:230 1:220 1:230 1:220 192:0 1:9 41:0 1:9 14:0 1:9 57:0 1:9 1:7 69:0 3:230 48:0 2:9 62:0 1:7
  76:0 1:9 9:0 1:7 106:0 1:9 1:7 178:0 1:7 1:9 80:0 2:7 16:0 1:9 24:0 7:230 3:0 5:230 89:0 3:9
  113:0 1:9 3:0 1:7 23:0 1:230 99:0 1:9 1:7 251:0 1:9 1:7 126:0 1:9 118:0 1:9 1:7 115:0 1:9
  269:0 1:9 1:7 258:0 2:9 4:0 1:7 156:0 1:9 83:0 1:9 18:0 1:9 81:0 1:9 421:0 1:9 258:0 1:7 1:0
  2:9 81:0 1:9 425:0 2:9 16876:0 1:9 2496:0 5:1 59:0 7:230 1209:0 2:6 19628:0 1:1 5318:0 2:216
  3:1 3:0 1:226 5:216 8:0 8:220 2:0 5:230 2:220 30:0 4:230 148:0 3:230 3515:0 7:230 1:0 17:230
  2:0 7:230 1:0 2:230 1:0 5:230 100:0 1:230 160:0 7:230 375:0 1:230 61:0 4:230 508:0 2:232 1:220
  1:230 254:0 1:230 1:220 243:0 1:230 2:0 1:230 7:0 2:230 5:0 1:230 474:0 7:220 109:0 6:230 1:7
  "

/-- The table of the weights. -/
def weightTable : Table Nat := .read (fun s => (numeral? 10 (s.drop 1)).getD 0) weightText

/-- The weight of a character. -/
def weight (c : Char) : Nat :=
  if c.toNat < 0x300 then 0 else (weightTable.find? c).getD 0

end Dashboard.Text.Composition
