/-
# `SoapBindings.Url.Direction` — labels that run one way

Letters run from left to right or from right to left, and digits, marks and signs go along.  A label
that mixes the two would show in another order than it is written in.
-/
import SoapBindings.Text.Marks

namespace SoapBindings.Url

/-- How a character goes along in a line. -/
inductive Direction where
  /-- A letter of a script that runs to the right. -/
  | rightward
  /-- A letter of a script that runs to the left. -/
  | leftward
  /-- A digit that belongs to such a script. -/
  | leftwardDigit
  | digit
  | mark
  | neutral
  deriving DecidableEq, Repr

/-! ## Tables -/

/-- Letters of the scripts that run from right to left, in order. -/
def leftwardRanges : List (Nat × Nat) :=
  [(1470, 1470), (1472, 1472), (1475, 1475), (1478, 1478), (1488, 1514), (1519, 1524), (1544, 1544),
   (1547, 1547), (1549, 1549), (1563, 1563), (1565, 1610), (1645, 1647), (1649, 1652), (1657, 1749),
   (1765, 1766), (1774, 1775), (1786, 1805), (1808, 1808), (1810, 1839), (1869, 1957), (1969, 1969),
   (1984, 2026), (2036, 2037), (2042, 2042), (2046, 2069), (2074, 2074), (2084, 2084), (2088, 2088),
   (2096, 2110), (2112, 2136), (2142, 2142), (2144, 2154), (2160, 2191), (2208, 2249),
   (64434, 64450), (65139, 65139), (67584, 67589), (67592, 67592), (67594, 67637), (67639, 67640),
   (67644, 67644), (67647, 67669), (67671, 67742), (67751, 67759), (67808, 67826), (67828, 67829),
   (67835, 67867), (67872, 67897), (67903, 67929), (67968, 68023), (68028, 68047), (68050, 68096),
   (68112, 68115), (68117, 68119), (68121, 68149), (68160, 68168), (68176, 68184), (68192, 68255),
   (68288, 68324), (68331, 68342), (68352, 68405), (68416, 68437), (68440, 68466), (68472, 68497),
   (68505, 68508), (68521, 68527), (68608, 68680), (68800, 68850), (68858, 68899), (68938, 68943),
   (68975, 68997), (69006, 69007), (69248, 69289), (69293, 69293), (69296, 69297), (69314, 69319),
   (69376, 69415), (69424, 69445), (69457, 69465), (69488, 69505), (69510, 69513), (69552, 69579),
   (69600, 69622), (124928, 125124), (125127, 125135), (125218, 125251), (125259, 125259),
   (125264, 125273), (125278, 125279), (126065, 126132), (126209, 126269)]

/-- Digits that belong to those scripts, in order. -/
def leftwardDigitRanges : List (Nat × Nat) :=
  [(1632, 1641), (1643, 1644), (68912, 68921), (68928, 68937), (69216, 69246)]

/-- Digits that fit into either direction, in order. -/
def digitRanges : List (Nat × Nat) :=
  [(48, 57), (1776, 1785), (66273, 66299)]

/-- Signs without a direction, in order.  Code points that no domain name holds count with their
neighbours. -/
def neutralRanges : List (Nat × Nat) :=
  [(0, 47), (58, 96), (123, 215), (247, 247), (697, 698), (706, 719), (722, 749), (751, 767),
   (885, 885), (1014, 1014), (1418, 1423), (1542, 1543), (1545, 1546), (1548, 1548), (1550, 1551),
   (1642, 1642), (1758, 1758), (1769, 1769), (2038, 2041), (2546, 2547), (2555, 2555), (2801, 2801),
   (3059, 3066), (3192, 3198), (3647, 3647), (3898, 3901), (5008, 5017), (5120, 5120), (5787, 5788),
   (6107, 6107), (6128, 6154), (6464, 6469), (6622, 6655), (8204, 8385), (8452, 8525), (8586, 9013),
   (9083, 9108), (9110, 9899), (9901, 10239), (10496, 11263), (11493, 11498), (11513, 11519),
   (11776, 12292), (12296, 12320), (12336, 12336), (12343, 12343), (12349, 12351), (12448, 12448),
   (12539, 12539), (12736, 12773), (19904, 19967), (42128, 42182), (42509, 42511), (42611, 42611),
   (42622, 42623), (42752, 42785), (42888, 42888), (43048, 43051), (43064, 43065), (43124, 43127),
   (43882, 43883), (64451, 65023), (65093, 65094), (65793, 65793), (65856, 65932), (65936, 65952),
   (67871, 67871), (68409, 68415), (68974, 68974), (69328, 69336), (69714, 69733), (71264, 71276),
   (73685, 73713), (94178, 94178), (117760, 118512), (119273, 119361), (119365, 119365),
   (119552, 119638), (123647, 123647), (126704, 127279), (127341, 127343), (127405, 127405),
   (127584, 130042)]

/-- Marks that count as letters of scripts that run to the right. -/
private def rightwardMarks : List Nat := [0xCBF, 0xCC6, 0x11A07, 0x11A08, 0x11C3F]

/-! ## Labels -/

def directionOf (c : Char) : Direction :=
  let n := c.toNat
  if Text.inRanges leftwardRanges n then .leftward
  else if Text.inRanges leftwardDigitRanges n then .leftwardDigit
  else if Text.inRanges digitRanges n then .digit
  else if Text.isNonspacingMark c && !rightwardMarks.contains n then .mark
  else if Text.inRanges neutralRanges n then .neutral
  else .rightward

/-- Something in the text runs to the left. -/
def runsLeft (cs : List Char) : Bool :=
  cs.any fun c => [Direction.leftward, .leftwardDigit].contains (directionOf c)

/-- The label begins with a letter, and what follows runs the same way up to a letter or a digit and
its marks.  Digits of the two kinds do not go together. -/
def runsOneWay (label : List Char) : Bool :=
  let directions := ((label.map directionOf).reverse.dropWhile (· == .mark)).reverse
  let ending := directions.getLast?
  match directions with
  | [] => label.isEmpty
  | .rightward :: _ =>
    (ending == some .rightward || ending == some .digit) &&
      !directions.contains .leftward && !directions.contains .leftwardDigit
  | .leftward :: _ =>
    (ending == some .leftward || ending == some .digit || ending == some .leftwardDigit) &&
      !directions.contains .rightward &&
      !(directions.contains .digit && directions.contains .leftwardDigit)
  | _ => false

end SoapBindings.Url
