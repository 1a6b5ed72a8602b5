import BlockPipeline.Text.Mark

/-!
# Directions

Some scripts run from right to left. A domain with a character of one is displayed by rules
that could move characters from one label to another, so its labels must be such that
nothing moves: a label runs in one direction, which its first character tells, and ends in
that direction or in a number.

The tables are settled for characters that a domain may hold.
-/

namespace BlockPipeline.Domain

open Text

/-- How a character runs. -/
inductive Direction where
  | left
  | right
  | europeanNumber
  | arabicNumber
  /-- Punctuation and signs, which run as their neighbours do. -/
  | neutral
  /-- Marks, which run as their base does. -/
  | attached
deriving DecidableEq

/-- The codes at which running from right to left changes. -/
def rightChanges : List Nat :=
  [1470, 1525, 1544, 1545, 1547, 1548, 1549, 1550, 1563, 1611, 1645, 1750, 1765, 1767, 1774, 1776,
    1786, 2038, 2042, 2250, 64434, 64451, 65139, 65140, 67584, 67868, 67872, 68406, 68416, 68900,
    68938, 68944, 68975, 69008, 69248, 69320, 69376, 69623, 124928, 126270]

/-- The codes at which the property of being an Arabic digit, or of dividing such, changes. -/
def arabicNumberChanges : List Nat :=
  [1632, 1642, 1643, 1645, 68912, 68922, 68928, 68938, 69216, 69247]

/-- The codes at which the property of being a European digit changes. -/
def europeanNumberChanges : List Nat :=
  [48, 58, 1776, 1786, 66273, 66300]

/-- The codes at which the property of having no direction changes. -/
def neutralChanges : List Nat :=
  [0, 48, 58, 65, 91, 97, 123, 216, 247, 248, 697, 699, 706, 720, 722, 750, 751, 768, 885, 886,
    1014, 1015, 1418, 1424, 1542, 1544, 1545, 1547, 1548, 1549, 1550, 1552, 1642, 1643, 1758, 1759,
    1769, 1770, 2038, 2042, 2546, 2548, 2555, 2556, 2801, 2802, 3059, 3067, 3192, 3199, 3647, 3648,
    3898, 3902, 5008, 5018, 5120, 5121, 5787, 5789, 6107, 6108, 6128, 6155, 6464, 6470, 6622, 6656,
    8204, 8526, 8586, 9014, 9083, 9109, 9110, 9900, 9901, 10240, 10496, 11264, 11493, 11499, 11513,
    11520, 11776, 12293, 12296, 12321, 12336, 12337, 12343, 12344, 12349, 12352, 12448, 12449,
    12539, 12540, 12736, 12774, 19904, 19968, 42128, 42183, 42509, 42512, 42611, 42624, 42752,
    42786, 42888, 42889, 43048, 43052, 43064, 43066, 43124, 43128, 43882, 43884, 64451, 65095,
    65793, 65794, 65856, 65933, 65936, 65953, 67871, 67872, 68409, 68416, 68974, 68975, 69328,
    69337, 69714, 69734, 71264, 71277, 73685, 73714, 94178, 94179, 117760, 118513, 119273, 119366,
    119552, 119639, 123647, 123648, 126704, 127280, 127341, 127344, 127405, 127406, 127584, 130043]

/-- The marks that run from left to right by themselves. -/
def leftMarks : List Nat := [0xCBF, 0xCC6, 0x11A07, 0x11A08, 0x11C3F]

/-- The direction of a character. -/
def Direction.ofCode (code : Nat) : Direction :=
  if leftMarks.contains code then .left
  else if isNonspacingMark code then .attached
  else if holdsAt rightChanges code then .right
  else if holdsAt arabicNumberChanges code then .arabicNumber
  else if holdsAt europeanNumberChanges code then .europeanNumber
  else if holdsAt neutralChanges code then .neutral
  else .left

/-- Whether directions matter in a text. -/
def isMixed (text : List Nat) : Bool :=
  text.any fun code => [Direction.right, .arabicNumber].contains (.ofCode code)

/-- The directions behind the first character, without marks at the end. -/
def innerDirections (directions : List Direction) : List Direction :=
  (directions.reverse.dropWhile (· = .attached)).reverse

/-- Whether directions behind a first character from right to left fit to it. Digits of both
kinds do not go together. -/
def fitsRight (inner : List Direction) : Bool :=
  inner.all (· ≠ .left) &&
    inner.getLast?.all (fun d => [.right, .europeanNumber, .arabicNumber].contains d) &&
    !(inner.contains .europeanNumber && inner.contains .arabicNumber)

/-- Whether directions behind a first character from left to right fit to it. -/
def fitsLeft (inner : List Direction) : Bool :=
  inner.all (fun d => d ≠ .right && d ≠ .arabicNumber) &&
    inner.getLast?.all (fun d => [.left, .europeanNumber].contains d)

/-- Whether nothing moves out of a label of a domain in which directions matter. -/
def isDirected (label : List Nat) : Bool :=
  match label.map Direction.ofCode with
  | [] => true
  | .right :: rest => fitsRight (innerDirections rest)
  | .left :: rest => fitsLeft (innerDirections rest)
  | _ => false

end BlockPipeline.Domain
