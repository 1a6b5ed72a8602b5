import BlockPipeline.Domain.Character
import BlockPipeline.Text.Mark

/-!
# Joiners

In some scripts a letter takes another shape beside its neighbours. The joiner and the
non-joiner ask for one or the other, and cannot be seen where there is nothing to ask for, so
a label may hold them only where they show: behind the sign that leaves out a vowel, and the
non-joiner also between two letters that would join otherwise.

The tables are settled for characters that a domain may hold.
-/

namespace BlockPipeline.Domain

open Text

/-- The codes at which joining on both sides changes. -/
def bothSidesChanges : List Nat :=
  [1568, 1569, 1574, 1575, 1576, 1577, 1578, 1583, 1587, 1600, 1601, 1608, 1609, 1611, 1646, 1648,
    1657, 1672, 1690, 1728, 1729, 1731, 1740, 1741, 1742, 1743, 1744, 1746, 1786, 1789, 1791, 1792,
    1810, 1813, 1818, 1822, 1823, 1832, 1833, 1834, 1835, 1836, 1837, 1839, 1870, 1881, 1884, 1899,
    1901, 1905, 1906, 1907, 1909, 1912, 1914, 1920, 1994, 2027, 2113, 2118, 2120, 2121, 2122, 2132,
    2133, 2134, 2144, 2145, 2146, 2150, 2152, 2153, 2182, 2183, 2185, 2190, 2191, 2218, 2223, 2225,
    2227, 2233, 2234, 2249, 6151, 6152, 6176, 6265, 6279, 6315, 43072, 43122, 68288, 68293, 68307,
    68311, 68312, 68317, 68318, 68321, 68331, 68335, 68480, 68481, 68482, 68483, 68486, 68489,
    68490, 68492, 68493, 68494, 68496, 68497, 68525, 68527, 68865, 68898, 68899, 68900, 69315,
    69317, 69318, 69320, 69424, 69427, 69428, 69445, 69457, 69460, 69488, 69492, 69494, 69506,
    69552, 69553, 69554, 69556, 69560, 69561, 69563, 69565, 69566, 69568, 69569, 69570, 69572,
    69573, 69578, 69579, 125218, 125252]

/-- The codes at which joining with the letter in front changes. -/
def frontSideChanges : List Nat :=
  [1570, 1574, 1575, 1576, 1577, 1578, 1583, 1587, 1608, 1609, 1649, 1652, 1672, 1690, 1728, 1729,
    1731, 1740, 1741, 1742, 1743, 1744, 1746, 1748, 1749, 1750, 1774, 1776, 1808, 1809, 1813, 1818,
    1822, 1823, 1832, 1833, 1834, 1835, 1836, 1837, 1839, 1870, 1881, 1884, 1899, 1901, 1905, 1906,
    1907, 1909, 1912, 1914, 2112, 2113, 2118, 2120, 2121, 2122, 2132, 2133, 2134, 2137, 2151, 2152,
    2153, 2179, 2190, 2191, 2218, 2221, 2222, 2223, 2225, 2227, 2233, 2234, 68293, 68294, 68295,
    68296, 68297, 68299, 68302, 68307, 68317, 68318, 68321, 68322, 68324, 68325, 68335, 68336,
    68481, 68482, 68483, 68486, 68489, 68490, 68492, 68493, 68494, 68496, 68497, 68498, 68521,
    68525, 68898, 68899, 69314, 69315, 69427, 69428, 69460, 69461, 69492, 69494, 69556, 69559,
    69561, 69563, 69565, 69566, 69570, 69572, 69577, 69578]

/-- The codes at which joining with the letter behind changes. -/
def backSideChanges : List Nat :=
  [43122, 43123, 68301, 68302, 68311, 68312, 68864, 68865, 69579, 69580]

/-- The character joins with the letter behind it. -/
def joinsBehind (code : Nat) : Bool :=
  holdsAt bothSidesChanges code || holdsAt backSideChanges code

/-- The character joins with the letter in front of it. -/
def joinsInFront (code : Nat) : Bool :=
  holdsAt bothSidesChanges code || holdsAt frontSideChanges code

/-- The character does not come between two letters that join. -/
def isTransparent (code : Nat) : Bool := isNonspacingMark code || code == 0x1E94B

/-- The combining class of the signs that leave out a vowel. -/
def vowelOmission : Nat := 9

/-- Whether a joiner shows between what stands in front of it, latest first, and what stands
behind it. -/
def showsBetween (code : Nat) (front behind : List Nat) : Bool :=
  match front with
  | [] => false
  | last :: _ =>
    Canonical.combiningClass last == vowelOmission ||
      (code == nonJoiner &&
        ((front.dropWhile fun c => !joinsBehind c && isTransparent c).head?.any joinsBehind) &&
        ((behind.dropWhile fun c => !joinsInFront c && isTransparent c).head?.any joinsInFront))

/-- Whether all joiners of a text show; `front` is what stands in front of it, latest first. -/
def joinersShow (front : List Nat) : List Nat → Bool
  | [] => true
  | code :: rest =>
    ((code ≠ nonJoiner && code ≠ joiner) || showsBetween code front rest) &&
      joinersShow (code :: front) rest

end BlockPipeline.Domain
