/-!
# Characters and texts

What the readers and writers of several formats share. Some characters are blank, some are
hexadecimal digits, and a text is taken apart at the characters that pass a test.

A property of characters holds on long stretches of the code space. So it is written down by the
codes at which it begins or ceases to hold, in ascending order and beginning with a stretch on
which it does not hold (`holdsAt`).
-/

namespace BlockPipeline.Text

/-- Whether a property holds at a code, given the codes at which it changes. -/
def holdsAt (changes : List Nat) (code : Nat) : Bool :=
  (changes.takeWhile (· ≤ code)).length % 2 == 1

/-! ## Blank characters

The characters with the white-space property: the five controls from the tabulator on, the
blank, the next-line control, and the spaces and separators beyond ASCII. A time stamp may
have them between its parts, and the address of a service is freed from them at both ends. -/

/-- The character has the white-space property. -/
def isBlank (c : Char) : Bool :=
  let n := c.toNat
  (9 ≤ n && n ≤ 13) || n == 0x20 || n == 0x85 || n == 0xA0 || n == 0x1680 ||
    (0x2000 ≤ n && n ≤ 0x200A) || n == 0x2028 || n == 0x2029 || n == 0x202F || n == 0x205F ||
    n == 0x3000

/-- The text without the blanks in front. -/
def dropBlanks (text : List Char) : List Char := text.dropWhile isBlank

/-- The text without the blanks at either end. -/
def trimmed (s : String) : String :=
  String.ofList (dropBlanks (dropBlanks s.toList).reverse).reverse

/-! ## Hexadecimal digits

Digits to the base of sixteen in either case, as escapes in texts and addresses have them. -/

/-- The value of a hexadecimal digit. -/
def hexValue? (c : Char) : Option Nat :=
  if '0' ≤ c ∧ c ≤ '9' then some (c.toNat - '0'.toNat)
  else if 'a' ≤ c ∧ c ≤ 'f' then some (c.toNat - 'a'.toNat + 10)
  else if 'A' ≤ c ∧ c ≤ 'F' then some (c.toNat - 'A'.toNat + 10)
  else none

/-- The number that hexadecimal digits denote. -/
def hexNumber? (digits : List Char) : Option Nat :=
  digits.foldl (fun n c => do return (← n) * 16 + (← hexValue? c)) (some 0)

/-! ## Parts of a text

There is always one part more than there are separators, so a text without any is its only part
and an empty text has one empty part. -/

/-- The parts of a text between the characters that pass a test. -/
def splitAll {α : Type} (isSeparator : α → Bool) : List α → List (List α)
  | [] => [[]]
  | c :: rest =>
    match splitAll isSeparator rest with
    | [] => [[c]]
    | part :: parts => if isSeparator c then [] :: part :: parts else (c :: part) :: parts

end BlockPipeline.Text
