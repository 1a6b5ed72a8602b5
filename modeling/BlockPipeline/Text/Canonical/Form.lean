import BlockPipeline.Text.Canonical.Table

/-!
# The composed form of a text

Canonically equivalent texts look the same, and one of them stands for all: the one in which
marks are ordered by their classes and as many characters as possible are composed. It is
reached by taking every character apart, ordering the marks behind each base, and composing
again from left to right.

Characters are given by their codes. Syllables of the Korean script are composed of a
leading consonant, a vowel and perhaps a trailing consonant, and are taken apart and put
together by arithmetic.
-/

namespace BlockPipeline.Text.Canonical

/-! ## Taking apart -/

def leadBase : Nat := 0x1100
def vowelBase : Nat := 0x1161
/-- One below the first trailing consonant: the place of none. -/
def tailBase : Nat := 0x11A7
def syllableBase : Nat := 0xAC00

def leadCount : Nat := 19
def vowelCount : Nat := 21
/-- The trailing consonants, with none among them. -/
def tailCount : Nat := 28

def isSyllable (code : Nat) : Bool :=
  syllableBase ≤ code && code < syllableBase + leadCount * vowelCount * tailCount

/-- The parts of a syllable. -/
def syllableParts (code : Nat) : List Nat :=
  let index := code - syllableBase
  let lead := leadBase + index / (vowelCount * tailCount)
  let vowel := vowelBase + index / tailCount % vowelCount
  if index % tailCount = 0 then [lead, vowel] else [lead, vowel, tailBase + index % tailCount]

/-- What a character is composed of, one step down. -/
def parts (code : Nat) : List Nat :=
  if isSyllable code then syllableParts code
  else (replacement? pairRows code <|> replacement? equivalentRows code).getD [code]

/-- No character is composed of others that are in more steps than this. -/
def depth : Nat := 4

/-- The text with every character taken apart. -/
def takenApart (text : List Nat) : List Nat :=
  (List.range depth).foldl (fun text _ => text.flatMap parts) text

/-! ## Ordering marks -/

/-- The class of a mark; a base has the class zero. -/
def combiningClass (code : Nat) : Nat :=
  ((classChanges.takeWhile fun (start, _) => start ≤ code).getLast?.map Prod.snd).getD 0

/-- Puts a character behind a text that is given latest first. A mark goes in front of the marks
of higher classes at the end of the text. -/
def place (code : Nat) : List Nat → List Nat
  | [] => [code]
  | last :: earlier =>
    if combiningClass code ≠ 0 ∧ combiningClass code < combiningClass last then
      last :: place code earlier
    else code :: last :: earlier

/-- The text with the marks behind each base in the order of their classes. -/
def ordered (text : List Nat) : List Nat :=
  (text.foldl (fun placed code => place code placed) []).reverse

/-- The text taken apart, with its marks in order. -/
def decomposed (text : List Nat) : List Nat := ordered (takenApart text)

/-! ## Composing -/

/-- The pairs that are composed, each behind what comes of it. -/
def compositions : List (Nat × List Nat) := pairRows.flatMap Row.entries

/-- The syllable of two characters, if they make one. -/
def syllable? (first second : Nat) : Option Nat :=
  if leadBase ≤ first ∧ first < leadBase + leadCount ∧
      vowelBase ≤ second ∧ second < vowelBase + vowelCount then
    some (syllableBase + ((first - leadBase) * vowelCount + (second - vowelBase)) * tailCount)
  else if isSyllable first ∧ (first - syllableBase) % tailCount = 0 ∧
      tailBase < second ∧ second < tailBase + tailCount then
    some (first + (second - tailBase))
  else none

/-- The character that two are composed to, if any. -/
def pair? (first second : Nat) : Option Nat :=
  syllable? first second <|> ((compositions.find? (·.2 == [first, second])).map Prod.fst)

/-- Composes what follows a base. `marks` are those behind the base that stay marks, latest
first; a character is out of the base's reach behind a mark that is not of a lower class. -/
def composeFrom (base : Nat) (marks : List Nat) : List Nat → List Nat
  | [] => base :: marks.reverse
  | code :: rest =>
    let reached := marks.head?.all fun mark => combiningClass mark < combiningClass code
    match if reached then pair? base code else none with
    | some composed => composeFrom composed marks rest
    | none =>
      if combiningClass code = 0 then base :: marks.reverse ++ composeFrom code [] rest
      else composeFrom base (code :: marks) rest

/-- The text with its characters composed. -/
def composed : List Nat → List Nat
  | [] => []
  | code :: rest =>
    if combiningClass code = 0 then composeFrom code [] rest else code :: composed rest

/-- The composed form of a text. -/
def composedForm (text : List Nat) : List Nat := composed (decomposed text)

end BlockPipeline.Text.Canonical
