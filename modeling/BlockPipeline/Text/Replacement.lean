import BlockPipeline.Text.Basic

/-!
# Tables of replacements

A table says which characters stand for others: a letter for its small form, a ligature for
the letters in it. Characters that follow one another often have replacements that do, so a
table is a list of rows. A row either lists the replacements of codes that follow one
another, or moves every code of a stretch, or every second one, by the same distance.

Tables are long and are written as texts of blank-separated rows with hexadecimal codes:
`DE=FE,73.73` replaces U+00DE by U+00FE and U+00DF by U+0073 twice, `41-5A+61` moves the
stretch from U+0041 to U+005A to begin at U+0061, and `100-12E/101` moves every second code
from U+0100 to U+012E to the code behind it.
-/

namespace BlockPipeline.Text

/-- A row of a table of replacements. -/
inductive Row where
  /-- The replacements of the codes from `first` on. -/
  | listed (first : Nat) (texts : List (List Nat))
  /-- The `stride`-th codes from `first` to `last`, moved to begin at `target`. -/
  | moved (first last stride target : Nat)

namespace Row

/-- The replacement of a code, if the row has one. -/
def find? (row : Row) (code : Nat) : Option (List Nat) :=
  match row with
  | .listed first texts => if first ≤ code then texts[code - first]? else none
  | .moved first last stride target =>
    if first ≤ code ∧ code ≤ last ∧ (code - first) % stride = 0 then
      some [target + (code - first)]
    else none

/-- All that a row replaces, with the replacements. -/
def entries : Row → List (Nat × List Nat)
  | .listed first texts => texts.zipIdx.map fun (text, k) => (first + k, text)
  | .moved first last stride target =>
    (List.range' first ((last - first) / stride + 1) stride).map fun code =>
      (code, [target + (code - first)])

/-- The number of a hexadecimal text; zero if it is none. -/
def number (digits : List Char) : Nat := (hexNumber? digits).getD 0

/-- The row that is written like this. -/
def ofText (text : List Char) : Row :=
  let isDigit (c : Char) : Bool := (hexValue? c).isSome
  let first := number (text.takeWhile isDigit)
  match text.dropWhile isDigit with
  | '-' :: rest =>
    let last := number (rest.takeWhile isDigit)
    match rest.dropWhile isDigit with
    | '/' :: target => .moved first last 2 (number target)
    | target => .moved first last 1 (number target.tail)
  | texts =>
    .listed first ((splitAll (· = ',') texts.tail).map fun codes =>
      (splitAll (· = '.') codes).map number)

end Row

/-- The rows of a table that is written like this. -/
def readRows (text : String) : List Row :=
  ((splitAll (fun c => c = ' ' || c = '\n') text.toList).filter (!·.isEmpty)).map Row.ofText

/-- The replacement of a code in a table, if it has one. -/
def replacement? (rows : List Row) (code : Nat) : Option (List Nat) :=
  rows.findSome? (·.find? code)

end BlockPipeline.Text
