import BlockPipeline.Text.Basic

/-!
# Labels in letters and digits

A label beyond ASCII travels as one in ASCII: its ASCII characters first, and behind a hyphen
the others, as numbers. Imagine a counter that runs through the places of the text for one
code, then through those of the next code; the others are put in where it stops, and each
number says how far it runs from one stop to the next.

A number is a row of digits, lowest first, in which the threshold of each place tells the last
digit from the ones before it. The thresholds follow a bias, which is adapted to the numbers
so far, so that numbers of the usual size are short.
-/

namespace BlockPipeline.Domain.Punycode

/-- How many digits there are: the letters, then the ten digits. -/
def base : Nat := 36

/-- The first code beyond ASCII. -/
def firstCode : Nat := 0x80

def firstBias : Nat := 72

def hyphen : Nat := '-'.toNat

/-- The code of a digit. -/
def digitCode (digit : Nat) : Nat :=
  if digit < 26 then 'a'.toNat + digit else '0'.toNat + (digit - 26)

/-- The digit of a code. Capital letters are digits as well. -/
def digit? (code : Nat) : Option Nat :=
  if 'a'.toNat ≤ code ∧ code ≤ 'z'.toNat then some (code - 'a'.toNat)
  else if 'A'.toNat ≤ code ∧ code ≤ 'Z'.toNat then some (code - 'A'.toNat)
  else if '0'.toNat ≤ code ∧ code ≤ '9'.toNat then some (code - '0'.toNat + 26)
  else none

/-- The threshold of the place that is `offset` above zero, in steps of the base: at least 1 and
at most 26. -/
def threshold (offset bias : Nat) : Nat :=
  if offset ≤ bias then 1 else if bias + 26 ≤ offset then 26 else offset - bias

theorem threshold_pos (offset bias : Nat) : 1 ≤ threshold offset bias := by
  unfold threshold
  split
  · omega
  · split <;> omega

/-- Divides until at most 455 is left, and counts the divisions in steps of the base. -/
def scaledDown (delta offset : Nat) : Nat × Nat :=
  if 455 < delta then scaledDown (delta / 35) (offset + base) else (delta, offset)
termination_by delta
decreasing_by exact Nat.div_lt_self (by omega) (by omega)

/-- The bias behind a number. The first number of a label tends to be large. -/
def adapted (delta length : Nat) (first : Bool) : Nat :=
  let halved := if first then delta / 700 else delta / 2
  let (rest, offset) := scaledDown (halved + halved / length) 0
  offset + base * rest / (rest + 38)

/-! ## Writing -/

/-- The digits of a number, lowest first. -/
def digits (bias offset number : Nat) : List Nat :=
  let t := threshold offset bias
  if number < t then [digitCode number]
  else
    digitCode (t + (number - t) % (base - t)) ::
      digits bias (offset + base) ((number - t) / (base - t))
termination_by number
decreasing_by
  have positive := threshold_pos offset bias
  calc (number - threshold offset bias) / (base - threshold offset bias)
      ≤ number - threshold offset bias := Nat.div_le_self _ _
    _ < number := by omega

/-- A label as far as it is written. -/
structure Writing where
  /-- How far the counter has run since its last stop. -/
  delta : Nat := 0
  bias : Nat := firstBias
  /-- How many characters are written. -/
  written : Nat
  /-- Whether no number is written yet. -/
  first : Bool := true
  text : List Nat := []

/-- The counter, at a code, passes a character of the text. It counts the characters that are
written already and stops at those of its code. -/
def Writing.pass (code : Nat) (w : Writing) (c : Nat) : Writing :=
  if c < code then { w with delta := w.delta + 1 }
  else if c = code then
    { delta := 0
      bias := adapted w.delta (w.written + 1) w.first
      written := w.written + 1
      first := false
      text := w.text ++ digits w.bias base w.delta }
  else w

/-- The counter runs from the beginning of a code through the given ones. -/
def Writing.run (label : List Nat) (w : Writing) (next : Nat) : List Nat → Writing
  | [] => w
  | code :: codes =>
    let ahead := { w with delta := w.delta + (code - next) * (w.written + 1) }
    let passed := label.foldl (Writing.pass code) ahead
    Writing.run label { passed with delta := passed.delta + 1 } (code + 1) codes

/-- The written form of a label. -/
def encode (label : List Nat) : List Nat :=
  let plain := label.filter (· < firstCode)
  let others := ((label.filter (firstCode ≤ ·)).eraseDups).mergeSort
  let written := Writing.run label { written := plain.length } firstCode others
  plain ++ (if plain.isEmpty then [] else [hyphen]) ++ written.text

/-! ## Reading -/

/-- A label as far as it is read. -/
structure Reading where
  label : List Nat
  /-- The code that the counter is at. -/
  code : Nat := firstCode
  /-- The place that the counter has reached, with the digits of the number so far. -/
  place : Nat := 0
  /-- The place at which the number began. -/
  start : Nat := 0
  weight : Nat := 1
  offset : Nat := base
  bias : Nat := firstBias
  /-- Whether the number goes on. -/
  unfinished : Bool := false

/-- Numbers stay below this. -/
def limit : Nat := 4294967296

/-- Whether a number is the code of a character. -/
def isCode (n : Nat) : Bool := n < 0xD800 || (0xE000 ≤ n && n < 0x110000)

/-- Puts a character in where the counter has stopped. -/
def Reading.stop? (r : Reading) : Option Reading :=
  let length := r.label.length + 1
  let code := r.code + r.place / length
  let index := r.place % length
  if isCode code then
    some {
      label := r.label.take index ++ code :: r.label.drop index
      code := code
      place := index + 1
      start := index + 1
      bias := adapted (r.place - r.start) length (r.start = 0) }
  else none

/-- Reads one digit. -/
def Reading.step? (r : Reading) (c : Nat) : Option Reading := do
  let digit ← digit? c
  let r := { r with place := r.place + digit * r.weight }
  if limit ≤ r.place then failure
  let t := threshold r.offset r.bias
  if digit < t then r.stop?
  else
    let weight := r.weight * (base - t)
    if limit ≤ weight then failure
    return { r with weight := weight, offset := r.offset + base, unfinished := true }

/-- The ASCII characters of a label and the digits behind them: what stands in front of the last
hyphen and behind it. A hyphen at the very front divides nothing. -/
def divided (text : List Nat) : List Nat × List Nat :=
  let behind := (text.reverse.takeWhile (· ≠ hyphen)).reverse
  let front := text.take (text.length - behind.length - 1)
  if front.isEmpty then ([], text) else (front, behind)

/-- The label of a written form. -/
def decode? (text : List Nat) : Option (List Nat) := do
  let (front, numbers) := divided text
  let r ← numbers.foldlM Reading.step? { label := front }
  if r.unfinished then failure
  return r.label

end BlockPipeline.Domain.Punycode
