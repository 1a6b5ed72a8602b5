import BlockPipeline.Text.Basic
import BlockPipeline.Time.Civil

/-!
# Instants and their texts

An `Instant` is a point in universal time with a resolution of one nanosecond. A leap second
is kept as what was written: the second before it with a fraction of a whole second or more.

The written form is fixed: date and time of day in universal time, joined by a `T`, a
fraction with three, six or nine digits where one is needed, and a final `Z`. The form that
is read is wider: blanks between the parts, one digit for two, a signed year of any length,
any number of fractional digits, and an offset from universal time.
-/

namespace BlockPipeline

/-- The first year of an instant. -/
def Instant.firstYear : Int := -262143

/-- The last year of an instant. -/
def Instant.lastYear : Int := 262142

/-- The nanoseconds of a second. -/
abbrev Instant.wholeSecond : Nat := 1000000000

/-- The parts of an instant are in range; only the last second of a minute may carry a
fraction beyond a second. -/
def Instant.InRange (day : Int) (second nanosecond : Nat) : Prop :=
  CivilDate.toDay ⟨Instant.firstYear, 1, 1⟩ ≤ day ∧
    day ≤ CivilDate.toDay ⟨Instant.lastYear, 12, 31⟩ ∧ second < 86400 ∧
    (nanosecond < Instant.wholeSecond ∨ (second % 60 = 59 ∧ nanosecond < 2 * Instant.wholeSecond))

instance (day : Int) (second nanosecond : Nat) :
    Decidable (Instant.InRange day second nanosecond) := by
  unfold Instant.InRange; infer_instance

/-- A point in universal time. -/
structure Instant where
  /-- Days since the first of January 1970. -/
  day : Int
  /-- Seconds since midnight. -/
  second : Nat
  /-- The fraction of the second; from a whole second on it stands for a leap second. -/
  nanosecond : Nat
  inRange : Instant.InRange day second nanosecond
deriving DecidableEq

namespace Instant

instance : Inhabited Instant := ⟨⟨0, 0, 0, by decide⟩⟩

/-- The instant with these parts, if they are in range. -/
def ofParts? (day : Int) (second nanosecond : Nat) : Option Instant :=
  if h : InRange day second nanosecond then some ⟨day, second, nanosecond, h⟩ else none

/-! ## Writing -/

/-- A number with leading zeros up to a width. -/
def padded (width n : Nat) : String :=
  let digits := Nat.toDigits 10 n
  String.ofList (List.replicate (width - digits.length) '0' ++ digits)

/-- Four digits for the years of four digits; any other year has a sign. -/
def yearText (year : Int) : String :=
  if 0 ≤ year ∧ year ≤ 9999 then padded 4 year.toNat
  else (if year < 0 then "-" else "+") ++ padded 4 year.natAbs

/-- The shortest exact fraction in groups of three digits; nothing for none. -/
def fractionText (nanosecond : Nat) : String :=
  if nanosecond = 0 then ""
  else if nanosecond % 1000000 = 0 then "." ++ padded 3 (nanosecond / 1000000)
  else if nanosecond % 1000 = 0 then "." ++ padded 6 (nanosecond / 1000)
  else "." ++ padded 9 nanosecond

/-- The text of an instant. -/
def text (t : Instant) : String :=
  let date := CivilDate.ofDay t.day
  let leap := t.nanosecond / wholeSecond
  yearText date.year ++ "-" ++ padded 2 date.month ++ "-" ++ padded 2 date.day ++ "T" ++
    padded 2 (t.second / 3600) ++ ":" ++ padded 2 (t.second / 60 % 60) ++ ":" ++
    padded 2 (t.second % 60 + leap) ++ fractionText (t.nanosecond % wholeSecond) ++ "Z"

/-! ## Reading -/

/-- A reader takes what it needs from the front of a text and leaves the rest. -/
abbrev Reader (α : Type) := StateT (List Char) Option α

namespace Reader

/-- Passes over blanks. -/
def blanks : Reader Unit := modify Text.dropBlanks

/-- Takes the given character. -/
def char (c : Char) : Reader Unit := fun text =>
  match text with
  | d :: rest => if c = d then some ((), rest) else none
  | [] => none

def digitValue (c : Char) : Nat := c.toNat - '0'.toNat

/-- The number that decimal digits denote. -/
def digitsValue (digits : List Char) : Nat :=
  digits.foldl (fun n c => n * 10 + digitValue c) 0

/-- Takes digits from the front, at least one and at most `most`. -/
def digits (most : Nat) : Reader (List Char) := fun text =>
  let taken := (text.take most).takeWhile Char.isDigit
  if taken.isEmpty then none else some (taken, text.drop taken.length)

/-- A number of at most two digits, blanks in front allowed. -/
def twoDigits : Reader Nat := do
  blanks
  return digitsValue (← digits 2)

/-- A year: up to four digits, or a sign and any number of digits. -/
def year : Reader Int := do
  blanks
  let text ← get
  match text with
  | '-' :: rest => do
    set rest
    return -(digitsValue (← digits rest.length) : Int)
  | '+' :: rest => do
    set rest
    return digitsValue (← digits rest.length)
  | _ => return digitsValue (← digits 4)

/-- A separator, blanks in front allowed. -/
def separator (c : Char) : Reader Unit := do
  blanks
  char c

/-- A fraction of a second in nanoseconds: any number of digits, of which nine count. -/
def fraction : Reader Nat := do
  match ← get with
  | '.' :: rest => do
    set rest
    let counted ← digits 9
    modify (List.dropWhile Char.isDigit)
    return digitsValue counted * Nat.pow 10 (9 - counted.length)
  | _ => return 0

/-- Two digits in their places, as in an offset. -/
def pair : Reader Nat := fun text =>
  match text with
  | a :: b :: rest =>
    if a.isDigit && b.isDigit then some (digitsValue [a, b], rest) else none
  | _ => none

/-- Minutes east of universal time: hours and minutes of two digits each. Colons and blanks
may stand between them. -/
def signedOffset : Reader Int := do
  let negative ← fun text =>
    match text with
    | '+' :: rest => some (false, rest)
    | '-' :: rest => some (true, rest)
    | '\u2212' :: rest => some (true, rest)
    | _ => none
  let hours ← pair
  modify (List.dropWhile fun c => c = ':' || Text.isBlank c)
  let minutes ← pair
  if minutes ≥ 60 ∨ hours ≥ 24 then failure
  let total : Int := hours * 60 + minutes
  return if negative then -total else total

/-- The offset from universal time, in minutes: `Z`, the word `UTC`, or hours and minutes. -/
def offset : Reader Int := do
  blanks
  let text ← get
  if (text.take 3).map Char.toUpper = ['U', 'T', 'C'] then do
    set (text.drop 3)
    return 0
  else match text with
    | 'Z' :: rest | 'z' :: rest => do
      set rest
      return 0
    | _ => signedOffset

/-- The mark between date and time of day. -/
def timeMark : Reader Unit := fun text =>
  match text with
  | c :: rest => if c = 'T' || c = 't' || c = ' ' then some ((), rest) else none
  | [] => none

/-- A date on the calendar, within the years of an instant. -/
def date : Reader CivilDate := do
  let year ← year
  separator '-'
  let month ← twoDigits
  separator '-'
  let day ← twoDigits
  let date : CivilDate := ⟨year, month, day⟩
  if date.isValid ∧ firstYear ≤ year ∧ year ≤ lastYear then return date else failure

/-- A time of day: seconds since midnight and nanoseconds. Second sixty is a leap second. -/
def timeOfDay : Reader (Nat × Nat) := do
  let hour ← twoDigits
  separator ':'
  let minute ← twoDigits
  separator ':'
  let second ← twoDigits
  let nanosecond ← fraction
  if hour ≥ 24 ∨ minute ≥ 60 ∨ second > 60 then failure
  let leap := if second = 60 then 1 else 0
  return (hour * 3600 + minute * 60 + second - leap, nanosecond + leap * wholeSecond)

/-- A whole time stamp. -/
def instant : Reader Instant := do
  let date ← date
  timeMark
  let (second, nanosecond) ← timeOfDay
  let offset ← offset
  blanks
  if !(← get).isEmpty then failure
  let moved : Int := second - offset * 60
  (ofParts? (date.toDay + moved / 86400) (moved % 86400).toNat nanosecond : Option Instant)

end Reader

/-- The instant that a text denotes. -/
def ofText? (text : String) : Option Instant :=
  (Reader.instant.run text.toList).map Prod.fst

end Instant

end BlockPipeline
