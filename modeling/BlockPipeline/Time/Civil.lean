/-!
# The civil calendar

Dates of the Gregorian calendar, extended without limit to the past and the future, with a
year zero. A day is counted from the first of January 1970. The two directions of the count
run over years that begin in March, so that the leap day is the last day of its year, and
over eras of four hundred years, which all have 146097 days.
-/

namespace BlockPipeline

/-- A date by its year, its month and its day of the month. -/
structure CivilDate where
  year : Int
  month : Nat
  day : Nat
deriving DecidableEq

namespace CivilDate

/-- Every fourth year is a leap year, but of the centuries only every fourth. -/
def isLeapYear (year : Int) : Bool :=
  year % 4 == 0 && (year % 100 != 0 || year % 400 == 0)

/-- The number of days of a month; none for a number that is no month. -/
def daysInMonth (year : Int) (month : Nat) : Nat :=
  match month with
  | 1 | 3 | 5 | 7 | 8 | 10 | 12 => 31
  | 4 | 6 | 9 | 11 => 30
  | 2 => if isLeapYear year then 29 else 28
  | _ => 0

/-- The date is on the calendar. -/
def isValid (d : CivilDate) : Bool :=
  1 ≤ d.day && d.day ≤ daysInMonth d.year d.month

/-- The day of a date, counted from the first of January 1970. -/
def toDay (d : CivilDate) : Int :=
  let year := if d.month ≤ 2 then d.year - 1 else d.year
  let era := year / 400
  let yearOfEra := year % 400
  let monthFromMarch : Int := ((d.month : Int) + 9) % 12
  let dayOfYear := (153 * monthFromMarch + 2) / 5 + d.day - 1
  let dayOfEra := yearOfEra * 365 + yearOfEra / 4 - yearOfEra / 100 + dayOfYear
  era * 146097 + dayOfEra - 719468

/-- The date of a day. -/
def ofDay (day : Int) : CivilDate :=
  let shifted := day + 719468
  let era := shifted / 146097
  let dayOfEra := shifted % 146097
  let yearOfEra :=
    (dayOfEra - dayOfEra / 1460 + dayOfEra / 36524 - dayOfEra / 146096) / 365
  let dayOfYear := dayOfEra - (365 * yearOfEra + yearOfEra / 4 - yearOfEra / 100)
  let monthFromMarch := (5 * dayOfYear + 2) / 153
  let day := dayOfYear - (153 * monthFromMarch + 2) / 5 + 1
  let month := if monthFromMarch < 10 then monthFromMarch + 3 else monthFromMarch - 9
  let year := era * 400 + yearOfEra + if month ≤ 2 then 1 else 0
  ⟨year, month.toNat, day.toNat⟩

example : toDay ⟨1970, 1, 1⟩ = 0 ∧ toDay ⟨2000, 2, 29⟩ = 11016 ∧ toDay ⟨0, 3, 1⟩ = -719468 := by
  decide

end CivilDate

end BlockPipeline
