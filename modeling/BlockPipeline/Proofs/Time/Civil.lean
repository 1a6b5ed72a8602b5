import BlockPipeline.Time.Civil

/-!
# Days and dates

Every day has a date on the calendar, and the date leads back to the day. The parts of a day that
both directions go through are its era of four hundred years, the year in the era, the day in the
year and the month, all of them counted from March (`CivilDate.ofDay_parts`); the rest is linear in
these.
-/

set_option autoImplicit false

namespace BlockPipeline.CivilDate

/-- The first day of a year of an era, both counted from zero and from March. -/
def yearStart (year : Int) : Int := 365 * year + year / 4 - year / 100

/-- The year of an era in which a day of it lies. The leap days up to the day are taken off and what
is left is divided by the days of a common year. -/
def yearOfEra (day : Int) : Int :=
  (day - day / 1460 + day / 36524 - day / 146096) / 365

/-- **A day of an era lies in its year**: not before its first day, and at most as many days behind
it as the year has, the last of them only in a leap year. -/
theorem yearOfEra_spec (day : Int) (first : 0 ≤ day) (last : day < 146097) :
    0 ≤ yearOfEra day ∧ yearOfEra day ≤ 399 ∧
    0 ≤ day - yearStart (yearOfEra day) ∧ day - yearStart (yearOfEra day) ≤ 365 ∧
    (day - yearStart (yearOfEra day) = 365 → (yearOfEra day + 1) % 4 = 0 ∧
      ((yearOfEra day + 1) % 100 ≠ 0 ∨ (yearOfEra day + 1) % 400 = 0)) := by
  obtain ⟨year, found⟩ : ∃ year, year = yearOfEra day := ⟨_, rfl⟩
  rw [← found]
  unfold yearOfEra at found
  unfold yearStart
  -- the corrections for centuries and cycles of four years are those of the year, give or take one
  have century : day / 36524 = year / 100 ∨ day / 36524 = year / 100 + 1 := by omega
  have cycle : day / 1460 = year / 4 - 1 ∨ day / 1460 = year / 4 ∨
      day / 1460 = year / 4 + 1 := by omega
  have inCycle : year % 4 = 0 ∨ year % 4 = 1 ∨ year % 4 = 2 ∨ year % 4 = 3 := by omega
  rcases century with century | century <;>
    rcases cycle with cycle | cycle | cycle <;>
    rcases inCycle with inCycle | inCycle | inCycle | inCycle <;> omega

/-- **The parts of a day**: the era, the year in it, the day in the year and the month, counted from
March. -/
structure Parts (day : Int) where
  era : Int
  year : Int
  dayOfYear : Int
  month : Int
  year_bounds : 0 ≤ year ∧ year ≤ 399
  dayOfYear_bounds : 0 ≤ dayOfYear ∧ dayOfYear ≤ 365
  /-- The last day of February is there in leap years. -/
  leap : dayOfYear = 365 →
    (year + 1) % 4 = 0 ∧ ((year + 1) % 100 ≠ 0 ∨ (year + 1) % 400 = 0)
  month_eq : month = (5 * dayOfYear + 2) / 153
  day_eq : day = era * 146097 + yearStart year + dayOfYear - 719468
  date_eq : ofDay day =
    ⟨era * 400 + year + if month < 10 then 0 else 1,
      (if month < 10 then month + 3 else month - 9).toNat,
      (dayOfYear - (153 * month + 2) / 5 + 1).toNat⟩

/-- Every day has its parts. -/
def parts (day : Int) : Parts day :=
  let ofEra := (day + 719468) % 146097
  let ofYear := ofEra - yearStart (yearOfEra ofEra)
  have spec := yearOfEra_spec ofEra (by omega) (by omega)
  { era := (day + 719468) / 146097
    year := yearOfEra ofEra
    dayOfYear := ofYear
    month := (5 * ofYear + 2) / 153
    year_bounds := ⟨spec.1, spec.2.1⟩
    dayOfYear_bounds := ⟨spec.2.2.1, spec.2.2.2.1⟩
    leap := spec.2.2.2.2
    month_eq := rfl
    day_eq := by omega
    date_eq := by
      -- the months that belong to the next year are those behind the tenth
      have nextYear : ∀ month : Int, 0 ≤ month → month ≤ 11 →
          (if (if month < 10 then month + 3 else month - 9) ≤ 2 then (1 : Int) else 0) =
            if month < 10 then 0 else 1 := by
        intro month first last
        split <;> split <;> omega
      show CivilDate.mk _ _ _ = CivilDate.mk _ _ _
      rw [mk.injEq]
      exact ⟨congrArg (_ + ·) (nextYear ((5 * ofYear + 2) / 153) (by omega) (by omega)), rfl, rfl⟩ }

/-! ## From a day to its date and back -/

variable (day : Int)

/-- The month of a date is a month, and its day at most the thirty-first. -/
theorem ofDay_bounds : (ofDay day).month ≤ 12 ∧ (ofDay day).day ≤ 31 := by
  obtain ⟨era, year, dayOfYear, month, year_bounds, dayOfYear_bounds, leap, month_eq, day_eq,
    date_eq⟩ := parts day
  rw [date_eq]
  dsimp only
  constructor
  · split <;> omega
  · omega

/-- **The date of a day is on the calendar.** -/
theorem isValid_ofDay : (ofDay day).isValid = true := by
  obtain ⟨era, year, dayOfYear, month, year_bounds, dayOfYear_bounds, leap, month_eq, day_eq,
    date_eq⟩ := parts day
  have months : month = 0 ∨ month = 1 ∨ month = 2 ∨ month = 3 ∨ month = 4 ∨ month = 5 ∨ month = 6 ∨
      month = 7 ∨ month = 8 ∨ month = 9 ∨ month = 10 ∨ month = 11 := by omega
  rw [date_eq]
  rcases months with rfl | rfl | rfl | rfl | rfl | rfl | rfl | rfl | rfl | rfl | rfl | rfl
  all_goals simp [isValid, daysInMonth]
  any_goals omega
  -- what is left is February
  by_cases last : dayOfYear = 365
  · have leapYear : isLeapYear (era * 400 + year + 1) = true := by
      have rule := leap last
      simp [isLeapYear]
      omega
    rw [if_pos leapYear]
    omega
  · split <;> omega

/-- **The date of a day leads back to it.** -/
theorem toDay_ofDay : (ofDay day).toDay = day := by
  obtain ⟨era, year, dayOfYear, month, year_bounds, dayOfYear_bounds, leap, month_eq, day_eq,
    date_eq⟩ := parts day
  have months : 0 ≤ month ∧ month ≤ 11 := by omega
  have inMonth : ((dayOfYear - (153 * month + 2) / 5 + 1).toNat : Int) =
      dayOfYear - (153 * month + 2) / 5 + 1 := by omega
  have eras : (era * 400 + year) / 400 = era ∧ (era * 400 + year) % 400 = year := by omega
  rw [date_eq, toDay]
  unfold yearStart at day_eq
  by_cases early : month < 10
  · have back : (((month + 3).toNat : Int) + 9) % 12 = month := by omega
    have late : ¬ (month + 3).toNat ≤ 2 := by omega
    simp only [if_pos early, if_neg late, back, inMonth, Int.add_zero, eras]
    omega
  · have back : (((month - 9).toNat : Int) + 9) % 12 = month := by omega
    have late : (month - 9).toNat ≤ 2 := by omega
    simp only [if_neg early, if_pos late, back, inMonth, Int.add_sub_cancel, eras]
    omega

end BlockPipeline.CivilDate
