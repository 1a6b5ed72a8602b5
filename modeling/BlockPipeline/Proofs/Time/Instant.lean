import BlockPipeline.Proofs.Time.Civil
import BlockPipeline.Time.Instant
import Mathlib.Algebra.Group.Nat.Defs

/-!
# Time stamps are read back

The text of an instant is read as that instant: the date because every day has its date on the
calendar and comes back from it, the leap second because a sixtieth second is written for it alone,
and the fraction because the digits that are left out are zeros.

| Statement | In words | From |
| --- | --- | --- |
| `Reader.digits_run` | digits are taken up to what follows them | |
| `Reader.date_run` | a written date is read as the date of the day | `CivilDate.isValid_ofDay` |
| `Reader.timeOfDay_run` | a written time of day is read with its fraction and leap second | `Reader.fraction_run` |
| `ofText?_text` | the whole text | `CivilDate.toDay_ofDay` |
-/

set_option autoImplicit false

namespace BlockPipeline.Instant

/-! ## The years of an instant -/

/-- The date of a day that an instant may have lies within the years of an instant. -/
theorem year_ofDay_bounds {day : Int} (first : CivilDate.toDay ⟨firstYear, 1, 1⟩ ≤ day)
    (last : day ≤ CivilDate.toDay ⟨lastYear, 12, 31⟩) :
    firstYear ≤ (CivilDate.ofDay day).year ∧ (CivilDate.ofDay day).year ≤ lastYear := by
  have firstDay : CivilDate.toDay ⟨firstYear, 1, 1⟩ = -96465292 := by decide
  have lastDay : CivilDate.toDay ⟨lastYear, 12, 31⟩ = 95026236 := by decide
  obtain ⟨era, year, dayOfYear, month, year_bounds, dayOfYear_bounds, leap, month_eq, day_eq,
    date_eq⟩ := CivilDate.parts day
  rw [date_eq]
  unfold CivilDate.yearStart at day_eq
  have eras : -656 ≤ era ∧ era ≤ 655 := by omega
  simp only [firstYear, lastYear]
  constructor
  · omega
  · have late : era ≤ 654 ∨ era = 655 := by omega
    rcases late with late | late <;> omega

/-! ## Written digits -/

/-- A number with leading zeros consists of digits. -/
theorem isDigit_of_mem_padded (width n : Nat) : ∀ c ∈ (padded width n).toList, c.isDigit := by
  intro c mem
  rw [padded, String.toList_ofList] at mem
  rcases List.mem_append.mp mem with mem | mem
  · rw [(List.mem_replicate.mp mem).2]
    decide
  · exact Nat.isDigit_of_mem_toDigits (by decide) (by decide) mem

/-- The digits of a number denote it, zeros in front or not. -/
theorem digitsValue_padded (width n : Nat) : Reader.digitsValue (padded width n).toList = n := by
  have asDigits : ∀ text : List Char, Reader.digitsValue text = Nat.ofDigitChars 10 text 0 := by
    intro text
    rw [Reader.digitsValue, Nat.ofDigitChars_eq_foldl]
    simp only [Reader.digitValue, Nat.mul_comm 10]
  rw [asDigits, padded, String.toList_ofList, Nat.ofDigitChars_append,
    Nat.ofDigitChars_replicate_zero, Nat.mul_zero, Nat.ofDigitChars_ten_toDigits]

/-- A number that fits is written with the given width. -/
theorem length_padded {n : Nat} (width : Nat) (positive : 0 < width) (fits : n < 10 ^ width) :
    (padded width n).toList.length = width := by
  have short := (Nat.length_toDigits_le_iff (by decide) positive).mpr fits
  rw [padded, String.toList_ofList, List.length_append, List.length_replicate]
  omega

theorem padded_ne_nil (width n : Nat) : (padded width n).toList ≠ [] := by
  rw [padded, String.toList_ofList]
  exact List.append_ne_nil_of_right_ne_nil _ Nat.toDigits_ne_nil

/-! ## Reading the parts -/

namespace Reader

/-- A digit does not follow. -/
def EndsDigits : List Char → Prop
  | [] => True
  | c :: _ => c.isDigit = false

/-- **Digits are taken up to what follows them**, or up to the greatest number that may be taken. -/
theorem digits_run {most : Nat} {text rest : List Char} (each : ∀ c ∈ text, c.isDigit)
    (some' : text ≠ []) (fits : text.length ≤ most)
    (stop : text.length = most ∨ EndsDigits rest) :
    digits most (text ++ rest) = some (text, rest) := by
  have taken : ((text ++ rest).take most).takeWhile Char.isDigit = text := by
    rw [List.take_append, List.take_of_length_le fits, List.takeWhile_append_of_pos each]
    have none' : (rest.take (most - text.length)).takeWhile Char.isDigit = [] := by
      rcases stop with full | ends
      · rw [full, Nat.sub_self, List.take_zero, List.takeWhile_nil]
      · cases rest with
        | nil => simp
        | cons c rest =>
          cases most - text.length with
          | zero => rfl
          | succ k => exact List.takeWhile_cons_of_neg (by simpa [EndsDigits] using ends)
    rw [none', List.append_nil]
  simp only [digits, taken]
  rw [if_neg (by simpa using some'), List.drop_left]

/-- A step whose answer the rest uses. -/
theorem bind_run {α β : Type} {x : Reader α} {f : α → Reader β} {text rest : List Char} {a : α}
    (step : x text = some (a, rest)) : (x >>= f) text = f a rest := by
  show (x text).bind _ = _
  rw [step]
  rfl

/-- No blank is in front. -/
def Visible (text : List Char) : Prop := Text.dropBlanks text = text

theorem visible_of_isBlank {c : Char} (visible : Text.isBlank c = false) (rest : List Char) :
    Visible (c :: rest) :=
  List.dropWhile_cons_of_neg (by simp [visible])

/-- A digit is no blank. -/
theorem visible_of_isDigit {c : Char} (digit : c.isDigit) (rest : List Char) :
    Visible (c :: rest) := by
  refine visible_of_isBlank ?_ rest
  simp only [Char.isDigit, Bool.and_eq_true, decide_eq_true_eq, ge_iff_le, UInt32.le_iff_toNat_le]
    at digit
  have low : 48 ≤ c.toNat := digit.1
  have high : c.toNat ≤ 57 := digit.2
  simp [Text.isBlank]
  omega

theorem visible_padded (width n : Nat) (rest : List Char) :
    Visible ((padded width n).toList ++ rest) := by
  cases written : (padded width n).toList with
  | nil => exact absurd written (padded_ne_nil width n)
  | cons c text =>
    exact visible_of_isDigit (isDigit_of_mem_padded _ _ c (written ▸ List.mem_cons_self)) _

theorem blanks_run {text : List Char} (visible : Visible text) : blanks text = some ((), text) :=
  congrArg (fun rest => some ((), rest)) visible

/-- Two written digits are read as their number. -/
theorem twoDigits_run {n : Nat} (fits : n < 100) (rest : List Char) :
    twoDigits ((padded 2 n).toList ++ rest) = some (n, rest) := by
  have length := length_padded 2 (by decide) fits
  rw [twoDigits, bind_run (blanks_run (visible_padded 2 n rest)),
    bind_run (digits_run (isDigit_of_mem_padded 2 n) (padded_ne_nil 2 n) (Nat.le_of_eq length)
      (.inl length)), digitsValue_padded]
  rfl

/-- A separator is passed over. -/
theorem separator_run {c : Char} (visible : Text.isBlank c = false) (rest : List Char) :
    separator c (c :: rest) = some ((), rest) := by
  rw [separator, bind_run (blanks_run (visible_of_isBlank visible rest))]
  exact if_pos rfl

theorem get_run (text : List Char) : (get : Reader (List Char)) text = some (text, text) := rfl

theorem set_run (text rest : List Char) : (set rest : Reader PUnit) text = some (⟨⟩, rest) := rfl

/-- Behind a sign all digits up to the hyphen are taken. -/
theorem digits_padded_run (n : Nat) (rest : List Char) :
    digits ((padded 4 n).toList ++ '-' :: rest).length ((padded 4 n).toList ++ '-' :: rest) =
      some ((padded 4 n).toList, '-' :: rest) :=
  digits_run (isDigit_of_mem_padded 4 n) (padded_ne_nil 4 n) (by simp) (.inr rfl)

/-- Four digits are taken as they are. -/
theorem year_plain_run {n : Nat} (fits : n < 10 ^ 4) (rest : List Char) :
    year ((padded 4 n).toList ++ rest) = some ((n : Int), rest) := by
  have length := length_padded 4 (by decide) fits
  have read : digits 4 ((padded 4 n).toList ++ rest) = some ((padded 4 n).toList, rest) :=
    digits_run (isDigit_of_mem_padded 4 n) (padded_ne_nil 4 n) (Nat.le_of_eq length) (.inl length)
  have value := digitsValue_padded 4 n
  have visible := visible_padded 4 n rest
  -- the first digit is no sign
  cases written : (padded 4 n).toList with
  | nil => exact absurd written (padded_ne_nil 4 n)
  | cons c text =>
    have digit : c.isDigit := isDigit_of_mem_padded _ _ c (written ▸ List.mem_cons_self)
    rw [written, List.cons_append] at read visible
    rw [written] at value
    have minus : c ≠ '-' := by rintro rfl; cases digit
    have plus : c ≠ '+' := by rintro rfl; cases digit
    rw [List.cons_append, year, bind_run (blanks_run visible), bind_run (get_run _)]
    generalize front : c :: (text ++ rest) = whole at read
    split
    next =>
      cases front
      exact absurd rfl minus
    next =>
      cases front
      exact absurd rfl plus
    next =>
      rw [bind_run read, value]
      rfl

/-- **A written year is read as that year**, if a hyphen follows. -/
theorem year_run (y : Int) (rest : List Char) :
    year ((yearText y).toList ++ '-' :: rest) = some (y, '-' :: rest) := by
  have digits := digits_padded_run y.natAbs rest
  unfold yearText
  split
  next plain =>
    rw [year_plain_run (by omega), Int.toNat_of_nonneg plain.1]
  next signed =>
    rw [String.toList_append, List.append_assoc]
    split
    next negative =>
      rw [show "-".toList = ['-'] from rfl, List.cons_append, List.nil_append, year,
        bind_run (blanks_run (visible_of_isBlank (by decide) _)), bind_run (get_run _)]
      show (set _ >>= _ : Reader Int) _ = _
      rw [bind_run (set_run _ _), bind_run digits, digitsValue_padded]
      have value : -((y.natAbs : Nat) : Int) = y := by omega
      rw [value]
      rfl
    next positive =>
      rw [show "+".toList = ['+'] from rfl, List.cons_append, List.nil_append, year,
        bind_run (blanks_run (visible_of_isBlank (by decide) _)), bind_run (get_run _)]
      show (set _ >>= _ : Reader Int) _ = _
      rw [bind_run (set_run _ _), bind_run digits, digitsValue_padded]
      have value : ((y.natAbs : Nat) : Int) = y := by omega
      rw [value]
      rfl

/-- **The written date of a day is read as that date.** -/
theorem date_run {d : CivilDate} (valid : d.isValid = true) (month : d.month < 100)
    (day : d.day < 100) (years : firstYear ≤ d.year ∧ d.year ≤ lastYear) (rest : List Char) :
    date ((yearText d.year).toList ++ '-' :: ((padded 2 d.month).toList ++ '-' ::
      ((padded 2 d.day).toList ++ rest))) = some (d, rest) := by
  rw [date, bind_run (year_run d.year _), bind_run (separator_run (by decide) _),
    bind_run (twoDigits_run month _), bind_run (separator_run (by decide) _),
    bind_run (twoDigits_run day _)]
  exact congrFun (if_pos ⟨valid, years⟩) rest

/-- **A written fraction is read as its nanoseconds**, whatever zeros are left out. -/
theorem fraction_run {n : Nat} (fits : n < wholeSecond) (rest : List Char) :
    fraction ((fractionText n).toList ++ 'Z' :: rest) = some (n, 'Z' :: rest) := by
  have digits : ∀ (width m : Nat), 0 < width → width ≤ 9 → m < 10 ^ width →
      fraction ('.' :: ((padded width m).toList ++ 'Z' :: rest)) =
        some (m * 10 ^ (9 - width), 'Z' :: rest) := by
    intro width m positive short fits
    have length := length_padded width positive fits
    have read : Reader.digits 9 ((padded width m).toList ++ 'Z' :: rest) =
        some ((padded width m).toList, 'Z' :: rest) :=
      digits_run (isDigit_of_mem_padded width m) (padded_ne_nil width m) (by omega) (.inr rfl)
    rw [fraction, bind_run (get_run _)]
    show (set _ >>= _ : Reader Nat) _ = _
    rw [bind_run (set_run _ _), bind_run read, digitsValue_padded, length]
    rfl
  have fits : n < 1000000000 := fits
  have written : ∀ (width m : Nat), ("." ++ padded width m).toList ++ 'Z' :: rest =
      '.' :: ((padded width m).toList ++ 'Z' :: rest) := by
    intro width m
    rw [String.toList_append, show ".".toList = ['.'] from rfl, List.append_assoc,
      List.cons_append, List.nil_append]
  unfold fractionText
  split
  next zero =>
    subst zero
    rfl
  next =>
    split
    next milli =>
      have whole : n / 1000000 * 10 ^ (9 - 3) = n := by omega
      rw [written, digits 3 (n / 1000000) (by decide) (by decide) (by omega), whole]
    next =>
      split
      next micro =>
        have whole : n / 1000 * 10 ^ (9 - 6) = n := by omega
        rw [written, digits 6 (n / 1000) (by decide) (by decide) (by omega), whole]
      next =>
        rw [written, digits 9 n (by decide) (by decide) (by omega), Nat.sub_self, Nat.pow_zero,
          Nat.mul_one]

/-- **A written time of day is read with its leap second**: a sixtieth second stands for the second
before it with a fraction beyond a second. -/
theorem timeOfDay_run {second nanosecond : Nat} (inDay : second < 86400)
    (leap : nanosecond < wholeSecond ∨ (second % 60 = 59 ∧ nanosecond < 2 * wholeSecond))
    (rest : List Char) :
    timeOfDay ((padded 2 (second / 3600)).toList ++ ':' :: ((padded 2 (second / 60 % 60)).toList ++
      ':' :: ((padded 2 (second % 60 + nanosecond / wholeSecond)).toList ++
        ((fractionText (nanosecond % wholeSecond)).toList ++ 'Z' :: rest)))) =
      some ((second, nanosecond), 'Z' :: rest) := by
  have positive : 0 < wholeSecond := by decide
  have leap : nanosecond < 1000000000 ∨ (second % 60 = 59 ∧ nanosecond < 2 * 1000000000) := leap
  have carried : nanosecond / wholeSecond = nanosecond / 1000000000 := rfl
  rw [timeOfDay, bind_run (twoDigits_run (by omega) _), bind_run (separator_run (by decide) _),
    bind_run (twoDigits_run (by omega) _), bind_run (separator_run (by decide) _),
    bind_run (twoDigits_run (by omega) _),
    bind_run (fraction_run (Nat.mod_lt nanosecond positive) rest)]
  have inRange : ¬ (second / 3600 ≥ 24 ∨ second / 60 % 60 ≥ 60 ∨
      second % 60 + nanosecond / wholeSecond > 60) := by omega
  rw [if_neg inRange]
  show some ((_, _), _) = some ((_, _), _)
  rw [Option.some.injEq, Prod.mk.injEq, Prod.mk.injEq]
  refine ⟨⟨?_, ?_⟩, rfl⟩
  · split <;> omega
  · have parted := Nat.mod_add_div nanosecond wholeSecond
    split
    · have one : nanosecond / wholeSecond = 1 := by omega
      rw [one] at parted
      omega
    · have none' : nanosecond / wholeSecond = 0 := by omega
      rw [none'] at parted
      omega

/-- The letter at the end stands for universal time. -/
theorem offset_run : offset ['Z'] = some (0, []) := rfl

end Reader

/-- The parts of a text stamp, one behind the other. -/
theorem toList_text (t : Instant) :
    t.text.toList = (yearText (CivilDate.ofDay t.day).year).toList ++ '-' ::
      ((padded 2 (CivilDate.ofDay t.day).month).toList ++ '-' ::
      ((padded 2 (CivilDate.ofDay t.day).day).toList ++ 'T' ::
      ((padded 2 (t.second / 3600)).toList ++ ':' :: ((padded 2 (t.second / 60 % 60)).toList ++
      ':' :: ((padded 2 (t.second % 60 + t.nanosecond / wholeSecond)).toList ++
        ((fractionText (t.nanosecond % wholeSecond)).toList ++ ['Z'])))))) := by
  have hyphen : "-".toList = ['-'] := rfl
  have colon : ":".toList = [':'] := rfl
  have mark : "T".toList = ['T'] := rfl
  have zone : "Z".toList = ['Z'] := rfl
  simp only [text, String.toList_append, hyphen, colon, mark, zone, List.append_assoc,
    List.cons_append, List.nil_append]

/-- **The text of an instant is read as that instant.** -/
theorem ofText?_text (t : Instant) : ofText? t.text = some t := by
  obtain ⟨first, last, inDay, leap⟩ := id t.inRange
  have bounds := CivilDate.ofDay_bounds t.day
  have date := Reader.date_run (CivilDate.isValid_ofDay t.day) (by omega) (by omega)
    (year_ofDay_bounds first last)
  have timeOfDay := Reader.timeOfDay_run inDay leap []
  -- without an offset nothing is moved
  have moved : (CivilDate.ofDay t.day).toDay + ((t.second : Int) - 0 * 60) / 86400 = t.day ∧
      (((t.second : Int) - 0 * 60) % 86400).toNat = t.second := by
    rw [CivilDate.toDay_ofDay]
    omega
  have back : ofParts? t.day t.second t.nanosecond = some t := dif_pos t.inRange
  have run : Reader.instant t.text.toList = some (t, []) := by
    rw [toList_text, Reader.instant, Reader.bind_run (date _),
      Reader.bind_run (show Reader.timeMark ('T' :: _) = some ((), _) from rfl),
      Reader.bind_run timeOfDay]
    show (Reader.offset >>= _ : Reader Instant) ['Z'] = _
    rw [Reader.bind_run Reader.offset_run]
    show (((ofParts? _ _ _ : Option Instant) : Reader Instant) []) = _
    rw [moved.1, moved.2, back]
    rfl
  show (Reader.instant _).map Prod.fst = _
  rw [run]
  rfl

end BlockPipeline.Instant
