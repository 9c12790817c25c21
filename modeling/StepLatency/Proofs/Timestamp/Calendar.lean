import Mathlib
import StepLatency.Timestamp.Calendar

/-!
# Days and dates

Every day has a date, and the date has the number of the day. Within four hundred years the year is
found by a division that allows for the leap days; the century of the day says by how much.
-/

namespace StepLatency.Timestamp

/-! ### Days of an era -/

def yearOfEra (dayOfEra : Nat) : Nat :=
  (dayOfEra - dayOfEra / 1460 + dayOfEra / 36524 - dayOfEra / 146096) / 365

def yearStart (year : Nat) : Nat := 365 * year + year / 4 - year / 100

def dayOfYear (dayOfEra : Nat) : Nat := dayOfEra - yearStart (yearOfEra dayOfEra)

section Era

variable {day : Nat}

theorem yearOfEra_last : yearOfEra 146096 = 399 := by decide

theorem yearOfEra_of_lt (hday : day < 146096) :
    yearOfEra day = (day - day / 1460 + day / 36524) / 365 := by
  have hlast : day / 146096 = 0 := Nat.div_eq_of_lt hday
  rw [yearOfEra, hlast, Nat.sub_zero]

/-- The centuries of days and of years agree, but for the last day of an era. -/
theorem century_yearOfEra (hday : day < 146096) : yearOfEra day / 100 = day / 36524 := by
  have hcentury : day / 36524 = 0 ∨ day / 36524 = 1 ∨ day / 36524 = 2 ∨ day / 36524 = 3 := by omega
  rw [yearOfEra_of_lt hday]
  rcases hcentury with h | h | h | h <;> rw [h] <;> omega

theorem yearOfEra_lt (hday : day < 146097) : yearOfEra day < 400 := by
  unfold yearOfEra
  omega

/-- The year has begun on the day. -/
theorem yearStart_yearOfEra_le (hday : day < 146097) : yearStart (yearOfEra day) ≤ day := by
  rcases Nat.lt_or_eq_of_le (Nat.le_of_lt_succ hday) with hlt | rfl
  · have hcentury := century_yearOfEra hlt
    have hyear := yearOfEra_of_lt hlt
    generalize yearOfEra day = year at *
    have hleap : year / 4 ≤ day / 1460 := by omega
    unfold yearStart
    omega
  · rw [yearOfEra_last]
    decide

/-- The next year has not begun on the day. -/
theorem lt_yearStart_succ (hday : day < 146096) : day < yearStart (yearOfEra day + 1) := by
  have hcentury := century_yearOfEra hday
  have hyear := yearOfEra_of_lt hday
  generalize yearOfEra day = year at *
  unfold yearStart
  by_cases hend : year + 1 = 100 * (day / 36524 + 1)
  · rw [hend]
    omega
  · have hsame : (year + 1) / 100 = day / 36524 := by omega
    have hleap : day / 1460 ≤ (year + 1) / 4 := by omega
    omega

theorem yearStart_succ (year : Nat) :
    yearStart (year + 1) ≤ yearStart year + 366 ∧
      (yearStart (year + 1) = yearStart year + 366 →
        (year + 1) % 4 = 0 ∧ (year + 1) % 100 ≠ 0) := by
  unfold yearStart
  omega

/-- A year has 366 days only if it ends in a leap February. -/
theorem dayOfYear_bounds (hday : day < 146097) :
    dayOfYear day ≤ 365 ∧
      (dayOfYear day = 365 →
        (yearOfEra day + 1) % 4 = 0 ∧
          ((yearOfEra day + 1) % 100 ≠ 0 ∨ yearOfEra day = 399)) := by
  unfold dayOfYear
  rcases Nat.lt_or_eq_of_le (Nat.le_of_lt_succ hday) with hlt | rfl
  · have hnext := lt_yearStart_succ hlt
    obtain ⟨hlength, hleap⟩ := yearStart_succ (yearOfEra day)
    refine ⟨by omega, fun hlast => ?_⟩
    obtain ⟨hfour, hcentury⟩ := hleap (by omega)
    exact ⟨hfour, .inl hcentury⟩
  · rw [yearOfEra_last]
    decide

end Era

/-! ### Months of a year -/

/-- The days before a month of a year that begins in March. -/
def monthStart (month : Nat) : Nat := (153 * month + 2) / 5

def monthOfYear (dayOfYear : Nat) : Nat := (5 * dayOfYear + 2) / 153

/-- The number of a month that is counted from March on. -/
def calendarMonth (month : Nat) : Nat := if month < 10 then month + 3 else month - 9

theorem month_bounds {day : Nat} (hday : day ≤ 365) :
    monthOfYear day < 12 ∧ monthStart (monthOfYear day) ≤ day ∧
      day < monthStart (monthOfYear day + 1) := by
  unfold monthStart monthOfYear
  omega

theorem calendarMonth_bounds {month : Nat} (hmonth : month < 12) :
    1 ≤ calendarMonth month ∧ calendarMonth month ≤ 12 ∧
      (calendarMonth month + 9) % 12 = month := by
  unfold calendarMonth
  split <;> omega

/-- All months but February have the days that the rule of five gives them. -/
theorem daysInMonth_calendarMonth (year : Int) {month : Nat} (hmonth : month < 11) :
    daysInMonth year (calendarMonth month) = monthStart (month + 1) - monthStart month := by
  have hall : ∀ month < 11, calendarMonth month ≠ 2 ∧
      (if calendarMonth month = 4 ∨ calendarMonth month = 6 ∨ calendarMonth month = 9 ∨
        calendarMonth month = 11 then 30 else 31) = monthStart (month + 1) - monthStart month := by
    decide
  obtain ⟨hfebruary, hdays⟩ := hall month hmonth
  rw [daysInMonth, if_neg hfebruary, hdays]

theorem daysInMonth_february (year : Int) :
    daysInMonth year (calendarMonth 11) = if isLeapYear year then 29 else 28 :=
  rfl

namespace Date

/-- A date told by an era, a year of it, a month from March on and a day of the month, the last three
counted from zero. -/
def fromMarch (era : Int) (year month day : Nat) : Date :=
  ⟨if calendarMonth month ≤ 2 then era * 400 + year + 1 else era * 400 + year, calendarMonth month,
    day + 1⟩

/-- The day is one of the month. February is long where the next year of the era is a leap year. -/
structure InMonth (year month day : Nat) : Prop where
  year_lt : year < 400
  month_lt : month < 12
  lt_next : monthStart month + day < monthStart (month + 1)
  february : month = 11 → day ≤ 28
  leap : month = 11 → day = 28 → (year + 1) % 4 = 0 ∧ ((year + 1) % 100 ≠ 0 ∨ year = 399)

section FromMarch

variable {era : Int} {year month day : Nat}

/-- The number of a day adds up the days of whole eras, years and months before it. -/
theorem dayNumber_fromMarch (h : InMonth year month day) :
    (fromMarch era year month day).dayNumber =
      era * daysPerEra + (yearStart year + monthStart month + day : Nat) - epochOffset := by
  have hyear := h.year_lt
  obtain ⟨-, -, hmarch⟩ := calendarMonth_bounds h.month_lt
  have hcentury : year / 100 ≤ 365 * year + year / 4 := by omega
  have hera : (era * 400 + year) % 400 = year ∧ (era * 400 + year) / 400 = era := by omega
  have hcalendar : (if calendarMonth month ≤ 2 then
      (if calendarMonth month ≤ 2 then era * 400 + year + 1 else era * 400 + (year : Int)) - 1
      else if calendarMonth month ≤ 2 then era * 400 + year + 1 else era * 400 + (year : Int)) =
      era * 400 + year := by
    split <;> omega
  unfold dayNumber fromMarch yearStart monthStart
  dsimp only
  rw [hcalendar, hmarch, hera.1, hera.2]
  push_cast [hcentury]
  omega

theorem isValid_fromMarch (h : InMonth year month day) :
    (fromMarch era year month day).isValid = true := by
  obtain ⟨hfirst, htwelfth, -⟩ := calendarMonth_bounds h.month_lt
  have hdays : day + 1 ≤ daysInMonth (fromMarch era year month day).year (calendarMonth month) := by
    rcases Nat.lt_or_eq_of_le (Nat.le_of_lt_succ h.month_lt) with hmonth | rfl
    · have hnext := h.lt_next
      rw [daysInMonth_calendarMonth _ hmonth]
      omega
    · have hlong := h.february rfl
      have hleap := h.leap rfl
      have hyear : (fromMarch era year 11 day).year = era * 400 + year + 1 := rfl
      rw [daysInMonth_february, hyear, isLeapYear]
      split
      · omega
      · rename_i hnot
        simp only [Bool.and_eq_true, beq_iff_eq, Bool.or_eq_true, bne_iff_ne] at hnot
        omega
  have hpositive : 1 ≤ day + 1 := Nat.le_add_left 1 day
  unfold isValid
  simp only [Bool.and_eq_true, decide_eq_true_eq]
  exact ⟨⟨⟨hfirst, htwelfth⟩, hpositive⟩, hdays⟩

end FromMarch

/-! ### Dates of days -/

/-- The date of a day, in a year that begins in March. -/
theorem exists_ofDayNumber_eq (n : Int) :
    ∃ year month day, InMonth year month day ∧
      ofDayNumber n = fromMarch ((n + epochOffset) / daysPerEra) year month day ∧
      yearStart year + monthStart month + day = ((n + epochOffset) % daysPerEra).toNat := by
  have hday : ((n + epochOffset) % daysPerEra).toNat < 146097 := by
    unfold daysPerEra
    omega
  have hdate : ofDayNumber n = fromMarch ((n + epochOffset) / daysPerEra)
      (yearOfEra ((n + epochOffset) % daysPerEra).toNat)
      (monthOfYear (dayOfYear ((n + epochOffset) % daysPerEra).toNat))
      (dayOfYear ((n + epochOffset) % daysPerEra).toNat -
        monthStart (monthOfYear (dayOfYear ((n + epochOffset) % daysPerEra).toNat))) := rfl
  rw [hdate]
  generalize ((n + epochOffset) % daysPerEra).toNat = day at *
  have hbegun := yearStart_yearOfEra_le hday
  obtain ⟨hlength, hleap⟩ := dayOfYear_bounds hday
  obtain ⟨hmonth, hstart, hnext⟩ := month_bounds hlength
  have hsum : yearStart (yearOfEra day) + dayOfYear day = day := Nat.add_sub_of_le hbegun
  refine ⟨_, _, _, ⟨yearOfEra_lt hday, hmonth, by omega, fun hlast => ?_, fun hlast hlong => ?_⟩,
    rfl, by omega⟩
  · rw [hlast, monthStart]
    omega
  · rw [hlast, monthStart] at hlong
    exact hleap (by omega)

/-- The date of a day has the number of the day. -/
theorem dayNumber_ofDayNumber (n : Int) : (ofDayNumber n).dayNumber = n := by
  obtain ⟨year, month, day, hinMonth, hdate, hday⟩ := exists_ofDayNumber_eq n
  rw [hdate, dayNumber_fromMarch hinMonth, hday]
  unfold daysPerEra
  omega

/-- Every day has a date. -/
theorem isValid_ofDayNumber (n : Int) : (ofDayNumber n).isValid = true := by
  obtain ⟨year, month, day, hinMonth, hdate, -⟩ := exists_ofDayNumber_eq n
  rw [hdate]
  exact isValid_fromMarch hinMonth

theorem year_ofDayNumber_bounds (n : Int) :
    (n + epochOffset) / daysPerEra * 400 ≤ (ofDayNumber n).year ∧
      (ofDayNumber n).year ≤ (n + epochOffset) / daysPerEra * 400 + 400 := by
  obtain ⟨year, month, day, hinMonth, hdate, -⟩ := exists_ofDayNumber_eq n
  have hyear := hinMonth.year_lt
  rw [hdate, fromMarch]
  dsimp only
  split <;> omega

end Date

end StepLatency.Timestamp
