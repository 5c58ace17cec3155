import StepSequencer.Calendar.Civil

/-!
# Counting days

The days from 1 January 1970 to a date are those of the years between, of the months before it in
its year and of its own month (`Date.daysSinceEpoch`). The formula of `Date.dayNumber`, which
counts in years that start in March, gives the same number for every month of the calendar
(`Date.dayNumber_eq`), because it grows by the length of a year from one new year to the next
(`dayNumber_nextYear`) and by the length of a month from one to the next (`dayNumber_nextMonth`).

`ofDayNumber` takes a number of days apart again: 400 years, a century, four years, a year
(`exists_dayOfYear`) and a month. What comes out is a date that exists (`exists_ofDayNumber`) and
that has the number (`dayNumber_ofDayNumber`).
-/

set_option autoImplicit false
set_option relaxedAutoImplicit false

namespace StepSequencer.Calendar

/-! ### Years and months one after the other -/

/-- The number of days of a year. -/
def yearLength (year : Int) : Int :=
  if isLeapYear year then 366 else 365

/-- The days of some years from a first one on. -/
def daysOfYears (first : Int) : Nat → Int
  | 0 => 0
  | count + 1 => daysOfYears first count + yearLength (first + count)

/-- The days of some months from the start of a year on. -/
def daysOfMonths (year : Int) : Nat → Int
  | 0 => 0
  | count + 1 => daysOfMonths year count + daysInMonth year (count + 1)

/-- The days from 1 January 1970 to 1 January of a year; before 1970 they are negative. -/
def daysBeforeYear (year : Int) : Int :=
  if 1970 ≤ year then daysOfYears 1970 (year - 1970).toNat
  else -daysOfYears year (1970 - year).toNat

namespace Date

/-- The days from 1 January 1970 to a date, year by year and month by month. -/
def daysSinceEpoch (date : Date) : Int :=
  daysBeforeYear date.year + daysOfMonths date.year (date.month - 1).toNat + (date.day - 1)

/-- The month is one of twelve and has such a day. -/
def Exists (date : Date) : Prop :=
  1 ≤ date.month ∧ date.month ≤ 12 ∧ 1 ≤ date.day ∧ date.day ≤ daysInMonth date.year date.month

end Date

theorem isLeapYear_eq_true_iff {year : Int} :
    isLeapYear year = true ↔ year % 4 = 0 ∧ (year % 100 ≠ 0 ∨ year % 400 = 0) := by
  simp [isLeapYear]

/-- The first day of a year comes after all days of the year before. -/
theorem dayNumber_nextYear (year : Int) :
    (Date.mk (year + 1) 1 1).dayNumber = (Date.mk year 1 1).dayNumber + yearLength year := by
  rw [yearLength]
  by_cases h : isLeapYear year = true
  · rw [if_pos h]
    rw [isLeapYear_eq_true_iff] at h
    simp only [Date.dayNumber]
    omega
  · rw [if_neg h]
    rw [isLeapYear_eq_true_iff] at h
    simp only [Date.dayNumber]
    omega

/-! ### Years that start in March -/

/-- The days from 1 March of the year zero to 1 March of a year. -/
def daysBeforeMarch (year : Int) : Int :=
  365 * year + year / 4 - year / 100 + year / 400

/-- The date of a day of a month, where years start in March and months are counted from zero. -/
def Date.ofMarch (year month day : Int) : Date where
  year := if month < 10 then year else year + 1
  month := if month < 10 then month + 3 else month - 9
  day := day

theorem ofMarch_of_lt (year : Int) {month : Int} (h : month < 10) (day : Int) :
    Date.ofMarch year month day = ⟨year, month + 3, day⟩ := by
  rw [Date.ofMarch, if_pos h, if_pos h]

theorem ofMarch_of_le (year : Int) {month : Int} (h : 10 ≤ month) (day : Int) :
    Date.ofMarch year month day = ⟨year + 1, month - 9, day⟩ := by
  rw [Date.ofMarch, if_neg (by omega), if_neg (by omega)]

/-- The formula for the number of a day, for years that start in March: then the months before one
have `(153 * month + 2) / 5` days in every year. -/
theorem dayNumber_ofMarch (year : Int) {month : Int} (hfirst : 0 ≤ month) (hlast : month ≤ 11)
    (day : Int) :
    (Date.ofMarch year month day).dayNumber =
      daysBeforeMarch year + (153 * month + 2) / 5 + (day - 1) - epochOffset := by
  by_cases h : month < 10
  · have hle : ¬month + 3 ≤ 2 := by omega
    simp only [ofMarch_of_lt year h, Date.dayNumber, if_neg hle, Int.add_sub_cancel,
      daysBeforeMarch]
  · have hle : month - 9 ≤ 2 := by omega
    simp only [ofMarch_of_le year (Int.not_lt.mp h), Date.dayNumber, if_pos hle,
      Int.add_sub_cancel, Int.sub_add_cancel, daysBeforeMarch]

/-- From March to January the months are as long as the formula says. -/
theorem daysInMonth_ofMarch (year day : Int) {month : Int} (hfirst : 0 ≤ month)
    (hlast : month ≤ 10) :
    daysInMonth (Date.ofMarch year month day).year (Date.ofMarch year month day).month =
      (153 * (month + 1) + 2) / 5 - (153 * month + 2) / 5 := by
  have hcases : month = 0 ∨ month = 1 ∨ month = 2 ∨ month = 3 ∨ month = 4 ∨ month = 5 ∨
      month = 6 ∨ month = 7 ∨ month = 8 ∨ month = 9 ∨ month = 10 := by omega
  rcases hcases with rfl | rfl | rfl | rfl | rfl | rfl | rfl | rfl | rfl | rfl | rfl <;> rfl

/-- February has what the other months leave of a year. -/
theorem daysInMonth_february (year : Int) : daysInMonth year 2 = yearLength year - 337 := by
  rw [daysInMonth, yearLength, if_pos rfl]
  split <;> rfl

/-- The first day of a month comes after all days of the month before. From March on this does not
depend on the year, as the leap day comes last. -/
theorem dayNumber_nextMonth (year month : Int) (hfirst : 1 ≤ month) (hlast : month < 12) :
    (Date.mk year (month + 1) 1).dayNumber =
      (Date.mk year month 1).dayNumber + daysInMonth year month := by
  by_cases hfebruary : month = 2
  · have hyear := dayNumber_nextYear year
    subst hfebruary
    rw [daysInMonth_february]
    simp only [Date.dayNumber] at hyear ⊢
    omega
  · obtain ⟨marchYear, marchMonth, hfrom, hto, hthis, hnext⟩ :
        ∃ marchYear marchMonth, 0 ≤ marchMonth ∧ marchMonth ≤ 10 ∧
          Date.ofMarch marchYear marchMonth 1 = ⟨year, month, 1⟩ ∧
          Date.ofMarch marchYear (marchMonth + 1) 1 = ⟨year, month + 1, 1⟩ := by
      by_cases hjanuary : month = 1
      · refine ⟨year - 1, 10, by decide, by decide, ?_, ?_⟩ <;>
          simp [ofMarch_of_le, hjanuary]
      · refine ⟨year, month - 3, by omega, by omega, ?_, ?_⟩ <;>
          rw [ofMarch_of_lt year (by omega)] <;> congr 1 <;> omega
    have hdays : daysInMonth year month =
        (153 * (marchMonth + 1) + 2) / 5 - (153 * marchMonth + 2) / 5 := by
      have hmarch := daysInMonth_ofMarch marchYear 1 hfrom hto
      rwa [hthis] at hmarch
    rw [← hthis, ← hnext, dayNumber_ofMarch _ hfrom (by omega),
      dayNumber_ofMarch _ (by omega) (by omega)]
    omega

/-! ### Counting -/

/-- The first days of years are as far apart as the years between them are long. -/
theorem dayNumber_add_years (first : Int) (count : Nat) :
    (Date.mk (first + count) 1 1).dayNumber =
      (Date.mk first 1 1).dayNumber + daysOfYears first count := by
  induction count with
  | zero => simp [daysOfYears]
  | succ count ih =>
    rw [Int.natCast_succ, ← Int.add_assoc, dayNumber_nextYear, ih, daysOfYears, Int.add_assoc]

/-- The number of the first day of a year counts the years since the epoch, or those before it. -/
theorem dayNumber_newYear (year : Int) : (Date.mk year 1 1).dayNumber = daysBeforeYear year := by
  have hepoch : (Date.mk 1970 1 1).dayNumber = 0 := rfl
  rw [daysBeforeYear]
  split
  case isTrue h =>
    have hyears := dayNumber_add_years 1970 (year - 1970).toNat
    have hend : 1970 + (year - 1970) = year := by omega
    rwa [Int.toNat_of_nonneg (by omega), hepoch, hend, Int.zero_add] at hyears
  case isFalse h =>
    have hyears := dayNumber_add_years year (1970 - year).toNat
    have hend : year + (1970 - year) = 1970 := by omega
    rw [Int.toNat_of_nonneg (by omega), hend, hepoch] at hyears
    omega

/-- The first day of a month comes after the months of the year before it. -/
theorem dayNumber_add_months (year : Int) (count : Nat) (h : count < 12) :
    (Date.mk year (count + 1) 1).dayNumber =
      (Date.mk year 1 1).dayNumber + daysOfMonths year count := by
  induction count with
  | zero => simp [daysOfMonths]
  | succ count ih =>
    have hmonth := dayNumber_nextMonth year (count + 1) (by omega) (by omega)
    rw [Int.natCast_succ, hmonth, ih (by omega), daysOfMonths, Int.add_assoc]

theorem dayNumber_eq_firstDay (date : Date) :
    date.dayNumber = (Date.mk date.year date.month 1).dayNumber + (date.day - 1) := by
  simp only [Date.dayNumber]
  omega

/-- In the months of the calendar the formula counts year by year and month by month. -/
theorem Date.dayNumber_eq {date : Date} (hfirst : 1 ≤ date.month) (hlast : date.month ≤ 12) :
    date.dayNumber = date.daysSinceEpoch := by
  have hmonths := dayNumber_add_months date.year (date.month - 1).toNat (by omega)
  rw [Int.toNat_of_nonneg (by omega), Int.sub_add_cancel] at hmonths
  rw [dayNumber_eq_firstDay, hmonths, dayNumber_newYear, daysSinceEpoch]

/-! ### Taking a number of days apart -/

/-- Centuries, four years and years have the days that the leap years add up to. -/
theorem daysBeforeMarch_eq (cycle : Int) {century quadrennium year : Int}
    (hcentury : 0 ≤ century ∧ century ≤ 3) (hquadrennium : 0 ≤ quadrennium ∧ quadrennium ≤ 24)
    (hyear : 0 ≤ year ∧ year ≤ 3) :
    daysBeforeMarch (400 * cycle + 100 * century + 4 * quadrennium + year) =
      146097 * cycle + 36524 * century + 1461 * quadrennium + 365 * year := by
  have hfour : (400 * cycle + 100 * century + 4 * quadrennium + year) / 4 =
      100 * cycle + 25 * century + quadrennium := by omega
  have hhundred : (400 * cycle + 100 * century + 4 * quadrennium + year) / 100 =
      4 * cycle + century := by omega
  have hall : (400 * cycle + 100 * century + 4 * quadrennium + year) / 400 = cycle := by omega
  rw [daysBeforeMarch, hfour, hhundred, hall]
  omega

/-- The date of a day counted from 1 March of a year. -/
def Date.ofDayOfYear (year dayOfYear : Int) : Date :=
  .ofMarch year ((5 * dayOfYear + 2) / 153)
    (dayOfYear - (153 * ((5 * dayOfYear + 2) / 153) + 2) / 5 + 1)

/-- A day of 400 years lies in one of the years, and it is the last of 366 only before the March
of a leap year. -/
theorem exists_dayOfYear (cycle : Int) {day : Int} (hfirst : 0 ≤ day) (hlast : day < 146097) :
    ∃ year dayOfYear, Date.ofDayOfCycle cycle day = Date.ofDayOfYear year dayOfYear ∧
      0 ≤ dayOfYear ∧ dayOfYear ≤ 365 ∧ (dayOfYear = 365 → isLeapYear (year + 1) = true) ∧
      daysBeforeMarch year + dayOfYear = 146097 * cycle + day := by
  refine ⟨_, _, rfl, ?_⟩
  generalize hcentury : min 3 (day / 36524) = century
  have hcenturies : 0 ≤ century ∧ century ≤ 3 := by omega
  generalize hdayOfCentury : day - 36524 * century = dayOfCentury
  have hcenturyDays : 0 ≤ dayOfCentury ∧ dayOfCentury ≤ 36524 ∧
      (dayOfCentury = 36524 → century = 3) := by omega
  generalize hquadrennium : dayOfCentury / 1461 = quadrennium
  have hquadrennia : 0 ≤ quadrennium ∧ quadrennium ≤ 24 := by omega
  generalize hdayOfQuadrennium : dayOfCentury - 1461 * quadrennium = dayOfQuadrennium
  have hquadrenniumDays : 0 ≤ dayOfQuadrennium ∧ dayOfQuadrennium ≤ 1460 ∧
      (dayOfQuadrennium = 1460 → quadrennium = 24 → century = 3) := by omega
  generalize hyear : min 3 (dayOfQuadrennium / 365) = year
  have hyears : 0 ≤ year ∧ year ≤ 3 := by omega
  generalize hdayOfYear : dayOfQuadrennium - 365 * year = dayOfYear
  have hyearDays : 0 ≤ dayOfYear ∧ dayOfYear ≤ 365 ∧
      (dayOfYear = 365 → year = 3 ∧ dayOfQuadrennium = 1460) := by omega
  refine ⟨hyearDays.1, hyearDays.2.1, fun hleap ↦ ?_, ?_⟩
  · obtain ⟨rfl, hend⟩ := hyearDays.2.2 hleap
    have hexception := hquadrenniumDays.2.2 hend
    rw [isLeapYear_eq_true_iff]
    omega
  · rw [daysBeforeMarch_eq cycle hcenturies hquadrennia hyears]
    omega

/-- A day is as many days behind the first of March as it was made from. -/
theorem dayNumber_ofDayOfYear (year : Int) {dayOfYear : Int} (hfirst : 0 ≤ dayOfYear)
    (hlast : dayOfYear ≤ 365) :
    (Date.ofDayOfYear year dayOfYear).dayNumber =
      daysBeforeMarch year + dayOfYear - epochOffset := by
  rw [Date.ofDayOfYear, dayNumber_ofMarch year (by omega) (by omega)]
  omega

/-- The day of a month exists; in February the last one is the last of the year. -/
theorem exists_ofDayOfYear {year dayOfYear : Int} (hfirst : 0 ≤ dayOfYear)
    (hlast : dayOfYear ≤ 365) (hleap : dayOfYear = 365 → isLeapYear (year + 1) = true) :
    (Date.ofDayOfYear year dayOfYear).Exists := by
  rw [Date.ofDayOfYear]
  generalize hmonth : (5 * dayOfYear + 2) / 153 = month
  have hmonths : 1 ≤ (Date.ofMarch year month (dayOfYear - (153 * month + 2) / 5 + 1)).month ∧
      (Date.ofMarch year month (dayOfYear - (153 * month + 2) / 5 + 1)).month ≤ 12 := by
    simp only [Date.ofMarch]
    omega
  refine ⟨hmonths.1, hmonths.2, ?_, ?_⟩
  · simp only [Date.ofMarch]
    omega
  · by_cases hfebruary : month = 11
    · have hlength : dayOfYear < yearLength (year + 1) := by
        rw [yearLength]
        split
        · omega
        · rename_i hcommon
          have hne : dayOfYear ≠ 365 := fun heq ↦ hcommon (hleap heq)
          omega
      rw [ofMarch_of_le year (by omega), hfebruary]
      show dayOfYear - (153 * 11 + 2) / 5 + 1 ≤ daysInMonth (year + 1) 2
      rw [daysInMonth_february]
      omega
    · rw [daysInMonth_ofMarch year _ (by omega) (by omega)]
      simp only [Date.ofMarch]
      omega

/-- The date of a day is that of a day of a year that starts in March. -/
theorem exists_ofDayNumber_eq (number : Int) :
    ∃ year dayOfYear, Date.ofDayNumber number = Date.ofDayOfYear year dayOfYear ∧
      0 ≤ dayOfYear ∧ dayOfYear ≤ 365 ∧ (dayOfYear = 365 → isLeapYear (year + 1) = true) ∧
      daysBeforeMarch year + dayOfYear = number + epochOffset := by
  have hfirst := Int.emod_nonneg (number + epochOffset) (by decide : (146097 : Int) ≠ 0)
  have hlast := Int.emod_lt_of_pos (number + epochOffset) (by decide : (0 : Int) < 146097)
  have hparts := exists_dayOfYear ((number + epochOffset) / 146097) hfirst hlast
  rwa [Int.mul_ediv_add_emod] at hparts

/-- The date of a day exists. -/
theorem exists_ofDayNumber (number : Int) : (Date.ofDayNumber number).Exists := by
  obtain ⟨year, dayOfYear, hdate, hfirst, hlast, hleap, -⟩ := exists_ofDayNumber_eq number
  rw [hdate]
  exact exists_ofDayOfYear hfirst hlast hleap

/-- The date of a day has the number of the day. -/
theorem dayNumber_ofDayNumber (number : Int) : (Date.ofDayNumber number).dayNumber = number := by
  obtain ⟨year, dayOfYear, hdate, hfirst, hlast, -, hdays⟩ := exists_ofDayNumber_eq number
  rw [hdate, dayNumber_ofDayOfYear year hfirst hlast, hdays, Int.add_sub_cancel]

end StepSequencer.Calendar
