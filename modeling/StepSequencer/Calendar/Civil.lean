/-!
# Civil dates

Days are counted from 1 January 1970, and dates are those of the Gregorian calendar extended
over all years, with a year zero. `dayNumber` counts the days of a date; `ofDayNumber` finds the
date of a day. Both reckon in years that start in March, so that the leap day comes last: 400
such years have 146097 days, 100 have 36524 or one more, 4 have 1461 or one less.

`DateTime.ofInstant?` is the date and the time of day of an instant in milliseconds, if its year
lies between -262143 and 262142.
-/

set_option autoImplicit false
set_option relaxedAutoImplicit false

namespace StepSequencer.Calendar

/-- A date: a year, a month from 1, a day from 1. -/
structure Date where
  year : Int
  month : Int
  day : Int
deriving DecidableEq, Repr

/-- Whether a year has a leap day. -/
def isLeapYear (year : Int) : Bool :=
  year % 4 == 0 && (year % 100 != 0 || year % 400 == 0)

/-- The number of days of a month. -/
def daysInMonth (year month : Int) : Int :=
  if month = 2 then (if isLeapYear year then 29 else 28)
  else if month = 4 ∨ month = 6 ∨ month = 9 ∨ month = 11 then 30
  else 31

/-- The days from 1 March of the year zero to 1 January 1970. -/
def epochOffset : Int := 719468

namespace Date

/-- The days from 1 January 1970 to a date. -/
def dayNumber (date : Date) : Int :=
  let year := if date.month ≤ 2 then date.year - 1 else date.year
  let month := if date.month ≤ 2 then date.month + 9 else date.month - 3
  365 * year + year / 4 - year / 100 + year / 400 + (153 * month + 2) / 5 + (date.day - 1) -
    epochOffset

/-- The date of a day, given its number within 400 years that start in March, and their
number. -/
def ofDayOfCycle (cycle day : Int) : Date :=
  let century := min 3 (day / 36524)
  let dayOfCentury := day - 36524 * century
  let quadrennium := dayOfCentury / 1461
  let dayOfQuadrennium := dayOfCentury - 1461 * quadrennium
  let yearOfQuadrennium := min 3 (dayOfQuadrennium / 365)
  let dayOfYear := dayOfQuadrennium - 365 * yearOfQuadrennium
  let month := (5 * dayOfYear + 2) / 153
  let year := 400 * cycle + 100 * century + 4 * quadrennium + yearOfQuadrennium
  { year := if month < 10 then year else year + 1
    month := if month < 10 then month + 3 else month - 9
    day := dayOfYear - (153 * month + 2) / 5 + 1 }

/-- The date of a day counted from 1 January 1970. -/
def ofDayNumber (number : Int) : Date :=
  let day := number + epochOffset
  ofDayOfCycle (day / 146097) (day % 146097)

/-- The number of a date within its year, from 1. -/
def dayOfYear (date : Date) : Int :=
  date.dayNumber - (Date.mk date.year 1 1).dayNumber + 1

/-- The days since the last Monday. -/
def daysFromMonday (date : Date) : Int :=
  (date.dayNumber + 3) % 7

/-- The days since the last Sunday. -/
def daysFromSunday (date : Date) : Int :=
  (date.dayNumber + 4) % 7

/-- The number of weeks of a year in the reckoning whose weeks start on Monday and belong to
the year of their Thursday. -/
def weeksInYear (year : Int) : Int :=
  let first := (Date.mk year 1 1).daysFromMonday
  if first = 3 ∨ (first = 2 ∧ isLeapYear year) then 53 else 52

/-- The year and the number of the week a date belongs to. -/
def isoWeek (date : Date) : Int × Int :=
  let week := (date.dayOfYear - (date.daysFromMonday + 1) + 10) / 7
  if week < 1 then (date.year - 1, weeksInYear (date.year - 1))
  else if weeksInYear date.year < week then (date.year + 1, 1)
  else (date.year, week)

/-- The number of weeks begun in the year of a date, given the days since the week began. -/
def weekOfYear (date : Date) (daysIntoWeek : Int) : Int :=
  (date.dayOfYear - daysIntoWeek + 6) / 7

end Date

/-- A date and a time of day. -/
structure DateTime where
  date : Date
  hour : Int
  minute : Int
  second : Int
  millisecond : Int
deriving DecidableEq, Repr

/-- The milliseconds of a day. -/
def dayLength : Int := 86400000

/-- The first day of the calendar. -/
def firstDay : Int := (Date.mk (-262143) 1 1).dayNumber

/-- The last day of the calendar. -/
def lastDay : Int := (Date.mk 262142 12 31).dayNumber

namespace DateTime

/-- The date and the time of a day and the milliseconds since it began. -/
def ofDay (day millis : Int) : DateTime where
  date := Date.ofDayNumber day
  hour := millis / 3600000
  minute := millis / 60000 % 60
  second := millis / 1000 % 60
  millisecond := millis % 1000

/-- The date and the time of an instant, if it lies in the calendar. -/
def ofInstant? (instant : Int64) : Option DateTime :=
  let day := instant.toInt / dayLength
  if firstDay ≤ day ∧ day ≤ lastDay then some (ofDay day (instant.toInt % dayLength)) else none

/-- The whole seconds since 1 January 1970. -/
def seconds (time : DateTime) : Int :=
  time.date.dayNumber * 86400 + time.hour * 3600 + time.minute * 60 + time.second

end DateTime

end StepSequencer.Calendar
