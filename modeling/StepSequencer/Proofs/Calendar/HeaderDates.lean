import StepSequencer.Calendar.Pattern
import StepSequencer.Proofs.Calendar.DayCount
import StepSequencer.Proofs.Text.Lines

/-!
# Dates in headers

A header names a minute: a year, a month, a day, an hour and a minute (`Stamp`). `Stamp.read?`
reads such a text from its end, because only the year has no fixed width, and
`Stamp.minutesSinceEpoch` counts the days of the years and months before the stamp, without the
formula by which an instant is turned into a date.

Main statement: the header of an instant of the calendar is read as a minute that exists, and as
the one in which the instant lies. It is built from `read?_write_header`, about the text, and
`exists_stamp_ofDay`, about the conversion.
-/

set_option autoImplicit false
set_option relaxedAutoImplicit false

namespace StepSequencer.Calendar

open Json (decimal)

/-! ### Minutes of the calendar -/

/-- A date and a time up to the minute. -/
structure Stamp where
  date : Date
  hour : Int
  minute : Int
deriving DecidableEq, Repr

namespace Stamp

/-- The date exists, and the time is one of a day. -/
def Exists (stamp : Stamp) : Prop :=
  stamp.date.Exists ∧ 0 ≤ stamp.hour ∧ stamp.hour ≤ 23 ∧ 0 ≤ stamp.minute ∧ stamp.minute ≤ 59

/-- The minutes since the start of 1 January 1970. -/
def minutesSinceEpoch (stamp : Stamp) : Int :=
  (stamp.date.daysSinceEpoch * 24 + stamp.hour) * 60 + stamp.minute

/-- The first minute of the calendar. -/
def first : Stamp := ⟨⟨-262143, 1, 1⟩, 0, 0⟩

/-- The last minute of the calendar. -/
def last : Stamp := ⟨⟨262142, 12, 31⟩, 23, 59⟩

end Stamp

/-- The instant lies between the first and the last minute of the calendar. -/
def InCalendar (instant : Int64) : Prop :=
  Stamp.first.minutesSinceEpoch * 60000 ≤ instant.toInt ∧
    instant.toInt < (Stamp.last.minutesSinceEpoch + 1) * 60000

/-! ### Reading a header -/

/-- The year of a text: four digits, or at least four behind a minus, or at least five behind a
plus. -/
def readYear? : List Char → Option Int
  | '-' :: digits =>
    if 4 ≤ digits.length then (Text.numeral? digits).map fun n : Nat ↦ -(n : Int) else none
  | '+' :: digits =>
    if 5 ≤ digits.length then (Text.numeral? digits).map fun n : Nat ↦ (n : Int) else none
  | digits =>
    if digits.length = 4 then (Text.numeral? digits).map fun n : Nat ↦ (n : Int) else none

/-- The number of two digits. -/
def readPair? (tens ones : Char) : Option Int :=
  (Text.numeral? [tens, ones]).map fun n : Nat ↦ (n : Int)

/-- Reads a year, a month, a day, an hour and a minute. -/
def Stamp.read? (text : String) : Option Stamp :=
  match text.toList.reverse with
  | n₀ :: n₁ :: ':' :: h₀ :: h₁ :: ' ' :: d₀ :: d₁ :: '-' :: m₀ :: m₁ :: '-' :: year => do
    let year ← readYear? year.reverse
    let month ← readPair? m₁ m₀
    let day ← readPair? d₁ d₀
    let hour ← readPair? h₁ h₀
    let minute ← readPair? n₁ n₀
    return ⟨⟨year, month, day⟩, hour, minute⟩
  | _ => none

/-- The character of the tens of a number. -/
def tensChar (n : Int) : Char :=
  Char.ofNat (48 + (n / 10).toNat)

/-- The character of the ones of a number. -/
def onesChar (n : Int) : Char :=
  Char.ofNat (48 + (n % 10).toNat)

theorem twoDigits_zero (n : Int) : twoDigits .zero n = [tensChar n, onesChar n] := by
  rw [twoDigits, tensChar, onesChar]
  split
  · rename_i htens
    rw [htens]
    rfl
  · rfl

/-- Two digits are read back as a number below a hundred. -/
theorem readPair?_chars {n : Int} (hfirst : 0 ≤ n) (hlast : n < 100) :
    readPair? (tensChar n) (onesChar n) = some n := by
  have hdigits : ∀ tens < 10, ∀ ones < 10,
      Text.numeral? [Char.ofNat (48 + tens), Char.ofNat (48 + ones)] = some (10 * tens + ones) := by
    decide
  rw [readPair?, tensChar, onesChar, hdigits _ (by omega) _ (by omega), Option.map_some,
    Option.some.injEq]
  omega

theorem length_fillLeft (width : Nat) (c : Char) (text : List Char) :
    (fillLeft width c text).length = max width text.length := by
  rw [fillLeft, List.length_append, List.length_replicate]
  omega

/-- Zeros before a numeral do not count. -/
theorem numeral?_fillLeft (width n : Nat) :
    Text.numeral? (fillLeft width '0' (Nat.toDigits 10 n)) = some n := by
  have hdigits : (fillLeft width '0' (Nat.toDigits 10 n)).all Char.isDigit = true := by
    rw [fillLeft, List.all_append, Bool.and_eq_true]
    refine ⟨by simp, List.all_eq_true.mpr fun c hc ↦ ?_⟩
    exact Nat.isDigit_of_mem_toDigits (by omega) (by omega) hc
  have hne : fillLeft width '0' (Nat.toDigits 10 n) ≠ [] := by
    simp [fillLeft, Nat.toDigits_ne_nil]
  rw [Text.numeral?, if_pos ⟨hne, hdigits⟩, fillLeft, Nat.ofDigitChars_append,
    Nat.ofDigitChars_replicate_zero, Nat.mul_zero, Nat.ofDigitChars_ten_toDigits]

/-- A year with a minus sign is read as a negative number. -/
theorem readYear?_minus {digits : List Char} {n : Nat} (hlength : 4 ≤ digits.length)
    (h : Text.numeral? digits = some n) : readYear? ('-' :: digits) = some (-(n : Int)) := by
  rw [readYear?, if_pos hlength, h]
  rfl

/-- A year with a plus sign has five digits or more. -/
theorem readYear?_plus {digits : List Char} {n : Nat} (hlength : 5 ≤ digits.length)
    (h : Text.numeral? digits = some n) : readYear? ('+' :: digits) = some (n : Int) := by
  rw [readYear?, if_pos hlength, h]
  rfl

/-- A year without a sign has four digits. -/
theorem readYear?_digits {digits : List Char} {n : Nat} (hlength : digits.length = 4)
    (h : Text.numeral? digits = some n) : readYear? digits = some (n : Int) := by
  have hdigits : ∀ c ∈ digits, c.isDigit = true := by
    rw [Text.numeral?] at h
    split at h
    · rename_i hall
      exact List.all_eq_true.mp hall.2
    · cases h
  unfold readYear?
  split
  · exact absurd (hdigits '-' List.mem_cons_self) (by decide)
  · exact absurd (hdigits '+' List.mem_cons_self) (by decide)
  · rw [if_pos hlength, h]
    rfl

/-- Every year is read back from its text. -/
theorem readYear?_yearText (year : Int) : readYear? (yearText .zero year) = some year := by
  have hnumeral := fun width ↦ numeral?_fillLeft width year.natAbs
  have hlength := fun width ↦ length_fillLeft width '0' (Nat.toDigits 10 year.natAbs)
  by_cases hfour : 0 ≤ year ∧ year < 10000
  · have htext : yearText .zero year = fillLeft 4 '0' (Nat.toDigits 10 year.natAbs) := by
      simp [yearText, padded, digitsOf, hfour, Int.not_lt.mpr hfour.1]
    have hdigits : (Nat.toDigits 10 year.natAbs).length ≤ 4 :=
      (Nat.length_toDigits_le_iff (by decide) (by decide)).mpr (by omega)
    rw [htext, readYear?_digits (by rw [hlength]; omega) (hnumeral 4), Int.natAbs_of_nonneg hfour.1]
  · by_cases hnegative : year < 0
    · have htext : yearText .zero year =
          '-' :: fillLeft 4 '0' (Nat.toDigits 10 year.natAbs) := by
        simp [yearText, padded, digitsOf, hfour, hnegative]
      rw [htext, readYear?_minus (by rw [hlength]; omega) (hnumeral 4), Option.some.injEq]
      omega
    · have htext : yearText .zero year =
          '+' :: fillLeft 4 '0' (Nat.toDigits 10 year.natAbs) := by
        simp [yearText, padded, digitsOf, hfour, hnegative]
      have hdigits : ¬(Nat.toDigits 10 year.natAbs).length ≤ 4 := by
        rw [Nat.length_toDigits_le_iff (by decide) (by decide)]
        omega
      rw [htext, readYear?_plus (by rw [hlength]; omega) (hnumeral 4), Option.some.injEq]
      omega

/-- A header is the year, month and day behind dashes, and the hour and minute with a colon. -/
theorem toList_write_header (time : DateTime) :
    (TimePattern.header.write time).toList =
      yearText .zero time.date.year ++ ['-', tensChar time.date.month, onesChar time.date.month,
        '-', tensChar time.date.day, onesChar time.date.day, ' ', tensChar time.hour,
        onesChar time.hour, ':', tensChar time.minute, onesChar time.minute] := by
  simp [TimePattern.write, TimePattern.header, dashDate, zeroPadded, fieldText, numberText,
    twoDigits_zero]

/-- The stamp of a date and a time. -/
def DateTime.stamp (time : DateTime) : Stamp :=
  ⟨time.date, time.hour, time.minute⟩

/-- A header is read as the date and the time that it was written for. -/
theorem read?_write_header {time : DateTime} (h : time.stamp.Exists) :
    Stamp.read? (TimePattern.header.write time) = some time.stamp := by
  simp only [Stamp.Exists, Date.Exists, DateTime.stamp] at h
  have hshort : daysInMonth time.date.year time.date.month ≤ 31 := by
    rw [daysInMonth]
    split <;> split <;> omega
  have hreverse : (TimePattern.header.write time).toList.reverse =
      onesChar time.minute :: tensChar time.minute :: ':' :: onesChar time.hour ::
        tensChar time.hour :: ' ' :: onesChar time.date.day :: tensChar time.date.day :: '-' ::
        onesChar time.date.month :: tensChar time.date.month :: '-' ::
        (yearText .zero time.date.year).reverse := by
    rw [toList_write_header]
    simp
  rw [Stamp.read?, hreverse]
  simp only [List.reverse_reverse, readYear?_yearText]
  rw [readPair?_chars (by omega) (by omega), readPair?_chars (by omega) (by omega),
    readPair?_chars (by omega) (by omega), readPair?_chars (by omega) (by omega)]
  rfl

/-! ### The minute of an instant -/

theorem parse?_header : TimePattern.parse? "%Y-%m-%d %H:%M" = some TimePattern.header := by
  decide

/-- An instant is in the calendar if its day is. -/
theorem inCalendar_iff (instant : Int64) :
    InCalendar instant ↔
      firstDay ≤ instant.toInt / dayLength ∧ instant.toInt / dayLength ≤ lastDay := by
  have hfirst : Stamp.first.minutesSinceEpoch = (firstDay * 24 + 0) * 60 + 0 := by
    rw [firstDay, Date.dayNumber_eq (by decide) (by decide)]
    rfl
  have hlast : Stamp.last.minutesSinceEpoch = (lastDay * 24 + 23) * 60 + 59 := by
    rw [lastDay, Date.dayNumber_eq (by decide) (by decide)]
    rfl
  rw [InCalendar, hfirst, hlast, dayLength]
  omega

/-- An instant in the calendar has the date of its day, and its time on that day. -/
theorem ofInstant?_of_inCalendar {instant : Int64} (h : InCalendar instant) :
    DateTime.ofInstant? instant =
      some (.ofDay (instant.toInt / dayLength) (instant.toInt % dayLength)) := by
  rw [inCalendar_iff] at h
  rw [DateTime.ofInstant?, if_pos h]

/-- An instant outside the calendar has no date. -/
theorem ofInstant?_of_not_inCalendar {instant : Int64} (h : ¬InCalendar instant) :
    DateTime.ofInstant? instant = none := by
  rw [inCalendar_iff] at h
  rw [DateTime.ofInstant?, if_neg h]

/-- A number of milliseconds has an existing minute, and its number is rounded down, also before
1970: the day and the time of the day are quotient and remainder of the same floor division. -/
theorem exists_stamp_ofDay (millis : Int) :
    (DateTime.ofDay (millis / dayLength) (millis % dayLength)).stamp.Exists ∧
    (DateTime.ofDay (millis / dayLength) (millis % dayLength)).stamp.minutesSinceEpoch =
      millis / 60000 := by
  have hdate := exists_ofDayNumber (millis / dayLength)
  have hdays : (Date.ofDayNumber (millis / dayLength)).daysSinceEpoch = millis / dayLength := by
    rw [← Date.dayNumber_eq hdate.1 hdate.2.1, dayNumber_ofDayNumber]
  constructor
  · refine ⟨hdate, ?_⟩
    simp only [DateTime.stamp, DateTime.ofDay, dayLength]
    omega
  · simp only [Stamp.minutesSinceEpoch, DateTime.stamp, DateTime.ofDay, hdays]
    rw [dayLength]
    omega

/-- The header of an instant in the calendar is written from its date and time. -/
theorem format_of_inCalendar {instant : Int64} (h : InCalendar instant) :
    TimePattern.header.format instant = TimePattern.header.write
      (.ofDay (instant.toInt / dayLength) (instant.toInt % dayLength)) := by
  rw [TimePattern.format, ofInstant?_of_inCalendar h]

/-- The header of an instant is read as the minute in which the instant lies. -/
theorem exists_read?_format {instant : Int64} (h : InCalendar instant) :
    ∃ stamp, Stamp.read? (TimePattern.header.format instant) = some stamp ∧
      stamp.Exists ∧ stamp.minutesSinceEpoch = instant.toInt / 60000 := by
  obtain ⟨hexists, hminutes⟩ := exists_stamp_ofDay instant.toInt
  refine ⟨_, ?_, hexists, hminutes⟩
  rw [format_of_inCalendar h, read?_write_header hexists]

/-- Only the minute of an instant counts for its header. -/
theorem write_header_congr {millis other : Int} (h : millis / 60000 = other / 60000) :
    TimePattern.header.write (.ofDay (millis / dayLength) (millis % dayLength)) =
      TimePattern.header.write (.ofDay (other / dayLength) (other % dayLength)) := by
  have hday : millis / dayLength = other / dayLength := by
    rw [dayLength]
    omega
  have hhour : millis % dayLength / 3600000 = other % dayLength / 3600000 := by
    rw [dayLength]
    omega
  have hminute : millis % dayLength / 60000 % 60 = other % dayLength / 60000 % 60 := by
    rw [dayLength]
    omega
  rw [← String.toList_inj, toList_write_header, toList_write_header]
  simp only [DateTime.ofDay, hday, hhour, hminute]

/-- The header of an instant of the calendar names a minute that exists, and it is the minute of
the instant, rounded down also before 1970. So the headers of two such instants are the same
exactly if they lie in the same minute. The header of any other instant is its number of
milliseconds. -/
theorem format_header_names_minute (instant : Int64) :
    formatInstant? "%Y-%m-%d %H:%M" instant = some (TimePattern.header.format instant) ∧
    (InCalendar instant → ∃ stamp, Stamp.read? (TimePattern.header.format instant) = some stamp ∧
      stamp.Exists ∧ stamp.minutesSinceEpoch = instant.toInt / 60000) ∧
    (¬InCalendar instant → TimePattern.header.format instant = decimal instant.toInt) ∧
    ∀ other, InCalendar instant → InCalendar other →
      (TimePattern.header.format instant = TimePattern.header.format other ↔
        instant.toInt / 60000 = other.toInt / 60000) := by
  refine ⟨?_, exists_read?_format, fun h ↦ ?_, fun other h hother ↦ ?_⟩
  · rw [formatInstant?, parse?_header, TimePattern.format]
    split <;> rfl
  · rw [TimePattern.format, ofInstant?_of_not_inCalendar h]
  · constructor
    · intro htext
      obtain ⟨stamp, hstamp, -, hminutes⟩ := exists_read?_format h
      obtain ⟨same, hsame, -, hothers⟩ := exists_read?_format hother
      rw [htext, hsame, Option.some.injEq] at hstamp
      rw [← hminutes, ← hothers, hstamp]
    · intro hminute
      rw [format_of_inCalendar h, format_of_inCalendar hother, write_header_congr hminute]

/-- The last and the first millisecond of 1969-12-31 23:59 have the same header, and an instant
behind the calendar has its number. -/
theorem names_minute_lastOf1969 :
    ((∃ stamp, Stamp.read? (TimePattern.header.format (-1)) = some stamp ∧
        stamp.Exists ∧ stamp.minutesSinceEpoch = -1) ∧
      TimePattern.header.format (-1) = TimePattern.header.format (-60000) ∧
      TimePattern.header.format (-1) ≠ TimePattern.header.format (-60001)) ∧
    TimePattern.header.format Int64.maxValue = decimal 9223372036854775807 := by
  have hlast : InCalendar (-1) := (inCalendar_iff _).mpr (by decide)
  have hfirst : InCalendar (-60000) := (inCalendar_iff _).mpr (by decide)
  have hbefore : InCalendar (-60001) := (inCalendar_iff _).mpr (by decide)
  have hbehind : ¬InCalendar Int64.maxValue :=
    fun h ↦ absurd ((inCalendar_iff _).mp h) (by decide)
  obtain ⟨-, hread, -, hsame⟩ := format_header_names_minute (-1)
  obtain ⟨-, -, hnumber, -⟩ := format_header_names_minute Int64.maxValue
  refine ⟨⟨hread hlast, (hsame _ hlast hfirst).mpr (by decide), fun heq ↦ ?_⟩, hnumber hbehind⟩
  exact absurd ((hsame _ hlast hbefore).mp heq) (by decide)

end StepSequencer.Calendar
