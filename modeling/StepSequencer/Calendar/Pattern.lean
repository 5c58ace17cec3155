import StepSequencer.Calendar.Civil
import StepSequencer.Json.Mismatch

/-!
# Instants as text

A time pattern is text with fields, each a percent sign and a letter. `TimePattern.parse?` reads
one and fails on a field that does not exist. A numeric field can be padded with zeros or spaces
or not at all, whatever its own habit is, by a sign before its letter. Times are those of UTC.

`TimePattern.format` writes an instant; one outside the calendar is written as its number of
milliseconds. A year beyond four digits has a sign, and so has a negative one. The century is
written as two digits reckoned from the byte of its number, also where it has no two digits.
-/

set_option autoImplicit false
set_option relaxedAutoImplicit false

namespace StepSequencer.Calendar

open Json (decimal)

/-! ### Fields -/

/-- How a short number is filled up. -/
inductive Padding where
  | none
  | zero
  | space
deriving DecidableEq, Repr

/-- The fields that are numbers. -/
inductive NumberField where
  | year
  | century
  | yearOfCentury
  | isoYear
  | isoYearOfCentury
  | quarter
  | month
  | day
  | dayOfYear
  | weekFromSunday
  | weekFromMonday
  | isoWeek
  | weekdayFromSunday
  | weekdayFromMonday
  | hour
  | halfDayHour
  | minute
  | second
  | nanosecond
  | timestamp
deriving DecidableEq, Repr

/-- The parts of a time pattern. -/
inductive TimeField where
  | literal (c : Char)
  | number (field : NumberField) (padding : Padding)
  | shortWeekday
  | weekday
  | shortMonth
  | month
  | upperHalf
  | lowerHalf
  | zoneName
  | zoneOffset (text : String)
  | pointAndFraction
  | fraction (places : Nat)
  | internet
deriving DecidableEq, Repr

/-- A time pattern. -/
structure TimePattern where
  fields : List TimeField
deriving DecidableEq, Repr

/-! ### Reading a pattern -/

/-- A number filled up with zeros. -/
def zeroPadded (field : NumberField) : TimeField :=
  .number field .zero

/-- A number filled up with spaces. -/
def spacePadded (field : NumberField) : TimeField :=
  .number field .space

/-- The fields of a date with slashes. -/
def slashDate : List TimeField :=
  [zeroPadded .month, .literal '/', zeroPadded .day, .literal '/', zeroPadded .yearOfCentury]

/-- The fields of a date with dashes. -/
def dashDate : List TimeField :=
  [zeroPadded .year, .literal '-', zeroPadded .month, .literal '-', zeroPadded .day]

/-- The fields of a time of day. -/
def clock : List TimeField :=
  [zeroPadded .hour, .literal ':', zeroPadded .minute, .literal ':', zeroPadded .second]

/-- The fields that a letter stands for. -/
def letterFields? (letter : Char) : Option (List TimeField) :=
  match letter with
  | 'A' => some [.weekday]
  | 'B' => some [.month]
  | 'C' => some [zeroPadded .century]
  | 'D' => some slashDate
  | 'F' => some dashDate
  | 'G' => some [zeroPadded .isoYear]
  | 'H' => some [zeroPadded .hour]
  | 'I' => some [zeroPadded .halfDayHour]
  | 'M' => some [zeroPadded .minute]
  | 'P' => some [.lowerHalf]
  | 'R' => some [zeroPadded .hour, .literal ':', zeroPadded .minute]
  | 'S' => some [zeroPadded .second]
  | 'T' => some clock
  | 'U' => some [zeroPadded .weekFromSunday]
  | 'V' => some [zeroPadded .isoWeek]
  | 'W' => some [zeroPadded .weekFromMonday]
  | 'X' => some clock
  | 'Y' => some [zeroPadded .year]
  | 'Z' => some [.zoneName]
  | 'a' => some [.shortWeekday]
  | 'b' => some [.shortMonth]
  | 'c' => some ([.shortWeekday, .literal ' ', .shortMonth, .literal ' ', spacePadded .day,
      .literal ' '] ++ clock ++ [.literal ' ', zeroPadded .year])
  | 'd' => some [zeroPadded .day]
  | 'e' => some [spacePadded .day]
  | 'f' => some [zeroPadded .nanosecond]
  | 'g' => some [zeroPadded .isoYearOfCentury]
  | 'h' => some [.shortMonth]
  | 'j' => some [zeroPadded .dayOfYear]
  | 'k' => some [spacePadded .hour]
  | 'l' => some [spacePadded .halfDayHour]
  | 'm' => some [zeroPadded .month]
  | 'n' => some [.literal '\n']
  | 'p' => some [.upperHalf]
  | 'q' => some [.number .quarter .none]
  | 'r' => some [zeroPadded .halfDayHour, .literal ':', zeroPadded .minute, .literal ':',
      zeroPadded .second, .literal ' ', .upperHalf]
  | 's' => some [.number .timestamp .none]
  | 't' => some [.literal '\t']
  | 'u' => some [.number .weekdayFromMonday .none]
  | 'v' => some [spacePadded .day, .literal '-', .shortMonth, .literal '-', zeroPadded .year]
  | 'w' => some [.number .weekdayFromSunday .none]
  | 'x' => some slashDate
  | 'y' => some [zeroPadded .yearOfCentury]
  | 'z' => some [.zoneOffset "+0000"]
  | '+' => some [.internet]
  | '%' => some [.literal '%']
  | _ => none

/-- The places of a fraction that a digit asks for. -/
def places? (digit : Char) : Option Nat :=
  if digit = '3' then some 3
  else if digit = '6' then some 6
  else if digit = '9' then some 9
  else none

/-- The fields behind a percent sign, and what follows them. -/
def readField? : List Char → Option (List TimeField × List Char)
  | ':' :: ':' :: ':' :: 'z' :: rest => some ([.zoneOffset "+00"], rest)
  | ':' :: ':' :: 'z' :: rest => some ([.zoneOffset "+00:00:00"], rest)
  | ':' :: 'z' :: rest => some ([.zoneOffset "+00:00"], rest)
  | '.' :: 'f' :: rest => some ([.pointAndFraction], rest)
  | '.' :: digit :: 'f' :: rest =>
    (places? digit).map fun places ↦ ([.literal '.', .fraction places], rest)
  | letter :: rest =>
    match places? letter, rest with
    | some places, 'f' :: rest => some ([.fraction places], rest)
    | _, _ => (letterFields? letter).map fun fields ↦ (fields, rest)
  | [] => none

/-- The padding that a sign asks for. -/
def padding? (sign : Char) : Option Padding :=
  if sign = '-' then some .none
  else if sign = '0' then some .zero
  else if sign = '_' then some .space
  else none

/-- A single number with another padding. -/
def repad? (padding : Padding) : List TimeField → Option TimeField
  | [.number field _] => some (.number field padding)
  | _ => none

/-- The fields behind a percent sign that may start with a padding, and what follows them. -/
def readPaddedField? : List Char → Option (List TimeField × List Char)
  | [] => none
  | sign :: rest =>
    match padding? sign with
    | none => readField? (sign :: rest)
    | some padding => do
      let (fields, rest) ← readField? rest
      let field ← repad? padding fields
      return ([field], rest)

/-- Reads a pattern. The first argument bounds the number of its parts. -/
def readFields? : Nat → List Char → Option (List TimeField)
  | _, [] => some []
  | 0, _ :: _ => none
  | bound + 1, c :: rest =>
    if c = '%' then do
      let (fields, rest) ← readPaddedField? rest
      let others ← readFields? bound rest
      return fields ++ others
    else do
      let others ← readFields? bound rest
      return .literal c :: others

/-- The time pattern of a text. -/
def TimePattern.parse? (text : String) : Option TimePattern :=
  (readFields? text.length text.toList).map TimePattern.mk

/-! ### Writing an instant -/

/-- A text filled up on the left to a width. -/
def fillLeft (width : Nat) (c : Char) (text : List Char) : List Char :=
  List.replicate (width - text.length) c ++ text

/-- The decimal digits of a natural. -/
def digitsOf (n : Int) : List Char :=
  Nat.toDigits 10 n.natAbs

/-- A number at least so many characters wide, with a sign when negative or when asked for;
zeros stand behind the sign, spaces before it. -/
def padded (width : Nat) (padding : Padding) (signed : Bool) (n : Int) : List Char :=
  let sign := if n < 0 then ['-'] else if signed then ['+'] else []
  match padding with
  | .none => sign ++ digitsOf n
  | .zero => sign ++ fillLeft (width - sign.length) '0' (digitsOf n)
  | .space => fillLeft width ' ' (sign ++ digitsOf n)

/-- A byte as two digits, of which the first may be beyond nine. -/
def twoDigits (padding : Padding) (n : Int) : List Char :=
  let tens := n / 10
  let ones := Char.ofNat (48 + (n % 10).toNat)
  if tens = 0 then
    match padding with
    | .none => [ones]
    | .zero => ['0', ones]
    | .space => [' ', ones]
  else [Char.ofNat (48 + tens.toNat), ones]

/-- A year: at least four digits, and a sign unless it has at most four and is not negative. -/
def yearText (padding : Padding) (year : Int) : List Char :=
  if 0 ≤ year ∧ year < 10000 then padded 4 padding false year
  else padded 5 padding true year

/-- The hour on a dial of twelve. -/
def dialHour (hour : Int) : Int :=
  if hour % 12 = 0 then 12 else hour % 12

/-- The text of a numeric field. -/
def numberText (time : DateTime) (padding : Padding) : NumberField → List Char
  | .year => yearText padding time.date.year
  | .century => twoDigits padding (time.date.year / 100 % 256)
  | .yearOfCentury => twoDigits padding (time.date.year % 100)
  | .isoYear => yearText padding time.date.isoWeek.1
  | .isoYearOfCentury => twoDigits padding (time.date.isoWeek.1 % 100)
  | .quarter => digitsOf ((time.date.month - 1) / 3 + 1)
  | .month => twoDigits padding time.date.month
  | .day => twoDigits padding time.date.day
  | .dayOfYear => padded 3 padding false time.date.dayOfYear
  | .weekFromSunday => twoDigits padding (time.date.weekOfYear time.date.daysFromSunday)
  | .weekFromMonday => twoDigits padding (time.date.weekOfYear time.date.daysFromMonday)
  | .isoWeek => twoDigits padding time.date.isoWeek.2
  | .weekdayFromSunday => digitsOf time.date.daysFromSunday
  | .weekdayFromMonday => digitsOf (time.date.daysFromMonday + 1)
  | .hour => twoDigits padding time.hour
  | .halfDayHour => twoDigits padding (dialHour time.hour)
  | .minute => twoDigits padding time.minute
  | .second => twoDigits padding time.second
  | .nanosecond => padded 9 padding false (time.millisecond * 1000000)
  | .timestamp => padded 9 padding false time.seconds

/-- The names of the days of the week, Monday first. -/
def weekdayNames : List String :=
  ["Monday", "Tuesday", "Wednesday", "Thursday", "Friday", "Saturday", "Sunday"]

/-- The names of the months. -/
def monthNames : List String :=
  ["January", "February", "March", "April", "May", "June", "July", "August", "September",
    "October", "November", "December"]

/-- The name at a position. -/
def nameAt (names : List String) (position : Int) : List Char :=
  (names.getD position.toNat "").toList

/-- The milliseconds as digits of a fraction. -/
def fractionDigits (places : Nat) (millisecond : Int) : List Char :=
  fillLeft 3 '0' (digitsOf millisecond) ++ List.replicate (places - 3) '0'

/-- A point and a fraction, or nothing for a whole second. -/
def optionalFraction (millisecond : Int) : List Char :=
  if millisecond = 0 then [] else '.' :: fractionDigits 3 millisecond

/-- The text of a field. -/
def fieldText (time : DateTime) : TimeField → List Char
  | .literal c => [c]
  | .number field padding => numberText time padding field
  | .shortWeekday => (nameAt weekdayNames time.date.daysFromMonday).take 3
  | .weekday => nameAt weekdayNames time.date.daysFromMonday
  | .shortMonth => (nameAt monthNames (time.date.month - 1)).take 3
  | .month => nameAt monthNames (time.date.month - 1)
  | .upperHalf => if time.hour < 12 then ['A', 'M'] else ['P', 'M']
  | .lowerHalf => if time.hour < 12 then ['a', 'm'] else ['p', 'm']
  | .zoneName => ['U', 'T', 'C']
  | .zoneOffset text => text.toList
  | .pointAndFraction => optionalFraction time.millisecond
  | .fraction places => fractionDigits places time.millisecond
  | .internet =>
    numberText time .zero .year ++ '-' :: numberText time .zero .month ++ '-' ::
      numberText time .zero .day ++ 'T' :: numberText time .zero .hour ++ ':' ::
      numberText time .zero .minute ++ ':' :: numberText time .zero .second ++
      optionalFraction time.millisecond ++ "+00:00".toList

namespace TimePattern

/-- The text of a date and a time. -/
def write (pattern : TimePattern) (time : DateTime) : String :=
  String.ofList (pattern.fields.flatMap (fieldText time))

/-- The text of an instant; outside the calendar it is the number of milliseconds. -/
def format (pattern : TimePattern) (instant : Int64) : String :=
  match DateTime.ofInstant? instant with
  | some time => pattern.write time
  | none => decimal instant.toInt

/-- The pattern of dates in headers and lists: a date and the time up to the minute. -/
def header : TimePattern :=
  ⟨dashDate ++ [.literal ' ', zeroPadded .hour, .literal ':', zeroPadded .minute]⟩

end TimePattern

/-- The text of an instant under the text of a pattern; none where an instant of the calendar
meets a pattern that is none. -/
def formatInstant? (pattern : String) (instant : Int64) : Option String :=
  match DateTime.ofInstant? instant with
  | some time => (TimePattern.parse? pattern).map fun pattern ↦ pattern.write time
  | none => some (decimal instant.toInt)

end StepSequencer.Calendar
