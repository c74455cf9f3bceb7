/-!
# Dates and times

Dates of the Gregorian calendar from year 1 to year 9999, times of day, and both together. A time
may carry its offset from universal time.
-/

namespace Intake.Calendar

/-- A year, month and day. -/
structure Date where
  year : Nat
  month : Nat
  day : Nat
  deriving DecidableEq, Repr

/-- The reading of a clock. -/
structure Clock where
  hour : Nat
  minute : Nat
  second : Nat
  micro : Nat
  deriving DecidableEq, Repr

/-- A time of day, with its offset in microseconds where it is known. -/
structure Time where
  clock : Clock
  offset : Option Int
  deriving DecidableEq, Repr

/-- A date with a time of day. -/
structure Moment where
  date : Date
  clock : Clock
  offset : Option Int
  deriving DecidableEq, Repr

/-- The year has a 29th of February. -/
def isLeap (year : Nat) : Bool :=
  year % 4 == 0 && (year % 100 != 0 || year % 400 == 0)

/-- The days of a month. -/
def daysInMonth (year month : Nat) : Nat :=
  if month = 2 then (if isLeap year then 29 else 28)
  else if month = 4 || month = 6 || month = 9 || month = 11 then 30
  else 31

/-- The days before the first of January, counted from year 1. -/
def daysBeforeYear (year : Nat) : Nat :=
  let y := year - 1
  y * 365 + y / 4 - y / 100 + y / 400

/-- The days of a year before the first of a month. -/
def daysBeforeMonth (year month : Nat) : Nat :=
  (List.range (month - 1)).foldl (fun days m => days + daysInMonth year (m + 1)) 0

namespace Date

/-- The date exists. -/
def isValid (d : Date) : Bool :=
  1 ≤ d.year && d.year ≤ 9999 && 1 ≤ d.month && d.month ≤ 12 && 1 ≤ d.day &&
    d.day ≤ daysInMonth d.year d.month

/-- The number of the day, the first day of year 1 being 1. -/
def ordinal (d : Date) : Nat :=
  daysBeforeYear d.year + daysBeforeMonth d.year d.month + d.day

/-- The day of a year with the given number, the first of January being 0. -/
def ofDayOfYear (year days : Nat) : Date :=
  let month := ((List.range 12).filter fun m => daysBeforeMonth year (m + 1) ≤ days).length
  ⟨year, month, days - daysBeforeMonth year month + 1⟩

/-- The weekday on which a year begins, Monday being 0. -/
def firstWeekday (year : Nat) : Nat :=
  daysBeforeYear year % 7

/-- The year has 53 weeks: it begins on a Thursday, or on a Wednesday and is a leap year. -/
def hasLongYear (year : Nat) : Bool :=
  firstWeekday year == 3 || (firstWeekday year == 2 && isLeap year)

/-- The Monday of the first week of a year: that week holds the fourth of January. -/
def firstMonday (year : Nat) : Nat :=
  let first := daysBeforeYear year + 1
  let monday := first - firstWeekday year
  if 3 < firstWeekday year then monday + 7 else monday

/-- The date of a day in a week of a year. -/
def ofWeek? (year week day : Nat) : Option Date :=
  if year < 1 || 9999 < year then none
  else if week = 0 || 53 < week || (week == 53 && !hasLongYear year) then none
  else if day = 0 || 7 < day then none
  else
    let n := firstMonday year + (week - 1) * 7 + (day - 1)
    some <|
      if n ≤ daysBeforeYear year then ofDayOfYear (year - 1) (n - 1 - daysBeforeYear (year - 1))
      else if daysBeforeYear (year + 1) < n then
        ofDayOfYear (year + 1) (n - 1 - daysBeforeYear (year + 1))
      else ofDayOfYear year (n - 1 - daysBeforeYear year)

end Date

namespace Clock

/-- The clock can show the reading. -/
def isValid (c : Clock) : Bool :=
  c.hour < 24 && c.minute < 60 && c.second < 60 && c.micro < 1000000

/-- The seconds since midnight. -/
def seconds (c : Clock) : Nat :=
  c.hour * 3600 + c.minute * 60 + c.second

end Clock

/-- The microseconds of a day. -/
def dayMicros : Int := 86400000000

/-- An offset is shorter than a day. -/
def isOffset (micros : Int) : Bool :=
  decide (-dayMicros < micros) && decide (micros < dayMicros)

namespace Time

/-- Two times are equal when both lack an offset and the clocks agree, or when they denote the same
    second of the universal day and the same microsecond. -/
def equals (a b : Time) : Bool :=
  match a.offset, b.offset with
  | none, none => a.clock == b.clock
  | some x, some y =>
    if x = y then a.clock == b.clock
    else
      (a.clock.seconds : Int) - x / 1000000 == (b.clock.seconds : Int) - y / 1000000 &&
        a.clock.micro == b.clock.micro
  | _, _ => false

end Time

namespace Moment

/-- The microseconds of a moment on the clock that shows it. -/
def localMicros (m : Moment) : Int :=
  (m.date.ordinal : Int) * dayMicros + (m.clock.seconds : Int) * 1000000 + m.clock.micro

/-- Two moments are equal when both lack an offset and agree, or when they denote the same
    instant. -/
def equals (a b : Moment) : Bool :=
  match a.offset, b.offset with
  | none, none => a.date == b.date && a.clock == b.clock
  | some x, some y => a.localMicros - x == b.localMicros - y
  | _, _ => false

end Moment

end Intake.Calendar
