/-!
# Days, times of day and timestamps

The Gregorian calendar, extended to all years from -262143 to 262142.

* `Date`: a day of the calendar; that it exists is part of the type.
* `TimeOfDay`: hour, minute and second, where `60` stands for a leap second.
* `Moment`: a day and a time of day.
* `Moment.ofTimestamp?`: the moment that lies a number of seconds after 1970-01-01 00:00:00.

Days are counted from the first of January of the year 0.
-/

namespace TableDdl

/-! ## Months and years -/

def isLeapYear (year : Int) : Bool :=
  year % 4 = 0 && (year % 100 != 0 || year % 400 = 0)

def monthLengths (year : Int) : List Nat :=
  [31, if isLeapYear year then 29 else 28, 31, 30, 31, 30, 31, 31, 30, 31, 30, 31]

/-- The number of days in a month, where January is month 1; there is no day in a month outside
the twelve. -/
def daysInMonth (year : Int) (month : Nat) : Nat :=
  if month = 0 then 0 else (monthLengths year).getD (month - 1) 0

def daysBeforeMonth (year : Int) (month : Nat) : Nat :=
  ((monthLengths year).take (month - 1)).foldl (· + ·) 0

/-- The number of days from the first of January of the year 0 to that of the given year. -/
def daysBeforeYear (year : Int) : Int :=
  365 * year + (year + 3) / 4 - (year + 99) / 100 + (year + 399) / 400

/-- The year of a day.  The mean length of a year gives it up to one. -/
def yearOfDay (day : Int) : Int :=
  let guess := 400 * day / 146097
  if day < daysBeforeYear guess then guess - 1
  else if daysBeforeYear (guess + 1) ≤ day then guess + 1
  else guess

/-- The month and the day of the month of the day that lies `offset` days after the first day of
the first of the given months, whose number is `month`. -/
def placeInMonths (month : Nat) (offset : Nat) : List Nat → Nat × Nat
  | [] => (month, offset + 1)
  | length :: rest =>
      if offset < length then (month, offset + 1)
      else placeInMonths (month + 1) (offset - length) rest

/-! ## Dates -/

structure Date where
  /-- The year; the year before 1 is 0. -/
  year : Int
  /-- The month, from 1 to 12. -/
  month : Nat
  /-- The day of the month, from 1. -/
  day : Nat
  /-- The year lies in the range of the calendar. -/
  year_mem : -262143 ≤ year ∧ year ≤ 262142
  /-- The month has this day. -/
  day_mem : 1 ≤ day ∧ day ≤ daysInMonth year month
deriving DecidableEq

namespace Date

def ofYearMonthDay? (year : Int) (month day : Nat) : Option Date :=
  if hy : -262143 ≤ year ∧ year ≤ 262142 then
    if hd : 1 ≤ day ∧ day ≤ daysInMonth year month then some ⟨year, month, day, hy, hd⟩ else none
  else none

/-- The number of a day, counted from the first of January of the year 0. -/
def dayNumber (d : Date) : Int :=
  daysBeforeYear d.year + daysBeforeMonth d.year d.month + d.day - 1

/-- The day with the given number, if its year lies in the range of the calendar. -/
def ofDayNumber? (number : Int) : Option Date :=
  let year := yearOfDay number
  let (month, day) := placeInMonths 1 (number - daysBeforeYear year).toNat (monthLengths year)
  ofYearMonthDay? year month day

def epoch : Date :=
  ⟨1970, 1, 1, by decide, by decide⟩

example : (ofDayNumber? epoch.dayNumber) = some epoch := by decide

end Date

/-! ## Times and moments -/

structure TimeOfDay where
  /-- The hour, from 0 to 23. -/
  hour : Nat
  /-- The minute, from 0 to 59. -/
  minute : Nat
  /-- The second, from 0 to 59, or 60 in a leap second. -/
  second : Nat
  hour_lt : hour < 24
  minute_lt : minute < 60
  second_le : second ≤ 60
deriving DecidableEq

namespace TimeOfDay

def ofHourMinuteSecond? (hour minute second : Nat) : Option TimeOfDay :=
  if h : hour < 24 ∧ minute < 60 ∧ second ≤ 60 then
    some ⟨hour, minute, second, h.1, h.2.1, h.2.2⟩
  else none

def midnight : TimeOfDay :=
  ⟨0, 0, 0, by decide, by decide, by decide⟩

/-- The time that lies a number of seconds after midnight, whole days not counted. -/
def ofSeconds (seconds : Nat) : TimeOfDay where
  hour := seconds / 3600 % 24
  minute := seconds / 60 % 60
  second := seconds % 60
  hour_lt := Nat.mod_lt _ (by decide)
  minute_lt := Nat.mod_lt _ (by decide)
  second_le := Nat.le_of_lt (Nat.mod_lt _ (by decide))

end TimeOfDay

structure Moment where
  date : Date
  time : TimeOfDay
deriving DecidableEq

namespace Moment

/-- The moment that lies a number of seconds after the beginning of 1970, if its year lies in the
range of the calendar. -/
def ofTimestamp? (seconds : Int) : Option Moment :=
  (Date.ofDayNumber? (Date.epoch.dayNumber + seconds / 86400)).map fun date =>
    ⟨date, TimeOfDay.ofSeconds (seconds % 86400).toNat⟩

end Moment

end TableDdl
