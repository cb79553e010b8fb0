namespace Cadence

/-!
# The proleptic Gregorian calendar

Dates, times of day and instants.  An *instant* is a number of seconds since the
first second of 1970, a *day number* the number of days since the first of
January 1970; both may be negative, and there is no year zero gap: the year
before 1 is 0.  A date is broken down by finding its year first, from an
estimate that is off by at most one, and then its month.
-/

/-- A calendar date; the months and the days of a month count from 1. -/
structure Date where
  year : Int
  month : Int
  day : Int
  deriving DecidableEq, Repr

/-- A time of day in whole seconds. -/
structure TimeOfDay where
  hour : Int
  minute : Int
  second : Int
  deriving DecidableEq, Repr

/-- A date with a time of day, in universal time. -/
structure CivilTime where
  date : Date
  time : TimeOfDay
  deriving DecidableEq, Repr

namespace Calendar

/-- Leap years: every fourth one, but of the centuries only every fourth. -/
def isLeap (year : Int) : Bool :=
  (year % 4 == 0 && year % 100 != 0) || year % 400 == 0

/-- The number of days of a month. -/
def daysInMonth (year month : Int) : Int :=
  if month = 2 then
    if isLeap year then 29 else 28
  else if month = 4 ∨ month = 6 ∨ month = 9 ∨ month = 11 then
    30
  else
    31

/-- No month is longer than 31 days. -/
theorem daysInMonth_le (year month : Int) : daysInMonth year month ≤ 31 := by
  unfold daysInMonth
  repeat' split
  all_goals omega

/-- Days from the first day of year 1 to the first day of `year`. -/
def daysBeforeYear (year : Int) : Int :=
  let past := year - 1
  365 * past + past / 4 - past / 100 + past / 400

/-- Days from the first day of `year` to the first day of its month `month`. -/
def daysBeforeMonth (year month : Int) : Int :=
  let leapDay := if isLeap year then 1 else 0
  if month ≤ 1 then 0
  else if month = 2 then 31
  else if month = 3 then 59 + leapDay
  else if month = 4 then 90 + leapDay
  else if month = 5 then 120 + leapDay
  else if month = 6 then 151 + leapDay
  else if month = 7 then 181 + leapDay
  else if month = 8 then 212 + leapDay
  else if month = 9 then 243 + leapDay
  else if month = 10 then 273 + leapDay
  else if month = 11 then 304 + leapDay
  else 334 + leapDay

/-- A year as dates keep it, in 16 bits: beyond them it wraps around. -/
def storedYear (year : Int) : Int :=
  year.bmod 65536

/-- The first second of the first year that dates keep. -/
def firstSecond : Int := -1096225401600

/-- The days from the first day of year 1 to the first of January 1970. -/
def epoch : Int := 719162

/-- The year in which the day `offset` days after the first day of year 1 falls. -/
def yearOfOffset (offset : Int) : Int :=
  let estimate := 400 * offset / 146097 + 1
  if offset < daysBeforeYear estimate then
    estimate - 1
  else if daysBeforeYear (estimate + 1) ≤ offset then
    estimate + 1
  else
    estimate

/-- The month in which the day `offset` days after the first day of `year` falls. -/
def monthOfOffset (year offset : Int) : Int :=
  if offset < daysBeforeMonth year 2 then 1
  else if offset < daysBeforeMonth year 3 then 2
  else if offset < daysBeforeMonth year 4 then 3
  else if offset < daysBeforeMonth year 5 then 4
  else if offset < daysBeforeMonth year 6 then 5
  else if offset < daysBeforeMonth year 7 then 6
  else if offset < daysBeforeMonth year 8 then 7
  else if offset < daysBeforeMonth year 9 then 8
  else if offset < daysBeforeMonth year 10 then 9
  else if offset < daysBeforeMonth year 11 then 10
  else if offset < daysBeforeMonth year 12 then 11
  else 12

end Calendar

namespace Date

/-- The date of a year, a month and a day, with the year as dates keep it. -/
def of (year month day : Int) : Date :=
  ⟨Calendar.storedYear year, month, day⟩

/-- Dates in the order of year, month and day. -/
def Before (first second : Date) : Prop :=
  first.year < second.year ∨
    (first.year = second.year ∧
      (first.month < second.month ∨
        (first.month = second.month ∧ first.day < second.day)))

instance (first second : Date) : Decidable (first.Before second) := by
  unfold Before
  infer_instance

/-- Dates that the calendar has. -/
def Exists (date : Date) : Prop :=
  1 ≤ date.month ∧ date.month ≤ 12 ∧
    1 ≤ date.day ∧ date.day ≤ Calendar.daysInMonth date.year date.month

instance (date : Date) : Decidable date.Exists := by
  unfold Exists
  infer_instance

/-- The day number of a date; a day past the end of its month counts on into the next ones. -/
def dayNumber (date : Date) : Int :=
  Calendar.daysBeforeYear date.year + Calendar.daysBeforeMonth date.year date.month +
    (date.day - 1) - Calendar.epoch

/-- The date of a day number. -/
def ofDayNumber (number : Int) : Date :=
  let offset := number + Calendar.epoch
  let year := Calendar.yearOfOffset offset
  let inYear := offset - Calendar.daysBeforeYear year
  let month := Calendar.monthOfOffset year inYear
  of year month (inYear - Calendar.daysBeforeMonth year month + 1)

/-- The day of the week, 0 for Sunday: the first of January 1970 was a Thursday. -/
def weekday (date : Date) : Int :=
  (date.dayNumber + 4) % 7

end Date

namespace TimeOfDay

/-- Times that a clock shows. -/
def Exists (time : TimeOfDay) : Prop :=
  0 ≤ time.hour ∧ time.hour ≤ 23 ∧ 0 ≤ time.minute ∧ time.minute ≤ 59 ∧
    0 ≤ time.second ∧ time.second ≤ 59

instance (time : TimeOfDay) : Decidable time.Exists := by
  unfold Exists
  infer_instance

/-- Seconds since midnight; hours, minutes and seconds beyond the clock simply add on. -/
def seconds (time : TimeOfDay) : Int :=
  3600 * time.hour + 60 * time.minute + time.second

/-- The time of day a number of seconds after midnight. -/
def ofSeconds (seconds : Int) : TimeOfDay :=
  ⟨seconds / 3600, seconds / 60 % 60, seconds % 60⟩

end TimeOfDay

namespace CivilTime

/-- Civil times whose date and time of day both exist. -/
def Exists (civil : CivilTime) : Prop :=
  civil.date.Exists ∧ civil.time.Exists

instance (civil : CivilTime) : Decidable civil.Exists := by
  unfold Exists
  infer_instance

/-- The instant of a civil time. -/
def toInstant (civil : CivilTime) : Int :=
  86400 * civil.date.dayNumber + civil.time.seconds

/-- The civil time of an instant. -/
def ofInstant (instant : Int) : CivilTime :=
  ⟨Date.ofDayNumber (instant / 86400), TimeOfDay.ofSeconds (instant % 86400)⟩

end CivilTime

end Cadence
