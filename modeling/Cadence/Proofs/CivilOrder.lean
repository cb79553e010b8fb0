import Cadence.Proofs.Calendar

namespace Cadence

/-!
# Civil times as an order

Within the years that dates keep, instants and existing civil times are two ways to
write the same thing: each way back and forth is the identity, and the order of the
instants is the order in which civil times are written down, field by field.

The day numbers behind this agree with the table of the months, so that the first of
a month is followed by the first of the next one after as many days as the table
says, and with the count of the weekdays from the Thursday on which 1970 began.
-/

namespace Date

open Calendar

/-- The first day of the month after a month. -/
def firstAfter
    (year month : Int) :
    Date :=
  if month = 12 then ⟨year + 1, 1, 1⟩ else ⟨year, month + 1, 1⟩

theorem firstAfter_exists
    (year : Int)
    {month : Int}
    (january : 1 ≤ month)
    (december : month ≤ 12) :
    (firstAfter year month).Exists := by
  unfold firstAfter
  split
  · have nonempty := le_daysInMonth (year + 1) 1
    exact ⟨by simp, by simp, by simp, by simp only; omega⟩
  · have nonempty := le_daysInMonth year (month + 1)
    exact ⟨by simp only; omega, by simp only; omega, by simp, by simp only; omega⟩

/-- Months follow each other after as many days as they have. -/
theorem dayNumber_firstAfter
    (year : Int)
    {month : Int}
    (january : 1 ≤ month)
    (december : month ≤ 12) :
    (firstAfter year month).dayNumber =
      (Date.mk year month 1).dayNumber + daysInMonth year month := by
  unfold firstAfter
  split
  · next isDecember =>
      have ends := daysBeforeMonth_december year
      have begins := daysBeforeMonth_january (year + 1)
      simp only [dayNumber, isDecember]
      omega
  · next isEarlier =>
      have next := daysBeforeMonth_succ year january (by omega)
      simp only [dayNumber]
      omega

/-- The week goes on from the Thursday on which 1970 began. -/
theorem weekday_ofDayNumber
    {number : Int}
    (fits : Fits (yearOfOffset (number + epoch))) :
    (ofDayNumber number).weekday = (4 + number) % 7 := by
  rw [weekday, (ofDayNumber_spec fits).2.2, Int.add_comm]

end Date

namespace TimeOfDay

/-- Times of day are in the order of hour, minute and second. -/
theorem seconds_lt_iff
    {first second : TimeOfDay}
    (firstExists : first.Exists)
    (secondExists : second.Exists) :
    first.seconds < second.seconds ↔
      first.hour < second.hour ∨
        (first.hour = second.hour ∧
          (first.minute < second.minute ∨
            (first.minute = second.minute ∧ first.second < second.second))) := by
  unfold TimeOfDay.Exists at firstExists secondExists
  unfold seconds
  omega

end TimeOfDay

namespace CivilTime

open Calendar

/-- Year, month, day, hour, minute and second. -/
def fields
    (civil : CivilTime) :
    List Int :=
  [civil.date.year, civil.date.month, civil.date.day,
    civil.time.hour, civil.time.minute, civil.time.second]

/-- Civil times that the calendar and the clock have, in a year that dates keep. -/
structure Valid
    (civil : CivilTime) :
    Prop where
  existent : civil.Exists
  fits : Fits civil.date.year

/-- The instant that is counted for a civil time as it is written: its date keeps the year in 16
bits, and only then is it counted. -/
def counted
    (civil : CivilTime) :
    Int :=
  toInstant ⟨Date.of civil.date.year civil.date.month civil.date.day, civil.time⟩

theorem Valid.counted_eq
    {civil : CivilTime}
    (valid : civil.Valid) :
    civil.counted = civil.toInstant := by
  rw [counted, Date.of, storedYear_eq valid.fits]

/-- The first second of the years that dates keep. -/
def earliest : CivilTime :=
  ⟨⟨-32767, 1, 1⟩, ⟨0, 0, 0⟩⟩

/-- The last second of the years that dates keep. -/
def latest : CivilTime :=
  ⟨⟨32767, 12, 31⟩, ⟨23, 59, 59⟩⟩

/-- The years that dates keep are those from the earliest civil time to the latest one. -/
theorem fits_yearOf_iff
    (instant : Int) :
    Fits (yearOf instant) ↔ earliest.counted ≤ instant ∧ instant ≤ latest.counted := by
  have first : yearOf earliest.counted = -32767 := by decide
  have beforeFirst : yearOf (earliest.counted - 1) = -32768 := by decide
  have last : yearOf latest.counted = 32767 := by decide
  have afterLast : yearOf (latest.counted + 1) = 32768 := by decide
  constructor
  · rintro ⟨lower, upper⟩
    constructor
    · refine Int.not_lt.mp fun before => ?_
      have := yearOf_mono (Int.le_sub_one_of_lt before)
      omega
    · refine Int.not_lt.mp fun after => ?_
      have := yearOf_mono (Int.add_one_le_of_lt after)
      omega
  · rintro ⟨notBefore, notAfter⟩
    exact ⟨first ▸ yearOf_mono notBefore, last ▸ yearOf_mono notAfter⟩

/-- Civil times are in the order of their fields, the year first. -/
theorem fields_lt_iff
    {first second : CivilTime}
    (firstExists : first.Exists)
    (secondExists : second.Exists) :
    first.fields < second.fields ↔
      first.date.Before second.date ∨
        (first.date = second.date ∧ first.time.seconds < second.time.seconds) := by
  rw [TimeOfDay.seconds_lt_iff firstExists.2 secondExists.2]
  rcases first with ⟨⟨year, month, day⟩, time⟩
  rcases second with ⟨⟨year', month', day'⟩, time'⟩
  simp only [fields, List.cons_lt_cons_iff, Date.Before, Date.mk.injEq, List.lt_irrefl, and_false,
    or_false]
  omega

/-- Instants and civil times of the years that dates keep are one order.  Going from an instant to
its civil time, which is valid, and back leads to the instant again, and so does the other way
round; instants are in the lexicographic order of the fields; a month has as many days as the table
says, in every year; and a day's weekday is counted from Thursday, the first of January 1970. -/
theorem civilTime_order :
    (∀ instant, Fits (yearOf instant) ↔
        earliest.counted ≤ instant ∧ instant ≤ latest.counted) ∧
      (∀ instant, Fits (yearOf instant) →
        (ofInstant instant).Valid ∧ (ofInstant instant).date.year = yearOf instant ∧
          (ofInstant instant).counted = instant) ∧
      (∀ civil : CivilTime, civil.Valid →
        yearOf civil.counted = civil.date.year ∧ ofInstant civil.counted = civil) ∧
      (∀ first second : CivilTime, first.Valid → second.Valid →
        (first.counted < second.counted ↔ first.fields < second.fields)) ∧
      (∀ year month, 1 ≤ month → month ≤ 12 →
        (Date.firstAfter year month).Exists ∧
          (Date.firstAfter year month).dayNumber =
            (Date.mk year month 1).dayNumber + daysInMonth year month) ∧
      ∀ number, Fits (yearOf (86400 * number)) →
        (Date.ofDayNumber number).weekday = (4 + number) % 7 := by
  refine ⟨fits_yearOf_iff, fun instant fits => ?_, fun civil valid => ?_,
    fun first second firstValid secondValid => ?_, fun year month january december => ?_,
    fun number fits => ?_⟩
  · obtain ⟨year, existent, back⟩ := ofInstant_spec fits
    have valid : (ofInstant instant).Valid := ⟨existent, year ▸ fits⟩
    exact ⟨valid, year, valid.counted_eq.trans back⟩
  · rw [valid.counted_eq]
    exact ⟨yearOf_toInstant valid.existent, ofInstant_toInstant valid.existent valid.fits⟩
  · rw [firstValid.counted_eq, secondValid.counted_eq,
      toInstant_lt_iff firstValid.existent secondValid.existent,
      fields_lt_iff firstValid.existent secondValid.existent]
  · exact ⟨Date.firstAfter_exists year january december,
      Date.dayNumber_firstAfter year january december⟩
  · have sameDay : 86400 * number / 86400 = number := Int.mul_ediv_cancel_left number (by decide)
    rw [yearOf, sameDay] at fits
    exact Date.weekday_ofDayNumber fits

/-- The last second of the leap day of the year -4, which is followed by the first of March; the
day is a Thursday. -/
theorem civilTime_order_leapDay :
    let leapDay : CivilTime := ⟨⟨-4, 2, 29⟩, ⟨23, 59, 59⟩⟩
    let nextDay : CivilTime := ⟨⟨-4, 3, 1⟩, ⟨0, 0, 0⟩⟩
    ofInstant leapDay.counted = leapDay ∧
      (ofInstant (leapDay.counted + 1)).counted = leapDay.counted + 1 ∧
      leapDay.counted < nextDay.counted ∧
      (Date.mk (-4) 3 1).dayNumber = (Date.mk (-4) 2 1).dayNumber + 29 ∧
      (Date.ofDayNumber (-720930)).weekday = 4 := by
  obtain ⟨-, back, forth, order, month, week⟩ := civilTime_order
  have leapValid : Valid ⟨⟨-4, 2, 29⟩, ⟨23, 59, 59⟩⟩ := ⟨by decide, by decide⟩
  have nextValid : Valid ⟨⟨-4, 3, 1⟩, ⟨0, 0, 0⟩⟩ := ⟨by decide, by decide⟩
  refine ⟨(forth _ leapValid).2, (back _ (by decide)).2.2,
    (order _ _ leapValid nextValid).mpr (by decide), ?_, ?_⟩
  · exact (month (-4) 2 (by decide) (by decide)).2
  · exact week (-720930) (by decide)

end CivilTime

end Cadence
