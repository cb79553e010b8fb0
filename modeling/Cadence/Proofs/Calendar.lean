import Cadence.Calendar
import Mathlib.Data.Int.Init
import Mathlib.Order.Monotone.Basic

namespace Cadence

/-!
# The calendar as an order of days

Breaking a day number down into a date and counting the days before a date are
inverse to each other, and both keep the order.  The year of a day is estimated
from the mean length of a year; the estimate is off by at most one, because the
days before a year differ from that mean by less than two days.

Dates keep their year in 16 bits, so everything that goes from a date back to
its instant is about the years that fit.
-/

namespace Calendar

/-! ### Years -/

theorem isLeap_iff (year : Int) :
    isLeap year = true ↔
      (year % 4 = 0 ∧ year % 100 ≠ 0) ∨ year % 400 = 0 := by
  simp [isLeap]

/-- A year has 365 days, or 366 if it is a leap year. -/
theorem daysBeforeYear_succ (year : Int) :
    daysBeforeYear (year + 1) =
      daysBeforeYear year + if isLeap year then 366 else 365 := by
  have leap := isLeap_iff year
  have fourths :
      year / 4 = (year - 1) / 4 + if year % 4 = 0 then 1 else 0 := by
    omega
  have centuries :
      year / 100 = (year - 1) / 100 + if year % 100 = 0 then 1 else 0 := by
    omega
  have fourthCenturies :
      year / 400 = (year - 1) / 400 + if year % 400 = 0 then 1 else 0 := by
    omega
  simp only [daysBeforeYear, Int.add_sub_cancel]
  rw [fourths, centuries, fourthCenturies]
  by_cases fourth : year % 4 = 0 <;>
    by_cases century : year % 100 = 0 <;>
      by_cases fourthCentury : year % 400 = 0 <;>
        simp_all <;> omega

/-- A later year begins later. -/
theorem daysBeforeYear_lt_iff
    {first second : Int} :
    daysBeforeYear first < daysBeforeYear second ↔ first < second := by
  have increasing : StrictMono daysBeforeYear := by
    apply strictMono_int_of_lt_succ
    intro year
    rw [daysBeforeYear_succ]
    split <;> omega
  exact increasing.lt_iff_lt

/-- The days before a year, against the mean of 146097 days in 400 years. -/
theorem daysBeforeYear_bounds (year : Int) :
    146097 * (year - 1) - 700 ≤ 400 * daysBeforeYear year ∧
      400 * daysBeforeYear year ≤ 146097 * (year - 1) + 400 := by
  simp only [daysBeforeYear]
  omega

/-- The year found for a day is the one that contains it. -/
theorem yearOfOffset_contains (offset : Int) :
    daysBeforeYear (yearOfOffset offset) ≤ offset ∧
      offset < daysBeforeYear (yearOfOffset offset + 1) := by
  have below := daysBeforeYear_bounds (400 * offset / 146097)
  have above := daysBeforeYear_bounds (400 * offset / 146097 + 1 + 1 + 1)
  unfold yearOfOffset
  simp only
  split
  · have earlier :
        400 * offset / 146097 + 1 - 1 = 400 * offset / 146097 := by
      omega
    rw [earlier]
    omega
  · split
    · omega
    · omega

/-- No other year contains the day. -/
theorem yearOfOffset_eq
    {year offset : Int}
    (begun : daysBeforeYear year ≤ offset)
    (notOver : offset < daysBeforeYear (year + 1)) :
    yearOfOffset offset = year := by
  obtain ⟨foundBegun, foundNotOver⟩ := yearOfOffset_contains offset
  have notLater : yearOfOffset offset < year + 1 :=
    daysBeforeYear_lt_iff.mp (by omega)
  have notEarlier : year < yearOfOffset offset + 1 :=
    daysBeforeYear_lt_iff.mp (by omega)
  omega

/-! ### Months -/

/-- The months of a year follow each other without a gap. -/
theorem daysBeforeMonth_succ
    (year : Int)
    {month : Int}
    (first : 1 ≤ month)
    (last : month ≤ 11) :
    daysBeforeMonth year (month + 1) =
      daysBeforeMonth year month + daysInMonth year month := by
  have months :
      month = 1 ∨ month = 2 ∨ month = 3 ∨ month = 4 ∨ month = 5 ∨ month = 6 ∨
        month = 7 ∨ month = 8 ∨ month = 9 ∨ month = 10 ∨ month = 11 := by
    omega
  rcases months with
      rfl | rfl | rfl | rfl | rfl | rfl | rfl | rfl | rfl | rfl | rfl <;>
    unfold daysBeforeMonth daysInMonth <;>
      cases isLeap year <;> rfl

/-- December ends with the year. -/
theorem daysBeforeMonth_december (year : Int) :
    daysBeforeYear year + daysBeforeMonth year 12 + daysInMonth year 12 =
      daysBeforeYear (year + 1) := by
  rw [daysBeforeYear_succ]
  have length :
      daysBeforeMonth year 12 + daysInMonth year 12 =
        if isLeap year then 366 else 365 := by
    unfold daysBeforeMonth daysInMonth
    cases isLeap year <;> rfl
  omega

/-- No month is shorter than 28 days. -/
theorem le_daysInMonth (year month : Int) : 28 ≤ daysInMonth year month := by
  unfold daysInMonth
  repeat' split
  all_goals omega

/-- A later month of a year begins after an earlier one has ended. -/
theorem daysBeforeMonth_add_le
    (year : Int)
    {first second : Int}
    (january : 1 ≤ first)
    (december : second ≤ 12)
    (later : first < second) :
    daysBeforeMonth year first + daysInMonth year first ≤
      daysBeforeMonth year second := by
  induction second, later using Int.leInduction with
  | base =>
      rw [daysBeforeMonth_succ year january (by omega)]
  | succ second after inductionHypothesis =>
      have step := daysBeforeMonth_succ year (show 1 ≤ second by omega) (by omega)
      have nonempty := le_daysInMonth year second
      have sofar := inductionHypothesis (by omega)
      omega

theorem daysBeforeMonth_january (year : Int) : daysBeforeMonth year 1 = 0 := by
  rfl

theorem daysBeforeMonth_nonneg
    (year : Int)
    {month : Int}
    (january : 1 ≤ month)
    (december : month ≤ 12) :
    0 ≤ daysBeforeMonth year month := by
  have begin := daysBeforeMonth_january year
  rcases eq_or_lt_of_le january with same | later
  · rw [← same]
    omega
  · have passed := daysBeforeMonth_add_le year (Int.le_refl 1) december later
    have nonempty := le_daysInMonth year 1
    omega

/-- A month of a year and a day in it, counted from the first day of the year. -/
structure MonthContains (year month offset : Int) : Prop where
  january : 1 ≤ month
  december : month ≤ 12
  begun : daysBeforeMonth year month ≤ offset
  notOver : offset < daysBeforeMonth year month + daysInMonth year month

/-- The month found for a day of a year is one that contains it. -/
theorem monthOfOffset_contains
    (year offset : Int)
    (begun : 0 ≤ offset)
    (notOver : daysBeforeYear year + offset < daysBeforeYear (year + 1)) :
    MonthContains year (monthOfOffset year offset) offset := by
  rw [← daysBeforeMonth_december] at notOver
  have january := daysBeforeMonth_january year
  have next {month : Int} (first : 1 ≤ month) (last : month ≤ 11) :
      daysBeforeMonth year month + daysInMonth year month =
        daysBeforeMonth year (month + 1) :=
    (daysBeforeMonth_succ _ first last).symm
  unfold monthOfOffset
  -- A day before the next month is in this one; only December has no next month.
  iterate 11
    apply iteInduction (motive := fun month => MonthContains year month offset)
    · intro before
      refine ⟨by decide, by decide, by omega, ?_⟩
      rw [next (by decide) (by decide)]
      exact before
    intro passed
  exact ⟨by decide, by decide, by omega, by omega⟩

/-- No other month of the year contains the day. -/
theorem monthOfOffset_eq
    {year month offset : Int}
    (contains : MonthContains year month offset) :
    monthOfOffset year offset = month := by
  obtain ⟨january, december, begun, notOver⟩ := contains
  have nonnegative := daysBeforeMonth_nonneg year january december
  have inYear :
      daysBeforeYear year + offset < daysBeforeYear (year + 1) := by
    rw [← daysBeforeMonth_december]
    rcases eq_or_lt_of_le december with isDecember | isEarlier
    · subst isDecember
      omega
    · have passed :=
        daysBeforeMonth_add_le year january (Int.le_refl 12) isEarlier
      have nonempty := le_daysInMonth year 12
      omega
  obtain ⟨foundJanuary, foundDecember, foundBegun, foundNotOver⟩ :=
    monthOfOffset_contains _ _ (by omega) inYear
  rcases lt_trichotomy (monthOfOffset year offset) month with
      earlier | same | later
  · have passed :=
      daysBeforeMonth_add_le year foundJanuary december earlier
    omega
  · exact same
  · have passed :=
      daysBeforeMonth_add_le year january foundDecember later
    omega

/-! ### Years that dates can keep -/

/-- Years within the 16 bits of a date. -/
def Fits (year : Int) : Prop :=
  -32767 ≤ year ∧ year ≤ 32767

instance (year : Int) : Decidable (Fits year) := by
  unfold Fits
  infer_instance

theorem storedYear_eq
    {year : Int}
    (fits : Fits year) :
    storedYear year = year := by
  obtain ⟨lower, upper⟩ := fits
  exact Int.bmod_eq_of_le (by omega) (by omega)

/-- The year in which an instant falls, whether or not a date can keep it. -/
def yearOf (instant : Int) : Int :=
  yearOfOffset (instant / 86400 + epoch)

theorem yearOfOffset_mono
    {first second : Int}
    (ordered : first ≤ second) :
    yearOfOffset first ≤ yearOfOffset second := by
  have begun := (yearOfOffset_contains first).1
  have notOver := (yearOfOffset_contains second).2
  have before : yearOfOffset first < yearOfOffset second + 1 :=
    daysBeforeYear_lt_iff.mp (by omega)
  omega

theorem yearOf_mono
    {first second : Int}
    (ordered : first ≤ second) :
    yearOf first ≤ yearOf second := by
  apply yearOfOffset_mono
  omega

end Calendar

namespace Date

open Calendar

/-! ### The order of dates -/

theorem Before.trans
    {first second third : Date}
    (earlier : first.Before second)
    (later : second.Before third) :
    first.Before third := by
  unfold Before at *
  omega

theorem Before.irrefl (date : Date) : ¬ date.Before date := by
  unfold Before
  omega

theorem Before.asymm
    {first second : Date}
    (before : first.Before second) :
    ¬ second.Before first :=
  fun after => Before.irrefl first (before.trans after)

theorem before_trichotomy (first second : Date) :
    first.Before second ∨ first = second ∨ second.Before first := by
  rcases first with ⟨year, month, day⟩
  rcases second with ⟨year', month', day'⟩
  simp only [Before, Date.mk.injEq]
  omega

theorem not_before_iff (first second : Date) :
    ¬ first.Before second ↔ first = second ∨ second.Before first := by
  constructor
  · intro notBefore
    rcases before_trichotomy first second with before | rest
    · exact (notBefore before).elim
    · exact rest
  · rintro (rfl | after)
    · exact Before.irrefl first
    · exact after.asymm

/-- No date is between a date and the next day of its month, whether or not that exists. -/
theorem not_before_next
    {first second : Date}
    (before : first.Before second) :
    ¬ second.Before ⟨first.year, first.month, first.day + 1⟩ := by
  unfold Before at *
  simp only
  omega

/-- Where a date stands in its year. -/
private theorem monthContains
    {date : Date}
    (existent : date.Exists) :
    MonthContains date.year date.month
      (daysBeforeMonth date.year date.month + (date.day - 1)) := by
  obtain ⟨january, december, first, last⟩ := existent
  exact ⟨january, december, by omega, by omega⟩

/-- A date stands within its year. -/
theorem dayNumber_inYear
    {date : Date}
    (existent : date.Exists) :
    daysBeforeYear date.year ≤ date.dayNumber + epoch ∧
      date.dayNumber + epoch < daysBeforeYear (date.year + 1) := by
  obtain ⟨january, december, first, last⟩ := existent
  have nonnegative := daysBeforeMonth_nonneg date.year january december
  have december_ends := daysBeforeMonth_december date.year
  have bounded :
      daysBeforeMonth date.year date.month +
          daysInMonth date.year date.month ≤
        daysBeforeMonth date.year 12 + daysInMonth date.year 12 := by
    rcases eq_or_lt_of_le december with isDecember | isEarlier
    · rw [isDecember]
    · have passed :=
        daysBeforeMonth_add_le date.year january (Int.le_refl 12) isEarlier
      have nonempty := le_daysInMonth date.year 12
      omega
  unfold dayNumber
  omega

/-- The days of the calendar are numbered in the order of the dates. -/
theorem dayNumber_lt
    {first second : Date}
    (firstExists : first.Exists)
    (secondExists : second.Exists)
    (before : first.Before second) :
    first.dayNumber < second.dayNumber := by
  rcases before with laterYear | ⟨sameYear, laterMonth | ⟨sameMonth, laterDay⟩⟩
  · have notOver := (dayNumber_inYear firstExists).2
    have begun := (dayNumber_inYear secondExists).1
    have years :
        daysBeforeYear (first.year + 1) ≤ daysBeforeYear second.year :=
      Int.not_lt.mp fun later => by have := daysBeforeYear_lt_iff.mp later; omega
    omega
  · obtain ⟨january, _, _, last⟩ := firstExists
    obtain ⟨_, december, first', _⟩ := secondExists
    have passed :=
      daysBeforeMonth_add_le first.year january december laterMonth
    unfold dayNumber
    rw [← sameYear]
    omega
  · unfold dayNumber
    rw [← sameYear, ← sameMonth]
    omega

theorem dayNumber_lt_iff
    {first second : Date}
    (firstExists : first.Exists)
    (secondExists : second.Exists) :
    first.dayNumber < second.dayNumber ↔ first.Before second := by
  constructor
  · intro less
    rcases before_trichotomy first second with before | rfl | after
    · exact before
    · omega
    · have := dayNumber_lt secondExists firstExists after
      omega
  · exact dayNumber_lt firstExists secondExists

/-! ### Dates and day numbers -/

/-- Breaking an existing date's day number down gives the date again. -/
theorem ofDayNumber_dayNumber
    {date : Date}
    (existent : date.Exists)
    (fits : Fits date.year) :
    ofDayNumber date.dayNumber = date := by
  obtain ⟨begun, notOver⟩ := dayNumber_inYear existent
  have year : yearOfOffset (date.dayNumber + epoch) = date.year :=
    yearOfOffset_eq begun notOver
  have inYear :
      date.dayNumber + epoch - daysBeforeYear date.year =
        daysBeforeMonth date.year date.month + (date.day - 1) := by
    unfold dayNumber
    omega
  have month := monthOfOffset_eq (monthContains existent)
  simp only [ofDayNumber, year, inYear, month, of, storedYear_eq fits]
  rcases date with ⟨year, month, day⟩
  simp only [Date.mk.injEq, true_and]
  omega

/-- The date of a day number, before its year is cut to what a date keeps, counts back to that
number; it is a date of the calendar. -/
theorem ofDayNumber_spec
    {number : Int}
    (fits : Fits (yearOfOffset (number + epoch))) :
    (ofDayNumber number).year = yearOfOffset (number + epoch) ∧
      (ofDayNumber number).Exists ∧
      (ofDayNumber number).dayNumber = number := by
  obtain ⟨begun, notOver⟩ := yearOfOffset_contains (number + epoch)
  obtain ⟨january, december, monthBegun, monthNotOver⟩ :=
    monthOfOffset_contains
      (yearOfOffset (number + epoch))
      (number + epoch - daysBeforeYear (yearOfOffset (number + epoch)))
      (by omega) (by omega)
  simp only [ofDayNumber, of, storedYear_eq fits, Exists, dayNumber]
  exact
    ⟨trivial, ⟨january, december, by omega, by omega⟩, by omega⟩

end Date

namespace TimeOfDay

/-- The seconds since midnight of a time that a clock shows. -/
theorem seconds_bounds
    {time : TimeOfDay}
    (existent : time.Exists) :
    0 ≤ time.seconds ∧ time.seconds < 86400 := by
  unfold TimeOfDay.Exists at existent
  unfold seconds
  omega

theorem ofSeconds_seconds
    {time : TimeOfDay}
    (existent : time.Exists) :
    ofSeconds time.seconds = time := by
  rcases time with ⟨hour, minute, second⟩
  simp only [TimeOfDay.Exists] at existent
  simp only [ofSeconds, seconds, TimeOfDay.mk.injEq]
  omega

theorem seconds_ofSeconds (seconds : Int) :
    (ofSeconds seconds).seconds = seconds := by
  simp only [ofSeconds, TimeOfDay.seconds]
  omega

theorem ofSeconds_exists
    {seconds : Int}
    (begun : 0 ≤ seconds)
    (notOver : seconds < 86400) :
    (ofSeconds seconds).Exists := by
  simp only [ofSeconds, TimeOfDay.Exists]
  omega

end TimeOfDay

namespace CivilTime

open Calendar

/-! ### Civil times and instants -/

/-- The civil time of an instant exists, is in the instant's year, and has that instant. -/
theorem ofInstant_spec
    {instant : Int}
    (fits : Fits (yearOf instant)) :
    (ofInstant instant).date.year = yearOf instant ∧
      (ofInstant instant).Exists ∧
      (ofInstant instant).toInstant = instant := by
  obtain ⟨year, dateExists, number⟩ := Date.ofDayNumber_spec fits
  have timeExists : (TimeOfDay.ofSeconds (instant % 86400)).Exists :=
    TimeOfDay.ofSeconds_exists (by omega) (by omega)
  refine ⟨year, ⟨dateExists, timeExists⟩, ?_⟩
  simp only [toInstant, ofInstant, number, TimeOfDay.seconds_ofSeconds]
  omega

/-- The instant of an existing civil time has that civil time. -/
theorem ofInstant_toInstant
    {civil : CivilTime}
    (existent : civil.Exists)
    (fits : Fits civil.date.year) :
    ofInstant civil.toInstant = civil := by
  obtain ⟨begun, notOver⟩ := TimeOfDay.seconds_bounds existent.2
  have day : civil.toInstant / 86400 = civil.date.dayNumber := by
    unfold toInstant
    omega
  have time : civil.toInstant % 86400 = civil.time.seconds := by
    unfold toInstant
    omega
  unfold ofInstant
  rw [day, time, Date.ofDayNumber_dayNumber existent.1 fits,
    TimeOfDay.ofSeconds_seconds existent.2]

theorem yearOf_toInstant
    {civil : CivilTime}
    (existent : civil.Exists) :
    yearOf civil.toInstant = civil.date.year := by
  obtain ⟨begun, notOver⟩ := TimeOfDay.seconds_bounds existent.2
  obtain ⟨yearBegun, yearNotOver⟩ := Date.dayNumber_inYear existent.1
  have day : civil.toInstant / 86400 = civil.date.dayNumber := by
    unfold toInstant
    omega
  unfold yearOf
  rw [day]
  exact yearOfOffset_eq yearBegun yearNotOver

/-- Instants are in the order of date and time of day. -/
theorem toInstant_lt_iff
    {first second : CivilTime}
    (firstExists : first.Exists)
    (secondExists : second.Exists) :
    first.toInstant < second.toInstant ↔
      first.date.Before second.date ∨
        (first.date = second.date ∧
          first.time.seconds < second.time.seconds) := by
  obtain ⟨firstBegun, firstNotOver⟩ := TimeOfDay.seconds_bounds firstExists.2
  obtain ⟨secondBegun, secondNotOver⟩ := TimeOfDay.seconds_bounds secondExists.2
  rw [← Date.dayNumber_lt_iff firstExists.1 secondExists.1]
  unfold toInstant
  constructor
  · intro less
    rcases Date.before_trichotomy first.date second.date with
        before | same | after
    · have := Date.dayNumber_lt firstExists.1 secondExists.1 before
      omega
    · rw [same] at less
      exact Or.inr ⟨same, by omega⟩
    · have := Date.dayNumber_lt secondExists.1 firstExists.1 after
      omega
  · rintro (before | ⟨same, earlier⟩)
    · omega
    · rw [same]
      omega

end CivilTime

end Cadence
