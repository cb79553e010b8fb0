import Cadence.Proofs.Calendar

namespace Cadence

/-!
# Dates come round

The calendar repeats after 400 years, which are a whole number of weeks.  Within
them a leap year begins on every day of the week again after 28 years, or after 40
at most where a century without a leap day comes between.  A leap year has all the
days that any year has, so that every date of the calendar, the 29th of February
included, comes again on the same day of the week within 14609 days.
-/

namespace Calendar

/-! ### The cycle of 400 years -/

theorem isLeap_add_cycles
    (year cycles : Int) :
    isLeap (year + 400 * cycles) = isLeap year := by
  rw [Bool.eq_iff_iff, isLeap_iff, isLeap_iff]
  omega

theorem daysBeforeYear_add_cycles
    (year cycles : Int) :
    daysBeforeYear (year + 400 * cycles) = daysBeforeYear year + 146097 * cycles := by
  simp only [daysBeforeYear]
  omega

/-- In the cycle, after every fourth year, a leap year begins on every day of the week within ten
times four years, and within 14609 days. -/
theorem exists_leapYear_in_cycle :
    ∀ (fourth : Fin 100) (remainder : Fin 7), ∃ later : Fin 10,
      isLeap (4 * (fourth.val + later.val + 1)) = true ∧
        daysBeforeYear (4 * (fourth.val + later.val + 1)) % 7 = remainder.val ∧
        daysBeforeYear (4 * (fourth.val + later.val + 1)) ≤
          daysBeforeYear (4 * fourth.val) + 14609 := by
  decide +kernel

/-- After any year a leap year begins on a given day of the week within 14609 days. -/
theorem exists_leapYear
    (year remainder : Int)
    (notNegative : 0 ≤ remainder)
    (inWeek : remainder < 7) :
    ∃ later, year < later ∧ isLeap later = true ∧ daysBeforeYear later % 7 = remainder ∧
      daysBeforeYear later ≤ daysBeforeYear year + 14609 := by
  obtain ⟨times, leap, begins, soon⟩ :=
    exists_leapYear_in_cycle ⟨(year % 400 / 4).toNat, by omega⟩ ⟨remainder.toNat, by omega⟩
  have fourth : ((year % 400 / 4).toNat : Int) = year % 400 / 4 := by omega
  have whole : (remainder.toNat : Int) = remainder := by omega
  simp only [fourth, whole] at leap begins soon
  have cycle := daysBeforeYear_add_cycles (4 * (year % 400 / 4 + times.val + 1)) (year / 400)
  have start := daysBeforeYear_add_cycles (4 * (year % 400 / 4)) (year / 400)
  have notLater :
      daysBeforeYear (4 * (year % 400 / 4) + 400 * (year / 400)) ≤ daysBeforeYear year := by
    refine Int.not_lt.mp fun later => ?_
    have := daysBeforeYear_lt_iff.mp later
    omega
  refine ⟨4 * (year % 400 / 4 + times.val + 1) + 400 * (year / 400), by omega, ?_, by omega,
    by omega⟩
  rw [isLeap_add_cycles]
  exact leap

/-- The months of all leap years begin alike. -/
theorem daysBeforeMonth_of_isLeap
    {first second : Int}
    (firstLeap : isLeap first = true)
    (secondLeap : isLeap second = true)
    (month : Int) :
    daysBeforeMonth first month = daysBeforeMonth second month := by
  unfold daysBeforeMonth
  rw [firstLeap, secondLeap]

/-- A leap year has all the days that any year has. -/
theorem daysInMonth_le_of_isLeap
    {leapYear : Int}
    (leap : isLeap leapYear = true)
    (year month : Int) :
    daysInMonth year month ≤ daysInMonth leapYear month := by
  unfold daysInMonth
  rw [leap]
  split
  · split <;> decide
  · exact Int.le_refl _

end Calendar

namespace Date

open Calendar

/-- After any day a date comes again, on the same day of the week, within 14609 days. -/
theorem exists_recurrence
    {date : Date}
    (existent : date.Exists)
    (day : Int) :
    ∃ later : Date, later.Exists ∧ later.month = date.month ∧ later.day = date.day ∧
      later.weekday = date.weekday ∧ day < later.dayNumber ∧ later.dayNumber ≤ day + 14609 := by
  obtain ⟨january, december, first, last⟩ := existent
  -- Where the date stands in a leap year, counted from the same day as day numbers are.
  have someLeap : isLeap 2000 = true := by decide
  let offset := daysBeforeMonth 2000 date.month + (date.day - 1) - epoch
  have inLeapYear {year : Int} (leap : isLeap year = true) :
      (Date.mk year date.month date.day).dayNumber = daysBeforeYear year + offset := by
    simp only [dayNumber, daysBeforeMonth_of_isLeap leap someLeap, offset]
    omega
  obtain ⟨begun, notOver⟩ := yearOfOffset_contains (day - offset)
  obtain ⟨year, after, leap, begins, soon⟩ :=
    exists_leapYear (yearOfOffset (day - offset)) ((date.dayNumber - offset) % 7) (by omega)
      (by omega)
  have notBefore : daysBeforeYear (yearOfOffset (day - offset) + 1) ≤ daysBeforeYear year := by
    refine Int.not_lt.mp fun earlier => ?_
    have := daysBeforeYear_lt_iff.mp earlier
    omega
  have number := inLeapYear leap
  refine ⟨⟨year, date.month, date.day⟩, ⟨january, december, first, ?_⟩, rfl, rfl, ?_, by omega,
    by omega⟩
  · exact last.trans (daysInMonth_le_of_isLeap leap date.year date.month)
  · simp only [weekday]
    omega

end Date

end Cadence
