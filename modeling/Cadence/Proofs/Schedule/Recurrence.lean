import Cadence.Proofs.LeapCycle
import Cadence.Proofs.Schedule.NextOccurrence

namespace Cadence

namespace Schedule

/-!
# Occurrences come round

A schedule permits dates by their day, their month and their day of the week, and
times of day whatever the date.  So an occurrence comes again whenever its date does,
at the same time of day; and a schedule that ever occurs does so within 14609 days
after any base, unless the years of the search are over by then.
-/

/-- The days within which every date comes again: 40 years in which one leap day is left out. -/
def recurrenceDays : Int := 14609

/-- An occurrence comes again within 14609 days after any instant. -/
theorem exists_occurrence_after
    {schedule : Schedule}
    {instant : Int}
    (fits : Calendar.Fits (Calendar.yearOf instant))
    (occurs : schedule.Matches instant)
    (base : Int) :
    ∃ later, base < later ∧ later ≤ base + 86400 * recurrenceDays ∧
      (Calendar.Fits (Calendar.yearOf later) → schedule.Matches later) := by
  obtain ⟨-, ⟨dateExists, timeExists⟩, -⟩ := CivilTime.ofInstant_spec fits
  obtain ⟨⟨day, month, weekday⟩, atTime⟩ := occurs
  generalize CivilTime.ofInstant instant = civil at *
  obtain ⟨notNegative, inDay⟩ := TimeOfDay.seconds_bounds timeExists
  -- The last day on which the time of day is not after the base yet.
  obtain ⟨date, existent, sameMonth, sameDay, sameWeekday, after, soon⟩ :=
    Date.exists_recurrence dateExists ((base - civil.time.seconds) / 86400)
  have instantShape : CivilTime.toInstant ⟨date, civil.time⟩ =
      86400 * date.dayNumber + civil.time.seconds := rfl
  refine ⟨CivilTime.toInstant ⟨date, civil.time⟩, by omega, ?_, fun laterFits => ?_⟩
  · simp only [recurrenceDays]
    omega
  · have laterExists : (CivilTime.mk date civil.time).Exists := ⟨existent, timeExists⟩
    rw [CivilTime.yearOf_toInstant laterExists] at laterFits
    rw [Matches, CivilTime.ofInstant_toInstant laterExists laterFits]
    exact ⟨⟨sameDay ▸ day, sameMonth ▸ month, sameWeekday ▸ weekday⟩, atTime⟩

/-- The next occurrence is within 14609 days after the base, or it is the last instant of the
calendar, which stands for none. -/
theorem nextOccurrence_soon
    {schedule : Schedule}
    (wellFormed : schedule.WellFormed)
    {base : Int}
    (baseFits : Calendar.Fits (Calendar.yearOf base))
    (inYears : base + 86400 * recurrenceDays < maxTime) :
    schedule.nextOccurrence base maxTime = maxTime ∨
      (base < schedule.nextOccurrence base maxTime ∧
        schedule.nextOccurrence base maxTime ≤ base + 86400 * recurrenceDays) := by
  have lastFits : Calendar.Fits (Calendar.yearOf maxTime) := by decide +kernel
  have lastYearOf : Calendar.yearOf maxTime = lastYear := by decide +kernel
  rcases nextOccurrence_cases wellFormed baseFits lastFits with isLeast | ⟨isLast, -⟩
  · obtain ⟨after, before, -, occurs⟩ := isLeast.1
    obtain ⟨later, laterAfter, soon, again⟩ :=
      exists_occurrence_after (fits_of_between baseFits lastFits after.le before.le) occurs base
    have laterBefore : later < maxTime := by omega
    have laterFits := fits_of_between baseFits lastFits laterAfter.le laterBefore.le
    have laterYear : Calendar.yearOf later ≤ lastYear :=
      lastYearOf ▸ Calendar.yearOf_mono laterBefore.le
    have notLater := isLeast.2 ⟨laterAfter, laterBefore, laterYear, again laterFits⟩
    exact Or.inr ⟨after, notLater.trans soon⟩
  · exact Or.inl isLast

end Schedule

end Cadence
