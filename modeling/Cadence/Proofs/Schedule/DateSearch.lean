import Cadence.Proofs.Schedule.TimeSearch

namespace Cadence

/-!
# The search for a date

From a cursor on, the search finds the earliest date of the calendar whose day
and month are permitted.  Carrying a cursor gives the earliest permitted day and
month, whether or not the calendar has it; if the month is too short for the day,
nothing in that month is left, and the search goes on behind the month.
-/

namespace Schedule

/-- The dates of the calendar with a permitted day and month; the day of the week is left out. -/
def PermitsDate (schedule : Schedule) (date : Date) : Prop :=
  date.Exists ∧ schedule.days.contains date.day ∧ schedule.months.contains date.month

namespace DateCursor

/-- The dates at a cursor or after it: from its day on, or behind its month if that is used up. -/
def Reaches (cursor : DateCursor) (date : Date) : Prop :=
  match cursor.day with
  | some day => ¬ date.Before ⟨cursor.year, cursor.month, day⟩
  | none =>
      cursor.year < date.year ∨
        (cursor.year = date.year ∧ cursor.month < date.month)

/-- A cursor whose day, if it has one, is permitted. -/
def Permitted (schedule : Schedule) (cursor : DateCursor) : Prop :=
  ∀ day, cursor.day = some day → schedule.days.contains day

end DateCursor

/-- A carried date has a permitted day and month, and is reached by its cursor. -/
theorem carriedDate_permitted
    {schedule : Schedule}
    (wellFormed : schedule.WellFormed)
    {cursor : DateCursor}
    (permitted : cursor.Permitted schedule) :
    schedule.days.contains (schedule.carriedDate cursor).day ∧
      schedule.months.contains (schedule.carriedDate cursor).month ∧
      cursor.Reaches (schedule.carriedDate cursor) := by
  have firstDay := (isLeast_firstOf wellFormed.days).1
  have firstMonth := (isLeast_firstOf wellFormed.months).1
  obtain ⟨year, month, day⟩ := cursor
  cases day with
  | none =>
      cases next : schedule.months.next (month + 1) with
      | none =>
          simp only [carriedDate, next, Option.isSome_none, Bool.false_eq_true, if_false,
            DateCursor.Reaches]
          exact ⟨firstDay, firstMonth, Or.inl (by omega)⟩
      | some reached =>
          obtain ⟨⟨later, reachedPermitted⟩, -⟩ := FieldSet.isLeast_of_next next
          simp only [carriedDate, next, Option.isSome_none, Bool.false_eq_true, if_false,
            Option.getD_none, ite_self, DateCursor.Reaches]
          exact ⟨firstDay, reachedPermitted, Or.inr ⟨trivial, by omega⟩⟩
  | some day =>
      have dayPermitted := permitted day rfl
      cases next : schedule.months.next month with
      | none =>
          simp only [carriedDate, next, Option.isSome_some, if_true, DateCursor.Reaches,
            Date.Before]
          exact ⟨firstDay, firstMonth, by omega⟩
      | some reached =>
          obtain ⟨⟨later, reachedPermitted⟩, -⟩ := FieldSet.isLeast_of_next next
          simp only [carriedDate, next, Option.isSome_some, if_true, Option.getD_some,
            DateCursor.Reaches, Date.Before]
          refine ⟨?_, reachedPermitted, ?_⟩
          · split
            · exact dayPermitted
            · exact firstDay
          · split <;> omega

/-- No date with a permitted day and month that a cursor reaches is before the carried date. -/
theorem carriedDate_least
    {schedule : Schedule}
    (wellFormed : schedule.WellFormed)
    {cursor : DateCursor}
    {date : Date}
    (reached : cursor.Reaches date)
    (dayPermitted : schedule.days.contains date.day)
    (monthPermitted : schedule.months.contains date.month) :
    ¬ date.Before (schedule.carriedDate cursor) := by
  have firstDay := (isLeast_firstOf wellFormed.days).2 dayPermitted
  have firstMonth := (isLeast_firstOf wellFormed.months).2 monthPermitted
  obtain ⟨year, month, day⟩ := cursor
  cases day with
  | none =>
      simp only [DateCursor.Reaches] at reached
      cases next : schedule.months.next (month + 1) with
      | none =>
          have before := FieldSet.lt_of_next_eq_none next monthPermitted
          simp only [carriedDate, next, Option.isSome_none, Bool.false_eq_true, if_false,
            Date.Before]
          omega
      | some following =>
          have least := (FieldSet.isLeast_of_next next).2
          have notBelow : month + 1 ≤ date.month → following ≤ date.month :=
            fun later => least ⟨later, monthPermitted⟩
          simp only [carriedDate, next, Option.isSome_none, Bool.false_eq_true, if_false,
            Option.getD_none, ite_self, Date.Before]
          omega
  | some day =>
      simp only [DateCursor.Reaches, Date.Before] at reached
      cases next : schedule.months.next month with
      | none =>
          have before := FieldSet.lt_of_next_eq_none next monthPermitted
          simp only [carriedDate, next, Option.isSome_some, if_true, Date.Before]
          omega
      | some following =>
          have least := (FieldSet.isLeast_of_next next).2
          have notBelow : month ≤ date.month → following ≤ date.month :=
            fun later => least ⟨later, monthPermitted⟩
          have start := (FieldSet.isLeast_of_next next).1.1
          simp only [carriedDate, next, Option.isSome_some, if_true, Option.getD_some,
            Date.Before]
          split <;> omega

/-- A move that finds a date finds the carried one, which is one of the calendar. -/
theorem carriedDate_of_found
    {schedule : Schedule}
    (wellFormed : schedule.WellFormed)
    {limit found : Date}
    {cursor : DateCursor}
    (permitted : cursor.Permitted schedule)
    (moved : schedule.moveDate limit cursor = .found found) :
    found = schedule.carriedDate cursor ∧ found.Exists ∧ found.year ≤ lastYear := by
  obtain ⟨dayPermitted, monthPermitted, -⟩ :=
    carriedDate_permitted wellFormed permitted
  have day := member_bounds wellFormed.days dayPermitted
  have month := member_bounds wellFormed.months monthPermitted
  unfold moveDate at moved
  simp only at moved
  split at moved
  · cases moved
  · next inYears =>
      split at moved
      · next inMonth =>
          cases moved
          exact ⟨rfl, ⟨month.1, month.2, day.1, inMonth⟩, by omega⟩
      · split at moved <;> cases moved

/-- A move that misses a date has found the month of the carried date too short for it. -/
theorem carriedDate_of_missing
    {schedule : Schedule}
    {limit : Date}
    {cursor : DateCursor}
    {year month : Int}
    (moved : schedule.moveDate limit cursor = .missing year month) :
    year = (schedule.carriedDate cursor).year ∧
      month = (schedule.carriedDate cursor).month ∧
      Calendar.daysInMonth (schedule.carriedDate cursor).year
        (schedule.carriedDate cursor).month < (schedule.carriedDate cursor).day := by
  unfold moveDate at moved
  simp only at moved
  split at moved
  · cases moved
  · split at moved
    · cases moved
    · next tooShort =>
        split at moved
        · cases moved
          exact ⟨rfl, rfl, by omega⟩
        · cases moved

/-- A move that ends the search is out of the years, or misses a date that is not before the
limit. -/
theorem carriedDate_of_exhausted
    {schedule : Schedule}
    {limit : Date}
    {cursor : DateCursor}
    (moved : schedule.moveDate limit cursor = .exhausted) :
    lastYear < (schedule.carriedDate cursor).year ∨
      (Calendar.daysInMonth (schedule.carriedDate cursor).year
          (schedule.carriedDate cursor).month < (schedule.carriedDate cursor).day ∧
        ¬ (schedule.carriedDate cursor).Before limit) := by
  unfold moveDate at moved
  simp only at moved
  split at moved
  · next late => exact Or.inl late
  · split at moved
    · cases moved
    · next tooShort =>
        split at moved
        · cases moved
        · next notBefore => exact Or.inr ⟨by omega, notBefore⟩

/-- A date of the calendar that a cursor reaches lies behind the month of the carried date if
that month is too short for it. -/
theorem reaches_behind
    {schedule : Schedule}
    (wellFormed : schedule.WellFormed)
    {cursor : DateCursor}
    {date : Date}
    (permitted : schedule.PermitsDate date)
    (reached : cursor.Reaches date)
    (tooShort :
      Calendar.daysInMonth (schedule.carriedDate cursor).year
        (schedule.carriedDate cursor).month < (schedule.carriedDate cursor).day) :
    DateCursor.Reaches
      ⟨(schedule.carriedDate cursor).year, (schedule.carriedDate cursor).month, none⟩
      date := by
  obtain ⟨⟨-, -, -, inMonth⟩, dayPermitted, monthPermitted⟩ := permitted
  have notBefore := carriedDate_least wellFormed reached dayPermitted monthPermitted
  generalize schedule.carriedDate cursor = carried at *
  simp only [DateCursor.Reaches]
  unfold Date.Before at notBefore
  by_cases sameMonth : carried.year = date.year ∧ carried.month = date.month
  · rw [sameMonth.1, sameMonth.2] at tooShort
    omega
  · omega

/-- A date behind the month of the carried date is reached by the cursor. -/
theorem reaches_of_behind
    {schedule : Schedule}
    {cursor : DateCursor}
    {date : Date}
    (behind :
      DateCursor.Reaches
        ⟨(schedule.carriedDate cursor).year, (schedule.carriedDate cursor).month, none⟩
        date) :
    cursor.Reaches date := by
  have forward := schedule.carriedDate_forward cursor
  obtain ⟨year, month, day⟩ := cursor
  cases day <;>
    simp only [DateCursor.Reaches, Date.Before] at * <;>
    omega

/-- The date found is the earliest permitted date of the calendar from the cursor on. -/
theorem findDate_some
    {schedule : Schedule}
    (wellFormed : schedule.WellFormed)
    {limit found : Date}
    {cursor : DateCursor}
    (permitted : cursor.Permitted schedule)
    (result : schedule.findDate limit cursor = some found) :
    schedule.PermitsDate found ∧ found.year ≤ lastYear ∧ cursor.Reaches found ∧
      ∀ other, schedule.PermitsDate other → cursor.Reaches other →
        ¬ other.Before found := by
  fun_induction findDate schedule limit cursor with
  | case1 cursor date moved =>
      injection result with same
      subst same
      obtain ⟨rfl, existent, inYears⟩ := carriedDate_of_found wellFormed permitted moved
      obtain ⟨dayPermitted, monthPermitted, reached⟩ :=
        carriedDate_permitted wellFormed permitted
      refine ⟨⟨existent, dayPermitted, monthPermitted⟩, inYears, reached, ?_⟩
      intro other otherPermitted otherReached
      exact carriedDate_least wellFormed otherReached
        otherPermitted.2.1 otherPermitted.2.2
  | case2 cursor year month moved inductionHypothesis =>
      obtain ⟨rfl, rfl, tooShort⟩ := carriedDate_of_missing moved
      obtain ⟨foundPermitted, inYears, behind, least⟩ :=
        inductionHypothesis (by simp [DateCursor.Permitted]) result
      refine ⟨foundPermitted, inYears, reaches_of_behind behind, ?_⟩
      intro other otherPermitted otherReached
      exact least other otherPermitted
        (reaches_behind wellFormed otherPermitted otherReached tooShort)
  | case3 cursor moved =>
      contradiction

/-- Where no date is found, every permitted date of the calendar from the cursor on is past the
last year or after the limit. -/
theorem findDate_none
    {schedule : Schedule}
    (wellFormed : schedule.WellFormed)
    {limit : Date}
    {cursor : DateCursor}
    (permitted : cursor.Permitted schedule)
    (result : schedule.findDate limit cursor = none)
    {other : Date}
    (otherPermitted : schedule.PermitsDate other)
    (otherReached : cursor.Reaches other)
    (inYears : other.year ≤ lastYear) :
    limit.Before other := by
  fun_induction findDate schedule limit cursor with
  | case1 cursor date moved =>
      contradiction
  | case2 cursor year month moved inductionHypothesis =>
      obtain ⟨rfl, rfl, tooShort⟩ := carriedDate_of_missing moved
      exact inductionHypothesis (by simp [DateCursor.Permitted]) result
        (reaches_behind wellFormed otherPermitted otherReached tooShort)
  | case3 cursor moved =>
      have notBefore :=
        carriedDate_least wellFormed otherReached otherPermitted.2.1 otherPermitted.2.2
      rcases carriedDate_of_exhausted moved with late | ⟨tooShort, notBeforeLimit⟩
      · unfold Date.Before at notBefore
        omega
      · have behind :=
          reaches_behind wellFormed otherPermitted otherReached tooShort
        simp only [DateCursor.Reaches] at behind
        unfold Date.Before at *
        omega

/-- The cursor at a date reaches exactly the permitted dates that are not before it. -/
theorem cursorAt_reaches_iff
    {schedule : Schedule}
    {date other : Date}
    (permitted : schedule.PermitsDate other) :
    (schedule.cursorAt date).Reaches other ↔ ¬ other.Before date := by
  obtain ⟨-, dayPermitted, -⟩ := permitted
  cases next : schedule.days.next date.day with
  | some day =>
      obtain ⟨⟨later, -⟩, least⟩ := FieldSet.isLeast_of_next next
      have notBelow : date.day ≤ other.day → day ≤ other.day :=
        fun fromDate => least ⟨fromDate, dayPermitted⟩
      simp only [cursorAt, next, DateCursor.Reaches, Date.Before]
      omega
  | none =>
      have before := FieldSet.lt_of_next_eq_none next dayPermitted
      simp only [cursorAt, next, DateCursor.Reaches, Date.Before]
      omega

theorem cursorAt_permitted (schedule : Schedule) (date : Date) :
    (schedule.cursorAt date).Permitted schedule :=
  fun _ next => (FieldSet.isLeast_of_next next).1.2

end Schedule

end Cadence
