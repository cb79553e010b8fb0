import Cadence.Schedule.Basic

namespace Cadence

/-!
# The search for the next occurrence

The search looks for the least matching instant after a base.  It first asks for
the next permitted time on the day of the base; if there is none, the day is
carried over.  Then it looks for a date: the day is carried into the month, the
month into the year, and a day that the month reached does not have sends the
search on to the month after.  A date on the wrong day of the week sends it on
to the day after that date.  Time of day starts over whenever the date moves.

Every move of the search goes forward in the calendar, which is why it ends:
years stop at `lastYear`, months at the greatest one, and days at 31.
-/

namespace Schedule

/-- The last year in which an occurrence may fall. -/
def lastYear : Int := 9999

/-- The last second of the last year, which also stands for "no occurrence". -/
def maxTime : Int := 253402300799

/-- The first permitted value of a field, or its least one if nothing is permitted. -/
def firstOf (field : FieldSet) : Int :=
  field.first.getD field.kind.least

/-- The first permitted time of a day. -/
def firstTime (schedule : Schedule) : TimeOfDay :=
  ⟨firstOf schedule.hours, firstOf schedule.minutes, firstOf schedule.seconds⟩

/-- The next permitted second after one, and how many minutes it carries over. -/
def secondAfter (schedule : Schedule) (second : Int) : Int × Int :=
  match schedule.seconds.next (second + 1) with
  | some following => (following, 0)
  | none => (firstOf schedule.seconds, 1)

/-- The next permitted minute and second after a time, and how many hours they carry over. -/
def minuteAfter (schedule : Schedule) (minute second : Int) : Int × Int × Int :=
  let (following, carry) := schedule.secondAfter second
  match schedule.minutes.next (minute + carry) with
  | some reached =>
      (reached, if minute < reached then firstOf schedule.seconds else following, 0)
  | none => (firstOf schedule.minutes, firstOf schedule.seconds, 1)

/-- The next permitted time of the same day; none if the day is used up. -/
def timeAfter (schedule : Schedule) (time : TimeOfDay) : Option TimeOfDay :=
  let (minute, second, carry) := schedule.minuteAfter time.minute time.second
  match schedule.hours.next (time.hour + carry) with
  | some reached =>
      some <|
        if time.hour < reached then
          ⟨reached, firstOf schedule.minutes, firstOf schedule.seconds⟩
        else
          ⟨reached, minute, second⟩
  | none => none

/-- Where the search for a date stands: a month, and the day to take in it.  Without a day the
month is used up and the search goes on in the month after. -/
structure DateCursor where
  year : Int
  month : Int
  day : Option Int
  deriving DecidableEq, Repr

/-- What one move of the search for a date comes to. -/
inductive DateMove
  /-- An existing date. -/
  | found (date : Date)
  /-- The day does not exist in the month reached. -/
  | missing (year month : Int)
  /-- No date is left before the end of the last year or before the limit. -/
  | exhausted
  deriving DecidableEq, Repr

/-- The day and month of a cursor, carried into permitted ones. -/
def carriedDate (schedule : Schedule) (cursor : DateCursor) : Date :=
  let month := if cursor.day.isSome then cursor.month else cursor.month + 1
  let day := cursor.day.getD (firstOf schedule.days)
  match schedule.months.next month with
  | some reached => ⟨cursor.year, reached, if reached = month then day else firstOf schedule.days⟩
  | none => ⟨cursor.year + 1, firstOf schedule.months, firstOf schedule.days⟩

/-- One move of the search for a date before the date of the limit. -/
def moveDate (schedule : Schedule) (limit : Date) (cursor : DateCursor) : DateMove :=
  let date := schedule.carriedDate cursor
  if lastYear < date.year then
    .exhausted
  else if date.day ≤ Calendar.daysInMonth date.year date.month then
    .found date
  else if date.Before limit then
    .missing date.year date.month
  else
    .exhausted

/-- A value that the search for the next one finds is not below the start and not above the
greatest value of the field. -/
theorem next_bounds {field : FieldSet} {start value : Int}
    (found : field.next start = some value) :
    start ≤ value ∧ value ≤ field.kind.greatest := by
  have accepted := List.find?_some found
  simp only [FieldSet.contains, Bool.and_eq_true, decide_eq_true_eq] at accepted
  exact ⟨accepted.1, accepted.2.1.2⟩

/-- A carried date is in a later year, or in the same year in a month that is not before the
cursor's, and after it if the cursor's month is used up. -/
theorem carriedDate_forward (schedule : Schedule) (cursor : DateCursor) :
    (schedule.carriedDate cursor).year = cursor.year + 1 ∨
      ((schedule.carriedDate cursor).year = cursor.year ∧
        (schedule.carriedDate cursor).month ≤ schedule.months.kind.greatest ∧
        (cursor.month < (schedule.carriedDate cursor).month ∨
          ((schedule.carriedDate cursor).month = cursor.month ∧
            cursor.day = some (schedule.carriedDate cursor).day))) := by
  rcases cursor with ⟨year, month, day⟩
  cases day with
  | none =>
      cases reachedShape : schedule.months.next (month + 1) with
      | none =>
          left
          simp [carriedDate, reachedShape]
      | some reached =>
          right
          have bounds := next_bounds reachedShape
          simp only [carriedDate, reachedShape, Option.isSome_none, Bool.false_eq_true, if_false]
          exact ⟨trivial, bounds.2, Or.inl (by omega)⟩
  | some day =>
      cases reachedShape : schedule.months.next month with
      | none =>
          left
          simp [carriedDate, reachedShape]
      | some reached =>
          right
          have bounds := next_bounds reachedShape
          simp only [carriedDate, reachedShape, Option.isSome_some, if_true, Option.getD_some]
          refine ⟨trivial, bounds.2, ?_⟩
          by_cases same : reached = month
          · exact Or.inr ⟨same, by simp [same]⟩
          · exact Or.inl (by omega)

/-- The search for an existing date with a permitted day and month, from a cursor on. -/
def findDate (schedule : Schedule) (limit : Date) (cursor : DateCursor) : Option Date :=
  match _moved : schedule.moveDate limit cursor with
  | .found date => some date
  | .missing year month => findDate schedule limit ⟨year, month, none⟩
  | .exhausted => none
  termination_by ((lastYear + 1 - cursor.year).toNat,
    (schedule.months.kind.greatest + 1 - cursor.month).toNat, if cursor.day.isSome then 1 else 0)
  decreasing_by
    have forward := schedule.carriedDate_forward cursor
    simp only [moveDate] at _moved
    split at _moved
    · contradiction
    · split at _moved
      · contradiction
      · split at _moved
        · injection _moved with yearShape monthShape
          subst yearShape
          subst monthShape
          rename_i inYears _ _
          rcases forward with later | ⟨sameYear, inMonths, later | ⟨sameMonth, dayShape⟩⟩
          · apply Prod.Lex.left
            omega
          · rw [sameYear]
            apply Prod.Lex.right
            apply Prod.Lex.left
            omega
          · rw [sameYear, sameMonth]
            apply Prod.Lex.right
            apply Prod.Lex.right
            simp [dayShape]
        · contradiction

/-- A found date lies in the search's years and in the calendar's days, and not before the
cursor: in a later year, in a later month of the year, or on the cursor's very day. -/
theorem findDate_forward {schedule : Schedule} {limit found : Date} {cursor : DateCursor}
    (result : schedule.findDate limit cursor = some found) :
    found.year ≤ lastYear ∧ found.day ≤ 31 ∧
      (cursor.year < found.year ∨
        (found.year = cursor.year ∧
          ((cursor.month < found.month ∧ found.month ≤ schedule.months.kind.greatest) ∨
            (found.month = cursor.month ∧ cursor.day = some found.day)))) := by
  fun_induction findDate schedule limit cursor with
  | case1 cursor date moved =>
      injection result with same
      subst same
      have forward := schedule.carriedDate_forward cursor
      simp only [moveDate] at moved
      split at moved
      · contradiction
      · split at moved
        · injection moved with same
          subst same
          rename_i inYears inMonth
          have short := Calendar.daysInMonth_le (schedule.carriedDate cursor).year
            (schedule.carriedDate cursor).month
          refine ⟨by omega, by omega, ?_⟩
          rcases forward with later | ⟨sameYear, inMonths, later | sameMonth⟩
          · exact Or.inl (by omega)
          · exact Or.inr ⟨sameYear, Or.inl ⟨later, inMonths⟩⟩
          · exact Or.inr ⟨sameYear, Or.inr sameMonth⟩
        · split at moved <;> contradiction
  | case2 cursor year month moved inductionHypothesis =>
      have later := inductionHypothesis result
      have forward := schedule.carriedDate_forward cursor
      simp only [moveDate] at moved
      split at moved
      · contradiction
      · split at moved
        · contradiction
        · split at moved
          · injection moved with yearShape monthShape
            subst yearShape
            subst monthShape
            refine ⟨later.1, later.2.1, ?_⟩
            rcases later.2.2 with inLaterYear | ⟨sameYear, inLaterMonth | ⟨_, noDay⟩⟩
            · exact Or.inl (by simp only at inLaterYear; omega)
            · simp only at sameYear inLaterMonth
              rcases forward with later | ⟨sameYear', _, later | ⟨sameMonth, _⟩⟩
              · exact Or.inl (by omega)
              · exact Or.inr ⟨by omega, Or.inl ⟨by omega, inLaterMonth.2⟩⟩
              · exact Or.inr ⟨by omega, Or.inl ⟨by omega, inLaterMonth.2⟩⟩
            · simp at noDay
          · contradiction
  | case3 cursor moved =>
      contradiction

/-- The cursor that starts at a date: the next permitted day of its month, if there is one. -/
def cursorAt (schedule : Schedule) (date : Date) : DateCursor :=
  ⟨date.year, date.month, schedule.days.next date.day⟩

/-- The search for a matching instant before the limit: on the given date at the given time, or
on a later date at the first permitted time. -/
def searchFrom (schedule : Schedule) (limit : Int) (date : Date) (time : TimeOfDay) : Option Int :=
  match _found : schedule.findDate (CivilTime.ofInstant limit).date (schedule.cursorAt date) with
  | none => none
  | some found =>
      let instant :=
        CivilTime.toInstant ⟨found, if found = date then time else schedule.firstTime⟩
      if limit ≤ instant then
        none
      else if schedule.weekdays.contains found.weekday then
        some instant
      else
        searchFrom schedule limit ⟨found.year, found.month, found.day + 1⟩ schedule.firstTime
  termination_by ((lastYear + 1 - date.year).toNat,
    (schedule.months.kind.greatest + 1 - date.month).toNat, (32 - date.day).toNat)
  decreasing_by
    obtain ⟨inYears, inMonth, forward⟩ := findDate_forward _found
    simp only [cursorAt] at forward
    rcases forward with later | ⟨sameYear, later | ⟨sameMonth, dayShape⟩⟩
    · apply Prod.Lex.left
      omega
    · rw [sameYear]
      apply Prod.Lex.right
      apply Prod.Lex.left
      omega
    · rw [sameYear, sameMonth]
      apply Prod.Lex.right
      apply Prod.Lex.right
      have bounds := next_bounds dayShape
      omega

/-- How the search goes on from a date that it has found. -/
theorem searchFrom_of_found
    (schedule : Schedule)
    {limit : Int}
    {date found : Date}
    (time : TimeOfDay)
    (foundAt :
      schedule.findDate (CivilTime.ofInstant limit).date (schedule.cursorAt date) = some found) :
    schedule.searchFrom limit date time =
      let instant :=
        CivilTime.toInstant ⟨found, if found = date then time else schedule.firstTime⟩
      if limit ≤ instant then
        none
      else if schedule.weekdays.contains found.weekday then
        some instant
      else
        schedule.searchFrom limit ⟨found.year, found.month, found.day + 1⟩ schedule.firstTime := by
  rw [searchFrom]
  split
  · next missed =>
      rw [foundAt] at missed
      contradiction
  · next other otherFound =>
      obtain rfl := Option.some.inj (otherFound.symm.trans foundAt)
      rfl

/-- The search from the date of a base.  As long as the date does not move, nobody looks whether its
month has such a day: for a base in a year that dates cannot keep it may be a 29 February that is
none, and then it stands for the day after. -/
def searchAt (schedule : Schedule) (limit : Int) (date : Date) (time : TimeOfDay) : Option Int :=
  if Calendar.daysInMonth date.year date.month < date.day ∧ date.year ≤ lastYear ∧
      schedule.days.contains date.day ∧ schedule.months.contains date.month then
    let instant := CivilTime.toInstant ⟨date, time⟩
    if limit ≤ instant then
      none
    else if schedule.weekdays.contains date.weekday then
      some instant
    else
      let counted := Date.ofDayNumber date.dayNumber
      schedule.searchFrom limit ⟨counted.year, counted.month, counted.day + 1⟩ schedule.firstTime
  else
    schedule.searchFrom limit date time

theorem searchAt_of_exists
    (schedule : Schedule)
    (limit : Int)
    {date : Date}
    (existent : date.Exists)
    (time : TimeOfDay) :
    schedule.searchAt limit date time = schedule.searchFrom limit date time :=
  if_neg fun missing => Int.not_lt.mpr existent.2.2.2 missing.1

/-- The least matching instant strictly between a base and a limit, if the search finds one. -/
def nextOccurrence? (schedule : Schedule) (base limit : Int) : Option Int :=
  let civil := CivilTime.ofInstant base
  match schedule.timeAfter civil.time with
  | some time => schedule.searchAt limit civil.date time
  | none =>
      schedule.searchFrom limit ⟨civil.date.year, civil.date.month, civil.date.day + 1⟩
        schedule.firstTime

/-- The next occurrence after a base, or the limit if there is none before it. -/
def nextOccurrence (schedule : Schedule) (base limit : Int) : Int :=
  (schedule.nextOccurrence? base limit).getD limit

end Schedule

end Cadence
