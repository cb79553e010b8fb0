import Cadence.Proofs.Schedule.NextOccurrence

namespace Cadence

/-!
# The correction of a date, round by round

The search for a date can be carried out in place, on a civil time whose fields are
overwritten one after another.  A round takes the next day of the month, or the first
one of the month after, and then the next month, or the first one of the year after;
whatever stands behind a field that passes the field of the base starts over.  If the
calendar does not have the date, which is only asked for a late day on another date
than the base, the next round starts from the month that was reached.

Every further round is in a later month, so that the rounds come to an end, and they
come to the date that the search finds: the earliest one of the calendar.
-/

namespace Date

/-- Dates in the order of year and month. -/
def MonthBefore (first second : Date) : Prop :=
  first.year < second.year ∨
    (first.year = second.year ∧ first.month < second.month)

end Date

namespace Schedule

/-- A civil time that is being corrected, and the day to take in its month; without one the month
is used up. -/
structure Draft where
  civil : CivilTime
  nextDay : Option Int
  deriving DecidableEq, Repr

namespace Draft

/-- Where the search for a date stands at a draft. -/
def cursor (draft : Draft) : DateCursor :=
  ⟨draft.civil.date.year, draft.civil.date.month, draft.nextDay⟩

/-- The draft of a civil time, which takes the next permitted day from its day on. -/
def opening (schedule : Schedule) (civil : CivilTime) : Draft :=
  ⟨civil, schedule.days.next civil.date.day⟩

end Draft

/-- What a correction comes to. -/
inductive Correction
  | settled (civil : CivilTime)
  /-- No date is left up to the last year. -/
  | outOfYears
  /-- The date reached does not exist and is not before the one of the limit. -/
  | pastLimit
  deriving DecidableEq, Repr

namespace Correction

/-- The civil time that was settled on. -/
def civil? : Correction → Option CivilTime
  | settled civil => some civil
  | outOfYears => none
  | pastLimit => none

/-- The date that was settled on. -/
def date? (result : Correction) : Option Date :=
  result.civil?.map CivilTime.date

end Correction

/-- What one round of a correction comes to. -/
inductive Round
  | ended (result : Correction)
  /-- The next round, from a month that is used up. -/
  | again (draft : Draft)
  deriving DecidableEq, Repr

/-- The next day of the month is taken, or the first one of the month after.  The time starts over
unless the day is the base's or an earlier one. -/
def takeDay (schedule : Schedule) (base : Date) (draft : Draft) : CivilTime :=
  match draft.nextDay with
  | none =>
      ⟨⟨draft.civil.date.year, draft.civil.date.month + 1, firstOf schedule.days⟩,
        schedule.firstTime⟩
  | some day =>
      ⟨⟨draft.civil.date.year, draft.civil.date.month, day⟩,
        if base.day < day then schedule.firstTime else draft.civil.time⟩

/-- The next month is taken, or the first one of the year after.  The day and the time start over
unless the month is the base's or an earlier one. -/
def takeMonth (schedule : Schedule) (base : Date) (civil : CivilTime) : CivilTime :=
  match schedule.months.next civil.date.month with
  | none =>
      ⟨⟨civil.date.year + 1, firstOf schedule.months, firstOf schedule.days⟩,
        schedule.firstTime⟩
  | some month =>
      if base.month < month then
        ⟨⟨civil.date.year, month, firstOf schedule.days⟩, schedule.firstTime⟩
      else
        ⟨⟨civil.date.year, month, civil.date.day⟩, civil.time⟩

/-- The civil time that a round comes to before it asks whether its date exists. -/
def carried (schedule : Schedule) (base : Date) (draft : Draft) : CivilTime :=
  schedule.takeMonth base (schedule.takeDay base draft)

/-- One round of a correction, for the date of a base and that of a limit. -/
def round (schedule : Schedule) (base limit : Date) (draft : Draft) : Round :=
  let civil := schedule.carried base draft
  if lastYear < civil.date.year then
    .ended .outOfYears
  else if 28 < civil.date.day ∧ civil.date ≠ base ∧
      Calendar.daysInMonth civil.date.year civil.date.month < civil.date.day then
    if civil.date.Before limit then .again ⟨civil, none⟩ else .ended .pastLimit
  else
    .ended (.settled civil)

/-! ### Rounds go forward -/

/-- A round comes to a later year, or within the year to a month that is not earlier, and later if
the month of the draft is used up. -/
theorem carried_forward
    (schedule : Schedule)
    (base : Date)
    (draft : Draft) :
    (schedule.carried base draft).date.year = draft.civil.date.year + 1 ∨
      ((schedule.carried base draft).date.year = draft.civil.date.year ∧
        (schedule.carried base draft).date.month ≤ schedule.months.kind.greatest ∧
        (draft.civil.date.month < (schedule.carried base draft).date.month ∨
          ((schedule.carried base draft).date.month = draft.civil.date.month ∧
            draft.nextDay.isSome))) := by
  obtain ⟨⟨⟨year, month, day⟩, time⟩, nextDay⟩ := draft
  cases nextDay with
  | none =>
      simp only [carried, takeMonth, takeDay]
      cases reachedShape : schedule.months.next (month + 1) with
      | none => exact Or.inl rfl
      | some reached =>
          obtain ⟨start, greatest⟩ := next_bounds reachedShape
          refine Or.inr ?_
          simp only
          split <;> exact ⟨rfl, greatest, Or.inl (by simp only; omega)⟩
  | some day =>
      simp only [carried, takeMonth, takeDay]
      cases reachedShape : schedule.months.next month with
      | none => exact Or.inl rfl
      | some reached =>
          obtain ⟨start, greatest⟩ := next_bounds reachedShape
          refine Or.inr ?_
          simp only
          split <;> exact ⟨rfl, greatest, by simp only [Option.isSome_some, and_true]; omega⟩

/-- Another round goes on from the month that was reached, within the years of the search. -/
theorem round_again
    {schedule : Schedule}
    {base limit : Date}
    {draft next : Draft}
    (again : schedule.round base limit draft = .again next) :
    next = ⟨schedule.carried base draft, none⟩ ∧
      (schedule.carried base draft).date.year ≤ lastYear ∧
      (schedule.carried base draft).date ≠ base ∧
      Calendar.daysInMonth (schedule.carried base draft).date.year
        (schedule.carried base draft).date.month < (schedule.carried base draft).date.day ∧
      (schedule.carried base draft).date.Before limit := by
  unfold round at again
  simp only at again
  split at again
  · cases again
  · next inYears =>
      split at again
      · next missing =>
          split at again
          · next before =>
              cases again
              exact ⟨rfl, by omega, missing.2.1, missing.2.2, before⟩
          · cases again
      · cases again

/-- The round after another one comes to a later month. -/
theorem carried_monthBefore
    {schedule : Schedule}
    {base limit : Date}
    {draft next : Draft}
    (again : schedule.round base limit draft = .again next) :
    (schedule.carried base draft).date.MonthBefore (schedule.carried base next).date := by
  obtain ⟨rfl, -⟩ := round_again again
  have forward :=
    schedule.carried_forward base ⟨schedule.carried base draft, none⟩
  simp only [Option.isSome_none, Bool.false_eq_true, and_false, or_false] at forward
  unfold Date.MonthBefore
  omega

/-- The correction of a draft: rounds, until one of them is over. -/
def correct (schedule : Schedule) (base limit : Date) (draft : Draft) : Correction :=
  match _again : schedule.round base limit draft with
  | .ended result => result
  | .again next => correct schedule base limit next
  termination_by ((lastYear + 1 - draft.civil.date.year).toNat,
    (schedule.months.kind.greatest + 1 - draft.civil.date.month).toNat,
    if draft.nextDay.isSome then 1 else 0)
  decreasing_by
    obtain ⟨rfl, inYears, -⟩ := round_again _again
    simp only
    rcases schedule.carried_forward base draft with
        later | ⟨sameYear, inMonths, later | ⟨sameMonth, hasDay⟩⟩
    · apply Prod.Lex.left
      omega
    · rw [sameYear]
      apply Prod.Lex.right
      apply Prod.Lex.left
      omega
    · rw [sameYear, sameMonth]
      apply Prod.Lex.right
      apply Prod.Lex.right
      simp [hasDay]

theorem correct_of_ended
    {schedule : Schedule}
    {base limit : Date}
    {draft : Draft}
    {result : Correction}
    (ended : schedule.round base limit draft = .ended result) :
    schedule.correct base limit draft = result := by
  rw [correct]
  split <;> simp_all

theorem correct_of_again
    {schedule : Schedule}
    {base limit : Date}
    {draft next : Draft}
    (again : schedule.round base limit draft = .again next) :
    schedule.correct base limit draft = schedule.correct base limit next := by
  rw [correct]
  split <;> simp_all

/-! ### Rounds are moves of the search -/

namespace Draft

/-- A draft that a correction for a base comes to: not in an earlier month than the base, and in the
base's month, with no earlier day, as long as a day is to be taken. -/
structure FollowsFrom (base : Date) (draft : Draft) : Prop where
  notBefore : ¬ draft.civil.date.MonthBefore base
  inMonth :
    ∀ day, draft.nextDay = some day →
      draft.civil.date.year = base.year ∧ draft.civil.date.month = base.month ∧ base.day ≤ day

/-- A used-up month that is not before the base's leads to other dates than the base. -/
theorem FollowsFrom.ne_of_reaches
    {base date : Date}
    {draft : Draft}
    (follows : draft.FollowsFrom base)
    (usedUp : draft.nextDay = none)
    (reached : draft.cursor.Reaches date) :
    date ≠ base := by
  rintro rfl
  have notBefore := follows.notBefore
  simp only [cursor, usedUp, DateCursor.Reaches] at reached
  unfold Date.MonthBefore at notBefore
  omega

end Draft

/-- A round carries to the date to which the search carries, and starts the time over unless that
is the base's date. -/
theorem carried_eq
    {schedule : Schedule}
    {base : Date}
    {draft : Draft}
    (follows : draft.FollowsFrom base) :
    schedule.carried base draft =
      ⟨schedule.carriedDate draft.cursor,
        if schedule.carriedDate draft.cursor = base then draft.civil.time
        else schedule.firstTime⟩ := by
  obtain ⟨notBefore, inMonth⟩ := follows
  obtain ⟨⟨⟨year, month, day⟩, time⟩, nextDay⟩ := draft
  obtain ⟨baseYear, baseMonth, baseDay⟩ := base
  simp only [Date.MonthBefore] at notBefore
  simp only at inMonth
  cases nextDay with
  | none =>
      cases reachedShape : schedule.months.next (month + 1) with
      | none =>
          have later : year + 1 ≠ baseYear := by omega
          simp [carried, takeMonth, takeDay, carriedDate, Draft.cursor, reachedShape, later]
      | some reached =>
          have start := (next_bounds reachedShape).1
          have later : ¬ (year = baseYear ∧ reached = baseMonth ∧
              firstOf schedule.days = baseDay) := by
            omega
          simp [carried, takeMonth, takeDay, carriedDate, Draft.cursor, reachedShape, later]
  | some nextDay =>
      obtain ⟨rfl, rfl, notEarlier⟩ := inMonth nextDay rfl
      cases reachedShape : schedule.months.next month with
      | none =>
          have later : year + 1 ≠ year := by omega
          simp [carried, takeMonth, takeDay, carriedDate, Draft.cursor, reachedShape, later]
      | some reached =>
          have start := (next_bounds reachedShape).1
          rcases start.eq_or_lt with rfl | later
          · rcases notEarlier.eq_or_lt with rfl | laterDay
            · simp [carried, takeMonth, takeDay, carriedDate, Draft.cursor, reachedShape]
            · simp [carried, takeMonth, takeDay, carriedDate, Draft.cursor, reachedShape,
                laterDay, laterDay.ne']
          · simp [carried, takeMonth, takeDay, carriedDate, Draft.cursor, reachedShape, later,
              later.ne']

section Rounds

variable {schedule : Schedule} {base limit : Date} {draft next : Draft}

/-- That a date exists need not be asked for days up to the 28th, nor for the date of the base. -/
theorem missing_iff
    (existent : base.Exists)
    (date : Date) :
    (28 < date.day ∧ date ≠ base ∧ Calendar.daysInMonth date.year date.month < date.day) ↔
      ¬ date.day ≤ Calendar.daysInMonth date.year date.month := by
  constructor
  · rintro ⟨-, -, tooShort⟩
    omega
  · intro tooShort
    have long := Calendar.le_daysInMonth date.year date.month
    refine ⟨by omega, ?_, by omega⟩
    rintro rfl
    exact tooShort existent.2.2.2

/-- A round is a move of the search. -/
theorem moveDate_eq
    (existent : base.Exists)
    (follows : draft.FollowsFrom base) :
    schedule.moveDate limit draft.cursor =
      match schedule.round base limit draft with
      | .ended (.settled civil) => .found civil.date
      | .ended .outOfYears => .exhausted
      | .ended .pastLimit => .exhausted
      | .again next => .missing next.civil.date.year next.civil.date.month := by
  have sameDate : schedule.carriedDate draft.cursor = (schedule.carried base draft).date := by
    rw [carried_eq follows]
  have missing := missing_iff existent (schedule.carried base draft).date
  unfold round moveDate
  simp only [sameDate, missing]
  by_cases late : lastYear < (schedule.carried base draft).date.year
  · simp only [late, if_true]
  · simp only [late, if_false]
    by_cases existent : (schedule.carried base draft).date.day ≤
        Calendar.daysInMonth (schedule.carried base draft).date.year
          (schedule.carried base draft).date.month
    · simp only [existent, not_true_eq_false, if_true, if_false]
    · simp only [existent, not_false_eq_true, if_true, if_false]
      split <;> rfl

/-- A round goes on where the search does, and is over where the search is. -/
theorem findDate_eq
    (existent : base.Exists)
    (follows : draft.FollowsFrom base) :
    schedule.findDate limit draft.cursor =
      match schedule.round base limit draft with
      | .ended result => result.date?
      | .again next => schedule.findDate limit next.cursor := by
  have moved : schedule.moveDate limit draft.cursor = _ := moveDate_eq existent follows
  rw [findDate]
  cases shape : schedule.round base limit draft with
  | ended result =>
      rw [shape] at moved
      cases result <;> simp only at moved <;> split <;>
        simp_all [Correction.date?, Correction.civil?]
  | again next =>
      rw [shape] at moved
      simp only at moved
      obtain ⟨rfl, -⟩ := round_again shape
      split <;> simp_all [Draft.cursor]

/-- Another round follows from the base as well, and neither gains nor loses a date of the calendar
that the search could find. -/
theorem again_follows
    (wellFormed : schedule.WellFormed)
    (follows : draft.FollowsFrom base)
    (again : schedule.round base limit draft = .again next) :
    next.FollowsFrom base ∧ next.nextDay = none ∧
      ∀ date, schedule.PermitsDate date →
        (next.cursor.Reaches date ↔ draft.cursor.Reaches date) := by
  obtain ⟨rfl, -, -, tooShort, -⟩ := round_again again
  have forward := schedule.carried_forward base draft
  refine ⟨⟨?_, by simp⟩, rfl, fun date permitted => ?_⟩
  · have notBefore := follows.notBefore
    unfold Date.MonthBefore at *
    simp only
    omega
  · rw [carried_eq follows] at tooShort ⊢
    exact ⟨reaches_of_behind, fun reached => reaches_behind wellFormed permitted reached tooShort⟩

end Rounds

/-! ### What a correction comes to -/

namespace Draft

/-- What the correction of a draft has to come to: the earliest date that the search could find from
the draft on, with the time started over unless it is the base's date; or nothing, if there are only
dates past the last year or only dates after the limit. -/
structure Corrects (schedule : Schedule) (base limit : Date) (draft : Draft)
    (result : Correction) : Prop where
  settled :
    ∀ civil, result = .settled civil →
      schedule.PermitsDate civil.date ∧ civil.date.year ≤ lastYear ∧
        draft.cursor.Reaches civil.date ∧
        (∀ other, schedule.PermitsDate other → draft.cursor.Reaches other →
          ¬ other.Before civil.date) ∧
        civil.time = if civil.date = base then draft.civil.time else schedule.firstTime
  outOfYears :
    result = .outOfYears →
      ∀ other, schedule.PermitsDate other → draft.cursor.Reaches other → lastYear < other.year
  pastLimit :
    result = .pastLimit →
      ∀ other, schedule.PermitsDate other → draft.cursor.Reaches other → limit.Before other

end Draft

section Corrections

variable {schedule : Schedule} {base limit : Date} {draft next : Draft}

/-- The last round comes to the right thing for its draft. -/
theorem ended_corrects
    (wellFormed : schedule.WellFormed)
    (existent : base.Exists)
    (follows : draft.FollowsFrom base)
    (permitted : draft.cursor.Permitted schedule)
    {result : Correction}
    (ended : schedule.round base limit draft = .ended result) :
    draft.Corrects schedule base limit result := by
  have shape : schedule.carried base draft = _ := carried_eq follows
  obtain ⟨dayPermitted, monthPermitted, reached⟩ := carriedDate_permitted wellFormed permitted
  have least (other : Date) (otherPermitted : schedule.PermitsDate other)
      (otherReached : draft.cursor.Reaches other) :
      ¬ other.Before (schedule.carriedDate draft.cursor) :=
    carriedDate_least wellFormed otherReached otherPermitted.2.1 otherPermitted.2.2
  unfold round at ended
  simp only [shape, missing_iff existent] at ended
  split at ended
  · next late =>
      cases ended
      refine ⟨by simp, fun _ other otherPermitted otherReached => ?_, by simp⟩
      have notBefore := least other otherPermitted otherReached
      unfold Date.Before at notBefore
      omega
  · next inYears =>
      split at ended
      · next tooShort =>
          split at ended
          · cases ended
          · next notBeforeLimit =>
              cases ended
              refine ⟨by simp, by simp, fun _ other otherPermitted otherReached => ?_⟩
              have behind := reaches_behind wellFormed otherPermitted otherReached (by omega)
              simp only [DateCursor.Reaches] at behind
              unfold Date.Before at *
              omega
      · next longEnough =>
          cases ended
          refine ⟨fun civil same => ?_, by simp, by simp⟩
          cases same
          have day := member_bounds wellFormed.days dayPermitted
          have month := member_bounds wellFormed.months monthPermitted
          exact ⟨⟨⟨month.1, month.2, day.1, by simpa using longEnough⟩, dayPermitted,
            monthPermitted⟩, by simp only; omega, reached, least, rfl⟩

/-- A correction comes to the right thing, which has the date that the search finds. -/
theorem correct_corrects
    (wellFormed : schedule.WellFormed)
    (existent : base.Exists)
    (limit : Date)
    (follows : draft.FollowsFrom base)
    (permitted : draft.cursor.Permitted schedule) :
    (schedule.correct base limit draft).date? = schedule.findDate limit draft.cursor ∧
      draft.Corrects schedule base limit (schedule.correct base limit draft) := by
  fun_induction correct schedule base limit draft with
  | case1 draft result ended =>
      rw [findDate_eq existent follows, ended]
      exact ⟨rfl, ended_corrects wellFormed existent follows permitted ended⟩
  | case2 draft next again inductionHypothesis =>
      obtain ⟨nextFollows, usedUp, sameReached⟩ := again_follows wellFormed follows again
      have nextPermitted : next.cursor.Permitted schedule := fun day shape => by
        simp [Draft.cursor, usedUp] at shape
      obtain ⟨sameDate, settled, outOfYears, pastLimit⟩ :=
        inductionHypothesis nextFollows nextPermitted
      rw [findDate_eq existent follows, again]
      refine ⟨sameDate, fun civil shape => ?_, fun shape other otherPermitted otherReached => ?_,
        fun shape other otherPermitted otherReached => ?_⟩
      · obtain ⟨civilPermitted, inYears, reached, least, time⟩ := settled civil shape
        have moved := nextFollows.ne_of_reaches usedUp reached
        rw [if_neg moved] at time
        refine ⟨civilPermitted, inYears, (sameReached _ civilPermitted).mp reached,
          fun other otherPermitted otherReached => ?_, by rw [if_neg moved, time]⟩
        exact least other otherPermitted ((sameReached other otherPermitted).mpr otherReached)
      · exact outOfYears shape other otherPermitted
          ((sameReached other otherPermitted).mpr otherReached)
      · exact pastLimit shape other otherPermitted
          ((sameReached other otherPermitted).mpr otherReached)

/-- The draft that a correction starts from follows from the base if its date is the base's, or the
day behind it. -/
theorem opening_follows
    {civil : CivilTime}
    (sameYear : civil.date.year = base.year)
    (sameMonth : civil.date.month = base.month)
    (notEarlier : base.day ≤ civil.date.day) :
    (Draft.opening schedule civil).FollowsFrom base where
  notBefore := by
    unfold Date.MonthBefore
    simp only [Draft.opening]
    omega
  inMonth := fun day shape => by
    obtain ⟨⟨later, -⟩, -⟩ := FieldSet.isLeast_of_next shape
    exact ⟨sameYear, sameMonth, notEarlier.trans later⟩

/-- A correction that starts on the base's date, or behind it with the first time of a day, settles
on the civil time at which the search goes on. -/
theorem civil?_correct_opening
    (wellFormed : schedule.WellFormed)
    (existent : base.Exists)
    (limit : Date)
    {day : Int}
    (notEarlier : base.day ≤ day)
    {time : TimeOfDay}
    (fresh : day ≠ base.day → time = schedule.firstTime) :
    let entry : Date := ⟨base.year, base.month, day⟩
    (schedule.correct base limit (.opening schedule ⟨entry, time⟩)).civil? =
      (schedule.findDate limit (schedule.cursorAt entry)).map fun found =>
        ⟨found, if found = entry then time else schedule.firstTime⟩ := by
  intro entry
  have follows : (Draft.opening schedule ⟨entry, time⟩).FollowsFrom base :=
    opening_follows rfl rfl notEarlier
  obtain ⟨sameDate, settled, -, -⟩ :=
    correct_corrects wellFormed existent limit follows (schedule.cursorAt_permitted entry)
  have sameCursor : (Draft.opening schedule ⟨entry, time⟩).cursor = schedule.cursorAt entry := rfl
  rw [← sameCursor, ← sameDate]
  cases shape : schedule.correct base limit (.opening schedule ⟨entry, time⟩) with
  | outOfYears => rfl
  | pastLimit => rfl
  | settled civil =>
      obtain ⟨-, -, -, -, startsOver⟩ := settled civil shape
      have sameTime :
          civil.time = if civil.date = entry then time else schedule.firstTime := by
        rw [startsOver]
        by_cases onBase : day = base.day
        · subst onBase
          rfl
        · simp [fresh onBase, Draft.opening]
      simp only [Correction.date?, Correction.civil?, Option.map_some, ← sameTime]

end Corrections

/-- From the start of 1970 the correction for noon of a leap Monday takes two further rounds, to the
leap day of 1972.  It is a Tuesday, but the day of the week is not looked at yet. -/
theorem correct_leapMonday :
    leapMonday.correct ⟨1970, 1, 1⟩ (CivilTime.ofInstant maxTime).date
        (.opening leapMonday ⟨⟨1970, 1, 1⟩, ⟨12, 0, 0⟩⟩) =
      .settled ⟨⟨1972, 2, 29⟩, ⟨12, 0, 0⟩⟩ := by
  have first :
      leapMonday.round ⟨1970, 1, 1⟩ (CivilTime.ofInstant maxTime).date
          (.opening leapMonday ⟨⟨1970, 1, 1⟩, ⟨12, 0, 0⟩⟩) =
        .again ⟨⟨⟨1970, 2, 29⟩, ⟨12, 0, 0⟩⟩, none⟩ := by
    decide +kernel
  have second :
      leapMonday.round ⟨1970, 1, 1⟩ (CivilTime.ofInstant maxTime).date
          ⟨⟨⟨1970, 2, 29⟩, ⟨12, 0, 0⟩⟩, none⟩ =
        .again ⟨⟨⟨1971, 2, 29⟩, ⟨12, 0, 0⟩⟩, none⟩ := by
    decide +kernel
  have third :
      leapMonday.round ⟨1970, 1, 1⟩ (CivilTime.ofInstant maxTime).date
          ⟨⟨⟨1971, 2, 29⟩, ⟨12, 0, 0⟩⟩, none⟩ =
        .ended (.settled ⟨⟨1972, 2, 29⟩, ⟨12, 0, 0⟩⟩) := by
    decide +kernel
  rw [correct_of_again first, correct_of_again second, correct_of_ended third]

end Schedule

end Cadence
