import Cadence.Proofs.Schedule.DateSearch

namespace Cadence

/-!
# The next occurrence is the least one

The occurrences of a schedule between two instants are the matching instants
strictly between them, up to the last year of the search.  The next occurrence
is the least of them, and the limit if there is none.

The search is followed over civil times: from a date on, at a permitted time of
that date or on a later date.  A date that is refused for its day of the week
hands over to the day after it, and no candidate is lost because the first time
of a day is the least one.
-/

namespace Schedule

/-- The civil times that match a schedule, from a date at a time on. -/
structure Candidate (schedule : Schedule) (date : Date) (time : TimeOfDay) (civil : CivilTime) :
    Prop where
  existent : civil.Exists
  matchesDate : schedule.MatchesDate civil.date
  matchesTime : schedule.MatchesTime civil.time
  notBefore :
    date.Before civil.date ∨
      (date = civil.date ∧ time.seconds ≤ civil.time.seconds)

namespace Candidate

variable
  {schedule : Schedule}
  {date : Date}
  {time : TimeOfDay}
  {civil : CivilTime}

theorem permitsDate
    (candidate : schedule.Candidate date time civil) :
    schedule.PermitsDate civil.date :=
  ⟨candidate.existent.1, candidate.matchesDate.1, candidate.matchesDate.2.1⟩

/-- A candidate from the day after a date on is later than the date. -/
theorem later
    (candidate : schedule.Candidate ⟨date.year, date.month, date.day + 1⟩ time civil) :
    date.Before civil.date := by
  rcases candidate.notBefore with later | ⟨same, -⟩
  · unfold Date.Before at *
    simp only at later
    omega
  · rw [← same]
    exact Or.inr ⟨rfl, Or.inr ⟨rfl, Int.lt_succ date.day⟩⟩

/-- A matching civil time on a date later than another is a candidate from the day after that on. -/
theorem ofLater
    (wellFormed : schedule.WellFormed)
    (existent : civil.Exists)
    (matchesDate : schedule.MatchesDate civil.date)
    (matchesTime : schedule.MatchesTime civil.time)
    (later : date.Before civil.date) :
    schedule.Candidate ⟨date.year, date.month, date.day + 1⟩ schedule.firstTime civil where
  existent := existent
  matchesDate := matchesDate
  matchesTime := matchesTime
  notBefore := by
    rcases (Date.not_before_iff _ _).mp (Date.not_before_next later) with same | after
    · exact Or.inr ⟨same.symm, wellFormed.firstTime_le matchesTime⟩
    · exact Or.inl after

/-- The search for a date reaches the date of every candidate. -/
theorem reached
    (candidate : schedule.Candidate date time civil) :
    (schedule.cursorAt date).Reaches civil.date := by
  rw [cursorAt_reaches_iff candidate.permitsDate, Date.not_before_iff]
  rcases candidate.notBefore with later | ⟨same, -⟩
  · exact Or.inr later
  · exact Or.inl same.symm

end Candidate

/-- A permitted time is left for another permitted one. -/
theorem WellFormed.matchesTime_entry
    {schedule : Schedule}
    (wellFormed : schedule.WellFormed)
    {time : TimeOfDay}
    (permitted : schedule.MatchesTime time)
    (date found : Date) :
    schedule.MatchesTime (if found = date then time else schedule.firstTime) := by
  split
  · exact permitted
  · exact wellFormed.matchesTime_firstTime

/-- The time of day at which a date is entered: the given one on the date of the search, and the
first one on a later date. -/
theorem entry_le
    {schedule : Schedule}
    (wellFormed : schedule.WellFormed)
    {date : Date}
    {time : TimeOfDay}
    {civil : CivilTime}
    (candidate : schedule.Candidate date time civil) :
    (if civil.date = date then time else schedule.firstTime).seconds ≤
      civil.time.seconds := by
  split
  · next same =>
      rcases candidate.notBefore with later | ⟨-, ordered⟩
      · rw [same] at later
        exact (Date.Before.irrefl date later).elim
      · exact ordered
  · exact wellFormed.firstTime_le candidate.matchesTime

/-- No candidate is before the entry into the date that is found. -/
theorem entry_toInstant_le
    {schedule : Schedule}
    (wellFormed : schedule.WellFormed)
    {date found : Date}
    {time : TimeOfDay}
    {civil : CivilTime}
    (entryExists :
      (CivilTime.mk found (if found = date then time else schedule.firstTime)).Exists)
    (candidate : schedule.Candidate date time civil)
    (earliest : ¬ civil.date.Before found) :
    CivilTime.toInstant ⟨found, if found = date then time else schedule.firstTime⟩ ≤
      civil.toInstant := by
  apply Int.not_lt.mp
  rw [CivilTime.toInstant_lt_iff candidate.existent entryExists]
  rintro (before | ⟨same, earlier⟩)
  · exact earliest before
  · have entered := entry_le wellFormed candidate
    simp only at same earlier
    rw [same] at entered
    omega

/-- The candidates of a search and those of its continuation on the day after a date that is on
the wrong day of the week. -/
theorem Candidate.after_refused
    {schedule : Schedule}
    (wellFormed : schedule.WellFormed)
    {date found : Date}
    {time : TimeOfDay}
    {civil : CivilTime}
    (refused : ¬ schedule.weekdays.contains found.weekday)
    (earliest : ¬ civil.date.Before found)
    (candidate : schedule.Candidate date time civil) :
    schedule.Candidate ⟨found.year, found.month, found.day + 1⟩ schedule.firstTime civil := by
  rcases (Date.not_before_iff _ _).mp earliest with same | after
  · rw [← same] at refused
    exact (refused candidate.matchesDate.2.2).elim
  · exact .ofLater wellFormed candidate.existent candidate.matchesDate candidate.matchesTime after

/-- A candidate of the continuation comes after the date that was refused. -/
theorem Candidate.of_after_refused
    {schedule : Schedule}
    {date found : Date}
    {time : TimeOfDay}
    {civil : CivilTime}
    (notBefore : ¬ found.Before date)
    (candidate :
      schedule.Candidate ⟨found.year, found.month, found.day + 1⟩ schedule.firstTime civil) :
    schedule.Candidate date time civil where
  existent := candidate.existent
  matchesDate := candidate.matchesDate
  matchesTime := candidate.matchesTime
  notBefore := by
    left
    rcases (Date.not_before_iff _ _).mp notBefore with same | earlier
    · rw [← same]
      exact candidate.later
    · exact earlier.trans candidate.later

/-- What the search finds from a date at a permitted time on is the least candidate; it is before
the limit and in the years of the search. -/
theorem searchFrom_some
    {schedule : Schedule}
    (wellFormed : schedule.WellFormed)
    {limit : Int}
    {date : Date}
    {time : TimeOfDay}
    (permitted : schedule.MatchesTime time)
    {instant : Int}
    (result : schedule.searchFrom limit date time = some instant) :
    ∃ civil,
      schedule.Candidate date time civil ∧ civil.toInstant = instant ∧
        instant < limit ∧ date.year ≤ civil.date.year ∧ civil.date.year ≤ lastYear ∧
        ∀ other, schedule.Candidate date time other → instant ≤ other.toInstant := by
  fun_induction searchFrom schedule limit date time with
  | case1 date time missed =>
      contradiction
  | case2 date time found shape entry late =>
      contradiction
  | case3 date time found shape entry inTime weekday =>
      injection result with same
      subst same
      obtain ⟨foundPermitted, inYears, reached, least⟩ :=
        findDate_some wellFormed (schedule.cursorAt_permitted date) shape
      have notBefore := (cursorAt_reaches_iff foundPermitted).mp reached
      have entryTime := wellFormed.matchesTime_entry permitted date found
      have entryExists :
          (CivilTime.mk found
            (if found = date then time else schedule.firstTime)).Exists :=
        ⟨foundPermitted.1, wellFormed.time_exists entryTime⟩
      refine
        ⟨⟨found, if found = date then time else schedule.firstTime⟩,
          ⟨entryExists, ⟨foundPermitted.2.1, foundPermitted.2.2, weekday⟩, entryTime, ?_⟩,
          rfl, by omega, ?_, inYears, ?_⟩
      · rcases (Date.not_before_iff _ _).mp notBefore with same | later
        · exact Or.inr ⟨same.symm, by simp [same]⟩
        · exact Or.inl later
      · unfold Date.Before at notBefore
        simp only
        omega
      · intro other candidate
        exact entry_toInstant_le wellFormed entryExists candidate
          (least other.date candidate.permitsDate candidate.reached)
  | case4 date time found shape entry inTime refused inductionHypothesis =>
      obtain ⟨foundPermitted, inYears, reached, least⟩ :=
        findDate_some wellFormed (schedule.cursorAt_permitted date) shape
      have notBefore := (cursorAt_reaches_iff foundPermitted).mp reached
      obtain ⟨civil, candidate, instantShape, beforeLimit, fromYear, toYear, leastAfter⟩ :=
        inductionHypothesis wellFormed.matchesTime_firstTime result
      refine
        ⟨civil, candidate.of_after_refused notBefore, instantShape, beforeLimit, ?_, toYear, ?_⟩
      · unfold Date.Before at notBefore
        simp only at fromYear
        omega
      · intro other otherCandidate
        exact leastAfter other
          (otherCandidate.after_refused wellFormed refused
            (least other.date otherCandidate.permitsDate otherCandidate.reached))

/-- Where the search finds nothing, no candidate in its years is before the limit. -/
theorem searchFrom_none
    {schedule : Schedule}
    (wellFormed : schedule.WellFormed)
    {limit : Int}
    (limitFits : Calendar.Fits (Calendar.yearOf limit))
    {date : Date}
    {time : TimeOfDay}
    (permitted : schedule.MatchesTime time)
    (result : schedule.searchFrom limit date time = none)
    {civil : CivilTime}
    (candidate : schedule.Candidate date time civil)
    (inYears : civil.date.year ≤ lastYear) :
    limit ≤ civil.toInstant := by
  fun_induction searchFrom schedule limit date time with
  | case1 date time missed =>
      have limitBefore :=
        findDate_none wellFormed (schedule.cursorAt_permitted date) missed
          candidate.permitsDate candidate.reached inYears
      obtain ⟨-, limitExists, limitShape⟩ := CivilTime.ofInstant_spec limitFits
      have ordered :=
        (CivilTime.toInstant_lt_iff limitExists candidate.existent).mpr (Or.inl limitBefore)
      omega
  | case2 date time found shape entry late =>
      obtain ⟨foundPermitted, -, -, least⟩ :=
        findDate_some wellFormed (schedule.cursorAt_permitted date) shape
      have entryTime := wellFormed.matchesTime_entry permitted date found
      have notEarlier :=
        entry_toInstant_le wellFormed
          ⟨foundPermitted.1, wellFormed.time_exists entryTime⟩ candidate
          (least civil.date candidate.permitsDate candidate.reached)
      exact Int.le_trans late notEarlier
  | case3 date time found shape entry inTime weekday =>
      contradiction
  | case4 date time found shape entry inTime refused inductionHypothesis =>
      obtain ⟨-, -, -, least⟩ :=
        findDate_some wellFormed (schedule.cursorAt_permitted date) shape
      exact inductionHypothesis wellFormed.matchesTime_firstTime result
        (candidate.after_refused wellFormed refused
          (least civil.date candidate.permitsDate candidate.reached))

/-! ### From a base on -/

/-- The instants that a schedule permits, field by field: without a seconds field it permits
full minutes only. -/
structure OccursAt (schedule : Schedule) (instant : Int) : Prop where
  fullMinute :
    schedule.secondField = none →
      (CivilTime.ofInstant instant).time.second = 0
  second :
    ∀ seconds, schedule.secondField = some seconds →
      seconds.contains (CivilTime.ofInstant instant).time.second
  minute : schedule.minutes.contains (CivilTime.ofInstant instant).time.minute
  hour : schedule.hours.contains (CivilTime.ofInstant instant).time.hour
  day : schedule.days.contains (CivilTime.ofInstant instant).date.day
  month : schedule.months.contains (CivilTime.ofInstant instant).date.month
  weekday : schedule.weekdays.contains (CivilTime.ofInstant instant).date.weekday

theorem contains_secondZero (value : Int) :
    secondZero.contains value ↔ value = 0 := by
  rw [secondZero, FieldSet.contains_add]
  simp only [FieldSet.not_contains_empty, Span.Covers]
  constructor
  · rintro ⟨-, lower, upper, -⟩
    omega
  · rintro rfl
    decide

theorem matches_iff_occursAt
    (schedule : Schedule)
    (instant : Int) :
    schedule.Matches instant ↔ schedule.OccursAt instant := by
  have seconds :
      schedule.seconds.contains (CivilTime.ofInstant instant).time.second ↔
        (schedule.secondField = none →
          (CivilTime.ofInstant instant).time.second = 0) ∧
        ∀ seconds, schedule.secondField = some seconds →
          seconds.contains (CivilTime.ofInstant instant).time.second := by
    cases shape : schedule.secondField <;>
      simp [Schedule.seconds, shape, contains_secondZero]
  constructor
  · rintro ⟨⟨day, month, weekday⟩, hour, minute, second⟩
    obtain ⟨fullMinute, second⟩ := seconds.mp second
    exact ⟨fullMinute, second, minute, hour, day, month, weekday⟩
  · rintro ⟨fullMinute, second, minute, hour, day, month, weekday⟩
    exact
      ⟨⟨day, month, weekday⟩, hour, minute, seconds.mpr ⟨fullMinute, second⟩⟩

/-- The occurrences of a schedule strictly between two instants, up to the last year of the
search. -/
def Between (schedule : Schedule) (base limit : Int) : Set Int :=
  {instant |
    base < instant ∧ instant < limit ∧ Calendar.yearOf instant ≤ lastYear ∧
      schedule.Matches instant}

/-- An instant between two others is in a year that dates can keep if theirs are. -/
theorem fits_of_between
    {base limit instant : Int}
    (baseFits : Calendar.Fits (Calendar.yearOf base))
    (limitFits : Calendar.Fits (Calendar.yearOf limit))
    (after : base ≤ instant)
    (before : instant ≤ limit) :
    Calendar.Fits (Calendar.yearOf instant) := by
  have fromBase := Calendar.yearOf_mono after
  have toLimit := Calendar.yearOf_mono before
  exact ⟨baseFits.1.trans fromBase, toLimit.trans limitFits.2⟩

/-- The search starts at a date and a permitted time from which its candidates are exactly the
matching civil times after the base. -/
theorem exists_start
    {schedule : Schedule}
    (wellFormed : schedule.WellFormed)
    {base : Int}
    (baseFits : Calendar.Fits (Calendar.yearOf base))
    (limit : Int) :
    ∃ date time,
      schedule.MatchesTime time ∧ date.year = Calendar.yearOf base ∧
        schedule.nextOccurrence? base limit = schedule.searchFrom limit date time ∧
        ∀ civil : CivilTime, civil.Exists →
          schedule.MatchesDate civil.date → schedule.MatchesTime civil.time →
          (schedule.Candidate date time civil ↔ base < civil.toInstant) := by
  obtain ⟨year, ⟨dateExists, clock⟩, instant⟩ := CivilTime.ofInstant_spec baseFits
  have after {civil : CivilTime} (existent : civil.Exists) :
      base < civil.toInstant ↔
        (CivilTime.ofInstant base).date.Before civil.date ∨
          ((CivilTime.ofInstant base).date = civil.date ∧
            (CivilTime.ofInstant base).time.seconds < civil.time.seconds) := by
    rw [← CivilTime.toInstant_lt_iff ⟨dateExists, clock⟩ existent, instant]
  unfold nextOccurrence?
  simp only
  cases result : schedule.timeAfter (CivilTime.ofInstant base).time with
  | some time =>
      obtain ⟨permitted, later, least⟩ := timeAfter_some wellFormed clock result
      refine ⟨_, time, permitted, year, schedule.searchAt_of_exists limit dateExists time, ?_⟩
      intro civil existent matchesDate matchesTime
      rw [after existent]
      constructor
      · intro candidate
        rcases candidate.notBefore with before | ⟨same, ordered⟩
        · exact Or.inl before
        · exact Or.inr ⟨same, by omega⟩
      · intro afterBase
        refine ⟨existent, matchesDate, matchesTime, ?_⟩
        rcases afterBase with before | ⟨same, ordered⟩
        · exact Or.inl before
        · exact Or.inr ⟨same, least civil.time matchesTime ordered⟩
  | none =>
      refine
        ⟨⟨(CivilTime.ofInstant base).date.year, (CivilTime.ofInstant base).date.month,
            (CivilTime.ofInstant base).date.day + 1⟩,
          _, wellFormed.matchesTime_firstTime, year, rfl, ?_⟩
      intro civil existent matchesDate matchesTime
      have usedUp := timeAfter_none wellFormed clock result matchesTime
      rw [after existent]
      constructor
      · intro candidate
        exact Or.inl candidate.later
      · intro afterBase
        rcases afterBase with before | ⟨-, ordered⟩
        · exact .ofLater wellFormed existent matchesDate matchesTime before
        · omega

/-- An instant that the search finds is the least occurrence between the base and the limit. -/
theorem isLeast_of_nextOccurrence?
    {schedule : Schedule}
    (wellFormed : schedule.WellFormed)
    {base limit instant : Int}
    (baseFits : Calendar.Fits (Calendar.yearOf base))
    (limitFits : Calendar.Fits (Calendar.yearOf limit))
    (found : schedule.nextOccurrence? base limit = some instant) :
    IsLeast (schedule.Between base limit) instant := by
  obtain ⟨date, time, permitted, year, search, candidates⟩ :=
    exists_start wellFormed baseFits limit
  rw [search] at found
  obtain ⟨civil, candidate, shape, beforeLimit, fromYear, toYear, least⟩ :=
    searchFrom_some wellFormed permitted found
  subst shape
  have lastFits : lastYear ≤ 32767 := by
    decide
  have fits : Calendar.Fits civil.date.year :=
    ⟨by have := baseFits.1; omega, by omega⟩
  have civilShape := CivilTime.ofInstant_toInstant candidate.existent fits
  constructor
  · refine ⟨?_, beforeLimit, ?_, ?_⟩
    · exact
        (candidates civil candidate.existent candidate.matchesDate
          candidate.matchesTime).mp candidate
    · rw [CivilTime.yearOf_toInstant candidate.existent]
      exact toYear
    · rw [Matches, civilShape]
      exact ⟨candidate.matchesDate, candidate.matchesTime⟩
  · rintro other ⟨after, before, -, matchesDate, matchesTime⟩
    obtain ⟨-, otherExists, otherShape⟩ :=
      CivilTime.ofInstant_spec (fits_of_between baseFits limitFits after.le before.le)
    have otherCandidate :=
      (candidates _ otherExists matchesDate matchesTime).mpr (by omega)
    have notBelow := least _ otherCandidate
    omega

/-- Where the search finds nothing, no occurrence is between the base and the limit. -/
theorem not_between_of_nextOccurrence?
    {schedule : Schedule}
    (wellFormed : schedule.WellFormed)
    {base limit instant : Int}
    (baseFits : Calendar.Fits (Calendar.yearOf base))
    (limitFits : Calendar.Fits (Calendar.yearOf limit))
    (missed : schedule.nextOccurrence? base limit = none) :
    instant ∉ schedule.Between base limit := by
  obtain ⟨date, time, permitted, year, search, candidates⟩ :=
    exists_start wellFormed baseFits limit
  rw [search] at missed
  rintro ⟨after, before, inYears, matchesDate, matchesTime⟩
  obtain ⟨instantYear, existent, shape⟩ :=
    CivilTime.ofInstant_spec (fits_of_between baseFits limitFits after.le before.le)
  have candidate :=
    (candidates _ existent matchesDate matchesTime).mpr (by omega)
  have notBelow :=
    searchFrom_none wellFormed limitFits permitted missed candidate (by omega)
  omega

/-- The next occurrence is the least occurrence between the base and the limit, or else the limit
where there is none. -/
theorem nextOccurrence_cases
    {schedule : Schedule}
    (wellFormed : schedule.WellFormed)
    {base limit : Int}
    (baseFits : Calendar.Fits (Calendar.yearOf base))
    (limitFits : Calendar.Fits (Calendar.yearOf limit)) :
    IsLeast (schedule.Between base limit) (schedule.nextOccurrence base limit) ∨
      (schedule.nextOccurrence base limit = limit ∧
        ∀ instant, instant ∉ schedule.Between base limit) := by
  unfold nextOccurrence
  cases result : schedule.nextOccurrence? base limit with
  | some instant =>
      exact Or.inl (isLeast_of_nextOccurrence? wellFormed baseFits limitFits result)
  | none =>
      exact Or.inr
        ⟨rfl, fun _ => not_between_of_nextOccurrence? wellFormed baseFits limitFits result⟩

/-- The search for the next occurrence of a schedule that a text writes answers with the least
instant strictly between base and limit, in a year up to 9999, at which the schedule occurs, and
with the limit if there is no such instant.  The answer is on a date of the calendar. -/
theorem nextOccurrence_isLeast_or_limit
    {text : String}
    {withSeconds : Bool}
    {schedule : Schedule}
    (parsed : Schedule.parse text withSeconds = .ok schedule)
    {base limit : Int}
    (baseFits : Calendar.Fits (Calendar.yearOf base))
    (limitFits : Calendar.Fits (Calendar.yearOf limit)) :
    (IsLeast
        {instant |
          base < instant ∧ instant < limit ∧ Calendar.yearOf instant ≤ 9999 ∧
            schedule.OccursAt instant}
        (schedule.nextOccurrence base limit) ∧
      (CivilTime.ofInstant (schedule.nextOccurrence base limit)).Exists ∧
      (CivilTime.ofInstant (schedule.nextOccurrence base limit)).toInstant =
        schedule.nextOccurrence base limit) ∨
    (schedule.nextOccurrence base limit = limit ∧
      ∀ instant,
        ¬ (base < instant ∧ instant < limit ∧ Calendar.yearOf instant ≤ 9999 ∧
          schedule.OccursAt instant)) := by
  have wellFormed := wellFormed_of_parse parsed
  have sameSet :
      schedule.Between base limit =
        {instant |
          base < instant ∧ instant < limit ∧ Calendar.yearOf instant ≤ 9999 ∧
            schedule.OccursAt instant} := by
    ext instant
    simp only [Between, Set.mem_ofPred_eq, matches_iff_occursAt, lastYear]
  rcases nextOccurrence_cases wellFormed baseFits limitFits with
      least | ⟨isLimit, noneBetween⟩
  · obtain ⟨after, before, -, -⟩ := least.1
    obtain ⟨-, existent, shape⟩ :=
      CivilTime.ofInstant_spec (fits_of_between baseFits limitFits after.le before.le)
    rw [← sameSet]
    exact Or.inl ⟨least, existent, shape⟩
  · refine Or.inr ⟨isLimit, ?_⟩
    intro instant occurs
    apply noneBetween instant
    rw [sameSet]
    exact occurs

/-- Noon of the 29th of February, if it is a Monday. -/
def leapMonday : Schedule where
  raw := "0 12 29 2 1"
  secondField := none
  minutes := { kind := .minute, mask := 1, bounds := some (0, 0) }
  hours := { kind := .hour, mask := 4096, bounds := some (12, 12) }
  days := { kind := .day, mask := 268435456, bounds := some (29, 29) }
  months := { kind := .month, mask := 2, bounds := some (2, 2) }
  weekdays := { kind := .weekday, mask := 2, bounds := some (1, 1) }

theorem parse_leapMonday :
    Schedule.parse "0 12 29 2 1" false = .ok leapMonday := by
  decide +kernel

/-- The search for noon of a leap Monday after the start of 1970. -/
theorem nextOccurrence_leapMonday :
    Schedule.parse "0 12 29 2 1" false = .ok leapMonday ∧
      Calendar.Fits (Calendar.yearOf 0) ∧
      Calendar.Fits (Calendar.yearOf maxTime) ∧
      ((IsLeast
          {instant |
            0 < instant ∧ instant < maxTime ∧ Calendar.yearOf instant ≤ 9999 ∧
              leapMonday.OccursAt instant}
          (leapMonday.nextOccurrence 0 maxTime) ∧
        (CivilTime.ofInstant (leapMonday.nextOccurrence 0 maxTime)).Exists ∧
        (CivilTime.ofInstant (leapMonday.nextOccurrence 0 maxTime)).toInstant =
          leapMonday.nextOccurrence 0 maxTime) ∨
      (leapMonday.nextOccurrence 0 maxTime = maxTime ∧
        ∀ instant,
          ¬ (0 < instant ∧ instant < maxTime ∧ Calendar.yearOf instant ≤ 9999 ∧
            leapMonday.OccursAt instant))) :=
  ⟨parse_leapMonday, by decide, by decide,
    nextOccurrence_isLeast_or_limit parse_leapMonday (by decide) (by decide)⟩

end Schedule

end Cadence
