import Cadence.Proofs.Schedule.Corrections
import Mathlib.Data.Int.Interval

namespace Cadence

/-!
# The search for an occurrence ends

The search goes in passes.  A pass carries the time of its base, corrects the date, and
looks at the day of the week of the date that it has settled on; on the wrong day the
next pass starts from the last second of that date.  The occurrence that is answered is
the one that the last pass comes to.

Every restart is later than the base before it by as much as is known to hold no
occurrence, and it is at the end of a day on which a permitted time was found before the
limit and within the years of the search.  So no day has two restarts, and there are at
most as many of them as there are days from the base's to the last that counts.
-/

namespace CivilTime

/-- The last second of a date. -/
def lastSecond (date : Date) : CivilTime :=
  ⟨date, ⟨23, 59, 59⟩⟩

theorem lastSecond_exists
    {date : Date}
    (existent : date.Exists) :
    (lastSecond date).Exists := by
  refine ⟨existent, ?_⟩
  simp [lastSecond, TimeOfDay.Exists]

theorem toInstant_lastSecond (date : Date) :
    (lastSecond date).toInstant = 86400 * date.dayNumber + 86399 :=
  rfl

end CivilTime

namespace Schedule

/-! ### Further rounds of a correction -/

/-- The further rounds that the correction of a draft takes, up to the last one, which is over:
each comes to a later month than the round before, and none starts past the last year. -/
structure Retries (schedule : Schedule) (base limit : Date) (draft : Draft)
    (retries : List Draft) : Prop where
  rounds :
    (draft :: retries).IsChain fun earlier later =>
      schedule.round base limit earlier = .again later
  ended :
    schedule.round base limit (retries.getLastD draft) =
      .ended (schedule.correct base limit draft)
  forward :
    (draft :: retries).IsChain fun earlier later =>
      (schedule.carried base earlier).date.MonthBefore (schedule.carried base later).date
  inYears : ∀ retry ∈ retries, retry.civil.date.year ≤ lastYear

theorem exists_retries
    (schedule : Schedule)
    (base limit : Date)
    (draft : Draft) :
    ∃ retries, schedule.Retries base limit draft retries := by
  fun_induction correct schedule base limit draft with
  | case1 draft result ended =>
      refine ⟨[], .singleton _, ?_, .singleton _, by simp⟩
      rw [correct_of_ended ended]
      exact ended
  | case2 draft next again inductionHypothesis =>
      obtain ⟨retries, rounds, ended, forward, inYears⟩ := inductionHypothesis
      refine ⟨next :: retries, .cons_cons again rounds, ?_,
        .cons_cons (carried_monthBefore again) forward, ?_⟩
      · rw [List.getLastD_cons, ended, correct_of_again again]
      · obtain ⟨rfl, nextInYears, -⟩ := round_again again
        simpa using ⟨nextInYears, inYears⟩

/-! ### Passes -/

/-- The civil time from which a pass corrects the date: the next permitted time of the day, or the
first one of the day behind it. -/
def entry (schedule : Schedule) (civil : CivilTime) : CivilTime :=
  match schedule.timeAfter civil.time with
  | some time => ⟨civil.date, time⟩
  | none => ⟨⟨civil.date.year, civil.date.month, civil.date.day + 1⟩, schedule.firstTime⟩

/-- What one pass of the search comes to. -/
inductive Pass
  /-- An occurrence, or the limit; or nothing, past the last year. -/
  | ended (answer : Option Int)
  /-- The next pass, from a later base. -/
  | again (base : Int)
  deriving DecidableEq, Repr

/-- One pass of the search from a base. -/
def pass (schedule : Schedule) (base limit : Int) : Pass :=
  let civil := CivilTime.ofInstant base
  match schedule.correct civil.date (CivilTime.ofInstant limit).date
      (.opening schedule (schedule.entry civil)) with
  | .outOfYears => .ended none
  | .pastLimit => .ended (some limit)
  | .settled found =>
      if limit ≤ found.toInstant then
        .ended (some limit)
      else if schedule.weekdays.contains found.date.weekday then
        .ended (some found.toInstant)
      else
        .again (CivilTime.lastSecond found.date).toInstant

section Passes

variable {schedule : Schedule}

/-- A pass corrects the date of its base, or the day behind it with the first time of a day. -/
theorem exists_entry
    (schedule : Schedule)
    (civil : CivilTime) :
    ∃ day time,
      schedule.entry civil = ⟨⟨civil.date.year, civil.date.month, day⟩, time⟩ ∧
        civil.date.day ≤ day ∧ (day ≠ civil.date.day → time = schedule.firstTime) := by
  unfold entry
  cases schedule.timeAfter civil.time with
  | some time => exact ⟨civil.date.day, time, rfl, le_rfl, fun moved => (moved rfl).elim⟩
  | none => exact ⟨civil.date.day + 1, _, rfl, by omega, fun _ => rfl⟩

/-- The time with which a pass corrects the date is permitted. -/
theorem matchesTime_entry
    (wellFormed : schedule.WellFormed)
    {civil : CivilTime}
    (existent : civil.Exists) :
    schedule.MatchesTime (schedule.entry civil).time := by
  unfold entry
  cases result : schedule.timeAfter civil.time with
  | some time => exact (timeAfter_some wellFormed existent.2 result).1
  | none => exact wellFormed.matchesTime_firstTime

/-- The permitted times after the base of a pass are those from its entry on. -/
theorem lt_toInstant_iff
    (wellFormed : schedule.WellFormed)
    {civil other : CivilTime}
    (existent : civil.Exists)
    (otherExists : other.Exists)
    (permitted : schedule.MatchesTime other.time) :
    civil.toInstant < other.toInstant ↔
      (schedule.entry civil).date.Before other.date ∨
        ((schedule.entry civil).date = other.date ∧
          (schedule.entry civil).time.seconds ≤ other.time.seconds) := by
  rw [CivilTime.toInstant_lt_iff existent otherExists]
  unfold entry
  cases result : schedule.timeAfter civil.time with
  | some time =>
      obtain ⟨-, later, least⟩ := timeAfter_some wellFormed existent.2 result
      refine or_congr_right (and_congr_right fun _ => ?_)
      exact ⟨least other.time permitted, fun notEarlier => by simp only at notEarlier; omega⟩
  | none =>
      have usedUp := timeAfter_none wellFormed existent.2 result permitted
      constructor
      · rintro (before | ⟨-, ordered⟩)
        · rcases (Date.not_before_iff _ _).mp (Date.not_before_next before) with same | after
          · exact Or.inr ⟨same.symm, wellFormed.firstTime_le permitted⟩
          · exact Or.inl after
        · omega
      · rintro (after | ⟨same, -⟩)
        · refine Or.inl ?_
          unfold Date.Before at *
          simp only at after
          omega
        · rw [← same]
          exact Or.inl (Or.inr ⟨rfl, Or.inr ⟨rfl, Int.lt_succ _⟩⟩)

/-- The search starts where a pass does. -/
theorem nextOccurrence?_eq_searchFrom
    (schedule : Schedule)
    {base : Int}
    (existent : (CivilTime.ofInstant base).date.Exists)
    (limit : Int) :
    schedule.nextOccurrence? base limit =
      schedule.searchFrom limit (schedule.entry (CivilTime.ofInstant base)).date
        (schedule.entry (CivilTime.ofInstant base)).time := by
  unfold nextOccurrence? entry
  simp only
  cases schedule.timeAfter (CivilTime.ofInstant base).time with
  | none => rfl
  | some time => exact schedule.searchAt_of_exists limit existent time

/-- The search from a date on, by the civil time at which it goes on. -/
theorem searchFrom_eq
    (schedule : Schedule)
    (limit : Int)
    (date : Date)
    (time : TimeOfDay) :
    schedule.searchFrom limit date time =
      match (schedule.findDate (CivilTime.ofInstant limit).date (schedule.cursorAt date)).map
          fun found => CivilTime.mk found (if found = date then time else schedule.firstTime) with
      | none => none
      | some civil =>
          if limit ≤ civil.toInstant then
            none
          else if schedule.weekdays.contains civil.date.weekday then
            some civil.toInstant
          else
            schedule.searchFrom limit ⟨civil.date.year, civil.date.month, civil.date.day + 1⟩
              schedule.firstTime := by
  rw [searchFrom]
  split <;> simp_all

/-- The last second of a date has no permitted time behind it. -/
theorem nextOccurrence?_lastSecond
    (wellFormed : schedule.WellFormed)
    {date : Date}
    (existent : date.Exists)
    (fits : Calendar.Fits date.year)
    (limit : Int) :
    schedule.nextOccurrence? (CivilTime.lastSecond date).toInstant limit =
      schedule.searchFrom limit ⟨date.year, date.month, date.day + 1⟩ schedule.firstTime := by
  have shape := CivilTime.ofInstant_toInstant (CivilTime.lastSecond_exists existent) fits
  have usedUp : schedule.timeAfter (CivilTime.lastSecond date).time = none := by
    cases result : schedule.timeAfter (CivilTime.lastSecond date).time with
    | none => rfl
    | some time =>
        obtain ⟨permitted, later, -⟩ :=
          timeAfter_some wellFormed (CivilTime.lastSecond_exists existent).2 result
        have bounds := TimeOfDay.seconds_bounds (wellFormed.time_exists permitted)
        simp only [CivilTime.lastSecond, TimeOfDay.seconds] at later bounds
        omega
  rw [schedule.nextOccurrence?_eq_searchFrom (by rwa [shape]), shape, entry, usedUp]
  rfl

/-- The correction within a pass settles on the civil time at which the search goes on. -/
theorem civil?_correct_entry
    (wellFormed : schedule.WellFormed)
    {civil : CivilTime}
    (existent : civil.Exists)
    (limit : Date) :
    (schedule.correct civil.date limit (.opening schedule (schedule.entry civil))).civil? =
      (schedule.findDate limit (schedule.cursorAt (schedule.entry civil).date)).map fun found =>
        ⟨found, if found = (schedule.entry civil).date then (schedule.entry civil).time
          else schedule.firstTime⟩ := by
  obtain ⟨day, time, shape, notEarlier, fresh⟩ := schedule.exists_entry civil
  rw [shape]
  exact civil?_correct_opening wellFormed existent.1 limit notEarlier fresh

/-- What the correction within a pass settles on is after the base, on the earliest date on which a
permitted time could be. -/
theorem settled_spec
    (wellFormed : schedule.WellFormed)
    {civil found : CivilTime}
    (existent : civil.Exists)
    {limit : Date}
    (settled :
      schedule.correct civil.date limit (.opening schedule (schedule.entry civil)) =
        .settled found) :
    found.Exists ∧ civil.date.year ≤ found.date.year ∧ found.date.year ≤ lastYear ∧
      civil.toInstant < found.toInstant ∧
      ∀ other : CivilTime, other.Exists → schedule.days.contains other.date.day →
        schedule.months.contains other.date.month → schedule.MatchesTime other.time →
        civil.toInstant < other.toInstant → ¬ other.date.Before found.date := by
  obtain ⟨day, time, entryShape, -⟩ := schedule.exists_entry civil
  have sameYear : (schedule.entry civil).date.year = civil.date.year := by rw [entryShape]
  have sameCivil := civil?_correct_entry wellFormed existent limit
  rw [settled] at sameCivil
  obtain ⟨date, foundShape, same⟩ := Option.map_eq_some_iff.mp sameCivil.symm
  obtain rfl : date = found.date := congrArg CivilTime.date same
  have time : found.time =
      if found.date = (schedule.entry civil).date then (schedule.entry civil).time
      else schedule.firstTime :=
    (congrArg CivilTime.time same).symm
  obtain ⟨permitted, inYears, reached, least⟩ :=
    findDate_some wellFormed (schedule.cursorAt_permitted _) foundShape
  have notBefore := (cursorAt_reaches_iff permitted).mp reached
  have timePermitted : schedule.MatchesTime found.time :=
    time ▸ wellFormed.matchesTime_entry (matchesTime_entry wellFormed existent) _ _
  have foundExists : found.Exists := ⟨permitted.1, wellFormed.time_exists timePermitted⟩
  refine ⟨foundExists, ?_, inYears, ?_,
    fun other otherExists dayPermitted monthPermitted otherPermitted after => ?_⟩
  · unfold Date.Before at notBefore
    omega
  · rw [lt_toInstant_iff wellFormed existent foundExists timePermitted]
    rcases (Date.not_before_iff _ _).mp notBefore with onEntry | before
    · exact Or.inr ⟨onEntry.symm, by rw [time, if_pos onEntry]⟩
    · exact Or.inl before
  · have otherDate : schedule.PermitsDate other.date :=
      ⟨otherExists.1, dayPermitted, monthPermitted⟩
    refine least other.date otherDate ((cursorAt_reaches_iff otherDate).mpr ?_)
    rcases (lt_toInstant_iff wellFormed existent otherExists otherPermitted).mp after with
        before | ⟨onEntry, -⟩
    · exact before.asymm
    · rw [onEntry]
      exact Date.Before.irrefl _

/-- The next occurrence is what the last pass answers. -/
theorem nextOccurrence_eq
    (wellFormed : schedule.WellFormed)
    {base : Int}
    (baseFits : Calendar.Fits (Calendar.yearOf base))
    (limit : Int) :
    schedule.nextOccurrence base limit =
      match schedule.pass base limit with
      | .ended answer => answer.getD limit
      | .again later => schedule.nextOccurrence later limit := by
  obtain ⟨year, existent, -⟩ := CivilTime.ofInstant_spec baseFits
  rw [nextOccurrence, schedule.nextOccurrence?_eq_searchFrom existent.1, searchFrom_eq,
    ← civil?_correct_entry wellFormed existent]
  unfold pass
  simp only
  cases shape : schedule.correct (CivilTime.ofInstant base).date (CivilTime.ofInstant limit).date
      (.opening schedule (schedule.entry (CivilTime.ofInstant base))) with
  | outOfYears => rfl
  | pastLimit => rfl
  | settled found =>
      obtain ⟨foundExists, fromYear, toYear, -⟩ := settled_spec wellFormed existent shape
      have fits : Calendar.Fits found.date.year := by
        unfold lastYear at toYear
        exact ⟨by have := baseFits.1; omega, by omega⟩
      simp only [Correction.civil?]
      split
      · rfl
      · split
        · rfl
        · simp only
          rw [nextOccurrence, nextOccurrence?_lastSecond wellFormed foundExists.1 fits]

/-- One restart of the search: from a base to the last second of a date that lies behind it, no
later than the day of the limit and within the years of the search, with no occurrence between. -/
structure Restarts (schedule : Schedule) (limit base restart : Int) : Prop where
  again : schedule.pass base limit = .again restart
  later : base < restart
  endsDay : restart % 86400 = 86399
  inDays : restart / 86400 ≤ min limit maxTime / 86400
  nothingSkipped :
    ∀ instant, base < instant → instant ≤ restart → ¬ schedule.OccursAt instant

theorem yearOf_le_iff
    (instant : Int) :
    Calendar.yearOf instant ≤ lastYear ↔ instant ≤ maxTime := by
  have last : Calendar.yearOf maxTime = lastYear := by decide +kernel
  have afterLast : Calendar.yearOf (maxTime + 1) = lastYear + 1 := by decide +kernel
  constructor
  · intro inYears
    refine Int.not_lt.mp fun after => ?_
    have := Calendar.yearOf_mono (Int.add_one_le_of_lt after)
    omega
  · intro notAfter
    exact last ▸ Calendar.yearOf_mono notAfter

/-- Another pass starts from the last second of the date that was settled on, before the limit but
on the wrong day of the week. -/
theorem exists_of_again
    {base limit restart : Int}
    (again : schedule.pass base limit = .again restart) :
    ∃ found : CivilTime,
      schedule.correct (CivilTime.ofInstant base).date (CivilTime.ofInstant limit).date
          (.opening schedule (schedule.entry (CivilTime.ofInstant base))) = .settled found ∧
        found.toInstant < limit ∧ ¬ schedule.weekdays.contains found.date.weekday ∧
        restart = (CivilTime.lastSecond found.date).toInstant := by
  unfold pass at again
  simp only at again
  split at again
  · cases again
  · cases again
  · next found settled =>
      split at again
      · cases again
      · next early =>
          split at again
          · cases again
          · next refused =>
              cases again
              exact ⟨found, settled, by omega, refused, rfl⟩

/-- What another pass starts from is a restart. -/
theorem restarts_of_again
    (wellFormed : schedule.WellFormed)
    {base limit restart : Int}
    (baseFits : Calendar.Fits (Calendar.yearOf base))
    (again : schedule.pass base limit = .again restart) :
    schedule.Restarts limit base restart ∧ Calendar.Fits (Calendar.yearOf restart) := by
  obtain ⟨year, existent, baseShape⟩ := CivilTime.ofInstant_spec baseFits
  obtain ⟨found, settled, early, refused, rfl⟩ := exists_of_again again
  obtain ⟨foundExists, fromYear, toYear, after, least⟩ :=
    settled_spec wellFormed existent settled
  rw [baseShape] at after least
  have lastExists := CivilTime.lastSecond_exists foundExists.1
  have lastYearOf : Calendar.yearOf (CivilTime.lastSecond found.date).toInstant =
      found.date.year := CivilTime.yearOf_toInstant lastExists
  have fits : Calendar.Fits (Calendar.yearOf (CivilTime.lastSecond found.date).toInstant) := by
    unfold lastYear at toYear
    rw [lastYearOf]
    exact ⟨by have := baseFits.1; omega, by omega⟩
  have inYears := (yearOf_le_iff _).mp (lastYearOf ▸ toYear)
  have bounds := TimeOfDay.seconds_bounds foundExists.2
  have foundShape : found.toInstant = 86400 * found.date.dayNumber + found.time.seconds := rfl
  have restartShape := CivilTime.toInstant_lastSecond found.date
  refine ⟨⟨again, by omega, by omega, by omega, fun instant behind notAfter occurs => ?_⟩, fits⟩
  obtain ⟨-, otherExists, shape⟩ :=
    CivilTime.ofInstant_spec (fits_of_between baseFits fits behind.le notAfter)
  obtain ⟨⟨day, month, weekday⟩, time⟩ := (matches_iff_occursAt schedule instant).mpr occurs
  have notBefore := least _ otherExists day month time (by rwa [shape])
  rcases (Date.not_before_iff _ _).mp notBefore with sameDate | later
  · rw [sameDate] at weekday
    exact refused weekday
  · have past := (CivilTime.toInstant_lt_iff lastExists otherExists).mpr (Or.inl later)
    omega

/-! ### All passes -/

/-- Integers between two bounds that only increase are not more than there are between the
bounds. -/
theorem length_le_of_increasing
    {first last : Int}
    {days : List Int}
    (increasing : days.Pairwise (· < ·))
    (between : ∀ day ∈ days, first ≤ day ∧ day ≤ last) :
    days.length ≤ (last + 1 - first).toNat := by
  have distinct : days.Nodup := increasing.imp fun ordered => ordered.ne
  rw [← List.toFinset_card_of_nodup distinct, ← Int.card_Icc]
  exact Finset.card_le_card fun day member =>
    Finset.mem_Icc.mpr (between day (List.mem_toFinset.mp member))

/-- Restarts one after another are at the ends of later and later days. -/
theorem days_of_restarts
    {base limit : Int}
    {restarts : List Int}
    (chain : (base :: restarts).IsChain (schedule.Restarts limit)) :
    (∀ restart ∈ restarts, base < restart ∧ restart % 86400 = 86399 ∧
        restart / 86400 ≤ min limit maxTime / 86400) ∧
      (restarts.map (· / 86400)).Pairwise (· < ·) := by
  induction restarts generalizing base with
  | nil => exact ⟨by simp, .nil⟩
  | cons restart restarts inductionHypothesis =>
      obtain ⟨first, rest⟩ := List.isChain_cons_cons.mp chain
      obtain ⟨ends, increasing⟩ := inductionHypothesis rest
      have firstEnds := first.endsDay
      refine ⟨fun other member => ?_, ?_⟩
      · rcases List.mem_cons.mp member with rfl | later
        · exact ⟨first.later, firstEnds, first.inDays⟩
        · obtain ⟨after, endsDay, inDays⟩ := ends other later
          exact ⟨first.later.trans after, endsDay, inDays⟩
      · rw [List.map_cons, List.pairwise_cons]
        refine ⟨fun day member => ?_, increasing⟩
        obtain ⟨other, later, rfl⟩ := List.mem_map.mp member
        obtain ⟨after, endsDay, -⟩ := ends other later
        omega

/-- The search restarts until a pass is over, and that pass answers the next occurrence. -/
theorem exists_restarts
    (wellFormed : schedule.WellFormed)
    {base : Int}
    (baseFits : Calendar.Fits (Calendar.yearOf base))
    (limit : Int) :
    ∃ restarts, (base :: restarts).IsChain (schedule.Restarts limit) ∧
      ∃ answer, schedule.pass (restarts.getLastD base) limit = .ended answer ∧
        schedule.nextOccurrence base limit = answer.getD limit := by
  -- A restart is before the end of the day of the limit.
  induction distance : (limit + 86400 - base).toNat using Nat.strong_induction_on
      generalizing base with
  | h distance inductionHypothesis =>
      have answered := nextOccurrence_eq wellFormed baseFits limit
      cases shape : schedule.pass base limit with
      | ended answer =>
          rw [shape] at answered
          exact ⟨[], .singleton _, answer, shape, answered⟩
      | again restart =>
          rw [shape] at answered
          obtain ⟨first, restartFits⟩ := restarts_of_again wellFormed baseFits shape
          have later := first.later
          have endsDay := first.endsDay
          have inDays := first.inDays
          obtain ⟨restarts, chain, answer, ended, found⟩ :=
            inductionHypothesis (limit + 86400 - restart).toNat (by omega) restartFits rfl
          exact ⟨restart :: restarts, .cons_cons first chain, answer,
            by rwa [List.getLastD_cons], answered.trans found⟩

end Passes

/-- The passes of a search for the next occurrence: how it comes from its base over its restarts to
the pass that answers. -/
structure Ends (schedule : Schedule) (base limit : Int) (restarts : List Int) : Prop where
  passes :
    (base :: restarts).IsChain fun earlier later => schedule.pass earlier limit = .again later
  answered :
    ∃ answer, schedule.pass (restarts.getLastD base) limit = .ended answer ∧
      schedule.nextOccurrence base limit = answer.getD limit
  increasing : (base :: restarts).IsChain (· < ·)
  nothingSkipped :
    (base :: restarts).IsChain fun earlier later =>
      ∀ instant, earlier < instant → instant ≤ later → ¬ schedule.OccursAt instant
  /-- No day has two of them. -/
  oncePerDay : (restarts.map (· / 86400)).Pairwise (· < ·)
  inDays :
    ∀ restart ∈ restarts,
      base / 86400 ≤ restart / 86400 ∧ restart / 86400 ≤ min limit maxTime / 86400
  few : restarts.length ≤ (min limit maxTime / 86400 + 1 - base / 86400).toNat

/-- The search for the next occurrence of any schedule that a text writes ends, from every base and
for every limit.  A correction takes finitely many rounds, each further one in a later month and
none from past the last year.  A search takes finitely many passes: every restart is later than the
base before it, with no occurrence between, and it is on a day of its own, from the base's day on
and up to the day of the limit or to the last day of the year 9999. -/
theorem search_ends
    {text : String}
    {withSeconds : Bool}
    {schedule : Schedule}
    (parsed : Schedule.parse text withSeconds = .ok schedule)
    {base : Int}
    (baseFits : Calendar.Fits (Calendar.yearOf base))
    (limit : Int) :
    (∀ start last draft, ∃ retries, schedule.Retries start last draft retries) ∧
      ∃ restarts, schedule.Ends base limit restarts := by
  have wellFormed := wellFormed_of_parse parsed
  obtain ⟨restarts, chain, answered⟩ := exists_restarts wellFormed baseFits limit
  obtain ⟨ends, oncePerDay⟩ := days_of_restarts chain
  have inDays : ∀ restart ∈ restarts,
      base / 86400 ≤ restart / 86400 ∧ restart / 86400 ≤ min limit maxTime / 86400 := by
    intro restart member
    obtain ⟨after, -, before⟩ := ends restart member
    exact ⟨by omega, before⟩
  have few := length_le_of_increasing oncePerDay (by simpa using inDays)
  rw [List.length_map] at few
  exact ⟨schedule.exists_retries, restarts, {
    passes := chain.imp fun earlier later restarts => restarts.again
    answered
    increasing := chain.imp fun earlier later restarts => restarts.later
    nothingSkipped := chain.imp fun earlier later restarts => restarts.nothingSkipped
    oncePerDay
    inDays
    few }⟩

/-- The search for noon of a leap Monday after the start of 1970 first restarts at the end of the
leap day of 1972, a Tuesday. -/
theorem search_ends_leapMonday :
    Schedule.parse "0 12 29 2 1" false = .ok leapMonday ∧
      Calendar.Fits (Calendar.yearOf 0) ∧
      ∃ restarts, leapMonday.Ends 0 maxTime restarts ∧
        restarts.head? = some (CivilTime.lastSecond ⟨1972, 2, 29⟩).toInstant := by
  have fits : Calendar.Fits (Calendar.yearOf 0) := by decide
  obtain ⟨-, restarts, ends⟩ := search_ends parse_leapMonday fits maxTime
  refine ⟨parse_leapMonday, fits, restarts, ends, ?_⟩
  have entry : leapMonday.entry (CivilTime.ofInstant 0) = ⟨⟨1970, 1, 1⟩, ⟨12, 0, 0⟩⟩ := by
    decide +kernel
  have start : CivilTime.ofInstant 0 = ⟨⟨1970, 1, 1⟩, ⟨0, 0, 0⟩⟩ := by decide
  have first : leapMonday.pass 0 maxTime =
      .again (CivilTime.lastSecond ⟨1972, 2, 29⟩).toInstant := by
    unfold pass
    simp only [entry]
    rw [start, correct_leapMonday]
    decide +kernel
  cases restarts with
  | nil =>
      obtain ⟨answer, ended, -⟩ := ends.answered
      exact absurd (first.symm.trans ended) (by simp)
  | cons restart restarts =>
      have again := (List.isChain_cons_cons.mp ends.passes).1
      cases first.symm.trans again
      rfl

/-- The bound on the year of the base is needed: dates keep the year 40000 as -25536, so that the
search from its start restarts long before it. -/
theorem restart_beforeBase_year40000 :
    let base : Int := 1200110860800
    Schedule.parse "0 12 29 2 1" false = .ok leapMonday ∧
      Calendar.yearOf base = 40000 ∧
      leapMonday.pass base maxTime = .again (CivilTime.lastSecond ⟨-25536, 2, 29⟩).toInstant ∧
      (CivilTime.lastSecond ⟨-25536, 2, 29⟩).toInstant < base := by
  intro base
  have start : CivilTime.ofInstant base = ⟨⟨-25536, 1, 1⟩, ⟨0, 0, 0⟩⟩ := by decide +kernel
  have entry : leapMonday.entry ⟨⟨-25536, 1, 1⟩, ⟨0, 0, 0⟩⟩ = ⟨⟨-25536, 1, 1⟩, ⟨12, 0, 0⟩⟩ := by
    decide +kernel
  have round :
      leapMonday.round ⟨-25536, 1, 1⟩ (CivilTime.ofInstant maxTime).date
          (.opening leapMonday ⟨⟨-25536, 1, 1⟩, ⟨12, 0, 0⟩⟩) =
        .ended (.settled ⟨⟨-25536, 2, 29⟩, ⟨12, 0, 0⟩⟩) := by
    decide +kernel
  refine ⟨parse_leapMonday, by decide +kernel, ?_, by decide⟩
  unfold pass
  simp only [start, entry, correct_of_ended round]
  decide +kernel

end Schedule

end Cadence
