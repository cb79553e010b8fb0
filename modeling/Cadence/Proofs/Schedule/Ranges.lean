import Cadence.Proofs.Schedule.Occurrences
import Mathlib.Data.List.Sort

namespace Cadence

/-!
# Ranges list the matching instants

The matching instants between a base and a limit can be listed by trying every
second between them.  The occurrences that the search computes are a prefix of
that list, as long as was asked for, and so is what each pass through a range
meets.

The limit needs no lower bound on its year: a limit that is not after the base
ends the sequence at once, and one that is after it is in a year not before that
of the base.
-/

namespace Schedule

instance (schedule : Schedule) (instant : Int) : Decidable (schedule.OccursAt instant) :=
  decidable_of_iff _ (schedule.matches_iff_occursAt instant)

/-- The seconds strictly between two instants, in increasing order. -/
def secondsBetween (base limit : Int) : List Int :=
  (List.range (limit - base - 1).toNat).map fun offset : Nat => base + 1 + offset

/-- The instants strictly between two others at which a schedule occurs, found by trying every
second. -/
def matchingBetween (schedule : Schedule) (base limit : Int) : List Int :=
  (secondsBetween base limit).filter fun instant => schedule.OccursAt instant

theorem mem_secondsBetween
    {base limit instant : Int} :
    instant ∈ secondsBetween base limit ↔ base < instant ∧ instant < limit := by
  simp only [secondsBetween, List.mem_map, List.mem_range]
  constructor
  · rintro ⟨offset, small, rfl⟩
    omega
  · rintro ⟨after, before⟩
    exact ⟨(instant - base - 1).toNat, by omega, by omega⟩

theorem secondsBetween_increasing (base limit : Int) :
    (secondsBetween base limit).Pairwise (· < ·) := by
  rw [secondsBetween, List.pairwise_map]
  exact List.pairwise_lt_range.imp fun earlier => by omega

theorem mem_matchingBetween
    {schedule : Schedule}
    {base limit instant : Int} :
    instant ∈ schedule.matchingBetween base limit ↔
      base < instant ∧ instant < limit ∧ schedule.OccursAt instant := by
  simp only [matchingBetween, List.mem_filter, mem_secondsBetween, decide_eq_true_eq, and_assoc]

theorem matchingBetween_increasing
    (schedule : Schedule)
    (base limit : Int) :
    (schedule.matchingBetween base limit).Pairwise (· < ·) :=
  (secondsBetween_increasing base limit).filter _

theorem matchingBetween_eq_nil
    (schedule : Schedule)
    {base limit : Int}
    (noneBetween : limit ≤ base) :
    schedule.matchingBetween base limit = [] := by
  refine List.eq_nil_iff_forall_not_mem.mpr fun instant present => ?_
  obtain ⟨after, before, -⟩ := mem_matchingBetween.mp present
  omega

/-- In the years of the search, the occurrences between two instants are the matching ones. -/
theorem mem_between_iff_mem_matchingBetween
    {schedule : Schedule}
    {base limit instant : Int}
    (limitYear : Calendar.yearOf limit ≤ lastYear) :
    instant ∈ schedule.Between base limit ↔ instant ∈ schedule.matchingBetween base limit := by
  simp only [mem_matchingBetween, Between, Set.mem_ofPred_eq, matches_iff_occursAt]
  constructor
  · rintro ⟨after, before, -, occurs⟩
    exact ⟨after, before, occurs⟩
  · rintro ⟨after, before, occurs⟩
    exact ⟨after, before, (Calendar.yearOf_mono before.le).trans limitYear, occurs⟩

/-- Fewer occurrences are a prefix of more of them. -/
theorem take_occurrences
    (schedule : Schedule)
    (base limit : Int)
    {fewer more : Nat}
    (fewerOrEqual : fewer ≤ more) :
    (schedule.occurrences base limit more).take fewer = schedule.occurrences base limit fewer := by
  induction more generalizing base fewer with
  | zero =>
      obtain rfl : fewer = 0 := by omega
      rfl
  | succ more inductionHypothesis =>
      cases fewer with
      | zero => rfl
      | succ fewer =>
          simp only [occurrences]
          split
          · rfl
          · rw [List.take_succ_cons, inductionHypothesis _ (by omega)]

/-- A limit that is not after the base is the answer of the search. -/
theorem nextOccurrence_of_le
    {schedule : Schedule}
    (wellFormed : schedule.WellFormed)
    {base limit : Int}
    (baseFits : Calendar.Fits (Calendar.yearOf base))
    (noneBetween : limit ≤ base) :
    schedule.nextOccurrence base limit = limit := by
  obtain ⟨date, time, permitted, -, search, candidates⟩ := exists_start wellFormed baseFits limit
  unfold nextOccurrence
  rw [search]
  cases result : schedule.searchFrom limit date time with
  | none => rfl
  | some instant =>
      obtain ⟨civil, candidate, rfl, beforeLimit, -⟩ := searchFrom_some wellFormed permitted result
      have afterBase :=
        (candidates civil candidate.existent candidate.matchesDate candidate.matchesTime).mp
          candidate
      omega

/-- A search for a date from past the last year finds none. -/
theorem findDate_of_lastYear_lt
    (schedule : Schedule)
    (limit : Date)
    (cursor : DateCursor)
    (late : lastYear < cursor.year) :
    schedule.findDate limit cursor = none := by
  have forward := schedule.carriedDate_forward cursor
  have exhausted : schedule.moveDate limit cursor = .exhausted := by
    unfold moveDate
    exact if_pos (by omega)
  rw [findDate]
  split <;> simp_all

/-- Nothing is found from a base that dates keep in a year past the last one. -/
theorem nextOccurrence_of_lastYear_lt
    (schedule : Schedule)
    {base : Int}
    (limit : Int)
    (late : lastYear < (CivilTime.ofInstant base).date.year) :
    schedule.nextOccurrence base limit = limit := by
  have search (day : Int) (time : TimeOfDay) :
      schedule.searchFrom limit
          ⟨(CivilTime.ofInstant base).date.year, (CivilTime.ofInstant base).date.month, day⟩ time =
        none := by
    have none := schedule.findDate_of_lastYear_lt (CivilTime.ofInstant limit).date
      (schedule.cursorAt
        ⟨(CivilTime.ofInstant base).date.year, (CivilTime.ofInstant base).date.month, day⟩) late
    rw [searchFrom]
    split
    · rfl
    · next found some =>
      cases none.symm.trans some
  unfold nextOccurrence nextOccurrence?
  dsimp only
  split
  · next time _ =>
    rw [searchAt, if_neg (by omega), search (CivilTime.ofInstant base).date.day time]
    rfl
  · rw [search]
    rfl

/-- The search computes a prefix of the matching instants. -/
theorem occurrences_eq_take_matchingBetween
    {schedule : Schedule}
    (wellFormed : schedule.WellFormed)
    {base limit : Int}
    (baseFits : Calendar.Fits (Calendar.yearOf base))
    (limitYear : Calendar.yearOf limit ≤ lastYear)
    (count : Nat) :
    schedule.occurrences base limit count = (schedule.matchingBetween base limit).take count := by
  rcases lt_or_ge base limit with ordered | noneBetween
  · have limitFits : Calendar.Fits (Calendar.yearOf limit) :=
      ⟨baseFits.1.trans (Calendar.yearOf_mono ordered.le), limitYear.trans (by decide)⟩
    -- With one element for each second the search lists all matching instants.
    let enough := max count (limit - base).toNat
    obtain ⟨between, increasing⟩ :=
      occurrences_between wellFormed baseFits limitFits enough
    have all : schedule.occurrences base limit enough = schedule.matchingBetween base limit := by
      refine increasing.eq_of_mem_iff (schedule.matchingBetween_increasing base limit)
        fun instant => ?_
      rw [← mem_between_iff_mem_matchingBetween limitYear]
      exact ⟨between instant,
        mem_occurrences_of_between wellFormed baseFits limitFits (by omega)⟩
    rw [← all, take_occurrences schedule base limit (le_max_left ..)]
  · rw [matchingBetween_eq_nil schedule noneBetween, List.take_nil]
    cases count with
    | zero => rfl
    | succ count =>
        simp only [occurrences, nextOccurrence_of_le wellFormed baseFits noneBetween, le_refl,
          if_true]

/-- A walk that stands at the next occurrence goes through the occurrences after the base. -/
theorem take_cursor
    (schedule : Schedule)
    (base limit : Int)
    (count : Nat) :
    OccurrenceCursor.take ⟨schedule, schedule.nextOccurrence base limit, limit⟩ count =
      schedule.occurrences base limit count := by
  induction count generalizing base with
  | zero => rfl
  | succ count inductionHypothesis =>
      simp only [OccurrenceCursor.take, OccurrenceCursor.atEnd, OccurrenceCursor.advance,
        occurrences, decide_eq_true_eq, inductionHypothesis]

/-- Each pass through a range begins anew. -/
theorem passes_range
    (schedule : Schedule)
    (base limit : Int)
    (counts : List Nat) :
    (schedule.range base limit).passes counts = counts.map (schedule.occurrences base limit) :=
  List.map_congr_left fun count _ => schedule.take_cursor base limit count

/-- For a schedule that a text writes and a limit in a year up to 9999, `matchingBetween` is the
increasing list of all instants strictly between base and limit at which the schedule occurs.  The
occurrences that are computed are its first ones, as many as were asked for, and every pass through
the range meets its first ones again. -/
theorem occurrences_and_passes_of_parse
    {text : String}
    {withSeconds : Bool}
    {schedule : Schedule}
    (parsed : Schedule.parse text withSeconds = .ok schedule)
    {base limit : Int}
    (baseFits : Calendar.Fits (Calendar.yearOf base))
    (limitYear : Calendar.yearOf limit ≤ 9999)
    (count : Nat)
    (counts : List Nat) :
    (∀ instant,
        instant ∈ schedule.matchingBetween base limit ↔
          base < instant ∧ instant < limit ∧ schedule.OccursAt instant) ∧
      (schedule.matchingBetween base limit).Pairwise (· < ·) ∧
      schedule.occurrences base limit count = (schedule.matchingBetween base limit).take count ∧
      (limit ≤ base → schedule.occurrences base limit count = []) ∧
      (schedule.range base limit).passes counts =
        counts.map fun count => (schedule.matchingBetween base limit).take count := by
  have prefixes :=
    occurrences_eq_take_matchingBetween (wellFormed_of_parse parsed) baseFits limitYear
  refine ⟨fun _ => mem_matchingBetween, schedule.matchingBetween_increasing base limit,
    prefixes count, fun noneBetween => ?_, ?_⟩
  · rw [prefixes, matchingBetween_eq_nil schedule noneBetween, List.take_nil]
  · rw [passes_range]
    exact List.map_congr_left fun count _ => prefixes count

/-- The full quarters of every hour, and half a minute after each of them. -/
def quarters : Schedule where
  raw := "0,30 */15 * * * *"
  secondField := some { kind := .second, mask := 1073741825, bounds := some (0, 30) }
  minutes := { kind := .minute, mask := 35185445863425, bounds := some (0, 45) }
  hours := { kind := .hour, mask := 16777215, bounds := some (0, 23) }
  days := { kind := .day, mask := 2147483647, bounds := some (1, 31) }
  months := { kind := .month, mask := 4095, bounds := some (1, 12) }
  weekdays := { kind := .weekday, mask := 127, bounds := some (0, 6) }

/-- Two passes through the first hour of 1970. -/
theorem occurrences_and_passes_quarters :
    Schedule.parse "0,30 */15 * * * *" true = .ok quarters ∧
      Calendar.Fits (Calendar.yearOf 0) ∧
      Calendar.yearOf 3600 ≤ 9999 ∧
      (∀ instant,
        instant ∈ quarters.matchingBetween 0 3600 ↔
          0 < instant ∧ instant < 3600 ∧ quarters.OccursAt instant) ∧
      (quarters.matchingBetween 0 3600).Pairwise (· < ·) ∧
      quarters.occurrences 0 3600 3 = (quarters.matchingBetween 0 3600).take 3 ∧
      ((3600 : Int) ≤ 0 → quarters.occurrences 0 3600 3 = []) ∧
      (quarters.range 0 3600).passes [2, 100] =
        [2, 100].map fun count => (quarters.matchingBetween 0 3600).take count := by
  have parsed : Schedule.parse "0,30 */15 * * * *" true = .ok quarters := by decide +kernel
  exact ⟨parsed, by decide, by decide,
    occurrences_and_passes_of_parse parsed (by decide) (by decide) 3 [2, 100]⟩

/-- The bound on the year of the base is needed: dates keep the year 40000 as -25536.  Nothing lies
after its start and before the second hour of 1970, and yet an occurrence is found there, long
before the base. -/
theorem occurrences_beforeBase_year40000 :
    let base : Int := 1200110860800
    Schedule.parse "0,30 */15 * * * *" true = .ok quarters ∧
      Calendar.yearOf base = 40000 ∧
      Calendar.yearOf 3600 ≤ 9999 ∧
      3600 ≤ base ∧
      quarters.matchingBetween base 3600 = [] ∧
      quarters.occurrences base 3600 1 = [-868005503970] := by
  intro base
  have start : CivilTime.ofInstant base = ⟨⟨-25536, 1, 1⟩, ⟨0, 0, 0⟩⟩ := by decide +kernel
  have time : quarters.timeAfter ⟨0, 0, 0⟩ = some ⟨0, 0, 30⟩ := by decide +kernel
  have moved :
      quarters.moveDate (CivilTime.ofInstant 3600).date (quarters.cursorAt ⟨-25536, 1, 1⟩) =
        .found ⟨-25536, 1, 1⟩ := by
    decide +kernel
  have found :
      quarters.findDate (CivilTime.ofInstant 3600).date (quarters.cursorAt ⟨-25536, 1, 1⟩) =
        some ⟨-25536, 1, 1⟩ := by
    rw [findDate]
    split <;> simp_all
  have next : quarters.nextOccurrence base 3600 = -868005503970 := by
    have existent : Date.Exists ⟨-25536, 1, 1⟩ := by decide
    unfold nextOccurrence nextOccurrence?
    simp only [start, time, quarters.searchAt_of_exists 3600 existent,
      searchFrom_of_found quarters _ found]
    decide +kernel
  refine ⟨by decide +kernel, by decide +kernel, by decide, by decide, ?_, ?_⟩
  · exact matchingBetween_eq_nil quarters (by decide)
  · simp only [occurrences, next]
    decide

end Schedule

end Cadence
