import Cadence.Schedule.Search
import Cadence.Proofs.Calendar
import Cadence.Proofs.Schedule.WellFormed

namespace Cadence

/-!
# The search for a time of day

On a given day the search finds the least permitted time after the time of the
base, or nothing if the day is used up.  Each field is carried into the next
one, and what stands behind a field that moves starts over; so at each field the
result is compared with all permitted values behind it as one number.
-/

namespace Schedule

/-- The first value of a well-formed set is its least member. -/
theorem isLeast_firstOf
    {kind : FieldKind}
    {set : FieldSet}
    (wellFormed : set.WellFormed kind) :
    IsLeast {member | set.contains member} (firstOf set) := by
  obtain ⟨value, firstShape, least⟩ := wellFormed.first_isLeast
  rw [firstOf, firstShape]
  exact least

/-- Members of a well-formed set are in the range of its kind. -/
theorem member_bounds
    {kind : FieldKind}
    {set : FieldSet}
    {value : Int}
    (wellFormed : set.WellFormed kind)
    (permitted : set.contains value) :
    kind.least ≤ value ∧ value ≤ kind.greatest := by
  have listed := FieldSet.mem_values_of_contains permitted
  rw [wellFormed.kind_eq] at listed
  exact FieldKind.mem_values.mp listed

namespace WellFormed

variable {schedule : Schedule}

/-- A permitted time is one that a clock shows. -/
theorem time_exists
    (wellFormed : schedule.WellFormed)
    {time : TimeOfDay}
    (permitted : schedule.MatchesTime time) :
    time.Exists := by
  obtain ⟨hour, minute, second⟩ := permitted
  have hourBounds := member_bounds wellFormed.hours hour
  have minuteBounds := member_bounds wellFormed.minutes minute
  have secondBounds := member_bounds wellFormed.seconds second
  exact
    ⟨hourBounds.1, hourBounds.2, minuteBounds.1, minuteBounds.2,
      secondBounds.1, secondBounds.2⟩

theorem matchesTime_firstTime
    (wellFormed : schedule.WellFormed) :
    schedule.MatchesTime schedule.firstTime :=
  ⟨(isLeast_firstOf wellFormed.hours).1,
    (isLeast_firstOf wellFormed.minutes).1,
    (isLeast_firstOf wellFormed.seconds).1⟩

/-- No permitted time is before the first one. -/
theorem firstTime_le
    (wellFormed : schedule.WellFormed)
    {time : TimeOfDay}
    (permitted : schedule.MatchesTime time) :
    schedule.firstTime.seconds ≤ time.seconds := by
  have hour := (isLeast_firstOf wellFormed.hours).2 permitted.1
  have minute := (isLeast_firstOf wellFormed.minutes).2 permitted.2.1
  have second := (isLeast_firstOf wellFormed.seconds).2 permitted.2.2
  unfold TimeOfDay.seconds firstTime
  simp only
  omega

end WellFormed

/-! ### Carrying into a field -/

/-- What a search among the numbers behind a field comes to: the least permitted one after a
start, or a carry if none is left. -/
def NextBehind (permitted : Int → Prop) (start found carry : Int) : Prop :=
  (carry = 0 ∧ IsLeast {number | start < number ∧ permitted number} found) ∨
    (carry = 1 ∧ ∀ number, permitted number → number ≤ start)

/-- The least value of a field that is reached from a digit, with what then stands behind it:
the first number there if the digit moves, and what was found there otherwise. -/
theorem carried_least
    {set : FieldSet}
    {permitted : Int → Prop}
    {digit start found carry first reached : Int}
    (firstBehind : IsLeast {number | permitted number} first)
    (behind : NextBehind permitted start found carry)
    (next : set.next (digit + carry) = some reached) :
    set.contains reached ∧
      permitted (if digit < reached then first else found) ∧
      (digit < reached ∨
        (digit = reached ∧ start < if digit < reached then first else found)) ∧
      ∀ other number, set.contains other → permitted number →
        (digit < other ∨ (digit = other ∧ start < number)) →
        reached < other ∨
          (reached = other ∧
            (if digit < reached then first else found) ≤ number) := by
  obtain ⟨⟨notEarlier, reachedPermitted⟩, leastReached⟩ :=
    FieldSet.isLeast_of_next next
  by_cases moved : digit < reached
  · simp only [moved, if_true]
    refine ⟨reachedPermitted, firstBehind.1, Or.inl trivial, ?_⟩
    intro other number otherPermitted numberPermitted after
    have notBelow := firstBehind.2 numberPermitted
    have fromStart : digit + carry ≤ other := by
      rcases behind with ⟨rfl, -⟩ | ⟨rfl, usedUp⟩
      · omega
      · have := usedUp number numberPermitted
        omega
    have := leastReached ⟨fromStart, otherPermitted⟩
    omega
  · -- The digit stays only without a carry.
    rcases behind with ⟨rfl, ⟨later, foundPermitted⟩, leastFound⟩ | ⟨rfl, -⟩
    · have same : digit = reached := by
        omega
      simp only [moved, if_false]
      refine ⟨reachedPermitted, foundPermitted, Or.inr ⟨same, later⟩, ?_⟩
      intro other number otherPermitted numberPermitted after
      rcases after with otherLater | ⟨sameOther, numberLater⟩
      · exact Or.inl (by omega)
      · exact Or.inr ⟨by omega, leastFound ⟨numberLater, numberPermitted⟩⟩
    · omega

/-- Where no value of a field is reached from a digit, nothing after it is permitted. -/
theorem carried_none
    {set : FieldSet}
    {permitted : Int → Prop}
    {digit start found carry other number : Int}
    (behind : NextBehind permitted start found carry)
    (missed : set.next (digit + carry) = none)
    (otherPermitted : set.contains other)
    (numberPermitted : permitted number) :
    other < digit ∨ (other = digit ∧ number ≤ start) := by
  have below := FieldSet.lt_of_next_eq_none missed otherPermitted
  rcases behind with ⟨rfl, -⟩ | ⟨rfl, usedUp⟩
  · omega
  · have := usedUp number numberPermitted
    omega

/-! ### Seconds, minutes and hours -/

/-- The seconds since the full hour that a schedule permits. -/
def PermitsInHour (schedule : Schedule) (number : Int) : Prop :=
  ∃ minute second : Int,
    schedule.minutes.contains minute ∧ schedule.seconds.contains second ∧
      number = 60 * minute + second

theorem secondAfter_spec (schedule : Schedule) (second : Int) :
    NextBehind (fun number => schedule.seconds.contains number) second
      (schedule.secondAfter second).1 (schedule.secondAfter second).2 := by
  unfold secondAfter
  cases next : schedule.seconds.next (second + 1) with
  | some following =>
      obtain ⟨⟨later, permitted⟩, least⟩ := FieldSet.isLeast_of_next next
      have after : second < following := by
        omega
      refine Or.inl ⟨rfl, ⟨after, permitted⟩, ?_⟩
      rintro other ⟨otherAfter, otherPermitted⟩
      exact least ⟨by omega, otherPermitted⟩
  | none =>
      refine Or.inr ⟨rfl, ?_⟩
      intro other permitted
      have := FieldSet.lt_of_next_eq_none next permitted
      omega

/-- The first minute and second are the least permitted ones of an hour. -/
theorem WellFormed.firstInHour
    {schedule : Schedule}
    (wellFormed : schedule.WellFormed) :
    IsLeast {number | schedule.PermitsInHour number}
      (60 * firstOf schedule.minutes + firstOf schedule.seconds) := by
  obtain ⟨minutePermitted, leastMinute⟩ := isLeast_firstOf wellFormed.minutes
  obtain ⟨secondPermitted, leastSecond⟩ := isLeast_firstOf wellFormed.seconds
  refine ⟨⟨_, _, minutePermitted, secondPermitted, rfl⟩, ?_⟩
  rintro number ⟨minute, second, minuteAlso, secondAlso, rfl⟩
  have := leastMinute minuteAlso
  have := leastSecond secondAlso
  omega

/-- The minute and second found are permitted, and the least ones left in the hour unless they
carry over. -/
theorem minuteAfter_spec
    {schedule : Schedule}
    (wellFormed : schedule.WellFormed)
    {minute second : Int}
    (clock : 0 ≤ second ∧ second ≤ 59)
    {result : Int × Int × Int}
    (shape : schedule.minuteAfter minute second = result) :
    schedule.minutes.contains result.1 ∧
      schedule.seconds.contains result.2.1 ∧
      NextBehind schedule.PermitsInHour (60 * minute + second)
        (60 * result.1 + result.2.1) result.2.2 := by
  have firstSecond := isLeast_firstOf wellFormed.seconds
  have bounds {value : Int} (permitted : schedule.seconds.contains value) :
      0 ≤ value ∧ value ≤ 59 :=
    member_bounds wellFormed.seconds permitted
  have behind := secondAfter_spec schedule second
  subst shape
  unfold minuteAfter
  cases next : schedule.minutes.next (minute + (schedule.secondAfter second).2) with
  | some reached =>
      obtain ⟨minutePermitted, secondPermitted, later, least⟩ :=
        carried_least firstSecond behind next
      simp only [next]
      have secondBounds := bounds secondPermitted
      refine ⟨minutePermitted, secondPermitted, Or.inl ⟨rfl, ⟨by omega, ?_⟩, ?_⟩⟩
      · exact ⟨_, _, minutePermitted, secondPermitted, rfl⟩
      · rintro number ⟨after, otherMinute, otherSecond, otherPermitted, alsoPermitted, rfl⟩
        have otherBounds := bounds alsoPermitted
        have := least otherMinute otherSecond otherPermitted alsoPermitted (by omega)
        omega
  | none =>
      simp only [next]
      refine ⟨(isLeast_firstOf wellFormed.minutes).1, firstSecond.1, Or.inr ⟨rfl, ?_⟩⟩
      rintro number ⟨otherMinute, otherSecond, otherPermitted, alsoPermitted, rfl⟩
      have otherBounds := bounds alsoPermitted
      have := carried_none behind next otherPermitted alsoPermitted
      omega

/-- The time that is found on a day is permitted, later, and the least such time. -/
theorem timeAfter_some
    {schedule : Schedule}
    (wellFormed : schedule.WellFormed)
    {time found : TimeOfDay}
    (clock : time.Exists)
    (result : schedule.timeAfter time = some found) :
    schedule.MatchesTime found ∧ time.seconds < found.seconds ∧
      ∀ other, schedule.MatchesTime other →
        time.seconds < other.seconds → found.seconds ≤ other.seconds := by
  unfold timeAfter at result
  cases minuteShape : schedule.minuteAfter time.minute time.second with
  | mk minute rest =>
      obtain ⟨second, carry⟩ := rest
      obtain ⟨minutePermitted, secondPermitted, behind⟩ :=
        minuteAfter_spec wellFormed ⟨clock.2.2.2.2.1, clock.2.2.2.2.2⟩ minuteShape
      simp only [minuteShape] at result
      cases next : schedule.hours.next (time.hour + carry) with
      | none =>
          simp [next] at result
      | some reached =>
          obtain ⟨hourPermitted, -, later, least⟩ :=
            carried_least wellFormed.firstInHour behind next
          simp only [next, Option.some.injEq] at result
          have foundShape :
              found.hour = reached ∧
                60 * found.minute + found.second =
                  (if time.hour < reached then
                    60 * firstOf schedule.minutes + firstOf schedule.seconds
                  else
                    60 * minute + second) := by
            rw [← result]
            split <;> exact ⟨rfl, rfl⟩
          have permitted : schedule.MatchesTime found := by
            rw [← result]
            split
            · exact
                ⟨hourPermitted, (isLeast_firstOf wellFormed.minutes).1,
                  (isLeast_firstOf wellFormed.seconds).1⟩
            · exact ⟨hourPermitted, minutePermitted, secondPermitted⟩
          have foundClock := wellFormed.time_exists permitted
          unfold TimeOfDay.Exists at clock foundClock
          rw [← foundShape.2, ← foundShape.1] at later least
          refine ⟨permitted, ?_, ?_⟩
          · unfold TimeOfDay.seconds
            omega
          · intro other otherPermitted after
            have otherClock := wellFormed.time_exists otherPermitted
            unfold TimeOfDay.Exists at otherClock
            unfold TimeOfDay.seconds at after ⊢
            have notBefore :=
              least other.hour (60 * other.minute + other.second)
                otherPermitted.1
                ⟨_, _, otherPermitted.2.1, otherPermitted.2.2, rfl⟩ (by omega)
            omega

/-- Where no time is found on a day, no permitted time is left on it. -/
theorem timeAfter_none
    {schedule : Schedule}
    (wellFormed : schedule.WellFormed)
    {time other : TimeOfDay}
    (clock : time.Exists)
    (result : schedule.timeAfter time = none)
    (permitted : schedule.MatchesTime other) :
    other.seconds ≤ time.seconds := by
  unfold timeAfter at result
  cases minuteShape : schedule.minuteAfter time.minute time.second with
  | mk minute rest =>
      obtain ⟨second, carry⟩ := rest
      obtain ⟨-, -, behind⟩ :=
        minuteAfter_spec wellFormed ⟨clock.2.2.2.2.1, clock.2.2.2.2.2⟩ minuteShape
      simp only [minuteShape] at result
      cases next : schedule.hours.next (time.hour + carry) with
      | some reached =>
          simp [next] at result
      | none =>
          have inHour : schedule.PermitsInHour (60 * other.minute + other.second) :=
            ⟨_, _, permitted.2.1, permitted.2.2, rfl⟩
          have notAfter := carried_none behind next permitted.1 inHour
          have otherClock := wellFormed.time_exists permitted
          unfold TimeOfDay.Exists at clock otherClock
          unfold TimeOfDay.seconds
          omega

end Schedule

end Cadence
