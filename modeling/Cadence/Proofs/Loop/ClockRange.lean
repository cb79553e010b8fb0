import Cadence.Proofs.Loop.LateWakes
import Cadence.Proofs.Schedule.Recurrence

namespace Cadence

/-!
# Due instants on a clock of 64 bits

The clock counts nanoseconds since 1970 in 64 bits, which reach from September 1677 to
April 2262, whereas the search for an occurrence goes on to the end of the year 9999.
An instant of that year would wrap around if it was put in nanoseconds.  No scan comes
to that: what it finds due is within 14609 days after the second that the clock shows.
Up to the year 2222 the due instant, and its distance from the clock, are therefore
what the 64 bits say they are.
-/

namespace Clock

/-- Numbers that 64 bits hold, one of them for the sign. -/
def Holds
    (value : Int) :
    Prop :=
  Int64.minValue.toInt ≤ value ∧ value ≤ Int64.maxValue.toInt

/-- An instant in nanoseconds, multiplied in 64 bits: it wraps around if they do not hold it. -/
def ofInstant
    (instant : Int) :
    Int64 :=
  Int64.ofInt 1000000000 * Int64.ofInt instant

/-- The second that a clock shows. -/
def second
    (reading : Int64) :
    Int :=
  reading.toInt / 1000000000

/-- Seconds from 22 September 1677 on and before the year 2222. -/
def InRange
    (second : Int) :
    Prop :=
  CivilTime.toInstant ⟨⟨1677, 9, 22⟩, ⟨0, 0, 0⟩⟩ ≤ second ∧
    second < CivilTime.toInstant ⟨⟨2222, 1, 1⟩, ⟨0, 0, 0⟩⟩

instance
    (second : Int) :
    Decidable (InRange second) := by
  unfold InRange
  infer_instance

theorem holds_iff
    {value : Int} :
    Holds value ↔ -9223372036854775808 ≤ value ∧ value ≤ 9223372036854775807 :=
  Iff.rfl

theorem InRange.bounds
    {second : Int}
    (inRange : InRange second) :
    -9223286400 ≤ second ∧ second < 7952342400 := by
  have first : CivilTime.toInstant ⟨⟨1677, 9, 22⟩, ⟨0, 0, 0⟩⟩ = -9223286400 := by decide
  have past : CivilTime.toInstant ⟨⟨2222, 1, 1⟩, ⟨0, 0, 0⟩⟩ = 7952342400 := by decide
  rwa [InRange, first, past] at inRange

theorem InRange.fits
    {second : Int}
    (inRange : InRange second) :
    Calendar.Fits (Calendar.yearOf second) := by
  have first : Calendar.Fits (Calendar.yearOf (-9223286400)) := by decide +kernel
  have past : Calendar.Fits (Calendar.yearOf 7952342400) := by decide +kernel
  exact Schedule.fits_of_between first past inRange.bounds.1 inRange.bounds.2.le

/-- What 64 bits hold they have exactly. -/
theorem toInt_ofInstant
    {instant : Int}
    (holds : Holds (1000000000 * instant)) :
    (ofInstant instant).toInt = 1000000000 * instant := by
  obtain ⟨lower, upper⟩ := holds_iff.mp holds
  rw [ofInstant, ← Int64.ofInt_mul]
  exact Int64.toInt_ofInt_of_le (by omega) (by omega)

theorem toInt_sub
    {first second : Int64}
    (holds : Holds (first.toInt - second.toInt)) :
    (first - second).toInt = first.toInt - second.toInt := by
  obtain ⟨lower, upper⟩ := holds_iff.mp holds
  rw [Int64.toInt_sub]
  exact Int.bmod_eq_of_le (by omega) (by omega)

/-- Computing with a due instant in 64 bits is computing with whole numbers: the instant and its
distance from a reading of the clock are held, so that they and the wait that is computed from the
distance are right, and so is the comparison of any reading with the instant. -/
structure Exact
    (reading : Int64)
    (instant : Int) :
    Prop where
  due : Holds (1000000000 * instant)
  distance : Holds (1000000000 * instant - reading.toInt)
  dueExact : (ofInstant instant).toInt = 1000000000 * instant
  distanceExact :
    (ofInstant instant - reading).toInt = 1000000000 * instant - reading.toInt
  waitExact :
    ∀ density, Wait.nanoseconds reading.toInt (1000000000 * instant) density =
      Wait.nanoseconds 0 (ofInstant instant - reading).toInt density
  compareExact :
    ∀ later : Int64, later < ofInstant instant ↔ later.toInt < 1000000000 * instant

/-- Waits are about distances only. -/
theorem nanoseconds_eq_of_distance
    (now due density : Int) :
    Wait.nanoseconds now due density = Wait.nanoseconds 0 (due - now) density := by
  simp [Wait.nanoseconds, Wait.duration]

/-- An instant that is soon after a reading of the clock is exact. -/
theorem exact_of_soon
    {reading : Int64}
    (inRange : InRange (second reading))
    {instant : Int}
    (after : second reading < instant)
    (soon : instant ≤ second reading + 86400 * Schedule.recurrenceDays) :
    Exact reading instant := by
  obtain ⟨lower, upper⟩ := inRange.bounds
  unfold second at lower upper after soon
  unfold Schedule.recurrenceDays at soon
  have due : Holds (1000000000 * instant) := holds_iff.mpr ⟨by omega, by omega⟩
  have distance : Holds (1000000000 * instant - reading.toInt) :=
    holds_iff.mpr ⟨by omega, by omega⟩
  have dueExact := toInt_ofInstant due
  have distanceExact :
      (ofInstant instant - reading).toInt = 1000000000 * instant - reading.toInt := by
    rw [← dueExact] at distance ⊢
    exact toInt_sub distance
  exact {
    due, distance, dueExact, distanceExact
    waitExact := fun density => by rw [distanceExact, nanoseconds_eq_of_distance]
    compareExact := fun later => by rw [Int64.lt_iff_toInt_lt, dueExact] }

end Clock

namespace Loop

/-- The next occurrence of a schedule that a text writes, after a second in the range of the clock,
is within 14609 days or there is none.  So computing with what a scan of the loop finds due is
exact in the 64 bits of the clock, whatever is registered. -/
theorem clock_exact_of_parse :
    (∀ text withSeconds schedule, Schedule.parse text withSeconds = .ok schedule →
      ∀ base, Clock.InRange base →
        schedule.nextOccurrence base Schedule.maxTime = Schedule.maxTime ∨
          (base < schedule.nextOccurrence base Schedule.maxTime ∧
            schedule.nextOccurrence base Schedule.maxTime ≤ base + 86400 * 14609)) ∧
      ∀ (loop : Loop) (reading : Int64),
        (∀ task ∈ loop.schedules,
          ∃ text withSeconds, Schedule.parse text withSeconds = .ok task.2) →
        loop.clock = reading.toInt / 1000000 → Clock.InRange (Clock.second reading) →
          ∀ group, loop.scan.2 = some group →
            Clock.second reading < group.instant ∧ Clock.Exact reading group.instant := by
  have soon {text : String} {withSeconds : Bool} {schedule : Schedule}
      (parsed : Schedule.parse text withSeconds = .ok schedule) {base : Int}
      (inRange : Clock.InRange base) :
      schedule.nextOccurrence base Schedule.maxTime = Schedule.maxTime ∨
        (base < schedule.nextOccurrence base Schedule.maxTime ∧
          schedule.nextOccurrence base Schedule.maxTime ≤
            base + 86400 * Schedule.recurrenceDays) := by
    refine Schedule.nextOccurrence_soon (Schedule.wellFormed_of_parse parsed) inRange.fits ?_
    have := inRange.bounds.2
    unfold Schedule.recurrenceDays Schedule.maxTime
    omega
  refine ⟨fun text withSeconds schedule parsed base inRange => soon parsed inRange,
    fun loop reading accepted sameTime inRange group found => ?_⟩
  have base : loop.clock / 1000 = Clock.second reading := by
    rw [sameTime, Clock.second]
    omega
  have due : dueNext loop.schedules (Clock.second reading) = some group := base ▸ found
  obtain ⟨task, registered, isNext, early⟩ := OccurrenceGroup.exists_task_of_dueNext due
  obtain ⟨text, withSeconds, parsed⟩ := accepted task registered
  rcases soon parsed inRange with never | ⟨after, notLater⟩
  · omega
  · rw [isNext] at after notLater
    exact ⟨after, Clock.exact_of_soon inRange after notLater⟩

/-- The eve of the year 2000, with a task for every minute; and noon of the 29th of February 2072, a
Monday, after which the next leap Monday is as late as it can be. -/
theorem clock_exact_minutely :
    (eve.session addMinutely).scan.2 = some ⟨946684800, [1]⟩ ∧
      Clock.Exact 946684799500000000 946684800 ∧
      Schedule.leapMonday.Matches 3223972800 ∧
      Schedule.leapMonday.Matches (3223972800 + 86400 * 14609) ∧
      (Schedule.leapMonday.nextOccurrence 3223972800 Schedule.maxTime = Schedule.maxTime ∨
        (3223972800 < Schedule.leapMonday.nextOccurrence 3223972800 Schedule.maxTime ∧
          Schedule.leapMonday.nextOccurrence 3223972800 Schedule.maxTime ≤
            3223972800 + 86400 * 14609)) := by
  have due : (eve.session addMinutely).scan.2 = some ⟨946684800, [1]⟩ := by
    have clock : (eve.session addMinutely).clock = 946684799500 := by decide +kernel
    change dueNext (eve.session addMinutely).schedules ((eve.session addMinutely).clock / 1000) = _
    rw [schedules_minutely, clock]
    exact dueNext_minutely
  refine ⟨due, (clock_exact_of_parse.2 _ _ ?_ (by decide +kernel) (by decide) _ due).2,
    by decide +kernel, by decide +kernel,
    clock_exact_of_parse.1 _ _ _ Schedule.parse_leapMonday _ (by decide)⟩
  rw [schedules_minutely]
  intro task registered
  obtain rfl := List.mem_singleton.mp registered
  exact ⟨"* * * * *", false, by decide +kernel⟩

end Loop

end Cadence
