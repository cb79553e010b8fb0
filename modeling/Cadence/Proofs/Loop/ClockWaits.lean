import Cadence.Proofs.Loop.ClockRange
import Cadence.Proofs.Loop.Waits

namespace Cadence

/-!
# Waits on a clock of 64 bits

A clock of the system counts nanoseconds in 64 bits, while the density is given in
milliseconds.  The length of a wait is computed in nanoseconds from both.  As long
as no number that comes up on the way is beyond the 64 bits, computing in them
gives the wait that whole numbers give, and that wait ends neither early nor in a
later second, before 1970 as well as after it.
-/

namespace Clock

/-- A span rounded up to whole seconds in 64 bits: its seconds are counted by a division that cuts
off, and there is one more if that left anything. -/
def roundedUp
    (span : Int64) :
    Int64 :=
  let whole := span / 1000000000
  1000000000 * if 1000000000 * whole < span then whole + 1 else whole

/-- How long to wait in 64 bits, for a density in milliseconds. -/
def wait
    (now due density : Int64) :
    Int64 :=
  let remaining := due - now
  if remaining ≤ 0 then 0 else min (roundedUp remaining) (remaining + 1000000 * density)

/-- The numbers that come up when a wait is computed are within 64 bits. -/
structure HoldsWait
    (now due density : Int) :
    Prop where
  distance : Holds (due - now)
  rounded : now < due → Holds (Wait.roundedUp 1000000000 (due - now))
  margin : now < due → Holds (1000000 * density)
  capped : now < due → Holds (due - now + 1000000 * density)

theorem holds_toInt
    (value : Int64) :
    Holds value.toInt :=
  ⟨value.minValue_le_toInt, value.toInt_le⟩

theorem toInt_add
    {first second : Int64}
    (holds : Holds (first.toInt + second.toInt)) :
    (first + second).toInt = first.toInt + second.toInt := by
  obtain ⟨lower, upper⟩ := holds_iff.mp holds
  rw [Int64.toInt_add]
  exact Int.bmod_eq_of_le (by omega) (by omega)

theorem toInt_mul
    {first second : Int64}
    (holds : Holds (first.toInt * second.toInt)) :
    (first * second).toInt = first.toInt * second.toInt := by
  obtain ⟨lower, upper⟩ := holds_iff.mp holds
  rw [Int64.toInt_mul]
  exact Int.bmod_eq_of_le (by omega) (by omega)

/-- Rounding up in 64 bits is rounding up. -/
theorem toInt_roundedUp
    {span : Int64}
    (positive : 0 < span.toInt)
    (holds : Holds (Wait.roundedUp 1000000000 span.toInt)) :
    (roundedUp span).toInt = Wait.roundedUp 1000000000 span.toInt := by
  have second : (1000000000 : Int64).toInt = 1000000000 := rfl
  obtain ⟨-, spanUpper⟩ := holds_iff.mp (holds_toInt span)
  have whole : (span / 1000000000).toInt = span.toInt / 1000000000 := by
    rw [Int64.toInt_div, second, Int.tdiv_eq_ediv_of_nonneg positive.le]
    exact Int.bmod_eq_of_le (by omega) (by omega)
  have counted :
      (1000000000 * (span / 1000000000)).toInt = 1000000000 * (span.toInt / 1000000000) := by
    rw [← whole, ← second]
    exact toInt_mul (holds_iff.mpr ⟨by rw [second, whole]; omega, by rw [second, whole]; omega⟩)
  unfold roundedUp
  simp only [Int64.lt_iff_toInt_lt, counted]
  split
  · next left =>
    have next : (span / 1000000000 + 1).toInt = span.toInt / 1000000000 + 1 := by
      rw [← whole]
      exact toInt_add (holds_iff.mpr ⟨by rw [whole]; simp; omega, by rw [whole]; simp; omega⟩)
    have above :
        Wait.roundedUp 1000000000 span.toInt = 1000000000 * (span.toInt / 1000000000 + 1) :=
      Wait.roundedUp_eq (Int.dvd_mul_right _ _) (by omega) (by omega)
    rw [above, ← next, ← second] at holds ⊢
    exact toInt_mul holds
  · next nothingLeft =>
    rw [counted]
    exact (Wait.roundedUp_eq (Int.dvd_mul_right _ _) (by omega) (by omega)).symm

theorem toInt_min
    (first second : Int64) :
    (min first second).toInt = min first.toInt second.toInt := by
  change (if first ≤ second then first else second).toInt = _
  split
  · next notGreater => exact (min_eq_left (Int64.le_iff_toInt_le.mp notGreater)).symm
  · next greater =>
    rw [Int64.le_iff_toInt_le] at greater
    exact (min_eq_right (by omega)).symm

/-- A wait that is computed within 64 bits is the wait. -/
theorem toInt_wait
    {now due density : Int64}
    (holds : HoldsWait now.toInt due.toInt density.toInt) :
    (wait now due density).toInt = Wait.nanoseconds now.toInt due.toInt density.toInt := by
  have distance := toInt_sub holds.distance
  unfold wait Wait.nanoseconds
  simp only [Int64.le_iff_toInt_le, distance, Int64.toInt_zero]
  split
  · next past => exact (Wait.duration_of_past (by omega)).symm
  · next notPast =>
    have ahead : now.toInt < due.toInt := by omega
    have margin : (1000000 * density).toInt = 1000000 * density.toInt :=
      toInt_mul (holds.margin ahead)
    have rounded := holds.rounded ahead
    have capped := holds.capped ahead
    rw [← distance] at rounded capped
    rw [← margin] at capped
    rw [toInt_min, toInt_roundedUp (by omega) rounded, toInt_add capped, margin, distance,
      Wait.duration_of_ahead ahead]

end Clock

/-- A run waits on its clock of milliseconds as long as on one of nanoseconds. -/
theorem Loop.nanoseconds_deadline
    (loop : Loop)
    (due : OccurrenceGroup) :
    1000000 * (loop.deadline due - loop.uptime) =
      Wait.nanoseconds (1000000 * loop.clock) (1000000000 * due.instant)
        loop.options.waitDensity := by
  have million : (0 : Int) < 1000000 := by decide
  have thousand : (0 : Int) < 1000 := by decide
  have scaled := Wait.duration_scale million thousand loop.clock (1000 * due.instant)
    loop.options.waitDensity
  rw [← Int.mul_assoc] at scaled
  unfold deadline
  rw [Int.add_comm loop.uptime, Int.add_sub_cancel, ← scaled]
  rfl

namespace Wait

/-- A wait ends neither early nor in a later second.  For what is due already there is none.  For a
later instant it lasts at least as long as it takes to the instant, at most as much longer as the
density says and by less than a second, and is that or whole seconds.  So a wait for a whole second
ends within it, and whole seconds are waited for exactly.  A wait that is computed in 64 bits is the
same wait, unless a number on the way is beyond them; and so are the waits of a loop. -/
theorem nanoseconds_punctual :
    (∀ now due density, due ≤ now → nanoseconds now due density = 0) ∧
      (∀ now due density, 0 ≤ density → now < due →
        Punctual 1000000000 now due (1000000 * density) (nanoseconds now due density)) ∧
      (∀ now instant density, 0 ≤ density → now < 1000000000 * instant →
        (now + nanoseconds now (1000000000 * instant) density) / 1000000000 = instant) ∧
      (∀ now due density, 0 ≤ density → now ≤ due → 1000000000 ∣ due - now →
        nanoseconds now due density = due - now) ∧
      (∀ now due density : Int64, Clock.HoldsWait now.toInt due.toInt density.toInt →
        (Clock.wait now due density).toInt = nanoseconds now.toInt due.toInt density.toInt) ∧
      ∀ (loop : Loop) (due : OccurrenceGroup),
        1000000 * (loop.deadline due - loop.uptime) =
          nanoseconds (1000000 * loop.clock) (1000000000 * due.instant)
            loop.options.waitDensity := by
  have positive : (0 : Int) < 1000000000 := by decide
  have punctual {now due density : Int} (dense : 0 ≤ density) (ahead : now < due) :
      Punctual 1000000000 now due (1000000 * density) (nanoseconds now due density) :=
    punctual_duration positive (by omega) ahead
  refine ⟨fun now due density past => duration_of_past past,
    fun now due density dense ahead => punctual dense ahead,
    fun now instant density dense ahead => (punctual dense ahead).second_eq positive,
    fun now due density dense notPast whole => duration_of_whole positive (by omega) notPast whole,
    fun now due density holds => Clock.toInt_wait holds, Loop.nanoseconds_deadline⟩

/-- From 1.7 seconds before 1970 on the first second of 1970 is waited for, which lasts 1.8 seconds
with a density of 100 milliseconds, and 2 seconds with one of a whole second. -/
theorem nanoseconds_punctual_beforeEpoch :
    nanoseconds 0 (-1700000000) 100 = 0 ∧
      nanoseconds (-1700000000) 0 100 = 1800000000 ∧
      Punctual 1000000000 (-1700000000) 0 100000000 1800000000 ∧
      Punctual 1000000000 (-1700000000) 0 1000000000 2000000000 ∧
      (-1700000000 + nanoseconds (-1700000000) 0 100) / 1000000000 = 0 ∧
      nanoseconds (-2000000000) 0 100 = 2000000000 ∧
      (Clock.wait (-1700000000) 0 100).toInt = 1800000000 := by
  obtain ⟨none, punctual, second, whole, words, -⟩ := nanoseconds_punctual
  refine ⟨none _ _ _ (by decide), by decide, punctual (-1700000000) 0 100 (by decide) (by decide),
    punctual (-1700000000) 0 1000 (by decide) (by decide),
    second (-1700000000) 0 100 (by decide) (by decide),
    whole (-2000000000) 0 100 (by decide) (by decide) (by decide), ?_⟩
  refine (words (-1700000000) 0 100 ⟨?_, fun _ => ?_, fun _ => ?_, fun _ => ?_⟩).trans (by decide)
  all_goals
    exact Clock.holds_iff.mpr (by decide)

end Wait

end Cadence
