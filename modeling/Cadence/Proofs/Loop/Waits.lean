import Cadence.Loop.Run
import Mathlib.Algebra.Order.Group.Unbundled.Int
import Mathlib.Algebra.Order.Ring.Int

namespace Cadence

/-!
# The length of a wait

A wait must not end before the due instant, and if that is a whole second it must
not end in a later one.  Rounding up to whole seconds meets the first condition,
and the second one too, because less than a second is added.  The density only
shortens what is added, and never below what remains.

The unit of time does not matter.  The clock of a run shows milliseconds, a clock
of the system nanoseconds, and the waits are the same.
-/

namespace Wait

/-! ### Rounding up -/

section Rounding

variable {second span : Int}

theorem le_roundedUp
    (positive : 0 < second)
    (span : Int) :
    span ≤ roundedUp second span := by
  have beyond := Int.lt_ediv_add_one_mul_self (span + (second - 1)) positive
  rw [Int.add_mul, Int.one_mul] at beyond
  unfold roundedUp
  omega

theorem roundedUp_lt
    (positive : 0 < second)
    (span : Int) :
    roundedUp second span < span + second := by
  have within := Int.ediv_mul_le (span + (second - 1)) positive.ne'
  unfold roundedUp
  omega

theorem dvd_roundedUp
    (second span : Int) :
    second ∣ roundedUp second span :=
  Int.dvd_mul_left _ _

/-- No other multiple of a second is less than a second above a duration. -/
theorem roundedUp_eq
    {multiple : Int}
    (isMultiple : second ∣ multiple)
    (notBelow : span ≤ multiple)
    (near : multiple < span + second) :
    roundedUp second span = multiple := by
  have positive : 0 < second := by omega
  have above := le_roundedUp positive span
  have below := roundedUp_lt positive span
  have apart : second ∣ roundedUp second span - multiple :=
    Int.dvd_sub (dvd_roundedUp second span) isMultiple
  have same := Int.eq_zero_of_abs_lt_dvd apart (abs_lt.mpr ⟨by omega, by omega⟩)
  omega

theorem roundedUp_of_dvd
    (positive : 0 < second)
    (whole : second ∣ span) :
    roundedUp second span = span :=
  roundedUp_eq whole (Int.le_refl span) (by omega)

/-- Rounding up is the same in every unit. -/
theorem roundedUp_scale
    {unit : Int}
    (unitPositive : 0 < unit)
    (positive : 0 < second)
    (span : Int) :
    roundedUp (unit * second) (unit * span) = unit * roundedUp second span := by
  apply roundedUp_eq
  · exact Int.mul_dvd_mul_left unit (dvd_roundedUp second span)
  · exact Int.mul_le_mul_of_nonneg_left (le_roundedUp positive span) unitPositive.le
  · rw [← Int.mul_add]
    exact Int.mul_lt_mul_of_pos_left (roundedUp_lt positive span) unitPositive

end Rounding

/-! ### The end of a wait -/

/-- A wait that ends at the due instant or later, but not later than the density allows nor a whole
second later.  It lasts as long as the density allows or for whole seconds. -/
structure Punctual
    (second now due density wait : Int) :
    Prop where
  notEarly : due - now ≤ wait
  notLate : wait ≤ due - now + density
  lessThanSecond : wait < due - now + second
  shape : wait = due - now + density ∨ second ∣ wait

section Duration

variable {second now due density : Int}

/-- For what is due already nothing waits. -/
theorem duration_of_past
    (past : due ≤ now) :
    duration second now due density = 0 :=
  if_pos (by omega)

theorem duration_of_ahead
    (ahead : now < due) :
    duration second now due density =
      min (roundedUp second (due - now)) (due - now + density) :=
  if_neg (by omega)

/-- A wait for what is ahead ends in time, if the density is not negative. -/
theorem punctual_duration
    (positive : 0 < second)
    (dense : 0 ≤ density)
    (ahead : now < due) :
    Punctual second now due density (duration second now due density) := by
  have above := le_roundedUp positive (due - now)
  have below := roundedUp_lt positive (due - now)
  rw [duration_of_ahead ahead]
  rcases min_choice (roundedUp second (due - now)) (due - now + density) with whole | capped
  · have notCapped := min_eq_left_iff.mp whole
    rw [whole]
    exact ⟨above, notCapped, below, Or.inr (dvd_roundedUp second _)⟩
  · have notWhole := min_eq_right_iff.mp capped
    rw [capped]
    exact ⟨by omega, Int.le_refl _, by omega, Or.inl rfl⟩

/-- No wait is shorter than the time that remains. -/
theorem remaining_le_duration
    (positive : 0 < second)
    (dense : 0 ≤ density)
    (now due : Int) :
    due - now ≤ duration second now due density := by
  rcases Int.lt_or_le now due with ahead | past
  · exact (punctual_duration positive dense ahead).notEarly
  · rw [duration_of_past past]
    omega

/-- A punctual wait for a whole second ends within that second. -/
theorem Punctual.second_eq
    {instant wait : Int}
    (positive : 0 < second)
    (punctual : Punctual second now (second * instant) density wait) :
    (now + wait) / second = instant := by
  obtain ⟨notEarly, -, lessThanSecond, -⟩ := punctual
  apply Int.le_antisymm
  · apply Int.lt_add_one_iff.mp
    rw [Int.ediv_lt_iff_lt_mul positive, Int.add_mul, Int.one_mul, Int.mul_comm instant]
    omega
  · rw [Int.le_ediv_iff_mul_le positive, Int.mul_comm instant]
    omega

/-- Whole seconds are waited for exactly. -/
theorem duration_of_whole
    (positive : 0 < second)
    (dense : 0 ≤ density)
    (notPast : now ≤ due)
    (whole : second ∣ due - now) :
    duration second now due density = due - now := by
  rcases Int.lt_or_eq_of_le notPast with ahead | rfl
  · rw [duration_of_ahead ahead, roundedUp_of_dvd positive whole]
    exact min_eq_left (by omega)
  · rw [duration_of_past (Int.le_refl now), Int.sub_self]

/-- Waits are the same in every unit. -/
theorem duration_scale
    {unit : Int}
    (unitPositive : 0 < unit)
    (positive : 0 < second)
    (now due density : Int) :
    duration (unit * second) (unit * now) (unit * due) (unit * density) =
      unit * duration second now due density := by
  rcases Int.lt_or_le now due with ahead | past
  · have scaledAhead : unit * now < unit * due := Int.mul_lt_mul_of_pos_left ahead unitPositive
    rw [duration_of_ahead ahead, duration_of_ahead scaledAhead, ← Int.mul_sub, ← Int.mul_add,
      roundedUp_scale unitPositive positive, mul_min_of_nonneg _ _ unitPositive.le]
  · have scaledPast : unit * due ≤ unit * now := Int.mul_le_mul_of_nonneg_left past unitPositive.le
    rw [duration_of_past past, duration_of_past scaledPast, Int.mul_zero]

end Duration

end Wait

end Cadence
