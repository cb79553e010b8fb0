namespace Cadence

/-!
# How long to wait

A wait for a due instant is rounded up to a whole second, but ends at most a
given time, the density, after the due instant.
-/

namespace Wait

/-- A duration rounded up to a multiple of a second. -/
def roundedUp (second span : Int) : Int :=
  (span + (second - 1)) / second * second

/-- How long to wait at `now` for the instant `due`, in a unit of which a second has `second`. -/
def duration (second now due density : Int) : Int :=
  let remaining := due - now
  if remaining ≤ 0 then
    0
  else
    min (roundedUp second remaining) (remaining + density)

/-- How long to wait in nanoseconds, for a density in milliseconds. -/
def nanoseconds (now due density : Int) : Int :=
  duration 1000000000 now due (1000000 * density)

end Wait

end Cadence
