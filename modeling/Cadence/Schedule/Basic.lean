import Cadence.Calendar
import Cadence.Field.Set

namespace Cadence

/-!
# Schedules

A schedule permits, for each field, a set of values.  An instant matches it if
every field of its civil time is permitted.  A schedule without a seconds field
matches on second zero only.
-/

/-- A schedule: the trimmed text it was read from and the values that its fields permit. -/
structure Schedule where
  raw : String
  secondField : Option FieldSet
  minutes : FieldSet
  hours : FieldSet
  days : FieldSet
  months : FieldSet
  weekdays : FieldSet
  deriving DecidableEq, Repr

namespace Schedule

/-- The seconds of a schedule without a seconds field. -/
def secondZero : FieldSet :=
  (FieldSet.empty .second).add ⟨0, 0, 1⟩

/-- The permitted seconds. -/
def seconds (schedule : Schedule) : FieldSet :=
  schedule.secondField.getD secondZero

/-- Whether the schedule was written with a seconds field. -/
def hasSeconds (schedule : Schedule) : Bool :=
  schedule.secondField.isSome

/-- The fields in the order in which they are written, the seconds always among them. -/
def fields (schedule : Schedule) : List FieldSet :=
  [schedule.seconds, schedule.minutes, schedule.hours, schedule.days, schedule.months,
    schedule.weekdays]

/-- The dates that a schedule permits, whether or not the calendar has them. -/
def MatchesDate (schedule : Schedule) (date : Date) : Prop :=
  schedule.days.contains date.day ∧ schedule.months.contains date.month ∧
    schedule.weekdays.contains date.weekday

/-- The times of day that a schedule permits. -/
def MatchesTime (schedule : Schedule) (time : TimeOfDay) : Prop :=
  schedule.hours.contains time.hour ∧ schedule.minutes.contains time.minute ∧
    schedule.seconds.contains time.second

/-- The instants that a schedule permits. -/
def Matches (schedule : Schedule) (instant : Int) : Prop :=
  schedule.MatchesDate (CivilTime.ofInstant instant).date ∧
    schedule.MatchesTime (CivilTime.ofInstant instant).time

instance (schedule : Schedule) (date : Date) : Decidable (schedule.MatchesDate date) := by
  unfold MatchesDate
  infer_instance

instance (schedule : Schedule) (time : TimeOfDay) : Decidable (schedule.MatchesTime time) := by
  unfold MatchesTime
  infer_instance

instance (schedule : Schedule) (instant : Int) : Decidable (schedule.Matches instant) := by
  unfold Matches
  infer_instance

end Schedule

end Cadence
