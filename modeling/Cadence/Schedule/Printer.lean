import Cadence.Field.Printer
import Cadence.Schedule.Basic

namespace Cadence

/-!
# Writing a schedule

The fields of a schedule as they are read back: in order, separated by single
spaces, with a seconds field exactly if the schedule has one.
-/

namespace Schedule

/-- The fields that a written schedule shows. -/
def writtenFields (schedule : Schedule) : List FieldSet :=
  schedule.secondField.toList ++
    [schedule.minutes, schedule.hours, schedule.days, schedule.months, schedule.weekdays]

/-- The written form of a schedule. -/
def writeChars (schedule : Schedule) : List Char :=
  [' '].intercalate (schedule.writtenFields.map (FieldSet.writeChars .numeric))

/-- The written form of a schedule. -/
def write (schedule : Schedule) : String :=
  String.ofList schedule.writeChars

end Schedule

end Cadence
