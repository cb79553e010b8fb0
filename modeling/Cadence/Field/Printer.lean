import Cadence.Field.Set

namespace Cadence

/-!
# Writing a field

A set is written as the list of its maximal runs of consecutive values, in
increasing order: a run of one value by that value, a longer one by its ends.
The whole range is written `*`.
-/

/-- How values are written: always as numbers, or by their names where they have names. -/
inductive FieldFormat
  | numeric
  | names
  deriving DecidableEq, Repr

namespace FieldSet

/-- The maximal runs of consecutive values of a list, each by its ends. -/
def runs : List Int → List (Int × Int)
  | [] => []
  | value :: rest =>
      match runs rest with
      | [] => [(value, value)]
      | (low, high) :: others =>
          if low = value + 1 then
            (value, high) :: others
          else
            (value, value) :: (low, high) :: others

/-- A value in a format. -/
def writeValue (format : FieldFormat) (kind : FieldKind) (value : Int) : List Char :=
  if format = .names ∧ kind.hasNames then
    (kind.nameOf value).toList
  else
    Decimal.write value

/-- A run of values in a format. -/
def writeRun (format : FieldFormat) (kind : FieldKind) (run : Int × Int) : List Char :=
  if run.1 = run.2 then
    writeValue format kind run.1
  else
    writeValue format kind run.1 ++ '-' :: writeValue format kind run.2

/-- The written form of a set. -/
def writeChars (format : FieldFormat) (set : FieldSet) : List Char :=
  match runs set.walk with
  | [] => []
  | run :: others =>
      if run = (set.kind.least, set.kind.greatest) then
        ['*']
      else
        [','].intercalate ((run :: others).map (writeRun format set.kind))

/-- The written form of a set. -/
def write (format : FieldFormat) (set : FieldSet) : String :=
  String.ofList (writeChars format set)

end FieldSet

end Cadence
