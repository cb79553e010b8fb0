namespace Cadence

/-!
# Faults

The causes for which an operation of the scheduler can be refused.  Every cause
has a number, by which callers may ask for its wording; a number without a cause
has the wording of the unknown one.
-/

/-- Why an operation was refused, in the order of the fault numbers. -/
inductive Fault
  | success
  | fileNotFound
  | fileOpenFailed
  | parseError
  | invalidArgument
  | notFound
  | alreadyRunning
  | cancelled
  | valueBelowMinimum
  | valueAboveMaximum
  | emptyField
  | unknownName
  | ambiguousName
  | malformedExpression
  | wrongFieldCount
  | processFailed
  | unknown
  deriving DecidableEq, Repr

namespace Fault

/-- All faults, each at the place of its number. -/
def all : List Fault :=
  [success, fileNotFound, fileOpenFailed, parseError, invalidArgument, notFound, alreadyRunning,
    cancelled, valueBelowMinimum, valueAboveMaximum, emptyField, unknownName, ambiguousName,
    malformedExpression, wrongFieldCount, processFailed, unknown]

/-- The fault of a number, if it has one. -/
def ofNumber? (number : Int) : Option Fault :=
  if number < 0 then none else all[number.toNat]?

/-- The wording of a fault. -/
def message : Fault → String
  | success => "success"
  | fileNotFound => "file not found"
  | fileOpenFailed => "failed to open file"
  | parseError => "parse error"
  | invalidArgument => "invalid argument"
  | notFound => "not found"
  | alreadyRunning => "scheduler loop is already running"
  | cancelled => "cancelled"
  | valueBelowMinimum => "value below minimum"
  | valueAboveMaximum => "value above maximum"
  | emptyField => "empty field"
  | unknownName => "unrecognized symbolic name"
  | ambiguousName => "ambiguous symbolic name"
  | malformedExpression => "malformed expression"
  | wrongFieldCount => "wrong number of fields"
  | processFailed => "failed to start process"
  | unknown => "unknown error"

end Fault

end Cadence
