import Cadence.Fault
import Cadence.Decimal
import Cadence.Field.Kind

namespace Cadence

/-!
# Parse errors

What is wrong with the text of a schedule or of one of its fields, where, and
with which value.  The message names as much of this as is known.
-/

/-- A refused text: the cause, the field if it is one field's, the text at fault and details. -/
structure ParseError where
  fault : Fault
  kind : Option FieldKind
  expression : String
  value : Option Int := none
  detail : String := ""
  deriving DecidableEq, Repr

namespace ParseError

/-- The value at fault and the range in which it is not. -/
def valueNote (kind : FieldKind) : Option Int → String
  | none => ""
  | some value =>
      " (" ++ String.ofList (Decimal.write value) ++ " not in " ++
        String.ofList (Decimal.write kind.least) ++ "-" ++
        String.ofList (Decimal.write kind.greatest) ++ ")"

/-- The place of the fault: a field with its text, or the text alone unless it is empty. -/
def place (error : ParseError) : String :=
  match error.kind with
  | some kind =>
      valueNote kind error.value ++ " in " ++ kind.displayName ++ " field '" ++
        error.expression ++ "'"
  | none => if error.expression.isEmpty then "" else " in '" ++ error.expression ++ "'"

/-- The message: the cause, the place and, after a colon, the detail if there is one. -/
def message (error : ParseError) : String :=
  error.fault.message ++ error.place ++
    (if error.detail.isEmpty then "" else ": " ++ error.detail)

end ParseError

end Cadence
