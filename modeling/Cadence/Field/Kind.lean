namespace Cadence

/-!
# Kinds of schedule fields

A schedule has up to six fields.  Each kind has its range of values, and months
and days of the week also have names: the name at place `i` stands for the value
`least + i`.
-/

/-- The kinds of fields, in the order in which a schedule writes them. -/
inductive FieldKind
  | second
  | minute
  | hour
  | day
  | month
  | weekday
  deriving DecidableEq, Repr

namespace FieldKind

/-- All kinds, in the order in which a schedule writes them. -/
def all : List FieldKind :=
  [second, minute, hour, day, month, weekday]

/-- The place of a kind in the order of the fields, from 0. -/
def index : FieldKind → Nat
  | second => 0
  | minute => 1
  | hour => 2
  | day => 3
  | month => 4
  | weekday => 5

/-- The least value of a field. -/
def least : FieldKind → Int
  | second | minute | hour | weekday => 0
  | day | month => 1

/-- The greatest value of a field. -/
def greatest : FieldKind → Int
  | second | minute => 59
  | hour => 23
  | day => 31
  | month => 12
  | weekday => 6

/-- How many values a field has. -/
def count : FieldKind → Nat
  | second | minute => 60
  | hour => 24
  | day => 31
  | month => 12
  | weekday => 7

/-- All values of a field, in increasing order. -/
def values (kind : FieldKind) : List Int :=
  (List.range kind.count).map fun (i : Nat) => kind.least + (i : Int)

/-- The word for a kind in messages. -/
def displayName : FieldKind → String
  | second => "second"
  | minute => "minute"
  | hour => "hour"
  | day => "day"
  | month => "month"
  | weekday => "day of week"

/-- The names of the values from the least one on; none for a purely numeric field. -/
def names : FieldKind → List String
  | month =>
      ["January", "February", "March", "April", "May", "June", "July", "August", "September",
        "October", "November", "December"]
  | weekday =>
      ["Sunday", "Monday", "Tuesday", "Wednesday", "Thursday", "Friday", "Saturday"]
  | _ => []

/-- Whether the values of a field have names. -/
def hasNames (kind : FieldKind) : Bool :=
  !kind.names.isEmpty

/-- The name of a value, empty if it has none. -/
def nameOf (kind : FieldKind) (value : Int) : String :=
  if value < kind.least then
    ""
  else
    kind.names.getD (value - kind.least).toNat ""

end FieldKind

end Cadence
