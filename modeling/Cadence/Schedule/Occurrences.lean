import Cadence.Schedule.Search

namespace Cadence

/-!
# Sequences of occurrences

The occurrences of a schedule between a base and a limit, both excluded: each is
the next one after the one before.  The sequence ends at the limit, or after as
many elements as were asked for.

A range is such a sequence that is not computed yet.  A cursor walks through it
and finds each occurrence when it is needed; every pass begins with a new cursor.
-/

namespace Schedule

/-- The first occurrences after a base and before a limit, at most `count` of them. -/
def occurrences (schedule : Schedule) (base limit : Int) : Nat → List Int
  | 0 => []
  | count + 1 =>
      let instant := schedule.nextOccurrence base limit
      if limit ≤ instant then
        []
      else
        instant :: occurrences schedule instant limit count

/-- All occurrences after a base and before a limit: there are no more of them than seconds, from
the base on or from the first second that dates keep, where the search from a later base may go
back to. -/
def allOccurrences (schedule : Schedule) (base limit : Int) : List Int :=
  schedule.occurrences base limit (limit - min base Calendar.firstSecond).toNat

end Schedule

/-- The occurrences of a schedule between a base and a limit, to be walked through. -/
structure OccurrenceRange where
  schedule : Schedule
  base : Int
  limit : Int
  deriving DecidableEq, Repr

/-- A place in a range: the occurrence at which a walk stands, or the limit when it is over. -/
structure OccurrenceCursor where
  schedule : Schedule
  current : Int
  limit : Int
  deriving DecidableEq, Repr

namespace OccurrenceCursor

/-- Whether the walk is over. -/
def atEnd (cursor : OccurrenceCursor) : Bool :=
  cursor.limit ≤ cursor.current

/-- The place after this one: the occurrence found is the base for the next one. -/
def advance (cursor : OccurrenceCursor) : OccurrenceCursor :=
  { cursor with current := cursor.schedule.nextOccurrence cursor.current cursor.limit }

/-- The occurrences from a place on, at most `count` of them. -/
def take (cursor : OccurrenceCursor) : Nat → List Int
  | 0 => []
  | count + 1 => if cursor.atEnd then [] else cursor.current :: cursor.advance.take count

end OccurrenceCursor

/-- The range of the occurrences of a schedule after a base and before a limit. -/
def Schedule.range (schedule : Schedule) (base limit : Int) : OccurrenceRange :=
  ⟨schedule, base, limit⟩

namespace OccurrenceRange

/-- The place at which every pass through a range begins. -/
def first (range : OccurrenceRange) : OccurrenceCursor :=
  ⟨range.schedule, range.schedule.nextOccurrence range.base range.limit, range.limit⟩

/-- What passes through a range meet, one after the other, each of which is given up after so many
occurrences. -/
def passes (range : OccurrenceRange) (counts : List Nat) : List (List Int) :=
  counts.map range.first.take

end OccurrenceRange

end Cadence
