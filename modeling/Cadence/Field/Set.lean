import Cadence.Field.ParseError

namespace Cadence

/-!
# Field sets

The set of values that one field of a schedule permits.  The members are a bit
mask over the values of the kind.  Beside them the set keeps its *bounds*: the
lowest start and the highest value reached by any span added to it.  For every
span that begins in the field the bounds are the least and the greatest member;
they are what `first` answers with, also for a span that holds no value at all.
-/

/-- Every `step`-th value from `first` up to `last`. -/
structure Span where
  first : Int
  last : Int
  step : Int
  deriving DecidableEq, Repr

namespace Span

/-- The values of a span. -/
def Covers (span : Span) (value : Int) : Prop :=
  span.first ≤ value ∧ value ≤ span.last ∧ (value - span.first) % span.step = 0

instance (span : Span) (value : Int) : Decidable (span.Covers value) := by
  unfold Covers
  infer_instance

/-- The last value that the steps reach; the number of steps is rounded toward zero. -/
def reached (span : Span) : Int :=
  span.first + (span.last - span.first).tdiv span.step * span.step

end Span

/-- The values that a field permits, with the bounds of the spans added so far. -/
structure FieldSet where
  kind : FieldKind
  mask : Nat
  bounds : Option (Int × Int)
  deriving DecidableEq, Repr

namespace FieldSet

/-- The set that permits nothing. -/
def empty (kind : FieldKind) : FieldSet :=
  ⟨kind, 0, none⟩

/-- Whether a value is permitted; no value outside the field is. -/
def contains (set : FieldSet) (value : Int) : Bool :=
  set.kind.least ≤ value && value ≤ set.kind.greatest &&
    set.mask.testBit (value - set.kind.least).toNat

/-- The mask with the values of a span added. -/
def maskWith (kind : FieldKind) (span : Span) (mask : Nat) : Nat :=
  kind.values.foldl
    (fun mask value =>
      if span.Covers value then mask ||| 1 <<< (value - kind.least).toNat else mask)
    mask

/-- The set with the values of a span added. -/
def add (set : FieldSet) (span : Span) : FieldSet where
  kind := set.kind
  mask := maskWith set.kind span set.mask
  bounds :=
    match set.bounds with
    | none => some (span.first, span.reached)
    | some (lowest, highest) => some (min lowest span.first, max highest span.reached)

/-- The set of the values of all the given spans. -/
def ofSpans (kind : FieldKind) (spans : List Span) : FieldSet :=
  spans.foldl add (empty kind)

/-- The permitted values, in increasing order. -/
def members (set : FieldSet) : List Int :=
  set.kind.values.filter set.contains

/-- Whether no value is permitted. -/
def isEmpty (set : FieldSet) : Bool :=
  set.members.isEmpty

/-- How many values are permitted. -/
def count (set : FieldSet) : Nat :=
  set.members.length

/-- The lower bound, if anything was added. -/
def first (set : FieldSet) : Option Int :=
  set.bounds.map Prod.fst

/-- The least permitted value that is not below `start`. -/
def next (set : FieldSet) (start : Int) : Option Int :=
  set.kind.values.find? fun value => start ≤ value && set.contains value

/-- The lower bound; 2147483647 for a set to which nothing was added. -/
def lowerBound (set : FieldSet) : Int :=
  (set.bounds.map Prod.fst).getD 2147483647

/-- The upper bound; -1 for a set to which nothing was added. -/
def upperBound (set : FieldSet) : Int :=
  (set.bounds.map Prod.snd).getD (-1)

/-- The values met by asking again and again for the next value after the last one. -/
def walkAfter (set : FieldSet) : Nat → Int → List Int
  | 0, _ => []
  | steps + 1, value =>
      match set.next (value + 1) with
      | none => []
      | some following => following :: walkAfter set steps following

/-- The walk through the set: `first`, then the next value after each. -/
def walk (set : FieldSet) : List Int :=
  match set.first with
  | none => []
  | some value => value :: set.walkAfter set.kind.count value

/-- Two sets are the same if they are of one kind and permit the same values. -/
def same (left right : FieldSet) : Bool :=
  left.kind == right.kind && left.mask == right.mask

/-! ### From the ends of a range to a span -/

/-- The error of a value on the wrong side of the field's range. -/
def outOfRange (fault : Fault) (kind : FieldKind) (expression : String) (value : Int) :
    ParseError :=
  ⟨fault, some kind, expression, some value, ""⟩

/-- A step of at least 1 and at most the number of the field's values. -/
def clampStep (kind : FieldKind) (step : Int) : Int :=
  max 1 (min step kind.count)

/--
The span between two ends.  A negative end is open: it stands for the least value
as a start and for the greatest as an end, and equal negative ends select the
whole range.  The ends may come in either order.
-/
def spanBetween (kind : FieldKind) (start stop step : Int) (expression : String) :
    Except ParseError Span :=
  let low := min start stop
  let high := max start stop
  if start = stop ∧ start < 0 then
    .ok ⟨kind.least, kind.greatest, clampStep kind step⟩
  else if 0 ≤ low ∧ low < kind.least then
    .error (outOfRange .valueBelowMinimum kind expression low)
  else if kind.greatest < high then
    .error (outOfRange .valueAboveMaximum kind expression high)
  else
    .ok ⟨if low < 0 then kind.least else low, if high < 0 then kind.greatest else high,
      clampStep kind step⟩

/-- The text by which a range given by its ends and its step is reported. -/
def rangeText (start stop step : Int) : String :=
  String.ofList <|
    Decimal.write start ++ '-' :: Decimal.write stop ++ '/' :: Decimal.write step

/-- The set of every `step`-th value between two ends. -/
def ofRange (kind : FieldKind) (start stop step : Int) : Except ParseError FieldSet :=
  (spanBetween kind start stop step (rangeText start stop step)).map fun span =>
    (empty kind).add span

end FieldSet

end Cadence
