import Cadence.Text
import Cadence.Field.Set

namespace Cadence

/-!
# Reading a field

A field is a list of terms separated by commas.  A term is `*`, a value, or two
values joined by `-`, and may have a step after a `/`.  A value is a number or,
for months and days of the week, any beginning of exactly one name.  Blanks
around every part are ignored.  The first term at fault, from the left, decides
the error.
-/

namespace FieldSet

/-- An error of a field's text that is not about the range of a value. -/
def malformed (fault : Fault) (kind : FieldKind) (expression : List Char) (detail : String) :
    ParseError :=
  ⟨fault, some kind, String.ofList expression, none, detail⟩

/-- The places of the names that a text abbreviates, counted from `place`. -/
def matchingNames (text : List Char) : List String → Nat → List Nat
  | [], _ => []
  | name :: names, place =>
      if Text.abbreviates text name.toList then
        place :: matchingNames text names (place + 1)
      else
        matchingNames text names (place + 1)

/-- The value whose name a text abbreviates; the text must leave no choice. -/
def namedValue (kind : FieldKind) (text : List Char) : Except ParseError Int :=
  match matchingNames text kind.names 0 with
  | [] =>
      .error <| malformed .unknownName kind text <|
        "expected one of " ++ ", ".intercalate kind.names
  | [place] => .ok (kind.least + place)
  | place :: other :: _ =>
      .error <| malformed .ambiguousName kind text <|
        "matches both " ++ kind.names.getD place "" ++ " and " ++ kind.names.getD other ""

/-- The range of a field as a detail of an error. -/
def rangeDetail (kind : FieldKind) : String :=
  "expected a number between " ++ String.ofList (Decimal.write kind.least) ++ " and " ++
    String.ofList (Decimal.write kind.greatest)

/-- A value: a number if it begins with a digit, else a name if the field has names. -/
def parseValue (kind : FieldKind) (text : List Char) : Except ParseError Int :=
  match text with
  | [] => .error (malformed .emptyField kind [] "")
  | c :: _ =>
      if c.isDigit then
        match Decimal.integer? text with
        | some value => .ok value
        | none => .error (malformed .malformedExpression kind text "not a number")
      else if kind.hasNames then
        namedValue kind text
      else
        .error (malformed .malformedExpression kind text (rangeDetail kind))

/-- The body of a term and its step, if it has one. -/
def splitStep (kind : FieldKind) (term : List Char) :
    Except ParseError (List Char × Option Int) :=
  match Text.cut '/' term with
  | none => .ok (term, none)
  | some (before, after) =>
      match Decimal.integer? (Text.trim after) with
      | none => .error (malformed .malformedExpression kind term "step must be an integer")
      | some step =>
          match Text.trim before with
          | [] =>
              .error (malformed .malformedExpression kind term "step has nothing to apply to")
          | body => .ok (body, some step)

/-- The two sides of the first `-` of a body, unless it stands at the very front. -/
def splitRange (body : List Char) : Option (List Char × List Char) :=
  match Text.cut '-' body with
  | some (before, after) => if before.isEmpty then none else some (before, after)
  | none => none

/-- The ends of a body with its step: `*` is open at both ends, and a value with a step runs on
to the greatest value. -/
def parseEnds (kind : FieldKind) (body : List Char) (step : Option Int) :
    Except ParseError (Int × Int × Int) :=
  if body = ['*'] then
    .ok (-1, -1, step.getD 1)
  else
    match splitRange body with
    | some (before, after) => do
        let start ← parseValue kind (Text.trim before)
        let stop ← parseValue kind (Text.trim after)
        return (start, stop, step.getD 1)
    | none => do
        let value ← parseValue kind body
        match step with
        | none => return (value, value, 1)
        | some step => return (value, kind.greatest, step)

/-- One term of a field, without blanks at its ends. -/
def parseTerm (kind : FieldKind) (term : List Char) : Except ParseError Span := do
  let (body, step) ← splitStep kind term
  let (start, stop, step) ← parseEnds kind body step
  spanBetween kind start stop step (String.ofList term)

/-- The terms of a list, from the left; a blank term is an error of the whole list. -/
def parseTerms (kind : FieldKind) (whole : List Char) :
    List (List Char) → Except ParseError (List Span)
  | [] => .ok []
  | piece :: pieces => do
      let span ←
        match Text.trim piece with
        | [] => .error (malformed .emptyField kind whole "")
        | term => parseTerm kind term
      let spans ← parseTerms kind whole pieces
      return span :: spans

/-- The spans of a text without blanks at its ends. -/
def parseSpans (kind : FieldKind) (text : List Char) : Except ParseError (List Span) :=
  if ',' ∈ text then
    parseTerms kind text (text.splitOn ',')
  else
    (parseTerm kind text).map fun span => [span]

/-- The set that a text denotes; a blank text denotes the empty set. -/
def parseChars (kind : FieldKind) (text : List Char) : Except ParseError FieldSet :=
  match Text.trim text with
  | [] => .ok (empty kind)
  | trimmed => (parseSpans kind trimmed).map (ofSpans kind)

/-- The set that a text denotes. -/
def parse (kind : FieldKind) (text : String) : Except ParseError FieldSet :=
  parseChars kind text.toList

end FieldSet

end Cadence
