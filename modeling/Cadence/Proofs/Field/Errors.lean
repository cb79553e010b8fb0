import Cadence.Proofs.Field.Denotation

namespace Cadence

/-!
# Errors of fields

A text that is refused for a field is refused for its first term at fault, and
with the error with which that term is refused on its own; only a blank term is
an error of the whole list.  The error says what is wrong in the words of the
field: names are wrong only where there are names, and a value is told if and
only if it is out of the range of the field, on the side that the error names.
Where a range is out of the field at both ends, that is the lower one.
-/

/-! ### What can be wrong -/

/-- The errors of the reader of a field, each with what has to be so for it. -/
inductive FieldError (kind : FieldKind) : ParseError → Prop
  | empty {text : List Char} {detail : String} :
      FieldError kind (FieldSet.malformed .emptyField kind text detail)
  | malformed {text : List Char} {detail : String} :
      FieldError kind (FieldSet.malformed .malformedExpression kind text detail)
  | unknownName {text : List Char} {detail : String} (named : kind.hasNames) :
      FieldError kind (FieldSet.malformed .unknownName kind text detail)
  | ambiguousName {text : List Char} {detail : String} (named : kind.hasNames) :
      FieldError kind (FieldSet.malformed .ambiguousName kind text detail)
  | below {expression : String} {value : Int} (outside : value < kind.least) :
      FieldError kind (FieldSet.outOfRange .valueBelowMinimum kind expression value)
  | above {expression : String} {value : Int} (outside : kind.greatest < value) :
      FieldError kind (FieldSet.outOfRange .valueAboveMaximum kind expression value)

/-- A computation that fails only with errors of a field. -/
def FailsAsField {α : Type} (kind : FieldKind) (computation : Except ParseError α) : Prop :=
  ∀ error, computation = .error error → FieldError kind error

namespace FailsAsField

variable {α β : Type} {kind : FieldKind}

theorem ok
    (value : α) :
    FailsAsField kind (.ok value) :=
  fun _ failed => nomatch failed

theorem error
    {error : ParseError}
    (isFieldError : FieldError kind error) :
    FailsAsField kind (.error error : Except ParseError α) := by
  intro other failed
  rwa [← Except.error.inj failed]

theorem bind
    {first : Except ParseError α}
    {next : α → Except ParseError β}
    (firstFails : FailsAsField kind first)
    (nextFails : ∀ value, FailsAsField kind (next value)) :
    FailsAsField kind (first >>= next) := by
  cases first with
  | error fault => exact error (firstFails fault rfl)
  | ok value => exact nextFails value

end FailsAsField

namespace FieldSet

theorem failsAsField_namedValue
    {kind : FieldKind}
    (named : kind.hasNames)
    (text : List Char) :
    FailsAsField kind (namedValue kind text) := by
  unfold namedValue
  split
  · exact .error (.unknownName named)
  · exact .ok _
  · exact .error (.ambiguousName named)

theorem failsAsField_parseValue
    (kind : FieldKind)
    (text : List Char) :
    FailsAsField kind (parseValue kind text) := by
  unfold parseValue
  split
  · exact .error .empty
  · split
    · split
      · exact .ok _
      · exact .error .malformed
    · split
      · next named => exact failsAsField_namedValue named _
      · exact .error .malformed

theorem failsAsField_splitStep
    (kind : FieldKind)
    (term : List Char) :
    FailsAsField kind (splitStep kind term) := by
  unfold splitStep
  split
  · exact .ok _
  · split
    · exact .error .malformed
    · split
      · exact .error .malformed
      · exact .ok _

theorem failsAsField_parseEnds
    (kind : FieldKind)
    (body : List Char)
    (step : Option Int) :
    FailsAsField kind (parseEnds kind body step) := by
  unfold parseEnds
  split
  · exact .ok _
  · split
    · apply FailsAsField.bind (failsAsField_parseValue kind _)
      intro start
      exact .bind (failsAsField_parseValue kind _) fun stop => .ok _
    · apply FailsAsField.bind (failsAsField_parseValue kind _)
      intro value
      cases step <;> exact .ok _

theorem failsAsField_spanBetween
    (kind : FieldKind)
    (start stop step : Int)
    (expression : String) :
    FailsAsField kind (spanBetween kind start stop step expression) := by
  rw [spanBetween_eq]
  split
  · next below => exact .error (.below below.2)
  · split
    · next above => exact .error (.above above)
    · exact .ok _

theorem failsAsField_parseTerm
    (kind : FieldKind)
    (term : List Char) :
    FailsAsField kind (parseTerm kind term) := by
  apply FailsAsField.bind (failsAsField_splitStep kind term)
  intro parts
  apply FailsAsField.bind (failsAsField_parseEnds kind parts.1 parts.2)
  intro ends
  exact failsAsField_spanBetween kind _ _ _ _

theorem failsAsField_parsePiece
    (kind : FieldKind)
    (whole piece : List Char) :
    FailsAsField kind (parsePiece kind whole piece) := by
  by_cases blank : Text.trim piece = []
  · rw [parsePiece_of_blank blank]
    exact .error .empty
  · rw [parsePiece_of_not_blank blank]
    exact failsAsField_parseTerm kind _

end FieldSet

/-! ### What an error tells -/

/-- An error that is right for a field: it names the field and something that can be wrong with it,
names only where the field has some, and a value if and only if that is out of the range of the
field, on the side that is named. -/
structure RightFor (kind : FieldKind) (error : ParseError) : Prop where
  kind_eq : error.kind = some kind
  fault_mem :
    error.fault ∈
      [.emptyField, .malformedExpression, .unknownName, .ambiguousName, .valueBelowMinimum,
        .valueAboveMaximum]
  named :
    error.fault = .unknownName ∨ error.fault = .ambiguousName → kind = .month ∨ kind = .weekday
  value_iff :
    error.value.isSome ↔ error.fault = .valueBelowMinimum ∨ error.fault = .valueAboveMaximum
  below :
    ∀ value, error.value = some value → error.fault = .valueBelowMinimum → value < kind.least
  above :
    ∀ value, error.value = some value → error.fault = .valueAboveMaximum → kind.greatest < value

/-- Months and days of the week are the fields with names. -/
theorem FieldKind.hasNames_iff
    {kind : FieldKind} :
    kind.hasNames ↔ kind = .month ∨ kind = .weekday := by
  cases kind <;> decide

theorem FieldError.rightFor
    {kind : FieldKind}
    {error : ParseError}
    (isFieldError : FieldError kind error) :
    RightFor kind error := by
  cases isFieldError with
  | empty => constructor <;> simp [FieldSet.malformed]
  | malformed => constructor <;> simp [FieldSet.malformed]
  | unknownName named =>
      constructor <;> simp [FieldSet.malformed, FieldKind.hasNames_iff.mp named]
  | ambiguousName named =>
      constructor <;> simp [FieldSet.malformed, FieldKind.hasNames_iff.mp named]
  | below outside => constructor <;> simp [FieldSet.outOfRange, outside]
  | above outside => constructor <;> simp [FieldSet.outOfRange, outside]

namespace FieldSet

/-! ### The first term at fault -/

/-- A piece of a list, parsed on its own, is accepted or refused as it is within the list. -/
theorem parseChars_of_mem_pieces
    {kind : FieldKind}
    {text piece : List Char}
    (member : piece ∈ text.splitOn ',')
    (notBlank : Text.trim piece ≠ []) :
    parseChars kind piece =
      (parsePiece kind text piece).map fun span => (empty kind).add span := by
  have noComma : ',' ∉ Text.trim piece :=
    fun comma => Text.not_mem_of_mem_splitOn member (Text.mem_of_mem_trim comma)
  rw [parseChars_of_term notBlank noComma, parsePiece_of_not_blank notBlank]

theorem accepted_alone
    {kind : FieldKind}
    {text piece : List Char}
    (member : piece ∈ text.splitOn ',') :
    (∃ span, parsePiece kind text piece = .ok span) ↔
      Text.trim piece ≠ [] ∧ ∃ set, parseChars kind piece = .ok set := by
  by_cases blank : Text.trim piece = []
  · simp [parsePiece_of_blank blank, blank]
  · rw [parseChars_of_mem_pieces member blank]
    cases parsePiece kind text piece <;> simp [Except.map, blank]

theorem refused_alone
    {kind : FieldKind}
    {text piece : List Char}
    (member : piece ∈ text.splitOn ',')
    {error : ParseError} :
    parsePiece kind text piece = .error error ↔
      (Text.trim piece = [] ∧ error = malformed .emptyField kind text "") ∨
        (Text.trim piece ≠ [] ∧ parseChars kind piece = .error error) := by
  by_cases blank : Text.trim piece = []
  · simp [parsePiece_of_blank blank, blank, eq_comm]
  · rw [parseChars_of_mem_pieces member blank]
    cases parsePiece kind text piece <;> simp [Except.map, blank]

/-- The piece of a list that is refused first: all before it are accepted on their own, and the error
is its own or, if it is blank, an error of the whole list. -/
structure FirstAtFault
    (kind : FieldKind)
    (text : List Char)
    (error : ParseError)
    (before : List (List Char))
    (piece : List Char)
    (after : List (List Char)) :
    Prop where
  pieces : text.splitOn ',' = before ++ piece :: after
  accepted :
    ∀ earlier ∈ before, Text.trim earlier ≠ [] ∧ ∃ set, parseChars kind earlier = .ok set
  refused :
    (Text.trim piece = [] ∧ error = malformed .emptyField kind text "") ∨
      (Text.trim piece ≠ [] ∧ parseChars kind piece = .error error)

/-- A text is refused if and only if some piece of it is refused first. -/
theorem parseChars_eq_error_iff
    {kind : FieldKind}
    {text : List Char}
    (notBlank : Text.trim text ≠ [])
    {error : ParseError} :
    parseChars kind text = .error error ↔
      ∃ before piece after, FirstAtFault kind (Text.trim text) error before piece after := by
  have asList :
      parseChars kind text = .error error ↔
        ((Text.trim text).splitOn ',').mapM (parsePiece kind (Text.trim text)) = .error error := by
    rw [parseChars_eq notBlank, parseTerms_eq_mapM]
    cases ((Text.trim text).splitOn ',').mapM (parsePiece kind (Text.trim text)) <;>
      simp [Except.map]
  rw [asList, mapM_eq_error_iff]
  constructor
  · rintro ⟨before, piece, after, pieces, accepted, refused⟩
    have listed : ∀ other ∈ before ++ piece :: after, other ∈ (Text.trim text).splitOn ',' :=
      fun other member => pieces ▸ member
    refine ⟨before, piece, after, pieces, fun earlier member => ?_, ?_⟩
    · exact (accepted_alone (listed earlier (List.mem_append_left _ member))).mp
        (accepted earlier member)
    · exact (refused_alone (listed piece (by simp))).mp refused
  · rintro ⟨before, piece, after, pieces, accepted, refused⟩
    have listed : ∀ other ∈ before ++ piece :: after, other ∈ (Text.trim text).splitOn ',' :=
      fun other member => pieces ▸ member
    refine ⟨before, piece, after, pieces, fun earlier member => ?_, ?_⟩
    · exact (accepted_alone (listed earlier (List.mem_append_left _ member))).mpr
        (accepted earlier member)
    · exact (refused_alone (listed piece (by simp))).mpr refused

/-- A lower end that is below the field is told, wherever the upper one is and whichever is written
first. -/
theorem parseTerm_of_lower_outside
    {kind : FieldKind}
    {text : List Char}
    {left right : Int}
    {step : Option Int}
    (writes : WritesTerm kind text ⟨.range left right, step⟩)
    (outside : min left right < kind.least) :
    parseTerm kind text =
      .error (outOfRange .valueBelowMinimum kind (String.ofList text) (min left right)) := by
  have nonneg := writes.nonneg
  simp only [FieldBody.values, List.mem_cons, List.not_mem_nil, or_false, forall_eq_or_imp,
    forall_eq] at nonneg
  rw [parseTerm_of_writes writes]
  simp only [FieldTerm.ends]
  rw [spanBetween_eq, if_pos ⟨le_min nonneg.1 nonneg.2, outside⟩]

/-- An error of a field is right for it, and is that of the first piece at fault, which is refused so
on its own.  If that piece is a range with its lower end below the field, then that end is
told, also where the other one is above the field, and whichever way round the range is written. -/
theorem parse_error_right_and_first
    {kind : FieldKind}
    {text : String}
    {error : ParseError}
    (failed : parse kind text = .error error) :
    RightFor kind error ∧
      ∃ before piece after,
        FirstAtFault kind (Text.trim text.toList) error before piece after ∧
          ∀ left right step,
            WritesTerm kind (Text.trim piece) ⟨.range left right, step⟩ →
              min left right < kind.least →
                error =
                  outOfRange .valueBelowMinimum kind (String.ofList (Text.trim piece))
                    (min left right) := by
  have notBlank : Text.trim text.toList ≠ [] := by
    intro blank
    rw [parse, parseChars_of_blank blank] at failed
    contradiction
  obtain ⟨before, piece, after, first⟩ := (parseChars_eq_error_iff notBlank).mp failed
  have member : piece ∈ (Text.trim text.toList).splitOn ',' := by simp [first.pieces]
  have refused := (refused_alone member).mpr first.refused
  refine ⟨(failsAsField_parsePiece kind _ piece error refused).rightFor, before, piece, after, first,
    fun left right step writes outside => ?_⟩
  rw [parsePiece_of_not_blank writes.ne_nil, parseTerm_of_lower_outside writes outside] at refused
  exact (Except.error.inj refused).symm

/-- The second of three pieces is out of the month at both ends; the third would be no better. -/
theorem parse_error_right_and_first_day :
    ∃ error, parse .day " 1-5, 40 - 0 /2,x" = .error error ∧ RightFor .day error ∧
      error = ⟨.valueBelowMinimum, some .day, "40 - 0 /2", some 0, ""⟩ ∧
      ∃ before piece after,
        FirstAtFault .day (Text.trim " 1-5, 40 - 0 /2,x".toList) error before piece after := by
  have failed :
      parse .day " 1-5, 40 - 0 /2,x" =
        .error ⟨.valueBelowMinimum, some .day, "40 - 0 /2", some 0, ""⟩ := by
    decide +kernel
  obtain ⟨right, before, piece, after, first, -⟩ := parse_error_right_and_first failed
  exact ⟨_, failed, right, rfl, before, piece, after, first⟩

end FieldSet

end Cadence
