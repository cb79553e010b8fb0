import Cadence.Field.Parser
import Cadence.Proofs.Sequences
import Cadence.Proofs.Text
import Cadence.Proofs.Field.Members

namespace Cadence

/-!
# Sets that are read from texts

A text that is accepted for a field has at least one term, and every term is a
span in the field.  That holds because the ends of a term are never negative, or
both of them are the open ends that a star stands for.
-/

namespace Decimal

/-- An integer is negative only with a minus sign in front. -/
theorem integer?_nonneg
    {c : Char}
    {rest : List Char}
    {value : Int}
    (unsigned : c ≠ '-')
    (read : integer? (c :: rest) = some value) :
    0 ≤ value := by
  simp only [integer?] at read
  split at read
  · next shape =>
      injection shape with same
      exact (unsigned same).elim
  · have unbounded := (Option.filter_eq_some_iff.mp read).1
    cases digits : natural? (c :: rest) with
    | none =>
        simp [digits] at unbounded
    | some natural =>
        have same : (natural : Int) = value := by
          simpa [digits] using unbounded
        omega

end Decimal

namespace FieldKind

/-- Where a range with the given lower end starts: an open end stands for the least value. -/
def startAt (kind : FieldKind) (low : Int) : Int :=
  if low < 0 then kind.least else low

/-- Where a range with the given upper end stops: an open end stands for the greatest value. -/
def stopAt (kind : FieldKind) (high : Int) : Int :=
  if high < 0 then kind.greatest else high

theorem startAt_of_nonneg
    {kind : FieldKind}
    {low : Int}
    (closed : 0 ≤ low) :
    kind.startAt low = low :=
  if_neg (Int.not_lt.mpr closed)

theorem stopAt_of_nonneg
    {kind : FieldKind}
    {high : Int}
    (closed : 0 ≤ high) :
    kind.stopAt high = high :=
  if_neg (Int.not_lt.mpr closed)

theorem least_le_greatest (kind : FieldKind) : kind.least ≤ kind.greatest := by
  cases kind <;> decide

theorem least_nonneg (kind : FieldKind) : 0 ≤ kind.least := by
  cases kind <;> decide

end FieldKind

namespace FieldSet

/-! ### Between two ends -/

section Ends

variable {kind : FieldKind} {start stop step : Int} {expression : String}

/-- The order in which the ends of a range are given says nothing.  The lower one is looked at
before the upper one, and equal open ends are not a case of their own. -/
theorem spanBetween_eq :
    spanBetween kind start stop step expression =
      if 0 ≤ min start stop ∧ min start stop < kind.least then
        .error (outOfRange .valueBelowMinimum kind expression (min start stop))
      else if kind.greatest < max start stop then
        .error (outOfRange .valueAboveMaximum kind expression (max start stop))
      else
        .ok ⟨kind.startAt (min start stop), kind.stopAt (max start stop), clampStep kind step⟩ := by
  unfold spanBetween
  simp only
  split
  · next isOpen =>
      obtain ⟨rfl, negative⟩ := isOpen
      have ordered := kind.least_le_greatest
      have nonneg := kind.least_nonneg
      rw [min_self, max_self, if_neg (by omega), if_neg (by omega), FieldKind.startAt,
        FieldKind.stopAt, if_pos negative, if_pos negative]
  · rfl

/-- Two ends make a span if neither is out of the field, an open one counting as within it. -/
theorem spanBetween_eq_ok_iff
    {span : Span} :
    spanBetween kind start stop step expression = .ok span ↔
      ((min start stop < 0 ∨ kind.least ≤ min start stop) ∧ max start stop ≤ kind.greatest) ∧
        span =
          ⟨kind.startAt (min start stop), kind.stopAt (max start stop), clampStep kind step⟩ := by
  rw [spanBetween_eq]
  split
  · simp only [reduceCtorEq, false_iff]
    omega
  · split
    · simp only [reduceCtorEq, false_iff]
      omega
    · rw [Except.ok.injEq, eq_comm, iff_and_self]
      omega

/-- A span whose ends are not negative, or both open, is in the field. -/
theorem inField_of_spanBetween
    {span : Span}
    (ends : (start = -1 ∧ stop = -1) ∨ (0 ≤ start ∧ 0 ≤ stop))
    (accepted : spanBetween kind start stop step expression = .ok span) :
    span.InField kind := by
  obtain ⟨within, rfl⟩ := spanBetween_eq_ok_iff.mp accepted
  rcases ends with ⟨rfl, rfl⟩ | ⟨startNonneg, stopNonneg⟩
  · exact ⟨le_refl _, kind.least_le_greatest, le_refl _⟩
  · rw [FieldKind.startAt_of_nonneg (by omega), FieldKind.stopAt_of_nonneg (by omega)]
    have lower : kind.least ≤ min start stop := by omega
    exact ⟨lower, (min_le_left _ _).trans (le_max_left _ _), within.2⟩

end Ends

/-! ### Values, terms and lists -/

/-- A value that is read is not negative. -/
theorem parseValue_nonneg
    {kind : FieldKind}
    {text : List Char}
    {value : Int}
    (read : parseValue kind text = .ok value) :
    0 ≤ value := by
  unfold parseValue at read
  split at read
  · contradiction
  · next c rest =>
      split at read
      · next digit =>
          split at read
          · next number shape =>
              injection read with same
              subst same
              refine Decimal.integer?_nonneg ?_ shape
              rintro rfl
              exact absurd digit (by decide)
          · contradiction
      · split at read
        · unfold namedValue at read
          split at read
          · contradiction
          · next place _ =>
              injection read with same
              have : 0 ≤ kind.least := by
                cases kind <;> decide
              omega
          · contradiction
        · contradiction

/-- The ends of a body are not negative, or both of them are open. -/
theorem parseEnds_nonneg
    {kind : FieldKind}
    {body : List Char}
    {given : Option Int}
    {start stop step : Int}
    (read : parseEnds kind body given = .ok (start, stop, step)) :
    (start = -1 ∧ stop = -1) ∨ (0 ≤ start ∧ 0 ≤ stop) := by
  unfold parseEnds at read
  split at read
  · injection read with shape
    simp only [Prod.mk.injEq] at shape
    exact Or.inl ⟨shape.1.symm, shape.2.1.symm⟩
  · right
    split at read
    · obtain ⟨first, firstRead, read⟩ := exists_of_bind_eq_ok read
      obtain ⟨second, secondRead, read⟩ := exists_of_bind_eq_ok read
      injection read with shape
      simp only [Prod.mk.injEq] at shape
      obtain ⟨rfl, rfl, -⟩ := shape
      exact ⟨parseValue_nonneg firstRead, parseValue_nonneg secondRead⟩
    · obtain ⟨value, valueRead, read⟩ := exists_of_bind_eq_ok read
      have nonnegative := parseValue_nonneg valueRead
      have greatest : 0 ≤ kind.greatest := by
        cases kind <;> decide
      cases given with
      | none =>
          injection read with shape
          simp only [Prod.mk.injEq] at shape
          omega
      | some given =>
          injection read with shape
          simp only [Prod.mk.injEq] at shape
          omega

/-- A term that is read is a span in the field. -/
theorem inField_of_parseTerm
    {kind : FieldKind}
    {term : List Char}
    {span : Span}
    (read : parseTerm kind term = .ok span) :
    span.InField kind := by
  obtain ⟨⟨body, given⟩, -, read⟩ := exists_of_bind_eq_ok read
  obtain ⟨⟨start, stop, step⟩, endsRead, read⟩ := exists_of_bind_eq_ok read
  exact inField_of_spanBetween (parseEnds_nonneg endsRead) read

/-! ### Lists -/

/-- A piece of a list as it is read; a blank one is an error of the whole list. -/
def parsePiece (kind : FieldKind) (whole piece : List Char) : Except ParseError Span :=
  match Text.trim piece with
  | [] => .error (malformed .emptyField kind whole "")
  | term => parseTerm kind term

/-- The pieces of a list are read one after another. -/
theorem parseTerms_eq_mapM
    {kind : FieldKind}
    {whole : List Char}
    {pieces : List (List Char)} :
    parseTerms kind whole pieces = pieces.mapM (parsePiece kind whole) := by
  induction pieces with
  | nil => rfl
  | cons piece pieces inductionHypothesis =>
      rw [List.mapM_cons, ← inductionHypothesis, parseTerms, parsePiece]
      cases Text.trim piece <;> rfl

theorem parsePiece_of_blank
    {kind : FieldKind}
    {whole piece : List Char}
    (blank : Text.trim piece = []) :
    parsePiece kind whole piece = .error (malformed .emptyField kind whole "") := by
  rw [parsePiece, blank]

theorem parsePiece_of_not_blank
    {kind : FieldKind}
    {whole piece : List Char}
    (notBlank : Text.trim piece ≠ []) :
    parsePiece kind whole piece = parseTerm kind (Text.trim piece) := by
  unfold parsePiece
  split
  · next blank => exact absurd blank notBlank
  · rfl

/-- A term without any text would be an empty value. -/
theorem parseTerm_nil (kind : FieldKind) :
    parseTerm kind [] = .error (malformed .emptyField kind [] "") :=
  rfl

theorem parsePiece_eq_ok_iff
    {kind : FieldKind}
    {whole piece : List Char}
    {span : Span} :
    parsePiece kind whole piece = .ok span ↔ parseTerm kind (Text.trim piece) = .ok span := by
  by_cases blank : Text.trim piece = []
  · simp [parsePiece_of_blank blank, blank, parseTerm_nil]
  · rw [parsePiece_of_not_blank blank]

/-- A text without blanks at its ends is read as the list of its pieces, also if it is one piece. -/
theorem parseSpans_eq_parseTerms
    {kind : FieldKind}
    {text : List Char}
    (trimmed : Text.trim text = text)
    (given : text ≠ []) :
    parseSpans kind text = parseTerms kind text (text.splitOn ',') := by
  unfold parseSpans
  split
  · rfl
  · next noComma =>
      rw [List.splitOn_eq_singleton noComma, parseTerms_eq_mapM, List.mapM_cons, List.mapM_nil,
        parsePiece_of_not_blank (trimmed.symm ▸ given), trimmed]
      cases parseTerm kind text <;> rfl

/-- A text that is not blank denotes the set of the spans of its pieces. -/
theorem parseChars_eq
    {kind : FieldKind}
    {text : List Char}
    (notBlank : Text.trim text ≠ []) :
    parseChars kind text =
      (parseTerms kind (Text.trim text) ((Text.trim text).splitOn ',')).map (ofSpans kind) := by
  rw [← parseSpans_eq_parseTerms (Text.trim_trim text) notBlank]
  unfold parseChars
  split
  · next blank => exact absurd blank notBlank
  · rfl

theorem parseChars_of_not_blank
    {kind : FieldKind}
    {text : List Char}
    (notBlank : Text.trim text ≠ [])
    {set : FieldSet} :
    parseChars kind text = .ok set ↔
      ∃ spans,
        parseTerms kind (Text.trim text) ((Text.trim text).splitOn ',') = .ok spans ∧
          ofSpans kind spans = set := by
  rw [parseChars_eq notBlank]
  cases parseTerms kind (Text.trim text) ((Text.trim text).splitOn ',') <;> simp [Except.map]

/-- A text that is a single piece denotes the set of the span of its term. -/
theorem parseChars_of_term
    {kind : FieldKind}
    {text : List Char}
    (notBlank : Text.trim text ≠ [])
    (noComma : ',' ∉ Text.trim text) :
    parseChars kind text =
      (parseTerm kind (Text.trim text)).map fun span => (empty kind).add span := by
  unfold parseChars
  split
  · next blank => exact absurd blank notBlank
  · rw [parseSpans, if_neg noComma]
    cases parseTerm kind (Text.trim text) <;> rfl

theorem parseTerms_eq_ok_iff
    {kind : FieldKind}
    {whole : List Char}
    {pieces : List (List Char)}
    {spans : List Span} :
    parseTerms kind whole pieces = .ok spans ↔
      List.Forall₂ (fun piece span => parseTerm kind (Text.trim piece) = .ok span) pieces spans := by
  simp only [parseTerms_eq_mapM, mapM_eq_ok_iff, parsePiece_eq_ok_iff]

/-- The spans of a list are those of its pieces. -/
theorem mem_of_parseTerms
    {kind : FieldKind}
    {whole : List Char}
    {pieces : List (List Char)}
    {spans : List Span}
    (read : parseTerms kind whole pieces = .ok spans)
    {span : Span} :
    span ∈ spans ↔ ∃ piece ∈ pieces, parseTerm kind (Text.trim piece) = .ok span := by
  have each := parseTerms_eq_ok_iff.mp read
  clear read
  induction each with
  | nil => simp
  | cons firstRead _ inductionHypothesis =>
      rw [List.mem_cons, List.exists_mem_cons_iff, firstRead, Except.ok.injEq]
      exact or_congr eq_comm inductionHypothesis

/-- The terms of a list are spans in the field, one for each piece. -/
theorem inField_of_parseTerms
    {kind : FieldKind}
    {whole : List Char}
    {pieces : List (List Char)}
    {spans : List Span}
    (read : parseTerms kind whole pieces = .ok spans) :
    spans.length = pieces.length ∧ ∀ span ∈ spans, span.InField kind := by
  refine ⟨(parseTerms_eq_ok_iff.mp read).length_eq.symm, fun span member => ?_⟩
  obtain ⟨piece, -, pieceRead⟩ := (mem_of_parseTerms read).mp member
  exact inField_of_parseTerm pieceRead

/-- A text that is not blank has at least one span. -/
theorem spans_ne_nil
    {kind : FieldKind}
    {whole text : List Char}
    {spans : List Span}
    (read : parseTerms kind whole (text.splitOn ',') = .ok spans) :
    spans ≠ [] := by
  rintro rfl
  have lengths := (inField_of_parseTerms read).1
  exact List.splitOn_ne_nil ',' text (List.length_eq_zero_iff.mp lengths.symm)

/-- A text that is not blank and is accepted gives a well-formed set. -/
theorem wellFormed_of_parseChars
    {kind : FieldKind}
    {text : List Char}
    {set : FieldSet}
    (notBlank : Text.trim text ≠ [])
    (read : parseChars kind text = .ok set) :
    set.WellFormed kind := by
  obtain ⟨spans, spansRead, rfl⟩ := (parseChars_of_not_blank notBlank).mp read
  exact wellFormed_ofSpans (spans_ne_nil spansRead) (inField_of_parseTerms spansRead).2

end FieldSet

end Cadence
