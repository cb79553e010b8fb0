import Cadence.Proofs.Words
import Cadence.Proofs.Field.Queries

namespace Cadence

/-!
# Ranges given by their ends

A set can be made from two ends and a step, without any text.  An end may then be
open: a negative one stands for the least value of the field as a start and for
the greatest as an end.  The set permits what is between the ends, and its bounds
are its least and its greatest value, but for one choice of ends.  If the lower
end is open and the upper one is closed but below the field, there is nothing
between them, and yet no error; the empty set that is made then has a first value.

Where both ends are closed, the text of the range makes the same set, or fails
with the same error.
-/

namespace FieldSet

/-! ### What is between two ends -/

/-- Every `step`-th value from the lower end up to the upper one, whichever is given first. -/
def Between (kind : FieldKind) (start stop step value : Int) : Prop :=
  (kind.startAt (min start stop) ≤ value ∧ value ≤ kind.stopAt (max start stop)) ∧
    max step 1 ∣ value - kind.startAt (min start stop)

/-- The lower end is open, and the upper one is closed and below the field. -/
def EndsBelow (kind : FieldKind) (start stop : Int) : Prop :=
  min start stop < 0 ∧ 0 ≤ max start stop ∧ max start stop < kind.least

section Ends

variable {kind : FieldKind} {start stop step : Int} {set : FieldSet}

theorem ofRange_eq_ok_iff :
    ofRange kind start stop step = .ok set ↔
      ((min start stop < 0 ∨ kind.least ≤ min start stop) ∧ max start stop ≤ kind.greatest) ∧
        set =
          (empty kind).add
            ⟨kind.startAt (min start stop), kind.stopAt (max start stop), clampStep kind step⟩ := by
  rw [ofRange]
  constructor
  · intro made
    cases accepted : spanBetween kind start stop step (rangeText start stop step) with
    | error error =>
        rw [accepted] at made
        contradiction
    | ok span =>
        obtain ⟨within, rfl⟩ := spanBetween_eq_ok_iff.mp accepted
        rw [accepted] at made
        exact ⟨within, (Except.ok.inj made).symm⟩
  · rintro ⟨within, rfl⟩
    rw [spanBetween_eq_ok_iff.mpr ⟨within, rfl⟩]
    rfl

/-- Ends that are accepted do not lead out of the field, on either side. -/
theorem least_le_startAt
    (within : min start stop < 0 ∨ kind.least ≤ min start stop) :
    kind.least ≤ kind.startAt (min start stop) := by
  unfold FieldKind.startAt
  split <;> omega

theorem stopAt_le_greatest
    (within : max start stop ≤ kind.greatest) :
    kind.stopAt (max start stop) ≤ kind.greatest := by
  unfold FieldKind.stopAt
  split <;> omega

/-- A set that is made permits what is between the ends. -/
theorem contains_of_ofRange
    (made : ofRange kind start stop step = .ok set)
    (value : Int) :
    set.contains value ↔ Between kind start stop step value := by
  obtain ⟨⟨lower, upper⟩, rfl⟩ := ofRange_eq_ok_iff.mp made
  have fromLeast := least_le_startAt lower
  have toGreatest := stopAt_le_greatest upper
  rw [contains_add, or_iff_right (not_contains_empty kind value),
    covers_clampStep fromLeast toGreatest]
  constructor
  · exact And.right
  · intro between
    have listed : value ∈ kind.values :=
      FieldKind.mem_values.mpr
        ⟨fromLeast.trans between.1.1, between.1.2.trans toGreatest⟩
    exact ⟨listed, between⟩

/-- Where the lower end stands for a value that is not above what the upper one stands for, the set
is canonical. -/
theorem canonical_of_ofRange
    (made : ofRange kind start stop step = .ok set)
    (notBelow : ¬ EndsBelow kind start stop) :
    set.Canonical kind := by
  obtain ⟨⟨lower, upper⟩, rfl⟩ := ofRange_eq_ok_iff.mp made
  have fieldOrdered := kind.least_le_greatest
  have ordered : kind.startAt (min start stop) ≤ kind.stopAt (max start stop) := by
    unfold EndsBelow at notBelow
    unfold FieldKind.startAt FieldKind.stopAt
    split <;> split <;> omega
  exact canonical_single
    { least_le := least_le_startAt lower
      ordered := ordered
      le_greatest := stopAt_le_greatest upper
      step_pos := le_max_left _ _ }

/-- Between an open end and an end below the field there is no value, but a first one is kept. -/
theorem empty_of_endsBelow
    (made : ofRange kind start stop step = .ok set)
    (below : EndsBelow kind start stop) :
    set.isEmpty ∧ set.first = some kind.least := by
  obtain ⟨isOpen, closed, belowLeast⟩ := below
  have starts : kind.startAt (min start stop) = kind.least := if_pos isOpen
  have stops : kind.stopAt (max start stop) = max start stop :=
    FieldKind.stopAt_of_nonneg closed
  constructor
  · apply isEmpty_iff.mpr
    intro value permitted
    have between := (contains_of_ofRange made value).mp permitted
    rw [Between, starts, stops] at between
    omega
  · obtain ⟨-, rfl⟩ := ofRange_eq_ok_iff.mp made
    exact congrArg some starts

end Ends

/-- A set is made from two ends unless the lower one is closed and below the field or the upper one
is above it, and it permits what is between them.  It has a value, and answers exactly what its values
say, but where the upper end is closed and below the field: there it is empty and has a first value
all the same. -/
theorem ofRange_exact_iff
    (kind : FieldKind)
    (start stop step : Int) :
    ((∃ set, ofRange kind start stop step = .ok set) ↔
        (min start stop < 0 ∨ kind.least ≤ min start stop) ∧ max start stop ≤ kind.greatest) ∧
      ∀ set, ofRange kind start stop step = .ok set →
        set.kind = kind ∧
          (∀ value, set.contains value ↔ Between kind start stop step value) ∧
          (set.isEmpty = false ∧ set.Exact ↔ ¬ EndsBelow kind start stop) ∧
          (EndsBelow kind start stop → set.isEmpty ∧ set.first = some kind.least) := by
  constructor
  · simp only [ofRange_eq_ok_iff, exists_and_left, exists_eq, and_true]
  · intro set made
    refine ⟨?_, contains_of_ofRange made, ⟨?_, ?_⟩, empty_of_endsBelow made⟩
    · obtain ⟨-, rfl⟩ := ofRange_eq_ok_iff.mp made
      rfl
    · rintro ⟨nonempty, -⟩ below
      have isEmpty := (empty_of_endsBelow made below).1
      rw [nonempty] at isEmpty
      exact absurd isEmpty Bool.false_ne_true
    · intro notBelow
      have canonical := canonical_of_ofRange made notBelow
      exact ⟨canonical.isEmpty_eq_false, canonical.exact⟩

/-- Every seventh day up to the twentieth. -/
theorem ofRange_exact_weekly :
    ∃ set, ofRange .day (-1) 20 7 = .ok set ∧ set.isEmpty = false ∧ set.Exact ∧
      set.members = [1, 8, 15] ∧ set.lowerBound = 1 ∧ set.upperBound = 15 := by
  have made : ofRange .day (-1) 20 7 = .ok ⟨.day, 16513, some (1, 15)⟩ := by
    decide +kernel
  obtain ⟨-, -, exact_iff, -⟩ := (ofRange_exact_iff .day (-1) 20 7).2 _ made
  have notBelow : ¬ EndsBelow .day (-1) 20 := fun below => absurd below.2.2 (by decide)
  obtain ⟨nonempty, exactly⟩ := exact_iff.mpr notBelow
  exact ⟨_, made, nonempty, exactly, by decide +kernel, rfl, rfl⟩

/-- No day is from the beginning of a month up to day 0; the set of these days has a first one, which
is not among them. -/
theorem ofRange_not_exact_dayZero :
    ∃ set, ofRange .day (-1) 0 1 = .ok set ∧ set.isEmpty ∧ set.first = some 1 ∧
      ¬ IsLeast {value | set.contains value} set.lowerBound ∧
      ¬ IsGreatest {value | set.contains value} set.upperBound := by
  refine ⟨⟨.day, 0, some (1, 0)⟩, by decide +kernel, by decide +kernel, rfl, ?_, ?_⟩
  · intro isLeast
    exact absurd isLeast.1 (by decide)
  · intro isGreatest
    exact absurd isGreatest.1 (by decide)

end FieldSet

/-! ### The text of a range -/

theorem Decimal.mem_write
    {value : Int}
    {c : Char}
    (member : c ∈ write value) :
    c.isDigit ∨ c = '-' := by
  have digits {c : Char} (member : c ∈ Nat.toDigits 10 value.natAbs) : c.isDigit :=
    (writesNatural_toDigits value.natAbs).digits c member
  unfold write at member
  split at member
  · rcases List.mem_cons.mp member with sign | later
    · exact Or.inr sign
    · exact Or.inl (digits later)
  · exact Or.inl (digits member)

namespace FieldSet

/-- Digits, minus signs and a slash are what the text of a range consists of. -/
def IsRangeMark (c : Char) : Prop :=
  c.isDigit ∨ c = '-' ∨ c = '/'

theorem trim_of_rangeMarks
    {text : List Char}
    (marks : ∀ c ∈ text, IsRangeMark c) :
    Text.trim text = text := by
  apply Text.trim_of_ink
  intro c member
  rcases marks c member with digit | rfl | rfl
  · exact Text.not_isBlank_of_isAlphanum (Decimal.isAlphanum_of_isDigit digit)
  · decide
  · decide

theorem isRangeMark_of_mem_write
    {value : Int}
    {c : Char}
    (member : c ∈ Decimal.write value) :
    IsRangeMark c :=
  (Decimal.mem_write member).imp_right Or.inl

theorem isRangeMark_of_mem_body
    {start stop : Int}
    {c : Char}
    (member : c ∈ Decimal.write start ++ '-' :: Decimal.write stop) :
    IsRangeMark c := by
  rcases List.mem_append.mp member with inStart | later
  · exact isRangeMark_of_mem_write inStart
  · rcases List.mem_cons.mp later with dash | inStop
    · exact Or.inr (Or.inl dash)
    · exact isRangeMark_of_mem_write inStop

theorem toList_rangeText
    (start stop step : Int) :
    (rangeText start stop step).toList =
      (Decimal.write start ++ '-' :: Decimal.write stop) ++ '/' :: Decimal.write step := by
  rw [rangeText, String.toList_ofList, List.append_assoc]

theorem isRangeMark_of_mem_rangeText
    {start stop step : Int}
    {c : Char}
    (member : c ∈ (rangeText start stop step).toList) :
    IsRangeMark c := by
  rw [toList_rangeText] at member
  rcases List.mem_append.mp member with inBody | later
  · exact isRangeMark_of_mem_body inBody
  · rcases List.mem_cons.mp later with slash | inStep
    · exact Or.inr (Or.inr slash)
    · exact isRangeMark_of_mem_write inStep

/-- The text of a range with closed ends writes a term: these ends and the step. -/
theorem writesTerm_rangeText
    {kind : FieldKind}
    {start stop step : Int}
    (startFits : 0 ≤ start ∧ start ≤ Decimal.highest)
    (stopFits : 0 ≤ stop ∧ stop ≤ Decimal.highest)
    (stepFits : Decimal.lowest ≤ step ∧ step ≤ Decimal.highest) :
    WritesTerm kind (rangeText start stop step).toList ⟨.range start stop, some step⟩ := by
  have startWrites : WritesValue kind (Decimal.write start) start :=
    writesValue_write startFits.1 startFits.2
  have stopWrites : WritesValue kind (Decimal.write stop) stop :=
    writesValue_write stopFits.1 stopFits.2
  have trimmed (value : Int) : Text.trim (Decimal.write value) = Decimal.write value :=
    trim_of_rangeMarks fun c member => isRangeMark_of_mem_write member
  have body :
      WritesBody kind (Decimal.write start ++ '-' :: Decimal.write stop) (.range start stop) := by
    apply WritesBody.range (WritesBody.value startWrites).ne_nil (startWrites.not_mem (by decide))
    · rwa [trimmed]
    · rwa [trimmed]
  -- Neither number has a slash in it, so the one in front of the step is the first.
  have noSlash : '/' ∉ Decimal.write start ++ '-' :: Decimal.write stop := by
    intro slash
    rcases List.mem_append.mp slash with inStart | later
    · exact absurd (Decimal.mem_write inStart) (by decide)
    · rcases List.mem_cons.mp later with dash | inStop
      · exact absurd dash (by decide)
      · exact absurd (Decimal.mem_write inStop) (by decide)
  rw [toList_rangeText]
  apply WritesTerm.stepped noSlash
  · rwa [trim_of_rangeMarks fun c member => isRangeMark_of_mem_body member]
  · rw [trimmed]
    exact Decimal.writesInteger_write stepFits.1 stepFits.2

/-- A range with closed ends and its text make the same set, or fail with the same error. -/
theorem parse_rangeText
    {kind : FieldKind}
    {start stop step : Int}
    (startFits : 0 ≤ start ∧ start ≤ Decimal.highest)
    (stopFits : 0 ≤ stop ∧ stop ≤ Decimal.highest)
    (stepFits : Decimal.lowest ≤ step ∧ step ≤ Decimal.highest) :
    parse kind (rangeText start stop step) = ofRange kind start stop step := by
  have writes : WritesTerm kind _ _ := writesTerm_rangeText startFits stopFits stepFits
  have trimmed : Text.trim (rangeText start stop step).toList = (rangeText start stop step).toList :=
    trim_of_rangeMarks fun c member => isRangeMark_of_mem_rangeText member
  have noComma : ',' ∉ (rangeText start stop step).toList := by
    intro comma
    have mark := isRangeMark_of_mem_rangeText comma
    unfold IsRangeMark at mark
    exact absurd mark (by decide)
  rw [parse, parseChars_of_term (trimmed.symm ▸ writes.ne_nil) (trimmed.symm ▸ noComma), trimmed,
    parseTerm_of_writes writes, String.ofList_toList]
  rfl

end FieldSet

/-- What is wrong, apart from the text in which it is. -/
def ParseError.cause (error : ParseError) : Fault × Option Int :=
  (error.fault, error.value)

namespace FieldSet

/-- The ends of a range may be exchanged: what is made is the same, and so is what is wrong. -/
theorem ofRange_exchange
    (kind : FieldKind)
    (start stop step : Int) :
    (ofRange kind start stop step).mapError ParseError.cause =
      (ofRange kind stop start step).mapError ParseError.cause := by
  simp only [ofRange, spanBetween_eq, min_comm stop start, max_comm stop start]
  split
  · rfl
  · split <;> rfl

/-- Two closed ends and a step make what their text makes, whether that is a set or an error, and
exchanging the ends changes at most the text that an error quotes. -/
theorem ofRange_eq_parse_and_exchange
    {kind : FieldKind}
    {start stop step : Int}
    (startFits : 0 ≤ start ∧ start ≤ Decimal.highest)
    (stopFits : 0 ≤ stop ∧ stop ≤ Decimal.highest)
    (stepFits : Decimal.lowest ≤ step ∧ step ≤ Decimal.highest) :
    ofRange kind start stop step = parse kind (rangeText start stop step) ∧
      (ofRange kind start stop step).mapError ParseError.cause =
        (ofRange kind stop start step).mapError ParseError.cause ∧
      (parse kind (rangeText start stop step)).mapError ParseError.cause =
        (parse kind (rangeText stop start step)).mapError ParseError.cause := by
  have exchange := ofRange_exchange kind start stop step
  refine ⟨(parse_rangeText startFits stopFits stepFits).symm, exchange, ?_⟩
  rw [parse_rangeText startFits stopFits stepFits, parse_rangeText stopFits startFits stepFits]
  exact exchange

/-- Both ends are out of the field, and the step counts down. -/
theorem ofRange_eq_parse_and_exchange_day :
    parse .day "40-0/-3" =
        .error ⟨.valueBelowMinimum, some .day, "40-0/-3", some 0, ""⟩ ∧
      ofRange .day 40 0 (-3) = parse .day "40-0/-3" ∧
      (parse .day "40-0/-3").mapError ParseError.cause =
        (parse .day "0-40/-3").mapError ParseError.cause := by
  obtain ⟨same, -, exchange⟩ :=
    @ofRange_eq_parse_and_exchange .day 40 0 (-3) (by decide) (by decide) (by decide)
  exact ⟨by decide +kernel, same, exchange⟩

end FieldSet

end Cadence
