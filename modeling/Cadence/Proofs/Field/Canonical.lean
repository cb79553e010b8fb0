import Cadence.Proofs.Field.Denotation

namespace Cadence

/-!
# Sets that their values determine

A set that a text denotes keeps no more than its values: its mask has no place
beyond the values of the field, and its bounds are its least and its greatest
value.  So two such sets of one kind are equal if they permit the same values,
however the texts grouped them into terms.
-/

/-- A span that begins and ends in the range of a field and goes on by at least 1. -/
structure Span.Regular (kind : FieldKind) (span : Span) : Prop extends span.InField kind where
  step_pos : 1 ≤ span.step

namespace Span.Regular

variable {kind : FieldKind} {span : Span}

/-- What the steps of a span reach is its greatest value. -/
theorem isGreatest_reached
    (regular : span.Regular kind) :
    IsGreatest {value | span.Covers value} span.reached := by
  have distance_nonneg : 0 ≤ span.last - span.first := by
    have := regular.ordered
    omega
  have steps :
      span.reached = span.first + (span.last - span.first) / span.step * span.step := by
    rw [reached, Int.tdiv_eq_ediv_of_nonneg distance_nonneg]
  have step_pos : 0 < span.step := regular.step_pos
  rw [steps]
  refine ⟨⟨?_, ?_, ?_⟩, ?_⟩
  · have := Int.mul_nonneg (Int.ediv_nonneg distance_nonneg step_pos.le) step_pos.le
    omega
  · have := Int.ediv_mul_le (span.last - span.first) step_pos.ne'
    omega
  · rw [Int.add_comm, Int.add_sub_cancel, Int.mul_emod_left]
  · rintro value ⟨-, toLast, multiple⟩
    obtain ⟨times, distance⟩ := Int.dvd_of_emod_eq_zero multiple
    have fits : times ≤ (span.last - span.first) / span.step := by
      apply (Int.le_ediv_iff_mul_le step_pos).mpr
      rw [Int.mul_comm, ← distance]
      omega
    have := Int.mul_le_mul_of_nonneg_right fits step_pos.le
    rw [Int.mul_comm times, ← distance] at this
    omega

theorem reached_mem
    (regular : span.Regular kind) :
    span.reached ∈ kind.values := by
  obtain ⟨fromFirst, toLast, -⟩ := regular.isGreatest_reached.1
  exact FieldKind.mem_values.mpr
    ⟨regular.least_le.trans fromFirst, toLast.trans regular.le_greatest⟩

end Span.Regular

namespace FieldSet

/-- The span of a term with values in range is regular. -/
theorem regular_of_parseTerm
    {kind : FieldKind}
    {text : List Char}
    {span : Span}
    (read : parseTerm kind text = .ok span) :
    span.Regular kind where
  toInField := inField_of_parseTerm read
  step_pos := by
    obtain ⟨⟨body, step⟩, -, rfl⟩ := parseTerm_eq_ok_iff_isTerm.mp read
    have atLeastOne (given : Int) : 1 ≤ clampStep kind given := le_max_left _ _
    cases body with
    | star => exact atLeastOne _
    | value => cases step <;> exact atLeastOne _
    | range => exact atLeastOne _

/-! ### Masks -/

/-- Adding values of the field to a mask sets no other place. -/
private theorem testBit_foldl_beyond
    {kind : FieldKind}
    {span : Span}
    {place : Nat}
    (beyond : kind.count ≤ place)
    {part : List Int}
    (listed : ∀ value ∈ part, value ∈ kind.values)
    {mask : Nat}
    (unset : mask.testBit place = false) :
    (part.foldl
        (fun mask value =>
          if span.Covers value then mask ||| 1 <<< (value - kind.least).toNat else mask)
        mask).testBit place = false := by
  induction part generalizing mask with
  | nil => exact unset
  | cons value part inductionHypothesis =>
      rw [List.foldl_cons]
      apply inductionHypothesis fun other member => listed other (List.mem_cons_of_mem value member)
      split
      · have bounds := FieldKind.mem_values.mp (listed value List.mem_cons_self)
        have size := kind.greatest_eq
        have otherPlace : (value - kind.least).toNat ≠ place := by omega
        rw [Nat.testBit_or, unset, Nat.one_shiftLeft, Nat.testBit_two_pow, Bool.false_or]
        simpa using otherPlace
      · exact unset

theorem testBit_maskWith_beyond
    {kind : FieldKind}
    (span : Span)
    {place : Nat}
    (beyond : kind.count ≤ place)
    {mask : Nat}
    (unset : mask.testBit place = false) :
    (maskWith kind span mask).testBit place = false :=
  testBit_foldl_beyond beyond (fun _ member => member) unset

/-! ### Canonical sets -/

/-- A set that keeps no more than its values, of which it has some. -/
structure Canonical (kind : FieldKind) (set : FieldSet) : Prop where
  kind_eq : set.kind = kind
  inRange : ∀ place, kind.count ≤ place → set.mask.testBit place = false
  bounds :
    ∃ lowest highest,
      set.bounds = some (lowest, highest) ∧
        IsLeast {value | set.contains value} lowest ∧
        IsGreatest {value | set.contains value} highest

namespace Canonical

variable {kind : FieldKind} {set other : FieldSet}

theorem lowerBound_isLeast
    (canonical : set.Canonical kind) :
    IsLeast {value | set.contains value} set.lowerBound := by
  obtain ⟨lowest, highest, shape, isLeast, -⟩ := canonical.bounds
  simpa [lowerBound, shape] using isLeast

theorem upperBound_isGreatest
    (canonical : set.Canonical kind) :
    IsGreatest {value | set.contains value} set.upperBound := by
  obtain ⟨lowest, highest, shape, -, isGreatest⟩ := canonical.bounds
  simpa [upperBound, shape] using isGreatest

theorem first_eq
    (canonical : set.Canonical kind) :
    set.first = some set.lowerBound := by
  obtain ⟨lowest, highest, shape, -⟩ := canonical.bounds
  simp [first, lowerBound, shape]

/-- A canonical set has a value. -/
theorem isEmpty_eq_false
    (canonical : set.Canonical kind) :
    set.isEmpty = false := by
  have permitted := canonical.lowerBound_isLeast.1
  have member : set.lowerBound ∈ set.members :=
    List.mem_filter.mpr ⟨mem_values_of_contains permitted, permitted⟩
  rw [isEmpty, List.isEmpty_eq_false_iff_exists_mem]
  exact ⟨_, member⟩

/-- Canonical sets of one kind that permit the same values are equal. -/
theorem ext
    (canonical : set.Canonical kind)
    (otherCanonical : other.Canonical kind)
    (same : ∀ value, set.contains value ↔ other.contains value) :
    set = other := by
  obtain ⟨lowest, highest, bounds, isLeast, isGreatest⟩ := canonical.bounds
  obtain ⟨otherLowest, otherHighest, otherBounds, otherLeast, otherGreatest⟩ :=
    otherCanonical.bounds
  have sameValues : {value | set.contains value} = {value | other.contains value} := by
    ext value
    exact same value
  rw [sameValues] at isLeast isGreatest
  obtain rfl := isLeast.unique otherLeast
  obtain rfl := isGreatest.unique otherGreatest
  have sameMask : set.mask = other.mask := by
    apply Nat.eq_of_testBit_eq
    intro place
    by_cases inside : place < kind.count
    · -- The place stands for a value of the field.
      have listed : kind.least + place ∈ kind.values := by
        have size := kind.greatest_eq
        exact FieldKind.mem_values.mpr (by omega)
      have samePlace : (kind.least + place - kind.least).toNat = place := by omega
      have bits := same (kind.least + place)
      simp only [contains_iff, canonical.kind_eq, otherCanonical.kind_eq, listed, true_and,
        samePlace] at bits
      exact Bool.eq_iff_iff.mpr bits
    · have beyond : kind.count ≤ place := Nat.le_of_not_lt inside
      rw [canonical.inRange place beyond, otherCanonical.inRange place beyond]
  have sameKind := canonical.kind_eq.trans otherCanonical.kind_eq.symm
  have sameBounds := bounds.trans otherBounds.symm
  obtain ⟨kind, mask, bounds⟩ := set
  obtain ⟨otherKind, otherMask, otherBounds⟩ := other
  simp only [FieldSet.mk.injEq]
  exact ⟨sameKind, sameMask, sameBounds⟩

end Canonical

/-! ### Sets of spans -/

/-- The set of a single regular span is canonical. -/
theorem canonical_single
    {kind : FieldKind}
    {span : Span}
    (regular : span.Regular kind) :
    ((empty kind).add span).Canonical kind where
  kind_eq := rfl
  inRange := fun place beyond => testBit_maskWith_beyond span beyond (Nat.zero_testBit place)
  bounds := by
    have greatest := regular.isGreatest_reached
    refine ⟨span.first, span.reached, rfl, ⟨?_, ?_⟩, ?_, ?_⟩
    · exact contains_add.mpr ⟨regular.first_mem, Or.inr regular.covers_first⟩
    · intro value permitted
      rcases (contains_add.mp permitted).2 with inEmpty | covered
      · exact absurd inEmpty (not_contains_empty kind value)
      · exact covered.1
    · exact contains_add.mpr ⟨regular.reached_mem, Or.inr greatest.1⟩
    · intro value permitted
      rcases (contains_add.mp permitted).2 with inEmpty | covered
      · exact absurd inEmpty (not_contains_empty kind value)
      · exact greatest.2 covered

/-- A canonical set stays so when a regular span is added. -/
theorem Canonical.add
    {kind : FieldKind}
    {set : FieldSet}
    {span : Span}
    (canonical : set.Canonical kind)
    (regular : span.Regular kind) :
    (set.add span).Canonical kind := by
  obtain ⟨rfl, inRange, lowest, highest, bounds, isLeast, isGreatest⟩ := canonical
  have greatest := regular.isGreatest_reached
  have keeps {value : Int} (permitted : set.contains value) : (set.add span).contains value :=
    contains_add.mpr ⟨mem_values_of_contains permitted, Or.inl permitted⟩
  have stillInRange (place : Nat) (beyond : set.kind.count ≤ place) :
      (set.add span).mask.testBit place = false :=
    testBit_maskWith_beyond span beyond (inRange place beyond)
  refine ⟨rfl, stillInRange, min lowest span.first, max highest span.reached,
    by simp [FieldSet.add, bounds], ⟨?_, ?_⟩, ?_, ?_⟩
  · rcases le_total lowest span.first with old | new
    · rw [min_eq_left old]
      exact keeps isLeast.1
    · rw [min_eq_right new]
      exact contains_add.mpr ⟨regular.first_mem, Or.inr regular.covers_first⟩
  · intro value permitted
    rcases (contains_add.mp permitted).2 with before | covered
    · exact (min_le_left _ _).trans (isLeast.2 before)
    · exact (min_le_right _ _).trans covered.1
  · rcases le_total span.reached highest with old | new
    · rw [max_eq_left old]
      exact keeps isGreatest.1
    · rw [max_eq_right new]
      exact contains_add.mpr ⟨regular.reached_mem, Or.inr greatest.1⟩
  · intro value permitted
    rcases (contains_add.mp permitted).2 with before | covered
    · exact (isGreatest.2 before).trans (le_max_left _ _)
    · exact (greatest.2 covered).trans (le_max_right _ _)

theorem Canonical.foldl_add
    {kind : FieldKind}
    {set : FieldSet}
    {spans : List Span}
    (canonical : set.Canonical kind)
    (regular : ∀ span ∈ spans, span.Regular kind) :
    (spans.foldl FieldSet.add set).Canonical kind := by
  induction spans generalizing set with
  | nil => exact canonical
  | cons span spans inductionHypothesis =>
      apply inductionHypothesis (canonical.add (regular span List.mem_cons_self))
      exact fun other member => regular other (List.mem_cons_of_mem span member)

/-- The set of at least one span, all of them regular, is canonical. -/
theorem canonical_ofSpans
    {kind : FieldKind}
    {spans : List Span}
    (given : spans ≠ [])
    (regular : ∀ span ∈ spans, span.Regular kind) :
    (ofSpans kind spans).Canonical kind := by
  cases spans with
  | nil => exact absurd rfl given
  | cons span spans =>
      apply Canonical.foldl_add (canonical_single (regular span List.mem_cons_self))
      exact fun other member => regular other (List.mem_cons_of_mem span member)

/-- A text that is not blank and is accepted gives a canonical set. -/
theorem canonical_of_parseChars
    {kind : FieldKind}
    {text : List Char}
    {set : FieldSet}
    (notBlank : Text.trim text ≠ [])
    (read : parseChars kind text = .ok set) :
    set.Canonical kind := by
  obtain ⟨spans, spansRead, rfl⟩ := (parseChars_of_not_blank notBlank).mp read
  apply canonical_ofSpans (spans_ne_nil spansRead)
  intro span member
  obtain ⟨piece, -, pieceRead⟩ := (mem_of_parseTerms spansRead).mp member
  exact regular_of_parseTerm pieceRead

/-- A text is read as the empty set if it is blank, and as a canonical set if not. -/
theorem empty_or_canonical
    {kind : FieldKind}
    {text : List Char}
    {set : FieldSet}
    (read : parseChars kind text = .ok set) :
    (Text.trim text = [] ∧ set = empty kind) ∨ (Text.trim text ≠ [] ∧ set.Canonical kind) := by
  by_cases blank : Text.trim text = []
  · exact Or.inl ⟨blank, Except.ok.inj (read.symm.trans (parseChars_of_blank blank))⟩
  · exact Or.inr ⟨blank, canonical_of_parseChars blank read⟩

/-- Sets of one kind that are read are equal if they permit the same values. -/
theorem eq_of_contains
    {kind : FieldKind}
    {text otherText : List Char}
    {set other : FieldSet}
    (read : parseChars kind text = .ok set)
    (otherRead : parseChars kind otherText = .ok other)
    (same : ∀ value, set.contains value ↔ other.contains value) :
    set = other := by
  rcases empty_or_canonical read with ⟨-, rfl⟩ | ⟨-, canonical⟩
  · rcases empty_or_canonical otherRead with ⟨-, rfl⟩ | ⟨-, otherCanonical⟩
    · rfl
    · have permitted := (same _).mpr otherCanonical.lowerBound_isLeast.1
      exact absurd permitted (not_contains_empty kind _)
  · rcases empty_or_canonical otherRead with ⟨-, rfl⟩ | ⟨-, otherCanonical⟩
    · have permitted := (same _).mp canonical.lowerBound_isLeast.1
      exact absurd permitted (not_contains_empty kind _)
    · exact canonical.ext otherCanonical same

theorem contains_of_same
    {set other : FieldSet}
    (same : set.same other)
    (value : Int) :
    set.contains value ↔ other.contains value := by
  simp only [FieldSet.same, Bool.and_eq_true, beq_iff_eq] at same
  rw [contains, contains, same.1, same.2]

end FieldSet

end Cadence
