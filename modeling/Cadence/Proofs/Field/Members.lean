import Cadence.Field.Set
import Mathlib.Order.Bounds.Basic

namespace Cadence

/-!
# Members of field sets

What a field set answers, in terms of the values that it permits: the members of
a set are the values of the spans added to it, `next` finds the least member
from a start on, and `first` is the least member of every set of spans that
begin in the field.
-/

namespace FieldKind

theorem greatest_eq (kind : FieldKind) :
    kind.greatest = kind.least + kind.count - 1 := by
  cases kind <;> rfl

/-- The listed values of a field are those of its range. -/
theorem mem_values
    {kind : FieldKind}
    {value : Int} :
    value ∈ kind.values ↔ kind.least ≤ value ∧ value ≤ kind.greatest := by
  simp only [values, List.mem_map, List.mem_range, greatest_eq]
  constructor
  · rintro ⟨place, inRange, rfl⟩
    omega
  · rintro ⟨lower, upper⟩
    exact ⟨(value - kind.least).toNat, by omega, by omega⟩

theorem values_increasing (kind : FieldKind) :
    kind.values.Pairwise (· < ·) := by
  rw [values, List.pairwise_map]
  exact List.pairwise_lt_range.imp (by omega)

end FieldKind

namespace FieldSet

theorem contains_iff
    {set : FieldSet}
    {value : Int} :
    set.contains value ↔
      value ∈ set.kind.values ∧
        set.mask.testBit (value - set.kind.least).toNat := by
  simp [contains, FieldKind.mem_values]

theorem mem_values_of_contains
    {set : FieldSet}
    {value : Int}
    (permitted : set.contains value) :
    value ∈ set.kind.values :=
  (contains_iff.mp permitted).1

/-! ### The next member -/

/-- What `next` finds is the least member from the start on. -/
theorem isLeast_of_next
    {set : FieldSet}
    {start value : Int}
    (found : set.next start = some value) :
    IsLeast {member | start ≤ member ∧ set.contains member} value := by
  obtain ⟨accepted, before, after, valuesShape, refused⟩ :=
    List.find?_eq_some_iff_append.mp found
  simp only [Bool.and_eq_true, decide_eq_true_eq] at accepted
  refine ⟨accepted, ?_⟩
  rintro member ⟨fromStart, permitted⟩
  have listed := mem_values_of_contains permitted
  have increasing := set.kind.values_increasing
  rw [valuesShape] at listed increasing
  rcases List.mem_append.mp listed with inBefore | inRest
  · have := refused member inBefore
    simp [fromStart, permitted] at this
  · rcases List.mem_cons.mp inRest with same | inAfter
    · exact le_of_eq same.symm
    · have tail := (List.pairwise_append.mp increasing).2.1
      exact le_of_lt ((List.pairwise_cons.mp tail).1 member inAfter)

/-- Where `next` finds nothing, every member is below the start. -/
theorem lt_of_next_eq_none
    {set : FieldSet}
    {start member : Int}
    (missed : set.next start = none)
    (permitted : set.contains member) :
    member < start := by
  have refused :=
    List.find?_eq_none.mp missed member (mem_values_of_contains permitted)
  simp only [permitted, Bool.and_true, decide_eq_true_eq] at refused
  omega

/-! ### The members of spans -/

/-- The fold that adds a span to a mask, over any part of the values. -/
private theorem testBit_foldl_covers
    {kind : FieldKind}
    {value : Int}
    (lower : kind.least ≤ value)
    (span : Span)
    {part : List Int}
    (lowers : ∀ other ∈ part, kind.least ≤ other)
    (mask : Nat) :
    (part.foldl
        (fun mask other =>
          if span.Covers other then
            mask ||| 1 <<< (other - kind.least).toNat
          else
            mask)
        mask).testBit (value - kind.least).toNat ↔
      mask.testBit (value - kind.least).toNat ∨
        (value ∈ part ∧ span.Covers value) := by
  induction part generalizing mask with
  | nil =>
      simp
  | cons other rest inductionHypothesis =>
      have otherLower := lowers other (by simp)
      have samePlace :
          (other - kind.least).toNat = (value - kind.least).toNat ↔
            value = other := by
        omega
      rw [List.foldl_cons,
        inductionHypothesis
          (fun third member => lowers third (by simp [member]))]
      simp only [List.mem_cons]
      by_cases covered : span.Covers other
      · have newBit :
            (mask ||| 1 <<< (other - kind.least).toNat).testBit
                (value - kind.least).toNat ↔
              mask.testBit (value - kind.least).toNat ∨ value = other := by
          rw [← samePlace, Nat.one_shiftLeft]
          simp [Nat.testBit_two_pow]
        rw [if_pos covered, newBit]
        constructor
        · rintro ((old | rfl) | ⟨inRest, alsoCovered⟩)
          · exact Or.inl old
          · exact Or.inr ⟨Or.inl rfl, covered⟩
          · exact Or.inr ⟨Or.inr inRest, alsoCovered⟩
        · rintro (old | ⟨same | inRest, alsoCovered⟩)
          · exact Or.inl (Or.inl old)
          · exact Or.inl (Or.inr same)
          · exact Or.inr ⟨inRest, alsoCovered⟩
      · rw [if_neg covered]
        constructor
        · rintro (old | ⟨inRest, alsoCovered⟩)
          · exact Or.inl old
          · exact Or.inr ⟨Or.inr inRest, alsoCovered⟩
        · rintro (old | ⟨rfl | inRest, alsoCovered⟩)
          · exact Or.inl old
          · exact (covered alsoCovered).elim
          · exact Or.inr ⟨inRest, alsoCovered⟩

/-- Adding a span to a mask adds a bit for every value that the span covers. -/
theorem testBit_maskWith
    {kind : FieldKind}
    {value : Int}
    (listed : value ∈ kind.values)
    (span : Span)
    (mask : Nat) :
    (maskWith kind span mask).testBit (value - kind.least).toNat ↔
      mask.testBit (value - kind.least).toNat ∨ span.Covers value := by
  rw [maskWith,
    testBit_foldl_covers
      (FieldKind.mem_values.mp listed).1 span
      (fun other member => (FieldKind.mem_values.mp member).1)]
  simp [listed]

theorem contains_add
    {set : FieldSet}
    {span : Span}
    {value : Int} :
    (set.add span).contains value ↔
      value ∈ set.kind.values ∧ (set.contains value ∨ span.Covers value) := by
  simp only [contains_iff, add]
  constructor
  · rintro ⟨listed, bit⟩
    have permitted := (testBit_maskWith listed span set.mask).mp bit
    exact ⟨listed, permitted.imp (⟨listed, ·⟩) id⟩
  · rintro ⟨listed, permitted⟩
    refine ⟨listed, (testBit_maskWith listed span set.mask).mpr ?_⟩
    exact permitted.imp And.right id

theorem not_contains_empty
    (kind : FieldKind)
    (value : Int) :
    ¬ (empty kind).contains value := by
  simp [contains_iff, empty]

end FieldSet

/-! ### Sets of spans that begin in the field -/

/-- A span that begins and ends in the range of a field, the one not after the other. -/
structure Span.InField (kind : FieldKind) (span : Span) : Prop where
  least_le : kind.least ≤ span.first
  ordered : span.first ≤ span.last
  le_greatest : span.last ≤ kind.greatest

namespace Span.InField

variable {kind : FieldKind} {span : Span}

theorem first_mem
    (inField : span.InField kind) :
    span.first ∈ kind.values :=
  FieldKind.mem_values.mpr
    ⟨inField.least_le, inField.ordered.trans inField.le_greatest⟩

theorem covers_first
    (inField : span.InField kind) :
    span.Covers span.first :=
  ⟨le_refl _, inField.ordered, by simp⟩

end Span.InField

namespace FieldSet

/-- A set of a kind whose lower bound is its least member; so it has members. -/
structure WellFormed (kind : FieldKind) (set : FieldSet) : Prop where
  kind_eq : set.kind = kind
  first_isLeast :
    ∃ value,
      set.first = some value ∧ IsLeast {member | set.contains member} value

/-- A set with a single span in the field is well formed. -/
theorem WellFormed.single
    {kind : FieldKind}
    {span : Span}
    (inField : span.InField kind) :
    ((empty kind).add span).WellFormed kind where
  kind_eq := rfl
  first_isLeast := by
    refine ⟨span.first, rfl, ?_, ?_⟩
    · exact contains_add.mpr
        ⟨inField.first_mem, Or.inr inField.covers_first⟩
    · intro member permitted
      rcases (contains_add.mp permitted).2 with inEmpty | covered
      · exact (not_contains_empty kind member inEmpty).elim
      · exact covered.1

/-- A well-formed set stays so when a span in the field is added. -/
theorem WellFormed.add
    {kind : FieldKind}
    {set : FieldSet}
    {span : Span}
    (wellFormed : set.WellFormed kind)
    (inField : span.InField kind) :
    (set.add span).WellFormed kind where
  kind_eq := wellFormed.kind_eq
  first_isLeast := by
    obtain ⟨kindShape, value, firstShape, permitted, least⟩ := wellFormed
    subst kindShape
    obtain ⟨⟨lowest, highest⟩, boundsShape, rfl⟩ :=
      Option.map_eq_some_iff.mp firstShape
    refine ⟨min lowest span.first, ?_, ?_, ?_⟩
    · simp [first, FieldSet.add, boundsShape]
    · rcases le_total lowest span.first with isOld | isNew
      · rw [min_eq_left isOld]
        exact contains_add.mpr
          ⟨mem_values_of_contains permitted, Or.inl permitted⟩
      · rw [min_eq_right isNew]
        exact contains_add.mpr
          ⟨inField.first_mem, Or.inr inField.covers_first⟩
    · intro member added
      rcases (contains_add.mp added).2 with old | covered
      · exact (min_le_left _ _).trans (least old)
      · exact (min_le_right _ _).trans covered.1

/-- The set of at least one span, all of them in the field, is well formed. -/
theorem wellFormed_ofSpans
    {kind : FieldKind}
    {spans : List Span}
    (given : spans ≠ [])
    (inField : ∀ span ∈ spans, span.InField kind) :
    (ofSpans kind spans).WellFormed kind := by
  cases spans with
  | nil =>
      exact (given rfl).elim
  | cons span rest =>
      have start := WellFormed.single (inField span (by simp))
      have restInField : ∀ other ∈ rest, other.InField kind :=
        fun other member => inField other (by simp [member])
      clear given inField
      unfold ofSpans
      rw [List.foldl_cons]
      generalize (empty kind).add span = set at start ⊢
      induction rest generalizing set with
      | nil =>
          exact start
      | cons other others inductionHypothesis =>
          exact inductionHypothesis
            (fun third member => restInField third (by simp [member]))
            ((set).add other)
            (start.add (restInField other (by simp)))

end FieldSet

end Cadence
