import Cadence.Proofs.Field.Grammar

namespace Cadence

/-!
# What a field denotes

A text is accepted for a field if and only if it is blank or each of its pieces
between commas writes a term whose values are in the range of the field.  The set
that it denotes permits the values that some term covers.  The reader limits a
step to the number of values of the field; that changes no set, because a longer
step already leads out of the field.
-/

/-! ### Terms -/

/-- A text that writes a term whose values are in the range of the field. -/
structure IsTerm (kind : FieldKind) (text : List Char) (term : FieldTerm) : Prop where
  writes : WritesTerm kind text term
  inRange : ∀ value ∈ term.body.values, kind.least ≤ value ∧ value ≤ kind.greatest

namespace FieldTerm

/-- The distance of the values that a term covers: its step, but 1 at least. -/
def stride (term : FieldTerm) : Int :=
  max (term.step.getD 1) 1

/-- The values that a term covers.  A value without a step covers itself only, and with a step also
what follows up to the greatest value.  The ends of a range may come in either order. -/
def Covers (kind : FieldKind) (term : FieldTerm) (value : Int) : Prop :=
  match term.body, term.step with
  | .star, _ =>
      (kind.least ≤ value ∧ value ≤ kind.greatest) ∧ term.stride ∣ value - kind.least
  | .value only, none => value = only
  | .value start, some _ =>
      (start ≤ value ∧ value ≤ kind.greatest) ∧ term.stride ∣ value - start
  | .range left right, _ =>
      (min left right ≤ value ∧ value ≤ max left right) ∧ term.stride ∣ value - min left right

/-- The span as which a term is read. -/
def span (kind : FieldKind) : FieldTerm → Span
  | ⟨.star, step⟩ => ⟨kind.least, kind.greatest, FieldSet.clampStep kind (step.getD 1)⟩
  | ⟨.value only, none⟩ => ⟨only, only, FieldSet.clampStep kind 1⟩
  | ⟨.value start, some step⟩ => ⟨start, kind.greatest, FieldSet.clampStep kind step⟩
  | ⟨.range left right, step⟩ =>
      ⟨min left right, max left right, FieldSet.clampStep kind (step.getD 1)⟩

end FieldTerm

namespace FieldSet

/-- A step longer than the field reaches the first value only, as the limited one does. -/
theorem covers_clampStep
    {kind : FieldKind}
    {first last step value : Int}
    (fromLeast : kind.least ≤ first)
    (toGreatest : last ≤ kind.greatest) :
    (Span.mk first last (clampStep kind step)).Covers value ↔
      (first ≤ value ∧ value ≤ last) ∧ max step 1 ∣ value - first := by
  have size := kind.greatest_eq
  simp only [Span.Covers, clampStep, ← Int.dvd_iff_emod_eq_zero, ← and_assoc]
  refine and_congr_right fun ⟨fromFirst, toLast⟩ => ?_
  by_cases short : step ≤ kind.count
  · rw [min_eq_left short, max_comm]
  · -- Both steps are longer than the distance, which only 0 is a multiple of then.
    have onlyFirst {stride : Int} (long : value - first < stride) :
        stride ∣ value - first ↔ value - first = 0 := by
      constructor
      · intro divides
        by_contra notFirst
        have := Int.le_of_dvd (by omega) divides
        omega
      · intro same
        rw [same]
        exact Int.dvd_zero stride
    rw [onlyFirst (by omega), onlyFirst (by omega)]

/-- The span of a term whose values are in range covers what the term covers. -/
theorem covers_span
    {kind : FieldKind}
    {term : FieldTerm}
    (inRange : ∀ value ∈ term.body.values, kind.least ≤ value ∧ value ≤ kind.greatest)
    (value : Int) :
    (term.span kind).Covers value ↔ term.Covers kind value := by
  obtain ⟨body, step⟩ := term
  cases body with
  | star => exact covers_clampStep (le_refl _) (le_refl _)
  | value start =>
      have startInRange := inRange start (by simp [FieldBody.values])
      cases step with
      | none =>
          simp only [FieldTerm.span, FieldTerm.Covers,
            covers_clampStep startInRange.1 startInRange.2]
          constructor
          · rintro ⟨bounds, -⟩
            omega
          · rintro rfl
            simp
      | some step => exact covers_clampStep startInRange.1 (le_refl _)
  | range left right =>
      have leftInRange := inRange left (by simp [FieldBody.values])
      have rightInRange := inRange right (by simp [FieldBody.values])
      exact covers_clampStep (by omega) (by omega)

/-! ### Reading terms -/

/-- Two ends that are not negative are accepted if they are in range, in either order. -/
theorem spanBetween_closed
    {kind : FieldKind}
    {start stop step : Int}
    {expression : String}
    {span : Span}
    (startNonneg : 0 ≤ start)
    (stopNonneg : 0 ≤ stop) :
    spanBetween kind start stop step expression = .ok span ↔
      (kind.least ≤ min start stop ∧ max start stop ≤ kind.greatest) ∧
        span = ⟨min start stop, max start stop, clampStep kind step⟩ := by
  have low : 0 ≤ min start stop := by omega
  have high : 0 ≤ max start stop := by omega
  rw [spanBetween_eq_ok_iff, or_iff_right (Int.not_lt.mpr low),
    FieldKind.startAt_of_nonneg low, FieldKind.stopAt_of_nonneg high]

/-- Between the ends of a term its span is read, if the values of the term are in range. -/
theorem spanBetween_ends
    {kind : FieldKind}
    {term : FieldTerm}
    {expression : String}
    {span : Span}
    (nonneg : ∀ value ∈ term.body.values, 0 ≤ value) :
    spanBetween kind (term.ends kind).1 (term.ends kind).2.1 (term.ends kind).2.2 expression =
        .ok span ↔
      (∀ value ∈ term.body.values, kind.least ≤ value ∧ value ≤ kind.greatest) ∧
        span = term.span kind := by
  have greatestNonneg : kind.least ≤ kind.greatest ∧ 0 ≤ kind.greatest := by
    cases kind <;> decide
  obtain ⟨body, step⟩ := term
  cases body with
  | star => simp [FieldTerm.ends, FieldTerm.span, FieldBody.values, spanBetween, eq_comm]
  | value start =>
      simp only [FieldBody.values, List.mem_singleton, forall_eq] at nonneg ⊢
      cases step with
      | none =>
          simp only [FieldTerm.ends, FieldTerm.span, spanBetween_closed nonneg nonneg, min_self,
            max_self]
      | some step =>
          simp only [FieldTerm.ends, FieldTerm.span, spanBetween_closed nonneg greatestNonneg.2]
          constructor
          · rintro ⟨bounds, shape⟩
            have upTo : start ≤ kind.greatest := by omega
            rw [min_eq_left upTo, max_eq_right upTo] at shape
            exact ⟨by omega, shape⟩
          · rintro ⟨bounds, shape⟩
            rw [min_eq_left bounds.2, max_eq_right bounds.2]
            exact ⟨by omega, shape⟩
  | range left right =>
      simp only [FieldBody.values, List.mem_cons, List.not_mem_nil, or_false, forall_eq_or_imp,
        forall_eq] at nonneg ⊢
      simp only [FieldTerm.ends, FieldTerm.span, spanBetween_closed nonneg.1 nonneg.2]
      refine and_congr_left fun _ => ?_
      omega

/-- A text is read as the span of a term that it writes, with values in range. -/
theorem parseTerm_eq_ok_iff_isTerm
    {kind : FieldKind}
    {text : List Char}
    {span : Span} :
    parseTerm kind text = .ok span ↔ ∃ term, IsTerm kind text term ∧ span = term.span kind := by
  rw [parseTerm_eq_ok_iff]
  constructor
  · rintro ⟨term, writes, accepted⟩
    obtain ⟨inRange, shape⟩ := (spanBetween_ends writes.nonneg).mp accepted
    exact ⟨term, ⟨writes, inRange⟩, shape⟩
  · rintro ⟨term, ⟨writes, inRange⟩, shape⟩
    exact ⟨term, writes, (spanBetween_ends writes.nonneg).mpr ⟨inRange, shape⟩⟩

/-! ### Reading lists -/

/-- A list is accepted if and only if each of its pieces is. -/
theorem exists_parseTerms_iff
    {kind : FieldKind}
    {whole : List Char}
    {pieces : List (List Char)} :
    (∃ spans, parseTerms kind whole pieces = .ok spans) ↔
      ∀ piece ∈ pieces, ∃ span, parseTerm kind (Text.trim piece) = .ok span := by
  simp only [parseTerms_eq_mapM, exists_mapM_eq_ok_iff, parsePiece_eq_ok_iff]

theorem contains_foldl_add
    {set : FieldSet}
    {spans : List Span}
    {value : Int} :
    (spans.foldl add set).contains value ↔
      set.contains value ∨
        value ∈ set.kind.values ∧ ∃ span ∈ spans, span.Covers value := by
  induction spans generalizing set with
  | nil => simp
  | cons span spans inductionHypothesis =>
      rw [List.foldl_cons, inductionHypothesis, contains_add]
      simp only [add, List.exists_mem_cons_iff]
      constructor
      · rintro (⟨listed, permitted | covered⟩ | ⟨listed, covered⟩)
        · exact Or.inl permitted
        · exact Or.inr ⟨listed, Or.inl covered⟩
        · exact Or.inr ⟨listed, Or.inr covered⟩
      · rintro (permitted | ⟨listed, covered | covered⟩)
        · exact Or.inl ⟨mem_values_of_contains permitted, Or.inl permitted⟩
        · exact Or.inl ⟨listed, Or.inr covered⟩
        · exact Or.inr ⟨listed, covered⟩

theorem kind_foldl_add
    (set : FieldSet)
    (spans : List Span) :
    (spans.foldl add set).kind = set.kind := by
  induction spans generalizing set with
  | nil => rfl
  | cons span spans inductionHypothesis => exact inductionHypothesis (set.add span)

/-- What spans of a field cover is what the set of them permits. -/
theorem contains_ofSpans
    {kind : FieldKind}
    {spans : List Span}
    (inField : ∀ span ∈ spans, span.InField kind)
    {value : Int} :
    (ofSpans kind spans).contains value ↔ ∃ span ∈ spans, span.Covers value := by
  rw [ofSpans, contains_foldl_add, or_iff_right (not_contains_empty kind value)]
  constructor
  · exact And.right
  · rintro ⟨span, member, covered⟩
    have inside := inField span member
    exact ⟨FieldKind.mem_values.mpr
      ⟨inside.least_le.trans covered.1, covered.2.1.trans inside.le_greatest⟩,
      span, member, covered⟩

theorem parseChars_of_blank
    {kind : FieldKind}
    {text : List Char}
    (blank : Text.trim text = []) :
    parseChars kind text = .ok (empty kind) := by
  rw [parseChars, blank]

/-- The reader of a field accepts exactly the texts of its grammar: blank ones, which denote the
empty set, and those all of whose pieces between commas write terms with values in range.  The set
that is read permits exactly the values that some term covers. -/
theorem parseChars_grammar_and_meaning
    (kind : FieldKind)
    (text : List Char) :
    (Text.trim text = [] → parseChars kind text = .ok (empty kind)) ∧
      (Text.trim text ≠ [] →
        ((∃ set, parseChars kind text = .ok set) ↔
          ∀ piece ∈ (Text.trim text).splitOn ',',
            ∃ term, IsTerm kind (Text.trim piece) term)) ∧
      ∀ set, parseChars kind text = .ok set →
        set.kind = kind ∧
          ∀ value,
            set.contains value ↔
              ∃ piece ∈ (Text.trim text).splitOn ',',
                ∃ term, IsTerm kind (Text.trim piece) term ∧ term.Covers kind value := by
  refine ⟨parseChars_of_blank, fun notBlank => ?_, fun set read => ?_⟩
  · simp only [parseChars_of_not_blank notBlank]
    constructor
    · rintro ⟨-, spans, read, -⟩ piece member
      obtain ⟨span, spanRead⟩ := exists_parseTerms_iff.mp ⟨spans, read⟩ piece member
      obtain ⟨term, isTerm, -⟩ := parseTerm_eq_ok_iff_isTerm.mp spanRead
      exact ⟨term, isTerm⟩
    · intro terms
      have pieces : ∀ piece ∈ (Text.trim text).splitOn ',',
          ∃ span, parseTerm kind (Text.trim piece) = .ok span := by
        intro piece member
        obtain ⟨term, isTerm⟩ := terms piece member
        exact ⟨term.span kind, parseTerm_eq_ok_iff_isTerm.mpr ⟨term, isTerm, rfl⟩⟩
      obtain ⟨spans, read⟩ := exists_parseTerms_iff.mpr pieces
      exact ⟨_, spans, read, rfl⟩
  · by_cases blank : Text.trim text = []
    · obtain rfl := Except.ok.inj ((parseChars_of_blank blank).symm.trans read)
      refine ⟨rfl, fun value => iff_of_false (not_contains_empty kind value) ?_⟩
      rintro ⟨piece, member, term, isTerm, -⟩
      rw [blank, List.splitOn_nil, List.mem_singleton] at member
      subst member
      exact isTerm.writes.ne_nil rfl
    · obtain ⟨spans, spansRead, rfl⟩ := (parseChars_of_not_blank blank).mp read
      refine ⟨kind_foldl_add _ spans, fun value => ?_⟩
      rw [contains_ofSpans (inField_of_parseTerms spansRead).2]
      simp only [mem_of_parseTerms spansRead]
      constructor
      · rintro ⟨span, ⟨piece, member, spanRead⟩, covered⟩
        obtain ⟨term, isTerm, rfl⟩ := parseTerm_eq_ok_iff_isTerm.mp spanRead
        exact ⟨piece, member, term, isTerm, (covers_span isTerm.inRange value).mp covered⟩
      · rintro ⟨piece, member, term, isTerm, covered⟩
        exact ⟨term.span kind,
          ⟨piece, member, parseTerm_eq_ok_iff_isTerm.mpr ⟨term, isTerm, rfl⟩⟩,
          (covers_span isTerm.inRange value).mpr covered⟩

/-- Every second month of the first quarter, July, and two months whose ends are the wrong way round
and whose step is raised to 1. -/
theorem parseChars_months :
    parseChars .month " Jan-mar/2, oct-9/-3 ,7".toList = .ok ⟨.month, 837, some (1, 10)⟩ ∧
      ∀ value,
        (FieldSet.mk .month 837 (some (1, 10))).contains value ↔
          ∃ piece ∈ (Text.trim " Jan-mar/2, oct-9/-3 ,7".toList).splitOn ',',
            ∃ term, IsTerm .month (Text.trim piece) term ∧ term.Covers .month value := by
  have read :
      parseChars .month " Jan-mar/2, oct-9/-3 ,7".toList = .ok ⟨.month, 837, some (1, 10)⟩ := by
    decide +kernel
  have meaning := (parseChars_grammar_and_meaning .month " Jan-mar/2, oct-9/-3 ,7".toList).2.2
  exact ⟨read, (meaning _ read).2⟩

example : (FieldSet.mk .month 837 (some (1, 10))).members = [1, 3, 7, 9, 10] := by
  decide

end FieldSet

end Cadence
