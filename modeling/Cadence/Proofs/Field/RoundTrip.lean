import Cadence.Proofs.Words
import Cadence.Proofs.Field.Runs

namespace Cadence

/-!
# Reading back what is written of a set

The written form of a canonical set is read as that set again, in either format:
each run is written as a term for its span, the reader adds up the spans, and
what they cover decides the set.  There is one such form for a set.  It is the
star or else one item for each maximal run, so that what is written alike is the
same set.
-/

namespace FieldSet

/-! ### Values and runs as they are written -/

/-- A value is written so that it is read as that value, by its number or by its name. -/
theorem writesValue_writeValue
    (format : FieldFormat)
    {kind : FieldKind}
    {value : Int}
    (listed : value ∈ kind.values) :
    WritesValue kind (writeValue format kind value) value := by
  have bounds := FieldKind.mem_values.mp listed
  have range : 0 ≤ kind.least ∧ kind.greatest ≤ 59 := by cases kind <;> decide
  unfold writeValue
  split
  · next named =>
      have names :
          ∀ value ∈ kind.values,
            kind.hasNames → parseValue kind (kind.nameOf value).toList = .ok value := by
        cases kind <;> decide +kernel
      exact parseValue_eq_ok_iff.mp (names value listed named.2)
  · exact writesValue_write (by omega) (by omega)

theorem clampStep_one (kind : FieldKind) : clampStep kind 1 = 1 := by
  cases kind <;> rfl

/-- Letters, digits and the marks of a list of runs. -/
def IsWritten (c : Char) : Prop :=
  c.toLower.isAlphanum ∨ c = '*' ∨ c = '-' ∨ c = ','

theorem IsWritten.not_isBlank
    {c : Char}
    (written : IsWritten c) :
    ¬ Text.isBlank c := by
  rcases written with alphanum | rfl | rfl | rfl
  · exact Text.not_isBlank_of_isAlphanum alphanum
  · decide
  · decide
  · decide

theorem writeRun_ne_nil
    (format : FieldFormat)
    {kind : FieldKind}
    {run : Int × Int}
    (lowListed : run.1 ∈ kind.values) :
    writeRun format kind run ≠ [] := by
  unfold writeRun
  split
  · exact (WritesBody.value (writesValue_writeValue format lowListed)).ne_nil
  · simp

theorem mem_writeRun
    {format : FieldFormat}
    {kind : FieldKind}
    {run : Int × Int}
    (lowListed : run.1 ∈ kind.values)
    (highListed : run.2 ∈ kind.values)
    {c : Char}
    (member : c ∈ writeRun format kind run) :
    c.toLower.isAlphanum ∨ c = '-' := by
  have low := writesValue_writeValue format lowListed
  have high := writesValue_writeValue format highListed
  unfold writeRun at member
  split at member
  · exact Or.inl (low.isAlphanum c member)
  · rcases List.mem_append.mp member with inLow | inRest
    · exact Or.inl (low.isAlphanum c inLow)
    · rcases List.mem_cons.mp inRest with dash | inHigh
      · exact Or.inr dash
      · exact Or.inl (high.isAlphanum c inHigh)

theorem isWritten_of_mem_writeRun
    {format : FieldFormat}
    {kind : FieldKind}
    {run : Int × Int}
    (lowListed : run.1 ∈ kind.values)
    (highListed : run.2 ∈ kind.values)
    {c : Char}
    (member : c ∈ writeRun format kind run) :
    IsWritten c := by
  rcases mem_writeRun lowListed highListed member with alphanum | dash
  · exact Or.inl alphanum
  · exact Or.inr (Or.inr (Or.inl dash))

/-- A run is written as a term for its span. -/
theorem parseTerm_writeRun
    (format : FieldFormat)
    {kind : FieldKind}
    {run : Int × Int}
    (ordered : run.1 ≤ run.2)
    (lowListed : run.1 ∈ kind.values)
    (highListed : run.2 ∈ kind.values) :
    parseTerm kind (writeRun format kind run) = .ok (runSpan run) := by
  have low := writesValue_writeValue format lowListed
  have high := writesValue_writeValue format highListed
  have noSlash : '/' ∉ writeRun format kind run := by
    intro slash
    rcases mem_writeRun lowListed highListed slash with alphanum | dash
    · exact absurd alphanum (by decide)
    · exact absurd dash (by decide)
  have trims {text : List Char} {value : Int} (writes : WritesValue kind text value) :
      Text.trim text = text :=
    Text.trim_of_ink fun c member => Text.not_isBlank_of_isAlphanum (writes.isAlphanum c member)
  apply parseTerm_eq_ok_iff_isTerm.mpr
  by_cases single : run.1 = run.2
  · refine ⟨⟨.value run.1, none⟩, ⟨.plain noSlash ?_, ?_⟩, ?_⟩
    · rw [writeRun, if_pos single]
      exact .value low
    · intro value member
      obtain rfl := List.mem_singleton.mp member
      exact FieldKind.mem_values.mp lowListed
    · rw [runSpan, ← single]
      simp [FieldTerm.span, clampStep_one]
  · refine ⟨⟨.range run.1 run.2, none⟩, ⟨.plain noSlash ?_, ?_⟩, ?_⟩
    · rw [writeRun, if_neg single]
      apply WritesBody.range (WritesBody.value low).ne_nil (low.not_mem (by decide))
      · rwa [trims low]
      · rwa [trims high]
    · intro value member
      rcases List.mem_pair.mp member with rfl | rfl
      · exact FieldKind.mem_values.mp lowListed
      · exact FieldKind.mem_values.mp highListed
    · simp [FieldTerm.span, runSpan, clampStep_one, min_eq_left ordered, max_eq_right ordered]

theorem parseTerm_star (kind : FieldKind) :
    parseTerm kind ['*'] = .ok (runSpan (kind.least, kind.greatest)) := by
  apply parseTerm_eq_ok_iff_isTerm.mpr
  refine ⟨⟨.star, none⟩, ⟨.plain (by decide) .star, ?_⟩, ?_⟩
  · simp [FieldBody.values]
  · simp [FieldTerm.span, runSpan, clampStep_one]

/-! ### Sets as they are written -/

/-- A text without blanks is read as the set that its terms cover. -/
theorem parseChars_of_spans
    {kind : FieldKind}
    {text : List Char}
    {set : FieldSet}
    (spans : List Span)
    (given : text ≠ [])
    (ink : ∀ c ∈ text, ¬ Text.isBlank c)
    (canonical : set.Canonical kind)
    (read : parseTerms kind text (text.splitOn ',') = .ok spans)
    (same : ∀ value, set.contains value ↔ ∃ span ∈ spans, span.Covers value) :
    parseChars kind text = .ok set := by
  have trimmed := Text.trim_of_ink ink
  have accepted : parseChars kind text = .ok (ofSpans kind spans) := by
    rw [parseChars_of_not_blank (trimmed.symm ▸ given), trimmed]
    exact ⟨spans, read, rfl⟩
  have readCanonical := canonical_of_parseChars (trimmed.symm ▸ given) accepted
  rw [accepted, Except.ok.injEq]
  apply readCanonical.ext canonical
  intro value
  rw [contains_ofSpans (inField_of_parseTerms read).2, same]

/-- Texts of spans are read as these spans, one after another. -/
theorem parseTerms_map
    {kind : FieldKind}
    {whole : List Char}
    {given : List (Int × Int)}
    {write : Int × Int → List Char}
    (read : ∀ run ∈ given, parseTerm kind (Text.trim (write run)) = .ok (runSpan run)) :
    parseTerms kind whole (given.map write) = .ok (given.map runSpan) := by
  rw [parseTerms_eq_ok_iff, List.forall₂_map_left_iff, List.forall₂_map_right_iff,
    List.forall₂_same]
  exact read

/-- The runs of a canonical set with commas between them are not empty and have letters, digits and
marks in them only. -/
theorem Canonical.isWritten_runs
    {kind : FieldKind}
    {set : FieldSet}
    (canonical : set.Canonical kind)
    (format : FieldFormat) :
    [','].intercalate ((runs set.members).map (writeRun format kind)) ≠ [] ∧
      ∀ c ∈ [','].intercalate ((runs set.members).map (writeRun format kind)), IsWritten c := by
  have listed : ∀ run ∈ runs set.members, run.1 ∈ kind.values ∧ run.2 ∈ kind.values :=
    fun run member => canonical.listed_of_mem_runs member
  obtain ⟨run, member, -⟩ :=
    mem_iff_exists_run.mp (mem_members.mpr canonical.lowerBound_isLeast.1)
  obtain ⟨first, others, shape⟩ := List.exists_cons_of_ne_nil (List.ne_nil_of_mem member)
  constructor
  · rw [shape] at listed ⊢
    exact Text.intercalate_ne_nil (writeRun_ne_nil format (listed first List.mem_cons_self).1) _
  · intro c inText
    rcases Text.mem_of_mem_intercalate inText with comma | ⟨part, partListed, inPart⟩
    · exact Or.inr (Or.inr (Or.inr comma))
    · obtain ⟨other, otherListed, rfl⟩ := List.mem_map.mp partListed
      obtain ⟨low, high⟩ := listed other otherListed
      exact isWritten_of_mem_writeRun low high inPart

/-- Every run is written without commas and blanks, and read as its span. -/
theorem Canonical.parseTerm_run
    {kind : FieldKind}
    {set : FieldSet}
    (canonical : set.Canonical kind)
    (format : FieldFormat)
    {run : Int × Int}
    (member : run ∈ runs set.members) :
    ',' ∉ writeRun format kind run ∧
      parseTerm kind (Text.trim (writeRun format kind run)) = .ok (runSpan run) := by
  obtain ⟨low, high⟩ := canonical.listed_of_mem_runs member
  constructor
  · intro comma
    rcases mem_writeRun low high comma with alphanum | dash
    · exact absurd alphanum (by decide)
    · exact absurd dash (by decide)
  · have ink : ∀ c ∈ writeRun format kind run, ¬ Text.isBlank c :=
      fun c inRun => (isWritten_of_mem_writeRun low high inRun).not_isBlank
    rw [Text.trim_of_ink ink]
    exact parseTerm_writeRun format (le_of_mem_runs member) low high

/-- The runs of a canonical set are found again between the commas. -/
theorem Canonical.splitOn_runs
    {kind : FieldKind}
    {set : FieldSet}
    (canonical : set.Canonical kind)
    (format : FieldFormat) :
    ([','].intercalate ((runs set.members).map (writeRun format kind))).splitOn ',' =
      (runs set.members).map (writeRun format kind) := by
  apply List.splitOn_intercalate ','
  · intro part member
    obtain ⟨run, listed, rfl⟩ := List.mem_map.mp member
    exact (canonical.parseTerm_run format listed).1
  · intro none
    have given := (canonical.isWritten_runs format).1
    rw [none] at given
    exact given rfl

/-- The runs of a canonical set with commas between them are read as that set. -/
theorem Canonical.parseChars_runs
    {kind : FieldKind}
    {set : FieldSet}
    (canonical : set.Canonical kind)
    (format : FieldFormat) :
    parseChars kind ([','].intercalate ((runs set.members).map (writeRun format kind))) =
      .ok set := by
  obtain ⟨given, written⟩ := canonical.isWritten_runs format
  refine parseChars_of_spans ((runs set.members).map runSpan) given
    (fun c member => (written c member).not_isBlank) canonical ?_ fun value => ?_
  · rw [canonical.splitOn_runs format]
    exact parseTerms_map fun run member => (canonical.parseTerm_run format member).2
  · rw [← mem_members, mem_iff_exists_run]
    simp only [List.mem_map, exists_exists_and_eq_and]

/-- The star is read as the canonical set of all values of the field. -/
theorem Canonical.parseChars_star
    {kind : FieldKind}
    {set : FieldSet}
    (canonical : set.Canonical kind)
    (all : ∀ value ∈ set.kind.values, set.contains value) :
    parseChars kind ['*'] = .ok set := by
  have ink : ∀ c ∈ ['*'], ¬ Text.isBlank c := List.forall_mem_singleton.mpr (by decide)
  refine parseChars_of_spans [runSpan (kind.least, kind.greatest)] (by simp) ink canonical ?_
    fun value => ?_
  · rw [List.splitOn_eq_singleton (by decide), parseTerms_eq_ok_iff]
    exact .cons (Text.trim_of_ink ink ▸ parseTerm_star kind) .nil
  · rw [canonical.kind_eq] at all
    simp only [List.mem_singleton, exists_eq_left, covers_runSpan, ← FieldKind.mem_values]
    exact ⟨fun permitted => canonical.kind_eq ▸ mem_values_of_contains permitted, all value⟩

/-- A canonical set of all values of the field is written as the star. -/
theorem Canonical.writeChars_of_all
    {kind : FieldKind}
    {set : FieldSet}
    (canonical : set.Canonical kind)
    (format : FieldFormat)
    (all : ∀ value ∈ set.kind.values, set.contains value) :
    writeChars format set = ['*'] := by
  have whole := isMaximalRun_whole.mpr all
  obtain ⟨first, others, shape⟩ :=
    List.exists_cons_of_ne_nil (List.ne_nil_of_mem (mem_runs_members.mpr whole))
  have member : first ∈ runs set.members := shape ▸ List.mem_cons_self
  have maximal := mem_runs_members.mp member
  -- The walk begins with the run of all values: whatever run comes first meets that one.
  have bounds :=
    FieldKind.mem_values.mp
      (mem_values_of_contains (maximal.inside first.1 (le_refl _) maximal.ordered))
  have isWhole : first = (set.kind.least, set.kind.greatest) :=
    maximal.eq_of_meets whole bounds.2 (bounds.1.trans maximal.ordered)
  simp only [writeChars, canonical.walk_eq, shape, if_pos isWhole]

/-- A canonical set that misses a value of the field is written as its runs with commas between
them. -/
theorem Canonical.writeChars_of_not_all
    {kind : FieldKind}
    {set : FieldSet}
    (canonical : set.Canonical kind)
    (format : FieldFormat)
    (missing : ¬ ∀ value ∈ set.kind.values, set.contains value) :
    writeChars format set = [','].intercalate ((runs set.members).map (writeRun format kind)) := by
  simp only [writeChars, canonical.walk_eq]
  split
  · next shape => rw [shape]; rfl
  · next first others shape =>
      have notWhole : first ≠ (set.kind.least, set.kind.greatest) := by
        rintro rfl
        have member : (set.kind.least, set.kind.greatest) ∈ runs set.members :=
          shape ▸ List.mem_cons_self
        exact missing (isMaximalRun_whole.mp (mem_runs_members.mp member))
      rw [if_neg notWhole, shape, canonical.kind_eq]

/-- What is written of a canonical set is not empty and has letters, digits and marks in it only. -/
theorem Canonical.isWritten
    {kind : FieldKind}
    {set : FieldSet}
    (canonical : set.Canonical kind)
    (format : FieldFormat) :
    writeChars format set ≠ [] ∧ ∀ c ∈ writeChars format set, IsWritten c := by
  by_cases all : ∀ value ∈ set.kind.values, set.contains value
  · rw [canonical.writeChars_of_all format all]
    simp [IsWritten]
  · rw [canonical.writeChars_of_not_all format all]
    exact canonical.isWritten_runs format

/-- What is written of a canonical set is read as that set again, in either format. -/
theorem parseChars_writeChars
    {kind : FieldKind}
    {set : FieldSet}
    (canonical : set.Canonical kind)
    (format : FieldFormat) :
    parseChars kind (writeChars format set) = .ok set := by
  by_cases all : ∀ value ∈ set.kind.values, set.contains value
  · rw [canonical.writeChars_of_all format all]
    exact canonical.parseChars_star all
  · rw [canonical.writeChars_of_not_all format all]
    exact canonical.parseChars_runs format

/-! ### The form of what is written -/

/-- The items between the commas of a text; an empty text has none. -/
def items (text : List Char) : List (List Char) :=
  if text.isEmpty then [] else text.splitOn ','

/-- The one text for a set: the star if the set permits every value of its field, and else one item
for each of its maximal runs, in increasing order. -/
structure WrittenForm (format : FieldFormat) (set : FieldSet) (text : String) : Prop where
  star_iff : text = "*" ↔ ∀ value ∈ set.kind.values, set.contains value
  runs :
    text ≠ "*" →
      ∃ maximal : List (Int × Int),
        maximal.Pairwise (fun earlier later => earlier.2 < later.1) ∧
          (∀ run, run ∈ maximal ↔ set.IsMaximalRun run) ∧
          items text.toList = maximal.map (writeRun format set.kind)

/-- The runs of the members of a set are the maximal runs that its written form is to have. -/
theorem writtenForm_of_items
    {format : FieldFormat}
    {set : FieldSet}
    (star_iff : writeChars format set = ['*'] ↔ ∀ value ∈ set.kind.values, set.contains value)
    (found :
      (¬ ∀ value ∈ set.kind.values, set.contains value) →
        items (writeChars format set) = (runs set.members).map (writeRun format set.kind)) :
    WrittenForm format set (write format set) where
  star_iff := by
    have isStar : "*" = String.ofList ['*'] := rfl
    rw [← star_iff, write, isStar, String.ofList_inj]
  runs := by
    intro notStar
    have missing : ¬ ∀ value ∈ set.kind.values, set.contains value := by
      intro all
      exact notStar (congrArg String.ofList (star_iff.mpr all))
    refine ⟨FieldSet.runs set.members, ?_, fun run => mem_runs_members, ?_⟩
    · exact (runs_separated set.members_increasing).imp fun gap => by omega
    · rw [write, String.toList_ofList, found missing]

/-- No star stands in the written form of a set that misses a value. -/
theorem Canonical.writeChars_eq_star_iff
    {kind : FieldKind}
    {set : FieldSet}
    (canonical : set.Canonical kind)
    (format : FieldFormat) :
    writeChars format set = ['*'] ↔ ∀ value ∈ set.kind.values, set.contains value := by
  constructor
  · intro star
    by_contra missing
    rw [canonical.writeChars_of_not_all format missing] at star
    have items := canonical.splitOn_runs format
    rw [star, List.splitOn_eq_singleton (by decide)] at items
    have isItem : ['*'] ∈ (runs set.members).map (writeRun format kind) :=
      items ▸ List.mem_singleton_self _
    obtain ⟨run, member, written⟩ := List.mem_map.mp isItem
    obtain ⟨low, high⟩ := canonical.listed_of_mem_runs member
    have marks := mem_writeRun low high (written ▸ List.mem_singleton_self '*')
    exact absurd marks (by decide)
  · exact canonical.writeChars_of_all format

theorem Canonical.writtenForm
    {kind : FieldKind}
    {set : FieldSet}
    (canonical : set.Canonical kind)
    (format : FieldFormat) :
    WrittenForm format set (write format set) := by
  apply writtenForm_of_items (canonical.writeChars_eq_star_iff format)
  intro missing
  have filled : (writeChars format set).isEmpty = false := by
    simpa using (canonical.isWritten format).1
  rw [items, filled, if_neg Bool.false_ne_true, canonical.writeChars_of_not_all format missing,
    canonical.splitOn_runs format, canonical.kind_eq]

/-- The empty set is written as the empty text, which has no items, as the set has no runs. -/
theorem writtenForm_empty
    (kind : FieldKind)
    (format : FieldFormat) :
    WrittenForm format (empty kind) (write format (empty kind)) := by
  have missing : ¬ ∀ value ∈ (empty kind).kind.values, (empty kind).contains value := by
    intro all
    have listed : kind.least ∈ kind.values :=
      FieldKind.mem_values.mpr ⟨le_refl _, kind.least_le_greatest⟩
    exact not_contains_empty kind _ (all _ listed)
  have noMember : (empty kind).members = [] := by
    apply List.filter_eq_nil_iff.mpr
    exact fun value _ => not_contains_empty kind value
  apply writtenForm_of_items
  · exact iff_of_false (List.cons_ne_nil '*' []).symm missing
  · intro _
    rw [noMember]
    rfl

/-- Whatever set a text denotes, it is written, in either format, so that the same set is read from
that.  What is written is the one form that the set has, and sets of one kind are written alike if
they are equal and only then. -/
theorem write_readable_and_canonical
    {kind : FieldKind}
    {text : String}
    {set : FieldSet}
    (read : parse kind text = .ok set)
    (format : FieldFormat) :
    parse kind (write format set) = .ok set ∧
      WrittenForm format set (write format set) ∧
      ∀ (otherText : String) (other : FieldSet), parse kind otherText = .ok other →
        (write format set = write format other ↔ set.same other) := by
  have readable {text : String} {set : FieldSet} (read : parse kind text = .ok set) :
      parse kind (write format set) = .ok set := by
    rw [parse, write, String.toList_ofList]
    rcases empty_or_canonical read with ⟨-, rfl⟩ | ⟨-, canonical⟩
    · rfl
    · exact parseChars_writeChars canonical format
  refine ⟨readable read, ?_, fun otherText other otherRead => ⟨fun alike => ?_, fun same => ?_⟩⟩
  · rcases empty_or_canonical read with ⟨-, rfl⟩ | ⟨-, canonical⟩
    · exact writtenForm_empty kind format
    · exact canonical.writtenForm format
  · have again := readable read
    rw [alike, readable otherRead] at again
    obtain rfl := Except.ok.inj again
    simp [FieldSet.same]
  · rw [eq_of_contains read otherRead (contains_of_same same)]

/-- Months of which two runs are one month long and one run begins the year. -/
theorem write_readable_and_canonical_months :
    ∃ set, parse .month "dec, jan-mar, 6,2" = .ok set ∧
      write .names set = "January-March,June,December" ∧
      parse .month "January-March,June,December" = .ok set ∧
      WrittenForm .names set "January-March,June,December" := by
  have read : parse .month "dec, jan-mar, 6,2" = .ok ⟨.month, 2087, some (1, 12)⟩ := by
    decide +kernel
  have written :
      write .names ⟨.month, 2087, some (1, 12)⟩ = "January-March,June,December" := by
    decide +kernel
  obtain ⟨again, form, -⟩ := write_readable_and_canonical read .names
  rw [written] at again form
  exact ⟨_, read, written, again, form⟩

end FieldSet

end Cadence
