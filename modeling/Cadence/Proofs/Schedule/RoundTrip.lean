import Cadence.Schedule.Search
import Cadence.Proofs.Field.RoundTrip
import Cadence.Proofs.Schedule.Reading

namespace Cadence

/-!
# Reading back what is written of a schedule

The written form of a schedule that was read is read as a schedule with the same
fields: the words of the written form are what is written of the fields, and each
of them is read as its field again.  The search looks at the fields only, so that
both schedules occur at the same instants; and the written form tells schedules
with different fields apart.
-/

namespace Schedule

/-! ### What the text of a schedule says nothing about -/

section Raw

variable (schedule : Schedule) (raw : String)

@[simp]
theorem moveDate_withRaw
    (limit : Date)
    (cursor : DateCursor) :
    { schedule with raw := raw }.moveDate limit cursor = schedule.moveDate limit cursor :=
  rfl

@[simp]
theorem firstTime_withRaw :
    { schedule with raw := raw }.firstTime = schedule.firstTime :=
  rfl

@[simp]
theorem cursorAt_withRaw (date : Date) :
    { schedule with raw := raw }.cursorAt date = schedule.cursorAt date :=
  rfl

@[simp]
theorem findDate_withRaw
    (limit : Date)
    (cursor : DateCursor) :
    { schedule with raw := raw }.findDate limit cursor = schedule.findDate limit cursor := by
  fun_induction findDate schedule limit cursor with
  | case1 cursor date moved =>
      rw [findDate]
      split <;> simp_all
  | case2 cursor year month moved inductionHypothesis =>
      rw [findDate]
      split <;> simp_all
  | case3 cursor moved =>
      rw [findDate]
      split <;> simp_all

theorem searchFrom_withRaw
    (limit : Int)
    (date : Date)
    (time : TimeOfDay) :
    { schedule with raw := raw }.searchFrom limit date time =
      schedule.searchFrom limit date time := by
  fun_induction searchFrom schedule limit date time with
  | case1 date time missed =>
      rw [searchFrom]
      split <;> simp_all
  | case2 date time found foundAt instant late =>
      have same := searchFrom_of_found { schedule with raw := raw } time
        ((findDate_withRaw schedule raw _ _).trans foundAt)
      exact same.trans (if_pos late)
  | case3 date time found foundAt instant early permitted =>
      have same := searchFrom_of_found { schedule with raw := raw } time
        ((findDate_withRaw schedule raw _ _).trans foundAt)
      exact same.trans ((if_neg early).trans (if_pos permitted))
  | case4 date time found foundAt instant early refused inductionHypothesis =>
      have same := searchFrom_of_found { schedule with raw := raw } time
        ((findDate_withRaw schedule raw _ _).trans foundAt)
      exact same.trans ((if_neg early).trans ((if_neg refused).trans inductionHypothesis))

theorem searchAt_withRaw
    (limit : Int)
    (date : Date)
    (time : TimeOfDay) :
    { schedule with raw := raw }.searchAt limit date time = schedule.searchAt limit date time := by
  simp only [searchAt, searchFrom_withRaw, firstTime_withRaw]

/-- The search looks at the fields only. -/
theorem nextOccurrence_withRaw (base limit : Int) :
    { schedule with raw := raw }.nextOccurrence base limit = schedule.nextOccurrence base limit := by
  have sameTime :
      { schedule with raw := raw }.timeAfter (CivilTime.ofInstant base).time =
        schedule.timeAfter (CivilTime.ofInstant base).time :=
    rfl
  simp only [nextOccurrence, nextOccurrence?, sameTime, searchAt_withRaw, searchFrom_withRaw,
    firstTime_withRaw]

end Raw

/-! ### The words of what is written -/

theorem fields_withRaw (schedule : Schedule) (raw : String) :
    { schedule with raw := raw }.fields = schedule.fields :=
  rfl

theorem writtenFields_eq (schedule : Schedule) :
    schedule.writtenFields =
      if schedule.hasSeconds then schedule.fields else schedule.fields.tail := by
  obtain ⟨text, secondField, minutes, hours, days, months, weekdays⟩ := schedule
  cases secondField <;> rfl

/-- A schedule is made of its fields and its text. -/
theorem ofFields_writtenFields
    (schedule : Schedule)
    (raw : List Char) :
    ofFields raw schedule.hasSeconds schedule.writtenFields =
      { schedule with raw := String.ofList raw } := by
  obtain ⟨text, secondField, minutes, hours, days, months, weekdays⟩ := schedule
  cases secondField <;> rfl

namespace Canonical

variable {schedule other : Schedule}

theorem length_writtenFields
    (canonical : schedule.Canonical) :
    schedule.writtenFields.length = fieldCount schedule.hasSeconds :=
  canonical.length_eq.symm.trans (length_fieldKinds _)

/-- What is written of each field is a word of letters, digits and marks. -/
theorem isWritten
    (canonical : schedule.Canonical)
    {word : List Char}
    (member : word ∈ schedule.writtenFields.map (FieldSet.writeChars .numeric)) :
    word ≠ [] ∧ ∀ c ∈ word, FieldSet.IsWritten c := by
  obtain ⟨set, listed, rfl⟩ := List.mem_map.mp member
  obtain ⟨kind, setCanonical⟩ := canonical_of_mem canonical listed
  exact setCanonical.isWritten .numeric

/-- The words of the written form are what is written of the fields. -/
theorem words_writeChars
    (canonical : schedule.Canonical) :
    Text.words schedule.writeChars =
      schedule.writtenFields.map (FieldSet.writeChars .numeric) :=
  Text.words_intercalate (by decide) (fun _ member => (canonical.isWritten member).1)
    (fun _ member c inWord => ((canonical.isWritten member).2 c inWord).not_isBlank)

theorem trim_writeChars
    (canonical : schedule.Canonical) :
    Text.trim schedule.writeChars = schedule.writeChars :=
  Text.trim_intercalate (fun _ member => (canonical.isWritten member).1)
    (fun _ member c inWord => ((canonical.isWritten member).2 c inWord).not_isBlank)

/-- The written form is no name. -/
theorem spells_writeChars
    (canonical : schedule.Canonical) :
    Spells schedule.hasSeconds schedule.writeChars
      (schedule.writtenFields.map (FieldSet.writeChars .numeric)) := by
  refine .fields (fun startsAt => ?_) (Text.words_eq_iff.mp canonical.words_writeChars)
  have member : '@' ∈ schedule.writeChars := List.mem_of_head? startsAt
  rcases Text.mem_of_mem_intercalate member with space | ⟨word, listed, inWord⟩
  · exact absurd space (by decide)
  · have written := (canonical.isWritten listed).2 '@' inWord
    unfold FieldSet.IsWritten at written
    exact absurd written (by decide)

end Canonical

/-- What is written of canonical sets is read as those sets, each for its kind. -/
theorem readFields_written
    {kinds : List FieldKind}
    {sets : List FieldSet}
    (canonical : List.Forall₂ (fun kind set => FieldSet.Canonical kind set) kinds sets) :
    List.Forall₂ (fun field set => readField field = .ok set)
      (kinds.zip (sets.map (FieldSet.writeChars .numeric))) sets := by
  induction canonical with
  | nil => exact .nil
  | cons first _ inductionHypothesis =>
      exact .cons (FieldSet.parseChars_writeChars first .numeric) inductionHypothesis

/-! ### Round trip -/

/-- What is written of a schedule is read as that schedule, with the written form for its text. -/
theorem Canonical.parse_write
    {schedule : Schedule}
    (canonical : schedule.Canonical) :
    parse schedule.write schedule.hasSeconds =
      .ok { schedule with raw := schedule.write } := by
  rw [parse, write, String.toList_ofList]
  apply parseChars_eq_ok_iff.mpr
  have trimmed := canonical.trim_writeChars
  refine ⟨schedule.writtenFields.map (FieldSet.writeChars .numeric), schedule.writtenFields, ?_, ?_,
    mapM_eq_ok_iff.mpr (readFields_written canonical), ?_⟩
  · rw [trimmed]
    exact canonical.spells_writeChars
  · rw [List.length_map, canonical.length_writtenFields]
  · rw [trimmed, ofFields_writtenFields]

theorem write_withRaw (schedule : Schedule) (raw : String) :
    { schedule with raw := raw }.write = schedule.write :=
  rfl

/-- Canonical schedules of one form that are written alike have the same fields. -/
theorem Canonical.write_eq_iff
    {schedule other : Schedule}
    (canonical : schedule.Canonical)
    (otherCanonical : other.Canonical)
    (sameForm : other.hasSeconds = schedule.hasSeconds) :
    other.write = schedule.write ↔ other.fields = schedule.fields := by
  constructor
  · intro same
    have read := canonical.parse_write
    rw [← same, ← sameForm, otherCanonical.parse_write, Except.ok.injEq] at read
    have fields := congrArg fields read
    rwa [fields_withRaw, fields_withRaw] at fields
  · intro same
    have sameWritten : other.writtenFields = schedule.writtenFields := by
      rw [writtenFields_eq, writtenFields_eq, sameForm, same]
    rw [write, write, writeChars, writeChars, sameWritten]

/-- A schedule that was read is written so that it is read with the same fields again: the
schedule read back has a seconds field exactly if the first one has, occurs at the same instants
and is written in the same way.  Of two schedules with seconds fields, and of two without, the
written forms are equal exactly if the fields are. -/
theorem parse_write_roundTrip
    {text : List Char}
    {withSeconds : Bool}
    {schedule : Schedule}
    (parsed : parseChars text withSeconds = .ok schedule) :
    (∃ again,
        parse schedule.write schedule.hasSeconds = .ok again ∧
          again.fields = schedule.fields ∧
            again.hasSeconds = schedule.hasSeconds ∧
              (∀ base limit,
                again.nextOccurrence base limit = schedule.nextOccurrence base limit) ∧
                again.write = schedule.write) ∧
      ∀ otherText otherSeconds other,
        parseChars otherText otherSeconds = .ok other →
          other.hasSeconds = schedule.hasSeconds →
            (other.write = schedule.write ↔ other.fields = schedule.fields) := by
  have canonical := (canonical_of_parseChars parsed).2
  constructor
  · exact ⟨_, canonical.parse_write, rfl, rfl, nextOccurrence_withRaw schedule schedule.write,
      write_withRaw schedule schedule.write⟩
  · intro otherText otherSeconds other otherParsed sameForm
    exact canonical.write_eq_iff (canonical_of_parseChars otherParsed).2 sameForm

/-- Steps, names and ranges whose ends are the wrong way round, and what is written of them. -/
theorem parse_write_mixed :
    ∃ schedule,
      parseChars "*/20  5-1,3,40-45/2 0-23 1,2,31,3 feb-APR,dec 6-5".toList true = .ok schedule ∧
        schedule.write = "0,20,40 1-5,40,42,44 * 1-3,31 2-4,12 5-6" ∧
          ∃ again,
            parse schedule.write schedule.hasSeconds = .ok again ∧
              again.fields = schedule.fields ∧ again.write = schedule.write := by
  have parsed :
      parseChars "*/20  5-1,3,40-45/2 0-23 1,2,31,3 feb-APR,dec 6-5".toList true =
        .ok ⟨"*/20  5-1,3,40-45/2 0-23 1,2,31,3 feb-APR,dec 6-5",
          some ⟨.second, 1099512676353, some (0, 40)⟩, ⟨.minute, 23089744183358, some (1, 44)⟩,
          ⟨.hour, 16777215, some (0, 23)⟩, ⟨.day, 1073741831, some (1, 31)⟩,
          ⟨.month, 2062, some (2, 12)⟩, ⟨.weekday, 96, some (5, 6)⟩⟩ := by
    decide +kernel
  obtain ⟨again, read, fields, -, -, written⟩ := (parse_write_roundTrip parsed).1
  exact ⟨_, parsed, by decide +kernel, again, read, fields, written⟩

end Schedule

end Cadence
