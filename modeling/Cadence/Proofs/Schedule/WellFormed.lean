import Cadence.Schedule.Parser
import Cadence.Proofs.Field.Parsing
import Mathlib.Data.List.TakeWhile

namespace Cadence

/-!
# Schedules that are read from texts

A schedule that is accepted has well-formed sets in all of its fields: a word is
never blank, and a text that is not blank gives a well-formed set.
-/

namespace Text

/-- A text with a character that is not blank is not blank. -/
theorem trim_ne_nil
    {text : List Char}
    {c : Char}
    (member : c ∈ text)
    (notBlank : isBlank c = false) :
    trim text ≠ [] := by
  intro blank
  simp only [trim, List.reverse_eq_nil_iff, List.dropWhile_eq_nil_iff,
    List.mem_reverse] at blank
  have split := List.takeWhile_append_dropWhile (p := isBlank) (l := text)
  rw [← split] at member
  rcases List.mem_append.mp member with inFront | inRest
  · simp [List.mem_takeWhile_imp inFront] at notBlank
  · simp [blank c inRest] at notBlank

/-- A word is not blank. -/
theorem trim_ne_nil_of_mem_words
    {text word : List Char}
    (member : word ∈ words text) :
    trim word ≠ [] := by
  obtain ⟨isPiece, notEmpty⟩ := List.mem_filter.mp member
  cases word with
  | nil =>
      simp at notEmpty
  | cons c rest =>
      exact trim_ne_nil (c := c) (by simp)
        (not_of_mem_splitOnP isPiece c (by simp))

end Text

namespace Schedule

/-- A schedule with a well-formed set of the right kind in every field. -/
structure WellFormed (schedule : Schedule) : Prop where
  seconds : schedule.seconds.WellFormed .second
  minutes : schedule.minutes.WellFormed .minute
  hours : schedule.hours.WellFormed .hour
  days : schedule.days.WellFormed .day
  months : schedule.months.WellFormed .month
  weekdays : schedule.weekdays.WellFormed .weekday

theorem wellFormed_secondZero : secondZero.WellFormed .second :=
  FieldSet.WellFormed.single ⟨by decide, by decide, by decide⟩

/-- The schedule of words that are not blank is well formed. -/
theorem wellFormed_of_ofWords
    {raw : List Char}
    {withSeconds : Bool}
    {words : List (List Char)}
    {schedule : Schedule}
    (notBlank : ∀ word ∈ words, Text.trim word ≠ [])
    (read : ofWords raw withSeconds words = .ok schedule) :
    schedule.WellFormed := by
  unfold ofWords at read
  split at read
  · next second minute hour day month weekday =>
      obtain ⟨seconds, secondRead, read⟩ := exists_of_bind_eq_ok read
      obtain ⟨minutes, minuteRead, read⟩ := exists_of_bind_eq_ok read
      obtain ⟨hours, hourRead, read⟩ := exists_of_bind_eq_ok read
      obtain ⟨days, dayRead, read⟩ := exists_of_bind_eq_ok read
      obtain ⟨months, monthRead, read⟩ := exists_of_bind_eq_ok read
      obtain ⟨weekdays, weekdayRead, read⟩ := exists_of_bind_eq_ok read
      injection read with shape
      subst shape
      exact
        ⟨FieldSet.wellFormed_of_parseChars (notBlank second (by simp)) secondRead,
          FieldSet.wellFormed_of_parseChars (notBlank minute (by simp)) minuteRead,
          FieldSet.wellFormed_of_parseChars (notBlank hour (by simp)) hourRead,
          FieldSet.wellFormed_of_parseChars (notBlank day (by simp)) dayRead,
          FieldSet.wellFormed_of_parseChars (notBlank month (by simp)) monthRead,
          FieldSet.wellFormed_of_parseChars (notBlank weekday (by simp)) weekdayRead⟩
  · next minute hour day month weekday =>
      obtain ⟨minutes, minuteRead, read⟩ := exists_of_bind_eq_ok read
      obtain ⟨hours, hourRead, read⟩ := exists_of_bind_eq_ok read
      obtain ⟨days, dayRead, read⟩ := exists_of_bind_eq_ok read
      obtain ⟨months, monthRead, read⟩ := exists_of_bind_eq_ok read
      obtain ⟨weekdays, weekdayRead, read⟩ := exists_of_bind_eq_ok read
      injection read with shape
      subst shape
      exact
        ⟨wellFormed_secondZero,
          FieldSet.wellFormed_of_parseChars (notBlank minute (by simp)) minuteRead,
          FieldSet.wellFormed_of_parseChars (notBlank hour (by simp)) hourRead,
          FieldSet.wellFormed_of_parseChars (notBlank day (by simp)) dayRead,
          FieldSet.wellFormed_of_parseChars (notBlank month (by simp)) monthRead,
          FieldSet.wellFormed_of_parseChars (notBlank weekday (by simp)) weekdayRead⟩
  · contradiction

/-- A schedule that a text writes is well formed. -/
theorem wellFormed_of_parse
    {text : String}
    {withSeconds : Bool}
    {schedule : Schedule}
    (parsed : parse text withSeconds = .ok schedule) :
    schedule.WellFormed := by
  unfold parse parseChars at parsed
  split at parsed
  · contradiction
  · obtain ⟨expanded, -, parsed⟩ := exists_of_bind_eq_ok parsed
    exact wellFormed_of_ofWords
      (fun word member => Text.trim_ne_nil_of_mem_words member) parsed

end Schedule

end Cadence
