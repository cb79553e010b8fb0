import Cadence.Text
import Mathlib.Data.List.DropRight

namespace Cadence

namespace Text

/-!
# Trimmed and cut texts

What trimming and cutting answer, without the order in which they look: a text is
its trimmed text between blanks, and a cut is at the first mark.
-/

/-- The text between blanks that neither begins nor ends with one. -/
structure Trims (text core : List Char) : Prop where
  between :
    ∃ front back,
      text = front ++ core ++ back ∧ (∀ c ∈ front, isBlank c) ∧ ∀ c ∈ back, isBlank c
  startsInk : ∀ given : core ≠ [], ¬ isBlank (core.head given)
  endsInk : ∀ given : core ≠ [], ¬ isBlank (core.getLast given)

theorem trim_eq_rdropWhile (text : List Char) :
    trim text = (text.dropWhile isBlank).rdropWhile isBlank :=
  rfl

/-- Blanks around a text that begins and ends with no blank are what is trimmed. -/
theorem Trims.trim_eq
    {text core : List Char}
    (trims : Trims text core) :
    trim text = core := by
  obtain ⟨⟨front, back, rfl, frontBlank, backBlank⟩, startsInk, endsInk⟩ := trims
  rw [trim_eq_rdropWhile, List.append_assoc, List.dropWhile_append_of_pos frontBlank]
  cases core with
  | nil =>
      rw [List.nil_append, List.dropWhile_eq_nil_iff.mpr backBlank, List.rdropWhile_nil]
  | cons c rest =>
      have blankTail : (back.reverse).dropWhile isBlank = [] :=
        List.dropWhile_eq_nil_iff.mpr fun c member => backBlank c (List.mem_reverse.mp member)
      have startsInk : ¬ isBlank c := startsInk (List.cons_ne_nil c rest)
      rw [List.cons_append, List.dropWhile_cons_of_neg startsInk, ← List.cons_append,
        List.rdropWhile, List.reverse_append, List.dropWhile_append, blankTail]
      exact List.rdropWhile_eq_self_iff.mpr endsInk

/-- Trimming leaves what stands between the blanks at either end. -/
theorem trims_trim (text : List Char) :
    Trims text (trim text) where
  between := by
    refine ⟨text.takeWhile isBlank, (text.dropWhile isBlank).rtakeWhile isBlank, ?_, ?_, ?_⟩
    · rw [trim_eq_rdropWhile, List.append_assoc, List.rdropWhile_append_rtakeWhile,
        List.takeWhile_append_dropWhile]
    · exact fun c member => List.mem_takeWhile_imp member
    · exact fun c member => List.mem_rtakeWhile_imp member
  startsInk := by
    intro given
    have nonempty : text.dropWhile isBlank ≠ [] := by
      rintro nothing
      rw [trim_eq_rdropWhile, nothing] at given
      exact given (List.rdropWhile_nil isBlank)
    have sameHead : (trim text).head given = (text.dropWhile isBlank).head nonempty :=
      (List.rdropWhile_prefix isBlank _).head given
    rw [sameHead]
    simpa using List.head_dropWhile_not isBlank nonempty
  endsInk := fun given => List.rdropWhile_last_not isBlank _ given

theorem trim_eq_iff
    {text core : List Char} :
    trim text = core ↔ Trims text core := by
  constructor
  · rintro rfl
    exact trims_trim text
  · exact Trims.trim_eq

/-- A trimmed text stays as it is. -/
@[simp]
theorem trim_trim (text : List Char) :
    trim (trim text) = trim text :=
  trim_eq_iff.mpr
    { between := ⟨[], [], by simp, by simp, by simp⟩
      startsInk := (trims_trim text).startsInk
      endsInk := (trims_trim text).endsInk }

/-- A cut is at the first mark. -/
theorem cut_eq_some_iff
    {mark : Char}
    {text before after : List Char} :
    cut mark text = some (before, after) ↔ text = before ++ mark :: after ∧ mark ∉ before := by
  induction text generalizing before with
  | nil => simp [cut]
  | cons c rest inductionHypothesis =>
      by_cases isMark : c = mark
      · cases before with
        | nil => simp [cut, isMark]
        | cons other before =>
            simp only [cut, if_pos isMark, List.cons_append, List.cons.injEq, List.mem_cons]
            grind
      · cases before with
        | nil => simp [cut, isMark]
        | cons other before =>
            simp only [cut, if_neg isMark, Option.map_eq_some_iff, Prod.mk.injEq, Prod.exists,
              List.cons_append, List.cons.injEq, List.mem_cons]
            grind

/-- There is no cut where there is no mark. -/
theorem cut_eq_none_iff
    {mark : Char}
    {text : List Char} :
    cut mark text = none ↔ mark ∉ text := by
  induction text with
  | nil => simp [cut]
  | cons c rest inductionHypothesis =>
      by_cases isMark : c = mark
      · simp [cut, isMark]
      · simp [cut, isMark, inductionHypothesis, Ne.symm isMark]

/-! ### Pieces -/

/-- No piece of a text has one of the characters in it at which the text is cut. -/
theorem not_of_mem_splitOnP
    {cuts : Char → Bool}
    {text piece : List Char}
    (member : piece ∈ text.splitOnP cuts) :
    ∀ c ∈ piece, cuts c = false := by
  induction text generalizing piece with
  | nil =>
      simp only [List.splitOnP_nil, List.mem_singleton] at member
      subst member
      simp
  | cons c rest inductionHypothesis =>
      rw [List.splitOnP_cons_eq_if_modifyHead] at member
      split at member
      · rcases List.mem_cons.mp member with rfl | inRest
        · simp
        · exact inductionHypothesis inRest
      · next noCut =>
          cases pieces : rest.splitOnP cuts with
          | nil =>
              exact (List.splitOnP_ne_nil cuts rest pieces).elim
          | cons head others =>
              rw [pieces] at member inductionHypothesis
              rcases List.mem_cons.mp member with rfl | inOthers
              · intro other otherMember
                rcases List.mem_cons.mp otherMember with rfl | inHead
                · simpa using noCut
                · exact inductionHypothesis (by simp) other inHead
              · exact inductionHypothesis (by simp [inOthers])

theorem not_mem_of_mem_splitOn
    {mark : Char}
    {text piece : List Char}
    (member : piece ∈ text.splitOn mark) :
    mark ∉ piece := by
  rw [List.splitOn_eq_splitOnP] at member
  intro inPiece
  simpa using not_of_mem_splitOnP member mark inPiece

/-- Trimming adds nothing. -/
theorem mem_of_mem_trim
    {text : List Char}
    {c : Char}
    (member : c ∈ trim text) :
    c ∈ text := by
  obtain ⟨front, back, shape, -⟩ := (trims_trim text).between
  rw [shape]
  exact List.mem_append_left back (List.mem_append_right front member)

end Text

end Cadence
