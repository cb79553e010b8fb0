import Cadence.Proofs.Text

namespace Cadence

namespace Text

/-!
# The words of a text

What the words of a text are, without the way in which they are cut out: maximal
runs of characters that are not blank, with blanks before, between and after
them.  Every text has exactly one such list of words, and blanks at its ends
change nothing about it.
-/

/-- A text and the maximal runs of characters in it that are not blank, from the left. -/
inductive Separates : List Char → List (List Char) → Prop
  | blank {text : List Char}
      (blank : ∀ c ∈ text, isBlank c) :
      Separates text []
  | word {front word rest : List Char} {words : List (List Char)}
      (blank : ∀ c ∈ front, isBlank c)
      (given : word ≠ [])
      (ink : ∀ c ∈ word, ¬ isBlank c)
      (maximal : ∀ c ∈ rest.head?, isBlank c)
      (separates : Separates rest words) :
      Separates (front ++ word ++ rest) (word :: words)

/-! ### Cutting at blanks -/

@[simp]
theorem words_nil : words [] = [] := by
  rw [words, List.splitOnP_nil]
  rfl

/-- A blank ends what stands before it. -/
theorem words_append_cons
    {front rest : List Char}
    {c : Char}
    (blank : isBlank c) :
    words (front ++ c :: rest) = words front ++ words rest := by
  rw [words, List.splitOnP_append_cons front rest blank, List.filter_append]
  rfl

theorem words_cons_of_blank
    {c : Char}
    {rest : List Char}
    (blank : isBlank c) :
    words (c :: rest) = words rest := by
  have split : words ([] ++ c :: rest) = words [] ++ words rest := words_append_cons blank
  rwa [words_nil, List.nil_append, List.nil_append] at split

/-- A text without blanks is a word. -/
theorem words_of_ink
    {word : List Char}
    (given : word ≠ [])
    (ink : ∀ c ∈ word, ¬ isBlank c) :
    words word = [word] := by
  have noBlank : ∀ c ∈ word, isBlank c = false := fun c member => by simpa using ink c member
  rw [words, List.splitOnP_eq_singleton noBlank]
  simp [given]

/-- Blanks in front of a text are in no word. -/
theorem words_append_of_blank
    {front : List Char}
    (blank : ∀ c ∈ front, isBlank c)
    (rest : List Char) :
    words (front ++ rest) = words rest := by
  induction front with
  | nil => rfl
  | cons c front inductionHypothesis =>
      rw [List.cons_append, words_cons_of_blank (blank c List.mem_cons_self)]
      exact inductionHypothesis fun other member => blank other (List.mem_cons_of_mem c member)

theorem words_of_blank
    {text : List Char}
    (blank : ∀ c ∈ text, isBlank c) :
    words text = [] := by
  simpa using words_append_of_blank blank []

/-- A word in front of a text that does not go on with it. -/
theorem words_append_of_ink
    {word rest : List Char}
    (given : word ≠ [])
    (ink : ∀ c ∈ word, ¬ isBlank c)
    (maximal : ∀ c ∈ rest.head?, isBlank c) :
    words (word ++ rest) = word :: words rest := by
  cases rest with
  | nil => rw [List.append_nil, words_of_ink given ink, words_nil]
  | cons c rest =>
      have blank : isBlank c := maximal c rfl
      rw [words_append_cons blank, words_of_ink given ink, words_cons_of_blank blank]
      rfl

/-! ### Exactly one list of words -/

theorem Separates.words_eq
    {text : List Char}
    {parts : List (List Char)}
    (separates : Separates text parts) :
    words text = parts := by
  induction separates with
  | blank blank => exact words_of_blank blank
  | word blank given ink maximal _ inductionHypothesis =>
      rw [List.append_assoc, words_append_of_blank blank, words_append_of_ink given ink maximal,
        inductionHypothesis]

/-- The induction is on the length, because what follows a word is no direct part of the text. -/
theorem separates_words (text : List Char) :
    Separates text (words text) := by
  induction length : text.length using Nat.strong_induction_on generalizing text with
  | _ length inductionHypothesis =>
      subst length
      have cutFront := List.takeWhile_append_dropWhile (p := isBlank) (l := text)
      have frontBlank : ∀ c ∈ text.takeWhile isBlank, isBlank c :=
        fun c member => List.mem_takeWhile_imp member
      cases shape : text.dropWhile isBlank with
      | nil =>
          have blank := List.dropWhile_eq_nil_iff.mp shape
          rw [words_of_blank blank]
          exact .blank blank
      | cons c tail =>
          -- The word is what stands before the first blank of the rest.
          have cutWord := List.takeWhile_append_dropWhile (p := fun c => !isBlank c) (l := c :: tail)
          have startsInk : isBlank c = false := by
            have notBlank := List.head?_dropWhile_not isBlank text
            simpa [shape] using notBlank
          have given : (c :: tail).takeWhile (fun c => !isBlank c) ≠ [] := by
            simp [startsInk]
          have ink : ∀ other ∈ (c :: tail).takeWhile (fun c => !isBlank c), ¬ isBlank other := by
            intro other member
            simpa using List.mem_takeWhile_imp member
          have maximal :
              ∀ other ∈ ((c :: tail).dropWhile fun c => !isBlank c).head?, isBlank other := by
            intro other first
            have stopped := List.head?_dropWhile_not (fun c => !isBlank c) (c :: tail)
            rw [Option.mem_def.mp first] at stopped
            simpa using stopped
          have shorter : ((c :: tail).dropWhile fun c => !isBlank c).length < text.length := by
            have lengths := congrArg List.length cutWord
            have dropped := List.length_dropWhile_le isBlank text
            have := List.length_pos_of_ne_nil given
            rw [shape] at dropped
            rw [List.length_append] at lengths
            omega
          have rest := inductionHypothesis _ shorter _ rfl
          have whole := Separates.word frontBlank given ink maximal rest
          rw [List.append_assoc, cutWord, ← shape, cutFront] at whole
          rw [whole.words_eq]
          exact whole

theorem words_eq_iff
    {text : List Char}
    {parts : List (List Char)} :
    words text = parts ↔ Separates text parts := by
  constructor
  · rintro rfl
    exact separates_words text
  · exact Separates.words_eq

/-! ### Blanks at the ends -/

theorem words_append_blank
    {back : List Char}
    (blank : ∀ c ∈ back, isBlank c)
    (text : List Char) :
    words (text ++ back) = words text := by
  cases back with
  | nil => rw [List.append_nil]
  | cons c back =>
      rw [words_append_cons (blank c List.mem_cons_self),
        words_of_blank fun other member => blank other (List.mem_cons_of_mem c member),
        List.append_nil]

/-- A text has the words that it has without the blanks at its ends. -/
@[simp]
theorem words_trim (text : List Char) :
    words (trim text) = words text := by
  obtain ⟨front, back, shape, frontBlank, backBlank⟩ := (trims_trim text).between
  calc words (trim text)
      = words (trim text ++ back) := (words_append_blank backBlank _).symm
    _ = words (front ++ (trim text ++ back)) := (words_append_of_blank frontBlank _).symm
    _ = words text := by rw [← List.append_assoc, ← shape]

/-- A text with a single word is that word between blanks. -/
theorem trim_eq_of_words_eq_singleton
    {text word : List Char}
    (single : words text = [word]) :
    trim text = word := by
  generalize shape : [word] = parts at single
  cases words_eq_iff.mp single with
  | blank => contradiction
  | @word front only rest words blank given ink maximal separates =>
      obtain ⟨rfl, rfl⟩ := List.cons.inj shape
      have restBlank : ∀ c ∈ rest, isBlank c := by
        cases separates with
        | blank blank => exact blank
      refine trim_eq_iff.mpr ⟨⟨front, rest, rfl, blank, restBlank⟩, fun given => ?_, fun given => ?_⟩
      · exact ink _ (List.head_mem given)
      · exact ink _ (List.getLast_mem given)

/-- A text without blanks at its ends begins as its first word does. -/
theorem head?_trim (text : List Char) :
    (trim text).head? = (words text).head?.bind List.head? := by
  have separates := separates_words (trim text)
  have startsInk := (trims_trim text).startsInk
  rw [words_trim] at separates
  generalize trim text = core at separates startsInk ⊢
  generalize words text = parts at separates ⊢
  cases separates with
  | blank blank =>
      cases core with
      | nil => rfl
      | cons c core => exact absurd (blank c List.mem_cons_self) (startsInk (by simp))
  | @word front word rest words blank given ink maximal separates =>
      cases front with
      | nil =>
          obtain ⟨c, tail, rfl⟩ := List.exists_cons_of_ne_nil given
          rfl
      | cons c front => exact absurd (blank c List.mem_cons_self) (startsInk (by simp))

/-- A text that neither begins nor ends with a blank is not trimmed. -/
theorem trim_of_ends
    {text : List Char}
    (startsInk : ∀ filled : text ≠ [], ¬ isBlank (text.head filled))
    (endsInk : ∀ filled : text ≠ [], ¬ isBlank (text.getLast filled)) :
    trim text = text :=
  trim_eq_iff.mpr ⟨⟨[], [], by simp, by simp, by simp⟩, startsInk, endsInk⟩

theorem trim_of_ink
    {text : List Char}
    (ink : ∀ c ∈ text, ¬ isBlank c) :
    trim text = text :=
  trim_of_ends (fun filled => ink _ (List.head_mem filled))
    (fun filled => ink _ (List.getLast_mem filled))

/-! ### Letter case -/

/-- Only the capitals change in lower case, and none of them becomes anything but a letter. -/
theorem toLower_cases (c : Char) :
    c.toLower = c ∨ (65 ≤ c.toNat ∧ c.toNat ≤ 90 ∧ c.toLower.toNat = c.toNat + 32) := by
  unfold Char.toLower
  split
  · next upper =>
      have above : 65 ≤ c.toNat := UInt32.le_iff_toNat_le.mp upper.1
      have below : c.toNat ≤ 90 := UInt32.le_iff_toNat_le.mp upper.2
      refine Or.inr ⟨above, below, ?_⟩
      change (c.val + 32).toNat = c.toNat + 32
      rw [UInt32.toNat_add]
      exact Nat.mod_eq_of_lt (show c.toNat + 32 < 2 ^ 32 by omega)
  · exact Or.inl rfl

theorem toLower_of_isBlank
    {c : Char}
    (blank : isBlank c) :
    c.toLower = c := by
  rcases toLower_cases c with same | ⟨capital, -, -⟩
  · exact same
  · exfalso
    rcases Bool.or_eq_true_iff.mp blank with space | control
    · obtain rfl := eq_of_beq space
      exact absurd capital (by decide)
    · have low : c.toNat ≤ 13 := of_decide_eq_true (Bool.and_eq_true_iff.mp control).2
      omega

/-- No letter and no digit is a blank. -/
theorem not_isBlank_of_isAlphanum
    {c : Char}
    (alphanum : c.toLower.isAlphanum) :
    ¬ isBlank c := by
  intro blank
  rw [toLower_of_isBlank blank] at alphanum
  have low : c.toNat ≤ 32 := by
    rcases Bool.or_eq_true_iff.mp blank with space | control
    · obtain rfl := eq_of_beq space
      decide
    · have : c.toNat ≤ 13 := of_decide_eq_true (Bool.and_eq_true_iff.mp control).2
      omega
  delta Char.isAlphanum Char.isAlpha Char.isUpper Char.isLower Char.isDigit at alphanum
  simp only [Bool.or_eq_true, Bool.and_eq_true, decide_eq_true_eq, ge_iff_le,
    UInt32.le_iff_toNat_le] at alphanum
  change c.val.toNat ≤ 32 at low
  have marks :
      ('A' : Char).val.toNat = 65 ∧ ('a' : Char).val.toNat = 97 ∧ ('0' : Char).val.toNat = 48 :=
    ⟨rfl, rfl, rfl⟩
  omega

/-- A text that differs from another in the case of letters only has no blank if that has none. -/
theorem not_isBlank_of_sameLetters
    {text name : List Char}
    (same : sameLetters text name)
    (ink : ∀ c ∈ lower name, ¬ isBlank c) :
    ∀ c ∈ text, ¬ isBlank c := by
  intro c member blank
  have letters : lower text = lower name := eq_of_beq same
  have inName : c ∈ lower name := by
    rw [← letters, ← toLower_of_isBlank blank]
    exact List.mem_map_of_mem member
  exact ink c inName blank

/-! ### Joined words -/

/-- What stands in a joined text stands in one of its parts or is the mark between them. -/
theorem mem_of_mem_intercalate
    {mark c : Char}
    {parts : List (List Char)}
    (member : c ∈ [mark].intercalate parts) :
    c = mark ∨ ∃ part ∈ parts, c ∈ part := by
  induction parts with
  | nil => contradiction
  | cons part parts inductionHypothesis =>
      cases parts with
      | nil =>
          rw [List.intercalate_singleton] at member
          exact Or.inr ⟨part, List.mem_cons_self, member⟩
      | cons next parts =>
          rw [List.intercalate_cons_cons, List.append_assoc, List.mem_append,
            List.singleton_append, List.mem_cons] at member
          rcases member with inPart | isMark | later
          · exact Or.inr ⟨part, List.mem_cons_self, inPart⟩
          · exact Or.inl isMark
          · rcases inductionHypothesis later with isMark | ⟨other, listed, inOther⟩
            · exact Or.inl isMark
            · exact Or.inr ⟨other, List.mem_cons_of_mem part listed, inOther⟩

theorem intercalate_ne_nil
    {mark : Char}
    {part : List Char}
    (given : part ≠ [])
    (parts : List (List Char)) :
    [mark].intercalate (part :: parts) ≠ [] := by
  cases parts with
  | nil => rwa [List.intercalate_singleton]
  | cons next parts => simp [List.intercalate_cons_cons]

/-- A text that is joined from words begins with the first of them and ends with the last, so that
no blank stands at its ends. -/
theorem trim_intercalate
    {mark : Char}
    {parts : List (List Char)}
    (given : ∀ word ∈ parts, word ≠ [])
    (ink : ∀ word ∈ parts, ∀ c ∈ word, ¬ isBlank c) :
    trim ([mark].intercalate parts) = [mark].intercalate parts := by
  have ends :
      ∀ filled : [mark].intercalate parts ≠ [],
        ¬ isBlank (([mark].intercalate parts).head filled) ∧
          ¬ isBlank (([mark].intercalate parts).getLast filled) := by
    induction parts with
    | nil => exact fun filled => absurd rfl filled
    | cons word parts inductionHypothesis =>
        have wordGiven := given word List.mem_cons_self
        have wordInk := ink word List.mem_cons_self
        cases parts with
        | nil =>
            simp only [List.intercalate_singleton]
            exact fun filled => ⟨wordInk _ (List.head_mem filled), wordInk _ (List.getLast_mem filled)⟩
        | cons next parts =>
            have restGiven : [mark].intercalate (next :: parts) ≠ [] :=
              intercalate_ne_nil (given next (by simp)) parts
            have restEnds := inductionHypothesis
              (fun other member => given other (List.mem_cons_of_mem word member))
              (fun other member => ink other (List.mem_cons_of_mem word member)) restGiven
            simp only [List.intercalate_cons_cons, List.append_assoc]
            intro filled
            rw [List.head_append_of_ne_nil wordGiven, List.getLast_append_of_ne_nil _ (by simp),
              List.getLast_append_of_ne_nil _ restGiven]
            exact ⟨wordInk _ (List.head_mem wordGiven), restEnds.2⟩
  exact trim_of_ends (fun filled => (ends filled).1) (fun filled => (ends filled).2)

/-- Words that are joined by blanks are found again. -/
theorem words_intercalate
    {mark : Char}
    (blank : isBlank mark)
    {parts : List (List Char)}
    (given : ∀ word ∈ parts, word ≠ [])
    (ink : ∀ word ∈ parts, ∀ c ∈ word, ¬ isBlank c) :
    words ([mark].intercalate parts) = parts := by
  induction parts with
  | nil => exact words_nil
  | cons word parts inductionHypothesis =>
      have wordIsWord :=
        words_of_ink (given word List.mem_cons_self) (ink word List.mem_cons_self)
      cases parts with
      | nil => rw [List.intercalate_singleton, wordIsWord]
      | cons next parts =>
          have rest := inductionHypothesis
            (fun other member => given other (List.mem_cons_of_mem word member))
            (fun other member => ink other (List.mem_cons_of_mem word member))
          rw [List.intercalate_cons_cons, List.append_assoc, List.singleton_append,
            words_append_cons blank, wordIsWord, rest]
          rfl

end Text

end Cadence
