import Cadence.Schedule.Parser
import Cadence.Schedule.Printer
import Cadence.Proofs.Words
import Cadence.Proofs.Field.Canonical
import Cadence.Proofs.Schedule.WellFormed

namespace Cadence

/-!
# Which texts are schedules

A text is accepted as a schedule if and only if it is one of the names or a list
of words, one for each field, that are accepted for the kinds at their places.
The fields are what the words denote, so that blanks between and around them say
nothing; each of them is canonical.  The leftmost word at fault decides the
error.

The reader names every field on its own, with and without a seconds field.  Here
both forms are one: the words are read one after another, each for its kind.
-/

namespace Schedule

/-! ### Fields by their places -/

/-- The kinds of the fields of a schedule, in the order in which they are written. -/
def fieldKinds (withSeconds : Bool) : List FieldKind :=
  if withSeconds then FieldKind.all else FieldKind.all.tail

/-- The words of a text, each with the kind of the field at its place. -/
def placed (withSeconds : Bool) (words : List (List Char)) : List (FieldKind × List Char) :=
  (fieldKinds withSeconds).zip words

/-- A word, read for the field at its place. -/
def readField (field : FieldKind × List Char) : Except ParseError FieldSet :=
  FieldSet.parseChars field.1 field.2

/-- The schedule with the given fields, read from a text. -/
def ofFields (raw : List Char) (withSeconds : Bool) (sets : List FieldSet) : Schedule :=
  let field (place : Nat) (kind : FieldKind) : FieldSet :=
    sets.getD (place + if withSeconds then 1 else 0) (.empty kind)
  ⟨String.ofList raw, if withSeconds then sets.head? else none, field 0 .minute, field 1 .hour,
    field 2 .day, field 3 .month, field 4 .weekday⟩

@[simp]
theorem length_fieldKinds (withSeconds : Bool) :
    (fieldKinds withSeconds).length = fieldCount withSeconds := by
  cases withSeconds <;> rfl

/-- Lists of as many things as a schedule has fields, written out. -/
private theorem fieldCount_cases
    {α : Type}
    {withSeconds : Bool}
    {given : List α}
    (count : given.length = fieldCount withSeconds) :
    (∃ first second third fourth fifth,
        withSeconds = false ∧ given = [first, second, third, fourth, fifth]) ∨
      ∃ first second third fourth fifth sixth,
        withSeconds = true ∧ given = [first, second, third, fourth, fifth, sixth] := by
  cases withSeconds with
  | false =>
      match given, count with
      | [first, second, third, fourth, fifth], _ =>
          exact Or.inl ⟨first, second, third, fourth, fifth, rfl, rfl⟩
  | true =>
      match given, count with
      | [first, second, third, fourth, fifth, sixth], _ =>
          exact Or.inr ⟨first, second, third, fourth, fifth, sixth, rfl, rfl⟩

@[simp]
theorem raw_ofFields
    (raw : List Char)
    (withSeconds : Bool)
    (sets : List FieldSet) :
    (ofFields raw withSeconds sets).raw = String.ofList raw :=
  rfl

theorem writtenFields_ofFields
    {raw : List Char}
    {withSeconds : Bool}
    {sets : List FieldSet}
    (count : sets.length = fieldCount withSeconds) :
    (ofFields raw withSeconds sets).writtenFields = sets := by
  rcases fieldCount_cases count with
    ⟨first, second, third, fourth, fifth, rfl, rfl⟩ |
      ⟨first, second, third, fourth, fifth, sixth, rfl, rfl⟩ <;>
    rfl

theorem hasSeconds_ofFields
    {raw : List Char}
    {withSeconds : Bool}
    {sets : List FieldSet}
    (count : sets.length = fieldCount withSeconds) :
    (ofFields raw withSeconds sets).hasSeconds = withSeconds := by
  rcases fieldCount_cases count with
    ⟨first, second, third, fourth, fifth, rfl, rfl⟩ |
      ⟨first, second, third, fourth, fifth, sixth, rfl, rfl⟩ <;>
    rfl

/-- The text decides nothing about the fields. -/
theorem ofFields_withRaw
    (raw other : List Char)
    (withSeconds : Bool)
    (sets : List FieldSet) :
    { ofFields raw withSeconds sets with raw := String.ofList other } =
      ofFields other withSeconds sets :=
  rfl

/-- As many words as a schedule has fields are read one after another, each for its kind. -/
theorem ofWords_eq
    {raw : List Char}
    {withSeconds : Bool}
    {words : List (List Char)}
    (count : words.length = fieldCount withSeconds) :
    ofWords raw withSeconds words =
      ((placed withSeconds words).mapM readField).map (ofFields raw withSeconds) := by
  change _ = ofFields raw withSeconds <$> _
  rcases fieldCount_cases count with
    ⟨first, second, third, fourth, fifth, rfl, rfl⟩ |
      ⟨first, second, third, fourth, fifth, sixth, rfl, rfl⟩
  · have places :
        placed false [first, second, third, fourth, fifth] =
          [(.minute, first), (.hour, second), (.day, third), (.month, fourth), (.weekday, fifth)] :=
      rfl
    simp only [places, ofWords, List.mapM_cons, List.mapM_nil, readField, map_bind, map_pure,
      bind_assoc, pure_bind]
    rfl
  · have places :
        placed true [first, second, third, fourth, fifth, sixth] =
          [(.second, first), (.minute, second), (.hour, third), (.day, fourth), (.month, fifth),
            (.weekday, sixth)] :=
      rfl
    simp only [places, ofWords, List.mapM_cons, List.mapM_nil, readField, map_bind, map_pure,
      bind_assoc, pure_bind]
    rfl

theorem ofWords_eq_error_of_count
    {raw : List Char}
    {withSeconds : Bool}
    {words : List (List Char)}
    (count : words.length ≠ fieldCount withSeconds) :
    ofWords raw withSeconds words = .error (wrongCount raw withSeconds words.length) := by
  unfold ofWords
  split
  · exact absurd rfl count
  · exact absurd rfl count
  · rfl

/-- The schedule of words has the fields that the words denote, and no more words than fields. -/
theorem ofWords_eq_ok_iff
    {raw : List Char}
    {withSeconds : Bool}
    {words : List (List Char)}
    {schedule : Schedule} :
    ofWords raw withSeconds words = .ok schedule ↔
      words.length = fieldCount withSeconds ∧
        ∃ sets,
          (placed withSeconds words).mapM readField = .ok sets ∧
            ofFields raw withSeconds sets = schedule := by
  by_cases count : words.length = fieldCount withSeconds
  · rw [ofWords_eq count]
    cases (placed withSeconds words).mapM readField <;> simp [Except.map, count]
  · rw [ofWords_eq_error_of_count count]
    simp [count]

/-! ### Names -/

/-- The fields that a named schedule stands for, with a seconds field or without. -/
def expansion (withSeconds : Bool) (fields : String) : List Char :=
  if withSeconds then '0' :: ' ' :: fields.toList else fields.toList

/-- A text stands for the fields of the name that it writes. -/
theorem named?_eq_some
    {text : List Char}
    {entry : String × String}
    (listed : entry ∈ namedSchedules)
    (same : Text.sameLetters text entry.1.toList) :
    named? text = some entry.2 := by
  have letters : Text.lower text = Text.lower entry.1.toList := by
    simpa [Text.sameLetters] using same
  have byName : named? text = named? entry.1.toList := by
    simp only [named?, Text.sameLetters, letters]
  have each : ∀ entry ∈ namedSchedules, named? entry.1.toList = some entry.2 := by
    decide +kernel
  rw [byName, each entry listed]

theorem exists_of_named?_eq_some
    {text : List Char}
    {fields : String}
    (found : named? text = some fields) :
    ∃ entry ∈ namedSchedules, Text.sameLetters text entry.1.toList ∧ entry.2 = fields := by
  obtain ⟨entry, isFirst, shape⟩ := Option.map_eq_some_iff.mp found
  have same := List.find?_some isFirst
  exact ⟨entry, List.mem_of_find?_eq_some isFirst, same, shape⟩

/-- A text that writes a name begins with an at sign and has no blank in it. -/
theorem shape_of_sameLetters
    {text : List Char}
    {entry : String × String}
    (listed : entry ∈ namedSchedules)
    (same : Text.sameLetters text entry.1.toList) :
    text.head? = some '@' ∧ ∀ c ∈ text, ¬ Text.isBlank c := by
  have each :
      (namedSchedules.all fun entry =>
        (Text.lower entry.1.toList).head? == some '@' &&
          (Text.lower entry.1.toList).all fun c => !Text.isBlank c) = true := by
    decide +kernel
  have shape := List.all_eq_true.mp each entry listed
  simp only [Bool.and_eq_true, beq_iff_eq, List.all_eq_true, Bool.not_eq_true'] at shape
  have startsAt := shape.1
  have ink : ∀ c ∈ Text.lower entry.1.toList, ¬ Text.isBlank c := by simpa using shape.2
  refine ⟨?_, Text.not_isBlank_of_sameLetters same ink⟩
  have letters : Text.lower text = Text.lower entry.1.toList := eq_of_beq same
  rw [← letters, Text.lower, List.head?_map] at startsAt
  obtain ⟨c, first, lowered⟩ := Option.map_eq_some_iff.mp startsAt
  rcases Text.toLower_cases c with unchanged | ⟨capital, -, raised⟩
  · rw [first, ← unchanged, lowered]
  · rw [lowered] at raised
    have : ('@' : Char).toNat = 64 := rfl
    omega

/-- A name gives its fields, and a text that is no name is left as it is unless it begins like
one. -/
theorem expand_eq_ok_iff
    {trimmed expanded : List Char}
    {withSeconds : Bool} :
    expand trimmed withSeconds = .ok expanded ↔
      (trimmed.head? ≠ some '@' ∧ expanded = trimmed) ∨
        ∃ entry ∈ namedSchedules,
          Text.sameLetters trimmed entry.1.toList ∧ expanded = expansion withSeconds entry.2 := by
  constructor
  · intro done
    unfold expand at done
    split at done
    · split at done
      · next fields found =>
          obtain ⟨entry, listed, same, rfl⟩ := exists_of_named?_eq_some found
          exact Or.inr ⟨entry, listed, same, (Except.ok.inj done).symm⟩
      · contradiction
    · next noName =>
        refine Or.inl ⟨fun starts => ?_, (Except.ok.inj done).symm⟩
        obtain ⟨rest, shape⟩ := List.head?_eq_some_iff.mp starts
        exact noName rest shape
  · rintro (⟨noName, rfl⟩ | ⟨entry, listed, same, rfl⟩)
    · unfold expand
      split
      · simp at noName
      · rfl
    · obtain ⟨rest, rfl⟩ := List.head?_eq_some_iff.mp (shape_of_sameLetters listed same).1
      simp only [expand, named?_eq_some listed same]
      rfl

/-- The fields of a name are accepted in both forms. -/
theorem expansion_accepted
    {entry : String × String}
    (listed : entry ∈ namedSchedules)
    (withSeconds : Bool) :
    ∃ words sets,
      Text.words (expansion withSeconds entry.2) = words ∧
        words.length = fieldCount withSeconds ∧
          (placed withSeconds words).mapM readField = .ok sets := by
  have each :
      ∀ entry ∈ namedSchedules, ∀ withSeconds : Bool,
        (Text.words (expansion withSeconds entry.2)).length = fieldCount withSeconds ∧
          ((placed withSeconds (Text.words (expansion withSeconds entry.2))).mapM
            readField).toOption.isSome := by
    decide +kernel
  obtain ⟨count, accepted⟩ := each entry listed withSeconds
  cases read : (placed withSeconds (Text.words (expansion withSeconds entry.2))).mapM readField with
  | error error =>
      rw [read] at accepted
      contradiction
  | ok sets => exact ⟨_, sets, rfl, count, read⟩

/-! ### Texts -/

/-- The words that a trimmed text gives to the fields: its own, or those that its name stands for. -/
inductive Spells (withSeconds : Bool) : List Char → List (List Char) → Prop
  | named {text : List Char} {words : List (List Char)} {entry : String × String}
      (listed : entry ∈ namedSchedules)
      (same : Text.sameLetters text entry.1.toList)
      (separates : Text.Separates (expansion withSeconds entry.2) words) :
      Spells withSeconds text words
  | fields {text : List Char} {words : List (List Char)}
      (noName : text.head? ≠ some '@')
      (separates : Text.Separates text words) :
      Spells withSeconds text words

theorem parseChars_of_blank
    {text : List Char}
    {withSeconds : Bool}
    (blank : Text.trim text = []) :
    parseChars text withSeconds = .error ⟨.emptyField, none, String.ofList text, none, ""⟩ := by
  rw [parseChars, blank]

theorem parseChars_of_not_blank
    {text : List Char}
    {withSeconds : Bool}
    (notBlank : Text.trim text ≠ []) :
    parseChars text withSeconds =
      (expand (Text.trim text) withSeconds >>= fun expanded =>
        ofWords (Text.trim text) withSeconds (Text.words expanded)) := by
  unfold parseChars
  split
  · next blank => exact absurd blank notBlank
  · rfl

/-- A text that gives words to the fields is read as the schedule of those words. -/
theorem Spells.parseChars_eq
    {text : List Char}
    {withSeconds : Bool}
    {words : List (List Char)}
    (spells : Spells withSeconds (Text.trim text) words)
    (notBlank : Text.trim text ≠ []) :
    parseChars text withSeconds = ofWords (Text.trim text) withSeconds words := by
  rw [parseChars_of_not_blank notBlank]
  cases spells with
  | named listed same separates =>
      rw [expand_eq_ok_iff.mpr (Or.inr ⟨_, listed, same, rfl⟩), ← separates.words_eq]
      rfl
  | fields noName separates =>
      rw [expand_eq_ok_iff.mpr (Or.inl ⟨noName, rfl⟩), ← separates.words_eq]
      rfl

/-- No text gives no word to the fields and is accepted. -/
theorem Spells.trim_ne_nil
    {text : List Char}
    {withSeconds : Bool}
    {words : List (List Char)}
    (spells : Spells withSeconds (Text.trim text) words)
    (count : words.length = fieldCount withSeconds) :
    Text.trim text ≠ [] := by
  intro blank
  rw [blank] at spells
  cases spells with
  | named listed same _ => exact absurd (shape_of_sameLetters listed same).1 (by simp)
  | fields _ separates =>
      rw [← separates.words_eq, Text.words_nil] at count
      cases withSeconds <;> contradiction

/-- The schedules that a text is read as: its words are as many as the fields, and their sets are
the fields. -/
theorem parseChars_eq_ok_iff
    {text : List Char}
    {withSeconds : Bool}
    {schedule : Schedule} :
    parseChars text withSeconds = .ok schedule ↔
      ∃ words sets,
        Spells withSeconds (Text.trim text) words ∧
          words.length = fieldCount withSeconds ∧
            (placed withSeconds words).mapM readField = .ok sets ∧
              ofFields (Text.trim text) withSeconds sets = schedule := by
  constructor
  · intro parsed
    by_cases blank : Text.trim text = []
    · rw [parseChars_of_blank blank] at parsed
      contradiction
    · rw [parseChars_of_not_blank blank] at parsed
      obtain ⟨expanded, done, read⟩ := exists_of_bind_eq_ok parsed
      obtain ⟨count, sets, setsRead, shape⟩ := ofWords_eq_ok_iff.mp read
      refine ⟨Text.words expanded, sets, ?_, count, setsRead, shape⟩
      rcases expand_eq_ok_iff.mp done with ⟨noName, rfl⟩ | ⟨entry, listed, same, rfl⟩
      · exact .fields noName (Text.separates_words _)
      · exact .named listed same (Text.separates_words _)
  · rintro ⟨words, sets, spells, count, setsRead, shape⟩
    rw [spells.parseChars_eq (spells.trim_ne_nil count)]
    exact ofWords_eq_ok_iff.mpr ⟨count, sets, setsRead, shape⟩

/-- No word that is given to a field is blank. -/
theorem Spells.word_not_blank
    {text : List Char}
    {withSeconds : Bool}
    {words : List (List Char)}
    (spells : Spells withSeconds text words) :
    ∀ word ∈ words, Text.trim word ≠ [] := by
  intro word member
  cases spells with
  | named _ _ separates => exact Text.trim_ne_nil_of_mem_words (separates.words_eq ▸ member)
  | fields _ separates => exact Text.trim_ne_nil_of_mem_words (separates.words_eq ▸ member)

/-- A text gives one list of words to the fields. -/
theorem Spells.unique
    {text : List Char}
    {withSeconds : Bool}
    {words others : List (List Char)}
    (spells : Spells withSeconds text words)
    (alsoSpells : Spells withSeconds text others) :
    words = others := by
  cases spells with
  | named listed same separates =>
      cases alsoSpells with
      | named alsoListed alsoSame alsoSeparates =>
          have sameFields :=
            (named?_eq_some listed same).symm.trans (named?_eq_some alsoListed alsoSame)
          rw [← separates.words_eq, ← alsoSeparates.words_eq, Option.some.inj sameFields]
      | fields noName _ => exact absurd (shape_of_sameLetters listed same).1 noName
  | fields noName separates =>
      cases alsoSpells with
      | named listed same _ => exact absurd (shape_of_sameLetters listed same).1 noName
      | fields _ alsoSeparates => rw [← separates.words_eq, ← alsoSeparates.words_eq]

/-! ### Canonical fields -/

/-- A schedule with a canonical set of the right kind in every field. -/
def Canonical (schedule : Schedule) : Prop :=
  List.Forall₂ (fun kind set => FieldSet.Canonical kind set) (fieldKinds schedule.hasSeconds)
    schedule.writtenFields

/-- Canonical sets are of the kinds at their places. -/
theorem map_kind_of_canonical
    {kinds : List FieldKind}
    {sets : List FieldSet}
    (canonical : List.Forall₂ (fun kind set => FieldSet.Canonical kind set) kinds sets) :
    sets.map FieldSet.kind = kinds := by
  induction canonical with
  | nil => rfl
  | cons first _ inductionHypothesis =>
      rw [List.map_cons, first.kind_eq, inductionHypothesis]

theorem canonical_of_mem
    {kinds : List FieldKind}
    {sets : List FieldSet}
    (canonical : List.Forall₂ (fun kind set => FieldSet.Canonical kind set) kinds sets)
    {set : FieldSet}
    (member : set ∈ sets) :
    ∃ kind, set.Canonical kind := by
  induction canonical with
  | nil => contradiction
  | cons first _ inductionHypothesis =>
      rcases List.mem_cons.mp member with rfl | later
      · exact ⟨_, first⟩
      · exact inductionHypothesis later

/-- The sets of words that are not blank are canonical, each of the kind at its place. -/
theorem canonical_of_forall₂
    {kinds : List FieldKind}
    {words : List (List Char)}
    {sets : List FieldSet}
    (count : words.length = kinds.length)
    (notBlank : ∀ word ∈ words, Text.trim word ≠ [])
    (read :
      List.Forall₂ (fun field set => readField field = .ok set) (kinds.zip words) sets) :
    List.Forall₂ (fun kind set => FieldSet.Canonical kind set) kinds sets := by
  induction kinds generalizing words sets with
  | nil =>
      cases read
      exact .nil
  | cons kind kinds inductionHypothesis =>
      cases words with
      | nil => contradiction
      | cons word words =>
          cases read with
          | cons wordRead othersRead =>
              refine .cons ?_ (inductionHypothesis (Nat.succ.inj count) ?_ othersRead)
              · exact FieldSet.canonical_of_parseChars (notBlank word List.mem_cons_self) wordRead
              · exact fun other member => notBlank other (List.mem_cons_of_mem word member)

theorem length_placed
    {withSeconds : Bool}
    {words : List (List Char)}
    (count : words.length = fieldCount withSeconds) :
    (placed withSeconds words).length = fieldCount withSeconds := by
  rw [placed, List.length_zip, length_fieldKinds, count, Nat.min_self]

/-- Every field of a schedule that is read is canonical. -/
theorem canonical_of_parseChars
    {text : List Char}
    {withSeconds : Bool}
    {schedule : Schedule}
    (parsed : parseChars text withSeconds = .ok schedule) :
    schedule.hasSeconds = withSeconds ∧ schedule.Canonical := by
  obtain ⟨words, sets, spells, count, setsRead, rfl⟩ := parseChars_eq_ok_iff.mp parsed
  have each := mapM_eq_ok_iff.mp setsRead
  have setCount : sets.length = fieldCount withSeconds :=
    each.length_eq.symm.trans (length_placed count)
  have secondsShown : (ofFields (Text.trim text) withSeconds sets).hasSeconds = withSeconds :=
    hasSeconds_ofFields setCount
  refine ⟨secondsShown, ?_⟩
  rw [Canonical, secondsShown, writtenFields_ofFields setCount]
  exact canonical_of_forall₂ (count.trans (length_fieldKinds withSeconds).symm)
    spells.word_not_blank each

/-! ### Exactly which texts, and as what -/

/-- A trimmed text that is a schedule: a name in either case of letters, or as many words as there
are fields, each of them accepted for the kind at its place. -/
inductive IsSchedule (withSeconds : Bool) : List Char → Prop
  | named {text : List Char} {entry : String × String}
      (listed : entry ∈ namedSchedules)
      (same : Text.sameLetters text entry.1.toList) :
      IsSchedule withSeconds text
  | fields {text : List Char} {words : List (List Char)}
      (noName : text.head? ≠ some '@')
      (separates : Text.Separates text words)
      (count : words.length = fieldCount withSeconds)
      (accepted :
        ∀ field ∈ (fieldKinds withSeconds).zip words,
          ∃ set, FieldSet.parseChars field.1 field.2 = .ok set) :
      IsSchedule withSeconds text

/-- What a schedule that is read from a trimmed text has in it. -/
structure Faithful (withSeconds : Bool) (trimmed : List Char) (schedule : Schedule) : Prop where
  raw : schedule.raw = String.ofList trimmed
  hasSeconds : schedule.hasSeconds = withSeconds
  kinds : schedule.writtenFields.map FieldSet.kind = fieldKinds withSeconds
  given :
    ∀ set ∈ schedule.writtenFields,
      set.isEmpty = false ∧
        IsLeast {value | set.contains value} set.lowerBound ∧
          IsGreatest {value | set.contains value} set.upperBound
  fields :
    ∀ words,
      Spells withSeconds trimmed words →
        List.Forall₂ (fun field set => FieldSet.parseChars field.1 field.2 = .ok set)
          ((fieldKinds withSeconds).zip words) schedule.writtenFields

theorem exists_parseChars_iff
    {text : List Char}
    {withSeconds : Bool} :
    (∃ schedule, parseChars text withSeconds = .ok schedule) ↔
      IsSchedule withSeconds (Text.trim text) := by
  constructor
  · rintro ⟨schedule, parsed⟩
    obtain ⟨words, sets, spells, count, setsRead, -⟩ := parseChars_eq_ok_iff.mp parsed
    cases spells with
    | named listed same _ => exact .named listed same
    | fields noName separates =>
        exact .fields noName separates count (exists_mapM_eq_ok_iff.mp ⟨sets, setsRead⟩)
  · intro isSchedule
    cases isSchedule with
    | named listed same =>
        obtain ⟨words, sets, shape, count, setsRead⟩ := expansion_accepted listed withSeconds
        have spells := Spells.named listed same (Text.words_eq_iff.mp shape)
        exact ⟨_, parseChars_eq_ok_iff.mpr ⟨words, sets, spells, count, setsRead, rfl⟩⟩
    | fields noName separates count accepted =>
        obtain ⟨sets, setsRead⟩ := exists_mapM_eq_ok_iff.mpr accepted
        have spells : Spells withSeconds (Text.trim text) _ := .fields noName separates
        exact ⟨_, parseChars_eq_ok_iff.mpr ⟨_, sets, spells, count, setsRead, rfl⟩⟩

theorem faithful_of_parseChars
    {text : List Char}
    {withSeconds : Bool}
    {schedule : Schedule}
    (parsed : parseChars text withSeconds = .ok schedule) :
    Faithful withSeconds (Text.trim text) schedule := by
  obtain ⟨hasSeconds, canonical⟩ := canonical_of_parseChars parsed
  rw [Canonical, hasSeconds] at canonical
  obtain ⟨words, sets, spells, count, setsRead, rfl⟩ := parseChars_eq_ok_iff.mp parsed
  have each := mapM_eq_ok_iff.mp setsRead
  have shown : (ofFields (Text.trim text) withSeconds sets).writtenFields = sets :=
    writtenFields_ofFields (each.length_eq.symm.trans (length_placed count))
  refine ⟨rfl, hasSeconds, map_kind_of_canonical canonical, ?_, ?_⟩
  · intro set member
    obtain ⟨kind, setCanonical⟩ := canonical_of_mem canonical member
    exact ⟨setCanonical.isEmpty_eq_false, setCanonical.lowerBound_isLeast,
      setCanonical.upperBound_isGreatest⟩
  · intro others alsoSpells
    rw [shown, ← spells.unique alsoSpells]
    exact each

/-- The text of a schedule is read as that schedule again. -/
theorem parseChars_raw
    {text : List Char}
    {withSeconds : Bool}
    {schedule : Schedule}
    (parsed : parseChars text withSeconds = .ok schedule) :
    parseChars schedule.raw.toList withSeconds = .ok schedule := by
  rw [(faithful_of_parseChars parsed).raw, String.toList_ofList]
  rw [parseChars_eq_ok_iff] at parsed ⊢
  rwa [Text.trim_trim]

/-- Texts with the same words give the same words to the fields: a name is a single word. -/
theorem Spells.of_same_words
    {text other : List Char}
    {withSeconds : Bool}
    {words : List (List Char)}
    (spells : Spells withSeconds (Text.trim text) words)
    (same : Text.words other = Text.words text) :
    Spells withSeconds (Text.trim other) words := by
  generalize core : Text.trim text = trimmed at spells
  cases spells with
  | named listed sameName separates =>
      obtain ⟨startsAt, ink⟩ := shape_of_sameLetters listed sameName
      have given : trimmed ≠ [] := by
        rintro rfl
        contradiction
      have single : Text.words other = [trimmed] := by
        rw [same, ← Text.words_trim text, core, Text.words_of_ink given ink]
      rw [Text.trim_eq_of_words_eq_singleton single]
      exact .named listed sameName separates
  | fields noName separates =>
      have sameStart : (Text.trim other).head? = trimmed.head? := by
        rw [← core, Text.head?_trim, Text.head?_trim, same]
      refine .fields (sameStart ▸ noName) (Text.words_eq_iff.mp ?_)
      rw [Text.words_trim, same, ← Text.words_trim text, core, separates.words_eq]

/-- The fields of a schedule depend on the words of its text only. -/
theorem parseChars_of_same_words
    {text other : List Char}
    {withSeconds : Bool}
    {schedule : Schedule}
    (parsed : parseChars text withSeconds = .ok schedule)
    (same : Text.words other = Text.words text) :
    parseChars other withSeconds =
      .ok { schedule with raw := String.ofList (Text.trim other) } := by
  obtain ⟨words, sets, spells, count, setsRead, rfl⟩ := parseChars_eq_ok_iff.mp parsed
  exact parseChars_eq_ok_iff.mpr
    ⟨words, sets, spells.of_same_words same, count, setsRead,
      (ofFields_withRaw (Text.trim text) (Text.trim other) withSeconds sets).symm⟩

/-- A text with the right number of words is refused for the leftmost word at fault. -/
theorem parseChars_eq_error_iff
    {text : List Char}
    {withSeconds : Bool}
    {words : List (List Char)}
    {error : ParseError}
    (spells : Spells withSeconds (Text.trim text) words)
    (count : words.length = fieldCount withSeconds) :
    parseChars text withSeconds = .error error ↔
      ∃ before field after,
        (fieldKinds withSeconds).zip words = before ++ field :: after ∧
          (∀ earlier ∈ before, ∃ set, FieldSet.parseChars earlier.1 earlier.2 = .ok set) ∧
            FieldSet.parseChars field.1 field.2 = .error error := by
  have refused :
      ((placed withSeconds words).mapM readField).map (ofFields (Text.trim text) withSeconds) =
          .error error ↔
        (placed withSeconds words).mapM readField = .error error := by
    cases (placed withSeconds words).mapM readField <;> simp [Except.map]
  rw [spells.parseChars_eq (spells.trim_ne_nil count), ofWords_eq count, refused]
  exact mapM_eq_error_iff

/-- The reader of schedules is exact.  It accepts the names and the texts with the right number of
words, each accepted for its field; every schedule that it gives is faithful to its text and is read
again from the text that it keeps; the leftmost word at fault decides the error of a text with the
right number of words; and blanks between and around the words say nothing. -/
theorem parseChars_exact
    (text : List Char)
    (withSeconds : Bool) :
    ((∃ schedule, parseChars text withSeconds = .ok schedule) ↔
        IsSchedule withSeconds (Text.trim text)) ∧
      (∀ schedule,
        parseChars text withSeconds = .ok schedule →
          Faithful withSeconds (Text.trim text) schedule ∧
            parseChars schedule.raw.toList withSeconds = .ok schedule) ∧
      (∀ words error,
        (Text.trim text).head? ≠ some '@' →
          Text.Separates (Text.trim text) words →
            words.length = fieldCount withSeconds →
              (parseChars text withSeconds = .error error ↔
                ∃ before field after,
                  (fieldKinds withSeconds).zip words = before ++ field :: after ∧
                    (∀ earlier ∈ before,
                      ∃ set, FieldSet.parseChars earlier.1 earlier.2 = .ok set) ∧
                      FieldSet.parseChars field.1 field.2 = .error error)) ∧
      ∀ other words,
        Text.Separates text words →
          Text.Separates other words →
            ∀ schedule,
              parseChars text withSeconds = .ok schedule →
                parseChars other withSeconds =
                  .ok { schedule with raw := String.ofList (Text.trim other) } := by
  refine ⟨exists_parseChars_iff, fun schedule parsed => ?_, ?_, ?_⟩
  · exact ⟨faithful_of_parseChars parsed, parseChars_raw parsed⟩
  · intro words error noName separates count
    exact parseChars_eq_error_iff (.fields noName separates) count
  · intro other words separates otherSeparates schedule parsed
    apply parseChars_of_same_words parsed
    rw [separates.words_eq, otherSeparates.words_eq]

/-- Half hours of office days, with blanks of several kinds, and a text with two words at fault. -/
theorem parseChars_officeDays :
    (∃ schedule,
        parseChars " 0,30\t9-17  * jan-mar/2 MON-fri\n".toList false = .ok schedule ∧
          Faithful false "0,30\t9-17  * jan-mar/2 MON-fri".toList schedule ∧
            parseChars schedule.raw.toList false = .ok schedule ∧
              parseChars "0,30 9-17 * jan-mar/2 MON-fri".toList false =
                .ok { schedule with raw := "0,30 9-17 * jan-mar/2 MON-fri" }) ∧
      parseChars "5 9 32 jan x".toList false =
        .error ⟨.valueAboveMaximum, some .day, "32", some 32, ""⟩ := by
  constructor
  · have exact := parseChars_exact " 0,30\t9-17  * jan-mar/2 MON-fri\n".toList false
    have parsed :
        parseChars " 0,30\t9-17  * jan-mar/2 MON-fri\n".toList false =
          .ok ⟨"0,30\t9-17  * jan-mar/2 MON-fri", none, ⟨.minute, 1073741825, some (0, 30)⟩,
            ⟨.hour, 261632, some (9, 17)⟩, ⟨.day, 2147483647, some (1, 31)⟩,
            ⟨.month, 5, some (1, 3)⟩, ⟨.weekday, 62, some (1, 5)⟩⟩ := by
      decide +kernel
    obtain ⟨faithful, again⟩ := exact.2.1 _ parsed
    refine ⟨_, parsed, ?_, again, ?_⟩
    · have core :
          Text.trim " 0,30\t9-17  * jan-mar/2 MON-fri\n".toList =
            "0,30\t9-17  * jan-mar/2 MON-fri".toList := by
        decide +kernel
      rwa [core] at faithful
    · have words :
          Text.words " 0,30\t9-17  * jan-mar/2 MON-fri\n".toList =
              ["0,30".toList, "9-17".toList, ['*'], "jan-mar/2".toList, "MON-fri".toList] ∧
            Text.words "0,30 9-17 * jan-mar/2 MON-fri".toList =
              ["0,30".toList, "9-17".toList, ['*'], "jan-mar/2".toList, "MON-fri".toList] := by
        decide +kernel
      have core :
          String.ofList (Text.trim "0,30 9-17 * jan-mar/2 MON-fri".toList) =
            "0,30 9-17 * jan-mar/2 MON-fri" := by
        decide +kernel
      have same :=
        exact.2.2.2 _ _ (Text.words_eq_iff.mp words.1) (Text.words_eq_iff.mp words.2) _ parsed
      rwa [core] at same
  · have separates :
        Text.Separates (Text.trim "5 9 32 jan x".toList)
          [['5'], ['9'], ['3', '2'], "jan".toList, ['x']] :=
      Text.words_eq_iff.mp (by decide +kernel)
    apply ((parseChars_exact "5 9 32 jan x".toList false).2.2.1 _ _ (by decide +kernel) separates
      rfl).mpr
    refine ⟨[(.minute, ['5']), (.hour, ['9'])], (.day, ['3', '2']),
      [(.month, "jan".toList), (.weekday, ['x'])], rfl, ?_, by decide +kernel⟩
    intro earlier member
    rcases List.mem_pair.mp member with rfl | rfl
    · exact ⟨⟨.minute, 32, some (5, 5)⟩, by decide +kernel⟩
    · exact ⟨⟨.hour, 512, some (9, 9)⟩, by decide +kernel⟩

end Schedule

end Cadence
