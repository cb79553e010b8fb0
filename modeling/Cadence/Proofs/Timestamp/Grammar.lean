import Cadence.Proofs.CivilOrder
import Cadence.Proofs.Field.Grammar
import Cadence.Proofs.Words
import Cadence.Timestamp

namespace Cadence

/-!
# The grammar of a time stamp

What a text has to look like to be a time stamp, as relations between texts and
what they write.  A minus sign is both a sign and the separator of a date, but no
text can be taken in two ways: a number goes on as long as there are digits, so
that a separator is the first character that is none.

The reader finds a number of the grammar in front of a text exactly if there is
one, and leaves what follows it.  It keeps 32 bits of the number.
-/

namespace Timestamp

/-! ### Relations between texts and what they write -/

/-- Digits, or digits after a sign. -/
inductive WritesSigned : List Char → Int → Prop
  | plain {digits : List Char} {number : Nat}
      (writes : Decimal.WritesNatural digits number) :
      WritesSigned digits number
  | plus {digits : List Char} {number : Nat}
      (writes : Decimal.WritesNatural digits number) :
      WritesSigned ('+' :: digits) number
  | minus {digits : List Char} {number : Nat}
      (writes : Decimal.WritesNatural digits number) :
      WritesSigned ('-' :: digits) (-number)

/-- An integer after any number of blanks. -/
inductive WritesNumber : List Char → Int → Prop
  | intro {blanks signed : List Char} {value : Int}
      (blank : ∀ c ∈ blanks, Text.isBlank c)
      (writes : WritesSigned signed value) :
      WritesNumber (blanks ++ signed) value

/-- Three integers separated by `mark`. -/
inductive WritesTriple (mark : Char) : List Char → Int → Int → Int → Prop
  | intro {first second third : List Char} {a b c : Int}
      (writesFirst : WritesNumber first a)
      (writesSecond : WritesNumber second b)
      (writesThird : WritesNumber third c) :
      WritesTriple mark (first ++ mark :: (second ++ mark :: third)) a b c

/-- A date, or a date and a time of day after a `T`; neither need exist. -/
inductive WritesCivil : List Char → CivilTime → Prop
  | date {text : List Char} {year month day : Int}
      (writes : WritesTriple '-' text year month day) :
      WritesCivil text ⟨⟨year, month, day⟩, ⟨0, 0, 0⟩⟩
  | dateAndTime {date time : List Char} {year month day hour minute second : Int}
      (writesDate : WritesTriple '-' date year month day)
      (writesTime : WritesTriple ':' time hour minute second) :
      WritesCivil (date ++ 'T' :: time) ⟨⟨year, month, day⟩, ⟨hour, minute, second⟩⟩

/-- The letters that may end a time stamp. -/
def IsZone (c : Char) : Prop :=
  c = 'Z' ∨ c = 'z'

/-- A civil time with one zone letter behind it or without. -/
inductive Writes : List Char → CivilTime → Prop
  | bare {text : List Char} {civil : CivilTime}
      (writes : WritesCivil text civil) :
      Writes text civil
  | zoned {text : List Char} {civil : CivilTime} {zone : Char}
      (writes : WritesCivil text civil)
      (isZone : IsZone zone) :
      Writes (text ++ [zone]) civil

/-! ### Numbers in front of a text -/

/-- A text that does not go on with a digit. -/
def Stops (rest : List Char) : Prop :=
  ∀ c ∈ rest.head?, ¬ c.isDigit

theorem stops_nil : Stops [] := by
  simp [Stops]

theorem stops_cons
    {c : Char}
    {rest : List Char} :
    Stops (c :: rest) ↔ ¬ c.isDigit := by
  simp [Stops]

/-- The digits in front of a text, and the rest of it. -/
def natural? (text : List Char) : Option (Int × List Char) :=
  let digits := text.takeWhile Char.isDigit
  if digits.isEmpty then
    none
  else
    some (Nat.ofDigitChars 10 digits 0, text.dropWhile Char.isDigit)

/-- A number is read from its sign or its first digit on. -/
theorem number?_eq (text : List Char) :
    number? text =
      match text.dropWhile Text.isBlank with
      | '-' :: digits => (natural? digits).map fun (n, rest) => (narrow (-n), rest)
      | '+' :: digits => (natural? digits).map fun (n, rest) => (narrow n, rest)
      | digits => (natural? digits).map fun (n, rest) => (narrow n, rest) :=
  rfl

theorem natural?_eq_some_iff
    {text rest : List Char}
    {value : Int} :
    natural? text = some (value, rest) ↔
      ∃ digits number,
        text = digits ++ rest ∧ Decimal.WritesNatural digits number ∧ Stops rest ∧
          value = number := by
  unfold natural?
  constructor
  · intro read
    simp only at read
    split at read
    · contradiction
    · next given =>
        obtain ⟨rfl, rfl⟩ := Prod.mk.inj (Option.some.inj read)
        refine ⟨text.takeWhile Char.isDigit, _, List.takeWhile_append_dropWhile.symm,
          ⟨by simpa using given, fun c member => List.mem_takeWhile_imp member, rfl⟩, ?_, rfl⟩
        intro c isHead digit
        have stops := List.head?_dropWhile_not Char.isDigit text
        rw [Option.mem_def.mp isHead] at stops
        simp [digit] at stops
  · rintro ⟨digits, number, rfl, ⟨given, areDigits, rfl⟩, stops, rfl⟩
    have noMore : rest.takeWhile Char.isDigit = [] := by
      cases rest with
      | nil => rfl
      | cons c rest => exact List.takeWhile_cons_of_neg (stops_cons.mp stops)
    have whole : rest.dropWhile Char.isDigit = rest := by
      cases rest with
      | nil => rfl
      | cons c rest => exact List.dropWhile_cons_of_neg (stops_cons.mp stops)
    simp only [List.takeWhile_append_of_pos areDigits, List.dropWhile_append_of_pos areDigits,
      noMore, whole, List.append_nil]
    rw [if_neg (by simpa using given)]

/-- What is read of digits, with whatever is made of their value. -/
theorem natural?_map_eq_some_iff
    (made : Int → Int)
    {text rest : List Char}
    {read : Int} :
    (natural? text).map (fun (n, rest) => (made n, rest)) = some (read, rest) ↔
      ∃ digits number,
        text = digits ++ rest ∧ Decimal.WritesNatural digits number ∧ Stops rest ∧
          read = made number := by
  simp only [Option.map_eq_some_iff, Prod.mk.injEq, Prod.exists, natural?_eq_some_iff]
  constructor
  · rintro ⟨_, _, ⟨digits, number, rfl, writes, stops, rfl⟩, rfl, rfl⟩
    exact ⟨digits, number, rfl, writes, stops, rfl⟩
  · rintro ⟨digits, number, rfl, writes, stops, rfl⟩
    exact ⟨number, rest, ⟨digits, number, rfl, writes, stops, rfl⟩, rfl, rfl⟩

/-- Digits do not begin with a sign. -/
theorem ne_sign_of_writes
    {digits more rest : List Char}
    {number : Nat}
    (writes : Decimal.WritesNatural digits number)
    {sign : Char}
    (isSign : ¬ sign.isDigit) :
    digits ++ rest ≠ sign :: more := by
  intro same
  cases digits with
  | nil => exact writes.given rfl
  | cons c digits =>
      obtain ⟨rfl, -⟩ := List.cons.inj same
      exact isSign (writes.digits c List.mem_cons_self)

/-- A signed number does not begin with a blank. -/
theorem WritesSigned.dropWhile_append
    {signed : List Char}
    {value : Int}
    (writes : WritesSigned signed value)
    (rest : List Char) :
    (signed ++ rest).dropWhile Text.isBlank = signed ++ rest := by
  cases writes with
  | plus => rfl
  | minus => rfl
  | plain writes =>
      cases signed with
      | nil => exact absurd rfl writes.given
      | cons c digits =>
          have digit := writes.digits c List.mem_cons_self
          exact List.dropWhile_cons_of_neg
            (Text.not_isBlank_of_isAlphanum (Decimal.isAlphanum_of_isDigit digit))

/-- A number of the grammar is read as far as it goes. -/
theorem number?_of_writes
    {front rest : List Char}
    {value : Int}
    (writes : WritesNumber front value)
    (stops : Stops rest) :
    number? (front ++ rest) = some (narrow value, rest) := by
  obtain @⟨blanks, signed, value, blank, writes⟩ := writes
  rw [number?_eq, List.append_assoc, List.dropWhile_append_of_pos blank, writes.dropWhile_append]
  cases writes with
  | plus writes => exact (natural?_map_eq_some_iff narrow).mpr ⟨_, _, rfl, writes, stops, rfl⟩
  | minus writes =>
      exact (natural?_map_eq_some_iff fun n => narrow (-n)).mpr ⟨_, _, rfl, writes, stops, rfl⟩
  | plain writes =>
      split
      · next same => exact absurd same (ne_sign_of_writes writes (by decide))
      · next same => exact absurd same (ne_sign_of_writes writes (by decide))
      · exact (natural?_map_eq_some_iff narrow).mpr ⟨_, _, rfl, writes, stops, rfl⟩

/-- What is read of a text is a number of the grammar in front of it. -/
theorem number?_eq_some_iff
    {text rest : List Char}
    {read : Int} :
    number? text = some (read, rest) ↔
      ∃ front value,
        text = front ++ rest ∧ WritesNumber front value ∧ Stops rest ∧ read = narrow value := by
  constructor
  · intro found
    have blank : ∀ c ∈ text.takeWhile Text.isBlank, Text.isBlank c :=
      fun c member => List.mem_takeWhile_imp member
    have cut := List.takeWhile_append_dropWhile (p := Text.isBlank) (l := text)
    rw [number?_eq] at found
    split at found
    · next signed =>
        obtain ⟨digits, number, rfl, writes, stops, rfl⟩ :=
          (natural?_map_eq_some_iff fun n => narrow (-n)).mp found
        refine ⟨_, _, ?_, .intro blank (.minus writes), stops, rfl⟩
        rw [List.append_assoc, List.cons_append, ← signed, cut]
    · next signed =>
        obtain ⟨digits, number, rfl, writes, stops, rfl⟩ :=
          (natural?_map_eq_some_iff narrow).mp found
        refine ⟨_, _, ?_, .intro blank (.plus writes), stops, rfl⟩
        rw [List.append_assoc, List.cons_append, ← signed, cut]
    · obtain ⟨digits, number, signed, writes, stops, rfl⟩ :=
        (natural?_map_eq_some_iff narrow).mp found
      refine ⟨_, _, ?_, .intro blank (.plain writes), stops, rfl⟩
      rw [List.append_assoc, ← signed, cut]
  · rintro ⟨front, value, rfl, writes, stops, rfl⟩
    exact number?_of_writes writes stops

/-! ### The whole text -/

theorem literal?_eq_some_iff
    {mark : Char}
    {text rest : List Char} :
    literal? mark text = some rest ↔ text = mark :: rest := by
  cases text with
  | nil => simp [literal?]
  | cons c text =>
      unfold literal?
      split
      · next same => simp [same]
      · next other => simp [other]

section Triples

variable {mark : Char}

theorem triple?_of_writes
    (separates : ¬ mark.isDigit)
    {front rest : List Char}
    {a b c : Int}
    (writes : WritesTriple mark front a b c)
    (stops : Stops rest) :
    triple? mark (front ++ rest) = some ((narrow a, narrow b, narrow c), rest) := by
  obtain @⟨first, second, third, _, _, _, writesFirst, writesSecond, writesThird⟩ := writes
  have marked {later : List Char} : Stops (mark :: later) := stops_cons.mpr separates
  have readFirst := number?_of_writes writesFirst
    (marked : Stops (mark :: (second ++ mark :: (third ++ rest))))
  have readSecond := number?_of_writes writesSecond (marked : Stops (mark :: (third ++ rest)))
  have readThird := number?_of_writes writesThird stops
  simp [triple?, literal?, readFirst, readSecond, readThird]

theorem writes_of_triple?
    {text rest : List Char}
    {read : Int × Int × Int}
    (found : triple? mark text = some (read, rest)) :
    ∃ front a b c,
      text = front ++ rest ∧ WritesTriple mark front a b c ∧ Stops rest ∧
        read = (narrow a, narrow b, narrow c) := by
  simp only [triple?, Option.bind_eq_bind, Option.bind_eq_some_iff, Prod.exists,
    literal?_eq_some_iff, number?_eq_some_iff, Option.pure_def, Option.some.injEq,
    Prod.mk.injEq] at found
  obtain ⟨_, _, ⟨first, a, rfl, writesFirst, -, rfl⟩, _, rfl,
    _, _, ⟨second, b, rfl, writesSecond, -, rfl⟩, _, rfl,
    _, _, ⟨third, c, rfl, writesThird, stops, rfl⟩, rfl, rfl⟩ := found
  exact ⟨_, a, b, c, by simp, .intro writesFirst writesSecond writesThird, stops, rfl⟩

end Triples

/-- The civil time of which 32 bits are kept of each number. -/
def narrowed (civil : CivilTime) : CivilTime where
  date := ⟨narrow civil.date.year, narrow civil.date.month, narrow civil.date.day⟩
  time := ⟨narrow civil.time.hour, narrow civil.time.minute, narrow civil.time.second⟩

theorem civil?_of_writes
    {text : List Char}
    {civil : CivilTime}
    (writes : WritesCivil text civil) :
    civil? text = some (narrowed civil) := by
  cases writes with
  | date writes =>
      have isDate := triple?_of_writes (by decide) writes stops_nil
      rw [List.append_nil] at isDate
      simp only [civil?, isDate, Option.bind_eq_bind, Option.bind_some]
      rfl
  | @dateAndTime date time _ _ _ _ _ _ writesDate writesTime =>
      have isDate := triple?_of_writes (by decide) writesDate
        (stops_cons.mpr (show ¬ 'T'.isDigit by decide) : Stops ('T' :: time))
      have isTime := triple?_of_writes (by decide) writesTime stops_nil
      rw [List.append_nil] at isTime
      simp [civil?, isDate, isTime, literal?, narrowed]

theorem writes_of_civil?
    {text : List Char}
    {read : CivilTime}
    (found : civil? text = some read) :
    ∃ civil, WritesCivil text civil ∧ read = narrowed civil := by
  simp only [civil?, Option.bind_eq_bind, Option.bind_eq_some_iff, Prod.exists] at found
  obtain ⟨_, _, _, rest, isDate, found⟩ := found
  obtain ⟨date, year, month, day, rfl, writesDate, -, read⟩ := writes_of_triple? isDate
  cases read
  split at found
  · cases found
    exact ⟨_, .date (by simpa using writesDate), rfl⟩
  · simp only [Option.bind_eq_some_iff, Prod.exists] at found
    obtain ⟨time, isTime, _, _, _, _, isTriple, found⟩ := found
    obtain ⟨time, hour, minute, second, rfl, writesTime, -, read⟩ := writes_of_triple? isTriple
    obtain rfl := literal?_eq_some_iff.mp isTime
    cases read
    split at found
    · next ended =>
        cases found
        obtain rfl := List.isEmpty_iff.mp ended
        exact ⟨_, .dateAndTime writesDate (by simpa using writesTime), rfl⟩
    · contradiction

/-- The whole text is read, or nothing. -/
theorem civil?_eq_some_iff
    {text : List Char}
    {read : CivilTime} :
    civil? text = some read ↔ ∃ civil, WritesCivil text civil ∧ read = narrowed civil := by
  constructor
  · exact writes_of_civil?
  · rintro ⟨civil, writes, rfl⟩
    exact civil?_of_writes writes

/-! ### One reading only -/

theorem WritesSigned.unique
    {text : List Char}
    {first second : Int}
    (writesFirst : WritesSigned text first)
    (writesSecond : WritesSigned text second) :
    first = second := by
  have noSign {sign : Char} {digits : List Char} {number : Nat}
      (writes : Decimal.WritesNatural (sign :: digits) number) : sign.isDigit :=
    writes.digits sign List.mem_cons_self
  cases writesFirst with
  | plain writes =>
      cases writesSecond with
      | plain others => rw [writes.value, others.value]
      | plus => exact absurd (noSign writes) (by decide)
      | minus => exact absurd (noSign writes) (by decide)
  | plus writes =>
      cases writesSecond with
      | plain others => exact absurd (noSign others) (by decide)
      | plus others => rw [writes.value, others.value]
  | minus writes =>
      cases writesSecond with
      | plain others => exact absurd (noSign others) (by decide)
      | minus others => rw [writes.value, others.value]

theorem WritesNumber.unique
    {text : List Char}
    {first second : Int}
    (writesFirst : WritesNumber text first)
    (writesSecond : WritesNumber text second) :
    first = second := by
  have signed {text : List Char} {value : Int} (writes : WritesNumber text value) :
      WritesSigned (text.dropWhile Text.isBlank) value := by
    obtain ⟨blank, writes⟩ := writes
    have start := writes.dropWhile_append []
    rw [List.append_nil] at start
    rwa [List.dropWhile_append_of_pos blank, start]
  exact (signed writesFirst).unique (signed writesSecond)

/-- A number in front of a text ends where its digits do. -/
theorem WritesNumber.split
    {front other rest more : List Char}
    {first second : Int}
    (same : front ++ rest = other ++ more)
    (writesFirst : WritesNumber front first)
    (writesSecond : WritesNumber other second)
    (stopsFirst : Stops rest)
    (stopsSecond : Stops more) :
    rest = more ∧ first = second := by
  have readFirst := number?_of_writes writesFirst stopsFirst
  rw [same, number?_of_writes writesSecond stopsSecond] at readFirst
  obtain rfl : more = rest := (Prod.mk.inj (Option.some.inj readFirst)).2
  obtain rfl := List.append_cancel_right same
  exact ⟨rfl, writesFirst.unique writesSecond⟩

theorem WritesTriple.split
    {mark : Char}
    (separates : ¬ mark.isDigit)
    {front other rest more : List Char}
    {a b c a' b' c' : Int}
    (same : front ++ rest = other ++ more)
    (writesFirst : WritesTriple mark front a b c)
    (writesSecond : WritesTriple mark other a' b' c')
    (stopsFirst : Stops rest)
    (stopsSecond : Stops more) :
    rest = more ∧ a = a' ∧ b = b' ∧ c = c' := by
  obtain ⟨firstA, firstB, firstC⟩ := writesFirst
  obtain ⟨secondA, secondB, secondC⟩ := writesSecond
  have marked {later : List Char} : Stops (mark :: later) := stops_cons.mpr separates
  simp only [List.append_assoc, List.cons_append] at same
  obtain ⟨same, rfl⟩ := firstA.split same secondA marked marked
  obtain ⟨same, rfl⟩ := firstB.split (List.cons.inj same).2 secondB marked marked
  obtain ⟨same, rfl⟩ := firstC.split (List.cons.inj same).2 secondC stopsFirst stopsSecond
  exact ⟨same, rfl, rfl, rfl⟩

/-- A civil time ends with its last digit, unless a `T` goes on with it. -/
theorem WritesCivil.split
    {text other rest : List Char}
    {first second : CivilTime}
    (same : text ++ rest = other)
    (writesFirst : WritesCivil text first)
    (writesSecond : WritesCivil other second)
    (stops : Stops rest)
    (noTime : ∀ time, rest ≠ 'T' :: time) :
    rest = [] ∧ first = second := by
  have dash : ¬ '-'.isDigit := by decide
  have colon : ¬ ':'.isDigit := by decide
  have letter {time : List Char} : Stops ('T' :: time) := stops_cons.mpr (by decide)
  cases writesFirst with
  | date writes =>
      cases writesSecond with
      | date others =>
          rw [← List.append_nil other] at same
          obtain ⟨rfl, rfl, rfl, rfl⟩ := writes.split dash same others stops stops_nil
          exact ⟨rfl, rfl⟩
      | dateAndTime others =>
          have ends := (writes.split dash same others stops letter).1
          exact absurd ends (noTime _)
  | @dateAndTime date time _ _ _ _ _ _ writes writesTime =>
      rw [List.append_assoc, List.cons_append] at same
      cases writesSecond with
      | date others =>
          rw [← List.append_nil other] at same
          have ends := (writes.split dash same others letter stops_nil).1
          exact absurd ends (List.cons_ne_nil _ _)
      | @dateAndTime _ otherTime _ _ _ _ _ _ others writesOther =>
          obtain ⟨same, rfl, rfl, rfl⟩ := writes.split dash same others letter letter
          have sameTime : time ++ rest = otherTime ++ [] := by
            rw [List.append_nil, (List.cons.inj same).2]
          obtain ⟨rfl, rfl, rfl, rfl⟩ :=
            writesTime.split colon sameTime writesOther stops stops_nil
          exact ⟨rfl, rfl⟩

/-- A text writes one civil time at most. -/
theorem WritesCivil.unique
    {text : List Char}
    {first second : CivilTime}
    (writesFirst : WritesCivil text first)
    (writesSecond : WritesCivil text second) :
    first = second :=
  (writesFirst.split (List.append_nil text) writesSecond stops_nil (by simp)).2

/-! ### The zone letter -/

/-- The last character of a text is a digit. -/
def EndsInDigit (text : List Char) : Prop :=
  ∃ front digit, text = front ++ [digit] ∧ digit.isDigit

theorem EndsInDigit.append
    {text : List Char}
    (ends : EndsInDigit text)
    (front : List Char) :
    EndsInDigit (front ++ text) := by
  obtain ⟨middle, digit, rfl, isDigit⟩ := ends
  exact ⟨front ++ middle, digit, by simp, isDigit⟩

theorem WritesNumber.endsInDigit
    {text : List Char}
    {value : Int}
    (writes : WritesNumber text value) :
    EndsInDigit text := by
  have ofDigits {digits : List Char} {number : Nat}
      (writes : Decimal.WritesNatural digits number) : EndsInDigit digits :=
    ⟨digits.dropLast, digits.getLast writes.given, (List.dropLast_concat_getLast writes.given).symm,
      writes.digits _ (List.getLast_mem writes.given)⟩
  obtain ⟨-, writes⟩ := writes
  apply EndsInDigit.append
  cases writes with
  | plain writes => exact ofDigits writes
  | plus writes => exact (ofDigits writes).append ['+']
  | minus writes => exact (ofDigits writes).append ['-']

theorem WritesTriple.endsInDigit
    {mark : Char}
    {text : List Char}
    {a b c : Int}
    (writes : WritesTriple mark text a b c) :
    EndsInDigit text := by
  obtain @⟨first, second, third, _, _, _, -, -, writes⟩ := writes
  have ends := writes.endsInDigit.append (first ++ mark :: (second ++ [mark]))
  simpa using ends

theorem WritesCivil.endsInDigit
    {text : List Char}
    {civil : CivilTime}
    (writes : WritesCivil text civil) :
    EndsInDigit text := by
  cases writes with
  | date writes => exact writes.endsInDigit
  | @dateAndTime date time _ _ _ _ _ _ _ writes =>
      have ends := writes.endsInDigit.append (date ++ ['T'])
      simpa using ends

theorem IsZone.not_isDigit
    {c : Char}
    (zone : IsZone c) :
    ¬ c.isDigit := by
  rcases zone with rfl | rfl
  · decide
  · decide

theorem withoutZone_concat
    (text : List Char)
    {zone : Char}
    (isZone : IsZone zone) :
    withoutZone (text ++ [zone]) = text := by
  rcases isZone with rfl | rfl
  · simp [withoutZone]
  · simp [withoutZone]

theorem withoutZone_of_not
    (text : List Char)
    {last : Char}
    (noZone : ¬ IsZone last) :
    withoutZone (text ++ [last]) = text ++ [last] := by
  unfold withoutZone
  rw [List.getLast?_concat]
  split
  · next same => exact absurd (Or.inl (Option.some.inj same)) noZone
  · next same => exact absurd (Or.inr (Option.some.inj same)) noZone
  · rfl

/-- A time stamp is a civil time when its zone letter is taken off. -/
theorem writes_iff
    {text : List Char}
    {civil : CivilTime} :
    Writes text civil ↔ WritesCivil (withoutZone text) civil := by
  constructor
  · intro writes
    cases writes with
    | bare writes =>
        obtain ⟨front, digit, rfl, isDigit⟩ := writes.endsInDigit
        rwa [withoutZone_of_not front fun zone => zone.not_isDigit isDigit]
    | zoned writes isZone => rwa [withoutZone_concat _ isZone]
  · intro writes
    rcases List.eq_nil_or_concat text with rfl | ⟨front, last, rfl⟩
    · exact .bare writes
    · rw [List.concat_eq_append] at writes ⊢
      by_cases zone : IsZone last
      · rw [withoutZone_concat front zone] at writes
        exact .zoned writes zone
      · rw [withoutZone_of_not front zone] at writes
        exact .bare writes

theorem Writes.unique
    {text : List Char}
    {first second : CivilTime}
    (writesFirst : Writes text first)
    (writesSecond : Writes text second) :
    first = second :=
  (writes_iff.mp writesFirst).unique (writes_iff.mp writesSecond)

end Timestamp

end Cadence
