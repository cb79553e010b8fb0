import Cadence.Proofs.Timestamp.Grammar

namespace Cadence

/-!
# Which time stamps are read

A text is read if it writes a civil time that exists, and the instant that is read
has that civil time and no other.  This is about numbers of 32 bits and years that
dates keep; whatever the numbers are, nothing but a time stamp is read.
-/

namespace Timestamp

open Calendar

/-! ### Numbers that are kept -/

theorem narrow_eq
    {value : Int}
    (above : Decimal.lowest ≤ value)
    (below : value ≤ Decimal.highest) :
    narrow value = value := by
  rw [Decimal.lowest] at above
  rw [Decimal.highest] at below
  rw [narrow, min_eq_left (by omega), max_eq_right (by omega)]
  exact Int.bmod_eq_of_le (by omega) (by omega)

/-- Every number has 32 bits, and the year is one that dates keep. -/
structure Held (civil : CivilTime) : Prop where
  inRange : ∀ number ∈ civil.fields, Decimal.lowest ≤ number ∧ number ≤ Decimal.highest
  fits : Fits civil.date.year

theorem Held.narrowed_eq
    {civil : CivilTime}
    (held : Held civil) :
    narrowed civil = civil := by
  have kept {number : Int} (member : number ∈ civil.fields) : narrow number = number :=
    narrow_eq (held.inRange number member).1 (held.inRange number member).2
  obtain ⟨⟨year, month, day⟩, ⟨hour, minute, second⟩⟩ := civil
  rw [narrowed, kept (by simp [CivilTime.fields]), kept (by simp [CivilTime.fields]),
    kept (by simp [CivilTime.fields]), kept (by simp [CivilTime.fields]),
    kept (by simp [CivilTime.fields]), kept (by simp [CivilTime.fields])]

/-! ### What is read -/

/-- What is read of a text is the instant of what it writes, in 32 bits. -/
theorem readChars?_eq_some_iff
    {text : List Char}
    {instant : Int} :
    readChars? text = some instant ↔
      ∃ civil,
        Writes text civil ∧ (narrowed civil).Exists ∧ (narrowed civil).counted = instant := by
  simp only [readChars?, Option.bind_eq_bind, Option.bind_eq_some_iff, civil?_eq_some_iff]
  constructor
  · rintro ⟨_, ⟨civil, writes, rfl⟩, found⟩
    split at found
    · next existent =>
        exact ⟨civil, writes_iff.mpr writes, existent, Option.some.inj found⟩
    · contradiction
  · rintro ⟨civil, writes, existent, rfl⟩
    exact ⟨_, ⟨civil, writes_iff.mp writes, rfl⟩, if_pos existent⟩

/-- A text that is read is a time stamp. -/
theorem writes_of_readChars?
    {text : List Char}
    {instant : Int}
    (read : readChars? text = some instant) :
    ∃ civil, WritesCivil (withoutZone text) civil := by
  obtain ⟨civil, writes, -⟩ := readChars?_eq_some_iff.mp read
  exact ⟨civil, writes_iff.mp writes⟩

/-- Where the numbers are kept, a text is read exactly if what it writes exists. -/
theorem readChars?_eq_some_iff_of_held
    {text : List Char}
    (held : ∀ civil, Writes text civil → Held civil)
    {instant : Int} :
    readChars? text = some instant ↔
      ∃ civil, Writes text civil ∧ civil.Exists ∧ civil.counted = instant := by
  rw [readChars?_eq_some_iff]
  refine exists_congr fun civil => and_congr_right fun writes => ?_
  rw [(held civil writes).narrowed_eq]

/-- The instant that is read has the civil time that is written. -/
theorem ofInstant_of_readChars?
    {text : List Char}
    (held : ∀ civil, Writes text civil → Held civil)
    {instant : Int}
    (read : readChars? text = some instant)
    {civil : CivilTime}
    (writes : Writes text civil) :
    CivilTime.ofInstant instant = civil := by
  obtain ⟨other, writesOther, existent, rfl⟩ := (readChars?_eq_some_iff_of_held held).mp read
  obtain rfl := writesOther.unique writes
  have fits := (held _ writes).fits
  have valid : other.Valid := ⟨existent, fits⟩
  rw [valid.counted_eq]
  exact CivilTime.ofInstant_toInstant existent fits

/-! ### What is refused -/

/-- The characters of a civil time: blanks, digits, signs, separators and the `T`. -/
def IsMark (c : Char) : Prop :=
  Text.isBlank c ∨ c.isDigit ∨ c ∈ ['+', '-', ':', 'T']

theorem WritesNumber.isMark
    {text : List Char}
    {value : Int}
    (writes : WritesNumber text value) :
    ∀ c ∈ text, IsMark c := by
  obtain @⟨blanks, signed, value, blank, writes⟩ := writes
  have ofDigits {digits : List Char} {number : Nat}
      (writes : Decimal.WritesNatural digits number) : ∀ c ∈ digits, IsMark c :=
    fun c member => .inr (.inl (writes.digits c member))
  intro c member
  rcases List.mem_append.mp member with inBlanks | inSigned
  · exact .inl (blank c inBlanks)
  · cases writes with
    | plain writes => exact ofDigits writes c inSigned
    | plus writes =>
        rcases List.mem_cons.mp inSigned with rfl | inDigits
        · exact .inr (.inr (by decide))
        · exact ofDigits writes c inDigits
    | minus writes =>
        rcases List.mem_cons.mp inSigned with rfl | inDigits
        · exact .inr (.inr (by decide))
        · exact ofDigits writes c inDigits

theorem WritesTriple.isMark
    {mark : Char}
    (separates : IsMark mark)
    {text : List Char}
    {a b c : Int}
    (writes : WritesTriple mark text a b c) :
    ∀ other ∈ text, IsMark other := by
  obtain ⟨first, second, third⟩ := writes
  intro other member
  simp only [List.mem_append, List.mem_cons] at member
  rcases member with inFirst | rfl | inSecond | rfl | inThird
  · exact first.isMark other inFirst
  · exact separates
  · exact second.isMark other inSecond
  · exact separates
  · exact third.isMark other inThird

theorem WritesCivil.isMark
    {text : List Char}
    {civil : CivilTime}
    (writes : WritesCivil text civil) :
    ∀ c ∈ text, IsMark c := by
  have dash : IsMark '-' := .inr (.inr (by decide))
  have colon : IsMark ':' := .inr (.inr (by decide))
  cases writes with
  | date writes => exact writes.isMark dash
  | dateAndTime writesDate writesTime =>
      intro c member
      rcases List.mem_append.mp member with inDate | later
      · exact writesDate.isMark dash c inDate
      · rcases List.mem_cons.mp later with rfl | inTime
        · exact .inr (.inr (by decide))
        · exact writesTime.isMark colon c inTime

theorem withoutZone_append
    (front : List Char)
    {back : List Char}
    (given : back ≠ []) :
    withoutZone (front ++ back) = front ++ withoutZone back := by
  obtain ⟨middle, last, rfl⟩ := (List.eq_nil_or_concat back).resolve_left given
  rw [List.concat_eq_append, ← List.append_assoc]
  by_cases zone : IsZone last
  · rw [withoutZone_concat _ zone, withoutZone_concat _ zone]
  · rw [withoutZone_of_not _ zone, withoutZone_of_not _ zone, List.append_assoc]

theorem withoutZone_time (time : List Char) :
    withoutZone ('T' :: time) = 'T' :: withoutZone time := by
  cases time with
  | nil => rfl
  | cons c time => exact withoutZone_append ['T'] (List.cons_ne_nil c time)

theorem withoutZone_prefix (text : List Char) :
    withoutZone text <+: text := by
  unfold withoutZone
  split
  · exact List.dropLast_prefix text
  · exact List.dropLast_prefix text
  · exact List.prefix_rfl

/-- A character that is in no civil time may only be the zone letter at the end. -/
theorem readChars?_of_foreign
    {front back : List Char}
    {c : Char}
    (foreign : ¬ IsMark c)
    (noZone : IsZone c → back ≠ []) :
    readChars? (front ++ c :: back) = none := by
  refine Option.eq_none_iff_forall_ne_some.mpr fun instant read => foreign ?_
  obtain ⟨civil, writes⟩ := writes_of_readChars? read
  refine writes.isMark c ?_
  cases back with
  | nil =>
      rw [withoutZone_of_not front fun zone => noZone zone rfl]
      simp
  | cons next back =>
      rw [List.append_cons, withoutZone_append (front ++ [c]) (List.cons_ne_nil next back)]
      simp

/-- What follows a civil time has to go on with its last number or with a `T`, or be the zone
letter. -/
theorem readChars?_of_trailing
    {text rest : List Char}
    {civil : CivilTime}
    (writes : WritesCivil text civil)
    (stops : Stops rest)
    (noTime : ∀ time, rest ≠ 'T' :: time)
    (more : withoutZone rest ≠ []) :
    readChars? (text ++ rest) = none := by
  refine Option.eq_none_iff_forall_ne_some.mpr fun instant read => more ?_
  obtain ⟨other, writesOther⟩ := writes_of_readChars? read
  cases rest with
  | nil => rfl
  | cons c rest =>
      rw [withoutZone_append text (List.cons_ne_nil c rest)] at writesOther
      obtain ⟨back, shape⟩ := withoutZone_prefix (c :: rest)
      refine (writes.split rfl writesOther (fun other first => ?_) fun time same => ?_).1
      · refine stops other ?_
        rw [← shape, List.head?_append, Option.mem_def.mp first]
        rfl
      · rw [same] at shape
        exact noTime (time ++ back) shape.symm

/-- A `T` has to be followed by three numbers. -/
theorem readChars?_of_partial
    {date time : List Char}
    {year month day : Int}
    (writes : WritesTriple '-' date year month day)
    (incomplete : ∀ hour minute second, ¬ WritesTriple ':' (withoutZone time) hour minute second) :
    readChars? (date ++ 'T' :: time) = none := by
  refine Option.eq_none_iff_forall_ne_some.mpr fun instant read => ?_
  obtain ⟨civil, writesCivil⟩ := writes_of_readChars? read
  have letter {time : List Char} : Stops ('T' :: time) := stops_cons.mpr (by decide)
  rw [withoutZone_append date (List.cons_ne_nil 'T' time), withoutZone_time] at writesCivil
  generalize shape : date ++ 'T' :: withoutZone time = other at writesCivil
  cases writesCivil with
  | date others =>
      rw [← List.append_nil other] at shape
      have ends := (writes.split (by decide) shape others letter stops_nil).1
      exact absurd ends (List.cons_ne_nil _ _)
  | dateAndTime others writesTime =>
      have rest := (writes.split (by decide) shape others letter letter).1
      rw [← (List.cons.inj rest).2] at writesTime
      exact incomplete _ _ _ writesTime

/-! ### Exactly the time stamps -/

/-- Exactly the time stamps that exist are read.  Where the numbers of what a text writes have 32
bits and the year is one that dates keep, an instant is read if and only if the text writes an
existing civil time, whose fields are the instant's; a text never writes two of them.  Whatever
the numbers are, no text is read that has a U+0000 in it, or a zone letter before its end; that
goes on after a civil time with anything that is neither a digit, a `T` nor the last zone letter; or
whose `T` is not followed by three numbers. -/
theorem readChars?_exact :
    (∀ text, (∀ civil, Writes text civil → Held civil) →
      (∀ instant, readChars? text = some instant ↔
        ∃ civil, Writes text civil ∧ civil.Exists ∧ civil.counted = instant) ∧
        ∀ instant civil, readChars? text = some instant → Writes text civil →
          CivilTime.ofInstant instant = civil) ∧
      (∀ text first second, Writes text first → Writes text second → first = second) ∧
      (∀ front back, readChars? (front ++ Char.ofNat 0 :: back) = none) ∧
      (∀ front zone back, IsZone zone → back ≠ [] → readChars? (front ++ zone :: back) = none) ∧
      (∀ text civil rest, WritesCivil text civil → Stops rest → (∀ time, rest ≠ 'T' :: time) →
        withoutZone rest ≠ [] → readChars? (text ++ rest) = none) ∧
      ∀ date year month day time, WritesTriple '-' date year month day →
        (∀ hour minute second, ¬ WritesTriple ':' (withoutZone time) hour minute second) →
          readChars? (date ++ 'T' :: time) = none := by
  refine ⟨fun text held => ⟨fun instant => readChars?_eq_some_iff_of_held held,
    fun instant civil read writes => ofInstant_of_readChars? held read writes⟩,
    fun text first second => Writes.unique, fun front back => ?_,
    fun front zone back isZone more => ?_, fun text civil rest => readChars?_of_trailing,
    fun date year month day time => readChars?_of_partial⟩
  · refine readChars?_of_foreign ?_ fun isZone => ?_
    · unfold IsMark
      decide
    · unfold IsZone at isZone
      exact absurd isZone (by decide)
  · refine readChars?_of_foreign ?_ fun _ => more
    unfold IsMark
    rcases isZone with rfl | rfl
    · decide
    · decide

/-- The leap day of the year -4, with a blank in front and numbers of any width, is read before a
zone letter; anything behind it is refused, a second zone letter too, and so is a time without its
seconds. -/
theorem readChars?_exact_leapDay :
    let date := ['\t', '-', '0', '4', '-', '2', '-', '+', '2', '9']
    let time := ['2', '3', ':', ' ', '5', '9', ':', '0']
    let civil : CivilTime := ⟨⟨-4, 2, 29⟩, ⟨23, 59, 0⟩⟩
    readChars? (date ++ 'T' :: time ++ ['z']) = some civil.counted ∧
      CivilTime.ofInstant civil.counted = civil ∧
      readChars? (date ++ 'T' :: time ++ 'z' :: ['Z']) = none ∧
      readChars? (date ++ 'T' :: time ++ [' ', '1', 'Z']) = none ∧
      readChars? (date ++ 'T' :: ['2', '3', ':', '5', '9']) = none := by
  intro date time civil
  -- What holds of all characters of a text is decided along the text.
  have number {blanks signed : List Char} {value : Int} (blank : blanks.all Text.isBlank)
      (writes : WritesSigned signed value) : WritesNumber (blanks ++ signed) value :=
    .intro (List.all_eq_true.mp blank) writes
  have natural {digits : List Char} {value : Nat} (read : Decimal.natural? digits = some value) :
      Decimal.WritesNatural digits value :=
    Decimal.natural?_eq_some_iff.mp read
  have year : WritesNumber (['\t'] ++ ['-', '0', '4']) (-(4 : Nat)) :=
    number (by decide) (.minus (natural (by decide)))
  have month : WritesNumber ([] ++ ['2']) (2 : Nat) :=
    number (by decide) (.plain (natural (by decide)))
  have day : WritesNumber ([] ++ ['+', '2', '9']) (29 : Nat) :=
    number (by decide) (.plus (natural (by decide)))
  have hour : WritesNumber ([] ++ ['2', '3']) (23 : Nat) :=
    number (by decide) (.plain (natural (by decide)))
  have minute : WritesNumber ([' '] ++ ['5', '9']) (59 : Nat) :=
    number (by decide) (.plain (natural (by decide)))
  have second : WritesNumber ([] ++ ['0']) (0 : Nat) :=
    number (by decide) (.plain (natural (by decide)))
  have writesDate : WritesTriple '-' date (-4) 2 29 := .intro year month day
  have writesCivil : WritesCivil (date ++ 'T' :: time) civil :=
    .dateAndTime writesDate (.intro hour minute second)
  have writes : Writes (date ++ 'T' :: time ++ ['z']) civil := .zoned writesCivil (.inr rfl)
  obtain ⟨exact, single, -, doubled, trailing, incomplete⟩ := readChars?_exact
  have held : ∀ other, Writes (date ++ 'T' :: time ++ ['z']) other → Held other := by
    intro other writesOther
    rw [← single _ civil other writes writesOther]
    exact ⟨by decide, by decide⟩
  have read : readChars? (date ++ 'T' :: time ++ ['z']) = some civil.counted :=
    ((exact _ held).1 _).mpr ⟨civil, writes, by decide, rfl⟩
  refine ⟨read, (exact _ held).2 _ civil read writes,
    doubled _ 'z' ['Z'] (.inr rfl) (by decide),
    trailing _ civil _ writesCivil (stops_cons.mpr (by decide)) (by simp) (by decide), ?_⟩
  refine incomplete date _ _ _ _ writesDate fun _ _ _ writesTime => ?_
  have unread : triple? ':' (withoutZone ['2', '3', ':', '5', '9'] ++ []) = none := by decide
  rw [triple?_of_writes (by decide) writesTime stops_nil] at unread
  exact Option.some_ne_none _ unread

end Timestamp

end Cadence
