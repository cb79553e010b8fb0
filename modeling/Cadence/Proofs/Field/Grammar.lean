import Cadence.Proofs.Field.Parsing
import Cadence.Proofs.Text
import Mathlib.Data.List.Sort

namespace Cadence

/-!
# The grammar of a field

What a text has to look like to be a term of a field, as relations between texts
and what they write.  A text is any list of characters, so that every string of
bytes is one.  Each function of the reader answers with what its relation says,
and refuses every other text.
-/

namespace Decimal

/-- A text of decimal digits and the number that it writes. -/
structure WritesNatural (text : List Char) (number : Nat) : Prop where
  given : text ≠ []
  digits : ∀ c ∈ text, c.isDigit
  value : number = Nat.ofDigitChars 10 text 0

/-- A text that writes an integer of 32 bits: digits, with a minus sign in front or without. -/
inductive WritesInteger : List Char → Int → Prop
  | plain {digits : List Char} {number : Nat}
      (writes : WritesNatural digits number)
      (fits : (number : Int) ≤ 2147483647) :
      WritesInteger digits number
  | minus {digits : List Char} {number : Nat}
      (writes : WritesNatural digits number)
      (fits : (number : Int) ≤ 2147483648) :
      WritesInteger ('-' :: digits) (-number)

theorem natural?_eq_some_iff
    {text : List Char}
    {number : Nat} :
    natural? text = some number ↔ WritesNatural text number := by
  unfold natural?
  constructor
  · intro read
    split at read
    · contradiction
    · next accepted =>
        simp only [Bool.or_eq_true, List.isEmpty_iff, Bool.not_eq_true', not_or,
          Bool.not_eq_false, List.all_eq_true] at accepted
        injection read with value
        exact ⟨accepted.1, accepted.2, value.symm⟩
  · rintro ⟨given, digits, rfl⟩
    rw [if_neg]
    simpa [given] using digits

/-- A minus sign is no digit. -/
theorem WritesNatural.head_ne_minus
    {rest : List Char}
    {number : Nat} :
    ¬ WritesNatural ('-' :: rest) number :=
  fun writes => absurd (writes.digits '-' List.mem_cons_self) (by decide)

theorem integer?_eq_some_iff
    {text : List Char}
    {value : Int} :
    integer? text = some value ↔ WritesInteger text value := by
  simp only [integer?, Option.filter_eq_some_iff, Bool.and_eq_true, decide_eq_true_eq]
  simp only [lowest, highest]
  constructor
  · rintro ⟨read, above, below⟩
    split at read
    · next digits =>
        cases shape : natural? digits with
        | none => simp [shape] at read
        | some number =>
            obtain rfl : -(number : Int) = value := by simpa [shape] using read
            exact .minus (natural?_eq_some_iff.mp shape) (by omega)
    · cases shape : natural? text with
      | none => simp [shape] at read
      | some number =>
          obtain rfl : (number : Int) = value := by simpa [shape] using read
          exact .plain (natural?_eq_some_iff.mp shape) below
  · intro writes
    cases writes with
    | plain writes fits =>
        refine ⟨?_, by omega, fits⟩
        split
        · exact absurd writes WritesNatural.head_ne_minus
        · simp [natural?_eq_some_iff.mpr writes]
    | minus writes fits =>
        exact ⟨by simp [natural?_eq_some_iff.mpr writes], by omega, by omega⟩

/-- The digits of a number write it. -/
theorem writesNatural_toDigits (number : Nat) :
    WritesNatural (Nat.toDigits 10 number) number where
  given := Nat.toDigits_ne_nil
  digits := fun _ member => Nat.isDigit_of_mem_toDigits (by decide) (by decide) member
  value := Nat.ofDigitChars_ten_toDigits.symm

theorem write_of_nonneg
    {value : Int}
    (nonneg : 0 ≤ value) :
    write value = Nat.toDigits 10 value.natAbs :=
  if_neg (Int.not_lt.mpr nonneg)

theorem writesNatural_write
    {value : Int}
    (nonneg : 0 ≤ value) :
    WritesNatural (write value) value.natAbs :=
  write_of_nonneg nonneg ▸ writesNatural_toDigits value.natAbs

theorem writesInteger_write
    {value : Int}
    (above : lowest ≤ value)
    (below : value ≤ highest) :
    WritesInteger (write value) value := by
  rw [lowest] at above
  rw [highest] at below
  by_cases negative : value < 0
  · have writes : WritesInteger _ (-(value.natAbs : Int)) :=
      .minus (writesNatural_toDigits value.natAbs) (by omega)
    rw [write, if_pos negative]
    rwa [show -(value.natAbs : Int) = value by omega] at writes
  · have nonneg : 0 ≤ value := Int.not_lt.mp negative
    have writes : WritesInteger _ (value.natAbs : Int) :=
      .plain (writesNatural_write nonneg) (by omega)
    rwa [Int.natAbs_of_nonneg nonneg] at writes

end Decimal

/-! ### Terms -/

/-- What stands before the step of a term: a star, a value or two values. -/
inductive FieldBody
  | star
  | value (value : Int)
  | range (left right : Int)
  deriving DecidableEq, Repr

/-- A term: its body, and its step if it has one. -/
structure FieldTerm where
  body : FieldBody
  step : Option Int
  deriving DecidableEq, Repr

/-- The values that a body names. -/
def FieldBody.values : FieldBody → List Int
  | .star => []
  | .value only => [only]
  | .range left right => [left, right]

/-- The ends and the step that a term selects; negative ends are open. -/
def FieldTerm.ends (kind : FieldKind) : FieldTerm → Int × Int × Int
  | ⟨.star, step⟩ => (-1, -1, step.getD 1)
  | ⟨.value only, none⟩ => (only, only, 1)
  | ⟨.value start, some step⟩ => (start, kind.greatest, step)
  | ⟨.range left right, step⟩ => (left, right, step.getD 1)

/-- A text that writes a value of a field: digits for a number of 32 bits, or a beginning of exactly
one name, in either case of letters, that does not begin with a digit. -/
inductive WritesValue (kind : FieldKind) : List Char → Int → Prop
  | number {digits : List Char} {number : Nat}
      (writes : Decimal.WritesNatural digits number)
      (fits : (number : Int) ≤ 2147483647) :
      WritesValue kind digits number
  | name {c : Char} {rest : List Char} {place : Nat}
      (noDigit : ¬ c.isDigit)
      (listed : place < kind.names.length)
      (only :
        ∀ other name, kind.names[other]? = some name →
          (Text.abbreviates (c :: rest) name.toList ↔ other = place)) :
      WritesValue kind (c :: rest) (kind.least + place)

/-- A text that writes a body: a star, a value, or two values with blanks around them, separated by
the first dash, which does not stand in front. -/
inductive WritesBody (kind : FieldKind) : List Char → FieldBody → Prop
  | star : WritesBody kind ['*'] .star
  | value {text : List Char} {value : Int}
      (writes : WritesValue kind text value) :
      WritesBody kind text (.value value)
  | range {before after : List Char} {left right : Int}
      (notInFront : before ≠ [])
      (firstDash : '-' ∉ before)
      (writesLeft : WritesValue kind (Text.trim before) left)
      (writesRight : WritesValue kind (Text.trim after) right) :
      WritesBody kind (before ++ '-' :: after) (.range left right)

/-- A text that writes a term: a body, or a body and an integer with blanks around them, separated
by the first slash. -/
inductive WritesTerm (kind : FieldKind) : List Char → FieldTerm → Prop
  | plain {text : List Char} {body : FieldBody}
      (noSlash : '/' ∉ text)
      (writes : WritesBody kind text body) :
      WritesTerm kind text ⟨body, none⟩
  | stepped {before after : List Char} {body : FieldBody} {step : Int}
      (firstSlash : '/' ∉ before)
      (writes : WritesBody kind (Text.trim before) body)
      (writesStep : Decimal.WritesInteger (Text.trim after) step) :
      WritesTerm kind (before ++ '/' :: after) ⟨body, some step⟩

namespace FieldSet

/-! ### Values -/

/-- The places that match are those of the abbreviated names. -/
theorem mem_matchingNames
    {text : List Char}
    {names : List String}
    {start place : Nat} :
    place ∈ matchingNames text names start ↔
      ∃ offset name,
        names[offset]? = some name ∧ Text.abbreviates text name.toList ∧
          place = start + offset := by
  induction names generalizing start with
  | nil => simp [matchingNames]
  | cons name names inductionHypothesis =>
      have shifted :
          place ∈ matchingNames text names (start + 1) ↔
            ∃ offset other,
              (name :: names)[offset + 1]? = some other ∧
                Text.abbreviates text other.toList ∧ place = start + (offset + 1) := by
        rw [inductionHypothesis]
        simp only [List.getElem?_cons_succ, Nat.add_assoc, Nat.add_comm 1]
      constructor
      · intro member
        by_cases matched : Text.abbreviates text name.toList
        · rw [matchingNames, if_pos matched] at member
          rcases List.mem_cons.mp member with rfl | later
          · exact ⟨0, name, rfl, matched, rfl⟩
          · obtain ⟨offset, found⟩ := shifted.mp later
            exact ⟨offset + 1, found⟩
        · rw [matchingNames, if_neg matched] at member
          obtain ⟨offset, found⟩ := shifted.mp member
          exact ⟨offset + 1, found⟩
      · rintro ⟨offset, other, found, matched, rfl⟩
        cases offset with
        | zero =>
            obtain rfl : name = other := by simpa using found
            simp [matchingNames, matched]
        | succ offset =>
            have later := shifted.mpr ⟨offset, other, found, matched, rfl⟩
            rw [matchingNames]
            split
            · exact List.mem_cons_of_mem _ later
            · exact later

theorem matchingNames_increasing
    (text : List Char)
    (names : List String)
    (start : Nat) :
    (matchingNames text names start).Pairwise (· < ·) := by
  induction names generalizing start with
  | nil => exact .nil
  | cons name names inductionHypothesis =>
      rw [matchingNames]
      split
      · refine List.pairwise_cons.mpr ⟨fun place member => ?_, inductionHypothesis _⟩
        obtain ⟨offset, -, -, -, rfl⟩ := mem_matchingNames.mp member
        omega
      · exact inductionHypothesis _

/-- Exactly one place matches if exactly one name is abbreviated. -/
theorem matchingNames_eq_singleton_iff
    {text : List Char}
    {names : List String}
    {place : Nat} :
    matchingNames text names 0 = [place] ↔
      place < names.length ∧
        ∀ other name, names[other]? = some name →
          (Text.abbreviates text name.toList ↔ other = place) := by
  have memIff :
      matchingNames text names 0 = [place] ↔
        ∀ other, other ∈ matchingNames text names 0 ↔ other = place := by
    constructor
    · intro single
      simp [single]
    · intro same
      exact (matchingNames_increasing text names 0).eq_of_mem_iff (List.pairwise_singleton ..)
        (by simpa using same)
  rw [memIff]
  simp only [mem_matchingNames, Nat.zero_add]
  constructor
  · intro same
    obtain ⟨_, name, found, matched, rfl⟩ := (same place).mpr rfl
    refine ⟨(List.getElem?_eq_some_iff.mp found).1, fun other otherName otherFound => ?_⟩
    constructor
    · exact fun otherMatched => (same other).mp ⟨other, otherName, otherFound, otherMatched, rfl⟩
    · rintro rfl
      rwa [Option.some.inj (otherFound.symm.trans found)]
  · rintro ⟨listed, only⟩ other
    constructor
    · rintro ⟨_, name, found, matched, rfl⟩
      exact (only other name found).mp matched
    · rintro rfl
      have found := List.getElem?_eq_getElem listed
      exact ⟨other, _, found, (only other _ found).mpr rfl, rfl⟩

theorem namedValue_eq_ok_iff
    {kind : FieldKind}
    {text : List Char}
    {value : Int} :
    namedValue kind text = .ok value ↔
      ∃ place, matchingNames text kind.names 0 = [place] ∧ kind.least + place = value := by
  unfold namedValue
  split
  · next shape => simp [shape]
  · next place shape => simp [shape]
  · next place other others shape => simp [shape]

theorem parseValue_eq_ok_iff
    {kind : FieldKind}
    {text : List Char}
    {value : Int} :
    parseValue kind text = .ok value ↔ WritesValue kind text value := by
  cases text with
  | nil =>
      constructor
      · intro read
        cases read
      · rintro (⟨writes, -⟩ | _)
        exact absurd rfl writes.given
  | cons c rest =>
      by_cases digit : c.isDigit
      · have noMinus : c ≠ '-' := by
          rintro rfl
          exact absurd digit (by decide)
        have read :
            parseValue kind (c :: rest) = .ok value ↔
              Decimal.integer? (c :: rest) = some value := by
          simp only [parseValue, if_pos digit]
          split <;> simp_all
        rw [read, Decimal.integer?_eq_some_iff]
        constructor
        · rintro (⟨writes, fits⟩ | _)
          · exact .number writes fits
          · exact absurd rfl noMinus
        · rintro (⟨writes, fits⟩ | ⟨noDigit, -, -⟩)
          · exact .plain writes fits
          · exact absurd digit noDigit
      · have read :
            parseValue kind (c :: rest) = .ok value ↔
              namedValue kind (c :: rest) = .ok value := by
          simp only [parseValue, if_neg digit]
          by_cases named : kind.hasNames
          · rw [if_pos named]
          · have noNames : kind.names = [] := by
              simpa [FieldKind.hasNames] using named
            simp [named, namedValue, noNames, matchingNames]
        rw [read, namedValue_eq_ok_iff]
        constructor
        · rintro ⟨place, single, rfl⟩
          obtain ⟨listed, only⟩ := matchingNames_eq_singleton_iff.mp single
          exact .name digit listed only
        · rintro (⟨writes, -⟩ | ⟨-, listed, only⟩)
          · exact absurd (writes.digits c List.mem_cons_self) digit
          · exact ⟨_, matchingNames_eq_singleton_iff.mpr ⟨listed, only⟩, rfl⟩

end FieldSet

/-! ### The marks of a term -/

/-- The letters of an abbreviation are those of the name. -/
theorem Text.mem_lower_of_abbreviates
    {text name : List Char}
    (short : Text.abbreviates text name)
    {c : Char}
    (member : c ∈ text) :
    c.toLower ∈ Text.lower name :=
  (List.isPrefixOf_iff_prefix.mp short).subset (List.mem_map_of_mem member)

theorem FieldKind.isAlphanum_of_mem_names (kind : FieldKind) :
    ∀ name ∈ kind.names, ∀ c ∈ Text.lower name.toList, c.isAlphanum := by
  have all :
      (kind.names.all fun name => (Text.lower name.toList).all Char.isAlphanum) = true := by
    cases kind <;> decide
  simpa only [List.all_eq_true] using all

/-- A digit is no capital. -/
theorem Decimal.isAlphanum_of_isDigit
    {c : Char}
    (digit : c.isDigit) :
    c.toLower.isAlphanum := by
  have notUpper : ¬ ('A'.val ≤ c.val ∧ c.val ≤ 'Z'.val) := by
    simp only [Char.isDigit, Bool.and_eq_true, decide_eq_true_eq, ge_iff_le] at digit
    grind
  have same : c.toLower = c := dif_neg notUpper
  rw [same, Char.isAlphanum, digit, Bool.or_true]

/-- Values are written with letters and digits only, so that no mark of a term occurs in them. -/
theorem WritesValue.isAlphanum
    {kind : FieldKind}
    {text : List Char}
    {value : Int}
    (writes : WritesValue kind text value) :
    ∀ c ∈ text, c.toLower.isAlphanum := by
  intro c member
  cases writes with
  | number writes _ => exact Decimal.isAlphanum_of_isDigit (writes.digits c member)
  | name _ listed only =>
      have short := (only _ _ (List.getElem?_eq_getElem listed)).mpr rfl
      exact kind.isAlphanum_of_mem_names _ (List.getElem_mem listed) _
        (Text.mem_lower_of_abbreviates short member)

theorem WritesValue.not_mem
    {kind : FieldKind}
    {text : List Char}
    {value : Int}
    (writes : WritesValue kind text value)
    {mark : Char}
    (isMark : ¬ mark.toLower.isAlphanum) :
    mark ∉ text :=
  fun member => isMark (writes.isAlphanum mark member)

theorem WritesBody.ne_nil
    {kind : FieldKind}
    {text : List Char}
    {body : FieldBody}
    (writes : WritesBody kind text body) :
    text ≠ [] := by
  cases writes with
  | star => simp
  | value writes =>
      cases writes with
      | number writes _ => exact writes.given
      | name => simp
  | range => simp

theorem WritesTerm.ne_nil
    {kind : FieldKind}
    {text : List Char}
    {term : FieldTerm}
    (writes : WritesTerm kind text term) :
    text ≠ [] := by
  cases writes with
  | plain _ writes => exact writes.ne_nil
  | stepped => simp

theorem WritesValue.nonneg
    {kind : FieldKind}
    {text : List Char}
    {value : Int}
    (writes : WritesValue kind text value) :
    0 ≤ value := by
  cases writes with
  | number => exact Int.natCast_nonneg _
  | name =>
      have : 0 ≤ kind.least := by cases kind <;> decide
      omega

/-- A number of 32 bits that is not negative writes itself, for every field. -/
theorem writesValue_write
    {kind : FieldKind}
    {value : Int}
    (nonneg : 0 ≤ value)
    (fits : value ≤ 2147483647) :
    WritesValue kind (Decimal.write value) value := by
  have writes : WritesValue kind _ (value.natAbs : Int) :=
    .number (Decimal.writesNatural_write nonneg) (by omega)
  rwa [Int.natAbs_of_nonneg nonneg] at writes

/-- The values that a body names are not negative. -/
theorem WritesBody.nonneg
    {kind : FieldKind}
    {text : List Char}
    {body : FieldBody}
    (writes : WritesBody kind text body) :
    ∀ value ∈ body.values, 0 ≤ value := by
  cases writes with
  | star => simp [FieldBody.values]
  | value writes => simpa [FieldBody.values] using writes.nonneg
  | range _ _ writesLeft writesRight =>
      simpa [FieldBody.values] using ⟨writesLeft.nonneg, writesRight.nonneg⟩

theorem WritesTerm.nonneg
    {kind : FieldKind}
    {text : List Char}
    {term : FieldTerm}
    (writes : WritesTerm kind text term) :
    ∀ value ∈ term.body.values, 0 ≤ value := by
  cases writes with
  | plain _ writes => exact writes.nonneg
  | stepped _ writes _ => exact writes.nonneg

namespace FieldSet

/-! ### Bodies and terms -/

theorem splitRange_eq_some_iff
    {text before after : List Char} :
    splitRange text = some (before, after) ↔
      text = before ++ '-' :: after ∧ '-' ∉ before ∧ before ≠ [] := by
  rw [← and_assoc, ← Text.cut_eq_some_iff, splitRange]
  split
  · next front back shape =>
      rw [shape]
      split
      · next isEmpty =>
          simp only [List.isEmpty_iff] at isEmpty
          grind
      · next notEmpty =>
          simp only [List.isEmpty_iff] at notEmpty
          grind
  · next shape => simp [shape]

theorem splitRange_eq_none
    {text : List Char}
    (noDash : '-' ∉ text) :
    splitRange text = none := by
  rw [splitRange, Text.cut_eq_none_iff.mpr noDash]

theorem parseEnds_eq_ok_iff
    {kind : FieldKind}
    {text : List Char}
    {step : Option Int}
    {ends : Int × Int × Int} :
    parseEnds kind text step = .ok ends ↔
      ∃ body, WritesBody kind text body ∧ FieldTerm.ends kind ⟨body, step⟩ = ends := by
  constructor
  · intro read
    unfold parseEnds at read
    split at read
    · next isStar =>
        subst isStar
        injection read with shape
        exact ⟨.star, .star, shape⟩
    · split at read
      · next before after shape =>
          obtain ⟨rfl, firstDash, notInFront⟩ := splitRange_eq_some_iff.mp shape
          obtain ⟨left, leftRead, read⟩ := exists_of_bind_eq_ok read
          obtain ⟨right, rightRead, read⟩ := exists_of_bind_eq_ok read
          injection read with shape
          exact ⟨.range left right,
            .range notInFront firstDash (parseValue_eq_ok_iff.mp leftRead)
              (parseValue_eq_ok_iff.mp rightRead), shape⟩
      · obtain ⟨value, valueRead, read⟩ := exists_of_bind_eq_ok read
        refine ⟨.value value, .value (parseValue_eq_ok_iff.mp valueRead), ?_⟩
        cases step with
        | none => injection read
        | some step => injection read
  · rintro ⟨body, writes, rfl⟩
    cases writes with
    | star => rfl
    | value writes =>
        have notStar : text ≠ ['*'] := by
          rintro rfl
          exact writes.not_mem (by decide) List.mem_cons_self
        rw [parseEnds, if_neg notStar, splitRange_eq_none (writes.not_mem (by decide))]
        simp only [parseValue_eq_ok_iff.mpr writes]
        cases step <;> rfl
    | @range before after _ _ notInFront firstDash writesLeft writesRight =>
        have notStar : before ++ '-' :: after ≠ ['*'] := by
          intro isStar
          have dash : '-' ∈ ['*'] := by rw [← isStar]; simp
          exact absurd dash (by decide)
        rw [parseEnds, if_neg notStar,
          splitRange_eq_some_iff.mpr ⟨rfl, firstDash, notInFront⟩]
        simp only [parseValue_eq_ok_iff.mpr writesLeft, parseValue_eq_ok_iff.mpr writesRight]
        rfl

theorem splitStep_eq_ok_iff
    {kind : FieldKind}
    {text body : List Char}
    {step : Option Int} :
    splitStep kind text = .ok (body, step) ↔
      ('/' ∉ text ∧ body = text ∧ step = none) ∨
        ∃ before after value,
          text = before ++ '/' :: after ∧ '/' ∉ before ∧
            Decimal.WritesInteger (Text.trim after) value ∧ Text.trim before = body ∧
              body ≠ [] ∧ step = some value := by
  cases shape : Text.cut '/' text with
  | none =>
      have noSlash := Text.cut_eq_none_iff.mp shape
      simp only [splitStep, shape, Except.ok.injEq, Prod.mk.injEq]
      constructor
      · rintro ⟨rfl, rfl⟩
        exact Or.inl ⟨noSlash, rfl, rfl⟩
      · rintro (⟨-, rfl, rfl⟩ | ⟨before, after, value, rfl, -⟩)
        · exact ⟨rfl, rfl⟩
        · exact absurd (by simp) noSlash
  | some parts =>
      obtain ⟨before, after⟩ := parts
      obtain ⟨rfl, firstSlash⟩ := Text.cut_eq_some_iff.mp shape
      simp only [splitStep, shape]
      constructor
      · intro read
        split at read
        · contradiction
        · next value stepRead =>
            split at read
            · contradiction
            · next given =>
                injection read with same
                obtain ⟨rfl, rfl⟩ := Prod.mk.inj same
                exact Or.inr ⟨before, after, value, rfl, firstSlash,
                  Decimal.integer?_eq_some_iff.mp stepRead, rfl, given, rfl⟩
      · rintro (⟨noSlash, -⟩ | ⟨front, back, value, same, noSlash, writes, rfl, given, rfl⟩)
        · exact absurd (by simp) noSlash
        · have sameCut := Text.cut_eq_some_iff.mpr ⟨same, noSlash⟩
          obtain ⟨rfl, rfl⟩ := Prod.mk.inj (Option.some.inj (shape.symm.trans sameCut))
          simp only [Decimal.integer?_eq_some_iff.mpr writes]

/-- What is read of a text that writes a term is decided by the ends of that term alone, also where
they make no span. -/
theorem parseTerm_of_writes
    {kind : FieldKind}
    {text : List Char}
    {term : FieldTerm}
    (writes : WritesTerm kind text term) :
    parseTerm kind text =
      spanBetween kind (term.ends kind).1 (term.ends kind).2.1 (term.ends kind).2.2
        (String.ofList text) := by
  have parts :
      ∃ bodyText, splitStep kind text = .ok (bodyText, term.step) ∧
        WritesBody kind bodyText term.body := by
    cases writes with
    | plain noSlash writes =>
        exact ⟨text, splitStep_eq_ok_iff.mpr (Or.inl ⟨noSlash, rfl, rfl⟩), writes⟩
    | stepped firstSlash writes writesStep =>
        exact ⟨_, splitStep_eq_ok_iff.mpr
          (Or.inr ⟨_, _, _, rfl, firstSlash, writesStep, rfl, writes.ne_nil, rfl⟩), writes⟩
  obtain ⟨bodyText, stepRead, writesBody⟩ := parts
  have endsRead : parseEnds kind bodyText term.step = .ok (term.ends kind) :=
    parseEnds_eq_ok_iff.mpr ⟨term.body, writesBody, rfl⟩
  simp only [parseTerm, stepRead, bind, Except.bind, endsRead]

/-- A text is read as a term that it writes, and as the span between the ends of that term. -/
theorem parseTerm_eq_ok_iff
    {kind : FieldKind}
    {text : List Char}
    {span : Span} :
    parseTerm kind text = .ok span ↔
      ∃ term, WritesTerm kind text term ∧
        spanBetween kind (term.ends kind).1 (term.ends kind).2.1 (term.ends kind).2.2
          (String.ofList text) = .ok span := by
  constructor
  · intro read
    obtain ⟨⟨bodyText, step⟩, stepRead, read⟩ := exists_of_bind_eq_ok read
    obtain ⟨ends, endsRead, accepted⟩ := exists_of_bind_eq_ok read
    obtain ⟨body, writes, rfl⟩ := parseEnds_eq_ok_iff.mp endsRead
    refine ⟨⟨body, step⟩, ?_, accepted⟩
    rcases splitStep_eq_ok_iff.mp stepRead with
      ⟨noSlash, rfl, rfl⟩ | ⟨before, after, value, rfl, firstSlash, writesStep, rfl, -, rfl⟩
    · exact .plain noSlash writes
    · exact .stepped firstSlash writes writesStep
  · rintro ⟨term, writes, accepted⟩
    rw [parseTerm_of_writes writes, accepted]

end FieldSet

end Cadence
