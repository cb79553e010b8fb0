import Cadence.Proofs.Field.RoundTrip

namespace Cadence

/-!
# What sets answer

The bounds of a set are kept apart from its mask, and every term brings both up to
date on its own.  A search for the next value that trusts the bounds, scanning the
mask between them only, is therefore right for as long as the three agree.  They do
for every set that a text denotes, in whatever way its terms overlap: what a set
answers is then what its values say, and no bit is ever asked for that is not the
bit of a value of the field.
-/

namespace FieldSet

/-! ### Scanning the mask -/

/-- The values from one on up to another. -/
def stretch
    (start stop : Int) :
    List Int :=
  (List.range (stop - start + 1).toNat).map fun (offset : Nat) => start + offset

/-- The next value as the mask has it: outside the bounds the answer needs no scan, and within
them it is the first value with a bit. -/
def scan
    (set : FieldSet)
    (start : Int) :
    Option Int :=
  if set.mask = 0 then
    none
  else if start < set.lowerBound then
    some set.lowerBound
  else if set.upperBound < start then
    none
  else
    (stretch start set.upperBound).find? fun value =>
      set.mask.testBit (value - set.kind.least).toNat

theorem mem_stretch
    {start stop value : Int} :
    value ∈ stretch start stop ↔ start ≤ value ∧ value ≤ stop := by
  simp only [stretch, List.mem_map, List.mem_range]
  constructor
  · rintro ⟨offset, inRange, rfl⟩
    omega
  · rintro ⟨lower, upper⟩
    exact ⟨(value - start).toNat, by omega, by omega⟩

theorem stretch_increasing
    (start stop : Int) :
    (stretch start stop).Pairwise (· < ·) := by
  rw [stretch, List.pairwise_map]
  exact List.pairwise_lt_range.imp (by omega)

/-- Searches through increasing lists find the same if they accept the same values. -/
theorem find?_eq_of_increasing
    {left right : List Int}
    {acceptsLeft acceptsRight : Int → Bool}
    (leftIncreasing : left.Pairwise (· < ·))
    (rightIncreasing : right.Pairwise (· < ·))
    (same :
      ∀ value, value ∈ left ∧ acceptsLeft value ↔ value ∈ right ∧ acceptsRight value) :
    left.find? acceptsLeft = right.find? acceptsRight := by
  have filtered : left.filter acceptsLeft = right.filter acceptsRight := by
    apply List.Pairwise.eq_of_mem_iff (leftIncreasing.filter _) (rightIncreasing.filter _)
    intro value
    rw [List.mem_filter, List.mem_filter]
    exact same value
  rw [← List.head?_filter, filtered, List.head?_filter]

/-! ### The next value -/

theorem next_eq_some_iff
    {set : FieldSet}
    {start value : Int} :
    set.next start = some value ↔
      IsLeast {member | start ≤ member ∧ set.contains member} value := by
  constructor
  · exact isLeast_of_next
  · intro isLeast
    cases found : set.next start with
    | none =>
        have below := lt_of_next_eq_none found isLeast.1.2
        exact absurd isLeast.1.1 (Int.not_le.mpr below)
    | some least => rw [(isLeast_of_next found).unique isLeast]

theorem next_eq_none_iff
    {set : FieldSet}
    {start : Int} :
    set.next start = none ↔ ∀ member, set.contains member → member < start := by
  constructor
  · exact fun missed member => lt_of_next_eq_none missed
  · intro below
    cases found : set.next start with
    | none => rfl
    | some value =>
        obtain ⟨fromStart, permitted⟩ := (isLeast_of_next found).1
        exact absurd (below value permitted) (Int.not_lt.mpr fromStart)

namespace Canonical

variable {kind : FieldKind} {set : FieldSet}

theorem mask_ne_zero
    (canonical : set.Canonical kind) :
    set.mask ≠ 0 := by
  intro blank
  have bit := (contains_iff.mp canonical.lowerBound_isLeast.1).2
  simp [blank] at bit

/-- What is within the bounds of a set is a value of its field, whether or not it is permitted. -/
theorem mem_values_of_bounds
    (canonical : set.Canonical kind)
    {value : Int}
    (lower : set.lowerBound ≤ value)
    (upper : value ≤ set.upperBound) :
    value ∈ set.kind.values := by
  have lowest := FieldKind.mem_values.mp (mem_values_of_contains canonical.lowerBound_isLeast.1)
  have highest :=
    FieldKind.mem_values.mp (mem_values_of_contains canonical.upperBound_isGreatest.1)
  exact FieldKind.mem_values.mpr ⟨lowest.1.trans lower, upper.trans highest.2⟩

/-- The scan between the bounds of a canonical set misses no value. -/
theorem scan_eq_next
    (canonical : set.Canonical kind)
    (start : Int) :
    set.scan start = set.next start := by
  have isLeast := canonical.lowerBound_isLeast
  have isGreatest := canonical.upperBound_isGreatest
  rw [scan, if_neg canonical.mask_ne_zero]
  split
  · next before =>
      symm
      apply next_eq_some_iff.mpr
      exact ⟨⟨before.le, isLeast.1⟩, fun member accepted => isLeast.2 accepted.2⟩
  · next within =>
      split
      · next behind =>
          symm
          apply next_eq_none_iff.mpr
          exact fun member permitted => (isGreatest.2 permitted).trans_lt behind
      · apply find?_eq_of_increasing (stretch_increasing _ _) set.kind.values_increasing
        intro value
        simp only [mem_stretch, Bool.and_eq_true, decide_eq_true_eq]
        constructor
        · rintro ⟨⟨fromStart, upper⟩, bit⟩
          have listed := canonical.mem_values_of_bounds (by omega) upper
          exact ⟨listed, fromStart, contains_iff.mpr ⟨listed, bit⟩⟩
        · rintro ⟨-, fromStart, permitted⟩
          exact ⟨⟨fromStart, isGreatest.2 permitted⟩, (contains_iff.mp permitted).2⟩

/-- However long one asks for the next value, the walk ends. -/
theorem walk_eq_cons
    (canonical : set.Canonical kind)
    {steps : Nat}
    (enough : set.kind.count ≤ steps) :
    set.walk = set.lowerBound :: set.walkAfter steps set.lowerBound := by
  have size := set.length_filter_members_le (set.lowerBound < ·)
  simp only [walk, canonical.first_eq]
  rw [walkAfter_eq size, walkAfter_eq (size.trans enough)]

end Canonical

/-! ### Counting -/

/-- A set that keeps no bit beyond its values permits as many values as its mask has bits. -/
theorem count_eq_bits
    {set : FieldSet}
    (inRange : ∀ place, set.kind.count ≤ place → set.mask.testBit place = false) :
    set.count = (List.range 64).countP set.mask.testBit := by
  have fits : set.kind.count ≤ 64 := by
    cases set.kind <;> decide
  obtain ⟨beyond, width⟩ := Nat.exists_eq_add_of_le fits
  have onValues :
      set.count = (List.range set.kind.count).countP set.mask.testBit := by
    rw [count, members, ← List.countP_eq_length_filter, FieldKind.values, List.countP_map]
    apply List.countP_congr
    intro place inside
    have bounds := List.mem_range.mp inside
    have listed : set.kind.least + (place : Int) ∈ set.kind.values := by
      have size := set.kind.greatest_eq
      exact FieldKind.mem_values.mpr (by omega)
    have samePlace : (set.kind.least + (place : Int) - set.kind.least).toNat = place := by omega
    simp only [Function.comp_apply, contains_iff, listed, true_and, samePlace]
  have none : ((List.range beyond).map (set.kind.count + ·)).countP set.mask.testBit = 0 := by
    rw [List.countP_eq_zero]
    intro place listed
    obtain ⟨offset, -, rfl⟩ := List.mem_map.mp listed
    simp [inRange _ (Nat.le_add_right _ _)]
  rw [width, List.range_add, List.countP_append, none, onValues, Nat.add_zero]

/-! ### Sets that are read -/

/-- What a set answers is what the values say that it permits. -/
structure Exact
    (set : FieldSet) :
    Prop where
  inRange : ∀ place, set.kind.count ≤ place → set.mask.testBit place = false
  empty_iff : set.isEmpty ↔ set.mask = 0
  ofEmpty : set.isEmpty → set.first = none ∧ ∀ start, set.next start = none
  ofNonempty :
    set.isEmpty = false →
      set.first = some set.lowerBound ∧
        IsLeast {value | set.contains value} set.lowerBound ∧
        IsGreatest {value | set.contains value} set.upperBound
  next_some :
    ∀ start value, set.next start = some value ↔
      IsLeast {member | start ≤ member ∧ set.contains member} value
  next_none :
    ∀ start, set.next start = none ↔ ∀ member, set.contains member → member < start
  /-- The scan of the mask finds the next value. -/
  scans : ∀ start, set.scan start = set.next start
  /-- Between the bounds there are only values of the field, each with a bit of its own. -/
  inside :
    ∀ value, set.lowerBound ≤ value → value ≤ set.upperBound →
      0 ≤ value - set.kind.least ∧ value - set.kind.least < set.kind.count
  walk_increasing : set.walk.Pairwise (· < ·)
  mem_walk : ∀ value, value ∈ set.walk ↔ set.contains value
  walk_ends :
    ∀ value, set.first = some value → ∀ steps, set.kind.count ≤ steps →
      set.walk = value :: set.walkAfter steps value
  count_eq : set.count = set.walk.length
  count_bits : set.count = (List.range 64).countP set.mask.testBit

theorem isEmpty_iff
    {set : FieldSet} :
    set.isEmpty ↔ ∀ value, ¬ set.contains value := by
  simp [isEmpty, List.eq_nil_iff_forall_not_mem]

/-- The set that permits nothing answers so. -/
theorem exact_empty
    (kind : FieldKind) :
    (empty kind).Exact := by
  have noValue := not_contains_empty kind
  have isEmpty : (empty kind).isEmpty := isEmpty_iff.mpr noValue
  have noNext (start : Int) : (empty kind).next start = none :=
    next_eq_none_iff.mpr fun member permitted => absurd permitted (noValue member)
  have noBit (place : Nat) : (empty kind).mask.testBit place = false := Nat.zero_testBit place
  have noMember : (empty kind).members = [] := List.isEmpty_iff.mp isEmpty
  exact {
    inRange := fun place _ => noBit place
    empty_iff := iff_of_true isEmpty rfl
    ofEmpty := fun _ => ⟨rfl, noNext⟩
    ofNonempty := fun nonempty => by simp [isEmpty] at nonempty
    next_some := fun _ _ => next_eq_some_iff
    next_none := fun _ => next_eq_none_iff
    scans := fun start => (noNext start).symm
    inside := fun value lower upper => by
      have lowest : (empty kind).lowerBound = 2147483647 := rfl
      have highest : (empty kind).upperBound = -1 := rfl
      omega
    walk_increasing := List.Pairwise.nil
    mem_walk := fun value => iff_of_false List.not_mem_nil (noValue value)
    walk_ends := fun value isFirst => nomatch isFirst
    count_eq := congrArg List.length noMember
    count_bits := count_eq_bits fun place _ => noBit place }

theorem Canonical.exact
    {kind : FieldKind}
    {set : FieldSet}
    (canonical : set.Canonical kind) :
    set.Exact where
  inRange := canonical.kind_eq ▸ canonical.inRange
  empty_iff := by simp [canonical.isEmpty_eq_false, canonical.mask_ne_zero]
  ofEmpty := fun isEmpty => by simp [canonical.isEmpty_eq_false] at isEmpty
  ofNonempty := fun _ =>
    ⟨canonical.first_eq, canonical.lowerBound_isLeast, canonical.upperBound_isGreatest⟩
  next_some := fun _ _ => next_eq_some_iff
  next_none := fun _ => next_eq_none_iff
  scans := canonical.scan_eq_next
  inside := fun value lower upper => by
    have listed := FieldKind.mem_values.mp (canonical.mem_values_of_bounds lower upper)
    have size := set.kind.greatest_eq
    omega
  walk_increasing := canonical.walk_eq ▸ set.members_increasing
  mem_walk := fun value => by rw [canonical.walk_eq, mem_members]
  walk_ends := fun value isFirst steps enough => by
    obtain rfl := Option.some.inj (canonical.first_eq.symm.trans isFirst)
    exact canonical.walk_eq_cons enough
  count_eq := by rw [canonical.walk_eq, count]
  count_bits := count_eq_bits (canonical.kind_eq ▸ canonical.inRange)

/-- Every set that is read from a text answers exactly what its values say.  It is empty if the text
is blank and only then; and two of them, of one kind, are the same if they permit the same values
and only then, and then there is no telling them apart. -/
theorem parse_exact
    {kind : FieldKind}
    {text : String}
    {set : FieldSet}
    (read : parse kind text = .ok set) :
    set.kind = kind ∧ set.Exact ∧ (set.isEmpty ↔ Text.trim text.toList = []) ∧
      ∀ (otherText : String) (other : FieldSet), parse kind otherText = .ok other →
        (set.same other ↔ ∀ value, set.contains value ↔ other.contains value) ∧
          (set.same other →
            set.first = other.first ∧ (∀ start, set.next start = other.next start) ∧
              set.lowerBound = other.lowerBound ∧ set.upperBound = other.upperBound ∧
              ∀ format, write format set = write format other) := by
  refine ⟨?_, ?_, ?_, fun otherText other otherRead => ⟨⟨contains_of_same, ?_⟩, ?_⟩⟩
  · rcases empty_or_canonical read with ⟨-, rfl⟩ | ⟨-, canonical⟩
    · rfl
    · exact canonical.kind_eq
  · rcases empty_or_canonical read with ⟨-, rfl⟩ | ⟨-, canonical⟩
    · exact exact_empty kind
    · exact canonical.exact
  · rcases empty_or_canonical read with ⟨blank, rfl⟩ | ⟨notBlank, canonical⟩
    · exact iff_of_true (isEmpty_iff.mpr (not_contains_empty kind)) blank
    · exact iff_of_false (by simp [canonical.isEmpty_eq_false]) notBlank
  · intro sameValues
    obtain rfl := eq_of_contains read otherRead sameValues
    simp [FieldSet.same]
  · intro same
    obtain rfl := eq_of_contains read otherRead (contains_of_same same)
    exact ⟨rfl, fun _ => rfl, rfl, rfl, fun _ => rfl⟩

/-- Terms that overlap, in any order, and one of which steps past the end of its range. -/
theorem parse_exact_overlapping :
    ∃ set, parse .hour "20-22, 3-12/4, 21" = .ok set ∧
      set.scan (-5) = some 3 ∧ set.scan 12 = some 20 ∧ set.scan 23 = none ∧
      set.walk = [3, 7, 11, 20, 21, 22] ∧
      ∃ other, parse .hour "3,7,11,20-22" = .ok other ∧
        write .numeric set = write .numeric other := by
  have read : parse .hour "20-22, 3-12/4, 21" = .ok ⟨.hour, 7342216, some (3, 22)⟩ := by
    decide +kernel
  have otherRead : parse .hour "3,7,11,20-22" = .ok ⟨.hour, 7342216, some (3, 22)⟩ := by
    decide +kernel
  obtain ⟨-, exactly, -, others⟩ := parse_exact read
  have same := (others _ _ otherRead).2 (by decide)
  exact ⟨_, read, (exactly.scans _).trans (by decide), (exactly.scans _).trans (by decide),
    (exactly.scans _).trans (by decide), by decide +kernel, _, otherRead, same.2.2.2.2 .numeric⟩

end FieldSet

end Cadence
