import Cadence.Field.Printer
import Cadence.Proofs.Field.Canonical
import Mathlib.Data.List.Pairwise

namespace Cadence

/-!
# The runs of a set

The walk through a canonical set meets its values in order.  The runs that are
gathered on the way cover those values and no other, and they are all the
stretches of consecutive values that go on at neither end, each before the next
with a gap between them.
-/

namespace FieldSet

/-! ### The walk -/

@[simp]
theorem mem_members
    {set : FieldSet}
    {value : Int} :
    value ∈ set.members ↔ set.contains value := by
  rw [members, List.mem_filter]
  constructor
  · exact And.right
  · exact fun permitted => ⟨mem_values_of_contains permitted, permitted⟩

theorem members_increasing (set : FieldSet) :
    set.members.Pairwise (· < ·) :=
  set.kind.values_increasing.filter _

/-- Enough steps after a value meet every later one. -/
theorem walkAfter_eq
    {set : FieldSet}
    {steps : Nat}
    {value : Int}
    (enough : (set.members.filter (value < ·)).length ≤ steps) :
    set.walkAfter steps value = set.members.filter (value < ·) := by
  induction steps generalizing value with
  | zero => exact (List.length_eq_zero_iff.mp (Nat.le_zero.mp enough)).symm
  | succ steps inductionHypothesis =>
      rw [walkAfter]
      cases found : set.next (value + 1) with
      | none =>
          symm
          apply List.filter_eq_nil_iff.mpr
          intro member listed
          have below := lt_of_next_eq_none found (mem_members.mp listed)
          simp only [decide_eq_true_eq]
          omega
      | some following =>
          obtain ⟨⟨later, permitted⟩, least⟩ := isLeast_of_next found
          have shape :
              set.members.filter (value < ·) =
                following :: set.members.filter (following < ·) := by
            apply List.Pairwise.eq_of_mem_iff (set.members_increasing.filter _)
            · refine List.pairwise_cons.mpr ⟨?_, set.members_increasing.filter _⟩
              intro member listed
              simpa using (List.mem_filter.mp listed).2
            · intro member
              simp only [List.mem_filter, mem_members, decide_eq_true_eq, List.mem_cons]
              constructor
              · rintro ⟨memberPermitted, memberLater⟩
                have := least ⟨by omega, memberPermitted⟩
                by_cases same : member = following
                · exact Or.inl same
                · exact Or.inr ⟨memberPermitted, by omega⟩
              · rintro (rfl | ⟨memberPermitted, memberLater⟩)
                · exact ⟨permitted, by omega⟩
                · exact ⟨memberPermitted, by omega⟩
          rw [shape, List.length_cons] at enough
          rw [shape, ← inductionHypothesis (Nat.le_of_succ_le_succ enough)]

/-- A set has no more members, of whatever sort, than its field has values. -/
theorem length_filter_members_le
    (set : FieldSet)
    (accepts : Int → Bool) :
    (set.members.filter accepts).length ≤ set.kind.count := by
  have size : set.kind.values.length = set.kind.count := by simp [FieldKind.values]
  rw [← size]
  exact (List.length_filter_le _ _).trans (List.length_filter_le _ _)

/-- The walk through a canonical set meets its values in order. -/
theorem Canonical.walk_eq
    {kind : FieldKind}
    {set : FieldSet}
    (canonical : set.Canonical kind) :
    set.walk = set.members := by
  obtain ⟨permitted, least⟩ := canonical.lowerBound_isLeast
  simp only [walk, canonical.first_eq, walkAfter_eq (set.length_filter_members_le _)]
  apply List.Pairwise.eq_of_mem_iff _ set.members_increasing
  · intro member
    simp only [List.mem_cons, List.mem_filter, mem_members, decide_eq_true_eq]
    constructor
    · rintro (rfl | ⟨memberPermitted, -⟩)
      · exact permitted
      · exact memberPermitted
    · intro memberPermitted
      have := least memberPermitted
      by_cases same : member = set.lowerBound
      · exact Or.inl same
      · exact Or.inr ⟨memberPermitted, by omega⟩
  · refine List.pairwise_cons.mpr ⟨?_, set.members_increasing.filter _⟩
    intro member listed
    simpa using (List.mem_filter.mp listed).2

/-! ### Runs -/

/-- The span of the values between the ends of a run. -/
def runSpan (run : Int × Int) : Span :=
  ⟨run.1, run.2, 1⟩

@[simp]
theorem covers_runSpan
    {run : Int × Int}
    {value : Int} :
    (runSpan run).Covers value ↔ run.1 ≤ value ∧ value ≤ run.2 := by
  simp [runSpan, Span.Covers]

theorem le_of_mem_runs
    {values : List Int}
    {run : Int × Int}
    (member : run ∈ runs values) :
    run.1 ≤ run.2 := by
  induction values generalizing run with
  | nil => contradiction
  | cons value values inductionHypothesis =>
      rw [runs] at member
      split at member
      · obtain rfl := List.mem_singleton.mp member
        exact le_refl _
      · next low high others shape =>
          have ordered : low ≤ high := inductionHypothesis (shape ▸ List.mem_cons_self)
          split at member
          · rcases List.mem_cons.mp member with rfl | later
            · change value ≤ high
              omega
            · exact inductionHypothesis (shape ▸ List.mem_cons_of_mem _ later)
          · rcases List.mem_cons.mp member with rfl | later
            · exact le_refl _
            · exact inductionHypothesis (shape ▸ later)

/-- The runs of a list cover its values and no other. -/
theorem mem_iff_exists_run
    {values : List Int}
    {value : Int} :
    value ∈ values ↔ ∃ run ∈ runs values, (runSpan run).Covers value := by
  induction values with
  | nil => simp [runs]
  | cons first values inductionHypothesis =>
      rw [List.mem_cons, inductionHypothesis, runs]
      cases shape : runs values with
      | nil =>
          simp only [List.not_mem_nil, false_and, exists_false, or_false, List.mem_singleton,
            exists_eq_left, covers_runSpan]
          omega
      | cons run others =>
          obtain ⟨low, high⟩ := run
          have ordered : low ≤ high := le_of_mem_runs (shape ▸ List.mem_cons_self)
          simp only
          split <;>
            simp only [List.exists_mem_cons_iff, covers_runSpan]
          · -- The first value lengthens the run that begins right after it.
            rw [← or_assoc]
            apply or_congr_left
            omega
          · apply or_congr_left
            omega

/-- The ends of the runs of a set are values of its field. -/
theorem Canonical.listed_of_mem_runs
    {kind : FieldKind}
    {set : FieldSet}
    (canonical : set.Canonical kind)
    {run : Int × Int}
    (member : run ∈ runs set.members) :
    run.1 ∈ kind.values ∧ run.2 ∈ kind.values := by
  have ordered := le_of_mem_runs member
  have listed {value : Int} (covered : (runSpan run).Covers value) : value ∈ kind.values := by
    rw [← canonical.kind_eq]
    exact mem_values_of_contains (mem_members.mp (mem_iff_exists_run.mpr ⟨run, member, covered⟩))
  constructor
  · exact listed (covers_runSpan.mpr ⟨le_refl _, ordered⟩)
  · exact listed (covers_runSpan.mpr ⟨ordered, le_refl _⟩)

/-! ### Maximal runs -/

/-- A run of consecutive values of a set that goes on at neither end. -/
structure IsMaximalRun (set : FieldSet) (run : Int × Int) : Prop where
  ordered : run.1 ≤ run.2
  inside : ∀ value, run.1 ≤ value → value ≤ run.2 → set.contains value
  noneBefore : ¬ set.contains (run.1 - 1)
  noneAfter : ¬ set.contains (run.2 + 1)

namespace IsMaximalRun

variable {set : FieldSet} {run other : Int × Int}

/-- A maximal run leaves no value to another that it meets, at either end. -/
theorem encloses
    (maximal : set.IsMaximalRun run)
    (otherMaximal : set.IsMaximalRun other)
    (before : run.1 ≤ other.2)
    (after : other.1 ≤ run.2) :
    run.1 ≤ other.1 ∧ other.2 ≤ run.2 := by
  constructor
  · by_contra earlier
    exact maximal.noneBefore (otherMaximal.inside _ (by omega) (by omega))
  · by_contra later
    exact maximal.noneAfter (otherMaximal.inside _ (by omega) (by omega))

/-- Maximal runs that meet are equal. -/
theorem eq_of_meets
    (maximal : set.IsMaximalRun run)
    (otherMaximal : set.IsMaximalRun other)
    (before : run.1 ≤ other.2)
    (after : other.1 ≤ run.2) :
    run = other := by
  obtain ⟨starts, stops⟩ := maximal.encloses otherMaximal before after
  obtain ⟨otherStarts, otherStops⟩ := otherMaximal.encloses maximal after before
  exact Prod.ext (le_antisymm starts otherStarts) (le_antisymm otherStops stops)

end IsMaximalRun

/-- The runs of an increasing list come one after another, with a gap between any two. -/
theorem runs_separated
    {values : List Int}
    (increasing : values.Pairwise (· < ·)) :
    (runs values).Pairwise fun earlier later => earlier.2 + 1 < later.1 := by
  induction values with
  | nil => exact .nil
  | cons value values inductionHypothesis =>
      obtain ⟨first, rest⟩ := List.pairwise_cons.mp increasing
      have separated := inductionHypothesis rest
      rw [runs]
      cases shape : runs values with
      | nil => exact List.pairwise_singleton _ _
      | cons run others =>
          obtain ⟨low, high⟩ := run
          rw [shape] at separated
          obtain ⟨gaps, othersSeparated⟩ := List.pairwise_cons.mp separated
          have ordered : low ≤ high := le_of_mem_runs (shape ▸ List.mem_cons_self)
          have lowListed : low ∈ values :=
            mem_iff_exists_run.mpr
              ⟨(low, high), shape ▸ List.mem_cons_self, covers_runSpan.mpr ⟨le_refl _, ordered⟩⟩
          have above := first low lowListed
          simp only
          split
          · exact List.pairwise_cons.mpr ⟨gaps, othersSeparated⟩
          · next apart =>
              refine List.pairwise_cons.mpr ⟨fun later member => ?_, separated⟩
              rcases List.mem_cons.mp member with rfl | inOthers
              · show value + 1 < low
                omega
              · have gap : high + 1 < later.1 := gaps later inOthers
                show value + 1 < later.1
                omega

/-- Runs with a gap between them, the one before the other or after it. -/
def Apart (run other : Int × Int) : Prop :=
  run.2 + 1 < other.1 ∨ other.2 + 1 < run.1

instance : Std.Symm Apart :=
  ⟨fun _ _ => Or.symm⟩

theorem eq_or_apart_of_mem_runs
    {values : List Int}
    (increasing : values.Pairwise (· < ·))
    {run other : Int × Int}
    (member : run ∈ runs values)
    (otherMember : other ∈ runs values) :
    run = other ∨ Apart run other := by
  have apart : (runs values).Pairwise Apart := (runs_separated increasing).imp Or.inl
  by_cases same : run = other
  · exact Or.inl same
  · exact Or.inr (apart.forall member otherMember same)

theorem contains_iff_exists_run
    {set : FieldSet}
    {value : Int} :
    set.contains value ↔ ∃ run ∈ runs set.members, run.1 ≤ value ∧ value ≤ run.2 := by
  simp only [← mem_members, mem_iff_exists_run, covers_runSpan]

/-- The gap between a run and any other leaves no value right beside it. -/
theorem isMaximalRun_of_mem_runs
    {set : FieldSet}
    {run : Int × Int}
    (member : run ∈ runs set.members) :
    set.IsMaximalRun run := by
  have ordered := le_of_mem_runs member
  have noneBeside {value : Int} (beside : value = run.1 - 1 ∨ value = run.2 + 1) :
      ¬ set.contains value := by
    intro permitted
    obtain ⟨other, otherMember, lower, upper⟩ := contains_iff_exists_run.mp permitted
    rcases eq_or_apart_of_mem_runs set.members_increasing member otherMember with
      rfl | before | after <;> omega
  exact {
    ordered := ordered
    inside := fun value lower upper =>
      contains_iff_exists_run.mpr ⟨run, member, lower, upper⟩
    noneBefore := noneBeside (Or.inl rfl)
    noneAfter := noneBeside (Or.inr rfl) }

/-- The runs of the members of a set are its maximal runs. -/
theorem mem_runs_members
    {set : FieldSet}
    {run : Int × Int} :
    run ∈ runs set.members ↔ set.IsMaximalRun run := by
  constructor
  · exact isMaximalRun_of_mem_runs
  · intro maximal
    have starts := maximal.inside run.1 (le_refl _) maximal.ordered
    obtain ⟨other, otherMember, lower, upper⟩ := contains_iff_exists_run.mp starts
    have same : run = other :=
      maximal.eq_of_meets (isMaximalRun_of_mem_runs otherMember) upper
        (lower.trans maximal.ordered)
    rwa [same]

/-- The run of all values of a field. -/
theorem isMaximalRun_whole
    {set : FieldSet} :
    set.IsMaximalRun (set.kind.least, set.kind.greatest) ↔
      ∀ value ∈ set.kind.values, set.contains value := by
  constructor
  · intro maximal value listed
    obtain ⟨lower, upper⟩ := FieldKind.mem_values.mp listed
    exact maximal.inside value lower upper
  · intro all
    have listed {value : Int} (permitted : set.contains value) :=
      FieldKind.mem_values.mp (mem_values_of_contains permitted)
    exact {
      ordered := set.kind.least_le_greatest
      inside := fun value lower upper => all value (FieldKind.mem_values.mpr ⟨lower, upper⟩)
      noneBefore := fun permitted => absurd (listed permitted).1 (by simp only; omega)
      noneAfter := fun permitted => absurd (listed permitted).2 (by simp only; omega) }

end FieldSet

end Cadence
