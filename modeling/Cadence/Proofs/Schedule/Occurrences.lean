import Cadence.Proofs.Schedule.NextOccurrence
import Cadence.Schedule.Occurrences

namespace Cadence

namespace Schedule

/-!
# Sequences of occurrences

The occurrences after a base and before a limit are the matching instants between
them, in increasing order.  Each is later than the one before by a second at
least, so that as many as there are seconds are enough.
-/

/-- The next occurrence before a limit is the first of the matching instants. -/
theorem isLeast_of_nextOccurrence_lt
    {schedule : Schedule}
    (wellFormed : schedule.WellFormed)
    {base limit : Int}
    (baseFits : Calendar.Fits (Calendar.yearOf base))
    (limitFits : Calendar.Fits (Calendar.yearOf limit))
    (before : schedule.nextOccurrence base limit < limit) :
    IsLeast (schedule.Between base limit) (schedule.nextOccurrence base limit) := by
  rcases nextOccurrence_cases wellFormed baseFits limitFits with least | ⟨same, -⟩
  · exact least
  · omega

/-- The first of the matching instants is the next occurrence. -/
theorem nextOccurrence_eq_of_isLeast
    {schedule : Schedule}
    (wellFormed : schedule.WellFormed)
    {base limit instant : Int}
    (baseFits : Calendar.Fits (Calendar.yearOf base))
    (limitFits : Calendar.Fits (Calendar.yearOf limit))
    (least : IsLeast (schedule.Between base limit) instant) :
    schedule.nextOccurrence base limit = instant := by
  rcases nextOccurrence_cases wellFormed baseFits limitFits with found | ⟨-, none⟩
  · exact found.unique least
  · exact absurd least.1 (none instant)

/-- Nothing matches before a limit that is the next occurrence. -/
theorem not_between_of_limit_le
    {schedule : Schedule}
    (wellFormed : schedule.WellFormed)
    {base limit : Int}
    (baseFits : Calendar.Fits (Calendar.yearOf base))
    (limitFits : Calendar.Fits (Calendar.yearOf limit))
    (reached : limit ≤ schedule.nextOccurrence base limit)
    (instant : Int) :
    instant ∉ schedule.Between base limit := by
  rcases nextOccurrence_cases wellFormed baseFits limitFits with least | ⟨-, none⟩
  · have before := least.1.2.1
    omega
  · exact none instant

/-- The base may be moved up to any instant before a matching one. -/
theorem mem_between_iff_of_le
    {schedule : Schedule}
    {base later limit instant : Int}
    (moved : base ≤ later) :
    instant ∈ schedule.Between later limit ↔
      later < instant ∧ instant ∈ schedule.Between base limit := by
  simp only [Between, Set.mem_ofPred_eq]
  constructor
  · rintro ⟨after, rest⟩
    exact ⟨after, by omega, rest⟩
  · rintro ⟨after, -, rest⟩
    exact ⟨after, rest⟩

section Occurrences

variable {schedule : Schedule} {base limit : Int}

/-- Occurrences are matching instants, in increasing order. -/
theorem occurrences_between
    (wellFormed : schedule.WellFormed)
    (baseFits : Calendar.Fits (Calendar.yearOf base))
    (limitFits : Calendar.Fits (Calendar.yearOf limit))
    (count : Nat) :
    (∀ instant ∈ schedule.occurrences base limit count, instant ∈ schedule.Between base limit) ∧
      (schedule.occurrences base limit count).Pairwise (· < ·) := by
  induction count generalizing base with
  | zero => exact ⟨fun _ none => (by cases none), .nil⟩
  | succ count inductionHypothesis =>
      simp only [occurrences]
      split
      · exact ⟨fun _ none => (by cases none), .nil⟩
      · next before =>
        have least := isLeast_of_nextOccurrence_lt wellFormed baseFits limitFits (by omega)
        obtain ⟨after, earlier, -⟩ := least.1
        have fits := fits_of_between baseFits limitFits after.le earlier.le
        obtain ⟨between, increasing⟩ := inductionHypothesis fits
        refine ⟨fun instant present => ?_, List.pairwise_cons.mpr ⟨fun instant present => ?_,
          increasing⟩⟩
        · rcases List.mem_cons.mp present with rfl | later
          · exact least.1
          · exact ((mem_between_iff_of_le (by omega)).mp (between instant later)).2
        · exact (between instant present).1

/-- As many occurrences as there are seconds are all of them. -/
theorem mem_occurrences_of_between
    (wellFormed : schedule.WellFormed)
    (baseFits : Calendar.Fits (Calendar.yearOf base))
    (limitFits : Calendar.Fits (Calendar.yearOf limit))
    {count : Nat}
    (enough : limit - base ≤ count)
    {instant : Int}
    (between : instant ∈ schedule.Between base limit) :
    instant ∈ schedule.occurrences base limit count := by
  induction count generalizing base with
  | zero =>
      obtain ⟨after, before, -⟩ := between
      omega
  | succ count inductionHypothesis =>
      simp only [occurrences]
      split
      · next reached =>
        exact absurd between
          (not_between_of_limit_le wellFormed baseFits limitFits reached instant)
      · next before =>
        have least := isLeast_of_nextOccurrence_lt wellFormed baseFits limitFits (by omega)
        obtain ⟨after, earlier, -⟩ := least.1
        have fits := fits_of_between baseFits limitFits after.le earlier.le
        rcases (least.2 between).eq_or_lt with same | later
        · exact List.mem_cons.mpr (Or.inl same.symm)
        · refine List.mem_cons_of_mem _ (inductionHypothesis fits (by omega) ?_)
          exact (mem_between_iff_of_le (by omega)).mpr ⟨later, between⟩

/-- All occurrences are exactly the matching instants between base and limit. -/
theorem mem_allOccurrences_iff
    (wellFormed : schedule.WellFormed)
    (baseFits : Calendar.Fits (Calendar.yearOf base))
    (limitFits : Calendar.Fits (Calendar.yearOf limit))
    (instant : Int) :
    instant ∈ schedule.allOccurrences base limit ↔ instant ∈ schedule.Between base limit :=
  ⟨(occurrences_between wellFormed baseFits limitFits _).1 instant,
    mem_occurrences_of_between wellFormed baseFits limitFits (by omega)⟩

theorem allOccurrences_increasing
    (wellFormed : schedule.WellFormed)
    (baseFits : Calendar.Fits (Calendar.yearOf base))
    (limitFits : Calendar.Fits (Calendar.yearOf limit)) :
    (schedule.allOccurrences base limit).Pairwise (· < ·) :=
  (occurrences_between wellFormed baseFits limitFits _).2

end Occurrences

end Schedule

end Cadence
