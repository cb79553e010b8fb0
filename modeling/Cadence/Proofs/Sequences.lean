import Mathlib.Data.List.Forall2

namespace Cadence

/-!
# Reading one thing after another

What is read of a list if every thing in it is read on its own, from the left: it
is accepted if everything in it is, and the first thing at fault decides the
error.  The terms of a field and the words of a schedule are read so.
-/

/-- What a computation that ends well in two parts has done in each. -/
theorem exists_of_bind_eq_ok
    {ε α β : Type}
    {first : Except ε α}
    {next : α → Except ε β}
    {result : β}
    (done : (first >>= next) = .ok result) :
    ∃ value, first = .ok value ∧ next value = .ok result := by
  cases first with
  | error error =>
      cases done
  | ok value =>
      exact ⟨value, rfl, done⟩

section Sequences

variable {ε α β : Type} {read : α → Except ε β}

/-- A list is read if everything in it is, and into what it is read one by one. -/
theorem mapM_eq_ok_iff
    {given : List α}
    {results : List β} :
    given.mapM read = .ok results ↔
      List.Forall₂ (fun one result => read one = .ok result) given results := by
  induction given generalizing results with
  | nil =>
      rw [List.mapM_nil, List.forall₂_nil_left_iff]
      constructor
      · intro done
        exact (Except.ok.inj done).symm
      · rintro rfl
        rfl
  | cons one given inductionHypothesis =>
      rw [List.mapM_cons]
      constructor
      · intro done
        obtain ⟨result, oneRead, done⟩ := exists_of_bind_eq_ok done
        obtain ⟨others, othersRead, done⟩ := exists_of_bind_eq_ok done
        obtain rfl := Except.ok.inj done
        exact .cons oneRead (inductionHypothesis.mp othersRead)
      · intro each
        cases each with
        | cons oneRead othersRead =>
            rw [oneRead, inductionHypothesis.mpr othersRead]
            rfl

/-- A list is accepted if and only if everything in it is. -/
theorem exists_mapM_eq_ok_iff
    {given : List α} :
    (∃ results, given.mapM read = .ok results) ↔ ∀ one ∈ given, ∃ result, read one = .ok result := by
  simp only [mapM_eq_ok_iff]
  induction given with
  | nil => simp
  | cons one given inductionHypothesis =>
      rw [List.forall_mem_cons, ← inductionHypothesis]
      constructor
      · rintro ⟨results, each⟩
        cases each with
        | cons oneRead othersRead => exact ⟨⟨_, oneRead⟩, _, othersRead⟩
      · rintro ⟨⟨result, oneRead⟩, others, othersRead⟩
        exact ⟨result :: others, .cons oneRead othersRead⟩

theorem mapM_cons_eq_error_iff
    {one : α}
    {given : List α}
    {error : ε} :
    (one :: given).mapM read = .error error ↔
      read one = .error error ∨
        (∃ result, read one = .ok result) ∧ given.mapM read = .error error := by
  rw [List.mapM_cons]
  cases read one with
  | error fault => simp [bind, Except.bind]
  | ok result => cases given.mapM read <;> simp [bind, Except.bind, pure, Except.pure]

/-- The first thing at fault decides the error. -/
theorem mapM_eq_error_iff
    {given : List α}
    {error : ε} :
    given.mapM read = .error error ↔
      ∃ before one after,
        given = before ++ one :: after ∧
          (∀ earlier ∈ before, ∃ result, read earlier = .ok result) ∧ read one = .error error := by
  induction given with
  | nil =>
      rw [List.mapM_nil]
      constructor
      · intro failed
        cases failed
      · rintro ⟨before, one, after, shape, -⟩
        simp at shape
  | cons one given inductionHypothesis =>
      rw [mapM_cons_eq_error_iff, inductionHypothesis]
      constructor
      · rintro (failed | ⟨accepted, before, culprit, after, rfl, earlier, failed⟩)
        · exact ⟨[], one, given, rfl, by simp, failed⟩
        · refine ⟨one :: before, culprit, after, rfl, ?_, failed⟩
          exact List.forall_mem_cons.mpr ⟨accepted, earlier⟩
      · rintro ⟨before, culprit, after, shape, accepted, failed⟩
        cases before with
        | nil =>
            obtain ⟨rfl, -⟩ := List.cons.inj shape
            exact Or.inl failed
        | cons first before =>
            obtain ⟨rfl, rfl⟩ := List.cons.inj shape
            obtain ⟨oneAccepted, earlier⟩ := List.forall_mem_cons.mp accepted
            exact Or.inr ⟨oneAccepted, before, culprit, after, rfl, earlier, failed⟩

end Sequences

end Cadence
