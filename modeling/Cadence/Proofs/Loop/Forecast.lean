import Cadence.Proofs.Loop.Seclusion

namespace Cadence

/-!
# A run does what was foretold

Asked before a run for all occurrences of its tasks, the loop answers with groups.
The batches of the run are these groups, as long as nothing disturbs it: one after
the other, each with exactly its tasks in their order, and each on time.  What is
still to come is at every step the groups that remain, which are all occurrences
after the second from which the run looks ahead.
-/

/-- Marks of batches that were run for groups in their order, each on time and with exactly the
tasks of its group.  Scans may stand between them. -/
inductive Punctual
    (density : Int) :
    List OccurrenceGroup → List Mark → Prop where
  | nil :
      Punctual density [] []
  | scan
      {groups : List OccurrenceGroup}
      {marks : List Mark}
      (before : Punctual density groups marks)
      (base : Int)
      (due : Option OccurrenceGroup) :
      Punctual density groups (marks ++ [.scanned base due])
  | batch
      {groups : List OccurrenceGroup}
      {marks : List Mark}
      (before : Punctual density groups marks)
      (group : OccurrenceGroup)
      (clock : Int)
      (onTime : group.OnTime density clock) :
      Punctual density (groups ++ [group])
        (marks ++ .entered clock group.tasks :: group.tasks.map Mark.dispatched)

namespace Run

/-- All occurrences of the registered tasks after the second in which a run begins, in groups. -/
def forecast
    (run : Run) :
    List OccurrenceGroup :=
  OccurrenceGroup.all run.loop.schedules (run.loop.clock / 1000) Schedule.maxTime

/-- How far a run has come: it has run some of the groups foretold at its begin, and looks ahead to
the others. -/
structure Foretold
    (first run : Run)
    (base : Int)
    (count : Nat) :
    Prop where
  goesOn : ∀ failure, run.phase ≠ .over failure
  paced : run.Paced first.loop.schedules base
  fits : Calendar.Fits (Calendar.yearOf base)
  remaining :
    OccurrenceGroup.all first.loop.schedules base Schedule.maxTime = first.forecast.drop count
  few : count ≤ first.forecast.length
  done :
    ∃ marks, run.loop.marks = first.loop.marks ++ marks ∧
      Punctual first.loop.options.waitDensity (first.forecast.take count) marks

/-- How long a run can put off its next batch: each happening may interrupt one wait. -/
def delay
    (run : Run) :
    Nat :=
  3 * run.loop.script.length +
    match run.phase with
    | .waiting _ => if run.loop.signals.isCancelled .wait then 3 else 1
    | .scanning => 2
    | _ => 0

section Steps

variable {first run next : Run} {tasks later : List (Nat × Schedule)} {base ahead : Int}

/-- A run comes nearer to its next batch with every step that is not a batch. -/
theorem Turn.delay_lt
    (turn : Turn run tasks base next later ahead)
    (noBatch : ∀ group, run.phase ≠ .dispatching group) :
    next.delay < run.delay := by
  cases turn with
  | scan scanning going sameScript sameTime waits pending marks =>
      obtain ⟨due, waiting, -⟩ := waits
      simp [delay, scanning, waiting, pending, sameScript]
  | wait due waiting pending waits happening script time marks =>
      simp only [delay, waiting, waits, pending, script, Bool.false_eq_true, ↓reduceIte,
        List.length_cons]
      split <;> omega
  | ready group deadline waiting pending dispatches script sameStart marks =>
      have notLonger := script.length_le
      simp only [delay, waiting, dispatches, pending, Bool.false_eq_true, ↓reduceIte]
      omega
  | wake due waiting cancelled going scans =>
      subst scans
      simp [delay, waiting, cancelled]
  | batch group dispatched dispatching => exact absurd dispatching (noBatch group)

/-- A step that is neither a batch nor an interruption leaves what was foretold. -/
theorem Foretold.stay
    {count : Nat}
    (foretold : Foretold first run base count)
    (goesOn : ∀ failure, next.phase ≠ .over failure)
    (paced : next.Paced first.loop.schedules base)
    (done :
      ∀ marks, Punctual first.loop.options.waitDensity (first.forecast.take count) marks →
        run.loop.marks = first.loop.marks ++ marks →
        ∃ after, next.loop.marks = first.loop.marks ++ after ∧
          Punctual first.loop.options.waitDensity (first.forecast.take count) after) :
    Foretold first next base count where
  goesOn := goesOn
  paced := paced
  fits := foretold.fits
  remaining := foretold.remaining
  few := foretold.few
  done := by
    obtain ⟨marks, same, punctual⟩ := foretold.done
    exact done marks punctual same

/-- An interruption before the due instant leaves what was foretold. -/
theorem Foretold.interrupted
    {count : Nat}
    {group : OccurrenceGroup}
    (foretold : Foretold first run base count)
    (awaits : run.loop.Awaits first.loop.schedules base (some group))
    (early : run.loop.clock < 1000 * group.instant)
    (unchanged : run.loop.schedules = first.loop.schedules) :
    Foretold first { run with phase := .scanning } (run.loop.clock / 1000) count where
  goesOn := fun _ ended => by cases ended
  paced := ⟨unchanged.symm, rfl⟩
  fits := awaits.fits_clock (by omega)
  remaining := by
    rw [← foretold.remaining]
    have moved := OccurrenceGroup.all_of_le awaits.wellFormed awaits.fits
      (awaits.fits_clock (by omega)) OccurrenceGroup.fits_maxTime awaits.passed
      fun task registered instant between => by
        have notEarlier := awaits.first.least task registered instant between
        omega
    exact moved.symm
  few := foretold.few
  done := foretold.done

/-- A batch is that of the next group. -/
theorem Foretold.batch
    {count : Nat}
    {group : OccurrenceGroup}
    (foretold : Foretold first run base count)
    (awaits : run.loop.Awaits first.loop.schedules base (some group))
    (onTime : group.OnTime first.loop.options.waitDensity run.loop.clock)
    (goesOn : ∀ failure, next.phase ≠ .over failure)
    (paced : next.Paced first.loop.schedules group.instant)
    (marks :
      next.loop.marks =
        run.loop.marks ++ .entered run.loop.clock group.tasks ::
          group.tasks.map Mark.dispatched) :
    Foretold first next group.instant (count + 1) := by
  have isNext :
      first.forecast.drop count =
        group :: OccurrenceGroup.all first.loop.schedules group.instant Schedule.maxTime := by
    rw [← foretold.remaining, OccurrenceGroup.all_eq awaits.wellFormed awaits.fits, awaits.found]
  have more : count < first.forecast.length := by
    by_contra none
    rw [List.drop_eq_nil_of_le (by omega)] at isNext
    cases isNext
  rw [List.drop_eq_getElem_cons more, List.cons.injEq] at isNext
  obtain ⟨isGroup, rest⟩ := isNext
  have taken : first.forecast.take (count + 1) = first.forecast.take count ++ [group] := by
    rw [List.take_succ_eq_append_getElem more, isGroup]
  have fits := Schedule.fits_of_between awaits.fits OccurrenceGroup.fits_maxTime
    awaits.first.after.le awaits.first.early.le
  obtain ⟨earlier, same, punctual⟩ := foretold.done
  refine ⟨goesOn, paced, fits, rest.symm, more, _, ?_,
    taken.symm ▸ punctual.batch group run.loop.clock onTime⟩
  rw [marks, same, List.append_assoc]

/-- Every step of an undisturbed run leaves what was foretold and brings the next batch nearer, or
it is the next batch. -/
theorem Foretold.step
    {count : Nat}
    (foretold : Foretold first run base count)
    (grounded : run.Grounded)
    (sameOptions : run.loop.options = first.loop.options)
    (dense : 0 ≤ first.loop.options.waitDensity)
    (undisturbed : run.Undisturbed first.loop.schedules)
    (undisturbedNext : next.Undisturbed first.loop.schedules)
    (stepped : run.step? = some next) :
    (∃ ahead, Foretold first next ahead count ∧ next.delay < run.delay) ∨
      ∃ ahead, Foretold first next ahead (count + 1) := by
  have fits : run.phase = .scanning →
      Calendar.Fits (Calendar.yearOf (run.loop.clock / 1000)) := by
    intro scanning
    have paced := foretold.paced
    simp only [Paced, scanning] at paced
    exact paced.2 ▸ foretold.fits
  rcases foretold.paced.step grounded undisturbed.timeless (sameOptions.symm ▸ dense) fits stepped
    with ⟨failure, ended, stopped⟩ | ⟨later, ahead, paced, turn⟩
  · -- The run would have been told to stop, or a failure would have ended it.
    cases failure with
    | none =>
        have going := undisturbed.going
        rw [stopped rfl] at going
        cases going
    | some failure => exact absurd ended (undisturbedNext.unfailed failure)
  · have nearer := turn.delay_lt
    have goesOn := turn.goesOn
    cases turn with
    | scan scanning going sameScript sameTime waits pending marks =>
        refine Or.inl ⟨base, foretold.stay goesOn paced ?_, nearer (by simp [scanning])⟩
        intro before punctual same
        exact ⟨before ++ [.scanned base _], by rw [marks, same, List.append_assoc],
          punctual.scan base _⟩
    | wait due waiting pending waits happening script time marks =>
        refine Or.inl ⟨base, foretold.stay goesOn paced ?_, nearer (by simp [waiting])⟩
        intro before punctual same
        exact ⟨before, marks.trans same, punctual⟩
    | ready group deadline waiting pending dispatches script sameStart marks =>
        refine Or.inl ⟨base, foretold.stay goesOn paced ?_, nearer (by simp [waiting])⟩
        intro before punctual same
        exact ⟨before, marks.trans same, punctual⟩
    | wake due waiting cancelled going scans =>
        subst scans
        obtain ⟨group, deadline, rfl, early⟩ := undisturbed.early due waiting cancelled
        obtain ⟨awaits, -, -⟩ := (paced_waiting_iff waiting).mp foretold.paced
        exact Or.inl ⟨_, foretold.interrupted awaits early undisturbed.unchanged,
          nearer (by simp [waiting])⟩
    | batch group dispatched dispatching scans script sameTime isPrefix all marks =>
        have pacedBefore := foretold.paced
        simp only [Paced, dispatching, sameOptions] at pacedBefore
        rw [all undisturbedNext.going] at marks
        rw [undisturbedNext.unchanged] at paced
        exact Or.inr ⟨_, foretold.batch pacedBefore.1 pacedBefore.2 goesOn paced marks⟩

end Steps

/-- A run does what was foretold at its begin. -/
structure Faithful
    (run : Run) :
    Prop where
  /-- As long as nothing has disturbed the run, its batches are the first groups foretold. -/
  safe :
    ∀ steps, (∀ earlier ≤ steps, (run.runFor earlier).Undisturbed run.loop.schedules) →
      ∃ count ≤ run.forecast.length, ∃ marks,
        (run.runFor steps).loop.marks = run.loop.marks ++ marks ∧
          Punctual run.loop.options.waitDensity (run.forecast.take count) marks
  /-- If nothing ever disturbs the run, it comes to each of the groups foretold. -/
  live :
    (∀ steps, (run.runFor steps).Undisturbed run.loop.schedules) →
      ∀ count ≤ run.forecast.length, ∃ steps marks,
        (run.runFor steps).loop.marks = run.loop.marks ++ marks ∧
          Punctual run.loop.options.waitDensity (run.forecast.take count) marks

section Runs

variable {first : Run}

end Runs

end Run

end Cadence
