import Cadence.Proofs.Loop.Protocol
import Cadence.Proofs.Loop.Stops

namespace Cadence

/-!
# A stop is final

A run that is told to stop dispatches no further task, enters no further batch and
makes no further scan.  If it is told so within a batch, then the batch is left and
counted, and the run ends in the next step; otherwise it ends at once.
-/

namespace Loop

/-- In a run that is told to stop no task of a batch is dispatched. -/
theorem Conducts.entering
    {loop last : Loop}
    {ids : List Nat}
    {episodes : List Episode}
    {outcome : Option Failure}
    (conducts : Conducts loop ids episodes last outcome)
    (stopped : loop.stopRequested = true) :
    episodes = [] ∧ last = loop := by
  cases conducts with
  | done => exact ⟨rfl, rfl⟩
  | stopped => exact ⟨rfl, rfl⟩
  | pass going => simp [stopped] at going
  | isolate going => simp [stopped] at going
  | rethrow going => simp [stopped] at going

end Loop

/-- The loop after an action, before a failure is told. -/
def Episode.after
    (episode : Episode) :
    Loop :=
  (episode.begun.runTask episode.id).1

/-- After an action that tells the run to stop, or in which that happens, no other is begun. -/
theorem Loop.Conducts.acting
    {loop last : Loop}
    {ids : List Nat}
    {episodes : List Episode}
    {outcome : Option Failure}
    (conducts : Conducts loop ids episodes last outcome)
    {front back : List Episode}
    {episode : Episode}
    (split : episodes = front ++ episode :: back)
    (stopped : episode.after.stopRequested = true) :
    back = [] ∧ last.stopRequested = true := by
  induction conducts generalizing front with
  | done => simp at split
  | stopped => simp at split
  | pass going result later inductionHypothesis =>
      cases front with
      | nil =>
          obtain ⟨rfl, rfl⟩ := List.cons.inj split
          rw [Episode.after, result] at stopped
          obtain ⟨none, rfl⟩ := later.entering stopped
          exact ⟨none, stopped⟩
      | cons first front => exact inductionHypothesis (List.cons.inj split).2
  | @isolate _ ran _ id _ failure _ _ going result isolates later inductionHypothesis =>
      cases front with
      | nil =>
          obtain ⟨rfl, rfl⟩ := List.cons.inj split
          rw [Episode.after, result] at stopped
          have told := (ran.stopRequested_emit (.taskFailed id failure.message)).trans stopped
          obtain ⟨none, rfl⟩ := later.entering told
          exact ⟨none, told⟩
      | cons first front => exact inductionHypothesis (List.cons.inj split).2
  | rethrow going result =>
      cases front with
      | nil =>
          obtain ⟨rfl, rfl⟩ := List.cons.inj split
          rw [Episode.after, result] at stopped
          exact ⟨rfl, stopped⟩
      | cons first front => simp at split

namespace Run

/-- What is told of a run that ends because of a stop: its end, and before that the cancellation of
the wait, if it waits. -/
def closing
    (run : Run) :
    List Notice :=
  match run.phase with
  | .waiting _ => [.waitCancelled, .stopped]
  | _ => [.stopped]

/-- A run has ended by a stop: since a moment it has told some notices and made no scan. -/
structure EndsAs
    (run : Run)
    (told : List Notice)
    (last : Run) :
    Prop where
  phase : last.phase = .over none
  notices : last.loop.notices = run.loop.notices ++ told
  cycleCount : last.loop.cycleCount = run.loop.cycleCount

section Steps

variable {run first : Run}

/-- A run that is over stays as it is. -/
theorem EndsAs.stays
    {told : List Notice}
    {steps : Nat}
    {next : Run}
    (stepped : (first.runFor steps).step? = some next)
    (ends : EndsAs run told next)
    {later : Nat}
    (isLater : later > steps) :
    EndsAs run told (first.runFor later) := by
  have isOver : next.step? = none := by simp only [step?, ends.phase]
  obtain ⟨more, rfl⟩ := Nat.exists_eq_add_of_lt isLater
  have last : first.runFor (steps + more + 1) = next := by
    rw [Nat.add_right_comm, runFor_add, runFor_succ_of_step? stepped]
    exact runFor_of_step?_none isOver more
  exact last ▸ ends

/-- A run that is about to dispatch is not told to stop. -/
theorem Alert.going
    (alert : first.Alert)
    {steps : Nat}
    {group : OccurrenceGroup}
    (dispatching : (first.runFor steps).phase = .dispatching group) :
    (first.runFor steps).loop.stopRequested = false := by
  obtain ⟨deeds, follows, heeds⟩ := alert.follows steps
  have held := follows
  unfold Follows at held
  rw [dispatching] at held
  obtain ⟨-, ⟨scanned, since, last, -⟩, -⟩ := held
  exact ((heeds scanned since last).2 group dispatching).2

/-- Of all that is told of a run, no action began with a token that was cancelled. -/
theorem Reports.begun
    {before : Loop}
    {batches : List Batch}
    {aborted : Option Batch}
    (reports : run.Reports before batches aborted) :
    ∃ told, run.loop.notices = before.notices ++ told ∧
      ∀ id clock cancelled, .ran id clock cancelled ∈ told → cancelled = false := by
  obtain ⟨between, closing, notices, within, isClosing⟩ := reports.shape
  refine ⟨_, notices, fun id clock cancelled present => ?_⟩
  have inBetween : .ran id clock cancelled ∈ between := by
    rcases isClosing with ⟨-, rfl⟩ | ⟨-, rfl | rfl⟩ <;> simpa using present
  exact within _ inBetween

end Steps

section Example

end Example

end Run

end Cadence
