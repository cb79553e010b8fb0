import Cadence.Proofs.Loop.Registered
import Cadence.Proofs.Loop.WakeToken

namespace Cadence

open Cancellation

/-!
# The marks of a batch

A batch leaves the mark of its entry and one mark for each task that it
dispatches: a prefix of its tasks, in their order.  Only a stop or a failure that
ends the run keeps it from dispatching them all.
-/

namespace Loop

variable {loop next : Loop} {external stop wake : Nat}

/-- A run that is told to stop stays so. -/
theorem Driven.stopRequested_does
    {deed : Deed}
    (driven : Driven loop external stop wake)
    (does : Does loop deed next)
    (stopped : loop.stopRequested = true) :
    next.stopRequested = true := by
  have rooted := driven.wired.rooted
  have kept : ∀ {name : LoopSignal} {target : Nat}, loop.signals.sources.get? name = some target →
      (loop.signals.after (.cancel name)).isCancelled .stop = true := by
    intro name target held
    obtain ⟨_, cancels, -⟩ := rooted.calm.sound.after_cancel rooted.calm.quiet held
    rw [(rooted.cancels (rooted.calm.after_cancel name) cancels).isCancelled_stop]
    exact cancels.kept stop (driven.stopRequested_eq.symm.trans stopped)
  by_cases isStop : deed = .stop
  · subst isStop
    cases does
    unfold Loop.stop
    split
    · exact kept rooted.stopSource
    · exact stopped
  by_cases isCancel : deed = .cancel
  · subst isCancel
    cases does
    exact kept rooted.externalSource
  exact (driven.steady does isStop isCancel).stop.trans stopped

theorem Driven.stopRequested_along
    (driven : Driven loop external stop wake)
    {deeds : List (Loop × Deed)}
    {last : Loop}
    (course : Course loop deeds last)
    (stopped : loop.stopRequested = true) :
    last.stopRequested = true := by
  induction course generalizing wake with
  | nil => exact stopped
  | cons first later inductionHypothesis =>
      obtain ⟨fresh, still⟩ := driven.along (.cons first (.nil _))
      exact inductionHypothesis still (driven.stopRequested_does first stopped)

/-- If the run is not told to stop in the end, it never was. -/
theorem Driven.going
    (driven : Driven loop external stop wake)
    {allowed : Deed → Prop}
    {last : Loop}
    (proceeds : Proceeds allowed loop last)
    (going : last.stopRequested = false) :
    loop.stopRequested = false := by
  obtain ⟨deeds, course, -⟩ := proceeds
  cases before : loop.stopRequested with
  | false => rfl
  | true => simp [driven.stopRequested_along course before] at going

/-- A driven loop stays driven. -/
theorem Driven.proceeds
    (driven : Driven loop external stop wake)
    {allowed : Deed → Prop}
    {last : Loop}
    (proceeds : Proceeds allowed loop last) :
    ∃ fresh, Driven last external stop fresh := by
  obtain ⟨deeds, course, -⟩ := proceeds
  exact driven.along course

/-- The tasks that a batch dispatches. -/
theorem marks_runTasks
    (driven : Driven loop external stop wake)
    (ids : List Nat) :
    ∃ dispatched, dispatched <+: ids ∧
      (loop.runTasks ids).1.marks = loop.marks ++ dispatched.map Mark.dispatched ∧
      ((loop.runTasks ids).2 = none → (loop.runTasks ids).1.stopRequested = false →
        dispatched = ids) := by
  induction ids generalizing loop wake with
  | nil => exact ⟨[], List.prefix_rfl, by simp [runTasks], fun _ _ => rfl⟩
  | cons id ids inductionHypothesis =>
      unfold runTasks
      cases stopped : loop.stopRequested with
      | true =>
          refine ⟨[], List.nil_prefix, by simp, fun _ going => ?_⟩
          simp [stopped] at going
      | false =>
          have told : Proceeds (· ≠ .scan) loop (loop.emit (.taskDispatched id)) :=
            .single (.dispatch loop id) (by simp)
          have runs := proceeds_runTask (loop.emit (.taskDispatched id)) id
          have marks := runs.marks.trans (loop.marks_emit (.taskDispatched id))
          have started := told.trans runs.scanFree
          -- What the rest of the batch does, from the loop after this task.
          have goOn : ∀ {between : Loop}, Proceeds (· ≠ .scan) loop between →
              between.marks = loop.marks ++ [.dispatched id] →
              ∃ dispatched, dispatched <+: id :: ids ∧
                (between.runTasks ids).1.marks = loop.marks ++ dispatched.map Mark.dispatched ∧
                ((between.runTasks ids).2 = none →
                  (between.runTasks ids).1.stopRequested = false → dispatched = id :: ids) := by
            intro between proceeds marksBetween
            obtain ⟨fresh, still⟩ := driven.proceeds proceeds
            obtain ⟨dispatched, isPrefix, found, all⟩ := inductionHypothesis still
            refine ⟨id :: dispatched, List.cons_prefix_cons.mpr ⟨rfl, isPrefix⟩, ?_,
              fun ended going => by rw [all ended going]⟩
            rw [found, marksBetween]
            simp
          simp only [Bool.false_eq_true, ↓reduceIte]
          cases result : (loop.emit (.taskDispatched id)).runTask id with
          | mk ran failure =>
              rw [result] at runs marks started
              cases failure with
              | none => exact goOn started marks
              | some failure =>
                  simp only
                  split
                  · exact ⟨[id], List.cons_prefix_cons.mpr ⟨rfl, List.nil_prefix⟩, marks,
                      fun ended => by cases ended⟩
                  · have failed : Proceeds Deed.Background ran
                        (ran.emit (.taskFailed id failure.message)) := .aside (.emit ran _ rfl)
                    exact goOn (started.trans failed.scanFree) (failed.marks.trans marks)

/-- The entry of a batch leaves its mark, and what the callback does leaves none. -/
theorem marks_enterBatch
    (loop : Loop)
    (tasks : List Nat) :
    (loop.enterBatch tasks).marks = loop.marks ++ [.entered loop.clock tasks] := by
  have told : (loop.record (.entered loop.clock tasks)).marks =
      loop.marks ++ [.entered loop.clock tasks] :=
    loop.marks_record _
  simp only [enterBatch]
  split
  · exact told
  · exact (proceeds_executeAll _ _).marks.trans told

/-- The marks that a batch leaves: a batch that is not the last thing the run does dispatches all
its tasks. -/
theorem marks_dispatch
    (driven : Driven loop external stop wake)
    (tasks : List Nat) :
    ∃ dispatched, dispatched <+: tasks ∧
      (loop.dispatch tasks).1.marks =
        loop.marks ++ .entered loop.clock tasks :: dispatched.map Mark.dispatched ∧
      ((loop.dispatch tasks).2 = none → (loop.dispatch tasks).1.stopRequested = false →
        dispatched = tasks) := by
  obtain ⟨fresh, entered⟩ := driven.proceeds (loop.proceeds_enterBatch tasks)
  obtain ⟨dispatched, isPrefix, marks, all⟩ := marks_runTasks entered tasks
  obtain ⟨later, ran⟩ := entered.proceeds (proceeds_runTasks _ tasks)
  refine ⟨dispatched, isPrefix, ?_⟩
  unfold dispatch
  cases result : (loop.enterBatch tasks).runTasks tasks with
  | mk last failure =>
      rw [result] at marks all ran
      have leaves := last.proceeds_leaveBatch loop.clock tasks
      have left := leaves.marks.trans (marks.trans (congrArg (· ++ _) (marks_enterBatch _ _)))
      rw [List.append_assoc] at left
      cases failure with
      | some failure =>
          exact ⟨(marks_logLine _ _ _).trans left, fun ended => by cases ended⟩
      | none =>
          have counted :
              Aside (last.leaveBatch loop.clock tasks)
                { last.leaveBatch loop.clock tasks with
                  loopCount := (last.leaveBatch loop.clock tasks).loopCount + 1 } :=
            ⟨rfl, rfl, rfl, rfl, Nat.le_refl _, rfl, rfl, rfl, rfl, rfl⟩
          have completed := Proceeds.aside (counted.trans (.emit _
            (.batchCompleted ((last.leaveBatch loop.clock tasks).loopCount + 1) tasks.length) rfl))
          exact ⟨completed.marks.trans left, fun _ going =>
            all rfl (ran.going (leaves.trans completed) going)⟩

end Loop

end Cadence
