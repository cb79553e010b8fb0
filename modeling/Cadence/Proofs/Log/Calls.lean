import Cadence.Proofs.Log.Destruction

namespace Cadence

/-!
# Calls in one go

A run of whole calls and moves of the writer is a run of the two threads in which
the caller gets its turns of a call in a row, and the writer those that a `stop`
waits for.  The queue is never in another state on the way than between the calls,
so what holds of the runs of the threads holds of the runs of calls.
-/

/-- The calls of a run. -/
def LoggerCall.among
    (steps : List (LoggerCall ⊕ WriterMove)) :
    List LoggerCall :=
  steps.filterMap Sum.getLeft?

namespace Logger

/-- Where the writer is between two calls, if it neither sleeps nor has ended. -/
def writerPhase
    (logger : Logger) :
    WriterPhase :=
  if logger.running = true then
    if logger.batch = [] then .looking else .writing
  else
    .absent

/-- A writer that is awake need not be told. -/
theorem notified_writerPhase
    (logger : Logger) :
    logger.writerPhase.notified = logger.writerPhase := by
  unfold writerPhase
  split
  · split <;> rfl
  · rfl

/-- Between two calls on a logger that runs, its writer has a batch to write or looks at the
queue. -/
theorem writerPhase_of_running
    {logger : Logger}
    (running : logger.running = true) :
    logger.writerPhase = .writing ∨ logger.writerPhase = .looking ∧ logger.batch = [] := by
  simp only [writerPhase, running, ↓reduceIte]
  split
  · rename_i noBatch
    exact Or.inr ⟨rfl, noBatch⟩
  · exact Or.inl rfl

/-- The threads of a logger between two calls. -/
def threads
    (logger : Logger)
    (calls : List LoggerCall) :
    Threads :=
  ⟨logger, .ready, logger.writerPhase, calls⟩

/-- A logger that does not run has no line outside its file. -/
def Settled
    (logger : Logger) :
    Prop :=
  logger.running = false → logger.batch = [] ∧ logger.queued = []

/-- A call leaves a logger settled. -/
theorem Settled.call
    {logger : Logger}
    (settled : logger.Settled)
    (call : LoggerCall) :
    (logger.call call).Settled := by
  cases call with
  | setLevel level => exact settled
  | log message =>
      simp only [Logger.call, accept]
      split
      · split
        · rename_i room
          intro isStill
          exact absurd (room.1.symm.trans isStill) (by simp)
        · exact settled
      · exact settled
  | start =>
      intro isStill
      cases isStill
  | stop =>
      simp only [Logger.call, stop]
      split
      · exact fun _ => ⟨rfl, rfl⟩
      · exact settled
  | switchToUnwritable => exact settled

/-- A move of the writer leaves a logger settled. -/
theorem Settled.move
    {logger : Logger}
    (settled : logger.Settled)
    (move : WriterMove) :
    (logger.move move).Settled := by
  cases move with
  | take =>
      simp only [Logger.move]
      split
      · rename_i idle
        intro isStill
        exact absurd (idle.1.symm.trans isStill) (by simp)
      · exact settled
  | write =>
      cases batch : logger.batch with
      | nil => simpa only [Logger.move, batch] using settled
      | cons message rest =>
          simp only [Logger.move, batch]
          intro isStill
          exact absurd (batch.symm.trans (settled isStill).1) (by simp)

/-- A run leaves a logger settled. -/
theorem Settled.run
    {logger : Logger}
    (settled : logger.Settled)
    (steps : List (LoggerCall ⊕ WriterMove)) :
    (logger.run steps).Settled := by
  induction steps generalizing logger with
  | nil => exact settled
  | cons step steps inductionHypothesis =>
      cases step with
      | inl call => exact inductionHypothesis (settled.call call)
      | inr move => exact inductionHypothesis (settled.move move)

end Logger

namespace Threads

/-- Some turns lead from threads to threads, and the queue is as it should be all the way. -/
inductive Leads
    (fine : List LogMessage → Prop) :
    Threads → Threads → Prop
  | stays {threads : Threads}
      (isFine : fine threads.logger.queued) :
      Leads fine threads threads
  | turns {threads final : Threads}
      (turn : Turn)
      (isFine : fine threads.logger.queued)
      (rest : Leads fine (threads.turn turn) final) :
      Leads fine threads final

section Leads

variable {fine : List LogMessage → Prop}

/-- The turns of one lead are followed by those of another. -/
theorem Leads.trans
    {first second third : Threads}
    (leads : Leads fine first second)
    (later : Leads fine second third) :
    Leads fine first third := by
  induction leads with
  | stays isFine => exact later
  | turns turn isFine rest inductionHypothesis =>
      exact .turns turn isFine (inductionHypothesis later)

/-- The turns of a lead. -/
theorem Leads.exists_turns
    {first final : Threads}
    (leads : Leads fine first final) :
    ∃ turns, first.run turns = final ∧
      ∀ earlier, earlier <+: turns → fine (first.run earlier).logger.queued := by
  induction leads with
  | stays isFine =>
      refine ⟨[], rfl, fun earlier isEarlier => ?_⟩
      rw [List.prefix_nil.mp isEarlier]
      exact isFine
  | turns turn isFine rest inductionHypothesis =>
      obtain ⟨turns, reaches, allFine⟩ := inductionHypothesis
      refine ⟨turn :: turns, reaches, fun earlier isEarlier => ?_⟩
      rcases List.prefix_cons_iff.mp isEarlier with rfl | ⟨later, rfl, isLater⟩
      · exact isFine
      · exact allFine later isLater

variable {logger : Logger} {caller : CallerPhase} {calls : List LoggerCall}

/-- A writer that writes comes to the end of its batch. -/
theorem leads_writes
    (logger : Logger)
    (caller : CallerPhase)
    (calls : List LoggerCall)
    (isFine : fine logger.queued) :
    Leads fine ⟨logger, caller, .writing, calls⟩
      ⟨{ logger with batch := [], written := logger.written ++ logger.batch }, caller, .looking,
        calls⟩ := by
  obtain ⟨threshold, running, queued, batch, written⟩ := logger
  induction batch generalizing written with
  | nil =>
      refine .turns .writer isFine ?_
      simpa [turn, writerTurn] using .stays isFine
  | cons message rest inductionHypothesis =>
      refine .turns .writer isFine ?_
      simpa [turn, writerTurn, Logger.move] using
        inductionHypothesis (written ++ [message]) isFine

/-- A writer at work in a logger that does not run any more writes its batch and what is queued,
and ends. -/
theorem leads_ended
    (logger : Logger)
    (caller : CallerPhase)
    (calls : List LoggerCall)
    {writer : WriterPhase}
    (isStill : logger.running = false)
    (works : writer = .writing ∨ writer = .looking ∧ logger.batch = [])
    (isFine : fine logger.queued)
    (emptyFine : fine []) :
    Leads fine ⟨logger, caller, writer, calls⟩ ⟨logger.drained, caller, .ended, calls⟩ := by
  -- The end of the batch first, if the writer is not there yet.
  have looks : Leads fine ⟨logger, caller, writer, calls⟩
      ⟨{ logger with batch := [], written := logger.written ++ logger.batch }, caller, .looking,
        calls⟩ := by
    rcases works with rfl | ⟨rfl, noBatch⟩
    · exact leads_writes logger caller calls isFine
    · obtain ⟨threshold, running, queued, batch, written⟩ := logger
      obtain rfl : batch = [] := noBatch
      simpa using .stays isFine
  refine looks.trans ?_
  by_cases isEmpty : logger.queued = []
  · refine .turns .writer isFine ?_
    simpa [turn, writerTurn, isEmpty, isStill, Logger.drained] using .stays emptyFine
  · refine .turns .writer isFine ?_
    have writes := leads_writes
      ⟨logger.threshold, false, [], logger.queued, logger.written ++ logger.batch⟩ caller calls
      emptyFine
    simp only [turn, writerTurn, isEmpty, false_and, ↓reduceIte, isStill]
    refine writes.trans (.turns .writer emptyFine ?_)
    simpa [turn, writerTurn, Logger.drained, isStill] using .stays emptyFine

/-- A line that is kept goes to the queue or to the file. -/
theorem leads_accept
    (message : LogMessage)
    (isFine : fine logger.queued)
    (afterFine : fine (logger.accept message).queued) :
    Leads fine
      (if logger.running = true then ⟨logger, .queueing message, logger.writerPhase, calls⟩
      else ⟨logger, .writing message, logger.writerPhase, calls⟩)
      ((logger.accept message).threads calls) := by
  obtain ⟨threshold, running, queued, batch, written⟩ := logger
  cases running with
  | false => exact .turns .caller isFine (.stays isFine)
  | true =>
      refine .turns .caller isFine ?_
      by_cases room : queued.length < Logger.capacity
      · simp only [Logger.accept, room, and_self, ↓reduceIte] at afterFine ⊢
        simp only [turn, callerTurn, room, and_self, ↓reduceIte]
        refine .turns .caller afterFine ?_
        simp only [turn, callerTurn, Logger.notified_writerPhase]
        exact .stays afterFine
      · simp only [Logger.accept, room, and_false, ↓reduceIte] at afterFine ⊢
        simp only [turn, callerTurn, room, and_false, ↓reduceIte]
        exact .turns .caller isFine (.stays isFine)

/-- To stop a logger that runs, the caller tells its writer to end and waits for that. -/
theorem leads_stop
    (running : logger.running = true)
    (isFine : fine logger.queued)
    (emptyFine : fine []) :
    Leads fine (logger.threads (.stop :: calls)) (logger.stop.threads calls) := by
  have works := Logger.writerPhase_of_running running
  have ended := leads_ended { logger with running := false } .joining calls rfl works isFine
    emptyFine
  refine .turns .caller isFine ?_
  simp only [Logger.threads, turn, callerTurn, begin, running, ↓reduceIte]
  refine .turns .caller isFine ?_
  simp only [turn, callerTurn, Logger.notified_writerPhase]
  refine ended.trans (.turns .caller emptyFine ?_)
  simp only [Logger.stop, running, ↓reduceIte]
  exact .stays emptyFine

/-- A call is some turns. -/
theorem leads_call
    (settled : logger.Settled)
    (call : LoggerCall)
    (calls : List LoggerCall)
    (isFine : fine logger.queued)
    (afterFine : fine (logger.call call).queued) :
    Leads fine (logger.threads (call :: calls)) ((logger.call call).threads calls) := by
  cases call with
  | setLevel level => exact .turns .caller isFine (.stays isFine)
  | switchToUnwritable => exact .turns .caller isFine (.stays isFine)
  | log message =>
      refine .turns .caller isFine ?_
      cases reaches : message.level.reaches logger.threshold with
      | false =>
          simp only [Logger.call, reaches, Bool.false_eq_true, ↓reduceIte] at afterFine ⊢
          simpa [Logger.threads, turn, callerTurn, begin, reaches] using .stays isFine
      | true =>
          simp only [Logger.call, reaches, ↓reduceIte] at afterFine ⊢
          simp only [Logger.threads, turn, callerTurn, begin, reaches, ↓reduceIte]
          exact leads_accept message isFine afterFine
  | start =>
      refine .turns .caller isFine ?_
      obtain ⟨threshold, running, queued, batch, written⟩ := logger
      cases running with
      | true => exact .stays isFine
      | false =>
          obtain ⟨rfl, rfl⟩ := settled rfl
          exact .turns .caller isFine (.stays isFine)
  | stop =>
      cases running : logger.running with
      | false =>
          refine .turns .caller isFine ?_
          simp only [Logger.call, Logger.stop, Logger.threads, turn, callerTurn, begin, running,
            Bool.false_eq_true, ↓reduceIte]
          exact .stays isFine
      | true =>
          simp only [Logger.call, Logger.stop, running, ↓reduceIte] at afterFine
          exact leads_stop running isFine afterFine

/-- A move of the writer is some turns. -/
theorem leads_move
    (settled : logger.Settled)
    (move : WriterMove)
    (isFine : fine logger.queued)
    (afterFine : fine (logger.move move).queued) :
    Leads fine (logger.threads calls) ((logger.move move).threads calls) := by
  obtain ⟨threshold, running, queued, batch, written⟩ := logger
  cases running with
  | false =>
      obtain ⟨rfl, rfl⟩ := settled rfl
      cases move <;> exact .stays isFine
  | true =>
      cases move with
      | take =>
          cases batch with
          | cons message rest => exact .stays isFine
          | nil =>
              cases queued with
              | nil => exact .stays isFine
              | cons message rest => exact .turns .writer isFine (.stays afterFine)
      | write =>
          cases batch with
          | nil => exact .stays isFine
          | cons message rest =>
              refine .turns .writer isFine ?_
              cases rest with
              | nil => exact .turns .writer isFine (.stays isFine)
              | cons next rest => exact .stays isFine

/-- A run of calls and moves of the writer is some turns. -/
theorem leads_run
    (settled : logger.Settled)
    {steps : List (LoggerCall ⊕ WriterMove)}
    (allFine : ∀ earlier, earlier <+: steps → fine (logger.run earlier).queued) :
    Leads fine (logger.threads (LoggerCall.among steps ++ calls))
      ((logger.run steps).threads calls) := by
  induction steps generalizing logger with
  | nil => exact .stays (allFine [] List.nil_prefix)
  | cons step steps inductionHypothesis =>
      have isFine : fine logger.queued := allFine [] List.nil_prefix
      have laterFine (earlier : List (LoggerCall ⊕ WriterMove)) (isEarlier : earlier <+: steps) :
          fine (logger.run (step :: earlier)).queued :=
        allFine (step :: earlier) (List.cons_prefix_cons.mpr ⟨rfl, isEarlier⟩)
      cases step with
      | inl call =>
          exact (leads_call settled call _ isFine (laterFine [] List.nil_prefix)).trans
            (inductionHypothesis (settled.call call) laterFine)
      | inr move =>
          exact (leads_move settled move isFine (laterFine [] List.nil_prefix)).trans
            (inductionHypothesis (settled.move move) laterFine)

/-- A run of calls and moves of the writer, with the destruction after it, is a run of the two
threads that writes the same file and whose queue is never another. -/
theorem exists_turns_of_run
    (fine : List LogMessage → Prop)
    (steps : List (LoggerCall ⊕ WriterMove))
    (allFine : ∀ earlier, earlier <+: steps → fine (Logger.run {} earlier).queued) :
    ∃ turns,
      ((of (LoggerCall.among steps)).run turns).Destroyed ∧
        ((of (LoggerCall.among steps)).run turns).logger.written = (Logger.run {} steps).file ∧
        ∀ earlier, earlier <+: turns →
          fine ((of (LoggerCall.among steps)).run earlier).logger.queued := by
  have fresh : Logger.Settled {} := fun _ => ⟨rfl, rfl⟩
  have emptyFine : fine [] := allFine [] List.nil_prefix
  have lastFine : fine (Logger.run {} steps).queued := allFine steps List.prefix_rfl
  have stoppedFine : fine (Logger.run {} steps).stop.queued := by
    unfold Logger.stop
    split
    · exact emptyFine
    · exact lastFine
  obtain ⟨turns, reaches, turnsFine⟩ :=
    ((leads_run fresh allFine).trans
      (leads_call (fresh.run steps) .stop [] lastFine stoppedFine)).exists_turns
  refine ⟨turns, ?_, ?_, turnsFine⟩
  · rw [of, show Threads.mk {} .ready .absent _ = Logger.threads {} _ from rfl, reaches]
    exact ⟨rfl, rfl⟩
  · rw [of, show Threads.mk {} .ready .absent _ = Logger.threads {} _ from rfl, reaches]
    rfl

end Leads

/-- A logger loses nothing and doubles nothing.  However the turns of the caller and of the writer
alternate, once the logger is destroyed its file has the lines that the calls keep, each as often
as it was kept, and no other line; if the queue always had room, they stand in the order of the
calls.  Destruction comes under every schedule that gives both threads turn after turn.  The same
holds of a run in which every call is made in one go. -/
theorem nothing_lost
    (calls : List LoggerCall) :
    (∀ turns, ((of calls).run turns).Destroyed →
      ((of calls).run turns).logger.written.Perm (LoggerCall.kept .info calls) ∧
        ((of calls).HasRoom turns →
          ((of calls).run turns).logger.written = LoggerCall.kept .info calls)) ∧
      (∀ schedule, Fair schedule → ∃ moment, ((of calls).follow schedule moment).Destroyed) ∧
      ∀ steps, LoggerCall.among steps = calls →
        (Logger.run {} steps).file.Perm (LoggerCall.kept .info calls) ∧
          ((∀ earlier, earlier <+: steps →
              (Logger.run {} earlier).queued.length < Logger.capacity) →
            (Logger.run {} steps).file = LoggerCall.kept .info calls) := by
  refine ⟨fun turns destroyed => ⟨written_perm_kept destroyed, written_eq_kept destroyed⟩,
    fun schedule fair => (sound_of calls).exists_destroyed fair, ?_⟩
  rintro steps rfl
  constructor
  · obtain ⟨turns, destroyed, sameFile, -⟩ :=
      exists_turns_of_run (fun _ => True) steps fun _ _ => trivial
    rw [← sameFile]
    exact written_perm_kept destroyed
  · intro room
    obtain ⟨turns, destroyed, sameFile, staysRoomy⟩ :=
      exists_turns_of_run (fun queued => queued.length < Logger.capacity) steps room
    rw [← sameFile]
    exact written_eq_kept destroyed staysRoomy

/-- A line that is queued when the logger is stopped stands before one that is logged then. -/
theorem nothing_lost_across_stop :
    ((of [.start, .log ⟨.warn, "queued"⟩, .stop, .log ⟨.info, "direct"⟩]).run
        [.caller, .caller, .writer, .caller, .caller, .caller, .caller, .caller, .writer, .writer,
          .writer, .writer, .caller, .caller, .caller, .caller]).logger.written =
      [⟨.warn, "queued"⟩, ⟨.info, "direct"⟩] ∧
    (∃ moment,
      ((of [.start, .log ⟨.warn, "queued"⟩, .stop, .log ⟨.info, "direct"⟩]).follow
        (fun moment => if moment % 2 = 0 then .caller else .writer) moment).Destroyed) ∧
    (Logger.run {}
        [.inl .start, .inl (.log ⟨.warn, "queued"⟩), .inr .take, .inl .stop,
          .inl (.log ⟨.info, "direct"⟩)]).file.Perm
      [⟨.warn, "queued"⟩, ⟨.info, "direct"⟩] := by
  obtain ⟨ofTurns, ofSchedule, ofSteps⟩ :=
    nothing_lost [.start, .log ⟨.warn, "queued"⟩, .stop, .log ⟨.info, "direct"⟩]
  refine ⟨(ofTurns _ (by decide)).2 (by decide), ofSchedule _ ?_, (ofSteps _ rfl).1⟩
  intro turn notStir moment
  cases turn with
  | caller => exact ⟨moment % 2, if_pos (by omega)⟩
  | writer => exact ⟨(moment + 1) % 2, if_neg (by omega)⟩
  | stir => exact absurd rfl notStir

end Threads

end Cadence
