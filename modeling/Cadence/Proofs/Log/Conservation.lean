import Cadence.Proofs.Log.Moves
import Mathlib.Data.List.Infix
import Mathlib.Data.List.Perm.Basic

namespace Cadence

/-!
# A logger loses nothing

A line that a logger keeps is always in exactly one place: in the file, in the
writer's batch, in the queue, or in the hands of the caller.  Every turn of either
thread moves lines from one of these places to a later one, and the places that are
not the file are empty once the logger is destroyed.

A line overtakes others only when the caller writes it while the queue or the batch
has some, and this happens only when the queue is full.
-/

/-- The line in the hands of the caller. -/
def CallerPhase.held : CallerPhase → List LogMessage
  | .queueing message | .writing message => [message]
  | .ready | .spawning | .notifying | .closing | .joining => []

/-- The writer's thread is at work. -/
def WriterPhase.Works
    (phase : WriterPhase) :
    Prop :=
  phase ≠ .absent ∧ phase ≠ .ended
  deriving Decidable

/-- What each thread knows of the other: a logger that runs has a writer at work, except between the
two turns of `start`, and one that does not run has a writer only while a `stop` waits for it. -/
def CallerPhase.Agrees
    (running : Bool)
    (writer : WriterPhase) :
    CallerPhase → Prop
  | .ready | .writing _ => running = true ∧ writer.Works ∨ running = false ∧ writer = .absent
  | .spawning => running = true ∧ writer = .absent
  | .queueing _ | .notifying => running = true ∧ writer.Works
  | .closing | .joining => running = false ∧ writer ≠ .absent

/-! ### Phases -/

theorem WriterPhase.works_looking : looking.Works := by
  decide

theorem WriterPhase.works_asleep : asleep.Works := by
  decide

theorem WriterPhase.works_writing : writing.Works := by
  decide

theorem WriterPhase.works_notified
    {writer : WriterPhase} :
    writer.notified.Works ↔ writer.Works := by
  cases writer <;> decide

theorem WriterPhase.notified_eq_writing
    {writer : WriterPhase} :
    writer.notified = .writing ↔ writer = .writing := by
  cases writer <;> decide

theorem WriterPhase.notified_ne_asleep
    (writer : WriterPhase) :
    writer.notified ≠ .asleep := by
  cases writer <;> decide

/-- A caller does not care what a writer at work does. -/
theorem CallerPhase.Agrees.of_works
    {caller : CallerPhase}
    {running : Bool}
    {writer later : WriterPhase}
    (agrees : caller.Agrees running writer)
    (works : writer.Works)
    (stillWorks : later.Works) :
    caller.Agrees running later := by
  cases caller with
  | ready | writing message =>
      exact Or.inl ⟨(agrees.resolve_right fun idle => works.1 idle.2).1, stillWorks⟩
  | spawning => exact absurd agrees.2 works.1
  | queueing message | notifying => exact ⟨agrees.1, stillWorks⟩
  | closing | joining => exact ⟨agrees.1, stillWorks.1⟩

/-- A writer ends only while a `stop` waits for it. -/
theorem CallerPhase.Agrees.of_ended
    {caller : CallerPhase}
    {writer : WriterPhase}
    (agrees : caller.Agrees false writer)
    (works : writer.Works) :
    caller.Agrees false .ended := by
  cases caller with
  | ready | writing message => exact absurd (agrees.resolve_left (by simp)).2 works.1
  | spawning | queueing message | notifying => cases agrees.1
  | closing | joining => exact ⟨rfl, by simp⟩

namespace Threads

/-- What holds between the turns of the two threads. -/
structure Sound
    (threads : Threads) :
    Prop where
  agrees : threads.caller.Agrees threads.logger.running threads.writer
  /-- Only a writer that writes has a batch. -/
  cleared : threads.writer ≠ .writing → threads.logger.batch = []
  /-- Nothing is left behind when a writer ends. -/
  emptied : ¬ threads.writer.Works → threads.logger.queued = []
  /-- Nobody leaves the writer asleep without telling it. -/
  told : threads.writer = .asleep →
    threads.logger.queued = [] ∧ threads.logger.running = true ∨
      threads.caller = .notifying ∨ threads.caller = .closing
  /-- The destruction is still to come, or it has begun. -/
  last : (∃ earlier, threads.calls = earlier ++ [.stop]) ∨
    threads.calls = [] ∧ threads.logger.running = false

/-- A logger is sound before its first call. -/
theorem sound_of
    (calls : List LoggerCall) :
    (of calls).Sound where
  agrees := Or.inr ⟨rfl, rfl⟩
  cleared := fun _ => rfl
  emptied := fun _ => rfl
  told := fun asleep => by simp [of] at asleep
  last := Or.inl ⟨calls, rfl⟩

/-! ### What every move keeps -/

section Moves

open WriterPhase

variable {before after : Threads}

/-- Once a call is made, the destruction is still to come, or the call was it. -/
theorem last_of_cons
    {call : LoggerCall}
    {calls : List LoggerCall}
    {stopped : Prop}
    (last : (∃ earlier, call :: calls = earlier ++ [.stop]) ∨ call :: calls = [] ∧ stopped) :
    (∃ earlier, calls = earlier ++ [.stop]) ∨ calls = [] ∧ call = .stop := by
  rcases last with ⟨earlier, ends⟩ | ⟨isNone, -⟩
  · cases earlier with
    | nil =>
        simp only [List.nil_append, List.cons.injEq] at ends
        exact Or.inr ⟨ends.2, ends.1⟩
    | cons first earlier =>
        simp only [List.cons_append, List.cons.injEq] at ends
        exact Or.inl ⟨earlier, ends.2⟩
  · cases isNone

/-- Every move leaves the threads sound. -/
theorem Sound.moves
    (sound : before.Sound)
    (moves : before.Moves after) :
    after.Sound := by
  obtain ⟨agrees, cleared, emptied, told, last⟩ := sound
  cases moves with
  | waits => exact ⟨agrees, cleared, emptied, told, last⟩
  | passes threshold keepsNone isStill =>
      exact ⟨agrees, cleared, emptied, told,
        (last_of_cons last).imp_right fun isLast => ⟨isLast.1, isStill isLast.2⟩⟩
  | offers reaches running =>
      have works := (agrees.resolve_right (by simp [running])).2
      exact ⟨⟨running, works⟩, cleared, emptied, fun asleep => (told asleep).imp_right (by simp),
        (last_of_cons last).imp_right (by simp)⟩
  | keeps reaches isStill =>
      exact ⟨agrees, cleared, emptied, fun asleep => (told asleep).imp_right (by simp),
        (last_of_cons last).imp_right (by simp)⟩
  | starts isStill =>
      have isAbsent := (agrees.resolve_left (by simp [isStill])).2
      exact ⟨⟨rfl, isAbsent⟩, cleared, emptied, fun asleep => (by cases isAbsent.symm.trans asleep),
        (last_of_cons last).imp_right (by simp)⟩
  | stops running =>
      -- A writer that sleeps now is told by the caller's next turn.
      have works := (agrees.resolve_right (by simp [running])).2
      exact ⟨⟨rfl, works.1⟩, cleared, emptied, fun _ => Or.inr (Or.inr rfl),
        (last_of_cons last).imp_right fun isLast => ⟨isLast.1, rfl⟩⟩
  | spawns =>
      obtain ⟨running, rfl⟩ := agrees
      exact ⟨Or.inl ⟨running, works_looking⟩, fun _ => cleared (by simp),
        fun idle => absurd works_looking idle, by simp, last⟩
  | queues =>
      exact ⟨agrees, cleared, fun idle => absurd agrees.2 idle, fun _ => Or.inr (Or.inl rfl), last⟩
  | turnsAway isFull =>
      exact ⟨Or.inl agrees, cleared, emptied, fun asleep => (told asleep).imp_right (by simp), last⟩
  | prints =>
      exact ⟨agrees, cleared, emptied, fun asleep => (told asleep).imp_right (by simp), last⟩
  | notifies =>
      exact ⟨Or.inl ⟨agrees.1, works_notified.mpr agrees.2⟩,
        fun notWriting => cleared fun writing => notWriting (notified_eq_writing.mpr writing),
        fun idle => emptied fun works => idle (works_notified.mpr works),
        fun asleep => absurd asleep (notified_ne_asleep _), last⟩
  | @closes logger writer calls =>
      have notAbsent : writer.notified ≠ .absent := by
        cases writer <;> simp_all [WriterPhase.notified, CallerPhase.Agrees]
      exact ⟨⟨agrees.1, notAbsent⟩,
        fun notWriting => cleared fun writing => notWriting (notified_eq_writing.mpr writing),
        fun idle => emptied fun works => idle (works_notified.mpr works),
        fun asleep => absurd asleep (notified_ne_asleep _), last⟩
  | joins =>
      exact ⟨Or.inr ⟨agrees.1, rfl⟩, fun _ => cleared (by simp),
        fun _ => emptied fun works => works.2 rfl, by simp, last⟩
  | sleeps isEmpty running =>
      exact ⟨agrees.of_works works_looking works_asleep, fun _ => cleared (by simp),
        fun _ => isEmpty, fun _ => Or.inl ⟨isEmpty, running⟩, last⟩
  | stirs =>
      exact ⟨agrees.of_works works_asleep works_looking, fun _ => cleared (by simp),
        fun idle => absurd works_looking idle, by simp, last⟩
  | ends isEmpty isStill =>
      -- The queue was empty after the logger had stopped, and nobody fills it any more.
      simp only [isStill] at agrees
      exact ⟨isStill ▸ agrees.of_ended works_looking, fun _ => cleared (by simp), fun _ => isEmpty,
        by simp, last⟩
  | takes isFilled =>
      exact ⟨agrees.of_works works_looking works_writing, fun notWriting => absurd rfl notWriting,
        fun _ => rfl, by simp, last⟩
  | writes isNext =>
      exact ⟨agrees, fun notWriting => absurd rfl notWriting, emptied, by simp, last⟩
  | finishes isEmpty =>
      exact ⟨agrees.of_works works_writing works_looking, fun _ => isEmpty,
        fun idle => absurd works_looking idle, by simp, last⟩

/-- All lines that were kept or will be, wherever they are: those of the file, of the batch, of the
queue, of the caller, and of the calls to come. -/
def ledger
    (threads : Threads) :
    List LogMessage :=
  threads.logger.written ++ threads.logger.batch ++ threads.logger.queued ++
    threads.caller.held ++ LoggerCall.kept threads.logger.threshold threads.calls

/-- A line that the caller is to write has no other line before it. -/
def Ordered
    (threads : Threads) :
    Prop :=
  ∀ message, threads.caller = .writing message →
    threads.logger.batch = [] ∧ threads.logger.queued = []

/-- Between its calls, a logger that does not run has no line outside the file. -/
theorem Sound.settled
    {logger : Logger}
    {writer : WriterPhase}
    {calls : List LoggerCall}
    (sound : Sound ⟨logger, .ready, writer, calls⟩)
    (isStill : logger.running = false) :
    logger.batch = [] ∧ logger.queued = [] := by
  have isAbsent : writer = .absent := (sound.agrees.resolve_left (by simp [isStill])).2
  exact ⟨sound.cleared (by simp [isAbsent]), sound.emptied fun works => works.1 isAbsent⟩

/-- The threads after the caller has written its line. -/
def printed
    (threads : Threads)
    (message : LogMessage) :
    Threads :=
  { threads with
    logger := { threads.logger with written := threads.logger.written ++ [message] }
    caller := .ready }

/-- No move changes the ledger, unless the caller writes its line. -/
theorem Moves.ledger_eq_or_printed
    (moves : before.Moves after)
    (sound : before.Sound) :
    after.ledger = before.ledger ∨
      ∃ message, before.caller = .writing message ∧ after = before.printed message := by
  cases moves with
  | prints => exact Or.inr ⟨_, rfl, rfl⟩
  | passes threshold keepsNone isStill =>
      exact Or.inl (by simp [ledger, CallerPhase.held, keepsNone])
  | offers reaches running =>
      exact Or.inl (by simp [ledger, CallerPhase.held, LoggerCall.kept, reaches])
  | keeps reaches isStill =>
      exact Or.inl (by simp [ledger, CallerPhase.held, LoggerCall.kept, reaches])
  | queues => exact Or.inl (by simp [ledger, CallerPhase.held])
  | @takes logger caller calls isFilled =>
      have noBatch : logger.batch = [] := sound.cleared (by simp)
      exact Or.inl (by simp [ledger, noBatch])
  | writes isNext => exact Or.inl (by simp [ledger, isNext])
  | waits | starts | stops | spawns | turnsAway | notifies | closes | joins | sleeps | stirs | ends
  | finishes =>
      exact Or.inl rfl

/-- No move adds to the ledger or takes from it. -/
theorem Moves.ledger_perm
    (moves : before.Moves after)
    (sound : before.Sound) :
    after.ledger.Perm before.ledger := by
  rcases moves.ledger_eq_or_printed sound with same | ⟨message, isWriting, rfl⟩
  · exact .of_eq same
  · -- The line passes what is in the batch and in the queue.
    have passed : ([message] ++ (before.logger.batch ++ before.logger.queued)).Perm
        (before.logger.batch ++ before.logger.queued ++ [message]) :=
      List.perm_append_comm
    have passed := passed.append_left before.logger.written
    simpa [ledger, printed, isWriting, CallerPhase.held] using
      passed.append_right (LoggerCall.kept before.logger.threshold before.calls)

/-- No move changes the order of the ledger while the caller writes no line before its turn. -/
theorem Moves.ledger_eq
    (moves : before.Moves after)
    (sound : before.Sound)
    (ordered : before.Ordered) :
    after.ledger = before.ledger := by
  rcases moves.ledger_eq_or_printed sound with same | ⟨message, isWriting, rfl⟩
  · exact same
  · obtain ⟨noBatch, noQueue⟩ := ordered message isWriting
    simp [ledger, printed, isWriting, CallerPhase.held, noBatch, noQueue]

/-- While the queue has room, the caller writes no line before its turn. -/
theorem Ordered.moves
    (ordered : before.Ordered)
    (sound : before.Sound)
    (moves : before.Moves after)
    (room : before.logger.queued.length < Logger.capacity) :
    after.Ordered := by
  cases moves with
  | waits | sleeps | stirs | ends | finishes => exact ordered
  | keeps reaches isStill => exact fun message _ => sound.settled isStill
  | turnsAway isFull => exact absurd (isFull sound.agrees.1) (Nat.not_le_of_lt room)
  | takes isFilled => exact fun message isWriting => absurd (ordered message isWriting).2 isFilled
  | writes isNext =>
      intro message isWriting
      have noBatch := (ordered message isWriting).1
      simp only [isNext] at noBatch
      cases noBatch
  | passes | offers | starts | stops | spawns | queues | prints | notifies | closes | joins =>
      intro message isWriting
      cases isWriting

end Moves

/-! ### Runs -/

section Runs

variable {threads : Threads}

@[simp] theorem run_nil
    (threads : Threads) :
    threads.run [] = threads :=
  rfl

@[simp] theorem run_cons
    (threads : Threads)
    (turn : Turn)
    (turns : List Turn) :
    threads.run (turn :: turns) = (threads.turn turn).run turns :=
  rfl

theorem run_append
    (threads : Threads)
    (turns later : List Turn) :
    threads.run (turns ++ later) = (threads.run turns).run later :=
  List.foldl_append

/-- Every turn leaves the threads sound. -/
theorem Sound.run
    (sound : threads.Sound)
    (turns : List Turn) :
    (threads.run turns).Sound := by
  induction turns generalizing threads with
  | nil => exact sound
  | cons turn turns inductionHypothesis =>
      exact inductionHypothesis (sound.moves (threads.turn_moves turn))

/-- No run adds to the ledger or takes from it. -/
theorem Sound.ledger_run_perm
    (sound : threads.Sound)
    (turns : List Turn) :
    (threads.run turns).ledger.Perm threads.ledger := by
  induction turns generalizing threads with
  | nil => exact .refl _
  | cons turn turns inductionHypothesis =>
      have moves := threads.turn_moves turn
      exact (inductionHypothesis (sound.moves moves)).trans (moves.ledger_perm sound)

/-- The queue has room all through a run. -/
def HasRoom
    (threads : Threads)
    (turns : List Turn) :
    Prop :=
  ∀ earlier, earlier <+: turns → (threads.run earlier).logger.queued.length < Logger.capacity

instance (threads : Threads) (turns : List Turn) : Decidable (threads.HasRoom turns) :=
  decidable_of_iff
    (∀ earlier ∈ turns.inits, (threads.run earlier).logger.queued.length < Logger.capacity)
    (by simp only [HasRoom, List.mem_inits])

/-- No run changes the order of the ledger while the queue has room. -/
theorem Sound.ledger_run_eq
    (sound : threads.Sound)
    (ordered : threads.Ordered)
    {turns : List Turn}
    (room : threads.HasRoom turns) :
    (threads.run turns).ledger = threads.ledger := by
  induction turns generalizing threads with
  | nil => rfl
  | cons turn turns inductionHypothesis =>
      have moves := threads.turn_moves turn
      have later : (threads.turn turn).HasRoom turns := by
        intro earlier isEarlier
        exact room (turn :: earlier) (List.cons_prefix_cons.mpr ⟨rfl, isEarlier⟩)
      have first := ordered.moves sound moves (room [] List.nil_prefix)
      exact (inductionHypothesis (sound.moves moves) first later).trans
        (moves.ledger_eq sound ordered)

/-- Once a logger is destroyed, its ledger is its file. -/
theorem Sound.ledger_of_destroyed
    (sound : threads.Sound)
    (destroyed : threads.Destroyed) :
    threads.ledger = threads.logger.written := by
  obtain ⟨logger, caller, writer, calls⟩ := threads
  obtain ⟨rfl, rfl⟩ : calls = [] ∧ caller = .ready := destroyed
  obtain ⟨noBatch, noQueue⟩ := sound.settled (sound.last.resolve_left (by simp)).2
  simp [ledger, CallerPhase.held, LoggerCall.kept, noBatch, noQueue]

/-- Before its first call, a logger has no line to write. -/
theorem ordered_of
    (calls : List LoggerCall) :
    (of calls).Ordered := by
  intro message isWriting
  cases isWriting

/-- The ledger of a fresh logger is what its calls keep. -/
theorem ledger_of
    (calls : List LoggerCall) :
    (of calls).ledger = LoggerCall.kept .info calls :=
  LoggerCall.kept_append_stop .info calls

/-- A destroyed logger has written every line that its calls keep, and nothing else. -/
theorem written_perm_kept
    {calls : List LoggerCall}
    {turns : List Turn}
    (destroyed : ((of calls).run turns).Destroyed) :
    ((of calls).run turns).logger.written.Perm (LoggerCall.kept .info calls) := by
  have sound := sound_of calls
  rw [← (sound.run turns).ledger_of_destroyed destroyed, ← ledger_of]
  exact sound.ledger_run_perm turns

/-- A destroyed logger whose queue always had room has written the lines that its calls keep in
the order of the calls. -/
theorem written_eq_kept
    {calls : List LoggerCall}
    {turns : List Turn}
    (destroyed : ((of calls).run turns).Destroyed)
    (room : (of calls).HasRoom turns) :
    ((of calls).run turns).logger.written = LoggerCall.kept .info calls := by
  have sound := sound_of calls
  rw [← (sound.run turns).ledger_of_destroyed destroyed, ← ledger_of]
  exact sound.ledger_run_eq (ordered_of calls) room

end Runs

end Threads

end Cadence
