import Cadence.Log.Threads

namespace Cadence

/-!
# The moves of a logger's threads

Whatever the turns of the caller and of the writer do is one of a few moves.  Each of
them says which phase it leaves, what it needs to see, and what it changes; all that
is to be known of the threads follows from what their moves have in common.
-/

/-- The lines that a logger keeps: those at or above the level in force at the time of the call. -/
def LoggerCall.kept
    (threshold : LogLevel) :
    List LoggerCall → List LogMessage
  | [] => []
  | .setLevel level :: calls => kept level calls
  | .log message :: calls =>
      if message.level.reaches threshold then
        message :: kept threshold calls
      else
        kept threshold calls
  | .start :: calls | .stop :: calls | .switchToUnwritable :: calls => kept threshold calls

/-- The destruction of a logger keeps no line of its own. -/
theorem LoggerCall.kept_append_stop
    (threshold : LogLevel)
    (calls : List LoggerCall) :
    kept threshold (calls ++ [.stop]) = kept threshold calls := by
  induction calls generalizing threshold with
  | nil => rfl
  | cons call calls inductionHypothesis =>
      cases call <;> simp only [List.cons_append, kept, inductionHypothesis]

namespace Threads

/-- The moves of the two threads, with what makes each of them possible. -/
inductive Moves : Threads → Threads → Prop
  /-- The thread whose turn it is can only wait. -/
  | waits (threads : Threads) :
      Moves threads threads
  /-- A call that is over at once and keeps no line; at most the level changes. -/
  | passes {logger : Logger} {writer : WriterPhase} {call : LoggerCall} {calls : List LoggerCall}
      (threshold : LogLevel)
      (keepsNone :
        LoggerCall.kept logger.threshold (call :: calls) = LoggerCall.kept threshold calls)
      (isStill : call = .stop → logger.running = false) :
      Moves ⟨logger, .ready, writer, call :: calls⟩
        ⟨{ logger with threshold := threshold }, .ready, writer, calls⟩
  /-- A line is kept while the logger runs. -/
  | offers {logger : Logger} {writer : WriterPhase} {message : LogMessage}
      {calls : List LoggerCall}
      (reaches : message.level.reaches logger.threshold = true)
      (running : logger.running = true) :
      Moves ⟨logger, .ready, writer, .log message :: calls⟩
        ⟨logger, .queueing message, writer, calls⟩
  /-- A line is kept while the logger does not run. -/
  | keeps {logger : Logger} {writer : WriterPhase} {message : LogMessage}
      {calls : List LoggerCall}
      (reaches : message.level.reaches logger.threshold = true)
      (isStill : logger.running = false) :
      Moves ⟨logger, .ready, writer, .log message :: calls⟩
        ⟨logger, .writing message, writer, calls⟩
  | starts {logger : Logger} {writer : WriterPhase} {calls : List LoggerCall}
      (isStill : logger.running = false) :
      Moves ⟨logger, .ready, writer, .start :: calls⟩
        ⟨{ logger with running := true }, .spawning, writer, calls⟩
  | stops {logger : Logger} {writer : WriterPhase} {calls : List LoggerCall}
      (running : logger.running = true) :
      Moves ⟨logger, .ready, writer, .stop :: calls⟩
        ⟨{ logger with running := false }, .closing, writer, calls⟩
  | spawns {logger : Logger} {writer : WriterPhase} {calls : List LoggerCall} :
      Moves ⟨logger, .spawning, writer, calls⟩ ⟨logger, .ready, .looking, calls⟩
  | queues {logger : Logger} {writer : WriterPhase} {message : LogMessage}
      {calls : List LoggerCall} :
      Moves ⟨logger, .queueing message, writer, calls⟩
        ⟨{ logger with queued := logger.queued ++ [message] }, .notifying, writer, calls⟩
  /-- The queue does not take the line. -/
  | turnsAway {logger : Logger} {writer : WriterPhase} {message : LogMessage}
      {calls : List LoggerCall}
      (isFull : logger.running = true → Logger.capacity ≤ logger.queued.length) :
      Moves ⟨logger, .queueing message, writer, calls⟩ ⟨logger, .writing message, writer, calls⟩
  /-- The caller writes its line. -/
  | prints {logger : Logger} {writer : WriterPhase} {message : LogMessage}
      {calls : List LoggerCall} :
      Moves ⟨logger, .writing message, writer, calls⟩
        ⟨{ logger with written := logger.written ++ [message] }, .ready, writer, calls⟩
  | notifies {logger : Logger} {writer : WriterPhase} {calls : List LoggerCall} :
      Moves ⟨logger, .notifying, writer, calls⟩ ⟨logger, .ready, writer.notified, calls⟩
  | closes {logger : Logger} {writer : WriterPhase} {calls : List LoggerCall} :
      Moves ⟨logger, .closing, writer, calls⟩ ⟨logger, .joining, writer.notified, calls⟩
  | joins {logger : Logger} {calls : List LoggerCall} :
      Moves ⟨logger, .joining, .ended, calls⟩ ⟨logger, .ready, .absent, calls⟩
  | sleeps {logger : Logger} {caller : CallerPhase} {calls : List LoggerCall}
      (isEmpty : logger.queued = [])
      (running : logger.running = true) :
      Moves ⟨logger, caller, .looking, calls⟩ ⟨logger, caller, .asleep, calls⟩
  | stirs {logger : Logger} {caller : CallerPhase} {calls : List LoggerCall} :
      Moves ⟨logger, caller, .asleep, calls⟩ ⟨logger, caller, .looking, calls⟩
  | ends {logger : Logger} {caller : CallerPhase} {calls : List LoggerCall}
      (isEmpty : logger.queued = [])
      (isStill : logger.running = false) :
      Moves ⟨logger, caller, .looking, calls⟩ ⟨logger, caller, .ended, calls⟩
  | takes {logger : Logger} {caller : CallerPhase} {calls : List LoggerCall}
      (isFilled : logger.queued ≠ []) :
      Moves ⟨logger, caller, .looking, calls⟩
        ⟨{ logger with queued := [], batch := logger.queued }, caller, .writing, calls⟩
  | writes {logger : Logger} {caller : CallerPhase} {calls : List LoggerCall}
      {message : LogMessage} {rest : List LogMessage}
      (isNext : logger.batch = message :: rest) :
      Moves ⟨logger, caller, .writing, calls⟩
        ⟨{ logger with batch := rest, written := logger.written ++ [message] }, caller, .writing,
          calls⟩
  /-- The batch is written. -/
  | finishes {logger : Logger} {caller : CallerPhase} {calls : List LoggerCall}
      (isEmpty : logger.batch = []) :
      Moves ⟨logger, caller, .writing, calls⟩ ⟨logger, caller, .looking, calls⟩

/-- The first turn of a call is a move. -/
theorem begin_moves
    (logger : Logger)
    (writer : WriterPhase)
    (call : LoggerCall)
    (calls : List LoggerCall) :
    Moves ⟨logger, .ready, writer, call :: calls⟩
      (Threads.begin ⟨logger, .ready, writer, calls⟩ call) := by
  cases call with
  | setLevel level => exact .passes level rfl (by simp)
  | log message =>
      cases reaches : message.level.reaches logger.threshold with
      | false =>
          simp only [begin, reaches, Bool.false_eq_true, ↓reduceIte]
          exact .passes logger.threshold (by simp [LoggerCall.kept, reaches]) (by simp)
      | true =>
          cases running : logger.running with
          | false => simpa [begin, reaches, running] using .keeps reaches running
          | true => simpa [begin, reaches, running] using .offers reaches running
  | start =>
      cases running : logger.running with
      | false => simpa [begin, running, Logger.call] using .starts running
      | true =>
          simp only [begin, running, ↓reduceIte]
          exact .passes logger.threshold rfl (by simp)
  | stop =>
      cases running : logger.running with
      | false =>
          simp only [begin, running, Bool.false_eq_true, ↓reduceIte]
          exact .passes logger.threshold rfl fun _ => running
      | true => simpa [begin, running] using .stops running
  | switchToUnwritable => exact .passes logger.threshold rfl (by simp)

/-- Whoever's turn it is, it is a move. -/
theorem turn_moves
    (threads : Threads)
    (turn : Turn) :
    threads.Moves (threads.turn turn) := by
  obtain ⟨logger, caller, writer, calls⟩ := threads
  cases turn with
  | caller =>
      cases caller with
      | ready =>
          cases calls with
          | nil => exact .waits _
          | cons call calls => exact begin_moves logger writer call calls
      | spawning => exact .spawns
      | queueing message =>
          simp only [Threads.turn, callerTurn]
          split
          · exact .queues
          · rename_i noRoom
            exact .turnsAway fun running => by
              simpa [running] using noRoom
      | writing message => exact .prints
      | notifying => exact .notifies
      | closing => exact .closes
      | joining =>
          simp only [Threads.turn, callerTurn]
          split
          · rename_i isOver
            cases isOver
            exact .joins
          · exact .waits _
  | writer =>
      cases writer with
      | absent => exact .waits _
      | asleep => exact .waits _
      | ended => exact .waits _
      | looking =>
          simp only [Threads.turn, writerTurn]
          split
          · rename_i idle
            exact .sleeps idle.1 idle.2
          · rename_i notIdle
            split
            · rename_i isEmpty
              exact .ends isEmpty (by simpa [isEmpty] using notIdle)
            · rename_i isFilled
              exact .takes isFilled
      | writing =>
          simp only [Threads.turn, writerTurn]
          split
          · rename_i isEmpty
            exact .finishes isEmpty
          · rename_i isFilled
            obtain ⟨message, rest, isNext⟩ := List.exists_cons_of_ne_nil isFilled
            simpa [Logger.move, isNext] using .writes isNext
  | stir =>
      simp only [Threads.turn]
      split
      · rename_i asleep
        cases asleep
        exact .stirs
      · exact .waits _

end Threads

end Cadence
