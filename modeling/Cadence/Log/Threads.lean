import Cadence.Log.Logger

namespace Cadence

/-!
# The two threads of a logger

A call on a logger takes several turns, and the background writer may take turns
between them.  A caller that keeps a line looks whether the writer runs; only then
does it lock the queue, look again, and leave the line there or go on to write it
itself.  It tells the writer about the line after it has let go of the lock, and a
`stop` joins the writer's thread after it has told it to end.

The writer locks the queue to look at it.  While the queue is empty and the logger
runs, it sleeps until it is told to look again; otherwise it takes the whole queue,
ends if there was nothing in it, and writes what it took line by line.

The calls are those of one thread, and the last of them is the `stop` of the
logger's destruction.
-/

/-- Where the calling thread is. -/
inductive CallerPhase
  /-- Between two calls. -/
  | ready
  /-- The logger runs from now on, but the writer has no thread yet. -/
  | spawning
  /-- The logger ran when the caller looked, and the queue is to be locked next. -/
  | queueing (message : LogMessage)
  /-- The caller is to write the line itself. -/
  | writing (message : LogMessage)
  /-- A line is in the queue, and the writer is to be told. -/
  | notifying
  /-- The logger runs no more, and the writer is to be told. -/
  | closing
  /-- Waiting for the writer's thread to end. -/
  | joining
  deriving DecidableEq, Repr

/-- Where the background writer is. -/
inductive WriterPhase
  /-- There is no thread. -/
  | absent
  /-- The queue is to be locked and looked at next. -/
  | looking
  /-- Waiting to be told. -/
  | asleep
  /-- Writing the batch. -/
  | writing
  /-- The thread is over and not joined yet. -/
  | ended
  deriving DecidableEq, Repr

/-- The writer after it was told to look again, which it notices only in its sleep. -/
def WriterPhase.notified : WriterPhase → WriterPhase
  | .asleep => .looking
  | phase => phase

/-- A logger with the two threads at work on it. -/
structure Threads where
  logger : Logger := {}
  caller : CallerPhase := .ready
  writer : WriterPhase := .absent
  /-- The calls that are still to be made, the first one first. -/
  calls : List LoggerCall := []
  deriving DecidableEq, Repr

namespace Threads

/-- Who moves next. -/
inductive Turn
  | caller
  | writer
  /-- The writer's sleep ends although nobody told it. -/
  | stir
  deriving DecidableEq, Repr

/-- A fresh logger that is destroyed after the given calls. -/
def of (calls : List LoggerCall) : Threads :=
  { calls := calls ++ [.stop] }

/-- The first turn of a call. -/
def begin (threads : Threads) (call : LoggerCall) : Threads :=
  match call with
  | .log message =>
      if message.level.reaches threads.logger.threshold then
        if threads.logger.running then
          { threads with caller := .queueing message }
        else
          { threads with caller := .writing message }
      else
        threads
  | .start =>
      if threads.logger.running then
        threads
      else
        { threads with logger := threads.logger.call .start, caller := .spawning }
  | .stop =>
      if threads.logger.running then
        { threads with
          logger := { threads.logger with running := false }
          caller := .closing }
      else
        threads
  | .setLevel level => { threads with logger := threads.logger.call (.setLevel level) }
  | .switchToUnwritable =>
      { threads with logger := threads.logger.call .switchToUnwritable }

/-- A turn of the calling thread; a turn in which it can only wait changes nothing. -/
def callerTurn (threads : Threads) : Threads :=
  match threads.caller with
  | .ready =>
      match threads.calls with
      | [] => threads
      | call :: calls => { threads with calls := calls }.begin call
  | .spawning => { threads with caller := .ready, writer := .looking }
  | .queueing message =>
      if threads.logger.running ∧ threads.logger.queued.length < Logger.capacity then
        { threads with
          logger := { threads.logger with queued := threads.logger.queued ++ [message] }
          caller := .notifying }
      else
        { threads with caller := .writing message }
  | .writing message =>
      { threads with
        logger := { threads.logger with written := threads.logger.written ++ [message] }
        caller := .ready }
  | .notifying => { threads with caller := .ready, writer := threads.writer.notified }
  | .closing => { threads with caller := .joining, writer := threads.writer.notified }
  | .joining =>
      if threads.writer = .ended then
        { threads with caller := .ready, writer := .absent }
      else
        threads

/-- A turn of the background writer; a turn in which it can only wait changes nothing. -/
def writerTurn (threads : Threads) : Threads :=
  match threads.writer with
  | .looking =>
      if threads.logger.queued = [] ∧ threads.logger.running then
        { threads with writer := .asleep }
      else if threads.logger.queued = [] then
        { threads with writer := .ended }
      else
        { threads with
          logger := { threads.logger with queued := [], batch := threads.logger.queued }
          writer := .writing }
  | .writing =>
      if threads.logger.batch = [] then
        { threads with writer := .looking }
      else
        { threads with logger := threads.logger.move .write }
  | .absent | .asleep | .ended => threads

/-- The threads after a turn. -/
def turn (threads : Threads) : Turn → Threads
  | .caller => threads.callerTurn
  | .writer => threads.writerTurn
  | .stir =>
      if threads.writer = .asleep then
        { threads with writer := .looking }
      else
        threads

/-- The threads after some turns. -/
def run (threads : Threads) (turns : List Turn) : Threads :=
  turns.foldl turn threads

/-- Every call was made, the last one included, and none is in progress. -/
def Destroyed (threads : Threads) : Prop :=
  threads.calls = [] ∧ threads.caller = .ready
  deriving Decidable

end Threads

end Cadence
