import Cadence.Log.Level

namespace Cadence

/-!
# The logger

A logger writes its lines to a file.  While its background writer runs, lines
wait in a queue; the writer takes the whole queue as a batch and writes it line
by line.  When the writer does not run, or the queue is full, the caller writes
the line itself.  Stopping lets the writer finish: it writes its batch, then what
is still queued.  Calls and moves of the writer may alternate in any way.
-/

/-- A message with its level. -/
structure LogMessage where
  level : LogLevel
  text : String
  deriving DecidableEq, Repr

/-- The state of a logger. -/
structure Logger where
  /-- Lines below this level are dropped. -/
  threshold : LogLevel := .info
  /-- Whether the background writer runs. -/
  running : Bool := false
  /-- Lines that wait for the writer, the oldest first. -/
  queued : List LogMessage := []
  /-- Lines that the writer has taken and not yet written, the oldest first. -/
  batch : List LogMessage := []
  /-- The lines of the file, the oldest first. -/
  written : List LogMessage := []
  deriving DecidableEq, Repr

/-- What a caller asks of a logger. -/
inductive LoggerCall
  | setLevel (level : LogLevel)
  | log (message : LogMessage)
  | start
  | stop
  /-- Switching to a file that cannot be opened. -/
  | switchToUnwritable
  deriving DecidableEq, Repr

/-- What the background writer does on its own. -/
inductive WriterMove
  /-- Takes the whole queue as its next batch. -/
  | take
  /-- Writes the first line of its batch. -/
  | write
  deriving DecidableEq, Repr

namespace Logger

/-- How many lines wait at most before callers write themselves. -/
def capacity : Nat := 8192

/-- Everything that the writer still has to write, written. -/
def drained (logger : Logger) : Logger :=
  { logger with
    queued := []
    batch := []
    written := logger.written ++ logger.batch ++ logger.queued }

/-- A line that is at the logger's level or above. -/
def accept (logger : Logger) (message : LogMessage) : Logger :=
  if logger.running ∧ logger.queued.length < capacity then
    { logger with queued := logger.queued ++ [message] }
  else
    { logger with written := logger.written ++ [message] }

/-- Ends the background writer once it has written everything. -/
def stop (logger : Logger) : Logger :=
  if logger.running then
    { logger.drained with running := false }
  else
    logger

/-- The logger after a call. -/
def call (logger : Logger) : LoggerCall → Logger
  | .setLevel level => { logger with threshold := level }
  | .log message =>
      if message.level.reaches logger.threshold then logger.accept message else logger
  | .start => { logger with running := true }
  | .stop => logger.stop
  | .switchToUnwritable => logger

/-- Whether a call succeeds: a file that cannot be opened is refused. -/
def succeeds : LoggerCall → Bool
  | .switchToUnwritable => false
  | _ => true

/-- The logger after a move of its writer; a move that is not possible changes nothing. -/
def move (logger : Logger) : WriterMove → Logger
  | .take =>
      if logger.running ∧ logger.batch = [] then
        { logger with queued := [], batch := logger.queued }
      else
        logger
  | .write =>
      match logger.batch with
      | [] => logger
      | message :: rest =>
          { logger with batch := rest, written := logger.written ++ [message] }

/-- The logger after calls and moves of the writer in the given order. -/
def run (logger : Logger) (steps : List (LoggerCall ⊕ WriterMove)) : Logger :=
  steps.foldl
    (fun logger step =>
      match step with
      | .inl call => logger.call call
      | .inr move => logger.move move)
    logger

/-- The file once the logger is gone: its destruction stops the writer. -/
def file (logger : Logger) : List LogMessage :=
  logger.stop.written

/-- A message as the file shows it, without time and thread. -/
def lineText (message : LogMessage) : String :=
  "[" ++ message.level.name ++ "] " ++ message.text

/-- The logger after each of some calls, while the writer keeps up with every one of them. -/
def statesAfter (logger : Logger) : List LoggerCall → List (LoggerCall × Logger)
  | [] => []
  | call :: calls =>
      let called := logger.call call
      let settled := if called.running then called.drained else called
      (call, settled) :: settled.statesAfter calls

end Logger

end Cadence
