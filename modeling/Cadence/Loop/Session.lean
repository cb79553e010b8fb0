import Cadence.Loop.Run

namespace Cadence

/-!
# Sessions

A session is what is done with one loop from outside: commands, and runs that
are awaited.  A run of a session has a last happening that ends it: the loop is
told to stop, or the caller's token is cancelled.
-/

/-- A run of a session: its script, when it is ended, and how. -/
structure SessionRun where
  withToken : Bool := true
  cancelledBefore : Bool := false
  script : List TimedHappening := []
  endsAt : Int := 0
  lastHappening : Happening := .stop

/-- What is done with a loop from outside. -/
inductive Statement
  | command (command : Command)
  | run (run : SessionRun)

namespace SessionRun

/-- The script in the order of time, with the last happening after everything at its time. -/
def request (run : SessionRun) : RunRequest :=
  let last : TimedHappening := ⟨run.endsAt, run.lastHappening⟩
  { withToken := run.withToken
    cancelledBefore := run.cancelledBefore
    script := (run.script ++ [last]).mergeSort fun first second => first.after ≤ second.after }

/-- The steps a run may take.  A run is over long before that: its last happening ends it, or a
failure or a later command does. -/
def patience : Nat := Nat.pow 10 12

end SessionRun

namespace Loop

/-- The loop after a run that another thread asked for, with its end recorded. -/
def runToEnd (loop : Loop) (run : SessionRun) : Loop :=
  let (after, outcome) : Loop × RunOutcome :=
    match loop.start .another run.request with
    | .refused refused => (refused, .refused .alreadyRunning)
    | .waits => (loop, .unfinished)
    | .started started =>
        let final := started.runFor SessionRun.patience
        (final.loop, final.outcome)
  after.record (.finished outcome after.clock after.status)

/-- The loop after a statement. -/
def obey (loop : Loop) : Statement → Loop
  | .command command => loop.execute command
  | .run run => loop.runToEnd run

/-- The loop after a session. -/
def session (loop : Loop) (statements : List Statement) : Loop :=
  statements.foldl obey loop

end Loop

end Cadence
