import Cadence.Schedule.Parser
import Cadence.Loop.State

namespace Cadence

/-!
# The registry

Tasks are registered under their ids, each at most once, in the order in which
they were added.  A change of the registry wakes a running loop, so that it looks
again for what is due next.
-/

namespace Loop

/-- Makes a task with the next id. -/
def makeTask (loop : Loop) (schedule : Schedule) (action : Action) : Loop × Task :=
  let task : Task := ⟨loop.nextId, schedule, action⟩
  ({ loop with tasks := loop.tasks.insert loop.nextId task, nextId := loop.nextId + 1 }, task)

/-- Registers a task unless its id is registered already. -/
def register (loop : Loop) (task : Task) : Loop × Bool :=
  if task.id ∈ loop.registry then
    (loop, false)
  else
    let added := { loop with registry := loop.registry ++ [task.id] }
    (added.wake.emit (.taskAdded task.id task.schedule.raw), true)

/-- Makes and registers a task. -/
def addTask (loop : Loop) (schedule : Schedule) (action : Action) : Loop × Task :=
  let (made, task) := loop.makeTask schedule action
  ((made.register task).1, task)

/-- Makes and registers a task with the schedule that a text writes; a refused text is logged. -/
def addText (loop : Loop) (text : String) (withSeconds : Bool) (action : Action) :
    Loop × Except ParseError Task :=
  match Schedule.parse text withSeconds with
  | .error error =>
      (loop.logLine .warn ("Rejected task schedule '" ++ text ++ "': " ++ error.message),
        .error error)
  | .ok schedule =>
      let (added, task) := loop.addTask schedule action
      (added, .ok task)

/-- Registers a task that was made before; an unknown one is refused. -/
def addHandle (loop : Loop) (id : Nat) : Loop × Bool :=
  match loop.tasks.get? id with
  | none => (loop, false)
  | some task => loop.register task

/-- Removes a task from the registry. -/
def remove (loop : Loop) (id : Nat) : Loop × Bool :=
  if id ∈ loop.registry then
    let removed := { loop with registry := loop.registry.filter (· ≠ id) }
    let raw := ((loop.tasks.get? id).map fun task => task.schedule.raw).getD ""
    (removed.wake.emit (.taskRemoved id raw), true)
  else
    (loop, false)

/-- Removes all tasks with the given ids, and answers how many there were. -/
def removeMany (loop : Loop) (ids : List Nat) : Loop × Nat :=
  let kept := loop.registry.filter fun id => id ∉ ids
  let count := loop.registry.length - kept.length
  let removed := { loop with registry := kept }
  let woken := if 0 < count then removed.wake else removed
  (woken.emit (.tasksRemoved count), count)

/-- Removes all tasks, and answers how many there were. -/
def removeAll (loop : Loop) : Loop × Nat :=
  let count := loop.registry.length
  let removed := { loop with registry := [] }
  (removed.wake.emit (.allTasksRemoved count), count)

/-- Makes a running loop look again for what is due next. -/
def refresh (loop : Loop) : Loop :=
  loop.wake.emit .tasksRefreshed

/-- The registered task of an id. -/
def find? (loop : Loop) (id : Nat) : Option Task :=
  if id ∈ loop.registry then loop.tasks.get? id else none

/-- Gives a task another schedule; the loop is not woken. -/
def setSchedule (loop : Loop) (task : Task) (schedule : Schedule) : Loop :=
  { loop with tasks := loop.tasks.insert task.id { task with schedule := schedule } }

/-- Registers the enabled ones of configured tasks, up to the first that has no command or a
schedule at fault, and answers how many were registered. -/
def registerConfigured (loop : Loop) (tasks : List TaskConfig) (added : Nat) :
    Loop × Except Fault Nat :=
  match tasks with
  | [] => (loop, .ok added)
  | config :: configs =>
      if !config.enabled then
        (loop.logLine .debug ("Skipping disabled task " ++ config.name)).registerConfigured
          configs added
      else if config.command.isEmpty then
        (loop.logLine .error ("Task " ++ config.name ++ " has no command"),
          .error .invalidArgument)
      else
        match loop.addText config.schedule config.withSeconds
            (.shell config.isAsync config.command config.directory) with
        | (refused, .error error) =>
            (refused.logLine .error ("Task " ++ config.name ++ ": " ++ error.message),
              .error error.fault)
        | (accepted, .ok task) =>
            (accepted.logLine .info
              ("Registered " ++ config.name ++ " as task " ++ toString task.id)).registerConfigured
                configs (added + 1)

end Loop

end Cadence
