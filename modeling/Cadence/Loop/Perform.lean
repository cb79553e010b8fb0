import Cadence.Loop.Registry

namespace Cadence

/-!
# Performing commands

What each command does to a loop and what it answers.  Commands may be given from
outside, by actions, by callbacks and while the loop waits; their effect is the
same, except that a stopped or idle loop is not woken.
-/

namespace Loop

/-- The answer of a command that makes a task. -/
def madeReply (task : Task) : Reply :=
  .made task.id task.action.isAsync

/-- The loop after a command, with the answer. -/
def perform (loop : Loop) (command : Command) : Loop × Reply :=
  match command with
  | .add text withSeconds action =>
      match loop.addText text withSeconds action with
      | (refused, .error error) => (refused, .rejected error)
      | (added, .ok task) => (added, madeReply task)
  | .addSchedule text withSeconds action =>
      match Schedule.parse text withSeconds with
      | .error error => (loop, .rejected error)
      | .ok schedule =>
          let (added, task) := loop.addTask schedule action
          (added, madeReply task)
  | .make text withSeconds action =>
      match Schedule.parse text withSeconds with
      | .error error => (loop, .rejected error)
      | .ok schedule =>
          let (made, task) := loop.makeTask schedule action
          (made, madeReply task)
  | .addHandle id =>
      let (added, accepted) := loop.addHandle id
      (added, .flag accepted)
  | .remove id =>
      let (removed, found) := loop.remove id
      (removed, .flag found)
  | .removeHandle id =>
      let (removed, found) := loop.remove id
      (removed, .flag found)
  | .removeMany ids =>
      let (removed, count) := loop.removeMany ids
      (removed, .count count)
  | .removeHandles ids =>
      let (removed, count) := loop.removeMany ids
      (removed, .count count)
  | .removeAll =>
      let (removed, count) := loop.removeAll
      (removed, .count count)
  | .find id => (loop, .task ((loop.find? id).map Task.text))
  | .setSchedule id text withSeconds =>
      match loop.tasks.get? id with
      | none => (loop, .swapped none)
      | some task =>
          match Schedule.parse text withSeconds with
          | .error error => (loop, .rejected error)
          | .ok schedule =>
              (loop.setSchedule task schedule,
                .swapped (some (task.schedule.raw, schedule.raw)))
  | .takeId => ({ loop with nextId := loop.nextId + 1 }, .count loop.nextId)
  | .next base => (loop, .groups (OccurrenceGroup.next loop.schedules base))
  | .nextAll base limit => (loop, .groups (OccurrenceGroup.all loop.schedules base limit))
  | .refresh => (loop.refresh, .flag true)
  | .stop => (loop.stop, .flag true)
  | .cancel => (loop.cancelExternal, .flag true)
  | .setClock clock => ({ loop with clock := clock }, .flag true)
  | .advance span => (loop.advance span, .flag true)
  | .status => (loop, .status loop.status)
  | .options => (loop, .options loop.options)
  | .register tasks =>
      match loop.registerConfigured tasks 0 with
      | (registered, .ok count) => (registered, .count count)
      | (registered, .error fault) => (registered, .refused fault)
  | .startWithin caller =>
      if loop.refusesStart caller then
        (loop.refuseStart, .refused .alreadyRunning)
      else
        (loop, .waits)

/-- The loop after a command, with the answer recorded. -/
def execute (loop : Loop) (command : Command) : Loop :=
  let (performed, reply) := loop.perform command
  performed.record (.answered command reply)

/-- The loop after commands, in order. -/
def executeAll (loop : Loop) (commands : List Command) : Loop :=
  commands.foldl execute loop

end Loop

end Cadence
