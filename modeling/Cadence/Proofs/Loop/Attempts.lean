import Cadence.Loop.Session
import Cadence.Proofs.Loop.Notices
import Cadence.Proofs.Loop.Runs

namespace Cadence

/-!
# Asking for another run

A run may be asked for another one: by actions, by callbacks, and while it waits.
Such an attempt is refused, or it waits until the run is over.  To say that it has no
part in what the run does, every attempt is taken out, wherever it stands: the loop does
the same without them, but for the record of each, and for a line in the log if it is
refused.
-/

mutual

/-- The command with no attempts in what its action does. -/
def Command.withoutStarts : Command → Command
  | .add text withSeconds action => .add text withSeconds action.withoutStarts
  | .addSchedule text withSeconds action => .addSchedule text withSeconds action.withoutStarts
  | .make text withSeconds action => .make text withSeconds action.withoutStarts
  | command => command

/-- The script without its attempts. -/
def Script.withoutStarts : Script → Script
  | ⟨failureAtLaunch, cost, commands, failure⟩ =>
      ⟨failureAtLaunch, cost, dropStarts commands, failure⟩

/-- The action without its attempts. -/
def Action.withoutStarts : Action → Action
  | .scripted isAsync first later =>
      .scripted isAsync (Script.allWithoutStarts first) later.withoutStarts
  | .shell isAsync command directory => .shell isAsync command directory

/-- Scripts without their attempts. -/
def Script.allWithoutStarts : List Script → List Script
  | [] => []
  | script :: scripts => script.withoutStarts :: Script.allWithoutStarts scripts

/-- The commands that are no attempts. -/
def dropStarts : List Command → List Command
  | [] => []
  | .startWithin _ :: commands => dropStarts commands
  | command :: commands => command.withoutStarts :: dropStarts commands

end

namespace Action

@[simp]
theorem isAsync_withoutStarts
    (action : Action) :
    action.withoutStarts.isAsync = action.isAsync := by
  cases action <;> simp [Action.withoutStarts, Action.isAsync]

end Action

namespace Script

theorem allWithoutStarts_eq_map
    (scripts : List Script) :
    allWithoutStarts scripts = scripts.map withoutStarts := by
  induction scripts with
  | nil => simp [allWithoutStarts]
  | cons script scripts inductionHypothesis => simp [allWithoutStarts, inductionHypothesis]

/-- In each turn an action does the same as before, without the attempts. -/
theorem ofTurn_withoutStarts
    (first : List Script)
    (later : Script)
    (turn : Nat) :
    ofTurn (allWithoutStarts first) later.withoutStarts turn =
      (ofTurn first later turn).withoutStarts := by
  rw [allWithoutStarts_eq_map]
  simp only [ofTurn, List.getD_eq_getElem?_getD, List.getElem?_map]
  cases first[turn - 1]? <;> rfl

end Script

/-- The task without the attempts of its action. -/
def Task.withoutStarts (task : Task) : Task :=
  { task with action := task.action.withoutStarts }

/-- The happening without its attempts. -/
def Happening.withoutStarts : Happening → Happening
  | .commands list => .commands (dropStarts list)
  | .stop => .stop
  | .cancel => .cancel

def TimedHappening.withoutStarts (happening : TimedHappening) : TimedHappening :=
  { happening with happening := happening.happening.withoutStarts }

/-- The place of a happening in a script does not depend on what happens. -/
theorem TimedHappening.map_insertInto
    (happening : TimedHappening)
    (script : List TimedHappening) :
    (happening.insertInto script).map withoutStarts =
      happening.withoutStarts.insertInto (script.map withoutStarts) := by
  induction script with
  | nil => rfl
  | cons next others inductionHypothesis =>
      have sameTimes : happening.withoutStarts.after < next.withoutStarts.after ↔
          happening.after < next.after := Iff.rfl
      simp only [insertInto, List.map_cons, sameTimes]
      split
      · rfl
      · rw [List.map_cons, inductionHypothesis]

def RunRequest.withoutStarts (request : RunRequest) : RunRequest :=
  { request with script := request.script.map TimedHappening.withoutStarts }

def SessionRun.withoutStarts (run : SessionRun) : SessionRun :=
  { run with
    script := run.script.map TimedHappening.withoutStarts
    lastHappening := run.lastHappening.withoutStarts }

/-- The statement without attempts, unless it is one. -/
def Statement.withoutStarts? : Statement → Option Statement
  | .command (.startWithin _) => none
  | .command given => some (.command given.withoutStarts)
  | .run given => some (.run given.withoutStarts)

/-- The record as it is without attempts, unless it is the answer to one. -/
def Record.withoutStarts? : Record → Option Record
  | .answered (.startWithin _) _ => none
  | .answered command reply => some (.answered command.withoutStarts reply)
  | record => some record

namespace Loop

/-- The loop without its tasks, script, callbacks, records and log. -/
def core (loop : Loop) : Loop :=
  { loop with tasks := {}, script := [], onEnter := [], onLeave := [], records := #[], log := #[] }

/-- The tasks, the script, the callbacks and the records of a loop. -/
def rest (loop : Loop) :
    Table Nat Task × List TimedHappening × List (List Command) × List (List Command) ×
      Array Record :=
  (loop.tasks, loop.script, loop.onEnter, loop.onLeave, loop.records)

/-- The other loop has no attempts in it, and is as the first one but for the log and for the
records of attempts. -/
structure Mirrors (loop mirror : Loop) : Prop where
  core : mirror.core = loop.core
  tasks : ∀ id, mirror.tasks.get? id = (loop.tasks.get? id).map Task.withoutStarts
  script : mirror.script = loop.script.map TimedHappening.withoutStarts
  onEnter : mirror.onEnter = loop.onEnter.map dropStarts
  onLeave : mirror.onLeave = loop.onLeave.map dropStarts
  told : mirror.records.toList = loop.records.toList.filterMap Record.withoutStarts?

namespace Mirrors

variable {loop mirror : Loop}

/-- Two results with mirrored loops. -/
theorem exists_results
    {α : Type}
    {first second : Loop × α}
    (same : Mirrors first.1 second.1 ∧ second.2 = first.2) :
    ∃ after afterToo value, first = (after, value) ∧ second = (afterToo, value) ∧
      Mirrors after afterToo :=
  ⟨first.1, second.1, first.2, rfl, Prod.ext rfl same.2, same.1⟩

section Fields

variable (mirrors : Mirrors loop mirror)
include mirrors

theorem options : mirror.options = loop.options :=
  (congrArg Loop.options mirrors.core :)

theorem executor : mirror.executor = loop.executor :=
  (congrArg Loop.executor mirrors.core :)

theorem registry : mirror.registry = loop.registry :=
  (congrArg Loop.registry mirrors.core :)

theorem nextId : mirror.nextId = loop.nextId :=
  (congrArg Loop.nextId mirrors.core :)

theorem running : mirror.running = loop.running :=
  (congrArg Loop.running mirrors.core :)

theorem inProgress : mirror.inProgress = loop.inProgress :=
  (congrArg Loop.inProgress mirrors.core :)

theorem loopCount : mirror.loopCount = loop.loopCount :=
  (congrArg Loop.loopCount mirrors.core :)

theorem signals : mirror.signals = loop.signals :=
  (congrArg Loop.signals mirrors.core :)

theorem clock : mirror.clock = loop.clock :=
  (congrArg Loop.clock mirrors.core :)

theorem uptime : mirror.uptime = loop.uptime :=
  (congrArg Loop.uptime mirrors.core :)

theorem status : mirror.status = loop.status :=
  (congrArg Loop.status mirrors.core :)

theorem stopRequested : mirror.stopRequested = loop.stopRequested :=
  (congrArg Loop.stopRequested mirrors.core :)

theorem refusesStart : mirror.refusesStart = loop.refusesStart :=
  (congrArg Loop.refusesStart mirrors.core :)

/-- Attempts are no dispatches. -/
theorem dispatches : mirror.dispatches = loop.dispatches := by
  funext id
  unfold Loop.dispatches
  rw [← Array.countP_toList, mirrors.told, List.countP_filterMap, ← Array.countP_toList]
  refine List.countP_congr fun record _ => ?_
  cases record with
  | answered command reply => cases command <;> simp [Record.withoutStarts?, Record.isDispatchOf]
  | _ => simp [Record.withoutStarts?, Record.isDispatchOf]

/-- The schedules are the same. -/
theorem schedules : mirror.schedules = loop.schedules := by
  unfold Loop.schedules
  rw [mirrors.registry]
  congr 1
  funext id
  rw [mirrors.tasks, Option.map_map]
  rfl

/-- A change of what mirrors have in common. -/
theorem change
    (change : Loop → Loop)
    (core : ∀ other : Loop, (change other).core = (change other.core).core)
    (rest : ∀ other : Loop, (change other).rest = other.rest) :
    Mirrors (change loop) (change mirror) := by
  simp only [Loop.rest, Prod.mk.injEq] at rest
  obtain ⟨tasks, script, onEnter, onLeave, records⟩ := rest loop
  obtain ⟨tasksToo, scriptToo, onEnterToo, onLeaveToo, recordsToo⟩ := rest mirror
  constructor
  · rw [core mirror, core loop, mirrors.core]
  · rw [tasks, tasksToo]
    exact mirrors.tasks
  · rw [script, scriptToo, mirrors.script]
  · rw [onEnter, onEnterToo, mirrors.onEnter]
  · rw [onLeave, onLeaveToo, mirrors.onLeave]
  · rw [records, recordsToo, mirrors.told]

/-- The logs may differ. -/
theorem log
    (first second : Array LogLine) :
    Mirrors { loop with log := first } { mirror with log := second } :=
  ⟨mirrors.core, mirrors.tasks, mirrors.script, mirrors.onEnter, mirrors.onLeave, mirrors.told⟩

theorem logLine
    (level : LogLevel)
    (text : String) :
    Mirrors (loop.logLine level text) (mirror.logLine level text) := by
  obtain ⟨first, logged⟩ := loop.logLine_shape level text
  obtain ⟨second, loggedToo⟩ := mirror.logLine_shape level text
  rw [logged, loggedToo]
  exact mirrors.log first second

/-- A record that is told of both. -/
theorem record
    {record other : Record}
    (kept : record.withoutStarts? = some other) :
    Mirrors (loop.record record) (mirror.record other) where
  core := mirrors.core
  tasks := mirrors.tasks
  script := mirrors.script
  onEnter := mirrors.onEnter
  onLeave := mirrors.onLeave
  told := by simp [Loop.record, mirrors.told, kept]

/-- The answer to an attempt is not told of the mirror. -/
theorem answer
    (caller : Caller)
    (reply : Reply) :
    Mirrors (loop.record (.answered (.startWithin caller) reply)) mirror where
  core := mirrors.core
  tasks := mirrors.tasks
  script := mirrors.script
  onEnter := mirrors.onEnter
  onLeave := mirrors.onLeave
  told := by simp [Loop.record, mirrors.told, Record.withoutStarts?]

theorem emit
    (event : LoopEvent) :
    Mirrors (loop.emit event) (mirror.emit event) := by
  obtain ⟨first, told⟩ := loop.emit_eq_record event
  obtain ⟨second, toldToo⟩ := mirror.emit_eq_record event
  rw [told, toldToo]
  exact (mirrors.record rfl).log first second

theorem advance
    (span : Int) :
    Mirrors (loop.advance span) (mirror.advance span) :=
  mirrors.change (·.advance span) (fun _ => rfl) (fun _ => rfl)

theorem advanceTo
    (uptime : Int) :
    Mirrors (loop.advanceTo uptime) (mirror.advanceTo uptime) := by
  unfold Loop.advanceTo
  rw [mirrors.uptime]
  exact mirrors.advance _

theorem scriptTo
    (script : List TimedHappening) :
    Mirrors { loop with script := script }
      { mirror with script := script.map TimedHappening.withoutStarts } :=
  ⟨mirrors.core, mirrors.tasks, rfl, mirrors.onEnter, mirrors.onLeave, mirrors.told⟩

theorem setRegistry
    (registry : List Nat) :
    Mirrors { loop with registry := registry } { mirror with registry := registry } :=
  mirrors.change (fun other => { other with registry := registry }) (fun _ => rfl) (fun _ => rfl)

theorem wake : Mirrors loop.wake mirror.wake := by
  refine mirrors.change Loop.wake ?_ ?_ <;> intro other <;>
    cases running : other.running <;> simp [Loop.wake, Loop.core, Loop.rest, running]

theorem stop : Mirrors loop.stop mirror.stop := by
  refine mirrors.change Loop.stop ?_ ?_ <;> intro other <;>
    cases running : other.running <;> simp [Loop.stop, Loop.core, Loop.rest, running]

theorem cancelExternal : Mirrors loop.cancelExternal mirror.cancelExternal :=
  mirrors.change Loop.cancelExternal (fun _ => rfl) (fun _ => rfl)

end Fields

/-! ### Commands -/

section Commands

variable (mirrors : Mirrors loop mirror)
include mirrors

/-- Tasks under an id, the same but for the attempts. -/
theorem insert
    (id : Nat)
    (task : Task) :
    Mirrors { loop with tasks := loop.tasks.insert id task }
      { mirror with tasks := mirror.tasks.insert id task.withoutStarts } where
  core := mirrors.core
  tasks := by
    intro other
    by_cases same : other = id
    · simp only [same, Table.get?_insert_same, Option.map_some]
    · simp only [Table.get?_insert_other _ same]
      exact mirrors.tasks other
  script := mirrors.script
  onEnter := mirrors.onEnter
  onLeave := mirrors.onLeave
  told := mirrors.told

theorem makeTask
    (schedule : Schedule)
    (action : Action) :
    Mirrors (loop.makeTask schedule action).1 (mirror.makeTask schedule action.withoutStarts).1 ∧
      (mirror.makeTask schedule action.withoutStarts).2 =
        (loop.makeTask schedule action).2.withoutStarts := by
  unfold Loop.makeTask
  rw [mirrors.nextId]
  refine ⟨?_, rfl⟩
  exact (mirrors.insert loop.nextId ⟨loop.nextId, schedule, action⟩).change
    (fun other => { other with nextId := loop.nextId + 1 }) (fun _ => rfl) (fun _ => rfl)

theorem register
    (task : Task) :
    Mirrors (loop.register task).1 (mirror.register task.withoutStarts).1 ∧
      (mirror.register task.withoutStarts).2 = (loop.register task).2 := by
  unfold Loop.register
  simp only [Task.withoutStarts, mirrors.registry]
  split
  · exact ⟨mirrors, rfl⟩
  · exact ⟨((mirrors.setRegistry _).wake).emit _, rfl⟩

theorem addTask
    (schedule : Schedule)
    (action : Action) :
    Mirrors (loop.addTask schedule action).1 (mirror.addTask schedule action.withoutStarts).1 ∧
      (mirror.addTask schedule action.withoutStarts).2 =
        (loop.addTask schedule action).2.withoutStarts := by
  obtain ⟨made, same⟩ := mirrors.makeTask schedule action
  refine ⟨?_, same⟩
  have registered := (made.register (loop.makeTask schedule action).2).1
  rw [← same] at registered
  exact registered

theorem addText
    (text : String)
    (withSeconds : Bool)
    (action : Action) :
    Mirrors (loop.addText text withSeconds action).1
        (mirror.addText text withSeconds action.withoutStarts).1 ∧
      (mirror.addText text withSeconds action.withoutStarts).2 =
        (loop.addText text withSeconds action).2.map Task.withoutStarts := by
  unfold Loop.addText
  cases Schedule.parse text withSeconds with
  | error error => exact ⟨mirrors.logLine _ _, rfl⟩
  | ok schedule =>
      obtain ⟨added, same⟩ := mirrors.addTask schedule action
      exact ⟨added, congrArg Except.ok same⟩

theorem addHandle
    (id : Nat) :
    Mirrors (loop.addHandle id).1 (mirror.addHandle id).1 ∧
      (mirror.addHandle id).2 = (loop.addHandle id).2 := by
  unfold Loop.addHandle
  rw [mirrors.tasks]
  cases loop.tasks.get? id with
  | none => exact ⟨mirrors, rfl⟩
  | some task => exact mirrors.register task

/-- The text of a task's schedule is the same. -/
theorem raw
    (id : Nat) :
    (mirror.tasks.get? id).map (fun task => task.schedule.raw) =
      (loop.tasks.get? id).map fun task => task.schedule.raw := by
  rw [mirrors.tasks, Option.map_map]
  rfl

theorem remove
    (id : Nat) :
    Mirrors (loop.remove id).1 (mirror.remove id).1 ∧
      (mirror.remove id).2 = (loop.remove id).2 := by
  unfold Loop.remove
  simp only [mirrors.registry, mirrors.raw]
  split
  · exact ⟨((mirrors.setRegistry _).wake).emit _, rfl⟩
  · exact ⟨mirrors, rfl⟩

theorem removeMany
    (ids : List Nat) :
    Mirrors (loop.removeMany ids).1 (mirror.removeMany ids).1 ∧
      (mirror.removeMany ids).2 = (loop.removeMany ids).2 := by
  unfold Loop.removeMany
  simp only [mirrors.registry]
  refine ⟨?_, trivial⟩
  split
  · exact ((mirrors.setRegistry _).wake).emit _
  · exact (mirrors.setRegistry _).emit _

theorem removeAll :
    Mirrors loop.removeAll.1 mirror.removeAll.1 ∧ mirror.removeAll.2 = loop.removeAll.2 := by
  unfold Loop.removeAll
  simp only [mirrors.registry]
  exact ⟨((mirrors.setRegistry _).wake).emit _, trivial⟩

theorem find?
    (id : Nat) :
    (mirror.find? id).map Task.text = (loop.find? id).map Task.text := by
  unfold Loop.find?
  rw [mirrors.registry, mirrors.tasks]
  split
  · rw [Option.map_map]
    rfl
  · rfl

theorem setSchedule
    (task : Task)
    (schedule : Schedule) :
    Mirrors (loop.setSchedule task schedule) (mirror.setSchedule task.withoutStarts schedule) :=
  mirrors.insert task.id { task with schedule := schedule }

theorem registerConfigured
    (tasks : List TaskConfig)
    (added : Nat) :
    Mirrors (loop.registerConfigured tasks added).1 (mirror.registerConfigured tasks added).1 ∧
      (mirror.registerConfigured tasks added).2 = (loop.registerConfigured tasks added).2 := by
  induction tasks generalizing loop mirror added with
  | nil => exact ⟨mirrors, rfl⟩
  | cons config configs inductionHypothesis =>
      unfold Loop.registerConfigured
      split
      · exact inductionHypothesis (mirrors.logLine _ _) added
      split
      · exact ⟨mirrors.logLine _ _, rfl⟩
      have adds := mirrors.addText config.schedule config.withSeconds
        (.shell config.isAsync config.command config.directory)
      simp only [Action.withoutStarts] at adds
      obtain ⟨sameLoop, sameResult⟩ := adds
      cases result : loop.addText config.schedule config.withSeconds
          (.shell config.isAsync config.command config.directory) with
      | mk after outcome =>
      cases other : mirror.addText config.schedule config.withSeconds
          (.shell config.isAsync config.command config.directory) with
      | mk afterToo outcomeToo =>
      rw [result, other] at sameLoop sameResult
      cases outcome with
      | error error =>
          cases sameResult
          exact ⟨sameLoop.logLine _ _, rfl⟩
      | ok task =>
          cases sameResult
          exact inductionHypothesis (sameLoop.logLine _ _) (added + 1)

/-- What a command other than an attempt does and answers. -/
theorem perform
    {command : Command}
    (noStart : ∀ caller, command ≠ .startWithin caller) :
    Mirrors (loop.perform command).1 (mirror.perform command.withoutStarts).1 ∧
      (mirror.perform command.withoutStarts).2 = (loop.perform command).2 := by
  have replied : ∀ task : Task, madeReply task.withoutStarts = madeReply task := fun task => by
    simp [madeReply, Task.withoutStarts]
  cases command with
  | add text withSeconds action =>
      obtain ⟨sameLoop, sameResult⟩ := mirrors.addText text withSeconds action
      simp only [Loop.perform, Command.withoutStarts]
      cases result : loop.addText text withSeconds action with
      | mk after outcome =>
      cases other : mirror.addText text withSeconds action.withoutStarts with
      | mk afterToo outcomeToo =>
      rw [result, other] at sameLoop sameResult
      cases outcome <;> cases sameResult
      · exact ⟨sameLoop, rfl⟩
      · exact ⟨sameLoop, replied _⟩
  | addSchedule text withSeconds action =>
      simp only [Loop.perform, Command.withoutStarts]
      cases Schedule.parse text withSeconds with
      | error error => exact ⟨mirrors, rfl⟩
      | ok schedule =>
          obtain ⟨added, same⟩ := mirrors.addTask schedule action
          exact ⟨added, (congrArg madeReply same).trans (replied _)⟩
  | make text withSeconds action =>
      simp only [Loop.perform, Command.withoutStarts]
      cases Schedule.parse text withSeconds with
      | error error => exact ⟨mirrors, rfl⟩
      | ok schedule =>
          obtain ⟨made, same⟩ := mirrors.makeTask schedule action
          exact ⟨made, (congrArg madeReply same).trans (replied _)⟩
  | addHandle id => exact (mirrors.addHandle id).imp_right (congrArg Reply.flag)
  | remove id => exact (mirrors.remove id).imp_right (congrArg Reply.flag)
  | removeHandle id => exact (mirrors.remove id).imp_right (congrArg Reply.flag)
  | removeMany ids => exact (mirrors.removeMany ids).imp_right (congrArg Reply.count)
  | removeHandles ids => exact (mirrors.removeMany ids).imp_right (congrArg Reply.count)
  | removeAll => exact mirrors.removeAll.imp_right (congrArg Reply.count)
  | find id => exact ⟨mirrors, congrArg Reply.task (mirrors.find? id)⟩
  | setSchedule id text withSeconds =>
      simp only [Loop.perform, Command.withoutStarts]
      rw [mirrors.tasks]
      cases loop.tasks.get? id with
      | none => exact ⟨mirrors, rfl⟩
      | some task =>
          cases Schedule.parse text withSeconds with
          | error error => exact ⟨mirrors, rfl⟩
          | ok schedule => exact ⟨mirrors.setSchedule task schedule, rfl⟩
  | takeId =>
      refine ⟨?_, congrArg Reply.count mirrors.nextId⟩
      exact mirrors.change (fun other => { other with nextId := other.nextId + 1 })
        (fun _ => rfl) (fun _ => rfl)
  | next base =>
      exact ⟨mirrors, by
        simp only [Loop.perform, Command.withoutStarts, mirrors.schedules]⟩
  | nextAll base limit =>
      exact ⟨mirrors, by
        simp only [Loop.perform, Command.withoutStarts, mirrors.schedules]⟩
  | refresh => exact ⟨mirrors.wake.emit _, rfl⟩
  | stop => exact ⟨mirrors.stop, rfl⟩
  | cancel => exact ⟨mirrors.cancelExternal, rfl⟩
  | setClock clock =>
      refine ⟨?_, rfl⟩
      exact mirrors.change (fun other => { other with clock := clock }) (fun _ => rfl)
        (fun _ => rfl)
  | advance span => exact ⟨mirrors.advance span, rfl⟩
  | status => exact ⟨mirrors, congrArg Reply.status mirrors.status⟩
  | options => exact ⟨mirrors, congrArg Reply.options mirrors.options⟩
  | register tasks =>
      obtain ⟨after, afterToo, outcome, result, other, sameLoop⟩ :=
        exists_results (mirrors.registerConfigured tasks 0)
      simp only [Loop.perform, Command.withoutStarts, result, other]
      cases outcome <;> exact ⟨sameLoop, rfl⟩
  | startWithin caller => exact absurd rfl (noStart caller)

/-- An attempt leaves the loop as it is, but for what is told and logged of it. -/
theorem attempt
    (caller : Caller) :
    Mirrors (loop.execute (.startWithin caller)) mirror := by
  unfold Loop.execute
  simp only [Loop.perform]
  split
  · obtain ⟨log, logged⟩ := loop.logLine_shape .error "Scheduler loop is already running"
    rw [refuseStart, logged]
    exact (mirrors.answer caller _).log log mirror.log
  · exact mirrors.answer caller _

theorem execute
    {command : Command}
    (noStart : ∀ caller, command ≠ .startWithin caller) :
    Mirrors (loop.execute command) (mirror.execute command.withoutStarts) := by
  obtain ⟨performed, same⟩ := mirrors.perform noStart
  unfold Loop.execute
  dsimp only
  rw [same]
  refine performed.record ?_
  cases command <;> first | rfl | exact absurd rfl (noStart _)

theorem executeAll
    (commands : List Command) :
    Mirrors (loop.executeAll commands) (mirror.executeAll (dropStarts commands)) := by
  induction commands generalizing loop mirror with
  | nil => exact mirrors
  | cons command commands inductionHypothesis =>
      by_cases isStart : ∃ caller, command = .startWithin caller
      · obtain ⟨caller, rfl⟩ := isStart
        exact inductionHypothesis (mirrors.attempt caller)
      · have kept : dropStarts (command :: commands) =
            command.withoutStarts :: dropStarts commands := by
          cases command <;> first | rfl | exact absurd ⟨_, rfl⟩ isStart
        rw [kept]
        exact inductionHypothesis (mirrors.execute (not_exists.mp isStart))

end Commands

/-! ### Batches -/

section Batches

variable (mirrors : Mirrors loop mirror)
include mirrors

theorem logDetached
    (id : Nat)
    (failure : Failure) :
    Mirrors (loop.logDetached id failure) (mirror.logDetached id failure) :=
  mirrors.change (·.logDetached id failure) (fun _ => rfl) (fun _ => rfl)

theorem giveLater
    (after : Int)
    (commands : List Command) :
    Mirrors (loop.giveLater after commands) (mirror.giveLater after (dropStarts commands)) := by
  have given := mirrors.scriptTo (TimedHappening.insertInto ⟨after, .commands commands⟩ loop.script)
  rw [TimedHappening.map_insertInto, ← mirrors.script] at given
  exact given

theorem runDetached
    (id : Nat)
    (action : Action) :
    Mirrors (loop.runDetached id action) (mirror.runDetached id action.withoutStarts) := by
  cases action with
  | scripted isAsync first later =>
      simp only [Loop.runDetached, Action.withoutStarts, mirrors.dispatches,
        Script.ofTurn_withoutStarts]
      obtain ⟨failureAtLaunch, cost, commands, failure⟩ :=
        Script.ofTurn first later (loop.dispatches id)
      simp only [Script.withoutStarts]
      have counted :=
        mirrors.change (fun other => { other with detachedRuns := other.detachedRuns + 1 })
          (fun _ => rfl) (fun _ => rfl)
      cases failureAtLaunch with
      | some failure => exact counted.logDetached id failure
      | none =>
          have told :
              Record.withoutStarts? (.launched id loop.clock loop.stopRequested) =
                some (.launched id mirror.clock mirror.stopRequested) := by
            rw [mirrors.clock, mirrors.stopRequested]
            rfl
          have acting := (counted.record told).giveLater (loop.uptime + cost) commands
          rw [← mirrors.uptime] at acting ⊢
          cases failure with
          | none => exact acting
          | some failure => exact acting.logDetached id failure
  | shell isAsync command directory =>
      simp only [Loop.runDetached, Action.withoutStarts, mirrors.dispatches, mirrors.executor]
      cases loop.executor.failure? id (loop.dispatches id) command directory with
      | none => exact mirrors
      | some failure => exact mirrors.logDetached id failure

theorem runAwaited
    (id : Nat)
    (action : Action) :
    Mirrors (loop.runAwaited id action).1 (mirror.runAwaited id action.withoutStarts).1 ∧
      (mirror.runAwaited id action.withoutStarts).2 = (loop.runAwaited id action).2 := by
  cases action with
  | scripted isAsync first later =>
      simp only [Loop.runAwaited, Action.withoutStarts, mirrors.dispatches,
        Script.ofTurn_withoutStarts]
      obtain ⟨failureAtLaunch, cost, commands, failure⟩ :=
        Script.ofTurn first later (loop.dispatches id)
      simp only [Script.withoutStarts, Script.launchFailure?]
      rw [mirrors.clock, mirrors.stopRequested]
      split
      · exact ⟨mirrors, rfl⟩
      · exact ⟨((mirrors.record rfl).advance cost).executeAll commands, rfl⟩
  | shell isAsync command directory =>
      simp only [Loop.runAwaited, Action.withoutStarts, mirrors.dispatches, mirrors.executor]
      exact ⟨mirrors, trivial⟩

theorem runTask
    (id : Nat) :
    Mirrors (loop.runTask id).1 (mirror.runTask id).1 ∧
      (mirror.runTask id).2 = (loop.runTask id).2 := by
  unfold Loop.runTask
  rw [mirrors.tasks]
  cases loop.tasks.get? id with
  | none => exact ⟨mirrors, rfl⟩
  | some task =>
      simp only [Option.map_some, Task.withoutStarts, Action.isAsync_withoutStarts,
        mirrors.options]
      split
      · exact ⟨mirrors.runDetached id task.action, rfl⟩
      · exact mirrors.runAwaited id task.action

theorem runTasks
    (ids : List Nat) :
    Mirrors (loop.runTasks ids).1 (mirror.runTasks ids).1 ∧
      (mirror.runTasks ids).2 = (loop.runTasks ids).2 := by
  induction ids generalizing loop mirror with
  | nil => exact ⟨mirrors, rfl⟩
  | cons id ids inductionHypothesis =>
      unfold Loop.runTasks
      rw [mirrors.stopRequested]
      split
      · exact ⟨mirrors, rfl⟩
      obtain ⟨ran, ranToo, outcome, result, other, sameLoop⟩ :=
        exists_results ((mirrors.emit (.taskDispatched id)).runTask id)
      rw [result, other]
      cases outcome with
      | none => exact inductionHypothesis sameLoop
      | some failure =>
          dsimp only
          rw [sameLoop.options]
          split
          · exact ⟨sameLoop, rfl⟩
          · exact inductionHypothesis (sameLoop.emit _)

theorem enterBatch
    (tasks : List Nat) :
    Mirrors (loop.enterBatch tasks) (mirror.enterBatch tasks) := by
  have told : Mirrors (loop.record (.entered loop.clock tasks))
      (mirror.record (.entered mirror.clock tasks)) := by
    rw [mirrors.clock]
    exact mirrors.record rfl
  have callbacks := told.onEnter
  unfold Loop.enterBatch
  dsimp only
  rw [callbacks]
  cases (loop.record (.entered loop.clock tasks)).onEnter with
  | nil => exact told
  | cons commands others =>
      refine executeAll ?_ commands
      exact ⟨told.core, told.tasks, told.script, rfl, told.onLeave, told.told⟩

theorem leaveBatch
    (entered : Int)
    (tasks : List Nat) :
    Mirrors (loop.leaveBatch entered tasks) (mirror.leaveBatch entered tasks) := by
  have told : Mirrors (loop.record (.left loop.clock entered tasks))
      (mirror.record (.left mirror.clock entered tasks)) := by
    rw [mirrors.clock]
    exact mirrors.record rfl
  have callbacks := told.onLeave
  unfold Loop.leaveBatch
  dsimp only
  rw [callbacks]
  cases (loop.record (.left loop.clock entered tasks)).onLeave with
  | nil => exact told
  | cons commands others =>
      refine executeAll ?_ commands
      exact ⟨told.core, told.tasks, told.script, told.onEnter, rfl, told.told⟩

theorem dispatch
    (tasks : List Nat) :
    Mirrors (loop.dispatch tasks).1 (mirror.dispatch tasks).1 ∧
      (mirror.dispatch tasks).2 = (loop.dispatch tasks).2 := by
  obtain ⟨ran, ranToo, outcome, result, other, sameLoop⟩ :=
    exists_results ((mirrors.enterBatch tasks).runTasks tasks)
  have left := sameLoop.leaveBatch loop.clock tasks
  unfold Loop.dispatch
  dsimp only
  rw [result, other, mirrors.clock]
  cases outcome with
  | some failure => exact ⟨left.logLine _ _, rfl⟩
  | none =>
      refine ⟨?_, rfl⟩
      dsimp only
      rw [left.loopCount]
      let count := (ran.leaveBatch loop.clock tasks).loopCount + 1
      exact (left.change (fun other => { other with loopCount := count }) (fun _ => rfl)
        (fun _ => rfl)).emit _

theorem leaveRun : Mirrors loop.leaveRun mirror.leaveRun :=
  (mirrors.change (fun other => { other with running := false, inProgress := false })
    (fun _ => rfl) (fun _ => rfl)).emit _

theorem scan :
    Mirrors loop.scan.1 mirror.scan.1 ∧ mirror.scan.2 = loop.scan.2 := by
  have changed := mirrors.change
    (fun other =>
      { other with
        cycleCount := other.cycleCount + 1
        signals := other.signals.after (.token .wait .wake) })
    (fun _ => rfl) (fun _ => rfl)
  have same : mirror.scan.2 = loop.scan.2 := by
    unfold Loop.scan
    dsimp only
    rw [mirrors.clock, mirrors.schedules]
  have told :
      Record.withoutStarts? (.scanned (loop.clock / 1000) loop.scan.2) =
        some (.scanned (mirror.clock / 1000) mirror.scan.2) := by
    rw [mirrors.clock, same]
    rfl
  exact ⟨changed.record told, same⟩

theorem happen
    (happening : Happening) :
    Mirrors (loop.happen happening) (mirror.happen happening.withoutStarts) := by
  cases happening with
  | commands commands => exact mirrors.executeAll commands
  | stop => exact mirrors.stop
  | cancel => exact mirrors.cancelExternal

theorem deadline
    (due : OccurrenceGroup) :
    mirror.deadline due = loop.deadline due := by
  unfold Loop.deadline
  rw [mirrors.uptime, mirrors.clock, mirrors.options]

end Batches

end Mirrors

end Loop

/-! ### Runs and sessions -/

namespace Run

/-- The other run has no attempts in it, and stands where the first one does. -/
structure Mirrors (run mirror : Run) : Prop where
  loop : Loop.Mirrors run.loop mirror.loop
  phase : mirror.phase = run.phase

namespace Mirrors

variable {run mirror : Run}

theorem timedOut
    (mirrors : Mirrors run mirror)
    (due : OccurrenceGroup)
    (deadline : Int) :
    Mirrors (run.timedOut due deadline) (mirror.timedOut due deadline) := by
  have waited := mirrors.loop.advanceTo deadline
  refine ⟨waited, ?_⟩
  simp only [Run.timedOut, waited.clock]

theorem interrupted
    (mirrors : Mirrors run mirror) :
    Mirrors run.interrupted mirror.interrupted := by
  unfold Run.interrupted
  rw [mirrors.loop.stopRequested]
  split
  · exact ⟨(mirrors.loop.emit .waitCancelled).leaveRun, rfl⟩
  · exact ⟨mirrors.loop, rfl⟩

theorem afterHappening
    (mirrors : Mirrors run mirror)
    (due : Option (OccurrenceGroup × Int)) :
    Mirrors (run.afterHappening due) (mirror.afterHappening due) := by
  unfold Run.afterHappening
  cases due with
  | none => exact mirrors
  | some plan =>
      dsimp only
      rw [mirrors.loop.uptime, mirrors.loop.signals]
      split
      · exact mirrors.timedOut plan.1 plan.2
      · exact mirrors

theorem wait?
    (mirrors : Mirrors run mirror)
    (due : Option (OccurrenceGroup × Int)) :
    Option.Rel Mirrors (run.wait? due) (mirror.wait? due) := by
  have timesOut :
      Option.Rel Mirrors (due.map fun plan => run.timedOut plan.1 plan.2)
        (due.map fun plan => mirror.timedOut plan.1 plan.2) := by
    cases due with
    | none => exact .none
    | some plan => exact .some (mirrors.timedOut plan.1 plan.2)
  unfold Run.wait?
  rw [mirrors.loop.script]
  cases run.loop.script with
  | nil => exact timesOut
  | cons next others =>
      have sameTime : comesFirst next.withoutStarts due = comesFirst next due := rfl
      simp only [List.map_cons, sameTime]
      split
      · refine .some (afterHappening ?_ due)
        exact ⟨((mirrors.loop.scriptTo others).advanceTo next.after).happen next.happening,
          mirrors.phase⟩
      · exact timesOut

/-- A step of a run, or that there is none. -/
theorem step?
    (mirrors : Mirrors run mirror) :
    Option.Rel Mirrors run.step? mirror.step? := by
  unfold Run.step?
  rw [mirrors.phase, mirrors.loop.stopRequested, mirrors.loop.signals]
  cases run.phase with
  | scanning =>
      obtain ⟨scanned, sameDue⟩ := mirrors.loop.scan
      dsimp only
      split
      · exact .some ⟨mirrors.loop.leaveRun, rfl⟩
      · refine .some ⟨scanned, ?_⟩
        simp only [sameDue, scanned.deadline]
  | waiting due =>
      dsimp only
      split
      · exact .some mirrors.interrupted
      · exact mirrors.wait? due
  | dispatching due =>
      obtain ⟨dispatched, dispatchedToo, outcome, result, other, sameLoop⟩ :=
        Loop.Mirrors.exists_results (mirrors.loop.dispatch due.tasks)
      dsimp only
      rw [result, other]
      cases outcome with
      | none => exact .some ⟨sameLoop, rfl⟩
      | some failure => exact .some ⟨sameLoop.leaveRun, rfl⟩
  | «over» failure => exact .none

theorem runFor
    (mirrors : Mirrors run mirror)
    (steps : Nat) :
    Mirrors (run.runFor steps) (mirror.runFor steps) := by
  induction steps generalizing run mirror with
  | zero => exact mirrors
  | succ steps inductionHypothesis =>
      have stepped := mirrors.step?
      unfold Run.runFor
      cases result : run.step? with
      | none =>
          cases other : mirror.step? with
          | none => exact mirrors
          | some next =>
              rw [result, other] at stepped
              cases stepped
      | some next =>
          cases other : mirror.step? with
          | none =>
              rw [result, other] at stepped
              cases stepped
          | some nextToo =>
              rw [result, other] at stepped
              cases stepped with
              | some both => exact inductionHypothesis both

theorem outcome
    (mirrors : Mirrors run mirror) :
    mirror.outcome = run.outcome := by
  unfold Run.outcome
  rw [mirrors.phase]

end Mirrors

end Run

/-- The order of time does not depend on what happens. -/
theorem SessionRun.request_withoutStarts
    (run : SessionRun) :
    run.withoutStarts.request = run.request.withoutStarts := by
  unfold SessionRun.request RunRequest.withoutStarts
  simp only [SessionRun.withoutStarts, RunRequest.mk.injEq, true_and]
  have sorted := List.map_mergeSort (f := TimedHappening.withoutStarts)
    (l := run.script ++ [⟨run.endsAt, run.lastHappening⟩])
    (r := fun first second => decide (first.after ≤ second.after))
    (s := fun first second => decide (first.after ≤ second.after)) fun _ _ _ _ => rfl
  rw [sorted, List.map_append]
  rfl

namespace Loop

namespace Mirrors

variable {loop mirror : Loop}

/-- An accepted start is accepted of the mirror. -/
theorem start
    (mirrors : Mirrors loop mirror)
    {request : RunRequest}
    {run : Run}
    (accepted : loop.start .another request = .started run) :
    ∃ other,
      mirror.start .another request.withoutStarts = .started other ∧ Run.Mirrors run other := by
  have idle := (start_eq_started accepted).1
  refine ⟨_, start_of_idle (by rw [mirrors.running, mirrors.inProgress]; exact idle) _, ?_⟩
  rw [(start_eq_started accepted).2]
  refine ⟨emit ?_ _, rfl⟩
  have sameSignals :
      freshSignals mirror.signals request.withoutStarts = freshSignals loop.signals request := by
    rw [mirrors.signals]
    rfl
  unfold started
  rw [sameSignals]
  generalize freshSignals loop.signals request = signals
  have begun := mirrors.change
    (fun other =>
      { other with running := true, inProgress := true, uptime := 0, signals := signals })
    (fun _ => rfl) (fun _ => rfl)
  exact begun.scriptTo request.script

theorem start_refused
    (mirrors : Mirrors loop mirror)
    {request : RunRequest}
    {refused : Loop}
    (result : loop.start .another request = .refused refused) :
    ∃ other,
      mirror.start .another request.withoutStarts = .refused other ∧ Mirrors refused other := by
  unfold Loop.start at result ⊢
  rw [mirrors.refusesStart, mirrors.inProgress]
  split at result
  · next busy =>
    rw [if_pos busy]
    cases result
    exact ⟨_, rfl, mirrors.logLine _ _⟩
  · split at result <;> cases result

theorem start_waits
    (mirrors : Mirrors loop mirror)
    {request : RunRequest}
    (result : loop.start .another request = .waits) :
    mirror.start .another request.withoutStarts = .waits := by
  unfold Loop.start at result ⊢
  rw [mirrors.refusesStart, mirrors.inProgress]
  split at result
  · cases result
  · next accepts =>
    rw [if_neg accepts]
    split at result
    · next busy => rw [if_pos busy]
    · cases result

theorem runToEnd
    (mirrors : Mirrors loop mirror)
    (run : SessionRun) :
    Mirrors (loop.runToEnd run) (mirror.runToEnd run.withoutStarts) := by
  have finished :
      ∀ {after afterToo : Loop} (outcome : RunOutcome), Mirrors after afterToo →
        Mirrors (after.record (.finished outcome after.clock after.status))
          (afterToo.record (.finished outcome afterToo.clock afterToo.status)) := by
    intro after afterToo outcome same
    rw [same.clock, same.status]
    exact same.record rfl
  have sameRequest := run.request_withoutStarts
  unfold Loop.runToEnd
  rw [sameRequest]
  cases result : loop.start .another run.request with
  | started started =>
      obtain ⟨other, accepted, same⟩ := mirrors.start result
      have final := same.runFor SessionRun.patience
      rw [accepted]
      dsimp only
      rw [final.outcome]
      exact finished _ final.loop
  | refused refused =>
      obtain ⟨other, alsoRefused, same⟩ := mirrors.start_refused result
      rw [alsoRefused]
      exact finished _ same
  | waits =>
      rw [mirrors.start_waits result]
      exact finished _ mirrors

theorem obey
    (mirrors : Mirrors loop mirror)
    (statement : Statement) :
    Mirrors (loop.obey statement)
      (statement.withoutStarts?.elim mirror fun kept => mirror.obey kept) := by
  cases statement with
  | run run => exact mirrors.runToEnd run
  | command command =>
      by_cases isStart : ∃ caller, command = .startWithin caller
      · obtain ⟨caller, rfl⟩ := isStart
        exact mirrors.attempt caller
      · have kept : Statement.withoutStarts? (.command command) =
            some (.command command.withoutStarts) := by
          cases command <;> first | rfl | exact absurd ⟨_, rfl⟩ isStart
        rw [kept]
        exact mirrors.execute (not_exists.mp isStart)

theorem session
    (mirrors : Mirrors loop mirror)
    (statements : List Statement) :
    Mirrors (loop.session statements)
      (mirror.session (statements.filterMap Statement.withoutStarts?)) := by
  induction statements generalizing loop mirror with
  | nil => exact mirrors
  | cons statement statements inductionHypothesis =>
      have obeyed := mirrors.obey statement
      cases kept : statement.withoutStarts? with
      | none =>
          rw [kept] at obeyed
          rw [List.filterMap_cons_none kept]
          exact inductionHypothesis obeyed
      | some other =>
          rw [kept] at obeyed
          rw [List.filterMap_cons_some kept]
          exact inductionHypothesis obeyed

end Mirrors

/-- A loop without tasks, with no attempts in its script, callbacks and records. -/
def withoutStarts (loop : Loop) : Loop :=
  { loop with
    script := loop.script.map TimedHappening.withoutStarts
    onEnter := loop.onEnter.map dropStarts
    onLeave := loop.onLeave.map dropStarts
    records := (loop.records.toList.filterMap Record.withoutStarts?).toArray }

end Loop

end Cadence
