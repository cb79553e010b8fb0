import Cadence.Loop.Session
import Cadence.Proofs.Loop.Steps

namespace Cadence

/-!
# The course of a loop

Whatever is asked of a loop, by commands, actions, callbacks or happenings, it is
done as a sequence of deeds: scans, batches that are entered and tasks that are
dispatched, changes of the registry, refreshes, stops, cancellations of the
caller's token, tasks that are made or given another schedule, and things that
concern none of these.  A course lists the deeds with the loops that they were
done to.

Every function of the loop has its course, so that what each deed preserves
holds along every run.  The scans, batches and dispatched tasks leave marks in
the records; nothing else does.
-/

/-- What the records show of scans and batches. -/
inductive Mark
  | scanned (base : Int) (due : Option OccurrenceGroup)
  | entered (clock : Int) (tasks : List Nat)
  | dispatched (id : Nat)
  deriving DecidableEq, Repr

/-- The mark that a record is, if it is one. -/
def Record.mark? : Record → Option Mark
  | .scanned base due => some (.scanned base due)
  | .entered clock tasks => some (.entered clock tasks)
  | .event (.taskDispatched id) => some (.dispatched id)
  | _ => none

/-- The marks of a loop, the oldest first. -/
def Loop.marks
    (loop : Loop) :
    List Mark :=
  loop.records.toList.filterMap Record.mark?

/-- What is done to a loop. -/
inductive Deed
  /-- Scans the registry and takes a token of the wake source. -/
  | scan
  | enter (tasks : List Nat)
  | dispatch (id : Nat)
  | register (task : Task)
  | remove (id : Nat)
  | removeMany (ids : List Nat)
  | removeAll
  | refresh
  | stop
  | cancel
  /-- Makes a task without registering it. -/
  | make (schedule : Schedule) (action : Action)
  /-- Gives a task another schedule. -/
  | swap (task : Task) (schedule : Schedule)
  /-- Does what concerns neither tasks nor signals and leaves no mark. -/
  | aside

namespace Deed

/-- Whether a deed changes the registry or refreshes it. -/
def Effective
    (loop : Loop) :
    Deed → Prop
  | register task => task.id ∉ loop.registry
  | remove id => id ∈ loop.registry
  | removeMany ids => ∃ id ∈ ids, id ∈ loop.registry
  | removeAll => True
  | refresh => True
  | _ => False

/-- Whether a deed is none of those that only a run does. -/
def Background : Deed → Prop
  | scan | enter _ | dispatch _ => False
  | _ => True

end Deed

namespace Loop

/-- The marks are those before and that of the record. -/
theorem marks_record
    (loop : Loop)
    (record : Record) :
    (loop.record record).marks = loop.marks ++ record.mark?.toList := by
  cases mark : record.mark? <;> simp [marks, Loop.record, mark]

@[simp] theorem marks_logLine
    (loop : Loop)
    (level : LogLevel)
    (text : String) :
    (loop.logLine level text).marks = loop.marks := by
  unfold Loop.logLine
  split <;> rfl

/-- Only the records and the log grow when an event is told. -/
theorem emit_shape
    (loop : Loop)
    (event : LoopEvent) :
    ∃ records log, loop.emit event = { loop with records := records, log := log } := by
  unfold emit record logLine
  cases loop.listenerThrows.throws loop.records event <;> simp only <;> repeat' split
  all_goals exact ⟨_, _, rfl⟩

theorem marks_emit
    (loop : Loop)
    (event : LoopEvent) :
    (loop.emit event).marks = loop.marks ++ (Record.event event).mark?.toList := by
  unfold Loop.emit
  cases loop.listenerThrows.throws loop.records event <;> simp [marks_record]

/-- Neither tasks nor signals are touched between two loops, and no mark is left. -/
structure Aside
    (before after : Loop) :
    Prop where
  options : after.options = before.options
  executor : after.executor = before.executor
  tasks : after.tasks = before.tasks
  registry : after.registry = before.registry
  nextId : before.nextId ≤ after.nextId
  running : after.running = before.running
  inProgress : after.inProgress = before.inProgress
  cycleCount : after.cycleCount = before.cycleCount
  signals : after.signals = before.signals
  marks : after.marks = before.marks

namespace Aside

theorem refl
    (loop : Loop) :
    Aside loop loop :=
  ⟨rfl, rfl, rfl, rfl, Nat.le_refl _, rfl, rfl, rfl, rfl, rfl⟩

theorem trans
    {first second third : Loop}
    (before : Aside first second)
    (after : Aside second third) :
    Aside first third where
  options := after.options.trans before.options
  executor := after.executor.trans before.executor
  tasks := after.tasks.trans before.tasks
  registry := after.registry.trans before.registry
  nextId := Nat.le_trans before.nextId after.nextId
  running := after.running.trans before.running
  inProgress := after.inProgress.trans before.inProgress
  cycleCount := after.cycleCount.trans before.cycleCount
  signals := after.signals.trans before.signals
  marks := after.marks.trans before.marks

theorem record
    (loop : Loop)
    {record : Record}
    (unmarked : record.mark? = none) :
    Aside loop (loop.record record) :=
  ⟨rfl, rfl, rfl, rfl, Nat.le_refl _, rfl, rfl, rfl, rfl, by simp [marks_record, unmarked]⟩

theorem logLine
    (loop : Loop)
    (level : LogLevel)
    (text : String) :
    Aside loop (loop.logLine level text) := by
  unfold Loop.logLine
  split
  · exact ⟨rfl, rfl, rfl, rfl, Nat.le_refl _, rfl, rfl, rfl, rfl, rfl⟩
  · exact refl loop

theorem emit
    (loop : Loop)
    (event : LoopEvent)
    (unmarked : (Record.event event).mark? = none) :
    Aside loop (loop.emit event) := by
  have told := (logLine loop event.level event.text).trans (record _ unmarked)
  unfold Loop.emit
  cases loop.listenerThrows.throws loop.records event with
  | none => exact told
  | some failure => exact told.trans (logLine _ _ _)

theorem advance
    (loop : Loop)
    (span : Int) :
    Aside loop (loop.advance span) :=
  ⟨rfl, rfl, rfl, rfl, Nat.le_refl _, rfl, rfl, rfl, rfl, rfl⟩

theorem advanceTo
    (loop : Loop)
    (uptime : Int) :
    Aside loop (loop.advanceTo uptime) :=
  advance loop _

/-- What is to happen concerns neither. -/
theorem scriptTo
    (loop : Loop)
    (script : List TimedHappening) :
    Aside loop { loop with script := script } :=
  ⟨rfl, rfl, rfl, rfl, Nat.le_refl _, rfl, rfl, rfl, rfl, rfl⟩

theorem runDetached
    (loop : Loop)
    (id : Nat)
    (action : Action) :
    Aside loop (loop.runDetached id action) := by
  obtain ⟨told, isTold, script, runs, log, shape⟩ := loop.runDetached_shape id action
  have unconcerned : Aside loop told := by
    rcases isTold with rfl | rfl
    · exact refl _
    · exact record loop rfl
  rw [shape]
  exact unconcerned.trans ⟨rfl, rfl, rfl, rfl, Nat.le_refl _, rfl, rfl, rfl, rfl, rfl⟩

end Aside

/-- One deed leads from a loop to the next. -/
inductive Does :
    Loop → Deed → Loop → Prop where
  | scan (loop : Loop) :
      Does loop .scan loop.scan.1
  | enter (loop : Loop) (tasks : List Nat) :
      Does loop (.enter tasks) (loop.record (.entered loop.clock tasks))
  | dispatch (loop : Loop) (id : Nat) :
      Does loop (.dispatch id) (loop.emit (.taskDispatched id))
  | register (loop : Loop) (task : Task)
      (known : ∃ id, loop.tasks.get? id = some task) :
      Does loop (.register task) (loop.register task).1
  | remove (loop : Loop) (id : Nat) :
      Does loop (.remove id) (loop.remove id).1
  | removeMany (loop : Loop) (ids : List Nat) :
      Does loop (.removeMany ids) (loop.removeMany ids).1
  | removeAll (loop : Loop) :
      Does loop .removeAll loop.removeAll.1
  | refresh (loop : Loop) :
      Does loop .refresh loop.refresh
  | stop (loop : Loop) :
      Does loop .stop loop.stop
  | cancel (loop : Loop) :
      Does loop .cancel loop.cancelExternal
  | make (loop : Loop) (schedule : Schedule) (action : Action)
      (parsed : ∃ text withSeconds, Schedule.parse text withSeconds = .ok schedule) :
      Does loop (.make schedule action) (loop.makeTask schedule action).1
  | swap (loop : Loop) (task : Task) (schedule : Schedule)
      (known : ∃ id, loop.tasks.get? id = some task)
      (parsed : ∃ text withSeconds, Schedule.parse text withSeconds = .ok schedule) :
      Does loop (.swap task schedule) (loop.setSchedule task schedule)
  | aside {loop next : Loop}
      (unconcerned : Aside loop next) :
      Does loop .aside next

/-- A sequence of deeds, each with the loop it was done to. -/
inductive Course :
    Loop → List (Loop × Deed) → Loop → Prop where
  | nil (loop : Loop) :
      Course loop [] loop
  | cons
      {loop next last : Loop}
      {deed : Deed}
      {rest : List (Loop × Deed)}
      (first : Does loop deed next)
      (later : Course next rest last) :
      Course loop ((loop, deed) :: rest) last

namespace Course

/-- Courses that meet are one course. -/
theorem append
    {loop middle last : Loop}
    {leading trailing : List (Loop × Deed)}
    (first : Course loop leading middle)
    (later : Course middle trailing last) :
    Course loop (leading ++ trailing) last := by
  induction first with
  | nil => exact later
  | cons deed _ joined => exact .cons deed (joined later)

/-- A course with one more deed. -/
theorem snoc
    {loop middle last : Loop}
    {deeds : List (Loop × Deed)}
    {deed : Deed}
    (course : Course loop deeds middle)
    (final : Does middle deed last) :
    Course loop (deeds ++ [(middle, deed)]) last :=
  course.append (.cons final (.nil last))

/-- A course that is cut in two has a loop in between. -/
theorem split
    {loop last : Loop}
    {leading trailing : List (Loop × Deed)}
    (course : Course loop (leading ++ trailing) last) :
    ∃ middle, Course loop leading middle ∧ Course middle trailing last := by
  induction leading generalizing loop with
  | nil => exact ⟨loop, .nil loop, course⟩
  | cons deed rest inductionHypothesis =>
      cases course with
      | cons first later =>
          obtain ⟨middle, before, after⟩ := inductionHypothesis later
          exact ⟨middle, .cons first before, after⟩

/-- What every deed preserves holds at the end of a course. -/
theorem preserves
    {motive : Loop → Prop}
    (preserved : ∀ {loop next : Loop} {deed : Deed}, Does loop deed next →
      motive loop → motive next)
    {loop last : Loop}
    {deeds : List (Loop × Deed)}
    (course : Course loop deeds last)
    (initially : motive loop) :
    motive last := by
  induction course with
  | nil loop => exact initially
  | cons first later inductionHypothesis =>
      exact inductionHypothesis (preserved first initially)

end Course

/-- No deed is a scan. -/
def ScanFree
    (deeds : List (Loop × Deed)) :
    Prop :=
  ∀ done ∈ deeds, done.2 ≠ .scan

/-- A loop comes from another by deeds of some kind. -/
def Proceeds
    (allowed : Deed → Prop)
    (loop last : Loop) :
    Prop :=
  ∃ deeds, Course loop deeds last ∧ ∀ done ∈ deeds, allowed done.2

namespace Proceeds

variable {allowed : Deed → Prop}

theorem refl
    (loop : Loop) :
    Proceeds allowed loop loop :=
  ⟨[], .nil loop, fun _ none => by cases none⟩

theorem trans
    {first second third : Loop}
    (before : Proceeds allowed first second)
    (after : Proceeds allowed second third) :
    Proceeds allowed first third := by
  obtain ⟨leading, course, free⟩ := before
  obtain ⟨trailing, course', free'⟩ := after
  refine ⟨leading ++ trailing, course.append course', fun done present => ?_⟩
  rcases List.mem_append.mp present with early | late
  · exact free done early
  · exact free' done late

/-- One deed. -/
theorem single
    {loop next : Loop}
    {deed : Deed}
    (does : Does loop deed next)
    (isAllowed : allowed deed) :
    Proceeds allowed loop next :=
  ⟨[(loop, deed)], .cons does (.nil next), fun done present => by
    cases List.mem_singleton.mp present
    exact isAllowed⟩

/-- What is done in the background concerns tasks and signals only, and things of no concern are
done in the background. -/
theorem aside
    {loop next : Loop}
    (unconcerned : Aside loop next) :
    Proceeds Deed.Background loop next :=
  single (.aside unconcerned) trivial

/-- What is done in the background is done without a scan. -/
theorem scanFree
    {loop last : Loop}
    (background : Proceeds Deed.Background loop last) :
    Proceeds (· ≠ .scan) loop last := by
  obtain ⟨deeds, course, allowed⟩ := background
  refine ⟨deeds, course, fun done present isScan => ?_⟩
  have background := allowed done present
  rw [isScan] at background
  exact background

/-- What every deed preserves is preserved. -/
theorem preserves
    {motive : Loop → Prop}
    (preserved : ∀ {loop next : Loop} {deed : Deed}, Does loop deed next →
      motive loop → motive next)
    {loop last : Loop}
    (proceeds : Proceeds allowed loop last)
    (initially : motive loop) :
    motive last := by
  obtain ⟨deeds, course, -⟩ := proceeds
  exact course.preserves preserved initially

end Proceeds

section Commands

/-- A task that was made is known by its id. -/
theorem known_makeTask
    (loop : Loop)
    (schedule : Schedule)
    (action : Action) :
    (loop.makeTask schedule action).1.tasks.get? (loop.makeTask schedule action).2.id =
      some (loop.makeTask schedule action).2 :=
  Table.get?_insert_same _ _ _

theorem proceeds_addTask
    (loop : Loop)
    {schedule : Schedule}
    (action : Action)
    (parsed : ∃ text withSeconds, Schedule.parse text withSeconds = .ok schedule) :
    Proceeds Deed.Background loop (loop.addTask schedule action).1 :=
  (Proceeds.single (.make loop schedule action parsed) trivial).trans
    (.single (.register _ _ ⟨_, loop.known_makeTask schedule action⟩) trivial)

theorem proceeds_addText
    (loop : Loop)
    (text : String)
    (withSeconds : Bool)
    (action : Action) :
    Proceeds Deed.Background loop (loop.addText text withSeconds action).1 := by
  unfold addText
  cases parsed : Schedule.parse text withSeconds with
  | error error => exact .aside (.logLine _ _ _)
  | ok schedule => exact loop.proceeds_addTask action ⟨text, withSeconds, parsed⟩

theorem proceeds_registerConfigured
    (loop : Loop)
    (tasks : List TaskConfig)
    (added : Nat) :
    Proceeds Deed.Background loop (loop.registerConfigured tasks added).1 := by
  induction tasks generalizing loop added with
  | nil => exact .refl loop
  | cons config configs inductionHypothesis =>
      unfold registerConfigured
      split
      · exact (Proceeds.aside (.logLine _ _ _)).trans (inductionHypothesis _ _)
      split
      · exact .aside (.logLine _ _ _)
      have adds := loop.proceeds_addText config.schedule config.withSeconds
        (.shell config.isAsync config.command config.directory)
      split
      · next refused error result =>
        rw [result] at adds
        exact adds.trans (.aside (.logLine _ _ _))
      · next accepted task result =>
        rw [result] at adds
        exact (adds.trans (.aside (.logLine _ _ _))).trans (inductionHypothesis _ _)

/-- Every command has its course. -/
theorem proceeds_perform
    (loop : Loop)
    (command : Command) :
    Proceeds Deed.Background loop (loop.perform command).1 := by
  cases command with
  | add text withSeconds action =>
      have adds := loop.proceeds_addText text withSeconds action
      simp only [perform]
      split
      all_goals
        next result =>
          rw [result] at adds
          exact adds
  | addSchedule text withSeconds action =>
      simp only [perform]
      cases parsed : Schedule.parse text withSeconds with
      | error error => exact .refl loop
      | ok schedule => exact loop.proceeds_addTask action ⟨text, withSeconds, parsed⟩
  | make text withSeconds action =>
      simp only [perform]
      cases parsed : Schedule.parse text withSeconds with
      | error error => exact .refl loop
      | ok schedule =>
          exact .single (.make loop schedule action ⟨text, withSeconds, parsed⟩) trivial
  | addHandle id =>
      simp only [perform, addHandle]
      cases known : loop.tasks.get? id with
      | none => exact .refl loop
      | some task => exact .single (.register loop task ⟨id, known⟩) trivial
  | remove id => exact .single (.remove loop id) trivial
  | removeHandle id => exact .single (.remove loop id) trivial
  | removeMany ids => exact .single (.removeMany loop ids) trivial
  | removeHandles ids => exact .single (.removeMany loop ids) trivial
  | removeAll => exact .single (.removeAll loop) trivial
  | find id => exact .refl loop
  | setSchedule id text withSeconds =>
      simp only [perform]
      cases known : loop.tasks.get? id with
      | none => exact .refl loop
      | some task =>
          cases parsed : Schedule.parse text withSeconds with
          | error error => exact .refl loop
          | ok schedule =>
              exact .single (.swap loop task schedule ⟨id, known⟩ ⟨text, withSeconds, parsed⟩)
                trivial
  | takeId => exact .aside ⟨rfl, rfl, rfl, rfl, Nat.le_succ _, rfl, rfl, rfl, rfl, rfl⟩
  | next base => exact .refl loop
  | nextAll base limit => exact .refl loop
  | refresh => exact .single (.refresh loop) trivial
  | stop => exact .single (.stop loop) trivial
  | cancel => exact .single (.cancel loop) trivial
  | setClock clock => exact .aside ⟨rfl, rfl, rfl, rfl, Nat.le_refl _, rfl, rfl, rfl, rfl, rfl⟩
  | advance span => exact .aside (.advance loop span)
  | status => exact .refl loop
  | options => exact .refl loop
  | register tasks =>
      have registers := loop.proceeds_registerConfigured tasks 0
      simp only [perform]
      split
      all_goals
        next result =>
          rw [result] at registers
          exact registers
  | startWithin caller =>
      simp only [perform]
      split
      · exact .aside (.logLine loop _ _)
      · exact .refl loop

theorem proceeds_execute
    (loop : Loop)
    (command : Command) :
    Proceeds Deed.Background loop (loop.execute command) :=
  (loop.proceeds_perform command).trans (.aside (.record _ rfl))

theorem proceeds_executeAll
    (loop : Loop)
    (commands : List Command) :
    Proceeds Deed.Background loop (loop.executeAll commands) := by
  induction commands generalizing loop with
  | nil => exact .refl loop
  | cons command commands inductionHypothesis =>
      exact (loop.proceeds_execute command).trans (inductionHypothesis _)

end Commands

section Batches

/-- The course of an action that is run to its end. -/
theorem proceeds_runAwaited
    (loop : Loop)
    (id : Nat)
    (action : Action) :
    Proceeds Deed.Background loop (loop.runAwaited id action).1 := by
  cases action with
  | scripted isAsync first later =>
      simp only [runAwaited]
      split
      · exact .refl loop
      · exact (Proceeds.aside ((Aside.record loop rfl).trans (.advance _ _))).trans
          (proceeds_executeAll _ _)
  | shell isAsync command directory => exact .refl loop

theorem proceeds_runTask
    (loop : Loop)
    (id : Nat) :
    Proceeds Deed.Background loop (loop.runTask id).1 := by
  unfold runTask
  split
  · exact .refl loop
  · split
    · exact .aside (.runDetached loop _ _)
    · exact loop.proceeds_runAwaited _ _

theorem proceeds_runTasks
    (loop : Loop)
    (ids : List Nat) :
    Proceeds (· ≠ .scan) loop (loop.runTasks ids).1 := by
  induction ids generalizing loop with
  | nil => exact .refl loop
  | cons id ids inductionHypothesis =>
      unfold runTasks
      split
      · exact .refl loop
      have runs : Proceeds (· ≠ .scan) loop ((loop.emit (.taskDispatched id)).runTask id).1 :=
        (Proceeds.single (.dispatch loop id) (by simp)).trans (proceeds_runTask _ id).scanFree
      split
      · next ran result =>
        rw [result] at runs
        exact runs.trans (inductionHypothesis ran)
      · next ran failure result =>
        rw [result] at runs
        split
        · exact runs
        · exact (runs.trans (Proceeds.aside (.emit ran _ rfl)).scanFree).trans
            (inductionHypothesis _)

theorem proceeds_enterBatch
    (loop : Loop)
    (tasks : List Nat) :
    Proceeds (· ≠ .scan) loop (loop.enterBatch tasks) := by
  have told : Proceeds (· ≠ .scan) loop (loop.record (.entered loop.clock tasks)) :=
    .single (.enter loop tasks) (by simp)
  simp only [enterBatch]
  split
  · exact told
  · next commands others _ =>
    have kept : Aside (loop.record (.entered loop.clock tasks))
        { loop.record (.entered loop.clock tasks) with onEnter := others } :=
      ⟨rfl, rfl, rfl, rfl, Nat.le_refl _, rfl, rfl, rfl, rfl, rfl⟩
    exact told.trans ((Proceeds.aside kept).trans (proceeds_executeAll _ _)).scanFree

theorem proceeds_leaveBatch
    (loop : Loop)
    (entered : Int)
    (tasks : List Nat) :
    Proceeds Deed.Background loop (loop.leaveBatch entered tasks) := by
  have unmarked : Record.mark? (.left loop.clock entered tasks) = none := rfl
  have told := Aside.record loop unmarked
  simp only [leaveBatch]
  split
  · exact .aside told
  · next commands others _ =>
    have kept :
        Aside loop { loop.record (.left loop.clock entered tasks) with onLeave := others } :=
      told.trans ⟨rfl, rfl, rfl, rfl, Nat.le_refl _, rfl, rfl, rfl, rfl, rfl⟩
    exact (Proceeds.aside kept).trans (proceeds_executeAll _ _)

/-- The course of a batch. -/
theorem proceeds_dispatch
    (loop : Loop)
    (tasks : List Nat) :
    Proceeds (· ≠ .scan) loop (loop.dispatch tasks).1 := by
  have runs := (loop.proceeds_enterBatch tasks).trans (proceeds_runTasks _ tasks)
  unfold dispatch
  cases result : (loop.enterBatch tasks).runTasks tasks with
  | mk ran failure =>
      rw [result] at runs
      have leaves := runs.trans (ran.proceeds_leaveBatch loop.clock tasks).scanFree
      cases failure with
      | some failure => exact leaves.trans (Proceeds.aside (.logLine _ _ _)).scanFree
      | none =>
          have counted :
              Aside (ran.leaveBatch loop.clock tasks)
                { ran.leaveBatch loop.clock tasks with
                  loopCount := (ran.leaveBatch loop.clock tasks).loopCount + 1 } :=
            ⟨rfl, rfl, rfl, rfl, Nat.le_refl _, rfl, rfl, rfl, rfl, rfl⟩
          exact leaves.trans (Proceeds.aside (counted.trans (.emit _ _ rfl))).scanFree

theorem proceeds_happen
    (loop : Loop)
    (happening : Happening) :
    Proceeds Deed.Background loop (loop.happen happening) := by
  cases happening with
  | commands commands => exact loop.proceeds_executeAll commands
  | stop => exact .single (.stop loop) trivial
  | cancel => exact .single (.cancel loop) trivial

end Batches

end Loop

namespace Run

/-- A wait that lasted until its deadline only takes time. -/
theorem aside_timedOut
    (run : Run)
    (due : OccurrenceGroup)
    (deadline : Int) :
    Loop.Aside run.loop (run.timedOut due deadline).loop :=
  .advanceTo run.loop deadline

/-- What happens in a wait is done in the background. -/
theorem proceeds_happened
    (run : Run)
    (happening : TimedHappening)
    (others : List TimedHappening) :
    Loop.Proceeds Deed.Background run.loop (run.happened happening others).loop := by
  have told := (Loop.Aside.scriptTo run.loop others).trans (.advanceTo _ happening.after)
  exact (Loop.Proceeds.aside told).trans (Loop.proceeds_happen _ _)

end Run

end Cadence
