import Cadence.Proofs.Loop.Notices

namespace Cadence

/-!
# What disturbs a wait

A call that wakes a running loop tells an event: a task was added or removed, all
tasks were removed, or they were refreshed.  These events are counted.  From one
loop to another they only become more, and as long as none is added, nothing was
done that wakes the loop.

The system clock goes along with the uptime, so that it keeps its lead over it,
unless it is set.
-/

/-- Whether a record tells of a call that wakes a running loop. -/
def Record.wakes : Record → Bool
  | .event (.taskAdded _ _) | .event (.taskRemoved _ _) => true
  | .event (.allTasksRemoved _) | .event .tasksRefreshed => true
  | .event (.tasksRemoved count) => 0 < count
  | _ => false

/-- Whether a deed never wakes the loop, and is no scan. -/
def Deed.Undisturbing : Deed → Prop
  | scan | register _ | remove _ | removeMany _ | removeAll | refresh => False
  | _ => True

namespace Deed.Undisturbing

variable {deed : Deed}

end Deed.Undisturbing

namespace Loop

/-- How many calls have been told that wake a running loop. -/
def wakeups
    (loop : Loop) :
    Nat :=
  loop.records.toList.countP Record.wakes

/-- How far the system clock is ahead of the uptime. -/
def lead
    (loop : Loop) :
    Int :=
  loop.clock - loop.uptime

theorem wakeups_record
    (loop : Loop)
    (record : Record) :
    (loop.record record).wakeups = loop.wakeups + record.wakes.toNat := by
  cases wakes : record.wakes <;> simp [wakeups, Loop.record, wakes]

theorem wakeups_emit
    (loop : Loop)
    (event : LoopEvent) :
    (loop.emit event).wakeups = loop.wakeups + (Record.event event).wakes.toNat := by
  obtain ⟨log, told⟩ := loop.emit_eq_record event
  rw [told]
  exact loop.wakeups_record _

/-- Wake-ups are disclosed from one loop to another: none is forgotten, and if none is added then
nothing was done that wakes the loop. -/
structure Discloses
    (before after : Loop) :
    Prop where
  monotone : before.wakeups ≤ after.wakeups
  undisturbed : after.wakeups = before.wakeups → Proceeds Deed.Undisturbing before after

/-- Wake-ups are disclosed, and the system clock is not set. -/
structure Orderly
    (before after : Loop) :
    Prop extends
    Discloses before after where
  lead : after.lead = before.lead

namespace Discloses

variable {first second third loop next : Loop}

theorem trans
    (before : Discloses first second)
    (after : Discloses second third) :
    Discloses first third where
  monotone := Nat.le_trans before.monotone after.monotone
  undisturbed := fun same => by
    have more := before.monotone
    have evenMore := after.monotone
    exact (before.undisturbed (by omega)).trans (after.undisturbed (by omega))

/-- A deed that tells no wake-up and wakes nobody. -/
theorem does
    {deed : Deed}
    (does : Does loop deed next)
    (undisturbing : deed.Undisturbing)
    (same : next.wakeups = loop.wakeups) :
    Discloses loop next :=
  ⟨Nat.le_of_eq same.symm, fun _ => .single does undisturbing⟩

/-- Nothing of concern is done or recorded. -/
theorem aside
    (unconcerned : Aside loop next)
    (sameRecords : next.records = loop.records) :
    Discloses loop next :=
  does (.aside unconcerned) trivial (by rw [wakeups, sameRecords, wakeups])

/-- Records that tell no wake-up. -/
theorem record
    (loop : Loop)
    {record : Record}
    (quiet : record.wakes = false)
    (unmarked : record.mark? = none) :
    Discloses loop (loop.record record) :=
  does (.aside (.record loop unmarked)) trivial (by simp [wakeups_record, quiet])

end Discloses

namespace Orderly

variable {first second third loop next : Loop}

theorem trans
    (before : Orderly first second)
    (after : Orderly second third) :
    Orderly first third :=
  ⟨before.toDiscloses.trans after.toDiscloses, after.lead.trans before.lead⟩

theorem aside
    (unconcerned : Aside loop next)
    (sameRecords : next.records = loop.records)
    (sameLead : next.lead = loop.lead) :
    Orderly loop next :=
  ⟨.aside unconcerned sameRecords, sameLead⟩

theorem refl
    (loop : Loop) :
    Orderly loop loop :=
  aside (.refl loop) rfl rfl

theorem logLine
    (loop : Loop)
    (level : LogLevel)
    (text : String) :
    Orderly loop (loop.logLine level text) := by
  have unconcerned := Aside.logLine loop level text
  obtain ⟨log, logged⟩ := loop.logLine_shape level text
  rw [logged] at unconcerned ⊢
  exact aside unconcerned rfl rfl

theorem advance
    (loop : Loop)
    (span : Int) :
    Orderly loop (loop.advance span) := by
  refine aside (.advance loop span) rfl ?_
  simp only [Loop.lead, Loop.advance]
  omega

/-- An event that tells no wake-up. -/
theorem emit
    (loop : Loop)
    {event : LoopEvent}
    (quiet : (Record.event event).wakes = false)
    (unmarked : (Record.event event).mark? = none) :
    Orderly loop (loop.emit event) := by
  refine ⟨.does (.aside (.emit loop event unmarked)) trivial ?_, ?_⟩
  · simp [wakeups_emit, quiet]
  · obtain ⟨_, _, told⟩ := loop.emit_shape event
    rw [told]
    rfl

/-- Another registry, with the loop woken and the wake-up told. -/
theorem wake
    (loop : Loop)
    (registry : List Nat)
    {event : LoopEvent}
    (wakes : (Record.event event).wakes = true) :
    Orderly loop ({ loop with registry := registry }.wake.emit event) := by
  have same : ({ loop with registry := registry }.wake).records = loop.records ∧
      ({ loop with registry := registry }.wake).lead = loop.lead := by
    obtain ⟨signals, woken⟩ := wake_shape { loop with registry := registry }
    rw [woken]
    exact ⟨rfl, rfl⟩
  obtain ⟨sameRecords, sameLead⟩ := same
  generalize { loop with registry := registry }.wake = woken at sameRecords sameLead
  have more : (woken.emit event).wakeups = loop.wakeups + 1 := by
    rw [wakeups_emit, wakes, wakeups, sameRecords]
    rfl
  refine ⟨⟨by omega, fun same => by omega⟩, ?_⟩
  obtain ⟨_, _, told⟩ := woken.emit_shape event
  rw [told]
  exact sameLead

theorem makeTask
    (loop : Loop)
    {schedule : Schedule}
    (action : Action)
    (parsed : ∃ text withSeconds, Schedule.parse text withSeconds = .ok schedule) :
    Orderly loop (loop.makeTask schedule action).1 :=
  ⟨.does (.make loop schedule action parsed) trivial rfl, rfl⟩

theorem register
    (loop : Loop)
    (task : Task) :
    Orderly loop (loop.register task).1 := by
  unfold Loop.register
  split
  · exact refl loop
  · exact wake loop _ rfl

theorem addTask
    (loop : Loop)
    {schedule : Schedule}
    (action : Action)
    (parsed : ∃ text withSeconds, Schedule.parse text withSeconds = .ok schedule) :
    Orderly loop (loop.addTask schedule action).1 :=
  (makeTask loop action parsed).trans (register _ _)

theorem addText
    (loop : Loop)
    (text : String)
    (withSeconds : Bool)
    (action : Action) :
    Orderly loop (loop.addText text withSeconds action).1 := by
  unfold Loop.addText
  cases parsed : Schedule.parse text withSeconds with
  | error error => exact logLine _ _ _
  | ok schedule => exact addTask loop action ⟨text, withSeconds, parsed⟩

theorem remove
    (loop : Loop)
    (id : Nat) :
    Orderly loop (loop.remove id).1 := by
  unfold Loop.remove
  split
  · exact wake loop _ rfl
  · exact refl loop

/-- Removing tasks of which none is registered changes nothing but what is told. -/
theorem removeMany
    (loop : Loop)
    (ids : List Nat) :
    Orderly loop (loop.removeMany ids).1 := by
  unfold Loop.removeMany
  simp only
  split
  · next removed => exact wake loop _ (decide_eq_true removed)
  · next none =>
    have absent : ∀ id ∈ loop.registry, id ∉ ids := fun id registered removed =>
      none ((loop.removed_pos_iff ids).mpr ⟨id, removed, registered⟩)
    have whole : (loop.registry.filter fun id => id ∉ ids) = loop.registry :=
      List.filter_eq_self.mpr fun id registered => decide_eq_true (absent id registered)
    rw [whole]
    exact emit loop (by simp [Record.wakes]) rfl

theorem registerConfigured
    (loop : Loop)
    (tasks : List TaskConfig)
    (added : Nat) :
    Orderly loop (loop.registerConfigured tasks added).1 := by
  induction tasks generalizing loop added with
  | nil => exact refl loop
  | cons config configs inductionHypothesis =>
      unfold Loop.registerConfigured
      split
      · exact (logLine _ _ _).trans (inductionHypothesis _ _)
      split
      · exact logLine _ _ _
      have adds := addText loop config.schedule config.withSeconds
        (.shell config.isAsync config.command config.directory)
      split
      · next refused error result =>
        rw [result] at adds
        exact adds.trans (logLine _ _ _)
      · next accepted task result =>
        rw [result] at adds
        exact (adds.trans (logLine _ _ _)).trans (inductionHypothesis _ _)

theorem stop
    (loop : Loop) :
    Orderly loop loop.stop := by
  refine ⟨.does (.stop loop) trivial ?_, ?_⟩ <;> unfold Loop.stop <;> split <;> rfl

theorem cancelExternal
    (loop : Loop) :
    Orderly loop loop.cancelExternal :=
  ⟨.does (.cancel loop) trivial rfl, rfl⟩

/-- No command but one sets the system clock. -/
theorem perform
    (loop : Loop)
    {command : Command}
    (setsNoClock : ∀ clock, command ≠ .setClock clock) :
    Orderly loop (loop.perform command).1 := by
  cases command with
  | add text withSeconds action =>
      have adds := addText loop text withSeconds action
      simp only [Loop.perform]
      split
      all_goals
        next result =>
          rw [result] at adds
          exact adds
  | addSchedule text withSeconds action =>
      simp only [Loop.perform]
      cases parsed : Schedule.parse text withSeconds with
      | error error => exact refl loop
      | ok schedule => exact addTask loop action ⟨text, withSeconds, parsed⟩
  | make text withSeconds action =>
      simp only [Loop.perform]
      cases parsed : Schedule.parse text withSeconds with
      | error error => exact refl loop
      | ok schedule => exact makeTask loop action ⟨text, withSeconds, parsed⟩
  | addHandle id =>
      simp only [Loop.perform, Loop.addHandle]
      cases loop.tasks.get? id with
      | none => exact refl loop
      | some task => exact register loop task
  | remove id => exact remove loop id
  | removeHandle id => exact remove loop id
  | removeMany ids => exact removeMany loop ids
  | removeHandles ids => exact removeMany loop ids
  | removeAll => exact wake loop [] rfl
  | setSchedule id text withSeconds =>
      simp only [Loop.perform]
      cases known : loop.tasks.get? id with
      | none => exact refl loop
      | some task =>
          cases parsed : Schedule.parse text withSeconds with
          | error error => exact refl loop
          | ok schedule =>
              exact ⟨.does (.swap loop task schedule ⟨id, known⟩ ⟨text, withSeconds, parsed⟩)
                trivial rfl, rfl⟩
  | takeId => exact aside ⟨rfl, rfl, rfl, rfl, Nat.le_succ _, rfl, rfl, rfl, rfl, rfl⟩ rfl rfl
  | refresh => exact wake loop loop.registry rfl
  | stop => exact stop loop
  | cancel => exact cancelExternal loop
  | setClock clock => exact absurd rfl (setsNoClock clock)
  | advance span => exact advance loop span
  | register tasks =>
      have registers := registerConfigured loop tasks 0
      simp only [Loop.perform]
      split
      all_goals
        next result =>
          rw [result] at registers
          exact registers
  | startWithin caller =>
      simp only [Loop.perform]
      split
      · exact logLine loop _ _
      · exact refl loop
  | _ => exact refl loop

theorem execute
    (loop : Loop)
    {command : Command}
    (setsNoClock : ∀ clock, command ≠ .setClock clock) :
    Orderly loop (loop.execute command) :=
  (perform loop setsNoClock).trans ⟨.record _ rfl rfl, rfl⟩

end Orderly

namespace Discloses

theorem execute
    (loop : Loop)
    (command : Command) :
    Discloses loop (loop.execute command) := by
  by_cases setsClock : ∃ clock, command = .setClock clock
  · obtain ⟨clock, rfl⟩ := setsClock
    have set : Discloses loop { loop with clock := clock } :=
      .aside ⟨rfl, rfl, rfl, rfl, Nat.le_refl _, rfl, rfl, rfl, rfl, rfl⟩ rfl
    exact set.trans (.record _ rfl rfl)
  · exact (Orderly.execute loop (not_exists.mp setsClock)).toDiscloses

theorem executeAll
    (loop : Loop)
    (commands : List Command) :
    Discloses loop (loop.executeAll commands) := by
  induction commands generalizing loop with
  | nil => exact (Orderly.refl loop).toDiscloses
  | cons command commands inductionHypothesis =>
      exact (execute loop command).trans (inductionHypothesis _)

theorem happen
    (loop : Loop)
    (happening : Happening) :
    Discloses loop (loop.happen happening) := by
  cases happening with
  | commands commands => exact executeAll loop commands
  | stop => exact (Orderly.stop loop).toDiscloses
  | cancel => exact (Orderly.cancelExternal loop).toDiscloses

theorem runAwaited
    (loop : Loop)
    (id : Nat)
    (action : Action) :
    Discloses loop (loop.runAwaited id action).1 := by
  cases action with
  | scripted isAsync first later =>
      simp only [Loop.runAwaited]
      split
      · exact (Orderly.refl loop).toDiscloses
      · exact ((record loop rfl rfl).trans (Orderly.advance _ _).toDiscloses).trans
          (executeAll _ _)
  | shell isAsync command directory => exact (Orderly.refl loop).toDiscloses

theorem runDetached
    (loop : Loop)
    (id : Nat)
    (action : Action) :
    Discloses loop (loop.runDetached id action) := by
  obtain ⟨told, launched, script, runs, log, detached⟩ := loop.runDetached_shape id action
  rw [detached]
  have recorded : Discloses loop told := by
    rcases launched with rfl | rfl
    · exact (Orderly.refl told).toDiscloses
    · exact record loop rfl rfl
  exact recorded.trans (aside ⟨rfl, rfl, rfl, rfl, Nat.le_refl _, rfl, rfl, rfl, rfl, rfl⟩ rfl)

theorem runTask
    (loop : Loop)
    (id : Nat) :
    Discloses loop (loop.runTask id).1 := by
  unfold Loop.runTask
  split
  · exact (Orderly.refl loop).toDiscloses
  · next task _ =>
    split
    · exact runDetached loop id task.action
    · exact runAwaited loop id task.action

theorem runTasks
    (loop : Loop)
    (ids : List Nat) :
    Discloses loop (loop.runTasks ids).1 := by
  induction ids generalizing loop with
  | nil => exact (Orderly.refl loop).toDiscloses
  | cons id ids inductionHypothesis =>
      unfold Loop.runTasks
      split
      · exact (Orderly.refl loop).toDiscloses
      have dispatched : Discloses loop (loop.emit (.taskDispatched id)) :=
        does (.dispatch loop id) trivial (wakeups_emit ..)
      have runs := dispatched.trans (runTask _ id)
      split
      · next ran result =>
        rw [result] at runs
        exact runs.trans (inductionHypothesis ran)
      · next ran failure result =>
        rw [result] at runs
        split
        · exact runs
        · exact (runs.trans (Orderly.emit ran rfl rfl).toDiscloses).trans (inductionHypothesis _)

theorem enterBatch
    (loop : Loop)
    (tasks : List Nat) :
    Discloses loop (loop.enterBatch tasks) := by
  have told : Discloses loop (loop.record (.entered loop.clock tasks)) :=
    does (.enter loop tasks) trivial (wakeups_record ..)
  simp only [Loop.enterBatch]
  split
  · exact told
  · next commands others _ =>
    have kept : Discloses (loop.record (.entered loop.clock tasks))
        { loop.record (.entered loop.clock tasks) with onEnter := others } :=
      aside ⟨rfl, rfl, rfl, rfl, Nat.le_refl _, rfl, rfl, rfl, rfl, rfl⟩ rfl
    exact (told.trans kept).trans (executeAll _ _)

theorem leaveBatch
    (loop : Loop)
    (entered : Int)
    (tasks : List Nat) :
    Discloses loop (loop.leaveBatch entered tasks) := by
  have told : Discloses loop (loop.record (.left loop.clock entered tasks)) :=
    record loop rfl rfl
  simp only [Loop.leaveBatch]
  split
  · exact told
  · next commands others _ =>
    have kept : Discloses (loop.record (.left loop.clock entered tasks))
        { loop.record (.left loop.clock entered tasks) with onLeave := others } :=
      aside ⟨rfl, rfl, rfl, rfl, Nat.le_refl _, rfl, rfl, rfl, rfl, rfl⟩ rfl
    exact (told.trans kept).trans (executeAll _ _)

/-- A batch hides no wake-up. -/
theorem dispatch
    (loop : Loop)
    (tasks : List Nat) :
    Discloses loop (loop.dispatch tasks).1 := by
  have runs := (enterBatch loop tasks).trans (runTasks _ tasks)
  unfold Loop.dispatch
  cases result : (loop.enterBatch tasks).runTasks tasks with
  | mk ran failure =>
      rw [result] at runs
      have leaves := runs.trans (leaveBatch ran loop.clock tasks)
      cases failure with
      | some failure => exact leaves.trans (Orderly.logLine _ _ _).toDiscloses
      | none =>
          have counted : Discloses (ran.leaveBatch loop.clock tasks)
              { ran.leaveBatch loop.clock tasks with
                loopCount := (ran.leaveBatch loop.clock tasks).loopCount + 1 } :=
            aside ⟨rfl, rfl, rfl, rfl, Nat.le_refl _, rfl, rfl, rfl, rfl, rfl⟩ rfl
          exact (leaves.trans counted).trans (Orderly.emit _ rfl rfl).toDiscloses

end Discloses

end Loop

end Cadence
