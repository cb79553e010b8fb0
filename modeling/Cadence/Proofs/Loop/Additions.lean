import Cadence.Proofs.Loop.Seclusion

namespace Cadence

/-!
# Runs to which tasks are added

What happens while a run waits may be mild: harmless tasks are added, the registry
is refreshed, or the run is stopped.  Such a run is timeless, and what was
registered at its begin stays registered with its schedule.
-/

namespace Command

/-- A command that adds a harmless task, or that refreshes the registry. -/
def Mild : Command → Prop
  | add _ _ action => action.Harmless
  | addSchedule _ _ action => action.Harmless
  | refresh => True
  | _ => False

end Command

namespace Happening

/-- A happening without any commands but mild ones. -/
def Mild : Happening → Prop
  | .commands given => ∀ command ∈ given, command.Mild
  | .stop => True
  | .cancel => True

end Happening

namespace Loop

/-- Between two loops harmless tasks are added at most, and no time passes. -/
structure Extends
    (before after : Loop) :
    Prop where
  sameTime : before.SameTime after
  options : after.options = before.options
  script : after.script = before.script
  onEnter : after.onEnter = before.onEnter
  onLeave : after.onLeave = before.onLeave
  nextId : before.nextId ≤ after.nextId
  known : ∀ id < before.nextId, after.tasks.get? id = before.tasks.get? id
  registry : before.registry ⊆ after.registry
  actions :
    ∀ id task, after.tasks.get? id = some task →
      before.tasks.get? id = some task ∨ task.action.Harmless

/-- What leaves a loop untouched adds nothing. -/
theorem Untouched.extends
    {loop next : Loop}
    (untouched : loop.Untouched next) :
    loop.Extends next where
  sameTime := untouched.sameTime
  options := untouched.options
  script := untouched.script
  onEnter := untouched.onEnter
  onLeave := untouched.onLeave
  nextId := untouched.nextId.ge
  known := fun id _ => by rw [untouched.tasks]
  registry := untouched.registry ▸ List.Subset.refl _
  actions := fun id task found => Or.inl (untouched.tasks ▸ found)

namespace Extends

theorem refl
    (loop : Loop) :
    Extends loop loop :=
  (Untouched.refl loop).extends

theorem trans
    {first second third : Loop}
    (before : Extends first second)
    (after : Extends second third) :
    Extends first third where
  sameTime :=
    ⟨after.sameTime.clock.trans before.sameTime.clock,
      after.sameTime.uptime.trans before.sameTime.uptime⟩
  options := after.options.trans before.options
  script := after.script.trans before.script
  onEnter := after.onEnter.trans before.onEnter
  onLeave := after.onLeave.trans before.onLeave
  nextId := before.nextId.trans after.nextId
  known := fun id early =>
    (after.known id (early.trans_le before.nextId)).trans (before.known id early)
  registry := List.Subset.trans before.registry after.registry
  actions := fun id task found => by
    rcases after.actions id task found with old | harmless
    · exact before.actions id task old
    · exact Or.inr harmless

theorem wake
    (loop : Loop) :
    Extends loop loop.wake := by
  obtain ⟨signals, woken⟩ := loop.wake_shape
  rw [woken]
  exact ⟨⟨rfl, rfl⟩, rfl, rfl, rfl, rfl, Nat.le_refl _, fun _ _ => rfl, List.Subset.refl _,
    fun _ _ => Or.inl⟩

theorem stop
    (loop : Loop) :
    Extends loop loop.stop := by
  unfold Loop.stop
  split
  · exact ⟨⟨rfl, rfl⟩, rfl, rfl, rfl, rfl, Nat.le_refl _, fun _ _ => rfl, List.Subset.refl _,
      fun _ _ => Or.inl⟩
  · exact refl loop

theorem makeTask
    (loop : Loop)
    (schedule : Schedule)
    {action : Action}
    (harmless : action.Harmless) :
    Extends loop (loop.makeTask schedule action).1 where
  sameTime := ⟨rfl, rfl⟩
  options := rfl
  script := rfl
  onEnter := rfl
  onLeave := rfl
  nextId := Nat.le_succ _
  known := fun id early => Table.get?_insert_other _ (Nat.ne_of_lt early) _
  registry := List.Subset.refl _
  actions := fun id task found => by
    rcases Table.get?_of_insert found with ⟨-, rfl⟩ | old
    · exact Or.inr harmless
    · exact Or.inl old

theorem register
    (loop : Loop)
    (task : Task) :
    Extends loop (loop.register task).1 := by
  unfold Loop.register
  split
  · exact refl loop
  · have added : Extends loop { loop with registry := loop.registry ++ [task.id] } :=
      ⟨⟨rfl, rfl⟩, rfl, rfl, rfl, rfl, Nat.le_refl _, fun _ _ => rfl, List.subset_append_left _ _,
        fun _ _ => Or.inl⟩
    exact added.trans ((wake _).trans (Untouched.emit _ _).extends)

theorem addTask
    (loop : Loop)
    (schedule : Schedule)
    {action : Action}
    (harmless : action.Harmless) :
    Extends loop (loop.addTask schedule action).1 :=
  (makeTask loop schedule harmless).trans (register _ _)

/-- A mild command. -/
theorem perform
    (loop : Loop)
    {command : Command}
    (mild : command.Mild) :
    Extends loop (loop.perform command).1 := by
  cases command with
  | add text withSeconds action =>
      simp only [Loop.perform, addText]
      cases Schedule.parse text withSeconds with
      | error error => exact (Untouched.logLine loop _ _).extends
      | ok schedule => exact addTask loop schedule mild
  | addSchedule text withSeconds action =>
      simp only [Loop.perform]
      cases Schedule.parse text withSeconds with
      | error error => exact refl loop
      | ok schedule => exact addTask loop schedule mild
  | refresh => exact (wake loop).trans (Untouched.emit _ _).extends
  | _ => exact mild.elim

theorem executeAll
    (loop : Loop)
    {commands : List Command}
    (mild : ∀ command ∈ commands, command.Mild) :
    Extends loop (loop.executeAll commands) := by
  induction commands generalizing loop with
  | nil => exact refl loop
  | cons command commands inductionHypothesis =>
      have performed := perform loop (mild command List.mem_cons_self)
      have answered :
          Extends (loop.perform command).1 (loop.execute command) :=
        Untouched.extends ⟨⟨rfl, rfl⟩, rfl, rfl, rfl, rfl, rfl, rfl, rfl, rfl⟩
      exact (performed.trans answered).trans
        (inductionHypothesis _ fun other present => mild other (List.mem_cons_of_mem _ present))

/-- A mild happening. -/
theorem happen
    (loop : Loop)
    {happening : Happening}
    (mild : happening.Mild) :
    Extends loop (loop.happen happening) := by
  cases happening with
  | commands commands => exact executeAll loop mild
  | stop => exact stop loop
  | cancel =>
      exact ⟨⟨rfl, rfl⟩, rfl, rfl, rfl, rfl, Nat.le_refl _, fun _ _ => rfl, List.Subset.refl _,
        fun _ _ => Or.inl⟩

end Extends

/-- A harmless loop in which a task is registered with a schedule, under an id that is taken. -/
structure Retains
    (loop : Loop)
    (id : Nat)
    (schedule : Schedule) :
    Prop where
  harmless : loop.Harmless
  taken : id < loop.nextId
  registered : (id, schedule) ∈ loop.schedules

/-- What is registered stays so when tasks are added. -/
theorem Retains.extend
    {loop next : Loop}
    {id : Nat}
    {schedule : Schedule}
    (retains : loop.Retains id schedule)
    (extension : loop.Extends next) :
    next.Retains id schedule where
  harmless :=
    { actions := fun other task found => by
        rcases extension.actions other task found with old | harmless
        · exact retains.harmless.actions other task old
        · exact harmless
      onEnter := extension.onEnter.trans retains.harmless.onEnter
      onLeave := extension.onLeave.trans retains.harmless.onLeave
      awaits := extension.options ▸ retains.harmless.awaits
      patient := extension.options ▸ retains.harmless.patient }
  taken := retains.taken.trans_le extension.nextId
  registered := by
    obtain ⟨other, present, found⟩ := List.mem_filterMap.mp retains.registered
    obtain ⟨task, known, same⟩ := Option.map_eq_some_iff.mp found
    obtain ⟨rfl, -⟩ := Prod.mk.inj same
    refine List.mem_filterMap.mpr ⟨other, extension.registry present, ?_⟩
    rw [extension.known other retains.taken]
    exact found

end Loop

namespace Run

/-- A run that retains a task, and to which only mild things happen. -/
structure Gentle
    (run : Run)
    (id : Nat)
    (schedule : Schedule) :
    Prop where
  retains : run.loop.Retains id schedule
  mild : ∀ happening ∈ run.loop.script, happening.happening.Mild

section Steps

variable {run next : Run} {id : Nat} {schedule : Schedule}

/-- Only the tasks, the callbacks and the script of the loop matter. -/
theorem Gentle.extend
    (gentle : run.Gentle id schedule)
    (extension : run.loop.Extends next.loop) :
    next.Gentle id schedule :=
  ⟨gentle.retains.extend extension, fun happening present =>
    gentle.mild happening (extension.script ▸ present)⟩

/-- Time may go on, and the script with it. -/
theorem Gentle.advanceTo
    (gentle : run.Gentle id schedule)
    (script : List TimedHappening)
    (uptime : Int) :
    ({ run.loop with script := script }.advanceTo uptime).Retains id schedule :=
  ⟨⟨gentle.retains.harmless.actions, gentle.retains.harmless.onEnter,
      gentle.retains.harmless.onLeave, gentle.retains.harmless.awaits,
      gentle.retains.harmless.patient⟩,
    gentle.retains.taken, gentle.retains.registered⟩

/-- A gentle run is timeless. -/
theorem Gentle.timeless
    (gentle : run.Gentle id schedule) :
    run.Timeless where
  happening := fun _ happening others _ script => by
    have mild := gentle.mild happening (script ▸ List.mem_cons_self)
    have extension :=
      Loop.Extends.happen ({ run.loop with script := others }.advanceTo happening.after) mild
    exact ⟨extension.sameTime.clock, extension.sameTime.uptime⟩
  batch := fun group _ => (gentle.retains.harmless.dispatch group.tasks).1.sameTime

/-- The end of a wait keeps a run gentle. -/
theorem Gentle.timedOut
    (gentle : run.Gentle id schedule)
    (group : OccurrenceGroup)
    (deadline : Int) :
    (run.timedOut group deadline).Gentle id schedule :=
  ⟨gentle.advanceTo run.loop.script deadline, gentle.mild⟩

/-- What happens in a wait keeps a run gentle. -/
theorem Gentle.happened
    {happening : TimedHappening}
    {others : List TimedHappening}
    (gentle : run.Gentle id schedule)
    (script : run.loop.script = happening :: others) :
    (run.happened happening others).Gentle id schedule := by
  have mild := gentle.mild happening (script ▸ List.mem_cons_self)
  refine ⟨(gentle.advanceTo others happening.after).extend (Loop.Extends.happen _ mild),
    fun other present => ?_⟩
  rw [script_happened] at present
  exact gentle.mild other (script ▸ List.mem_cons_of_mem _ present)

/-- Every step keeps a run gentle. -/
theorem Gentle.step
    (gentle : run.Gentle id schedule)
    (stepped : run.step? = some next) :
    next.Gentle id schedule := by
  have left : ∀ loop : Loop, loop.Extends loop.leaveRun := by
    intro loop
    have idle : loop.Untouched { loop with running := false, inProgress := false } :=
      ⟨⟨rfl, rfl⟩, rfl, rfl, rfl, rfl, rfl, rfl, rfl, rfl⟩
    exact (idle.trans (.emit _ _)).extends
  cases moves_of_step? stepped with
  | finish => exact gentle.extend (left _)
  | scan =>
      exact gentle.extend
        ⟨⟨rfl, rfl⟩, rfl, rfl, rfl, rfl, Nat.le_refl _, fun _ _ => rfl, List.Subset.refl _,
          fun _ _ => Or.inl⟩
  | quit =>
      exact gentle.extend ((Loop.Untouched.emit _ _).extends.trans (left _))
  | wake => exact gentle.extend (.refl _)
  | happen due waiting pending happening others script => exact gentle.happened script
  | outlast group deadline waiting pending happening others script =>
      exact (gentle.happened script).timedOut group deadline
  | timeOut group deadline => exact gentle.timedOut group deadline
  | batch group dispatching dispatched result =>
      have runs := (gentle.retains.harmless.dispatch group.tasks).1.extends
      rw [result] at runs
      exact gentle.extend runs
  | fail group dispatching dispatched failure result =>
      have runs := (gentle.retains.harmless.dispatch group.tasks).1.extends
      rw [result] at runs
      exact gentle.extend (runs.trans (left _))

/-- A run that begins gently stays so. -/
theorem gentle_runFor
    (gentle : run.Gentle id schedule)
    (steps : Nat) :
    (run.runFor steps).Gentle id schedule :=
  runFor_induction (motive := fun later => later.Gentle id schedule)
    (fun stepped still => still.step stepped) gentle steps

end Steps

end Run

end Cadence
