import Cadence.Proofs.Loop.Batches

namespace Cadence

/-!
# The actions of tasks

A task that was made stays known, and keeps its action, whatever else is done: only
its schedule may be swapped.  How the task fails may be another matter in each of its
dispatches, but it has nothing to do with the other tasks of a batch: until a task is
dispatched, it is settled how that dispatch will fail.
-/

namespace Loop

/-- How the action of a task fails in one of the task's dispatches, as far as the loop hears of it:
the failure of an asynchronous action is only known if it is awaited. -/
def failureIn
    (loop : Loop)
    (id turn : Nat)
    (action : Action) :
    Option Failure :=
  if action.isAsync && !loop.options.awaitAsync then
    none
  else
    match action with
    | .scripted isAsync first later => (Script.ofTurn first later turn).failure? isAsync
    | .shell _ command directory => loop.executor.failure? id turn command directory

/-- How a task fails when it is dispatched next. -/
def failureOf
    (loop : Loop)
    (id : Nat) :
    Option Failure :=
  (loop.tasks.get? id).bind fun task => loop.failureIn id (loop.dispatches id + 1) task.action

/-- The failure of a task that is run is that of its dispatch. -/
theorem failure_runTask
    (loop : Loop)
    (id : Nat) :
    (loop.runTask id).2 =
      (loop.tasks.get? id).bind fun task => loop.failureIn id (loop.dispatches id) task.action := by
  unfold runTask
  cases loop.tasks.get? id with
  | none => rfl
  | some task =>
      simp only [Option.bind_some, failureIn]
      split
      · rfl
      · cases task.action with
        | scripted isAsync first later =>
            simp only [runAwaited, Script.failure?]
            cases (Script.ofTurn first later (loop.dispatches id)).launchFailure? isAsync <;> rfl
        | shell isAsync command directory => rfl

section Turns

variable {loop next : Loop}

/-- Dispatches are counted by their marks. -/
theorem dispatches_eq_count
    (loop : Loop)
    (id : Nat) :
    loop.dispatches id = loop.marks.count (.dispatched id) := by
  unfold dispatches marks
  rw [← Array.countP_toList, List.count, List.countP_filterMap]
  refine List.countP_congr fun record _ => ?_
  cases record with
  | event event => cases event <;> simp [Record.mark?, Record.isDispatchOf]
  | _ => simp [Record.mark?, Record.isDispatchOf]

/-- Nothing in the background is a dispatch. -/
theorem Proceeds.dispatches
    (proceeds : Proceeds Deed.Background loop next)
    (id : Nat) :
    next.dispatches id = loop.dispatches id := by
  rw [dispatches_eq_count, proceeds.marks, dispatches_eq_count]

theorem dispatches_enterBatch
    (loop : Loop)
    (tasks : List Nat)
    (id : Nat) :
    (loop.enterBatch tasks).dispatches id = loop.dispatches id := by
  simp [dispatches_eq_count, marks_enterBatch]

/-- A dispatch counts for the task that is dispatched, and for no other. -/
theorem dispatches_emit
    (loop : Loop)
    (id other : Nat) :
    (loop.emit (.taskDispatched id)).dispatches other =
      loop.dispatches other + if other = id then 1 else 0 := by
  rw [dispatches_eq_count, marks_emit, List.count_append, dispatches_eq_count]
  by_cases same : other = id
  · simp [Record.mark?, same]
  · simp [Record.mark?, same, Ne.symm same]

end Turns

/-- Ids that are still to be taken belong to no task. -/
def Numbered
    (loop : Loop) :
    Prop :=
  ∀ id task, loop.tasks.get? id = some task → id < loop.nextId

/-- Between two loops all tasks stay known, with their actions, and so does what runs shell
commands. -/
structure Lasting
    (before after : Loop) :
    Prop where
  options : after.options = before.options
  executor : after.executor = before.executor
  actions :
    ∀ id task, before.tasks.get? id = some task →
      ∃ later, after.tasks.get? id = some later ∧ later.action = task.action

namespace Lasting

theorem refl
    (loop : Loop) :
    Lasting loop loop :=
  ⟨rfl, rfl, fun _ task found => ⟨task, found, rfl⟩⟩

theorem trans
    {first second third : Loop}
    (before : Lasting first second)
    (after : Lasting second third) :
    Lasting first third where
  options := after.options.trans before.options
  executor := after.executor.trans before.executor
  actions := fun id task found => by
    obtain ⟨later, foundLater, same⟩ := before.actions id task found
    obtain ⟨last, foundLast, still⟩ := after.actions id later foundLater
    exact ⟨last, foundLast, still.trans same⟩

/-- A task that is known and was not dispatched goes on to fail as it is bound to. -/
theorem failureOf
    {before after : Loop}
    (lasting : Lasting before after)
    {id : Nat}
    (known : (before.tasks.get? id).isSome)
    (sameTurn : after.dispatches id = before.dispatches id) :
    after.failureOf id = before.failureOf id := by
  obtain ⟨task, found⟩ := Option.isSome_iff_exists.mp known
  obtain ⟨later, foundLater, same⟩ := lasting.actions id task found
  simp only [Loop.failureOf, failureIn, found, foundLater, Option.bind_some, same, sameTurn,
    lasting.options, lasting.executor]

/-- The end of a run only concerns the run. -/
theorem leaveRun
    (loop : Loop) :
    Lasting loop loop.leaveRun := by
  have told := Aside.emit { loop with running := false, inProgress := false } .loopStopped rfl
  exact ⟨told.options, told.executor, fun id task found => ⟨task, told.tasks ▸ found, rfl⟩⟩

theorem known
    {before after : Loop}
    (lasting : Lasting before after)
    {id : Nat}
    (known : (before.tasks.get? id).isSome) :
    (after.tasks.get? id).isSome := by
  obtain ⟨task, found⟩ := Option.isSome_iff_exists.mp known
  obtain ⟨later, foundLater, -⟩ := lasting.actions id task found
  exact Option.isSome_iff_exists.mpr ⟨later, foundLater⟩

end Lasting

section Deeds

variable {loop next : Loop} {deed : Deed}

/-- The id of the next task is not touched by another registry, however it is told. -/
theorem nextId_rearrange
    (loop : Loop)
    (registry : List Nat)
    (event : LoopEvent) :
    ({ loop with registry := registry }.wake.emit event).nextId = loop.nextId := by
  obtain ⟨_, _, told⟩ := emit_shape { loop with registry := registry }.wake event
  obtain ⟨_, woken⟩ := wake_shape { loop with registry := registry }
  rw [told, woken]

/-- What a deed may do to the tasks that are known. -/
theorem Does.tasks_cases
    (does : Does loop deed next) :
    (next.tasks = loop.tasks ∧ loop.nextId ≤ next.nextId) ∨
      (∃ schedule action, next = (loop.makeTask schedule action).1) ∨
        ∃ task schedule, (∃ id, loop.tasks.get? id = some task) ∧
          next = loop.setSchedule task schedule := by
  cases does with
  | scan => exact Or.inl ⟨rfl, Nat.le_refl _⟩
  | enter tasks => exact Or.inl ⟨rfl, Nat.le_refl _⟩
  | dispatch id =>
      obtain ⟨_, _, told⟩ := loop.emit_shape (.taskDispatched id)
      rw [told]
      exact Or.inl ⟨rfl, Nat.le_refl _⟩
  | register task known =>
      refine Or.inl ⟨(rearranged (.register loop task known) trivial).tasks, ?_⟩
      unfold Loop.register
      split
      · exact Nat.le_refl _
      · exact (nextId_rearrange _ _ _).ge
  | remove id =>
      refine Or.inl ⟨(rearranged (.remove loop id) trivial).tasks, ?_⟩
      unfold Loop.remove
      split
      · exact (nextId_rearrange _ _ _).ge
      · exact Nat.le_refl _
  | removeMany ids =>
      refine Or.inl ⟨(rearranged (.removeMany loop ids) trivial).tasks, ?_⟩
      unfold Loop.removeMany
      simp only
      split
      · exact (nextId_rearrange _ _ _).ge
      · obtain ⟨_, _, told⟩ := emit_shape
          { loop with registry := loop.registry.filter fun id => id ∉ ids } _
        rw [told]
  | removeAll =>
      exact Or.inl ⟨(rearranged (.removeAll loop) trivial).tasks, (nextId_rearrange _ _ _).ge⟩
  | refresh =>
      refine Or.inl ⟨(rearranged (.refresh loop) trivial).tasks, ?_⟩
      exact (nextId_rearrange loop loop.registry .tasksRefreshed).ge
  | stop =>
      unfold Loop.stop
      split
      · exact Or.inl ⟨rfl, Nat.le_refl _⟩
      · exact Or.inl ⟨rfl, Nat.le_refl _⟩
  | cancel => exact Or.inl ⟨rfl, Nat.le_refl _⟩
  | make schedule action parsed => exact Or.inr (Or.inl ⟨schedule, action, rfl⟩)
  | swap task schedule known parsed => exact Or.inr (Or.inr ⟨task, schedule, known, rfl⟩)
  | aside unconcerned => exact Or.inl ⟨unconcerned.tasks, unconcerned.nextId⟩

/-- Every deed keeps the tasks that are known, and the ids that are still to be taken free. -/
theorem Does.lasting
    (does : Does loop deed next)
    (sound : loop.Sound)
    (numbered : loop.Numbered) :
    Lasting loop next ∧ next.Numbered := by
  have options := does.options_marks.1
  have executor := does.executor
  rcases does.tasks_cases with ⟨same, notLess⟩ | ⟨schedule, action, rfl⟩ |
      ⟨task, schedule, ⟨id, known⟩, rfl⟩
  · refine ⟨⟨options, executor, fun id task found => ⟨task, same ▸ found, rfl⟩⟩,
      fun id task found => ?_⟩
    exact (numbered id task (same ▸ found)).trans_le notLess
  · refine ⟨⟨options, executor, fun id task found => ?_⟩, fun id task found => ?_⟩
    · have other : id ≠ loop.nextId := (numbered id task found).ne
      exact ⟨task, (Table.get?_insert_other _ other _).trans found, rfl⟩
    · rcases Table.get?_of_insert found with ⟨rfl, -⟩ | old
      · exact Nat.lt_succ_self _
      · exact (numbered id task old).trans (Nat.lt_succ_self _)
  · have own : task.id = id := sound.keyed id task known
    refine ⟨⟨options, executor, fun other held found => ?_⟩, fun other held found => ?_⟩
    · by_cases same : other = task.id
      · subst same
        have isTask : held = task := by
          rw [own] at found
          exact Option.some.inj (found.symm.trans known)
        subst isTask
        exact ⟨_, Table.get?_insert_same _ _ _, rfl⟩
      · exact ⟨held, (Table.get?_insert_other _ same _).trans found, rfl⟩
    · rcases Table.get?_of_insert found with ⟨rfl, -⟩ | old
      · exact own ▸ numbered id task known
      · exact numbered other held old

end Deeds

/-- The tasks of a loop are kept well: under their own ids, of which none is still to be taken. -/
structure Catalogued
    (loop : Loop) :
    Prop where
  sound : loop.Sound
  numbered : loop.Numbered

namespace Catalogued

variable {loop next : Loop}

theorem does
    {deed : Deed}
    (does : Does loop deed next)
    (catalogued : loop.Catalogued) :
    next.Catalogued :=
  ⟨does.sound catalogued.sound, (does.lasting catalogued.sound catalogued.numbered).2⟩

theorem leaveRun
    (catalogued : loop.Catalogued) :
    loop.leaveRun.Catalogued := by
  have told := Aside.emit { loop with running := false, inProgress := false } .loopStopped rfl
  refine ⟨catalogued.sound.leaveRun, fun id task found => ?_⟩
  exact (catalogued.numbered id task (told.tasks ▸ found)).trans_le told.nextId

theorem start
    (catalogued : loop.Catalogued)
    {request : RunRequest}
    {run : Run}
    (accepted : loop.start .another request = .started run) :
    run.loop.Catalogued := by
  refine ⟨catalogued.sound.start accepted, ?_⟩
  rw [(start_eq_started accepted).2]
  have told := Aside.emit (loop.started request) .loopStarted rfl
  intro id task found
  exact (catalogued.numbered id task (told.tasks ▸ found)).trans_le told.nextId

/-- What is done keeps the tasks that are known. -/
theorem lasting
    (catalogued : loop.Catalogued)
    {allowed : Deed → Prop}
    (proceeds : Proceeds allowed loop next) :
    next.Catalogued ∧ Lasting loop next :=
  proceeds.preserves (motive := fun later => later.Catalogued ∧ Lasting loop later)
    (fun done kept => ⟨kept.1.does done,
      kept.2.trans (done.lasting kept.1.sound kept.1.numbered).1⟩)
    ⟨catalogued, .refl loop⟩

end Catalogued

/-- The tasks are kept well along every session. -/
theorem catalogued_session
    {loop : Loop}
    (fresh : loop.Fresh)
    (statements : List Statement) :
    (loop.session statements).Catalogued := by
  refine session_preserves (motive := Catalogued) Catalogued.does
    (fun accepted catalogued => catalogued.start accepted) Catalogued.leaveRun
    ⟨sound_session fresh [], fun id task found => ?_⟩ statements
  change loop.tasks.get? id = some task at found
  rw [fresh.tasks] at found
  cases found

end Loop

namespace Run

variable {run next : Run}

/-- Every step keeps the tasks well, and those that are known. -/
theorem lasting_of_step?
    (catalogued : run.loop.Catalogued)
    (stepped : run.step? = some next) :
    next.loop.Catalogued ∧ Loop.Lasting run.loop next.loop := by
  have ends : ∀ {last : Loop}, last.Catalogued → Loop.Lasting run.loop last →
      last.leaveRun.Catalogued ∧ Loop.Lasting run.loop last.leaveRun := fun still lasting =>
    ⟨still.leaveRun, lasting.trans (.leaveRun _)⟩
  cases moves_of_step? stepped with
  | finish => exact ends catalogued (.refl _)
  | scan => exact catalogued.lasting (.single (.scan run.loop) (show Deed.scan = .scan from rfl))
  | quit =>
      obtain ⟨still, lasting⟩ := catalogued.lasting (.aside (.emit run.loop .waitCancelled rfl))
      exact ends still lasting
  | wake => exact ⟨catalogued, .refl run.loop⟩
  | happen due waiting pending happening others =>
      exact catalogued.lasting (run.proceeds_happened happening others)
  | outlast group deadline waiting pending happening others =>
      exact catalogued.lasting ((run.proceeds_happened happening others).trans
        (.aside (aside_timedOut _ group deadline)))
  | timeOut group deadline => exact catalogued.lasting (.aside (run.aside_timedOut group deadline))
  | batch group dispatching dispatched result =>
      have batch := run.loop.proceeds_dispatch group.tasks
      rw [result] at batch
      exact catalogued.lasting batch
  | fail group dispatching dispatched failure result =>
      have batch := run.loop.proceeds_dispatch group.tasks
      rw [result] at batch
      obtain ⟨still, lasting⟩ := catalogued.lasting batch
      exact ends still lasting

/-- The tasks are kept well along every run, and those that are known at one moment stay so. -/
theorem lasting_runFor
    (catalogued : run.loop.Catalogued)
    (steps : Nat) :
    (run.runFor steps).loop.Catalogued ∧ Loop.Lasting run.loop (run.runFor steps).loop :=
  runFor_induction (motive := fun later => later.loop.Catalogued ∧ Loop.Lasting run.loop later.loop)
    (fun stepped kept =>
      have ⟨still, lasting⟩ := lasting_of_step? kept.1 stepped
      ⟨still, kept.2.trans lasting⟩)
    ⟨catalogued, .refl run.loop⟩ steps

/-- Tasks that are known at one moment stay so until a later one. -/
theorem lasting_between
    (catalogued : run.loop.Catalogued)
    {earlier later : Nat}
    (notLater : earlier ≤ later) :
    Loop.Lasting (run.runFor earlier).loop (run.runFor later).loop := by
  have since : run.runFor later = (run.runFor earlier).runFor (later - earlier) := by
    rw [← runFor_add, Nat.add_sub_cancel' notLater]
  rw [since]
  exact (lasting_runFor (lasting_runFor catalogued earlier).1 (later - earlier)).2

end Run

end Cadence
