import Cadence.Proofs.Loop.Batches
import Cadence.Proofs.Loop.Notices

namespace Cadence

/-!
# Batches, task by task

A batch runs its tasks in episodes.  In each of them a task is dispatched, its action
is run, and a failure is told, unless it ends the run.  Before every episode the run is
asked whether it is told to stop, and if so, the rest of the batch is left out.

A batch as a whole is entered, runs its episodes and is left, with the notices of each.
It is counted unless a failure ended it.
-/

namespace Action

/-- Whether the start of an action that is run to its end shows in a turn: not that of a shell
command, nor that of an action which then fails before it has started. -/
def showsStart
    (turn : Nat) :
    Action → Bool
  | scripted isAsync first later => ((Script.ofTurn first later turn).launchFailure? isAsync).isNone
  | shell .. => false

end Action

/-- A task is dispatched in a batch: the loop in which its action begins, and how the action
failed, if that is known. -/
structure Episode where
  id : Nat
  begun : Loop
  failure : Option Failure

namespace Loop

/-- The notices that the run of a task gives: the start of its action, if that shows. -/
def startNotices
    (loop : Loop)
    (id : Nat) :
    List Notice :=
  match loop.tasks.get? id with
  | none => []
  | some task =>
      if task.action.isAsync && !loop.options.awaitAsync then
        []
      else if task.action.showsStart (loop.dispatches id) then
        [.ran id loop.clock loop.stopRequested]
      else
        []

end Loop

namespace Episode

/-- The notices of a failure, unless it ends the run. -/
def failureNotices
    (rethrows : Bool)
    (episode : Episode) :
    List Notice :=
  match episode.failure with
  | some failure => if rethrows then [] else [.failed episode.id failure.message]
  | none => []

/-- The notices of an episode. -/
def notices
    (rethrows : Bool)
    (episode : Episode) :
    List Notice :=
  .dispatched episode.id ::
    (episode.begun.startNotices episode.id ++ episode.failureNotices rethrows)

/-- An episode begins in a run that is not told to stop, and its failure is that of its task. -/
structure Genuine
    (episode : Episode) :
    Prop where
  going : episode.begun.stopRequested = false
  failure : (episode.begun.runTask episode.id).2 = episode.failure

end Episode

namespace Loop

/-- How a loop conducts the tasks of a batch: the episodes, the loop after them, and the failure
that ends the run, if there is one. -/
inductive Conducts :
    Loop → List Nat → List Episode → Loop → Option Failure → Prop where
  /-- No task is left. -/
  | done
      (loop : Loop) :
      Conducts loop [] [] loop none
  /-- The run is told to stop, and the tasks that are left are not dispatched. -/
  | stopped
      {loop : Loop}
      {id : Nat}
      {ids : List Nat}
      (stopped : loop.stopRequested = true) :
      Conducts loop (id :: ids) [] loop none
  /-- A task does not fail, as far as that is known. -/
  | pass
      {loop ran last : Loop}
      {id : Nat}
      {ids : List Nat}
      {episodes : List Episode}
      {outcome : Option Failure}
      (going : loop.stopRequested = false)
      (result : (loop.emit (.taskDispatched id)).runTask id = (ran, none))
      (later : Conducts ran ids episodes last outcome) :
      Conducts loop (id :: ids) (⟨id, loop.emit (.taskDispatched id), none⟩ :: episodes)
        last outcome
  /-- A task fails, and the batch goes on. -/
  | isolate
      {loop ran last : Loop}
      {id : Nat}
      {ids : List Nat}
      {failure : Failure}
      {episodes : List Episode}
      {outcome : Option Failure}
      (going : loop.stopRequested = false)
      (result : (loop.emit (.taskDispatched id)).runTask id = (ran, some failure))
      (isolates : loop.options.rethrowFailures = false)
      (later : Conducts (ran.emit (.taskFailed id failure.message)) ids episodes last outcome) :
      Conducts loop (id :: ids) (⟨id, loop.emit (.taskDispatched id), some failure⟩ :: episodes)
        last outcome
  /-- A task fails, and the run ends with its failure. -/
  | rethrow
      {loop ran : Loop}
      {id : Nat}
      {ids : List Nat}
      {failure : Failure}
      (going : loop.stopRequested = false)
      (result : (loop.emit (.taskDispatched id)).runTask id = (ran, some failure))
      (rethrows : loop.options.rethrowFailures = true) :
      Conducts loop (id :: ids) [⟨id, loop.emit (.taskDispatched id), some failure⟩]
        ran (some failure)

/-- No command changes the options, and neither does an action. -/
theorem options_runTask
    (loop : Loop)
    (id : Nat) :
    (loop.runTask id).1.options = loop.options := by
  obtain ⟨deeds, course, -⟩ := loop.proceeds_runTask id
  exact course.options

theorem options_emit
    (loop : Loop)
    (event : LoopEvent) :
    (loop.emit event).options = loop.options := by
  obtain ⟨_, _, told⟩ := loop.emit_shape event
  rw [told]

/-- A task that is dispatched and run leaves the options as they are. -/
theorem options_dispatched
    {loop ran : Loop}
    {id : Nat}
    {failure : Option Failure}
    (result : (loop.emit (.taskDispatched id)).runTask id = (ran, failure)) :
    ran.options = loop.options := by
  have runs := options_runTask (loop.emit (.taskDispatched id)) id
  rw [result] at runs
  exact runs.trans (loop.options_emit _)

theorem stopRequested_emit
    (loop : Loop)
    (event : LoopEvent) :
    (loop.emit event).stopRequested = loop.stopRequested := by
  obtain ⟨_, _, told⟩ := loop.emit_shape event
  rw [told]
  rfl

/-- The tasks of a batch are conducted. -/
theorem conducts_runTasks
    (loop : Loop)
    (ids : List Nat) :
    ∃ episodes, Conducts loop ids episodes (loop.runTasks ids).1 (loop.runTasks ids).2 := by
  induction ids generalizing loop with
  | nil => exact ⟨[], .done loop⟩
  | cons id ids inductionHypothesis =>
      unfold runTasks
      cases stopped : loop.stopRequested with
      | true => exact ⟨[], .stopped stopped⟩
      | false =>
          simp only [Bool.false_eq_true, ↓reduceIte]
          cases result : (loop.emit (.taskDispatched id)).runTask id with
          | mk ran failure =>
              have options := options_dispatched result
              cases failure with
              | none =>
                  obtain ⟨episodes, later⟩ := inductionHypothesis ran
                  exact ⟨_, .pass stopped result later⟩
              | some failure =>
                  simp only
                  cases rethrows : ran.options.rethrowFailures with
                  | true => exact ⟨_, .rethrow stopped result (options ▸ rethrows)⟩
                  | false =>
                      obtain ⟨episodes, later⟩ :=
                        inductionHypothesis (ran.emit (.taskFailed id failure.message))
                      exact ⟨_, .isolate stopped result (options ▸ rethrows) later⟩

/-- The tasks of a batch are run as they are conducted. -/
theorem Conducts.runTasks_eq
    {loop last : Loop}
    {ids : List Nat}
    {episodes : List Episode}
    {outcome : Option Failure}
    (conducts : Conducts loop ids episodes last outcome) :
    loop.runTasks ids = (last, outcome) := by
  induction conducts with
  | done loop => rfl
  | stopped stopped => simp only [runTasks, stopped, ↓reduceIte]
  | pass going result later inductionHypothesis =>
      simp only [runTasks, going, Bool.false_eq_true, ↓reduceIte, result, inductionHypothesis]
  | isolate going result isolates later inductionHypothesis =>
      simp only [runTasks, going, Bool.false_eq_true, ↓reduceIte, result,
        options_dispatched result, isolates, inductionHypothesis]
  | rethrow going result rethrows =>
      simp only [runTasks, going, Bool.false_eq_true, ↓reduceIte, result,
        options_dispatched result, rethrows]

section Notices

theorem tells_runAwaited
    (loop : Loop)
    (id : Nat)
    (action : Action) :
    Tells loop
      (if action.showsStart (loop.dispatches id) then [.ran id loop.clock loop.stopRequested]
        else [])
      (loop.runAwaited id action).1 := by
  cases action with
  | scripted isAsync first later =>
      generalize scripted : Script.ofTurn first later (loop.dispatches id) = script
      cases launch : script.launchFailure? isAsync with
      | some failure =>
          simp only [runAwaited, Action.showsStart, scripted, launch, Option.isNone_some,
            Bool.false_eq_true, ↓reduceIte]
          exact .refl loop
      | none =>
          simp only [runAwaited, Action.showsStart, scripted, launch, Option.isNone_none,
            ↓reduceIte]
          have started : Tells loop [.ran id loop.clock loop.stopRequested]
              (loop.record (.ran id loop.clock loop.stopRequested)) :=
            .record loop rfl rfl rfl
          exact started.murmurs ((Murmurs.advance _ _).trans (.executeAll _ _))
  | shell isAsync command directory => exact .refl loop

theorem tells_runTask
    (loop : Loop)
    (id : Nat) :
    Tells loop (loop.startNotices id) (loop.runTask id).1 := by
  unfold runTask startNotices
  cases loop.tasks.get? id with
  | none => exact .refl loop
  | some task =>
      simp only
      split
      · exact .runDetached loop id task.action
      · exact loop.tells_runAwaited id task.action

/-- A task that is dispatched and run. -/
theorem tells_dispatched
    (loop : Loop)
    (id : Nat) :
    Tells loop
      (.dispatched id :: (loop.emit (.taskDispatched id)).startNotices id)
      ((loop.emit (.taskDispatched id)).runTask id).1 := by
  have told : Tells loop [.dispatched id] (loop.emit (.taskDispatched id)) := .emit loop rfl rfl
  exact told.trans (tells_runTask _ id)

end Notices

namespace Conducts

variable {loop last : Loop} {ids : List Nat} {episodes : List Episode} {outcome : Option Failure}

/-- What is told is that of the episodes. -/
theorem tells
    (conducts : Conducts loop ids episodes last outcome) :
    Tells loop (episodes.flatMap (Episode.notices loop.options.rethrowFailures)) last := by
  induction conducts with
  | done loop => exact .refl loop
  | stopped => exact .refl _
  | @pass loop ran _ id _ _ _ going result later inductionHypothesis =>
      have runs := loop.tells_dispatched id
      rw [result] at runs
      rw [options_dispatched result] at inductionHypothesis
      simpa [Episode.notices, Episode.failureNotices] using runs.trans inductionHypothesis
  | @isolate loop ran _ id _ failure _ _ going result isolates later inductionHypothesis =>
      have runs := loop.tells_dispatched id
      rw [result] at runs
      rw [options_emit, options_dispatched result] at inductionHypothesis
      have fails : Tells ran [.failed id failure.message]
          (ran.emit (.taskFailed id failure.message)) :=
        .emit ran rfl rfl
      simpa [Episode.notices, Episode.failureNotices, isolates]
        using (runs.trans fails).trans inductionHypothesis
  | @rethrow loop ran id _ failure going result rethrows =>
      have runs := loop.tells_dispatched id
      rw [result] at runs
      simpa [Episode.notices, Episode.failureNotices, rethrows] using runs

/-- The tasks are dispatched in their order. -/
theorem isPrefix
    (conducts : Conducts loop ids episodes last outcome) :
    episodes.map Episode.id <+: ids := by
  induction conducts with
  | done => exact List.prefix_rfl
  | stopped => exact List.nil_prefix
  | pass _ _ _ inductionHypothesis => exact List.cons_prefix_cons.mpr ⟨rfl, inductionHypothesis⟩
  | isolate _ _ _ _ inductionHypothesis =>
      exact List.cons_prefix_cons.mpr ⟨rfl, inductionHypothesis⟩
  | rethrow => exact List.cons_prefix_cons.mpr ⟨rfl, List.nil_prefix⟩

/-- No action begins in a run that is told to stop. -/
theorem genuine
    (conducts : Conducts loop ids episodes last outcome) :
    ∀ episode ∈ episodes, episode.Genuine := by
  induction conducts with
  | done => simp
  | stopped => simp
  | pass going result _ inductionHypothesis =>
      refine List.forall_mem_cons.mpr ⟨⟨?_, by rw [result]⟩, inductionHypothesis⟩
      exact (stopRequested_emit _ _).trans going
  | isolate going result _ _ inductionHypothesis =>
      refine List.forall_mem_cons.mpr ⟨⟨?_, by rw [result]⟩, inductionHypothesis⟩
      exact (stopRequested_emit _ _).trans going
  | rethrow going result =>
      refine List.forall_mem_cons.mpr ⟨⟨?_, by rw [result]⟩, by simp⟩
      exact (stopRequested_emit _ _).trans going

/-- The options stay the same from episode to episode. -/
theorem options
    (conducts : Conducts loop ids episodes last outcome) :
    ∀ episode ∈ episodes, episode.begun.options = loop.options := by
  induction conducts with
  | done => simp
  | stopped => simp
  | pass going result later inductionHypothesis =>
      rw [options_dispatched result] at inductionHypothesis
      exact List.forall_mem_cons.mpr ⟨options_emit _ _, inductionHypothesis⟩
  | isolate going result isolates later inductionHypothesis =>
      rw [options_emit, options_dispatched result] at inductionHypothesis
      exact List.forall_mem_cons.mpr ⟨options_emit _ _, inductionHypothesis⟩
  | rethrow => exact List.forall_mem_cons.mpr ⟨options_emit _ _, by simp⟩

/-- A failure that ends the run is that of the last episode, and the only one. -/
theorem failure_last
    {failure : Failure}
    (conducts : Conducts loop ids episodes last outcome)
    (fails : outcome = some failure) :
    loop.options.rethrowFailures = true ∧
      ∃ front final, episodes = front ++ [final] ∧ final.failure = some failure ∧
        ∀ episode ∈ front, episode.failure = none := by
  induction conducts with
  | done => cases fails
  | stopped => cases fails
  | pass going result later inductionHypothesis =>
      obtain ⟨rethrows, front, final, rfl, isLast, passes⟩ := inductionHypothesis fails
      rw [options_dispatched result] at rethrows
      exact ⟨rethrows, _ :: front, final, rfl, isLast, List.forall_mem_cons.mpr ⟨rfl, passes⟩⟩
  | isolate going result isolates later inductionHypothesis =>
      obtain ⟨rethrows, -⟩ := inductionHypothesis fails
      rw [options_emit, options_dispatched result, isolates] at rethrows
      cases rethrows
  | rethrow going result rethrows => exact ⟨rethrows, [], _, rfl, fails, by simp⟩

/-- If every failure ends the run, and none did, then there was none. -/
theorem passes
    (conducts : Conducts loop ids episodes last outcome)
    (rethrows : loop.options.rethrowFailures = true)
    (goesOn : outcome = none) :
    ∀ episode ∈ episodes, episode.failure = none := by
  induction conducts with
  | done => simp
  | stopped => simp
  | pass going result later inductionHypothesis =>
      rw [← options_dispatched result] at rethrows
      exact List.forall_mem_cons.mpr ⟨rfl, inductionHypothesis rethrows goesOn⟩
  | isolate _ _ isolates => simp [rethrows] at isolates
  | rethrow => cases goesOn

end Conducts

end Loop

/-- A batch as a loop goes through it: the loop that enters it, its tasks, the episodes in which
they are run, the loop after them, and the failure that ends the run, if there is one. -/
structure Batch where
  entry : Loop
  tasks : List Nat
  episodes : List Episode
  ran : Loop
  failure : Option Failure
  conducted : (entry.enterBatch tasks).Conducts tasks episodes ran failure

namespace Batch

/-- The notices of a batch, from its entry to its end. -/
def notices
    (batch : Batch) :
    List Notice :=
  .entered batch.entry.clock batch.tasks ::
    (batch.episodes.flatMap (Episode.notices batch.entry.options.rethrowFailures) ++
      [.left batch.ran.clock batch.entry.clock batch.tasks])

/-- The loop after a batch, before the batch is counted. -/
def left
    (batch : Batch) :
    Loop :=
  batch.ran.leaveBatch batch.entry.clock batch.tasks

/-- Tasks of the batch are dispatched in their order, in a run that is not told to stop; and only
the last of them may fail if failures end the run. -/
structure Orderly
    (batch : Batch) :
    Prop where
  isPrefix : batch.episodes.map Episode.id <+: batch.tasks
  genuine : ∀ episode ∈ batch.episodes, episode.Genuine
  passes :
    batch.failure = none → batch.entry.options.rethrowFailures = true →
      ∀ episode ∈ batch.episodes, episode.failure = none
  fails :
    ∀ failure, batch.failure = some failure →
      batch.entry.options.rethrowFailures = true ∧
        ∃ front final, batch.episodes = front ++ [final] ∧ final.failure = some failure ∧
          ∀ episode ∈ front, episode.failure = none

end Batch

namespace Loop

/-- The callback of the entry of a batch tells nothing else. -/
theorem tells_enterBatch
    (loop : Loop)
    (tasks : List Nat) :
    Tells loop [.entered loop.clock tasks] (loop.enterBatch tasks) := by
  have told : Tells loop [.entered loop.clock tasks] (loop.record (.entered loop.clock tasks)) :=
    .record loop rfl rfl rfl
  simp only [enterBatch]
  split
  · exact told
  · next commands others _ =>
    have kept : Murmurs (loop.record (.entered loop.clock tasks))
        { loop.record (.entered loop.clock tasks) with onEnter := others } :=
      .silent rfl rfl rfl rfl
    exact told.murmurs (kept.trans (.executeAll _ commands))

theorem tells_leaveBatch
    (loop : Loop)
    (since : Int)
    (tasks : List Nat) :
    Tells loop [.left loop.clock since tasks] (loop.leaveBatch since tasks) := by
  have told : Tells loop [.left loop.clock since tasks]
      (loop.record (.left loop.clock since tasks)) :=
    .record loop rfl rfl rfl
  simp only [leaveBatch]
  split
  · exact told
  · next commands others _ =>
    have kept : Murmurs (loop.record (.left loop.clock since tasks))
        { loop.record (.left loop.clock since tasks) with onLeave := others } :=
      .silent rfl rfl rfl rfl
    exact told.murmurs (kept.trans (.executeAll _ commands))

theorem options_enterBatch
    (loop : Loop)
    (tasks : List Nat) :
    (loop.enterBatch tasks).options = loop.options := by
  obtain ⟨deeds, course, -⟩ := loop.proceeds_enterBatch tasks
  exact course.options

/-- Every batch goes through its tasks. -/
theorem exists_batch
    (loop : Loop)
    (tasks : List Nat) :
    ∃ batch : Batch, batch.entry = loop ∧ batch.tasks = tasks := by
  obtain ⟨episodes, conducts⟩ := (loop.enterBatch tasks).conducts_runTasks tasks
  exact ⟨⟨loop, tasks, episodes, _, _, conducts⟩, rfl, rfl⟩

end Loop

namespace Batch

variable (batch : Batch)

theorem orderly :
    batch.Orderly where
  isPrefix := batch.conducted.isPrefix
  genuine := batch.conducted.genuine
  passes := fun goesOn rethrows =>
    batch.conducted.passes ((congrArg _ (Loop.options_enterBatch _ _)).trans rethrows) goesOn
  fails := fun failure isFailure => by
    obtain ⟨rethrows, last⟩ := batch.conducted.failure_last isFailure
    rw [Loop.options_enterBatch] at rethrows
    exact ⟨rethrows, last⟩

/-- A batch tells its notices. -/
theorem tells :
    Loop.Tells batch.entry batch.notices batch.left := by
  have enters := batch.entry.tells_enterBatch batch.tasks
  have runs := batch.conducted.tells
  rw [Loop.options_enterBatch] at runs
  have leaves := batch.ran.tells_leaveBatch batch.entry.clock batch.tasks
  have told := enters.trans (runs.trans leaves)
  rwa [List.singleton_append] at told

/-- The loop after a batch that is counted. -/
def completed :
    Loop :=
  { batch.left with loopCount := batch.left.loopCount + 1 }.emit
    (.batchCompleted (batch.left.loopCount + 1) batch.tasks.length)

theorem dispatch_of_passes
    (passes : batch.failure = none) :
    batch.entry.dispatch batch.tasks = (batch.completed, none) := by
  simp only [Loop.dispatch, batch.conducted.runTasks_eq, passes, completed, left]

theorem dispatch_of_fails
    {failure : Failure}
    (fails : batch.failure = some failure) :
    batch.entry.dispatch batch.tasks =
      (batch.left.logLine .error "Task failure ends the scheduler loop", some failure) := by
  simp only [Loop.dispatch, batch.conducted.runTasks_eq, fails, left]

/-- The notice of a batch that is counted. -/
theorem notices_completed :
    batch.completed.notices =
      batch.entry.notices ++
        (batch.notices ++ [.completed (batch.entry.loopCount + 1) batch.tasks.length]) := by
  have tells := batch.tells
  have before : Loop.notices { batch.left with loopCount := batch.left.loopCount + 1 } =
      batch.entry.notices ++ batch.notices :=
    tells.notices
  rw [completed, Loop.notices_emit, before, tells.loopCount, List.append_assoc]
  rfl

theorem loopCount_completed :
    batch.completed.loopCount = batch.entry.loopCount + 1 := by
  obtain ⟨_, _, told⟩ := Loop.emit_shape { batch.left with loopCount := batch.left.loopCount + 1 }
    (.batchCompleted (batch.left.loopCount + 1) batch.tasks.length)
  rw [completed, told]
  exact congrArg (· + 1) batch.tells.loopCount

/-- A batch is counted if there was a scan for it. -/
theorem counted_completed
    (counted : batch.entry.Counted)
    (scanned : batch.entry.loopCount < batch.entry.cycleCount) :
    batch.completed.Counted := by
  have tells := batch.tells
  refine (tells.counted counted).complete ?_ batch.tasks.length
  rwa [tells.loopCount, tells.cycleCount]

end Batch

end Cadence
