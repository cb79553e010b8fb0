import Cadence.Proofs.Loop.Actions
import Cadence.Proofs.Loop.Protocol

namespace Cadence

/-!
# Failures of tasks

A failure of a task is either isolated or ends the run.  If it is isolated, then it is
told, and the batch goes on with the next task.  If it ends the run, then it is not
told: the batch is left at once without being counted, and the loop is ready for
another run.

The failure of an asynchronous action that is not awaited is never heard of.
-/

/-- The task whose failure is told, and the text of the failure. -/
def Notice.failed? : Notice → Option (Nat × String)
  | .failed id message => some (id, message)
  | _ => none

namespace Loop

/-- The failures of tasks, as far as they fail, with their texts. -/
def failures
    (loop : Loop)
    (ids : List Nat) :
    List (Nat × String) :=
  ids.filterMap fun id => (loop.failureOf id).map fun failure => (id, failure.message)

/-- The run is not told to stop until the tasks of a batch were run. -/
def Unstopped
    (loop : Loop)
    (ids : List Nat) :
    Prop :=
  ((loop.enterBatch ids).runTasks ids).1.stopRequested = false

/-- After a run the loop is idle. -/
theorem idle_leaveRun
    (loop : Loop) :
    loop.leaveRun.running = false ∧ loop.leaveRun.inProgress = false := by
  have told := Aside.emit { loop with running := false, inProgress := false } .loopStopped rfl
  exact ⟨told.running, told.inProgress⟩

/-- A task that is dispatched fails as it is bound to. -/
theorem failure_dispatched
    {loop ran : Loop}
    {id : Nat}
    {failure : Option Failure}
    (result : (loop.emit (.taskDispatched id)).runTask id = (ran, failure)) :
    failure = loop.failureOf id := by
  have fails := failure_runTask (loop.emit (.taskDispatched id)) id
  have turn := loop.dispatches_emit id id
  obtain ⟨_, _, told⟩ := loop.emit_shape (.taskDispatched id)
  rw [turn, if_pos rfl, result, told] at fails
  exact fails

/-- Between two loops tasks are spared: they stay known, and none of them is dispatched. -/
structure Spares
    (before after : Loop)
    (ids : List Nat) :
    Prop where
  lasting : Lasting before after
  turns : ∀ id ∈ ids, after.dispatches id = before.dispatches id

namespace Spares

variable {first second third : Loop} {ids : List Nat}

theorem trans
    (before : Spares first second ids)
    (after : Spares second third ids) :
    Spares first third ids where
  lasting := before.lasting.trans after.lasting
  turns := fun id present => (after.turns id present).trans (before.turns id present)

theorem failureOf
    (spares : Spares first second ids)
    (known : ∀ id ∈ ids, (first.tasks.get? id).isSome)
    {id : Nat}
    (present : id ∈ ids) :
    second.failureOf id = first.failureOf id :=
  spares.lasting.failureOf (known id present) (spares.turns id present)

theorem known
    (spares : Spares first second ids)
    (known : ∀ id ∈ ids, (first.tasks.get? id).isSome) :
    ∀ id ∈ ids, (second.tasks.get? id).isSome :=
  fun id present => spares.lasting.known (known id present)

end Spares

/-- What is done in the background spares every task. -/
theorem Catalogued.background
    {loop next : Loop}
    (catalogued : loop.Catalogued)
    (proceeds : Proceeds Deed.Background loop next)
    (ids : List Nat) :
    next.Catalogued ∧ Spares loop next ids :=
  have ⟨still, lasting⟩ := catalogued.lasting proceeds
  ⟨still, lasting, fun id _ => proceeds.dispatches id⟩

/-- A task that is dispatched and run spares the others. -/
theorem Catalogued.dispatched
    {loop ran : Loop}
    {id : Nat}
    {failure : Option Failure}
    (catalogued : loop.Catalogued)
    (result : (loop.emit (.taskDispatched id)).runTask id = (ran, failure))
    {ids : List Nat}
    (others : id ∉ ids) :
    ran.Catalogued ∧ Spares loop ran ids := by
  have told : Proceeds (· ≠ .scan) loop (loop.emit (.taskDispatched id)) :=
    .single (.dispatch loop id) (by simp)
  have runs := proceeds_runTask (loop.emit (.taskDispatched id)) id
  rw [result] at runs
  obtain ⟨still, lasting⟩ := catalogued.lasting (told.trans runs.scanFree)
  refine ⟨still, lasting, fun other present => ?_⟩
  have isOther : other ≠ id := fun same => others (same ▸ present)
  rw [runs.dispatches, dispatches_emit, if_neg isOther, Nat.add_zero]

/-- A failure that is told spares every task. -/
theorem Catalogued.failed
    {loop : Loop}
    (catalogued : loop.Catalogued)
    (id : Nat)
    (message : String)
    (ids : List Nat) :
    (loop.emit (.taskFailed id message)).Catalogued ∧
      Spares loop (loop.emit (.taskFailed id message)) ids :=
  catalogued.background (.aside (.emit loop (.taskFailed id message) rfl)) ids

namespace Conducts

variable {loop last : Loop} {ids : List Nat} {episodes : List Episode} {outcome : Option Failure}

/-- If the run is not told to stop, then every task is run, unless a failure ends the run. -/
theorem all
    (conducts : Conducts loop ids episodes last outcome)
    (going : last.stopRequested = false)
    (goesOn : outcome = none) :
    episodes.map Episode.id = ids := by
  induction conducts with
  | done => rfl
  | stopped stopped => simp [stopped] at going
  | pass _ _ _ inductionHypothesis =>
      rw [List.map_cons, inductionHypothesis going goesOn]
  | isolate _ _ _ _ inductionHypothesis =>
      rw [List.map_cons, inductionHypothesis going goesOn]
  | rethrow => cases goesOn

/-- Tasks that are run later fail as they are bound to beforehand. -/
theorem failures_later
    {middle : Loop}
    (later : Conducts middle ids episodes last outcome)
    (spares : Spares loop middle ids)
    (known : ∀ id ∈ ids, (loop.tasks.get? id).isSome)
    (bound : ∀ episode ∈ episodes, episode.failure = middle.failureOf episode.id) :
    ∀ episode ∈ episodes, episode.failure = loop.failureOf episode.id := by
  intro episode present
  have member := later.isPrefix.subset (List.mem_map_of_mem present)
  exact (bound episode present).trans (spares.failureOf known member)

/-- The tasks of a batch fail as they are bound to beforehand, each in its own dispatch. -/
theorem failures
    (conducts : Conducts loop ids episodes last outcome)
    (catalogued : loop.Catalogued)
    (known : ∀ id ∈ ids, (loop.tasks.get? id).isSome)
    (distinct : ids.Nodup) :
    ∀ episode ∈ episodes, episode.failure = loop.failureOf episode.id := by
  induction conducts with
  | done => simp
  | stopped => simp
  | pass going result later inductionHypothesis =>
      obtain ⟨isOther, distinct⟩ := List.nodup_cons.mp distinct
      obtain ⟨still, spares⟩ := catalogued.dispatched result isOther
      have others := (List.forall_mem_cons.mp known).2
      exact List.forall_mem_cons.mpr ⟨failure_dispatched result,
        later.failures_later spares others
          (inductionHypothesis still (spares.known others) distinct)⟩
  | @isolate _ _ _ _ ids _ _ _ going result isolates later inductionHypothesis =>
      obtain ⟨isOther, distinct⟩ := List.nodup_cons.mp distinct
      obtain ⟨stillRan, sparesRan⟩ := catalogued.dispatched result isOther
      obtain ⟨still, sparesTold⟩ := stillRan.failed _ _ ids
      have spares := sparesRan.trans sparesTold
      have others := (List.forall_mem_cons.mp known).2
      exact List.forall_mem_cons.mpr ⟨failure_dispatched result,
        later.failures_later spares others
          (inductionHypothesis still (spares.known others) distinct)⟩
  | rethrow going result =>
      exact List.forall_mem_cons.mpr ⟨failure_dispatched result, by simp⟩

/-- If failures end the run, the first task that fails is the last that is run. -/
theorem through
    {front back : List Nat}
    {id : Nat}
    {failure : Failure}
    (conducts : Conducts loop (front ++ id :: back) episodes last outcome)
    (catalogued : loop.Catalogued)
    (known : ∀ other ∈ front ++ id :: back, (loop.tasks.get? other).isSome)
    (distinct : (front ++ id :: back).Nodup)
    (rethrows : loop.options.rethrowFailures = true)
    (going : last.stopRequested = false)
    (passes : ∀ other ∈ front, loop.failureOf other = none)
    (fails : loop.failureOf id = some failure) :
    episodes.map Episode.id = front ++ [id] ∧ outcome = some failure := by
  induction front generalizing loop episodes with
  | nil =>
      cases conducts with
      | stopped stopped => simp [stopped] at going
      | pass goesOn result later =>
          have none := (failure_dispatched result).trans fails
          cases none
      | isolate _ _ isolates => simp [rethrows] at isolates
      | rethrow goesOn result => exact ⟨rfl, (failure_dispatched result).trans fails⟩
  | cons other front inductionHypothesis =>
      obtain ⟨otherPasses, passes⟩ := List.forall_mem_cons.mp passes
      obtain ⟨-, known⟩ := List.forall_mem_cons.mp known
      obtain ⟨isOther, distinct⟩ := List.nodup_cons.mp distinct
      cases conducts with
      | stopped stopped => simp [stopped] at going
      | pass goesOn result later =>
          obtain ⟨still, spares⟩ := catalogued.dispatched result isOther
          obtain ⟨ids, isOutcome⟩ := inductionHypothesis later still (spares.known known) distinct
            ((congrArg _ (options_dispatched result)).trans rethrows)
            (fun later present =>
              (spares.failureOf known (List.mem_append_left _ present)).trans
                (passes later present))
            ((spares.failureOf known (by simp)).trans fails)
          exact ⟨congrArg (other :: ·) ids, isOutcome⟩
      | isolate _ _ isolates => simp [rethrows] at isolates
      | rethrow goesOn result =>
          have some := (failure_dispatched result).trans otherPasses
          cases some

/-- If failures do not end the run, or no task fails, then the run goes on after the batch. -/
theorem goesOn
    (conducts : Conducts loop ids episodes last outcome)
    (bound : ∀ episode ∈ episodes, episode.failure = loop.failureOf episode.id)
    (isolates : loop.options.rethrowFailures = false ∨ ∀ id ∈ ids, loop.failureOf id = none) :
    outcome = none := by
  cases isOutcome : outcome with
  | none => rfl
  | some failure =>
      obtain ⟨rethrows, front, final, rfl, isLast, -⟩ := conducts.failure_last isOutcome
      rcases isolates with isolates | passes
      · simp [rethrows] at isolates
      · have member := conducts.isPrefix.subset (List.mem_map_of_mem (a := final) (by simp))
        rw [bound final (by simp), passes _ member] at isLast
        cases isLast

end Conducts

end Loop

/-- The failure that an episode tells. -/
theorem Episode.failed_notices
    (episode : Episode)
    (rethrows : Bool) :
    (episode.notices rethrows).filterMap Notice.failed? =
      if rethrows then []
      else (episode.failure.map fun failure => (episode.id, failure.message)).toList := by
  have started : (episode.begun.startNotices episode.id).filterMap Notice.failed? = [] := by
    unfold Loop.startNotices
    split
    · rfl
    · split
      · rfl
      · split <;> rfl
  have dispatched : Notice.failed? (.dispatched episode.id) = none := rfl
  rw [Episode.notices, List.filterMap_cons_none dispatched, List.filterMap_append, started,
    List.nil_append, Episode.failureNotices]
  cases episode.failure <;> cases rethrows <;> rfl

/-- The failures that a batch tells. -/
theorem Batch.failed_notices
    (batch : Batch) :
    batch.notices.filterMap Notice.failed? =
      if batch.entry.options.rethrowFailures then []
      else
        batch.episodes.filterMap fun episode =>
          episode.failure.map fun failure => (episode.id, failure.message) := by
  have entered : Notice.failed? (.entered batch.entry.clock batch.tasks) = none := rfl
  have left : Notice.failed? (.left batch.ran.clock batch.entry.clock batch.tasks) = none := rfl
  rw [notices, List.filterMap_cons_none entered, List.filterMap_append,
    List.filterMap_cons_none left, List.filterMap_nil, List.append_nil, List.filterMap_flatMap]
  simp only [Episode.failed_notices]
  cases batch.entry.options.rethrowFailures with
  | true => simp
  | false => simp [List.filterMap_eq_flatMap_toList]

namespace Run

/-- A batch from which the run goes on: each of its tasks is run once, in their order, the failures
of those that fail are told, with their texts, and no others, and the batch is left and counted. -/
structure RunsAll
    (run : Run)
    (batch : Batch)
    (next : Run) :
    Prop where
  all : batch.episodes.map Episode.id = batch.tasks
  distinct : batch.tasks.Nodup
  failures : ∀ episode ∈ batch.episodes, episode.failure = run.loop.failureOf episode.id
  told : batch.notices.filterMap Notice.failed? = run.loop.failures batch.tasks
  notices :
    next.loop.notices =
      run.loop.notices ++
        (batch.notices ++ [.completed (run.loop.loopCount + 1) batch.tasks.length])
  goesOn : next.phase = .scanning
  /-- The next step is another scan, unless the run was told to stop when the batch was left. -/
  scansAgain :
    next.loop.stopRequested = false → ∃ due, next.step?.map Run.phase = some (.waiting due)

/-- A batch that a failure aborts: the tasks up to the one that fails are run, in their order, no
failure is told, the batch is left but not counted, and the run ends with the failure.  Then the
loop accepts every run. -/
structure Aborts
    (run : Run)
    (batch : Batch)
    (upTo : List Nat)
    (failure : Failure)
    (next : Run) :
    Prop where
  through : batch.episodes.map Episode.id = upTo
  failures : ∀ episode ∈ batch.episodes, episode.failure = run.loop.failureOf episode.id
  untold : batch.notices.filterMap Notice.failed? = []
  notices : next.loop.notices = run.loop.notices ++ (batch.notices ++ [.stopped])
  loopCount : next.loop.loopCount = run.loop.loopCount
  outcome : next.outcome = .failed failure
  idle : next.loop.running = false
  restarts : ∀ request, ∃ again, next.loop.start .another request = .started again

/-- Until some moment of a run nothing is heard of failures of a task: none of its dispatches is
known to have failed, none of its failures is told, and if a failure has ended the run, it was that
of another task. -/
structure Unheard
    (first : Run)
    (steps : Nat)
    (id : Nat) :
    Prop where
  passes :
    ∀ batch, first.Entered steps batch →
      ∀ episode ∈ batch.episodes, episode.id = id → episode.failure = none
  untold :
    ∃ told, (first.runFor steps).loop.notices = first.loop.notices ++ told ∧
      ∀ message, .failed id message ∉ told
  others :
    ∀ failure, (first.runFor steps).phase = .over (some failure) →
      ∃ batch, first.Entered steps batch ∧
        ∃ episode ∈ batch.episodes, episode.failure = some failure ∧ episode.id ≠ id

/-- How failures of tasks are treated in a run, in each of its batches that the run is not told to
stop in. -/
structure Contains
    (first : Run) :
    Prop where
  /-- If failures do not end the run, or if there is none, then every task is run and the run goes
  on. -/
  isolated :
    ∀ steps group, (first.runFor steps).phase = .dispatching group →
      (first.runFor steps).loop.Unstopped group.tasks →
      (first.loop.options.rethrowFailures = false ∨
        ∀ id ∈ group.tasks, (first.runFor steps).loop.failureOf id = none) →
      ∃ batch : Batch, batch.entry = (first.runFor steps).loop ∧ batch.tasks = group.tasks ∧
        RunsAll (first.runFor steps) batch (first.runFor (steps + 1))
  /-- If failures end the run, the first task that fails is the last that is run. -/
  aborted :
    ∀ steps group, (first.runFor steps).phase = .dispatching group →
      (first.runFor steps).loop.Unstopped group.tasks →
      first.loop.options.rethrowFailures = true →
      ∀ front id back failure, group.tasks = front ++ id :: back →
        (∀ other ∈ front, (first.runFor steps).loop.failureOf other = none) →
        (first.runFor steps).loop.failureOf id = some failure →
        ∃ batch : Batch, batch.entry = (first.runFor steps).loop ∧ batch.tasks = group.tasks ∧
          Aborts (first.runFor steps) batch (front ++ [id]) failure (first.runFor (steps + 1))
  /-- The failure of an asynchronous action that is not awaited is never heard of, whether failures
  end the run or not, and whether it is told to stop or not. -/
  unheard :
    first.loop.options.awaitAsync = false →
      ∀ steps id task, (first.runFor steps).loop.tasks.get? id = some task →
        task.action.isAsync = true → Unheard first steps id

/-- A run that is about to dispatch tasks: they are known, none of them twice. -/
structure Prepared
    (run : Run)
    (group : OccurrenceGroup) :
    Prop where
  dispatching : run.phase = .dispatching group
  catalogued : run.loop.Catalogued
  known : ∀ id ∈ group.tasks, (run.loop.tasks.get? id).isSome
  distinct : group.tasks.Nodup

namespace Prepared

variable {run : Run} {group : OccurrenceGroup} {batch : Batch}

/-- When the batch is entered, its tasks are still bound to fail in the same way. -/
theorem entered
    (prepared : run.Prepared group) :
    (run.loop.enterBatch group.tasks).Catalogued ∧
      Loop.Spares run.loop (run.loop.enterBatch group.tasks) group.tasks :=
  have ⟨still, lasting⟩ := prepared.catalogued.lasting (run.loop.proceeds_enterBatch group.tasks)
  ⟨still, lasting, fun id _ => run.loop.dispatches_enterBatch group.tasks id⟩

theorem failures
    (prepared : run.Prepared group)
    (entry : batch.entry = run.loop)
    (tasks : batch.tasks = group.tasks) :
    ∀ episode ∈ batch.episodes, episode.failure = run.loop.failureOf episode.id := by
  obtain ⟨catalogued, spares⟩ := prepared.entered
  have conducted := batch.conducted
  rw [entry, tasks] at conducted
  exact conducted.failures_later spares prepared.known
    (conducted.failures catalogued (spares.known prepared.known) prepared.distinct)

theorem unstopped_ran
    (unstopped : run.loop.Unstopped group.tasks)
    (entry : batch.entry = run.loop)
    (tasks : batch.tasks = group.tasks) :
    batch.ran.stopRequested = false := by
  unfold Loop.Unstopped at unstopped
  rwa [← entry, ← tasks, batch.conducted.runTasks_eq] at unstopped

/-- The failures that are told are those of the tasks, if the run goes on. -/
theorem told
    (all : batch.episodes.map Episode.id = group.tasks)
    (bound : ∀ episode ∈ batch.episodes, episode.failure = run.loop.failureOf episode.id)
    (entry : batch.entry = run.loop)
    (isolates :
      run.loop.options.rethrowFailures = false ∨
        ∀ id ∈ group.tasks, run.loop.failureOf id = none) :
    batch.notices.filterMap Notice.failed? = run.loop.failures group.tasks := by
  rw [batch.failed_notices, entry]
  cases rethrows : run.loop.options.rethrowFailures with
  | false =>
      simp only [Bool.false_eq_true, ↓reduceIte]
      rw [Loop.failures, ← all, List.filterMap_map]
      exact List.filterMap_congr fun episode present => by
        rw [bound episode present]
        rfl
  | true =>
      have passes := isolates.resolve_left (by simp [rethrows])
      refine (List.filterMap_eq_nil_iff.mpr fun id present => ?_).symm
      rw [passes id present]
      rfl

/-- A batch from which the run goes on. -/
theorem runsAll
    (prepared : run.Prepared group)
    (unstopped : run.loop.Unstopped group.tasks)
    (isolates :
      run.loop.options.rethrowFailures = false ∨
        ∀ id ∈ group.tasks, run.loop.failureOf id = none) :
    ∃ batch : Batch, batch.entry = run.loop ∧ batch.tasks = group.tasks ∧
      ∃ next, run.step? = some next ∧ RunsAll run batch next := by
  obtain ⟨batch, entry, tasks⟩ := run.loop.exists_batch group.tasks
  have bound := prepared.failures entry tasks
  have goesOn : batch.failure = none := by
    obtain ⟨-, spares⟩ := prepared.entered
    have conducted := batch.conducted
    rw [entry, tasks] at conducted
    refine conducted.goesOn (fun episode present => ?_) (isolates.imp ?_ ?_)
    · have member := conducted.isPrefix.subset (List.mem_map_of_mem present)
      exact (bound episode present).trans (spares.failureOf prepared.known member).symm
    · intro isolates
      rwa [spares.lasting.options]
    · intro passes id present
      exact (spares.failureOf prepared.known present).trans (passes id present)
  have all := (batch.conducted.all (unstopped_ran unstopped entry tasks) goesOn).trans tasks
  have result := batch.dispatch_of_passes goesOn
  rw [entry, tasks] at result
  refine ⟨batch, entry, tasks, { run with loop := batch.completed, phase := .scanning }, ?_, ?_⟩
  · simp only [step?, prepared.dispatching, result]
  · refine ⟨all.trans tasks.symm, tasks ▸ prepared.distinct, bound, ?_, ?_, rfl, fun going => ?_⟩
    · rw [tasks]
      exact told all bound entry isolates
    · rw [← entry]
      exact batch.notices_completed
    · simp [step?, going]

/-- A batch that a failure aborts. -/
theorem aborts
    (prepared : run.Prepared group)
    (unstopped : run.loop.Unstopped group.tasks)
    (rethrows : run.loop.options.rethrowFailures = true)
    {front back : List Nat}
    {id : Nat}
    {failure : Failure}
    (split : group.tasks = front ++ id :: back)
    (passes : ∀ other ∈ front, run.loop.failureOf other = none)
    (fails : run.loop.failureOf id = some failure) :
    ∃ batch : Batch, batch.entry = run.loop ∧ batch.tasks = group.tasks ∧
      ∃ next, run.step? = some next ∧ Aborts run batch (front ++ [id]) failure next := by
  obtain ⟨batch, entry, tasks⟩ := run.loop.exists_batch group.tasks
  obtain ⟨catalogued, spares⟩ := prepared.entered
  have known := prepared.known
  have distinct := prepared.distinct
  have conducted := batch.conducted
  rw [entry, tasks, split] at conducted
  rw [split] at catalogued spares known distinct
  obtain ⟨through, isFailure⟩ := conducted.through catalogued (spares.known known) distinct
    ((congrArg _ spares.lasting.options).trans rethrows) (unstopped_ran unstopped entry tasks)
    (fun other present =>
      (spares.failureOf known (List.mem_append_left _ present)).trans (passes other present))
    ((spares.failureOf known (by simp)).trans fails)
  have result := batch.dispatch_of_fails isFailure
  rw [entry, tasks] at result
  have tells :=
    (batch.tells.murmurs (.logLine batch.left .error "Task failure ends the scheduler loop")).trans
      (Loop.tells_leaveRun _)
  rw [entry] at tells
  obtain ⟨idle, free⟩ := Loop.idle_leaveRun
    (batch.left.logLine .error "Task failure ends the scheduler loop")
  refine ⟨batch, entry, tasks,
    { run with
      loop := (batch.left.logLine .error "Task failure ends the scheduler loop").leaveRun
      phase := .over (some failure) }, ?_, ?_⟩
  · simp only [step?, prepared.dispatching, result]
  · refine ⟨through, prepared.failures entry tasks, ?_, tells.notices, tells.loopCount, rfl,
      idle, fun request => ?_⟩
    · rw [batch.failed_notices, entry, rethrows]
      rfl
    · exact ⟨_, Loop.start_of_idle (by rw [idle, free]; rfl) request⟩

end Prepared

section Runs

variable {first : Run}

/-- What a scan finds is known, and stays so until its batch is entered. -/
theorem prepared_runFor
    (scanning : first.phase = .scanning)
    (grounded : ∀ steps, (first.runFor steps).Grounded)
    (catalogued : first.loop.Catalogued)
    {steps : Nat}
    {group : OccurrenceGroup}
    (dispatching : (first.runFor steps).phase = .dispatching group) :
    (first.runFor steps).Prepared group := by
  obtain ⟨-, ⟨earlier, scanned, finds⟩, -⟩ := warranted_runFor scanning grounded dispatching
  have lasting := lasting_between catalogued scanned.before.le
  refine ⟨dispatching, (lasting_runFor catalogued steps).1, fun id member => ?_, finds.distinct⟩
  obtain ⟨schedule, registered, -⟩ := finds.next id member
  obtain ⟨other, -, found⟩ := List.mem_filterMap.mp registered
  obtain ⟨task, known, same⟩ := Option.map_eq_some_iff.mp found
  obtain ⟨rfl, -⟩ := Prod.mk.inj same
  exact lasting.known (Option.isSome_iff_exists.mpr ⟨task, known⟩)

/-- A dispatch of an asynchronous task that is not awaited is not known to fail. -/
theorem passes_of_detached
    (scanning : first.phase = .scanning)
    (grounded : ∀ steps, (first.runFor steps).Grounded)
    (catalogued : first.loop.Catalogued)
    (detaches : first.loop.options.awaitAsync = false)
    {steps : Nat}
    {task : Task}
    {batch : Batch}
    (entered : first.Entered steps batch)
    {episode : Episode}
    (present : episode ∈ batch.episodes)
    (found : (first.runFor steps).loop.tasks.get? episode.id = some task)
    (isAsync : task.action.isAsync = true) :
    episode.failure = none := by
  obtain ⟨earlier, before, group, dispatching, entry, tasks⟩ := entered
  have prepared := prepared_runFor scanning grounded catalogued dispatching
  have member := batch.orderly.isPrefix.subset (List.mem_map_of_mem present)
  obtain ⟨held, known⟩ := Option.isSome_iff_exists.mp (prepared.known episode.id (tasks ▸ member))
  have ⟨later, foundLater, sameAction⟩ :=
    (lasting_between catalogued before.le).actions episode.id held known
  have isSame : later = task := Option.some.inj (foundLater.symm.trans found)
  have heldAsync : held.action.isAsync = true := by
    rw [← sameAction, isSame]
    exact isAsync
  rw [prepared.failures entry tasks episode present, Loop.failureOf, known]
  simp [Loop.failureIn, heldAsync, options_runFor scanning earlier, detaches]

/-- The failures that a batch tells are those of its episodes. -/
theorem exists_episode_of_failed
    {batch : Batch}
    {id : Nat}
    {message : String}
    (told : .failed id message ∈ batch.notices) :
    ∃ episode ∈ batch.episodes, episode.id = id ∧ episode.failure ≠ none := by
  have listed : (id, message) ∈ batch.notices.filterMap Notice.failed? :=
    List.mem_filterMap.mpr ⟨_, told, rfl⟩
  rw [batch.failed_notices] at listed
  split at listed
  · cases listed
  · obtain ⟨episode, present, same⟩ := List.mem_filterMap.mp listed
    obtain ⟨failure, fails, same⟩ := Option.map_eq_some_iff.mp same
    exact ⟨episode, present, congrArg Prod.fst same, by simp [fails]⟩

theorem exists_batch_of_failed
    {count : Nat}
    {batches : List Batch}
    {id : Nat}
    {message : String}
    (told : .failed id message ∈ completedNotices count batches) :
    ∃ batch ∈ batches, .failed id message ∈ batch.notices := by
  induction batches generalizing count with
  | nil => cases told
  | cons batch batches inductionHypothesis =>
      rcases List.mem_append.mp told with inBatch | later
      · exact ⟨batch, List.mem_cons_self, inBatch⟩
      · rcases List.mem_cons.mp later with same | later
        · cases same
        · obtain ⟨other, present, inOther⟩ := inductionHypothesis later
          exact ⟨other, List.mem_cons_of_mem _ present, inOther⟩

/-- If no batch tells a failure of a task, then nothing does. -/
theorem Reports.untold
    {before : Loop}
    {batches : List Batch}
    {aborted : Option Batch}
    {run : Run}
    (reports : run.Reports before batches aborted)
    (started : Loop.Tells before [.started] first.loop)
    {id : Nat}
    (silent :
      ∀ batch, batch ∈ batches ∨ batch ∈ aborted → ∀ message, .failed id message ∉ batch.notices) :
    ∃ told, run.loop.notices = first.loop.notices ++ told ∧
      ∀ message, .failed id message ∉ told := by
  have completed : ∀ message, .failed id message ∉ completedNotices before.loopCount batches := by
    intro message told
    obtain ⟨batch, present, inBatch⟩ := exists_batch_of_failed told
    exact silent batch (Or.inl present) message inBatch
  cases reports with
  | going goesOn notices =>
      refine ⟨completedNotices before.loopCount batches, ?_, completed⟩
      rw [notices, started.notices]
      simp [told]
  | ended last closing isClosing notices idle stopped outcome =>
      refine ⟨completedNotices before.loopCount batches ++ (closing ++ [.stopped]), ?_,
        fun message => ?_⟩
      · rw [stopped, Loop.notices_emit, notices, started.notices]
        simp [told, Record.notice?]
      · rcases isClosing with rfl | rfl <;> simp [completed message]
  | failed last batch failure isFailure notices idle stopped outcome =>
      refine ⟨completedNotices before.loopCount batches ++ (batch.notices ++ [.stopped]), ?_,
        fun message => ?_⟩
      · rw [stopped, Loop.notices_emit, notices, started.notices]
        simp [told, Record.notice?]
      · simp [completed message, silent batch (Or.inr rfl) message]

/-- The failure that ended a run is that of a task in the batch that it aborted. -/
theorem Reports.exists_failed
    {before : Loop}
    {batches : List Batch}
    {aborted : Option Batch}
    {run : Run}
    (reports : run.Reports before batches aborted)
    (orderly : ∀ batch ∈ aborted, batch.Orderly)
    {failure : Failure}
    (ended : run.phase = .over (some failure)) :
    ∃ batch ∈ aborted, ∃ episode ∈ batch.episodes, episode.failure = some failure := by
  cases reports with
  | going goesOn => exact absurd ended (goesOn _)
  | ended last closing isClosing notices idle stopped outcome => cases ended.symm.trans outcome
  | failed last batch other isFailure notices idle stopped outcome =>
      cases ended.symm.trans outcome
      obtain ⟨-, front, final, episodes, isLast, -⟩ := (orderly batch rfl).fails failure isFailure
      exact ⟨batch, rfl, final, by simp [episodes], isLast⟩

/-- Of an asynchronous task that is not awaited no failure is heard of. -/
theorem unheard_runFor
    (scanning : first.phase = .scanning)
    (grounded : ∀ steps, (first.runFor steps).Grounded)
    (catalogued : first.loop.Catalogued)
    (detaches : first.loop.options.awaitAsync = false)
    {before : Loop}
    (started : Loop.Tells before [.started] first.loop)
    {steps id : Nat}
    {task : Task}
    (found : (first.runFor steps).loop.tasks.get? id = some task)
    (isAsync : task.action.isAsync = true) :
    Unheard first steps id := by
  have passes : ∀ batch, first.Entered steps batch →
      ∀ episode ∈ batch.episodes, episode.id = id → episode.failure = none := by
    rintro batch entered episode present rfl
    exact passes_of_detached scanning grounded catalogued detaches entered present found isAsync
  obtain ⟨batches, aborted, accounts⟩ := exists_accounts scanning started steps
  refine ⟨passes, ?_, fun failure ended => ?_⟩
  · refine accounts.reports.untold started fun batch present message told => ?_
    obtain ⟨episode, inBatch, same, fails⟩ := exists_episode_of_failed told
    exact fails (passes batch (accounts.entered batch present).1 episode inBatch same)
  · obtain ⟨batch, isAborted, episode, present, fails⟩ :=
      accounts.reports.exists_failed (fun batch isAborted =>
        (accounts.entered batch (Or.inr isAborted)).2) ended
    have entered := (accounts.entered batch (Or.inr isAborted)).1
    refine ⟨batch, entered, episode, present, fails, fun same => ?_⟩
    rw [passes batch entered episode present same] at fails
    cases fails

end Runs

/-- Every run of every session contains failures. -/
theorem contains_of_start
    {loop : Loop}
    (fresh : loop.Fresh)
    (statements : List Statement)
    {request : RunRequest}
    {run : Run}
    (accepted : (loop.session statements).start .another request = .started run) :
    run.Contains := by
  have scanning := Loop.scanning_of_start accepted
  have catalogued := (Loop.catalogued_session fresh statements).start accepted
  have prepared : ∀ {steps : Nat} {group : OccurrenceGroup},
      (run.runFor steps).phase = .dispatching group → (run.runFor steps).Prepared group :=
    fun dispatching =>
      prepared_runFor scanning (grounded_of_start fresh statements accepted) catalogued dispatching
  refine ⟨fun steps group dispatching unstopped isolates => ?_,
    fun steps group dispatching unstopped rethrows front id back failure split passes fails => ?_,
    fun detaches steps id task found isAsync =>
      unheard_runFor scanning (grounded_of_start fresh statements accepted) catalogued detaches
        (Loop.tells_of_start accepted) found isAsync⟩
  · rw [← options_runFor scanning steps] at isolates
    obtain ⟨batch, entry, tasks, next, stepped, runsAll⟩ :=
      (prepared dispatching).runsAll unstopped isolates
    exact ⟨batch, entry, tasks, runFor_succ_of_step? stepped ▸ runsAll⟩
  · rw [← options_runFor scanning steps] at rethrows
    obtain ⟨batch, entry, tasks, next, stepped, aborts⟩ :=
      (prepared dispatching).aborts unstopped rethrows split passes fails
    exact ⟨batch, entry, tasks, runFor_succ_of_step? stepped ▸ aborts⟩

section Example

/-- On the eve of the year 2000, for runs that end with the first failure. -/
def strictEve : Loop :=
  { Loop.eve with options := { rethrowFailures := true } }

/-- A task for every minute is added, whose first dispatch fails before its action has started. -/
def addBroken : List Statement :=
  let broken : Script := ⟨some (.described "no thread"), 0, [], none⟩
  [.command (.add "* * * * *" false (.scripted true [broken] .idle))]

theorem fresh_strictEve :
    strictEve.Fresh :=
  ⟨rfl, rfl, rfl, rfl, rfl⟩

theorem minutely_broken
    {run : Run}
    (accepted : (strictEve.session addBroken).start .another {} = .started run) :
    Minutely run :=
  minutely_of_start accepted (by decide +kernel) (by decide +kernel) (by decide +kernel)
    (by decide +kernel)

/-- Its first batch is entered when the year begins, and its task is bound to fail. -/
theorem dispatching_broken
    {run : Run}
    (accepted : (strictEve.session addBroken).start .another {} = .started run) :
    (run.runFor 2).phase = .dispatching ⟨946684800, [1]⟩ ∧
      (run.runFor 2).loop.Unstopped [1] ∧
      (run.runFor 2).loop.failureOf 1 = some (.described "no thread") := by
  rw [dispatching_of_start fresh_strictEve accepted (minutely_broken accepted)]
  obtain ⟨-, rfl⟩ := Loop.start_eq_started accepted
  unfold Loop.Unstopped
  refine ⟨rfl, ?_, ?_⟩
  · decide +kernel
  · decide +kernel

/-- A run that ends with the first failure contains failures: its first batch is aborted by its only
task. -/
theorem contains_broken :
    strictEve.Fresh ∧
      ∃ run, (strictEve.session addBroken).start .another {} = .started run ∧ run.Contains ∧
        (run.runFor 2).phase = .dispatching ⟨946684800, [1]⟩ ∧
        (run.runFor 2).loop.Unstopped [1] ∧
          (run.runFor 3).outcome = .failed (.described "no thread") := by
  have idle :
      ((strictEve.session addBroken).running || (strictEve.session addBroken).inProgress) =
        false := by
    decide +kernel
  have accepted := Loop.start_of_idle idle {}
  have contained := contains_of_start fresh_strictEve addBroken accepted
  have rethrows := congrArg LoopOptions.rethrowFailures (Loop.begins_of_start accepted).options
  obtain ⟨dispatching, unstopped, fails⟩ := dispatching_broken accepted
  obtain ⟨batch, -, -, aborts⟩ := contained.aborted 2 _ dispatching unstopped
    (rethrows.trans (by decide +kernel)) [] 1 [] _ rfl (by simp) fails
  exact ⟨fresh_strictEve, _, accepted, contained, dispatching, unstopped, aborts.outcome⟩

end Example

end Run

end Cadence
