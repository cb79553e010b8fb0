import Cadence.Proofs.Loop.Ledger
import Cadence.Proofs.Loop.Runs
import Mathlib.Data.List.Induction

namespace Cadence

/-!
# The registry along sessions and runs

Whoever gives the commands, the caller, an action, a callback or a happening of a
wait, they are done one after another, and each is recorded with its answer.  What
a run does between them leaves the registry alone.  So the commands among the
records, done to a ledger, give the registry at every moment, and each answer is
the one that the ledger had for it.
-/

namespace Ledger

/-- The ledger after what a record shows; only commands change it. -/
def afterRecord (ledger : Ledger) : Record → Ledger
  | .answered command _ => ledger.after command
  | _ => ledger

/-- The ledger after the commands among records. -/
def replay (ledger : Ledger) (records : List Record) : Ledger :=
  records.foldl afterRecord ledger

@[simp]
theorem replay_append
    (ledger : Ledger)
    (earlier later : List Record) :
    ledger.replay (earlier ++ later) = (ledger.replay earlier).replay later :=
  List.foldl_append

@[simp]
theorem replay_answered
    (ledger : Ledger)
    (command : Command)
    (reply : Reply) :
    ledger.replay [.answered command reply] = ledger.after command :=
  rfl

end Ledger

/-- A record that neither answers a command nor tells of a change of the registry. -/
structure Record.Unrelated (record : Record) : Prop where
  unanswered : ∀ command reply, record ≠ .answered command reply
  gain_eq : record.gain = 0

/-- Records of no concern to the registry. -/
theorem replay_of_unanswered
    (ledger : Ledger)
    {records : List Record}
    (unanswered : ∀ record ∈ records, ∀ command reply, record ≠ .answered command reply) :
    ledger.replay records = ledger := by
  induction records with
  | nil => rfl
  | cons record records inductionHypothesis =>
      have unchanged : ledger.afterRecord record = ledger := by
        cases record with
        | answered command reply =>
            exact absurd rfl (unanswered _ List.mem_cons_self command reply)
        | _ => rfl
      rw [Ledger.replay, List.foldl_cons, unchanged]
      exact inductionHypothesis fun other member =>
        unanswered other (List.mem_cons_of_mem record member)

theorem answered_not_mem_events
    (command : Command)
    (reply : Reply)
    (events : List LoopEvent) :
    Record.answered command reply ∉ events.map Record.event := by
  simp

/-- Events are no commands. -/
theorem Ledger.replay_events
    (ledger : Ledger)
    (events : List LoopEvent) :
    ledger.replay (events.map Record.event) = ledger :=
  replay_of_unanswered ledger fun _ member command reply same =>
    answered_not_mem_events command reply events (same ▸ member)

theorem balance_of_unrelated
    {records : List Record}
    (unrelated : ∀ record ∈ records, record.Unrelated) :
    balance records = 0 := by
  induction records with
  | nil => rfl
  | cons record records inductionHypothesis =>
      have rest := inductionHypothesis fun other member =>
        unrelated other (List.mem_cons_of_mem record member)
      rw [balance, rest, (unrelated record List.mem_cons_self).gain_eq]
      rfl

/-- A record that is not among those at the end is among those before. -/
theorem exists_of_append_eq
    {records more front back : List Record}
    {record : Record}
    (shape : records ++ more = front ++ record :: back)
    (earlier : record ∉ more) :
    ∃ between, records = front ++ record :: between := by
  rcases List.append_eq_append_iff.mp shape with
      ⟨middle, -, moreShape⟩ | ⟨middle, recordsShape, restShape⟩
  · exact absurd (moreShape ▸ by simp) earlier
  · cases middle with
    | nil =>
        rw [List.nil_append] at restShape
        exact absurd (restShape ▸ List.mem_cons_self) earlier
    | cons other between =>
        obtain ⟨rfl, -⟩ := List.cons.inj restShape
        exact ⟨between, recordsShape⟩

/-- A record among some and one more is that one or among those. -/
theorem eq_or_exists_of_concat_eq
    {records front back : List Record}
    {record last : Record}
    (shape : records ++ [last] = front ++ record :: back) :
    (records = front ∧ last = record) ∨ ∃ between, records = front ++ record :: between := by
  rcases List.eq_nil_or_concat back with rfl | ⟨between, final, rfl⟩
  · obtain ⟨same, ends⟩ := List.append_inj' shape rfl
    exact Or.inl ⟨same, (List.cons.inj ends).1⟩
  · rw [List.concat_eq_append, ← List.cons_append, ← List.append_assoc] at shape
    exact Or.inr ⟨between, (List.append_inj' shape rfl).1⟩

namespace Loop

/-! ### Moments -/

/-- A command that was recorded with an answer is one that the ledger of the commands before it has
that answer for, and the events told up to then account for the size of the registry. -/
structure Truthful (first : Ledger) (front : List Record) (command : Command) (reply : Reply) :
    Prop where
  answer : (first.replay front).Answers command reply
  kept : ((first.replay front).after command).Kept
  balanced :
    balance (front ++ [.answered command reply]) =
      ((first.replay front).after command).order.length

/-- A loop whose registry is the map that the recorded commands make of the first ledger. -/
structure Refines (first : Ledger) (loop : Loop) : Prop where
  agrees : loop.Agrees (first.replay loop.records.toList)
  kept : (first.replay loop.records.toList).Kept
  balanced : balance loop.records.toList = loop.registry.length
  answered :
    ∀ front command reply back,
      loop.records.toList = front ++ .answered command reply :: back →
        Truthful first front command reply

/-- From one loop to another nothing was done to the registry, and no command was answered. -/
structure Apart (before after : Loop) : Prop where
  registry : after.registry = before.registry
  tasks : after.tasks = before.tasks
  nextId : after.nextId = before.nextId
  told :
    ∃ records,
      after.records.toList = before.records.toList ++ records ∧
        ∀ record ∈ records, record.Unrelated

namespace Apart

variable {loop middle next : Loop}

theorem trans
    (before : Apart loop middle)
    (after : Apart middle next) :
    Apart loop next := by
  obtain ⟨registry, tasks, nextId, records, shape, unrelated⟩ := before
  obtain ⟨registry', tasks', nextId', records', shape', unrelated'⟩ := after
  refine ⟨registry'.trans registry, tasks'.trans tasks, nextId'.trans nextId,
    records ++ records', ?_, ?_⟩
  · rw [shape', shape, List.append_assoc]
  · intro record member
    rcases List.mem_append.mp member with early | late
    · exact unrelated record early
    · exact unrelated' record late

/-- Nothing is recorded. -/
theorem silent
    (registry : next.registry = loop.registry)
    (tasks : next.tasks = loop.tasks)
    (nextId : next.nextId = loop.nextId)
    (records : next.records = loop.records) :
    Apart loop next :=
  ⟨registry, tasks, nextId, [], by simp [records], fun _ member => by cases member⟩

theorem refl
    (loop : Loop) :
    Apart loop loop :=
  .silent rfl rfl rfl rfl

theorem record
    (loop : Loop)
    {record : Record}
    (unrelated : record.Unrelated) :
    Apart loop (loop.record record) :=
  ⟨rfl, rfl, rfl, [record], by simp [Loop.record], fun other member =>
    List.mem_singleton.mp member ▸ unrelated⟩

theorem logLine
    (loop : Loop)
    (level : LogLevel)
    (text : String) :
    Apart loop (loop.logLine level text) := by
  obtain ⟨log, logged⟩ := loop.logLine_shape level text
  rw [logged]
  exact .silent rfl rfl rfl rfl

/-- An event that tells of no change of the registry. -/
theorem emit
    (loop : Loop)
    {event : LoopEvent}
    (ungained : (Record.event event).gain = 0) :
    Apart loop (loop.emit event) := by
  obtain ⟨log, told⟩ := loop.emit_eq_record event
  rw [told]
  have unrelated : (Record.event event).Unrelated :=
    ⟨fun _ _ same => Record.noConfusion same, ungained⟩
  exact (record loop unrelated).trans (.silent rfl rfl rfl rfl)

theorem advance
    (loop : Loop)
    (span : Int) :
    Apart loop (loop.advance span) :=
  .silent rfl rfl rfl rfl

theorem stop
    (loop : Loop) :
    Apart loop loop.stop := by
  unfold Loop.stop
  split
  · exact .silent rfl rfl rfl rfl
  · exact refl loop

theorem runDetached
    (loop : Loop)
    (id : Nat)
    (action : Action) :
    Apart loop (loop.runDetached id action) := by
  obtain ⟨told, launched, script, runs, log, detached⟩ := loop.runDetached_shape id action
  rw [detached]
  have recorded : Apart loop told := by
    rcases launched with rfl | rfl
    · exact refl told
    · exact record loop ⟨fun _ _ same => Record.noConfusion same, rfl⟩
  exact recorded.trans (.silent rfl rfl rfl rfl)

theorem leaveRun
    (loop : Loop) :
    Apart loop loop.leaveRun :=
  trans (.silent rfl rfl rfl rfl : Apart loop { loop with running := false, inProgress := false })
    (.emit _ rfl)

theorem scan
    (loop : Loop) :
    Apart loop loop.scan.1 :=
  ⟨rfl, rfl, rfl, [.scanned (loop.clock / 1000) loop.scan.2], by simp [Loop.scan, Loop.record],
    fun record member => List.mem_singleton.mp member ▸
      ⟨fun _ _ same => Record.noConfusion same, rfl⟩⟩

/-- The start of a run. -/
theorem start
    {request : RunRequest}
    {run : Run}
    (accepted : loop.start .another request = .started run) :
    Apart loop run.loop := by
  rw [(start_eq_started accepted).2]
  exact trans (.silent rfl rfl rfl rfl : Apart loop (loop.started request)) (.emit _ rfl)

end Apart

namespace Refines

variable {first : Ledger} {loop next : Loop}

theorem opening
    (tasks : loop.tasks = {})
    (registry : loop.registry = [])
    (unrecorded : loop.records = #[]) :
    Refines (.opening loop.nextId) loop := by
  refine ⟨?_, ?_, ?_, ?_⟩
  · rw [unrecorded]
    refine ⟨registry, fun id => ?_, fun id task found => ?_, rfl⟩
    · rw [tasks]
      rfl
    · rw [tasks] at found
      cases found
  · rw [unrecorded]
    exact .opening loop.nextId
  · rw [unrecorded, registry]
    rfl
  · intro front command reply back shape
    rw [unrecorded] at shape
    simp at shape

theorem apart
    (refines : Refines first loop)
    (apart : Apart loop next) :
    Refines first next := by
  obtain ⟨registry, tasks, nextId, records, shape, unrelated⟩ := apart
  have replayed :
      first.replay next.records.toList = first.replay loop.records.toList := by
    rw [shape, Ledger.replay_append]
    exact replay_of_unanswered _ fun record member => (unrelated record member).unanswered
  refine ⟨?_, replayed ▸ refines.kept, ?_, ?_⟩
  · rw [replayed]
    exact refines.agrees.congr registry tasks nextId
  · rw [shape, balance_append, balance_of_unrelated unrelated, registry, refines.balanced]
    omega
  · intro front command reply back split
    rw [shape] at split
    have earlier : Record.answered command reply ∉ records :=
      fun member => (unrelated _ member).unanswered command reply rfl
    obtain ⟨between, before⟩ := exists_of_append_eq split earlier
    exact refines.answered front command reply between before

/-- A command is done to the registry as to the ledger, and recorded with the ledger's answer. -/
theorem execute
    (refines : Refines first loop)
    (command : Command) :
    Refines first (loop.execute command) := by
  obtain ⟨⟨agrees, kept, events, records, gained⟩, answers⟩ :=
    deals_perform refines.agrees refines.kept command
  have shape :
      (loop.execute command).records.toList =
        (loop.records.toList ++ events.map Record.event) ++
          [.answered command (loop.perform command).2] := by
    rw [← records]
    simp [Loop.execute, Loop.record]
  have toldReplay :
      first.replay (loop.records.toList ++ events.map Record.event) =
        first.replay loop.records.toList := by
    rw [Ledger.replay_append, Ledger.replay_events]
  have truthful :
      Truthful first (loop.records.toList ++ events.map Record.event) command
        (loop.perform command).2 := by
    refine ⟨toldReplay.symm ▸ answers, toldReplay.symm ▸ kept, ?_⟩
    rw [toldReplay, balance_append, balance_append, refines.balanced, gained,
      refines.agrees.registry]
    simp only [balance, Record.gain]
    omega
  have replayed :
      first.replay (loop.execute command).records.toList =
        (first.replay loop.records.toList).after command := by
    rw [shape, Ledger.replay_append, toldReplay, Ledger.replay_answered]
  refine ⟨?_, replayed ▸ kept, ?_, ?_⟩
  · rw [replayed]
    exact agrees.congr rfl rfl rfl
  · rw [shape, truthful.balanced, toldReplay]
    exact congrArg (fun order : List Nat => (order.length : Int)) agrees.registry.symm
  · intro front other reply back split
    rw [shape] at split
    rcases eq_or_exists_of_concat_eq split with ⟨rfl, same⟩ | ⟨between, before⟩
    · obtain ⟨rfl, rfl⟩ := Record.answered.inj same
      exact truthful
    · obtain ⟨between, before⟩ :=
        exists_of_append_eq before (answered_not_mem_events other reply events)
      exact refines.answered front other reply between before

/-! ### Batches -/

theorem executeAll
    (refines : Refines first loop)
    (commands : List Command) :
    Refines first (loop.executeAll commands) := by
  induction commands generalizing loop with
  | nil => exact refines
  | cons command commands inductionHypothesis =>
      exact inductionHypothesis (refines.execute command)

theorem runAwaited
    (refines : Refines first loop)
    (id : Nat)
    (action : Action) :
    Refines first (loop.runAwaited id action).1 := by
  cases action with
  | scripted isAsync first later =>
      simp only [Loop.runAwaited]
      split
      · exact refines
      · have unrelated : (Record.ran id loop.clock loop.stopRequested).Unrelated :=
          ⟨fun _ _ same => Record.noConfusion same, rfl⟩
        have started := refines.apart (.record loop unrelated)
        exact (started.apart (.advance _ _)).executeAll _
  | shell isAsync command directory => exact refines

theorem runTask
    (refines : Refines first loop)
    (id : Nat) :
    Refines first (loop.runTask id).1 := by
  unfold Loop.runTask
  split
  · exact refines
  · split
    · exact refines.apart (.runDetached loop id _)
    · exact refines.runAwaited id _

theorem runTasks
    (refines : Refines first loop)
    (ids : List Nat) :
    Refines first (loop.runTasks ids).1 := by
  induction ids generalizing loop with
  | nil => exact refines
  | cons id ids inductionHypothesis =>
      unfold Loop.runTasks
      split
      · exact refines
      have ran := (refines.apart (.emit loop rfl : Apart _ (loop.emit (.taskDispatched id)))).runTask
        id
      split
      · next done result =>
        rw [result] at ran
        exact inductionHypothesis ran
      · next done failure result =>
        rw [result] at ran
        split
        · exact ran
        · exact inductionHypothesis (ran.apart (.emit done rfl))

theorem enterBatch
    (refines : Refines first loop)
    (tasks : List Nat) :
    Refines first (loop.enterBatch tasks) := by
  have unrelated : (Record.entered loop.clock tasks).Unrelated :=
    ⟨fun _ _ same => Record.noConfusion same, rfl⟩
  have told := refines.apart (.record loop unrelated)
  unfold Loop.enterBatch
  dsimp only
  split
  · exact told
  · refine Refines.executeAll (told.apart ?_) _
    exact .silent rfl rfl rfl rfl

theorem leaveBatch
    (refines : Refines first loop)
    (entered : Int)
    (tasks : List Nat) :
    Refines first (loop.leaveBatch entered tasks) := by
  have unrelated : (Record.left loop.clock entered tasks).Unrelated :=
    ⟨fun _ _ same => Record.noConfusion same, rfl⟩
  have told := refines.apart (.record loop unrelated)
  unfold Loop.leaveBatch
  dsimp only
  split
  · exact told
  · refine Refines.executeAll (told.apart ?_) _
    exact .silent rfl rfl rfl rfl

theorem dispatch
    (refines : Refines first loop)
    (tasks : List Nat) :
    Refines first (loop.dispatch tasks).1 := by
  have ran := (refines.enterBatch tasks).runTasks tasks
  unfold Loop.dispatch
  cases result : (loop.enterBatch tasks).runTasks tasks with
  | mk done failure =>
      rw [result] at ran
      have left := ran.leaveBatch loop.clock tasks
      cases failure with
      | some failure => exact left.apart (.logLine _ _ _)
      | none =>
          refine Refines.apart (left.apart ?_) (.emit _ rfl)
          exact .silent rfl rfl rfl rfl

/-! ### Steps, runs and sessions -/

theorem happen
    (refines : Refines first loop)
    (happening : Happening) :
    Refines first (loop.happen happening) := by
  cases happening with
  | commands commands => exact refines.executeAll commands
  | stop => exact refines.apart (.stop loop)
  | cancel => exact refines.apart (.silent rfl rfl rfl rfl)

/-- Time passes, and then something happens. -/
theorem happened
    {run : Run}
    (refines : Refines first run.loop)
    (happening : TimedHappening)
    (others : List TimedHappening) :
    Refines first (run.happened happening others).loop := by
  have told : Apart run.loop { run.loop with script := others } := .silent rfl rfl rfl rfl
  exact ((refines.apart told).apart (.advance _ _)).happen happening.happening

theorem step
    {run later : Run}
    (stepped : run.step? = some later)
    (refines : Refines first run.loop) :
    Refines first later.loop := by
  cases Run.moves_of_step? stepped with
  | finish => exact refines.apart (.leaveRun _)
  | scan => exact refines.apart (.scan _)
  | quit => exact (refines.apart (.emit _ rfl)).apart (.leaveRun _)
  | wake => exact refines
  | happen due waiting pending happening others => exact refines.happened happening others
  | outlast group deadline waiting pending happening others =>
      exact (refines.happened happening others).apart (.advance _ _)
  | timeOut => exact refines.apart (.advance _ _)
  | batch group dispatching dispatched result =>
      have left := refines.dispatch group.tasks
      rwa [result] at left
  | fail group dispatching dispatched failure result =>
      have left := refines.dispatch group.tasks
      rw [result] at left
      exact left.apart (.leaveRun _)

theorem runFor
    {run : Run}
    (refines : Refines first run.loop)
    (steps : Nat) :
    Refines first (run.runFor steps).loop :=
  Run.runFor_induction (fun stepped earlier => step stepped earlier) refines steps

theorem obey
    (refines : Refines first loop)
    (statement : Statement) :
    Refines first (loop.obey statement) := by
  cases statement with
  | command command => exact refines.execute command
  | run run =>
      have finished :
          ∀ outcome clock status, (Record.finished outcome clock status).Unrelated :=
        fun _ _ _ => ⟨fun _ _ same => Record.noConfusion same, rfl⟩
      simp only [Loop.obey, runToEnd]
      cases result : loop.start .another run.request with
      | refused refused =>
          rw [start_eq_refused result]
          exact (refines.apart (.logLine _ _ _)).apart (.record _ (finished _ _ _))
      | waits => exact refines.apart (.record _ (finished _ _ _))
      | started started =>
          have final := (refines.apart (.start result)).runFor SessionRun.patience
          exact final.apart (.record _ (finished _ _ _))

theorem session
    (refines : Refines first loop)
    (statements : List Statement) :
    Refines first (loop.session statements) := by
  induction statements generalizing loop with
  | nil => exact refines
  | cons statement statements inductionHypothesis =>
      exact inductionHypothesis (refines.obey statement)

end Refines

end Loop

/-! ### Tasks that were made -/

/-- The id of the task that a record answers with, if it was made. -/
def Record.madeId? : Record → Option Nat
  | .answered _ (.made id _) => some id
  | _ => none

/-- The ids of the tasks that callers were given, in the order in which they were made. -/
def Loop.madeIds (loop : Loop) : List Nat :=
  loop.records.toList.filterMap Record.madeId?

namespace Ledger

theorem nextId_addAll
    (ledger : Ledger)
    (configs : List TaskConfig) :
    ledger.nextId ≤ (ledger.addAll configs).nextId := by
  induction configs generalizing ledger with
  | nil => exact Nat.le_refl _
  | cons config configs inductionHypothesis =>
      unfold addAll
      split
      · exact inductionHypothesis ledger
      split
      · exact Nat.le_refl _
      split
      · exact Nat.le_refl _
      · exact Nat.le_trans (Nat.le_succ _) (inductionHypothesis (ledger.add _))

/-- The next id never goes back. -/
theorem nextId_after
    (ledger : Ledger)
    (command : Command) :
    ledger.nextId ≤ (ledger.after command).nextId := by
  cases command with
  | register configs => exact ledger.nextId_addAll configs
  | _ =>
      simp only [after]
      repeat' split
      all_goals first | exact Nat.le_refl _ | exact Nat.le_succ _

/-- A task that is made takes the next id. -/
theorem nextId_of_made
    {ledger : Ledger}
    {command : Command}
    {id : Nat}
    {isAsync : Bool}
    (answers : ledger.Answers command (.made id isAsync)) :
    id = ledger.nextId ∧ id < (ledger.after command).nextId := by
  cases command with
  | add text withSeconds action
  | addSchedule text withSeconds action
  | make text withSeconds action =>
      simp only [Answers] at answers
      cases parsed : Schedule.parse text withSeconds with
      | error error => simp [parsed] at answers
      | ok schedule =>
          simp only [parsed, Reply.made.injEq] at answers
          simp only [after, parsed]
          exact ⟨answers.1, answers.1 ▸ Nat.lt_succ_self _⟩
  | setSchedule id text withSeconds =>
      simp only [Answers] at answers
      split at answers <;> cases answers
  | status =>
      obtain ⟨_, same, -⟩ := answers
      cases same
  | addHandle | remove | removeHandle | removeMany | removeHandles | removeAll | find | takeId =>
      cases answers
  | _ => exact absurd rfl (answers id isAsync)

end Ledger

namespace Loop

/-- As long as every answer is the ledger's, the ids of the tasks that are made increase and stay
below the next id. -/
theorem madeIds_increasing
    {first : Ledger}
    {records : List Record}
    (answered :
      ∀ front command reply back,
        records = front ++ .answered command reply :: back → Truthful first front command reply) :
    (records.filterMap Record.madeId?).Pairwise (· < ·) ∧
      ∀ id ∈ records.filterMap Record.madeId?, id < (first.replay records).nextId := by
  induction records using List.reverseRecOn with
  | nil => exact ⟨.nil, fun _ member => by cases member⟩
  | append_singleton records record inductionHypothesis =>
      obtain ⟨increasing, below⟩ := inductionHypothesis fun front command reply back shape =>
        answered front command reply (back ++ [record]) (by rw [shape]; simp)
      have grows :
          (first.replay records).nextId ≤ (first.replay (records ++ [record])).nextId := by
        rw [Ledger.replay_append]
        cases record with
        | answered command reply => exact Ledger.nextId_after _ command
        | _ => exact Nat.le_refl _
      rw [List.filterMap_append]
      cases made : record.madeId? with
      | none =>
          simp only [List.filterMap_cons_none made, List.filterMap_nil, List.append_nil]
          exact ⟨increasing, fun id member => Nat.lt_of_lt_of_le (below id member) grows⟩
      | some id =>
          obtain ⟨command, isAsync, rfl⟩ :
              ∃ command isAsync, record = .answered command (.made id isAsync) := by
            cases record with
            | answered command reply =>
                cases reply <;> simp [Record.madeId?] at made
                exact ⟨command, _, by rw [made]⟩
            | _ => cases made
          obtain ⟨isNext, passed⟩ :=
            Ledger.nextId_of_made (answered records command _ [] rfl).answer
          simp only [List.filterMap_cons_some made, List.filterMap_nil]
          refine ⟨List.pairwise_append.mpr ⟨increasing, List.pairwise_singleton _ _, ?_⟩, ?_⟩
          · intro earlier member other isLast
            rw [List.mem_singleton.mp isLast, isNext]
            exact below earlier member
          · intro other member
            rcases List.mem_append.mp member with earlier | isLast
            · exact Nat.lt_of_lt_of_le (below other earlier) grows
            · rw [List.mem_singleton.mp isLast, Ledger.replay_append]
              exact passed

/-! ### What callers see -/

/-- The registry is what the recorded commands make of the first ledger, and no two tasks that
callers were given have the same id. -/
structure Keeps (first : Ledger) (loop : Loop) : Prop extends Refines first loop where
  made_increasing : loop.madeIds.Pairwise (· < ·)

theorem Refines.keeps
    {first : Ledger}
    {loop : Loop}
    (refines : Refines first loop) :
    Keeps first loop :=
  ⟨refines, (madeIds_increasing refines.answered).1⟩

/-- What is refused at a moment changes nothing then, but for a line in the log. -/
structure Rejects (moment : Loop) : Prop where
  handle :
    ∀ id, (moment.perform (.addHandle id)).2 = .flag false →
      (moment.perform (.addHandle id)).1 = moment
  text :
    ∀ text withSeconds action error, Schedule.parse text withSeconds = .error error →
      (∃ log,
        moment.perform (.add text withSeconds action) =
          ({ moment with log := log }, .rejected error)) ∧
      moment.perform (.addSchedule text withSeconds action) = (moment, .rejected error) ∧
      moment.perform (.make text withSeconds action) = (moment, .rejected error)

theorem rejects
    (moment : Loop) :
    moment.Rejects where
  handle := by
    intro id refused
    simp only [perform, addHandle] at refused ⊢
    split
    · rfl
    · next task known =>
      simp only [known, register] at refused ⊢
      split
      · rfl
      · next absent => simp [absent] at refused
  text := by
    intro text withSeconds action error parsed
    obtain ⟨log, refused⟩ := moment.addText_of_error parsed action
    refine ⟨⟨log, ?_⟩, ?_, ?_⟩
    · simp only [perform, refused]
    · simp only [perform, parsed]
    · simp only [perform, parsed]

/-- Whatever is done with a loop that was just made, and at every moment of a run after that, its
registry is an insertion-ordered map: that of the recorded commands, with each answer and the
events told until then as that map has it. -/
theorem registry_of_session
    {loop : Loop}
    (fresh : loop.Fresh)
    (unrecorded : loop.records = #[])
    (statements : List Statement) :
    Keeps (.opening loop.nextId) (loop.session statements) ∧
      (∀ request run, (loop.session statements).start .another request = .started run →
        ∀ steps, Keeps (.opening loop.nextId) (run.runFor steps).loop) ∧
      ∀ moment : Loop, moment.Rejects := by
  have refines :=
    (Refines.opening fresh.tasks fresh.registry unrecorded).session statements
  refine ⟨refines.keeps, fun request run accepted steps => ?_, rejects⟩
  exact ((refines.apart (.start accepted)).runFor steps).keeps

section Example

/-- Two tasks are made, with a text that is refused between them.  Then handles are added, also
twice and unknown ones, and removed, with ids that are repeated or unknown. -/
def readditions : List Statement :=
  [.command (.add "* * * * *" false (.shell false "true" "")),
    .command (.add "* * * *" false (.shell false "true" "")),
    .command (.make "0 0 * * *" false (.shell false "true" "")),
    .command (.addHandle 2),
    .command (.addHandle 2),
    .command (.addHandle 9),
    .command (.addHandle 1),
    .command (.removeMany [1, 1, 9, 2])]

/-- Adds the removed tasks again while a run waits. -/
def readding : RunRequest :=
  { script := [⟨0, .commands [.addHandle 2, .addHandle 1, .addHandle 2]⟩] }

/-- The refused text consumes no id, and a run that waits has the tasks in their new order. -/
theorem registry_readditions :
    ({} : Loop).Fresh ∧ ({} : Loop).records = #[] ∧
      Keeps (.opening 1) (({} : Loop).session readditions) ∧
      (({} : Loop).session readditions).madeIds = [1, 2] ∧
      ∃ run, (({} : Loop).session readditions).start .another readding = .started run ∧
        Keeps (.opening 1) (run.runFor 2).loop ∧ (run.runFor 2).loop.registry = [2, 1] := by
  have fresh : ({} : Loop).Fresh := ⟨rfl, rfl, rfl, rfl, rfl⟩
  have idle :
      ((({} : Loop).session readditions).running ||
        (({} : Loop).session readditions).inProgress) = false := by
    decide +kernel
  have accepted := start_of_idle idle readding
  obtain ⟨keeps, inRuns, -⟩ := registry_of_session fresh rfl readditions
  refine ⟨fresh, rfl, keeps, ?_, _, accepted, inRuns _ _ accepted 2, ?_⟩
  · decide +kernel
  · decide +kernel

end Example

end Loop

end Cadence
