import Cadence.Proofs.Loop.Rearrangements

namespace Cadence

/-!
# What is told of a run

A run tells of its start and its end, of its batches and their tasks, and of a wait
that was cancelled.  These are its notices.  Commands are done in the background:
what they tell concerns the registry only, and they leave the counters as they are,
so that a status which is asked for shows the counters of that moment.
-/

/-- What is told of a run. -/
inductive Notice
  | started
  | entered (clock : Int) (tasks : List Nat)
  | dispatched (id : Nat)
  /-- An action that shows its start was started, with a token that was cancelled or not. -/
  | ran (id : Nat) (clock : Int) (cancelled : Bool)
  | failed (id : Nat) (message : String)
  | left (clock since : Int) (tasks : List Nat)
  | completed (count size : Nat)
  | waitCancelled
  | stopped
  deriving DecidableEq, Repr

/-- The count of a batch that was completed. -/
def Notice.count? : Notice → Option Nat
  | .completed count _ => some count
  | _ => none

namespace Record

/-- The notice that a record is; none for events of the registry, scans and answers. -/
def notice? : Record → Option Notice
  | .event .loopStarted => some .started
  | .event .loopStopped => some .stopped
  | .event .waitCancelled => some .waitCancelled
  | .event (.taskDispatched id) => some (.dispatched id)
  | .event (.taskFailed id message) => some (.failed id message)
  | .event (.batchCompleted count size) => some (.completed count size)
  | .entered clock tasks => some (.entered clock tasks)
  | .left clock since tasks => some (.left clock since tasks)
  | .ran id clock cancelled => some (.ran id clock cancelled)
  | _ => none

/-- The status that a record shows. -/
def status? : Record → Option LoopStatus
  | .answered _ (.status status) => some status
  | .finished _ _ status => some status
  | _ => none

end Record

/-- The notices among records. -/
def noticesOf
    (records : List Record) :
    List Notice :=
  records.filterMap Record.notice?

namespace Loop

/-- The notices of a loop, the oldest first. -/
def notices
    (loop : Loop) :
    List Notice :=
  noticesOf loop.records.toList

theorem notices_record
    (loop : Loop)
    (record : Record) :
    (loop.record record).notices = loop.notices ++ record.notice?.toList := by
  cases notice : record.notice? <;> simp [notices, noticesOf, Loop.record, notice]

/-- A scan is no notice. -/
theorem notices_scan
    (loop : Loop) :
    loop.scan.1.notices = loop.notices :=
  (notices_record _ _).trans (List.append_nil _)

/-- A line that is logged changes nothing but the log. -/
theorem logLine_shape
    (loop : Loop)
    (level : LogLevel)
    (text : String) :
    ∃ log, loop.logLine level text = { loop with log := log } := by
  unfold Loop.logLine
  split
  · exact ⟨_, rfl⟩
  · exact ⟨loop.log, rfl⟩

/-- An event is recorded, and the rest of what is told goes to the log. -/
theorem emit_eq_record
    (loop : Loop)
    (event : LoopEvent) :
    ∃ log, loop.emit event = { loop.record (.event event) with log := log } := by
  obtain ⟨first, logged⟩ := loop.logLine_shape event.level event.text
  unfold emit
  rw [logged]
  cases loop.listenerThrows.throws loop.records event with
  | none => exact ⟨first, rfl⟩
  | some failure =>
      obtain ⟨second, warned⟩ :=
        logLine_shape ({ loop with log := first }.record (.event event)) .warn
          ("Event listener threw: " ++ failure.message)
      exact ⟨second, warned⟩

theorem notices_emit
    (loop : Loop)
    (event : LoopEvent) :
    (loop.emit event).notices = loop.notices ++ (Record.event event).notice?.toList := by
  obtain ⟨log, told⟩ := loop.emit_eq_record event
  rw [told]
  exact loop.notices_record _

/-- One loop comes from another by what is no notice: the counters and what is still to happen stay
as they are, and what is recorded shows the counters if it shows a status. -/
inductive Murmurs :
    Loop → Loop → Prop where
  /-- Nothing is recorded or counted. -/
  | silent
      {loop next : Loop}
      (records : next.records = loop.records)
      (loopCount : next.loopCount = loop.loopCount)
      (cycleCount : next.cycleCount = loop.cycleCount)
      (script : next.script = loop.script) :
      Murmurs loop next
  | tell
      (loop : Loop)
      (record : Record)
      (unnoticed : record.notice? = none)
      (current :
        ∀ status, record.status? = some status →
          status.loopCount = loop.loopCount ∧ status.cycleCount = loop.cycleCount) :
      Murmurs loop (loop.record record)
  | trans
      {first second third : Loop}
      (before : Murmurs first second)
      (after : Murmurs second third) :
      Murmurs first third

namespace Murmurs

theorem refl
    (loop : Loop) :
    Murmurs loop loop :=
  .silent rfl rfl rfl rfl

variable {loop next : Loop}

theorem notices
    (murmurs : Murmurs loop next) :
    next.notices = loop.notices := by
  induction murmurs with
  | silent records => simp only [Loop.notices, records]
  | tell loop record unnoticed => simp [notices_record, unnoticed]
  | trans _ _ before after => exact after.trans before

theorem loopCount
    (murmurs : Murmurs loop next) :
    next.loopCount = loop.loopCount := by
  induction murmurs with
  | silent _ same => exact same
  | tell => rfl
  | trans _ _ before after => exact after.trans before

theorem cycleCount
    (murmurs : Murmurs loop next) :
    next.cycleCount = loop.cycleCount := by
  induction murmurs with
  | silent _ _ same => exact same
  | tell => rfl
  | trans _ _ before after => exact after.trans before

theorem script
    (murmurs : Murmurs loop next) :
    next.script = loop.script := by
  induction murmurs with
  | silent _ _ _ same => exact same
  | tell => rfl
  | trans _ _ before after => exact after.trans before

theorem logLine
    (loop : Loop)
    (level : LogLevel)
    (text : String) :
    Murmurs loop (loop.logLine level text) := by
  obtain ⟨log, logged⟩ := loop.logLine_shape level text
  rw [logged]
  exact .silent rfl rfl rfl rfl

/-- An event that is no notice. -/
theorem emit
    (loop : Loop)
    {event : LoopEvent}
    (unnoticed : (Record.event event).notice? = none) :
    Murmurs loop (loop.emit event) := by
  obtain ⟨log, told⟩ := loop.emit_eq_record event
  rw [told]
  have recorded : Murmurs loop (loop.record (.event event)) :=
    .tell loop _ unnoticed fun _ shown => by cases shown
  exact recorded.trans (.silent rfl rfl rfl rfl)

/-- Signals are neither recorded nor counted. -/
theorem wake
    (loop : Loop) :
    Murmurs loop loop.wake := by
  obtain ⟨signals, woken⟩ := loop.wake_shape
  rw [woken]
  exact .silent rfl rfl rfl rfl

theorem stop
    (loop : Loop) :
    Murmurs loop loop.stop := by
  unfold Loop.stop
  split
  · exact .silent rfl rfl rfl rfl
  · exact refl loop

theorem cancelExternal
    (loop : Loop) :
    Murmurs loop loop.cancelExternal :=
  .silent rfl rfl rfl rfl

theorem advance
    (loop : Loop)
    (span : Int) :
    Murmurs loop (loop.advance span) :=
  .silent rfl rfl rfl rfl

theorem advanceTo
    (loop : Loop)
    (uptime : Int) :
    Murmurs loop (loop.advanceTo uptime) :=
  advance loop _

/-- Another registry, woken and told. -/
theorem rearrange
    (loop : Loop)
    (registry : List Nat)
    {event : LoopEvent}
    (unnoticed : (Record.event event).notice? = none) :
    Murmurs loop ({ loop with registry := registry }.wake.emit event) := by
  have changed : Murmurs loop { loop with registry := registry } := .silent rfl rfl rfl rfl
  exact (changed.trans (wake _)).trans (emit _ unnoticed)

theorem makeTask
    (loop : Loop)
    (schedule : Schedule)
    (action : Action) :
    Murmurs loop (loop.makeTask schedule action).1 :=
  .silent rfl rfl rfl rfl

theorem register
    (loop : Loop)
    (task : Task) :
    Murmurs loop (loop.register task).1 := by
  unfold Loop.register
  split
  · exact refl loop
  · exact rearrange loop _ rfl

theorem addTask
    (loop : Loop)
    (schedule : Schedule)
    (action : Action) :
    Murmurs loop (loop.addTask schedule action).1 :=
  (makeTask loop schedule action).trans (register _ _)

theorem addText
    (loop : Loop)
    (text : String)
    (withSeconds : Bool)
    (action : Action) :
    Murmurs loop (loop.addText text withSeconds action).1 := by
  unfold Loop.addText
  cases Schedule.parse text withSeconds with
  | error error => exact logLine _ _ _
  | ok schedule => exact addTask loop schedule action

theorem remove
    (loop : Loop)
    (id : Nat) :
    Murmurs loop (loop.remove id).1 := by
  unfold Loop.remove
  split
  · exact rearrange loop _ rfl
  · exact refl loop

theorem removeMany
    (loop : Loop)
    (ids : List Nat) :
    Murmurs loop (loop.removeMany ids).1 := by
  unfold Loop.removeMany
  simp only
  split
  · exact rearrange loop _ rfl
  · have changed :
        Murmurs loop { loop with registry := loop.registry.filter fun id => id ∉ ids } :=
      .silent rfl rfl rfl rfl
    exact changed.trans (emit _ rfl)

theorem registerConfigured
    (loop : Loop)
    (tasks : List TaskConfig)
    (added : Nat) :
    Murmurs loop (loop.registerConfigured tasks added).1 := by
  induction tasks generalizing loop added with
  | nil => exact refl loop
  | cons config configs inductionHypothesis =>
      unfold Loop.registerConfigured
      split
      · exact (logLine _ _ _).trans (inductionHypothesis _ _)
      split
      · exact logLine _ _ _
      have adds := addText loop config.schedule config.withSeconds
        (.shell config.isAsync config.command config.directory)
      split
      · next refused error result =>
        rw [result] at adds
        exact adds.trans (logLine _ _ _)
      · next accepted task result =>
        rw [result] at adds
        exact (adds.trans (logLine _ _ _)).trans (inductionHypothesis _ _)

/-- No command tells a notice or counts. -/
theorem perform
    (loop : Loop)
    (command : Command) :
    Murmurs loop (loop.perform command).1 := by
  cases command with
  | add text withSeconds action =>
      have adds := addText loop text withSeconds action
      simp only [Loop.perform]
      split
      all_goals
        next result =>
          rw [result] at adds
          exact adds
  | addSchedule text withSeconds action =>
      simp only [Loop.perform]
      cases Schedule.parse text withSeconds with
      | error error => exact refl loop
      | ok schedule => exact addTask loop schedule action
  | make text withSeconds action =>
      simp only [Loop.perform]
      cases Schedule.parse text withSeconds with
      | error error => exact refl loop
      | ok schedule => exact makeTask loop schedule action
  | addHandle id =>
      simp only [Loop.perform, Loop.addHandle]
      cases loop.tasks.get? id with
      | none => exact refl loop
      | some task => exact register loop task
  | remove id => exact remove loop id
  | removeHandle id => exact remove loop id
  | removeMany ids => exact removeMany loop ids
  | removeHandles ids => exact removeMany loop ids
  | removeAll => exact rearrange loop [] rfl
  | find id => exact refl loop
  | setSchedule id text withSeconds =>
      simp only [Loop.perform]
      cases loop.tasks.get? id with
      | none => exact refl loop
      | some task =>
          cases Schedule.parse text withSeconds with
          | error error => exact refl loop
          | ok schedule => exact .silent rfl rfl rfl rfl
  | takeId => exact .silent rfl rfl rfl rfl
  | next base => exact refl loop
  | nextAll base limit => exact refl loop
  | refresh => exact (wake loop).trans (emit _ rfl)
  | stop => exact stop loop
  | cancel => exact cancelExternal loop
  | setClock clock => exact .silent rfl rfl rfl rfl
  | advance span => exact advance loop span
  | status => exact refl loop
  | options => exact refl loop
  | register tasks =>
      have registers := registerConfigured loop tasks 0
      simp only [Loop.perform]
      split
      all_goals
        next result =>
          rw [result] at registers
          exact registers
  | startWithin caller =>
      simp only [Loop.perform]
      split
      · exact logLine loop _ _
      · exact refl loop

/-- Only the status of the loop is answered as a status. -/
theorem status_of_perform
    (loop : Loop)
    (command : Command)
    {status : LoopStatus}
    (shown : (Record.answered command (loop.perform command).2).status? = some status) :
    status = loop.status := by
  cases command with
  | status => exact (Option.some.inj shown).symm
  | add text withSeconds action =>
      simp only [Loop.perform] at shown
      split at shown <;> cases shown
  | addSchedule text withSeconds action =>
      simp only [Loop.perform] at shown
      split at shown <;> cases shown
  | make text withSeconds action =>
      simp only [Loop.perform] at shown
      split at shown <;> cases shown
  | setSchedule id text withSeconds =>
      simp only [Loop.perform] at shown
      split at shown
      · cases shown
      · split at shown <;> cases shown
  | register tasks =>
      simp only [Loop.perform] at shown
      split at shown <;> cases shown
  | startWithin caller =>
      simp only [Loop.perform] at shown
      split at shown <;> cases shown
  | _ => cases shown

theorem execute
    (loop : Loop)
    (command : Command) :
    Murmurs loop (loop.execute command) := by
  have performs := perform loop command
  refine performs.trans (.tell _ _ rfl fun status shown => ?_)
  rw [status_of_perform loop command shown]
  exact ⟨performs.loopCount.symm, performs.cycleCount.symm⟩

theorem executeAll
    (loop : Loop)
    (commands : List Command) :
    Murmurs loop (loop.executeAll commands) := by
  induction commands generalizing loop with
  | nil => exact refl loop
  | cons command commands inductionHypothesis =>
      exact (execute loop command).trans (inductionHypothesis _)

theorem happen
    (loop : Loop)
    (happening : Happening) :
    Murmurs loop (loop.happen happening) := by
  cases happening with
  | commands commands => exact executeAll loop commands
  | stop => exact stop loop
  | cancel => exact cancelExternal loop

end Murmurs

/-! ### Counters and what is told of them -/

/-- The batches that were completed are counted from one without a gap, the counter is their number
and at most that of the scans, and every status that was shown says so of its moment. -/
structure Counted
    (loop : Loop) :
    Prop where
  counts : loop.notices.filterMap Notice.count? = List.range' 1 loop.loopCount
  bounded : loop.loopCount ≤ loop.cycleCount
  shown :
    ∀ before record status, before ++ [record] <+: loop.records.toList →
      record.status? = some status →
      status.loopCount = ((noticesOf before).filterMap Notice.count?).length ∧
        status.loopCount ≤ status.cycleCount

namespace Counted

variable {loop next : Loop}

/-- The counter is the number of batches that were completed. -/
theorem loopCount_eq
    (counted : loop.Counted) :
    loop.loopCount = (loop.notices.filterMap Notice.count?).length := by
  rw [counted.counts, List.length_range']

/-- Only the records and the counters matter. -/
theorem congr
    (counted : loop.Counted)
    (records : next.records = loop.records)
    (loopCount : next.loopCount = loop.loopCount)
    (cycleCount : loop.cycleCount ≤ next.cycleCount) :
    next.Counted where
  counts := by
    rw [notices, records, loopCount]
    exact counted.counts
  bounded := loopCount ▸ Nat.le_trans counted.bounded cycleCount
  shown := by
    rw [records]
    exact counted.shown

/-- A record that completes no batch may be added, if it shows the counters as they are. -/
theorem record
    (counted : loop.Counted)
    {record : Record}
    (uncounted : record.notice?.bind Notice.count? = none)
    (current :
      ∀ status, record.status? = some status →
        status.loopCount = loop.loopCount ∧ status.cycleCount = loop.cycleCount) :
    (loop.record record).Counted where
  counts := by
    have nothing : List.filterMap Notice.count? record.notice?.toList = [] := by
      cases notice : record.notice? with
      | none => rfl
      | some told =>
          have noCount : told.count? = none := by simpa [notice] using uncounted
          simp [noCount]
    have kept :
        (loop.record record).notices.filterMap Notice.count? =
          loop.notices.filterMap Notice.count? := by
      rw [notices_record, List.filterMap_append, nothing, List.append_nil]
    exact kept.trans counted.counts
  bounded := counted.bounded
  shown := by
    intro before shown status isPrefix shows
    have added : (loop.record record).records.toList = loop.records.toList ++ [record] := by
      simp [Loop.record]
    rw [added, List.prefix_concat_iff] at isPrefix
    rcases isPrefix with last | earlier
    · obtain ⟨rfl, same⟩ := List.append_inj' last rfl
      cases same
      obtain ⟨sameLoop, sameCycle⟩ := current status shows
      refine ⟨?_, ?_⟩
      · rw [sameLoop, counted.loopCount_eq]
        rfl
      · rw [sameLoop, sameCycle]
        exact counted.bounded
    · exact counted.shown before shown status earlier shows

theorem murmurs
    (counted : loop.Counted)
    (murmurs : Murmurs loop next) :
    next.Counted := by
  induction murmurs with
  | silent records loopCount cycleCount =>
      exact counted.congr records loopCount (Nat.le_of_eq cycleCount.symm)
  | tell loop record unnoticed current => exact counted.record (by simp [unnoticed]) current
  | trans _ _ before after => exact after (before counted)

/-- A scan is counted, too. -/
theorem scan
    (counted : loop.Counted) :
    loop.scan.1.Counted := by
  have begun :
      Counted
        { loop with
          cycleCount := loop.cycleCount + 1
          signals := loop.signals.after (.token .wait .wake) } :=
    counted.congr rfl rfl (Nat.le_succ _)
  exact begun.record rfl fun _ shown => by cases shown

/-- A batch is counted when it is completed, if there was a scan for it. -/
theorem complete
    (counted : loop.Counted)
    (scanned : loop.loopCount < loop.cycleCount)
    (size : Nat) :
    ({ loop with loopCount := loop.loopCount + 1 }.emit
      (.batchCompleted (loop.loopCount + 1) size)).Counted := by
  obtain ⟨log, told⟩ :=
    emit_eq_record { loop with loopCount := loop.loopCount + 1 }
      (.batchCompleted (loop.loopCount + 1) size)
  refine ⟨?_, ?_, ?_⟩
  · rw [notices_emit, List.filterMap_append]
    have before :
        List.filterMap Notice.count? (notices { loop with loopCount := loop.loopCount + 1 }) =
          List.range' 1 loop.loopCount := counted.counts
    rw [before, told]
    simp [Record.notice?, Notice.count?, Loop.record, List.range'_concat, Nat.add_comm]
  · rw [told]
    exact scanned
  · intro before shown status isPrefix shows
    have added :
        ({ loop with loopCount := loop.loopCount + 1 }.emit
            (.batchCompleted (loop.loopCount + 1) size)).records.toList =
          loop.records.toList ++ [.event (.batchCompleted (loop.loopCount + 1) size)] := by
      rw [told]
      simp [Loop.record]
    rw [added, List.prefix_concat_iff] at isPrefix
    rcases isPrefix with last | earlier
    · obtain ⟨-, same⟩ := List.append_inj' last rfl
      cases same
      cases shows
    · exact counted.shown before shown status earlier shows

end Counted

/-- A loop tells notices, none of which completes a batch, and becomes another. -/
structure Tells
    (loop : Loop)
    (told : List Notice)
    (next : Loop) :
    Prop where
  notices : next.notices = loop.notices ++ told
  loopCount : next.loopCount = loop.loopCount
  cycleCount : next.cycleCount = loop.cycleCount
  counted : loop.Counted → next.Counted

/-- Nothing is told, whatever is still to happen. -/
theorem Tells.silent
    {loop next : Loop}
    (records : next.records = loop.records)
    (loopCount : next.loopCount = loop.loopCount)
    (cycleCount : next.cycleCount = loop.cycleCount) :
    Tells loop [] next where
  notices := by
    simp only [Loop.notices, records, List.append_nil]
  loopCount := loopCount
  cycleCount := cycleCount
  counted := fun counted => counted.congr records loopCount (Nat.le_of_eq cycleCount.symm)

theorem Murmurs.tells
    {loop next : Loop}
    (murmurs : Murmurs loop next) :
    Tells loop [] next where
  notices := murmurs.notices.trans (List.append_nil _).symm
  loopCount := murmurs.loopCount
  cycleCount := murmurs.cycleCount
  counted := fun counted => counted.murmurs murmurs

namespace Tells

theorem refl
    (loop : Loop) :
    Tells loop [] loop :=
  (Murmurs.refl loop).tells

theorem trans
    {first second third : Loop}
    {leading trailing : List Notice}
    (before : Tells first leading second)
    (after : Tells second trailing third) :
    Tells first (leading ++ trailing) third where
  notices := by rw [after.notices, before.notices, List.append_assoc]
  loopCount := after.loopCount.trans before.loopCount
  cycleCount := after.cycleCount.trans before.cycleCount
  counted := fun counted => after.counted (before.counted counted)

/-- What follows is told in the background. -/
theorem murmurs
    {first second third : Loop}
    {told : List Notice}
    (before : Tells first told second)
    (after : Murmurs second third) :
    Tells first told third :=
  List.append_nil told ▸ before.trans after.tells

/-- A notice that is no event of the loop. -/
theorem record
    (loop : Loop)
    {record : Record}
    {notice : Notice}
    (isNotice : record.notice? = some notice)
    (uncounted : notice.count? = none)
    (noStatus : record.status? = none) :
    Tells loop [notice] (loop.record record) where
  notices := by rw [notices_record, isNotice, Option.toList_some]
  loopCount := rfl
  cycleCount := rfl
  counted := fun counted =>
    counted.record (by rw [isNotice]; exact uncounted) fun status shown => by
      rw [noStatus] at shown
      cases shown

/-- A notice that is an event of the loop. -/
theorem emit
    (loop : Loop)
    {event : LoopEvent}
    {notice : Notice}
    (isNotice : (Record.event event).notice? = some notice)
    (uncounted : notice.count? = none) :
    Tells loop [notice] (loop.emit event) := by
  obtain ⟨log, told⟩ := loop.emit_eq_record event
  rw [told]
  have recorded : Tells loop [notice] (loop.record (.event event)) :=
    record loop isNotice uncounted rfl
  exact recorded.murmurs (.silent rfl rfl rfl rfl)

/-- An action that is not awaited tells nothing of itself. -/
theorem runDetached
    (loop : Loop)
    (id : Nat)
    (action : Action) :
    Tells loop [] (loop.runDetached id action) := by
  obtain ⟨told, launched, script, runs, log, detached⟩ := loop.runDetached_shape id action
  rw [detached]
  have recorded : Murmurs loop told := by
    rcases launched with rfl | rfl
    · exact .refl told
    · exact .tell loop _ rfl fun _ shown => by cases shown
  exact recorded.tells.trans (.silent rfl rfl rfl)

end Tells

end Loop

end Cadence
