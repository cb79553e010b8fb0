import Cadence.Proofs.Loop.Notices
import Cadence.Proofs.Table
import Mathlib.Data.List.Dedup
import Mathlib.Data.List.Nodup
import Mathlib.Logic.Function.Basic

namespace Cadence

/-!
# The registry as an ordered map

To its callers the registry is a map from ids to tasks that keeps the order of
insertion.  A ledger is that map without the loop around it: what every command
does to it and which answer it has to give.  Each command on a loop does to the
registry what it does to the ledger that agrees with it, gives the answer that the
ledger has for it, and tells events that account for the change in size.
-/

/-- An insertion-ordered map of tasks: the ids in it, and what is known of the tasks and ids outside
it. -/
structure Ledger where
  /-- The ids in the map, in the order of insertion. -/
  order : List Nat
  /-- The texts of the schedules of all tasks that were made, by their ids. -/
  texts : Nat → Option String
  /-- All ids that were handed out, the oldest first. -/
  issued : List Nat
  nextId : Nat

namespace Ledger

/-- The ledger before anything was made; ids are handed out from the given one on. -/
def opening (nextId : Nat) : Ledger :=
  ⟨[], fun _ => none, [], nextId⟩

/-- Hands out the next id. -/
def issue (ledger : Ledger) : Ledger :=
  { ledger with issued := ledger.issued ++ [ledger.nextId], nextId := ledger.nextId + 1 }

/-- Makes a task with the next id. -/
def make (ledger : Ledger) (schedule : Schedule) : Ledger :=
  { ledger.issue with
    texts := Function.update ledger.texts ledger.nextId (some schedule.raw) }

/-- Inserts an id at the end. -/
def insert (ledger : Ledger) (id : Nat) : Ledger :=
  { ledger with order := ledger.order ++ [id] }

/-- Keeps some of the ids, in their order. -/
def keep (ledger : Ledger) (kept : Nat → Bool) : Ledger :=
  { ledger with order := ledger.order.filter kept }

/-- Makes a task and inserts it. -/
def add (ledger : Ledger) (schedule : Schedule) : Ledger :=
  (ledger.make schedule).insert ledger.nextId

/-- Adds the enabled ones of configured tasks, up to the first that cannot be accepted. -/
def addAll (ledger : Ledger) : List TaskConfig → Ledger
  | [] => ledger
  | config :: configs =>
      if !config.enabled then
        ledger.addAll configs
      else if config.command.isEmpty then
        ledger
      else
        match Schedule.parse config.schedule config.withSeconds with
        | .error _ => ledger
        | .ok schedule => (ledger.add schedule).addAll configs

/-- The ledger after a command. -/
def after (ledger : Ledger) : Command → Ledger
  | .add text withSeconds _ | .addSchedule text withSeconds _ =>
      match Schedule.parse text withSeconds with
      | .error _ => ledger
      | .ok schedule => ledger.add schedule
  | .make text withSeconds _ =>
      match Schedule.parse text withSeconds with
      | .error _ => ledger
      | .ok schedule => ledger.make schedule
  | .addHandle id =>
      if (ledger.texts id).isSome ∧ id ∉ ledger.order then ledger.insert id else ledger
  | .remove id | .removeHandle id => ledger.keep (· ≠ id)
  | .removeMany ids | .removeHandles ids => ledger.keep fun id => id ∉ ids
  | .removeAll => ledger.keep fun _ => false
  | .setSchedule id text withSeconds =>
      match Schedule.parse text withSeconds with
      | .error _ => ledger
      | .ok schedule =>
          if (ledger.texts id).isSome then
            { ledger with texts := Function.update ledger.texts id (some schedule.raw) }
          else
            ledger
  | .takeId => ledger.issue
  | .register configs => ledger.addAll configs
  | _ => ledger

/-- The answers that a command may be given.  A task is made with the next id unless its schedule is
refused; a handle is added if it is known and absent; removals answer whether, or how many, distinct
registered tasks were meant.  No other command answers with a task that was made. -/
def Answers (ledger : Ledger) (command : Command) (reply : Reply) : Prop :=
  match command with
  | .add text withSeconds action | .addSchedule text withSeconds action
  | .make text withSeconds action =>
      match Schedule.parse text withSeconds with
      | .error error => reply = .rejected error
      | .ok _ => reply = .made ledger.nextId action.isAsync
  | .addHandle id => reply = .flag (decide ((ledger.texts id).isSome ∧ id ∉ ledger.order))
  | .remove id | .removeHandle id => reply = .flag (decide (id ∈ ledger.order))
  | .removeMany ids | .removeHandles ids =>
      reply = .count (ids.dedup.filter fun id => id ∈ ledger.order).length
  | .removeAll => reply = .count ledger.order.length
  | .find id =>
      reply =
        .task
          (if id ∈ ledger.order then
            (ledger.texts id).map fun text => toString id ++ " (" ++ text ++ ")"
          else
            none)
  | .setSchedule id text withSeconds =>
      match ledger.texts id, Schedule.parse text withSeconds with
      | none, _ => reply = .swapped none
      | some _, .error error => reply = .rejected error
      | some old, .ok schedule => reply = .swapped (some (old, schedule.raw))
  | .takeId => reply = .count ledger.nextId
  | .status => ∃ status, reply = .status status ∧ status.tasks = ledger.order.length
  | _ => ∀ id isAsync, reply ≠ .made id isAsync

/-! ### What holds of every ledger -/

/-- Ids are in the map at most once and belong to tasks that were made, and every id was handed out
once only. -/
structure Kept (ledger : Ledger) : Prop where
  distinct : ledger.order.Nodup
  registered_known : ∀ id ∈ ledger.order, (ledger.texts id).isSome
  known_issued : ∀ id, (ledger.texts id).isSome → id ∈ ledger.issued
  issued_increasing : ledger.issued.Pairwise (· < ·)
  issued_lt : ∀ id ∈ ledger.issued, id < ledger.nextId

namespace Kept

variable {ledger : Ledger}

theorem opening (nextId : Nat) : (Ledger.opening nextId).Kept where
  distinct := List.nodup_nil
  registered_known := fun _ member => by cases member
  known_issued := fun _ known => by cases known
  issued_increasing := .nil
  issued_lt := fun _ member => by cases member

/-- An id that is handed out was not handed out before. -/
theorem issue
    (kept : ledger.Kept) :
    ledger.issue.Kept where
  distinct := kept.distinct
  registered_known := kept.registered_known
  known_issued := fun id known => List.mem_append_left _ (kept.known_issued id known)
  issued_increasing := by
    refine List.pairwise_append.mpr ⟨kept.issued_increasing, List.pairwise_singleton _ _, ?_⟩
    intro id earlier other isNext
    rw [List.mem_singleton.mp isNext]
    exact kept.issued_lt id earlier
  issued_lt := by
    intro id member
    rcases List.mem_append.mp member with earlier | isNext
    · exact Nat.lt_succ_of_lt (kept.issued_lt id earlier)
    · rw [List.mem_singleton.mp isNext]
      exact Nat.lt_succ_self _

/-- The next id belongs to no task. -/
theorem nextId_unknown
    (kept : ledger.Kept) :
    ledger.texts ledger.nextId = none := by
  cases known : ledger.texts ledger.nextId with
  | none => rfl
  | some text =>
      have issued := kept.known_issued ledger.nextId (by simp [known])
      exact absurd (kept.issued_lt _ issued) (Nat.lt_irrefl _)

theorem nextId_absent
    (kept : ledger.Kept) :
    ledger.nextId ∉ ledger.order := by
  intro registered
  have known := kept.registered_known _ registered
  rw [kept.nextId_unknown] at known
  cases known

theorem make
    (kept : ledger.Kept)
    (schedule : Schedule) :
    (ledger.make schedule).Kept where
  distinct := kept.distinct
  registered_known := by
    intro id registered
    have other : id ≠ ledger.nextId := fun same => kept.nextId_absent (same ▸ registered)
    simp only [Ledger.make, Function.update_of_ne other]
    exact kept.registered_known id registered
  known_issued := by
    intro id known
    by_cases isNext : id = ledger.nextId
    · exact List.mem_append_right _ (List.mem_singleton.mpr isNext)
    · simp only [Ledger.make, Function.update_of_ne isNext] at known
      exact List.mem_append_left _ (kept.known_issued id known)
  issued_increasing := kept.issue.issued_increasing
  issued_lt := kept.issue.issued_lt

theorem insert
    (kept : ledger.Kept)
    {id : Nat}
    (known : (ledger.texts id).isSome)
    (absent : id ∉ ledger.order) :
    (ledger.insert id).Kept where
  distinct := by
    refine List.nodup_append.mpr ⟨kept.distinct, List.nodup_singleton id, ?_⟩
    rintro other registered new isNew rfl
    exact absent (List.mem_singleton.mp isNew ▸ registered)
  registered_known := by
    intro other member
    rcases List.mem_append.mp member with registered | isNew
    · exact kept.registered_known other registered
    · rwa [List.mem_singleton.mp isNew]
  known_issued := kept.known_issued
  issued_increasing := kept.issued_increasing
  issued_lt := kept.issued_lt

theorem add
    (kept : ledger.Kept)
    (schedule : Schedule) :
    (ledger.add schedule).Kept :=
  (kept.make schedule).insert (by simp [Ledger.make]) kept.nextId_absent

theorem keep
    (kept : ledger.Kept)
    (choose : Nat → Bool) :
    (ledger.keep choose).Kept where
  distinct := kept.distinct.filter _
  registered_known := fun id member => kept.registered_known id (List.mem_filter.mp member).1
  known_issued := kept.known_issued
  issued_increasing := kept.issued_increasing
  issued_lt := kept.issued_lt

/-- A known task may have another text. -/
theorem rewrite
    (kept : ledger.Kept)
    {id : Nat}
    (known : (ledger.texts id).isSome)
    (text : String) :
    { ledger with texts := Function.update ledger.texts id (some text) }.Kept where
  distinct := kept.distinct
  registered_known := by
    intro other registered
    by_cases same : other = id
    · simp [same]
    · simp only [Function.update_of_ne same]
      exact kept.registered_known other registered
  known_issued := by
    intro other otherKnown
    by_cases same : other = id
    · exact same ▸ kept.known_issued id known
    · simp only [Function.update_of_ne same] at otherKnown
      exact kept.known_issued other otherKnown
  issued_increasing := kept.issued_increasing
  issued_lt := kept.issued_lt

end Kept

end Ledger

/-! ### What is told of the size -/

/-- By how much the registry has grown when a record is made. -/
def Record.gain : Record → Int
  | .event (.taskAdded _ _) => 1
  | .event (.taskRemoved _ _) => -1
  | .event (.tasksRemoved count) => -count
  | .event (.allTasksRemoved count) => -count
  | _ => 0

/-- The tasks added less those removed, as the records tell it. -/
def balance : List Record → Int
  | [] => 0
  | record :: records => record.gain + balance records

@[simp]
theorem balance_append (earlier later : List Record) :
    balance (earlier ++ later) = balance earlier + balance later := by
  induction earlier with
  | nil => exact (Int.zero_add _).symm
  | cons record records inductionHypothesis =>
      rw [List.cons_append, balance, balance, inductionHypothesis, Int.add_assoc]

namespace Loop

/-- A loop whose registry is a ledger's map. -/
structure Agrees (loop : Loop) (ledger : Ledger) : Prop where
  registry : loop.registry = ledger.order
  texts : ∀ id, (loop.tasks.get? id).map (fun task => task.schedule.raw) = ledger.texts id
  keyed : ∀ id task, loop.tasks.get? id = some task → task.id = id
  nextId : loop.nextId = ledger.nextId

/-- Only the registry, the tasks and the next id matter. -/
theorem Agrees.congr
    {loop other : Loop}
    {ledger : Ledger}
    (agrees : loop.Agrees ledger)
    (sameRegistry : other.registry = loop.registry)
    (sameTasks : other.tasks = loop.tasks)
    (sameNext : other.nextId = loop.nextId) :
    other.Agrees ledger where
  registry := sameRegistry.trans agrees.registry
  texts := sameTasks ▸ agrees.texts
  keyed := sameTasks ▸ agrees.keyed
  nextId := sameNext.trans agrees.nextId

/-- From one loop to another the registry has changed as a ledger has, and events were told that
account for the change in size. -/
structure Deals (before after : Loop) (ledger next : Ledger) : Prop where
  agrees : after.Agrees next
  kept : next.Kept
  told :
    ∃ events : List LoopEvent,
      after.records.toList = before.records.toList ++ events.map Record.event ∧
        balance (events.map Record.event) = next.order.length - ledger.order.length

namespace Deals

variable {loop middle last : Loop} {ledger next final : Ledger}

theorem refl
    (agrees : loop.Agrees ledger)
    (kept : ledger.Kept) :
    Deals loop loop ledger ledger :=
  ⟨agrees, kept, [], by simp, by simp [balance]⟩

theorem trans
    (first : Deals loop middle ledger next)
    (later : Deals middle last next final) :
    Deals loop last ledger final := by
  obtain ⟨-, -, events, records, gained⟩ := first
  obtain ⟨agrees, kept, others, otherRecords, otherGained⟩ := later
  refine ⟨agrees, kept, events ++ others, ?_, ?_⟩
  · rw [otherRecords, records, List.map_append, List.append_assoc]
  · rw [List.map_append, balance_append, gained, otherGained]
    omega

/-- What touches neither the registry nor the records changes nothing of this. -/
theorem congr
    (deals : Deals loop middle ledger next)
    (sameRegistry : last.registry = middle.registry)
    (sameTasks : last.tasks = middle.tasks)
    (sameNext : last.nextId = middle.nextId)
    (sameRecords : last.records = middle.records) :
    Deals loop last ledger next :=
  ⟨deals.agrees.congr sameRegistry sameTasks sameNext, deals.kept, sameRecords ▸ deals.told⟩

theorem logLine
    (deals : Deals loop middle ledger next)
    (level : LogLevel)
    (text : String) :
    Deals loop (middle.logLine level text) ledger next := by
  obtain ⟨log, logged⟩ := middle.logLine_shape level text
  rw [logged]
  exact deals.congr rfl rfl rfl rfl

/-- A change of the registry is told by an event that accounts for it. -/
theorem rearrange
    (agrees : loop.Agrees ledger)
    {order : List Nat}
    (kept : { ledger with order := order }.Kept)
    (changed : Loop)
    (registry : changed.registry = order)
    (sameTasks : changed.tasks = loop.tasks)
    (sameNext : changed.nextId = loop.nextId)
    (sameRecords : changed.records = loop.records)
    {event : LoopEvent}
    (gained : (Record.event event).gain = order.length - ledger.order.length) :
    Deals loop (changed.emit event) ledger { ledger with order := order } := by
  obtain ⟨log, told⟩ := changed.emit_eq_record event
  rw [told]
  refine ⟨⟨registry, sameTasks ▸ agrees.texts, sameTasks ▸ agrees.keyed,
    sameNext.trans agrees.nextId⟩, kept, [event], ?_, ?_⟩
  · simp [Loop.record, sameRecords]
  · simpa [balance] using gained

/-- A change of the registry that wakes the loop and is told. -/
theorem wake
    (agrees : loop.Agrees ledger)
    {order : List Nat}
    (kept : { ledger with order := order }.Kept)
    {event : LoopEvent}
    (gained : (Record.event event).gain = order.length - ledger.order.length) :
    Deals loop ({ loop with registry := order }.wake.emit event) ledger
      { ledger with order := order } := by
  obtain ⟨signals, woken⟩ := wake_shape { loop with registry := order }
  rw [woken]
  exact rearrange agrees kept { loop with registry := order, signals := signals } rfl rfl rfl rfl
    gained

end Deals

/-! ### What each command does -/

section Commands

variable {loop : Loop} {ledger : Ledger}

theorem deals_makeTask
    (agrees : loop.Agrees ledger)
    (kept : ledger.Kept)
    (schedule : Schedule)
    (action : Action) :
    Deals loop (loop.makeTask schedule action).1 ledger (ledger.make schedule) := by
  refine ⟨⟨agrees.registry, fun id => ?_, fun id task found => ?_, ?_⟩, kept.make schedule, [],
    by simp [makeTask], by simp [balance, Ledger.make, Ledger.issue]⟩
  · by_cases isNext : id = loop.nextId
    · subst isNext
      simp [makeTask, Ledger.make, agrees.nextId]
    · have otherId : id ≠ ledger.nextId := agrees.nextId ▸ isNext
      simp only [makeTask, Ledger.make, Function.update_of_ne otherId]
      rw [Table.get?_insert_other _ isNext]
      exact agrees.texts id
  · rcases Table.get?_of_insert found with ⟨same, rfl⟩ | old
    · exact same.symm
    · exact agrees.keyed id task old
  · simp [makeTask, Ledger.make, Ledger.issue, agrees.nextId]

/-- A task that is known is registered unless it is registered already. -/
theorem deals_register
    (agrees : loop.Agrees ledger)
    (kept : ledger.Kept)
    {task : Task}
    (known : (ledger.texts task.id).isSome) :
    Deals loop (loop.register task).1 ledger
        (if task.id ∈ ledger.order then ledger else ledger.insert task.id) ∧
      (loop.register task).2 = decide (task.id ∉ ledger.order) := by
  unfold register
  rw [agrees.registry]
  split
  · next present => exact ⟨.refl agrees kept, by simp [present]⟩
  · next absent =>
      have gained : (1 : Int) = (ledger.order ++ [task.id]).length - ledger.order.length := by
        rw [List.length_append, List.length_singleton]
        omega
      exact ⟨.wake agrees (kept.insert known absent) gained, by simp [absent]⟩

theorem deals_addTask
    (agrees : loop.Agrees ledger)
    (kept : ledger.Kept)
    (schedule : Schedule)
    (action : Action) :
    Deals loop (loop.addTask schedule action).1 ledger (ledger.add schedule) ∧
      (loop.addTask schedule action).2.id = ledger.nextId := by
  have made := deals_makeTask agrees kept schedule action
  have sameId : (loop.makeTask schedule action).2.id = ledger.nextId := agrees.nextId
  have known :
      ((ledger.make schedule).texts (loop.makeTask schedule action).2.id).isSome := by
    simp [sameId, Ledger.make]
  have registered := (deals_register made.agrees made.kept known).1
  have absent : ledger.nextId ∉ (ledger.make schedule).order := kept.nextId_absent
  rw [sameId, if_neg absent] at registered
  exact ⟨made.trans registered, sameId⟩

/-- A refused text is only logged. -/
theorem addText_of_error
    (loop : Loop)
    {text : String}
    {withSeconds : Bool}
    {error : ParseError}
    (refused : Schedule.parse text withSeconds = .error error)
    (action : Action) :
    ∃ log, loop.addText text withSeconds action = ({ loop with log := log }, .error error) := by
  unfold addText
  simp only [refused]
  obtain ⟨log, logged⟩ :=
    loop.logLine_shape .warn ("Rejected task schedule '" ++ text ++ "': " ++ error.message)
  exact ⟨log, by rw [logged]⟩

theorem addText_of_ok
    (loop : Loop)
    {text : String}
    {withSeconds : Bool}
    {schedule : Schedule}
    (parsed : Schedule.parse text withSeconds = .ok schedule)
    (action : Action) :
    loop.addText text withSeconds action =
      ((loop.addTask schedule action).1, .ok (loop.addTask schedule action).2) := by
  unfold addText
  simp only [parsed]

/-- Configured tasks are added one after another, up to the first that cannot be accepted. -/
theorem deals_registerConfigured
    (agrees : loop.Agrees ledger)
    (kept : ledger.Kept)
    (configs : List TaskConfig)
    (added : Nat) :
    Deals loop (loop.registerConfigured configs added).1 ledger (ledger.addAll configs) := by
  induction configs generalizing loop ledger added with
  | nil => exact .refl agrees kept
  | cons config configs inductionHypothesis =>
      have same := Deals.refl agrees kept
      rw [registerConfigured, Ledger.addAll]
      split
      · have skipped := same.logLine .debug ("Skipping disabled task " ++ config.name)
        exact skipped.trans (inductionHypothesis skipped.agrees kept added)
      split
      · exact same.logLine _ _
      cases parsed : Schedule.parse config.schedule config.withSeconds with
      | error error =>
          obtain ⟨log, refused⟩ := loop.addText_of_error parsed
            (.shell config.isAsync config.command config.directory)
          have unchanged : Deals loop { loop with log := log } ledger ledger :=
            same.congr rfl rfl rfl rfl
          simp only [refused]
          exact unchanged.logLine _ _
      | ok schedule =>
          have adds := (deals_addTask agrees kept schedule
            (.shell config.isAsync config.command config.directory)).1.logLine .info
              ("Registered " ++ config.name ++ " as task " ++ toString
                (loop.addTask schedule
                  (.shell config.isAsync config.command config.directory)).2.id)
          simp only [loop.addText_of_ok parsed]
          exact adds.trans (inductionHypothesis adds.agrees adds.kept (added + 1))

theorem deals_addHandle
    (agrees : loop.Agrees ledger)
    (kept : ledger.Kept)
    (id : Nat) :
    Deals loop (loop.addHandle id).1 ledger (ledger.after (.addHandle id)) ∧
      (loop.addHandle id).2 = decide ((ledger.texts id).isSome ∧ id ∉ ledger.order) := by
  have sameText := agrees.texts id
  unfold addHandle Ledger.after
  cases known : loop.tasks.get? id with
  | none =>
      rw [known] at sameText
      have unknown : ledger.texts id = none := sameText.symm
      simp only [unknown]
      exact ⟨by simpa using Deals.refl agrees kept, by simp⟩
  | some task =>
      rw [known] at sameText
      have own := agrees.keyed id task known
      have isKnown : (ledger.texts id).isSome := by simp [← sameText]
      subst own
      obtain ⟨deals, reply⟩ := deals_register agrees kept isKnown
      refine ⟨?_, by simp [reply, isKnown]⟩
      by_cases present : task.id ∈ ledger.order
      · simpa [present] using deals
      · simpa [present, isKnown] using deals

theorem deals_remove
    (agrees : loop.Agrees ledger)
    (kept : ledger.Kept)
    (id : Nat) :
    Deals loop (loop.remove id).1 ledger (ledger.keep (· ≠ id)) ∧
      (loop.remove id).2 = decide (id ∈ ledger.order) := by
  unfold remove
  rw [agrees.registry]
  split
  · next present =>
      -- The id is there once, so that one less remains.
      have gained :
          (-1 : Int) = (ledger.order.filter (· ≠ id)).length - ledger.order.length := by
        have remaining : ledger.order.filter (· ≠ id) = ledger.order.erase id := by
          rw [kept.distinct.erase_eq_filter]
          exact List.filter_congr fun other _ => Bool.eq_iff_iff.mpr (by simp)
        have given := List.length_pos_of_mem present
        rw [remaining, List.length_erase_of_mem present]
        omega
      exact ⟨.wake agrees (kept.keep _) gained, by simp [present]⟩
  · next absent =>
      have whole : ledger.keep (· ≠ id) = ledger := by
        have all : ledger.order.filter (· ≠ id) = ledger.order := by
          apply List.filter_eq_self.mpr
          intro other registered
          have different : other ≠ id := fun same => absent (same ▸ registered)
          simpa using different
        simp only [Ledger.keep, all]
      rw [whole]
      exact ⟨.refl agrees kept, by simp [absent]⟩

/-- As many are removed as are registered among the distinct ids that are given. -/
theorem length_removed
    (kept : ledger.Kept)
    (ids : List Nat) :
    ledger.order.length - (ledger.order.filter fun id => id ∉ ids).length =
      (ids.dedup.filter fun id => id ∈ ledger.order).length := by
  have split := List.length_eq_length_filter_add (l := ledger.order) fun id => decide (id ∈ ids)
  have removed :
      (ledger.order.filter fun id => id ∈ ids).Perm
        (ids.dedup.filter fun id => id ∈ ledger.order) := by
    apply (List.perm_ext_iff_of_nodup (kept.distinct.filter _) (ids.nodup_dedup.filter _)).mpr
    intro id
    simp [and_comm]
  have negated :
      (ledger.order.filter fun id => !decide (id ∈ ids)) =
        ledger.order.filter fun id => id ∉ ids := by
    simp
  rw [negated, removed.length_eq] at split
  omega

theorem deals_removeMany
    (agrees : loop.Agrees ledger)
    (kept : ledger.Kept)
    (ids : List Nat) :
    Deals loop (loop.removeMany ids).1 ledger (ledger.keep fun id => id ∉ ids) ∧
      (loop.removeMany ids).2 = (ids.dedup.filter fun id => id ∈ ledger.order).length := by
  have count := length_removed kept ids
  have fewer := List.length_filter_le (fun id => decide (id ∉ ids)) ledger.order
  have gained :
      (Record.event (.tasksRemoved
        (ledger.order.length - (ledger.order.filter fun id => id ∉ ids).length))).gain =
          ((ledger.order.filter fun id => id ∉ ids).length : Int) - ledger.order.length := by
    simp only [Record.gain]
    omega
  unfold removeMany
  rw [agrees.registry]
  refine ⟨?_, count⟩
  simp only
  split
  · exact .wake agrees (kept.keep _) gained
  · exact .rearrange agrees (kept.keep _)
      { loop with registry := ledger.order.filter fun id => id ∉ ids } rfl rfl rfl rfl gained

theorem deals_removeAll
    (agrees : loop.Agrees ledger)
    (kept : ledger.Kept) :
    Deals loop loop.removeAll.1 ledger (ledger.keep fun _ => false) ∧
      loop.removeAll.2 = ledger.order.length := by
  have nothing : (ledger.order.filter fun _ => false) = [] := by simp
  have emptied : ledger.keep (fun _ => false) = { ledger with order := [] } := by
    simp only [Ledger.keep, nothing]
  have keptEmpty : { ledger with order := [] }.Kept := emptied ▸ kept.keep _
  rw [emptied]
  unfold removeAll
  rw [agrees.registry]
  exact ⟨.wake agrees keptEmpty (by simp [Record.gain]), rfl⟩

/-- Another schedule for a task is another text in the ledger. -/
theorem deals_setSchedule
    (agrees : loop.Agrees ledger)
    (kept : ledger.Kept)
    {id : Nat}
    {task : Task}
    (known : loop.tasks.get? id = some task)
    (schedule : Schedule) :
    Deals loop (loop.setSchedule task schedule) ledger
      { ledger with texts := Function.update ledger.texts id (some schedule.raw) } := by
  have own := agrees.keyed id task known
  have isKnown : (ledger.texts id).isSome := by simp [← agrees.texts id, known]
  subst own
  refine ⟨⟨agrees.registry, fun other => ?_, fun other found isFound => ?_, agrees.nextId⟩,
    kept.rewrite isKnown schedule.raw, [], by simp [setSchedule], by simp [balance]⟩
  · by_cases same : other = task.id
    · subst same
      simp [setSchedule]
    · simp only [setSchedule, Function.update_of_ne same]
      rw [Table.get?_insert_other _ same]
      exact agrees.texts other
  · rcases Table.get?_of_insert isFound with ⟨same, rfl⟩ | old
    · exact same.symm
    · exact agrees.keyed other found old

theorem deals_takeId
    (agrees : loop.Agrees ledger)
    (kept : ledger.Kept) :
    Deals loop { loop with nextId := loop.nextId + 1 } ledger ledger.issue where
  agrees := ⟨agrees.registry, agrees.texts, agrees.keyed, congrArg (· + 1) agrees.nextId⟩
  kept := kept.issue
  told := ⟨[], by simp, by simp [balance, Ledger.issue]⟩

theorem deals_refresh
    (agrees : loop.Agrees ledger)
    (kept : ledger.Kept) :
    Deals loop loop.refresh ledger ledger := by
  obtain ⟨signals, woken⟩ := loop.wake_shape
  have gained : (Record.event .tasksRefreshed).gain =
      (ledger.order.length : Int) - ledger.order.length := by
    simp [Record.gain]
  unfold refresh
  rw [woken]
  exact .rearrange agrees kept { loop with signals := signals } agrees.registry rfl rfl rfl gained

theorem deals_stop
    (agrees : loop.Agrees ledger)
    (kept : ledger.Kept) :
    Deals loop loop.stop ledger ledger := by
  have same := Deals.refl agrees kept
  unfold Loop.stop
  split
  · exact same.congr rfl rfl rfl rfl
  · exact same

/-- A registered task is found, by the text that the ledger has of it. -/
theorem Agrees.found
    (agrees : loop.Agrees ledger)
    (id : Nat) :
    (loop.find? id).map Task.text =
      if id ∈ ledger.order then
        (ledger.texts id).map fun text => toString id ++ " (" ++ text ++ ")"
      else
        none := by
  rw [find?, agrees.registry, ← agrees.texts id]
  split
  · rw [Option.map_map]
    cases known : loop.tasks.get? id with
    | none => rfl
    | some task => simp [Task.text, agrees.keyed id task known]
  · rfl

/-- What a command does to a loop is what it does to the ledger, and its answer is the ledger's. -/
theorem deals_perform
    (agrees : loop.Agrees ledger)
    (kept : ledger.Kept)
    (command : Command) :
    Deals loop (loop.perform command).1 ledger (ledger.after command) ∧
      ledger.Answers command (loop.perform command).2 := by
  have same := Deals.refl agrees kept
  cases command with
  | add text withSeconds action =>
      cases parsed : Schedule.parse text withSeconds with
      | error error =>
          obtain ⟨log, refused⟩ := loop.addText_of_error parsed action
          simp only [perform, refused, Ledger.after, Ledger.Answers, parsed]
          exact ⟨same.congr rfl rfl rfl rfl, trivial⟩
      | ok schedule =>
          obtain ⟨deals, isNext⟩ := deals_addTask agrees kept schedule action
          simp only [perform, loop.addText_of_ok parsed, Ledger.after, Ledger.Answers, parsed]
          exact ⟨deals, by rw [madeReply, isNext]; rfl⟩
  | addSchedule text withSeconds action =>
      cases parsed : Schedule.parse text withSeconds with
      | error error =>
          simp only [perform, Ledger.after, Ledger.Answers, parsed]
          exact ⟨same, trivial⟩
      | ok schedule =>
          obtain ⟨deals, isNext⟩ := deals_addTask agrees kept schedule action
          simp only [perform, Ledger.after, Ledger.Answers, parsed]
          exact ⟨deals, by rw [madeReply, isNext]; rfl⟩
  | make text withSeconds action =>
      cases parsed : Schedule.parse text withSeconds with
      | error error =>
          simp only [perform, Ledger.after, Ledger.Answers, parsed]
          exact ⟨same, trivial⟩
      | ok schedule =>
          simp only [perform, Ledger.after, Ledger.Answers, parsed]
          refine ⟨deals_makeTask agrees kept schedule action, ?_⟩
          rw [← agrees.nextId]
          rfl
  | addHandle id =>
      obtain ⟨deals, reply⟩ := deals_addHandle agrees kept id
      exact ⟨deals, congrArg Reply.flag reply⟩
  | remove id =>
      obtain ⟨deals, reply⟩ := deals_remove agrees kept id
      exact ⟨deals, congrArg Reply.flag reply⟩
  | removeHandle id =>
      obtain ⟨deals, reply⟩ := deals_remove agrees kept id
      exact ⟨deals, congrArg Reply.flag reply⟩
  | removeMany ids =>
      obtain ⟨deals, reply⟩ := deals_removeMany agrees kept ids
      exact ⟨deals, congrArg Reply.count reply⟩
  | removeHandles ids =>
      obtain ⟨deals, reply⟩ := deals_removeMany agrees kept ids
      exact ⟨deals, congrArg Reply.count reply⟩
  | removeAll =>
      obtain ⟨deals, reply⟩ := deals_removeAll agrees kept
      exact ⟨deals, congrArg Reply.count reply⟩
  | find id => exact ⟨same, congrArg Reply.task (agrees.found id)⟩
  | setSchedule id text withSeconds =>
      have sameText := agrees.texts id
      cases known : loop.tasks.get? id with
      | none =>
          rw [known] at sameText
          have unknown : ledger.texts id = none := sameText.symm
          cases parsed : Schedule.parse text withSeconds <;>
            simp only [perform, known, Ledger.after, Ledger.Answers, parsed, unknown]
          · exact ⟨same, trivial⟩
          · exact ⟨by simpa using same, trivial⟩
      | some task =>
          rw [known] at sameText
          have isKnown : ledger.texts id = some task.schedule.raw := sameText.symm
          cases parsed : Schedule.parse text withSeconds with
          | error error =>
              simp only [perform, known, Ledger.after, Ledger.Answers, parsed, isKnown]
              exact ⟨same, trivial⟩
          | ok schedule =>
              simp only [perform, known, Ledger.after, Ledger.Answers, parsed, isKnown]
              exact ⟨by simpa using deals_setSchedule agrees kept known schedule, trivial⟩
  | takeId => exact ⟨deals_takeId agrees kept, congrArg Reply.count agrees.nextId⟩
  | refresh => exact ⟨deals_refresh agrees kept, fun _ _ => Reply.noConfusion⟩
  | stop => exact ⟨deals_stop agrees kept, fun _ _ => Reply.noConfusion⟩
  | cancel => exact ⟨same.congr rfl rfl rfl rfl, fun _ _ => Reply.noConfusion⟩
  | setClock clock => exact ⟨same.congr rfl rfl rfl rfl, fun _ _ => Reply.noConfusion⟩
  | advance span => exact ⟨same.congr rfl rfl rfl rfl, fun _ _ => Reply.noConfusion⟩
  | next base => exact ⟨same, fun _ _ => Reply.noConfusion⟩
  | nextAll base limit => exact ⟨same, fun _ _ => Reply.noConfusion⟩
  | status => exact ⟨same, loop.status, rfl, congrArg List.length agrees.registry⟩
  | options => exact ⟨same, fun _ _ => Reply.noConfusion⟩
  | register tasks =>
      have deals := deals_registerConfigured agrees kept tasks 0
      simp only [perform]
      split
      all_goals
        next result =>
          rw [result] at deals
          exact ⟨deals, fun _ _ => Reply.noConfusion⟩
  | startWithin caller =>
      simp only [perform]
      split
      · exact ⟨same.logLine _ _, fun _ _ => Reply.noConfusion⟩
      · exact ⟨same, fun _ _ => Reply.noConfusion⟩

end Commands

end Loop

end Cadence
