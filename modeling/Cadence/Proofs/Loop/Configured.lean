import Cadence.Proofs.Loop.Bookkeeping

namespace Cadence

/-!
# Registering configured tasks

A configured task can be run if it has a command and a schedule that is read.  As
long as the enabled ones can be run, each of them is registered under the next id,
behind the tasks that are there already, and the others are passed over.  That is
what holds of a list of configured tasks up to any point, whatever comes after it.
-/

/-- A configured task that has a command and a schedule that can be read. -/
structure TaskConfig.Runnable (config : TaskConfig) : Prop where
  commanded : config.command ≠ ""
  scheduled : ∃ schedule, Schedule.parse config.schedule config.withSeconds = .ok schedule

/-- A task that runs the command of a configured task by its schedule. -/
structure TaskConfig.Makes (config : TaskConfig) (task : Task) : Prop where
  schedule : Schedule.parse config.schedule config.withSeconds = .ok task.schedule
  action : task.action = .shell config.isAsync config.command config.directory

namespace Loop

/-- All registered ids were handed out. -/
def Issued (loop : Loop) : Prop :=
  ∀ id ∈ loop.registry, id < loop.nextId

/-- The ids of a registry that recorded commands have made were handed out. -/
theorem Refines.issued
    {first : Ledger}
    {loop : Loop}
    (refines : Refines first loop) :
    loop.Issued := by
  intro id registered
  rw [refines.agrees.registry] at registered
  rw [refines.agrees.nextId]
  exact refines.kept.issued_lt id (refines.kept.known_issued id
    (refines.kept.registered_known id registered))

/-- Whatever is done with a loop that was just made, the ids in its registry were handed out. -/
theorem issued_session
    {loop : Loop}
    (fresh : loop.Fresh)
    (unrecorded : loop.records = #[])
    (statements : List Statement) :
    (loop.session statements).Issued :=
  ((Refines.opening fresh.tasks fresh.registry unrecorded).session statements).issued

/-- From one loop to another, tasks were registered under the ids that came next, behind those that
were registered before; what was known of other ids is known still. -/
structure Registers (before after : Loop) (tasks : List Task) : Prop where
  ids : tasks.map Task.id = List.range' before.nextId tasks.length
  nextId : after.nextId = before.nextId + tasks.length
  registered : ∀ task ∈ tasks, after.find? task.id = some task
  others : ∀ id, id ∉ tasks.map Task.id → after.find? id = before.find? id
  registry : before.Issued → after.registry = before.registry ++ tasks.map Task.id

/-- Neither a wake nor an event concerns what is registered. -/
theorem wake_emit_fields
    (loop : Loop)
    (event : LoopEvent) :
    (loop.wake.emit event).tasks = loop.tasks ∧
      (loop.wake.emit event).nextId = loop.nextId ∧
      (loop.wake.emit event).registry = loop.registry := by
  obtain ⟨signals, woken⟩ := loop.wake_shape
  obtain ⟨log, told⟩ := emit_eq_record { loop with signals := signals } event
  rw [woken, told]
  exact ⟨rfl, rfl, rfl⟩

/-- A task that is added is known under the next id, and is registered behind the others. -/
theorem addTask_fields
    (loop : Loop)
    (schedule : Schedule)
    (action : Action) :
    (loop.addTask schedule action).1.tasks =
        loop.tasks.insert loop.nextId (loop.addTask schedule action).2 ∧
      (loop.addTask schedule action).1.nextId = loop.nextId + 1 ∧
      (loop.addTask schedule action).1.registry =
        if loop.nextId ∈ loop.registry then loop.registry else loop.registry ++ [loop.nextId] := by
  unfold addTask makeTask register
  simp only
  split
  · exact ⟨rfl, rfl, rfl⟩
  · exact wake_emit_fields _ _

namespace Registers

variable {before middle after : Loop} {first later : List Task}

theorem refl
    (loop : Loop) :
    Registers loop loop [] where
  ids := rfl
  nextId := rfl
  registered := fun _ member => by cases member
  others := fun _ _ => rfl
  registry := fun _ => by simp

/-- The ids that are handed out are those from the next one on. -/
theorem mem_ids
    (registers : Registers before after later)
    {id : Nat} :
    id ∈ later.map Task.id ↔ before.nextId ≤ id ∧ id < after.nextId := by
  rw [registers.ids, registers.nextId, List.mem_range'_1]

/-- Ids that were handed out stay so. -/
theorem issued
    (registers : Registers before after later)
    (issued : before.Issued) :
    after.Issued := by
  intro id member
  rw [registers.registry issued] at member
  rcases List.mem_append.mp member with old | new
  · have := issued id old
    have := registers.nextId
    omega
  · exact (registers.mem_ids.mp new).2

theorem trans
    (earlier : Registers before middle first)
    (next : Registers middle after later) :
    Registers before after (first ++ later) where
  ids := by
    rw [List.map_append, earlier.ids, next.ids, earlier.nextId, List.range'_append_1,
      List.length_append]
  nextId := by
    rw [next.nextId, earlier.nextId, List.length_append, Nat.add_assoc]
  registered := by
    intro task member
    rcases List.mem_append.mp member with inFirst | inLater
    · -- Later ids are greater, so that they are others.
      rw [next.others task.id fun again => ?_]
      · exact earlier.registered task inFirst
      · have notBefore := (next.mem_ids.mp again).1
        have handedOut := (earlier.mem_ids.mp (List.mem_map_of_mem inFirst)).2
        omega
    · exact next.registered task inLater
  others := by
    intro id other
    rw [List.map_append, List.mem_append, not_or] at other
    rw [next.others id other.2, earlier.others id other.1]
  registry := by
    intro issued
    rw [next.registry (earlier.issued issued), earlier.registry issued, List.map_append,
      List.append_assoc]

theorem logLine
    (registers : Registers before after first)
    (level : LogLevel)
    (text : String) :
    Registers before (after.logLine level text) first := by
  obtain ⟨log, logged⟩ := after.logLine_shape level text
  rw [logged]
  exact ⟨registers.ids, registers.nextId, registers.registered, registers.others,
    registers.registry⟩

/-- A task that is made and added is registered. -/
theorem addTask
    (loop : Loop)
    (schedule : Schedule)
    (action : Action) :
    Registers loop (loop.addTask schedule action).1 [(loop.addTask schedule action).2] := by
  obtain ⟨tasks, nextId, registry⟩ := addTask_fields loop schedule action
  have added : (loop.addTask schedule action).2.id = loop.nextId := rfl
  have present : loop.nextId ∈ (loop.addTask schedule action).1.registry := by
    rw [registry]
    split
    · assumption
    · simp
  refine ⟨rfl, nextId, fun task member => ?_, fun id other => ?_, fun issued => ?_⟩
  · obtain rfl := List.mem_singleton.mp member
    rw [find?, added, if_pos present, tasks, Table.get?_insert_same]
  · have different : id ≠ loop.nextId := by simpa [added] using other
    have sameMember : id ∈ (loop.addTask schedule action).1.registry ↔ id ∈ loop.registry := by
      rw [registry]
      split
      · rfl
      · simp [different]
    simp only [find?, sameMember, tasks, Table.get?_insert_other _ different]
  · rw [registry, if_neg fun old => Nat.lt_irrefl _ (issued _ old)]
    rfl

end Registers

/-! ### Up to a point -/

section Configured

variable {config : TaskConfig}

theorem registerConfigured_cons_disabled
    (disabled : config.enabled = false)
    (loop : Loop)
    (configs : List TaskConfig)
    (added : Nat) :
    loop.registerConfigured (config :: configs) added =
      (loop.logLine .debug ("Skipping disabled task " ++ config.name)).registerConfigured
        configs added := by
  rw [registerConfigured, if_pos (by simp [disabled])]

/-- A task that can be run is registered, and the rest follows. -/
theorem registerConfigured_cons_runnable
    (enabled : config.enabled = true)
    (runnable : config.Runnable)
    (loop : Loop) :
    ∃ next task, Registers loop next [task] ∧ config.Makes task ∧
      ∀ configs added, loop.registerConfigured (config :: configs) added =
        next.registerConfigured configs (added + 1) := by
  obtain ⟨commanded, schedule, parsed⟩ := runnable
  have adds := (Registers.addTask loop schedule
    (.shell config.isAsync config.command config.directory)).logLine .info
      ("Registered " ++ config.name ++ " as task " ++ toString
        (loop.addTask schedule (.shell config.isAsync config.command config.directory)).2.id)
  refine ⟨_, _, adds, ⟨parsed, rfl⟩, fun configs added => ?_⟩
  rw [registerConfigured, if_neg (by simp [enabled]), if_neg (by simpa using commanded)]
  simp only [loop.addText_of_ok parsed]

/-- As long as the enabled ones of some configured tasks can be run, they are registered, one after
another, and what comes after them is left to do. -/
theorem registerConfigured_append
    {front : List TaskConfig}
    (runnable : ∀ config ∈ front, config.enabled → config.Runnable)
    (loop : Loop) :
    ∃ after tasks, Registers loop after tasks ∧
      List.Forall₂ TaskConfig.Makes (front.filter (·.enabled)) tasks ∧
      ∀ rest added, loop.registerConfigured (front ++ rest) added =
        after.registerConfigured rest (added + tasks.length) := by
  induction front generalizing loop with
  | nil => exact ⟨loop, [], .refl loop, .nil, fun _ _ => rfl⟩
  | cons config front inductionHypothesis =>
      have later := fun other member => runnable other (List.mem_cons_of_mem config member)
      cases enabled : config.enabled with
      | false =>
          obtain ⟨after, tasks, registers, made, continues⟩ := inductionHypothesis later
            (loop.logLine .debug ("Skipping disabled task " ++ config.name))
          refine ⟨after, tasks, ((Registers.refl loop).logLine _ _).trans registers, ?_,
            fun rest added => ?_⟩
          · rwa [List.filter_cons_of_neg (by simp [enabled])]
          · rw [List.cons_append, registerConfigured_cons_disabled enabled, continues]
      | true =>
          obtain ⟨next, task, adds, makes, step⟩ :=
            registerConfigured_cons_runnable enabled (runnable config List.mem_cons_self enabled)
              loop
          obtain ⟨after, tasks, registers, made, continues⟩ := inductionHypothesis later next
          refine ⟨after, task :: tasks, adds.trans registers, ?_, fun rest added => ?_⟩
          · rw [List.filter_cons_of_pos (by simp [enabled])]
            exact .cons makes made
          · rw [List.cons_append, step, continues, List.length_cons, Nat.add_assoc,
              Nat.add_comm 1]

end Configured

end Loop

end Cadence
