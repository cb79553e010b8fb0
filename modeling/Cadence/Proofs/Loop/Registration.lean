import Cadence.Proofs.Loop.Configured
import Mathlib.Data.List.TakeWhile

namespace Cadence

/-!
# Where the registration of configured tasks stops

The registration gets past a configured task that is not enabled, and past one that
can be run.  It ends at the first task that is neither, and what it leaves behind is
what the tasks before that one ask for: each enabled one of them has its task, behind
those that were registered before, and the refused task and all tasks after it have
none.  The refusal names what is looked at first, the command and then the schedule.
-/

namespace TaskConfig

instance (config : TaskConfig) :
    Decidable (∃ schedule, Schedule.parse config.schedule config.withSeconds = .ok schedule) :=
  match Schedule.parse config.schedule config.withSeconds with
  | .ok schedule => isTrue ⟨schedule, rfl⟩
  | .error _ => isFalse (by simp)

instance (config : TaskConfig) : Decidable config.Runnable :=
  decidable_of_iff
    (config.command ≠ "" ∧
      ∃ schedule, Schedule.parse config.schedule config.withSeconds = .ok schedule)
    ⟨fun both => ⟨both.1, both.2⟩, fun runnable => ⟨runnable.commanded, runnable.scheduled⟩⟩

/-- A configured task that the registration gets past. -/
def Passable (config : TaskConfig) : Prop :=
  config.enabled → config.Runnable

instance (config : TaskConfig) : Decidable config.Passable := by
  unfold Passable
  infer_instance

/-- What is wrong with a configured task that cannot be run; a missing command comes before
whatever is wrong with the schedule. -/
inductive RefusedWith (config : TaskConfig) : Fault → Prop
  | commandless
      (missing : config.command = "") :
      config.RefusedWith .invalidArgument
  | unscheduled
      (commanded : config.command ≠ "")
      {error : ParseError}
      (refused : Schedule.parse config.schedule config.withSeconds = .error error) :
      config.RefusedWith error.fault

theorem exists_refusedWith
    {config : TaskConfig}
    (stuck : ¬ config.Runnable) :
    ∃ fault, config.RefusedWith fault := by
  by_cases missing : config.command = ""
  · exact ⟨_, .commandless missing⟩
  · cases parsed : Schedule.parse config.schedule config.withSeconds with
    | error error => exact ⟨_, .unscheduled missing parsed⟩
    | ok schedule => exact (stuck ⟨missing, schedule, parsed⟩).elim

/-- The longest part of some configured tasks, from the first one on, all of which the
registration gets past. -/
structure LongestPassable (front configs : List TaskConfig) : Prop where
  starts : front <+: configs
  passable : ∀ config ∈ front, config.Passable
  longest :
    ∀ other, other <+: configs → (∀ config ∈ other, config.Passable) → other <+: front

/-- The configured tasks up to the first that the registration does not get past. -/
def passablePart (configs : List TaskConfig) : List TaskConfig :=
  configs.takeWhile fun config => config.Passable

theorem longestPassable_passablePart (configs : List TaskConfig) :
    LongestPassable (passablePart configs) configs where
  starts := List.takeWhile_prefix _
  passable := fun config member => by simpa using List.mem_takeWhile_imp member
  longest := fun other starts passable => by
    obtain ⟨rest, rfl⟩ := starts
    rw [passablePart, List.takeWhile_append_of_pos (by simpa using passable)]
    exact List.prefix_append _ _

/-- The task after the part that the registration gets past is one that it does not get past. -/
theorem LongestPassable.not_passable
    {front rest : List TaskConfig}
    {next : TaskConfig}
    (longest : LongestPassable front (front ++ next :: rest)) :
    ¬ next.Passable := by
  intro passable
  have longer := longest.longest (front ++ [next]) ⟨rest, by simp⟩ (by
    simpa [or_imp, forall_and] using ⟨longest.passable, passable⟩)
  have notLonger := longer.length_le
  rw [List.length_append, List.length_singleton] at notLonger
  omega

end TaskConfig

namespace Loop

/-- The registered tasks, in the order of the registry. -/
def registeredTasks (loop : Loop) : List Task :=
  loop.registry.filterMap loop.find?

namespace Registers

variable {before after : Loop} {tasks : List Task}

/-- Tasks are registered behind the others, which stay as they are. -/
theorem registeredTasks_eq
    (registers : Registers before after tasks)
    (issued : before.Issued) :
    after.registeredTasks = before.registeredTasks ++ tasks := by
  rw [registeredTasks, registers.registry issued, List.filterMap_append, registeredTasks,
    List.filterMap_map]
  congr 1
  · refine List.filterMap_congr fun id member => registers.others id fun again => ?_
    have handedOut := issued id member
    have := (registers.mem_ids.mp again).1
    omega
  · have found : ∀ task ∈ tasks, (after.find? ∘ Task.id) task = some task := registers.registered
    rw [List.filterMap_congr found, List.filterMap_some]

end Registers

section Refusal

variable {config : TaskConfig}

/-- A task that cannot be run ends the registration, and nothing is registered for it. -/
theorem registerConfigured_cons_refused
    (enabled : config.enabled = true)
    {fault : Fault}
    (refused : config.RefusedWith fault)
    (loop : Loop)
    (configs : List TaskConfig)
    (added : Nat) :
    ∃ after, Registers loop after [] ∧
      loop.registerConfigured (config :: configs) added = (after, .error fault) := by
  rw [registerConfigured, if_neg (by simp [enabled])]
  cases refused with
  | commandless missing =>
      rw [if_pos (by simp [missing])]
      exact ⟨_, (Registers.refl loop).logLine _ _, rfl⟩
  | @unscheduled commanded error refused =>
      rw [if_neg (by simpa using commanded)]
      refine ⟨_, ((Registers.refl loop).logLine .warn ("Rejected task schedule '" ++
        config.schedule ++ "': " ++ error.message)).logLine .error
          ("Task " ++ config.name ++ ": " ++ error.message), ?_⟩
      simp only [addText, refused]

end Refusal

/-- The registration of configured tasks stops exactly at the first enabled one that cannot be
run.  For each enabled task before that one it registers a task with the schedule that is read and
the configured action, behind what was registered before, in the order of the configuration and
under the ids that come next; nothing else is registered, whatever the disabled tasks are.  It
answers how many there are if it gets to the end, and otherwise what is wrong with the task that it
stops at: that it has no command, or, if it has one, the fault of its schedule.  The ids in a
registry were handed out before, whatever a session has done with the loop (`issued_session`). -/
theorem registerConfigured_stops_at_first_refused
    {loop : Loop}
    (issued : loop.Issued)
    (configs : List TaskConfig) :
    ∃ front after tasks answer,
      loop.registerConfigured configs 0 = (after, answer) ∧
      TaskConfig.LongestPassable front configs ∧
      List.Forall₂
        (fun config task => config.Makes task ∧ task.action.isAsync = config.isAsync)
        (front.filter (·.enabled)) tasks ∧
      after.registeredTasks = loop.registeredTasks ++ tasks ∧
      after.registry = loop.registry ++ tasks.map Task.id ∧
      tasks.map Task.id = List.range' loop.nextId tasks.length ∧
      (∀ task ∈ tasks, task.id ∉ loop.registry) ∧
      after.nextId = loop.nextId + tasks.length ∧
      (front = configs → answer = .ok (configs.filter (·.enabled)).length) ∧
      ∀ next rest, configs = front ++ next :: rest →
        next.enabled ∧ ∃ fault, next.RefusedWith fault ∧ answer = .error fault := by
  have longest := TaskConfig.longestPassable_passablePart configs
  obtain ⟨rest, split⟩ := longest.starts
  generalize TaskConfig.passablePart configs = front at longest split
  obtain ⟨middle, tasks, registers, made, continues⟩ :=
    loop.registerConfigured_append longest.passable
  have reached := continues rest 0
  rw [split, Nat.zero_add] at reached
  have counted : tasks.length = (front.filter (·.enabled)).length := made.length_eq.symm
  have makes : List.Forall₂
      (fun config task => TaskConfig.Makes config task ∧ task.action.isAsync = config.isAsync)
      (front.filter (·.enabled)) tasks :=
    made.imp fun config task makes => ⟨makes, by rw [makes.action]; rfl⟩
  -- What follows is the same wherever the registration ends.
  have fresh : ∀ task ∈ tasks, task.id ∉ loop.registry := fun task member old => by
    have handedOut := issued task.id old
    have := (registers.mem_ids.mp (List.mem_map_of_mem member)).1
    omega
  cases rest with
  | nil =>
      have whole : front = configs := by simpa using split
      subst whole
      exact ⟨front, middle, tasks, .ok tasks.length, reached, longest, makes,
        registers.registeredTasks_eq issued, registers.registry issued, registers.ids, fresh,
        registers.nextId,
        fun _ => by rw [counted], fun next rest more => by simp at more⟩
  | cons next rest =>
      subst split
      have stuck := longest.not_passable
      rw [TaskConfig.Passable, Classical.not_imp] at stuck
      obtain ⟨enabled, stuck⟩ := stuck
      obtain ⟨fault, refused⟩ := TaskConfig.exists_refusedWith stuck
      obtain ⟨after, nothing, failed⟩ :=
        registerConfigured_cons_refused enabled refused middle rest tasks.length
      have ends := registers.trans nothing
      rw [List.append_nil] at ends
      refine ⟨front, after, tasks, .error fault, reached.trans failed, longest, makes,
        ends.registeredTasks_eq issued, ends.registry issued, ends.ids, fresh, ends.nextId,
        fun whole => by simp at whole, fun other others same => ?_⟩
      obtain ⟨rfl, -⟩ := List.cons_eq_cons.mp (List.append_cancel_left same)
      exact ⟨enabled, fault, refused, rfl⟩

/-- A job by the hour, a broken one that is not enabled, an enabled one without a command whose
schedule is at fault as well, and a job by the day that is never looked at. -/
def patchyJobs : List TaskConfig :=
  [{ name := "sweep", schedule := "@hourly", command := "sweep", isAsync := true },
    { name := "spare", schedule := "@never", enabled := false },
    { name := "idle", schedule := "* * * *" },
    { name := "tidy", schedule := "@daily", command := "tidy" }]

/-- A loop with one task, of which the next id was taken. -/
def served : Loop :=
  ({} : Loop).session
    [.command (.add "* * * * *" false (.always false .idle)), .command .takeId]

/-- Of the jobs the first is registered behind the task of the loop, and the third is what the
registration fails with. -/
theorem registerConfigured_stops_at_idle :
    served.Issued ∧
      ∃ front after tasks,
        served.registerConfigured patchyJobs 0 = (after, .error .invalidArgument) ∧
          TaskConfig.LongestPassable front patchyJobs ∧
          after.registeredTasks = served.registeredTasks ++ tasks ∧
          after.registry = [1, 3] ∧ tasks.map Task.id = [3] := by
  have issued : served.Issued := issued_session ⟨rfl, rfl, rfl, rfl, rfl⟩ rfl _
  obtain
    ⟨front, after, tasks, answer, reached, longest, -, appended, registry, ids, -, nextId, -⟩ :=
    registerConfigured_stops_at_first_refused issued patchyJobs
  have refused : (served.registerConfigured patchyJobs 0).2 = .error .invalidArgument := by
    decide +kernel
  have handedOut : (served.registerConfigured patchyJobs 0).1.nextId = 4 := by
    decide +kernel
  have next : served.nextId = 3 := by
    decide +kernel
  have single : tasks.length = 1 := by
    rw [reached] at handedOut
    have counted : 4 = served.nextId + tasks.length := handedOut.symm.trans nextId
    omega
  have third : tasks.map Task.id = [3] := by
    rw [ids, single, next]
    rfl
  refine ⟨issued, front, after, tasks, ?_, longest, appended, ?_, third⟩
  · rw [reached] at refused
    rw [reached, ← refused]
  · rw [registry, third]
    decide +kernel

end Loop

end Cadence
