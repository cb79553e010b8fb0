import Cadence.Cli.Validate
import Cadence.Proofs.Loop.Configured

namespace Cadence

/-!
# What is found valid can be registered

The check of a configuration looks at all of its tasks and counts; the registration
looks at the enabled ones, in another order, and stops at the first that is at fault.
Both come down to which tasks can be run: the check finds nothing wrong exactly if
there are tasks and all of them can be run, and then every enabled one is registered.
-/

namespace Cli

namespace Finding

/-- A task is found valid exactly if it can be run. -/
theorem isValid_ofTask_iff (task : TaskConfig) :
    (ofTask task).isValid ↔ task.Runnable := by
  unfold ofTask
  cases parsed : Schedule.parse task.schedule task.withSeconds with
  | error error =>
      have refused : ¬ task.Runnable := fun runnable => by
        obtain ⟨schedule, read⟩ := runnable.scheduled
        rw [parsed] at read
        contradiction
      simp [isValid, refused]
  | ok schedule =>
      simp only
      split
      · next missing =>
          have idle : ¬ task.Runnable := fun runnable =>
            runnable.commanded (by simpa using missing)
          simp [isValid, idle]
      · next given =>
          have runnable : task.Runnable := ⟨by simpa using given, schedule, parsed⟩
          simp [isValid, runnable]

end Finding

/-! ### Counts -/

/-- Every task is counted once. -/
theorem validCount_add_invalidCount (tasks : List TaskConfig) :
    validCount tasks + invalidCount tasks = tasks.length := by
  rw [validCount, invalidCount,
    List.length_eq_countP_add_countP (fun task => (Finding.ofTask task).isValid)]
  simp

theorem invalidCount_eq_zero_iff
    {tasks : List TaskConfig} :
    invalidCount tasks = 0 ↔ ∀ task ∈ tasks, task.Runnable := by
  simp [invalidCount, List.countP_eq_zero, Finding.isValid_ofTask_iff]

/-- What is said about each task. -/
def findings (file : String) (tasks : List TaskConfig) (now : Int) : String :=
  "Validating " ++ toString tasks.length ++ " task(s) in " ++ file ++ "...\n\n" ++
    String.join (tasks.map fun task => (Finding.ofTask task).line task now)

/-- The lines with which the check of a configuration ends. -/
def summary (valid invalid total : Nat) : String :=
  "\nSummary: " ++ toString valid ++ " valid, " ++ toString invalid ++ " invalid out of " ++
    toString total ++ " tasks\n"

section Checks

variable (file : String) {tasks : List TaskConfig} (now : Int)

theorem validateTasks_of_nonempty
    (given : tasks ≠ []) :
    (validateTasks file tasks now).status = (if invalidCount tasks = 0 then 0 else 1) ∧
      (validateTasks file tasks now).output =
        findings file tasks now ++
          summary (validCount tasks) (invalidCount tasks) tasks.length := by
  rw [validateTasks, if_neg (by simpa using given)]
  have regroup (front a b c d e f g : String) :
      front ++ a ++ b ++ c ++ d ++ e ++ f ++ g = front ++ (a ++ b ++ c ++ d ++ e ++ f ++ g) := by
    simp only [String.append_assoc]
  exact ⟨rfl, regroup _ _ _ _ _ _ _ _⟩

/-- Nothing is found wrong exactly if there are tasks, and all of them can be run. -/
theorem status_validateTasks_eq_zero_iff :
    (validateTasks file tasks now).status = 0 ↔ tasks ≠ [] ∧ ∀ task ∈ tasks, task.Runnable := by
  by_cases given : tasks = []
  · subst given
    simp [validateTasks, CliResult.failed]
  · rw [(validateTasks_of_nonempty file now given).1, ← invalidCount_eq_zero_iff]
    simp [given]

theorem status_validateTasks :
    (validateTasks file tasks now).status = 0 ∨ (validateTasks file tasks now).status = 1 := by
  by_cases given : tasks = []
  · subst given
    exact .inr rfl
  · rw [(validateTasks_of_nonempty file now given).1]
    split
    · exact .inl rfl
    · exact .inr rfl

end Checks

/-! ### The registration -/

/-- What the registration refuses is counted by the check. -/
theorem invalidCount_pos_of_refused
    {loop : Loop}
    {tasks : List TaskConfig}
    {fault : Fault}
    (refused : (loop.registerConfigured tasks 0).2 = .error fault) :
    0 < invalidCount tasks := by
  refine Nat.pos_of_ne_zero fun none => ?_
  have runnable := invalidCount_eq_zero_iff.mp none
  obtain ⟨after, registered, -, -, continues⟩ :=
    loop.registerConfigured_append fun task member _ => runnable task member
  have accepted := continues [] 0
  rw [List.append_nil] at accepted
  rw [accepted] at refused
  cases refused

/-- The check and the registration of a configuration agree.  The check finds nothing wrong exactly
if there are tasks and each of them, enabled or not, has a command and a schedule that is read; the
tasks found valid and the others add up to all of them, in the summary too.  If nothing is wrong,
every loop registers all enabled tasks, in their order and under the ids that come next, and counts
them; and where a loop refuses a task, the check counts one that is not valid. -/
theorem validate_agrees_with_registration
    (file : String)
    (config : Config)
    (now : Int) :
    let checked := validate file (.ok config) now
    let enabled := config.tasks.filter (·.enabled)
    (checked.status = 0 ↔ config.tasks ≠ [] ∧ ∀ task ∈ config.tasks, task.Runnable) ∧
      (checked.status = 0 ∨ checked.status = 1) ∧
      validCount config.tasks + invalidCount config.tasks = config.tasks.length ∧
      (config.tasks ≠ [] →
        checked.output =
          findings file config.tasks now ++
            summary (validCount config.tasks) (invalidCount config.tasks) config.tasks.length) ∧
      (checked.status = 0 → ∀ loop : Loop, ∃ after tasks,
        loop.registerConfigured config.tasks 0 = (after, .ok enabled.length) ∧
          loop.Registers after tasks ∧ List.Forall₂ TaskConfig.Makes enabled tasks) ∧
      ∀ (loop : Loop) fault, (loop.registerConfigured config.tasks 0).2 = .error fault →
        0 < invalidCount config.tasks ∧ checked.status = 1 := by
  intro checked enabled
  have valid_iff : checked.status = 0 ↔ config.tasks ≠ [] ∧ ∀ task ∈ config.tasks, task.Runnable :=
    status_validateTasks_eq_zero_iff file now
  have answers : checked.status = 0 ∨ checked.status = 1 := status_validateTasks file now
  refine ⟨valid_iff, answers, validCount_add_invalidCount config.tasks,
    fun given => (validateTasks_of_nonempty file now given).2, fun valid loop => ?_,
    fun loop fault refused => ?_⟩
  · have runnable := (valid_iff.mp valid).2
    obtain ⟨after, tasks, registers, made, continues⟩ :=
      loop.registerConfigured_append fun task member _ => runnable task member
    have accepted := continues [] 0
    rw [List.append_nil, Nat.zero_add, ← made.length_eq] at accepted
    exact ⟨after, tasks, accepted, registers, made⟩
  · have counted := invalidCount_pos_of_refused refused
    refine ⟨counted, answers.resolve_left fun valid => ?_⟩
    have none := invalidCount_eq_zero_iff.mpr (valid_iff.mp valid).2
    omega

section Example

/-- A job by the hour that is enabled, and one by the second that is not. -/
def hourlyAndSpare : Config where
  tasks :=
    [{ name := "sweep", schedule := "@hourly", command := "sweep" },
      { name := "spare", schedule := "*/10 * * * * *", withSeconds := true, command := "true",
        enabled := false }]

/-- The same behind an enabled job without a command, whose schedule is at fault as well. -/
def commandless : Config where
  tasks := { name := "idle", schedule := "@never" } :: hourlyAndSpare.tasks

/-- Nothing is wrong with the first configuration, and a loop registers the enabled job; the other
one is refused, and that is what the check says as well. -/
theorem validate_agrees_with_registration_jobs :
    (validate "jobs.yaml" (.ok hourlyAndSpare) 0).status = 0 ∧
      (∃ after tasks,
        ({} : Loop).registerConfigured hourlyAndSpare.tasks 0 = (after, .ok 1) ∧
          ({} : Loop).Registers after tasks) ∧
      (({} : Loop).registerConfigured commandless.tasks 0).2 = .error .invalidArgument ∧
      (validate "jobs.yaml" (.ok commandless) 0).status = 1 := by
  obtain ⟨-, -, -, -, registers, -⟩ :=
    validate_agrees_with_registration "jobs.yaml" hourlyAndSpare 0
  obtain ⟨-, -, -, -, -, refuses⟩ :=
    validate_agrees_with_registration "jobs.yaml" commandless 0
  have valid : (validate "jobs.yaml" (.ok hourlyAndSpare) 0).status = 0 := by decide +kernel
  obtain ⟨after, tasks, accepted, registered, -⟩ := registers valid {}
  have refused :
      (({} : Loop).registerConfigured commandless.tasks 0).2 = .error .invalidArgument := by
    decide +kernel
  exact ⟨valid, ⟨after, tasks, accepted, registered⟩, refused, (refuses {} _ refused).2⟩

end Example

end Cli

end Cadence
