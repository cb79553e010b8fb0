import Cadence.Loop.Run
import Cadence.Proofs.Schedule.Occurrences
import Mathlib.Data.List.Induction
import Mathlib.Data.List.Nodup

namespace Cadence

/-!
# Groups of occurrences

Groups in increasing order, none of them empty, are given by the tasks that they
have at each instant.  So the groups of all occurrences after a base are the
group that a scan finds due next, followed by all groups after its instant.
-/

namespace OccurrenceGroup

/-- The tasks that groups have at an instant. -/
def tasksAt
    (groups : List OccurrenceGroup)
    (instant : Int) :
    List Nat :=
  (groups.filter fun group => group.instant = instant).flatMap OccurrenceGroup.tasks

/-- Groups are in increasing order, and none is empty. -/
structure Ordered
    (groups : List OccurrenceGroup) :
    Prop where
  increasing : groups.Pairwise fun earlier later => earlier.instant < later.instant
  inhabited : ∀ group ∈ groups, group.tasks ≠ []

section TasksAt

variable {group : OccurrenceGroup} {groups : List OccurrenceGroup} {instant : Int}

@[simp] theorem tasksAt_nil
    (instant : Int) :
    tasksAt [] instant = [] :=
  rfl

@[simp] theorem tasksAt_cons
    (group : OccurrenceGroup)
    (groups : List OccurrenceGroup)
    (instant : Int) :
    tasksAt (group :: groups) instant =
      (if group.instant = instant then group.tasks else []) ++ tasksAt groups instant := by
  unfold tasksAt
  by_cases same : group.instant = instant <;> simp [same]

/-- There are no tasks at an instant of no group. -/
theorem tasksAt_eq_nil
    (absent : ∀ group ∈ groups, group.instant ≠ instant) :
    tasksAt groups instant = [] := by
  unfold tasksAt
  rw [List.filter_eq_nil_iff.mpr fun group present => by simpa using absent group present]
  rfl

namespace Ordered

theorem nil :
    Ordered [] :=
  ⟨.nil, fun _ none => by cases none⟩

theorem head_lt
    (ordered : Ordered (group :: groups))
    {other : OccurrenceGroup}
    (present : other ∈ groups) :
    group.instant < other.instant :=
  (List.pairwise_cons.mp ordered.increasing).1 other present

theorem tail
    (ordered : Ordered (group :: groups)) :
    Ordered groups :=
  ⟨(List.pairwise_cons.mp ordered.increasing).2,
    fun other present => ordered.inhabited other (List.mem_cons_of_mem _ present)⟩

theorem cons
    (ordered : Ordered groups)
    (inhabited : group.tasks ≠ [])
    (earlier : ∀ other ∈ groups, group.instant < other.instant) :
    Ordered (group :: groups) where
  increasing := List.pairwise_cons.mpr ⟨earlier, ordered.increasing⟩
  inhabited := fun other present => by
    rcases List.mem_cons.mp present with rfl | later
    · exact inhabited
    · exact ordered.inhabited other later

/-- At the instant of the first group, or before, no other group has tasks. -/
theorem tasksAt_tail
    (ordered : Ordered (group :: groups))
    (notLater : instant ≤ group.instant) :
    tasksAt groups instant = [] :=
  tasksAt_eq_nil fun other present same => by
    have later := ordered.head_lt present
    omega

/-- Ordered groups with the same tasks at every instant are the same. -/
theorem ext
    {first second : List OccurrenceGroup}
    (firstOrdered : Ordered first)
    (secondOrdered : Ordered second)
    (same : ∀ instant, tasksAt first instant = tasksAt second instant) :
    first = second := by
  induction first generalizing second with
  | nil =>
      cases second with
      | nil => rfl
      | cons group groups =>
          have atHead := same group.instant
          simp [secondOrdered.tasksAt_tail (Int.le_refl _)] at atHead
          exact absurd atHead (secondOrdered.inhabited group List.mem_cons_self)
  | cons group groups inductionHypothesis =>
      cases second with
      | nil =>
          have atHead := same group.instant
          simp [firstOrdered.tasksAt_tail (Int.le_refl _)] at atHead
          exact absurd atHead (firstOrdered.inhabited group List.mem_cons_self)
      | cons other others =>
          have firstInhabited := firstOrdered.inhabited group List.mem_cons_self
          have secondInhabited := secondOrdered.inhabited other List.mem_cons_self
          -- The earlier of the two first groups would be missing in the other list.
          have sameInstant : group.instant = other.instant := by
            rcases lt_trichotomy group.instant other.instant with earlier | equal | later
            · have atHead := same group.instant
              simp [firstOrdered.tasksAt_tail (Int.le_refl _), Ne.symm (Int.ne_of_lt earlier),
                secondOrdered.tasksAt_tail (Int.le_of_lt earlier)] at atHead
              exact absurd atHead firstInhabited
            · exact equal
            · have atHead := same other.instant
              simp [secondOrdered.tasksAt_tail (Int.le_refl _), Ne.symm (Int.ne_of_lt later),
                firstOrdered.tasksAt_tail (Int.le_of_lt later)] at atHead
              exact absurd atHead secondInhabited
          have sameTasks : group.tasks = other.tasks := by
            have atHead := same other.instant
            simpa [firstOrdered.tasksAt_tail (Int.le_of_eq sameInstant.symm), sameInstant,
              secondOrdered.tasksAt_tail (Int.le_refl _)] using atHead
          have sameGroup : group = other := by
            cases group
            cases other
            simp_all
          subst sameGroup
          refine congrArg (group :: ·)
            (inductionHypothesis firstOrdered.tail secondOrdered.tail fun instant => ?_)
          simpa using same instant

end Ordered

end TasksAt

section Merge

variable {groups : List OccurrenceGroup} {instants : List Int}

/-- Merged groups are at the instants of the groups and of the occurrences. -/
theorem mem_merge
    (groups : List OccurrenceGroup)
    (instants : List Int)
    (task : Nat)
    {group : OccurrenceGroup}
    (present : group ∈ merge groups instants task) :
    group.instant ∈ groups.map OccurrenceGroup.instant ∨ group.instant ∈ instants := by
  fun_induction merge groups instants task with
  | case1 groups => exact Or.inl (List.mem_map_of_mem present)
  | case2 instant instants inductionHypothesis =>
      rcases List.mem_cons.mp present with rfl | later
      · exact Or.inr List.mem_cons_self
      · exact (inductionHypothesis later).imp_right (List.mem_cons_of_mem _)
  | case3 head groups instant instants earlier inductionHypothesis =>
      rcases List.mem_cons.mp present with rfl | later
      · exact Or.inr List.mem_cons_self
      · exact (inductionHypothesis later).imp_right (List.mem_cons_of_mem _)
  | case4 head groups instants notEarlier inductionHypothesis =>
      rcases List.mem_cons.mp present with rfl | later
      · exact Or.inl List.mem_cons_self
      · exact (inductionHypothesis later).imp (List.mem_cons_of_mem _) (List.mem_cons_of_mem _)
  | case5 head groups instant instants notEarlier different inductionHypothesis =>
      rcases List.mem_cons.mp present with rfl | later
      · exact Or.inl List.mem_cons_self
      · exact (inductionHypothesis later).imp_left (List.mem_cons_of_mem _)

/-- A merge that begins with the earliest instant of all goes on later. -/
theorem lt_of_mem_merge
    {instant : Int}
    (groupsLater : ∀ group ∈ groups, instant < group.instant)
    (instantsLater : ∀ other ∈ instants, instant < other)
    {task : Nat}
    {group : OccurrenceGroup}
    (present : group ∈ merge groups instants task) :
    instant < group.instant := by
  rcases mem_merge groups instants task present with isGroup | isInstant
  · obtain ⟨other, member, same⟩ := List.mem_map.mp isGroup
    exact same ▸ groupsLater other member
  · exact instantsLater _ isInstant

/-- Merging increasing occurrences into ordered groups gives ordered groups, in which the task is
the last at its occurrences. -/
theorem merge_spec
    (groups : List OccurrenceGroup)
    (instants : List Int)
    (task : Nat)
    (ordered : Ordered groups)
    (increasing : instants.Pairwise (· < ·)) :
    Ordered (merge groups instants task) ∧
      ∀ instant, tasksAt (merge groups instants task) instant =
        tasksAt groups instant ++ if instant ∈ instants then [task] else [] := by
  fun_induction merge groups instants task with
  | case1 groups => exact ⟨ordered, by simp⟩
  | case2 first instants inductionHypothesis =>
      obtain ⟨later, rest⟩ := List.pairwise_cons.mp increasing
      obtain ⟨merged, found⟩ := inductionHypothesis ordered rest
      refine ⟨merged.cons (by simp) fun group present =>
        lt_of_mem_merge (by simp) later present, fun instant => ?_⟩
      have notTwice : first ∉ instants := fun present => Int.lt_irrefl _ (later first present)
      by_cases same : first = instant
      · subst same
        simp [found, notTwice]
      · simp [found, same, Ne.symm same]
  | case3 head groups first instants earlier inductionHypothesis =>
      obtain ⟨later, rest⟩ := List.pairwise_cons.mp increasing
      obtain ⟨merged, found⟩ := inductionHypothesis ordered rest
      have allLater : ∀ group ∈ head :: groups, first < group.instant := fun group present => by
        rcases List.mem_cons.mp present with rfl | inTail
        · exact earlier
        · have after := ordered.head_lt inTail
          omega
      refine ⟨merged.cons (by simp) fun group present =>
        lt_of_mem_merge allLater later present, fun instant => ?_⟩
      have notTwice : first ∉ instants := fun present => Int.lt_irrefl _ (later first present)
      rw [tasksAt_cons, found]
      by_cases same : first = instant
      · subst same
        have absent : tasksAt (head :: groups) first = [] :=
          tasksAt_eq_nil fun group present same => by
            have after := allLater group present
            omega
        simp only [absent, notTwice, ↓reduceIte, List.append_nil, List.nil_append,
          List.mem_cons, or_false]
      · simp only [same, ↓reduceIte, List.nil_append, List.mem_cons, Ne.symm same, false_or]
  | case4 head groups instants notEarlier inductionHypothesis =>
      obtain ⟨later, rest⟩ := List.pairwise_cons.mp increasing
      obtain ⟨merged, found⟩ := inductionHypothesis ordered.tail rest
      refine ⟨merged.cons (by simp) fun group present =>
        lt_of_mem_merge (fun _ => ordered.head_lt) later present, fun instant => ?_⟩
      have notTwice : head.instant ∉ instants := fun present =>
        Int.lt_irrefl _ (later _ present)
      simp only [tasksAt_cons, found]
      by_cases same : head.instant = instant
      · subst same
        simp [notTwice, ordered.tasksAt_tail (Int.le_refl _)]
      · simp [same, Ne.symm same]
  | case5 head groups first instants notEarlier different inductionHypothesis =>
      obtain ⟨later, -⟩ := List.pairwise_cons.mp increasing
      obtain ⟨merged, found⟩ := inductionHypothesis ordered.tail increasing
      have afterHead : ∀ other ∈ first :: instants, head.instant < other := fun other present => by
        rcases List.mem_cons.mp present with rfl | inTail
        · omega
        · have after := later other inTail
          omega
      refine ⟨merged.cons (ordered.inhabited head List.mem_cons_self) fun group present =>
        lt_of_mem_merge (fun _ => ordered.head_lt) afterHead present, fun instant => ?_⟩
      simp only [tasksAt_cons, found, List.append_assoc]

end Merge

section Gather

variable {tasks : List (Nat × Schedule)}

/-- The groups of the occurrences that tasks have, put together task by task. -/
def gather
    (occurrences : Schedule → List Int)
    (tasks : List (Nat × Schedule)) :
    List OccurrenceGroup :=
  tasks.foldl (fun groups task => merge groups (occurrences task.2) task.1) []

/-- Gathered groups are ordered, and have the tasks that occur at an instant in their order. -/
theorem gather_spec
    (occurrences : Schedule → List Int)
    (increasing : ∀ task ∈ tasks, (occurrences task.2).Pairwise (· < ·)) :
    Ordered (gather occurrences tasks) ∧
      ∀ instant, tasksAt (gather occurrences tasks) instant =
        (tasks.filter fun task => instant ∈ occurrences task.2).map Prod.fst := by
  induction tasks using List.reverseRecOn with
  | nil => exact ⟨.nil, fun _ => rfl⟩
  | append_singleton tasks task inductionHypothesis =>
      obtain ⟨ordered, found⟩ := inductionHypothesis fun other present =>
        increasing other (List.mem_append.mpr (Or.inl present))
      obtain ⟨merged, foundMerged⟩ :=
        merge_spec (gather occurrences tasks) (occurrences task.2) task.1 ordered
          (increasing task (by simp))
      have shape :
          gather occurrences (tasks ++ [task]) =
            merge (gather occurrences tasks) (occurrences task.2) task.1 := by
        simp only [gather, List.foldl_append, List.foldl_cons, List.foldl_nil]
      rw [shape]
      refine ⟨merged, fun instant => ?_⟩
      rw [foundMerged, found, List.filter_append, List.map_append]
      congr 1
      by_cases occurs : instant ∈ occurrences task.2 <;> simp [occurs]

end Gather

section All

variable {tasks : List (Nat × Schedule)} {base limit : Int}

/-- All groups are ordered, and have the tasks that occur at an instant in their order. -/
theorem all_spec
    (wellFormed : ∀ task ∈ tasks, task.2.WellFormed)
    (baseFits : Calendar.Fits (Calendar.yearOf base))
    (limitFits : Calendar.Fits (Calendar.yearOf limit)) :
    Ordered (all tasks base limit) ∧
      ∀ instant, tasksAt (all tasks base limit) instant =
        (tasks.filter fun task => instant ∈ task.2.allOccurrences base limit).map Prod.fst :=
  gather_spec (fun schedule => schedule.allOccurrences base limit) fun task registered =>
    Schedule.allOccurrences_increasing (wellFormed task registered) baseFits limitFits

/-- Some task occurs at the instant of a group, between base and limit. -/
theorem between_of_mem_all
    (wellFormed : ∀ task ∈ tasks, task.2.WellFormed)
    (baseFits : Calendar.Fits (Calendar.yearOf base))
    (limitFits : Calendar.Fits (Calendar.yearOf limit))
    {group : OccurrenceGroup}
    (present : group ∈ all tasks base limit) :
    ∃ task ∈ tasks, group.instant ∈ task.2.Between base limit := by
  obtain ⟨ordered, found⟩ := all_spec wellFormed baseFits limitFits
  obtain ⟨id, member⟩ := List.exists_mem_of_ne_nil _ (ordered.inhabited group present)
  have atInstant : id ∈ tasksAt (all tasks base limit) group.instant :=
    List.mem_flatMap.mpr ⟨group, List.mem_filter.mpr ⟨present, by simp⟩, member⟩
  rw [found] at atInstant
  obtain ⟨task, isTask, -⟩ := List.mem_map.mp atInstant
  obtain ⟨registered, occurs⟩ := List.mem_filter.mp isTask
  exact ⟨task, registered,
    (Schedule.mem_allOccurrences_iff (wellFormed task registered) baseFits limitFits _).mp
      (by simpa using occurs)⟩

/-- All groups are given by the tasks that match between base and limit. -/
theorem all_ext
    (wellFormed : ∀ task ∈ tasks, task.2.WellFormed)
    (baseFits : Calendar.Fits (Calendar.yearOf base))
    (limitFits : Calendar.Fits (Calendar.yearOf limit))
    {groups : List OccurrenceGroup}
    (ordered : Ordered groups)
    (chosen : Int → Nat × Schedule → Bool)
    (found : ∀ instant, tasksAt groups instant = (tasks.filter (chosen instant)).map Prod.fst)
    (correct :
      ∀ instant, ∀ task ∈ tasks,
        chosen instant task = true ↔ instant ∈ task.2.Between base limit) :
    all tasks base limit = groups := by
  obtain ⟨allOrdered, foundAll⟩ := all_spec wellFormed baseFits limitFits
  refine allOrdered.ext ordered fun instant => ?_
  rw [foundAll, found]
  congr 1
  refine List.filter_congr fun task registered => ?_
  rw [Bool.eq_iff_iff, correct instant task registered, decide_eq_true_eq]
  exact Schedule.mem_allOccurrences_iff (wellFormed task registered) baseFits limitFits instant

/-- As long as no group is passed, the base may be moved up. -/
theorem all_of_le
    (wellFormed : ∀ task ∈ tasks, task.2.WellFormed)
    (baseFits : Calendar.Fits (Calendar.yearOf base))
    {later : Int}
    (laterFits : Calendar.Fits (Calendar.yearOf later))
    (limitFits : Calendar.Fits (Calendar.yearOf limit))
    (moved : base ≤ later)
    (notPassed :
      ∀ task ∈ tasks, ∀ instant ∈ task.2.Between base limit, later < instant) :
    all tasks base limit = all tasks later limit := by
  obtain ⟨ordered, found⟩ := all_spec wellFormed laterFits limitFits
  refine all_ext wellFormed baseFits limitFits ordered _ found fun instant task registered => ?_
  rw [decide_eq_true_eq,
    Schedule.mem_allOccurrences_iff (wellFormed task registered) laterFits limitFits,
    Schedule.mem_between_iff_of_le moved]
  exact ⟨And.right, fun between => ⟨notPassed task registered instant between, between⟩⟩

end All

section DueNext

variable {tasks : List (Nat × Schedule)} {base : Int}

/-- What a scan finds due: nothing if no task has a next occurrence, and otherwise the tasks whose
next occurrence is the earliest of all. -/
def IsDueNext
    (tasks : List (Nat × Schedule))
    (base : Int) :
    Option OccurrenceGroup → Prop
  | none => ∀ task ∈ tasks, Schedule.maxTime ≤ task.2.nextOccurrence base Schedule.maxTime
  | some group =>
      group.instant < Schedule.maxTime ∧ group.tasks ≠ [] ∧
        (∀ task ∈ tasks, group.instant ≤ task.2.nextOccurrence base Schedule.maxTime) ∧
        group.tasks =
          (tasks.filter fun task =>
            task.2.nextOccurrence base Schedule.maxTime = group.instant).map Prod.fst

namespace IsDueNext

variable {task : Nat × Schedule} {group : OccurrenceGroup}

/-- A task that is later than the group is left out. -/
theorem later
    (isDue : IsDueNext tasks base (some group))
    (isLater : group.instant < task.2.nextOccurrence base Schedule.maxTime) :
    IsDueNext (tasks ++ [task]) base (some group) := by
  obtain ⟨early, inhabited, least, chosen⟩ := isDue
  refine ⟨early, inhabited, fun other present => ?_, ?_⟩
  · rcases List.mem_append.mp present with before | last
    · exact least other before
    · rw [List.mem_singleton.mp last]
      exact Int.le_of_lt isLater
  · rw [List.filter_append, List.map_append, ← chosen]
    simp [Ne.symm (Int.ne_of_lt isLater)]

/-- A task at the instant of the group joins it as the last. -/
theorem joins
    (isDue : IsDueNext tasks base (some group))
    (same : task.2.nextOccurrence base Schedule.maxTime = group.instant) :
    IsDueNext (tasks ++ [task]) base (some ⟨group.instant, group.tasks ++ [task.1]⟩) := by
  obtain ⟨early, inhabited, least, chosen⟩ := isDue
  refine ⟨early, by simp, fun other present => ?_, ?_⟩
  · rcases List.mem_append.mp present with before | last
    · exact least other before
    · rw [List.mem_singleton.mp last, same]
  · rw [List.filter_append, List.map_append, ← chosen]
    simp [same]

/-- A task that is earlier than all others is due alone. -/
theorem alone
    (early : task.2.nextOccurrence base Schedule.maxTime < Schedule.maxTime)
    (first :
      ∀ other ∈ tasks, task.2.nextOccurrence base Schedule.maxTime <
        other.2.nextOccurrence base Schedule.maxTime) :
    IsDueNext (tasks ++ [task]) base
      (some ⟨task.2.nextOccurrence base Schedule.maxTime, [task.1]⟩) := by
  refine ⟨early, by simp, fun other present => ?_, ?_⟩
  · rcases List.mem_append.mp present with before | last
    · exact Int.le_of_lt (first other before)
    · rw [List.mem_singleton.mp last]
  · have none : (tasks.filter fun other =>
        other.2.nextOccurrence base Schedule.maxTime =
          task.2.nextOccurrence base Schedule.maxTime) = [] :=
      List.filter_eq_nil_iff.mpr fun other present => by
        simpa using Ne.symm (Int.ne_of_lt (first other present))
    rw [List.filter_append, List.map_append, none]
    simp

end IsDueNext

/-- A scan finds what is due next. -/
theorem isDueNext_dueNext
    (tasks : List (Nat × Schedule))
    (base : Int) :
    IsDueNext tasks base (Loop.dueNext tasks base) := by
  induction tasks using List.reverseRecOn with
  | nil => exact fun _ none => by cases none
  | append_singleton tasks task inductionHypothesis =>
      unfold Loop.dueNext at inductionHypothesis ⊢
      rw [List.foldl_append, List.foldl_cons, List.foldl_nil]
      generalize List.foldl _ none tasks = due at inductionHypothesis ⊢
      by_cases reached :
          Schedule.maxTime ≤ task.2.nextOccurrence base Schedule.maxTime
      · simp only [reached, ↓reduceIte]
        cases due with
        | none =>
            intro other present
            rcases List.mem_append.mp present with before | last
            · exact inductionHypothesis other before
            · rw [List.mem_singleton.mp last]
              exact reached
        | some group =>
            have early := inductionHypothesis.1
            exact inductionHypothesis.later (by omega)
      · simp only [reached, ↓reduceIte]
        cases due with
        | none =>
            refine .alone (by omega) fun other present => ?_
            have late := inductionHypothesis other present
            omega
        | some group =>
            simp only
            split
            · refine .alone (by omega) fun other present => ?_
              have late := inductionHypothesis.2.2.1 other present
              omega
            · split
              · next same =>
                rw [same]
                exact inductionHypothesis.joins same
              · exact inductionHypothesis.later (by omega)

/-- The last instant of the calendar is in the year 9999. -/
theorem fits_maxTime :
    Calendar.Fits (Calendar.yearOf Schedule.maxTime) := by
  decide +kernel

/-- What a scan finds due is the next occurrence of a task. -/
theorem exists_task_of_dueNext
    {group : OccurrenceGroup}
    (due : Loop.dueNext tasks base = some group) :
    ∃ task ∈ tasks, task.2.nextOccurrence base Schedule.maxTime = group.instant ∧
      group.instant < Schedule.maxTime := by
  have isDue := isDueNext_dueNext tasks base
  rw [due] at isDue
  obtain ⟨early, inhabited, -, chosen⟩ := isDue
  obtain ⟨id, member⟩ := List.exists_mem_of_ne_nil _ inhabited
  rw [chosen] at member
  obtain ⟨task, isTask, -⟩ := List.mem_map.mp member
  obtain ⟨registered, same⟩ := List.mem_filter.mp isTask
  exact ⟨task, registered, by simpa using same, early⟩

/-- If a scan finds nothing due, nothing matches any more. -/
theorem not_between_of_dueNext_none
    (due : Loop.dueNext tasks base = none)
    (wellFormed : ∀ task ∈ tasks, task.2.WellFormed)
    (baseFits : Calendar.Fits (Calendar.yearOf base)) :
    ∀ task ∈ tasks, ∀ instant, instant ∉ task.2.Between base Schedule.maxTime := by
  have isDue := isDueNext_dueNext tasks base
  rw [due] at isDue
  exact fun task registered => Schedule.not_between_of_limit_le (wellFormed task registered)
    baseFits fits_maxTime (isDue task registered)

/-- A group that has the tasks that match at the first instant at which any does. -/
structure First
    (tasks : List (Nat × Schedule))
    (base : Int)
    (group : OccurrenceGroup) :
    Prop where
  after : base < group.instant
  early : group.instant < Schedule.maxTime
  inhabited : group.tasks ≠ []
  least :
    ∀ task ∈ tasks, ∀ instant ∈ task.2.Between base Schedule.maxTime, group.instant ≤ instant
  members :
    ∃ chosen : Nat × Schedule → Bool,
      group.tasks = (tasks.filter chosen).map Prod.fst ∧
        ∀ task ∈ tasks, chosen task = true ↔
          group.instant ∈ task.2.Between base Schedule.maxTime

namespace First

variable {group : OccurrenceGroup}

/-- A task is in the first group exactly if it matches at its instant. -/
theorem mem_tasks_iff
    (first : First tasks base group)
    (distinct : (tasks.map Prod.fst).Nodup)
    {id : Nat}
    {schedule : Schedule}
    (registered : (id, schedule) ∈ tasks) :
    id ∈ group.tasks ↔ group.instant ∈ schedule.Between base Schedule.maxTime := by
  obtain ⟨chosen, isChosen, correct⟩ := first.members
  rw [← correct _ registered, isChosen, List.mem_map]
  constructor
  · rintro ⟨task, isTask, same⟩
    obtain ⟨present, holds⟩ := List.mem_filter.mp isTask
    have sameTask : task = (id, schedule) :=
      List.inj_on_of_nodup_map distinct present registered same
    exact sameTask ▸ holds
  · intro holds
    exact ⟨_, List.mem_filter.mpr ⟨registered, holds⟩, rfl⟩

/-- No task is twice in the first group. -/
theorem nodup_tasks
    (first : First tasks base group)
    (distinct : (tasks.map Prod.fst).Nodup) :
    group.tasks.Nodup := by
  obtain ⟨chosen, isChosen, -⟩ := first.members
  rw [isChosen]
  exact distinct.sublist ((List.filter_sublist).map _)

end First

/-- What a scan finds due is the first group. -/
theorem first_of_dueNext
    {group : OccurrenceGroup}
    (due : Loop.dueNext tasks base = some group)
    (wellFormed : ∀ task ∈ tasks, task.2.WellFormed)
    (baseFits : Calendar.Fits (Calendar.yearOf base)) :
    First tasks base group := by
  have isDue := isDueNext_dueNext tasks base
  rw [due] at isDue
  obtain ⟨early, inhabited, least, chosen⟩ := isDue
  have isFirst : ∀ task ∈ tasks, ∀ instant ∈ task.2.Between base Schedule.maxTime,
      task.2.nextOccurrence base Schedule.maxTime ≤ instant := by
    intro task registered instant between
    rcases Schedule.nextOccurrence_cases (wellFormed task registered) baseFits fits_maxTime
      with isLeast | ⟨-, none⟩
    · exact isLeast.2 between
    · exact absurd between (none instant)
  have isNext : ∀ task ∈ tasks,
      task.2.nextOccurrence base Schedule.maxTime = group.instant ↔
        group.instant ∈ task.2.Between base Schedule.maxTime := by
    intro task registered
    constructor
    · intro same
      have isLeast := Schedule.isLeast_of_nextOccurrence_lt (wellFormed task registered)
        baseFits fits_maxTime (same ▸ early)
      exact same ▸ isLeast.1
    · intro between
      have notLater := isFirst task registered _ between
      have notEarlier := least task registered
      omega
  refine ⟨?_, early, inhabited, fun task registered instant between =>
    (least task registered).trans (isFirst task registered instant between), _, chosen,
    fun task registered => by simpa using isNext task registered⟩
  -- Some task is in the group, and its next occurrence is later than the base.
  obtain ⟨task, registered, same, -⟩ := exists_task_of_dueNext due
  exact ((isNext task registered).mp same).1

/-- All groups after a base are the one that is due next and all groups after that. -/
theorem all_eq
    (wellFormed : ∀ task ∈ tasks, task.2.WellFormed)
    (baseFits : Calendar.Fits (Calendar.yearOf base)) :
    all tasks base Schedule.maxTime =
      match Loop.dueNext tasks base with
      | none => []
      | some group => group :: all tasks group.instant Schedule.maxTime := by
  cases due : Loop.dueNext tasks base with
  | none =>
      have spec := not_between_of_dueNext_none due wellFormed baseFits
      refine all_ext wellFormed baseFits fits_maxTime .nil (fun _ _ => false) (by simp)
        fun instant task registered => ?_
      simpa using spec task registered instant
  | some group =>
      obtain ⟨after, early, inhabited, least, chosen, isChosen, correct⟩ :=
        first_of_dueNext due wellFormed baseFits
      have fits := Schedule.fits_of_between baseFits fits_maxTime after.le early.le
      obtain ⟨ordered, found⟩ := all_spec wellFormed fits fits_maxTime
      have laterThan : ∀ other ∈ all tasks group.instant Schedule.maxTime,
          group.instant < other.instant := by
        intro other present
        obtain ⟨task, -, between⟩ := between_of_mem_all wellFormed fits fits_maxTime present
        exact between.1
      refine all_ext wellFormed baseFits fits_maxTime (ordered.cons inhabited laterThan)
        (fun instant task =>
          if group.instant = instant then chosen task
          else decide (instant ∈ task.2.allOccurrences group.instant Schedule.maxTime))
        (fun instant => ?_) fun instant task registered => ?_
      · by_cases same : group.instant = instant
        · subst same
          have noOther : tasksAt (all tasks group.instant Schedule.maxTime) group.instant = [] :=
            tasksAt_eq_nil fun other present => Ne.symm (Int.ne_of_lt (laterThan other present))
          simp [noOther, isChosen]
        · simp [same, found]
      · by_cases same : group.instant = instant
        · subst same
          simpa using correct task registered
        · simp only [same, ↓reduceIte, decide_eq_true_eq]
          rw [Schedule.mem_allOccurrences_iff (wellFormed task registered) fits fits_maxTime,
            Schedule.mem_between_iff_of_le (Int.le_of_lt after)]
          refine ⟨And.right, fun between => ⟨?_, between⟩⟩
          have notEarlier := least task registered instant between
          omega

end DueNext

end OccurrenceGroup

end Cadence
