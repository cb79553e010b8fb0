import Cadence.Schedule.Occurrences

namespace Cadence

/-!
# Occurrences in groups

The occurrences of several tasks, put together by their instants: one group for
each instant, in increasing order, with the tasks of a group in the order in
which they were put in.
-/

/-- The tasks that occur at one instant. -/
structure OccurrenceGroup where
  instant : Int
  tasks : List Nat
  deriving DecidableEq, Repr

namespace OccurrenceGroup

/-- Groups with one more occurrence. -/
def add (groups : List OccurrenceGroup) (instant : Int) (task : Nat) : List OccurrenceGroup :=
  match groups with
  | [] => [⟨instant, [task]⟩]
  | group :: rest =>
      if instant < group.instant then
        ⟨instant, [task]⟩ :: group :: rest
      else if instant = group.instant then
        ⟨instant, group.tasks ++ [task]⟩ :: rest
      else
        group :: add rest instant task

/-- Groups with the occurrences of one more task, which are in increasing order. -/
def merge (groups : List OccurrenceGroup) (instants : List Int) (task : Nat) :
    List OccurrenceGroup :=
  match groups, instants with
  | groups, [] => groups
  | [], instant :: instants => ⟨instant, [task]⟩ :: merge [] instants task
  | group :: groups, instant :: instants =>
      if instant < group.instant then
        ⟨instant, [task]⟩ :: merge (group :: groups) instants task
      else if instant = group.instant then
        ⟨instant, group.tasks ++ [task]⟩ :: merge groups instants task
      else
        group :: merge groups (instant :: instants) task
  termination_by groups.length + instants.length

/-- The next occurrences of tasks after a base; a task without one is in no group. -/
def next (tasks : List (Nat × Schedule)) (base : Int) : List OccurrenceGroup :=
  tasks.foldl
    (fun groups task =>
      let instant := task.2.nextOccurrence base Schedule.maxTime
      if Schedule.maxTime ≤ instant then groups else add groups instant task.1)
    []

/-- All occurrences of tasks between a base and a limit. -/
def all (tasks : List (Nat × Schedule)) (base limit : Int) : List OccurrenceGroup :=
  tasks.foldl (fun groups task => merge groups (task.2.allOccurrences base limit) task.1) []

end OccurrenceGroup

end Cadence
