import Cadence.Proofs.Loop.Course
import Mathlib.Data.List.Nodup

namespace Cadence

/-!
# Changes of the registry

Four deeds change the registry and one refreshes it.  Each of them leaves the
tasks, the options and the marks as they are, and wakes the loop exactly if it is
effective.
-/

namespace Deed

/-- Whether a deed is a change of the registry or a refresh. -/
def Rearranges : Deed → Prop
  | register _ | remove _ | removeMany _ | removeAll | refresh => True
  | _ => False

/-- The ids that are registered after a deed. -/
def registryAfter
    (loop : Loop) :
    Deed → List Nat
  | register task =>
      if task.id ∈ loop.registry then loop.registry else loop.registry ++ [task.id]
  | remove id => if id ∈ loop.registry then loop.registry.filter (· ≠ id) else loop.registry
  | removeMany ids => loop.registry.filter fun id => id ∉ ids
  | removeAll => []
  | _ => loop.registry

/-- Distinct ids stay distinct. -/
theorem nodup_registryAfter
    {loop : Loop}
    (distinct : loop.registry.Nodup)
    (deed : Deed) :
    (deed.registryAfter loop).Nodup := by
  cases deed with
  | register task =>
      simp only [registryAfter]
      split
      · exact distinct
      · next absent =>
        rw [List.nodup_append]
        refine ⟨distinct, List.nodup_singleton _, ?_⟩
        intro id present other isTask same
        exact absent (List.mem_singleton.mp isTask ▸ same ▸ present)
  | remove id =>
      simp only [registryAfter]
      split
      · exact distinct.filter _
      · exact distinct
  | removeMany ids => exact distinct.filter _
  | removeAll => exact List.nodup_nil
  | _ => exact distinct

end Deed

namespace Loop

/-- A wake only concerns the signals. -/
theorem wake_shape
    (loop : Loop) :
    ∃ signals, loop.wake = { loop with signals := signals } := by
  unfold wake
  split
  · exact ⟨_, rfl⟩
  · exact ⟨loop.signals, rfl⟩

/-- Some tasks are removed exactly if one of the ids is registered. -/
theorem removed_pos_iff
    (loop : Loop)
    (ids : List Nat) :
    0 < loop.registry.length - (loop.registry.filter fun id => id ∉ ids).length ↔
      ∃ id ∈ ids, id ∈ loop.registry := by
  rw [Nat.sub_pos_iff_lt, List.length_filter_lt_length_iff_exists]
  constructor
  · rintro ⟨id, registered, removed⟩
    exact ⟨id, by simpa using removed, registered⟩
  · rintro ⟨id, removed, registered⟩
    exact ⟨id, registered, by simpa using removed⟩

/-- Between two loops the registry was changed, and the loop was woken if that is effective. -/
structure Rearranged
    (before after : Loop)
    (registry : List Nat)
    (effective : Prop) :
    Prop where
  registry : after.registry = registry
  tasks : after.tasks = before.tasks
  options : after.options = before.options
  executor : after.executor = before.executor
  running : after.running = before.running
  inProgress : after.inProgress = before.inProgress
  marks : after.marks = before.marks
  woken : effective → after.signals = before.wake.signals
  still : ¬ effective → after.signals = before.signals

namespace Rearranged

variable {loop next : Loop} {registry : List Nat} {effective : Prop}

/-- A change without effect. -/
theorem change
    (loop : Loop)
    (registry : List Nat)
    (ineffective : ¬ effective) :
    Rearranged loop { loop with registry := registry } registry effective :=
  ⟨rfl, rfl, rfl, rfl, rfl, rfl, rfl, fun holds => absurd holds ineffective, fun _ => rfl⟩

/-- A change that wakes the loop. -/
theorem wake
    (loop : Loop)
    (registry : List Nat)
    (isEffective : effective) :
    Rearranged loop { loop with registry := registry }.wake registry effective := by
  unfold Loop.wake
  cases running : loop.running with
  | true =>
      refine ⟨rfl, rfl, rfl, rfl, running.symm, rfl, rfl, ?_,
        fun fails => absurd isEffective fails⟩
      intro _
      simp only [Loop.wake, running, ↓reduceIte]
  | false =>
      refine ⟨rfl, rfl, rfl, rfl, running.symm, rfl, rfl, ?_,
        fun fails => absurd isEffective fails⟩
      intro _
      simp only [Loop.wake, running, Bool.false_eq_true, ↓reduceIte]

/-- The change may be told. -/
theorem emit
    (rearranged : Rearranged loop next registry effective)
    (event : LoopEvent)
    (unmarked : (Record.event event).mark? = none) :
    Rearranged loop (next.emit event) registry effective := by
  have told := Aside.emit next event unmarked
  exact
    ⟨told.registry.trans rearranged.registry, told.tasks.trans rearranged.tasks,
      told.options.trans rearranged.options, told.executor.trans rearranged.executor,
      told.running.trans rearranged.running, told.inProgress.trans rearranged.inProgress,
      told.marks.trans rearranged.marks,
      fun holds => told.signals.trans (rearranged.woken holds),
      fun fails => told.signals.trans (rearranged.still fails)⟩

end Rearranged

/-- What a change of the registry or a refresh does. -/
theorem Does.rearranged
    {loop next : Loop}
    {deed : Deed}
    (does : Does loop deed next)
    (rearranges : deed.Rearranges) :
    Rearranged loop next (deed.registryAfter loop) (deed.Effective loop) := by
  cases does with
  | register task known =>
      unfold Loop.register Deed.registryAfter Deed.Effective
      by_cases present : task.id ∈ loop.registry
      · simp only [present, ↓reduceIte, not_true_eq_false]
        exact .change loop loop.registry not_false
      · simp only [present, ↓reduceIte, not_false_eq_true]
        exact (Rearranged.wake loop _ trivial).emit _ rfl
  | remove id =>
      unfold Loop.remove Deed.registryAfter Deed.Effective
      by_cases present : id ∈ loop.registry
      · simp only [present, ↓reduceIte]
        exact (Rearranged.wake loop _ trivial).emit _ rfl
      · simp only [present, ↓reduceIte]
        exact .change loop loop.registry not_false
  | removeMany ids =>
      unfold Loop.removeMany
      by_cases present : (Deed.removeMany ids).Effective loop
      · simp only [(loop.removed_pos_iff ids).mpr present, ↓reduceIte]
        exact (Rearranged.wake loop _ present).emit _ rfl
      · simp only [mt (loop.removed_pos_iff ids).mp present, ↓reduceIte]
        exact (Rearranged.change loop _ present).emit _ rfl
  | removeAll => exact (Rearranged.wake loop [] trivial).emit _ rfl
  | refresh => exact (Rearranged.wake loop loop.registry trivial).emit _ rfl
  | _ => exact False.elim rearranges

end Loop

end Cadence
