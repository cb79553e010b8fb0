import Cadence.Proofs.Loop.Rearrangements
import Cadence.Proofs.Loop.Runs
import Cadence.Proofs.Schedule.WellFormed
import Cadence.Proofs.Table
import Mathlib.Data.List.Nodup

namespace Cadence

/-!
# What is registered

Ids are registered at most once, every task is kept under its own id, and every
schedule was read from a text, so that all of them are well formed.  Deeds other
than scans, batches and dispatched tasks leave no mark.
-/

namespace Loop

/-- Registered ids are distinct, and tasks are kept under their ids with well-formed schedules. -/
structure Sound
    (loop : Loop) :
    Prop where
  distinct : loop.registry.Nodup
  keyed : ∀ id task, loop.tasks.get? id = some task → task.id = id
  wellFormed : ∀ id task, loop.tasks.get? id = some task → task.schedule.WellFormed

namespace Sound

variable {loop next : Loop}

/-- Only the registry and the tasks matter. -/
theorem congr
    (sound : loop.Sound)
    (sameRegistry : next.registry = loop.registry)
    (sameTasks : next.tasks = loop.tasks) :
    next.Sound :=
  ⟨sameRegistry ▸ sound.distinct, sameTasks ▸ sound.keyed, sameTasks ▸ sound.wellFormed⟩

/-- A registry of distinct ids may take the place of another. -/
theorem setRegistry
    (sound : loop.Sound)
    (distinct : next.registry.Nodup)
    (sameTasks : next.tasks = loop.tasks) :
    next.Sound :=
  ⟨distinct, sameTasks ▸ sound.keyed, sameTasks ▸ sound.wellFormed⟩

/-- A change of the registry keeps ids distinct. -/
theorem rearranged
    {deed : Deed}
    {effective : Prop}
    (sound : loop.Sound)
    (rearranged : Rearranged loop next (deed.registryAfter loop) effective) :
    next.Sound := by
  refine sound.setRegistry ?_ rearranged.tasks
  rw [rearranged.registry]
  exact deed.nodup_registryAfter sound.distinct

/-- A task with a well-formed schedule may be kept under its id. -/
theorem insert
    (sound : loop.Sound)
    (task : Task)
    (wellFormed : task.schedule.WellFormed)
    (sameRegistry : next.registry = loop.registry)
    (tasks : next.tasks = loop.tasks.insert task.id task) :
    next.Sound where
  distinct := sameRegistry ▸ sound.distinct
  keyed := fun id other found => by
    rw [tasks] at found
    rcases Table.get?_of_insert found with ⟨same, rfl⟩ | old
    · exact same.symm
    · exact sound.keyed id other old
  wellFormed := fun id other found => by
    rw [tasks] at found
    rcases Table.get?_of_insert found with ⟨-, rfl⟩ | old
    · exact wellFormed
    · exact sound.wellFormed id other old

end Sound

variable {loop next : Loop} {deed : Deed}

/-- Every deed keeps ids distinct and schedules well formed. -/
theorem Does.sound
    (does : Does loop deed next)
    (sound : loop.Sound) :
    next.Sound := by
  cases does with
  | scan => exact sound.congr rfl rfl
  | enter tasks => exact sound.congr rfl rfl
  | dispatch id =>
      obtain ⟨_, _, told⟩ := loop.emit_shape (.taskDispatched id)
      rw [told]
      exact sound.congr rfl rfl
  | register task known =>
      exact sound.rearranged (rearranged (.register loop task known) trivial)
  | remove id => exact sound.rearranged (rearranged (.remove loop id) trivial)
  | removeMany ids => exact sound.rearranged (rearranged (.removeMany loop ids) trivial)
  | removeAll => exact sound.rearranged (rearranged (.removeAll loop) trivial)
  | refresh => exact sound.rearranged (rearranged (.refresh loop) trivial)
  | stop =>
      unfold Loop.stop
      split
      · exact sound.congr rfl rfl
      · exact sound
  | cancel => exact sound.congr rfl rfl
  | make schedule action parsed =>
      obtain ⟨text, withSeconds, parsed⟩ := parsed
      exact sound.insert ⟨loop.nextId, schedule, action⟩
        (Schedule.wellFormed_of_parse parsed) rfl rfl
  | swap task schedule known parsed =>
      obtain ⟨text, withSeconds, parsed⟩ := parsed
      exact sound.insert { task with schedule := schedule }
        (Schedule.wellFormed_of_parse parsed) rfl rfl
  | aside unconcerned => exact sound.congr unconcerned.registry unconcerned.tasks

/-- No deed changes what runs shell commands. -/
theorem Does.executor
    (does : Does loop deed next) :
    next.executor = loop.executor := by
  cases does with
  | dispatch id =>
      obtain ⟨_, _, told⟩ := loop.emit_shape (.taskDispatched id)
      rw [told]
  | register task known => exact (rearranged (.register loop task known) trivial).executor
  | remove id => exact (rearranged (.remove loop id) trivial).executor
  | removeMany ids => exact (rearranged (.removeMany loop ids) trivial).executor
  | removeAll => exact (rearranged (.removeAll loop) trivial).executor
  | refresh => exact (rearranged (.refresh loop) trivial).executor
  | stop =>
      unfold Loop.stop
      split <;> rfl
  | aside unconcerned => exact unconcerned.executor
  | _ => rfl

/-- No deed changes the options, and what is done in the background leaves no mark. -/
theorem Does.options_marks
    (does : Does loop deed next) :
    next.options = loop.options ∧ (deed.Background → next.marks = loop.marks) := by
  cases does with
  | scan => exact ⟨rfl, False.elim⟩
  | enter tasks => exact ⟨rfl, False.elim⟩
  | dispatch id =>
      obtain ⟨_, _, told⟩ := loop.emit_shape (.taskDispatched id)
      exact ⟨by rw [told], False.elim⟩
  | register task known =>
      have changed := rearranged (.register loop task known) trivial
      exact ⟨changed.options, fun _ => changed.marks⟩
  | remove id =>
      have changed := rearranged (.remove loop id) trivial
      exact ⟨changed.options, fun _ => changed.marks⟩
  | removeMany ids =>
      have changed := rearranged (.removeMany loop ids) trivial
      exact ⟨changed.options, fun _ => changed.marks⟩
  | removeAll =>
      have changed := rearranged (.removeAll loop) trivial
      exact ⟨changed.options, fun _ => changed.marks⟩
  | refresh =>
      have changed := rearranged (.refresh loop) trivial
      exact ⟨changed.options, fun _ => changed.marks⟩
  | stop =>
      unfold Loop.stop
      split
      · exact ⟨rfl, fun _ => rfl⟩
      · exact ⟨rfl, fun _ => rfl⟩
  | cancel => exact ⟨rfl, fun _ => rfl⟩
  | make schedule action parsed => exact ⟨rfl, fun _ => rfl⟩
  | swap task schedule known parsed => exact ⟨rfl, fun _ => rfl⟩
  | aside unconcerned => exact ⟨unconcerned.options, fun _ => unconcerned.marks⟩

/-- What is done in the background leaves no mark. -/
theorem Proceeds.marks
    {last : Loop}
    (proceeds : Proceeds Deed.Background loop last) :
    last.marks = loop.marks := by
  obtain ⟨deeds, course, background⟩ := proceeds
  induction course with
  | nil => rfl
  | cons first later inductionHypothesis =>
      exact (inductionHypothesis fun done present =>
        background done (List.mem_cons_of_mem _ present)).trans
          (first.options_marks.2 (background _ List.mem_cons_self))

/-- The options stay the same along every course. -/
theorem Course.options
    {deeds : List (Loop × Deed)}
    {last : Loop}
    (course : Course loop deeds last) :
    last.options = loop.options :=
  course.preserves (motive := fun later => later.options = loop.options)
    (fun does same => does.options_marks.1.trans same) rfl

/-- The end of a run keeps ids distinct and schedules well formed. -/
theorem Sound.leaveRun
    (sound : loop.Sound) :
    loop.leaveRun.Sound := by
  have told := Aside.emit { loop with running := false, inProgress := false } .loopStopped rfl
  exact sound.congr told.registry told.tasks

/-- The start of a run keeps ids distinct and schedules well formed. -/
theorem Sound.start
    (sound : loop.Sound)
    {request : RunRequest}
    {run : Run}
    (accepted : loop.start .another request = .started run) :
    run.loop.Sound := by
  rw [(start_eq_started accepted).2]
  have told := Aside.emit (loop.started request) .loopStarted rfl
  exact sound.congr told.registry told.tasks

/-- Ids are distinct and schedules well formed after every session. -/
theorem sound_session
    (fresh : loop.Fresh)
    (statements : List Statement) :
    (loop.session statements).Sound := by
  refine session_preserves (motive := Sound) Does.sound (fun accepted sound => sound.start accepted)
    Sound.leaveRun ?_ statements
  refine ⟨?_, fun id task found => ?_, fun id task found => ?_⟩
  · rw [fresh.registry]
    exact List.nodup_nil
  · rw [fresh.tasks] at found
    cases found
  · rw [fresh.tasks] at found
    cases found

section Schedules

/-- The registered tasks are those that are known. -/
theorem map_fst_schedules
    (loop : Loop) :
    loop.schedules.map Prod.fst = loop.registry.filter fun id => (loop.tasks.get? id).isSome := by
  unfold schedules
  induction loop.registry with
  | nil => rfl
  | cons id ids inductionHypothesis =>
      cases known : loop.tasks.get? id with
      | none => simpa [known] using inductionHypothesis
      | some task => simpa [known] using inductionHypothesis

/-- No id has two schedules. -/
theorem Sound.distinct_schedules
    (sound : loop.Sound) :
    (loop.schedules.map Prod.fst).Nodup := by
  rw [map_fst_schedules]
  exact sound.distinct.filter _

theorem Sound.wellFormed_schedules
    (sound : loop.Sound)
    (task : Nat × Schedule)
    (registered : task ∈ loop.schedules) :
    task.2.WellFormed := by
  obtain ⟨id, -, found⟩ := List.mem_filterMap.mp registered
  obtain ⟨known, isKnown, rfl⟩ := Option.map_eq_some_iff.mp found
  exact sound.wellFormed id known isKnown

end Schedules

end Loop

end Cadence
