import Cadence.Proofs.Loop.Groups
import Cadence.Proofs.Loop.Registered
import Cadence.Proofs.Schedule.Ranges

namespace Cadence

/-!
# What a loop answers about its occurrences

A loop may be asked for the next occurrences after a base, and for all occurrences
between a base and a limit.  Both answers are groups that are gathered task by
task, and both merge what the registered tasks have without loss: an id is in the
group of an instant exactly if its task occurs then, once, and in the order of the
registry.

A scan does not ask for groups.  It keeps only the earliest instant that it has met
and the tasks that it met there, and yet it finds the first group.
-/

/-- All occurrences that are computed are the matching instants. -/
theorem Schedule.allOccurrences_eq_matchingBetween
    {schedule : Schedule}
    (wellFormed : schedule.WellFormed)
    {base limit : Int}
    (baseFits : Calendar.Fits (Calendar.yearOf base))
    (limitYear : Calendar.yearOf limit ≤ lastYear) :
    schedule.allOccurrences base limit = schedule.matchingBetween base limit := by
  unfold allOccurrences
  rw [occurrences_eq_take_matchingBetween wellFormed baseFits limitYear]
  have fewer : (schedule.matchingBetween base limit).length ≤ (secondsBetween base limit).length :=
    List.length_filter_le ..
  have seconds : (secondsBetween base limit).length = (limit - base - 1).toNat := by
    simp [secondsBetween]
  exact List.take_of_length_le (by omega)

namespace OccurrenceGroup

variable {groups : List OccurrenceGroup} {instant : Int} {id : Nat}

/-- One more occurrence is merged as the only one of its task. -/
theorem add_eq_merge
    (groups : List OccurrenceGroup)
    (instant : Int)
    (task : Nat) :
    add groups instant task = merge groups [instant] task := by
  induction groups with
  | nil => simp [add, merge]
  | cons group groups inductionHypothesis =>
      unfold add merge
      rw [inductionHypothesis]
      split
      · simp [merge]
      · split
        · simp [merge]
        · rfl

/-- The next occurrence of a schedule after a base, if there is one before the last second of the
calendar. -/
def nextOnly
    (base : Int)
    (schedule : Schedule) :
    List Int :=
  if Schedule.maxTime ≤ schedule.nextOccurrence base Schedule.maxTime then
    []
  else
    [schedule.nextOccurrence base Schedule.maxTime]

@[simp] theorem mem_nextOnly
    {base : Int}
    {schedule : Schedule} :
    instant ∈ nextOnly base schedule ↔
      schedule.nextOccurrence base Schedule.maxTime = instant ∧ instant < Schedule.maxTime := by
  unfold nextOnly
  split
  · next reached =>
    simp only [List.not_mem_nil, false_iff]
    omega
  · next early =>
    rw [List.mem_singleton]
    omega

/-- The groups of the next occurrences are gathered from at most one occurrence for each task. -/
theorem next_eq_gather
    (tasks : List (Nat × Schedule))
    (base : Int) :
    next tasks base = gather (nextOnly base) tasks := by
  unfold next gather
  congr 1
  funext groups task
  by_cases reached : Schedule.maxTime ≤ task.2.nextOccurrence base Schedule.maxTime
  · simp only [nextOnly, reached, ↓reduceIte, merge]
  · simp only [nextOnly, reached, ↓reduceIte, add_eq_merge]

/-- With one more occurrence, the first group is its own, has it as the last one, or stays. -/
theorem head?_add
    (groups : List OccurrenceGroup)
    (instant : Int)
    (task : Nat) :
    (add groups instant task).head? =
      match groups.head? with
      | none => some ⟨instant, [task]⟩
      | some group =>
          if instant < group.instant then
            some ⟨instant, [task]⟩
          else if instant = group.instant then
            some ⟨instant, group.tasks ++ [task]⟩
          else
            some group := by
  cases groups with
  | nil => rfl
  | cons group groups =>
      unfold add
      simp only [List.head?_cons]
      split
      · rfl
      · split <;> rfl

/-- What a scan finds due next is the first group of the next occurrences: its search keeps the
first group while the others are forgotten. -/
theorem dueNext_eq_head?
    (tasks : List (Nat × Schedule))
    (base : Int) :
    Loop.dueNext tasks base = (next tasks base).head? := by
  unfold Loop.dueNext next
  rw [← List.foldl_hom List.head?]
  · rfl
  intro groups task
  by_cases reached : Schedule.maxTime ≤ task.2.nextOccurrence base Schedule.maxTime
  · simp only [reached, ↓reduceIte]
  · simp only [reached, ↓reduceIte]
    exact (head?_add groups _ _).symm

theorem mem_tasksAt :
    id ∈ tasksAt groups instant ↔ ∃ group ∈ groups, group.instant = instant ∧ id ∈ group.tasks := by
  simp only [tasksAt, List.mem_flatMap, List.mem_filter, decide_eq_true_eq, and_assoc]

namespace Ordered

/-- The tasks at the instant of a group are those of the group. -/
theorem tasksAt_eq
    (ordered : Ordered groups)
    {group : OccurrenceGroup}
    (present : group ∈ groups) :
    tasksAt groups group.instant = group.tasks := by
  induction groups with
  | nil => cases present
  | cons head groups inductionHypothesis =>
      rcases List.mem_cons.mp present with rfl | later
      · simp [ordered.tasksAt_tail (Int.le_refl _)]
      · simp [inductionHypothesis ordered.tail later, Int.ne_of_lt (ordered.head_lt later)]

/-- There is a group for every instant that has tasks, and for no other. -/
theorem exists_group_iff
    (ordered : Ordered groups) :
    (∃ group ∈ groups, group.instant = instant) ↔ ∃ id, id ∈ tasksAt groups instant := by
  simp only [mem_tasksAt]
  constructor
  · rintro ⟨group, present, same⟩
    obtain ⟨id, member⟩ := List.exists_mem_of_ne_nil _ (ordered.inhabited group present)
    exact ⟨id, group, present, same, member⟩
  · rintro ⟨id, group, present, same, -⟩
    exact ⟨group, present, same⟩

/-- If no id is at two instants or twice at one, no id is twice in all groups together. -/
theorem nodup_flatMap
    (ordered : Ordered groups)
    (once : ∀ group ∈ groups, group.tasks.Nodup)
    (oneInstant :
      ∀ first ∈ groups, ∀ second ∈ groups, ∀ id, id ∈ first.tasks → id ∈ second.tasks →
        first.instant = second.instant) :
    (groups.flatMap OccurrenceGroup.tasks).Nodup := by
  refine List.nodup_flatMap.mpr ⟨once, ordered.increasing.imp_of_mem ?_⟩
  intro earlier later isEarlier isLater before id inEarlier inLater
  exact Int.ne_of_lt before (oneInstant earlier isEarlier later isLater id inEarlier inLater)

end Ordered

end OccurrenceGroup

namespace Loop

open OccurrenceGroup

variable {loop : Loop}

/-- The registered ids whose schedules have some property, in the order of the registry. -/
theorem map_fst_filter_schedules
    (loop : Loop)
    (chosen : Schedule → Bool) :
    (loop.schedules.filter fun task => chosen task.2).map Prod.fst =
      loop.registry.filter fun id => (loop.tasks.get? id).any fun task => chosen task.schedule := by
  unfold schedules
  induction loop.registry with
  | nil => rfl
  | cons id ids inductionHypothesis =>
      cases known : loop.tasks.get? id with
      | none => simpa [known] using inductionHypothesis
      | some task =>
          cases holds : chosen task.schedule <;> simpa [known, holds] using inductionHypothesis

/-- Groups merge the instants at which registered tasks occur: nothing is lost, nothing is added,
and nothing is out of order. -/
structure Merges
    (loop : Loop)
    (occurs : Task → Int → Prop)
    (groups : List OccurrenceGroup) :
    Prop where
  increasing : groups.Pairwise fun earlier later => earlier.instant < later.instant
  inhabited : ∀ group ∈ groups, group.tasks ≠ []
  /-- The tasks of a group are in the order of the registry. -/
  inOrder : ∀ group ∈ groups, group.tasks.Sublist loop.registry
  once : ∀ group ∈ groups, group.tasks.Nodup
  /-- A task is in the group of an instant exactly if it is registered and occurs then. -/
  members :
    ∀ instant id,
      (∃ group ∈ groups, group.instant = instant ∧ id ∈ group.tasks) ↔
        id ∈ loop.registry ∧ ∃ task, loop.tasks.get? id = some task ∧ occurs task instant
  /-- There is a group for an instant exactly if some registered task occurs then. -/
  instants :
    ∀ instant,
      (∃ group ∈ groups, group.instant = instant) ↔
        ∃ id ∈ loop.registry, ∃ task, loop.tasks.get? id = some task ∧ occurs task instant

/-- Gathered groups merge the occurrences of the registered tasks. -/
theorem merges_gather
    (distinct : loop.registry.Nodup)
    (occurrences : Schedule → List Int)
    (increasing :
      ∀ id task, loop.tasks.get? id = some task →
        (occurrences task.schedule).Pairwise (· < ·))
    {occurs : Task → Int → Prop}
    (correct :
      ∀ id task, loop.tasks.get? id = some task →
        ∀ instant, instant ∈ occurrences task.schedule ↔ occurs task instant) :
    loop.Merges occurs (gather occurrences loop.schedules) := by
  obtain ⟨ordered, found⟩ : Ordered (gather occurrences loop.schedules) ∧ _ :=
    gather_spec occurrences fun task registered => by
      obtain ⟨id, -, known⟩ := List.mem_filterMap.mp registered
      obtain ⟨task, isTask, rfl⟩ := Option.map_eq_some_iff.mp known
      exact increasing id task isTask
  have atInstant : ∀ instant, tasksAt (gather occurrences loop.schedules) instant =
      loop.registry.filter fun id =>
        (loop.tasks.get? id).any fun task => instant ∈ occurrences task.schedule :=
    fun instant => by
      rw [found, map_fst_filter_schedules loop fun schedule => instant ∈ occurrences schedule]
  have member : ∀ instant id, id ∈ tasksAt (gather occurrences loop.schedules) instant ↔
      id ∈ loop.registry ∧ ∃ task, loop.tasks.get? id = some task ∧ occurs task instant := by
    intro instant id
    rw [atInstant, List.mem_filter, Option.any_eq_true]
    refine and_congr_right fun _ => exists_congr fun task => and_congr_right fun known => ?_
    rw [decide_eq_true_eq, correct id task known]
  have sublist : ∀ group ∈ gather occurrences loop.schedules,
      group.tasks.Sublist loop.registry := by
    intro group present
    rw [← ordered.tasksAt_eq present, atInstant]
    exact List.filter_sublist
  exact
    { increasing := ordered.increasing
      inhabited := ordered.inhabited
      inOrder := sublist
      once := fun group present => distinct.sublist (sublist group present)
      members := fun instant id => by rw [← mem_tasksAt, member]
      instants := fun instant => by simp only [ordered.exists_group_iff, member] }

/-- What a loop answers about the next occurrences agrees with what a scan finds: a scan from the
same base selects the first group, and none exactly if there is no group.  The groups have every
registered task that has a next occurrence, once, at its own next occurrence. -/
theorem next_agrees_with_scan
    (loop : Loop)
    (distinct : loop.registry.Nodup)
    (base : Int) :
    ∃ groups,
      loop.perform (.next base) = (loop, .groups groups) ∧
        (∀ clock : Int, clock / 1000 = base →
          (({ loop with clock := clock }.scan).2 = none ↔ groups = []) ∧
            ({ loop with clock := clock }.scan).2 = groups.head?) ∧
        loop.Merges
          (fun task instant =>
            task.schedule.nextOccurrence base Schedule.maxTime = instant ∧
              instant < Schedule.maxTime)
          groups ∧
        (groups.flatMap OccurrenceGroup.tasks).Nodup := by
  have merges :
      loop.Merges
        (fun task instant =>
          task.schedule.nextOccurrence base Schedule.maxTime = instant ∧
            instant < Schedule.maxTime)
        (OccurrenceGroup.next loop.schedules base) := by
    rw [next_eq_gather]
    refine merges_gather distinct (nextOnly base) (fun id task known => ?_)
      fun id task known instant => mem_nextOnly
    unfold nextOnly
    split <;> simp
  refine ⟨_, rfl, fun clock same => ?_, merges, ?_⟩
  · have selected : ({ loop with clock := clock }.scan).2 =
        (OccurrenceGroup.next loop.schedules base).head? :=
      same ▸ dueNext_eq_head? loop.schedules (clock / 1000)
    exact ⟨by rw [selected, List.head?_eq_none_iff], selected⟩
  · refine Ordered.nodup_flatMap ⟨merges.increasing, merges.inhabited⟩ merges.once ?_
    intro first isFirst second isSecond id inFirst inSecond
    obtain ⟨-, task, known, firstNext, -⟩ :=
      (merges.members _ id).mp ⟨first, isFirst, rfl, inFirst⟩
    obtain ⟨-, other, otherKnown, secondNext, -⟩ :=
      (merges.members _ id).mp ⟨second, isSecond, rfl, inSecond⟩
    obtain rfl : task = other := Option.some_inj.mp (known.symm.trans otherKnown)
    rw [← firstNext, ← secondNext]

/-- A loop with two tasks for every minute, and one for every hour between them. -/
def rota : Loop :=
  ({} : Loop).session <|
    ["* * * * *", "0 * * * *", "* * * * *"].map fun text =>
      .command (.add text false (.always false .idle))

theorem registry_rota :
    rota.registry = [1, 2, 3] := by
  decide +kernel

/-- What "0 * * * *" writes: every full hour. -/
def everyHour : Schedule :=
  { everyMinute with
    raw := "0 * * * *"
    minutes := { kind := .minute, mask := 1, bounds := some (0, 0) } }

theorem schedules_rota :
    rota.schedules = [(1, everyMinute), (2, everyHour), (3, everyMinute)] := by
  decide +kernel

/-- The last minute of the first hour of 1970 begins a second after this base, and the next hour a
minute later. -/
theorem next_rota :
    OccurrenceGroup.next rota.schedules 3539 = [⟨3540, [1, 3]⟩, ⟨3600, [2]⟩] := by
  have minutely : everyMinute.nextOccurrence 3539 Schedule.maxTime = 3540 := by
    have wellFormed := Schedule.wellFormed_of_parse
      (show Schedule.parse "* * * * *" false = .ok everyMinute by decide +kernel)
    refine Schedule.nextOccurrence_eq_of_isLeast wellFormed (by decide +kernel)
      OccurrenceGroup.fits_maxTime
      ⟨⟨by decide, by decide, by decide +kernel, by decide +kernel⟩, ?_⟩
    rintro instant ⟨after, -⟩
    omega
  have hourly : everyHour.nextOccurrence 3539 Schedule.maxTime = 3600 := by
    have wellFormed := Schedule.wellFormed_of_parse
      (show Schedule.parse "0 * * * *" false = .ok everyHour by decide +kernel)
    have quiet : ∀ second < 60, ¬ everyHour.Matches (3540 + (second : Nat)) := by
      decide +kernel
    refine Schedule.nextOccurrence_eq_of_isLeast wellFormed (by decide +kernel)
      OccurrenceGroup.fits_maxTime
      ⟨⟨by decide, by decide, by decide +kernel, by decide +kernel⟩, ?_⟩
    rintro instant ⟨after, -, -, occurs⟩
    refine Int.not_lt.mp fun sooner => quiet (instant - 3540).toNat (by omega) ?_
    rwa [show (3540 : Int) + (instant - 3540).toNat = instant by omega]
  simp only [schedules_rota, OccurrenceGroup.next, List.foldl_cons, List.foldl_nil, minutely,
    hourly]
  decide +kernel

/-- The rota is asked for the next occurrences before its full hour. -/
theorem next_agrees_with_scan_rota :
    rota.registry.Nodup ∧
      ∃ groups,
        rota.perform (.next 3539) = (rota, .groups groups) ∧
          groups = [⟨3540, [1, 3]⟩, ⟨3600, [2]⟩] ∧
          (∀ clock : Int, clock / 1000 = 3539 →
            (({ rota with clock := clock }.scan).2 = none ↔ groups = []) ∧
              ({ rota with clock := clock }.scan).2 = groups.head?) ∧
          rota.Merges
            (fun task instant =>
              task.schedule.nextOccurrence 3539 Schedule.maxTime = instant ∧
                instant < Schedule.maxTime)
            groups ∧
          (groups.flatMap OccurrenceGroup.tasks).Nodup := by
  have distinct : rota.registry.Nodup := by
    rw [registry_rota]
    decide
  obtain ⟨groups, answered, agrees⟩ := next_agrees_with_scan rota distinct 3539
  have evaluated : groups = OccurrenceGroup.next rota.schedules 3539 :=
    (Reply.groups.inj (congrArg Prod.snd answered)).symm
  exact ⟨distinct, groups, answered, evaluated.trans next_rota, agrees⟩

/-- What a loop answers about all occurrences between a base and a limit, in a year up to 9999,
merges the instants strictly between them at which the registered tasks match. -/
theorem nextAll_merges
    (sound : loop.Sound)
    {base limit : Int}
    (baseFits : Calendar.Fits (Calendar.yearOf base))
    (limitYear : Calendar.yearOf limit ≤ 9999) :
    ∃ groups,
      loop.perform (.nextAll base limit) = (loop, .groups groups) ∧
        loop.Merges
          (fun task instant => base < instant ∧ instant < limit ∧ task.schedule.OccursAt instant)
          groups ∧
        ∀ group ∈ groups, base < group.instant ∧ group.instant < limit := by
  have listed : ∀ id task, loop.tasks.get? id = some task →
      task.schedule.allOccurrences base limit = task.schedule.matchingBetween base limit :=
    fun id task known => Schedule.allOccurrences_eq_matchingBetween
      (sound.wellFormed id task known) baseFits limitYear
  have merges :
      loop.Merges
        (fun task instant => base < instant ∧ instant < limit ∧ task.schedule.OccursAt instant)
        (OccurrenceGroup.all loop.schedules base limit) := by
    refine merges_gather sound.distinct (fun schedule => schedule.allOccurrences base limit)
      (fun id task known => ?_) fun id task known instant => ?_
    · rw [listed id task known]
      exact Schedule.matchingBetween_increasing ..
    · rw [listed id task known]
      exact Schedule.mem_matchingBetween
  refine ⟨_, rfl, merges, fun group present => ?_⟩
  obtain ⟨id, -, task, -, after, before, -⟩ :=
    (merges.instants group.instant).mp ⟨group, present, rfl⟩
  exact ⟨after, before⟩

/-- The last minutes of the first hour of 1970, and the next hour. -/
theorem nextAll_merges_rota :
    rota.Sound ∧
      Calendar.Fits (Calendar.yearOf 3500) ∧
      Calendar.yearOf 3700 ≤ 9999 ∧
      ∃ groups,
        rota.perform (.nextAll 3500 3700) = (rota, .groups groups) ∧
          rota.Merges
            (fun task instant => 3500 < instant ∧ instant < 3700 ∧ task.schedule.OccursAt instant)
            groups ∧
          ∀ group ∈ groups, 3500 < group.instant ∧ group.instant < 3700 := by
  have sound : rota.Sound := sound_session ⟨rfl, rfl, rfl, rfl, rfl⟩ _
  exact ⟨sound, by decide, by decide, nextAll_merges sound (by decide) (by decide)⟩

/-- Nothing is gathered from a base that dates keep in a year past the last one. -/
theorem all_of_lastYear_lt
    (tasks : List (Nat × Schedule))
    (base limit : Int)
    (late : Schedule.lastYear < (CivilTime.ofInstant base).date.year) :
    OccurrenceGroup.all tasks base limit = [] := by
  have none (schedule : Schedule) : schedule.allOccurrences base limit = [] := by
    unfold Schedule.allOccurrences
    cases (limit - min base Calendar.firstSecond).toNat with
    | zero => rfl
    | succ count => simp [Schedule.occurrences, schedule.nextOccurrence_of_lastYear_lt limit late]
  unfold OccurrenceGroup.all
  induction tasks with
  | nil => rfl
  | cons task tasks inductionHypothesis =>
      rw [List.foldl_cons, none, OccurrenceGroup.merge]
      exact inductionHypothesis

/-- The bound on the year of the base is needed: dates keep the year -40000 as 25536, which is past
the last year of the search.  All three tasks of the rota match at the full hour a minute after the
base, but there is no group for them. -/
theorem nextAll_misses_year40000 :
    let base : Int := -1324445295660
    Calendar.yearOf base = -40000 ∧
      Calendar.yearOf (base + 70) ≤ 9999 ∧
      (∀ id ∈ rota.registry, ∃ task, rota.tasks.get? id = some task ∧
        task.schedule.OccursAt (base + 60)) ∧
      rota.perform (.nextAll base (base + 70)) = (rota, .groups []) ∧
      ¬ rota.Merges
          (fun task instant =>
            base < instant ∧ instant < base + 70 ∧ task.schedule.OccursAt instant)
          [] := by
  intro base
  have matching : ∀ id ∈ rota.registry, ∃ task, rota.tasks.get? id = some task ∧
      task.schedule.OccursAt (base + 60) := by
    have each : ∀ id ∈ [1, 2, 3], (rota.tasks.get? id).any
        fun task => task.schedule.OccursAt (base + 60) := by
      decide +kernel
    intro id registered
    rw [registry_rota] at registered
    simpa [Option.any_eq_true] using each id registered
  refine ⟨by decide +kernel, by decide +kernel, matching, ?_, fun merges => ?_⟩
  · simp only [perform, all_of_lastYear_lt rota.schedules base (base + 70) (by decide +kernel)]
  · have first : 1 ∈ rota.registry := by simp [registry_rota]
    obtain ⟨task, known, occurs⟩ := matching 1 first
    obtain ⟨group, present, -⟩ :=
      (merges.instants (base + 60)).mpr ⟨1, first, task, known, by omega, by omega, occurs⟩
    cases present

end Loop

end Cadence
