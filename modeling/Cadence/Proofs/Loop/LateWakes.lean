import Cadence.Proofs.Loop.Additions
import Mathlib.Data.List.Count

namespace Cadence

/-!
# Late wakes

A wait may end later than the instant it waits for: its end is rounded up to a
second, and the density is added.  If a change of the registry or a refresh
interrupts a wait in between, the batch that is due by then is not run, and the
next scan looks ahead from the second of the clock, which is that of the batch:
the tasks of the batch have lost an occurrence.  A wake before the due instant
loses nothing.

So a task that stays registered is run exactly once for each of its occurrences
if and only if no wait for it is interrupted late.
-/

/-- The tasks that were dispatched according to marks, each with the instant for which it was due,
which is that of the last scan. -/
def dispatches :
    Option Int → List Mark → List (Int × Nat)
  | _, [] => []
  | _, .scanned _ due :: marks => dispatches (due.map OccurrenceGroup.instant) marks
  | due, .entered _ _ :: marks => dispatches due marks
  | due, .dispatched id :: marks =>
      (due.map fun instant => (instant, id)).toList ++ dispatches due marks

/-- How often a task was run for an instant, according to marks. -/
def timesRun
    (marks : List Mark)
    (id : Nat)
    (instant : Int) :
    Nat :=
  (dispatches none marks).count (instant, id)

section Dispatches

/-- A scan begins anew. -/
theorem dispatches_append_scan
    (due : Option Int)
    (leading trailing : List Mark)
    (base : Int)
    (found : Option OccurrenceGroup) :
    dispatches due (leading ++ .scanned base found :: trailing) =
      dispatches due leading ++ dispatches (found.map OccurrenceGroup.instant) trailing := by
  induction leading generalizing due with
  | nil => rfl
  | cons mark leading inductionHypothesis =>
      cases mark with
      | scanned base other => exact inductionHypothesis _
      | entered clock tasks => exact inductionHypothesis _
      | dispatched id =>
          simp only [List.cons_append, dispatches, inductionHypothesis, List.append_assoc]

/-- Between scans all tasks are dispatched for the same instant. -/
theorem dispatches_dispatched
    (instant : Int)
    (ids : List Nat) :
    dispatches (some instant) (ids.map Mark.dispatched) = ids.map fun id => (instant, id) := by
  induction ids with
  | nil => rfl
  | cons id ids inductionHypothesis =>
      simp only [List.map_cons, dispatches, inductionHypothesis]
      rfl

@[simp] theorem timesRun_append_scan
    (marks : List Mark)
    (base : Int)
    (found : Option OccurrenceGroup)
    (id : Nat)
    (instant : Int) :
    timesRun (marks ++ [.scanned base found]) id instant = timesRun marks id instant := by
  unfold timesRun
  rw [dispatches_append_scan]
  simp [dispatches]

/-- A batch runs its tasks for the instant of its group. -/
theorem timesRun_append_batch
    (marks : List Mark)
    (base : Int)
    (group : OccurrenceGroup)
    (clock : Int)
    (dispatched : List Nat)
    (id : Nat)
    (instant : Int) :
    timesRun
        (marks ++ [.scanned base (some group)] ++
          .entered clock group.tasks :: dispatched.map Mark.dispatched)
        id instant =
      timesRun marks id instant +
        if instant = group.instant then dispatched.count id else 0 := by
  unfold timesRun
  rw [List.append_assoc, List.singleton_append, dispatches_append_scan, List.count_append]
  congr 1
  change (dispatches (some group.instant) (dispatched.map Mark.dispatched)).count _ = _
  rw [dispatches_dispatched]
  split
  · next same =>
    subst same
    exact List.count_map_of_injective dispatched _ (fun _ _ same => (Prod.mk.inj same).2) id
  · next other =>
    refine List.count_eq_zero.mpr fun present => other ?_
    obtain ⟨_, -, same⟩ := List.mem_map.mp present
    exact (Prod.mk.inj same).1.symm

end Dispatches

namespace Phase

/-- What the last scan found, in a phase that comes of it. -/
def found? : Phase → Option (Option OccurrenceGroup)
  | waiting due => some (due.map Prod.fst)
  | dispatching group => some (some group)
  | _ => none

end Phase

namespace Run

/-- A wait for a batch of a task is interrupted when the batch is due already, in a run that goes
on. -/
def LateWake
    (run : Run)
    (id : Nat) :
    Prop :=
  ∃ group deadline, run.phase = .waiting (some (group, deadline)) ∧
    run.loop.signals.isCancelled .wait = true ∧ run.loop.stopRequested = false ∧
      id ∈ group.tasks ∧ 1000 * group.instant ≤ run.loop.clock

/-- At every scan of a run, a task was run exactly once for each instant of a schedule after the
second in which the run began, up to the base second of the scan.  A run that is told to stop ends
without another scan.  The last second of the last year stands for no occurrence. -/
def Complete
    (run : Run)
    (id : Nat)
    (schedule : Schedule) :
    Prop :=
  ∀ steps, (run.runFor steps).phase = .scanning →
    (run.runFor steps).loop.stopRequested = false →
      ∀ instant ∈ schedule.Between (run.loop.clock / 1000) Schedule.maxTime,
        instant ≤ (run.runFor steps).loop.clock / 1000 →
          timesRun ((run.runFor steps).loop.marks.drop run.loop.marks.length) id instant = 1

/-- The marks that a run has left since its begin.  If it is past a scan, the scan's mark is the
last; and a task was run for no instant after the base second. -/
structure Tally
    (first run : Run)
    (id : Nat)
    (base : Int)
    (since : List Mark) :
    Prop where
  marks : run.loop.marks = first.loop.marks ++ since
  found :
    ∀ due, run.phase.found? = some due → ∃ before second, since = before ++ [.scanned second due]
  begun : first.loop.clock / 1000 ≤ base
  notYet : ∀ instant, base < instant → timesRun since id instant = 0

section Steps

variable {first run next : Run} {tasks later : List (Nat × Schedule)} {base ahead : Int}
variable {id : Nat} {schedule : Schedule} {since : List Mark}

/-- While a run waits, the clock has passed the second that it looks ahead from. -/
theorem Paced.passed
    {due : Option (OccurrenceGroup × Int)}
    (paced : run.Paced tasks base)
    (waiting : run.phase = .waiting due) :
    base ≤ run.loop.clock / 1000 := by
  cases due with
  | none =>
      simp only [Paced, waiting] at paced
      exact Loop.Awaits.passed paced
  | some plan => exact ((paced_waiting_iff waiting).mp paced).1.passed

/-- A wake that is not late comes before all instants of the task that are still to come. -/
theorem Paced.lt_of_wake
    {due : Option (OccurrenceGroup × Int)}
    (paced : run.Paced tasks base)
    (registered : (id, schedule) ∈ tasks)
    (waiting : run.phase = .waiting due)
    (cancelled : run.loop.signals.isCancelled .wait = true)
    (going : run.loop.stopRequested = false)
    (notLate : ¬ run.LateWake id)
    {instant : Int}
    (between : instant ∈ schedule.Between base Schedule.maxTime) :
    run.loop.clock / 1000 < instant := by
  cases due with
  | none =>
      simp only [Paced, waiting] at paced
      exact absurd between
        (OccurrenceGroup.not_between_of_dueNext_none paced.found paced.wellFormed paced.fits
          _ registered instant)
  | some plan =>
      obtain ⟨group, deadline⟩ := plan
      obtain ⟨awaits, notOver, onTime⟩ := (paced_waiting_iff waiting).mp paced
      have notEarlier := awaits.first.least _ registered instant between
      have sameSecond := onTime.sameSecond
      by_cases isDue : 1000 * group.instant ≤ run.loop.clock
      · -- The task is not in the group that is due, so its next instant is later.
        have notMember : id ∉ group.tasks := fun member =>
          notLate ⟨group, deadline, waiting, cancelled, going, member, isDue⟩
        rw [awaits.first.mem_tasks_iff awaits.distinct registered] at notMember
        have different : instant ≠ group.instant := by
          rintro rfl
          exact notMember between
        omega
      · omega

/-- A batch runs the task once for the instant of its group, if the task matches there, and for no
other instant. -/
theorem count_batch
    {group : OccurrenceGroup}
    (awaits : run.loop.Awaits tasks base (some group))
    (registered : (id, schedule) ∈ tasks)
    {instant : Int}
    (between : instant ∈ schedule.Between base Schedule.maxTime)
    (reached : instant ≤ group.instant) :
    instant = group.instant ∧ group.tasks.count id = 1 := by
  have notEarlier := awaits.first.least _ registered instant between
  have same : instant = group.instant := by
    omega
  subst same
  have member := (awaits.first.mem_tasks_iff awaits.distinct registered).mpr between
  exact ⟨rfl, List.count_eq_one_of_mem (awaits.first.nodup_tasks awaits.distinct) member⟩

/-- The tally stays the same while no mark is left and the last scan stays the same. -/
theorem Tally.stay
    (tally : Tally first run id base since)
    (marks : next.loop.marks = run.loop.marks)
    (found : next.phase.found? = run.phase.found?) :
    Tally first next id base since where
  marks := marks.trans tally.marks
  found := found ▸ tally.found
  begun := tally.begun
  notYet := tally.notYet

/-- A batch adds to the tally, for each time that it dispatched the task. -/
theorem Tally.batch
    {group : OccurrenceGroup}
    {dispatched : List Nat}
    {clock : Int}
    (tally : Tally first run id base since)
    (awaits : run.loop.Awaits tasks base (some group))
    (dispatching : run.phase = .dispatching group)
    (scans : next.phase = .scanning)
    (marks :
      next.loop.marks =
        run.loop.marks ++ .entered clock group.tasks :: dispatched.map Mark.dispatched) :
    ∃ after, Tally first next id group.instant after ∧
      ∀ instant, timesRun after id instant =
        timesRun since id instant +
          if instant = group.instant then dispatched.count id else 0 := by
  have begun := tally.begun
  have later := awaits.first.after
  obtain ⟨before, second, rfl⟩ := tally.found (some group) (by rw [dispatching]; rfl)
  have counted := timesRun_append_batch before second group clock dispatched id
  refine ⟨_, ⟨by rw [marks, tally.marks, List.append_assoc], ?_, by omega, ?_⟩, ?_⟩
  · intro due same
    rw [scans] at same
    cases same
  · intro instant notReached
    have other : instant ≠ group.instant := by
      omega
    have notYet := tally.notYet instant (by omega)
    rw [timesRun_append_scan] at notYet
    rw [counted, notYet, if_neg other]
  · intro instant
    rw [counted, timesRun_append_scan]

/-- What a step does to the tally: the run looks ahead from the same second or a later one, what was
run before stays so, and the task was run once for each instant that was passed, unless it was a
late wake that passed it, or the run is told to stop. -/
theorem Tally.turn
    (tally : Tally first run id base since)
    (paced : run.Paced tasks base)
    (registered : (id, schedule) ∈ tasks)
    (turn : Turn run tasks base next later ahead) :
    ∃ after, Tally first next id ahead after ∧
      (∀ instant ≤ base, timesRun after id instant = timesRun since id instant) ∧
      (¬ run.LateWake id → next.loop.stopRequested = false →
        ∀ instant ∈ schedule.Between base Schedule.maxTime, instant ≤ ahead →
          timesRun after id instant = 1) := by
  cases turn with
  | scan scanning going sameScript sameTime waits pending marks =>
      obtain ⟨due, waiting, isFound⟩ := waits
      refine ⟨since ++ [.scanned base (Loop.dueNext tasks base)],
        ⟨?_, ?_, tally.begun, ?_⟩, ?_, ?_⟩
      · rw [marks, tally.marks, List.append_assoc]
      · intro other same
        simp only [waiting, Phase.found?, Option.some.injEq] at same
        exact ⟨since, base, by rw [← same, isFound]⟩
      · simpa using tally.notYet
      · simp
      · intro _ _ instant between notLater
        exact absurd between.1 (Int.not_lt.mpr notLater)
  | wait due waiting pending waits happening script time marks =>
      refine ⟨since, tally.stay marks (by rw [waits, waiting]), fun _ _ => rfl, ?_⟩
      intro _ _ instant between notLater
      exact absurd between.1 (Int.not_lt.mpr notLater)
  | ready group deadline waiting pending dispatches script sameStart marks =>
      refine ⟨since, tally.stay marks (by rw [dispatches, waiting]; rfl), fun _ _ => rfl, ?_⟩
      intro _ _ instant between notLater
      exact absurd between.1 (Int.not_lt.mpr notLater)
  | wake due waiting cancelled going scans =>
      subst scans
      have passed := paced.passed waiting
      refine ⟨since,
        ⟨tally.marks, fun other same => (by cases same), tally.begun.trans passed, ?_⟩,
        fun _ _ => rfl, ?_⟩
      · intro instant notReached
        exact tally.notYet instant (by omega)
      · intro notLate _ instant between reached
        have later := paced.lt_of_wake registered waiting cancelled going notLate between
        omega
  | batch group dispatched dispatching scans script sameTime isPrefix all marks =>
      simp only [Paced, dispatching] at paced
      obtain ⟨awaits, -⟩ := paced
      have later := awaits.first.after
      obtain ⟨after, tallied, counted⟩ := tally.batch awaits dispatching scans marks
      refine ⟨after, tallied, ?_, ?_⟩
      · intro instant early
        have other : instant ≠ group.instant := by
          omega
        rw [counted, if_neg other, Nat.add_zero]
      · intro _ going instant between reached
        obtain ⟨same, once⟩ := count_batch awaits registered between reached
        rw [counted, tally.notYet instant (by omega), if_pos same, all going, once]

/-- A task that stays registered is among those that the run looks ahead to. -/
theorem Turn.registered
    (turn : Turn run tasks base next later ahead)
    (among : (id, schedule) ∈ tasks)
    (registered : (id, schedule) ∈ run.loop.schedules)
    (registeredNext : (id, schedule) ∈ next.loop.schedules) :
    (id, schedule) ∈ later := by
  cases turn with
  | scan => exact among
  | wait => exact among
  | ready => exact among
  | wake => exact registered
  | batch => exact registeredNext

end Steps

/-- What is known of a run that looks ahead from some second.  As long as there was no late wake,
the task was run once for each instant that the run has passed, unless the run is told to stop. -/
structure Kept
    (first : Run)
    (id : Nat)
    (schedule : Schedule)
    (steps : Nat)
    (tasks : List (Nat × Schedule))
    (base : Int)
    (since : List Mark) :
    Prop where
  among : (id, schedule) ∈ tasks
  tally : Tally first (first.runFor steps) id base since
  once :
    (∀ earlier < steps, ¬ (first.runFor earlier).LateWake id) →
      (first.runFor steps).loop.stopRequested = false →
        ∀ instant ∈ schedule.Between (first.loop.clock / 1000) Schedule.maxTime,
          instant ≤ base → timesRun since id instant = 1

section Runs

variable {first : Run} {id : Nat} {schedule : Schedule}

/-- A run begins with nothing to catch up on. -/
theorem kept_zero
    (scanning : first.phase = .scanning)
    (registered : (id, schedule) ∈ first.loop.schedules) :
    Kept first id schedule 0 first.loop.schedules (first.loop.clock / 1000) [] where
  among := registered
  tally := by
    refine ⟨(List.append_nil _).symm, fun due same => ?_, Int.le_refl _, fun _ _ => rfl⟩
    change first.phase.found? = some due at same
    rw [scanning] at same
    cases same
  once := by
    intro _ _ instant between reached
    have after := between.1
    omega

/-- A turn keeps the tally. -/
theorem Kept.turn
    {steps : Nat}
    {tasks later : List (Nat × Schedule)}
    {base ahead : Int}
    {since : List Mark}
    (kept : Kept first id schedule steps tasks base since)
    (paced : (first.runFor steps).Paced tasks base)
    (turn : Turn (first.runFor steps) tasks base (first.runFor (steps + 1)) later ahead)
    (stays :
      (first.runFor (steps + 1)).loop.stopRequested = false →
        (first.runFor steps).loop.stopRequested = false)
    (registered : ∀ steps, (id, schedule) ∈ (first.runFor steps).loop.schedules) :
    ∃ after, Kept first id schedule (steps + 1) later ahead after := by
  obtain ⟨after, tally, still, passed⟩ := kept.tally.turn paced kept.among turn
  refine ⟨after, turn.registered kept.among (registered _) (registered _), tally, ?_⟩
  intro noLate going instant between reached
  by_cases early : instant ≤ base
  · rw [still instant early]
    exact kept.once (fun earlier before => noLate earlier (by omega)) (stays going)
      instant between early
  · refine passed (noLate steps (by omega)) going instant ?_ reached
    exact (Schedule.mem_between_iff_of_le kept.tally.begun).mpr ⟨by omega, between⟩

/-- Every step of a timeless run in which the task stays registered keeps the tally, or the run is
over. -/
theorem kept_runFor
    (scanning : first.phase = .scanning)
    (grounded : ∀ steps, (first.runFor steps).Grounded)
    (dense : 0 ≤ first.loop.options.waitDensity)
    (timeless : ∀ steps, (first.runFor steps).Timeless)
    (fits :
      ∀ steps, (first.runFor steps).phase = .scanning →
        Calendar.Fits (Calendar.yearOf ((first.runFor steps).loop.clock / 1000)))
    (registered : ∀ steps, (id, schedule) ∈ (first.runFor steps).loop.schedules)
    (steps : Nat) :
    (∃ failure, (first.runFor steps).phase = .over failure) ∨
      ∃ tasks base, (first.runFor steps).Paced tasks base ∧
        ∃ since, Kept first id schedule steps tasks base since := by
  refine timeline
    (motive := fun steps tasks base => ∃ since, Kept first id schedule steps tasks base since)
    scanning grounded dense timeless (fun steps _ _ _ => fits steps)
    ⟨_, kept_zero scanning (registered 0)⟩ ?_ ?_ steps
  · rintro steps tasks base same ⟨since, among, tally, once⟩
    refine ⟨since, among, same ▸ tally, fun noLate going => ?_⟩
    rw [same] at going
    exact once (fun earlier before => noLate earlier (by omega)) going
  · rintro steps tasks base later ahead stepped paced - turn ⟨since, kept⟩
    exact kept.turn paced turn ((grounded steps).going stepped turn.goesOn) registered

/-- The marks since the begin of a run are those of its tally. -/
theorem Tally.drop
    {run : Run}
    {base : Int}
    {since : List Mark}
    (tally : Tally first run id base since) :
    run.loop.marks.drop first.loop.marks.length = since := by
  rw [tally.marks, List.drop_left]

/-- A late wake has lost an instant: the next scan looks ahead from it, and it was not run. -/
theorem Kept.lost
    {steps : Nat}
    {tasks : List (Nat × Schedule)}
    {base : Int}
    {since : List Mark}
    (kept : Kept first id schedule steps tasks base since)
    (paced : (first.runFor steps).Paced tasks base)
    (late : (first.runFor steps).LateWake id) :
    ¬ first.Complete id schedule := by
  obtain ⟨group, deadline, waiting, cancelled, going, member, isDue⟩ := late
  obtain ⟨awaits, -, -⟩ := (paced_waiting_iff waiting).mp paced
  have between := (awaits.first.mem_tasks_iff awaits.distinct kept.among).mp member
  have sinceBegin := ((Schedule.mem_between_iff_of_le kept.tally.begun).mp between).2
  have interrupts :
      first.runFor (steps + 1) = { first.runFor steps with phase := .scanning } := by
    have stepped : (first.runFor steps).step? = some (first.runFor steps).interrupted := by
      simp only [step?, waiting, cancelled, ↓reduceIte]
    rw [runFor_succ_of_step? stepped]
    simp only [interrupted, going, Bool.false_eq_true, ↓reduceIte]
  have reached : group.instant ≤ (first.runFor steps).loop.clock / 1000 := by
    omega
  intro complete
  have once := complete (steps + 1)
  rw [interrupts] at once
  have counted := once rfl going group.instant sinceBegin reached
  rw [kept.tally.drop, kept.tally.notYet _ awaits.first.after] at counted
  cases counted

end Runs

end Run

section Example

/-- What "0 0 1 1 *" writes: the beginning of every year. -/
def everyYear : Schedule where
  raw := "0 0 1 1 *"
  secondField := none
  minutes := { kind := .minute, mask := 1, bounds := some (0, 0) }
  hours := { kind := .hour, mask := 1, bounds := some (0, 0) }
  days := { kind := .day, mask := 1, bounds := some (1, 1) }
  months := { kind := .month, mask := 1, bounds := some (1, 1) }
  weekdays := { kind := .weekday, mask := Nat.pow 2 7 - 1, bounds := some (0, 6) }

/-- A task is added while the loop waits for the minute in which the year 2000 begins: fifty
milliseconds after that, when the wait may still go on. -/
def lateAddition : RunRequest where
  script :=
    [⟨550, .commands [.add "0 0 1 1 *" false (.always false .idle)]⟩, ⟨2000, .stop⟩]

/-- What is known of a run with the late addition before its first step. -/
structure BeginsLate
    (run : Run) :
    Prop where
  begins : (Loop.eve.session Loop.addMinutely).Begins lateAddition run
  minutely : Minutely run
  grounded : ∀ steps, (run.runFor steps).Grounded
  gentle : run.Gentle 1 everyMinute

theorem beginsLate_of_start
    {run : Run}
    (accepted : (Loop.eve.session Loop.addMinutely).start .another lateAddition = .started run) :
    BeginsLate run := by
  have begins := Loop.begins_of_start accepted
  have minutely := minutely_of_start accepted (by decide +kernel) (by decide +kernel)
    (by decide +kernel) schedules_minutely
  refine ⟨begins, minutely, Run.grounded_of_start Loop.fresh_eve Loop.addMinutely accepted,
    ⟨⟨?_, ?_, ?_⟩, ?_⟩⟩
  · exact Loop.harmless_minutely.start accepted
  · rw [begins.nextId]
    decide +kernel
  · rw [minutely.schedules]
    exact List.mem_singleton_self _
  · rw [begins.script]
    simp [lateAddition, Happening.Mild, Command.Mild, Action.harmless_idle]

theorem BeginsLate.dense
    {run : Run}
    (begins : BeginsLate run) :
    0 ≤ run.loop.options.waitDensity := by
  rw [begins.minutely.density]
  decide

/-- The run is timeless, stays in years that dates can keep, and retains its task. -/
theorem BeginsLate.timeless
    {run : Run}
    (begins : BeginsLate run)
    (steps : Nat) :
    (run.runFor steps).Timeless ∧
      ((run.runFor steps).phase = .scanning →
        Calendar.Fits (Calendar.yearOf ((run.runFor steps).loop.clock / 1000))) ∧
      (1, everyMinute) ∈ (run.runFor steps).loop.schedules := by
  have gentle := Run.gentle_runFor begins.gentle
  refine ⟨(gentle steps).timeless, ?_, (gentle steps).retains.registered⟩
  refine Run.fits_clock_runFor begins.minutely.scanning begins.grounded begins.dense
    (fun steps => (gentle steps).timeless) ?_ ?_ ?_ steps
  · rw [begins.minutely.clock]
    decide +kernel
  · rw [begins.begins.script, begins.begins.uptime, begins.minutely.clock]
    simp only [lateAddition, List.forall_mem_cons, List.not_mem_nil, false_imp_iff,
      implies_true, and_true]
    exact ⟨by decide +kernel, by decide +kernel⟩
  · exact fun steps group _ => ((gentle steps).retains.harmless.dispatch group.tasks).1.script

/-- A task that is added is made first and registered then. -/
theorem course_add
    (loop : Loop)
    {text : String}
    {withSeconds : Bool}
    {schedule : Schedule}
    (parsed : Schedule.parse text withSeconds = .ok schedule)
    (action : Action) :
    Loop.Course loop
      [(loop, .make schedule action),
        ((loop.makeTask schedule action).1, .register (loop.makeTask schedule action).2),
        ((loop.addTask schedule action).1, .aside)]
      (loop.execute (.add text withSeconds action)) := by
  have performed :
      loop.execute (.add text withSeconds action) =
        (loop.addTask schedule action).1.record
          (.answered (.add text withSeconds action)
            (Loop.madeReply (loop.addTask schedule action).2)) := by
    simp only [Loop.execute, Loop.perform, Loop.addText, parsed]
  rw [performed]
  exact .cons (.make loop schedule action ⟨text, withSeconds, parsed⟩)
    (.cons (.register _ _ ⟨_, loop.known_makeTask schedule action⟩)
      (.cons (.aside (.record _ rfl)) (.nil _)))

/-- The first wait of a run at some uptime, with what is to happen after that. -/
def firstWait
    (run : Run)
    (uptime : Int)
    (others : List TimedHappening) :
    Loop :=
  { run.loop.scan.1 with script := others }.advanceTo uptime

/-- A run that waits, while a task is added. -/
theorem cancelled_of_add
    {run : Run}
    (grounded : run.Grounded)
    (scanning : run.phase = .scanning)
    (going : run.loop.stopRequested = false)
    (uptime : Int)
    (others : List TimedHappening)
    {text : String}
    {withSeconds : Bool}
    {schedule : Schedule}
    (parsed : Schedule.parse text withSeconds = .ok schedule)
    (action : Action)
    (fresh : run.loop.nextId ∉ run.loop.registry) :
    ((firstWait run uptime others).execute
        (.add text withSeconds action)).signals.isCancelled .wait = true ∧
      ((firstWait run uptime others).execute
        (.add text withSeconds action)).stopRequested = false := by
  obtain ⟨external, stop, wake, driven⟩ := grounded.driven (by simp [scanning])
  have adds := course_add (firstWait run uptime others) parsed action
  have course := Loop.Course.cons (.scan run.loop)
    (.cons (.aside ((Loop.Aside.scriptTo run.loop.scan.1 others).trans (.advanceTo _ uptime))) adds)
  have steady := Run.steady_of_course driven course (by simp)
  refine ⟨(Run.isCancelled_wait_iff_of_course driven course ⟨⟨[], rfl⟩, ?_⟩).mpr (Or.inl ?_),
    steady.stop.trans going⟩
  · simp [Loop.ScanFree]
  · refine ⟨_, List.mem_cons_of_mem _ (List.mem_cons_of_mem _ List.mem_cons_self), ?_⟩
    exact fresh

/-- The addition happens at the uptime 550, when the year has begun, and interrupts the wait. -/
theorem BeginsLate.lateWake
    {run : Run}
    (begins : BeginsLate run) :
    (run.runFor 2).LateWake 1 := by
  have pending : run.loop.scan.1.signals.isCancelled .wait = false :=
    ((begins.grounded 0).fresh_token begins.minutely.scanning begins.minutely.going).2
  have fresh : run.loop.nextId ∉ run.loop.registry := by
    rw [begins.begins.nextId, begins.begins.registry]
    decide +kernel
  have parsed : Schedule.parse "0 0 1 1 *" false = .ok everyYear := by
    decide +kernel
  let action : Action := .always false .idle
  obtain ⟨cancelled, going⟩ :=
    cancelled_of_add (begins.grounded 0) begins.minutely.scanning begins.minutely.going 550
      [⟨2000, .stop⟩] parsed action fresh
  let added : Happening := .commands [.add "0 0 1 1 *" false action]
  have time :
      (firstWait run 550 [⟨2000, .stop⟩]).SameTime
        ((firstWait run 550 [⟨2000, .stop⟩]).happen added) :=
    (Loop.Extends.happen _
      (by simp [added, action, Happening.Mild, Command.Mild, Action.harmless_idle])).sameTime
  have clock : ((firstWait run 550 [⟨2000, .stop⟩]).happen added).clock = 946684800050 := by
    rw [time.clock]
    change run.loop.clock + max 0 (550 - run.loop.uptime) = _
    rw [begins.minutely.clock, begins.begins.uptime]
    decide
  have uptime : ((firstWait run 550 [⟨2000, .stop⟩]).happen added).uptime = 550 := by
    rw [time.uptime]
    change run.loop.uptime + max 0 (550 - run.loop.uptime) = _
    rw [begins.begins.uptime]
    decide
  have second : run.runFor 2 =
      ⟨(firstWait run 550 [⟨2000, .stop⟩]).happen added,
        .waiting (some (⟨946684800, [1]⟩, 600))⟩ := by
    have script : run.loop.scan.1.script = [⟨550, added⟩, ⟨2000, .stop⟩] := begins.begins.script
    rw [Run.runFor_succ begins.minutely.waits]
    refine Run.runFor_succ ?_ 0
    exact Run.step?_happening pending script (by decide) rfl (by rw [uptime]; decide)
  rw [second]
  refine ⟨_, _, rfl, cancelled, going, List.mem_singleton_self _, ?_⟩
  change _ ≤ ((firstWait run 550 [⟨2000, .stop⟩]).happen added).clock
  rw [clock]
  decide

end Example

namespace Run

/-- A task that stays registered during a run, with its schedule, is run exactly once for each of
its occurrences if and only if no wait for it is interrupted late.  Time passes in waits only, and
the run scans in years that dates can keep. -/
theorem complete_iff_of_start
    {loop : Loop}
    (fresh : loop.Fresh)
    (statements : List Statement)
    {request : RunRequest}
    {run : Run}
    (accepted : (loop.session statements).start .another request = .started run)
    (dense : 0 ≤ run.loop.options.waitDensity)
    (timeless : ∀ steps, (run.runFor steps).Timeless)
    (fits :
      ∀ steps, (run.runFor steps).phase = .scanning →
        Calendar.Fits (Calendar.yearOf ((run.runFor steps).loop.clock / 1000)))
    {id : Nat}
    {schedule : Schedule}
    (registered : ∀ steps, (id, schedule) ∈ (run.runFor steps).loop.schedules) :
    run.Complete id schedule ↔ ∀ steps, ¬ (run.runFor steps).LateWake id := by
  have keeps := kept_runFor (Loop.scanning_of_start accepted)
    (grounded_of_start fresh statements accepted) dense timeless fits registered
  constructor
  · intro complete steps late
    rcases keeps steps with ⟨failure, ended⟩ | ⟨tasks, base, paced, since, kept⟩
    · obtain ⟨group, deadline, waiting, -⟩ := late
      cases ended.symm.trans waiting
    · exact kept.lost paced late complete
  · intro noLate steps scanning going instant between reached
    rcases keeps steps with ⟨failure, ended⟩ | ⟨tasks, base, paced, since, kept⟩
    · cases ended.symm.trans scanning
    · simp only [Paced, scanning] at paced
      rw [kept.tally.drop]
      exact kept.once (fun earlier _ => noLate earlier) going instant between
        (reached.trans_eq paced.2.symm)

/-- The equivalence for the run with the late addition. -/
theorem complete_iff_lateAddition :
    Loop.eve.Fresh ∧
      ∃ run, (Loop.eve.session Loop.addMinutely).start .another lateAddition = .started run ∧
        0 ≤ run.loop.options.waitDensity ∧
        (∀ steps, (run.runFor steps).Timeless) ∧
        (∀ steps, (run.runFor steps).phase = .scanning →
          Calendar.Fits (Calendar.yearOf ((run.runFor steps).loop.clock / 1000))) ∧
        (∀ steps, (1, everyMinute) ∈ (run.runFor steps).loop.schedules) ∧
        (run.Complete 1 everyMinute ↔ ∀ steps, ¬ (run.runFor steps).LateWake 1) := by
  have accepted := Loop.start_of_idle Loop.idle_minutely lateAddition
  have begins := beginsLate_of_start accepted
  refine ⟨Loop.fresh_eve, _, accepted, begins.dense, fun steps => (begins.timeless steps).1,
    fun steps => (begins.timeless steps).2.1, fun steps => (begins.timeless steps).2.2, ?_⟩
  exact complete_iff_of_start Loop.fresh_eve Loop.addMinutely accepted begins.dense
    (fun steps => (begins.timeless steps).1) (fun steps => (begins.timeless steps).2.1)
    fun steps => (begins.timeless steps).2.2

/-- The run with the late addition has not run its task for the first instant of the year 2000,
although the task stays registered and no time passes but in waits. -/
theorem not_complete_lateAddition :
    Loop.eve.Fresh ∧
      ∃ run, (Loop.eve.session Loop.addMinutely).start .another lateAddition = .started run ∧
        0 ≤ run.loop.options.waitDensity ∧
        (∀ steps, (run.runFor steps).Timeless) ∧
        (∀ steps, (1, everyMinute) ∈ (run.runFor steps).loop.schedules) ∧
        ¬ run.Complete 1 everyMinute := by
  have accepted := Loop.start_of_idle Loop.idle_minutely lateAddition
  have begins := beginsLate_of_start accepted
  refine ⟨Loop.fresh_eve, _, accepted, begins.dense, fun steps => (begins.timeless steps).1,
    fun steps => (begins.timeless steps).2.2, ?_⟩
  have keeps := kept_runFor begins.minutely.scanning begins.grounded begins.dense
    (fun steps => (begins.timeless steps).1) (fun steps => (begins.timeless steps).2.1)
    (fun steps => (begins.timeless steps).2.2) 2
  rcases keeps with ⟨failure, ended⟩ | ⟨tasks, base, paced, since, kept⟩
  · obtain ⟨group, deadline, waiting, -⟩ := begins.lateWake
    cases ended.symm.trans waiting
  · exact kept.lost paced begins.lateWake

end Run

end Cadence
