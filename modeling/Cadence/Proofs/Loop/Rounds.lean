import Cadence.Proofs.Loop.LateWakes

namespace Cadence

/-!
# Rounds

Each scan of a loop begins a round, and at most one batch comes of it.  The due
instant is found before the wait, during which tasks may come and go, schedules
may be swapped and the clock may be set; the clock is read again after the wait,
and only a batch that is due by then is entered.  So no batch is ever early,
whatever happens to the clock.

If the clock is never set back, then a scan begins in the second of the last
batch or later, and what it finds is later still: due instants increase from
batch to batch, and no task is run twice for the same instant.
-/

/-- A scan from a base second, and what came of it. -/
inductive Round
  /-- No batch came of the scan, or none yet. -/
  | idle (base : Int) (due : Option OccurrenceGroup)
  /-- A group was due, its batch was entered at some clock, and tasks of it were dispatched. -/
  | batch (base : Int) (group : OccurrenceGroup) (clock : Int) (dispatched : List Nat)

namespace Round

/-- The marks that a round leaves. -/
def marks : Round → List Mark
  | idle base due => [.scanned base due]
  | batch base group clock dispatched =>
      .scanned base (some group) :: .entered clock group.tasks :: dispatched.map Mark.dispatched

/-- The tasks that a round dispatched, each with its due instant. -/
def dispatches : Round → List (Int × Nat)
  | idle _ _ => []
  | batch _ group _ dispatched => dispatched.map fun id => (group.instant, id)

/-- The batch of a round is not entered before it is due, has no task twice, and is due after the
base second, if that is in a year that dates can keep. -/
def Timely : Round → Prop
  | idle _ _ => True
  | batch base group clock dispatched =>
      1000 * group.instant ≤ clock ∧ group.tasks.Nodup ∧ dispatched <+: group.tasks ∧
        (Calendar.Fits (Calendar.yearOf base) → base < group.instant)

end Round

/-- Marks that are those of rounds in which no batch was early. -/
def Chronicled
    (marks : List Mark) :
    Prop :=
  ∃ rounds : List Round, marks = rounds.flatMap Round.marks ∧ ∀ round ∈ rounds, round.Timely

/-- One more round. -/
theorem Chronicled.append
    {marks : List Mark}
    (chronicled : Chronicled marks)
    (round : Round)
    (timely : round.Timely) :
    Chronicled (marks ++ round.marks) := by
  obtain ⟨rounds, rfl, allTimely⟩ := chronicled
  refine ⟨rounds ++ [round], by simp, fun other present => ?_⟩
  rcases List.mem_append.mp present with early | last
  · exact allTimely other early
  · rw [List.mem_singleton.mp last]
    exact timely

section Rounds

variable {rounds : List Round}

end Rounds

namespace Loop

/-- A scan of a loop finds a group: tasks that are registered then, none of them twice, and the
instant of the group is the next occurrence of each of them, with the schedule that it has then.
If the base second is in a year that dates can keep, that is the first instant after it at which
the schedule matches. -/
structure Finds
    (loop : Loop)
    (group : OccurrenceGroup) :
    Prop where
  found : loop.scan.2 = some group
  inhabited : group.tasks ≠ []
  distinct : group.tasks.Nodup
  next :
    ∀ id ∈ group.tasks, ∃ schedule, (id, schedule) ∈ loop.schedules ∧
      schedule.nextOccurrence (loop.clock / 1000) Schedule.maxTime = group.instant ∧
      (Calendar.Fits (Calendar.yearOf (loop.clock / 1000)) →
        IsLeast (schedule.Between (loop.clock / 1000) Schedule.maxTime) group.instant)

section Finds

variable {loop : Loop} {group : OccurrenceGroup}

theorem Sound.finds
    (sound : loop.Sound)
    (found : loop.scan.2 = some group) :
    loop.Finds group := by
  have isDue := OccurrenceGroup.isDueNext_dueNext loop.schedules (loop.clock / 1000)
  have due : Loop.dueNext loop.schedules (loop.clock / 1000) = some group := found
  rw [due] at isDue
  obtain ⟨early, inhabited, -, chosen⟩ := isDue
  refine ⟨found, inhabited, ?_, ?_⟩
  · rw [chosen]
    exact sound.distinct_schedules.sublist ((List.filter_sublist).map _)
  · intro id member
    rw [chosen] at member
    obtain ⟨⟨id, schedule⟩, isTask, rfl⟩ := List.mem_map.mp member
    obtain ⟨registered, isNext⟩ := List.mem_filter.mp isTask
    have same : schedule.nextOccurrence (loop.clock / 1000) Schedule.maxTime = group.instant :=
      of_decide_eq_true isNext
    refine ⟨schedule, registered, same, fun fits => ?_⟩
    rw [← same]
    exact Schedule.isLeast_of_nextOccurrence_lt (sound.wellFormed_schedules _ registered) fits
      OccurrenceGroup.fits_maxTime (same ▸ early)

/-- What a scan finds is due after the base second. -/
theorem Finds.after
    (finds : loop.Finds group)
    (fits : Calendar.Fits (Calendar.yearOf (loop.clock / 1000))) :
    loop.clock / 1000 < group.instant := by
  obtain ⟨id, member⟩ := List.exists_mem_of_ne_nil _ finds.inhabited
  obtain ⟨schedule, -, -, least⟩ := finds.next id member
  exact (least fits).1.1

end Finds

theorem marks_scan
    (loop : Loop) :
    loop.scan.1.marks = loop.marks ++ [.scanned (loop.clock / 1000) loop.scan.2] :=
  marks_record _ _

@[simp] theorem marks_leaveRun
    (loop : Loop) :
    loop.leaveRun.marks = loop.marks := by
  unfold leaveRun
  rw [marks_emit]
  exact List.append_nil _

end Loop

namespace Run

/-- What a step means for the round of a run: it leaves the round, scans, waits for what the scan
found or is done waiting for it, or dispatches it. -/
inductive Advances
    (run next : Run) :
    Prop where
  | leaves
      (idle : ∀ group, run.phase ≠ .dispatching group)
      (found : next.phase.found? = none)
      (marks : next.loop.marks = run.loop.marks)
  | scans
      (scanning : run.phase = .scanning)
      (found : next.phase.found? = some run.loop.scan.2)
      (marks :
        next.loop.marks =
          run.loop.marks ++ [.scanned (run.loop.clock / 1000) run.loop.scan.2])
  | waits
      (due : Option (OccurrenceGroup × Int))
      (waiting : run.phase = .waiting due)
      (found : next.phase.found? = some (due.map Prod.fst))
      (marks : next.loop.marks = run.loop.marks)
  | dispatches
      (group : OccurrenceGroup)
      (dispatched : List Nat)
      (dispatching : run.phase = .dispatching group)
      (found : next.phase.found? = none)
      (isPrefix : dispatched <+: group.tasks)
      (marks :
        next.loop.marks =
          run.loop.marks ++ .entered run.loop.clock group.tasks ::
            dispatched.map Mark.dispatched)

section Steps

variable {run next : Run}

/-- A wait that comes to its end leaves the round if the clock was set back meanwhile. -/
theorem advances_timedOut
    {group : OccurrenceGroup}
    {deadline : Int}
    (waiting : run.phase = .waiting (some (group, deadline)))
    (waited : Run)
    (marks : waited.loop.marks = run.loop.marks) :
    run.Advances (waited.timedOut group deadline) := by
  have same := (waited.aside_timedOut group deadline).marks.trans marks
  by_cases early : (waited.loop.advanceTo deadline).clock < 1000 * group.instant
  · exact .leaves (by simp [waiting]) (by simp [timedOut, early, Phase.found?]) same
  · exact .waits _ waiting (by simp [timedOut, early, Phase.found?]) same

/-- A batch leaves the mark of its entry and those of the tasks that it dispatches, whatever the
clock is when it is entered. -/
theorem Grounded.marks_dispatch
    {group : OccurrenceGroup}
    (grounded : run.Grounded)
    (dispatching : run.phase = .dispatching group)
    (clock : Int) :
    ∃ dispatched, dispatched <+: group.tasks ∧
      ({ run.loop with clock := clock }.dispatch group.tasks).1.marks =
        run.loop.marks ++ .entered clock group.tasks :: dispatched.map Mark.dispatched := by
  obtain ⟨external, stop, wake, driven⟩ := grounded.driven (by simp [dispatching])
  have set : Loop.Aside run.loop { run.loop with clock := clock } :=
    ⟨rfl, rfl, rfl, rfl, Nat.le_refl _, rfl, rfl, rfl, rfl, rfl⟩
  obtain ⟨later, still⟩ := driven.along (.cons (.aside set) (.nil _))
  obtain ⟨dispatched, isPrefix, marks, -⟩ := Loop.marks_dispatch still group.tasks
  exact ⟨dispatched, isPrefix, marks⟩

/-- Every step is one of these. -/
theorem advances_of_step?
    (grounded : run.Grounded)
    (stepped : run.step? = some next) :
    run.Advances next := by
  cases moves_of_step? stepped with
  | finish scanning => exact .leaves (by simp [scanning]) rfl (Loop.marks_leaveRun _)
  | scan scanning =>
      refine .scans scanning ?_ run.loop.marks_scan
      simp [Phase.found?, Function.comp_def]
  | quit due waiting =>
      refine .leaves (by simp [waiting]) rfl ?_
      rw [Loop.marks_leaveRun, Loop.marks_emit]
      exact List.append_nil _
  | wake due waiting => exact .leaves (by simp [waiting]) rfl rfl
  | happen due waiting pending happening others =>
      refine .waits due waiting ?_ (run.proceeds_happened happening others).marks
      exact congrArg Phase.found? waiting
  | outlast group deadline waiting pending happening others =>
      exact advances_timedOut waiting _ (run.proceeds_happened happening others).marks
  | timeOut group deadline waiting => exact advances_timedOut waiting run rfl
  | batch group dispatching dispatched result =>
      obtain ⟨ids, isPrefix, marks⟩ := grounded.marks_dispatch dispatching run.loop.clock
      rw [result] at marks
      exact .dispatches group ids dispatching rfl isPrefix marks
  | fail group dispatching dispatched failure result =>
      obtain ⟨ids, isPrefix, marks⟩ := grounded.marks_dispatch dispatching run.loop.clock
      rw [result] at marks
      exact .dispatches group ids dispatching rfl isPrefix ((Loop.marks_leaveRun _).trans marks)

/-- A step leads to a batch only if the clock has reached the due instant. -/
theorem notEarly_of_step?
    {group : OccurrenceGroup}
    (stepped : run.step? = some next)
    (dispatching : next.phase = .dispatching group) :
    1000 * group.instant ≤ next.loop.clock := by
  have waited :
      ∀ (waits : Run) (other : OccurrenceGroup) (deadline : Int),
        (waits.timedOut other deadline).phase = .dispatching group →
          1000 * group.instant ≤ (waits.timedOut other deadline).loop.clock := by
    intro waits other deadline isDispatching
    simp only [timedOut] at isDispatching ⊢
    split at isDispatching
    · cases isDispatching
    · next notEarly =>
      cases isDispatching
      exact Int.not_lt.mp notEarly
  cases moves_of_step? stepped with
  | outlast => exact waited _ _ _ dispatching
  | timeOut => exact waited _ _ _ dispatching
  | happen due waiting => cases waiting.symm.trans dispatching
  | _ => cases dispatching

end Steps

/-- The scan from which a run waits, or is about to dispatch what was found. -/
structure ScannedAt
    (first : Run)
    (earlier steps : Nat)
    (due : Option OccurrenceGroup) :
    Prop where
  before : earlier < steps
  scanning : (first.runFor earlier).phase = .scanning
  found : (first.runFor earlier).loop.scan.2 = due
  waits :
    ∀ between, earlier < between → between < steps →
      ∃ plan, (first.runFor between).phase = .waiting plan
  marks :
    (first.runFor steps).loop.marks =
      (first.runFor earlier).loop.marks ++
        [.scanned ((first.runFor earlier).loop.clock / 1000) due]

/-- A run is about to dispatch a group: the clock has reached the due instant, the last scan found
the group, and the run has only waited since.  The batch is entered at once, and tasks of the group
are dispatched, in their order.  The clock is read once more for that: were it set meanwhile, even
back before the due instant, the batch would be entered all the same. -/
structure Warranted
    (first : Run)
    (steps : Nat)
    (group : OccurrenceGroup) :
    Prop where
  notEarly : 1000 * group.instant ≤ (first.runFor steps).loop.clock
  found :
    ∃ earlier, ScannedAt first earlier steps (some group) ∧
      (first.runFor earlier).loop.Finds group
  entered :
    ∃ dispatched, dispatched <+: group.tasks ∧
      (first.runFor (steps + 1)).loop.marks =
        (first.runFor steps).loop.marks ++
          .entered (first.runFor steps).loop.clock group.tasks :: dispatched.map Mark.dispatched
  reread :
    ∀ clock : Int, ∃ dispatched, dispatched <+: group.tasks ∧
      ({ (first.runFor steps).loop with clock := clock }.dispatch group.tasks).1.marks =
        (first.runFor steps).loop.marks ++
          .entered clock group.tasks :: dispatched.map Mark.dispatched

section Runs

variable {first : Run}

/-- A run advances step by step; one that waits forever goes on waiting. -/
theorem advances_runFor
    (grounded : ∀ steps, (first.runFor steps).Grounded)
    (steps : Nat) :
    (first.runFor steps).Advances (first.runFor (steps + 1)) := by
  rw [runFor_succ_last]
  cases stepped : (first.runFor steps).step? with
  | some next => exact advances_of_step? (grounded steps) stepped
  | none =>
      rcases over_or_idle_of_step?_none stepped with ⟨failure, ended⟩ | waiting
      · exact .leaves (by simp [ended]) (congrArg Phase.found? ended) rfl
      · exact .waits none waiting (congrArg Phase.found? waiting) rfl

/-- A run is only about to dispatch what is due. -/
theorem notEarly_runFor
    (scanning : first.phase = .scanning)
    (steps : Nat)
    {group : OccurrenceGroup}
    (dispatching : (first.runFor steps).phase = .dispatching group) :
    1000 * group.instant ≤ (first.runFor steps).loop.clock := by
  refine runFor_induction
    (motive := fun later =>
      later.phase = .dispatching group → 1000 * group.instant ≤ later.loop.clock)
    (fun stepped _ => notEarly_of_step? stepped) (fun begins => ?_) steps dispatching
  cases scanning.symm.trans begins

/-- What a run waits for or dispatches was found by its last scan. -/
theorem exists_scannedAt
    (scanning : first.phase = .scanning)
    (grounded : ∀ steps, (first.runFor steps).Grounded)
    {steps : Nat}
    {due : Option OccurrenceGroup}
    (found : (first.runFor steps).phase.found? = some due) :
    ∃ earlier, ScannedAt first earlier steps due := by
  induction steps with
  | zero =>
      rw [runFor, scanning] at found
      cases found
  | succ steps inductionHypothesis =>
      cases advances_runFor grounded steps with
      | leaves idle left => cases left.symm.trans found
      | dispatches group dispatched dispatching left => cases left.symm.trans found
      | scans isScan finds marks =>
          cases Option.some.inj (finds.symm.trans found)
          exact ⟨steps, Nat.lt_succ_self steps, isScan, rfl,
            fun between after before => by omega, marks⟩
      | waits plan waiting finds marks =>
          cases Option.some.inj (finds.symm.trans found)
          obtain ⟨earlier, before, isScan, isFound, waits, marksBefore⟩ :=
            inductionHypothesis (congrArg Phase.found? waiting)
          refine ⟨earlier, Nat.lt_succ_of_lt before, isScan, isFound, ?_,
            marks.trans marksBefore⟩
          intro between after notLater
          rcases Nat.lt_succ_iff_lt_or_eq.mp notLater with sooner | rfl
          · exact waits between after sooner
          · exact ⟨plan, waiting⟩

/-- A run that is about to dispatch a group has reason to. -/
theorem warranted_runFor
    (scanning : first.phase = .scanning)
    (grounded : ∀ steps, (first.runFor steps).Grounded)
    {steps : Nat}
    {group : OccurrenceGroup}
    (dispatching : (first.runFor steps).phase = .dispatching group) :
    Warranted first steps group where
  notEarly := notEarly_runFor scanning steps dispatching
  found := by
    obtain ⟨earlier, scanned⟩ :=
      exists_scannedAt scanning grounded (congrArg Phase.found? dispatching)
    exact ⟨earlier, scanned, (grounded earlier).sound.finds scanned.found⟩
  entered := by
    cases advances_runFor grounded steps with
    | leaves idle => exact absurd dispatching (idle group)
    | scans scans => cases dispatching.symm.trans scans
    | waits due waiting => cases dispatching.symm.trans waiting
    | dispatches other dispatched isDispatching _ isPrefix marks =>
        cases dispatching.symm.trans isDispatching
        exact ⟨dispatched, isPrefix, marks⟩
  reread := (grounded steps).marks_dispatch dispatching

end Runs

end Run

namespace Loop

variable {loop : Loop}

end Loop

namespace Run

section Example

variable {run : Run}

/-- On the eve of the year 2000 the first wait ends when the year has begun, if nothing happens
meanwhile. -/
theorem dispatching_of_start
    {loop : Loop}
    {statements : List Statement}
    (fresh : loop.Fresh)
    (accepted : (loop.session statements).start .another {} = .started run)
    (minutely : Minutely run) :
    run.runFor 2 =
      { run with
        loop := run.loop.scan.1.advanceTo 600
        phase := .dispatching ⟨946684800, [1]⟩ } := by
  have grounded : run.Grounded := grounded_of_start fresh statements accepted 0
  have pending : run.loop.scan.1.signals.isCancelled .wait = false :=
    (grounded.fresh_token minutely.scanning minutely.going).2
  have reached : ¬ (run.loop.scan.1.advanceTo 600).clock < 1000 * 946684800 := by
    change ¬ run.loop.clock + max 0 (600 - run.loop.uptime) < _
    rw [minutely.clock, minutely.uptime]
    decide
  have alone : run.loop.scan.1.script = [] := (Loop.begins_of_start accepted).script
  rw [runFor_succ minutely.waits]
  simp only [runFor, step?, pending, Bool.false_eq_true, ↓reduceIte, wait?, alone,
    Option.map_some, timedOut, reached]

theorem dispatching_minutely
    (accepted : (Loop.eve.session Loop.addMinutely).start .another {} = .started run) :
    run.runFor 2 =
      { run with
        loop := run.loop.scan.1.advanceTo 600
        phase := .dispatching ⟨946684800, [1]⟩ } :=
  dispatching_of_start Loop.fresh_eve accepted
    (minutely_of_start accepted (by decide +kernel) (by decide +kernel) (by decide +kernel)
      schedules_minutely)

end Example

end Run

end Cadence
