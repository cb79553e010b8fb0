import Cadence.Proofs.Loop.Batches
import Cadence.Proofs.Loop.Groups
import Cadence.Proofs.Loop.Notices
import Cadence.Proofs.Loop.Waits

namespace Cadence

/-!
# The time of a run

If time only passes while the loop waits, then a wait for a due instant ends at
that instant or later, at most the density later, and in the same second.  So a
batch is run in the second of its group, and the next scan looks ahead from that
second.  A wait that is interrupted is over by then, and the next scan looks ahead
from the second that the clock has reached.
-/

namespace OccurrenceGroup

/-- The clock is at the instant of a group, or past it by the density at most, and in the same
second. -/
structure OnTime
    (group : OccurrenceGroup)
    (density clock : Int) :
    Prop where
  reached : 1000 * group.instant ≤ clock
  dense : clock ≤ 1000 * group.instant + density
  sameSecond : clock < 1000 * (group.instant + 1)

end OccurrenceGroup

namespace Wait

/-- A wait for an instant in a later second ends on time, if the density is not negative. -/
theorem onTime_duration
    {now density : Int}
    {group : OccurrenceGroup}
    (ahead : now / 1000 < group.instant)
    (nonnegative : 0 ≤ density) :
    0 ≤ duration 1000 now (1000 * group.instant) density ∧
      group.OnTime density (now + duration 1000 now (1000 * group.instant) density) := by
  have later : now < 1000 * group.instant := by omega
  have positive : (0 : Int) < 1000 := by decide
  obtain ⟨notEarly, notLate, lessThanSecond, -⟩ := punctual_duration positive nonnegative later
  exact ⟨by omega, by omega, by omega, by omega⟩

end Wait

namespace Loop

/-- No time passes between two loops. -/
structure SameTime
    (before after : Loop) :
    Prop where
  clock : after.clock = before.clock
  uptime : after.uptime = before.uptime

/-- Both clocks are moved on together. -/
theorem sameStart_advanceTo
    (loop : Loop)
    (uptime : Int) :
    (loop.advanceTo uptime).clock - (loop.advanceTo uptime).uptime =
      loop.clock - loop.uptime := by
  simp only [advanceTo, advance]
  omega

theorem SameTime.sameStart
    {loop next : Loop}
    {uptime : Int}
    (time : (loop.advanceTo uptime).SameTime next) :
    next.clock - next.uptime = loop.clock - loop.uptime := by
  rw [time.clock, time.uptime, sameStart_advanceTo]

/-- What a scan of some tasks found due after a base second that the clock has reached. -/
structure Awaits
    (loop : Loop)
    (tasks : List (Nat × Schedule))
    (base : Int)
    (due : Option OccurrenceGroup) :
    Prop where
  found : dueNext tasks base = due
  fits : Calendar.Fits (Calendar.yearOf base)
  distinct : (tasks.map Prod.fst).Nodup
  wellFormed : ∀ task ∈ tasks, task.2.WellFormed
  passed : base ≤ loop.clock / 1000

namespace Awaits

variable {loop next : Loop} {tasks : List (Nat × Schedule)} {base : Int}

/-- The group that is due is the first. -/
theorem first
    {group : OccurrenceGroup}
    (awaits : loop.Awaits tasks base (some group)) :
    OccurrenceGroup.First tasks base group :=
  OccurrenceGroup.first_of_dueNext awaits.found awaits.wellFormed awaits.fits

/-- Before the instant of the group that is due, the clock is in a year that dates can keep. -/
theorem fits_clock
    {group : OccurrenceGroup}
    (awaits : loop.Awaits tasks base (some group))
    (notLater : loop.clock / 1000 ≤ group.instant) :
    Calendar.Fits (Calendar.yearOf (loop.clock / 1000)) :=
  Schedule.fits_of_between awaits.fits OccurrenceGroup.fits_maxTime awaits.passed
    (notLater.trans awaits.first.early.le)

/-- The time may go on. -/
theorem later
    {due : Option OccurrenceGroup}
    (awaits : loop.Awaits tasks base due)
    (onward : loop.clock ≤ next.clock) :
    next.Awaits tasks base due where
  found := awaits.found
  fits := awaits.fits
  distinct := awaits.distinct
  wellFormed := awaits.wellFormed
  passed := by
    have passed := awaits.passed
    omega

end Awaits

/-- What is due after a scan of a sound loop. -/
theorem Sound.awaits_scan
    {loop : Loop}
    (sound : loop.Sound)
    (fits : Calendar.Fits (Calendar.yearOf (loop.clock / 1000))) :
    loop.scan.1.Awaits loop.schedules (loop.clock / 1000) loop.scan.2 where
  found := rfl
  fits := fits
  distinct := sound.distinct_schedules
  wellFormed := sound.wellFormed_schedules
  passed := Int.le_refl _

end Loop

namespace Run

/-- No time passes but in waits: neither what happens next nor the batch that is about to be run
takes any or sets the clock. -/
structure Timeless
    (run : Run) :
    Prop where
  happening :
    ∀ due next others, run.phase = .waiting due → run.loop.script = next :: others →
      (run.loop.advanceTo next.after).SameTime (run.happened next others).loop
  batch :
    ∀ group, run.phase = .dispatching group →
      run.loop.SameTime (run.loop.dispatch group.tasks).1

/-- Where a run stands in time.  It looks ahead from a base second to what was found due among some
tasks; a wait for that ends on time, and a batch is run on time. -/
def Paced
    (run : Run)
    (tasks : List (Nat × Schedule))
    (base : Int) :
    Prop :=
  match run.phase with
  | .scanning => tasks = run.loop.schedules ∧ base = run.loop.clock / 1000
  | .waiting none => run.loop.Awaits tasks base none
  | .waiting (some (group, deadline)) =>
      run.loop.Awaits tasks base (some group) ∧ run.loop.uptime ≤ deadline ∧
        group.OnTime run.loop.options.waitDensity (run.loop.clock + (deadline - run.loop.uptime))
  | .dispatching group =>
      run.loop.Awaits tasks base (some group) ∧
        group.OnTime run.loop.options.waitDensity run.loop.clock
  | .over _ => True

/-- A step of a run that does not end it: what it does to the marks, and from where the run looks
ahead then. -/
inductive Turn
    (run : Run)
    (tasks : List (Nat × Schedule))
    (base : Int)
    (next : Run) :
    List (Nat × Schedule) → Int → Prop where
  /-- A scan. -/
  | scan
      (scanning : run.phase = .scanning)
      (going : run.loop.stopRequested = false)
      (sameScript : next.loop.script = run.loop.script)
      (sameTime : run.loop.SameTime next.loop)
      (waits :
        ∃ due, next.phase = .waiting due ∧ due.map Prod.fst = Loop.dueNext tasks base)
      (pending : next.loop.signals.isCancelled .wait = false)
      (marks : next.loop.marks = run.loop.marks ++ [.scanned base (Loop.dueNext tasks base)]) :
      Turn run tasks base next tasks base
  /-- A happening that does not end the wait. -/
  | wait
      (due : Option (OccurrenceGroup × Int))
      (waiting : run.phase = .waiting due)
      (pending : run.loop.signals.isCancelled .wait = false)
      (waits : next.phase = .waiting due)
      (happening : TimedHappening)
      (script : run.loop.script = happening :: next.loop.script)
      (time : (run.loop.advanceTo happening.after).SameTime next.loop)
      (marks : next.loop.marks = run.loop.marks) :
      Turn run tasks base next tasks base
  /-- The end of a wait. -/
  | ready
      (group : OccurrenceGroup)
      (deadline : Int)
      (waiting : run.phase = .waiting (some (group, deadline)))
      (pending : run.loop.signals.isCancelled .wait = false)
      (dispatches : next.phase = .dispatching group)
      (script : next.loop.script <:+ run.loop.script)
      (sameStart : next.loop.clock - next.loop.uptime = run.loop.clock - run.loop.uptime)
      (marks : next.loop.marks = run.loop.marks) :
      Turn run tasks base next tasks base
  /-- The interruption of a wait. -/
  | wake
      (due : Option (OccurrenceGroup × Int))
      (waiting : run.phase = .waiting due)
      (cancelled : run.loop.signals.isCancelled .wait = true)
      (going : run.loop.stopRequested = false)
      (scans : next = { run with phase := .scanning }) :
      Turn run tasks base next run.loop.schedules (run.loop.clock / 1000)
  /-- A batch. -/
  | batch
      (group : OccurrenceGroup)
      (dispatched : List Nat)
      (dispatching : run.phase = .dispatching group)
      (scans : next.phase = .scanning)
      (script : next.loop.script = (run.loop.dispatch group.tasks).1.script)
      (sameTime : run.loop.SameTime next.loop)
      (isPrefix : dispatched <+: group.tasks)
      (all : next.loop.stopRequested = false → dispatched = group.tasks)
      (marks :
        next.loop.marks =
          run.loop.marks ++ .entered run.loop.clock group.tasks ::
            dispatched.map Mark.dispatched) :
      Turn run tasks base next next.loop.schedules group.instant

section Grounded

/-- What holds of every run of a session.  Only the end of a run leaves its loop without one that
is running or told to stop. -/
structure Grounded
    (run : Run) :
    Prop where
  sound : run.loop.Sound
  driven :
    (∀ failure, run.phase ≠ .over failure) →
      ∃ external stop wake, run.loop.Driven external stop wake

variable {loop : Loop} {request : RunRequest} {run : Run}

/-- Every run of every session is grounded, however far it is. -/
theorem grounded_of_start
    (fresh : loop.Fresh)
    (statements : List Statement)
    (accepted : (loop.session statements).start .another request = .started run)
    (steps : Nat) :
    (run.runFor steps).Grounded := by
  have scanning := Loop.scanning_of_start accepted
  refine ⟨?_, fun goesOn => ?_⟩
  · exact preserves Loop.Does.sound Loop.Sound.leaveRun scanning
      ((Loop.sound_session fresh statements).start accepted) steps
  · obtain ⟨external, stop, wake, driven⟩ :=
      Loop.driven_of_start accepted (Loop.calm_session fresh statements)
    exact ⟨external, stop, exists_driven_runFor driven scanning goesOn⟩

/-- The options stay the same. -/
theorem options_runFor
    (scanning : run.phase = .scanning)
    (steps : Nat) :
    (run.runFor steps).loop.options = run.loop.options := by
  refine preserves (motive := fun later => later.options = run.loop.options)
    (fun does same => does.options_marks.1.trans same) (fun same => ?_) scanning rfl steps
  exact (Loop.Aside.emit _ _ rfl).options.trans same

end Grounded

section Steps

variable {run next : Run} {tasks : List (Nat × Schedule)} {base : Int}

theorem paced_waiting_iff
    {group : OccurrenceGroup}
    {deadline : Int}
    (waiting : run.phase = .waiting (some (group, deadline))) :
    run.Paced tasks base ↔
      run.loop.Awaits tasks base (some group) ∧ run.loop.uptime ≤ deadline ∧
        group.OnTime run.loop.options.waitDensity
          (run.loop.clock + (deadline - run.loop.uptime)) := by
  unfold Paced
  rw [waiting]

/-- A wait that lasts until its deadline ends on time. -/
theorem Paced.timedOut
    {group : OccurrenceGroup}
    {deadline : Int}
    (paced : run.Paced tasks base)
    (waiting : run.phase = .waiting (some (group, deadline))) :
    (run.timedOut group deadline).phase = .dispatching group ∧
      (run.timedOut group deadline).loop.marks = run.loop.marks ∧
      (run.timedOut group deadline).loop.clock - (run.timedOut group deadline).loop.uptime =
        run.loop.clock - run.loop.uptime ∧
      (run.timedOut group deadline).Paced tasks base := by
  obtain ⟨awaits, notOver, onTime⟩ := (paced_waiting_iff waiting).mp paced
  have clock :
      (run.loop.advanceTo deadline).clock = run.loop.clock + (deadline - run.loop.uptime) := by
    simp only [Loop.advanceTo, Loop.advance]
    omega
  have notEarly : ¬ (run.loop.advanceTo deadline).clock < 1000 * group.instant := by
    rw [clock]
    exact Int.not_lt.mpr onTime.reached
  have phase : (run.timedOut group deadline).phase = .dispatching group := by
    simp [Run.timedOut, notEarly]
  have marks := (run.aside_timedOut group deadline).marks
  refine ⟨phase, marks, run.loop.sameStart_advanceTo deadline, ?_⟩
  unfold Paced
  rw [phase]
  refine ⟨awaits.later ?_, ?_⟩
  · change run.loop.clock ≤ (run.loop.advanceTo deadline).clock
    omega
  · change group.OnTime run.loop.options.waitDensity (run.loop.advanceTo deadline).clock
    rwa [clock]

/-- A run that is told to stop stays so until it is over. -/
theorem Grounded.going
    (grounded : run.Grounded)
    (stepped : run.step? = some next)
    (goesOn : ∀ failure, next.phase ≠ .over failure)
    (going : next.loop.stopRequested = false) :
    run.loop.stopRequested = false := by
  have driven : (∀ failure, run.phase ≠ .over failure) →
      ∀ {allowed : Deed → Prop} {last : Loop}, Loop.Proceeds allowed run.loop last →
        last.stopRequested = false → run.loop.stopRequested = false := by
    intro notOver allowed last proceeds
    obtain ⟨external, stop, wake, driven⟩ := grounded.driven notOver
    exact driven.going proceeds
  cases moves_of_step? stepped with
  | finish => exact absurd rfl (goesOn none)
  | scan scanning notStopped => exact notStopped
  | quit => exact absurd rfl (goesOn none)
  | wake due waiting cancelled notStopped => exact notStopped
  | happen due waiting pending happening others =>
      exact driven (by simp [waiting]) (run.proceeds_happened happening others) going
  | outlast group deadline waiting pending happening others =>
      exact driven (by simp [waiting]) (run.proceeds_happened happening others) going
  | timeOut => exact going
  | batch group dispatching dispatched result =>
      have runs := Loop.proceeds_dispatch run.loop group.tasks
      rw [result] at runs
      exact driven (by simp [dispatching]) runs going
  | fail => exact absurd rfl (goesOn _)

/-- A scan neither stops the run nor takes a token that is cancelled. -/
theorem Grounded.fresh_token
    (grounded : run.Grounded)
    (scanning : run.phase = .scanning)
    (going : run.loop.stopRequested = false) :
    run.loop.scan.1.stopRequested = false ∧
      run.loop.scan.1.signals.isCancelled .wait = false := by
  obtain ⟨external, stop, wake, driven⟩ := grounded.driven (by simp [scanning])
  obtain ⟨still, attends, steady⟩ := driven.afterScan
  have notStopped : run.loop.scan.1.stopRequested = false := steady.stop.trans going
  refine ⟨notStopped, ?_⟩
  rw [Bool.eq_false_iff]
  intro cancelled
  simpa [notStopped] using (still.isCancelled_wait_iff attends).mp cancelled

/-- A scan of a run that is not told to stop. -/
theorem Grounded.scan
    (grounded : run.Grounded)
    (scanning : run.phase = .scanning)
    (going : run.loop.stopRequested = false)
    (fits : Calendar.Fits (Calendar.yearOf (run.loop.clock / 1000)))
    (dense : 0 ≤ run.loop.options.waitDensity)
    (next : Run)
    (scans :
      next =
        { run with
          loop := run.loop.scan.1
          phase :=
            .waiting (run.loop.scan.2.map fun group => (group, run.loop.scan.1.deadline group)) }) :
    next.Paced run.loop.schedules (run.loop.clock / 1000) ∧
      Turn run run.loop.schedules (run.loop.clock / 1000) next
        run.loop.schedules (run.loop.clock / 1000) := by
  subst scans
  have awaits := grounded.sound.awaits_scan fits
  obtain ⟨-, pending⟩ := grounded.fresh_token scanning going
  have found :
      ((run.loop.scan.2.map fun group => (group, run.loop.scan.1.deadline group)).map Prod.fst) =
        Loop.dueNext run.loop.schedules (run.loop.clock / 1000) := by
    rw [Option.map_map]
    exact Option.map_id'
  refine ⟨?_, .scan scanning going rfl ⟨rfl, rfl⟩ ⟨_, rfl, found⟩ pending (run.loop.marks_record _)⟩
  unfold Paced
  cases due : run.loop.scan.2 with
  | none =>
      rw [due] at awaits
      exact awaits
  | some group =>
      rw [due] at awaits
      obtain ⟨notNegative, onTime⟩ := Wait.onTime_duration awaits.first.after dense
      refine ⟨awaits, ?_, ?_⟩
      · change run.loop.uptime ≤ run.loop.uptime +
          Wait.duration 1000 run.loop.clock (1000 * group.instant) run.loop.options.waitDensity
        omega
      · change group.OnTime run.loop.options.waitDensity
          (run.loop.clock + (run.loop.uptime +
            Wait.duration 1000 run.loop.clock (1000 * group.instant)
              run.loop.options.waitDensity - run.loop.uptime))
        rwa [Int.add_comm run.loop.uptime, Int.add_sub_cancel]

/-- The script of a run goes on behind what happened. -/
theorem script_happened
    (run : Run)
    (happening : TimedHappening)
    (others : List TimedHappening) :
    (run.happened happening others).loop.script = others :=
  (Loop.Murmurs.happen _ happening.happening).script

/-- What happens while the run waits keeps it paced. -/
theorem Paced.happen
    {due : Option (OccurrenceGroup × Int)}
    {happening : TimedHappening}
    {others : List TimedHappening}
    (paced : run.Paced tasks base)
    (timeless : run.Timeless)
    (waiting : run.phase = .waiting due)
    (script : run.loop.script = happening :: others)
    (first : comesFirst happening due = true) :
    (run.happened happening others).Paced tasks base ∧
      (run.happened happening others).loop.marks = run.loop.marks ∧
      (run.loop.advanceTo happening.after).SameTime (run.happened happening others).loop := by
  have passes := run.proceeds_happened happening others
  have waits : (run.happened happening others).phase = .waiting due := waiting
  have time := timeless.happening due happening others waiting script
  generalize run.happened happening others = waited at passes waits time ⊢
  have marks := passes.marks
  have options : waited.loop.options = run.loop.options := by
    obtain ⟨deeds, course, -⟩ := passes
    exact course.options
  have ⟨clock, uptime⟩ := time
  simp only [Loop.advanceTo, Loop.advance] at clock uptime
  refine ⟨?_, marks, time⟩
  cases due with
  | none =>
      unfold Paced at paced ⊢
      rw [waits]
      rw [waiting] at paced
      exact Loop.Awaits.later paced (by omega)
  | some plan =>
      obtain ⟨group, deadline⟩ := plan
      obtain ⟨awaits, notOver, onTime⟩ := (paced_waiting_iff waiting).mp paced
      refine (paced_waiting_iff waits).mpr ⟨awaits.later (by omega), ?_, ?_⟩
      · simp only [comesFirst, decide_eq_true_eq] at first
        omega
      · have sameEnd : waited.loop.clock + (deadline - waited.loop.uptime) =
            run.loop.clock + (deadline - run.loop.uptime) := by
          omega
        rwa [options, sameEnd]

/-- A batch that does not end the run takes no time, and the next scan looks ahead from the second
of its group. -/
theorem Paced.dispatch
    {group : OccurrenceGroup}
    {last : Loop}
    (paced : run.Paced tasks base)
    (grounded : run.Grounded)
    (timeless : run.Timeless)
    (dispatching : run.phase = .dispatching group)
    (result : run.loop.dispatch group.tasks = (last, none)) :
    Paced { run with loop := last, phase := .scanning } last.schedules group.instant ∧
      Turn run tasks base { run with loop := last, phase := .scanning }
        last.schedules group.instant := by
  obtain ⟨external, stop, wake, driven⟩ := grounded.driven (by simp [dispatching])
  obtain ⟨dispatched, isPrefix, marks, all⟩ := Loop.marks_dispatch driven group.tasks
  have sameTime := timeless.batch group dispatching
  rw [result] at marks all sameTime
  unfold Paced at paced
  rw [dispatching] at paced
  obtain ⟨awaits, reached, -, sameSecond⟩ := paced
  refine ⟨⟨rfl, ?_⟩,
    .batch group dispatched dispatching rfl (by rw [result]) sameTime isPrefix (all rfl) marks⟩
  have sameClock : last.clock = run.loop.clock := sameTime.clock
  change group.instant = last.clock / 1000
  omega

/-- A step of a paced run keeps it paced, unless it ends the run. -/
theorem Paced.step
    (paced : run.Paced tasks base)
    (grounded : run.Grounded)
    (timeless : run.Timeless)
    (dense : 0 ≤ run.loop.options.waitDensity)
    (fits : run.phase = .scanning → Calendar.Fits (Calendar.yearOf (run.loop.clock / 1000)))
    (stepped : run.step? = some next) :
    (∃ failure, next.phase = .over failure ∧
        (failure = none → run.loop.stopRequested = true)) ∨
      ∃ later ahead, next.Paced later ahead ∧ Turn run tasks base next later ahead := by
  cases moves_of_step? stepped with
  | finish scanning stopped => exact Or.inl ⟨none, rfl, fun _ => stopped⟩
  | scan scanning going =>
      have ⟨sameTasks, sameBase⟩ : tasks = run.loop.schedules ∧ base = run.loop.clock / 1000 := by
        simpa only [Paced, scanning] using paced
      subst sameTasks sameBase
      exact Or.inr ⟨_, _, grounded.scan scanning going (fits scanning) dense _ rfl⟩
  | quit due waiting cancelled stopped => exact Or.inl ⟨none, rfl, fun _ => stopped⟩
  | wake due waiting cancelled going =>
      exact Or.inr ⟨_, _, ⟨rfl, rfl⟩, .wake due waiting cancelled going rfl⟩
  | happen due waiting pending happening others script first =>
      obtain ⟨still, marks, time⟩ := paced.happen timeless waiting script first
      exact Or.inr
        ⟨_, _, still, .wait due waiting pending waiting happening
          (script.trans (congrArg _ (run.script_happened happening others).symm)) time marks⟩
  | outlast group deadline waiting pending happening others script first =>
      obtain ⟨still, marks, time⟩ := paced.happen timeless waiting script first
      obtain ⟨dispatches, marksEnd, sameStart, stillEnd⟩ := still.timedOut waiting
      have suffix : (run.happened happening others).loop.script <:+ run.loop.script := by
        rw [script_happened, script]
        exact List.suffix_cons _ _
      exact Or.inr
        ⟨_, _, stillEnd, .ready group deadline waiting pending dispatches suffix
          (sameStart.trans time.sameStart) (marksEnd.trans marks)⟩
  | timeOut group deadline waiting pending quiet =>
      obtain ⟨dispatches, marks, sameStart, still⟩ := paced.timedOut waiting
      exact Or.inr
        ⟨_, _, still,
          .ready group deadline waiting pending dispatches List.suffix_rfl sameStart marks⟩
  | batch group dispatching dispatched result =>
      exact Or.inr ⟨_, _, paced.dispatch grounded timeless dispatching result⟩
  | fail group dispatching dispatched failure result =>
      exact Or.inl ⟨some failure, rfl, fun none => by cases none⟩

/-- A step that is a turn does not end the run. -/
theorem Turn.goesOn
    {later : List (Nat × Schedule)}
    {ahead : Int}
    (turn : Turn run tasks base next later ahead)
    (failure : Option Failure) :
    next.phase ≠ .over failure := by
  intro ended
  cases turn with
  | scan scanning going sameScript sameTime waits =>
      obtain ⟨due, waiting, -⟩ := waits
      cases ended.symm.trans waiting
  | wait due waiting pending waits => cases ended.symm.trans waits
  | ready group deadline waiting pending dispatches => cases ended.symm.trans dispatches
  | wake due waiting cancelled going scans =>
      subst scans
      cases ended
  | batch group dispatched dispatching scans => cases ended.symm.trans scans

end Steps

section Runs

variable {first : Run}

/-- What holds at the begin of a timeless run, and is kept by every turn, holds as long as the run
is not over, wherever it looks ahead from. -/
theorem timeline
    {motive : Nat → List (Nat × Schedule) → Int → Prop}
    (scanning : first.phase = .scanning)
    (grounded : ∀ steps, (first.runFor steps).Grounded)
    (dense : 0 ≤ first.loop.options.waitDensity)
    (timeless : ∀ steps, (first.runFor steps).Timeless)
    (fits :
      ∀ steps tasks base, motive steps tasks base → (first.runFor steps).phase = .scanning →
        Calendar.Fits (Calendar.yearOf ((first.runFor steps).loop.clock / 1000)))
    (initially : motive 0 first.loop.schedules (first.loop.clock / 1000))
    (stays :
      ∀ steps tasks base, first.runFor (steps + 1) = first.runFor steps →
        motive steps tasks base → motive (steps + 1) tasks base)
    (turned :
      ∀ steps tasks base later ahead,
        (first.runFor steps).step? = some (first.runFor (steps + 1)) →
          (first.runFor steps).Paced tasks base →
            (first.runFor (steps + 1)).Paced later ahead →
              Turn (first.runFor steps) tasks base (first.runFor (steps + 1)) later ahead →
                motive steps tasks base → motive (steps + 1) later ahead)
    (steps : Nat) :
    (∃ failure, (first.runFor steps).phase = .over failure) ∨
      ∃ tasks base, (first.runFor steps).Paced tasks base ∧ motive steps tasks base := by
  induction steps with
  | zero =>
      refine Or.inr ⟨_, _, ?_, initially⟩
      change first.Paced _ _
      unfold Paced
      rw [scanning]
      exact ⟨rfl, rfl⟩
  | succ steps inductionHypothesis =>
      cases stepped : (first.runFor steps).step? with
      | none =>
          have same := runFor_succ_of_step?_none stepped
          rcases inductionHypothesis with ended | ⟨tasks, base, paced, holds⟩
          · exact Or.inl (same ▸ ended)
          · exact Or.inr ⟨tasks, base, same ▸ paced, stays steps tasks base same holds⟩
      | some next =>
          rw [← runFor_succ_of_step? stepped] at stepped
          rcases inductionHypothesis with ⟨failure, ended⟩ | ⟨tasks, base, paced, holds⟩
          · simp only [step?, ended] at stepped
            cases stepped
          rcases paced.step (grounded steps) (timeless steps)
            ((options_runFor scanning steps).symm ▸ dense) (fits steps tasks base holds) stepped
            with ⟨failure, ended, -⟩ | ⟨later, ahead, pacedNext, turn⟩
          · exact Or.inl ⟨failure, ended⟩
          · exact Or.inr ⟨later, ahead, pacedNext,
              turned steps tasks base later ahead stepped paced pacedNext turn holds⟩

/-- The clock stays in years that dates can keep, if it begins there, no happening of the script
moves it out of them, and no batch adds happenings. -/
theorem fits_clock_runFor
    (scanning : first.phase = .scanning)
    (grounded : ∀ steps, (first.runFor steps).Grounded)
    (dense : 0 ≤ first.loop.options.waitDensity)
    (timeless : ∀ steps, (first.runFor steps).Timeless)
    (fits : Calendar.Fits (Calendar.yearOf (first.loop.clock / 1000)))
    (scripted :
      ∀ happening ∈ first.loop.script,
        Calendar.Fits
          (Calendar.yearOf ((first.loop.clock - first.loop.uptime + happening.after) / 1000)))
    (nothingLater :
      ∀ steps group, (first.runFor steps).phase = .dispatching group →
        ((first.runFor steps).loop.dispatch group.tasks).1.script =
          (first.runFor steps).loop.script)
    (steps : Nat)
    (scans : (first.runFor steps).phase = .scanning) :
    Calendar.Fits (Calendar.yearOf ((first.runFor steps).loop.clock / 1000)) := by
  have dated :=
    timeline
      (motive := fun steps _ _ =>
        (first.runFor steps).loop.script <:+ first.loop.script ∧
          (first.runFor steps).loop.clock - (first.runFor steps).loop.uptime =
            first.loop.clock - first.loop.uptime ∧
          Calendar.Fits (Calendar.yearOf ((first.runFor steps).loop.clock / 1000)))
      scanning grounded dense timeless (fun _ _ _ dated _ => dated.2.2)
      ⟨List.suffix_rfl, rfl, fits⟩ (fun _ _ _ same dated => same.symm ▸ dated) ?_ steps
  · rcases dated with ⟨failure, ended⟩ | ⟨_, _, -, dated⟩
    · cases ended.symm.trans scans
    · exact dated.2.2
  rintro steps tasks base later ahead - - pacedNext turn ⟨script, sameStart, fits⟩
  generalize first.runFor (steps + 1) = next at pacedNext turn ⊢
  cases turn with
  | scan scanning going sameScript sameTime waits pending marks =>
      rw [sameScript, sameTime.clock, sameTime.uptime]
      exact ⟨script, sameStart, fits⟩
  | wait due waiting pending waits happening isNext time marks =>
      rw [isNext] at script
      refine ⟨(List.suffix_cons _ _).trans script, time.sameStart.trans sameStart, ?_⟩
      have scriptedNext := scripted happening (script.subset List.mem_cons_self)
      rw [← sameStart] at scriptedNext
      rw [time.clock]
      simp only [Loop.advanceTo, Loop.advance]
      rcases le_total (happening.after - (first.runFor steps).loop.uptime) 0 with late | timely
      · rwa [max_eq_left late, Int.add_zero]
      · rw [max_eq_right timely]
        convert scriptedNext using 3
        omega
  | ready group deadline waiting pending dispatches suffix sameStartNext marks =>
      refine ⟨suffix.trans script, sameStartNext.trans sameStart, ?_⟩
      simp only [Paced, dispatches] at pacedNext
      obtain ⟨awaits, onTime⟩ := pacedNext
      have sameSecond := onTime.sameSecond
      exact awaits.fits_clock (by omega)
  | wake due waiting cancelled going scans =>
      subst scans
      exact ⟨script, sameStart, fits⟩
  | batch group dispatched dispatching scans left sameTime isPrefix all marks =>
      rw [left, nothingLater steps group dispatching, sameTime.clock, sameTime.uptime]
      exact ⟨script, sameStart, fits⟩

end Runs

end Run

end Cadence
