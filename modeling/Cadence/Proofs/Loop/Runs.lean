import Cadence.Proofs.Loop.Course
import Cadence.Proofs.Loop.Groups

namespace Cadence

/-!
# Runs follow courses

Each step of a run is a scan, a wait or a batch, and each of these has its
course.  While a run waits, and when it is about to run a batch, the last scan of
its course is the one that found what is due.
-/

namespace Run

/-- A run that is over or waits forever stays as it is. -/
theorem runFor_of_step?_none
    {run : Run}
    (stays : run.step? = none)
    (steps : Nat) :
    run.runFor steps = run := by
  cases steps with
  | zero => rfl
  | succ steps => simp only [runFor, stays]

/-- A run only stands still when it is over, or when it waits and nothing is due. -/
theorem over_or_idle_of_step?_none
    {run : Run}
    (stays : run.step? = none) :
    (∃ failure, run.phase = .over failure) ∨ run.phase = .waiting none := by
  cases phase : run.phase with
  | scanning =>
      simp only [step?, phase] at stays
      split at stays <;> cases stays
  | waiting due =>
      cases due with
      | none => exact Or.inr rfl
      | some plan =>
          simp only [step?, phase, wait?] at stays
          split at stays
          · cases stays
          · split at stays
            · split at stays <;> cases stays
            · cases stays
  | dispatching due =>
      simp only [step?, phase] at stays
      split at stays <;> cases stays
  | «over» failure => exact Or.inl ⟨failure, rfl⟩

/-- A run waits on after a happening that leaves time before the deadline. -/
theorem step?_happening
    {loop told : Loop}
    {group : OccurrenceGroup}
    {deadline : Int}
    {next : TimedHappening}
    {others : List TimedHappening}
    (pending : loop.signals.isCancelled .wait = false)
    (script : loop.script = next :: others)
    (inTime : next.after ≤ deadline)
    (happened :
      told = (({ loop with script := others } : Loop).advanceTo next.after).happen next.happening)
    (early : told.uptime < deadline) :
    Run.step? ⟨loop, .waiting (some (group, deadline))⟩ =
      some ⟨told, .waiting (some (group, deadline))⟩ := by
  have notPast : decide (deadline ≤ told.uptime) = false := decide_eq_false (Int.not_le.mpr early)
  subst happened
  simp only [step?, pending, Bool.false_eq_true, wait?, script, comesFirst, inTime, decide_true,
    ↓reduceIte, afterHappening, notPast, Bool.false_and]

theorem runFor_succ
    {run next : Run}
    (stepped : run.step? = some next)
    (steps : Nat) :
    run.runFor (steps + 1) = next.runFor steps := by
  simp only [runFor, stepped]

/-- One more step comes last. -/
theorem runFor_succ_last
    (run : Run)
    (steps : Nat) :
    run.runFor (steps + 1) = (run.runFor steps).step?.getD (run.runFor steps) := by
  induction steps generalizing run with
  | zero =>
      cases stepped : run.step? with
      | none => simp [runFor, stepped]
      | some next => simp [runFor, stepped]
  | succ steps inductionHypothesis =>
      cases stepped : run.step? with
      | none => simp [runFor_of_step?_none stepped, stepped]
      | some next =>
          rw [runFor_succ stepped, runFor_succ stepped]
          exact inductionHypothesis next

theorem runFor_succ_of_step?
    {first next : Run}
    {steps : Nat}
    (stepped : (first.runFor steps).step? = some next) :
    first.runFor (steps + 1) = next := by
  rw [runFor_succ_last, stepped, Option.getD_some]

theorem runFor_succ_of_step?_none
    {first : Run}
    {steps : Nat}
    (stopped : (first.runFor steps).step? = none) :
    first.runFor (steps + 1) = first.runFor steps := by
  rw [runFor_succ_last, stopped, Option.getD_none]

/-- Steps that follow each other. -/
theorem runFor_add
    (run : Run)
    (earlier later : Nat) :
    run.runFor (earlier + later) = (run.runFor earlier).runFor later := by
  induction later with
  | zero => rfl
  | succ later inductionHypothesis =>
      rw [← Nat.add_assoc, runFor_succ_last, runFor_succ_last, inductionHypothesis]

/-- What every step preserves holds after any number of steps. -/
theorem runFor_induction
    {motive : Run → Prop}
    (preserved : ∀ {run next : Run}, run.step? = some next → motive run → motive next)
    {run : Run}
    (initially : motive run)
    (steps : Nat) :
    motive (run.runFor steps) := by
  induction steps with
  | zero => exact initially
  | succ steps inductionHypothesis =>
      rw [runFor_succ_last]
      cases stepped : (run.runFor steps).step? with
      | none => exact inductionHypothesis
      | some next => exact preserved stepped inductionHypothesis

/-- The last scan of a course, what was due then, and the deeds since. -/
structure LastScan
    (deeds : List (Loop × Deed))
    (scanned : Loop)
    (since : List (Loop × Deed)) :
    Prop where
  shape : ∃ before, deeds = before ++ (scanned, .scan) :: since
  free : Loop.ScanFree since

/-- The course goes on with deeds other than scans. -/
theorem LastScan.append
    {deeds : List (Loop × Deed)}
    {scanned : Loop}
    {since later : List (Loop × Deed)}
    (last : LastScan deeds scanned since)
    (free : Loop.ScanFree later) :
    LastScan (deeds ++ later) scanned (since ++ later) where
  shape := by
    obtain ⟨before, rfl⟩ := last.shape
    exact ⟨before, by simp⟩
  free := fun done present => by
    rcases List.mem_append.mp present with early | late
    · exact last.free done early
    · exact free done late

/-- A course that leads to where a run stands.  The plan of a wait, and the batch that is about to
be run, are those of the last scan; a batch is only run when the token of that scan is not
cancelled. -/
def Follows
    (start : Loop)
    (deeds : List (Loop × Deed))
    (run : Run) :
    Prop :=
  match run.phase with
  | .scanning => Loop.Course start deeds run.loop
  | .waiting due =>
      Loop.Course start deeds run.loop ∧
        ∃ scanned since, LastScan deeds scanned since ∧
          due = scanned.scan.2.map fun group => (group, scanned.scan.1.deadline group)
  | .dispatching due =>
      Loop.Course start deeds run.loop ∧
        (∃ scanned since, LastScan deeds scanned since ∧ scanned.scan.2 = some due) ∧
          run.loop.signals.isCancelled .wait = false
  | .over _ => ∃ last : Loop, Loop.Course start deeds last ∧ run.loop = last.leaveRun

namespace Follows

variable {start : Loop} {deeds : List (Loop × Deed)}

/-- A run that is not over has come from its start by its course. -/
theorem course
    {run : Run}
    (follows : Follows start deeds run)
    (goesOn : ∀ failure, run.phase ≠ .over failure) :
    Loop.Course start deeds run.loop := by
  unfold Follows at follows
  split at follows
  · exact follows
  · exact follows.1
  · exact follows.1
  · next failure ended => exact absurd ended (goesOn failure)

/-- A run that is about to scan follows the course that led there. -/
theorem ofScanning
    {run : Run}
    (course : Loop.Course start deeds run.loop)
    (scanning : run.phase = .scanning) :
    Follows start deeds run := by
  unfold Follows
  rw [scanning]
  exact course

theorem ofOver
    {last : Loop}
    {run : Run}
    {failure : Option Failure}
    (course : Loop.Course start deeds last)
    (ended : run.phase = .over failure)
    (left : run.loop = last.leaveRun) :
    Follows start deeds run := by
  unfold Follows
  rw [ended]
  exact ⟨last, course, left⟩

/-- A wait that comes to its end leads to its batch, if the scan's token is not cancelled. -/
theorem ofTimedOut
    {run : Run}
    {scanned : Loop}
    {since : List (Loop × Deed)}
    {group : OccurrenceGroup}
    (course : Loop.Course start deeds run.loop)
    (last : LastScan deeds scanned since)
    (due : scanned.scan.2 = some group)
    (pending : run.loop.signals.isCancelled .wait = false)
    (deadline : Int) :
    ∃ more, Follows start more (run.timedOut group deadline) := by
  have waits := run.aside_timedOut group deadline
  have longer := course.snoc (.aside waits)
  have later : LastScan (deeds ++ [(run.loop, Deed.aside)]) scanned
      (since ++ [(run.loop, Deed.aside)]) :=
    LastScan.append last fun done present => by
      cases List.mem_singleton.mp present
      simp
  refine ⟨deeds ++ [(run.loop, .aside)], ?_⟩
  by_cases early : (run.loop.advanceTo deadline).clock < 1000 * group.instant
  · exact ofScanning longer (by simp [timedOut, early])
  · have phase : (run.timedOut group deadline).phase = .dispatching group := by
      simp [timedOut, early]
    unfold Follows
    rw [phase]
    exact ⟨longer, ⟨scanned, _, later, due⟩, by rwa [waits.signals]⟩

/-- Every step of a run follows a longer course. -/
theorem step
    {run next : Run}
    (stepped : run.step? = some next)
    (follows : ∃ deeds, Follows start deeds run) :
    ∃ deeds, Follows start deeds next := by
  obtain ⟨deeds, follows⟩ := follows
  unfold Follows at follows
  cases moves_of_step? stepped with
  | finish scanning stopped =>
      rw [scanning] at follows
      exact ⟨deeds, ofOver follows rfl rfl⟩
  | scan scanning going =>
      rw [scanning] at follows
      refine ⟨deeds ++ [(run.loop, .scan)], follows.snoc (.scan run.loop), run.loop, [], ?_, rfl⟩
      exact ⟨⟨deeds, rfl⟩, fun done none => by cases none⟩
  | quit due waiting cancelled stopped =>
      rw [waiting] at follows
      exact ⟨_, ofOver (follows.1.snoc (.aside (.emit _ _ rfl))) rfl rfl⟩
  | wake due waiting cancelled going =>
      rw [waiting] at follows
      exact ⟨deeds, ofScanning follows.1 rfl⟩
  | happen due waiting pending happening others script first =>
      rw [waiting] at follows
      obtain ⟨course, scanned, since, last, plan⟩ := follows
      obtain ⟨later, passed, free⟩ := (run.proceeds_happened happening others).scanFree
      have waits : (run.happened happening others).phase = .waiting due := waiting
      refine ⟨deeds ++ later, ?_⟩
      unfold Follows
      rw [waits]
      exact ⟨course.append passed, scanned, _, last.append free, plan⟩
  | outlast group deadline waiting pending happening others script first ends still =>
      rw [waiting] at follows
      obtain ⟨course, scanned, since, last, plan⟩ := follows
      obtain ⟨later, passed, free⟩ := (run.proceeds_happened happening others).scanFree
      obtain ⟨found, isFound, samePlan⟩ := Option.map_eq_some_iff.mp plan.symm
      cases samePlan
      exact ofTimedOut (course.append passed) (last.append free) isFound still _
  | timeOut group deadline waiting pending quiet =>
      rw [waiting] at follows
      obtain ⟨course, scanned, since, last, plan⟩ := follows
      obtain ⟨found, isFound, samePlan⟩ := Option.map_eq_some_iff.mp plan.symm
      cases samePlan
      exact ofTimedOut course last isFound pending _
  | batch group dispatching dispatched result =>
      rw [dispatching] at follows
      obtain ⟨later, runs, -⟩ := Loop.proceeds_dispatch run.loop group.tasks
      rw [result] at runs
      exact ⟨_, ofScanning (follows.1.append runs) rfl⟩
  | fail group dispatching dispatched failure result =>
      rw [dispatching] at follows
      obtain ⟨later, runs, -⟩ := Loop.proceeds_dispatch run.loop group.tasks
      rw [result] at runs
      exact ⟨_, ofOver (follows.1.append runs) rfl rfl⟩

end Follows

/-- Every run follows a course from its start. -/
theorem exists_follows
    {run : Run}
    (scanning : run.phase = .scanning)
    (steps : Nat) :
    ∃ deeds, Follows run.loop deeds (run.runFor steps) :=
  runFor_induction (motive := fun later => ∃ deeds, Follows run.loop deeds later)
    (fun stepped follows => Follows.step stepped follows)
    ⟨[], Follows.ofScanning (.nil run.loop) scanning⟩ steps

/-- What every deed and the end of a run preserve holds along the run. -/
theorem preserves
    {motive : Loop → Prop}
    (preserved : ∀ {loop next : Loop} {deed : Deed}, Loop.Does loop deed next →
      motive loop → motive next)
    (left : ∀ {loop : Loop}, motive loop → motive loop.leaveRun)
    {run : Run}
    (scanning : run.phase = .scanning)
    (initially : motive run.loop)
    (steps : Nat) :
    motive (run.runFor steps).loop := by
  obtain ⟨deeds, follows⟩ := exists_follows scanning steps
  unfold Follows at follows
  split at follows
  · exact follows.preserves preserved initially
  · exact follows.1.preserves preserved initially
  · exact follows.1.preserves preserved initially
  · obtain ⟨last, course, same⟩ := follows
    rw [same]
    exact left (course.preserves preserved initially)

end Run

namespace Loop

/-- A loop that was just made, with any options, listener, callbacks and clocks. -/
structure Fresh
    (loop : Loop) :
    Prop where
  tasks : loop.tasks = {}
  registry : loop.registry = []
  running : loop.running = false
  inProgress : loop.inProgress = false
  signals : loop.signals = {}

/-- The loop of a new run. -/
def started
    (loop : Loop)
    (request : RunRequest) :
    Loop :=
  { loop with
    running := true
    inProgress := true
    uptime := 0
    script := request.script
    signals := freshSignals loop.signals request }

@[simp] theorem signals_started
    (loop : Loop)
    (request : RunRequest) :
    (loop.started request).signals = freshSignals loop.signals request := by
  simp only [started]

theorem refusesStart_another
    (loop : Loop) :
    loop.refusesStart .another = loop.running := by
  simp [refusesStart]

/-- A run is started by an idle loop. -/
theorem start_eq_started
    {loop : Loop}
    {request : RunRequest}
    {run : Run}
    (accepted : loop.start .another request = .started run) :
    (loop.running || loop.inProgress) = false ∧
      run = ⟨(loop.started request).emit .loopStarted, .scanning⟩ := by
  unfold start at accepted
  rw [refusesStart_another] at accepted
  split at accepted
  · cases accepted
  · next idle =>
    split at accepted
    · cases accepted
    · next free => exact ⟨by simp [idle, free], (Attempt.started.inj accepted).symm⟩

/-- An attempt that is refused is only logged. -/
theorem start_eq_refused
    {loop refused : Loop}
    {caller : Caller}
    {request : RunRequest}
    (result : loop.start caller request = .refused refused) :
    refused = loop.refuseStart := by
  unfold start at result
  split at result
  · exact (Attempt.refused.inj result).symm
  · split at result <;> cases result

/-- An idle loop accepts every run. -/
theorem start_of_idle
    {loop : Loop}
    (idle : (loop.running || loop.inProgress) = false)
    (request : RunRequest) :
    loop.start .another request =
      .started ⟨(loop.started request).emit .loopStarted, .scanning⟩ := by
  rw [Bool.or_eq_false_iff] at idle
  unfold start
  rw [refusesStart_another, idle.1, idle.2, if_neg (by simp), if_neg (by simp)]
  simp only [started]

/-- An accepted run is about to scan. -/
theorem scanning_of_start
    {loop : Loop}
    {request : RunRequest}
    {run : Run}
    (accepted : loop.start .another request = .started run) :
    run.phase = .scanning := by
  rw [(start_eq_started accepted).2]

/-- What deeds, starts and ends of runs preserve holds along every session. -/
theorem session_preserves
    {motive : Loop → Prop}
    (preserved : ∀ {loop next : Loop} {deed : Deed}, Does loop deed next →
      motive loop → motive next)
    (started : ∀ {loop : Loop} {request : RunRequest} {run : Run},
      loop.start .another request = .started run → motive loop → motive run.loop)
    (left : ∀ {loop : Loop}, motive loop → motive loop.leaveRun)
    {loop : Loop}
    (initially : motive loop)
    (statements : List Statement) :
    motive (loop.session statements) := by
  induction statements generalizing loop with
  | nil => exact initially
  | cons statement statements inductionHypothesis =>
      refine inductionHypothesis ?_
      cases statement with
      | command command => exact (loop.proceeds_execute command).preserves preserved initially
      | run run =>
          have aside : ∀ {before after : Loop}, Aside before after → motive before → motive after :=
            fun unconcerned => preserved (.aside unconcerned)
          simp only [obey, runToEnd]
          cases result : loop.start .another run.request with
          | refused refused =>
              rw [start_eq_refused result]
              exact aside (.record _ rfl) (aside (.logLine _ _ _) initially)
          | waits => exact aside (.record _ rfl) initially
          | started run =>
              exact aside (.record _ rfl)
                (Run.preserves preserved left (scanning_of_start result)
                  (started result initially) _)

/-- A run begins with the tasks and at the time of its loop. -/
structure Begins
    (loop : Loop)
    (request : RunRequest)
    (run : Run) :
    Prop where
  clock : run.loop.clock = loop.clock
  uptime : run.loop.uptime = 0
  options : run.loop.options = loop.options
  registry : run.loop.registry = loop.registry
  nextId : run.loop.nextId = loop.nextId
  schedules : run.loop.schedules = loop.schedules
  script : run.loop.script = request.script
  stopRequested :
    run.loop.stopRequested = (freshSignals loop.signals request).isCancelled .stop

theorem begins_of_start
    {loop : Loop}
    {request : RunRequest}
    {run : Run}
    (accepted : loop.start .another request = .started run) :
    loop.Begins request run := by
  obtain ⟨_, _, told⟩ := (loop.started request).emit_shape .loopStarted
  rw [(start_eq_started accepted).2, told]
  refine ⟨rfl, rfl, rfl, rfl, rfl, rfl, rfl, ?_⟩
  simp only [stopRequested, signals_started]

section Example

/-- Half a second before the year 2000. -/
def eve : Loop := { clock := 946684799500 }

/-- A task for every minute is added, which does nothing. -/
def addMinutely : List Statement :=
  [.command (.add "* * * * *" false (.always false .idle))]

theorem fresh_eve :
    eve.Fresh :=
  ⟨rfl, rfl, rfl, rfl, rfl⟩

theorem idle_minutely :
    ((eve.session addMinutely).running || (eve.session addMinutely).inProgress) = false := by
  decide +kernel

end Example

end Loop

section Example

/-- What "* * * * *" writes: every minute. -/
def everyMinute : Schedule where
  raw := "* * * * *"
  secondField := none
  minutes := { kind := .minute, mask := Nat.pow 2 60 - 1, bounds := some (0, 59) }
  hours := { kind := .hour, mask := Nat.pow 2 24 - 1, bounds := some (0, 23) }
  days := { kind := .day, mask := Nat.pow 2 31 - 1, bounds := some (1, 31) }
  months := { kind := .month, mask := Nat.pow 2 12 - 1, bounds := some (1, 12) }
  weekdays := { kind := .weekday, mask := Nat.pow 2 7 - 1, bounds := some (0, 6) }

theorem schedules_minutely :
    (Loop.eve.session Loop.addMinutely).schedules = [(1, everyMinute)] := by
  decide +kernel

/-- On the eve of the year 2000 the next minute begins with it. -/
theorem dueNext_minutely :
    Loop.dueNext [(1, everyMinute)] 946684799 = some ⟨946684800, [1]⟩ := by
  have wellFormed : everyMinute.WellFormed :=
    Schedule.wellFormed_of_parse
      (show Schedule.parse "* * * * *" false = .ok everyMinute by decide +kernel)
  have least : IsLeast (everyMinute.Between 946684799 Schedule.maxTime) 946684800 := by
    refine ⟨⟨by decide, by decide, by decide +kernel, by decide +kernel⟩, ?_⟩
    rintro instant ⟨after, -⟩
    omega
  have next := Schedule.nextOccurrence_eq_of_isLeast wellFormed (by decide +kernel)
    OccurrenceGroup.fits_maxTime least
  simp only [Loop.dueNext, List.foldl_cons, List.foldl_nil, next]
  decide

/-- A run on that eve, before its first step, with one task for every minute. -/
structure Minutely
    (run : Run) :
    Prop where
  scanning : run.phase = .scanning
  going : run.loop.stopRequested = false
  clock : run.loop.clock = 946684799500
  uptime : run.loop.uptime = 0
  density : run.loop.options.waitDensity = 100
  schedules : run.loop.schedules = [(1, everyMinute)]

/-- A run on that eve first waits until the uptime 600. -/
theorem Minutely.waits
    {run : Run}
    (minutely : Minutely run) :
    run.step? =
      some
        { run with
          loop := run.loop.scan.1
          phase := .waiting (some (⟨946684800, [1]⟩, 600)) } := by
  obtain ⟨scanning, going, clock, uptime, density, schedules⟩ := minutely
  have due : run.loop.scan.2 = some ⟨946684800, [1]⟩ := by
    change Loop.dueNext run.loop.schedules (run.loop.clock / 1000) = _
    rw [schedules, clock]
    exact dueNext_minutely
  have deadline : run.loop.scan.1.deadline ⟨946684800, [1]⟩ = 600 := by
    change run.loop.uptime +
      Wait.duration 1000 run.loop.clock (1000 * 946684800) run.loop.options.waitDensity = 600
    rw [uptime, clock, density]
    decide
  simp only [Run.step?, scanning, going, Bool.false_eq_true, ↓reduceIte, due,
    Option.map_some, deadline]

theorem minutely_of_start
    {loop : Loop}
    {request : RunRequest}
    {run : Run}
    (accepted : loop.start .another request = .started run)
    (going : (Loop.freshSignals loop.signals request).isCancelled .stop = false)
    (clock : loop.clock = 946684799500)
    (density : loop.options.waitDensity = 100)
    (schedules : loop.schedules = [(1, everyMinute)]) :
    Minutely run := by
  have begins := Loop.begins_of_start accepted
  exact
    { scanning := Loop.scanning_of_start accepted
      going := begins.stopRequested.trans going
      clock := begins.clock.trans clock
      uptime := begins.uptime
      density := (congrArg LoopOptions.waitDensity begins.options).trans density
      schedules := begins.schedules.trans schedules }

end Example

end Cadence
