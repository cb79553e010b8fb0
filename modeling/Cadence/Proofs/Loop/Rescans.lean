import Cadence.Proofs.Loop.Disturbances
import Cadence.Proofs.Loop.Rounds

namespace Cadence

/-!
# A loop does not spin

A run scans once at its begin.  Each further scan has a reason of its own: a batch
was entered before it, or a call woke the loop, or the system clock was set back
during a wait, which then ended before the instant that it was for.

The reasons are counted.  A scan impends if the run is about to make one, or waits
with a token that is cancelled already.  The scans made and impending, less the
batches entered and the wake-ups told, are an excess that no step increases, unless
the clock is set back.
-/

/-- Whether a mark is that of a batch that was entered. -/
def Mark.isEntry : Mark → Bool
  | entered _ _ => true
  | _ => false

namespace Loop

/-- How many batches have been entered. -/
def entries
    (loop : Loop) :
    Nat :=
  loop.marks.countP Mark.isEntry

/-- Only scans are counted as cycles. -/
theorem Does.cycleCount
    {loop next : Loop}
    {deed : Deed}
    (does : Does loop deed next)
    (noScan : deed ≠ .scan) :
    next.cycleCount = loop.cycleCount := by
  cases does with
  | scan => exact absurd rfl noScan
  | enter tasks => rfl
  | dispatch id =>
      obtain ⟨_, _, told⟩ := loop.emit_shape (.taskDispatched id)
      rw [told]
  | register task known => exact (Murmurs.register loop task).cycleCount
  | remove id => exact (Murmurs.remove loop id).cycleCount
  | removeMany ids => exact (Murmurs.removeMany loop ids).cycleCount
  | removeAll => exact (Murmurs.rearrange loop [] rfl).cycleCount
  | refresh => exact (Murmurs.rearrange loop loop.registry rfl).cycleCount
  | stop => exact (Murmurs.stop loop).cycleCount
  | cancel => rfl
  | make schedule action parsed => rfl
  | swap task schedule known parsed => rfl
  | aside unconcerned => exact unconcerned.cycleCount

theorem Proceeds.cycleCount
    {loop last : Loop}
    (proceeds : Proceeds (· ≠ .scan) loop last) :
    last.cycleCount = loop.cycleCount := by
  obtain ⟨deeds, course, noScan⟩ := proceeds
  induction course with
  | nil => rfl
  | cons first later inductionHypothesis =>
      exact (inductionHypothesis fun done present =>
        noScan done (List.mem_cons_of_mem _ present)).trans
          (first.cycleCount (noScan _ List.mem_cons_self))

/-- A scan is counted as a cycle and as nothing else. -/
theorem counts_scan
    (loop : Loop) :
    loop.scan.1.cycleCount = loop.cycleCount + 1 ∧ loop.scan.1.entries = loop.entries ∧
      loop.scan.1.wakeups = loop.wakeups := by
  refine ⟨rfl, ?_, wakeups_record ..⟩
  simp [entries, marks_scan, Mark.isEntry]

/-- The end of a run changes none of the counts. -/
theorem counts_leaveRun
    (loop : Loop) :
    loop.leaveRun.cycleCount = loop.cycleCount ∧ loop.leaveRun.entries = loop.entries ∧
      loop.leaveRun.wakeups = loop.wakeups := by
  refine ⟨?_, by rw [entries, marks_leaveRun, entries], wakeups_emit ..⟩
  exact (Aside.emit { loop with running := false, inProgress := false } .loopStopped rfl).cycleCount

/-- Commands that never set the system clock back do not diminish its lead. -/
theorem lead_le_executeAll
    (loop : Loop)
    (commands : List Command)
    (neverBack :
      ∀ before clock after, commands = before ++ .setClock clock :: after →
        (loop.executeAll before).clock ≤ clock) :
    loop.lead ≤ (loop.executeAll commands).lead := by
  induction commands generalizing loop with
  | nil => exact Int.le_refl _
  | cons command commands inductionHypothesis =>
      have first : loop.lead ≤ (loop.execute command).lead := by
        by_cases setsClock : ∃ clock, command = .setClock clock
        · obtain ⟨clock, rfl⟩ := setsClock
          have notBack : loop.clock ≤ clock := neverBack [] clock commands rfl
          change loop.clock - loop.uptime ≤ clock - loop.uptime
          omega
        · exact (Orderly.execute loop (not_exists.mp setsClock)).lead.ge
      refine first.trans (inductionHypothesis (loop.execute command) fun before clock after same => ?_)
      exact neverBack (command :: before) clock after (by rw [same, List.cons_append])

end Loop

namespace Run

variable {run next : Run}

/-- The next step of a run is a scan. -/
def Scans
    (run : Run) :
    Prop :=
  run.phase = .scanning ∧ run.loop.stopRequested = false

/-- In the next step of a run, which waits, a command sets the system clock back. -/
def SetsBack
    (run : Run) :
    Prop :=
  ∃ due happening others before clock after,
    run.phase = .waiting due ∧
      run.loop.signals.isCancelled .wait = false ∧
      run.loop.script = happening :: others ∧
      comesFirst happening due = true ∧
      happening.happening = .commands (before ++ .setClock clock :: after) ∧
      clock <
        (({ run.loop with script := others }.advanceTo happening.after).executeAll before).clock

/-- Whether a scan impends, unless the run is told to stop. -/
def impends
    (run : Run) :
    Bool :=
  !run.loop.stopRequested &&
    match run.phase with
    | .scanning => true
    | .waiting _ => run.loop.signals.isCancelled .wait
    | _ => false

/-- The scans made and impending, less their reasons. -/
def excess
    (run : Run) :
    Int :=
  run.loop.cycleCount + run.impends.toNat - run.loop.entries - run.loop.wakeups

/-- A wait lasts long enough for the instant that it is for, if the clock is not set back. -/
def OnCourse
    (run : Run) :
    Prop :=
  ∀ group deadline, run.phase = .waiting (some (group, deadline)) →
    1000 * group.instant - deadline ≤ run.loop.lead

/-- What holds of every run of a session wherever it stands: as long as nothing wakes the loop,
only a stop interrupts its wait. -/
structure Attended
    (run : Run) :
    Prop where
  grounded : run.Grounded
  dense : 0 ≤ run.loop.options.waitDensity
  heeds :
    ∀ due last, run.phase = .waiting due → run.loop.signals.isCancelled .wait = false →
      Loop.Proceeds Deed.Undisturbing run.loop last →
        last.signals.isCancelled .wait = true → last.stopRequested = true

/-- No step takes anything back that was counted, and only scans are counted as cycles. -/
structure Counts
    (run next : Run) :
    Prop where
  cycles : run.loop.cycleCount ≤ next.loop.cycleCount
  same : ¬ run.Scans → next.loop.cycleCount = run.loop.cycleCount
  entries : run.loop.entries ≤ next.loop.entries
  wakeups : run.loop.wakeups ≤ next.loop.wakeups

section Steps

/-- A step that is no scan counts no cycle. -/
theorem Counts.ofOther
    (same : next.loop.cycleCount = run.loop.cycleCount)
    (entries : run.loop.entries ≤ next.loop.entries)
    (wakeups : run.loop.wakeups ≤ next.loop.wakeups) :
    run.Counts next :=
  ⟨same.ge, fun _ => same, entries, wakeups⟩

/-- A step that is no scan does not increase the excess, if there is a reason for a scan that
impends then. -/
theorem Counts.excess_le
    (counts : run.Counts next)
    (noScan : ¬ run.Scans)
    (reason :
      next.impends = true →
        run.impends = true ∨ run.loop.entries < next.loop.entries ∨
          run.loop.wakeups < next.loop.wakeups) :
    next.excess ≤ run.excess := by
  have cycles := counts.same noScan
  have entries := counts.entries
  have wakeups := counts.wakeups
  unfold excess
  cases impending : next.impends with
  | false => simp only [Bool.toNat_false]; omega
  | true =>
      simp only [Bool.toNat_true]
      rcases reason impending with already | entered | woken
      · simp only [already, Bool.toNat_true]
        omega
      · omega
      · omega

/-- No scan impends in a run that is over or about to run a batch. -/
theorem impends_eq_false
    (notScanning : run.phase ≠ .scanning)
    (notWaiting : ∀ due, run.phase ≠ .waiting due) :
    run.impends = false := by
  unfold impends
  split
  · next scanning => exact absurd scanning notScanning
  · next due waiting => exact absurd waiting (notWaiting due)
  · exact Bool.and_false _

/-- What happens in a wait does not diminish the lead of the system clock, unless it sets the
clock back. -/
theorem lead_le_happened
    {due : Option (OccurrenceGroup × Int)}
    {happening : TimedHappening}
    {others : List TimedHappening}
    (waiting : run.phase = .waiting due)
    (pending : run.loop.signals.isCancelled .wait = false)
    (script : run.loop.script = happening :: others)
    (first : comesFirst happening due = true)
    (notBack : ¬ run.SetsBack) :
    run.loop.lead ≤ (run.happened happening others).loop.lead := by
  have advanced :
      ({ run.loop with script := others }.advanceTo happening.after).lead = run.loop.lead :=
    (Loop.Orderly.advance { run.loop with script := others } _).lead
  rw [← advanced]
  unfold happened
  cases given : happening.happening with
  | commands commands =>
      refine Loop.lead_le_executeAll _ commands fun before clock after same => ?_
      by_contra back
      exact notBack ⟨due, happening, others, before, clock, after, waiting, pending, script, first,
        by rw [given, same], Int.not_le.mp back⟩
  | stop => exact (Loop.Orderly.stop _).lead.ge
  | cancel => exact (Loop.Orderly.cancelExternal _).lead.ge

/-- A wait that is on course leads to its batch. -/
theorem dispatching_timedOut
    {group : OccurrenceGroup}
    {deadline : Int}
    (onCourse : 1000 * group.instant - deadline ≤ run.loop.lead) :
    (run.timedOut group deadline).phase = .dispatching group := by
  have notEarly : ¬ (run.loop.advanceTo deadline).clock < 1000 * group.instant := by
    simp only [Loop.lead] at onCourse
    simp only [Loop.advanceTo, Loop.advance]
    omega
  simp [timedOut, notEarly]

/-- A run that does not wait for a group is on course. -/
theorem OnCourse.of_phase
    (notWaiting : ∀ plan, run.phase ≠ .waiting (some plan)) :
    run.OnCourse :=
  fun group deadline waiting => absurd waiting (notWaiting (group, deadline))

/-- After a scan no further scan impends, and the wait is on course. -/
theorem Attended.scan
    (attended : run.Attended)
    (scanning : run.phase = .scanning)
    (going : run.loop.stopRequested = false)
    (scans :
      next =
        { run with
          loop := run.loop.scan.1
          phase :=
            .waiting (run.loop.scan.2.map fun group => (group, run.loop.scan.1.deadline group)) }) :
    next.OnCourse ∧ next.excess ≤ run.excess := by
  subst scans
  obtain ⟨-, pending⟩ := attended.grounded.fresh_token scanning going
  constructor
  · intro group deadline waiting
    obtain ⟨found, -, same⟩ := Option.map_eq_some_iff.mp (Phase.waiting.inj waiting)
    cases same
    have positive : (0 : Int) < 1000 := by decide
    have enough :=
      Wait.remaining_le_duration positive attended.dense run.loop.clock (1000 * group.instant)
    change 1000 * group.instant - (run.loop.uptime +
      Wait.duration 1000 run.loop.clock (1000 * group.instant) run.loop.options.waitDensity) ≤
        run.loop.clock - run.loop.uptime
    omega
  · have before : run.impends = true := by simp [impends, scanning, going]
    have after : impends
        { run with
          loop := run.loop.scan.1
          phase :=
            .waiting (run.loop.scan.2.map fun group => (group, run.loop.scan.1.deadline group)) } =
        false := by
      simp [impends, pending]
    obtain ⟨oneMore, sameEntries, sameWakeups⟩ := run.loop.counts_scan
    unfold excess
    rw [before, after]
    simp only [sameEntries, sameWakeups, oneMore, Bool.toNat_false, Bool.toNat_true]
    omega

/-- A batch counts as one, and hides no wake-up. -/
theorem Attended.counts_dispatch
    {group : OccurrenceGroup}
    (attended : run.Attended)
    (dispatching : run.phase = .dispatching group) :
    (run.loop.dispatch group.tasks).1.cycleCount = run.loop.cycleCount ∧
      (run.loop.dispatch group.tasks).1.entries = run.loop.entries + 1 ∧
      run.loop.wakeups ≤ (run.loop.dispatch group.tasks).1.wakeups := by
  obtain ⟨dispatched, -, marks⟩ := attended.grounded.marks_dispatch dispatching run.loop.clock
  have tasks : (dispatched.map Mark.dispatched).countP Mark.isEntry = 0 := by
    rw [List.countP_map]
    exact List.countP_eq_zero.mpr fun id _ => by simp [Mark.isEntry]
  refine ⟨(run.loop.proceeds_dispatch group.tasks).cycleCount, ?_,
    (Loop.Discloses.dispatch run.loop group.tasks).monotone⟩
  rw [Loop.entries, marks, List.countP_append, List.countP_cons, tasks]
  simp [Loop.entries, Mark.isEntry]

theorem discloses_happened
    (run : Run)
    (happening : TimedHappening)
    (others : List TimedHappening) :
    Loop.Discloses run.loop (run.happened happening others).loop := by
  have told : Loop.Discloses run.loop { run.loop with script := others } :=
    .aside (.scriptTo run.loop others) rfl
  exact (told.trans (Loop.Orderly.advance _ _).toDiscloses).trans (.happen _ _)

/-- What happens in a wait is no scan and no batch. -/
theorem counts_happened
    (run : Run)
    (happening : TimedHappening)
    (others : List TimedHappening) :
    run.Counts (run.happened happening others) := by
  have background := run.proceeds_happened happening others
  refine .ofOther background.scanFree.cycleCount ?_
    (run.discloses_happened happening others).monotone
  rw [Loop.entries, Loop.entries, background.marks]

/-- A scan that impends after a happening of a wait was caused by a call that wakes the loop. -/
theorem Attended.woken_of_impends
    {due : Option (OccurrenceGroup × Int)}
    {happening : TimedHappening}
    {others : List TimedHappening}
    (attended : run.Attended)
    (waiting : run.phase = .waiting due)
    (pending : run.loop.signals.isCancelled .wait = false)
    (impends : (run.happened happening others).impends = true) :
    run.loop.wakeups < (run.happened happening others).loop.wakeups := by
  have discloses := run.discloses_happened happening others
  by_contra noneTold
  have sameWakeups := Nat.le_antisymm (Nat.not_lt.mp noneTold) discloses.monotone
  have waits : (run.happened happening others).phase = .waiting due := waiting
  simp only [Run.impends, waits, Bool.and_eq_true, Bool.not_eq_true'] at impends
  have stopped := attended.heeds due _ waiting pending (discloses.undisturbed sameWakeups) impends.2
  rw [impends.1] at stopped
  cases stopped

/-- Every step counts. -/
theorem Attended.counts
    (attended : run.Attended)
    (stepped : run.step? = some next) :
    run.Counts next := by
  have leaves : ∀ {last : Loop}, last.cycleCount = run.loop.cycleCount →
      run.loop.entries ≤ last.entries → run.loop.wakeups ≤ last.wakeups →
        ∀ phase, run.Counts { run with loop := last.leaveRun, phase := phase } := by
    intro last same entries wakeups phase
    obtain ⟨leftCycles, leftEntries, leftWakeups⟩ := last.counts_leaveRun
    exact .ofOther (leftCycles.trans same) (entries.trans leftEntries.ge)
      (wakeups.trans leftWakeups.ge)
  cases moves_of_step? stepped with
  | finish scanning stopped => exact leaves rfl (Nat.le_refl _) (Nat.le_refl _) _
  | scan scanning going =>
      obtain ⟨oneMore, sameEntries, sameWakeups⟩ := run.loop.counts_scan
      exact ⟨Nat.le_succ _, fun noScan => absurd ⟨scanning, going⟩ noScan, sameEntries.ge,
        sameWakeups.ge⟩
  | quit due waiting cancelled stopped =>
      have told : Loop.Orderly run.loop (run.loop.emit .waitCancelled) := .emit run.loop rfl rfl
      have unconcerned := Loop.Aside.emit run.loop .waitCancelled rfl
      refine leaves unconcerned.cycleCount ?_ told.monotone _
      rw [Loop.entries, Loop.entries, unconcerned.marks]
  | wake due waiting cancelled going => exact .ofOther rfl (Nat.le_refl _) (Nat.le_refl _)
  | happen due waiting pending happening others => exact run.counts_happened happening others
  | outlast group deadline waiting pending happening others =>
      -- The rest of the wait takes time, and is not recorded.
      have counts := run.counts_happened happening others
      exact ⟨counts.cycles, counts.same, counts.entries, counts.wakeups⟩
  | timeOut => exact .ofOther rfl (Nat.le_refl _) (Nat.le_refl _)
  | batch group dispatching dispatched result =>
      obtain ⟨cycles, entries, wakeups⟩ := attended.counts_dispatch dispatching
      rw [result] at cycles entries wakeups
      exact .ofOther cycles (by simp [entries]) wakeups
  | fail group dispatching dispatched failure result =>
      obtain ⟨cycles, entries, wakeups⟩ := attended.counts_dispatch dispatching
      rw [result] at cycles entries wakeups
      exact leaves cycles (by simp [entries]) wakeups _

/-- Every step keeps a run on course and does not increase the excess, unless it sets the clock
back. -/
theorem Attended.step
    (attended : run.Attended)
    (onCourse : run.OnCourse)
    (notBack : ¬ run.SetsBack)
    (stepped : run.step? = some next) :
    next.OnCourse ∧ next.excess ≤ run.excess := by
  have counts := attended.counts stepped
  have noScan : ∀ {phase}, run.phase = phase → phase ≠ .scanning → ¬ run.Scans :=
    fun same other scans => other (same.symm.trans scans.1)
  cases moves_of_step? stepped with
  | finish scanning stopped =>
      refine ⟨.of_phase (by simp), counts.excess_le (fun scans => ?_) (by simp [impends])⟩
      exact absurd (stopped.symm.trans scans.2) (by simp)
  | scan scanning going => exact attended.scan scanning going rfl
  | quit due waiting cancelled stopped =>
      exact ⟨.of_phase (by simp), counts.excess_le (noScan waiting (by simp)) (by simp [impends])⟩
  | wake due waiting cancelled going =>
      refine ⟨.of_phase (by simp), counts.excess_le (noScan waiting (by simp)) fun _ => Or.inl ?_⟩
      simp [impends, waiting, cancelled, going]
  | happen due waiting pending happening others script first =>
      refine ⟨fun group deadline waits => ?_, counts.excess_le (noScan waiting (by simp)) ?_⟩
      · exact (onCourse group deadline waits).trans
          (lead_le_happened waiting pending script first notBack)
      · exact fun impends => Or.inr (Or.inr (attended.woken_of_impends waiting pending impends))
  | outlast group deadline waiting pending happening others script first =>
      have dispatching : ((run.happened happening others).timedOut group deadline).phase =
          .dispatching group :=
        dispatching_timedOut ((onCourse group deadline waiting).trans
          (lead_le_happened waiting pending script first notBack))
      refine ⟨.of_phase (by simp [dispatching]), counts.excess_le (noScan waiting (by simp)) ?_⟩
      simp [impends_eq_false, dispatching]
  | timeOut group deadline waiting pending quiet =>
      have dispatching := dispatching_timedOut (onCourse group deadline waiting)
      refine ⟨.of_phase (by simp [dispatching]), counts.excess_le (noScan waiting (by simp)) ?_⟩
      simp [impends_eq_false, dispatching]
  | batch group dispatching dispatched result =>
      obtain ⟨-, entries, -⟩ := attended.counts_dispatch dispatching
      rw [result] at entries
      refine ⟨.of_phase (by simp), counts.excess_le (noScan dispatching (by simp)) fun _ => ?_⟩
      exact Or.inr (Or.inl (by simp [entries]))
  | fail group dispatching =>
      exact ⟨.of_phase (by simp),
        counts.excess_le (noScan dispatching (by simp)) (by simp [impends])⟩

/-- A run in which no scan impends and nothing is due: it waits for a call that wakes the loop, or
it is over. -/
def Idle
    (run : Run) :
    Prop :=
  run.impends = false ∧ (run.phase = .waiting none ∨ ∃ failure, run.phase = .over failure)

/-- A run stays idle until a call wakes the loop. -/
theorem Attended.idle
    (attended : run.Attended)
    (idle : run.Idle)
    (stepped : run.step? = some next) :
    run.loop.wakeups < next.loop.wakeups ∨ next.Idle := by
  obtain ⟨notImpending, waiting | ⟨failure, ended⟩⟩ := idle
  · cases moves_of_step? stepped with
    | finish scanning => simp [waiting] at scanning
    | scan scanning => simp [waiting] at scanning
    | quit => exact Or.inr ⟨by simp [impends], Or.inr ⟨none, rfl⟩⟩
    | wake due _ cancelled going =>
        -- A wait that is about to be woken has a scan impending.
        simp [impends, waiting, cancelled, going] at notImpending
    | happen due _ pending happening others =>
        cases impending : (run.happened happening others).impends with
        | false => exact Or.inr ⟨impending, Or.inl waiting⟩
        | true => exact Or.inl (attended.woken_of_impends waiting pending impending)
    | outlast group deadline other => simp [waiting] at other
    | timeOut group deadline other => simp [waiting] at other
    | batch group dispatching => simp [waiting] at dispatching
    | fail group dispatching => simp [waiting] at dispatching
  · simp only [step?, ended] at stepped
    cases stepped

end Steps

section Runs

variable {first : Run}

end Runs

section Sessions

variable {loop : Loop} {request : RunRequest}

end Sessions

end Run

end Cadence
