import Cadence.Proofs.Loop.Rearrangements
import Cadence.Proofs.Loop.Runs
import Cadence.Proofs.Loop.Wiring

namespace Cadence

open Cancellation

/-!
# No lost wake-up

Between two scans of a run the token of the scan is a token of the wake source
until a change of the registry, or a refresh, cancels and replaces that source.
A stop reaches the token in either case.  So the token tells exactly whether the
scan is out of date or the run is to end.
-/

namespace Loop

section Signals

variable {loop next : Loop} {deed : Deed}

/-- A deed other than a scan, a stop or a cancellation wakes the loop if it is effective, and
leaves its signals as they are otherwise. -/
theorem Does.signals
    (does : Does loop deed next)
    (noScan : deed ≠ .scan)
    (noStop : deed ≠ .stop)
    (noCancel : deed ≠ .cancel) :
    next.running = loop.running ∧
      (deed.Effective loop → next.signals = loop.wake.signals) ∧
      (¬ deed.Effective loop → next.signals = loop.signals) := by
  cases does with
  | scan => exact absurd rfl noScan
  | stop => exact absurd rfl noStop
  | cancel => exact absurd rfl noCancel
  | enter tasks => exact ⟨rfl, fun none => none.elim, fun _ => rfl⟩
  | dispatch id =>
      obtain ⟨_, _, told⟩ := loop.emit_shape (.taskDispatched id)
      rw [told]
      exact ⟨rfl, fun none => none.elim, fun _ => rfl⟩
  | register task known =>
      have changed := rearranged (.register loop task known) trivial
      exact ⟨changed.running, changed.woken, changed.still⟩
  | remove id =>
      have changed := rearranged (.remove loop id) trivial
      exact ⟨changed.running, changed.woken, changed.still⟩
  | removeMany ids =>
      have changed := rearranged (.removeMany loop ids) trivial
      exact ⟨changed.running, changed.woken, changed.still⟩
  | removeAll =>
      have changed := rearranged (.removeAll loop) trivial
      exact ⟨changed.running, changed.woken, changed.still⟩
  | refresh =>
      have changed := rearranged (.refresh loop) trivial
      exact ⟨changed.running, changed.woken, changed.still⟩
  | make schedule action parsed => exact ⟨rfl, fun none => none.elim, fun _ => rfl⟩
  | swap task schedule known parsed => exact ⟨rfl, fun none => none.elim, fun _ => rfl⟩
  | aside unconcerned =>
      exact ⟨unconcerned.running, fun none => none.elim, fun _ => unconcerned.signals⟩

end Signals

/-- The loop of a run: its signals are wired, and it is running or told to stop. -/
structure Driven
    (loop : Loop)
    (external stop wake : Nat) :
    Prop where
  wired : Wired loop.signals external stop wake
  driven : loop.running = true ∨ loop.stopRequested = true

/-- The token of the last scan: it is one of the wake source until the loop is disturbed, and
cancelled from then on. -/
structure Attends
    (loop : Loop)
    (stop wake wait : Nat)
    (disturbed : Prop) :
    Prop where
  waits : Waits loop.signals stop wait
  fresh : ¬ disturbed → wait = wake
  cancelled : disturbed → loop.signals.isCancelledState wait = true

namespace Driven

variable {loop next : Loop} {external stop wake : Nat} {deed : Deed}

/-- Whether the run is told to stop is whether its stop source is cancelled. -/
theorem stopRequested_eq
    (driven : Driven loop external stop wake) :
    loop.stopRequested = loop.signals.isCancelledState stop :=
  driven.wired.rooted.isCancelled_stop

/-- The last scan's token tells whether the loop was disturbed or the run is to end. -/
theorem isCancelled_wait_iff
    (driven : Driven loop external stop wake)
    {wait : Nat}
    {disturbed : Prop}
    (attends : Attends loop stop wake wait disturbed) :
    loop.signals.isCancelled .wait = true ↔ disturbed ∨ loop.stopRequested = true := by
  have calm := driven.wired.rooted.calm
  rw [attends.waits.isCancelled_wait, driven.stopRequested_eq]
  constructor
  · intro cancelled
    by_cases quiet : disturbed
    · exact Or.inl quiet
    · rw [attends.fresh quiet] at cancelled
      exact Or.inr (driven.wired.wakeFresh cancelled)
  · rintro (isDisturbed | stopped)
    · exact attends.cancelled isDisturbed
    · exact attends.waits.hangs.cancelled calm (attends.waits.live calm) stopped

/-- A source other than the wake source may be cancelled, if the loop is then running or told to
stop. -/
theorem afterCancel
    (driven : Driven loop external stop wake)
    {name : LoopSignal}
    {target : Nat}
    (held : loop.signals.sources.get? name = some target)
    (other : wake ≠ target)
    (sameSignals : next.signals = loop.signals.after (.cancel name))
    (still : next.running = true ∨ target = stop ∨ loop.stopRequested = true) :
    Driven next external stop wake ∧
      ∀ wait disturbed, Attends loop stop wake wait disturbed →
        Attends next stop wake wait disturbed := by
  have rooted := driven.wired.rooted
  obtain ⟨_, cancels, cancelled⟩ := rooted.calm.sound.after_cancel rooted.calm.quiet held
  have calm := rooted.calm.after_cancel name
  rw [← sameSignals] at cancels cancelled calm
  have wired := driven.wired.cancels calm cancels other
  refine ⟨⟨wired, ?_⟩, fun wait disturbed attends => ⟨?_, attends.fresh, fun isDisturbed => ?_⟩⟩
  · rcases still with running | isStop | already
    · exact Or.inl running
    · refine Or.inr (wired.rooted.isCancelled_stop.trans ?_)
      rw [← isStop]
      exact cancelled
    · rw [driven.stopRequested_eq] at already
      exact Or.inr (wired.rooted.isCancelled_stop.trans (cancels.kept stop already))
  · exact attends.waits.cancels cancels
  · exact cancels.kept wait (attends.cancelled isDisturbed)

/-- A wake cancels the last scan's token, or the run was told to stop and the token is cancelled
already. -/
theorem afterWake
    (driven : Driven loop external stop wake)
    (sameSignals : next.signals = loop.wake.signals)
    (sameRunning : next.running = loop.running) :
    Steady loop.signals next.signals ∧
      ∃ fresh, Driven next external stop fresh ∧
        ∀ wait disturbed, Attends loop stop wake wait disturbed →
          Attends next stop fresh wait True := by
  unfold Loop.wake at sameSignals
  cases running : loop.running with
  | false =>
      simp only [running, Bool.false_eq_true, ↓reduceIte] at sameSignals
      have stopped : loop.stopRequested = true := by simpa [running] using driven.driven
      refine ⟨sameSignals ▸ ⟨rfl, rfl⟩, wake, ⟨sameSignals ▸ driven.wired, Or.inr ?_⟩, ?_⟩
      · unfold stopRequested
        rw [sameSignals]
        exact stopped
      · intro wait disturbed attends
        refine ⟨sameSignals ▸ attends.waits, fun quiet => absurd trivial quiet, fun _ => ?_⟩
        have cancelled := (driven.isCancelled_wait_iff attends).mpr (Or.inr stopped)
        rw [sameSignals, ← attends.waits.isCancelled_wait]
        exact cancelled
  | true =>
      simp only [running, ↓reduceIte] at sameSignals
      obtain ⟨⟨fresh, wired⟩, steady, keeps⟩ := driven.wired.rewire
      rw [← sameSignals] at wired steady keeps
      refine ⟨steady, fresh, ⟨wired, Or.inl (sameRunning.trans running)⟩, ?_⟩
      intro wait disturbed attends
      obtain ⟨waits, cancelled⟩ := keeps wait attends.waits
      refine ⟨waits, fun quiet => absurd trivial quiet, fun _ => cancelled ?_⟩
      by_cases isDisturbed : disturbed
      · exact Or.inr (attends.cancelled isDisturbed)
      · exact Or.inl (attends.fresh isDisturbed)

/-- Every deed but a scan keeps the loop driven, and disturbs it if it is effective. -/
theorem step
    (driven : Driven loop external stop wake)
    (does : Does loop deed next)
    (noScan : deed ≠ .scan) :
    ∃ fresh, Driven next external stop fresh ∧
      ∀ wait disturbed, Attends loop stop wake wait disturbed →
        Attends next stop fresh wait (disturbed ∨ deed.Effective loop) := by
  by_cases isStop : deed = .stop
  · subst isStop
    cases does
    simp only [Deed.Effective, or_false]
    unfold Loop.stop
    cases running : loop.running with
    | false => exact ⟨wake, driven, fun _ _ attends => attends⟩
    | true =>
        have younger := driven.wired.wakeYounger
        exact ⟨wake, driven.afterCancel driven.wired.rooted.stopSource (by omega) rfl
          (Or.inr (Or.inl rfl))⟩
  by_cases isCancel : deed = .cancel
  · subst isCancel
    cases does
    simp only [Deed.Effective, or_false]
    have order := driven.wired.rooted.order
    have younger := driven.wired.wakeYounger
    exact ⟨wake, driven.afterCancel driven.wired.rooted.externalSource (by omega) rfl
      (driven.driven.imp_right Or.inr)⟩
  obtain ⟨sameRunning, woken, untouched⟩ := does.signals noScan isStop isCancel
  by_cases effective : deed.Effective loop
  · obtain ⟨-, fresh, still, attends⟩ := driven.afterWake (woken effective) sameRunning
    exact ⟨fresh, still, fun wait disturbed before => by
      simpa only [effective, or_true] using attends wait disturbed before⟩
  · have sameSignals := untouched effective
    refine ⟨wake, ⟨sameSignals ▸ driven.wired, ?_⟩, fun wait disturbed attends => ?_⟩
    · unfold stopRequested
      rw [sameSignals, sameRunning]
      exact driven.driven
    · simp only [effective, or_false]
      exact ⟨sameSignals ▸ attends.waits, attends.fresh, sameSignals ▸ attends.cancelled⟩

/-- A scan takes a token of the wake source, undisturbed. -/
theorem afterScan
    (driven : Driven loop external stop wake) :
    Driven loop.scan.1 external stop wake ∧ Attends loop.scan.1 stop wake wake False ∧
      Steady loop.signals loop.scan.1.signals := by
  obtain ⟨wired, waits, steady⟩ := driven.wired.token
  refine ⟨⟨wired, ?_⟩, ⟨waits, fun _ => rfl, False.elim⟩, steady⟩
  exact driven.driven.imp_right fun stopped => steady.stop.trans stopped

/-- Wakes neither stop the run nor cancel the caller's token: only stops and cancellations do. -/
theorem steady
    (driven : Driven loop external stop wake)
    (does : Does loop deed next)
    (noStop : deed ≠ .stop)
    (noCancel : deed ≠ .cancel) :
    Steady loop.signals next.signals := by
  by_cases isScan : deed = .scan
  · subst isScan
    cases does
    exact driven.afterScan.2.2
  obtain ⟨sameRunning, woken, untouched⟩ := does.signals isScan noStop noCancel
  by_cases effective : deed.Effective loop
  · exact (driven.afterWake (woken effective) sameRunning).1
  · rw [untouched effective]
    exact ⟨rfl, rfl⟩

/-- A driven loop stays driven, whatever is done. -/
theorem along
    (driven : Driven loop external stop wake)
    {deeds : List (Loop × Deed)}
    {last : Loop}
    (course : Course loop deeds last) :
    ∃ fresh, Driven last external stop fresh := by
  refine course.preserves (motive := fun loop => ∃ fresh, Driven loop external stop fresh) ?_
    ⟨wake, driven⟩
  rintro before after deed does ⟨fresh, still⟩
  by_cases isScan : deed = .scan
  · subst isScan
    cases does
    exact ⟨fresh, still.afterScan.1⟩
  · obtain ⟨next, stillNext, -⟩ := still.step does isScan
    exact ⟨next, stillNext⟩

/-- After a scan the loop is disturbed by the effective deeds since. -/
theorem attends_along
    (driven : Driven loop external stop wake)
    {deeds : List (Loop × Deed)}
    {last : Loop}
    (course : Course loop deeds last)
    (free : ScanFree deeds)
    {wait : Nat}
    {disturbed : Prop}
    (attends : Attends loop stop wake wait disturbed) :
    ∃ fresh, Driven last external stop fresh ∧
      Attends last stop fresh wait
        (disturbed ∨ ∃ done ∈ deeds, done.2.Effective done.1) := by
  induction course generalizing wake disturbed with
  | nil loop => exact ⟨wake, driven, by simpa using attends⟩
  | cons first later inductionHypothesis =>
      obtain ⟨fresh, still, keeps⟩ := driven.step first (free _ List.mem_cons_self)
      obtain ⟨final, stillFinal, attendsFinal⟩ := inductionHypothesis still
        (fun done present => free done (List.mem_cons_of_mem _ present))
        (keeps wait disturbed attends)
      refine ⟨final, stillFinal, ?_⟩
      simpa only [or_assoc, List.mem_cons, exists_eq_or_imp] using attendsFinal

end Driven

section Sessions

/-- A linked source keeps a world calm, whatever its token is. -/
theorem calm_linked
    {signals : World LoopSignal}
    (calm : signals.Calm)
    (name token : LoopSignal) :
    (signals.after (.linked name token)).Calm := by
  cases held : signals.stateOf? token with
  | none => exact (calm.after_linked_detached name held).1.calm
  | some parent => exact (calm.after_linked name held).1.calm

/-- Every deed keeps the signals calm, also that of a loop without a run. -/
theorem Does.calm
    {loop next : Loop}
    {deed : Deed}
    (does : Does loop deed next)
    (calm : loop.signals.Calm) :
    next.signals.Calm := by
  by_cases isScan : deed = .scan
  · subst isScan
    cases does
    change (loop.signals.after (.token .wait .wake)).Calm
    rw [World.after_token]
    exact (calm.setToken .wait _ fun held same => calm.sound.linked.sources _ held same).1
  by_cases isStop : deed = .stop
  · subst isStop
    cases does
    unfold Loop.stop
    split
    · exact calm.after_cancel .stop
    · exact calm
  by_cases isCancel : deed = .cancel
  · subst isCancel
    cases does
    exact calm.after_cancel .external
  obtain ⟨-, woken, untouched⟩ := does.signals isScan isStop isCancel
  by_cases effective : deed.Effective loop
  · rw [woken effective]
    unfold wake
    split
    · exact calm_linked (calm.after_cancel .wake) _ _
    · exact calm
  · rw [untouched effective]
    exact calm

/-- An accepted run has the signals of a new run, and is running. -/
theorem driven_of_start
    {loop : Loop}
    {request : RunRequest}
    {run : Run}
    (accepted : loop.start .another request = .started run)
    (calm : loop.signals.Calm) :
    ∃ external stop wake, Driven run.loop external stop wake := by
  obtain ⟨external, stop, wake, wired⟩ := wired_freshSignals calm request
  rw [(start_eq_started accepted).2]
  refine ⟨external, stop, wake, ?_, Or.inl ?_⟩
  · rw [(Aside.emit _ _ rfl).signals, signals_started]
    exact wired
  · rw [(Aside.emit _ _ rfl).running]
    rfl

/-- The signals of a new run are calm. -/
theorem calm_of_start
    {loop : Loop}
    {request : RunRequest}
    {run : Run}
    (accepted : loop.start .another request = .started run)
    (calm : loop.signals.Calm) :
    run.loop.signals.Calm := by
  obtain ⟨_, _, _, driven⟩ := driven_of_start accepted calm
  exact driven.wired.rooted.calm

theorem calm_leaveRun
    {loop : Loop}
    (calm : loop.signals.Calm) :
    loop.leaveRun.signals.Calm := by
  unfold leaveRun
  rw [(Aside.emit _ _ rfl).signals]
  exact calm

/-- The signals are calm after every session. -/
theorem calm_session
    {loop : Loop}
    (fresh : loop.Fresh)
    (statements : List Statement) :
    (loop.session statements).signals.Calm := by
  refine session_preserves (motive := fun loop => loop.signals.Calm) Does.calm calm_of_start
    calm_leaveRun ?_ statements
  rw [fresh.signals]
  exact .empty

end Sessions

end Loop

namespace Run

variable {run : Run}

/-- A run that is not over is driven by its sources, however far it is. -/
theorem exists_driven_runFor
    {external stop wake : Nat}
    (driven : run.loop.Driven external stop wake)
    (scanning : run.phase = .scanning)
    {steps : Nat}
    (goesOn : ∀ failure, (run.runFor steps).phase ≠ .over failure) :
    ∃ wake, (run.runFor steps).loop.Driven external stop wake := by
  obtain ⟨deeds, follows⟩ := exists_follows scanning steps
  exact driven.along (follows.course goesOn)

/-- No wake-up of a run is lost and none stops it. -/
structure Alert
    (run : Run) :
    Prop where
  /-- Whatever is done since the last scan, in any order: the scan's token is cancelled exactly if
  one of the deeds was effective or the run is told to stop. -/
  cancelled_iff :
    ∀ deeds last scanned since, Loop.Course run.loop deeds last → LastScan deeds scanned since →
      (last.signals.isCancelled .wait = true ↔
        (∃ done ∈ since, done.2.Effective done.1) ∨ last.stopRequested = true)
  /-- Without stops and cancellations of the caller's token, whatever else is done, the run is
  not told to stop and the caller's token is not cancelled. -/
  steady :
    ∀ deeds last, Loop.Course run.loop deeds last →
      (∀ done ∈ deeds, done.2 ≠ .stop ∧ done.2 ≠ .cancel) →
      last.stopRequested = run.loop.stopRequested ∧
        last.signals.isCancelled .external = run.loop.signals.isCancelled .external
  /-- However far the run is, it follows a course.  A wait with an effective deed since its scan,
  or in a run that is told to stop, is interrupted in the next step; and a batch is only run if
  there was no such deed since its scan and the run is not told to stop. -/
  follows :
    ∀ steps, ∃ deeds, Follows run.loop deeds (run.runFor steps) ∧
      ∀ scanned since, LastScan deeds scanned since →
        (∀ due, (run.runFor steps).phase = .waiting due →
          (∃ done ∈ since, done.2.Effective done.1) ∨
              (run.runFor steps).loop.stopRequested = true →
            (run.runFor steps).step? = some (run.runFor steps).interrupted) ∧
        (∀ due, (run.runFor steps).phase = .dispatching due →
          (∀ done ∈ since, ¬ done.2.Effective done.1) ∧
            (run.runFor steps).loop.stopRequested = false)

/-- The token of a scan of a driven loop, at the end of any course. -/
theorem isCancelled_wait_iff_of_course
    {loop last scanned : Loop}
    {external stop wake : Nat}
    {deeds since : List (Loop × Deed)}
    (driven : loop.Driven external stop wake)
    (course : Loop.Course loop deeds last)
    (lastScan : LastScan deeds scanned since) :
    last.signals.isCancelled .wait = true ↔
      (∃ done ∈ since, done.2.Effective done.1) ∨ last.stopRequested = true := by
  obtain ⟨before, rfl⟩ := lastScan.shape
  obtain ⟨middle, earlier, later⟩ := course.split
  obtain ⟨held, drivenScanned⟩ := driven.along earlier
  cases later with
  | cons first rest =>
      cases first
      obtain ⟨still, attends, -⟩ := drivenScanned.afterScan
      obtain ⟨fresh, drivenLast, attendsLast⟩ := still.attends_along rest lastScan.free attends
      rw [drivenLast.isCancelled_wait_iff attendsLast]
      simp only [false_or]

/-- Without stops and cancellations a driven loop goes on. -/
theorem steady_of_course
    {loop last : Loop}
    {external stop wake : Nat}
    {deeds : List (Loop × Deed)}
    (driven : loop.Driven external stop wake)
    (course : Loop.Course loop deeds last)
    (noStop : ∀ done ∈ deeds, done.2 ≠ .stop ∧ done.2 ≠ .cancel) :
    Steady loop.signals last.signals := by
  induction course generalizing wake with
  | nil loop => exact ⟨rfl, rfl⟩
  | cons first later inductionHypothesis =>
      obtain ⟨isStop, isCancel⟩ := noStop _ List.mem_cons_self
      obtain ⟨fresh, still⟩ := driven.along (.cons first (.nil _))
      exact (driven.steady first isStop isCancel).trans
        (inductionHypothesis still fun done present => noStop done (List.mem_cons_of_mem _ present))

/-- A driven loop that is about to scan begins a run that is alert. -/
theorem alert_of_driven
    {run : Run}
    {external stop wake : Nat}
    (driven : run.loop.Driven external stop wake)
    (scanning : run.phase = .scanning) :
    run.Alert := by
  refine ⟨fun deeds last scanned since course lastScan => ?_, fun deeds last course noStop => ?_,
    fun steps => ?_⟩
  · exact isCancelled_wait_iff_of_course driven course lastScan
  · have steady := steady_of_course driven course noStop
    exact ⟨steady.stop, steady.external⟩
  · obtain ⟨deeds, follows⟩ := exists_follows scanning steps
    refine ⟨deeds, follows, fun scanned since lastScan => ⟨fun due waiting outdated => ?_,
      fun due dispatching => ?_⟩⟩
    · unfold Follows at follows
      rw [waiting] at follows
      have cancelled :=
        (isCancelled_wait_iff_of_course driven follows.1 lastScan).mpr outdated
      simp only [step?, waiting, cancelled, ↓reduceIte]
    · unfold Follows at follows
      rw [dispatching] at follows
      obtain ⟨course, -, pending⟩ := follows
      have exact_iff := isCancelled_wait_iff_of_course driven course lastScan
      rw [pending] at exact_iff
      have neither := mt exact_iff.mpr (by simp)
      rw [not_or, Bool.not_eq_true] at neither
      exact ⟨fun done present effective => neither.1 ⟨done, present, effective⟩, neither.2⟩

/-- Every accepted run of every session is alert. -/
theorem alert_of_start
    {loop : Loop}
    (fresh : loop.Fresh)
    (statements : List Statement)
    {request : RunRequest}
    {run : Run}
    (accepted : (loop.session statements).start .another request = .started run) :
    run.Alert := by
  obtain ⟨external, stop, wake, driven⟩ :=
    Loop.driven_of_start accepted (Loop.calm_session fresh statements)
  exact alert_of_driven driven (Loop.scanning_of_start accepted)

section Example

/-- A task for every year is added a tenth of a second after the start. -/
def addYearly : TimedHappening :=
  ⟨100, .commands [.add "0 0 1 1 *" false (.always false .idle)]⟩

/-- The loop waits for the year 2000 to begin when the task is added. -/
def earlyAddition : RunRequest where
  script := [addYearly]

theorem minutely_early
    {run : Run}
    (accepted : (Loop.eve.session Loop.addMinutely).start .another earlyAddition = .started run) :
    Minutely run :=
  minutely_of_start accepted (by decide +kernel) (by decide +kernel) (by decide +kernel)
    schedules_minutely

/-- The loop still waits when the task has been added. -/
theorem waiting_early
    {run : Run}
    (accepted : (Loop.eve.session Loop.addMinutely).start .another earlyAddition = .started run) :
    (run.runFor 2).phase = .waiting (some (⟨946684800, [1]⟩, 600)) ∧
      (run.runFor 2).loop.signals.isCancelled .wait = true ∧
      (run.runFor 2).loop.stopRequested = false ∧ (run.runFor 2).loop.registry = [1, 2] := by
  have minutely := minutely_early accepted
  have script : run.loop.scan.1.script = [addYearly] := (Loop.begins_of_start accepted).script
  have pending : run.loop.scan.1.signals.isCancelled .wait = false := by
    obtain ⟨-, rfl⟩ := Loop.start_eq_started accepted
    decide +kernel
  have early :
      ((({ run.loop.scan.1 with script := [] } : Loop).advanceTo addYearly.after).happen
        addYearly.happening).uptime < 600 := by
    obtain ⟨-, rfl⟩ := Loop.start_eq_started accepted
    decide +kernel
  rw [runFor_succ minutely.waits,
    runFor_succ (step?_happening pending script (by decide) rfl early)]
  obtain ⟨-, rfl⟩ := Loop.start_eq_started accepted
  refine ⟨rfl, ?_, ?_, ?_⟩
  · decide +kernel
  · decide +kernel
  · decide +kernel

/-- A run waits for its task for every minute, and another task is added meanwhile.  The run is
alert: the wait is interrupted, and the loop scans again. -/
theorem alert_minutely :
    Loop.eve.Fresh ∧
      ∃ run,
        (Loop.eve.session Loop.addMinutely).start .another earlyAddition = .started run ∧
          run.Alert ∧
          (run.runFor 2).phase = .waiting (some (⟨946684800, [1]⟩, 600)) ∧
          (run.runFor 2).loop.signals.isCancelled .wait = true ∧
          (run.runFor 2).loop.stopRequested = false ∧ (run.runFor 2).loop.registry = [1, 2] ∧
          (run.runFor 3).phase = .scanning := by
  obtain ⟨run, accepted⟩ : ∃ run,
      (Loop.eve.session Loop.addMinutely).start .another earlyAddition = .started run :=
    ⟨_, Loop.start_of_idle Loop.idle_minutely earlyAddition⟩
  obtain ⟨waiting, cancelled, going, registry⟩ := waiting_early accepted
  refine ⟨Loop.fresh_eve, run, accepted, alert_of_start Loop.fresh_eve Loop.addMinutely accepted,
    waiting, cancelled, going, registry, ?_⟩
  have stepped : (run.runFor 2).step? = some (run.runFor 2).interrupted := by
    simp only [step?, waiting, cancelled, ↓reduceIte]
  rw [runFor_succ_of_step? stepped]
  simp only [interrupted, going, Bool.false_eq_true, ↓reduceIte]

end Example

end Run

end Cadence
