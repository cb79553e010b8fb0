import Cadence.Proofs.Loop.Episodes
import Cadence.Proofs.Loop.Rounds

namespace Cadence

/-!
# The protocol of a run

A run tells of its start, then of its batches, each of which is counted when it is
completed, then perhaps of a wait that was cancelled, and last of its end.  A failure
that ends the run ends its last batch, which is left but not counted.

The counters follow: a batch is counted when it is told of, and comes from a scan.
-/

/-- Whether a notice may be told within a run: it concerns neither its start nor its end, and no
action begins with a token that is cancelled. -/
def Notice.IsWithin : Notice → Prop
  | .started | .waitCancelled | .stopped => False
  | .ran _ _ cancelled => cancelled = false
  | _ => True

theorem Episode.Genuine.within
    {episode : Episode}
    (genuine : episode.Genuine)
    (rethrows : Bool) :
    ∀ notice ∈ episode.notices rethrows, notice.IsWithin := by
  intro notice present
  rcases List.mem_cons.mp present with rfl | present
  · trivial
  rcases List.mem_append.mp present with isStart | isFailure
  · unfold Loop.startNotices at isStart
    split at isStart
    · cases isStart
    · split at isStart
      · cases isStart
      · split at isStart
        · rw [List.mem_singleton.mp isStart]
          exact genuine.going
        · cases isStart
  · unfold Episode.failureNotices at isFailure
    split at isFailure
    · split at isFailure
      · cases isFailure
      · rw [List.mem_singleton.mp isFailure]
        trivial
    · cases isFailure

theorem Batch.within
    (batch : Batch) :
    ∀ notice ∈ batch.notices, notice.IsWithin := by
  intro notice present
  rcases List.mem_cons.mp present with rfl | present
  · trivial
  rcases List.mem_append.mp present with inEpisode | isLeft
  · obtain ⟨episode, isEpisode, inEpisode⟩ := List.mem_flatMap.mp inEpisode
    exact (batch.conducted.genuine episode isEpisode).within _ notice inEpisode
  · rw [List.mem_singleton.mp isLeft]
    trivial

/-- The notices of batches that are completed, counted on from a number. -/
def completedNotices :
    Nat → List Batch → List Notice
  | _, [] => []
  | count, batch :: batches =>
      batch.notices ++ .completed (count + 1) batch.tasks.length ::
        completedNotices (count + 1) batches

theorem completedNotices_concat
    (count : Nat)
    (batches : List Batch)
    (batch : Batch) :
    completedNotices count (batches ++ [batch]) =
      completedNotices count batches ++
        (batch.notices ++ [.completed (count + batches.length + 1) batch.tasks.length]) := by
  induction batches generalizing count with
  | nil => rfl
  | cons first batches inductionHypothesis =>
      simp only [List.cons_append, completedNotices, inductionHypothesis, List.append_assoc,
        List.length_cons, Nat.add_assoc, Nat.add_comm 1]

theorem within_completedNotices
    (count : Nat)
    (batches : List Batch) :
    ∀ notice ∈ completedNotices count batches, notice.IsWithin := by
  induction batches generalizing count with
  | nil => simp [completedNotices]
  | cons batch batches inductionHypothesis =>
      intro notice present
      rcases List.mem_append.mp present with inBatch | later
      · exact batch.within notice inBatch
      · rcases List.mem_cons.mp later with rfl | later
        · trivial
        · exact inductionHypothesis _ notice later

/-- Until its end a run tells nothing more. -/
theorem Loop.tells_leaveRun
    (loop : Loop) :
    Loop.Tells loop [.stopped] loop.leaveRun := by
  have ended : Loop.Murmurs loop { loop with running := false, inProgress := false } :=
    .silent rfl rfl rfl rfl
  exact ended.tells.trans (.emit _ rfl rfl)

namespace Run

/-- A batch that a run has entered within a number of steps. -/
def Entered
    (first : Run)
    (steps : Nat)
    (batch : Batch) :
    Prop :=
  ∃ earlier < steps, ∃ group, (first.runFor earlier).phase = .dispatching group ∧
    batch.entry = (first.runFor earlier).loop ∧ batch.tasks = group.tasks

/-- What is told of a run that has completed batches and goes on. -/
def told
    (before : Loop)
    (batches : List Batch) :
    List Notice :=
  .started :: completedNotices before.loopCount batches

/-- What is told of a run, from the loop that it was started with: the batches that were completed,
and the one that a failure aborted. -/
inductive Reports
    (before : Loop)
    (batches : List Batch) :
    Option Batch → Run → Prop where
  /-- The run goes on: it has told of its start and of its batches. -/
  | going
      {run : Run}
      (goesOn : ∀ failure, run.phase ≠ .over failure)
      (notices : run.loop.notices = before.notices ++ told before batches) :
      Reports before batches none run
  /-- The run was stopped or cancelled: of its end nothing else is told, but a wait that was
  cancelled, if there was one. -/
  | ended
      {run : Run}
      (last : Loop)
      (closing : List Notice)
      (isClosing : closing = [] ∨ closing = [.waitCancelled])
      (notices : last.notices = before.notices ++ (told before batches ++ closing))
      (idle : last.running = false)
      (stopped : run.loop = last.emit .loopStopped)
      (outcome : run.phase = .over none) :
      Reports before batches none run
  /-- A failure ended the run in a batch, which was left but not counted. -/
  | failed
      {run : Run}
      (last : Loop)
      (batch : Batch)
      (failure : Failure)
      (isFailure : batch.failure = some failure)
      (notices : last.notices = before.notices ++ (told before batches ++ batch.notices))
      (idle : last.running = false)
      (stopped : run.loop = last.emit .loopStopped)
      (outcome : run.phase = .over (some failure)) :
      Reports before batches (some batch) run

/-- What is told in one step of a run. -/
inductive Utters
    (run next : Run) :
    Prop where
  | scans
      (scanning : run.phase = .scanning)
      (goesOn : ∀ failure, next.phase ≠ .over failure)
      (scanned : next.loop = run.loop.scan.1)
  | nothing
      (waiting : ∃ due, run.phase = .waiting due)
      (goesOn : ∀ failure, next.phase ≠ .over failure)
      (tells : Loop.Tells run.loop [] next.loop)
  | completes
      (group : OccurrenceGroup)
      (dispatching : run.phase = .dispatching group)
      (batch : Batch)
      (entry : batch.entry = run.loop)
      (tasks : batch.tasks = group.tasks)
      (passes : batch.failure = none)
      (scanning : next.phase = .scanning)
      (completed : next.loop = batch.completed)
  | ends
      (last : Loop)
      (closing : List Notice)
      (isClosing : closing = [] ∨ closing = [.waitCancelled])
      (tells : Loop.Tells run.loop closing last)
      (idle : last.running = false)
      (stopped : next.loop = last.emit .loopStopped)
      (outcome : next.phase = .over none)
  | fails
      (group : OccurrenceGroup)
      (dispatching : run.phase = .dispatching group)
      (batch : Batch)
      (entry : batch.entry = run.loop)
      (tasks : batch.tasks = group.tasks)
      (failure : Failure)
      (isFailure : batch.failure = some failure)
      (last : Loop)
      (tells : Loop.Tells run.loop batch.notices last)
      (idle : last.running = false)
      (stopped : next.loop = last.emit .loopStopped)
      (outcome : next.phase = .over (some failure))

section Steps

variable {run next : Run}

theorem goesOn_timedOut
    (run : Run)
    (due : OccurrenceGroup)
    (deadline : Int)
    (failure : Option Failure) :
    (run.timedOut due deadline).phase ≠ .over failure := by
  simp only [timedOut]
  split <;> simp

/-- What happens in a wait tells nothing. -/
theorem tells_happened
    (run : Run)
    (happening : TimedHappening)
    (others : List TimedHappening) :
    Loop.Tells run.loop [] (run.happened happening others).loop := by
  have told : Loop.Tells run.loop [] { run.loop with script := others } := .silent rfl rfl rfl
  exact told.murmurs ((Loop.Murmurs.advanceTo _ _).trans (.happen _ _))

/-- Every step is one of these. -/
theorem utters_of_step?
    (stepped : run.step? = some next) :
    run.Utters next := by
  have timesOut : ∀ (waited : Run) (due : OccurrenceGroup) (deadline : Int),
      Loop.Murmurs waited.loop (waited.timedOut due deadline).loop :=
    fun waited due deadline => .advanceTo waited.loop deadline
  have ended :
      ∀ loop : Loop, Loop.Murmurs loop { loop with running := false, inProgress := false } :=
    fun loop => .silent rfl rfl rfl rfl
  cases moves_of_step? stepped with
  | finish scanning stopped =>
      exact .ends _ [] (Or.inl rfl) (ended run.loop).tells rfl rfl rfl
  | scan scanning going => exact .scans scanning (by simp) rfl
  | quit due waiting cancelled stopped =>
      have cancels : Loop.Tells run.loop [.waitCancelled] (run.loop.emit .waitCancelled) :=
        .emit run.loop rfl rfl
      exact .ends _ [.waitCancelled] (Or.inr rfl) (cancels.murmurs (ended _)) rfl rfl rfl
  | wake due waiting cancelled going => exact .nothing ⟨due, waiting⟩ (by simp) (.refl run.loop)
  | happen due waiting pending happening others =>
      exact .nothing ⟨due, waiting⟩ (by simp [happened, waiting])
        (run.tells_happened happening others)
  | outlast group deadline waiting pending happening others =>
      exact .nothing ⟨_, waiting⟩ (goesOn_timedOut _ _ _)
        ((run.tells_happened happening others).murmurs (timesOut _ _ _))
  | timeOut group deadline waiting =>
      exact .nothing ⟨_, waiting⟩ (run.goesOn_timedOut _ _) (timesOut run _ _).tells
  | batch group dispatching dispatched result =>
      obtain ⟨batch, entry, tasks⟩ := run.loop.exists_batch group.tasks
      rw [← entry, ← tasks] at result
      cases outcome : batch.failure with
      | none =>
          rw [batch.dispatch_of_passes outcome] at result
          cases result
          exact .completes group dispatching batch entry tasks outcome rfl rfl
      | some failure =>
          rw [batch.dispatch_of_fails outcome] at result
          cases result
  | fail group dispatching dispatched failure result =>
      obtain ⟨batch, entry, tasks⟩ := run.loop.exists_batch group.tasks
      rw [← entry, ← tasks] at result
      cases outcome : batch.failure with
      | none =>
          rw [batch.dispatch_of_passes outcome] at result
          cases result
      | some failure =>
          rw [batch.dispatch_of_fails outcome] at result
          cases result
          have tells := (batch.tells.murmurs (.logLine batch.left .error
            "Task failure ends the scheduler loop")).murmurs (ended _)
          rw [entry] at tells
          exact .fails group dispatching batch entry tasks _ outcome _ tells rfl rfl rfl

/-- The counters are kept, and a run that waits or is about to dispatch has made a scan for which no
batch is counted yet. -/
structure Keeps
    (run : Run) :
    Prop where
  counted : run.loop.Counted
  scanned :
    (∀ failure, run.phase ≠ .over failure) → run.phase ≠ .scanning →
      run.loop.loopCount < run.loop.cycleCount

/-- A run that has ended only has to keep the counters. -/
theorem Keeps.ofOver
    {failure : Option Failure}
    (counted : run.loop.Counted)
    (ended : run.phase = .over failure) :
    run.Keeps :=
  ⟨counted, fun goesOn => absurd ended (goesOn failure)⟩

/-- Every step keeps the counters. -/
theorem Keeps.step
    (stepped : run.step? = some next)
    (keeps : run.Keeps) :
    next.Keeps := by
  cases utters_of_step? stepped with
  | scans scanning goesOn scanned =>
      refine ⟨scanned ▸ keeps.counted.scan, fun _ _ => ?_⟩
      rw [scanned]
      exact Nat.lt_succ_of_le keeps.counted.bounded
  | nothing waiting goesOn tells =>
      obtain ⟨due, waiting⟩ := waiting
      refine ⟨tells.counted keeps.counted, fun _ _ => ?_⟩
      rw [tells.loopCount, tells.cycleCount]
      exact keeps.scanned (by simp [waiting]) (by simp [waiting])
  | completes group dispatching batch entry tasks passes scanning completed =>
      have scanned := keeps.scanned (by simp [dispatching]) (by simp [dispatching])
      refine ⟨?_, fun _ notScanning => absurd scanning notScanning⟩
      rw [completed]
      exact batch.counted_completed (entry ▸ keeps.counted) (entry ▸ scanned)
  | ends last closing isClosing tells idle stopped outcome =>
      refine .ofOver ?_ outcome
      rw [stopped]
      exact (tells.trans (.emit last rfl rfl)).counted keeps.counted
  | fails group dispatching batch entry tasks failure isFailure last tells idle stopped outcome =>
      refine .ofOver ?_ outcome
      rw [stopped]
      exact (tells.trans (.emit last rfl rfl)).counted keeps.counted

end Steps

section Runs

variable {before : Loop} {first : Run}

theorem Entered.mono
    {earlier later : Nat}
    {batch : Batch}
    (entered : first.Entered earlier batch)
    (notLater : earlier ≤ later) :
    first.Entered later batch := by
  obtain ⟨moment, sooner, rest⟩ := entered
  exact ⟨moment, Nat.lt_of_lt_of_le sooner notLater, rest⟩

/-- What a run has told and counted after a number of steps. -/
structure Accounts
    (before : Loop)
    (first : Run)
    (steps : Nat)
    (batches : List Batch)
    (aborted : Option Batch) :
    Prop where
  reports : (first.runFor steps).Reports before batches aborted
  loopCount : (first.runFor steps).loop.loopCount = before.loopCount + batches.length
  passes : ∀ batch ∈ batches, batch.failure = none
  entered :
    ∀ batch, batch ∈ batches ∨ batch ∈ aborted → first.Entered steps batch ∧ batch.Orderly

/-- A step that tells nothing adds nothing to the account. -/
theorem Accounts.stay
    {steps : Nat}
    {batches : List Batch}
    {aborted : Option Batch}
    (accounts : Accounts before first steps batches aborted)
    (reports : (first.runFor (steps + 1)).Reports before batches aborted)
    (loopCount :
      (first.runFor (steps + 1)).loop.loopCount = (first.runFor steps).loop.loopCount) :
    Accounts before first (steps + 1) batches aborted where
  reports := reports
  loopCount := loopCount.trans accounts.loopCount
  passes := accounts.passes
  entered := fun batch present =>
    ⟨(accounts.entered batch present).1.mono (Nat.le_succ steps), batch.orderly⟩

/-- One more step of the account. -/
theorem Accounts.step
    {steps : Nat}
    {batches : List Batch}
    {aborted : Option Batch}
    (accounts : Accounts before first steps batches aborted)
    (stepped : (first.runFor steps).step? = some (first.runFor (steps + 1))) :
    ∃ batches aborted, Accounts before first (steps + 1) batches aborted := by
  cases accounts.reports with
  | ended last closing isClosing notices idle stopped outcome =>
      simp [step?, outcome] at stepped
  | failed last batch failure isFailure notices idle stopped outcome =>
      simp [step?, outcome] at stepped
  | going notOver notices =>
      have earlier : ∀ batch, batch ∈ batches →
          first.Entered (steps + 1) batch ∧ batch.Orderly := fun batch present =>
        ⟨(accounts.entered batch (Or.inl present)).1.mono (Nat.le_succ steps), batch.orderly⟩
      cases utters_of_step? stepped with
      | scans scanning goesOn scanned =>
          refine ⟨batches, none, accounts.stay (.going goesOn ?_) (by rw [scanned]; rfl)⟩
          rw [scanned, Loop.notices_scan]
          exact notices
      | nothing waiting goesOn tells =>
          refine ⟨batches, none, accounts.stay (.going goesOn ?_) tells.loopCount⟩
          exact (tells.notices.trans (List.append_nil _)).trans notices
      | completes group dispatching batch entry tasks passes scanning completed =>
          refine ⟨batches ++ [batch], none, .going (by simp [scanning]) ?_, ?_, ?_, ?_⟩
          · rw [completed, batch.notices_completed, entry, notices, accounts.loopCount, told, told,
              completedNotices_concat]
            simp
          · rw [completed, batch.loopCount_completed, entry, accounts.loopCount]
            simp [Nat.add_assoc]
          · intro other present
            rcases List.mem_append.mp present with old | last
            · exact accounts.passes other old
            · rw [List.mem_singleton.mp last]
              exact passes
          · rintro other (present | none)
            · rcases List.mem_append.mp present with old | last
              · exact earlier other old
              · rw [List.mem_singleton.mp last]
                exact ⟨⟨steps, Nat.lt_succ_self steps, group, dispatching, entry, tasks⟩,
                  batch.orderly⟩
            · cases none
      | ends last closing isClosing tells idle stopped outcome =>
          refine ⟨batches, none, accounts.stay
            (.ended last closing isClosing ?_ idle stopped outcome) ?_⟩
          · rw [tells.notices, notices, List.append_assoc]
          · rw [stopped]
            exact (tells.trans (.emit last rfl rfl)).loopCount
      | fails group dispatching batch entry tasks failure isFailure last tells idle stopped
          outcome =>
          refine ⟨batches, some batch, .failed last batch failure isFailure ?_ idle stopped outcome,
            ?_, accounts.passes, ?_⟩
          · rw [tells.notices, notices, List.append_assoc]
          · rw [stopped]
            exact ((tells.trans (.emit last rfl rfl)).loopCount).trans accounts.loopCount
          · rintro other (present | isAborted)
            · exact earlier other present
            · cases isAborted
              exact ⟨⟨steps, Nat.lt_succ_self steps, group, dispatching, entry, tasks⟩,
                batch.orderly⟩

/-- A run accounts for what it tells and counts. -/
theorem exists_accounts
    (scanning : first.phase = .scanning)
    (started : Loop.Tells before [.started] first.loop)
    (steps : Nat) :
    ∃ batches aborted, Accounts before first steps batches aborted := by
  induction steps with
  | zero =>
      refine ⟨[], none, .going (by simp [runFor, scanning]) started.notices, started.loopCount,
        by simp, by simp⟩
  | succ steps inductionHypothesis =>
      obtain ⟨batches, aborted, accounts⟩ := inductionHypothesis
      cases stepped : (first.runFor steps).step? with
      | some next => exact accounts.step (runFor_succ_of_step? stepped ▸ stepped)
      | none =>
          have same := runFor_succ_of_step?_none stepped
          exact ⟨batches, aborted, accounts.stay (same ▸ accounts.reports) (by rw [same])⟩

/-- What is told of a run begins with its start, and ends with its end if it is over. -/
theorem Reports.shape
    {batches : List Batch}
    {aborted : Option Batch}
    {run : Run}
    (reports : run.Reports before batches aborted) :
    ∃ between closing,
      run.loop.notices = before.notices ++ .started :: (between ++ closing) ∧
        (∀ notice ∈ between, notice.IsWithin) ∧
        (run.outcome = .unfinished ∧ closing = [] ∨
          run.outcome ≠ .unfinished ∧
            (closing = [.stopped] ∨ closing = [.waitCancelled, .stopped])) := by
  have within := within_completedNotices before.loopCount batches
  cases reports with
  | going goesOn notices =>
      have unfinished : run.outcome = .unfinished := by
        unfold outcome
        split
        · next ended => exact absurd ended (goesOn none)
        · next failure ended => exact absurd ended (goesOn (some failure))
        · rfl
      exact ⟨_, [], by simpa [told] using notices, within, Or.inl ⟨unfinished, rfl⟩⟩
  | ended last closing isClosing notices idle stopped outcome =>
      have isOver : run.outcome ≠ .unfinished := by simp [Run.outcome, outcome]
      refine ⟨_, closing ++ [.stopped], ?_, within, Or.inr ⟨isOver, ?_⟩⟩
      · rw [stopped, Loop.notices_emit, notices]
        simp [told, Record.notice?]
      · rcases isClosing with rfl | rfl
        · exact Or.inl rfl
        · exact Or.inr rfl
  | failed last batch failure isFailure notices idle stopped outcome =>
      have isOver : run.outcome ≠ .unfinished := by simp [Run.outcome, outcome]
      refine ⟨completedNotices before.loopCount batches ++ batch.notices, [.stopped], ?_, ?_,
        Or.inr ⟨isOver, Or.inl rfl⟩⟩
      · rw [stopped, Loop.notices_emit, notices]
        simp [told, Record.notice?]
      · intro notice present
        exact (List.mem_append.mp present).elim (within notice) (batch.within notice)

/-- A run starts once, and when it is over, it has stopped once. -/
theorem Reports.once
    {batches : List Batch}
    {aborted : Option Batch}
    {run : Run}
    (reports : run.Reports before batches aborted) :
    ∃ later, run.loop.notices = before.notices ++ later ∧ later.count .started = 1 ∧
      later.count .stopped = if run.outcome = .unfinished then 0 else 1 := by
  obtain ⟨between, closing, notices, within, isClosing⟩ := reports.shape
  have noStart : between.count .started = 0 := List.count_eq_zero.mpr fun present => within _ present
  have noStop : between.count .stopped = 0 := List.count_eq_zero.mpr fun present => within _ present
  refine ⟨_, notices, ?_, ?_⟩
  · rcases isClosing with ⟨-, rfl⟩ | ⟨-, rfl | rfl⟩ <;> simp [noStart]
  · rcases isClosing with ⟨unfinished, rfl⟩ | ⟨isOver, rfl | rfl⟩
    · simp [noStop, unfinished]
    · simp [noStop, isOver]
    · simp [noStop, isOver]

end Runs

/-- The protocol of a run, from the loop that it was started with: at every moment its notices are
those of its start, its batches and its end, and the counters are theirs. -/
structure Protocol
    (before : Loop)
    (first : Run) :
    Prop where
  accounts : ∀ steps, ∃ batches aborted, Accounts before first steps batches aborted
  once :
    ∀ steps, ∃ later, (first.runFor steps).loop.notices = before.notices ++ later ∧
      later.count .started = 1 ∧
      later.count .stopped = if (first.runFor steps).outcome = .unfinished then 0 else 1
  counted : ∀ steps, (first.runFor steps).loop.Counted

end Run

namespace Loop

variable {loop : Loop} {request : RunRequest} {run : Run}

/-- Of its start a run tells first. -/
theorem tells_of_start
    (accepted : loop.start .another request = .started run) :
    Tells loop [.started] run.loop := by
  rw [(start_eq_started accepted).2]
  have started : Tells loop [] (loop.started request) := .silent rfl rfl rfl
  exact started.trans (.emit _ rfl rfl)

/-- The counters are kept along every run. -/
theorem counted_runFor
    (accepted : loop.start .another request = .started run)
    (counted : loop.Counted)
    (steps : Nat) :
    (run.runFor steps).loop.Counted := by
  have begins : run.Keeps :=
    ⟨(tells_of_start accepted).counted counted,
      fun _ notScanning => absurd (scanning_of_start accepted) notScanning⟩
  exact (Run.runFor_induction (motive := Run.Keeps) Run.Keeps.step begins steps).counted

/-- The counters are kept along every session. -/
theorem counted_session
    (blank : loop.records = #[])
    (uncounted : loop.loopCount = 0)
    (statements : List Statement) :
    (loop.session statements).Counted := by
  induction statements using List.reverseRecOn with
  | nil =>
      refine ⟨?_, ?_, ?_⟩
      · simp [session, notices, noticesOf, blank, uncounted]
      · rw [session, List.foldl_nil, uncounted]
        exact Nat.zero_le _
      · intro before record status isPrefix
        simp [session, blank] at isPrefix
  | append_singleton statements statement inductionHypothesis =>
      have last :
          loop.session (statements ++ [statement]) = (loop.session statements).obey statement :=
        List.foldl_append
      rw [last]
      cases statement with
      | command command => exact inductionHypothesis.murmurs (.execute _ command)
      | run run =>
          have finished :
              ∀ (after : Loop) (outcome : RunOutcome), after.Counted →
                (after.record (.finished outcome after.clock after.status)).Counted :=
            fun after outcome counted =>
              counted.murmurs (.tell after _ rfl fun status shown => by
                cases shown
                exact ⟨rfl, rfl⟩)
          simp only [obey, runToEnd]
          cases result : (loop.session statements).start .another run.request with
          | refused refused =>
              rw [start_eq_refused result]
              exact finished _ _ (inductionHypothesis.murmurs (.logLine _ _ _))
          | waits => exact finished _ _ inductionHypothesis
          | started started => exact finished _ _ (counted_runFor result inductionHypothesis _)

end Loop

namespace Run

/-- Every run of every session follows the protocol. -/
theorem protocol_of_start
    {loop : Loop}
    (blank : loop.records = #[])
    (uncounted : loop.loopCount = 0)
    (statements : List Statement)
    {request : RunRequest}
    {run : Run}
    (accepted : (loop.session statements).start .another request = .started run) :
    Protocol (loop.session statements) run := by
  have accounts := exists_accounts (Loop.scanning_of_start accepted) (Loop.tells_of_start accepted)
  refine ⟨accounts, fun steps => ?_, ?_⟩
  · obtain ⟨batches, aborted, accounts⟩ := accounts steps
    exact accounts.reports.once
  · exact Loop.counted_runFor accepted (Loop.counted_session blank uncounted statements)

/-- A run on the eve of the year 2000 follows the protocol, and comes to a batch. -/
theorem protocol_minutely :
    Loop.eve.records = #[] ∧ Loop.eve.loopCount = 0 ∧
      ∃ run, (Loop.eve.session Loop.addMinutely).start .another {} = .started run ∧
        Protocol (Loop.eve.session Loop.addMinutely) run ∧
        (run.runFor 2).phase = .dispatching ⟨946684800, [1]⟩ := by
  have accepted := Loop.start_of_idle Loop.idle_minutely {}
  refine ⟨rfl, rfl, _, accepted, ?_, congrArg Run.phase (dispatching_minutely accepted)⟩
  exact protocol_of_start rfl rfl Loop.addMinutely accepted

end Run

end Cadence
