import Cadence.Proofs.Log.Conservation

namespace Cadence

/-!
# A logger can be destroyed

Under a schedule that gives each of the two threads turn after turn, every call is
over after some time, the destruction included.  A move brings this closer, unless
nothing happens or the writer only falls asleep or stirs.  There is always a thread
whose next turn brings it closer: the caller, or the writer while the caller waits
for its thread to end.  The writer is not asleep then, as it was told.
-/

/-- What a caller has still to do, in turns of its own and of the writer, before it is ready. -/
def CallerPhase.work : CallerPhase → Nat
  | .ready => 0
  | .writing _ | .notifying | .joining => 1
  | .spawning | .closing => 2
  | .queueing _ => 5

/-- What the writer has still to do but for the lines that it is to write. -/
def WriterPhase.work : WriterPhase → Nat
  | .absent | .ended => 0
  | .looking | .asleep => 1
  | .writing => 2

theorem WriterPhase.work_notified
    (writer : WriterPhase) :
    writer.notified.work = writer.work := by
  cases writer <;> rfl

namespace Threads

/-- What is still to be done before the logger is destroyed. -/
def work
    (threads : Threads) :
    Nat :=
  6 * threads.calls.length + threads.caller.work + 3 * threads.logger.queued.length +
    threads.logger.batch.length + threads.writer.work

/-- Nothing happens, or the writer falls asleep or stirs. -/
def Idles
    (before after : Threads) :
    Prop :=
  after = before ∨
    before.writer = .looking ∧ before.logger.running = true ∧
      after = { before with writer := .asleep } ∨
    before.writer = .asleep ∧ after = { before with writer := .looking }

section Moves

variable {before after : Threads}

/-- Every move leaves less to be done, unless it is idle. -/
theorem Moves.work_lt_or_idles
    (moves : before.Moves after) :
    after.work < before.work ∨ before.Idles after := by
  cases moves with
  | waits => exact Or.inr (Or.inl rfl)
  | sleeps isEmpty running => exact Or.inr (Or.inr (Or.inl ⟨rfl, running, rfl⟩))
  | stirs => exact Or.inr (Or.inr (Or.inr ⟨rfl, rfl⟩))
  | takes isFilled =>
      have positive := List.length_pos_iff.mpr isFilled
      left
      simp only [work, WriterPhase.work, List.length_nil]
      omega
  | writes isNext =>
      left
      simp only [work, isNext, List.length_cons]
      omega
  | queues =>
      left
      simp only [work, CallerPhase.work, List.length_append, List.length_cons, List.length_nil]
      omega
  | notifies | closes =>
      left
      simp only [work, CallerPhase.work, WriterPhase.work_notified]
      omega
  | passes | offers | keeps | starts | stops | spawns | turnsAway | prints | joins | ends
  | finishes =>
      left
      simp only [work, CallerPhase.work, WriterPhase.work, List.length_cons]
      omega

/-- The thread that the destruction waits for. -/
def awaited
    (threads : Threads) :
    Turn :=
  if threads.caller = .joining ∧ threads.writer ≠ .ended then
    .writer
  else
    .caller

theorem awaited_ne_stir
    (threads : Threads) :
    threads.awaited ≠ .stir := by
  unfold awaited
  split <;> simp

/-- An idle move leaves the caller and its calls alone. -/
theorem Idles.still
    (idles : before.Idles after) :
    after.caller = before.caller ∧ after.calls = before.calls := by
  rcases idles with rfl | ⟨-, -, rfl⟩ | ⟨-, rfl⟩ <;> exact ⟨rfl, rfl⟩

/-- An idle move leaves everything as it is but for the sleep of the writer. -/
theorem Idles.same
    (idles : before.Idles after) :
    after.work = before.work ∧ after.awaited = before.awaited ∧
      (after.Destroyed ↔ before.Destroyed) := by
  rcases idles with rfl | ⟨looking, -, rfl⟩ | ⟨asleep, rfl⟩
  · exact ⟨rfl, rfl, Iff.rfl⟩
  · simp [work, WriterPhase.work, awaited, Destroyed, looking]
  · simp [work, WriterPhase.work, awaited, Destroyed, asleep]

end Moves

section Turns

variable {threads : Threads}

/-- A call leaves the calls to come alone. -/
theorem calls_begin
    (threads : Threads)
    (call : LoggerCall) :
    (threads.begin call).calls = threads.calls := by
  cases call <;> simp only [begin] <;> (repeat' split) <;> rfl

/-- A caller that need not wait does something until all its calls are over. -/
theorem not_idles_callerTurn
    (remains : ¬ threads.Destroyed)
    (free : threads.caller = .joining → threads.writer = .ended) :
    ¬ threads.Idles threads.callerTurn := by
  intro idles
  obtain ⟨sameCaller, sameCalls⟩ := idles.still
  obtain ⟨logger, caller, writer, calls⟩ := threads
  cases caller with
  | ready =>
      cases calls with
      | nil => exact remains ⟨rfl, rfl⟩
      | cons call calls =>
          simp only [callerTurn, calls_begin] at sameCalls
          exact List.cons_ne_self call calls sameCalls.symm
  | queueing message =>
      simp only [callerTurn] at sameCaller
      split at sameCaller <;> cases sameCaller
  | joining =>
      have isOver : writer = .ended := free rfl
      simp [callerTurn, isOver] at sameCaller
  | spawning | writing message | notifying | closing => cases sameCaller

/-- While the caller waits for the writer's thread to end, the writer has something to do. -/
theorem Sound.not_idles_writerTurn
    (sound : threads.Sound)
    (joining : threads.caller = .joining)
    (remains : threads.writer ≠ .ended) :
    ¬ threads.Idles threads.writerTurn := by
  obtain ⟨logger, caller, writer, calls⟩ := threads
  obtain rfl : caller = .joining := joining
  obtain ⟨isStill, notAbsent⟩ : logger.running = false ∧ writer ≠ .absent := sound.agrees
  rintro (same | ⟨-, running, -⟩ | ⟨asleep, -⟩)
  · cases writer with
    | absent => exact notAbsent rfl
    | ended => exact remains rfl
    | asleep => simpa [isStill] using sound.told rfl
    | looking =>
        have samePhase := congrArg Threads.writer same
        simp only [writerTurn, isStill, Bool.false_eq_true, and_false, ↓reduceIte] at samePhase
        split at samePhase <;> cases samePhase
    | writing =>
        cases batch : logger.batch with
        | nil =>
            have samePhase := congrArg Threads.writer same
            simp [writerTurn, batch] at samePhase
        | cons message rest =>
            have sameBatch := congrArg (fun threads => threads.logger.batch) same
            simp [writerTurn, Logger.move, batch] at sameBatch
  · simp [isStill] at running
  · simpa [isStill] using sound.told asleep

/-- The turn of the thread that is waited for leaves less to be done. -/
theorem Sound.work_turn_awaited
    (sound : threads.Sound)
    (remains : ¬ threads.Destroyed) :
    (threads.turn threads.awaited).work < threads.work := by
  refine (threads.turn_moves threads.awaited).work_lt_or_idles.resolve_right ?_
  unfold awaited
  split
  · rename_i waits
    exact sound.not_idles_writerTurn waits.1 waits.2
  · rename_i free
    exact not_idles_callerTurn remains fun joining => by simpa [joining] using free

end Turns

/-! ### Schedules -/

/-- A schedule in which each of the threads has turn after turn. -/
def Fair
    (schedule : Nat → Turn) :
    Prop :=
  ∀ turn, turn ≠ .stir → ∀ moment, ∃ later, schedule (moment + later) = turn

/-- The threads at a moment of a schedule. -/
def follow
    (threads : Threads)
    (schedule : Nat → Turn)
    (moment : Nat) :
    Threads :=
  threads.run ((List.range moment).map schedule)

theorem follow_succ
    (threads : Threads)
    (schedule : Nat → Turn)
    (moment : Nat) :
    threads.follow schedule (moment + 1) =
      (threads.follow schedule moment).turn (schedule moment) := by
  simp [follow, List.range_succ, run_append]

section Schedules

variable {threads : Threads} {schedule : Nat → Turn}

/-- Until the thread that is waited for has its turn, less is to be done or nothing changes. -/
theorem Sound.exists_work_lt
    (sound : threads.Sound)
    {later moment : Nat}
    (remains : ¬ (threads.follow schedule moment).Destroyed)
    (hasTurn : schedule (moment + later) = (threads.follow schedule moment).awaited) :
    ∃ after, (threads.follow schedule after).work < (threads.follow schedule moment).work := by
  induction later generalizing moment with
  | zero =>
      refine ⟨moment + 1, ?_⟩
      rw [follow_succ, show schedule moment = _ from hasTurn]
      exact (sound.run _).work_turn_awaited remains
  | succ later inductionHypothesis =>
      have moves := (threads.follow schedule moment).turn_moves (schedule moment)
      rw [← follow_succ] at moves
      rcases moves.work_lt_or_idles with less | idles
      · exact ⟨moment + 1, less⟩
      · obtain ⟨sameWork, sameAwaited, sameDestroyed⟩ := idles.same
        rw [← sameWork]
        refine inductionHypothesis (mt sameDestroyed.mp remains) ?_
        rw [sameAwaited, ← hasTurn, Nat.add_right_comm, Nat.add_assoc]

/-- A fair schedule comes to the end of the calls. -/
theorem Sound.exists_destroyed
    (sound : threads.Sound)
    (fair : Fair schedule) :
    ∃ moment, (threads.follow schedule moment).Destroyed := by
  suffices fromMoment : ∀ bound moment, (threads.follow schedule moment).work = bound →
      ∃ moment, (threads.follow schedule moment).Destroyed from fromMoment _ 0 rfl
  intro bound
  induction bound using Nat.strongRecOn with
  | _ bound inductionHypothesis =>
      intro moment isBound
      by_cases destroyed : (threads.follow schedule moment).Destroyed
      · exact ⟨moment, destroyed⟩
      · obtain ⟨later, hasTurn⟩ := fair _ (awaited_ne_stir _) moment
        obtain ⟨after, less⟩ := sound.exists_work_lt destroyed hasTurn
        exact inductionHypothesis _ (isBound ▸ less) after rfl

end Schedules

end Threads

end Cadence
