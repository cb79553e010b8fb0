import Cadence.Proofs.Cancellation.Calls
import Cadence.Proofs.Cancellation.Descent

namespace Cadence

namespace Cancellation

/-!
# Listeners are called exactly once, and exactly when they are owed a call

A listener is owed a call if its state was cancelled when it was registered, or if its
registration is in force when the state becomes cancelled.  Forwards in time, such a
listener stays pending until it is put on the agenda, and what is on the agenda is done.
Backwards, whatever was called was on the agenda, and came there from its state or from
its registration.
-/

section Moments

variable {ν : Type} [DecidableEq ν]

/-- A state becomes cancelled by the job at a moment. -/
def BecomesCancelled
    (program : List (Step ν))
    (time key : Nat) :
    Prop :=
  (moment program time).world.isCancelledState key = false ∧
    (moment program (time + 1)).world.isCancelledState key = true

/-- What was registered on a state at one moment is not reset, overwritten or destroyed before
another. -/
def InForce
    (program : List (Step ν))
    (made key time : Nat) :
    Prop :=
  ∀ between, made < between → between < time →
    (moment program between).voided? ≠ some ((moment program made).world.nextPlace key)

/-- A listener that is registered on a state at a moment is owed a call: the state is cancelled by
then, or becomes cancelled while the registration is in force. -/
def Owed
    (program : List (Step ν))
    (made key : Nat) :
    Prop :=
  (moment program made).world.isCancelledState key = true ∨
    ∃ time, made < time ∧ BecomesCancelled program time key ∧ InForce program made key time

/-- A listener is pending on a state at a moment as far as its history tells. -/
def Awaits
    (program : List (Step ν))
    (time key serial : Nat)
    (label : String)
    (reactions : List (Step ν))
    (made : Nat) :
    Prop :=
  made < time ∧ (moment program made).Listens key serial label reactions ∧
    (moment program made).world.isCancelledState key = false ∧ InForce program made key time

variable {program : List (Step ν)}

theorem InForce.earlier
    {made key earlier later : Nat}
    (inForce : InForce program made key later)
    (ordered : earlier ≤ later) :
    InForce program made key earlier :=
  fun between after before => inForce between after (Nat.lt_of_lt_of_le before ordered)

/-! ### Numbers and reports along a program -/

theorem step?_of_listens
    {made key serial : Nat}
    {label : String}
    {reactions : List (Step ν)}
    (listens : (moment program made).Listens key serial label reactions) :
    (moment program made).step? = some (moment program (made + 1)) := by
  obtain ⟨name, token, rest, pending, -⟩ := listens
  exact step?_of_agenda pending

theorem nextSerial_moment_le
    (program : List (Step ν))
    {earlier later : Nat}
    (ordered : earlier ≤ later) :
    (moment program earlier).world.nextSerial ≤ (moment program later).world.nextSerial := by
  induction ordered with
  | refl => exact Nat.le_refl _
  | @step jobs _ inductionHypothesis =>
      rcases moment_succ program jobs with stepped | same
      · exact Nat.le_trans inductionHypothesis (Machine.nextSerial_le_of_step? stepped)
      · rwa [same]

/-- A number that is given is taken from then on. -/
theorem serial_lt_nextSerial
    {made later key serial : Nat}
    {label : String}
    {reactions : List (Step ν)}
    (listens : (moment program made).Listens key serial label reactions)
    (after : made < later) :
    serial < (moment program later).world.nextSerial := by
  have given := listens.nextSerial (step?_of_listens listens)
  have kept := nextSerial_moment_le program (Nat.succ_le_of_lt after)
  rw [Nat.succ_eq_add_one, given] at kept
  exact kept

/-- Listeners are numbered in the order of their registration. -/
theorem serial_lt_iff
    {first second firstKey secondKey firstSerial secondSerial : Nat}
    {firstLabel secondLabel : String}
    {firstReactions secondReactions : List (Step ν)}
    (firstListens :
      (moment program first).Listens firstKey firstSerial firstLabel firstReactions)
    (secondListens :
      (moment program second).Listens secondKey secondSerial secondLabel secondReactions) :
    firstSerial < secondSerial ↔ first < second := by
  have isFirst : (moment program first).world.nextSerial = firstSerial := by
    obtain ⟨_, _, _, -, -, isNext⟩ := firstListens
    exact isNext
  have isSecond : (moment program second).world.nextSerial = secondSerial := by
    obtain ⟨_, _, _, -, -, isNext⟩ := secondListens
    exact isNext
  constructor
  · intro less
    by_contra notBefore
    have ordered := nextSerial_moment_le program (Nat.le_of_not_lt notBefore)
    omega
  · intro before
    exact isSecond ▸ serial_lt_nextSerial firstListens before

/-- A number stands for one listener, on one state. -/
theorem Machine.Listens.unique
    {first second firstKey secondKey serial : Nat}
    {firstLabel secondLabel : String}
    {firstReactions secondReactions : List (Step ν)}
    (firstListens : (moment program first).Listens firstKey serial firstLabel firstReactions)
    (secondListens : (moment program second).Listens secondKey serial secondLabel secondReactions) :
    first = second ∧ firstKey = secondKey ∧ firstLabel = secondLabel ∧
      firstReactions = secondReactions := by
  have same : first = second := by
    have notBefore := (serial_lt_iff firstListens secondListens).not.mp (Nat.lt_irrefl _)
    have notAfter := (serial_lt_iff secondListens firstListens).not.mp (Nat.lt_irrefl _)
    omega
  subst same
  obtain ⟨_, _, _, firstPending, firstHeld, -⟩ := firstListens
  obtain ⟨_, _, _, secondPending, secondHeld, -⟩ := secondListens
  cases firstPending.symm.trans secondPending
  exact ⟨rfl, Option.some.inj (firstHeld.symm.trans secondHeld), rfl, rfl⟩

theorem reports_prefix
    (program : List (Step ν))
    {earlier later : Nat}
    (ordered : earlier ≤ later) :
    (moment program earlier).reports <+: (moment program later).reports := by
  induction ordered with
  | refl => exact List.prefix_refl _
  | @step jobs _ inductionHypothesis =>
      rcases moment_succ program jobs with stepped | same
      · exact inductionHypothesis.trans (Machine.reports_of_step? stepped)
      · rwa [same]

theorem firings_prefix
    (program : List (Step ν))
    {earlier later : Nat}
    (ordered : earlier ≤ later) :
    firings (moment program earlier).reports <+: firings (moment program later).reports := by
  obtain ⟨more, added⟩ := reports_prefix program ordered
  exact ⟨firings more, by rw [← added, firings_append]⟩

theorem single_moment
    (program : List (Step ν))
    (jobs : Nat) :
    (moment program jobs).Single :=
  Machine.runFor_induction Machine.Single (fun stepped single => single.step stepped) jobs
    (Machine.Single.initial program)

/-- One job more is done, or the program is over. -/
theorem moment_succ_or_idle
    (program : List (Step ν))
    (jobs : Nat) :
    (moment program jobs).step? = some (moment program (jobs + 1)) ∨
      (moment program jobs).agenda = [] ∧
        moment program (jobs + 1) = moment program jobs := by
  rw [moment_succ_last]
  cases stepped : (moment program jobs).step? with
  | none => exact Or.inr ⟨Machine.agenda_eq_nil_of_step?_none stepped, rfl⟩
  | some next => exact Or.inl rfl

/-- Nothing happens after the last job. -/
theorem moment_of_idle
    (last : Nat)
    {later : Nat}
    (idle : (moment program last).agenda = [])
    (ordered : last ≤ later) :
    moment program later = moment program last := by
  induction ordered with
  | refl => rfl
  | @step jobs _ inductionHypothesis =>
      rw [← inductionHypothesis] at idle ⊢
      rcases moment_succ_or_idle program jobs with stepped | ⟨-, same⟩
      · simp [Machine.step?, idle] at stepped
      · exact same

/-- The reports of a program are those of a moment after which nothing happens. -/
theorem exists_last
    (program : List (Step ν)) :
    ∃ last, (moment program last).agenda = [] ∧
      reportsOf program = (moment program last).reports :=
  ⟨Machine.weight { agenda := program.map Job.perform }, Machine.agenda_run _, rfl⟩

/-- Whatever was called at any moment is among the calls of the whole program. -/
theorem firings_prefix_reportsOf
    (program : List (Step ν))
    (jobs : Nat) :
    firings (moment program jobs).reports <+: firings (reportsOf program) := by
  obtain ⟨last, idle, whole⟩ := exists_last program
  rw [whole]
  rcases Nat.le_total jobs last with before | after
  · exact firings_prefix program before
  · have same := moment_of_idle last idle after
    exact same.symm ▸ List.prefix_refl _

/-- No listener is called twice. -/
theorem nodup_firings_reportsOf
    (program : List (Step ν)) :
    ((firings (reportsOf program)).map Prod.fst).Nodup := by
  obtain ⟨last, -, whole⟩ := exists_last program
  rw [whole]
  exact (single_moment program last).nodup_firings

/-- A listener that was called was called once, with its own label. -/
theorem count_of_fired
    {serial : Nat}
    {label : String}
    (fired : (serial, label) ∈ firings (reportsOf program)) :
    (firings (reportsOf program)).count (serial, label) = 1 ∧
      ((firings (reportsOf program)).map Prod.fst).count serial = 1 := by
  have nodup := nodup_firings_reportsOf program
  exact ⟨List.count_eq_one_of_mem nodup.of_map fired,
    List.count_eq_one_of_mem nodup (List.mem_map_of_mem fired)⟩

/-! ### What is on the agenda is done -/

/-- Everything in front of the rest of the agenda is done at some moment. -/
theorem exists_done
    {time : Nat}
    (front : List (Job ν))
    {rest : List (Job ν)}
    (pending : (moment program time).agenda = front ++ rest) :
    ∃ later, time ≤ later ∧ (moment program later).agenda = rest := by
  induction weight : (moment program time).weight using Nat.strongRecOn
    generalizing time front with
  | ind weight inductionHypothesis =>
      cases front with
      | nil => exact ⟨time, Nat.le_refl _, pending⟩
      | cons job front =>
          have stepped := step?_of_agenda pending
          obtain ⟨_, added, remaining, before, after, -⟩ := Machine.exists_replaces stepped
          have remains : front ++ rest = remaining :=
            (List.cons.inj (pending.symm.trans before)).2
          have lighter := Machine.weight_lt_of_step? stepped
          rw [← remains, ← List.append_assoc] at after
          obtain ⟨later, ordered, done⟩ := inductionHypothesis _ (weight ▸ lighter) _ after rfl
          exact ⟨later, Nat.le_of_succ_le ordered, done⟩

/-- Callbacks on the agenda are called one after the other, each with all that it causes before the
next, so that the listeners among them are called in their order. -/
theorem exists_called
    {time : Nat}
    (callbacks : List (Callback ν))
    {rest : List (Job ν)}
    (pending : (moment program time).agenda = callbacks.map .call ++ rest) :
    ∃ later called, time ≤ later ∧ (moment program later).agenda = rest ∧
      firings (moment program later).reports = firings (moment program time).reports ++ called ∧
      (listeners callbacks).Sublist called := by
  induction callbacks generalizing time with
  | nil => exact ⟨time, [], Nat.le_refl _, pending, (List.append_nil _).symm, List.Sublist.refl _⟩
  | cons callback callbacks inductionHypothesis =>
      have stepped := step?_of_agenda pending
      obtain ⟨jobs, causes, fired⟩ := Machine.call_of_step? stepped pending
      -- What the callback causes is done before the next callback is called.
      obtain ⟨between, afterCall, reached⟩ := exists_done jobs causes
      obtain ⟨more, added⟩ := firings_prefix program afterCall
      obtain ⟨later, called, afterBetween, done, calledLater, inOrder⟩ :=
        inductionHypothesis reached
      have split : listeners (callback :: callbacks) =
          listeners [callback] ++ listeners callbacks :=
        List.filterMap_append (l := [callback])
      refine ⟨later, listeners [callback] ++ (more ++ called), by omega, done, ?_, ?_⟩
      · rw [calledLater, ← added, fired]
        simp only [List.append_assoc]
      · rw [split]
        exact (List.Sublist.refl _).append
          (inOrder.trans (List.sublist_append_right more called))

/-! ### Forwards: who is owed a call gets it -/

/-- A state on which something was registered is not new. -/
theorem lt_nextState_of_listens
    {made later key serial : Nat}
    {label : String}
    {reactions : List (Step ν)}
    (listens : (moment program made).Listens key serial label reactions)
    (ordered : made ≤ later) :
    key < (moment program later).world.nextState := by
  obtain ⟨name, token, rest, -, held, -⟩ := listens
  have linked := linked_moment program made
  obtain ⟨state, found⟩ := linked.live_of_stateOf? held
  exact Nat.lt_of_lt_of_le (linked.older key state found) (nextState_moment_le ordered)

/-- A listener stays pending while its registration is in force and its state lives and is not
cancelled. -/
theorem pends_of_awaits
    {made time key serial : Nat}
    {label : String}
    {reactions : List (Step ν)}
    (awaits : Awaits program time key serial label reactions made)
    (alive : (moment program time).world.Live key)
    (active : (moment program time).world.isCancelledState key = false) :
    (moment program time).world.Pends ((moment program made).world.nextPlace key)
      (.listener serial label reactions) := by
  obtain ⟨after, listens, activeThen, inForce⟩ := awaits
  induction after with
  | refl =>
      exact (Machine.pends_step (step?_of_listens listens) (linked_moment program made)).mpr
        (Or.inr ⟨listens, activeThen, rfl⟩)
  | @step jobs since inductionHypothesis =>
      have older := lt_nextState_of_listens listens (Nat.le_of_succ_le since)
      have aliveBefore := live_earlier (Nat.le_succ jobs) older alive
      have activeBefore : (moment program jobs).world.isCancelledState key = false := by
        cases cancelled : (moment program jobs).world.isCancelledState key with
        | false => rfl
        | true =>
            have still := isCancelledState_later (Nat.le_succ jobs) cancelled alive
            exact still.symm.trans active
      have before := inductionHypothesis aliveBefore activeBefore
        (inForce.earlier (Nat.le_succ jobs))
      rcases moment_succ program jobs with stepped | same
      · have linked := linked_moment program jobs
        refine (Machine.pends_step stepped linked).mpr (Or.inl ⟨before, ?_, ?_, alive⟩)
        · exact inForce jobs since (Nat.lt_succ_self jobs)
        · intro cancels
          have cancelled := cancels.isCancelledState stepped linked aliveBefore
          exact Bool.false_ne_true (active.symm.trans cancelled)
      · rwa [same]

/-- What becomes cancelled and is not new is cancelled by the job. -/
theorem BecomesCancelled.cancels
    {time key : Nat}
    (becomes : BecomesCancelled program time key)
    (older : key < (moment program time).world.nextState) :
    (moment program time).step? = some (moment program (time + 1)) ∧
      (moment program time).Cancels key ∧ (moment program time).world.Live key := by
  obtain ⟨active, cancelled⟩ := becomes
  rcases moment_succ program time with stepped | same
  · obtain ⟨⟨state, found⟩, -⟩ :=
      (linked_moment program (time + 1)).live_of_isCancelledState cancelled
    obtain ⟨old, inBefore, -, status⟩ :=
      Machine.keeps_of_lt stepped (linked_moment program time) older found
    rw [World.isCancelledState_of_get? found] at cancelled
    rw [World.isCancelledState_of_get? inBefore] at active
    refine ⟨stepped, (status.mp cancelled).resolve_left (by simp [active]), old, inBefore⟩
  · simp [same, active] at cancelled

/-- The callbacks of a state that becomes cancelled are all called, in their order. -/
theorem BecomesCancelled.called
    {time key : Nat}
    (becomes : BecomesCancelled program time key)
    (older : key < (moment program time).world.nextState) :
    ∃ job rest later called, (moment program time).agenda = job :: rest ∧ time < later ∧
      (moment program later).agenda = rest ∧
      firings (moment program later).reports = firings (moment program time).reports ++ called ∧
      (listeners ((moment program time).world.cancelState key).2).Sublist called := by
  obtain ⟨stepped, cancels, -⟩ := becomes.cancels older
  obtain ⟨job, closing, rest, before, after, -, -, sameReports⟩ := cancels.calls stepped
  obtain ⟨between, called, atLeast, reached, calledBetween, inOrder⟩ := exists_called _ after
  obtain ⟨later, afterBetween, done⟩ := exists_done closing reached
  obtain ⟨more, added⟩ := firings_prefix program afterBetween
  refine ⟨job, rest, later, called ++ more, before, by omega, done, ?_, ?_⟩
  · rw [← added, calledBetween, sameReports, List.append_assoc]
  · exact inOrder.trans (List.sublist_append_left called more)

/-- Who is owed a call is called. -/
theorem fired_of_owed
    {made key serial : Nat}
    {label : String}
    {reactions : List (Step ν)}
    (listens : (moment program made).Listens key serial label reactions)
    (owed : Owed program made key) :
    (serial, label) ∈ firings (reportsOf program) := by
  suffices fired : ∃ time, (serial, label) ∈ firings (moment program time).reports by
    obtain ⟨time, fired⟩ := fired
    exact (firings_prefix_reportsOf program time).subset fired
  by_cases status : (moment program made).world.isCancelledState key = true
  · obtain ⟨name, token, rest, pending, held, rfl⟩ := listens
    obtain ⟨-, calls⟩ :=
      Machine.onCancel_of_cancelled (step?_of_agenda pending) pending held status
    obtain ⟨later, called, -, -, fired, inOrder⟩ :=
      exists_called [.listener _ label reactions] calls
    exact ⟨later, fired ▸ List.mem_append_right _ (inOrder.subset List.mem_cons_self)⟩
  · rcases owed with cancelled | ⟨time, after, becomes, inForce⟩
    · exact absurd cancelled status
    · have older := lt_nextState_of_listens listens (Nat.le_of_lt after)
      obtain ⟨-, -, alive⟩ := becomes.cancels older
      have pends := pends_of_awaits ⟨after, listens, Bool.not_eq_true _ ▸ status, inForce⟩ alive
        becomes.1
      obtain ⟨state, found, present⟩ := pends
      obtain ⟨_, _, later, called, -, -, -, fired, inOrder⟩ := becomes.called older
      refine ⟨later, fired ▸ List.mem_append_right _ (inOrder.subset ?_)⟩
      exact List.mem_filterMap.mpr
        ⟨_, (linked_moment program time).mem_cancelState.mpr ⟨state, _, found, present⟩, rfl⟩

/-! ### Backwards: who is called was owed it -/

/-- What is pending was registered in its place, and its registration is in force. -/
theorem exists_awaits_of_pends
    {time : Nat}
    (place : Registration)
    {serial : Nat}
    {label : String}
    {reactions : List (Step ν)}
    (pends : (moment program time).world.Pends place (.listener serial label reactions)) :
    ∃ made, Awaits program time place.state serial label reactions made ∧
      place = (moment program made).world.nextPlace place.state := by
  induction time with
  | zero =>
      obtain ⟨state, found, -⟩ := pends
      cases found
  | succ jobs inductionHypothesis =>
      have ofBefore : (moment program jobs).world.Pends place (.listener serial label reactions) →
          (moment program jobs).voided? ≠ some place →
          ∃ made, Awaits program (jobs + 1) place.state serial label reactions made ∧
            place = (moment program made).world.nextPlace place.state := by
        intro before kept
        obtain ⟨made, ⟨after, listens, active, inForce⟩, isPlace⟩ := inductionHypothesis before
        refine ⟨made, ⟨Nat.lt_succ_of_lt after, listens, active, ?_⟩, isPlace⟩
        intro between sinceMade upTo
        rcases Nat.lt_succ_iff_lt_or_eq.mp upTo with earlier | rfl
        · exact inForce between sinceMade earlier
        · rwa [← isPlace]
      rcases moment_succ_or_idle program jobs with stepped | ⟨idle, same⟩
      · rcases (Machine.pends_step stepped (linked_moment program jobs)).mp pends with
          ⟨before, kept, -⟩ | ⟨listens, active, isPlace⟩
        · exact ofBefore before kept
        · refine ⟨jobs, ⟨Nat.lt_succ_self jobs, listens, active, ?_⟩, isPlace⟩
          intro between after before
          omega
      · rw [same] at pends
        exact ofBefore pends (by simp [Machine.voided?, idle])

/-- A state on which something is pending is not cancelled. -/
theorem isCancelledState_of_pends
    {time : Nat}
    {place : Registration}
    {callback : Callback ν}
    (pends : (moment program time).world.Pends place callback) :
    (moment program time).world.isCancelledState place.state = false := by
  obtain ⟨state, found, present⟩ := pends
  rw [World.isCancelledState_of_get? found]
  cases status : state.cancelled with
  | false => rfl
  | true =>
      have idle := ((linked_moment program time).ordered _ state found).idle status
      simp [idle] at present

/-- A listener that is to be called was registered and is owed the call. -/
theorem owed_of_called
    {time serial : Nat}
    {label : String}
    {reactions : List (Step ν)}
    (called : Job.call (.listener serial label reactions) ∈ (moment program time).agenda) :
    ∃ made key, (moment program made).Listens key serial label reactions ∧
      Owed program made key := by
  induction time with
  | zero => simp [moment, Machine.runFor] at called
  | succ jobs inductionHypothesis =>
      rcases moment_succ program jobs with stepped | same
      · have linked := linked_moment program jobs
        rcases Machine.listener_called_of_step? stepped linked called with
          before | ⟨place, cancels, pends⟩ | ⟨key, listens, cancelled⟩
        · exact inductionHypothesis before
        · obtain ⟨made, ⟨after, listens, -, inForce⟩, -⟩ := exists_awaits_of_pends place pends
          have becomes : BecomesCancelled program jobs place.state :=
            ⟨isCancelledState_of_pends pends,
              cancels.isCancelledState stepped linked pends.live⟩
          exact ⟨made, place.state, listens, Or.inr ⟨jobs, after, becomes, inForce⟩⟩
        · exact ⟨jobs, key, listens, Or.inl cancelled⟩
      · exact inductionHypothesis (same ▸ called)

/-- Who was called was registered and owed the call. -/
theorem owed_of_fired
    {time serial : Nat}
    {label : String}
    (fired : (serial, label) ∈ firings (moment program time).reports) :
    ∃ made key reactions, (moment program made).Listens key serial label reactions ∧
      Owed program made key := by
  induction time with
  | zero => simp [moment, Machine.runFor, firings] at fired
  | succ jobs inductionHypothesis =>
      rcases moment_succ program jobs with stepped | same
      · rcases Machine.fired_of_step? stepped fired with before | ⟨reactions, rest, pending⟩
        · exact inductionHypothesis before
        · obtain ⟨made, key, listens, owed⟩ :=
            owed_of_called (pending ▸ List.mem_cons_self)
          exact ⟨made, key, reactions, listens, owed⟩
      · exact inductionHypothesis (same ▸ fired)

/-- Whoever is called in a program was registered and owed the call. -/
theorem owed_of_fired_reportsOf
    {serial : Nat}
    {label : String}
    (fired : (serial, label) ∈ firings (reportsOf program)) :
    ∃ made key reactions, (moment program made).Listens key serial label reactions ∧
      Owed program made key := by
  obtain ⟨last, -, whole⟩ := exists_last program
  exact owed_of_fired (whole ▸ fired)

/-- A listener that is not owed a call is never called. -/
theorem not_fired_of_not_owed
    {made key serial : Nat}
    {label : String}
    {reactions : List (Step ν)}
    (listens : (moment program made).Listens key serial label reactions)
    (notOwed : ¬ Owed program made key) :
    serial ∉ (firings (reportsOf program)).map Prod.fst := by
  intro called
  obtain ⟨⟨_, otherLabel⟩, fired, rfl⟩ := List.mem_map.mp called
  obtain ⟨other, otherKey, otherReactions, otherListens, owed⟩ := owed_of_fired_reportsOf fired
  obtain ⟨rfl, rfl, -⟩ := listens.unique otherListens
  exact notOwed owed

/-! ### The listeners of a state in the order of registration -/

/-- On one state, what was registered later has a later place. -/
theorem serial_lt_of_entry_lt
    {time key : Nat}
    {firstEntry secondEntry firstSerial secondSerial : Nat}
    {firstLabel secondLabel : String}
    {firstReactions secondReactions : List (Step ν)}
    (firstPends :
      (moment program time).world.Pends ⟨key, firstEntry⟩
        (.listener firstSerial firstLabel firstReactions))
    (secondPends :
      (moment program time).world.Pends ⟨key, secondEntry⟩
        (.listener secondSerial secondLabel secondReactions))
    (less : firstEntry < secondEntry) :
    firstSerial < secondSerial := by
  obtain ⟨first, ⟨firstBefore, firstListens, firstActive, -⟩, firstPlace⟩ :=
    exists_awaits_of_pends _ firstPends
  obtain ⟨second, ⟨-, secondListens, secondActive, secondForce⟩, secondPlace⟩ :=
    exists_awaits_of_pends _ secondPends
  refine (serial_lt_iff firstListens secondListens).mpr ?_
  rcases Nat.lt_trichotomy first second with before | same | after
  · exact before
  · rw [← same, ← firstPlace] at secondPlace
    cases secondPlace
    exact absurd less (Nat.lt_irrefl _)
  · -- When the first was registered the second was pending, in a place that was given before.
    have awaits : Awaits program first key secondSerial secondLabel secondReactions second :=
      ⟨after, secondListens, secondActive, secondForce.earlier (Nat.le_of_lt firstBefore)⟩
    obtain ⟨name, token, rest, -, held, -⟩ := firstListens
    have linked := linked_moment program first
    have alive := linked.live_of_stateOf? held
    obtain ⟨state, found, present⟩ := pends_of_awaits awaits alive firstActive
    rw [← secondPlace] at found present
    have below := (linked.ordered key state found).below _ present
    have isNext : firstEntry = state.nextEntry := by
      have := congrArg Registration.entry firstPlace
      simpa [World.nextPlace, found] using this
    exact absurd less (Nat.not_lt.mpr (Nat.le_of_lt (isNext ▸ below)))

/-- The listeners among the callbacks of a pending state are in the order of their numbers. -/
theorem listeners_increasing
    {time key : Nat}
    {state : State ν}
    (found : (moment program time).world.states.get? key = some state) :
    ((listeners (state.callbacks.map Prod.snd)).map Prod.fst).Pairwise (· < ·) := by
  have increasing := ((linked_moment program time).ordered key state found).increasing
  rw [List.pairwise_map] at increasing
  unfold listeners
  rw [List.pairwise_map, List.pairwise_filterMap, List.pairwise_map]
  refine increasing.imp_of_mem ?_
  rintro ⟨firstEntry, first⟩ ⟨secondEntry, second⟩ firstPresent secondPresent less
  rintro _ isFirst _ isSecond
  cases first with
  | link child => cases isFirst
  | listener firstSerial firstLabel firstReactions =>
      cases second with
      | link child => cases isSecond
      | listener secondSerial secondLabel secondReactions =>
          cases isFirst
          cases isSecond
          exact serial_lt_of_entry_lt ⟨state, found, firstPresent⟩ ⟨state, found, secondPresent⟩
            less

/-- The listeners to be called when a state is cancelled are those that await it. -/
theorem mem_listeners_iff
    {time key : Nat}
    (alive : (moment program time).world.Live key)
    (active : (moment program time).world.isCancelledState key = false)
    (serial : Nat)
    (label : String) :
    (serial, label) ∈ listeners ((moment program time).world.cancelState key).2 ↔
      ∃ made reactions, Awaits program time key serial label reactions made := by
  constructor
  · intro isListener
    obtain ⟨callback, present, isCallback⟩ := List.mem_filterMap.mp isListener
    obtain ⟨state, entry, found, pending⟩ :=
      (linked_moment program time).mem_cancelState.mp present
    cases callback with
    | link child => cases isCallback
    | listener serial label reactions =>
        cases isCallback
        obtain ⟨made, awaits, -⟩ := exists_awaits_of_pends ⟨key, entry⟩ ⟨state, found, pending⟩
        exact ⟨made, reactions, awaits⟩
  · rintro ⟨made, reactions, awaits⟩
    obtain ⟨state, found, present⟩ := pends_of_awaits awaits alive active
    exact List.mem_filterMap.mpr
      ⟨_, (linked_moment program time).mem_cancelState.mpr ⟨state, _, found, present⟩, rfl⟩

/-- When a state becomes cancelled, the listeners that await it are called in the order of their
registration, with all that they cause, before anything else that is left to do. -/
theorem called_in_order
    {time key : Nat}
    (becomes : BecomesCancelled program time key) :
    ∃ awaiting : List (Nat × String),
      (∀ serial label, (serial, label) ∈ awaiting ↔
        ∃ made reactions, Awaits program time key serial label reactions made) ∧
      (awaiting.map Prod.fst).Pairwise (· < ·) ∧
      ∃ job rest later called, (moment program time).agenda = job :: rest ∧ time < later ∧
        (moment program later).agenda = rest ∧
        firings (moment program later).reports =
          firings (moment program time).reports ++ called ∧
        awaiting.Sublist called := by
  by_cases older : key < (moment program time).world.nextState
  · obtain ⟨-, -, alive⟩ := becomes.cancels older
    obtain ⟨state, found⟩ := alive
    refine ⟨_, mem_listeners_iff ⟨state, found⟩ becomes.1, ?_, becomes.called older⟩
    have active := becomes.1
    rw [World.isCancelledState_of_get? found] at active
    have callbacks :
        ((moment program time).world.cancelState key).2 = state.callbacks.map Prod.snd := by
      simp [World.cancelState, found, active]
    rw [callbacks]
    exact listeners_increasing found
  · -- A state that is cancelled when it is made has never had a token to register on.
    refine ⟨[], fun serial label => ⟨fun never => (List.not_mem_nil never).elim, ?_⟩,
      List.Pairwise.nil, ?_⟩
    · rintro ⟨made, reactions, after, listens, -⟩
      exact absurd (lt_nextState_of_listens listens (Nat.le_of_lt after)) older
    · have stepped : ∃ job rest, (moment program time).agenda = job :: rest := by
        rcases moment_succ_or_idle program time with stepped | ⟨-, same⟩
        · obtain ⟨job, front, rest, before, -⟩ := Machine.exists_replaces stepped
          exact ⟨job, rest, before⟩
        · have cancelled := becomes.2
          rw [same, becomes.1] at cancelled
          cases cancelled
      obtain ⟨job, rest, pending⟩ := stepped
      obtain ⟨later, ordered, done⟩ := exists_done [job] pending
      obtain ⟨called, added⟩ := firings_prefix program ordered
      refine ⟨job, rest, later, called, pending, ?_, done, added.symm, List.nil_sublist _⟩
      refine Nat.lt_of_le_of_ne ordered fun same => ?_
      rw [← same, pending] at done
      exact List.cons_ne_self job rest done

/-- A state that was cancelled has nothing more to call, dead or alive. -/
theorem WasCancelled.spent
    {time key : Nat}
    (was : WasCancelled program time key) :
    (moment program time).world.cancelState key = ((moment program time).world, []) := by
  obtain ⟨earlier, before, cancelled⟩ := was
  unfold World.cancelState
  cases found : (moment program time).world.states.get? key with
  | none => rfl
  | some state =>
      have still := isCancelledState_later before cancelled ⟨state, found⟩
      rw [World.isCancelledState_of_get? found] at still
      simp [still]

/-- The calls of listeners in a program. -/
structure ExactCalls
    (program : List (Step ν)) :
    Prop where
  /-- Listeners are numbered in the order of their registration. -/
  numbered :
    ∀ first second firstKey secondKey firstSerial secondSerial firstLabel secondLabel
      firstReactions secondReactions,
      (moment program first).Listens firstKey firstSerial firstLabel firstReactions →
      (moment program second).Listens secondKey secondSerial secondLabel secondReactions →
      (firstSerial < secondSerial ↔ first < second)
  /-- What was called at some moment was called when the program is over. -/
  final : ∀ time, firings (moment program time).reports <+: firings (reportsOf program)
  /-- No listener is called twice. -/
  once : ((firings (reportsOf program)).map Prod.fst).Nodup
  /-- A listener that is owed a call is called exactly once. -/
  called :
    ∀ made key serial label reactions,
      (moment program made).Listens key serial label reactions → Owed program made key →
      (firings (reportsOf program)).count (serial, label) = 1 ∧
        ((firings (reportsOf program)).map Prod.fst).count serial = 1
  /-- A listener that is not owed a call is never called. -/
  silent :
    ∀ made key serial label reactions,
      (moment program made).Listens key serial label reactions → ¬ Owed program made key →
      serial ∉ (firings (reportsOf program)).map Prod.fst
  /-- Nothing else is called than what was registered on a token with a state. -/
  registered :
    ∀ serial label, (serial, label) ∈ firings (reportsOf program) →
      ∃ made key reactions, (moment program made).Listens key serial label reactions ∧
        Owed program made key
  /-- On a token without a state nothing is registered or called. -/
  detached :
    ∀ time name token label reactions rest,
      (moment program time).agenda = .perform (.onCancel name token label reactions) :: rest →
      (moment program time).world.stateOf? token = none →
      moment program (time + 1) =
        { moment program time with
          agenda :=
            .assign name none ::
              .report (.onCancel name token label reactions) (.flag true) :: rest }
  /-- On a pending state the name gets the place in which the listener is registered. -/
  given :
    ∀ time name token label reactions rest key,
      (moment program time).agenda = .perform (.onCancel name token label reactions) :: rest →
      (moment program time).world.stateOf? token = some key →
      (moment program time).world.isCancelledState key = false →
      (moment program (time + 1)).agenda =
        .assign name (some ((moment program time).world.nextPlace key)) ::
          .report (.onCancel name token label reactions) (.flag true) :: rest
  /-- On a cancelled state the listener is called at once: before its reactions are performed, and
  before the registration is over. -/
  immediate :
    ∀ time name token label reactions rest key,
      (moment program time).agenda = .perform (.onCancel name token label reactions) :: rest →
      (moment program time).world.stateOf? token = some key →
      (moment program time).world.isCancelledState key = true →
      (moment program (time + 2)).reports =
          (moment program time).reports ++
            [.fired (moment program time).world.nextSerial label] ∧
        (moment program (time + 2)).agenda =
          reactions.map .perform ++ .assign name none ::
            .report (.onCancel name token label reactions) (.flag true) :: rest
  /-- When a state becomes cancelled, all listeners that await it are called, in the order of their
  registration, before anything else that is left to do. -/
  inOrder :
    ∀ time key, BecomesCancelled program time key →
      ∃ awaiting : List (Nat × String),
        (∀ serial label, (serial, label) ∈ awaiting ↔
          ∃ made reactions, Awaits program time key serial label reactions made) ∧
        (awaiting.map Prod.fst).Pairwise (· < ·) ∧
        ∃ job rest later called, (moment program time).agenda = job :: rest ∧ time < later ∧
          (moment program later).agenda = rest ∧
          firings (moment program later).reports =
            firings (moment program time).reports ++ called ∧
          awaiting.Sublist called
  /-- `cancel` on a source whose state was cancelled before calls nothing and changes nothing, and
  neither does the call of a link of such a state. -/
  again :
    ∀ time key, WasCancelled program time key →
      (∀ source rest, (moment program time).agenda = .perform (.cancel source) :: rest →
        (moment program time).world.sources.get? source = some key →
        moment program (time + 1) =
          { moment program time with
            agenda := .report (.cancel source) (.flag true) :: rest }) ∧
      ∀ rest, (moment program time).agenda = .call (.link key) :: rest →
        moment program (time + 1) = { moment program time with agenda := rest }
  /-- It does not matter if the registration is voided after the state became cancelled. -/
  late :
    ∀ made key serial label reactions time later,
      (moment program made).Listens key serial label reactions → made < time →
      BecomesCancelled program time key → InForce program made key time → time < later →
      (moment program later).voided? = some ((moment program made).world.nextPlace key) →
      ((firings (reportsOf program)).map Prod.fst).count serial = 1

/-- In every program, whatever the callbacks do, a listener is called exactly once if its state was
cancelled when it was registered or becomes cancelled while its registration is in force, and never
otherwise. -/
theorem listeners_called_exactly
    (program : List (Step ν)) :
    ExactCalls program := by
  refine
    { numbered := ?_, final := firings_prefix_reportsOf program,
      once := nodup_firings_reportsOf program, called := ?_, silent := ?_, registered := ?_,
      detached := ?_, given := ?_, immediate := ?_,
      inOrder := fun time key becomes => called_in_order becomes, again := ?_, late := ?_ }
  · intro _ _ _ _ _ _ _ _ _ _ firstListens secondListens
    exact serial_lt_iff firstListens secondListens
  · intro made key serial label reactions listens owed
    exact count_of_fired (fired_of_owed listens owed)
  · intro made key serial label reactions listens notOwed
    exact not_fired_of_not_owed listens notOwed
  · intro serial label fired
    exact owed_of_fired_reportsOf fired
  · intro time name token label reactions rest pending detached
    exact Machine.onCancel_of_detached (step?_of_agenda pending) pending detached
  · intro time name token label reactions rest key pending held active
    exact Machine.onCancel_of_pending (step?_of_agenda pending) (linked_moment program time)
      pending held active
  · intro time name token label reactions rest key pending held cancelled
    obtain ⟨sameReports, calls⟩ :=
      Machine.onCancel_of_cancelled (step?_of_agenda pending) pending held cancelled
    obtain ⟨fired, reacts⟩ := Machine.call_listener_of_step? (step?_of_agenda calls) calls
    exact ⟨fired.trans (by rw [sameReports]), reacts⟩
  · intro time key was
    constructor
    · intro source rest pending held
      exact Machine.cancel_of_spent (step?_of_agenda pending) pending held was.spent
    · intro rest pending
      exact Machine.call_link_of_spent (step?_of_agenda pending) pending was.spent
  · intro made key serial label reactions time later listens after becomes inForce _ _
    exact (count_of_fired (fired_of_owed listens (Or.inr ⟨time, after, becomes, inForce⟩))).2

/-- While the source is being cancelled, the first listener cancels it again, resets the second one
and registers another; the third was moved and overwritten before. -/
example :
    firings
        (reportsOf
          ([.source 0, .token 0 0,
            .onCancel 0 0 "first" [.cancel 0, .reset 1, .onCancel 3 0 "late" []],
            .onCancel 1 0 "second" [], .onCancel 2 0 "third" [], .move 2 4, .detached 5,
            .onCancel 4 5 "empty" [], .cancel 0] : List (Step Nat))) =
      [(0, "first"), (3, "late"), (1, "second")] := by
  decide +kernel

end Moments

end Cancellation

end Cadence
