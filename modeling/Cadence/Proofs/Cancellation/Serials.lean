import Cadence.Proofs.Cancellation.Pending

namespace Cadence

namespace Cancellation

/-!
# Serial numbers of listeners

Every listener has a number of its own.  It is pending, or to be called, or was called,
but only one of these and only once: a job may move it on or drop it, and only the
registration with its number brings it in.
-/

variable {ν : Type}

/-- The listener whose call is reported. -/
def Report.firing? :
    Report ν → Option (Nat × String)
  | .fired serial label => some (serial, label)
  | .did _ _ _ => none

/-- The listeners that were called, with their labels, in the order of the calls. -/
def firings
    (reports : List (Report ν)) :
    List (Nat × String) :=
  reports.filterMap Report.firing?

@[simp] theorem firings_append
    (earlier later : List (Report ν)) :
    firings (earlier ++ later) = firings earlier ++ firings later :=
  List.filterMap_append

@[simp] theorem firings_fired
    (serial : Nat)
    (label : String) :
    firings [(Report.fired serial label : Report ν)] = [(serial, label)] :=
  rfl

@[simp] theorem firings_did
    (step : Step ν)
    (answer : Answer)
    (cancelled : List ν) :
    firings [Report.did step answer cancelled] = [] :=
  rfl

namespace World

/-! ### Only registrations give numbers -/

@[simp] theorem nextSerial_unregister
    (world : World ν)
    (place : Registration) :
    (world.unregister place).nextSerial = world.nextSerial := by
  unfold unregister
  split <;> rfl

@[simp] theorem nextSerial_unregister?
    (world : World ν)
    (place : Option Registration) :
    (world.unregister? place).nextSerial = world.nextSerial := by
  cases place with
  | none => rfl
  | some place => exact world.nextSerial_unregister place

@[simp] theorem nextSerial_release?
    (world : World ν)
    (key : Option Nat) :
    (world.release? key).nextSerial = world.nextSerial := by
  cases key with
  | none => rfl
  | some key =>
      rcases world.release_cases key with same | ⟨dying, -, -, dies⟩
      · exact congrArg World.nextSerial same
      · exact (congrArg World.nextSerial dies).trans ((world.bury key).nextSerial_unregister? _)

@[simp] theorem nextSerial_cancelState
    (world : World ν)
    (key : Nat) :
    (world.cancelState key).1.nextSerial = world.nextSerial := by
  unfold cancelState
  split
  · rfl
  · split <;> rfl

@[simp] theorem nextSerial_register
    (world : World ν)
    (key : Nat)
    (callback : Callback ν) :
    (world.register key callback).1.nextSerial = world.nextSerial := by
  unfold register
  split <;> rfl

variable [DecidableEq ν]

@[simp] theorem nextSerial_setRegistration
    (world : World ν)
    (name : ν)
    (place : Option Registration) :
    (world.setRegistration name place).nextSerial = world.nextSerial :=
  nextSerial_unregister? _ _

@[simp] theorem nextSerial_setSource
    (world : World ν)
    (name : ν)
    (key : Nat) :
    (world.setSource name key).nextSerial = world.nextSerial :=
  nextSerial_release? _ _

theorem nextSerial_addLinked
    (world : World ν)
    (name token : ν) :
    (world.addLinked name token).nextSerial = world.nextSerial := by
  cases held : world.stateOf? token with
  | none =>
      rw [addLinked_of_detached held]
      exact nextSerial_setSource _ _ _
  | some parent =>
      cases cancelled : world.isCancelledState parent with
      | true =>
          rw [addLinked_of_cancelled held cancelled]
          exact nextSerial_setSource _ _ _
      | false =>
          rw [addLinked_of_pending held cancelled]
          exact (nextSerial_setSource _ _ _).trans (world.nextSerial_register parent _)

/-- Only a registration on a token with a state takes a number. -/
theorem nextSerial_perform
    (world : World ν)
    (step : Step ν) :
    (world.perform step).1.nextSerial = world.nextSerial ∨
      (world.perform step).1.nextSerial = world.nextSerial + 1 ∧
        ∃ name token label reactions key,
          step = .onCancel name token label reactions ∧ world.stateOf? token = some key := by
  cases step with
  | onCancel name token label reactions =>
      cases held : world.stateOf? token with
      | none => exact Or.inl (by simp [perform, held])
      | some key =>
          refine Or.inr ⟨?_, name, token, label, reactions, key, rfl, held⟩
          simp only [perform, held]
          split <;> simp
  | source name => exact Or.inl (nextSerial_setSource _ _ _)
  | linked name token => exact Or.inl (world.nextSerial_addLinked name token)
  | token name source => exact Or.inl (nextSerial_release? _ _)
  | detached name => exact Or.inl (nextSerial_release? _ _)
  | cancel source =>
      simp only [perform]
      split
      · exact Or.inl rfl
      · exact Or.inl (nextSerial_cancelState _ _)
  | reset name => exact Or.inl (nextSerial_setRegistration _ _ _)
  | move origin target =>
      simp only [perform, moveRegistration]
      split
      · exact Or.inl rfl
      · exact Or.inl (nextSerial_setRegistration _ _ _)
  | dropSource name => exact Or.inl (nextSerial_release? _ _)
  | dropToken name => exact Or.inl (nextSerial_release? _ _)
  | dropRegistration name => exact Or.inl (nextSerial_unregister? _ _)
  | inspect token => exact Or.inl rfl
  | waitFor token => exact Or.inl rfl
  | wait token => exact Or.inl rfl

end World

namespace Machine

variable [DecidableEq ν] {machine next : Machine ν}

/-- A job gives no number, or it is a registration and gives the next one. -/
theorem nextSerial_of_step?
    (stepped : machine.step? = some next) :
    next.world.nextSerial = machine.world.nextSerial ∨
      next.world.nextSerial = machine.world.nextSerial + 1 ∧
        ∃ key label reactions, machine.Listens key machine.world.nextSerial label reactions := by
  obtain ⟨world, agenda, reports⟩ := machine
  cases agenda with
  | nil => cases stepped
  | cons job rest =>
      cases job with
      | perform step =>
          cases stepped
          refine (world.nextSerial_perform step).imp_right ?_
          rintro ⟨given, name, token, label, reactions, key, rfl, held⟩
          exact ⟨given, key, label, reactions, name, token, rest, rfl, held, rfl⟩
      | call callback =>
          cases callback with
          | link child =>
              cases stepped
              exact Or.inl (world.nextSerial_cancelState child)
          | listener serial label reactions =>
              cases stepped
              exact Or.inl rfl
      | assign name place =>
          cases stepped
          exact Or.inl (world.nextSerial_setRegistration name place)
      | report step answer =>
          cases stepped
          exact Or.inl rfl

theorem nextSerial_le_of_step?
    (stepped : machine.step? = some next) :
    machine.world.nextSerial ≤ next.world.nextSerial := by
  rcases nextSerial_of_step? stepped with same | ⟨given, -⟩
  · exact Nat.le_of_eq same.symm
  · exact given ▸ Nat.le_succ _

/-- A registration takes the number of its listener. -/
theorem Listens.nextSerial
    {key serial : Nat}
    {label : String}
    {reactions : List (Step ν)}
    (listens : machine.Listens key serial label reactions)
    (stepped : machine.step? = some next) :
    next.world.nextSerial = serial + 1 := by
  obtain ⟨world, agenda, reports⟩ := machine
  obtain ⟨name, token, rest, rfl, held, rfl⟩ := listens
  simp only [step?, World.perform, held, Option.some.injEq] at stepped
  subst stepped
  split <;> simp

end Machine

/-! ### One copy of every listener -/

/-- Whether a callback is the listener with a number, as a weight. -/
def Callback.hasSerial
    (serial : Nat) :
    Callback ν → Nat
  | .link _ => 0
  | .listener other _ _ => if other = serial then 1 else 0

namespace Machine

/-- How often a listener is pending, to be called or was called. -/
def copies
    (machine : Machine ν)
    (serial : Nat) :
    Nat :=
  ((firings machine.reports).map Prod.fst).count serial +
    calls (Callback.hasSerial serial) machine.agenda +
    machine.world.load (Callback.hasSerial serial)

/-- No listener has two copies, and a number that was not given has none. -/
def Single
    (machine : Machine ν) :
    Prop :=
  ∀ serial, machine.copies serial ≤ 1 ∧
    (machine.world.nextSerial ≤ serial → machine.copies serial = 0)

/-- A program on the agenda has called, and is to call, no listener. -/
theorem Single.initial
    (program : List (Step ν)) :
    Single { agenda := program.map .perform : Machine ν } := by
  intro serial
  have none : copies { agenda := program.map .perform : Machine ν } serial = 0 := by
    rw [copies, calls_steps]
    rfl
  exact ⟨none ▸ Nat.zero_le 1, fun _ => none⟩

theorem Single.nodup_firings
    {machine : Machine ν}
    (single : machine.Single) :
    ((firings machine.reports).map Prod.fst).Nodup := by
  refine List.nodup_iff_count_le_one.mpr fun serial => ?_
  have atMost := (single serial).1
  unfold copies at atMost
  omega

variable [DecidableEq ν] {machine next : Machine ν}

/-- A job makes no copy of a listener, unless it is the registration with the listener's number. -/
theorem copies_of_step?
    (stepped : machine.step? = some next)
    (serial : Nat) :
    next.copies serial ≤ machine.copies serial ∨
      next.copies serial ≤ machine.copies serial + 1 ∧ machine.world.nextSerial = serial ∧
        next.world.nextSerial = serial + 1 := by
  obtain ⟨world, agenda, reports⟩ := machine
  cases agenda with
  | nil => cases stepped
  | cons job rest =>
      cases job with
      | perform step =>
          simp only [step?, Option.some.injEq] at stepped
          subst stepped
          have moved := world.load_perform_le (Callback.hasSerial serial) step
          have brought :
              world.brings (Callback.hasSerial serial) step = 0 ∨
                world.brings (Callback.hasSerial serial) step = 1 ∧
                  world.nextSerial = serial ∧ (world.perform step).1.nextSerial = serial + 1 := by
            cases step with
            | onCancel name token label reactions =>
                cases held : world.stateOf? token with
                | none => simp [World.brings, held]
                | some key =>
                    by_cases same : world.nextSerial = serial
                    · right
                      refine ⟨by simp [World.brings, held, Callback.hasSerial, same], same, ?_⟩
                      simp only [World.perform, held]
                      split <;> simp [same]
                    · left
                      simp [World.brings, held, Callback.hasSerial, same]
            | _ => simp [World.brings, Callback.hasSerial]
          simp only [copies, calls_append, calls_cons, Job.calls, Nat.zero_add]
          rcases brought with nothing | ⟨one, isNext, given⟩
          · left
            omega
          · right
            exact ⟨by omega, isNext, given⟩
      | call callback =>
          left
          cases callback with
          | link child =>
              have moved := world.load_cancelState (Callback.hasSerial serial) child
              simp only [step?, Option.some.injEq] at stepped
              subst stepped
              simp only [copies, calls_append, calls_callbacks, calls_cons, Job.calls,
                Callback.hasSerial]
              omega
          | listener other label reactions =>
              cases stepped
              simp [copies, Job.calls, Callback.hasSerial, List.count_cons]
              omega
      | assign name place =>
          have moved := world.load_setRegistration_le (Callback.hasSerial serial) name place
          cases stepped
          simp only [copies, calls_cons, Job.calls]
          omega
      | report step answer =>
          left
          cases stepped
          simp [copies, Job.calls]

theorem Single.step
    (stepped : machine.step? = some next)
    (single : machine.Single) :
    next.Single := by
  intro serial
  obtain ⟨atMost, unused⟩ := single serial
  have later := nextSerial_le_of_step? stepped
  rcases copies_of_step? stepped serial with fewer | ⟨oneMore, isNext, given⟩
  · refine ⟨Nat.le_trans fewer atMost, fun free => ?_⟩
    have none := unused (Nat.le_trans later free)
    exact Nat.le_zero.mp (none ▸ fewer)
  · have none := unused (Nat.le_of_eq isNext)
    refine ⟨by omega, fun free => ?_⟩
    omega

end Machine

end Cancellation

end Cadence
