import Cadence.Cancellation.Machine
import Cadence.Proofs.Table

namespace Cadence

/-!
# Cancellation programs end

Every job makes a machine lighter: a callback that is called is no longer
pending, and a step weighs more than all that it registers and puts on the
agenda.  Hence a machine that was run has nothing left to do.

How the callbacks move from the world to the agenda does not depend on what they
weigh, so the bounds are stated for any weights of callbacks: the *load* of a world
and the *calls* among jobs.
-/

namespace Cancellation

variable {ν : Type}

/-- What the callbacks pending on a state weigh. -/
def State.load
    (weigh : Callback ν → Nat)
    (state : State ν) :
    Nat :=
  sumOf (state.callbacks.map fun entry => weigh entry.2)

/-- What the callbacks pending in a world weigh. -/
def World.load
    (weigh : Callback ν → Nat)
    (world : World ν) :
    Nat :=
  world.states.total (State.load weigh)

/-- What a job weighs as a call of a callback. -/
def Job.calls
    (weigh : Callback ν → Nat) :
    Job ν → Nat
  | .call callback => weigh callback
  | _ => 0

/-- What the calls among jobs weigh. -/
def calls
    (weigh : Callback ν → Nat)
    (jobs : List (Job ν)) :
    Nat :=
  sumOf (jobs.map (Job.calls weigh))

section Calls

variable {weigh : Callback ν → Nat}

@[simp] theorem calls_nil :
    calls weigh ([] : List (Job ν)) = 0 :=
  rfl

@[simp] theorem calls_cons
    (job : Job ν)
    (jobs : List (Job ν)) :
    calls weigh (job :: jobs) = job.calls weigh + calls weigh jobs :=
  rfl

@[simp] theorem calls_append
    (front back : List (Job ν)) :
    calls weigh (front ++ back) = calls weigh front + calls weigh back := by
  simp [calls]

@[simp] theorem calls_callbacks
    (callbacks : List (Callback ν)) :
    calls weigh (callbacks.map .call) = sumOf (callbacks.map weigh) := by
  simp only [calls, List.map_map]
  rfl

@[simp] theorem calls_steps
    (steps : List (Step ν)) :
    calls weigh (steps.map .perform) = 0 := by
  induction steps with
  | nil => rfl
  | cons step steps inductionHypothesis => simpa [Job.calls] using inductionHypothesis

end Calls

namespace World

/-- A world weighs what its states weigh. -/
theorem weight_eq_load
    (world : World ν) :
    world.weight = world.load Callback.weight :=
  rfl

section Load

variable (weigh : Callback ν → Nat)

theorem load_unregister_le
    (world : World ν)
    (registration : Registration) :
    (world.unregister registration).load weigh ≤ world.load weigh := by
  unfold unregister
  cases found : world.states.get? registration.state with
  | none => exact Nat.le_refl _
  | some state =>
      have without := Table.total_erase_add_le found (State.load weigh)
      have lighter :
          State.load weigh
              { state with
                callbacks := state.callbacks.filter fun entry =>
                  entry.1 ≠ registration.entry } ≤
            state.load weigh :=
        Table.sumOf_filter_le state.callbacks _ weigh
      simp only [load, Table.total_insert]
      omega

theorem load_unregister?_le
    (world : World ν)
    (registration : Option Registration) :
    (world.unregister? registration).load weigh ≤ world.load weigh := by
  cases registration with
  | none => exact Nat.le_refl _
  | some registration => exact world.load_unregister_le weigh registration

theorem load_release_le
    (world : World ν)
    (state : Nat) :
    (world.release state).load weigh ≤ world.load weigh := by
  unfold release
  split
  · exact Nat.le_refl _
  · split
    · exact Nat.le_refl _
    · exact Nat.le_trans (load_unregister?_le _ _ _) (Table.total_erase_le _ _ _)

theorem load_release?_le
    (world : World ν)
    (state : Option Nat) :
    (world.release? state).load weigh ≤ world.load weigh := by
  cases state with
  | none => exact Nat.le_refl _
  | some state => exact world.load_release_le weigh state

/-- What is called when a state becomes cancelled is no longer pending. -/
theorem load_cancelState
    (world : World ν)
    (state : Nat) :
    (world.cancelState state).1.load weigh + sumOf ((world.cancelState state).2.map weigh) ≤
      world.load weigh := by
  unfold cancelState
  cases found : world.states.get? state with
  | none => simp
  | some target =>
      cases cancelled : target.cancelled with
      | true => simp [cancelled]
      | false =>
          have without := Table.total_erase_add_le found (State.load weigh)
          have nothing :
              State.load weigh { target with cancelled := true, callbacks := [] } = 0 := rfl
          have pending :
              sumOf ((target.callbacks.map Prod.snd).map weigh) = target.load weigh := by
            simp [State.load, Function.comp_def]
          simp only [cancelled, Bool.false_eq_true, ↓reduceIte, load, Table.total_insert, nothing,
            pending]
          omega

theorem load_register_le
    (world : World ν)
    (state : Nat)
    (callback : Callback ν) :
    (world.register state callback).1.load weigh ≤ world.load weigh + weigh callback := by
  unfold register
  cases found : world.states.get? state with
  | none => exact Nat.le_add_right _ _
  | some target =>
      have without := Table.total_erase_add_le found (State.load weigh)
      have heavier :
          State.load weigh
              { target with
                callbacks := target.callbacks ++ [(target.nextEntry, callback)]
                nextEntry := target.nextEntry + 1 } =
            target.load weigh + weigh callback := by
        simp [State.load]
      simp only [load, Table.total_insert, heavier]
      omega

/-- A state without callbacks adds nothing. -/
theorem load_insert_le
    (states : Table Nat (State ν))
    (key : Nat)
    (state : State ν)
    (idle : state.callbacks = []) :
    (states.insert key state).total (State.load weigh) ≤ states.total (State.load weigh) := by
  have nothing : state.load weigh = 0 := by simp [State.load, idle]
  rw [Table.total_insert, nothing]
  exact states.total_erase_le key (State.load weigh)

end Load

variable [DecidableEq ν]

/-- A source linked to a token without a state is like any new source. -/
theorem addLinked_of_detached
    {world : World ν}
    {token : ν}
    (detached : world.stateOf? token = none)
    (name : ν) :
    world.addLinked name token = world.addSource name := by
  simp only [addLinked, detached]

/-- A state linked to a cancelled one is cancelled from the start. -/
theorem addLinked_of_cancelled
    {world : World ν}
    {token : ν}
    {parent : Nat}
    (held : world.stateOf? token = some parent)
    (cancelled : world.isCancelledState parent = true)
    (name : ν) :
    world.addLinked name token =
      { world with
        states := world.states.insert world.nextState
          { cancelled := true, parent := some parent }
        nextState := world.nextState + 1 }.setSource name world.nextState := by
  simp only [addLinked, held, cancelled, ↓reduceIte]

/-- A state linked to a pending one is called when that is cancelled. -/
theorem addLinked_of_pending
    {world : World ν}
    {token : ν}
    {parent : Nat}
    (held : world.stateOf? token = some parent)
    (pending : world.isCancelledState parent = false)
    (name : ν) :
    world.addLinked name token =
      { (world.register parent (.link world.nextState)).1 with
        states := (world.register parent (.link world.nextState)).1.states.insert world.nextState
          { parent := some parent, link := (world.register parent (.link world.nextState)).2 }
        nextState := world.nextState + 1 }.setSource name world.nextState := by
  simp only [addLinked, held, pending, Bool.false_eq_true, ↓reduceIte]

section Load

variable (weigh : Callback ν → Nat)

theorem load_setSource_le
    (world : World ν)
    (name : ν)
    (state : Nat) :
    (world.setSource name state).load weigh ≤ world.load weigh :=
  load_release?_le weigh _ _

theorem load_setToken_le
    (world : World ν)
    (name : ν)
    (state : Option Nat) :
    (world.setToken name state).load weigh ≤ world.load weigh :=
  load_release?_le weigh _ _

theorem load_setRegistration_le
    (world : World ν)
    (name : ν)
    (registration : Option Registration) :
    (world.setRegistration name registration).load weigh ≤ world.load weigh :=
  load_unregister?_le weigh _ _

theorem load_addSource_le
    (world : World ν)
    (name : ν) :
    (world.addSource name).load weigh ≤ world.load weigh :=
  Nat.le_trans (load_setSource_le weigh _ _ _) (load_insert_le weigh _ _ _ rfl)

theorem load_addLinked_le
    (world : World ν)
    (name token : ν) :
    (world.addLinked name token).load weigh ≤ world.load weigh + weigh (.link world.nextState) := by
  cases held : world.stateOf? token with
  | none =>
      rw [addLinked_of_detached held]
      exact Nat.le_trans (world.load_addSource_le weigh name) (Nat.le_add_right _ _)
  | some parent =>
      cases status : world.isCancelledState parent with
      | true =>
          rw [addLinked_of_cancelled held status]
          exact Nat.le_trans (load_setSource_le weigh _ _ _)
            (Nat.le_trans (load_insert_le weigh _ _ _ rfl) (Nat.le_add_right _ _))
      | false =>
          rw [addLinked_of_pending held status]
          exact Nat.le_trans (load_setSource_le weigh _ _ _)
            (Nat.le_trans (load_insert_le weigh _ _ _ rfl)
              (world.load_register_le weigh parent _))

theorem load_moveRegistration_le
    (world : World ν)
    (origin target : ν) :
    (world.moveRegistration origin target).load weigh ≤ world.load weigh := by
  unfold moveRegistration
  split
  · exact Nat.le_refl _
  · exact load_setRegistration_le weigh _ _ _

/-- What the callback that a step makes weighs: only a link and a listener on a token with a state
make one. -/
def brings
    (world : World ν) :
    Step ν → Nat
  | .linked _ _ => weigh (.link world.nextState)
  | .onCancel _ token label reactions =>
      if (world.stateOf? token).isSome then
        weigh (.listener world.nextSerial label reactions)
      else
        0
  | _ => 0

/-- A step registers and calls no more than was pending and what it makes. -/
theorem load_perform_le
    (world : World ν)
    (step : Step ν) :
    (world.perform step).1.load weigh + calls weigh (world.perform step).2 ≤
      world.load weigh + world.brings weigh step := by
  cases step with
  | source name => simpa [perform, Job.calls, brings] using world.load_addSource_le weigh name
  | linked name token =>
      simpa [perform, Job.calls, brings] using world.load_addLinked_le weigh name token
  | token name source =>
      simpa [perform, Job.calls, brings] using
        world.load_setToken_le weigh name (world.sources.get? source)
  | detached name =>
      simpa [perform, Job.calls, brings] using world.load_setToken_le weigh name none
  | cancel source =>
      simp only [perform]
      cases world.sources.get? source with
      | none => simp [Job.calls]
      | some state => simpa [Job.calls, brings] using world.load_cancelState weigh state
  | onCancel name token label reactions =>
      have numbered :
          World.load weigh { world with nextSerial := world.nextSerial + 1 } = world.load weigh :=
        rfl
      simp only [perform, brings]
      cases world.stateOf? token with
      | none => simp [Job.calls]
      | some state =>
          cases status : world.isCancelledState state with
          | true => simp [status, Job.calls, numbered]
          | false =>
              have heavier :=
                load_register_le weigh { world with nextSerial := world.nextSerial + 1 } state
                  (.listener world.nextSerial label reactions)
              rw [numbered] at heavier
              simpa [status, Job.calls] using heavier
  | reset name =>
      simpa [perform, Job.calls, brings] using world.load_setRegistration_le weigh name none
  | move origin target =>
      simpa [perform, Job.calls, brings] using world.load_moveRegistration_le weigh origin target
  | dropSource name =>
      have lighter : (world.removeSource name).load weigh ≤ world.load weigh :=
        load_release?_le weigh _ _
      simpa [perform, Job.calls, brings] using lighter
  | dropToken name =>
      have lighter : (world.removeToken name).load weigh ≤ world.load weigh :=
        load_release?_le weigh _ _
      simpa [perform, Job.calls, brings] using lighter
  | dropRegistration name =>
      have lighter : (world.removeRegistration name).load weigh ≤ world.load weigh :=
        load_unregister?_le weigh _ _
      simpa [perform, Job.calls, brings] using lighter
  | inspect token => simp [perform, Job.calls]
  | waitFor token => simp [perform, Job.calls]
  | wait token => simp [perform, Job.calls]

end Load

/-- Besides the calls, a step puts its report on the agenda, and `onCancel` an assignment. -/
theorem weight_jobs_perform_lt
    (world : World ν)
    (step : Step ν) :
    sumOf ((world.perform step).2.map Job.weight) + world.brings Callback.weight step <
      calls Callback.weight (world.perform step).2 + step.weight := by
  have called : Job.weight ∘ Job.call = Callback.weight (ν := ν) := rfl
  cases step with
  | cancel source =>
      simp only [perform]
      cases world.sources.get? source with
      | none => simp [Job.weight, Job.calls, Step.weight, brings]
      | some state => simp [Job.weight, Job.calls, Step.weight, brings, called]
  | onCancel name token label reactions =>
      simp only [perform, brings]
      cases world.stateOf? token with
      | none => simp [Job.weight, Job.calls, Step.weight]; omega
      | some state =>
          cases status : world.isCancelledState state with
          | true => simp [status, Job.weight, Job.calls, Step.weight, Callback.weight]; omega
          | false => simp [status, Job.weight, Job.calls, Step.weight, Callback.weight]; omega
  | _ => simp [perform, Job.weight, Job.calls, Step.weight, brings, Callback.weight]

/-- A step weighs more than all that it puts on the agenda and registers. -/
theorem weight_perform_lt
    (world : World ν)
    (step : Step ν) :
    (world.perform step).1.weight + sumOf ((world.perform step).2.map Job.weight) <
      world.weight + step.weight := by
  have pending := world.load_perform_le Callback.weight step
  have jobs := world.weight_jobs_perform_lt step
  simp only [weight_eq_load]
  omega

end World

/-- Steps on the agenda weigh what they weigh as reactions. -/
theorem weight_perform_steps
    (steps : List (Step ν)) :
    sumOf ((steps.map Job.perform).map Job.weight) = weightOfSteps steps := by
  induction steps with
  | nil => rfl
  | cons step steps ih => simp_all [weightOfSteps, Job.weight]

namespace Machine

variable [DecidableEq ν]

/-- Every job makes the machine lighter. -/
theorem weight_lt_of_step?
    {machine next : Machine ν}
    (stepped : machine.step? = some next) :
    next.weight < machine.weight := by
  obtain ⟨world, agenda, reports⟩ := machine
  cases agenda with
  | nil => cases stepped
  | cons job rest =>
      cases job with
      | perform step =>
          have lighter := world.weight_perform_lt step
          simp only [step?, Option.some.injEq] at stepped
          subst stepped
          simp [weight, Job.weight]
          omega
      | call callback =>
          cases callback with
          | link child =>
              have lighter := world.load_cancelState Callback.weight child
              have called : Job.weight ∘ Job.call = Callback.weight (ν := ν) := rfl
              simp only [step?, Option.some.injEq] at stepped
              subst stepped
              simp [weight, World.weight_eq_load, Job.weight, Callback.weight, called]
              omega
          | listener serial label reactions =>
              have reacts := weight_perform_steps reactions
              cases stepped
              simp [weight, Job.weight, Callback.weight] at reacts ⊢
              omega
      | assign name registration =>
          have lighter := world.load_setRegistration_le Callback.weight name registration
          cases stepped
          simp [weight, World.weight_eq_load, Job.weight]
          omega
      | report step answer =>
          cases stepped
          simp [weight, Job.weight]

theorem agenda_eq_nil_of_step?_none
    {machine : Machine ν}
    (idle : machine.step? = none) :
    machine.agenda = [] := by
  unfold step? at idle
  split at idle
  · assumption
  all_goals cases idle

/-- A machine that may do as many jobs as it weighs does them all. -/
theorem agenda_runFor
    (jobs : Nat)
    (machine : Machine ν)
    (enough : machine.weight ≤ jobs) :
    (machine.runFor jobs).agenda = [] := by
  induction jobs generalizing machine with
  | zero =>
      cases stepped : machine.step? with
      | none => exact agenda_eq_nil_of_step?_none stepped
      | some next =>
          have lighter := weight_lt_of_step? stepped
          omega
  | succ jobs ih =>
      unfold runFor
      cases stepped : machine.step? with
      | none => exact agenda_eq_nil_of_step?_none stepped
      | some next =>
          have lighter := weight_lt_of_step? stepped
          exact ih next (by omega)

/-- A machine that was run has nothing left to do. -/
theorem agenda_run
    (machine : Machine ν) :
    machine.run.agenda = [] :=
  agenda_runFor _ machine (Nat.le_refl _)

/-- What every job preserves holds after any number of jobs. -/
theorem runFor_induction
    (holds : Machine ν → Prop)
    (preserved : ∀ {machine next : Machine ν}, machine.step? = some next →
      holds machine → holds next)
    (jobs : Nat)
    {machine : Machine ν}
    (initially : holds machine) :
    holds (machine.runFor jobs) := by
  induction jobs generalizing machine with
  | zero => exact initially
  | succ jobs ih =>
      unfold runFor
      cases stepped : machine.step? with
      | none => exact initially
      | some next => exact ih (preserved stepped initially)

/-- What every job preserves holds when the machine was run. -/
theorem run_induction
    (holds : Machine ν → Prop)
    (preserved : ∀ {machine next : Machine ν}, machine.step? = some next →
      holds machine → holds next)
    {machine : Machine ν}
    (initially : holds machine) :
    holds machine.run :=
  runFor_induction holds preserved machine.weight initially

end Machine

end Cancellation

end Cadence
