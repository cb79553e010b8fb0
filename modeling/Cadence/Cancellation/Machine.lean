import Cadence.Cancellation.World
import Cadence.Sum

namespace Cadence

namespace Cancellation

/-!
# Running cancellation programs

Callbacks may themselves perform any step, so a program is run by a machine with
an agenda: the jobs that are still to be done, the next one first.  A step that
calls callbacks puts them in front of the rest of the agenda; what it causes is
therefore reported before the step itself.

Every job that is done makes the machine lighter, where pending callbacks count
with what they will do.  So the agenda runs empty after at most as many jobs as
the machine weighs.
-/

/-- What a step answers. -/
inductive Answer
  | flag (value : Bool)
  | dropped (count : Nat)
  | status (cancelled canBeCancelled : Bool)
  deriving DecidableEq, Repr

/-- What a run reports. -/
inductive Report (ν : Type)
  /-- A listener was called. -/
  | fired (serial : Nat) (label : String)
  /-- A step was done; with the names of the sources that are cancelled then. -/
  | did (step : Step ν) (answer : Answer) (cancelled : List ν)

/-- What is still to be done. -/
inductive Job (ν : Type)
  | perform (step : Step ν)
  | call (callback : Callback ν)
  /-- Gives a name a registration. -/
  | assign (name : ν) (registration : Option Registration)
  | report (step : Step ν) (answer : Answer)

/-- A world with the jobs still to be done and the reports so far, the oldest first. -/
structure Machine (ν : Type) where
  world : World ν := {}
  agenda : List (Job ν) := []
  reports : List (Report ν) := []

section Weights

variable {ν : Type}

mutual

/-- The weight of a step, which is above that of all that it can put on the agenda. -/
def Step.weight : Step ν → Nat
  | .onCancel _ _ _ reactions => 4 + weightOfSteps reactions
  | .linked _ _ => 3
  | _ => 2

/-- The weight of steps. -/
def weightOfSteps : List (Step ν) → Nat
  | [] => 0
  | step :: steps => step.weight + weightOfSteps steps

end

/-- The weight of a callback: its own call and its reactions. -/
def Callback.weight : Callback ν → Nat
  | .link _ => 1
  | .listener _ _ reactions => 1 + weightOfSteps reactions

/-- The weight of a job. -/
def Job.weight : Job ν → Nat
  | .perform step => step.weight
  | .call callback => callback.weight
  | .assign _ _ => 1
  | .report _ _ => 1

/-- The weight of a state: that of the callbacks pending on it. -/
def State.weight (state : State ν) : Nat :=
  sumOf (state.callbacks.map fun entry => entry.2.weight)

/-- The weight of a world: that of its states. -/
def World.weight (world : World ν) : Nat :=
  sumOf (world.states.entries.map fun entry => entry.2.weight)

/-- The weight of a machine: that of its agenda and of its world. -/
def Machine.weight (machine : Machine ν) : Nat :=
  sumOf (machine.agenda.map Job.weight) + machine.world.weight

end Weights

variable {ν : Type} [DecidableEq ν]

/-- The world after a step, and the jobs that the step puts in front of the agenda. -/
def World.perform (world : World ν) (step : Step ν) : World ν × List (Job ν) :=
  match step with
  | .source name => (world.addSource name, [.report step (.flag true)])
  | .linked name token => (world.addLinked name token, [.report step (.flag true)])
  | .token name source =>
      (world.setToken name (world.sources.get? source), [.report step (.flag true)])
  | .detached name => (world.setToken name none, [.report step (.flag true)])
  | .cancel source =>
      match world.sources.get? source with
      | none => (world, [.report step (.flag true)])
      | some state =>
          let (cancelled, callbacks) := world.cancelState state
          (cancelled, callbacks.map .call ++ [.report step (.flag true)])
  | .onCancel name token label reactions =>
      match world.stateOf? token with
      | none => (world, [.assign name none, .report step (.flag true)])
      | some state =>
          let callback := .listener world.nextSerial label reactions
          let numbered := { world with nextSerial := world.nextSerial + 1 }
          if world.isCancelledState state then
            (numbered, [.call callback, .assign name none, .report step (.flag true)])
          else
            let (registered, registration) := numbered.register state callback
            (registered, [.assign name registration, .report step (.flag true)])
  | .reset name => (world.setRegistration name none, [.report step (.flag true)])
  | .move origin target =>
      (world.moveRegistration origin target, [.report step (.flag true)])
  | .dropSource name =>
      (world.removeSource name,
        [.report step (.dropped (if (world.sources.get? name).isSome then 1 else 0))])
  | .dropToken name =>
      (world.removeToken name,
        [.report step (.dropped (if (world.tokens.get? name).isSome then 1 else 0))])
  | .dropRegistration name =>
      (world.removeRegistration name,
        [.report step (.dropped (if (world.registrations.get? name).isSome then 1 else 0))])
  | .inspect token =>
      (world,
        [.report step (.status (world.isCancelled token) (world.stateOf? token).isSome)])
  | .waitFor token => (world, [.report step (.flag (world.isCancelled token))])
  | .wait _ => (world, [.report step (.flag true)])

namespace Machine

/-- The machine after one job; none if the agenda is empty. -/
def step? (machine : Machine ν) : Option (Machine ν) :=
  match machine.agenda with
  | [] => none
  | .perform step :: rest =>
      let (world, jobs) := machine.world.perform step
      some { machine with world := world, agenda := jobs ++ rest }
  | .call (.link child) :: rest =>
      let (world, callbacks) := machine.world.cancelState child
      some { machine with world := world, agenda := callbacks.map .call ++ rest }
  | .call (.listener serial label reactions) :: rest =>
      some
        { machine with
          agenda := reactions.map .perform ++ rest
          reports := machine.reports ++ [.fired serial label] }
  | .assign name registration :: rest =>
      some
        { machine with
          world := machine.world.setRegistration name registration, agenda := rest }
  | .report step answer :: rest =>
      some
        { machine with
          agenda := rest
          reports := machine.reports ++ [.did step answer machine.world.cancelledSources] }

/-- The machine after at most the given number of jobs. -/
def runFor : Nat → Machine ν → Machine ν
  | 0, machine => machine
  | jobs + 1, machine =>
      match machine.step? with
      | none => machine
      | some next => runFor jobs next

/-- The machine with its agenda done. -/
def run (machine : Machine ν) : Machine ν :=
  machine.runFor machine.weight

end Machine

/-- The world after a step with all that it causes. -/
def World.after (world : World ν) (step : Step ν) : World ν :=
  (Machine.run { world := world, agenda := [.perform step] }).world

/-- The reports of a program that starts with nothing. -/
def reportsOf (program : List (Step ν)) : List (Report ν) :=
  (Machine.run { agenda := program.map .perform }).reports

/-- Names in the order in which they are listed. -/
def sortedNames (names : List String) : List String :=
  names.mergeSort fun first second => !(decide (second < first))

end Cancellation

end Cadence
