import Cadence.Table

namespace Cadence

namespace Cancellation

/-!
# The world of cancellation

A *state* can be cancelled once.  Sources and tokens hold states: a source can
cancel its state, a token can look at it and register callbacks on it.  A source
may be linked to the state of a token, its parent; then the parent carries a
callback that cancels the child.  A state lives as long as a source or a token
holds it, and when it dies its link leaves the parent.

Sources, tokens and registrations are known by names of any type `ν`.
-/

/-- What a program does with sources, tokens and registrations. -/
inductive Step (ν : Type)
  /-- Makes a new source. -/
  | source (name : ν)
  /-- Makes a new source that is also cancelled when the state of a token is. -/
  | linked (name token : ν)
  /-- Makes a token of a source. -/
  | token (name source : ν)
  /-- Makes a token without a source. -/
  | detached (name : ν)
  /-- Cancels a source. -/
  | cancel (source : ν)
  /-- Registers a callback on a token: it reports its label and performs its reactions. -/
  | onCancel (registration token : ν) (label : String) (reactions : List (Step ν))
  /-- Unregisters a callback. -/
  | reset (registration : ν)
  /-- Moves a registration to another name and unregisters what had that name. -/
  | move (origin target : ν)
  | dropSource (name : ν)
  | dropToken (name : ν)
  | dropRegistration (name : ν)
  /-- Asks whether a token is cancelled and whether it can be. -/
  | inspect (token : ν)
  /-- Waits for some time until a token is cancelled. -/
  | waitFor (token : ν)
  /-- Waits for as long as it takes until a token is cancelled. -/
  | wait (token : ν)

/-- What is called when a state becomes cancelled. -/
inductive Callback (ν : Type)
  /-- Cancels a linked state. -/
  | link (child : Nat)
  /-- Reports a label and performs steps; every listener has a serial number of its own. -/
  | listener (serial : Nat) (label : String) (reactions : List (Step ν))

/-- A place in the callbacks of a state. -/
structure Registration where
  state : Nat
  entry : Nat
  deriving DecidableEq, Repr

/-- A state: whether it is cancelled, the callbacks pending on it in the order of registration,
and for a linked state its parent and its place in the parent's callbacks. -/
structure State (ν : Type) where
  cancelled : Bool := false
  callbacks : List (Nat × Callback ν) := []
  nextEntry : Nat := 1
  parent : Option Nat := none
  link : Option Registration := none

/-- All live states, and what is held under which name.  A token may be without a state and a
registration without a callback. -/
structure World (ν : Type) where
  states : Table Nat (State ν) := {}
  nextState : Nat := 0
  nextSerial : Nat := 0
  sources : Table ν Nat := {}
  tokens : Table ν (Option Nat) := {}
  registrations : Table ν (Option Registration) := {}

namespace World

variable {ν : Type}

/-- Whether a state is alive and cancelled. -/
def isCancelledState (world : World ν) (state : Nat) : Bool :=
  ((world.states.get? state).map State.cancelled).getD false

/-- Whether a source or a token holds a state. -/
def holds (world : World ν) (state : Nat) : Bool :=
  (world.sources.entries.any fun entry => entry.2 == state) ||
    world.tokens.entries.any fun entry => entry.2 == some state

/-- The world without one callback; its registration is void from then on. -/
def unregister (world : World ν) (registration : Registration) : World ν :=
  match world.states.get? registration.state with
  | none => world
  | some state =>
      { world with
        states := world.states.insert registration.state
          { state with
            callbacks := state.callbacks.filter fun entry => entry.1 ≠ registration.entry } }

/-- The world without what a name's registration registered, if anything. -/
def unregister? (world : World ν) : Option Registration → World ν
  | none => world
  | some registration => world.unregister registration

/-- The world after a holder of a state is gone: a state that nothing holds dies. -/
def release (world : World ν) (state : Nat) : World ν :=
  if world.holds state then
    world
  else
    match world.states.get? state with
    | none => world
    | some dying => { world with states := world.states.erase state }.unregister? dying.link

/-- The world after a holder of a state, if there was one, is gone. -/
def release? (world : World ν) : Option Nat → World ν
  | none => world
  | some state => world.release state

/-- The callbacks of a state that becomes cancelled, with the world in which it is.  A state that
is dead or cancelled has none to call. -/
def cancelState (world : World ν) (state : Nat) : World ν × List (Callback ν) :=
  match world.states.get? state with
  | none => (world, [])
  | some found =>
      if found.cancelled then
        (world, [])
      else
        ({ world with
            states := world.states.insert state { found with cancelled := true, callbacks := [] } },
          found.callbacks.map Prod.snd)

/-- The world with a callback registered on a state that is not cancelled. -/
def register (world : World ν) (state : Nat) (callback : Callback ν) :
    World ν × Option Registration :=
  match world.states.get? state with
  | none => (world, none)
  | some found =>
      ({ world with
          states := world.states.insert state
            { found with
              callbacks := found.callbacks ++ [(found.nextEntry, callback)]
              nextEntry := found.nextEntry + 1 } },
        some ⟨state, found.nextEntry⟩)

variable [DecidableEq ν]

/-- The state of a token; none for a name without a token. -/
def stateOf? (world : World ν) (token : ν) : Option Nat :=
  (world.tokens.get? token).join

/-- Whether a token is cancelled. -/
def isCancelled (world : World ν) (token : ν) : Bool :=
  ((world.stateOf? token).map world.isCancelledState).getD false

/-- The names of the cancelled sources. -/
def cancelledSources (world : World ν) : List ν :=
  world.sources.entries.filterMap fun entry =>
    if world.isCancelledState entry.2 then some entry.1 else none

/-- The world with a name's source replaced. -/
def setSource (world : World ν) (name : ν) (state : Nat) : World ν :=
  { world with sources := world.sources.insert name state }.release? (world.sources.get? name)

/-- The world with a name's token replaced. -/
def setToken (world : World ν) (name : ν) (state : Option Nat) : World ν :=
  { world with tokens := world.tokens.insert name state }.release? (world.tokens.get? name).join

/-- The world with a name's registration replaced: the old one is unregistered. -/
def setRegistration (world : World ν) (name : ν) (registration : Option Registration) :
    World ν :=
  { world with registrations := world.registrations.insert name registration }.unregister?
    (world.registrations.get? name).join

/-- The world with a new source. -/
def addSource (world : World ν) (name : ν) : World ν :=
  { world with
    states := world.states.insert world.nextState {}
    nextState := world.nextState + 1 }.setSource name world.nextState

/-- The world with a new source linked to the state of a token.  The new state is cancelled from
the start if its parent already is. -/
def addLinked (world : World ν) (name token : ν) : World ν :=
  match world.stateOf? token with
  | none => world.addSource name
  | some parent =>
      let child := world.nextState
      let (linked, link) :=
        if world.isCancelledState parent then
          (world, none)
        else
          world.register parent (.link child)
      { linked with
        states := linked.states.insert child
          { cancelled := world.isCancelledState parent, parent := some parent, link := link }
        nextState := child + 1 }.setSource name child

/-- The world with a registration moved; a name moved to itself stays as it is. -/
def moveRegistration (world : World ν) (origin target : ν) : World ν :=
  if origin = target then
    { world with
      registrations :=
        world.registrations.insert origin (world.registrations.get? origin).join }
  else
    let moved := (world.registrations.get? origin).join
    { world with registrations := world.registrations.insert origin none }.setRegistration
      target moved

/-- The world without a source. -/
def removeSource (world : World ν) (name : ν) : World ν :=
  { world with sources := world.sources.erase name }.release? (world.sources.get? name)

/-- The world without a token. -/
def removeToken (world : World ν) (name : ν) : World ν :=
  { world with tokens := world.tokens.erase name }.release? (world.tokens.get? name).join

/-- The world without a registration. -/
def removeRegistration (world : World ν) (name : ν) : World ν :=
  { world with registrations := world.registrations.erase name }.unregister?
    (world.registrations.get? name).join

end World

end Cancellation

end Cadence
