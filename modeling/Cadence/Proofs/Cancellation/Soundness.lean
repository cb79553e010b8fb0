import Cadence.Proofs.Cancellation.Propagation

namespace Cadence

namespace Cancellation

/-!
# Every job keeps the links sound

Each step of a program is a growth of the world, a change of names, the death of
states or the cancellation of one, so it keeps the links and what is due on
them.  A program that starts from a sound world therefore ends in one where the
children of cancelled states are cancelled.
-/

namespace World

variable {ν : Type}

/-- A live state is cancelled if it says so. -/
theorem isCancelledState_of_get?
    {world : World ν}
    {key : Nat}
    {state : State ν}
    (found : world.states.get? key = some state) :
    world.isCancelledState key = state.cancelled := by
  simp [isCancelledState, found]

/-- Names may be changed and a state released. -/
theorem Shrinks.release?
    {before named : World ν}
    (sameNext : named.nextState = before.nextState)
    (sameStates : named.states = before.states)
    (key : Option Nat) :
    Shrinks before (named.release? key) :=
  (Shrinks.ofStates sameNext sameStates).trans (named.shrinks_release? key)

/-- Names may be changed and a callback taken out. -/
theorem Shrinks.unregister?
    {before named : World ν}
    (sameNext : named.nextState = before.nextState)
    (sameStates : named.states = before.states)
    (place : Option Registration) :
    Shrinks before (named.unregister? place) :=
  (Shrinks.ofStates sameNext sameStates).trans (named.shrinks_unregister? place)

variable [DecidableEq ν]

/-- The state of a token is alive. -/
theorem Linked.live_of_stateOf?
    {world : World ν}
    (linked : world.Linked)
    {token : ν}
    {key : Nat}
    (held : world.stateOf? token = some key) :
    world.Live key :=
  linked.tokens token key (Option.join_eq_some_iff.mp held)

theorem shrinks_setSource
    (world : World ν)
    (name : ν)
    (key : Nat) :
    Shrinks world (world.setSource name key) := by
  unfold setSource
  exact .release? (by rfl) (by rfl) _

theorem shrinks_setToken
    (world : World ν)
    (name : ν)
    (key : Option Nat) :
    Shrinks world (world.setToken name key) := by
  unfold setToken
  exact .release? (by rfl) (by rfl) _

theorem shrinks_setRegistration
    (world : World ν)
    (name : ν)
    (place : Option Registration) :
    Shrinks world (world.setRegistration name place) := by
  unfold setRegistration
  exact .unregister? (by rfl) (by rfl) _

theorem shrinks_moveRegistration
    (world : World ν)
    (origin target : ν) :
    Shrinks world (world.moveRegistration origin target) := by
  unfold moveRegistration
  split
  · exact .ofStates rfl rfl
  · unfold setRegistration
    exact .unregister? (by rfl) (by rfl) _

theorem shrinks_removeSource
    (world : World ν)
    (name : ν) :
    Shrinks world (world.removeSource name) := by
  unfold removeSource
  exact .release? (by rfl) (by rfl) _

theorem shrinks_removeToken
    (world : World ν)
    (name : ν) :
    Shrinks world (world.removeToken name) := by
  unfold removeToken
  exact .release? (by rfl) (by rfl) _

theorem shrinks_removeRegistration
    (world : World ν)
    (name : ν) :
    Shrinks world (world.removeRegistration name) := by
  unfold removeRegistration
  exact .unregister? (by rfl) (by rfl) _

namespace Sound

variable {world : World ν} {agenda rest : List (Job ν)}

/-- A job that calls no link and names nothing may be forgotten. -/
theorem tail
    {job : Job ν}
    (sound : world.Sound (job :: rest))
    (noCall : ∀ child, job ≠ .call (.link child)) :
    world.Sound rest :=
  sound.reagenda
    (fun child => by simp [(noCall child).symm])
    (fun _ _ pending => List.mem_cons_of_mem job pending)

/-- A report may be put on the agenda. -/
theorem report
    (sound : world.Sound rest)
    (step : Step ν)
    (answer : Answer) :
    world.Sound (.report step answer :: rest) :=
  sound.reagenda (by simp) (by simp)

theorem addSource
    (sound : world.Sound agenda)
    (name : ν) :
    (world.addSource name).Sound agenda := by
  have grows : Grows world (world.bear {}) := sound.linked.grows_bear rfl rfl
  have born := sound.grow grows (sound.linked.grow grows rfl rfl rfl)
  exact born.shrink (shrinks_setSource _ _ _)
    (born.linked.setSource name ⟨_, world.get?_bear_same {}⟩)

theorem addLinked
    (sound : world.Sound agenda)
    (name token : ν) :
    (world.addLinked name token).Sound agenda := by
  cases held : world.stateOf? token with
  | none =>
      rw [addLinked_of_detached held]
      exact sound.addSource name
  | some parent =>
      obtain ⟨target, found⟩ := sound.linked.live_of_stateOf? held
      have status := isCancelledState_of_get? found
      cases cancelled : target.cancelled with
      | true =>
          rw [addLinked_of_cancelled held (status.trans cancelled)]
          let child : State ν := { cancelled := true, parent := some parent }
          have grows : Grows world (world.bear child) := sound.linked.grows_bear rfl rfl
          have born := sound.grow grows (sound.linked.grow grows rfl rfl rfl)
          exact born.shrink (shrinks_setSource _ _ _)
            (born.linked.setSource name ⟨_, world.get?_bear_same child⟩)
      | false =>
          rw [addLinked_of_pending held (status.trans cancelled),
            world.register_place found]
          obtain ⟨sameNext, sameSources, sameTokens, sameRegistrations⟩ :=
            world.register_frame parent (.link world.nextState)
          let child : State ν :=
            { parent := some parent, link := some ⟨parent, target.nextEntry⟩ }
          have grows :
              Grows world ((world.register parent (.link world.nextState)).1.bear child) :=
            sound.linked.grows_bearLinked found cancelled rfl rfl
          have born := sound.grow grows
            (sound.linked.grow grows sameSources sameTokens sameRegistrations)
          have isBorn := get?_bear_same (world.register parent (.link world.nextState)).1 child
          have named := born.shrink (shrinks_setSource _ name _)
            (born.linked.setSource name ⟨_, isBorn⟩)
          simp only [bear, sameNext] at named
          exact named

theorem setToken
    (sound : world.Sound agenda)
    (name : ν)
    {key : Option Nat}
    (alive : ∀ held, key = some held → world.Live held) :
    (world.setToken name key).Sound agenda :=
  sound.shrink (shrinks_setToken _ _ _) (sound.linked.setToken name alive)

theorem setRegistration
    (sound : world.Sound agenda)
    (name : ν)
    {place : Option Registration}
    (clear : ∀ other, place = some other → world.Unlinked other) :
    (world.setRegistration name place).Sound agenda :=
  sound.shrink (shrinks_setRegistration _ _ _) (sound.linked.setRegistration name clear)

/-- A numbered listener is not yet anywhere. -/
theorem number
    (sound : world.Sound agenda) :
    World.Sound { world with nextSerial := world.nextSerial + 1 } agenda :=
  sound.shrink (.ofStates rfl rfl)
    (sound.linked.rename rfl rfl sound.linked.sources sound.linked.tokens
      sound.linked.registered)

/-- A callback on a token is registered, called at once, or given up. -/
theorem onCancel
    (sound : world.Sound rest)
    (name token : ν)
    (label : String)
    (reactions : List (Step ν)) :
    (world.perform (.onCancel name token label reactions)).1.Sound
      ((world.perform (.onCancel name token label reactions)).2 ++ rest) := by
  simp only [World.perform]
  cases held : world.stateOf? token with
  | none => exact sound.reagenda (by simp) (by simp)
  | some key =>
      obtain ⟨target, found⟩ := sound.linked.live_of_stateOf? held
      have status := isCancelledState_of_get? found
      cases cancelled : target.cancelled with
      | true =>
          simp only [status, cancelled, ↓reduceIte]
          exact sound.number.reagenda (by simp) (by simp)
      | false =>
          simp only [status, cancelled, Bool.false_eq_true, ↓reduceIte]
          have numbered := sound.number
          obtain ⟨-, sameSources, sameTokens, sameRegistrations⟩ :=
            register_frame { world with nextSerial := world.nextSerial + 1 } key
              (.listener world.nextSerial label reactions)
          have grows := numbered.linked.grows_register found cancelled world.nextSerial label
            reactions
          have registered := numbered.grow grows
            (numbered.linked.grow grows sameSources sameTokens sameRegistrations)
          have clear := numbered.linked.unlinked_register found world.nextSerial label reactions
          have isPlaced :=
            register_place { world with nextSerial := world.nextSerial + 1 } found
              (.listener world.nextSerial label reactions)
          rw [isPlaced]
          refine ⟨registered.linked, ?_, ?_, ?_⟩
          · simpa using registered.spread
          · simpa using registered.called
          · intro other place pending
            simp only [List.cons_append, List.nil_append, List.mem_cons, Job.assign.injEq,
              Option.some.injEq, reduceCtorEq, false_or] at pending
            rcases pending with ⟨-, rfl⟩ | old
            · exact clear
            · exact registered.assigned other place old

/-- Every step keeps the links and what is due on them. -/
theorem perform
    {step : Step ν}
    (sound : world.Sound (.perform step :: rest)) :
    (world.perform step).1.Sound ((world.perform step).2 ++ rest) := by
  have others : world.Sound rest := sound.tail (by simp)
  cases step with
  | source name => exact (others.addSource name).report _ _
  | linked name token => exact (others.addLinked name token).report _ _
  | token name source =>
      exact (others.setToken name fun held => others.linked.sources source held).report _ _
  | detached name => exact (others.setToken name (by simp)).report _ _
  | cancel source =>
      simp only [World.perform]
      cases world.sources.get? source with
      | none => exact others.report _ _
      | some key =>
          have cancelled := (others.report (.cancel source) (.flag true)).cancelState key
            (fun child pending => Or.inr pending) (List.Subset.refl _)
          simpa using cancelled
  | onCancel name token label reactions => exact others.onCancel name token label reactions
  | reset name => exact (others.setRegistration name (by simp)).report _ _
  | move origin target =>
      exact (others.shrink (shrinks_moveRegistration _ _ _)
        (others.linked.moveRegistration origin target)).report _ _
  | dropSource name =>
      exact (others.shrink (shrinks_removeSource _ _)
        (others.linked.removeSource name)).report _ _
  | dropToken name =>
      exact (others.shrink (shrinks_removeToken _ _)
        (others.linked.removeToken name)).report _ _
  | dropRegistration name =>
      exact (others.shrink (shrinks_removeRegistration _ _)
        (others.linked.removeRegistration name)).report _ _
  | inspect token => exact others.report _ _
  | waitFor token => exact others.report _ _
  | wait token => exact others.report _ _

end Sound

end World

namespace Machine

variable {ν : Type} [DecidableEq ν]

/-- A machine whose world is sound with its agenda. -/
def Sound
    (machine : Machine ν) :
    Prop :=
  machine.world.Sound machine.agenda

/-- Every job keeps a machine sound. -/
theorem Sound.step
    {machine next : Machine ν}
    (stepped : machine.step? = some next)
    (sound : machine.Sound) :
    next.Sound := by
  obtain ⟨world, agenda, reports⟩ := machine
  cases agenda with
  | nil => cases stepped
  | cons job rest =>
      simp only [Sound] at sound ⊢
      cases job with
      | perform step =>
          simp only [step?, Option.some.injEq] at stepped
          subst stepped
          exact sound.perform
      | call callback =>
          cases callback with
          | link child =>
              simp only [step?, Option.some.injEq] at stepped
              subst stepped
              refine sound.cancelState child (fun other pending => ?_) (List.subset_cons_self _ _)
              simpa using pending
          | listener serial label reactions =>
              simp only [step?, Option.some.injEq] at stepped
              subst stepped
              exact (sound.tail (by simp)).reagenda (by simp) (by simp)
      | assign name place =>
          simp only [step?, Option.some.injEq] at stepped
          subst stepped
          exact (sound.tail (by simp)).setRegistration name fun other same =>
            sound.assigned name other (same ▸ List.mem_cons_self)
      | report step answer =>
          simp only [step?, Option.some.injEq] at stepped
          subst stepped
          exact sound.tail (by simp)

end Machine

namespace World

variable {ν : Type} [DecidableEq ν]

/-- A step with all that it causes leads from a sound world to a sound world. -/
theorem Sound.after
    {world : World ν}
    (sound : world.Sound [])
    (step : Step ν) :
    (world.after step).Sound [] := by
  have initially : Machine.Sound { world := world, agenda := [Job.perform step] } :=
    sound.reagenda (by simp) (by simp)
  have atEnd := Machine.run_induction Machine.Sound (fun stepped sound => sound.step stepped)
    initially
  rw [Machine.Sound, Machine.agenda_run] at atEnd
  exact atEnd

/-- In a world with nothing left to do, the live children of cancelled states are cancelled. -/
theorem Sound.cancelled_of_parent
    {world : World ν}
    (sound : world.Sound [])
    {child : Nat}
    {state parent : State ν}
    {place : Registration}
    (childFound : world.states.get? child = some state)
    (isLinked : state.link = some place)
    (parentFound : world.states.get? place.state = some parent)
    (cancelled : parent.cancelled = true) :
    state.cancelled = true := by
  simpa using sound.spread child state place parent childFound isLinked parentFound cancelled

end World

end Cancellation

end Cadence
