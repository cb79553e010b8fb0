import Cadence.Proofs.Cancellation.Jobs

namespace Cadence

namespace Cancellation

/-!
# Pending listeners

A listener is pending in one place of one state.  It enters that place when it is
registered, and it leaves it in three ways only: its registration is reset,
overwritten or destroyed, its state is cancelled, or its state dies.  When a linked
state dies a callback leaves its parent too, but that is the link, never a listener.
-/

namespace World

variable {ν : Type}

/-- A callback is pending in a place. -/
def Pends
    (world : World ν)
    (place : Registration)
    (callback : Callback ν) :
    Prop :=
  ∃ state, world.states.get? place.state = some state ∧
    (place.entry, callback) ∈ state.callbacks

theorem Pends.live
    {world : World ν}
    {place : Registration}
    {callback : Callback ν}
    (pends : world.Pends place callback) :
    world.Live place.state := by
  obtain ⟨state, found, -⟩ := pends
  exact ⟨state, found⟩

theorem not_pends_of_get?_none
    {world : World ν}
    {place : Registration}
    (dead : world.states.get? place.state = none)
    (callback : Callback ν) :
    ¬ world.Pends place callback := by
  rintro ⟨state, found, -⟩
  cases dead.symm.trans found

/-- In a state that is alive, what is pending is among its callbacks. -/
theorem pends_iff_of_get?
    {world : World ν}
    (place : Registration)
    {state : State ν}
    (found : world.states.get? place.state = some state)
    (callback : Callback ν) :
    world.Pends place callback ↔ (place.entry, callback) ∈ state.callbacks := by
  constructor
  · rintro ⟨other, foundOther, present⟩
    cases found.symm.trans foundOther
    exact present
  · intro present
    exact ⟨state, found, present⟩

/-- Taking out what is in one place leaves all other places as they are. -/
theorem pends_unregister
    (world : World ν)
    (taken place : Registration)
    (callback : Callback ν) :
    (world.unregister taken).Pends place callback ↔
      world.Pends place callback ∧ taken ≠ place := by
  cases found : world.states.get? place.state with
  | none =>
      have dead : (world.unregister taken).states.get? place.state = none := by
        rw [get?_unregister, found]
        rfl
      simp [not_pends_of_get?_none dead, not_pends_of_get?_none found]
  | some state =>
      have after := get?_unregister world taken place.state
      rw [found, Option.map_some] at after
      rw [pends_iff_of_get? place after, pends_iff_of_get? place found]
      by_cases sameState : place.state = taken.state
      · by_cases sameEntry : place.entry = taken.entry
        · have same : taken = place := by
            cases taken
            cases place
            simp_all
          simp [same, State.without]
        · have different : taken ≠ place := fun same => sameEntry (same ▸ rfl)
          simp [sameState, State.without, sameEntry, different]
      · have different : taken ≠ place := fun same => sameState (same ▸ rfl)
        simp [sameState, different]

theorem pends_unregister?
    (world : World ν)
    (taken : Option Registration)
    (place : Registration)
    (callback : Callback ν) :
    (world.unregister? taken).Pends place callback ↔
      world.Pends place callback ∧ taken ≠ some place := by
  cases taken with
  | none => simp
  | some taken => simpa using pends_unregister world taken place callback

/-- A callback is registered in the next place of its state. -/
theorem pends_register
    (world : World ν)
    {key : Nat}
    {target : State ν}
    (found : world.states.get? key = some target)
    (registered : Callback ν)
    (place : Registration)
    (callback : Callback ν) :
    (world.register key registered).1.Pends place callback ↔
      world.Pends place callback ∨
        place = ⟨key, target.nextEntry⟩ ∧ callback = registered := by
  obtain ⟨state, entry⟩ := place
  have after := get?_register found registered state
  by_cases same : state = key
  · subst same
    rw [if_pos rfl] at after
    rw [pends_iff_of_get? ⟨state, entry⟩ after, pends_iff_of_get? ⟨state, entry⟩ found]
    simp
  · rw [if_neg same] at after
    simp [Pends, after, same]

/-- Nothing is pending on a state that is born. -/
theorem pends_bear
    {world : World ν}
    (fresh : world.states.get? world.nextState = none)
    (born : State ν)
    (idle : born.callbacks = [])
    (place : Registration)
    (callback : Callback ν) :
    (world.bear born).Pends place callback ↔ world.Pends place callback := by
  by_cases isNew : place.state = world.nextState
  · have after : (world.bear born).states.get? place.state = some born := by
      rw [isNew]
      exact world.get?_bear_same born
    rw [← isNew] at fresh
    simp [pends_iff_of_get? place after, not_pends_of_get?_none fresh, idle]
  · unfold Pends
    rw [world.get?_bear_other born isNew]

variable [DecidableEq ν]

/-- All that is pending on a state leaves it when the state is cancelled. -/
theorem Linked.pends_cancelState
    {world : World ν}
    (linked : world.Linked)
    (key : Nat)
    (place : Registration)
    (callback : Callback ν) :
    (world.cancelState key).1.Pends place callback ↔
      world.Pends place callback ∧ place.state ≠ key := by
  unfold Pends
  rw [linked.get?_cancelState]
  cases world.states.get? place.state with
  | none => simp
  | some state =>
      by_cases same : place.state = key
      · simp [same]
      · simp [same]

/-- A number that is to be given is not that of a live state. -/
theorem Linked.get?_nextState
    {world : World ν}
    (linked : world.Linked) :
    world.states.get? world.nextState = none := by
  cases found : world.states.get? world.nextState with
  | none => rfl
  | some state => exact absurd (linked.older _ state found) (Nat.lt_irrefl _)

/-- The place to which a link points is not that of a listener. -/
def LinksApart
    (world : World ν)
    (place : Registration)
    (callback : Callback ν) :
    Prop :=
  ∀ child state, world.states.get? child = some state → state.link = some place →
    ¬ world.Pends place callback

theorem Linked.linksApart
    {world : World ν}
    (linked : world.Linked)
    (place : Registration)
    (serial : Nat)
    (label : String)
    (reactions : List (Step ν)) :
    world.LinksApart place (.listener serial label reactions) := by
  intro child state childFound isLinked pends
  obtain ⟨parent, parentFound, present⟩ := pends
  have ordered := linked.ordered _ parent parentFound
  have pending : parent.cancelled = false := by
    cases status : parent.cancelled with
    | false => rfl
    | true => simp [ordered.idle status] at present
  have own := linked.upward child state place parent childFound isLinked parentFound pending
  cases ordered.unique present own

omit [DecidableEq ν] in
/-- A listener outlives a release unless its state dies. -/
theorem pends_release
    {world : World ν}
    (key : Nat)
    {place : Registration}
    {callback : Callback ν}
    (apart : world.LinksApart place callback) :
    (world.release key).Pends place callback ↔
      world.Pends place callback ∧ (world.release key).Live place.state := by
  rcases world.release_cases key with same | ⟨dying, -, found, dies⟩
  · rw [same]
    exact ⟨fun pends => ⟨pends, pends.live⟩, And.left⟩
  · rw [dies]
    have others : place.state ≠ key →
        ((world.bury key).Pends place callback ↔ world.Pends place callback) := by
      intro different
      unfold Pends
      rw [world.get?_bury_other different]
    constructor
    · intro pends
      have different : place.state ≠ key := fun same =>
        world.not_live_bury_unregister? key dying.link (same ▸ pends.live)
      exact ⟨(others different).mp ((pends_unregister? _ _ _ _).mp pends).1, pends.live⟩
    · rintro ⟨pends, alive⟩
      have different : place.state ≠ key := fun same =>
        world.not_live_bury_unregister? key dying.link (same ▸ alive)
      exact (pends_unregister? _ _ _ _).mpr
        ⟨(others different).mpr pends, fun isLinked => apart key dying found isLinked pends⟩

omit [DecidableEq ν] in
theorem pends_release?
    (world : World ν)
    (key : Option Nat)
    {place : Registration}
    {callback : Callback ν}
    (apart : world.LinksApart place callback) :
    (world.release? key).Pends place callback ↔
      world.Pends place callback ∧ (world.release? key).Live place.state := by
  cases key with
  | none => exact ⟨fun pends => ⟨pends, pends.live⟩, And.left⟩
  | some key => exact pends_release key apart

theorem pends_setSource
    {world : World ν}
    (name : ν)
    (key : Nat)
    {place : Registration}
    {callback : Callback ν}
    (apart : world.LinksApart place callback) :
    (world.setSource name key).Pends place callback ↔
      world.Pends place callback ∧ (world.setSource name key).Live place.state :=
  pends_release? { world with sources := world.sources.insert name key }
    (world.sources.get? name) apart

theorem pends_setToken
    {world : World ν}
    (name : ν)
    (key : Option Nat)
    {place : Registration}
    {callback : Callback ν}
    (apart : world.LinksApart place callback) :
    (world.setToken name key).Pends place callback ↔
      world.Pends place callback ∧ (world.setToken name key).Live place.state :=
  pends_release? { world with tokens := world.tokens.insert name key }
    (world.tokens.get? name).join apart

theorem pends_removeSource
    {world : World ν}
    (name : ν)
    {place : Registration}
    {callback : Callback ν}
    (apart : world.LinksApart place callback) :
    (world.removeSource name).Pends place callback ↔
      world.Pends place callback ∧ (world.removeSource name).Live place.state :=
  pends_release? { world with sources := world.sources.erase name }
    (world.sources.get? name) apart

theorem pends_removeToken
    {world : World ν}
    (name : ν)
    {place : Registration}
    {callback : Callback ν}
    (apart : world.LinksApart place callback) :
    (world.removeToken name).Pends place callback ↔
      world.Pends place callback ∧ (world.removeToken name).Live place.state :=
  pends_release? { world with tokens := world.tokens.erase name }
    (world.tokens.get? name).join apart

section Births

variable {world : World ν} {place : Registration} {serial : Nat} {label : String}
  {reactions : List (Step ν)}

/-- A source that is made leaves all listeners pending, but its name may have held a state. -/
theorem Linked.pends_addSource
    (linked : world.Linked)
    (name : ν) :
    (world.addSource name).Pends place (.listener serial label reactions) ↔
      world.Pends place (.listener serial label reactions) ∧
        (world.addSource name).Live place.state := by
  have born : (world.bear {}).Linked :=
    linked.grow (linked.grows_bear rfl rfl) rfl rfl rfl
  rw [← pends_bear linked.get?_nextState {} rfl]
  exact pends_setSource name world.nextState (born.linksApart place serial label reactions)

theorem Linked.pends_addLinked
    (linked : world.Linked)
    (name token : ν) :
    (world.addLinked name token).Pends place (.listener serial label reactions) ↔
      world.Pends place (.listener serial label reactions) ∧
        (world.addLinked name token).Live place.state := by
  cases held : world.stateOf? token with
  | none =>
      rw [addLinked_of_detached held]
      exact linked.pends_addSource name
  | some parent =>
      obtain ⟨target, found⟩ := linked.live_of_stateOf? held
      have status := isCancelledState_of_get? found
      cases cancelled : target.cancelled with
      | true =>
          rw [addLinked_of_cancelled held (status.trans cancelled)]
          let child : State ν := { cancelled := true, parent := some parent }
          have born : (world.bear child).Linked :=
            linked.grow (linked.grows_bear rfl rfl) rfl rfl rfl
          rw [← pends_bear linked.get?_nextState child rfl]
          exact pends_setSource name world.nextState (born.linksApart place serial label reactions)
      | false =>
          rw [addLinked_of_pending held (status.trans cancelled), world.register_place found]
          obtain ⟨sameNext, sameSources, sameTokens, sameRegistrations⟩ :=
            world.register_frame parent (.link world.nextState)
          let child : State ν := { parent := some parent, link := some ⟨parent, target.nextEntry⟩ }
          let grown := (world.register parent (.link world.nextState)).1
          have born : (grown.bear child).Linked :=
            linked.grow (linked.grows_bearLinked found cancelled rfl rfl) sameSources sameTokens
              sameRegistrations
          have fresh : grown.states.get? grown.nextState = none := by
            have older : parent ≠ world.nextState :=
              Nat.ne_of_lt (linked.older parent target found)
            rw [sameNext, get?_register found, if_neg older.symm]
            exact linked.get?_nextState
          have before :
              (grown.bear child).Pends place (.listener serial label reactions) ↔
                world.Pends place (.listener serial label reactions) := by
            rw [pends_bear fresh child rfl, pends_register world found]
            simp
          have named :=
            pends_setSource name world.nextState (born.linksApart place serial label reactions)
          rw [before] at named
          simpa only [bear, grown, child, sameNext] using named

end Births

end World

namespace Machine

variable {ν : Type} [DecidableEq ν]

/-! ### What the next job does to a registration -/

/-- The place of the registration that the next job resets, overwrites or destroys. -/
def voided?
    (machine : Machine ν) :
    Option Registration :=
  match machine.agenda with
  | .perform (.reset name) :: _ => (machine.world.registrations.get? name).join
  | .perform (.move origin target) :: _ =>
      if origin = target then none else (machine.world.registrations.get? target).join
  | .perform (.dropRegistration name) :: _ => (machine.world.registrations.get? name).join
  | .assign name _ :: _ => (machine.world.registrations.get? name).join
  | _ => none

/-- The next job cancels a state, unless it is cancelled already. -/
def Cancels
    (machine : Machine ν)
    (key : Nat) :
    Prop :=
  machine.CancelsSource key ∨ machine.FollowsLink key

/-- The next job registers a listener on a token of a state. -/
def Listens
    (machine : Machine ν)
    (key serial : Nat)
    (label : String)
    (reactions : List (Step ν)) :
    Prop :=
  ∃ name token rest, machine.agenda = .perform (.onCancel name token label reactions) :: rest ∧
    machine.world.stateOf? token = some key ∧ machine.world.nextSerial = serial

end Machine

/-- The place of the next callback that is registered on a state. -/
def World.nextPlace
    {ν : Type}
    (world : World ν)
    (key : Nat) :
    Registration :=
  ⟨key, ((world.states.get? key).map State.nextEntry).getD 0⟩

/-- A job that neither voids a registration nor cancels a state nor registers a listener. -/
def Job.Quiet
    {ν : Type} :
    Job ν → Prop
  | .perform (.cancel _) => False
  | .perform (.onCancel _ _ _ _) => False
  | .perform (.reset _) => False
  | .perform (.move _ _) => False
  | .perform (.dropRegistration _) => False
  | .call (.link _) => False
  | .assign _ _ => False
  | _ => True

namespace Machine

variable {ν : Type} [DecidableEq ν]

section PendingStep

variable {machine next : Machine ν} {place : Registration} {serial : Nat} {label : String}
  {reactions : List (Step ν)}

/-- How a listener comes to be pending in a place after a job: it was pending there, the job neither
voids its registration nor cancels its state, and the state lives on; or the job registers it. -/
def RemainsOrEnters
    (machine next : Machine ν)
    (place : Registration)
    (serial : Nat)
    (label : String)
    (reactions : List (Step ν)) :
    Prop :=
  (machine.world.Pends place (.listener serial label reactions) ∧
      machine.voided? ≠ some place ∧ ¬ machine.Cancels place.state ∧
      next.world.Live place.state) ∨
    (machine.Listens place.state serial label reactions ∧
      machine.world.isCancelledState place.state = false ∧
      place = machine.world.nextPlace place.state)

/-- A job that cancels nothing and registers no listener. -/
theorem pends_of_voids
    (pends :
      next.world.Pends place (.listener serial label reactions) ↔
        machine.world.Pends place (.listener serial label reactions) ∧
          machine.voided? ≠ some place ∧ next.world.Live place.state)
    (cancelsNone : ∀ key, ¬ machine.Cancels key)
    (entersNot :
      machine.Listens place.state serial label reactions →
        machine.world.isCancelledState place.state = true) :
    next.world.Pends place (.listener serial label reactions) ↔
      RemainsOrEnters machine next place serial label reactions := by
  rw [pends]
  constructor
  · rintro ⟨before, kept, alive⟩
    exact Or.inl ⟨before, kept, cancelsNone _, alive⟩
  · rintro (⟨before, kept, -, alive⟩ | ⟨listens, active, -⟩)
    · exact ⟨before, kept, alive⟩
    · simp [entersNot listens] at active

/-- A job that takes a registration's callback out. -/
theorem pends_of_unregister?
    (named : World ν)
    (world : next.world = named.unregister? machine.voided?)
    (same : named.states = machine.world.states)
    (cancelsNone : ∀ key, ¬ machine.Cancels key)
    (entersNot :
      machine.Listens place.state serial label reactions →
        machine.world.isCancelledState place.state = true) :
    next.world.Pends place (.listener serial label reactions) ↔
      RemainsOrEnters machine next place serial label reactions := by
  refine pends_of_voids ?_ cancelsNone entersNot
  have taken :
      next.world.Pends place (.listener serial label reactions) ↔
        machine.world.Pends place (.listener serial label reactions) ∧
          machine.voided? ≠ some place := by
    rw [world, World.pends_unregister?]
    unfold World.Pends
    rw [same]
  exact ⟨fun pends => ⟨(taken.mp pends).1, (taken.mp pends).2, pends.live⟩,
    fun pends => taken.mpr ⟨pends.1, pends.2.1⟩⟩

/-- A job that changes no state. -/
theorem pends_of_same
    (same : next.world.states = machine.world.states)
    (voidsNone : machine.voided? = none)
    (cancelsNone : ∀ key, ¬ machine.Cancels key)
    (entersNot :
      machine.Listens place.state serial label reactions →
        machine.world.isCancelledState place.state = true) :
    next.world.Pends place (.listener serial label reactions) ↔
      RemainsOrEnters machine next place serial label reactions :=
  pends_of_unregister? next.world (by rw [voidsNone]; rfl) same cancelsNone entersNot

/-- A job that cancels a state. -/
theorem pends_of_cancelState
    (linked : machine.world.Linked)
    (key : Nat)
    (world : next.world = (machine.world.cancelState key).1)
    (voidsNone : machine.voided? = none)
    (cancels : ∀ other, machine.Cancels other ↔ other = key)
    (entersNot : ¬ machine.Listens place.state serial label reactions) :
    next.world.Pends place (.listener serial label reactions) ↔
      RemainsOrEnters machine next place serial label reactions := by
  have pends := linked.pends_cancelState key place (.listener serial label reactions)
  rw [← world] at pends
  constructor
  · intro after
    obtain ⟨before, different⟩ := pends.mp after
    exact Or.inl ⟨before, by simp [voidsNone], fun same => different ((cancels _).mp same),
      after.live⟩
  · rintro (⟨before, -, different, -⟩ | ⟨listens, -⟩)
    · exact pends.mpr ⟨before, fun same => different ((cancels _).mpr same)⟩
    · exact absurd listens entersNot

/-- A job that registers a listener on a pending state. -/
theorem pends_of_onCancel
    (linked : machine.world.Linked)
    {name token : ν}
    {newLabel : String}
    {newReactions : List (Step ν)}
    {rest : List (Job ν)}
    (pending : machine.agenda = .perform (.onCancel name token newLabel newReactions) :: rest)
    {key : Nat}
    (held : machine.world.stateOf? token = some key)
    (active : machine.world.isCancelledState key = false)
    (world :
      next.world =
        (World.register { machine.world with nextSerial := machine.world.nextSerial + 1 } key
          (.listener machine.world.nextSerial newLabel newReactions)).1) :
    next.world.Pends place (.listener serial label reactions) ↔
      RemainsOrEnters machine next place serial label reactions := by
  obtain ⟨target, found⟩ := linked.live_of_stateOf? held
  have isPlace : machine.world.nextPlace key = ⟨key, target.nextEntry⟩ := by
    simp [World.nextPlace, found]
  have pends := World.pends_register
    { machine.world with nextSerial := machine.world.nextSerial + 1 } found
    (.listener machine.world.nextSerial newLabel newReactions) place
    (.listener serial label reactions)
  rw [← world] at pends
  constructor
  · intro after
    rcases pends.mp after with before | ⟨isNew, same⟩
    · exact Or.inl ⟨before, by simp [voided?, pending],
        by simp [Cancels, CancelsSource, FollowsLink, pending], after.live⟩
    · cases same
      have sameState : place.state = key := congrArg Registration.state isNew
      rw [RemainsOrEnters, sameState]
      exact Or.inr ⟨⟨name, token, rest, pending, held, rfl⟩, active, isNew.trans isPlace.symm⟩
  · rintro (⟨before, -⟩ | ⟨⟨_, _, _, same, holds, isSerial⟩, -, isNext⟩)
    · exact pends.mpr (Or.inl before)
    · cases pending.symm.trans same
      have sameState : place.state = key := Option.some.inj (holds.symm.trans held)
      rw [sameState, isPlace] at isNext
      exact pends.mpr (Or.inr ⟨isNext, by rw [isSerial]⟩)

/-- A job that is none of these. -/
theorem pends_of_quiet
    {job : Job ν}
    {rest : List (Job ν)}
    (pending : machine.agenda = job :: rest)
    (quiet : job.Quiet)
    (pends :
      next.world.Pends place (.listener serial label reactions) ↔
        machine.world.Pends place (.listener serial label reactions) ∧
          next.world.Live place.state) :
    next.world.Pends place (.listener serial label reactions) ↔
      RemainsOrEnters machine next place serial label reactions := by
  have voidsNone : machine.voided? = none := by
    unfold voided?
    rw [pending]
    split <;> simp_all [Job.Quiet]
  refine pends_of_voids (by simpa [voidsNone] using pends) (fun key cancels => ?_)
    (fun listens => ?_)
  · rcases cancels with ⟨source, _, same, -⟩ | ⟨_, same⟩
    · cases pending.symm.trans same
      exact quiet.elim
    · cases pending.symm.trans same
      exact quiet.elim
  · obtain ⟨_, _, _, same, -⟩ := listens
    cases pending.symm.trans same
    exact quiet.elim

/-- The listeners that are pending after a job are those that remain and one that is registered. -/
theorem pends_step
    (stepped : machine.step? = some next)
    (linked : machine.world.Linked) :
    next.world.Pends place (.listener serial label reactions) ↔
      RemainsOrEnters machine next place serial label reactions := by
  obtain ⟨world, agenda, reports⟩ := machine
  have apart := linked.linksApart place serial label reactions
  have unchanged :
      world.Pends place (.listener serial label reactions) ↔
        world.Pends place (.listener serial label reactions) ∧ world.Live place.state :=
    ⟨fun pends => ⟨pends, pends.live⟩, And.left⟩
  cases agenda with
  | nil => cases stepped
  | cons job rest =>
      cases job with
      | perform step =>
          simp only [step?, Option.some.injEq] at stepped
          subst stepped
          cases step with
          | source name => exact pends_of_quiet rfl trivial (linked.pends_addSource name)
          | linked name token =>
              exact pends_of_quiet rfl trivial (linked.pends_addLinked name token)
          | token name source =>
              exact pends_of_quiet rfl trivial (World.pends_setToken name _ apart)
          | detached name => exact pends_of_quiet rfl trivial (World.pends_setToken name none apart)
          | cancel source =>
              cases held : world.sources.get? source with
              | none =>
                  exact pends_of_same (by simp [World.perform, held]) rfl
                    (by simp [Cancels, CancelsSource, FollowsLink, held]) (by simp [Listens])
              | some key =>
                  exact pends_of_cancelState linked key (by simp [World.perform, held]) rfl
                    (by simp [Cancels, CancelsSource, FollowsLink, held, eq_comm])
                    (by simp [Listens])
          | onCancel name token newLabel newReactions =>
              cases held : world.stateOf? token with
              | none =>
                  exact pends_of_same (by simp [World.perform, held]) rfl
                    (by simp [Cancels, CancelsSource, FollowsLink])
                    (by simp +contextual [Listens, held])
              | some key =>
                  cases status : world.isCancelledState key with
                  | false =>
                      exact pends_of_onCancel linked rfl held status
                        (by simp [World.perform, held, status])
                  | true =>
                      refine pends_of_same (by simp [World.perform, held, status]) rfl
                        (by simp [Cancels, CancelsSource, FollowsLink]) ?_
                      rintro ⟨_, _, _, same, holds, -⟩
                      cases same
                      exact Option.some.inj (held.symm.trans holds) ▸ status
          | reset name =>
              exact pends_of_unregister? _ rfl rfl
                (by simp [Cancels, CancelsSource, FollowsLink]) (by simp [Listens])
          | move origin target =>
              by_cases same : origin = target
              · exact pends_of_same (by simp [World.perform, World.moveRegistration, same])
                  (by simp [voided?, same]) (by simp [Cancels, CancelsSource, FollowsLink])
                  (by simp [Listens])
              · have elsewhere :=
                  Table.get?_insert_other world.registrations (Ne.symm same) none
                exact pends_of_unregister?
                  { world with
                    registrations :=
                      (world.registrations.insert origin none).insert target
                        (world.registrations.get? origin).join }
                  (by simp [World.perform, World.moveRegistration, World.setRegistration, voided?,
                    same, elsewhere])
                  rfl (by simp [Cancels, CancelsSource, FollowsLink]) (by simp [Listens])
          | dropSource name =>
              exact pends_of_quiet rfl trivial (World.pends_removeSource name apart)
          | dropToken name => exact pends_of_quiet rfl trivial (World.pends_removeToken name apart)
          | dropRegistration name =>
              exact pends_of_unregister? _ rfl rfl
                (by simp [Cancels, CancelsSource, FollowsLink]) (by simp [Listens])
          | inspect token => exact pends_of_quiet rfl trivial unchanged
          | waitFor token => exact pends_of_quiet rfl trivial unchanged
          | wait token => exact pends_of_quiet rfl trivial unchanged
      | call callback =>
          cases callback with
          | link child =>
              simp only [step?, Option.some.injEq] at stepped
              subst stepped
              exact pends_of_cancelState linked child rfl rfl
                (by simp [Cancels, CancelsSource, FollowsLink, eq_comm]) (by simp [Listens])
          | listener serial label reactions =>
              simp only [step?, Option.some.injEq] at stepped
              subst stepped
              exact pends_of_quiet rfl trivial unchanged
      | assign name given =>
          simp only [step?, Option.some.injEq] at stepped
          subst stepped
          exact pends_of_unregister? _ rfl rfl
            (by simp [Cancels, CancelsSource, FollowsLink]) (by simp [Listens])
      | report step answer =>
          simp only [step?, Option.some.injEq] at stepped
          subst stepped
          exact pends_of_quiet rfl trivial unchanged

end PendingStep

end Machine

end Cancellation

end Cadence
