import Cadence.Proofs.Cancellation.Descent
import Cadence.Proofs.Cancellation.Pending
import Mathlib.Logic.Equiv.Basic

namespace Cadence

namespace Cancellation

/-!
# Who owns the callbacks of a state

A registration is an object of its own: a name holds it, or the next job is about to
give it a name, or a linked state keeps it as its link.  Objects are moved,
overwritten and destroyed in any order, and their places go stale when the state of
the callback is cancelled or dies.

Whatever a program does, at every moment the callbacks of a pending state and the
objects that have a place on it correspond to each other, one by one, and no two
objects ever have the same place.  A job hands objects on from owner to owner; it
voids one at most, and the only new place that it gives away is the next one of a
pending state, which no object had before.
-/

/-- What can own a place among the callbacks of a state. -/
inductive Owner (ν : Type)
  /-- The registration that a name holds. -/
  | named (name : ν)
  /-- The registration that the next job gives a name. -/
  | inHand
  /-- The link of a state to its parent. -/
  | link (child : Nat)
  deriving DecidableEq

namespace Owner

variable {ν : Type}

/-- Registrations, as opposed to links. -/
def IsUser : Owner ν → Prop
  | .link _ => False
  | _ => True

/-- A link owns the callback that cancels its state, and a registration owns a listener. -/
def Fits : Owner ν → Callback ν → Prop
  | .link child, callback => callback = .link child
  | _, .listener _ _ _ => True
  | _, .link _ => False

theorem user_or_link
    (owner : Owner ν) :
    owner.IsUser ∨ ∃ child, owner = .link child := by
  cases owner with
  | named name => exact Or.inl trivial
  | inHand => exact Or.inl trivial
  | link child => exact Or.inr ⟨child, rfl⟩

theorem isUser_iff
    (owner : Owner ν) :
    owner.IsUser ↔ ∀ child, owner ≠ .link child := by
  cases owner <;> simp [IsUser]

theorem fits_listener
    {owner : Owner ν}
    (isUser : owner.IsUser)
    (serial : Nat)
    (label : String)
    (reactions : List (Step ν)) :
    owner.Fits (.listener serial label reactions) := by
  cases owner with
  | named name => trivial
  | inHand => trivial
  | link child => exact isUser.elim

end Owner

/-- The steps that make, move or void registrations. -/
def Step.DealsInRegistrations
    {ν : Type} :
    Step ν → Bool
  | .onCancel _ _ _ _ => true
  | .reset _ => true
  | .move _ _ => true
  | .dropRegistration _ => true
  | _ => false

namespace World

variable {ν : Type} [DecidableEq ν]

/-- The place of the registration that a name holds. -/
def named?
    (world : World ν)
    (name : ν) :
    Option Registration :=
  (world.registrations.get? name).join

theorem named?_of_registrations
    {before after : World ν}
    (same : after.registrations = before.registrations)
    (name : ν) :
    after.named? name = before.named? name := by
  rw [named?, same, named?]

/-! ### Registrations after a step -/

omit [DecidableEq ν] in
@[simp] theorem registrations_unregister?
    (world : World ν)
    (place : Option Registration) :
    (world.unregister? place).registrations = world.registrations := by
  cases place with
  | none => rfl
  | some place => exact world.registrations_unregister place

omit [DecidableEq ν] in
@[simp] theorem registrations_release?
    (world : World ν)
    (key : Option Nat) :
    (world.release? key).registrations = world.registrations :=
  (names_release? world key).2.2

@[simp] theorem registrations_setSource
    (world : World ν)
    (name : ν)
    (key : Nat) :
    (world.setSource name key).registrations = world.registrations := by
  simp [setSource]

@[simp] theorem registrations_setToken
    (world : World ν)
    (name : ν)
    (key : Option Nat) :
    (world.setToken name key).registrations = world.registrations := by
  simp [setToken]

@[simp] theorem registrations_removeSource
    (world : World ν)
    (name : ν) :
    (world.removeSource name).registrations = world.registrations := by
  simp [removeSource]

@[simp] theorem registrations_removeToken
    (world : World ν)
    (name : ν) :
    (world.removeToken name).registrations = world.registrations := by
  simp [removeToken]

@[simp] theorem registrations_addSource
    (world : World ν)
    (name : ν) :
    (world.addSource name).registrations = world.registrations := by
  simp [addSource]

@[simp] theorem registrations_addLinked
    (world : World ν)
    (name token : ν) :
    (world.addLinked name token).registrations = world.registrations := by
  cases held : world.stateOf? token with
  | none => simp [addLinked_of_detached held]
  | some parent =>
      cases cancelled : world.isCancelledState parent with
      | true => simp [addLinked_of_cancelled held cancelled]
      | false =>
          simp [addLinked_of_pending held cancelled,
            (world.register_frame parent (.link world.nextState)).2.2.2]

@[simp] theorem registrations_setRegistration
    (world : World ν)
    (name : ν)
    (place : Option Registration) :
    (world.setRegistration name place).registrations =
      world.registrations.insert name place := by
  simp [setRegistration]

@[simp] theorem registrations_removeRegistration
    (world : World ν)
    (name : ν) :
    (world.removeRegistration name).registrations = world.registrations.erase name := by
  simp [removeRegistration]

/-- The link of a state that is new points to the next place of a pending state. -/
theorem link_of_addLinked
    {world : World ν}
    (linked : world.Linked)
    {name token : ν}
    {key : Nat}
    {state : State ν}
    (found : (world.addLinked name token).states.get? key = some state)
    {place : Registration}
    (isLinked : state.link = some place) :
    (∃ old, world.states.get? key = some old ∧ old.link = some place) ∨
      key = world.nextState ∧ world.isCancelledState place.state = false ∧
        world.Live place.state ∧ place = world.nextPlace place.state := by
  cases held : world.stateOf? token with
  | none =>
      rw [addLinked_of_detached held] at found
      rcases retains_of_addSource found with ⟨old, inBefore, link, -⟩ | ⟨-, link, -⟩
      · exact Or.inl ⟨old, inBefore, link.symm.trans isLinked⟩
      · simp [link] at isLinked
  | some parent =>
      cases cancelled : world.isCancelledState parent with
      | true =>
          rw [addLinked_of_cancelled held cancelled] at found
          rcases retains_of_bear world (shrinks_setSource _ name world.nextState) found with
            ⟨old, inBefore, link, -⟩ | ⟨-, link, -⟩
          · exact Or.inl ⟨old, inBefore, link.symm.trans isLinked⟩
          · simp [link] at isLinked
      | false =>
          obtain ⟨target, targetFound⟩ := linked.live_of_stateOf? held
          have sameNext := (world.register_frame parent (.link world.nextState)).1
          rw [addLinked_of_pending held cancelled, world.register_place targetFound] at found
          rcases retains_of_bear (world.register parent (.link world.nextState)).1
              (shrinks_setSource _ name world.nextState)
              (by simpa only [bear, sameNext] using found) with
            ⟨old, inGrown, link, -⟩ | ⟨isNew, link, -⟩
          · obtain ⟨older, inBefore, sameLink, -⟩ := retains_of_register world inGrown
            exact Or.inl ⟨older, inBefore, (link.trans sameLink).symm.trans isLinked⟩
          · obtain rfl := Option.some.inj (isLinked.symm.trans link)
            refine Or.inr ⟨isNew.trans sameNext, cancelled, ⟨target, targetFound⟩, ?_⟩
            simp [nextPlace, targetFound]

end World

namespace Machine

variable {ν : Type} [DecidableEq ν]

/-- The place of the registration that the next job gives a name. -/
def inHand?
    (machine : Machine ν) :
    Option Registration :=
  match machine.agenda with
  | .assign _ place :: _ => place
  | _ => none

/-- The place that an owner has, which may be stale. -/
def placeOf?
    (machine : Machine ν) :
    Owner ν → Option Registration
  | .named name => machine.world.named? name
  | .inHand => machine.inHand?
  | .link child => (machine.world.states.get? child).bind State.link

/-- Only the next job can give a name a registration that has a place. -/
def HandsOverNext
    (machine : Machine ν) :
    Prop :=
  ∀ name place, Job.assign name (some place) ∉ machine.agenda.tail

/-- The next job registers a listener on a pending state, in the next place of it. -/
def Registers
    (machine : Machine ν)
    (place : Registration) :
    Prop :=
  (∃ serial label reactions, machine.Listens place.state serial label reactions) ∧
    machine.world.isCancelledState place.state = false ∧
    place = machine.world.nextPlace place.state

/-- How a job hands registrations on.  Every owner after the job has what its origin had, but for
the one registration that the job voids, if any; and a listener that is registered is in hand. -/
structure Trades
    (machine next : Machine ν)
    (origin : Equiv.Perm (Owner ν))
    (voided : Option (Owner ν)) :
    Prop where
  voids : machine.voided? = voided.bind machine.placeOf?
  links : ∀ child, origin (.link child) = .link child
  places :
    ∀ owner place, owner.IsUser →
      (next.placeOf? owner = some place ↔
        (machine.placeOf? (origin owner) = some place ∧ voided ≠ some (origin owner)) ∨
          (owner = .inHand ∧ machine.Registers place))

section Trades

variable {machine next : Machine ν}

/-- A job that leaves what names hold; at most, what it registers is in hand then. -/
theorem trades_of_same
    (sameNames : ∀ name, next.world.named? name = machine.world.named? name)
    (notBefore : machine.inHand? = none)
    (after : ∀ place, next.inHand? = some place ↔ machine.Registers place)
    (voidsNone : machine.voided? = none) :
    Trades machine next (Equiv.refl _) none where
  voids := voidsNone
  links := fun _ => rfl
  places := by
    intro owner place isUser
    cases owner with
    | named name => simp [placeOf?, sameNames]
    | inHand => simp [placeOf?, notBefore, after]
    | link child => exact isUser.elim

/-- A job that gives a name what is in hand, or nothing. -/
theorem trades_of_give
    (name : ν)
    (given : next.world.named? name = machine.inHand?)
    (others : ∀ other, other ≠ name → next.world.named? other = machine.world.named? other)
    (notAfter : next.inHand? = none)
    (voidsName : machine.voided? = machine.world.named? name)
    (registersNone : ∀ place, ¬ machine.Registers place) :
    Trades machine next (Equiv.swap (.named name) .inHand) (some (.named name)) where
  voids := voidsName
  links := fun child => Equiv.swap_apply_of_ne_of_ne (by simp) (by simp)
  places := by
    intro owner place isUser
    cases owner with
    | named other =>
        by_cases same : other = name
        · subst same
          simp [placeOf?, given]
        · have apart : Equiv.swap (Owner.named name) .inHand (.named other) = .named other :=
            Equiv.swap_apply_of_ne_of_ne (by simp [same]) (by simp)
          simp [placeOf?, apart, others other same, Ne.symm same]
    | inHand => simp [placeOf?, notAfter, registersNone]
    | link child => exact isUser.elim

/-- A job that moves a registration from one name to another. -/
theorem trades_of_move
    {origin target : ν}
    (different : origin ≠ target)
    (moved : next.world.named? target = machine.world.named? origin)
    (emptied : next.world.named? origin = none)
    (others :
      ∀ other, other ≠ origin → other ≠ target →
        next.world.named? other = machine.world.named? other)
    (notBefore : machine.inHand? = none)
    (notAfter : next.inHand? = none)
    (voidsTarget : machine.voided? = machine.world.named? target)
    (registersNone : ∀ place, ¬ machine.Registers place) :
    Trades machine next (Equiv.swap (.named origin) (.named target)) (some (.named target)) where
  voids := voidsTarget
  links := fun child => Equiv.swap_apply_of_ne_of_ne (by simp) (by simp)
  places := by
    intro owner place isUser
    cases owner with
    | named other =>
        by_cases isOrigin : other = origin
        · subst isOrigin
          simp [placeOf?, emptied]
        · by_cases isTarget : other = target
          · subst isTarget
            simp [placeOf?, moved, isOrigin]
          · have apart :
                Equiv.swap (Owner.named origin) (.named target) (.named other) = .named other :=
              Equiv.swap_apply_of_ne_of_ne (by simp [isOrigin]) (by simp [isTarget])
            simp [placeOf?, apart, others other isOrigin isTarget, Ne.symm isTarget]
    | inHand =>
        have apart : Equiv.swap (Owner.named origin) (.named target) .inHand = .inHand :=
          Equiv.swap_apply_of_ne_of_ne (by simp) (by simp)
        simp [placeOf?, apart, notBefore, notAfter, registersNone]
    | link child => exact isUser.elim

end Trades

omit [DecidableEq ν] in
/-- Nothing is in hand when no job hands anything over. -/
theorem inHand?_eq_none
    {machine : Machine ν}
    (handsNothing : ∀ name place, Job.assign name (some place) ∉ machine.agenda) :
    machine.inHand? = none := by
  unfold inHand?
  split
  · next name place rest pending =>
      cases place with
      | none => rfl
      | some place => exact absurd (pending ▸ List.mem_cons_self) (handsNothing name place)
  · rfl

/-- Only the registration of a listener registers. -/
theorem not_registers
    {machine : Machine ν}
    (noListener :
      ∀ name token label reactions rest,
        machine.agenda ≠ .perform (.onCancel name token label reactions) :: rest)
    (place : Registration) :
    ¬ machine.Registers place := by
  rintro ⟨⟨_, label, reactions, name, token, rest, pending, -⟩, -⟩
  exact noListener name token label reactions rest pending

section Steps

variable {world : World ν} {rest : List (Job ν)} {reports : List (Report ν)}

/-- A step that leaves what names hold, hands nothing over and voids and registers nothing. -/
theorem exists_trades_of_idle
    {step : Step ν}
    (handsNothing : ∀ name place, Job.assign name (some place) ∉ rest)
    (sameNames : (world.perform step).1.registrations = world.registrations)
    (puts : ∀ name place, Job.assign name (some place) ∉ (world.perform step).2)
    (voidsNone : (Machine.mk world (.perform step :: rest) reports).voided? = none)
    (registersNone :
      ∀ place, ¬ (Machine.mk world (.perform step :: rest) reports).Registers place) :
    ∃ origin voided,
      Trades ⟨world, .perform step :: rest, reports⟩
        ⟨(world.perform step).1, (world.perform step).2 ++ rest, reports⟩ origin voided := by
  have notAfter :
      inHand? ⟨(world.perform step).1, (world.perform step).2 ++ rest, reports⟩ = none := by
    apply inHand?_eq_none
    intro name place pending
    rcases List.mem_append.mp pending with new | old
    · exact puts name place new
    · exact handsNothing name place old
  exact ⟨_, _, trades_of_same (World.named?_of_registrations sameNames) rfl
    (by simp [notAfter, registersNone]) voidsNone⟩

/-- Most steps do not touch registrations. -/
theorem exists_trades_of_quiet
    {step : Step ν}
    (handsNothing : ∀ name place, Job.assign name (some place) ∉ rest)
    (quiet : step.DealsInRegistrations = false) :
    ∃ origin voided,
      Trades ⟨world, .perform step :: rest, reports⟩
        ⟨(world.perform step).1, (world.perform step).2 ++ rest, reports⟩ origin voided := by
  have noListener :
      ∀ name token label reactions rest',
        (Machine.mk world (.perform step :: rest) reports).agenda ≠
          .perform (.onCancel name token label reactions) :: rest' := by
    intro name token label reactions _ same
    cases same
    cases quiet
  cases step with
  | onCancel => cases quiet
  | reset => cases quiet
  | move => cases quiet
  | dropRegistration => cases quiet
  | cancel source =>
      cases held : world.sources.get? source with
      | none =>
          exact exists_trades_of_idle handsNothing (by simp [World.perform, held])
            (by simp [World.perform, held]) rfl (not_registers noListener)
      | some key =>
          exact exists_trades_of_idle handsNothing
            (by simp [World.perform, held, (world.cancelState_frame key).2.2.2])
            (by simp [World.perform, held]) rfl (not_registers noListener)
  | _ =>
      exact exists_trades_of_idle handsNothing (by simp [World.perform])
        (by simp [World.perform]) rfl (not_registers noListener)

/-- A listener that is registered on a pending state is in hand; any other is not. -/
theorem exists_trades_of_onCancel
    (linked : world.Linked)
    (handsNothing : ∀ name place, Job.assign name (some place) ∉ rest)
    (name token : ν)
    (label : String)
    (reactions : List (Step ν)) :
    ∃ origin voided,
      Trades ⟨world, .perform (.onCancel name token label reactions) :: rest, reports⟩
        ⟨(world.perform (.onCancel name token label reactions)).1,
          (world.perform (.onCancel name token label reactions)).2 ++ rest, reports⟩
        origin voided := by
  cases held : world.stateOf? token with
  | none =>
      refine exists_trades_of_idle handsNothing ?_ ?_ rfl ?_
      · simp [World.perform, held]
      · simp [World.perform, held]
      · rintro place ⟨⟨_, _, _, _, _, _, same, holds, -⟩, -⟩
        cases same
        cases held.symm.trans holds
  | some key =>
      cases status : world.isCancelledState key with
      | true =>
          refine exists_trades_of_idle handsNothing ?_ ?_ rfl ?_
          · simp [World.perform, held, status]
          · simp [World.perform, held, status]
          · rintro place ⟨⟨_, _, _, _, _, _, same, holds, -⟩, active, -⟩
            cases same
            cases held.symm.trans holds
            cases status.symm.trans active
      | false =>
          obtain ⟨target, found⟩ := linked.live_of_stateOf? held
          let callback : Callback ν := .listener world.nextSerial label reactions
          have numbered :=
            World.register_frame { world with nextSerial := world.nextSerial + 1 } key callback
          have placed :=
            World.register_place { world with nextSerial := world.nextSerial + 1 } found callback
          have nextPlace : world.nextPlace key = ⟨key, target.nextEntry⟩ := by
            simp [World.nextPlace, found]
          refine ⟨_, _, trades_of_same (World.named?_of_registrations ?_) rfl
            (fun place => ?_) rfl⟩
          · simp only [World.perform, held, status]
            exact numbered.2.2.2
          · simp only [World.perform, held, status]
            change (World.register _ key callback).2 = some place ↔ _
            rw [placed]
            constructor
            · intro same
              cases same
              exact ⟨⟨_, _, _, name, token, rest, rfl, held, rfl⟩, status, nextPlace.symm⟩
            · rintro ⟨⟨_, _, _, _, _, _, same, holds, -⟩, -, isNext⟩
              cases same
              have sameState : place.state = key := Option.some.inj (holds.symm.trans held)
              rw [isNext, sameState, nextPlace]

/-- A registration that is moved leaves its name; a name that is moved to itself stays as it is. -/
theorem exists_trades_of_move
    (origin target : ν) :
    ∃ exchange voided,
      Trades ⟨world, .perform (.move origin target) :: rest, reports⟩
        ⟨(world.perform (.move origin target)).1,
          (world.perform (.move origin target)).2 ++ rest, reports⟩ exchange voided := by
  have registersNone (place : Registration) :
      ¬ Registers ⟨world, .perform (.move origin target) :: rest, reports⟩ place :=
    not_registers (by simp) place
  by_cases same : origin = target
  · subst same
    refine ⟨_, _, trades_of_same (fun name => ?_) rfl
      (by simp [registersNone, inHand?, World.perform]) (by simp [voided?])⟩
    by_cases isOrigin : name = origin
    · simp [World.perform, World.moveRegistration, World.named?, isOrigin]
    · simp [World.perform, World.moveRegistration, World.named?,
        Table.get?_insert_other _ isOrigin]
  · refine ⟨_, _, trades_of_move same ?_ ?_ (fun other notOrigin notTarget => ?_) rfl rfl ?_
      registersNone⟩
    · simp [World.perform, World.moveRegistration, World.named?, same]
    · simp [World.perform, World.moveRegistration, World.named?, same,
        Table.get?_insert_other _ same]
    · simp [World.perform, World.moveRegistration, World.named?, same,
        Table.get?_insert_other _ notOrigin, Table.get?_insert_other _ notTarget]
    · simp [voided?, same, World.named?]

/-- Every job hands registrations on. -/
theorem exists_trades
    {machine next : Machine ν}
    (stepped : machine.step? = some next)
    (linked : machine.world.Linked)
    (handsOver : machine.HandsOverNext) :
    ∃ origin voided, Trades machine next origin voided := by
  obtain ⟨world, agenda, reports⟩ := machine
  cases agenda with
  | nil => cases stepped
  | cons job rest =>
      have handsNothing : ∀ name place, Job.assign name (some place) ∉ rest := handsOver
      cases job with
      | perform step =>
          simp only [step?, Option.some.injEq] at stepped
          subst stepped
          cases step with
          | onCancel name token label reactions =>
              exact exists_trades_of_onCancel linked handsNothing name token label reactions
          | reset name =>
              refine ⟨_, _, trades_of_give name ?_ (fun other different => ?_) rfl rfl
                (not_registers (by simp))⟩
              · simp [World.perform, World.named?, inHand?]
              · simp [World.perform, World.named?, Table.get?_insert_other _ different]
          | move origin target => exact exists_trades_of_move origin target
          | dropRegistration name =>
              refine ⟨_, _, trades_of_give name ?_ (fun other different => ?_) rfl rfl
                (not_registers (by simp))⟩
              · simp [World.perform, World.named?, inHand?]
              · simp [World.perform, World.named?, Table.get?_erase_other _ different]
          | _ => exact exists_trades_of_quiet handsNothing rfl
      | call callback =>
          cases callback with
          | link child =>
              simp only [step?, Option.some.injEq] at stepped
              subst stepped
              refine ⟨_, _, trades_of_same
                (World.named?_of_registrations (world.cancelState_frame child).2.2.2) rfl ?_ rfl⟩
              rw [inHand?_eq_none (by simp [handsNothing])]
              simpa using not_registers (by simp)
          | listener serial label reactions =>
              simp only [step?, Option.some.injEq] at stepped
              subst stepped
              refine ⟨_, _, trades_of_same (fun _ => rfl) rfl ?_ rfl⟩
              rw [inHand?_eq_none (by simp [handsNothing])]
              simpa using not_registers (by simp)
      | assign name place =>
          simp only [step?, Option.some.injEq] at stepped
          subst stepped
          refine ⟨_, _, trades_of_give name ?_ (fun other different => ?_)
            (inHand?_eq_none handsNothing) rfl (not_registers (by simp))⟩
          · simp [World.named?, inHand?]
          · simp [World.named?, Table.get?_insert_other _ different]
      | report step answer =>
          simp only [step?, Option.some.injEq] at stepped
          subst stepped
          refine ⟨_, _, trades_of_same (fun _ => rfl) rfl ?_ rfl⟩
          rw [inHand?_eq_none handsNothing]
          simpa using not_registers (by simp)

end Steps

end Machine

end Cancellation

end Cadence
