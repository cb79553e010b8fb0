import Cadence.Proofs.Cancellation.Ownership

namespace Cadence

namespace Cancellation

/-!
# Registrations neither leak nor dangle

A callback that stays in the list of a state without an owner could never be taken
out again, and an owner without its callback would take out nothing, or what belongs
to another.  Neither happens: from moment to moment a listener keeps its owner until
the registration is voided, an owner keeps its listener until the state is cancelled
or dies, and a place that is given away is new.
-/

namespace Machine

variable {ν : Type} [DecidableEq ν]

/-! ### Places -/

/-- The place of a registration is not that of a link, and it was given before. -/
theorem unlinked_of_placeOf?
    {machine : Machine ν}
    (sound : machine.Sound)
    {owner : Owner ν}
    (isUser : owner.IsUser)
    {place : Registration}
    (placed : machine.placeOf? owner = some place) :
    machine.world.Unlinked place := by
  cases owner with
  | named name => exact sound.linked.unlinked_of_join placed
  | inHand =>
      simp only [placeOf?, inHand?] at placed
      split at placed
      · next name given rest pending =>
          exact sound.assigned name place (by rw [pending, placed]; exact List.mem_cons_self)
      · cases placed
  | link child => exact isUser.elim

/-- The next place of a pending state is nobody's yet. -/
theorem placeOf?_ne_nextPlace
    {machine : Machine ν}
    (sound : machine.Sound)
    {key : Nat}
    (alive : machine.world.Live key)
    (active : machine.world.isCancelledState key = false)
    (owner : Owner ν) :
    machine.placeOf? owner ≠ some (machine.world.nextPlace key) := by
  obtain ⟨state, found⟩ := alive
  have isNext : machine.world.nextPlace key = ⟨key, state.nextEntry⟩ := by
    simp [World.nextPlace, found]
  rw [isNext]
  intro placed
  rcases owner.user_or_link with isUser | ⟨child, rfl⟩
  · have below := ((unlinked_of_placeOf? sound isUser placed).2 state found).1
    exact Nat.lt_irrefl _ below
  · -- A link to a pending state is among its callbacks, all of which have earlier places.
    obtain ⟨childState, childFound, isLinked⟩ := Option.bind_eq_some_iff.mp placed
    rw [World.isCancelledState_of_get? found] at active
    have present := sound.linked.upward child childState _ state childFound isLinked found active
    exact Nat.lt_irrefl _ ((sound.linked.ordered key state found).below _ present)

/-- Who gets the place that the next job gives away, if it gives one away. -/
def heir
    (machine : Machine ν) :
    Owner ν :=
  match machine.agenda with
  | .perform (.linked _ _) :: _ => .link machine.world.nextState
  | _ => .inHand

theorem Registers.heir
    {machine : Machine ν}
    {place : Registration}
    (registers : machine.Registers place) :
    machine.heir = .inHand := by
  obtain ⟨⟨_, _, _, _, _, _, pending, -⟩, -⟩ := registers
  simp [Machine.heir, pending]

theorem Registers.live
    {machine : Machine ν}
    (linked : machine.world.Linked)
    {place : Registration}
    (registers : machine.Registers place) :
    machine.world.Live place.state := by
  obtain ⟨⟨_, _, _, _, _, _, -, held, -⟩, -⟩ := registers
  exact linked.live_of_stateOf? held

/-- A link after a job was there before, or its state is new and the link has a new place. -/
theorem link_of_step?
    {machine next : Machine ν}
    (stepped : machine.step? = some next)
    (sound : machine.Sound)
    {child : Nat}
    {place : Registration}
    (placed : next.placeOf? (.link child) = some place) :
    machine.placeOf? (.link child) = some place ∨
      machine.heir = .link child ∧ ∀ owner, machine.placeOf? owner ≠ some place := by
  obtain ⟨state, found, isLinked⟩ := Option.bind_eq_some_iff.mp placed
  have kept (old : State ν) (inBefore : machine.world.states.get? child = some old)
      (link : old.link = some place) : machine.placeOf? (.link child) = some place :=
    Option.bind_eq_some_iff.mpr ⟨old, inBefore, link⟩
  rcases keeps_or_bears stepped sound.linked found with ⟨old, inBefore, link, -⟩ | bears
  · exact Or.inl (kept old inBefore (link.symm.trans isLinked))
  · obtain ⟨name, token, rest, pending, -, -⟩ := bears.link place isLinked
    have world : next.world = machine.world.addLinked name token := by
      obtain ⟨world, agenda, reports⟩ := machine
      cases pending
      cases stepped
      rfl
    rw [world] at found
    rcases World.link_of_addLinked sound.linked found isLinked with
      ⟨old, inBefore, link⟩ | ⟨isNew, active, alive, isNext⟩
    · exact Or.inl (kept old inBefore link)
    · refine Or.inr ⟨by simp [heir, pending, isNew], fun owner => ?_⟩
      rw [isNext]
      exact placeOf?_ne_nextPlace sound alive active owner

/-! ### One owner for each place -/

/-- No two owners have the same place. -/
def Apart
    (machine : Machine ν) :
    Prop :=
  ∀ first second place, machine.placeOf? first = some place →
    machine.placeOf? second = some place → first = second

/-- What an owner has after a job its origin had before, or the place is new. -/
theorem Trades.old_or_new
    {machine next : Machine ν}
    (stepped : machine.step? = some next)
    (sound : machine.Sound)
    {origin : Equiv.Perm (Owner ν)}
    {voided : Option (Owner ν)}
    (trades : Trades machine next origin voided)
    {owner : Owner ν}
    {place : Registration}
    (placed : next.placeOf? owner = some place) :
    machine.placeOf? (origin owner) = some place ∨
      owner = machine.heir ∧ ∀ other, machine.placeOf? other ≠ some place := by
  rcases owner.user_or_link with isUser | ⟨child, rfl⟩
  · rcases (trades.places owner place isUser).mp placed with ⟨before, -⟩ | ⟨rfl, registers⟩
    · exact Or.inl before
    · refine Or.inr ⟨registers.heir.symm, fun other => ?_⟩
      rw [registers.2.2]
      exact placeOf?_ne_nextPlace sound (registers.live sound.linked) registers.2.1 other
  · rw [trades.links child]
    exact (link_of_step? stepped sound placed).imp_right fun ⟨isHeir, isNew⟩ =>
      ⟨isHeir.symm, isNew⟩

theorem Apart.step
    {machine next : Machine ν}
    (stepped : machine.step? = some next)
    (sound : machine.Sound)
    (handsOver : machine.HandsOverNext)
    (apart : machine.Apart) :
    next.Apart := by
  obtain ⟨origin, voided, trades⟩ := exists_trades stepped sound.linked handsOver
  intro first second place firstPlaced secondPlaced
  rcases trades.old_or_new stepped sound firstPlaced with firstOld | ⟨firstHeir, isNew⟩
  · rcases trades.old_or_new stepped sound secondPlaced with secondOld | ⟨-, isNew⟩
    · exact origin.injective (apart _ _ place firstOld secondOld)
    · exact absurd firstOld (isNew _)
  · rcases trades.old_or_new stepped sound secondPlaced with secondOld | ⟨secondHeir, -⟩
    · exact absurd secondOld (isNew _)
    · exact firstHeir.trans secondHeir.symm

/-! ### Handing over -/

/-- Of the jobs that a step puts on the agenda only the first can hand something over. -/
theorem assign_not_mem_tail_perform
    (world : World ν)
    (step : Step ν)
    (name : ν)
    (place : Registration) :
    Job.assign name (some place) ∉ (world.perform step).2.tail := by
  cases step with
  | cancel source =>
      cases held : world.sources.get? source with
      | none => simp [World.perform, held]
      | some key =>
          simp only [World.perform, held]
          intro pending
          simpa using List.mem_of_mem_tail pending
  | onCancel registration token label reactions =>
      cases held : world.stateOf? token with
      | none => simp [World.perform, held]
      | some key =>
          cases status : world.isCancelledState key with
          | true => simp [World.perform, held, status]
          | false => simp [World.perform, held, status]
  | _ => simp [World.perform]

theorem HandsOverNext.step
    {machine next : Machine ν}
    (stepped : machine.step? = some next)
    (handsOver : machine.HandsOverNext) :
    next.HandsOverNext := by
  obtain ⟨world, agenda, reports⟩ := machine
  intro name place
  cases agenda with
  | nil => cases stepped
  | cons job rest =>
      have handsNothing : ∀ name place, Job.assign name (some place) ∉ rest := handsOver
      have behind (front : List (Job ν)) (frontTail : Job.assign name (some place) ∉ front.tail) :
          Job.assign name (some place) ∉ (front ++ rest).tail := by
        intro pending
        cases front with
        | nil => exact handsNothing name place (List.mem_of_mem_tail pending)
        | cons first others =>
            exact (List.mem_append.mp pending).elim frontTail (handsNothing name place)
      cases job with
      | perform step =>
          simp only [step?, Option.some.injEq] at stepped
          subst stepped
          exact behind _ (assign_not_mem_tail_perform world step name place)
      | call callback =>
          cases callback with
          | link child =>
              simp only [step?, Option.some.injEq] at stepped
              subst stepped
              exact behind _ fun pending => by simpa using List.mem_of_mem_tail pending
          | listener serial label reactions =>
              simp only [step?, Option.some.injEq] at stepped
              subst stepped
              exact behind _ fun pending => by simpa using List.mem_of_mem_tail pending
      | assign given placed =>
          simp only [step?, Option.some.injEq] at stepped
          subst stepped
          exact behind [] (by simp)
      | report step answer =>
          simp only [step?, Option.some.injEq] at stepped
          subst stepped
          exact behind [] (by simp)

/-! ### Nothing leaks, nothing dangles -/

/-- Every listener that is pending is that of a registration. -/
def NoLeak
    (machine : Machine ν) :
    Prop :=
  ∀ place serial label reactions,
    machine.world.Pends place (.listener serial label reactions) →
      ∃ owner : Owner ν, owner.IsUser ∧ machine.placeOf? owner = some place

/-- A registration that has a place on a pending state has a listener there. -/
def NoneDangles
    (machine : Machine ν) :
    Prop :=
  ∀ (owner : Owner ν) place, owner.IsUser → machine.placeOf? owner = some place →
    machine.world.Live place.state → machine.world.isCancelledState place.state = false →
      ∃ serial label reactions, machine.world.Pends place (.listener serial label reactions)

theorem Trades.isUser
    {machine next : Machine ν}
    {origin : Equiv.Perm (Owner ν)}
    {voided : Option (Owner ν)}
    (trades : Trades machine next origin voided)
    (owner : Owner ν) :
    (origin owner).IsUser ↔ owner.IsUser := by
  have link_iff (child : Nat) : origin owner = .link child ↔ owner = .link child := by
    rw [← trades.links child, origin.injective.eq_iff, trades.links child]
  rw [Owner.isUser_iff, Owner.isUser_iff]
  exact forall_congr' fun child => not_congr (link_iff child)

theorem NoLeak.step
    {machine next : Machine ν}
    (stepped : machine.step? = some next)
    (linked : machine.world.Linked)
    (handsOver : machine.HandsOverNext)
    (noLeak : machine.NoLeak) :
    next.NoLeak := by
  obtain ⟨origin, voided, trades⟩ := exists_trades stepped linked handsOver
  intro place serial label reactions pends
  rcases (pends_step stepped linked).mp pends with ⟨before, notVoided, -, -⟩ | ⟨listens, new⟩
  · obtain ⟨owner, isUser, placed⟩ := noLeak place serial label reactions before
    have heirIsUser : (origin.symm owner).IsUser := by
      rw [← trades.isUser, origin.apply_symm_apply]
      exact isUser
    refine ⟨origin.symm owner, heirIsUser, (trades.places _ place heirIsUser).mpr (Or.inl ?_)⟩
    rw [origin.apply_symm_apply]
    refine ⟨placed, fun isVoided => notVoided ?_⟩
    rw [trades.voids, isVoided]
    exact placed
  · exact ⟨.inHand, trivial, (trades.places .inHand place trivial).mpr
      (Or.inr ⟨rfl, ⟨serial, label, reactions, listens⟩, new⟩)⟩

theorem NoneDangles.step
    {machine next : Machine ν}
    (stepped : machine.step? = some next)
    (sound : machine.Sound)
    (handsOver : machine.HandsOverNext)
    (apart : machine.Apart)
    (noneDangles : machine.NoneDangles) :
    next.NoneDangles := by
  obtain ⟨origin, voided, trades⟩ := exists_trades stepped sound.linked handsOver
  intro owner place isUser placed alive active
  rcases (trades.places owner place isUser).mp placed with ⟨before, kept⟩ | ⟨-, registers⟩
  · have originIsUser := (trades.isUser owner).mpr isUser
    have older := (unlinked_of_placeOf? sound originIsUser before).1
    have activeBefore : machine.world.isCancelledState place.state = false := by
      refine Bool.eq_false_iff.mpr fun wasCancelled => ?_
      rw [isCancelledState_of_step? stepped sound.linked older wasCancelled alive] at active
      cases active
    obtain ⟨serial, label, reactions, pends⟩ :=
      noneDangles (origin owner) place originIsUser before
        (live_of_step? stepped sound.linked older alive) activeBefore
    -- The place is not voided, since it has one owner only, and that one is not.
    have notVoided : machine.voided? ≠ some place := by
      intro isVoided
      rw [trades.voids] at isVoided
      obtain ⟨loser, isLoser, lost⟩ := Option.bind_eq_some_iff.mp isVoided
      exact kept (isLoser.trans (congrArg some (apart _ _ place lost before)))
    have cancelsNot : ¬ machine.Cancels place.state := by
      intro cancels
      obtain ⟨state, found⟩ := alive
      obtain ⟨old, -, -, status⟩ := keeps_of_lt stepped sound.linked older found
      rw [World.isCancelledState_of_get? found, status.mpr (Or.inr cancels)] at active
      cases active
    exact ⟨serial, label, reactions, (pends_step stepped sound.linked).mpr
      (Or.inl ⟨pends, notVoided, cancelsNot, alive⟩)⟩
  · obtain ⟨⟨serial, label, reactions, listens⟩, new⟩ := registers
    exact ⟨serial, label, reactions, (pends_step stepped sound.linked).mpr (Or.inr ⟨listens, new⟩)⟩

/-- Registrations and listeners belong to each other, and only the next job has one in hand. -/
structure Kept
    (machine : Machine ν) :
    Prop where
  sound : machine.Sound
  handsOver : machine.HandsOverNext
  apart : machine.Apart
  noLeak : machine.NoLeak
  noneDangles : machine.NoneDangles

theorem Kept.step
    {machine next : Machine ν}
    (stepped : machine.step? = some next)
    (kept : machine.Kept) :
    next.Kept where
  sound := kept.sound.step stepped
  handsOver := kept.handsOver.step stepped
  apart := kept.apart.step stepped kept.sound kept.handsOver
  noLeak := kept.noLeak.step stepped kept.sound.linked kept.handsOver
  noneDangles := kept.noneDangles.step stepped kept.sound kept.handsOver kept.apart

/-- A program starts with no registrations. -/
theorem Kept.initially
    (program : List (Step ν)) :
    Kept { agenda := program.map .perform } := by
  have nothing (owner : Owner ν) :
      Machine.placeOf? { agenda := program.map .perform } owner = none := by
    cases owner with
    | named name => rfl
    | inHand => exact inHand?_eq_none (by simp)
    | link child => rfl
  exact {
    sound := sound_moment program 0
    handsOver := fun name place pending => by simpa using List.mem_of_mem_tail pending
    apart := fun first _ place placed => by simp [nothing] at placed
    noLeak := fun place _ _ _ pends => by
      obtain ⟨state, found, -⟩ := pends
      cases found
    noneDangles := fun owner place _ placed => by simp [nothing] at placed }

/-- The callbacks of all live states and the objects that own them match.  A registration object is
a name's or in hand, and the link of a live linked state counts as one; an object whose state is
dead or cancelled has a stale place, which is nobody else's either. -/
structure Accounted
    (machine : Machine ν) :
    Prop where
  ordered :
    ∀ key state, machine.world.states.get? key = some state →
      (state.callbacks.map Prod.fst).Pairwise (· < ·) ∧
        ∀ entry ∈ state.callbacks, entry.1 < state.nextEntry
  idle :
    ∀ key state, machine.world.states.get? key = some state →
      state.cancelled = true → state.callbacks = []
  /-- A callback has one owner, and an owner that fits it. -/
  owned :
    ∀ key state entry callback, machine.world.states.get? key = some state →
      (entry, callback) ∈ state.callbacks →
        ∃! owner : Owner ν, machine.placeOf? owner = some ⟨key, entry⟩ ∧ owner.Fits callback
  /-- What is in force on a pending state has one callback there, and one that fits it. -/
  inForce :
    ∀ (owner : Owner ν) place state, machine.placeOf? owner = some place →
      machine.world.states.get? place.state = some state → state.cancelled = false →
        ∃! callback, (place.entry, callback) ∈ state.callbacks ∧ owner.Fits callback
  apart :
    ∀ (first second : Owner ν) place, machine.placeOf? first = some place →
      machine.placeOf? second = some place → first = second
  /-- No object is in hand but for the next job. -/
  handsOver :
    ∀ name place, Job.assign name (some place) ∉ machine.agenda.tail

/-- A callback belongs to a registration or to the state that it cancels. -/
theorem Kept.exists_owner
    {machine : Machine ν}
    (kept : machine.Kept)
    {key entry : Nat}
    {state : State ν}
    {callback : Callback ν}
    (found : machine.world.states.get? key = some state)
    (present : (entry, callback) ∈ state.callbacks) :
    ∃ owner : Owner ν, machine.placeOf? owner = some ⟨key, entry⟩ ∧ owner.Fits callback := by
  cases callback with
  | link child =>
      obtain ⟨linked, childFound, isLinked⟩ :=
        kept.sound.linked.downward key state entry child found present
      exact ⟨.link child, Option.bind_eq_some_iff.mpr ⟨linked, childFound, isLinked⟩, rfl⟩
  | listener serial label reactions =>
      obtain ⟨owner, isUser, placed⟩ :=
        kept.noLeak ⟨key, entry⟩ serial label reactions ⟨state, found, present⟩
      exact ⟨owner, placed, Owner.fits_listener isUser serial label reactions⟩

/-- What is in force on a pending state has a callback there. -/
theorem Kept.exists_callback
    {machine : Machine ν}
    (kept : machine.Kept)
    {owner : Owner ν}
    {place : Registration}
    {state : State ν}
    (placed : machine.placeOf? owner = some place)
    (found : machine.world.states.get? place.state = some state)
    (pending : state.cancelled = false) :
    ∃ callback, (place.entry, callback) ∈ state.callbacks ∧ owner.Fits callback := by
  rcases owner.user_or_link with isUser | ⟨child, rfl⟩
  · obtain ⟨serial, label, reactions, pends⟩ :=
      kept.noneDangles owner place isUser placed ⟨state, found⟩
        ((World.isCancelledState_of_get? found).trans pending)
    exact ⟨_, (World.pends_iff_of_get? place found _).mp pends,
      Owner.fits_listener isUser serial label reactions⟩
  · obtain ⟨childState, childFound, isLinked⟩ := Option.bind_eq_some_iff.mp placed
    exact ⟨.link child, kept.sound.linked.upward child childState place state childFound isLinked
      found pending, rfl⟩

theorem Kept.accounted
    {machine : Machine ν}
    (kept : machine.Kept) :
    machine.Accounted where
  ordered := fun key state found =>
    have ordered := kept.sound.linked.ordered key state found
    ⟨ordered.increasing, ordered.below⟩
  idle := fun key state found => (kept.sound.linked.ordered key state found).idle
  owned := by
    intro key state entry callback found present
    obtain ⟨owner, placed, fits⟩ := kept.exists_owner found present
    exact ⟨owner, ⟨placed, fits⟩, fun other owns => kept.apart other owner _ owns.1 placed⟩
  inForce := by
    intro owner place state placed found pending
    obtain ⟨callback, present, fits⟩ := kept.exists_callback placed found pending
    exact ⟨callback, ⟨present, fits⟩, fun other isOther =>
      (kept.sound.linked.ordered _ state found).unique isOther.1 present⟩
  apart := kept.apart
  handsOver := kept.handsOver

end Machine

/-- At every moment of every program, also while a callback runs, registrations neither leak nor
dangle: the callbacks of a live pending state are in the order of their numbers, which were all
given before, and they and the objects in force on the state belong to each other one by one; a
live cancelled state has no callbacks; and no two objects have the same place. -/
theorem registrations_accounted
    {ν : Type}
    [DecidableEq ν]
    (program : List (Step ν))
    (jobs : Nat) :
    (moment program jobs).Accounted :=
  (Machine.runFor_induction Machine.Kept (fun stepped kept => kept.step stepped) jobs
    (Machine.Kept.initially program)).accounted

/-- While a state is being cancelled its listener moves a registration onto another one: what is
overwritten leaves the other state, and what is moved stays there. -/
example :
    let program : List (Step Nat) :=
      [.source 0, .source 1, .token 0 0, .token 1 1, .onCancel 0 1 "left" [],
        .onCancel 1 1 "overwritten" [], .onCancel 2 0 "moves" [.move 0 1], .cancel 0]
    let machine := moment program 20
    (machine.placeOf? (.named 0), machine.placeOf? (.named 1), machine.placeOf? (.named 2)) =
        (none, some ⟨1, 1⟩, some ⟨0, 1⟩) ∧
      (machine.world.states.get? 1).map (fun state => state.callbacks.map Prod.fst) =
        some [1] := by
  decide

end Cancellation

end Cadence
