import Cadence.Proofs.Cancellation.Quiet

namespace Cadence

namespace Cancellation

/-!
# What one job does to the states

A job leaves a state as it is, cancels it, lets it die or makes it.  Only two kinds
of jobs cancel a state: `cancel` on a source of it, and the call of its link.  Only
one kind of job makes a state that is linked or cancelled from the start.
-/

namespace World

variable {ν : Type}

/-- A state that was there with the same link and was as cancelled. -/
def Retains
    (before : World ν)
    (key : Nat)
    (state : State ν) :
    Prop :=
  ∃ old, before.states.get? key = some old ∧
    state.link = old.link ∧ state.cancelled = old.cancelled

theorem Retains.trans
    {first : World ν}
    {key : Nat}
    {middle state : State ν}
    (before : first.Retains key middle)
    (link : state.link = middle.link)
    (status : state.cancelled = middle.cancelled) :
    first.Retains key state := by
  obtain ⟨old, inFirst, oldLink, oldStatus⟩ := before
  exact ⟨old, inFirst, link.trans oldLink, status.trans oldStatus⟩

theorem Shrinks.retains
    {before after : World ν}
    (shrinks : Shrinks before after)
    {key : Nat}
    {state : State ν}
    (found : after.states.get? key = some state) :
    before.Retains key state := by
  obtain ⟨old, inBefore, status, link, -⟩ := shrinks.states key state found
  exact ⟨old, inBefore, link, status⟩

/-- A new state, or one that was there. -/
theorem retains_of_bear
    (world : World ν)
    {after : World ν}
    {born : State ν}
    (shrinks : Shrinks (world.bear born) after)
    {key : Nat}
    {state : State ν}
    (found : after.states.get? key = some state) :
    world.Retains key state ∨
      key = world.nextState ∧ state.link = born.link ∧ state.cancelled = born.cancelled := by
  obtain ⟨old, inBorn, link, status⟩ := shrinks.retains found
  rcases Table.get?_of_insert inBorn with ⟨isNew, rfl⟩ | inBefore
  · exact Or.inr ⟨isNew, link, status⟩
  · exact Or.inl ⟨old, inBefore, link, status⟩

/-- A callback that is registered changes neither a link nor whether a state is cancelled. -/
theorem retains_of_register
    (world : World ν)
    {target key : Nat}
    {callback : Callback ν}
    {state : State ν}
    (found : (world.register target callback).1.states.get? key = some state) :
    world.Retains key state := by
  cases registered : world.states.get? target with
  | none =>
      simp only [register, registered] at found
      exact ⟨state, found, rfl, rfl⟩
  | some old =>
      rw [get?_register registered] at found
      split at found
      · next same =>
          cases found
          exact ⟨old, same ▸ registered, rfl, rfl⟩
      · exact ⟨state, found, rfl, rfl⟩

variable [DecidableEq ν]

theorem retains_of_addSource
    {world : World ν}
    {name : ν}
    {key : Nat}
    {state : State ν}
    (found : (world.addSource name).states.get? key = some state) :
    world.Retains key state ∨
      key = world.nextState ∧ state.link = none ∧ state.cancelled = false :=
  retains_of_bear world (shrinks_setSource (world.bear {}) name world.nextState) found

/-- A linked state is made as cancelled as its parent, and linked to it if that is pending. -/
theorem Linked.retains_of_addLinked
    {world : World ν}
    (linked : world.Linked)
    {name token : ν}
    {parent : Nat}
    (held : world.stateOf? token = some parent)
    {key : Nat}
    {state : State ν}
    (found : (world.addLinked name token).states.get? key = some state) :
    world.Retains key state ∨
      key = world.nextState ∧ state.cancelled = world.isCancelledState parent ∧
        (state.cancelled = true ∧ state.link = none ∨
          ∃ entry, state.link = some ⟨parent, entry⟩) := by
  obtain ⟨target, targetFound⟩ := linked.live_of_stateOf? held
  cases cancelled : world.isCancelledState parent with
  | true =>
      rw [addLinked_of_cancelled held cancelled] at found
      rcases retains_of_bear world (shrinks_setSource _ name world.nextState) found with
        retained | ⟨isNew, link, status⟩
      · exact Or.inl retained
      · exact Or.inr ⟨isNew, status, Or.inl ⟨status, link⟩⟩
  | false =>
      rw [addLinked_of_pending held cancelled, world.register_place targetFound] at found
      have sameNext := (world.register_frame parent (.link world.nextState)).1
      rcases retains_of_bear (world.register parent (.link world.nextState)).1
          (shrinks_setSource _ name world.nextState) (by simpa only [bear, sameNext] using found) with
        ⟨old, inGrown, link, status⟩ | ⟨isNew, link, status⟩
      · exact Or.inl ((retains_of_register world inGrown).trans link status)
      · exact Or.inr ⟨isNew.trans sameNext, status, Or.inr ⟨_, link⟩⟩

/-- A step that neither cancels nor links leaves states as they are; a new one is pending. -/
theorem retains_of_perform
    {world : World ν}
    {step : Step ν}
    (noCancel : ∀ source, step ≠ .cancel source)
    (noLink : ∀ name token parent, step = .linked name token → world.stateOf? token ≠ some parent)
    {key : Nat}
    {state : State ν}
    (found : (world.perform step).1.states.get? key = some state) :
    world.Retains key state ∨
      key = world.nextState ∧ state.link = none ∧ state.cancelled = false := by
  cases step with
  | source name => exact retains_of_addSource found
  | linked name token =>
      cases held : world.stateOf? token with
      | none =>
          simp only [perform, addLinked_of_detached held] at found
          exact retains_of_addSource found
      | some parent => exact absurd held (noLink name token parent rfl)
  | token name source => exact Or.inl ((shrinks_setToken _ _ _).retains found)
  | detached name => exact Or.inl ((shrinks_setToken _ _ _).retains found)
  | cancel source => exact absurd rfl (noCancel source)
  | onCancel name token label reactions =>
      left
      simp only [perform] at found
      cases held : world.stateOf? token with
      | none =>
          simp only [held] at found
          exact ⟨state, found, rfl, rfl⟩
      | some target =>
          simp only [held] at found
          split at found
          · exact ⟨state, found, rfl, rfl⟩
          · exact retains_of_register { world with nextSerial := world.nextSerial + 1 } found
  | reset name => exact Or.inl ((shrinks_setRegistration _ _ _).retains found)
  | move origin target => exact Or.inl ((shrinks_moveRegistration _ _ _).retains found)
  | dropSource name => exact Or.inl ((shrinks_removeSource _ _).retains found)
  | dropToken name => exact Or.inl ((shrinks_removeToken _ _).retains found)
  | dropRegistration name => exact Or.inl ((shrinks_removeRegistration _ _).retains found)
  | inspect token => exact Or.inl ⟨state, found, rfl, rfl⟩
  | waitFor token => exact Or.inl ⟨state, found, rfl, rfl⟩
  | wait token => exact Or.inl ⟨state, found, rfl, rfl⟩

/-! ### Numbers of states -/

theorem nextState_addSource
    (world : World ν)
    (name : ν) :
    (world.addSource name).nextState = world.nextState + 1 :=
  (shrinks_setSource (world.bear {}) name world.nextState).nextState

theorem nextState_addLinked
    (world : World ν)
    (name token : ν) :
    (world.addLinked name token).nextState = world.nextState + 1 := by
  cases held : world.stateOf? token with
  | none =>
      rw [addLinked_of_detached held]
      exact world.nextState_addSource name
  | some parent =>
      cases cancelled : world.isCancelledState parent with
      | true =>
          rw [addLinked_of_cancelled held cancelled]
          exact (shrinks_setSource _ _ _).nextState
      | false =>
          rw [addLinked_of_pending held cancelled]
          exact (shrinks_setSource _ _ _).nextState

/-- No number is given twice. -/
theorem nextState_le_perform
    (world : World ν)
    (step : Step ν) :
    world.nextState ≤ (world.perform step).1.nextState := by
  cases step with
  | source name => exact (world.nextState_addSource name).symm ▸ Nat.le_succ _
  | linked name token => exact (world.nextState_addLinked name token).symm ▸ Nat.le_succ _
  | token name source => exact Nat.le_of_eq (shrinks_setToken _ _ _).nextState.symm
  | detached name => exact Nat.le_of_eq (shrinks_setToken _ _ _).nextState.symm
  | cancel source =>
      simp only [perform]
      split
      · exact Nat.le_refl _
      · exact Nat.le_of_eq (cancelState_frame _ _).1.symm
  | onCancel name token label reactions =>
      simp only [perform]
      split
      · exact Nat.le_refl _
      · split
        · exact Nat.le_refl _
        · exact Nat.le_of_eq (register_frame { world with nextSerial := world.nextSerial + 1 } _ _).1.symm
  | reset name => exact Nat.le_of_eq (shrinks_setRegistration _ _ _).nextState.symm
  | move origin target => exact Nat.le_of_eq (shrinks_moveRegistration _ _ _).nextState.symm
  | dropSource name => exact Nat.le_of_eq (shrinks_removeSource _ _).nextState.symm
  | dropToken name => exact Nat.le_of_eq (shrinks_removeToken _ _).nextState.symm
  | dropRegistration name => exact Nat.le_of_eq (shrinks_removeRegistration _ _).nextState.symm
  | inspect token => exact Nat.le_refl _
  | waitFor token => exact Nat.le_refl _
  | wait token => exact Nat.le_refl _

end World

namespace Machine

variable {ν : Type} [DecidableEq ν]

theorem nextState_le_of_step?
    {machine next : Machine ν}
    (stepped : machine.step? = some next) :
    machine.world.nextState ≤ next.world.nextState := by
  obtain ⟨world, agenda, reports⟩ := machine
  cases agenda with
  | nil => cases stepped
  | cons job rest =>
      cases job with
      | perform step =>
          cases stepped
          exact world.nextState_le_perform step
      | call callback =>
          cases callback with
          | link child =>
              cases stepped
              exact Nat.le_of_eq (world.cancelState_frame child).1.symm
          | listener serial label reactions =>
              cases stepped
              exact Nat.le_refl _
      | assign name place =>
          cases stepped
          exact Nat.le_of_eq (World.shrinks_setRegistration _ _ _).nextState.symm
      | report step answer =>
          cases stepped
          exact Nat.le_refl _

/-! ### The next job -/

/-- The next job is `cancel` on a source of a state. -/
def CancelsSource
    (machine : Machine ν)
    (key : Nat) :
    Prop :=
  ∃ source rest, machine.agenda = .perform (.cancel source) :: rest ∧
    machine.world.sources.get? source = some key

/-- The next job is the call of the link of a state. -/
def FollowsLink
    (machine : Machine ν)
    (key : Nat) :
    Prop :=
  ∃ rest, machine.agenda = .call (.link key) :: rest

/-- The next job makes a state that is linked to the state of a token. -/
def MakesLink
    (machine : Machine ν)
    (parent child : Nat) :
    Prop :=
  ∃ name token rest, machine.agenda = .perform (.linked name token) :: rest ∧
    machine.world.stateOf? token = some parent ∧ machine.world.nextState = child

/-- A state that was there before the next job: its link stays, and it is cancelled if it was or if
the job cancels it. -/
def Keeps
    (machine : Machine ν)
    (key : Nat)
    (state : State ν) :
    Prop :=
  ∃ old, machine.world.states.get? key = some old ∧ state.link = old.link ∧
    (state.cancelled = true ↔
      old.cancelled = true ∨ machine.CancelsSource key ∨ machine.FollowsLink key)

/-- A state that the next job makes: one that is linked to a cancelled parent is cancelled, one that
is linked to a pending parent has its link, and no other is cancelled or has a link. -/
structure Bears
    (machine : Machine ν)
    (key : Nat)
    (state : State ν) :
    Prop where
  isNew : key = machine.world.nextState
  ofParent :
    ∀ parent, machine.MakesLink parent key →
      state.cancelled = machine.world.isCancelledState parent ∧
        (state.cancelled = true ∨ ∃ entry, state.link = some ⟨parent, entry⟩)
  cancelled :
    state.cancelled = true →
      ∃ parent, machine.MakesLink parent key ∧ machine.world.isCancelledState parent = true
  link : ∀ place, state.link = some place → machine.MakesLink place.state key

/-- The number of a linked state is taken when it is made. -/
theorem MakesLink.lt_nextState
    {machine next : Machine ν}
    (stepped : machine.step? = some next)
    {parent child : Nat}
    (makes : machine.MakesLink parent child) :
    child < next.world.nextState := by
  obtain ⟨world, agenda, reports⟩ := machine
  obtain ⟨name, token, rest, rfl, -, rfl⟩ := makes
  cases stepped
  exact (world.nextState_addLinked name token).symm ▸ Nat.lt_succ_self _

/-- A job that cancels nothing keeps what it retains. -/
theorem keeps_of_retains
    {machine : Machine ν}
    {key : Nat}
    {state : State ν}
    (retained : machine.world.Retains key state)
    (noSource : ¬ machine.CancelsSource key)
    (noLink : ¬ machine.FollowsLink key) :
    machine.Keeps key state := by
  obtain ⟨old, inBefore, link, status⟩ := retained
  exact ⟨old, inBefore, link, by simp [status, noSource, noLink]⟩

/-- Cancelling the state that the next job cancels keeps all states. -/
theorem keeps_of_cancelState
    {machine : Machine ν}
    (linked : machine.world.Linked)
    {target key : Nat}
    (same : machine.CancelsSource key ∨ machine.FollowsLink key ↔ key = target)
    {state : State ν}
    (found : (machine.world.cancelState target).1.states.get? key = some state) :
    machine.Keeps key state := by
  obtain ⟨old, inBefore, link, -, -, status, -⟩ := linked.of_get?_cancelState found
  exact ⟨old, inBefore, link, by rw [status, same]⟩

/-- A new state without a link is pending unless the job makes a link. -/
theorem bears_of_pending
    {machine : Machine ν}
    {key : Nat}
    {state : State ν}
    (noLink : ∀ parent child, ¬ machine.MakesLink parent child)
    (isNew : key = machine.world.nextState)
    (link : state.link = none)
    (status : state.cancelled = false) :
    machine.Bears key state where
  isNew := isNew
  ofParent := fun parent makes => absurd makes (noLink parent key)
  cancelled := fun cancelled => by simp [status] at cancelled
  link := fun place isLinked => by simp [link] at isLinked

/-- A step keeps every state but the one that it makes. -/
theorem keeps_or_bears_of_perform
    {world : World ν}
    (linked : world.Linked)
    (step : Step ν)
    (rest : List (Job ν))
    (reports : List (Report ν))
    {key : Nat}
    {state : State ν}
    (found : (world.perform step).1.states.get? key = some state) :
    Machine.Keeps ⟨world, .perform step :: rest, reports⟩ key state ∨
      Machine.Bears ⟨world, .perform step :: rest, reports⟩ key state := by
  by_cases cancels : ∃ source, step = .cancel source
  · obtain ⟨source, rfl⟩ := cancels
    left
    cases held : world.sources.get? source with
    | none =>
        simp only [World.perform, held] at found
        exact keeps_of_retains ⟨state, found, rfl, rfl⟩ (by simp [CancelsSource, held])
          (by simp [FollowsLink])
    | some target =>
        simp only [World.perform, held] at found
        exact keeps_of_cancelState linked (by simp [CancelsSource, FollowsLink, held, eq_comm]) found
  by_cases links : ∃ name token parent, step = .linked name token ∧
      world.stateOf? token = some parent
  · obtain ⟨name, token, parent, rfl, held⟩ := links
    rcases linked.retains_of_addLinked held found with retained | ⟨isNew, status, placed⟩
    · exact Or.inl (keeps_of_retains retained (by simp [CancelsSource]) (by simp [FollowsLink]))
    · have onlyParent : ∀ other,
          Machine.MakesLink ⟨world, .perform (.linked name token) :: rest, reports⟩ other key ↔
            other = parent := by
        simp [MakesLink, held, isNew, eq_comm]
      refine Or.inr ⟨isNew, fun other makes => ?_, fun cancelled => ?_, fun place isLinked => ?_⟩
      · obtain rfl := (onlyParent other).mp makes
        exact ⟨status, placed.imp_left And.left⟩
      · exact ⟨parent, (onlyParent parent).mpr rfl, status ▸ cancelled⟩
      · rcases placed with ⟨-, none⟩ | ⟨entry, placed⟩
        · simp [none] at isLinked
        · obtain rfl := Option.some.inj (placed.symm.trans isLinked)
          exact (onlyParent parent).mpr rfl
  · have noCancel : ∀ source, step ≠ .cancel source := fun source same => cancels ⟨source, same⟩
    have noLink : ∀ name token parent,
        step = .linked name token → world.stateOf? token ≠ some parent :=
      fun name token parent same held => links ⟨name, token, parent, same, held⟩
    rcases World.retains_of_perform noCancel noLink found with retained | ⟨isNew, link, status⟩
    · refine Or.inl (keeps_of_retains retained ?_ (by simp [FollowsLink]))
      rintro ⟨source, _, same, -⟩
      simp only [List.cons.injEq, Job.perform.injEq] at same
      exact noCancel source same.1
    · refine Or.inr (bears_of_pending ?_ isNew link status)
      rintro parent child ⟨name, token, _, same, held, -⟩
      simp only [List.cons.injEq, Job.perform.injEq] at same
      exact noLink name token parent same.1 held

/-- A state after a job was there before it or is made by it. -/
theorem keeps_or_bears
    {machine next : Machine ν}
    (stepped : machine.step? = some next)
    (linked : machine.world.Linked)
    {key : Nat}
    {state : State ν}
    (found : next.world.states.get? key = some state) :
    machine.Keeps key state ∨ machine.Bears key state := by
  obtain ⟨world, agenda, reports⟩ := machine
  cases agenda with
  | nil => cases stepped
  | cons job rest =>
      cases job with
      | perform step =>
          simp only [step?, Option.some.injEq] at stepped
          subst stepped
          exact keeps_or_bears_of_perform linked step rest reports found
      | call callback =>
          cases callback with
          | link child =>
              simp only [step?, Option.some.injEq] at stepped
              subst stepped
              refine Or.inl (keeps_of_cancelState linked ?_ found)
              simp [CancelsSource, FollowsLink, eq_comm]
          | listener serial label reactions =>
              simp only [step?, Option.some.injEq] at stepped
              subst stepped
              exact Or.inl (keeps_of_retains ⟨state, found, rfl, rfl⟩ (by simp [CancelsSource])
                (by simp [FollowsLink]))
      | assign name place =>
          simp only [step?, Option.some.injEq] at stepped
          subst stepped
          exact Or.inl (keeps_of_retains ((World.shrinks_setRegistration _ _ _).retains found)
            (by simp [CancelsSource]) (by simp [FollowsLink]))
      | report step answer =>
          simp only [step?, Option.some.injEq] at stepped
          subst stepped
          exact Or.inl (keeps_of_retains ⟨state, found, rfl, rfl⟩ (by simp [CancelsSource])
            (by simp [FollowsLink]))

/-! ### The agenda -/

/-- A step other than `cancel` calls no link. -/
theorem link_not_mem_perform
    (world : World ν)
    {step : Step ν}
    (noCancel : ∀ source, step ≠ .cancel source)
    (child : Nat) :
    Job.call (.link child) ∉ (world.perform step).2 := by
  cases step with
  | cancel source => exact absurd rfl (noCancel source)
  | onCancel name token label reactions =>
      simp only [World.perform]
      split
      · simp
      · split <;> simp
  | _ => simp [World.perform]

/-- The jobs that take the place of the next one: those that call links are the callbacks of a state
that is cancelled, and the report of the `cancel` follows them. -/
structure Replaces
    (machine next : Machine ν)
    (job : Job ν)
    (front rest : List (Job ν)) :
    Prop where
  before : machine.agenda = job :: rest
  after : next.agenda = front ++ rest
  calls :
    (∀ child, Job.call (.link child) ∉ front) ∨
      ∃ key, (machine.CancelsSource key ∨ machine.FollowsLink key) ∧
        next.world = (machine.world.cancelState key).1 ∧
          (job = .call (.link key) ∧ front = (machine.world.cancelState key).2.map .call ∨
            ∃ source answer,
              front =
                (machine.world.cancelState key).2.map .call ++
                  [.report (.cancel source) answer])

theorem exists_replaces
    {machine next : Machine ν}
    (stepped : machine.step? = some next) :
    ∃ job front rest, Replaces machine next job front rest := by
  obtain ⟨world, agenda, reports⟩ := machine
  cases agenda with
  | nil => cases stepped
  | cons job rest =>
      cases job with
      | perform step =>
          simp only [step?, Option.some.injEq] at stepped
          subst stepped
          refine ⟨_, _, rest, rfl, rfl, ?_⟩
          by_cases cancels : ∃ source, step = .cancel source
          · obtain ⟨source, rfl⟩ := cancels
            cases held : world.sources.get? source with
            | none => exact Or.inl (by simp [World.perform, held])
            | some key =>
                simp only [World.perform, held]
                exact Or.inr
                  ⟨key, Or.inl ⟨source, rest, rfl, held⟩, rfl, Or.inr ⟨source, _, rfl⟩⟩
          · exact Or.inl
              (link_not_mem_perform world fun source same => cancels ⟨source, same⟩)
      | call callback =>
          cases callback with
          | link child =>
              simp only [step?, Option.some.injEq] at stepped
              subst stepped
              exact ⟨_, _, rest, rfl, rfl,
                Or.inr ⟨child, Or.inr ⟨rest, rfl⟩, rfl, Or.inl ⟨rfl, rfl⟩⟩⟩
          | listener serial label reactions =>
              simp only [step?, Option.some.injEq] at stepped
              subst stepped
              exact ⟨_, _, rest, rfl, rfl, Or.inl (by simp)⟩
      | assign name place =>
          simp only [step?, Option.some.injEq] at stepped
          subst stepped
          exact ⟨_, [], rest, rfl, rfl, Or.inl (by simp)⟩
      | report step answer =>
          simp only [step?, Option.some.injEq] at stepped
          subst stepped
          exact ⟨_, [], rest, rfl, rfl, Or.inl (by simp)⟩

/-- A link that is to be called was to be called before, or is a callback of a state that is being
cancelled. -/
theorem called_of_step?
    {machine next : Machine ν}
    (stepped : machine.step? = some next)
    (linked : machine.world.Linked)
    {child : Nat}
    (called : Job.call (.link child) ∈ next.agenda) :
    Job.call (.link child) ∈ machine.agenda ∨
      ∃ key state entry, next.world.isCancelledState key = true ∧
        machine.world.states.get? key = some state ∧ (entry, .link child) ∈ state.callbacks := by
  obtain ⟨job, front, rest, before, after, calls⟩ := exists_replaces stepped
  rw [after] at called
  rcases List.mem_append.mp called with inFront | inRest
  · right
    rcases calls with noCalls | ⟨key, -, world, shape⟩
    · exact absurd inFront (noCalls child)
    · have isCallback : Callback.link child ∈ (machine.world.cancelState key).2 := by
        rcases shape with ⟨-, rfl⟩ | ⟨source, answer, rfl⟩
        · simpa using inFront
        · simpa using inFront
      obtain ⟨state, entry, found, present⟩ := linked.mem_cancelState.mp isCallback
      refine ⟨key, state, entry, ?_, found, present⟩
      rw [world]
      exact linked.isCancelledState_cancelState_same ⟨state, found⟩
  · exact Or.inl (before ▸ List.mem_cons_of_mem job inRest)

/-- A link that was to be called is called by the job, or later. -/
theorem follows_or_called
    {machine next : Machine ν}
    (stepped : machine.step? = some next)
    {child : Nat}
    (called : Job.call (.link child) ∈ machine.agenda) :
    machine.FollowsLink child ∨ Job.call (.link child) ∈ next.agenda := by
  obtain ⟨job, front, rest, before, after, -⟩ := exists_replaces stepped
  rw [before] at called
  rcases List.mem_cons.mp called with rfl | inRest
  · exact Or.inl ⟨rest, before⟩
  · exact Or.inr (after ▸ List.mem_append_right front inRest)

/-- `cancel` on a source cancels its state. -/
theorem CancelsSource.isCancelledState
    {machine next : Machine ν}
    (stepped : machine.step? = some next)
    (linked : machine.world.Linked)
    {key : Nat}
    (cancels : machine.CancelsSource key) :
    next.world.isCancelledState key = true := by
  obtain ⟨world, agenda, reports⟩ := machine
  obtain ⟨source, rest, rfl, held⟩ := cancels
  simp only [step?, World.perform, held, Option.some.injEq] at stepped
  subst stepped
  exact linked.isCancelledState_cancelState_same (linked.sources source key held)

/-- A `cancel` that has begun is on the agenda with its report until it is over. -/
def Cancelling
    (agenda : List (Job ν)) :
    Prop :=
  ∃ source answer, Job.report (.cancel source) answer ∈ agenda

/-- Every link that is to be called is called before the `cancel` that caused it is over. -/
def Answered : List (Job ν) → Prop
  | [] => True
  | job :: rest => (∀ child, job = .call (.link child) → Cancelling rest) ∧ Answered rest

omit [DecidableEq ν] in
theorem Answered.cancelling
    {agenda : List (Job ν)}
    (answered : Answered agenda)
    {child : Nat}
    (called : Job.call (.link child) ∈ agenda) :
    Cancelling agenda := by
  induction agenda with
  | nil => cases called
  | cons job rest inductionHypothesis =>
      have inRest : Cancelling rest := by
        rcases List.mem_cons.mp called with rfl | later
        · exact answered.1 child rfl
        · exact inductionHypothesis answered.2 later
      obtain ⟨source, answer, reported⟩ := inRest
      exact ⟨source, answer, List.mem_cons_of_mem job reported⟩

omit [DecidableEq ν] in
/-- Jobs may be put in front if they call no link or the `cancel` behind them is not over. -/
theorem Answered.append
    {front rest : List (Job ν)}
    (answered : Answered rest)
    (calls : (∀ child, Job.call (.link child) ∉ front) ∨ Cancelling rest) :
    Answered (front ++ rest) := by
  induction front with
  | nil => exact answered
  | cons job front inductionHypothesis =>
      refine ⟨fun child isCall => ?_, inductionHypothesis ?_⟩
      · rcases calls with noCalls | ⟨source, answer, reported⟩
        · exact absurd (isCall ▸ List.mem_cons_self) (noCalls child)
        · exact ⟨source, answer, List.mem_append_right front reported⟩
      · exact calls.imp_left fun noCalls child inFront =>
          noCalls child (List.mem_cons_of_mem job inFront)

theorem Answered.step
    {machine next : Machine ν}
    (stepped : machine.step? = some next)
    (answered : Answered machine.agenda) :
    Answered next.agenda := by
  obtain ⟨job, front, rest, before, after, calls⟩ := exists_replaces stepped
  rw [before] at answered
  rw [after]
  rcases calls with noCalls | ⟨key, -, -, ⟨rfl, rfl⟩ | ⟨source, answer, rfl⟩⟩
  · exact answered.2.append (Or.inl noCalls)
  · exact answered.2.append (Or.inr (answered.1 key rfl))
  · have reported : Answered (.report (.cancel source) answer :: rest) :=
      ⟨by simp, answered.2⟩
    rw [List.append_assoc]
    exact reported.append (Or.inr ⟨source, answer, List.mem_cons_self⟩)

end Machine

end Cancellation

end Cadence
