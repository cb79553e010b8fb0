import Cadence.Proofs.Cancellation.Soundness

namespace Cadence

namespace Cancellation

/-!
# Worlds without listeners

Where nobody listens, a step does what it says and no more: making sources and
tokens leaves all other states as they are, and cancelling a source cancels a
state only if it is that of the source or a child of a cancelled one.
-/

namespace Machine

variable {ν : Type} [DecidableEq ν]

/-- A machine with nothing to do stays as it is. -/
theorem runFor_of_idle
    (jobs : Nat)
    {machine : Machine ν}
    (idle : machine.agenda = []) :
    machine.runFor jobs = machine := by
  cases jobs with
  | zero => rfl
  | succ jobs => simp only [runFor, step?, idle]

theorem runFor_succ
    {machine next : Machine ν}
    (stepped : machine.step? = some next)
    (jobs : Nat) :
    machine.runFor (jobs + 1) = next.runFor jobs := by
  simp only [runFor, stepped]

end Machine

namespace World

variable {ν : Type}

/-- All callbacks are for linked states. -/
def OnlyLinks
    (world : World ν) :
    Prop :=
  ∀ key state entry callback, world.states.get? key = some state →
    (entry, callback) ∈ state.callbacks → ∃ child, callback = Callback.link child

/-- What is alive and not new is as it was, but for its callbacks. -/
def Inherits
    (before after : World ν) :
    Prop :=
  ∀ key state, after.states.get? key = some state → key < before.nextState →
    ∃ old, before.states.get? key = some old ∧
      state.cancelled = old.cancelled ∧ state.link = old.link

theorem Shrinks.inherits
    {before after : World ν}
    (shrinks : Shrinks before after) :
    Inherits before after := by
  intro key state found _
  obtain ⟨old, inBefore, status, link, -⟩ := shrinks.states key state found
  exact ⟨old, inBefore, status, link⟩

theorem Grows.inherits
    {before after : World ν}
    (grows : Grows before after) :
    Inherits before after := by
  intro key state found older
  by_cases alive : before.Live key
  · obtain ⟨old, inBefore⟩ := alive
    have grown := grows.grown inBefore found
    exact ⟨old, inBefore, grown.cancelled, grown.link⟩
  · have isNew := (grows.new key state found alive).1
    omega

theorem Inherits.trans
    {first second third : World ν}
    (before : Inherits first second)
    (after : Inherits second third)
    (next : first.nextState ≤ second.nextState) :
    Inherits first third := by
  intro key state found older
  obtain ⟨middle, inMiddle, status, link⟩ :=
    after key state found (Nat.lt_of_lt_of_le older next)
  obtain ⟨old, inFirst, status', link'⟩ := before key middle inMiddle older
  exact ⟨old, inFirst, status.trans status', link.trans link'⟩

/-- What is alive is as cancelled as it was. -/
theorem Inherits.isCancelledState
    {before after : World ν}
    (inherits : Inherits before after)
    {key : Nat}
    (alive : after.Live key)
    (older : key < before.nextState) :
    after.isCancelledState key = before.isCancelledState key := by
  obtain ⟨state, found⟩ := alive
  obtain ⟨old, inBefore, status, -⟩ := inherits key state found older
  rw [isCancelledState_of_get? found, isCancelledState_of_get? inBefore, status]

theorem OnlyLinks.shrink
    {before after : World ν}
    (quiet : before.OnlyLinks)
    (shrinks : Shrinks before after) :
    after.OnlyLinks := by
  intro key state entry callback found present
  obtain ⟨old, inBefore, -, -, -, fewer⟩ := shrinks.states key state found
  exact quiet key old entry callback inBefore (fewer.subset present)

theorem OnlyLinks.bear
    {world : World ν}
    (quiet : world.OnlyLinks)
    {state : State ν}
    (idle : state.callbacks = []) :
    (world.bear state).OnlyLinks := by
  intro key other entry callback found present
  rcases Table.get?_of_insert found with ⟨-, rfl⟩ | old
  · rw [idle] at present
    cases present
  · exact quiet key other entry callback old present

theorem OnlyLinks.register
    {world : World ν}
    (quiet : world.OnlyLinks)
    (key child : Nat) :
    (world.register key (.link child)).1.OnlyLinks := by
  intro other state entry callback found present
  cases target : world.states.get? key with
  | none =>
      simp only [World.register, target] at found
      exact quiet other state entry callback found present
  | some parent =>
      rw [get?_register target] at found
      split at found
      · cases found
        rcases List.mem_append.mp present with old | new
        · exact quiet key parent entry callback target old
        · cases List.mem_singleton.mp new
          exact ⟨child, rfl⟩
      · exact quiet other state entry callback found present

theorem OnlyLinks.cancelState
    {world : World ν}
    (quiet : world.OnlyLinks)
    (key : Nat) :
    (world.cancelState key).1.OnlyLinks := by
  intro other state entry callback found present
  unfold World.cancelState at found
  split at found
  · exact quiet other state entry callback found present
  · split at found
    · exact quiet other state entry callback found present
    · rcases Table.get?_of_insert found with ⟨-, rfl⟩ | old
      · cases present
      · exact quiet other state entry callback old present

variable [DecidableEq ν]

/-- A step that is only reported is over when it is performed. -/
theorem after_of_report
    {world next : World ν}
    {step reported : Step ν}
    {answer : Answer}
    (performed : world.perform step = (next, [.report reported answer])) :
    world.after step = next := by
  have heavy : 2 ≤ step.weight := by
    cases step <;> simp [Step.weight]
    omega
  have jobs : ∃ more,
      Machine.weight { world := world, agenda := [Job.perform step] } = more + 2 :=
    ⟨step.weight + world.weight - 2, by simp [Machine.weight, Job.weight]; omega⟩
  obtain ⟨more, enough⟩ := jobs
  have first :
      Machine.step? { world := world, agenda := [Job.perform step] } =
        some { world := next, agenda := [.report reported answer] } := by
    simp [Machine.step?, performed]
  have second :
      Machine.step? { world := next, agenda := [Job.report reported answer] } =
        some
          { world := next, agenda := [],
            reports := [.did reported answer next.cancelledSources] } :=
    rfl
  rw [after, Machine.run, enough, Machine.runFor_succ first, Machine.runFor_succ second,
    Machine.runFor_of_idle more rfl]

section NewNames

/-- A new source, and what else there is. -/
theorem after_source
    (world : World ν)
    (name : ν) :
    world.after (.source name) = (world.addSource name) :=
  after_of_report rfl

theorem after_linked
    (world : World ν)
    (name token : ν) :
    world.after (.linked name token) = world.addLinked name token :=
  after_of_report rfl

theorem after_token
    (world : World ν)
    (name source : ν) :
    world.after (.token name source) = world.setToken name (world.sources.get? source) :=
  after_of_report rfl

theorem after_detached
    (world : World ν)
    (name : ν) :
    world.after (.detached name) = world.setToken name none :=
  after_of_report rfl

/-- A step on a source that nobody has does nothing. -/
theorem after_cancel_of_none
    {world : World ν}
    {name : ν}
    (unheld : world.sources.get? name = none) :
    world.after (.cancel name) = world := by
  have performed :
      world.perform (.cancel name) = (world, [.report (.cancel name) (.flag true)]) := by
    simp only [perform, unheld]
  exact after_of_report performed

/-- Giving a source away changes no other name. -/
theorem names_setSource
    (world : World ν)
    (name : ν)
    (key : Nat) :
    (world.setSource name key).sources = world.sources.insert name key ∧
      (world.setSource name key).tokens = world.tokens := by
  unfold setSource
  exact ⟨(names_release? _ _).1, (names_release? _ _).2.1⟩

theorem names_setToken
    (world : World ν)
    (name : ν)
    (key : Option Nat) :
    (world.setToken name key).sources = world.sources ∧
      (world.setToken name key).tokens = world.tokens.insert name key := by
  unfold setToken
  exact ⟨(names_release? _ _).1, (names_release? _ _).2.1⟩

end NewNames

section Cancelling

/-- What is cancelled stays so when a state is cancelled. -/
theorem Linked.isCancelledState_cancelState
    {world : World ν}
    (linked : world.Linked)
    (target : Nat)
    {key : Nat}
    (cancelled : world.isCancelledState key = true) :
    (world.cancelState target).1.isCancelledState key = true := by
  unfold isCancelledState at cancelled ⊢
  rw [linked.get?_cancelState]
  cases found : world.states.get? key with
  | none => simp [found] at cancelled
  | some state =>
      by_cases same : key = target
      · simp [same]
      · simpa [same, found] using cancelled

/-- A live state is cancelled when it is. -/
theorem Linked.isCancelledState_cancelState_same
    {world : World ν}
    (linked : world.Linked)
    {target : Nat}
    (alive : world.Live target) :
    (world.cancelState target).1.isCancelledState target = true := by
  obtain ⟨state, found⟩ := alive
  unfold isCancelledState
  rw [linked.get?_cancelState, found]
  simp

/-- A state is linked to one that is cancelled or dead. -/
def Overtaken
    (world : World ν)
    (state : State ν) :
    Prop :=
  ∃ place, state.link = some place ∧
    ∀ parent, world.states.get? place.state = some parent → parent.cancelled = true

/-- How a world without listeners looks while one state of it is being cancelled: only links are
called, and whatever became cancelled is that state or a child of a cancelled one. -/
structure Cancels
    (before : World ν)
    (target : Nat)
    (machine : Machine ν) :
    Prop where
  quiet : machine.world.OnlyLinks
  jobs :
    ∀ job ∈ machine.agenda,
      (∃ child, job = .call (.link child)) ∨ ∃ step answer, job = .report step answer
  sources : machine.world.sources = before.sources
  tokens : machine.world.tokens = before.tokens
  nextState : machine.world.nextState = before.nextState
  links :
    ∀ key, (machine.world.states.get? key).map State.link =
      (before.states.get? key).map State.link
  kept :
    ∀ key, before.isCancelledState key = true → machine.world.isCancelledState key = true
  cause :
    ∀ key state, machine.world.states.get? key = some state → state.cancelled = true →
      before.isCancelledState key = true ∨ key = target ∨ machine.world.Overtaken state

namespace Cancels

variable {before world : World ν} {target : Nat} {agenda rest : List (Job ν)}
  {reports : List (Report ν)}

/-- Sources keep their states. -/
theorem source
    {machine : Machine ν}
    (cancels : Cancels before target machine)
    (name : ν) :
    machine.world.sources.get? name = before.sources.get? name := by
  rw [cancels.sources]

/-- Tokens keep their states. -/
theorem stateOf?
    {machine : Machine ν}
    (cancels : Cancels before target machine)
    (token : ν) :
    machine.world.stateOf? token = before.stateOf? token := by
  unfold World.stateOf?
  rw [cancels.tokens]

omit [DecidableEq ν] in
/-- A live state was alive, with the same link. -/
theorem link
    {machine : Machine ν}
    (cancels : Cancels before target machine)
    {key : Nat}
    {state : State ν}
    (found : machine.world.states.get? key = some state) :
    ∃ old, before.states.get? key = some old ∧ old.link = state.link := by
  have sameLink := cancels.links key
  rw [found] at sameLink
  exact Option.map_eq_some_iff.mp sameLink.symm

omit [DecidableEq ν] in
/-- Jobs may be forgotten. -/
theorem forget
    (cancels : Cancels before target ⟨world, agenda, reports⟩)
    (fewer : rest ⊆ agenda)
    (later : List (Report ν)) :
    Cancels before target ⟨world, rest, later⟩ :=
  { cancels with jobs := fun job member => cancels.jobs job (fewer member) }

/-- The target, or a child of a cancelled state, may be cancelled. -/
theorem cancelState
    (cancels : Cancels before target ⟨world, agenda, reports⟩)
    (linked : world.Linked)
    {child : Nat}
    (caused :
      ∀ state, world.states.get? child = some state → child = target ∨ world.Overtaken state) :
    Cancels before target
      ⟨(world.cancelState child).1, (world.cancelState child).2.map .call ++ agenda, reports⟩ := by
  obtain ⟨sameNext, sameSources, sameTokens, -⟩ := world.cancelState_frame child
  have overtaken : ∀ old state : State ν, state.link = old.link → world.Overtaken old →
      (world.cancelState child).1.Overtaken state := by
    rintro old state link ⟨place, isLinked, inOrder⟩
    refine ⟨place, link.trans isLinked, fun parent parentFound => ?_⟩
    obtain ⟨oldParent, parentBefore, -, -, -, parentStatus, -⟩ :=
      linked.of_get?_cancelState parentFound
    exact parentStatus.mpr (Or.inl (inOrder oldParent parentBefore))
  refine ⟨cancels.quiet.cancelState child, ?_, sameSources.trans cancels.sources,
    sameTokens.trans cancels.tokens, sameNext.trans cancels.nextState, ?_, ?_, ?_⟩
  · intro job member
    rcases List.mem_append.mp member with new | old
    · obtain ⟨callback, isCalled, rfl⟩ := List.mem_map.mp new
      obtain ⟨state, entry, found, present⟩ := linked.mem_cancelState.mp isCalled
      obtain ⟨grandchild, rfl⟩ := cancels.quiet child state entry callback found present
      exact Or.inl ⟨grandchild, rfl⟩
    · exact cancels.jobs job old
  · intro key
    rw [← cancels.links key, linked.get?_cancelState, Option.map_map]
    congr 1
    funext state
    by_cases same : key = child
    · simp [same]
    · simp [same]
  · exact fun key status => linked.isCancelledState_cancelState child (cancels.kept key status)
  · intro key state found status
    obtain ⟨old, inWorld, link, -, -, iff, -⟩ := linked.of_get?_cancelState found
    rcases iff.mp status with already | isChild
    · exact (cancels.cause key old inWorld already).imp_right
        (Or.imp_right (overtaken old state link))
    · subst isChild
      exact Or.inr ((caused old inWorld).imp_right (overtaken old state link))

/-- Every job is the call of a link or a report. -/
theorem step
    {machine next : Machine ν}
    (stepped : machine.step? = some next)
    (sound : machine.Sound)
    (cancels : Cancels before target machine) :
    Cancels before target next := by
  obtain ⟨world, agenda, reports⟩ := machine
  cases agenda with
  | nil => cases stepped
  | cons job rest =>
      rcases cancels.jobs job List.mem_cons_self with ⟨child, rfl⟩ | ⟨done, answer, rfl⟩
      · simp only [Machine.step?, Option.some.injEq] at stepped
        subst stepped
        refine (cancels.forget (List.subset_cons_self _ _) reports).cancelState
          (World.Sound.linked sound) fun state found => Or.inr ?_
        exact (World.Sound.called sound child List.mem_cons_self).2 state found
      · simp only [Machine.step?, Option.some.injEq] at stepped
        subst stepped
        exact cancels.forget (List.subset_cons_self _ _) _

/-- A job of a machine that cancels a state un-cancels nothing. -/
theorem isCancelledState_step
    {machine next : Machine ν}
    (stepped : machine.step? = some next)
    (sound : machine.Sound)
    (cancels : Cancels before target machine)
    {key : Nat}
    (cancelled : machine.world.isCancelledState key = true) :
    next.world.isCancelledState key = true := by
  obtain ⟨world, agenda, reports⟩ := machine
  cases agenda with
  | nil => cases stepped
  | cons job rest =>
      rcases cancels.jobs job List.mem_cons_self with ⟨child, rfl⟩ | ⟨done, answer, rfl⟩
      · simp only [Machine.step?, Option.some.injEq] at stepped
        subst stepped
        exact (World.Sound.linked sound).isCancelledState_cancelState child cancelled
      · simp only [Machine.step?, Option.some.injEq] at stepped
        subst stepped
        exact cancelled

omit [DecidableEq ν] in
/-- Nothing is cancelled yet. -/
theorem refl
    (quiet : before.OnlyLinks)
    (target : Nat)
    (done : Step ν)
    (answer : Answer) :
    Cancels before target ⟨before, [.report done answer], []⟩ where
  quiet := quiet
  jobs := by simp
  sources := rfl
  tokens := rfl
  nextState := rfl
  links := fun _ => rfl
  kept := fun _ status => status
  cause := fun _ _ found status => Or.inl ((isCancelledState_of_get? found).trans status)

end Cancels

/-- Cancelling a source cancels its state and children of cancelled states, and nothing else. -/
theorem Sound.after_cancel
    {world : World ν}
    (sound : world.Sound [])
    (quiet : world.OnlyLinks)
    {name : ν}
    {target : Nat}
    (held : world.sources.get? name = some target) :
    ∃ reports, Cancels world target ⟨world.after (.cancel name), [], reports⟩ ∧
      (world.after (.cancel name)).isCancelledState target = true := by
  let initial : Machine ν := { world := world, agenda := [.perform (.cancel name)] }
  have soundInitial : initial.Sound := sound.reagenda (by simp [initial]) (by simp [initial])
  have performed :
      world.perform (.cancel name) =
        ((world.cancelState target).1,
          (world.cancelState target).2.map .call ++ [.report (.cancel name) (.flag true)]) := by
    simp only [World.perform, held]
  -- The machine is about to perform the step, or in the middle of what that causes.
  have atEnd : initial.run.Sound ∧
      (initial.run = initial ∨ Cancels world target initial.run ∧
        initial.run.world.isCancelledState target = true) := by
    refine Machine.run_induction
      (fun machine => machine.Sound ∧ (machine = initial ∨ Cancels world target machine ∧
        machine.world.isCancelledState target = true)) ?_ ⟨soundInitial, Or.inl rfl⟩
    rintro machine next stepped ⟨soundNow, rfl | ⟨cancels, cancelled⟩⟩
    · refine ⟨soundNow.step stepped, Or.inr ?_⟩
      have first : initial.step? = some
          ⟨(world.cancelState target).1,
            (world.cancelState target).2.map .call ++ [.report (.cancel name) (.flag true)],
            []⟩ := by
        simp [initial, Machine.step?, performed]
      cases first.symm.trans stepped
      exact ⟨(Cancels.refl quiet target _ _).cancelState sound.linked fun _ _ => Or.inl rfl,
        sound.linked.isCancelledState_cancelState_same (sound.linked.sources name target held)⟩
    · exact ⟨soundNow.step stepped, Or.inr
        ⟨cancels.step stepped soundNow, cancels.isCancelledState_step stepped soundNow cancelled⟩⟩
  have idle := initial.agenda_run
  rcases atEnd.2 with same | ⟨cancels, cancelled⟩
  · rw [same] at idle
    cases idle
  · refine ⟨initial.run.reports, ?_, cancelled⟩
    have shape : initial.run = ⟨world.after (.cancel name), [], initial.run.reports⟩ := by
      rw [← idle]
      rfl
    exact shape ▸ cancels

end Cancelling

/-- A sound world in which nothing is left to do and nobody listens. -/
structure Calm
    (world : World ν) :
    Prop where
  sound : world.Sound []
  quiet : world.OnlyLinks

/-- One world comes from another by a new state under a name. -/
structure Renews
    (before after : World ν)
    (name : ν) :
    Prop where
  calm : after.Calm
  inherits : Inherits before after
  sources : after.sources = before.sources.insert name before.nextState
  tokens : after.tokens = before.tokens
  nextState : after.nextState = before.nextState + 1

namespace Calm

variable {world : World ν}

omit [DecidableEq ν] in
/-- There is nothing to be done in a world without states. -/
theorem empty
    [DecidableEq ν] :
    Calm ({} : World ν) where
  sound :=
    { linked := .empty
      spread := fun _ _ _ _ found => by cases found
      called := fun _ pending => by cases pending
      assigned := fun _ _ pending => by cases pending }
  quiet := fun _ _ _ _ found => by cases found

/-- A state that is cancelled has cancelled its children. -/
theorem cancelled_of_link
    (calm : world.Calm)
    {child parent entry : Nat}
    {state : State ν}
    (found : world.states.get? child = some state)
    (isLinked : state.link = some ⟨parent, entry⟩)
    (cancelled : world.isCancelledState parent = true) :
    state.cancelled = true := by
  cases parentFound : world.states.get? parent with
  | none => simp [isCancelledState, parentFound] at cancelled
  | some parentState =>
      rw [isCancelledState_of_get? parentFound] at cancelled
      exact calm.sound.cancelled_of_parent found isLinked parentFound cancelled

/-- A new state in a name, made from a grown world. -/
theorem renews
    (calm : world.Calm)
    {grown : World ν}
    (child : State ν)
    (grows : Grows world (grown.bear child))
    (quiet : grown.OnlyLinks)
    (idle : child.callbacks = [])
    (sameNext : grown.nextState = world.nextState)
    (sameSources : grown.sources = world.sources)
    (sameTokens : grown.tokens = world.tokens)
    (sameRegistrations : grown.registrations = world.registrations)
    (name : ν) :
    Renews world ((grown.bear child).setSource name world.nextState) name ∧
      ∀ state,
        ((grown.bear child).setSource name world.nextState).states.get? world.nextState =
            some state →
          state.cancelled = child.cancelled ∧ state.link = child.link := by
  have born : (grown.bear child).states.get? world.nextState = some child :=
    sameNext ▸ grown.get?_bear_same child
  have sound := calm.sound.grow grows
    (calm.sound.linked.grow grows sameSources sameTokens sameRegistrations)
  have shrinks := (grown.bear child).shrinks_setSource name world.nextState
  obtain ⟨sources, tokens⟩ := (grown.bear child).names_setSource name world.nextState
  refine ⟨⟨⟨?_, (quiet.bear idle).shrink shrinks⟩, ?_, ?_, ?_, ?_⟩, ?_⟩
  · exact sound.shrink shrinks (sound.linked.setSource name ⟨child, born⟩)
  · exact grows.inherits.trans shrinks.inherits grows.nextState
  · rw [sources]
    exact congrArg (·.insert name world.nextState) sameSources
  · rw [tokens]
    exact sameTokens
  · rw [shrinks.nextState]
    exact congrArg (· + 1) sameNext
  · intro state found
    obtain ⟨old, inBorn, status, link, -⟩ := shrinks.states _ state found
    cases born.symm.trans inBorn
    exact ⟨status, link⟩

/-- A new source has a pending state without a link. -/
theorem after_source
    (calm : world.Calm)
    (name : ν) :
    Renews world (world.after (.source name)) name ∧
      ∀ state, (world.after (.source name)).states.get? world.nextState = some state →
        state.cancelled = false ∧ state.link = none := by
  rw [World.after_source]
  exact calm.renews {} (calm.sound.linked.grows_bear rfl rfl) calm.quiet rfl rfl rfl
    rfl rfl name

/-- A linked source has a state that is as cancelled as its parent; while it is pending, it is
linked to that. -/
theorem after_linked
    (calm : world.Calm)
    (name : ν)
    {token : ν}
    {parent : Nat}
    (held : world.stateOf? token = some parent) :
    Renews world (world.after (.linked name token)) name ∧
      ∀ state, (world.after (.linked name token)).states.get? world.nextState = some state →
        state.cancelled = world.isCancelledState parent ∧
          (state.cancelled = true ∧ state.link = none ∨
            ∃ entry, state.link = some ⟨parent, entry⟩) := by
  rw [World.after_linked]
  obtain ⟨target, found⟩ := calm.sound.linked.live_of_stateOf? held
  have status := isCancelledState_of_get? found
  cases cancelled : target.cancelled with
  | true =>
      rw [addLinked_of_cancelled held (status.trans cancelled)]
      let child : State ν := { cancelled := true, parent := some parent }
      obtain ⟨renews, isChild⟩ := calm.renews child
        (calm.sound.linked.grows_bear rfl rfl) calm.quiet rfl rfl rfl rfl rfl name
      refine ⟨renews, fun state foundAfter => ?_⟩
      obtain ⟨isCancelled, link⟩ := isChild state foundAfter
      exact ⟨isCancelled.trans (status.trans cancelled).symm, Or.inl ⟨isCancelled, link⟩⟩
  | false =>
      rw [addLinked_of_pending held (status.trans cancelled), world.register_place found]
      obtain ⟨sameNext, sameSources, sameTokens, sameRegistrations⟩ :=
        world.register_frame parent (.link world.nextState)
      let child : State ν :=
        { parent := some parent, link := some ⟨parent, target.nextEntry⟩ }
      have grows :
          Grows world ((world.register parent (.link world.nextState)).1.bear child) :=
        calm.sound.linked.grows_bearLinked found cancelled rfl rfl
      obtain ⟨renews, isChild⟩ := calm.renews child grows
        (calm.quiet.register parent world.nextState)
        rfl sameNext sameSources sameTokens sameRegistrations name
      simp only [bear, sameNext] at renews isChild
      refine ⟨renews, fun state foundAfter => ?_⟩
      obtain ⟨isPending, link⟩ := isChild state foundAfter
      exact ⟨isPending.trans (status.trans cancelled).symm, Or.inr ⟨_, link⟩⟩

/-- A source linked to a token without a state has a pending state without a link. -/
theorem after_linked_detached
    (calm : world.Calm)
    (name : ν)
    {token : ν}
    (detached : world.stateOf? token = none) :
    Renews world (world.after (.linked name token)) name ∧
      ∀ state, (world.after (.linked name token)).states.get? world.nextState = some state →
        state.cancelled = false ∧ state.link = none := by
  rw [World.after_linked, addLinked_of_detached detached, ← World.after_source]
  exact calm.after_source name

/-- A token given a name leaves the states that are alive as they are. -/
theorem setToken
    (calm : world.Calm)
    (name : ν)
    (key : Option Nat)
    (alive : ∀ held, key = some held → world.Live held) :
    (world.setToken name key).Calm ∧ Inherits world (world.setToken name key) ∧
      (world.setToken name key).nextState = world.nextState := by
  have shrinks := world.shrinks_setToken name key
  exact ⟨⟨calm.sound.setToken name alive, calm.quiet.shrink shrinks⟩, shrinks.inherits,
    shrinks.nextState⟩

/-- Cancelling a source keeps a world calm. -/
theorem after_cancel
    (calm : world.Calm)
    (name : ν) :
    (world.after (.cancel name)).Calm := by
  refine ⟨calm.sound.after _, ?_⟩
  cases held : world.sources.get? name with
  | none => exact (after_cancel_of_none held).symm ▸ calm.quiet
  | some key =>
      obtain ⟨_, cancels, -⟩ := calm.sound.after_cancel calm.quiet held
      exact cancels.quiet

end Calm

end World

end Cancellation

end Cadence
