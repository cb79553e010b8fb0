import Cadence.Proofs.Cancellation.Weight
import Mathlib.Data.List.Nodup

namespace Cadence

namespace Cancellation

/-!
# Links between live states

A linked state points to its place among the callbacks of its parent, and the
callback in that place points back to it.  While the parent is pending neither
can be lost: the callbacks of a state have places of their own, so that what is
taken out for one child or registration is never that of another child.

The two directions are one invariant of the world, together with what it needs:
that sources and tokens hold live states, that callbacks are in the order of
their places, and that no registration has the place of a link.
-/

namespace State

variable {ν : Type}

/-- The callbacks of a state are in the order of their places, and a cancelled state has none. -/
structure Ordered
    (state : State ν) :
    Prop where
  increasing : (state.callbacks.map Prod.fst).Pairwise (· < ·)
  below : ∀ entry ∈ state.callbacks, entry.1 < state.nextEntry
  idle : state.cancelled = true → state.callbacks = []

namespace Ordered

/-- A new state has no callbacks. -/
theorem ofEmpty
    {state : State ν}
    (empty : state.callbacks = []) :
    state.Ordered where
  increasing := by simp [empty]
  below := by simp [empty]
  idle := fun _ => empty

/-- Two callbacks in one place are one callback. -/
theorem unique
    {state : State ν}
    (ordered : state.Ordered)
    {place : Nat}
    {first second : Callback ν}
    (firstPresent : (place, first) ∈ state.callbacks)
    (secondPresent : (place, second) ∈ state.callbacks) :
    first = second := by
  have nodup : (state.callbacks.map Prod.fst).Nodup :=
    ordered.increasing.imp fun less => Nat.ne_of_lt less
  have same := List.inj_on_of_nodup_map nodup firstPresent secondPresent rfl
  exact congrArg Prod.snd same

/-- Some callbacks fewer are in order too. -/
theorem sublist
    {before after : State ν}
    (ordered : before.Ordered)
    (fewer : after.callbacks.Sublist before.callbacks)
    (sameEntry : after.nextEntry = before.nextEntry)
    (sameStatus : after.cancelled = before.cancelled) :
    after.Ordered where
  increasing := ordered.increasing.sublist (fewer.map _)
  below := fun entry present => by
    rw [sameEntry]
    exact ordered.below entry (fewer.subset present)
  idle := fun cancelled => by
    have none := ordered.idle (sameStatus ▸ cancelled)
    rw [none] at fewer
    exact List.sublist_nil.mp fewer

/-- A callback is registered behind the others. -/
theorem register
    {state : State ν}
    (ordered : state.Ordered)
    (pending : state.cancelled = false)
    (callback : Callback ν) :
    State.Ordered
      { state with
        callbacks := state.callbacks ++ [(state.nextEntry, callback)]
        nextEntry := state.nextEntry + 1 } where
  increasing := by
    simp only [List.map_append, List.map_cons, List.map_nil]
    refine List.pairwise_append.mpr ⟨ordered.increasing, List.pairwise_singleton _ _, ?_⟩
    intro place present last isLast
    obtain ⟨entry, member, rfl⟩ := List.mem_map.mp present
    rw [List.mem_singleton.mp isLast]
    exact ordered.below entry member
  below := by
    intro entry present
    cases List.mem_append.mp present with
    | inl old => exact Nat.lt_succ_of_lt (ordered.below entry old)
    | inr new =>
        rw [List.mem_singleton.mp new]
        exact Nat.lt_succ_self _
  idle := fun cancelled => by simp [pending] at cancelled

end Ordered

/-- The state without the callback in a place. -/
def without
    (state : State ν)
    (place : Nat) :
    State ν :=
  { state with callbacks := state.callbacks.filter fun entry => entry.1 ≠ place }

end State

namespace World

variable {ν : Type}

/-- Whether a state is alive. -/
def Live
    (world : World ν)
    (key : Nat) :
    Prop :=
  ∃ state, world.states.get? key = some state

/-- A place that no link has and none will get. -/
def Unlinked
    (world : World ν)
    (place : Registration) :
    Prop :=
  place.state < world.nextState ∧
    ∀ state, world.states.get? place.state = some state →
      place.entry < state.nextEntry ∧
        ∀ child, (place.entry, Callback.link child) ∉ state.callbacks

/-- One world comes from another by the death of states and the loss of callbacks. -/
structure Shrinks
    (before after : World ν) :
    Prop where
  nextState : after.nextState = before.nextState
  states :
    ∀ key state, after.states.get? key = some state →
      ∃ old, before.states.get? key = some old ∧
        state.cancelled = old.cancelled ∧ state.link = old.link ∧
        state.nextEntry = old.nextEntry ∧ state.callbacks.Sublist old.callbacks

namespace Shrinks

theorem refl
    (world : World ν) :
    Shrinks world world where
  nextState := rfl
  states := fun _ state found => ⟨state, found, rfl, rfl, rfl, List.Sublist.refl _⟩

/-- Only the states matter. -/
theorem ofStates
    {before after : World ν}
    (sameNext : after.nextState = before.nextState)
    (sameStates : after.states = before.states) :
    Shrinks before after where
  nextState := sameNext
  states := fun _ state found =>
    ⟨state, sameStates ▸ found, rfl, rfl, rfl, List.Sublist.refl _⟩

theorem trans
    {first second third : World ν}
    (before : Shrinks first second)
    (after : Shrinks second third) :
    Shrinks first third where
  nextState := after.nextState.trans before.nextState
  states := by
    intro key state found
    obtain ⟨middle, inMiddle, status, link, next, fewer⟩ := after.states key state found
    obtain ⟨old, inFirst, status', link', next', fewer'⟩ := before.states key middle inMiddle
    exact ⟨old, inFirst, status.trans status', link.trans link', next.trans next',
      fewer.trans fewer'⟩

/-- A place without a link stays so. -/
theorem unlinked
    {before after : World ν}
    (shrinks : Shrinks before after)
    {place : Registration}
    (clear : before.Unlinked place) :
    after.Unlinked place := by
  refine ⟨shrinks.nextState ▸ clear.1, fun state found => ?_⟩
  obtain ⟨old, inBefore, -, -, next, fewer⟩ := shrinks.states _ state found
  obtain ⟨below, noLink⟩ := clear.2 old inBefore
  exact ⟨next ▸ below, fun child present => noLink child (fewer.subset present)⟩

end Shrinks

section Unregister

/-- A callback taken out is the only change. -/
theorem get?_unregister
    (world : World ν)
    (place : Registration)
    (key : Nat) :
    (world.unregister place).states.get? key =
      (world.states.get? key).map fun state =>
        if key = place.state then state.without place.entry else state := by
  unfold unregister
  cases found : world.states.get? place.state with
  | none =>
      by_cases same : key = place.state
      · simp [same, found]
      · simp [same]
  | some state =>
      by_cases same : key = place.state
      · subst same
        simp [found, State.without]
      · simp [same, Table.get?_insert_other]

@[simp] theorem nextState_unregister
    (world : World ν)
    (place : Registration) :
    (world.unregister place).nextState = world.nextState := by
  unfold unregister
  split <;> rfl

@[simp] theorem sources_unregister
    (world : World ν)
    (place : Registration) :
    (world.unregister place).sources = world.sources := by
  unfold unregister
  split <;> rfl

@[simp] theorem tokens_unregister
    (world : World ν)
    (place : Registration) :
    (world.unregister place).tokens = world.tokens := by
  unfold unregister
  split <;> rfl

@[simp] theorem registrations_unregister
    (world : World ν)
    (place : Registration) :
    (world.unregister place).registrations = world.registrations := by
  unfold unregister
  split <;> rfl

theorem shrinks_unregister
    (world : World ν)
    (place : Registration) :
    Shrinks world (world.unregister place) where
  nextState := world.nextState_unregister place
  states := by
    intro key state found
    rw [get?_unregister] at found
    obtain ⟨old, inBefore, rfl⟩ := Option.map_eq_some_iff.mp found
    refine ⟨old, inBefore, ?_⟩
    split
    · exact ⟨rfl, rfl, rfl, List.filter_sublist⟩
    · exact ⟨rfl, rfl, rfl, List.Sublist.refl _⟩

/-- Callbacks in other places stay. -/
theorem mem_callbacks_unregister
    {world : World ν}
    {place : Registration}
    {key : Nat}
    {old state : State ν}
    (inBefore : world.states.get? key = some old)
    (inAfter : (world.unregister place).states.get? key = some state)
    {entry : Nat × Callback ν}
    (present : entry ∈ old.callbacks)
    (elsewhere : key = place.state → entry.1 ≠ place.entry) :
    entry ∈ state.callbacks := by
  rw [get?_unregister, inBefore] at inAfter
  cases inAfter
  by_cases same : key = place.state
  · simpa [same, State.without, present] using elsewhere same
  · simpa [same] using present

/-- What was in the place is gone. -/
theorem not_mem_callbacks_unregister
    {world : World ν}
    {place : Registration}
    {state : State ν}
    (found : (world.unregister place).states.get? place.state = some state)
    (callback : Callback ν) :
    (place.entry, callback) ∉ state.callbacks := by
  rw [get?_unregister] at found
  obtain ⟨old, -, rfl⟩ := Option.map_eq_some_iff.mp found
  simp [State.without]

end Unregister

/-- Links between live states go both ways, and names hold live states. -/
structure Linked
    (world : World ν)
    [DecidableEq ν] :
    Prop where
  older : ∀ key state, world.states.get? key = some state → key < world.nextState
  ordered : ∀ key state, world.states.get? key = some state → state.Ordered
  sources : ∀ name key, world.sources.get? name = some key → world.Live key
  tokens : ∀ name key, world.tokens.get? name = some (some key) → world.Live key
  /-- A pending parent has the callback to which the link of its child points. -/
  upward :
    ∀ child state place parent, world.states.get? child = some state →
      state.link = some place → world.states.get? place.state = some parent →
      parent.cancelled = false → (place.entry, .link child) ∈ parent.callbacks
  /-- Links point to older states. -/
  descends :
    ∀ child state place, world.states.get? child = some state →
      state.link = some place → place.state < child
  /-- A callback that cancels a state is the one to which the state's link points. -/
  downward :
    ∀ key state entry child, world.states.get? key = some state →
      (entry, .link child) ∈ state.callbacks →
      ∃ linked, world.states.get? child = some linked ∧ linked.link = some ⟨key, entry⟩
  registered :
    ∀ name place, world.registrations.get? name = some (some place) → world.Unlinked place

namespace Linked

variable [DecidableEq ν]

/-- Nothing is linked in a world without states. -/
theorem empty :
    Linked ({} : World ν) where
  older := fun _ _ found => by cases found
  ordered := fun _ _ found => by cases found
  sources := fun _ _ found => by cases found
  tokens := fun _ _ found => by cases found
  upward := fun _ _ _ _ found => by cases found
  descends := fun _ _ _ found => by cases found
  downward := fun _ _ _ _ found => by cases found
  registered := fun _ _ found => by cases found

/-- A state that dies or loses callbacks spoils no link if the names hold what is left, the
links of what is left are not lost, and no callback is for a dead state. -/
theorem shrink
    {before after : World ν}
    (linked : before.Linked)
    (shrinks : Shrinks before after)
    (sources : ∀ name key, after.sources.get? name = some key → after.Live key)
    (tokens : ∀ name key, after.tokens.get? name = some (some key) → after.Live key)
    (registered :
      ∀ name place, after.registrations.get? name = some (some place) → before.Unlinked place)
    (kept :
      ∀ child state place old parent, after.states.get? child = some state →
        state.link = some place → before.states.get? place.state = some old →
        after.states.get? place.state = some parent →
        (place.entry, Callback.link child) ∈ old.callbacks →
        (place.entry, Callback.link child) ∈ parent.callbacks)
    (noOrphan :
      ∀ key state entry child, after.states.get? key = some state →
        (entry, Callback.link child) ∈ state.callbacks → after.Live child) :
    after.Linked where
  older := fun key state found => by
    obtain ⟨old, inBefore, -⟩ := shrinks.states key state found
    exact shrinks.nextState ▸ linked.older key old inBefore
  ordered := fun key state found => by
    obtain ⟨old, inBefore, status, -, next, fewer⟩ := shrinks.states key state found
    exact (linked.ordered key old inBefore).sublist fewer next status
  sources := sources
  tokens := tokens
  upward := fun child state place parent childFound isLinked parentFound pending => by
    obtain ⟨oldChild, childBefore, -, sameLink, -⟩ := shrinks.states child state childFound
    obtain ⟨oldParent, parentBefore, status, -⟩ := shrinks.states _ parent parentFound
    refine kept child state place oldParent parent childFound isLinked parentBefore parentFound ?_
    exact linked.upward child oldChild place oldParent childBefore (sameLink ▸ isLinked)
      parentBefore (status ▸ pending)
  descends := fun child state place childFound isLinked => by
    obtain ⟨old, inBefore, -, sameLink, -⟩ := shrinks.states child state childFound
    exact linked.descends child old place inBefore (sameLink ▸ isLinked)
  downward := fun key state entry child found present => by
    obtain ⟨old, inBefore, -, -, -, fewer⟩ := shrinks.states key state found
    obtain ⟨oldChild, childBefore, isLinked⟩ :=
      linked.downward key old entry child inBefore (fewer.subset present)
    obtain ⟨childState, childFound⟩ := noOrphan key state entry child found present
    obtain ⟨_, childBefore', -, sameLink, -⟩ := shrinks.states child childState childFound
    cases childBefore.symm.trans childBefore'
    exact ⟨childState, childFound, sameLink.trans isLinked⟩
  registered := fun name place found =>
    shrinks.unlinked (registered name place found)

/-- Other names for the same states. -/
theorem rename
    {before after : World ν}
    (linked : before.Linked)
    (sameNext : after.nextState = before.nextState)
    (sameStates : after.states = before.states)
    (sources : ∀ name key, after.sources.get? name = some key → before.Live key)
    (tokens : ∀ name key, after.tokens.get? name = some (some key) → before.Live key)
    (registered :
      ∀ name place, after.registrations.get? name = some (some place) → before.Unlinked place) :
    after.Linked := by
  have live : ∀ key, before.Live key → after.Live key := fun key alive => by
    unfold Live
    rw [sameStates]
    exact alive
  refine linked.shrink (.ofStates sameNext sameStates) (fun name key found => ?_)
    (fun name key found => ?_) registered ?_ ?_
  · exact live key (sources name key found)
  · exact live key (tokens name key found)
  · intro child state place old parent _ _ parentBefore parentFound present
    rw [sameStates, parentBefore] at parentFound
    cases parentFound
    exact present
  · intro key state entry child found present
    rw [sameStates] at found
    obtain ⟨childState, childFound, -⟩ := linked.downward key state entry child found present
    exact live child ⟨childState, childFound⟩

/-- A callback that is not for a linked state may be taken out. -/
theorem unregister
    {world : World ν}
    (linked : world.Linked)
    {place : Registration}
    (clear : world.Unlinked place) :
    (world.unregister place).Linked := by
  have live : ∀ key, world.Live key → (world.unregister place).Live key := by
    rintro key ⟨state, found⟩
    exact ⟨_, by rw [get?_unregister, found]; rfl⟩
  have shrinks := world.shrinks_unregister place
  refine linked.shrink shrinks (fun name key found => ?_) (fun name key found => ?_)
    (fun name other found => ?_) ?_ ?_
  · rw [sources_unregister] at found
    exact live key (linked.sources name key found)
  · rw [tokens_unregister] at found
    exact live key (linked.tokens name key found)
  · rw [registrations_unregister] at found
    exact linked.registered name other found
  · intro child state other old parent _ _ parentBefore parentFound present
    refine mem_callbacks_unregister parentBefore parentFound present fun same sameEntry => ?_
    -- The place taken out would be that of a link.
    rw [same] at parentBefore
    exact (clear.2 old parentBefore).2 child (by rwa [← sameEntry])
  · intro key state entry child found present
    obtain ⟨old, inBefore, -, -, -, fewer⟩ := shrinks.states key state found
    obtain ⟨childState, childFound, -⟩ :=
      linked.downward key old entry child inBefore (fewer.subset present)
    exact live child ⟨childState, childFound⟩

end Linked

section Release

/-- What is not held by anything has no name. -/
theorem unnamed_of_not_holds
    [DecidableEq ν]
    {world : World ν}
    {key : Nat}
    (unheld : world.holds key = false) :
    (∀ name, world.sources.get? name ≠ some key) ∧
      ∀ name, world.tokens.get? name ≠ some (some key) := by
  simp only [holds, Bool.or_eq_false_iff, List.any_eq_false, beq_iff_eq] at unheld
  constructor
  · intro name found
    exact unheld.1 _ (Table.mem_entries_of_get? found) rfl
  · intro name found
    exact unheld.2 _ (Table.mem_entries_of_get? found) rfl

@[simp] theorem unregister?_none
    (world : World ν) :
    world.unregister? none = world :=
  rfl

@[simp] theorem unregister?_some
    (world : World ν)
    (place : Registration) :
    world.unregister? (some place) = world.unregister place :=
  rfl

theorem shrinks_unregister?
    (world : World ν)
    (place : Option Registration) :
    Shrinks world (world.unregister? place) := by
  cases place with
  | none => exact .refl world
  | some place => exact world.shrinks_unregister place

/-- The world after the death of a state, which may still have its callback on its parent. -/
def bury
    (world : World ν)
    (key : Nat) :
    World ν :=
  { world with states := world.states.erase key }

@[simp] theorem get?_bury_same
    (world : World ν)
    (key : Nat) :
    (world.bury key).states.get? key = none :=
  world.states.get?_erase_same key

theorem get?_bury_other
    (world : World ν)
    {key other : Nat}
    (different : other ≠ key) :
    (world.bury key).states.get? other = world.states.get? other :=
  world.states.get?_erase_other different

theorem shrinks_bury
    (world : World ν)
    (key : Nat) :
    Shrinks world (world.bury key) where
  nextState := rfl
  states := fun _ state found =>
    ⟨state, Table.get?_of_erase found, rfl, rfl, rfl, List.Sublist.refl _⟩

/-- A state that died stays dead when its callback is taken out. -/
theorem not_live_bury_unregister?
    (world : World ν)
    (key : Nat)
    (place : Option Registration) :
    ¬ ((world.bury key).unregister? place).Live key := by
  rintro ⟨state, found⟩
  obtain ⟨old, alive, -⟩ := (shrinks_unregister? _ _).states key state found
  simp at alive

/-- What is alive besides a dying state stays alive when the callback of that one is taken out. -/
theorem live_bury_unregister?
    {world : World ν}
    {key other : Nat}
    (different : other ≠ key)
    (alive : world.Live other)
    (place : Option Registration) :
    ((world.bury key).unregister? place).Live other := by
  obtain ⟨state, found⟩ := alive
  rw [← world.get?_bury_other different] at found
  cases place with
  | none => exact ⟨state, found⟩
  | some place => exact ⟨_, by rw [unregister?_some, get?_unregister, found]; rfl⟩

/-- A release keeps everything or lets a state that nothing holds die. -/
theorem release_cases
    (world : World ν)
    (key : Nat) :
    world.release key = world ∨
      ∃ dying, world.holds key = false ∧ world.states.get? key = some dying ∧
        world.release key = (world.bury key).unregister? dying.link := by
  unfold release
  cases held : world.holds key with
  | true => exact Or.inl rfl
  | false =>
      cases found : world.states.get? key with
      | none => exact Or.inl rfl
      | some dying => exact Or.inr ⟨dying, rfl, rfl, rfl⟩

theorem shrinks_release
    (world : World ν)
    (key : Nat) :
    Shrinks world (world.release key) := by
  rcases world.release_cases key with same | ⟨dying, -, -, dies⟩
  · rw [same]
    exact .refl world
  · rw [dies]
    exact (world.shrinks_bury key).trans (shrinks_unregister? _ _)

theorem shrinks_release?
    (world : World ν)
    (key : Option Nat) :
    Shrinks world (world.release? key) := by
  cases key with
  | none => exact .refl world
  | some key => exact world.shrinks_release key

/-- Names are not touched when a state dies. -/
theorem names_release
    (world : World ν)
    (key : Nat) :
    (world.release key).sources = world.sources ∧
      (world.release key).tokens = world.tokens ∧
      (world.release key).registrations = world.registrations := by
  rcases world.release_cases key with same | ⟨dying, -, -, dies⟩
  · simp [same]
  · rw [dies]
    cases dying.link with
    | none => exact ⟨rfl, rfl, rfl⟩
    | some place => simp [bury]

theorem names_release?
    (world : World ν)
    (key : Option Nat) :
    (world.release? key).sources = world.sources ∧
      (world.release? key).tokens = world.tokens ∧
      (world.release? key).registrations = world.registrations := by
  cases key with
  | none => exact ⟨rfl, rfl, rfl⟩
  | some key => exact world.names_release key

variable [DecidableEq ν]

namespace Linked

/-- Only one child has its callback in a place of the parent. -/
theorem only_child
    {world : World ν}
    (linked : world.Linked)
    {child other : Nat}
    {state parent : State ν}
    {place : Registration}
    (childFound : world.states.get? child = some state)
    (isLinked : state.link = some place)
    (parentFound : world.states.get? place.state = some parent)
    (present : (place.entry, Callback.link other) ∈ parent.callbacks) :
    other = child := by
  have ordered := linked.ordered _ parent parentFound
  have pending : parent.cancelled = false := by
    cases status : parent.cancelled with
    | false => rfl
    | true => simp [ordered.idle status] at present
  have own := linked.upward child state place parent childFound isLinked parentFound pending
  cases ordered.unique present own
  rfl

/-- When a state that nothing holds dies, its callback leaves the parent, and no other does. -/
theorem release
    {world : World ν}
    (linked : world.Linked)
    (key : Nat) :
    (world.release key).Linked := by
  rcases world.release_cases key with same | ⟨dying, unheld, dyingFound, dies⟩
  · rwa [same]
  obtain ⟨noSource, noToken⟩ := unnamed_of_not_holds unheld
  obtain ⟨sameSources, sameTokens, sameRegistrations⟩ := world.names_release key
  have shrinks := world.shrinks_release key
  have stays : ∀ other, other ≠ key → world.Live other → (world.release key).Live other :=
    fun other different alive => dies ▸ live_bury_unregister? different alive dying.link
  have gone : ¬ (world.release key).Live key :=
    dies ▸ world.not_live_bury_unregister? key dying.link
  refine linked.shrink shrinks (fun name other found => ?_) (fun name other found => ?_)
    (fun name place found => ?_) ?_ ?_
  · rw [sameSources] at found
    exact stays other (fun same => noSource name (same ▸ found)) (linked.sources name other found)
  · rw [sameTokens] at found
    exact stays other (fun same => noToken name (same ▸ found)) (linked.tokens name other found)
  · rw [sameRegistrations] at found
    exact linked.registered name place found
  · intro child state place old parent childFound isLinked parentBefore parentFound present
    have childAlive : child ≠ key := fun same => gone ⟨state, same ▸ childFound⟩
    have parentAlive : place.state ≠ key := fun same =>
      gone ⟨parent, same ▸ parentFound⟩
    rw [dies] at parentFound
    rw [← world.get?_bury_other parentAlive] at parentBefore
    cases link : dying.link with
    | none =>
        rw [link, unregister?_none, parentBefore] at parentFound
        cases parentFound
        exact present
    | some dyingPlace =>
        rw [link, unregister?_some] at parentFound
        refine mem_callbacks_unregister parentBefore parentFound present fun same sameEntry => ?_
        -- Two children in one place of the parent are one child, but only one of them dies.
        rw [world.get?_bury_other parentAlive, same] at parentBefore
        exact childAlive (linked.only_child dyingFound link parentBefore (sameEntry ▸ present))
  · intro other state entry child found present
    obtain ⟨old, inBefore, -, -, -, fewer⟩ := shrinks.states other state found
    obtain ⟨childState, childFound, isLinked⟩ :=
      linked.downward other old entry child inBefore (fewer.subset present)
    refine stays child (fun same => ?_) ⟨childState, childFound⟩
    rw [same, dyingFound] at childFound
    cases childFound
    rw [dies, isLinked, unregister?_some] at found
    exact not_mem_callbacks_unregister found _ present

theorem release?
    {world : World ν}
    (linked : world.Linked)
    (key : Option Nat) :
    (world.release? key).Linked := by
  cases key with
  | none => exact linked
  | some key => exact linked.release key

end Linked

end Release

section Names

variable [DecidableEq ν]

namespace Linked

/-- A name may be given any live state; what had the name is released. -/
theorem setSource
    {world : World ν}
    (linked : world.Linked)
    (name : ν)
    {key : Nat}
    (alive : world.Live key) :
    (world.setSource name key).Linked := by
  have renamed : World.Linked { world with sources := world.sources.insert name key } := by
    refine linked.rename rfl rfl (fun other held found => ?_) linked.tokens linked.registered
    rcases Table.get?_of_insert found with ⟨-, rfl⟩ | old
    · exact alive
    · exact linked.sources other held old
  exact renamed.release? _

theorem setToken
    {world : World ν}
    (linked : world.Linked)
    (name : ν)
    {key : Option Nat}
    (alive : ∀ held, key = some held → world.Live held) :
    (world.setToken name key).Linked := by
  have renamed : World.Linked { world with tokens := world.tokens.insert name key } := by
    refine linked.rename rfl rfl linked.sources (fun other held found => ?_) linked.registered
    rcases Table.get?_of_insert found with ⟨-, same⟩ | old
    · exact alive held same.symm
    · exact linked.tokens other held old
  exact renamed.release? _

theorem removeSource
    {world : World ν}
    (linked : world.Linked)
    (name : ν) :
    (world.removeSource name).Linked := by
  have renamed : World.Linked { world with sources := world.sources.erase name } :=
    linked.rename rfl rfl
      (fun other held found => linked.sources other held (Table.get?_of_erase found))
      linked.tokens linked.registered
  exact renamed.release? _

theorem removeToken
    {world : World ν}
    (linked : world.Linked)
    (name : ν) :
    (world.removeToken name).Linked := by
  have renamed : World.Linked { world with tokens := world.tokens.erase name } :=
    linked.rename rfl rfl linked.sources
      (fun other held found => linked.tokens other held (Table.get?_of_erase found))
      linked.registered
  exact renamed.release? _

/-- The place of a registration, if it has one, is not that of a link. -/
theorem unlinked_of_join
    {world : World ν}
    (linked : world.Linked)
    {name : ν}
    {place : Registration}
    (found : (world.registrations.get? name).join = some place) :
    world.Unlinked place :=
  linked.registered name place (Option.join_eq_some_iff.mp found)

/-- A callback that is not for a linked state, if there is one, may be taken out. -/
theorem unregister?
    {world : World ν}
    (linked : world.Linked)
    {place : Option Registration}
    (clear : ∀ other, place = some other → world.Unlinked other) :
    (world.unregister? place).Linked := by
  cases place with
  | none => exact linked
  | some place => exact linked.unregister (clear place rfl)

/-- Any place without a link may be given a name, and names may be taken away. -/
theorem setRegistrations
    {world : World ν}
    (linked : world.Linked)
    {registrations : Table ν (Option Registration)}
    (clear :
      ∀ name place, registrations.get? name = some (some place) → world.Unlinked place) :
    World.Linked { world with registrations := registrations } :=
  linked.rename rfl rfl linked.sources linked.tokens clear

/-- A name may be given any place without a link; what had the name is unregistered. -/
theorem setRegistration
    {world : World ν}
    (linked : world.Linked)
    (name : ν)
    {place : Option Registration}
    (clear : ∀ other, place = some other → world.Unlinked other) :
    (world.setRegistration name place).Linked := by
  refine (linked.setRegistrations fun other held found => ?_).unregister? fun other found =>
    linked.unlinked_of_join found
  rcases Table.get?_of_insert found with ⟨-, same⟩ | old
  · exact clear held same.symm
  · exact linked.registered other held old

theorem removeRegistration
    {world : World ν}
    (linked : world.Linked)
    (name : ν) :
    (world.removeRegistration name).Linked :=
  (linked.setRegistrations fun other held found =>
    linked.registered other held (Table.get?_of_erase found)).unregister? fun _ found =>
      linked.unlinked_of_join found

theorem moveRegistration
    {world : World ν}
    (linked : world.Linked)
    (origin target : ν) :
    (world.moveRegistration origin target).Linked := by
  unfold World.moveRegistration
  split
  · refine linked.setRegistrations fun other held found => ?_
    rcases Table.get?_of_insert found with ⟨-, same⟩ | old
    · exact linked.unlinked_of_join same.symm
    · exact linked.registered other held old
  · refine (linked.setRegistrations fun other held found => ?_).setRegistration target
      fun other found => linked.unlinked_of_join found
    rcases Table.get?_of_insert found with ⟨-, same⟩ | old
    · cases same
    · exact linked.registered other held old

end Linked

end Names

end World

end Cancellation

end Cadence
