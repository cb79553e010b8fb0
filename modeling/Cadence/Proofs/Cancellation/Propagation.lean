import Cadence.Proofs.Cancellation.Links

namespace Cadence

namespace Cancellation

/-!
# Propagation along links

While callbacks are still to be called, a child of a cancelled parent may be
pending; then the call that cancels it is on the agenda.  With this invariant
every job keeps the links and what is due on them, so that in a world with
nothing left to do all live children of cancelled states are cancelled.
-/

namespace World

variable {ν : Type}

/-- The links are in order, and what a cancelled parent owes to its children is on the agenda. -/
structure Sound
    [DecidableEq ν]
    (world : World ν)
    (agenda : List (Job ν)) :
    Prop where
  linked : world.Linked
  /-- A child of a cancelled parent is cancelled or about to be. -/
  spread :
    ∀ child state place parent, world.states.get? child = some state →
      state.link = some place → world.states.get? place.state = some parent →
      parent.cancelled = true →
      state.cancelled = true ∨ Job.call (.link child) ∈ agenda
  /-- What is about to be cancelled by a link is a child of a cancelled parent. -/
  called :
    ∀ child, Job.call (.link child) ∈ agenda →
      child < world.nextState ∧
        ∀ state, world.states.get? child = some state →
          ∃ place, state.link = some place ∧
            ∀ parent, world.states.get? place.state = some parent → parent.cancelled = true
  /-- What is about to be named is not the place of a link. -/
  assigned :
    ∀ name place, Job.assign name (some place) ∈ agenda → world.Unlinked place

section CancelState

variable [DecidableEq ν]

/-- Cancelling a state changes that state only. -/
theorem Linked.get?_cancelState
    {world : World ν}
    (linked : world.Linked)
    (key other : Nat) :
    (world.cancelState key).1.states.get? other =
      (world.states.get? other).map fun state =>
        if other = key then { state with cancelled := true, callbacks := [] } else state := by
  unfold cancelState
  cases found : world.states.get? key with
  | none =>
      by_cases same : other = key
      · simp [same, found]
      · simp [same]
  | some target =>
      cases status : target.cancelled with
      | true =>
          have none := (linked.ordered key target found).idle status
          by_cases same : other = key
          · obtain ⟨cancelled, callbacks, nextEntry, parent, link⟩ := target
            simp_all
          · simp [same, status]
      | false =>
          by_cases same : other = key
          · subst same
            simp [found, status]
          · simp [same, status, Table.get?_insert_other]

/-- The callbacks that are called are those of the state. -/
theorem Linked.mem_cancelState
    {world : World ν}
    (linked : world.Linked)
    {key : Nat}
    {callback : Callback ν} :
    callback ∈ (world.cancelState key).2 ↔
      ∃ state entry, world.states.get? key = some state ∧ (entry, callback) ∈ state.callbacks := by
  unfold cancelState
  cases found : world.states.get? key with
  | none => simp
  | some target =>
      cases status : target.cancelled with
      | true => simp [status, (linked.ordered key target found).idle status]
      | false => simp [status]

omit [DecidableEq ν] in
/-- Nothing but states is touched when one is cancelled. -/
theorem cancelState_frame
    (world : World ν)
    (key : Nat) :
    (world.cancelState key).1.nextState = world.nextState ∧
      (world.cancelState key).1.sources = world.sources ∧
      (world.cancelState key).1.tokens = world.tokens ∧
      (world.cancelState key).1.registrations = world.registrations := by
  unfold cancelState
  split
  · exact ⟨rfl, rfl, rfl, rfl⟩
  · split <;> exact ⟨rfl, rfl, rfl, rfl⟩

/-- A state after another or itself was cancelled. -/
theorem Linked.of_get?_cancelState
    {world : World ν}
    (linked : world.Linked)
    {key other : Nat}
    {state : State ν}
    (found : (world.cancelState key).1.states.get? other = some state) :
    ∃ old, world.states.get? other = some old ∧ state.link = old.link ∧
      state.nextEntry = old.nextEntry ∧ state.callbacks.Sublist old.callbacks ∧
      (state.cancelled = true ↔ old.cancelled = true ∨ other = key) ∧
      (other ≠ key → state = old) := by
  rw [linked.get?_cancelState] at found
  obtain ⟨old, inBefore, rfl⟩ := Option.map_eq_some_iff.mp found
  refine ⟨old, inBefore, ?_⟩
  by_cases same : other = key
  · simp [same]
  · simp [same]

theorem Linked.live_cancelState
    {world : World ν}
    (linked : world.Linked)
    (key : Nat)
    {other : Nat}
    (alive : world.Live other) :
    (world.cancelState key).1.Live other := by
  obtain ⟨state, found⟩ := alive
  exact ⟨_, by rw [linked.get?_cancelState, found]; rfl⟩

/-- A place without a link stays so when a state is cancelled. -/
theorem Linked.unlinked_cancelState
    {world : World ν}
    (linked : world.Linked)
    (key : Nat)
    {place : Registration}
    (clear : world.Unlinked place) :
    (world.cancelState key).1.Unlinked place := by
  obtain ⟨sameNext, -⟩ := world.cancelState_frame key
  refine ⟨sameNext ▸ clear.1, fun state found => ?_⟩
  obtain ⟨old, inBefore, -, next, fewer, -⟩ := linked.of_get?_cancelState found
  obtain ⟨below, noLink⟩ := clear.2 old inBefore
  exact ⟨next ▸ below, fun child present => noLink child (fewer.subset present)⟩

/-- Cancelling a state keeps the links. -/
theorem Linked.cancelState
    {world : World ν}
    (linked : world.Linked)
    (key : Nat) :
    (world.cancelState key).1.Linked := by
  obtain ⟨sameNext, sameSources, sameTokens, sameRegistrations⟩ := world.cancelState_frame key
  refine ⟨fun other state found => ?_, fun other state found => ?_, fun name held found => ?_,
    fun name held found => ?_, ?_, ?_, ?_, fun name place found => ?_⟩
  · obtain ⟨old, inBefore, -⟩ := linked.of_get?_cancelState found
    exact sameNext ▸ linked.older other old inBefore
  · rw [linked.get?_cancelState] at found
    obtain ⟨old, inBefore, rfl⟩ := Option.map_eq_some_iff.mp found
    split
    · exact .ofEmpty rfl
    · exact linked.ordered other old inBefore
  · exact linked.live_cancelState key (linked.sources name held (sameSources ▸ found))
  · exact linked.live_cancelState key (linked.tokens name held (sameTokens ▸ found))
  · intro child state place parent childFound isLinked parentFound pending
    obtain ⟨oldChild, childBefore, sameLink, -⟩ := linked.of_get?_cancelState childFound
    obtain ⟨oldParent, parentBefore, -, -, -, status, same⟩ :=
      linked.of_get?_cancelState parentFound
    have other : place.state ≠ key := fun isKey => by
      simp [status.mpr (Or.inr isKey)] at pending
    rw [same other] at pending ⊢
    exact linked.upward child oldChild place oldParent childBefore (sameLink ▸ isLinked)
      parentBefore pending
  · intro child state place childFound isLinked
    obtain ⟨oldChild, childBefore, sameLink, -⟩ := linked.of_get?_cancelState childFound
    exact linked.descends child oldChild place childBefore (sameLink ▸ isLinked)
  · intro other state entry child found present
    obtain ⟨old, inBefore, -, -, fewer, -⟩ := linked.of_get?_cancelState found
    obtain ⟨childState, childBefore, isLinked⟩ :=
      linked.downward other old entry child inBefore (fewer.subset present)
    obtain ⟨childAfter, childFound⟩ := linked.live_cancelState key ⟨childState, childBefore⟩
    obtain ⟨_, childBefore', sameLink, -⟩ := linked.of_get?_cancelState childFound
    cases childBefore.symm.trans childBefore'
    exact ⟨childAfter, childFound, sameLink.trans isLinked⟩
  · exact linked.unlinked_cancelState key (linked.registered name place (sameRegistrations ▸ found))

end CancelState

namespace Sound

variable [DecidableEq ν]

/-- Only calls of links and names to be given matter on the agenda. -/
theorem reagenda
    {world : World ν}
    {before after : List (Job ν)}
    (sound : world.Sound before)
    (calls : ∀ child, Job.call (.link child) ∈ after ↔ Job.call (.link child) ∈ before)
    (assigns :
      ∀ name place, Job.assign name (some place) ∈ after →
        Job.assign name (some place) ∈ before) :
    world.Sound after where
  linked := sound.linked
  spread := fun child state place parent childFound isLinked parentFound cancelled =>
    (sound.spread child state place parent childFound isLinked parentFound cancelled).imp_right
      (calls child).mpr
  called := fun child pending => sound.called child ((calls child).mp pending)
  assigned := fun name place pending => sound.assigned name place (assigns name place pending)

/-- The death of states and the loss of callbacks change nothing on the agenda. -/
theorem shrink
    {before after : World ν}
    {agenda : List (Job ν)}
    (sound : before.Sound agenda)
    (shrinks : Shrinks before after)
    (linked : after.Linked) :
    after.Sound agenda where
  linked := linked
  spread := by
    intro child state place parent childFound isLinked parentFound cancelled
    obtain ⟨oldChild, childBefore, status, sameLink, -⟩ := shrinks.states child state childFound
    obtain ⟨oldParent, parentBefore, parentStatus, -⟩ := shrinks.states _ parent parentFound
    rw [status]
    exact sound.spread child oldChild place oldParent childBefore (sameLink ▸ isLinked)
      parentBefore (parentStatus ▸ cancelled)
  called := by
    intro child pending
    obtain ⟨older, isChild⟩ := sound.called child pending
    refine ⟨shrinks.nextState ▸ older, fun state found => ?_⟩
    obtain ⟨old, inBefore, -, sameLink, -⟩ := shrinks.states child state found
    obtain ⟨place, isLinked, parents⟩ := isChild old inBefore
    refine ⟨place, sameLink.trans isLinked, fun parent parentFound => ?_⟩
    obtain ⟨oldParent, parentBefore, status, -⟩ := shrinks.states _ parent parentFound
    exact status.trans (parents oldParent parentBefore)
  assigned := fun name place pending => shrinks.unlinked (sound.assigned name place pending)

/-- When a state is cancelled its callbacks are to be called; a call that was to cancel the state
itself is no longer needed. -/
theorem cancelState
    {world : World ν}
    {agenda rest : List (Job ν)}
    (sound : world.Sound agenda)
    (key : Nat)
    (calls :
      ∀ child, Job.call (.link child) ∈ agenda →
        child = key ∨ Job.call (.link child) ∈ rest)
    (fewer : rest ⊆ agenda) :
    (world.cancelState key).1.Sound ((world.cancelState key).2.map .call ++ rest) where
  linked := sound.linked.cancelState key
  spread := by
    intro child state place parent childFound isLinked parentFound cancelled
    obtain ⟨oldChild, childBefore, sameLink, -, -, childStatus, -⟩ :=
      sound.linked.of_get?_cancelState childFound
    obtain ⟨oldParent, parentBefore, -, -, -, parentStatus, -⟩ :=
      sound.linked.of_get?_cancelState parentFound
    rw [childStatus]
    rw [sameLink] at isLinked
    cases oldStatus : oldParent.cancelled with
    | true =>
        rcases sound.spread child oldChild place oldParent childBefore isLinked parentBefore
          oldStatus with already | pending
        · exact Or.inl (Or.inl already)
        · rcases calls child pending with isKey | other
          · exact Or.inl (Or.inr isKey)
          · exact Or.inr (List.mem_append.mpr (Or.inr other))
    | false =>
        -- The parent is the state that is cancelled now, and calls the child.
        have isKey : place.state = key := by simpa [oldStatus] using parentStatus.mp cancelled
        have present := sound.linked.upward child oldChild place oldParent childBefore isLinked
          parentBefore oldStatus
        have isCalled : Callback.link child ∈ (world.cancelState key).2 :=
          sound.linked.mem_cancelState.mpr
            ⟨oldParent, place.entry, isKey ▸ parentBefore, present⟩
        exact Or.inr (List.mem_append.mpr (Or.inl (List.mem_map_of_mem isCalled)))
  called := by
    intro child pending
    obtain ⟨sameNext, -⟩ := world.cancelState_frame key
    rw [sameNext]
    rcases List.mem_append.mp pending with new | old
    · obtain ⟨callback, isCalled, isLink⟩ := List.mem_map.mp new
      cases isLink
      obtain ⟨target, entry, targetFound, present⟩ := sound.linked.mem_cancelState.mp isCalled
      obtain ⟨oldChild, childBefore, isLinked⟩ :=
        sound.linked.downward key target entry child targetFound present
      refine ⟨sound.linked.older child oldChild childBefore, fun state found => ?_⟩
      obtain ⟨_, childBefore', sameLink, -⟩ := sound.linked.of_get?_cancelState found
      cases childBefore.symm.trans childBefore'
      refine ⟨⟨key, entry⟩, sameLink.trans isLinked, fun parent parentFound => ?_⟩
      obtain ⟨_, -, -, -, -, status, -⟩ := sound.linked.of_get?_cancelState parentFound
      exact status.mpr (Or.inr rfl)
    · obtain ⟨older, isChild⟩ := sound.called child (fewer old)
      refine ⟨older, fun state found => ?_⟩
      obtain ⟨oldChild, childBefore, sameLink, -⟩ := sound.linked.of_get?_cancelState found
      obtain ⟨place, isLinked, parents⟩ := isChild oldChild childBefore
      refine ⟨place, sameLink.trans isLinked, fun parent parentFound => ?_⟩
      obtain ⟨oldParent, parentBefore, -, -, -, status, -⟩ :=
        sound.linked.of_get?_cancelState parentFound
      exact status.mpr (Or.inl (parents oldParent parentBefore))
  assigned := by
    intro name place pending
    rcases List.mem_append.mp pending with new | old
    · obtain ⟨callback, -, isAssign⟩ := List.mem_map.mp new
      cases isAssign
    · exact sound.linked.unlinked_cancelState key (sound.assigned name place (fewer old))

end Sound

section Growth

/-- A state after callbacks were registered on it. -/
structure Grown
    (old state : State ν) :
    Prop where
  ordered : state.Ordered
  cancelled : state.cancelled = old.cancelled
  link : state.link = old.link
  nextEntry : old.nextEntry ≤ state.nextEntry
  kept : old.callbacks ⊆ state.callbacks
  added : ∀ entry ∈ state.callbacks, entry ∈ old.callbacks ∨ old.nextEntry ≤ entry.1

theorem Grown.refl
    {state : State ν}
    (ordered : state.Ordered) :
    Grown state state :=
  ⟨ordered, rfl, rfl, Nat.le_refl _, List.Subset.refl _, fun _ present => Or.inl present⟩

theorem Grown.register
    {state : State ν}
    (ordered : state.Ordered)
    (pending : state.cancelled = false)
    (callback : Callback ν) :
    Grown state
      { state with
        callbacks := state.callbacks ++ [(state.nextEntry, callback)]
        nextEntry := state.nextEntry + 1 } where
  ordered := ordered.register pending callback
  cancelled := rfl
  link := rfl
  nextEntry := Nat.le_succ _
  kept := List.subset_append_left _ _
  added := fun entry present => by
    rcases List.mem_append.mp present with old | new
    · exact Or.inl old
    · rw [List.mem_singleton.mp new]
      exact Or.inr (Nat.le_refl _)

/-- One world comes from another by new callbacks and at most one new state, whose link, if it
has one, is in order. -/
structure Grows
    (before after : World ν) :
    Prop where
  nextState : before.nextState ≤ after.nextState
  old :
    ∀ key old, before.states.get? key = some old →
      ∃ state, after.states.get? key = some state ∧ Grown old state
  new :
    ∀ key state, after.states.get? key = some state → ¬ before.Live key →
      key = before.nextState ∧ key < after.nextState ∧ state.callbacks = [] ∧
        ∀ place, state.link = some place →
          place.state < key ∧
            ∃ parent, after.states.get? place.state = some parent ∧
              parent.cancelled = false ∧ (place.entry, Callback.link key) ∈ parent.callbacks
  links :
    ∀ key old state entry child, before.states.get? key = some old →
      after.states.get? key = some state → (entry, Callback.link child) ∈ state.callbacks →
      (entry, Callback.link child) ∈ old.callbacks ∨
        ∃ linked, after.states.get? child = some linked ∧ linked.link = some ⟨key, entry⟩

namespace Grows

/-- What is alive stays alive. -/
theorem live
    {before after : World ν}
    (grows : Grows before after)
    {key : Nat}
    (alive : before.Live key) :
    after.Live key := by
  obtain ⟨old, inBefore⟩ := alive
  obtain ⟨state, found, -⟩ := grows.old key old inBefore
  exact ⟨state, found⟩

/-- An old state after the growth. -/
theorem grown
    {before after : World ν}
    (grows : Grows before after)
    {key : Nat}
    {old state : State ν}
    (inBefore : before.states.get? key = some old)
    (found : after.states.get? key = some state) :
    Grown old state := by
  obtain ⟨_, found', grown⟩ := grows.old key old inBefore
  cases found.symm.trans found'
  exact grown

/-- A state that was not alive before is the new one. -/
theorem eq_nextState
    {before after : World ν}
    (grows : Grows before after)
    {key : Nat}
    (alive : after.Live key)
    (dead : ¬ before.Live key) :
    key = before.nextState := by
  obtain ⟨state, found⟩ := alive
  exact (grows.new key state found dead).1

/-- The parent of an old state is no new one, for a state is younger than its parent. -/
theorem parent_live
    [DecidableEq ν]
    {before after : World ν}
    (grows : Grows before after)
    (linked : before.Linked)
    {child : Nat}
    {old : State ν}
    {place : Registration}
    (inBefore : before.states.get? child = some old)
    (isLinked : old.link = some place)
    (alive : after.Live place.state) :
    before.Live place.state := by
  by_contra dead
  have isNew := grows.eq_nextState alive dead
  have younger := linked.descends child old place inBefore isLinked
  have older := linked.older child old inBefore
  omega

/-- A place without a link gets none. -/
theorem unlinked
    {before after : World ν}
    (grows : Grows before after)
    {place : Registration}
    (clear : before.Unlinked place) :
    after.Unlinked place := by
  refine ⟨Nat.lt_of_lt_of_le clear.1 grows.nextState, fun state found => ?_⟩
  by_cases alive : before.Live place.state
  · obtain ⟨old, inBefore⟩ := alive
    have grown := grows.grown inBefore found
    obtain ⟨below, noLink⟩ := clear.2 old inBefore
    refine ⟨Nat.lt_of_lt_of_le below grown.nextEntry, fun child present => ?_⟩
    rcases grown.added _ present with before | later
    · exact noLink child before
    · exact Nat.not_lt.mpr later below
  · exact absurd (grows.eq_nextState ⟨state, found⟩ alive) (Nat.ne_of_lt clear.1)

end Grows

variable [DecidableEq ν]

/-- Growth keeps the links. -/
theorem Linked.grow
    {before after : World ν}
    (linked : before.Linked)
    (grows : Grows before after)
    (sameSources : after.sources = before.sources)
    (sameTokens : after.tokens = before.tokens)
    (sameRegistrations : after.registrations = before.registrations) :
    after.Linked where
  older := fun key state found => by
    by_cases alive : before.Live key
    · obtain ⟨old, inBefore⟩ := alive
      exact Nat.lt_of_lt_of_le (linked.older key old inBefore) grows.nextState
    · exact (grows.new key state found alive).2.1
  ordered := fun key state found => by
    by_cases alive : before.Live key
    · obtain ⟨old, inBefore⟩ := alive
      exact (grows.grown inBefore found).ordered
    · exact .ofEmpty (grows.new key state found alive).2.2.1
  sources := fun name key found => grows.live (linked.sources name key (sameSources ▸ found))
  tokens := fun name key found => grows.live (linked.tokens name key (sameTokens ▸ found))
  upward := fun child state place parent childFound isLinked parentFound pending => by
    by_cases alive : before.Live child
    · obtain ⟨old, inBefore⟩ := alive
      have oldLink : old.link = some place :=
        (grows.grown inBefore childFound).link.symm.trans isLinked
      obtain ⟨oldParent, parentBefore⟩ :=
        grows.parent_live linked inBefore oldLink ⟨parent, parentFound⟩
      have grown := grows.grown parentBefore parentFound
      exact grown.kept (linked.upward child old place oldParent inBefore oldLink parentBefore
        (grown.cancelled ▸ pending))
    · obtain ⟨-, -, -, inOrder⟩ := grows.new child state childFound alive
      obtain ⟨-, _, parentFound', -, present⟩ := inOrder place isLinked
      cases parentFound.symm.trans parentFound'
      exact present
  descends := fun child state place childFound isLinked => by
    by_cases alive : before.Live child
    · obtain ⟨old, inBefore⟩ := alive
      exact linked.descends child old place inBefore
        ((grows.grown inBefore childFound).link.symm.trans isLinked)
    · exact ((grows.new child state childFound alive).2.2.2 place isLinked).1
  downward := fun key state entry child found present => by
    by_cases alive : before.Live key
    · obtain ⟨old, inBefore⟩ := alive
      rcases grows.links key old state entry child inBefore found present with before | after
      · obtain ⟨oldChild, childBefore, isLinked⟩ :=
          linked.downward key old entry child inBefore before
        obtain ⟨childState, childFound, grown⟩ := grows.old child oldChild childBefore
        exact ⟨childState, childFound, grown.link.trans isLinked⟩
      · exact after
    · rw [(grows.new key state found alive).2.2.1] at present
      cases present
  registered := fun name place found =>
    grows.unlinked (linked.registered name place (sameRegistrations ▸ found))

/-- Growth changes nothing on the agenda. -/
theorem Sound.grow
    {before after : World ν}
    {agenda : List (Job ν)}
    (sound : before.Sound agenda)
    (grows : Grows before after)
    (linked : after.Linked) :
    after.Sound agenda where
  linked := linked
  spread := by
    intro child state place parent childFound isLinked parentFound cancelled
    by_cases alive : before.Live child
    · obtain ⟨old, inBefore⟩ := alive
      have grownChild := grows.grown inBefore childFound
      have oldLink : old.link = some place := grownChild.link.symm.trans isLinked
      obtain ⟨oldParent, parentBefore⟩ :=
        grows.parent_live sound.linked inBefore oldLink ⟨parent, parentFound⟩
      have grown := grows.grown parentBefore parentFound
      rw [grownChild.cancelled]
      exact sound.spread child old place oldParent inBefore oldLink parentBefore
        (grown.cancelled ▸ cancelled)
    · obtain ⟨-, -, -, inOrder⟩ := grows.new child state childFound alive
      obtain ⟨-, _, parentFound', pending, -⟩ := inOrder place isLinked
      cases parentFound.symm.trans parentFound'
      simp [pending] at cancelled
  called := by
    intro child isCalled
    obtain ⟨older, isChild⟩ := sound.called child isCalled
    refine ⟨Nat.lt_of_lt_of_le older grows.nextState, fun state found => ?_⟩
    by_cases alive : before.Live child
    · obtain ⟨old, inBefore⟩ := alive
      obtain ⟨place, isLinked, parents⟩ := isChild old inBefore
      refine ⟨place, (grows.grown inBefore found).link.trans isLinked, ?_⟩
      intro parent parentFound
      obtain ⟨oldParent, parentBefore⟩ :=
        grows.parent_live sound.linked inBefore isLinked ⟨parent, parentFound⟩
      exact (grows.grown parentBefore parentFound).cancelled.trans
        (parents oldParent parentBefore)
    · exact absurd (grows.eq_nextState ⟨state, found⟩ alive) (Nat.ne_of_lt older)
  assigned := fun name place pending =>
    grows.unlinked (sound.assigned name place pending)

end Growth

section Register

/-- A registered callback is the only change. -/
theorem get?_register
    {world : World ν}
    {key : Nat}
    {target : State ν}
    (found : world.states.get? key = some target)
    (callback : Callback ν)
    (other : Nat) :
    (world.register key callback).1.states.get? other =
      if other = key then
        some
          { target with
            callbacks := target.callbacks ++ [(target.nextEntry, callback)]
            nextEntry := target.nextEntry + 1 }
      else
        world.states.get? other := by
  by_cases same : other = key
  · simp [register, found, same]
  · simp [register, found, same, Table.get?_insert_other]

/-- The place of a registered callback. -/
theorem register_place
    (world : World ν)
    {key : Nat}
    {target : State ν}
    (found : world.states.get? key = some target)
    (callback : Callback ν) :
    (world.register key callback).2 = some ⟨key, target.nextEntry⟩ := by
  simp [register, found]

/-- Nothing but states is touched by a registration. -/
theorem register_frame
    (world : World ν)
    (key : Nat)
    (callback : Callback ν) :
    (world.register key callback).1.nextState = world.nextState ∧
      (world.register key callback).1.sources = world.sources ∧
      (world.register key callback).1.tokens = world.tokens ∧
      (world.register key callback).1.registrations = world.registrations := by
  unfold register
  split <;> exact ⟨rfl, rfl, rfl, rfl⟩

variable [DecidableEq ν]

/-- A pending state that is alive grows by a listener. -/
theorem Linked.grows_register
    {world : World ν}
    (linked : world.Linked)
    {key : Nat}
    {target : State ν}
    (found : world.states.get? key = some target)
    (pending : target.cancelled = false)
    (serial : Nat)
    (label : String)
    (reactions : List (Step ν)) :
    Grows world (world.register key (.listener serial label reactions)).1 where
  nextState := Nat.le_of_eq (world.register_frame key _).1.symm
  old := by
    intro other old inBefore
    rw [get?_register found]
    by_cases same : other = key
    · subst same
      cases found.symm.trans inBefore
      exact ⟨_, if_pos rfl, Grown.register (linked.ordered _ target found) pending _⟩
    · exact ⟨old, (if_neg same).trans inBefore, Grown.refl (linked.ordered other old inBefore)⟩
  new := by
    intro other state inAfter dead
    rw [get?_register found] at inAfter
    split at inAfter
    · next same => exact absurd ⟨target, same ▸ found⟩ dead
    · exact absurd ⟨state, inAfter⟩ dead
  links := by
    intro other old state entry child inBefore inAfter present
    rw [get?_register found] at inAfter
    split at inAfter
    · next same =>
      subst same
      cases found.symm.trans inBefore
      cases inAfter
      exact Or.inl (by simpa using present)
    · cases inBefore.symm.trans inAfter
      exact Or.inl present

/-- The place of a listener is not that of a link. -/
theorem Linked.unlinked_register
    {world : World ν}
    (linked : world.Linked)
    {key : Nat}
    {target : State ν}
    (found : world.states.get? key = some target)
    (serial : Nat)
    (label : String)
    (reactions : List (Step ν)) :
    (world.register key (.listener serial label reactions)).1.Unlinked
      ⟨key, target.nextEntry⟩ := by
  refine ⟨(world.register_frame key _).1 ▸ linked.older key target found, fun state inAfter => ?_⟩
  rw [get?_register found, if_pos rfl] at inAfter
  cases inAfter
  refine ⟨Nat.lt_succ_self _, fun child present => ?_⟩
  rcases List.mem_append.mp present with old | new
  · exact Nat.lt_irrefl _ ((linked.ordered key target found).below _ old)
  · cases List.mem_singleton.mp new

end Register

section Birth

variable [DecidableEq ν]

/-- The world with a new state. -/
def bear
    (world : World ν)
    (state : State ν) :
    World ν :=
  { world with
    states := world.states.insert world.nextState state
    nextState := world.nextState + 1 }

omit [DecidableEq ν] in
@[simp] theorem get?_bear_same
    (world : World ν)
    (state : State ν) :
    (world.bear state).states.get? world.nextState = some state :=
  world.states.get?_insert_same _ state

omit [DecidableEq ν] in
theorem get?_bear_other
    (world : World ν)
    (state : State ν)
    {other : Nat}
    (different : other ≠ world.nextState) :
    (world.bear state).states.get? other = world.states.get? other :=
  world.states.get?_insert_other different state

/-- A state is born without a link. -/
theorem Linked.grows_bear
    {world : World ν}
    (linked : world.Linked)
    {state : State ν}
    (idle : state.callbacks = [])
    (unlinked : state.link = none) :
    Grows world (world.bear state) where
  nextState := Nat.le_succ _
  old := by
    intro other old inBefore
    have older := linked.older other old inBefore
    refine ⟨old, ?_, Grown.refl (linked.ordered other old inBefore)⟩
    rwa [world.get?_bear_other state (Nat.ne_of_lt older)]
  new := by
    intro other found inAfter dead
    rcases Table.get?_of_insert inAfter with ⟨isNew, rfl⟩ | old
    · exact ⟨isNew, isNew ▸ Nat.lt_succ_self _, idle, fun place isLinked => by
        simp [unlinked] at isLinked⟩
    · exact absurd ⟨found, old⟩ dead
  links := by
    intro other old found entry child inBefore inAfter present
    have older := linked.older other old inBefore
    rw [world.get?_bear_other state (Nat.ne_of_lt older)] at inAfter
    cases inBefore.symm.trans inAfter
    exact Or.inl present

omit [DecidableEq ν] in
/-- The states after one is born with a link: the new one, and the one that it is linked to, with
another callback. -/
theorem get?_bearLinked
    {world : World ν}
    {key : Nat}
    {target : State ν}
    (found : world.states.get? key = some target)
    (state : State ν)
    (other : Nat) :
    ((world.register key (.link world.nextState)).1.bear state).states.get? other =
      if other = world.nextState then
        some state
      else if other = key then
        some
          { target with
            callbacks := target.callbacks ++ [(target.nextEntry, .link world.nextState)]
            nextEntry := target.nextEntry + 1 }
      else
        world.states.get? other := by
  have sameNext := (world.register_frame key (.link world.nextState)).1
  by_cases isNew : other = world.nextState
  · have born := get?_bear_same (world.register key (.link world.nextState)).1 state
    rw [sameNext] at born
    rw [if_pos isNew, isNew, born]
  · have same := get?_bear_other (world.register key (.link world.nextState)).1 state
      (show other ≠ _ by rwa [sameNext])
    rw [if_neg isNew, same, get?_register found]

/-- A state is born with a link to a pending one. -/
theorem Linked.grows_bearLinked
    {world : World ν}
    (linked : world.Linked)
    {key : Nat}
    {target : State ν}
    (found : world.states.get? key = some target)
    (pending : target.cancelled = false)
    {state : State ν}
    (idle : state.callbacks = [])
    (isLinked : state.link = some ⟨key, target.nextEntry⟩) :
    Grows world ((world.register key (.link world.nextState)).1.bear state) := by
  have older := linked.older key target found
  have inAfter := get?_bearLinked found state
  have next :
      ((world.register key (.link world.nextState)).1.bear state).nextState =
        world.nextState + 1 := by
    simp only [bear, (world.register_frame key (.link world.nextState)).1]
  refine ⟨?_, ?_, ?_, ?_⟩
  · rw [next]
    exact Nat.le_succ _
  · intro other old inBefore
    have oldOlder := linked.older other old inBefore
    rw [inAfter, if_neg (Nat.ne_of_lt oldOlder)]
    by_cases same : other = key
    · subst same
      cases found.symm.trans inBefore
      exact ⟨_, if_pos rfl, Grown.register (linked.ordered _ target found) pending _⟩
    · exact ⟨old, (if_neg same).trans inBefore, Grown.refl (linked.ordered other old inBefore)⟩
  · intro other after foundAfter dead
    have isNew : other = world.nextState := by
      by_contra notNew
      rw [inAfter, if_neg notNew] at foundAfter
      split at foundAfter
      · next same => exact dead ⟨target, same ▸ found⟩
      · exact dead ⟨after, foundAfter⟩
    rw [inAfter, if_pos isNew] at foundAfter
    cases foundAfter
    refine ⟨isNew, ?_, idle, fun place placed => ?_⟩
    · rw [next, isNew]
      exact Nat.lt_succ_self _
    · cases isLinked.symm.trans placed
      subst isNew
      have parentAfter := inAfter key
      rw [if_neg (Nat.ne_of_lt older), if_pos rfl] at parentAfter
      exact ⟨older, _, parentAfter, pending,
        List.mem_append.mpr (Or.inr (List.mem_singleton.mpr rfl))⟩
  · intro other old after entry child inBefore foundAfter present
    have oldOlder := linked.older other old inBefore
    rw [inAfter, if_neg (Nat.ne_of_lt oldOlder)] at foundAfter
    split at foundAfter
    · next same =>
      subst same
      cases found.symm.trans inBefore
      cases foundAfter
      rcases List.mem_append.mp present with before | new
      · exact Or.inl before
      · cases List.mem_singleton.mp new
        exact Or.inr ⟨state, by rw [inAfter, if_pos rfl], isLinked⟩
    · cases inBefore.symm.trans foundAfter
      exact Or.inl present

end Birth

end World

end Cancellation

end Cadence
