import Cadence.Loop.Run
import Cadence.Proofs.Cancellation.Quiet

namespace Cadence

open Cancellation

/-!
# The signals of a run

The stop source of a run hangs on the caller's source, if the run was given its
token, and the wake source hangs on the stop source.  Only the wake source is
ever replaced.  So a wake cancels the wake source alone, while a stop reaches
every token of a wake source, also that of one replaced long ago.
-/

/-- A state is linked to another, or cancelled. -/
def HangsOn
    (signals : World LoopSignal)
    (key parent : Nat) :
    Prop :=
  ∀ state, signals.states.get? key = some state →
    state.cancelled = true ∨ ∃ entry, state.link = some ⟨parent, entry⟩

namespace HangsOn

variable {signals after : World LoopSignal} {key parent : Nat}

/-- What hangs on a cancelled state is cancelled. -/
theorem cancelled
    (hangs : HangsOn signals key parent)
    (calm : signals.Calm)
    (alive : signals.Live key)
    (cancelled : signals.isCancelledState parent = true) :
    signals.isCancelledState key = true := by
  obtain ⟨state, found⟩ := alive
  rw [World.isCancelledState_of_get? found]
  rcases hangs state found with already | ⟨entry, isLinked⟩
  · exact already
  · exact calm.cancelled_of_link found isLinked cancelled

theorem inherit
    (hangs : HangsOn signals key parent)
    (inherits : World.Inherits signals after)
    (older : key < signals.nextState) :
    HangsOn after key parent := by
  intro state found
  obtain ⟨old, inBefore, status, link⟩ := inherits key state found older
  rw [status, link]
  exact hangs old inBefore

theorem cancels
    (hangs : HangsOn signals key parent)
    {target : Nat}
    {reports : List (Report LoopSignal)}
    (cancels : World.Cancels signals target ⟨after, [], reports⟩) :
    HangsOn after key parent := by
  intro state found
  obtain ⟨old, inBefore, link⟩ := cancels.link found
  rcases hangs old inBefore with already | isLinked
  · have kept := cancels.kept key ((World.isCancelledState_of_get? inBefore).trans already)
    exact Or.inl ((World.isCancelledState_of_get? found).symm.trans kept)
  · exact Or.inr (link ▸ isLinked)

end HangsOn

/-- The caller's source and the stop source of a run, and their tokens. -/
structure Rooted
    (signals : World LoopSignal)
    (external stop : Nat) :
    Prop where
  calm : signals.Calm
  externalSource : signals.sources.get? .external = some external
  stopSource : signals.sources.get? .stop = some stop
  externalToken : ∀ key, signals.stateOf? .external = some key → key = external
  stopToken : signals.stateOf? .stop = some stop
  order : external < stop
  externalLink :
    ∀ state, signals.states.get? external = some state → state.link = none
  stopLink :
    ∀ state place, signals.states.get? stop = some state → state.link = some place →
      place.state = external

namespace Rooted

variable {signals after : World LoopSignal} {external stop : Nat}

theorem stopLive
    (rooted : Rooted signals external stop) :
    signals.Live stop :=
  rooted.calm.sound.linked.sources _ _ rooted.stopSource

theorem externalLive
    (rooted : Rooted signals external stop) :
    signals.Live external :=
  rooted.calm.sound.linked.sources _ _ rooted.externalSource

/-- A live state is older than the next one. -/
theorem lt_nextState
    (rooted : Rooted signals external stop)
    {key : Nat}
    (alive : signals.Live key) :
    key < signals.nextState := by
  obtain ⟨state, found⟩ := alive
  exact rooted.calm.sound.linked.older key state found

theorem isCancelled_stop
    (rooted : Rooted signals external stop) :
    signals.isCancelled .stop = signals.isCancelledState stop := by
  simp [World.isCancelled, rooted.stopToken]

/-- As long as the names are the same and the states are as they were, the signals stay rooted. -/
theorem inherit
    (rooted : Rooted signals external stop)
    (calm : after.Calm)
    (inherits : World.Inherits signals after)
    (sources :
      ∀ name, name = .external ∨ name = .stop →
        after.sources.get? name = signals.sources.get? name)
    (tokens :
      ∀ name, name = .external ∨ name = .stop →
        after.tokens.get? name = signals.tokens.get? name) :
    Rooted after external stop where
  calm := calm
  externalSource := (sources _ (Or.inl rfl)).trans rooted.externalSource
  stopSource := (sources _ (Or.inr rfl)).trans rooted.stopSource
  externalToken := fun key held =>
    rooted.externalToken key ((congrArg Option.join (tokens _ (Or.inl rfl))).symm.trans held)
  stopToken := (congrArg Option.join (tokens _ (Or.inr rfl))).trans rooted.stopToken
  order := rooted.order
  externalLink := fun state found => by
    obtain ⟨old, inBefore, -, link⟩ :=
      inherits external state found (rooted.lt_nextState rooted.externalLive)
    exact link.trans (rooted.externalLink old inBefore)
  stopLink := fun state place found isLinked => by
    obtain ⟨old, inBefore, -, link⟩ :=
      inherits stop state found (rooted.lt_nextState rooted.stopLive)
    exact rooted.stopLink old place inBefore (link.symm.trans isLinked)

/-- Cancelling a source changes no name and no link. -/
theorem cancels
    (rooted : Rooted signals external stop)
    {target : Nat}
    {reports : List (Report LoopSignal)}
    (calm : after.Calm)
    (cancels : World.Cancels signals target ⟨after, [], reports⟩) :
    Rooted after external stop where
  calm := calm
  externalSource := (cancels.source .external).trans rooted.externalSource
  stopSource := (cancels.source .stop).trans rooted.stopSource
  externalToken := fun key held =>
    rooted.externalToken key ((cancels.stateOf? .external).symm.trans held)
  stopToken := (cancels.stateOf? .stop).trans rooted.stopToken
  order := rooted.order
  externalLink := fun state found => by
    obtain ⟨old, inBefore, link⟩ := cancels.link found
    exact link.symm.trans (rooted.externalLink old inBefore)
  stopLink := fun state place found isLinked => by
    obtain ⟨old, inBefore, link⟩ := cancels.link found
    exact rooted.stopLink old place inBefore (link.trans isLinked)

/-- The caller's source is only cancelled by itself. -/
theorem external_of_cancels
    (rooted : Rooted signals external stop)
    {target : Nat}
    {reports : List (Report LoopSignal)}
    (calm : after.Calm)
    (cancels : World.Cancels signals target ⟨after, [], reports⟩)
    (cancelled : after.isCancelledState external = true) :
    signals.isCancelledState external = true ∨ external = target := by
  have still := rooted.cancels calm cancels
  obtain ⟨state, found⟩ := still.externalLive
  rw [World.isCancelledState_of_get? found] at cancelled
  rcases cancels.cause external state found cancelled with before | isTarget | ⟨place, link, -⟩
  · exact Or.inl before
  · exact Or.inr isTarget
  · simp [still.externalLink state found] at link

/-- The stop source is only cancelled by itself or through the caller's source. -/
theorem stop_of_cancels
    (rooted : Rooted signals external stop)
    {target : Nat}
    {reports : List (Report LoopSignal)}
    (calm : after.Calm)
    (cancels : World.Cancels signals target ⟨after, [], reports⟩)
    (cancelled : after.isCancelledState stop = true) :
    signals.isCancelledState stop = true ∨ stop = target ∨ external = target := by
  have still := rooted.cancels calm cancels
  obtain ⟨state, found⟩ := still.stopLive
  rw [World.isCancelledState_of_get? found] at cancelled
  rcases cancels.cause stop state found cancelled with before | isTarget | ⟨place, link, parents⟩
  · exact Or.inl before
  · exact Or.inr (Or.inl isTarget)
  have isExternal := still.stopLink state place found link
  obtain ⟨parent, parentFound⟩ := still.externalLive
  have parentCancelled :=
    (World.isCancelledState_of_get? parentFound).trans
      (parents parent (by rwa [isExternal]))
  rcases rooted.external_of_cancels calm cancels parentCancelled with before | isTarget
  · -- The stop source was linked to a cancelled one, so it was cancelled before.
    obtain ⟨old, inBefore, oldLink⟩ := cancels.link found
    have isLinked : old.link = some ⟨external, place.entry⟩ := by
      rw [oldLink, link, ← isExternal]
    left
    rw [World.isCancelledState_of_get? inBefore]
    exact rooted.calm.cancelled_of_link inBefore isLinked before
  · exact Or.inr (Or.inr isTarget)

end Rooted

/-- The signals of a run, with the state of the wake source. -/
structure Wired
    (signals : World LoopSignal)
    (external stop wake : Nat) :
    Prop where
  rooted : Rooted signals external stop
  wakeSource : signals.sources.get? .wake = some wake
  wakeYounger : stop < wake
  wakeHangs : HangsOn signals wake stop
  /-- The wake source is fresh: it is only cancelled when the run is told to stop. -/
  wakeFresh :
    signals.isCancelledState wake = true → signals.isCancelledState stop = true

/-- The state whose token the last scan took. -/
structure Waits
    (signals : World LoopSignal)
    (stop wait : Nat) :
    Prop where
  token : signals.stateOf? .wait = some wait
  hangs : HangsOn signals wait stop

/-- Whether the run and the caller's token are cancelled is the same in two worlds. -/
structure Steady
    (before after : World LoopSignal) :
    Prop where
  stop : after.isCancelled .stop = before.isCancelled .stop
  external : after.isCancelled .external = before.isCancelled .external

theorem Steady.trans
    {first second third : World LoopSignal}
    (before : Steady first second)
    (after : Steady second third) :
    Steady first third :=
  ⟨after.stop.trans before.stop, after.external.trans before.external⟩

namespace Waits

variable {signals after : World LoopSignal} {stop wait : Nat}

theorem live
    (waits : Waits signals stop wait)
    (calm : signals.Calm) :
    signals.Live wait :=
  calm.sound.linked.live_of_stateOf? waits.token

theorem isCancelled_wait
    (waits : Waits signals stop wait) :
    signals.isCancelled .wait = signals.isCancelledState wait := by
  simp [World.isCancelled, waits.token]

theorem inherit
    (waits : Waits signals stop wait)
    (calm : signals.Calm)
    (inherits : World.Inherits signals after)
    (sameTokens : after.tokens = signals.tokens) :
    Waits after stop wait where
  token := by
    unfold World.stateOf?
    rw [sameTokens]
    exact waits.token
  hangs := by
    obtain ⟨state, found⟩ := waits.live calm
    exact waits.hangs.inherit inherits (calm.sound.linked.older wait state found)

theorem cancels
    (waits : Waits signals stop wait)
    {target : Nat}
    {reports : List (Report LoopSignal)}
    (cancels : World.Cancels signals target ⟨after, [], reports⟩) :
    Waits after stop wait where
  token := (cancels.stateOf? .wait).trans waits.token
  hangs := waits.hangs.cancels cancels

end Waits

namespace Rooted

variable {signals after : World LoopSignal} {external stop : Nat}

/-- Tokens with the same states are as cancelled as before. -/
theorem steady
    (rooted : Rooted signals external stop)
    (still : Rooted after external stop)
    (sameToken : after.stateOf? .external = signals.stateOf? .external)
    (sameExternal : after.isCancelledState external = signals.isCancelledState external)
    (sameStop : after.isCancelledState stop = signals.isCancelledState stop) :
    Steady signals after where
  stop := by rw [still.isCancelled_stop, rooted.isCancelled_stop, sameStop]
  external := by
    unfold World.isCancelled
    rw [sameToken]
    cases held : signals.stateOf? .external with
    | none => rfl
    | some key =>
        cases rooted.externalToken key held
        simp [sameExternal]

/-- While the states that are alive stay as they are, nothing becomes cancelled. -/
theorem steady_of_inherits
    (rooted : Rooted signals external stop)
    (still : Rooted after external stop)
    (inherits : World.Inherits signals after)
    (sameToken : after.stateOf? .external = signals.stateOf? .external) :
    Steady signals after :=
  rooted.steady still sameToken
    (inherits.isCancelledState still.externalLive (rooted.lt_nextState rooted.externalLive))
    (inherits.isCancelledState still.stopLive (rooted.lt_nextState rooted.stopLive))

/-- Cancelling a source on which nothing of the run hangs neither stops the run nor cancels the
caller's token. -/
theorem steady_of_cancels
    (rooted : Rooted signals external stop)
    {target : Nat}
    {reports : List (Report LoopSignal)}
    (calm : after.Calm)
    (cancels : World.Cancels signals target ⟨after, [], reports⟩)
    (notExternal : external ≠ target)
    (notStop : stop ≠ target) :
    Steady signals after := by
  refine rooted.steady (rooted.cancels calm cancels) (cancels.stateOf? .external) ?_ ?_
  · cases before : signals.isCancelledState external with
    | true => exact cancels.kept external before
    | false =>
        by_contra now
        rw [Bool.not_eq_false] at now
        rcases rooted.external_of_cancels calm cancels now with already | same
        · simp [before] at already
        · exact notExternal same
  · cases before : signals.isCancelledState stop with
    | true => exact cancels.kept stop before
    | false =>
        by_contra now
        rw [Bool.not_eq_false] at now
        rcases rooted.stop_of_cancels calm cancels now with already | same | same
        · simp [before] at already
        · exact notStop same
        · exact notExternal same

end Rooted

namespace Wired

variable {signals : World LoopSignal} {external stop wake : Nat}

theorem wakeLive
    (wired : Wired signals external stop wake) :
    signals.Live wake :=
  wired.rooted.calm.sound.linked.sources _ _ wired.wakeSource

/-- A scan takes a token of the wake source; nothing becomes cancelled. -/
theorem token
    (wired : Wired signals external stop wake) :
    Wired (signals.after (.token .wait .wake)) external stop wake ∧
      Waits (signals.after (.token .wait .wake)) stop wake ∧
        Steady signals (signals.after (.token .wait .wake)) := by
  have rooted := wired.rooted
  have younger := rooted.lt_nextState wired.wakeLive
  rw [World.after_token, wired.wakeSource]
  obtain ⟨calm, inherits, -⟩ := rooted.calm.setToken .wait (some wake)
    fun held same => Option.some.inj same ▸ wired.wakeLive
  obtain ⟨sources, tokens⟩ := signals.names_setToken .wait (some wake)
  have still : Rooted (signals.setToken .wait (some wake)) external stop := by
    refine rooted.inherit calm inherits (fun name _ => by rw [sources]) fun name isName => ?_
    rw [tokens, Table.get?_insert_other]
    rcases isName with rfl | rfl <;> simp
  have wakeSource : (signals.setToken .wait (some wake)).sources.get? .wake = some wake := by
    rw [sources]
    exact wired.wakeSource
  have wakeLive := calm.sound.linked.sources _ _ wakeSource
  have hangs := wired.wakeHangs.inherit inherits younger
  refine ⟨⟨still, wakeSource, wired.wakeYounger, hangs, ?_⟩, ⟨?_, hangs⟩, ?_⟩
  · rw [inherits.isCancelledState wakeLive younger,
      inherits.isCancelledState still.stopLive (rooted.lt_nextState rooted.stopLive)]
    exact wired.wakeFresh
  · simp [World.stateOf?, tokens]
  · refine rooted.steady_of_inherits still inherits ?_
    unfold World.stateOf?
    rw [tokens, Table.get?_insert_other _ (by simp)]

/-- A stop or a cancellation of the caller's source reaches the wake source. -/
theorem cancels
    (wired : Wired signals external stop wake)
    {after : World LoopSignal}
    {target : Nat}
    {reports : List (Report LoopSignal)}
    (calm : after.Calm)
    (cancels : World.Cancels signals target ⟨after, [], reports⟩)
    (other : wake ≠ target) :
    Wired after external stop wake where
  rooted := wired.rooted.cancels calm cancels
  wakeSource := (cancels.source .wake).trans wired.wakeSource
  wakeYounger := wired.wakeYounger
  wakeHangs := wired.wakeHangs.cancels cancels
  wakeFresh := by
    intro cancelled
    have wakeSource := (cancels.source .wake).trans wired.wakeSource
    obtain ⟨state, found⟩ := calm.sound.linked.sources _ _ wakeSource
    have status := (World.isCancelledState_of_get? found).symm.trans cancelled
    rcases cancels.cause wake state found status with before | same | ⟨place, link, parents⟩
    · exact cancels.kept stop (wired.wakeFresh before)
    · exact absurd same other
    obtain ⟨old, inBefore, oldLink⟩ := cancels.link found
    rcases wired.wakeHangs old inBefore with already | ⟨entry, hangs⟩
    · have before := (World.isCancelledState_of_get? inBefore).trans already
      exact cancels.kept stop (wired.wakeFresh before)
    · cases (oldLink.symm.trans hangs).symm.trans link
      obtain ⟨parent, parentFound⟩ := (wired.rooted.cancels calm cancels).stopLive
      exact (World.isCancelledState_of_get? parentFound).trans (parents parent parentFound)

end Wired

/-- A new wake source is wired to the stop source, and leaves everything else as it is. -/
theorem Rooted.wire
    {signals : World LoopSignal}
    {external stop : Nat}
    (rooted : Rooted signals external stop) :
    Wired (signals.after (.linked .wake .stop)) external stop signals.nextState ∧
      Steady signals (signals.after (.linked .wake .stop)) ∧
      ∀ wait, Waits signals stop wait →
        Waits (signals.after (.linked .wake .stop)) stop wait ∧
          (signals.after (.linked .wake .stop)).isCancelledState wait =
            signals.isCancelledState wait := by
  obtain ⟨renews, isFresh⟩ := rooted.calm.after_linked .wake rooted.stopToken
  generalize signals.after (.linked .wake .stop) = renewed at renews isFresh
  have sameToken : ∀ name, renewed.stateOf? name = signals.stateOf? name := fun name => by
    unfold World.stateOf?
    rw [renews.tokens]
  have still : Rooted renewed external stop := by
    refine rooted.inherit renews.calm renews.inherits (fun name isName => ?_)
      fun name _ => by rw [renews.tokens]
    rw [renews.sources, Table.get?_insert_other]
    rcases isName with rfl | rfl <;> simp
  have freshSource : renewed.sources.get? .wake = some signals.nextState := by
    rw [renews.sources, Table.get?_insert_same]
  refine ⟨⟨still, freshSource, ?_, ?_, ?_⟩, ?_, fun wait waits => ⟨?_, ?_⟩⟩
  · exact rooted.lt_nextState rooted.stopLive
  · intro state found
    exact (isFresh state found).2.imp_left And.left
  · intro freshCancelled
    obtain ⟨state, found⟩ := renews.calm.sound.linked.sources _ _ freshSource
    rw [World.isCancelledState_of_get? found, (isFresh state found).1] at freshCancelled
    rw [renews.inherits.isCancelledState still.stopLive (rooted.lt_nextState rooted.stopLive)]
    exact freshCancelled
  · exact rooted.steady_of_inherits still renews.inherits (sameToken .external)
  · exact waits.inherit rooted.calm renews.inherits renews.tokens
  · have waitsStill := waits.inherit rooted.calm renews.inherits renews.tokens
    exact renews.inherits.isCancelledState (waitsStill.live renews.calm)
      (rooted.lt_nextState (waits.live rooted.calm))

/-- A wake cancels the wake source and puts a fresh one in its place; the run is not stopped by it,
and the caller's token is not cancelled.  The last scan's token is cancelled if it is one of that
wake source, and stays cancelled if it was. -/
theorem Wired.rewire
    {signals : World LoopSignal}
    {external stop wake : Nat}
    (wired : Wired signals external stop wake) :
    (∃ fresh, Wired ((signals.after (.cancel .wake)).after (.linked .wake .stop))
        external stop fresh) ∧
      Steady signals ((signals.after (.cancel .wake)).after (.linked .wake .stop)) ∧
      ∀ wait, Waits signals stop wait →
        Waits ((signals.after (.cancel .wake)).after (.linked .wake .stop)) stop wait ∧
          (wait = wake ∨ signals.isCancelledState wait = true →
            ((signals.after (.cancel .wake)).after (.linked .wake .stop)).isCancelledState wait =
              true) := by
  have rooted := wired.rooted
  obtain ⟨_, cancels, cancelled⟩ :=
    rooted.calm.sound.after_cancel rooted.calm.quiet wired.wakeSource
  have calm := rooted.calm.after_cancel .wake
  generalize signals.after (.cancel .wake) = woken at cancels cancelled calm
  have order := rooted.order
  have younger := wired.wakeYounger
  have steady := rooted.steady_of_cancels calm cancels (by omega) (by omega)
  obtain ⟨rewired, steady', keeps⟩ := (rooted.cancels calm cancels).wire
  refine ⟨⟨_, rewired⟩, steady.trans steady', fun wait waits => ?_⟩
  obtain ⟨waits', same⟩ := keeps wait (waits.cancels cancels)
  refine ⟨waits', fun isCancelled => same.trans ?_⟩
  rcases isCancelled with isWake | already
  · rw [isWake]
    exact cancelled
  · exact cancels.kept wait already

/-- The caller's source is there, and its token is a token of it or of nothing. -/
structure Given
    (signals : World LoopSignal)
    (external : Nat) :
    Prop where
  calm : signals.Calm
  source : signals.sources.get? .external = some external
  link : ∀ state, signals.states.get? external = some state → state.link = none

namespace Given

variable {signals : World LoopSignal} {external : Nat}

theorem live
    (given : Given signals external) :
    signals.Live external :=
  given.calm.sound.linked.sources _ _ given.source

theorem lt_nextState
    (given : Given signals external) :
    external < signals.nextState := by
  obtain ⟨state, found⟩ := given.live
  exact given.calm.sound.linked.older external state found

theorem inherit
    (given : Given signals external)
    {after : World LoopSignal}
    (calm : after.Calm)
    (inherits : World.Inherits signals after)
    (source : after.sources.get? .external = signals.sources.get? .external) :
    Given after external where
  calm := calm
  source := source.trans given.source
  link := fun state found => by
    obtain ⟨old, inBefore, -, link⟩ := inherits external state found given.lt_nextState
    exact link.trans (given.link old inBefore)

/-- The caller may cancel its source beforehand. -/
theorem cancel
    (given : Given signals external) :
    Given (signals.after (.cancel .external)) external := by
  obtain ⟨_, cancels, -⟩ := given.calm.sound.after_cancel given.calm.quiet given.source
  refine ⟨given.calm.after_cancel _, (cancels.source _).trans given.source, fun state found => ?_⟩
  obtain ⟨old, inBefore, link⟩ := cancels.link found
  exact link.symm.trans (given.link old inBefore)

/-- The run is given a token of the caller's source, or one of nothing. -/
theorem setToken
    (given : Given signals external)
    {key : Option Nat}
    (own : ∀ held, key = some held → held = external) :
    Given (signals.setToken .external key) external ∧
      ∀ held, (signals.setToken .external key).stateOf? .external = some held →
        held = external := by
  obtain ⟨calm, inherits, -⟩ := given.calm.setToken .external key
    fun held same => own held same ▸ given.live
  obtain ⟨sources, tokens⟩ := signals.names_setToken .external key
  refine ⟨given.inherit calm inherits (by rw [sources]), fun held isHeld => own held ?_⟩
  simpa [World.stateOf?, tokens] using isHeld

/-- The stop source is linked to the caller's token, and has a token of its own. -/
theorem root
    (given : Given signals external)
    (token : ∀ held, signals.stateOf? .external = some held → held = external) :
    Rooted ((signals.after (.linked .stop .external)).after (.token .stop .stop)) external
      signals.nextState := by
  -- With or without the caller's token, the new state hangs on nothing but the caller's source.
  have linked :
      World.Renews signals (signals.after (.linked .stop .external)) .stop ∧
        ∀ state place,
          (signals.after (.linked .stop .external)).states.get? signals.nextState = some state →
            state.link = some place → place.state = external := by
    cases held : signals.stateOf? .external with
    | none =>
        obtain ⟨renews, isNew⟩ := given.calm.after_linked_detached .stop held
        refine ⟨renews, fun state place found isLinked => ?_⟩
        cases (isNew state found).2.symm.trans isLinked
    | some key =>
        cases token key held
        obtain ⟨renews, isNew⟩ := given.calm.after_linked .stop held
        refine ⟨renews, fun state place found isLinked => ?_⟩
        rcases (isNew state found).2 with ⟨-, noLink⟩ | ⟨entry, isEntry⟩
        · cases noLink.symm.trans isLinked
        · cases isEntry.symm.trans isLinked
          rfl
  obtain ⟨renews, stopLink⟩ := linked
  generalize signals.after (.linked .stop .external) = stoppable at renews stopLink
  have stopSource : stoppable.sources.get? .stop = some signals.nextState := by
    rw [renews.sources, Table.get?_insert_same]
  have stopLive := renews.calm.sound.linked.sources _ _ stopSource
  have givenStill : Given stoppable external := by
    refine given.inherit renews.calm renews.inherits ?_
    rw [renews.sources, Table.get?_insert_other _ (by simp)]
  rw [World.after_token, stopSource]
  obtain ⟨calm, inherits, -⟩ := renews.calm.setToken .stop (some signals.nextState)
    fun held same => Option.some.inj same ▸ stopLive
  obtain ⟨sources, tokens⟩ := stoppable.names_setToken .stop (some signals.nextState)
  have givenAfter := givenStill.inherit calm inherits (by rw [sources])
  refine ⟨calm, givenAfter.source, ?_, fun key held => token key ?_, ?_, given.lt_nextState,
    givenAfter.link, fun state place found isLinked => ?_⟩
  · rw [sources]
    exact stopSource
  · unfold World.stateOf? at held ⊢
    rwa [tokens, Table.get?_insert_other _ (by simp), renews.tokens] at held
  · simp [World.stateOf?, tokens]
  · obtain ⟨old, inBefore, -, link⟩ := inherits _ state found
      (renews.nextState ▸ Nat.lt_succ_self _)
    exact stopLink old place inBefore (link.symm.trans isLinked)

end Given

/-- The caller's source of a new run, which may be cancelled beforehand. -/
theorem given_caller
    {signals : World LoopSignal}
    (calm : signals.Calm)
    (request : RunRequest) :
    Given
      (if request.cancelledBefore then
        (signals.after (.source .external)).after (.cancel .external)
      else
        signals.after (.source .external))
      signals.nextState := by
  obtain ⟨renews, isNew⟩ := calm.after_source .external
  have given : Given (signals.after (.source .external)) signals.nextState := by
    refine ⟨renews.calm, ?_, fun state found => (isNew state found).2⟩
    rw [renews.sources, Table.get?_insert_same]
  split
  · exact given.cancel
  · exact given

/-- The signals of a new run are wired. -/
theorem wired_freshSignals
    {signals : World LoopSignal}
    (calm : signals.Calm)
    (request : RunRequest) :
    ∃ external stop wake, Wired (Loop.freshSignals signals request) external stop wake := by
  have before := given_caller calm request
  simp only [Loop.freshSignals]
  generalize (if request.cancelledBefore then _ else _) = caller at before ⊢
  have token :
      Given
          (caller.after
            (if request.withToken then .token .external .external else .detached .external))
          signals.nextState ∧
        ∀ held,
          (caller.after
            (if request.withToken then .token .external .external
              else .detached .external)).stateOf? .external = some held →
          held = signals.nextState := by
    split
    · rw [World.after_token]
      exact before.setToken fun held isHeld =>
        Option.some.inj (isHeld.symm.trans before.source)
    · rw [World.after_detached]
      exact before.setToken (by simp)
  have rooted := token.1.root token.2
  exact ⟨_, _, _, rooted.wire.1⟩

end Cadence
