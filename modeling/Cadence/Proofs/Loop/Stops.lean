import Cadence.Proofs.Loop.Batches

namespace Cadence

open Cancellation

/-!
# How a run is told to stop

A run is told to stop by a stop, from wherever it comes, and by a cancellation of the
caller's token, if it was given that: then its stop source hangs on the caller's source.
What it was told once, it is told until its end.
-/

section Signals

variable {signals after : World LoopSignal} {external stop : Nat} {withToken : Bool}

/-- The stop source hangs on the caller's source if the run was given its token, and on nothing if
not. -/
def Tied
    (withToken : Bool)
    (signals : World LoopSignal)
    (external stop : Nat) :
    Prop :=
  match withToken with
  | true => HangsOn signals stop external
  | false => ∀ state, signals.states.get? stop = some state → state.link = none

namespace Tied

theorem inherit
    (tied : Tied withToken signals external stop)
    (inherits : World.Inherits signals after)
    (older : stop < signals.nextState) :
    Tied withToken after external stop := by
  cases withToken with
  | true => exact HangsOn.inherit tied inherits older
  | false =>
      intro state found
      obtain ⟨old, inBefore, -, link⟩ := inherits stop state found older
      exact link.trans (tied old inBefore)

theorem cancels
    (tied : Tied withToken signals external stop)
    {target : Nat}
    {reports : List (Report LoopSignal)}
    (cancels : World.Cancels signals target ⟨after, [], reports⟩) :
    Tied withToken after external stop := by
  cases withToken with
  | true => exact HangsOn.cancels tied cancels
  | false =>
      intro state found
      obtain ⟨old, inBefore, link⟩ := cancels.link found
      exact link.symm.trans (tied old inBefore)

end Tied

/-- A new stop source is tied to the caller's source as its token is, and is cancelled if that is. -/
theorem Given.renews
    (given : Given signals external)
    (token : signals.stateOf? .external = if withToken then some external else none) :
    World.Renews signals (signals.after (.linked .stop .external)) .stop ∧
      (∀ state,
        (signals.after (.linked .stop .external)).states.get? signals.nextState = some state →
          state.cancelled = (withToken && signals.isCancelledState external)) ∧
      Tied withToken (signals.after (.linked .stop .external)) external signals.nextState := by
  cases withToken with
  | true =>
      obtain ⟨renews, isNew⟩ := given.calm.after_linked .stop token
      refine ⟨renews, fun state found => ?_, fun state found => ?_⟩
      · rw [(isNew state found).1, Bool.true_and]
      · exact (isNew state found).2.imp_left And.left
  | false =>
      obtain ⟨renews, isNew⟩ := given.calm.after_linked_detached .stop token
      refine ⟨renews, fun state found => ?_, fun state found => ?_⟩
      · rw [(isNew state found).1, Bool.false_and]
      · exact (isNew state found).2

end Signals

namespace Loop

variable {loop next : Loop} {external stop wake : Nat}

end Loop

namespace Run

end Run

end Cadence
