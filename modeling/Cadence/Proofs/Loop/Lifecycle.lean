import Cadence.Proofs.Loop.Attempts
import Cadence.Proofs.Loop.Failures
import Cadence.Proofs.Loop.Finality

namespace Cadence

open Cancellation

/-!
# The life of a loop

A loop is in a run from an accepted start until the run is over.  It is running as
long as nobody has stopped it since that start, and so long it refuses every other
start; then a thread other than the loop's own may ask for another run, which begins
when the one in progress is over.  A run is told to stop by the stops and
cancellations of its own time, and by those of its own token beforehand; what was done
to the loop before has no part in it.
-/

namespace Loop

variable {loop next last : Loop} {external stop wake : Nat} {deed : Deed}

/-- Nothing that is done in a run begins or ends one. -/
theorem Does.inProgress
    (does : Does loop deed next) :
    next.inProgress = loop.inProgress := by
  cases does with
  | dispatch id =>
      obtain ⟨_, _, told⟩ := loop.emit_shape (.taskDispatched id)
      rw [told]
  | register task known => exact (rearranged (.register loop task known) trivial).inProgress
  | remove id => exact (rearranged (.remove loop id) trivial).inProgress
  | removeMany ids => exact (rearranged (.removeMany loop ids) trivial).inProgress
  | removeAll => exact (rearranged (.removeAll loop) trivial).inProgress
  | refresh => exact (rearranged (.refresh loop) trivial).inProgress
  | stop =>
      unfold Loop.stop
      split <;> rfl
  | aside unconcerned => exact unconcerned.inProgress
  | _ => rfl

theorem Course.inProgress
    {deeds : List (Loop × Deed)}
    (course : Course loop deeds last) :
    last.inProgress = loop.inProgress :=
  course.preserves (motive := fun later => later.inProgress = loop.inProgress)
    (fun does same => does.inProgress.trans same) rfl

section Attempts

variable (moment : Loop)

end Attempts

namespace Driven

end Driven

end Loop

namespace Run

end Run

namespace Loop

/-- Every run of a session that was accepted has come to its end. -/
def Settled (loop : Loop) (statements : List Statement) : Prop :=
  ∀ front run back, statements = front ++ .run run :: back →
    ∀ started, (loop.session front).start .another run.request = .started started →
      ∃ failure, (started.runFor SessionRun.patience).phase = .over failure

section Example

end Example

end Loop

end Cadence
