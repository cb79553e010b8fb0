import Cadence.Proofs.Cancellation.Jobs
import Mathlib.Logic.Relation

namespace Cadence

namespace Cancellation

/-!
# Cancellation descends along live links

A program is followed job by job, from nothing.  Whatever its callbacks do, a state
is cancelled only by `cancel` on a source of it or because the state to which it was
linked had been cancelled, and whenever no `cancel` is in progress every live state
below a cancelled one is cancelled too.

A pending child of a cancelled state is *due*: the call of its link is on the
agenda.  It stays due until it is cancelled or dies, whatever happens to its parent
in the meantime, and a call on the agenda is made before the `cancel` that caused
it is over.
-/

namespace Machine

variable {ν : Type} [DecidableEq ν]

/-- One job more is the next job of what was reached. -/
theorem runFor_succ_last
    (jobs : Nat)
    (machine : Machine ν) :
    machine.runFor (jobs + 1) = ((machine.runFor jobs).step?).getD (machine.runFor jobs) := by
  induction jobs generalizing machine with
  | zero =>
      simp only [runFor]
      cases machine.step? <;> rfl
  | succ jobs inductionHypothesis =>
      cases stepped : machine.step? with
      | none => simp [runFor, stepped]
      | some next =>
          rw [runFor_succ stepped, runFor_succ stepped]
          exact inductionHypothesis next

/-- Cancelled, or about to be by a link. -/
def Due
    (machine : Machine ν)
    (key : Nat) :
    Prop :=
  machine.world.isCancelledState key = true ∨ Job.call (.link key) ∈ machine.agenda

/-- A state with an old number is not new. -/
theorem keeps_of_lt
    {machine next : Machine ν}
    (stepped : machine.step? = some next)
    (linked : machine.world.Linked)
    {key : Nat}
    (older : key < machine.world.nextState)
    {state : State ν}
    (found : next.world.states.get? key = some state) :
    machine.Keeps key state :=
  (keeps_or_bears stepped linked found).resolve_right
    fun bears => Nat.ne_of_lt older bears.isNew

/-- No state comes back to life. -/
theorem live_of_step?
    {machine next : Machine ν}
    (stepped : machine.step? = some next)
    (linked : machine.world.Linked)
    {key : Nat}
    (older : key < machine.world.nextState)
    (alive : next.world.Live key) :
    machine.world.Live key := by
  obtain ⟨state, found⟩ := alive
  obtain ⟨old, inBefore, -⟩ := keeps_of_lt stepped linked older found
  exact ⟨old, inBefore⟩

/-- Nothing that lives is un-cancelled. -/
theorem isCancelledState_of_step?
    {machine next : Machine ν}
    (stepped : machine.step? = some next)
    (linked : machine.world.Linked)
    {key : Nat}
    (older : key < machine.world.nextState)
    (cancelled : machine.world.isCancelledState key = true)
    (alive : next.world.Live key) :
    next.world.isCancelledState key = true := by
  obtain ⟨state, found⟩ := alive
  obtain ⟨old, inBefore, -, status⟩ := keeps_of_lt stepped linked older found
  rw [World.isCancelledState_of_get? found]
  exact status.mpr (Or.inl ((World.isCancelledState_of_get? inBefore).symm.trans cancelled))

/-- What is due stays due while it lives. -/
theorem Due.step
    {machine next : Machine ν}
    (stepped : machine.step? = some next)
    (linked : machine.world.Linked)
    {key : Nat}
    (older : key < machine.world.nextState)
    (due : machine.Due key)
    (alive : next.world.Live key) :
    next.Due key := by
  rcases due with cancelled | called
  · exact Or.inl (isCancelledState_of_step? stepped linked older cancelled alive)
  · rcases follows_or_called stepped called with follows | later
    · obtain ⟨state, found⟩ := alive
      obtain ⟨old, -, -, status⟩ := keeps_of_lt stepped linked older found
      rw [Due, World.isCancelledState_of_get? found]
      exact Or.inl (status.mpr (Or.inr (Or.inr follows)))
    · exact Or.inr later

end Machine

/-- A cancelled state is alive, and its number was given. -/
theorem World.Linked.live_of_isCancelledState
    {ν : Type}
    [DecidableEq ν]
    {world : World ν}
    (linked : world.Linked)
    {key : Nat}
    (cancelled : world.isCancelledState key = true) :
    world.Live key ∧ key < world.nextState := by
  cases found : world.states.get? key with
  | none => simp [World.isCancelledState, found] at cancelled
  | some state => exact ⟨⟨state, found⟩, linked.older key state found⟩

/-! ### Moments of a program -/

section Moments

variable {ν : Type} [DecidableEq ν]

/-- What a program has led to, from nothing, after some jobs. -/
def moment
    (program : List (Step ν))
    (jobs : Nat) :
    Machine ν :=
  Machine.runFor jobs { agenda := program.map .perform }

/-- A state was linked to another when it was made. -/
def LinkMade
    (program : List (Step ν))
    (jobs parent child : Nat) :
    Prop :=
  ∃ earlier < jobs, (moment program earlier).MakesLink parent child

/-- A state is cancelled or was so when it was alive. -/
def WasCancelled
    (program : List (Step ν))
    (jobs key : Nat) :
    Prop :=
  ∃ earlier ≤ jobs, (moment program earlier).world.isCancelledState key = true

/-- `cancel` was called on a source of a state. -/
def CancelCalled
    (program : List (Step ν))
    (jobs key : Nat) :
    Prop :=
  ∃ earlier < jobs, (moment program earlier).CancelsSource key

/-- A link of a state that is alive. -/
def LiveLink
    (program : List (Step ν))
    (jobs parent child : Nat) :
    Prop :=
  LinkMade program jobs parent child ∧ (moment program jobs).world.Live child

theorem LinkMade.later
    {program : List (Step ν)}
    {earlier later parent child : Nat}
    (made : LinkMade program earlier parent child)
    (ordered : earlier ≤ later) :
    LinkMade program later parent child := by
  obtain ⟨jobs, before, makes⟩ := made
  exact ⟨jobs, Nat.lt_of_lt_of_le before ordered, makes⟩

theorem WasCancelled.later
    {program : List (Step ν)}
    {earlier later key : Nat}
    (was : WasCancelled program earlier key)
    (ordered : earlier ≤ later) :
    WasCancelled program later key := by
  obtain ⟨jobs, before, cancelled⟩ := was
  exact ⟨jobs, Nat.le_trans before ordered, cancelled⟩

variable {program : List (Step ν)}

theorem moment_succ_last
    (program : List (Step ν))
    (jobs : Nat) :
    moment program (jobs + 1) = ((moment program jobs).step?).getD (moment program jobs) :=
  Machine.runFor_succ_last jobs _

/-- One job more is done, or there is none. -/
theorem moment_succ
    (program : List (Step ν))
    (jobs : Nat) :
    (moment program jobs).step? = some (moment program (jobs + 1)) ∨
      moment program (jobs + 1) = moment program jobs := by
  rw [moment_succ_last]
  cases (moment program jobs).step? with
  | none => exact Or.inr rfl
  | some next => exact Or.inl rfl

/-- A job that is on the agenda is done next. -/
theorem step?_of_agenda
    {jobs : Nat}
    {job : Job ν}
    {rest : List (Job ν)}
    (pending : (moment program jobs).agenda = job :: rest) :
    (moment program jobs).step? = some (moment program (jobs + 1)) := by
  rw [moment_succ_last]
  cases stepped : (moment program jobs).step? with
  | none =>
      rw [Machine.agenda_eq_nil_of_step?_none stepped] at pending
      cases pending
  | some next => rfl

theorem sound_moment
    (program : List (Step ν))
    (jobs : Nat) :
    (moment program jobs).Sound := by
  refine Machine.runFor_induction Machine.Sound (fun stepped sound => sound.step stepped) jobs ?_
  exact World.Calm.empty.sound.reagenda (by simp) (by simp)

theorem linked_moment
    (program : List (Step ν))
    (jobs : Nat) :
    (moment program jobs).world.Linked :=
  World.Sound.linked (sound_moment program jobs)

theorem answered_moment
    (program : List (Step ν))
    (jobs : Nat) :
    Machine.Answered (moment program jobs).agenda := by
  refine Machine.runFor_induction (fun machine => Machine.Answered machine.agenda)
    (fun stepped answered => answered.step stepped) jobs ?_
  have nothing : Machine.Answered ([] : List (Job ν)) := trivial
  rw [← List.append_nil (program.map Job.perform)]
  exact nothing.append (Or.inl (by simp))

theorem nextState_moment_le
    {earlier later : Nat}
    (ordered : earlier ≤ later) :
    (moment program earlier).world.nextState ≤ (moment program later).world.nextState := by
  induction ordered with
  | refl => exact Nat.le_refl _
  | @step jobs _ inductionHypothesis =>
      rcases moment_succ program jobs with stepped | same
      · exact Nat.le_trans inductionHypothesis (Machine.nextState_le_of_step? stepped)
      · rwa [same]

/-- A state that is alive was alive ever since its number was given. -/
theorem live_earlier
    {earlier later : Nat}
    (ordered : earlier ≤ later)
    {key : Nat}
    (older : key < (moment program earlier).world.nextState)
    (alive : (moment program later).world.Live key) :
    (moment program earlier).world.Live key := by
  induction ordered with
  | refl => exact alive
  | @step jobs since inductionHypothesis =>
      rcases moment_succ program jobs with stepped | same
      · exact inductionHypothesis (Machine.live_of_step? stepped (linked_moment program jobs)
          (Nat.lt_of_lt_of_le older (nextState_moment_le since)) alive)
      · exact inductionHypothesis (same ▸ alive)

/-- What no job takes from a live state stays while it lives. -/
theorem along
    (holds : Machine ν → Prop)
    {key : Nat}
    (preserved :
      ∀ {machine next : Machine ν}, machine.step? = some next → machine.world.Linked →
        key < machine.world.nextState → holds machine → next.world.Live key → holds next)
    {earlier later : Nat}
    (ordered : earlier ≤ later)
    (older : key < (moment program earlier).world.nextState)
    (initially : holds (moment program earlier))
    (alive : (moment program later).world.Live key) :
    holds (moment program later) := by
  induction ordered with
  | refl => exact initially
  | @step jobs since inductionHypothesis =>
      have still : key < (moment program jobs).world.nextState :=
        Nat.lt_of_lt_of_le older (nextState_moment_le since)
      have aliveBefore := live_earlier (Nat.le_succ jobs) still alive
      rcases moment_succ program jobs with stepped | same
      · exact preserved stepped (linked_moment program jobs) still
          (inductionHypothesis aliveBefore) alive
      · rw [same]
        exact inductionHypothesis aliveBefore

/-- Nothing that lives was un-cancelled. -/
theorem isCancelledState_later
    {earlier later : Nat}
    (ordered : earlier ≤ later)
    {key : Nat}
    (cancelled : (moment program earlier).world.isCancelledState key = true)
    (alive : (moment program later).world.Live key) :
    (moment program later).world.isCancelledState key = true :=
  along (fun machine => machine.world.isCancelledState key = true)
    (fun stepped linked older => Machine.isCancelledState_of_step? stepped linked older) ordered
    ((linked_moment program earlier).live_of_isCancelledState cancelled).2 cancelled alive

theorem due_later
    {earlier later : Nat}
    (ordered : earlier ≤ later)
    {key : Nat}
    (older : key < (moment program earlier).world.nextState)
    (due : (moment program earlier).Due key)
    (alive : (moment program later).world.Live key) :
    (moment program later).Due key :=
  along (fun machine => machine.Due key)
    (fun stepped linked older due alive => due.step stepped linked older alive)
    ordered older due alive

/-- A state keeps its link. -/
theorem link_later
    {earlier later : Nat}
    (ordered : earlier ≤ later)
    {key : Nat}
    {first last : State ν}
    (inFirst : (moment program earlier).world.states.get? key = some first)
    (inLast : (moment program later).world.states.get? key = some last) :
    last.link = first.link := by
  have kept :=
    along (fun machine => ∀ state, machine.world.states.get? key = some state →
        state.link = first.link)
      (fun stepped linked older same _ state found => by
        obtain ⟨old, inBefore, link, -⟩ := Machine.keeps_of_lt stepped linked older found
        exact link.trans (same old inBefore))
      ordered ((linked_moment program earlier).older key first inFirst)
      (fun state found => by rw [Option.some.inj (found.symm.trans inFirst)])
      ⟨last, inLast⟩
  exact kept last inLast

/-! ### Down the links -/

/-- A live child of a state that was cancelled is cancelled or about to be. -/
theorem due_of_parent
    {jobs parent child : Nat}
    (made : LinkMade program jobs parent child)
    (was : WasCancelled program jobs parent)
    (alive : (moment program jobs).world.Live child) :
    (moment program jobs).Due child := by
  obtain ⟨birth, birthBefore, makes⟩ := made
  obtain ⟨time, timeBefore, cancelled⟩ := was
  have stepped : (moment program birth).step? = some (moment program (birth + 1)) := by
    obtain ⟨name, token, rest, pending, -⟩ := makes
    exact step?_of_agenda pending
  have born : child < (moment program (birth + 1)).world.nextState := makes.lt_nextState stepped
  obtain ⟨newborn, inBirth⟩ := live_earlier birthBefore born alive
  have linked := linked_moment program birth
  obtain ⟨status, placed⟩ :
      newborn.cancelled = (moment program birth).world.isCancelledState parent ∧
        (newborn.cancelled = true ∨ ∃ entry, newborn.link = some ⟨parent, entry⟩) := by
    rcases Machine.keeps_or_bears stepped linked inBirth with ⟨old, inBefore, -⟩ | bears
    · obtain ⟨-, -, -, -, -, isNew⟩ := makes
      have := linked.older child old inBefore
      omega
    · exact bears.ofParent parent makes
  rcases placed with already | ⟨entry, placed⟩
  · exact Or.inl (isCancelledState_later birthBefore
      ((World.isCancelledState_of_get? inBirth).trans already) alive)
  · rcases Nat.lt_or_ge birth time with after | before
    · -- The parent was cancelled after the link was made, and has called it since.
      obtain ⟨middle, inMiddle⟩ := live_earlier timeBefore
        (Nat.lt_of_lt_of_le born (nextState_moment_le after)) alive
      obtain ⟨⟨parentState, parentFound⟩, -⟩ :=
        (linked_moment program time).live_of_isCancelledState cancelled
      have due := World.Sound.spread (sound_moment program time) child middle ⟨parent, entry⟩
        parentState inMiddle ((link_later after inBirth inMiddle).trans placed) parentFound
        ((World.isCancelledState_of_get? parentFound).symm.trans cancelled)
      refine due_later timeBefore ((linked_moment program time).older child middle inMiddle)
        (due.imp_left fun isCancelled => ?_) alive
      exact (World.isCancelledState_of_get? inMiddle).trans isCancelled
    · -- The parent was cancelled before, and is so still, because a token holds it.
      have parentAlive : (moment program birth).world.Live parent := by
        obtain ⟨name, token, rest, -, held, -⟩ := makes
        exact linked.live_of_stateOf? held
      exact Or.inl (isCancelledState_later birthBefore
        ((World.isCancelledState_of_get? inBirth).trans
          (status.trans (isCancelledState_later before cancelled parentAlive))) alive)

/-- While no `cancel` is in progress, a live child of a state that was cancelled is cancelled. -/
theorem isCancelledState_of_parent
    {jobs parent child : Nat}
    (quiet : ¬ Machine.Cancelling (moment program jobs).agenda)
    (link : LiveLink program jobs parent child)
    (was : WasCancelled program jobs parent) :
    (moment program jobs).world.isCancelledState child = true := by
  rcases due_of_parent link.1 was link.2 with cancelled | called
  · exact cancelled
  · exact absurd ((answered_moment program jobs).cancelling called) quiet

/-- A state below a cancelled one is cancelled through any number of live links. -/
theorem isCancelledState_of_ancestor
    {jobs root key : Nat}
    (quiet : ¬ Machine.Cancelling (moment program jobs).agenda)
    (was : WasCancelled program jobs root)
    (below : Relation.TransGen (LiveLink program jobs) root key) :
    (moment program jobs).world.isCancelledState key = true := by
  induction below with
  | single link => exact isCancelledState_of_parent quiet link was
  | tail _ link inductionHypothesis =>
      exact isCancelledState_of_parent quiet link ⟨jobs, Nat.le_refl jobs, inductionHypothesis⟩

/-- `cancel` on a source cancels its state at once. -/
theorem CancelCalled.wasCancelled
    {jobs key : Nat}
    (called : CancelCalled program jobs key) :
    WasCancelled program jobs key := by
  obtain ⟨earlier, before, cancels⟩ := called
  have stepped : (moment program earlier).step? = some (moment program (earlier + 1)) := by
    obtain ⟨source, rest, pending, -⟩ := cancels
    exact step?_of_agenda pending
  exact ⟨earlier + 1, before, cancels.isCancelledState stepped (linked_moment program earlier)⟩

/-! ### Up the links -/

/-- A state points to the state to which it was linked when it was made. -/
theorem linkMade_of_link
    {jobs key : Nat}
    {state : State ν}
    (found : (moment program jobs).world.states.get? key = some state)
    {place : Registration}
    (isLinked : state.link = some place) :
    LinkMade program jobs place.state key := by
  induction jobs generalizing state with
  | zero => cases found
  | succ jobs inductionHypothesis =>
      rcases moment_succ program jobs with stepped | same
      · rcases Machine.keeps_or_bears stepped (linked_moment program jobs) found with
          ⟨old, inBefore, link, -⟩ | bears
        · exact (inductionHypothesis inBefore (link.symm.trans isLinked)).later (Nat.le_succ jobs)
        · exact ⟨jobs, Nat.lt_succ_self jobs, bears.link place isLinked⟩
      · exact (inductionHypothesis (same ▸ found) isLinked).later (Nat.le_succ jobs)

/-- A link is called only when the state to which it was made has been cancelled. -/
theorem exists_parent_of_called
    {jobs child : Nat}
    (called : Job.call (.link child) ∈ (moment program jobs).agenda) :
    ∃ parent, LinkMade program jobs parent child ∧ WasCancelled program jobs parent := by
  induction jobs with
  | zero => simp [moment, Machine.runFor] at called
  | succ jobs inductionHypothesis =>
      have ofBefore : Job.call (.link child) ∈ (moment program jobs).agenda →
          ∃ parent, LinkMade program (jobs + 1) parent child ∧
            WasCancelled program (jobs + 1) parent := by
        intro before
        obtain ⟨parent, made, was⟩ := inductionHypothesis before
        exact ⟨parent, made.later (Nat.le_succ jobs), was.later (Nat.le_succ jobs)⟩
      rcases moment_succ program jobs with stepped | same
      · have linked := linked_moment program jobs
        rcases Machine.called_of_step? stepped linked called with
          before | ⟨key, state, entry, cancelled, found, present⟩
        · exact ofBefore before
        · obtain ⟨childState, childFound, isLinked⟩ :=
            linked.downward key state entry child found present
          exact ⟨key, (linkMade_of_link childFound isLinked).later (Nat.le_succ jobs),
            jobs + 1, Nat.le_refl _, cancelled⟩
      · exact ofBefore (same ▸ called)

/-- A state is cancelled only if `cancel` was called on a source of it or if the state to which it
was linked had been cancelled. -/
theorem cause_of_isCancelledState
    {jobs key : Nat}
    (cancelled : (moment program jobs).world.isCancelledState key = true) :
    CancelCalled program jobs key ∨
      ∃ parent, LinkMade program jobs parent key ∧
        ∃ earlier < jobs, (moment program earlier).world.isCancelledState parent = true := by
  induction jobs with
  | zero => cases cancelled
  | succ jobs inductionHypothesis =>
      have ofBefore : (moment program jobs).world.isCancelledState key = true →
          CancelCalled program (jobs + 1) key ∨
            ∃ parent, LinkMade program (jobs + 1) parent key ∧
              ∃ earlier < jobs + 1,
                (moment program earlier).world.isCancelledState parent = true := by
        intro before
        rcases inductionHypothesis before with
          ⟨earlier, less, cancels⟩ | ⟨parent, made, earlier, less, status⟩
        · exact Or.inl ⟨earlier, Nat.lt_succ_of_lt less, cancels⟩
        · exact Or.inr
            ⟨parent, made.later (Nat.le_succ jobs), earlier, Nat.lt_succ_of_lt less, status⟩
      rcases moment_succ program jobs with stepped | same
      · have linked := linked_moment program jobs
        obtain ⟨⟨state, found⟩, -⟩ :=
          (linked_moment program (jobs + 1)).live_of_isCancelledState cancelled
        rw [World.isCancelledState_of_get? found] at cancelled
        rcases Machine.keeps_or_bears stepped linked found with
          ⟨old, inBefore, -, status⟩ | bears
        · rcases status.mp cancelled with already | cancels | follows
          · exact ofBefore ((World.isCancelledState_of_get? inBefore).trans already)
          · exact Or.inl ⟨jobs, Nat.lt_succ_self jobs, cancels⟩
          · obtain ⟨rest, pending⟩ := follows
            have called : Job.call (.link key) ∈ (moment program jobs).agenda :=
              pending ▸ List.mem_cons_self
            obtain ⟨parent, made, earlier, before, parentCancelled⟩ :=
              exists_parent_of_called called
            exact Or.inr ⟨parent, made.later (Nat.le_succ jobs), earlier,
              Nat.lt_succ_of_le before, parentCancelled⟩
        · obtain ⟨parent, makes, parentCancelled⟩ := bears.cancelled cancelled
          exact Or.inr ⟨parent, ⟨jobs, Nat.lt_succ_self jobs, makes⟩, jobs,
            Nat.lt_succ_self jobs, parentCancelled⟩
      · exact ofBefore (same ▸ cancelled)

/-- Above every cancelled state, or in it, is one on a source of which `cancel` was called. -/
theorem exists_root_of_isCancelledState
    {jobs key : Nat}
    (cancelled : (moment program jobs).world.isCancelledState key = true) :
    ∃ root, CancelCalled program jobs root ∧
      Relation.ReflTransGen (LinkMade program jobs) root key := by
  induction jobs using Nat.strongRecOn generalizing key with
  | ind jobs inductionHypothesis =>
      rcases cause_of_isCancelledState cancelled with
        called | ⟨parent, made, earlier, before, parentCancelled⟩
      · exact ⟨key, called, .refl⟩
      · obtain ⟨root, ⟨time, timeBefore, cancels⟩, chain⟩ :=
          inductionHypothesis earlier before parentCancelled
        refine ⟨root, ⟨time, Nat.lt_trans timeBefore before, cancels⟩, .tail ?_ made⟩
        exact Relation.ReflTransGen.mono (fun _ _ link => link.later (Nat.le_of_lt before)) _ _ chain

/-- Cancellation descends exactly along live links, at every moment of every program.  Whenever no
`cancel` is in progress, a live state that was linked to a state that was cancelled at any time is
cancelled.  Conversely, a state is cancelled only if `cancel` was called on a source of it or if
the state to which it was linked had been cancelled.  So `cancel` on a source reaches all live
states below it and no state that is not below it, and nothing that lives is ever un-cancelled. -/
theorem cancellation_exact
    (program : List (Step ν))
    (jobs : Nat) :
    (¬ Machine.Cancelling (moment program jobs).agenda →
        ∀ parent child, LiveLink program jobs parent child → WasCancelled program jobs parent →
          (moment program jobs).world.isCancelledState child = true) ∧
      (∀ key, (moment program jobs).world.isCancelledState key = true →
        CancelCalled program jobs key ∨
          ∃ parent, LinkMade program jobs parent key ∧ WasCancelled program jobs parent) ∧
      (∀ key, CancelCalled program jobs key → WasCancelled program jobs key) ∧
      (¬ Machine.Cancelling (moment program jobs).agenda →
        ∀ root key, CancelCalled program jobs root →
          Relation.TransGen (LiveLink program jobs) root key →
            (moment program jobs).world.isCancelledState key = true) ∧
      (∀ key, (moment program jobs).world.isCancelledState key = true →
        ∃ root, CancelCalled program jobs root ∧
          Relation.ReflTransGen (LinkMade program jobs) root key) ∧
      ∀ key, WasCancelled program jobs key → (moment program jobs).world.Live key →
        (moment program jobs).world.isCancelledState key = true := by
  refine ⟨fun quiet parent child link was => isCancelledState_of_parent quiet link was,
    fun key cancelled => ?_,
    fun key called => called.wasCancelled,
    fun quiet root key called below =>
      isCancelledState_of_ancestor quiet called.wasCancelled below,
    fun key cancelled => exists_root_of_isCancelledState cancelled,
    fun key ⟨earlier, before, cancelled⟩ alive => isCancelledState_later before cancelled alive⟩
  refine (cause_of_isCancelledState cancelled).imp_right ?_
  rintro ⟨parent, made, earlier, before, parentCancelled⟩
  exact ⟨parent, made, earlier, Nat.le_of_lt before, parentCancelled⟩

/-- While the first source is being cancelled, a listener makes a source that is linked to its
child, which is still pending. -/
def reentrant : List (Step Nat) :=
  [.source 0, .token 0 0, .onCancel 0 0 "first" [.linked 2 1], .linked 1 0, .token 1 1, .cancel 0]

/-- The source that was made during the cancellation is reached by it, two links down. -/
theorem cancellation_exact_reentrant :
    ¬ Machine.Cancelling (moment reentrant 18).agenda ∧
      CancelCalled reentrant 18 0 ∧
      Relation.TransGen (LiveLink reentrant 18) 0 2 ∧
      (moment reentrant 18).world.isCancelledState 2 = true := by
  have finished : (moment reentrant 18).agenda = [] := rfl
  have quiet : ¬ Machine.Cancelling (moment reentrant 18).agenda := by
    simp [finished, Machine.Cancelling]
  have called : CancelCalled reentrant 18 0 := ⟨11, by decide, 0, _, rfl, rfl⟩
  have first : LiveLink reentrant 18 0 1 := ⟨⟨7, by decide, 1, 0, _, rfl, rfl, rfl⟩, _, rfl⟩
  have second : LiveLink reentrant 18 1 2 := ⟨⟨13, by decide, 2, 1, _, rfl, rfl, rfl⟩, _, rfl⟩
  have below : Relation.TransGen (LiveLink reentrant 18) 0 2 := .tail (.single first) second
  exact ⟨quiet, called, below,
    (cancellation_exact reentrant 18).2.2.2.1 quiet 0 2 called below⟩

end Moments

end Cancellation

end Cadence
