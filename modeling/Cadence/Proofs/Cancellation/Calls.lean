import Cadence.Proofs.Cancellation.Serials

namespace Cadence

namespace Cancellation

/-!
# What one job does to the calls of listeners

A listener comes on the agenda from its state, when that is cancelled, or from its own
registration, when the state is cancelled already.  A call on the agenda is reported
when it is made, and what it causes is put in front of the rest.
-/

/-- The listener that a callback is, with its label. -/
def Callback.listener?
    {ν : Type} :
    Callback ν → Option (Nat × String)
  | .link _ => none
  | .listener serial label _ => some (serial, label)

/-- The listeners among callbacks. -/
def listeners
    {ν : Type}
    (callbacks : List (Callback ν)) :
    List (Nat × String) :=
  callbacks.filterMap Callback.listener?

namespace Machine

variable {ν : Type} [DecidableEq ν] {machine next : Machine ν}

/-- Reports are only added. -/
theorem reports_of_step?
    (stepped : machine.step? = some next) :
    machine.reports <+: next.reports := by
  obtain ⟨world, agenda, reports⟩ := machine
  cases agenda with
  | nil => cases stepped
  | cons job rest =>
      cases job with
      | perform step =>
          cases stepped
          exact List.prefix_refl _
      | call callback =>
          cases callback with
          | link child =>
              cases stepped
              exact List.prefix_refl _
          | listener serial label reactions =>
              cases stepped
              exact List.prefix_append _ _
      | assign name place =>
          cases stepped
          exact List.prefix_refl _
      | report step answer =>
          cases stepped
          exact List.prefix_append _ _

/-- The next job calls a listener. -/
def CallsListener
    (machine : Machine ν)
    (serial : Nat)
    (label : String) :
    Prop :=
  ∃ reactions rest, machine.agenda = .call (.listener serial label reactions) :: rest

/-- The call of a listener is reported, and all that it causes is put in front of the agenda. -/
theorem call_of_step?
    (stepped : machine.step? = some next)
    {callback : Callback ν}
    {rest : List (Job ν)}
    (pending : machine.agenda = .call callback :: rest) :
    ∃ jobs, next.agenda = jobs ++ rest ∧
      firings next.reports = firings machine.reports ++ listeners [callback] := by
  obtain ⟨world, agenda, reports⟩ := machine
  cases pending
  cases callback with
  | link child =>
      simp only [step?, Option.some.injEq] at stepped
      subst stepped
      exact ⟨_, rfl, (List.append_nil _).symm⟩
  | listener serial label reactions =>
      simp only [step?, Option.some.injEq] at stepped
      subst stepped
      exact ⟨_, rfl, firings_append _ _⟩

theorem call_listener_of_step?
    (stepped : machine.step? = some next)
    {serial : Nat}
    {label : String}
    {reactions : List (Step ν)}
    {rest : List (Job ν)}
    (pending : machine.agenda = .call (.listener serial label reactions) :: rest) :
    next.reports = machine.reports ++ [.fired serial label] ∧
      next.agenda = reactions.map .perform ++ rest := by
  obtain ⟨world, agenda, reports⟩ := machine
  cases pending
  cases stepped
  exact ⟨rfl, rfl⟩

/-- A call that is reported was reported before or is made by the job. -/
theorem fired_of_step?
    (stepped : machine.step? = some next)
    {serial : Nat}
    {label : String}
    (fired : (serial, label) ∈ firings next.reports) :
    (serial, label) ∈ firings machine.reports ∨ machine.CallsListener serial label := by
  obtain ⟨world, agenda, reports⟩ := machine
  cases agenda with
  | nil => cases stepped
  | cons job rest =>
      cases job with
      | perform step =>
          cases stepped
          exact Or.inl fired
      | call callback =>
          cases callback with
          | link child =>
              cases stepped
              exact Or.inl fired
          | listener other otherLabel reactions =>
              cases stepped
              rw [firings_append, firings_fired] at fired
              rcases List.mem_append.mp fired with before | now
              · exact Or.inl before
              · cases List.mem_singleton.mp now
                exact Or.inr ⟨reactions, rest, rfl⟩
      | assign name place =>
          cases stepped
          exact Or.inl fired
      | report step answer =>
          cases stepped
          rw [firings_append, firings_did, List.append_nil] at fired
          exact Or.inl fired

/-- A job that cancels a state puts the state's callbacks on the agenda, in front of what is left to
do and of its own report if it has one. -/
theorem Cancels.calls
    {key : Nat}
    (cancels : machine.Cancels key)
    (stepped : machine.step? = some next) :
    ∃ job closing rest, machine.agenda = job :: rest ∧
      next.agenda = (machine.world.cancelState key).2.map .call ++ (closing ++ rest) ∧
      (∀ callback, Job.call callback ∉ closing) ∧
      next.world = (machine.world.cancelState key).1 ∧ next.reports = machine.reports := by
  obtain ⟨world, agenda, reports⟩ := machine
  rcases cancels with ⟨source, rest, rfl, held⟩ | ⟨rest, rfl⟩
  · simp only [step?, World.perform, held, Option.some.injEq] at stepped
    subst stepped
    exact ⟨_, [.report (.cancel source) (.flag true)], rest, rfl, by simp, by simp, rfl, rfl⟩
  · simp only [step?, Option.some.injEq] at stepped
    subst stepped
    exact ⟨_, [], rest, rfl, rfl, by simp, rfl, rfl⟩

/-- A listener that is to be called when a job cancels a state was to be called before or is pending
on that state. -/
theorem listener_called_of_cancels
    {key : Nat}
    (cancels : machine.Cancels key)
    (stepped : machine.step? = some next)
    (linked : machine.world.Linked)
    {serial : Nat}
    {label : String}
    {reactions : List (Step ν)}
    (called : Job.call (.listener serial label reactions) ∈ next.agenda) :
    Job.call (.listener serial label reactions) ∈ machine.agenda ∨
      ∃ place : Registration, place.state = key ∧
        machine.world.Pends place (.listener serial label reactions) := by
  obtain ⟨job, closing, rest, before, after, noCalls, -⟩ := cancels.calls stepped
  rw [after, List.mem_append, List.mem_append] at called
  rcases called with isCallback | inClosing | later
  · obtain ⟨callback, present, same⟩ := List.mem_map.mp isCallback
    cases same
    obtain ⟨state, entry, found, pending⟩ := linked.mem_cancelState.mp present
    exact Or.inr ⟨⟨key, entry⟩, rfl, state, found, pending⟩
  · exact absurd inClosing (noCalls _)
  · exact Or.inl (before ▸ List.mem_cons_of_mem job later)

/-- A listener that is to be called was to be called before, or is pending on a state that the job
cancels, or is registered by the job on a state that is cancelled already. -/
theorem listener_called_of_step?
    (stepped : machine.step? = some next)
    (linked : machine.world.Linked)
    {serial : Nat}
    {label : String}
    {reactions : List (Step ν)}
    (called : Job.call (.listener serial label reactions) ∈ next.agenda) :
    Job.call (.listener serial label reactions) ∈ machine.agenda ∨
      (∃ place, machine.Cancels place.state ∧
        machine.world.Pends place (.listener serial label reactions)) ∨
      ∃ key, machine.Listens key serial label reactions ∧
        machine.world.isCancelledState key = true := by
  by_cases cancels : ∃ key, machine.Cancels key
  · obtain ⟨key, cancels⟩ := cancels
    rcases listener_called_of_cancels cancels stepped linked called with
      before | ⟨place, rfl, pends⟩
    · exact Or.inl before
    · exact Or.inr (Or.inl ⟨place, cancels, pends⟩)
  obtain ⟨world, agenda, reports⟩ := machine
  cases agenda with
  | nil => cases stepped
  | cons job rest =>
      cases job with
      | perform step =>
          simp only [step?, Option.some.injEq] at stepped
          subst stepped
          rcases List.mem_append.mp called with inFront | later
          · cases step with
            | cancel source =>
                cases held : world.sources.get? source with
                | none => simp [World.perform, held] at inFront
                | some key => exact absurd ⟨key, Or.inl ⟨source, rest, rfl, held⟩⟩ cancels
            | onCancel name token newLabel newReactions =>
                cases held : world.stateOf? token with
                | none => simp [World.perform, held] at inFront
                | some key =>
                    cases status : world.isCancelledState key with
                    | false => simp [World.perform, held, status] at inFront
                    | true =>
                        simp [World.perform, held, status] at inFront
                        obtain ⟨rfl, rfl, rfl⟩ := inFront
                        exact Or.inr (Or.inr ⟨key, ⟨name, token, rest, rfl, held, rfl⟩, status⟩)
            | _ => simp [World.perform] at inFront
          · exact Or.inl (List.mem_cons_of_mem _ later)
      | call callback =>
          cases callback with
          | link child => exact absurd ⟨child, Or.inr ⟨rest, rfl⟩⟩ cancels
          | listener other otherLabel otherReactions =>
              simp only [step?, Option.some.injEq] at stepped
              subst stepped
              simp at called
              exact Or.inl (List.mem_cons_of_mem _ called)
      | assign name place =>
          simp only [step?, Option.some.injEq] at stepped
          subst stepped
          exact Or.inl (List.mem_cons_of_mem _ called)
      | report step answer =>
          simp only [step?, Option.some.injEq] at stepped
          subst stepped
          exact Or.inl (List.mem_cons_of_mem _ called)

/-! ### What a registration does at once -/

section OnCancel

variable {name token : ν} {label : String} {reactions : List (Step ν)} {rest : List (Job ν)}

/-- On a token without a state nothing is registered, and the name gets no registration. -/
theorem onCancel_of_detached
    (stepped : machine.step? = some next)
    (pending : machine.agenda = .perform (.onCancel name token label reactions) :: rest)
    (detached : machine.world.stateOf? token = none) :
    next =
      { machine with
        agenda :=
          .assign name none ::
            .report (.onCancel name token label reactions) (.flag true) :: rest } := by
  obtain ⟨world, agenda, reports⟩ := machine
  cases pending
  simp only [step?, World.perform, detached, Option.some.injEq] at stepped
  exact stepped.symm

/-- On a pending state the name gets the place of the listener. -/
theorem onCancel_of_pending
    (stepped : machine.step? = some next)
    (linked : machine.world.Linked)
    (pending : machine.agenda = .perform (.onCancel name token label reactions) :: rest)
    {key : Nat}
    (held : machine.world.stateOf? token = some key)
    (active : machine.world.isCancelledState key = false) :
    next.agenda =
      .assign name (some (machine.world.nextPlace key)) ::
        .report (.onCancel name token label reactions) (.flag true) :: rest := by
  obtain ⟨target, found⟩ := linked.live_of_stateOf? held
  have isPlace : machine.world.nextPlace key = ⟨key, target.nextEntry⟩ := by
    simp [World.nextPlace, found]
  obtain ⟨world, agenda, reports⟩ := machine
  cases pending
  have placed :=
    World.register_place { world with nextSerial := world.nextSerial + 1 } found
      (.listener world.nextSerial label reactions)
  simp only [step?, World.perform, held, active, Bool.false_eq_true, ↓reduceIte, placed,
    Option.some.injEq] at stepped
  rw [← stepped, isPlace]
  rfl

/-- On a cancelled state the listener is called next, before the registration is over, and the name
gets no registration. -/
theorem onCancel_of_cancelled
    (stepped : machine.step? = some next)
    (pending : machine.agenda = .perform (.onCancel name token label reactions) :: rest)
    {key : Nat}
    (held : machine.world.stateOf? token = some key)
    (cancelled : machine.world.isCancelledState key = true) :
    next.reports = machine.reports ∧
      next.agenda =
        .call (.listener machine.world.nextSerial label reactions) :: .assign name none ::
          .report (.onCancel name token label reactions) (.flag true) :: rest := by
  obtain ⟨world, agenda, reports⟩ := machine
  cases pending
  simp only [step?, World.perform, held, cancelled, ↓reduceIte, Option.some.injEq] at stepped
  rw [← stepped]
  exact ⟨rfl, rfl⟩

end OnCancel

/-- `cancel` on a source that has nothing more to call calls nothing and changes nothing. -/
theorem cancel_of_spent
    (stepped : machine.step? = some next)
    {source : ν}
    {rest : List (Job ν)}
    (pending : machine.agenda = .perform (.cancel source) :: rest)
    {key : Nat}
    (held : machine.world.sources.get? source = some key)
    (spent : machine.world.cancelState key = (machine.world, [])) :
    next = { machine with agenda := .report (.cancel source) (.flag true) :: rest } := by
  obtain ⟨world, agenda, reports⟩ := machine
  cases pending
  simp only [step?, World.perform, held, spent, Option.some.injEq] at stepped
  exact stepped.symm

/-- The call of a link of a state that has nothing more to call does nothing. -/
theorem call_link_of_spent
    (stepped : machine.step? = some next)
    {key : Nat}
    {rest : List (Job ν)}
    (pending : machine.agenda = .call (.link key) :: rest)
    (spent : machine.world.cancelState key = (machine.world, [])) :
    next = { machine with agenda := rest } := by
  obtain ⟨world, agenda, reports⟩ := machine
  cases pending
  simp only [step?, spent, Option.some.injEq] at stepped
  exact stepped.symm

/-- A job that cancels a live state leaves it cancelled. -/
theorem Cancels.isCancelledState
    {key : Nat}
    (cancels : machine.Cancels key)
    (stepped : machine.step? = some next)
    (linked : machine.world.Linked)
    (alive : machine.world.Live key) :
    next.world.isCancelledState key = true := by
  obtain ⟨_, _, _, -, -, -, world, -⟩ := cancels.calls stepped
  rw [world]
  exact linked.isCancelledState_cancelState_same alive

end Machine

end Cancellation

end Cadence
