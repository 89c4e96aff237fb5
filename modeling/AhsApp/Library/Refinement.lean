import AhsApp.Library.Run

/-! Forward simulation: runs of a component related to an abstract one that takes the
same events and can always take them. -/

namespace AhsApp.Library

universe u v w
variable {State : Type u} {Event : Type v} {Abstract : Type w}
variable {step : State → Event → Option State} {abstractStep : Abstract → Event → Abstract}

/-- States that every permitted step keeps related are related at the end of a run. -/
theorem run_refines (related : State → Abstract → Prop) (good : State → Event → Prop)
    (simulates : ∀ {state abstract event next}, related state abstract → good state event →
      step state event = some next → related next (abstractStep abstract event))
    {state last : State} {abstract : Abstract} {events : List Event}
    (initial : related state abstract) (along : Along step good state events)
    (ran : run step state events = some last) :
    related last (events.foldl abstractStep abstract) := by
  induction events generalizing state abstract with
  | nil => exact Option.some.inj ran ▸ initial
  | cons event rest ih =>
    obtain ⟨next, taken, ran⟩ := run_cons_iff.mp ran
    exact ih (simulates initial along.1 taken) (along.2 next taken) ran

theorem run_refines_of_forall (related : State → Abstract → Prop) {good : Event → Prop}
    (simulates : ∀ {state abstract event next}, related state abstract → good event →
      step state event = some next → related next (abstractStep abstract event))
    {state last : State} {abstract : Abstract} {events : List Event}
    (initial : related state abstract) (allowed : ∀ event ∈ events, good event)
    (ran : run step state events = some last) :
    related last (events.foldl abstractStep abstract) :=
  run_refines related (fun _ event => good event) simulates initial
    (Along.of_forall (fun _ => allowed) state) ran

end AhsApp.Library
