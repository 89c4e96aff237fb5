/-! Runs of an event-driven component whose next state, if there is one, is
determined by the event. A step that is not possible ends the run. -/

namespace AhsApp.Library

universe u v w
variable {State : Type u} {Event : Type v}

/-- Execute the events in order; `none` once a step is not possible. -/
def run (step : State → Event → Option State) : State → List Event → Option State
  | state, [] => some state
  | state, event :: rest => (step state event).bind fun next => run step next rest

/-- Every step of the run satisfies `good`, which sees the state before it. -/
def Along (step : State → Event → Option State) (good : State → Event → Prop) :
    State → List Event → Prop
  | _, [] => True
  | state, event :: rest =>
    good state event ∧ ∀ next, step state event = some next → Along step good next rest

/-- Every state of the run satisfies `holds`, the first and the last included. -/
def Throughout (step : State → Event → Option State) (holds : State → Prop) :
    State → List Event → Prop
  | state, [] => holds state
  | state, event :: rest =>
    holds state ∧ ∀ next, step state event = some next → Throughout step holds next rest

variable {step : State → Event → Option State}

@[simp] private theorem run_nil (state : State) : run step state [] = some state := rfl

theorem run_cons_iff {state last : State} {event : Event} {rest : List Event} :
    run step state (event :: rest) = some last ↔
      ∃ next, step state event = some next ∧ run step next rest = some last := by
  simp [run, Option.bind_eq_some_iff]

theorem run_append_iff {state last : State} {before after : List Event} :
    run step state (before ++ after) = some last ↔
      ∃ middle, run step state before = some middle ∧ run step middle after = some last := by
  induction before generalizing state with
  | nil => simp
  | cons event rest ih =>
    rw [List.cons_append, run_cons_iff]
    constructor
    · rintro ⟨next, taken, ran⟩
      obtain ⟨middle, first, second⟩ := ih.mp ran
      exact ⟨middle, run_cons_iff.mpr ⟨next, taken, first⟩, second⟩
    · rintro ⟨middle, first, second⟩
      obtain ⟨next, taken, ran⟩ := run_cons_iff.mp first
      exact ⟨next, taken, ih.mpr ⟨middle, ran, second⟩⟩

theorem foldlM_eq_run (state : State) (events : List Event) :
    events.foldlM step state = run step state events := by
  induction events generalizing state with
  | nil => rfl
  | cons event rest ih => simp only [List.foldlM_cons, run, ih, Option.bind_eq_bind]

/-- Steps that are always possible make a run. -/
theorem run_returns (possible : ∀ state event, ∃ next, step state event = some next)
    (state : State) (events : List Event) : ∃ last, run step state events = some last := by
  induction events generalizing state with
  | nil => exact ⟨state, rfl⟩
  | cons event rest ih =>
    obtain ⟨next, taken⟩ := possible state event
    obtain ⟨last, ran⟩ := ih next
    exact ⟨last, run_cons_iff.mpr ⟨next, taken, ran⟩⟩

theorem Along.cons {good : State → Event → Prop} {state next : State} {event : Event}
    {rest : List Event} (taken : step state event = some next) (now : good state event)
    (later : Along step good next rest) : Along step good state (event :: rest) := by
  refine ⟨now, ?_⟩
  intro other same
  obtain rfl : next = other := Option.some.inj (taken.symm.trans same)
  exact later

theorem Along.and {first second : State → Event → Prop} {state : State} {events : List Event}
    (left : Along step first state events) (right : Along step second state events) :
    Along step (fun state event => first state event ∧ second state event) state events := by
  induction events generalizing state with
  | nil => trivial
  | cons event rest ih =>
    exact ⟨⟨left.1, right.1⟩, fun next taken => ih (left.2 next taken) (right.2 next taken)⟩

theorem Along.of_forall {good : State → Event → Prop} {events : List Event}
    (always : ∀ state, ∀ event ∈ events, good state event) (state : State) :
    Along step good state events := by
  induction events generalizing state with
  | nil => trivial
  | cons event rest ih =>
    exact ⟨always state event (by simp), fun next _ =>
      ih (fun state event member => always state event (by simp [member])) next⟩

theorem Throughout.first {holds : State → Prop} {state : State} {events : List Event}
    (throughout : Throughout step holds state events) : holds state := by
  cases events with
  | nil => exact throughout
  | cons event rest => exact throughout.1

theorem Throughout.imp {holds weaker : State → Prop} (weaken : ∀ state, holds state → weaker state)
    {state : State} {events : List Event} (throughout : Throughout step holds state events) :
    Throughout step weaker state events := by
  induction events generalizing state with
  | nil => exact weaken state throughout
  | cons event rest ih =>
    exact ⟨weaken state throughout.1, fun next taken => ih (throughout.2 next taken)⟩

/-- What holds throughout holds after every part of the events. -/
theorem throughout_iff_prefix {holds : State → Prop} {state : State} {events : List Event} :
    Throughout step holds state events ↔ ∀ before after middle, events = before ++ after →
      run step state before = some middle → holds middle := by
  induction events generalizing state with
  | nil =>
    constructor
    · intro here before after middle split ran
      obtain ⟨rfl, _⟩ := List.append_eq_nil_iff.mp split.symm
      exact Option.some.inj ran ▸ here
    · intro always
      exact always [] [] state rfl rfl
  | cons event rest ih =>
    constructor
    · rintro ⟨here, later⟩ before after middle split ran
      cases before with
      | nil => exact Option.some.inj ran ▸ here
      | cons first before =>
        obtain ⟨rfl, tail⟩ := List.cons.inj split
        obtain ⟨next, taken, ran⟩ := run_cons_iff.mp ran
        exact ih.mp (later next taken) before after middle tail ran
    · intro always
      refine ⟨always [] (event :: rest) state rfl rfl, ?_⟩
      intro next taken
      refine ih.mpr ?_
      intro before after middle split ran
      exact always (event :: before) after middle (congrArg (List.cons event) split)
        (run_cons_iff.mpr ⟨next, taken, ran⟩)

/-- The induction over a run: what every permitted step preserves holds at its end. -/
theorem run_invariant (invariant : State → Prop) (good : State → Event → Prop)
    (preserved : ∀ {state event next}, invariant state → good state event →
      step state event = some next → invariant next)
    {state last : State} {events : List Event} (initial : invariant state)
    (along : Along step good state events) (ran : run step state events = some last) :
    invariant last := by
  induction events generalizing state with
  | nil => exact Option.some.inj ran ▸ initial
  | cons event rest ih =>
    obtain ⟨next, taken, ran⟩ := run_cons_iff.mp ran
    exact ih (preserved initial along.1 taken) (along.2 next taken) ran

theorem Throughout.of_preserved {holds : State → Prop} (good : State → Event → Prop)
    (preserved : ∀ {state event next}, holds state → good state event →
      step state event = some next → holds next)
    {state : State} {events : List Event} (initial : holds state)
    (along : Along step good state events) : Throughout step holds state events := by
  induction events generalizing state with
  | nil => exact initial
  | cons event rest ih =>
    exact ⟨initial, fun next taken =>
      ih (preserved initial along.1 taken) (along.2 next taken)⟩

theorem run_view {View : Type w} (view : State → View) {quiet : Event → Prop}
    (unchanged : ∀ {state event next}, quiet event → step state event = some next →
      view next = view state)
    {state last : State} {events : List Event} (quietly : ∀ event ∈ events, quiet event)
    (ran : run step state events = some last) : view last = view state := by
  refine run_invariant (fun current => view current = view state) (fun _ event => quiet event)
    ?_ rfl (Along.of_forall (fun _ => quietly) state) ran
  intro current event next same quiet taken
  exact (unchanged quiet taken).trans same

theorem Throughout.of_view {View : Type w} (holds : View → Prop) (view : State → View)
    {quiet : Event → Prop}
    (unchanged : ∀ {state event next}, quiet event → step state event = some next →
      view next = view state)
    {state : State} {events : List Event}
    (quietly : ∀ event ∈ events, quiet event) (initial : holds (view state)) :
    Throughout step (fun state => holds (view state)) state events := by
  refine Throughout.of_preserved (fun _ event => quiet event) ?_ initial
    (Along.of_forall (fun _ => quietly) state)
  intro current event next held quiet taken
  exact (unchanged quiet taken).symm ▸ held

/-- Two conditions on steps that agree wherever an invariant holds agree along a run. -/
theorem along_iff_along_of_invariant {invariant : State → Prop}
    {effect sound : State → Event → Prop}
    (preserved : ∀ {state event next}, invariant state → step state event = some next →
      invariant next)
    (exact : ∀ {state event next}, invariant state → step state event = some next →
      (effect state event ↔ sound state event))
    {state last : State} {events : List Event} (valid : invariant state)
    (ran : run step state events = some last) :
    Along step effect state events ↔ Along step sound state events := by
  induction events generalizing state with
  | nil => exact Iff.rfl
  | cons event rest ih =>
    obtain ⟨next, taken, ran⟩ := run_cons_iff.mp ran
    refine and_congr (exact valid taken) ?_
    refine forall_congr' fun other => forall_congr' fun same => ?_
    obtain rfl : next = other := Option.some.inj (taken.symm.trans same)
    exact ih (preserved valid taken) ran

/-- Where a condition says exactly when a step of an assumed kind keeps a state
property, it says so of whole runs; an invariant may help. -/
theorem throughout_iff_along_of_invariant {invariant holds : State → Prop}
    {assumed sound : State → Event → Prop}
    (preserved : ∀ {state event next}, invariant state → assumed state event →
      step state event = some next → invariant next)
    (exact : ∀ {state event next}, invariant state → assumed state event → holds state →
      step state event = some next → (holds next ↔ sound state event))
    {state last : State} {events : List Event} (valid : invariant state) (initial : holds state)
    (given : Along step assumed state events) (ran : run step state events = some last) :
    Throughout step holds state events ↔ Along step sound state events := by
  induction events generalizing state with
  | nil => exact iff_of_true initial trivial
  | cons event rest ih =>
    obtain ⟨next, taken, ran⟩ := run_cons_iff.mp ran
    have here : holds next ↔ sound state event := exact valid given.1 initial taken
    have valid' : invariant next := preserved valid given.1 taken
    constructor
    · rintro ⟨_, kept⟩
      have held : holds next := (kept next taken).first
      refine ⟨here.mp held, ?_⟩
      intro other same
      obtain rfl : next = other := Option.some.inj (taken.symm.trans same)
      exact (ih valid' held (given.2 next taken) ran).mp (kept next taken)
    · rintro ⟨now, later⟩
      refine ⟨initial, ?_⟩
      intro other same
      obtain rfl : next = other := Option.some.inj (taken.symm.trans same)
      exact (ih valid' (here.mpr now) (given.2 next taken) ran).mpr (later next taken)

/-- Where a condition says exactly when a step keeps a state property, it says so of
whole runs. -/
theorem throughout_iff_along {holds : State → Prop} {sound : State → Event → Prop}
    (exact : ∀ {state event next}, holds state → step state event = some next →
      (holds next ↔ sound state event))
    {state last : State} {events : List Event} (initial : holds state)
    (ran : run step state events = some last) :
    Throughout step holds state events ↔ Along step sound state events :=
  @throughout_iff_along_of_invariant _ _ step (fun _ => True) holds (fun _ _ => True) sound
    (fun _ _ _ => trivial) (fun _ _ => exact) _ _ _ trivial initial
    (Along.of_forall (fun _ _ _ => trivial) state) ran

theorem throughout_and_along_iff {holds : State → Prop} {effect sound : State → Event → Prop}
    (exact : ∀ {state event}, holds state →
      ((∀ next, step state event = some next → holds next) ∧ effect state event ↔
        sound state event))
    {state : State} {events : List Event} (initial : holds state) :
    Throughout step holds state events ∧ Along step effect state events ↔
      Along step sound state events := by
  induction events generalizing state with
  | nil => exact ⟨fun _ => trivial, fun _ => ⟨initial, trivial⟩⟩
  | cons event rest ih =>
    constructor
    · rintro ⟨⟨_, kept⟩, now, later⟩
      refine ⟨(exact initial).mp ⟨fun next taken => (kept next taken).first, now⟩, ?_⟩
      exact fun next taken => (ih (kept next taken).first).mp ⟨kept next taken, later next taken⟩
    · rintro ⟨now, later⟩
      obtain ⟨kept, effect⟩ := (exact initial).mpr now
      have rest := fun next taken => (ih (kept next taken)).mpr (later next taken)
      exact ⟨⟨initial, fun next taken => (rest next taken).1⟩, effect,
        fun next taken => (rest next taken).2⟩

/-- Where a condition says exactly when a step is possible and keeps a state property, it
says so of whole runs. -/
theorem returns_and_throughout_iff {invariant holds : State → Prop} {assumed : Event → Prop}
    {sound : State → Event → Prop}
    (preserved : ∀ {state event next}, invariant state → assumed event →
      step state event = some next → invariant next)
    (exact : ∀ {state event}, invariant state → assumed event → holds state →
      ((∃ next, step state event = some next ∧ holds next) ↔ sound state event))
    {state : State} {events : List Event} (valid : invariant state) (initial : holds state)
    (given : ∀ event ∈ events, assumed event) :
    ((∃ last, run step state events = some last) ∧ Throughout step holds state events) ↔
      Along step sound state events := by
  induction events generalizing state with
  | nil => exact iff_of_true ⟨⟨state, rfl⟩, initial⟩ trivial
  | cons event rest ih =>
    have now := given event List.mem_cons_self
    have later := fun other member => given other (List.mem_cons_of_mem event member)
    constructor
    · rintro ⟨⟨last, ran⟩, _, kept⟩
      obtain ⟨next, taken, ran⟩ := run_cons_iff.mp ran
      have held : holds next := (kept next taken).first
      have along := (ih (preserved valid now taken) held later).mp ⟨⟨last, ran⟩, kept next taken⟩
      exact Along.cons taken ((exact valid now initial).mp ⟨next, taken, held⟩) along
    · rintro ⟨sound, along⟩
      obtain ⟨next, taken, held⟩ := (exact valid now initial).mpr sound
      obtain ⟨⟨last, ran⟩, kept⟩ :=
        (ih (preserved valid now taken) held later).mpr (along next taken)
      refine ⟨⟨last, run_cons_iff.mpr ⟨next, taken, ran⟩⟩, initial, ?_⟩
      intro other same
      obtain rfl : next = other := Option.some.inj (taken.symm.trans same)
      exact kept

/-- Two states take the same step. -/
def sideBySide (step : State → Event → Option State) (states : State × State)
    (event : Event) : Option (State × State) := do
  let first ← step states.1 event
  let second ← step states.2 event
  some (first, second)

theorem sideBySide_iff {states next : State × State} {event : Event} :
    sideBySide step states event = some next ↔
      step states.1 event = some next.1 ∧ step states.2 event = some next.2 := by
  simp only [sideBySide, Option.bind_eq_bind, Option.bind_eq_some_iff, Option.some.injEq]
  constructor
  · rintro ⟨first, taken, second, also, rfl⟩
    exact ⟨taken, also⟩
  · rintro ⟨taken, also⟩
    exact ⟨next.1, taken, next.2, also, rfl⟩

theorem run_sideBySide_iff {states last : State × State} {events : List Event} :
    run (sideBySide step) states events = some last ↔
      run step states.1 events = some last.1 ∧ run step states.2 events = some last.2 := by
  induction events generalizing states with
  | nil =>
    simp only [run_nil, Option.some.injEq]
    exact Prod.ext_iff
  | cons event rest ih =>
    simp only [run_cons_iff, sideBySide_iff]
    constructor
    · rintro ⟨next, ⟨taken, also⟩, ran⟩
      obtain ⟨first, second⟩ := ih.mp ran
      exact ⟨⟨next.1, taken, first⟩, next.2, also, second⟩
    · rintro ⟨⟨first, taken, ranFirst⟩, second, also, ranSecond⟩
      exact ⟨(first, second), ⟨taken, also⟩, ih.mpr ⟨ranFirst, ranSecond⟩⟩

theorem along_sideBySide_iff {good : State → Event → Prop} {states last : State × State}
    {events : List Event} (ran : run (sideBySide step) states events = some last) :
    Along (sideBySide step) (fun states event => good states.1 event) states events ↔
      Along step good states.1 events := by
  induction events generalizing states with
  | nil => exact Iff.rfl
  | cons event rest ih =>
    obtain ⟨next, taken, ran⟩ := run_cons_iff.mp ran
    obtain ⟨first, _⟩ := sideBySide_iff.mp taken
    refine and_congr_right fun _ => ?_
    constructor
    · intro later other same
      obtain rfl : next.1 = other := Option.some.inj (first.symm.trans same)
      exact (ih ran).mp (later next taken)
    · intro later other same
      obtain rfl : next = other := Option.some.inj (taken.symm.trans same)
      exact (ih ran).mpr (later next.1 first)

theorem run_follows {related : State → State → Prop}
    (follows : ∀ {state other event next}, related state other → step state event = some next →
      ∃ after, step other event = some after ∧ related next after)
    {state other last : State} {events : List Event} (initial : related state other)
    (ran : run step state events = some last) :
    ∃ after, run step other events = some after ∧ related last after := by
  induction events generalizing state other with
  | nil => exact ⟨other, rfl, Option.some.inj ran ▸ initial⟩
  | cons event rest ih =>
    obtain ⟨next, taken, ran⟩ := run_cons_iff.mp ran
    obtain ⟨middle, also, kept⟩ := follows initial taken
    obtain ⟨after, rest, related⟩ := ih kept ran
    exact ⟨after, run_cons_iff.mpr ⟨middle, also, rest⟩, related⟩

/-- A step of the run marks, and all events after it keep. -/
def Since (step : State → Event → Option State) (marks : State → Event → Prop)
    (keeps : Event → Prop) (state : State) (events : List Event) : Prop :=
  ∃ before event after middle, events = before ++ event :: after ∧
    run step state before = some middle ∧ marks middle event ∧ ∀ later ∈ after, keeps later

private theorem since_cons_iff {marks : State → Event → Prop} {keeps : Event → Prop}
    {state next : State} {event : Event} {rest : List Event}
    (taken : step state event = some next) :
    Since step marks keeps state (event :: rest) ↔
      (marks state event ∧ ∀ later ∈ rest, keeps later) ∨ Since step marks keeps next rest := by
  constructor
  · rintro ⟨before, marked, after, middle, split, ran, mark, kept⟩
    cases before with
    | nil =>
      obtain ⟨rfl, rfl⟩ := List.cons.inj split
      obtain rfl : state = middle := Option.some.inj ran
      exact Or.inl ⟨mark, kept⟩
    | cons first before =>
      obtain ⟨rfl, tail⟩ := List.cons.inj split
      obtain ⟨other, same, ran⟩ := run_cons_iff.mp ran
      obtain rfl : next = other := Option.some.inj (taken.symm.trans same)
      exact Or.inr ⟨before, marked, after, middle, tail, ran, mark, kept⟩
  · rintro (⟨mark, kept⟩ | ⟨before, marked, after, middle, rfl, ran, mark, kept⟩)
    · exact ⟨[], event, rest, state, rfl, rfl, mark, kept⟩
    · exact ⟨event :: before, marked, after, middle, rfl,
        run_cons_iff.mpr ⟨next, taken, ran⟩, mark, kept⟩

/-- What a step brings about or leaves to the event to keep holds at the end of a run
when it was brought about and kept since, or held at first and was kept throughout. -/
theorem holds_iff_since (holds : State → Prop) {invariant : State → Prop}
    {good marks : State → Event → Prop} {keeps : Event → Prop}
    (preserved : ∀ {state event next}, invariant state → good state event →
      step state event = some next → invariant next)
    (tracked : ∀ {state event next}, invariant state → good state event →
      step state event = some next → (holds next ↔ marks state event ∨ holds state ∧ keeps event))
    {state last : State} {events : List Event} (valid : invariant state)
    (along : Along step good state events) (ran : run step state events = some last) :
    holds last ↔ Since step marks keeps state events ∨
      (holds state ∧ ∀ event ∈ events, keeps event) := by
  induction events generalizing state with
  | nil =>
    obtain rfl : state = last := Option.some.inj ran
    have never : ¬ Since step marks keeps state [] := by
      rintro ⟨before, event, after, _, split, _⟩
      exact absurd split (by simp)
    simp [never]
  | cons event rest ih =>
    obtain ⟨next, taken, ran⟩ := run_cons_iff.mp ran
    rw [ih (preserved valid along.1 taken) (along.2 next taken) ran, since_cons_iff taken,
      tracked valid along.1 taken, List.forall_mem_cons]
    grind

/-- Split a run at its last step that marks, if it has one. -/
theorem exists_last_step (marks : State → Event → Prop) {state last : State}
    {events : List Event} (ran : run step state events = some last) :
    Along step (¬ marks · ·) state events ∨
      ∃ before event after middle next, events = before ++ event :: after ∧
        run step state before = some middle ∧ marks middle event ∧
        step middle event = some next ∧ Along step (¬ marks · ·) next after := by
  induction events generalizing state with
  | nil => exact .inl trivial
  | cons head rest ih =>
    obtain ⟨following, taken, ran⟩ := run_cons_iff.mp ran
    rcases ih ran with none | ⟨before, event, after, middle, next, rfl, ranBefore, marked⟩
    · by_cases now : marks state head
      · exact .inr ⟨[], head, rest, state, following, rfl, rfl, now, taken, none⟩
      · exact .inl (Along.cons taken now none)
    · exact .inr ⟨head :: before, event, after, middle, next, rfl,
        run_cons_iff.mpr ⟨following, taken, ranBefore⟩, marked⟩

theorem exists_first_split (kind : Event → Prop) (events : List Event)
    (occurs : ∃ event ∈ events, kind event) :
    ∃ before event after, events = before ++ event :: after ∧ kind event ∧
      ∀ earlier ∈ before, ¬ kind earlier := by
  induction events with
  | nil => simp at occurs
  | cons head rest ih =>
    by_cases now : kind head
    · exact ⟨[], head, rest, rfl, now, by simp⟩
    · obtain ⟨event, member, chosen⟩ := occurs
      have later : event ∈ rest := (List.mem_cons.mp member).resolve_left fun same =>
        now (same ▸ chosen)
      obtain ⟨before, event, after, split, chosen, none⟩ := ih ⟨event, later, chosen⟩
      refine ⟨head :: before, event, after, by simp [split], chosen, ?_⟩
      intro earlier member
      rcases List.mem_cons.mp member with same | member
      · exact same ▸ now
      · exact none earlier member

theorem exists_last_split (kind : Event → Prop) (events : List Event)
    (occurs : ∃ event ∈ events, kind event) :
    ∃ before event after, events = before ++ event :: after ∧ kind event ∧
      ∀ later ∈ after, ¬ kind later := by
  induction events with
  | nil => simp at occurs
  | cons head rest ih =>
    by_cases later : ∃ event ∈ rest, kind event
    · obtain ⟨before, event, after, split, chosen, none⟩ := ih later
      exact ⟨head :: before, event, after, by simp [split], chosen, none⟩
    · obtain ⟨event, member, chosen⟩ := occurs
      rcases List.mem_cons.mp member with same | member
      · subst same
        exact ⟨[], event, rest, rfl, chosen, fun other member kind =>
          later ⟨other, member, kind⟩⟩
      · exact absurd ⟨event, member, chosen⟩ later

end AhsApp.Library
