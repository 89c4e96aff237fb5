import Mathlib.Data.List.Basic

/-! A list built by a function that may throw, element by element. The list exists
when no call throws, and then holds what the calls returned. -/

namespace AhsApp.Library

variable {Item Result View : Type} {f : Item → Option Result}

theorem mapM_cons_eq_some {item : Item} {rest : List Item} {results : List Result} :
    (item :: rest).mapM f = some results ↔ ∃ first others,
      f item = some first ∧ rest.mapM f = some others ∧ results = first :: others := by
  simp only [List.mapM_cons, Option.bind_eq_bind, Option.bind_eq_some_iff, Option.pure_def,
    Option.some.injEq]
  constructor
  · rintro ⟨first, returned, others, mapped, rfl⟩
    exact ⟨first, others, returned, mapped, rfl⟩
  · rintro ⟨first, others, returned, mapped, rfl⟩
    exact ⟨first, returned, others, mapped, rfl⟩

theorem mem_of_mapM {items : List Item} {results : List Result}
    (mapped : items.mapM f = some results) {result : Result} :
    result ∈ results ↔ ∃ item ∈ items, f item = some result := by
  induction items generalizing results with
  | nil =>
    obtain rfl : [] = results := Option.some.inj mapped
    simp
  | cons item rest ih =>
    obtain ⟨first, others, returned, later, rfl⟩ := mapM_cons_eq_some.mp mapped
    rw [List.mem_cons, ih later, List.exists_mem_cons_iff, returned, Option.some.injEq, eq_comm]

theorem returned_of_mapM {items : List Item} {results : List Result}
    (mapped : items.mapM f = some results) {item : Item} (member : item ∈ items) :
    ∃ result ∈ results, f item = some result := by
  induction items generalizing results with
  | nil => simp at member
  | cons head rest ih =>
    obtain ⟨first, others, returned, later, rfl⟩ := mapM_cons_eq_some.mp mapped
    rcases List.mem_cons.mp member with rfl | member
    · exact ⟨first, List.mem_cons_self, returned⟩
    · obtain ⟨result, listed, returned⟩ := ih later member
      exact ⟨result, List.mem_cons_of_mem first listed, returned⟩

theorem mapM_returns {items : List Item}
    (returns : ∀ item ∈ items, ∃ result, f item = some result) :
    ∃ results, items.mapM f = some results := by
  induction items with
  | nil => exact ⟨[], rfl⟩
  | cons item rest ih =>
    obtain ⟨first, returned⟩ := returns item List.mem_cons_self
    obtain ⟨others, mapped⟩ := ih fun other member =>
      returns other (List.mem_cons_of_mem item member)
    exact ⟨first :: others, mapM_cons_eq_some.mpr ⟨first, others, returned, mapped, rfl⟩⟩

theorem bind_some_returns_iff {Test : Type} {tested : Option Test} {make : Test → Result} :
    (∃ result, (tested.bind fun test => some (make test)) = some result) ↔
      ∃ test, tested = some test := by
  cases tested <;> simp

/-- A loop that tests every item and combines the results returns exactly if every
test does. -/
theorem loop_returns_iff {Test : Type} {test : Item → Option Test}
    {loop : List Item → Option Result} {combine : Item → Test → Result → Result}
    (turn : ∀ item rest, loop (item :: rest) = (test item).bind fun tested =>
      (loop rest).bind fun result => some (combine item tested result))
    (empty : ∃ result, loop [] = some result) {items : List Item} :
    (∃ result, loop items = some result) ↔ ∀ item ∈ items, ∃ tested, test item = some tested := by
  induction items with
  | nil => exact iff_of_true empty (by simp)
  | cons item rest ih =>
    rw [List.forall_mem_cons, ← ih, turn]
    constructor
    · rintro ⟨result, returned⟩
      obtain ⟨tested, ok, returned⟩ := Option.bind_eq_some_iff.mp returned
      obtain ⟨tail, looped, _⟩ := Option.bind_eq_some_iff.mp returned
      exact ⟨⟨tested, ok⟩, tail, looped⟩
    · rintro ⟨⟨tested, ok⟩, tail, looped⟩
      simp [ok, looped]

theorem mapM_eq_map {make : Item → Result} {items : List Item}
    (returned : ∀ item ∈ items, f item = some (make item)) :
    items.mapM f = some (items.map make) := by
  induction items with
  | nil => rfl
  | cons item rest ih =>
    refine mapM_cons_eq_some.mpr ⟨make item, rest.map make, returned item List.mem_cons_self, ?_, rfl⟩
    exact ih fun other member => returned other (List.mem_cons_of_mem item member)

theorem mapM_eq_filterMap {items : List Item}
    (returns : ∀ item ∈ items, ∃ result, f item = some result) :
    items.mapM f = some (items.filterMap f) := by
  induction items with
  | nil => rfl
  | cons item rest ih =>
    obtain ⟨first, returned⟩ := returns item List.mem_cons_self
    rw [List.filterMap_cons_some returned]
    refine mapM_cons_eq_some.mpr ⟨first, rest.filterMap f, returned, ?_, rfl⟩
    exact ih fun other member => returns other (List.mem_cons_of_mem item member)

/-- A loop over the indices of a list. -/
theorem mapM_range {results : List Result} {call : Nat → Option Result}
    (returned : ∀ position < results.length, call position = results[position]?) :
    (List.range results.length).mapM call = some results := by
  induction results generalizing call with
  | nil => rfl
  | cons head rest ih =>
    have later : ((List.range rest.length).mapM fun position => call (position + 1)) = some rest :=
      ih fun position inside => returned (position + 1) (Nat.succ_lt_succ inside)
    rw [List.length_cons, List.range_succ_eq_map]
    refine mapM_cons_eq_some.mpr ⟨head, rest, returned 0 (Nat.succ_pos _), ?_, rfl⟩
    rwa [List.mapM_map]

theorem mapM_eq_none {items : List Item} {item : Item} (member : item ∈ items)
    (threw : f item = none) : items.mapM f = none := by
  cases mapped : items.mapM f with
  | none => rfl
  | some results =>
    obtain ⟨result, _, returned⟩ := returned_of_mapM mapped member
    rw [threw] at returned
    cases returned

/-- What every call hands on unchanged is, in order, the same before and after. -/
theorem map_of_mapM_mem {before : Item → View} {after : Result → View} {items : List Item}
    (kept : ∀ {result}, ∀ item ∈ items, f item = some result → after result = before item)
    {results : List Result} (mapped : items.mapM f = some results) :
    results.map after = items.map before := by
  induction items generalizing results with
  | nil =>
    obtain rfl : [] = results := Option.some.inj mapped
    rfl
  | cons item rest ih =>
    obtain ⟨first, others, returned, later, rfl⟩ := mapM_cons_eq_some.mp mapped
    rw [List.map_cons, List.map_cons, kept item List.mem_cons_self returned,
      ih (fun other member => kept other (List.mem_cons_of_mem item member)) later]

theorem map_of_mapM {before : Item → View} {after : Result → View}
    (kept : ∀ {item result}, f item = some result → after result = before item)
    {items : List Item} {results : List Result} (mapped : items.mapM f = some results) :
    results.map after = items.map before :=
  map_of_mapM_mem (fun _ _ returned => kept returned) mapped

/-- A loop whose body returns what it is given returns its list. -/
theorem eq_of_mapM {check : Item → Option Item}
    (kept : ∀ {item result}, check item = some result → result = item) {items results : List Item}
    (mapped : items.mapM check = some results) : results = items := by
  have same : results.map id = items.map id := map_of_mapM kept mapped
  simpa only [List.map_id] using same

/-- A call that returns what is made of the results of another collects what is made of them. -/
theorem mapM_of_mapM {g : Item → Option View} {make : Result → View}
    (kept : ∀ {item result}, f item = some result → g item = some (make result))
    {items : List Item} {results : List Result} (mapped : items.mapM f = some results) :
    items.mapM g = some (results.map make) := by
  induction items generalizing results with
  | nil =>
    obtain rfl : [] = results := Option.some.inj mapped
    rfl
  | cons item rest ih =>
    obtain ⟨first, others, returned, later, rfl⟩ := mapM_cons_eq_some.mp mapped
    exact mapM_cons_eq_some.mpr ⟨make first, others.map make, kept returned, ih later, rfl⟩

/-- A loop that appends every result to one list and what it makes of it to another. -/
theorem foldlM_collect {Other : Type} (also : Result → List Other)
    {turn : List Result × List Other → Item → Option (List Result × List Other)}
    (collects : ∀ state item, turn state item =
      (f item).map fun result => (state.1 ++ [result], state.2 ++ also result))
    (items : List Item) (results : List Result) (others : List Other) :
    items.foldlM turn (results, others) =
      (items.mapM f).map fun all => (results ++ all, others ++ all.flatMap also) := by
  induction items generalizing results others with
  | nil => simp
  | cons item rest ih =>
    rw [List.foldlM_cons, List.mapM_cons, collects]
    cases f item with
    | none => rfl
    | some result =>
      simp only [Option.map_some, Option.bind_eq_bind, Option.bind_some, ih, Option.pure_def]
      cases rest.mapM f <;> simp

theorem foldl_collect {Other : Type} (make : Item → Result) (also : Result → List Other)
    {turn : List Result × List Other → Item → List Result × List Other}
    (collects : ∀ state item, turn state item =
      (state.1 ++ [make item], state.2 ++ also (make item)))
    (items : List Item) (results : List Result) (others : List Other) :
    items.foldl turn (results, others) =
      (results ++ items.map make, others ++ (items.map make).flatMap also) := by
  induction items generalizing results others with
  | nil => simp
  | cons item rest ih => simp [collects, ih]

/-- A loop whose turns succeed exactly when the calls return. -/
theorem foldlM_of_mapM {State Error : Type} {turn : State → Item → Except Error State}
    {apply : State → Result → State}
    (returned : ∀ state item result, f item = some result →
      turn state item = .ok (apply state result))
    (threw : ∀ state item, f item = none → ∃ error, turn state item = .error error)
    (items : List Item) (state : State) :
    (∀ results, items.mapM f = some results →
      items.foldlM turn state = .ok (results.foldl apply state)) ∧
    (items.mapM f = none → ∃ error, items.foldlM turn state = .error error) := by
  induction items generalizing state with
  | nil =>
    constructor
    · rintro results mapped
      obtain rfl : [] = results := Option.some.inj mapped
      rfl
    · intro none
      cases none
  | cons item rest ih =>
    rw [List.mapM_cons, List.foldlM_cons]
    cases called : f item with
    | none =>
      obtain ⟨error, stopped⟩ := threw state item called
      rw [stopped]
      exact ⟨fun _ mapped => (nomatch mapped), fun _ => ⟨error, rfl⟩⟩
    | some first =>
      rw [returned state item first called]
      obtain ⟨succeeds, fails⟩ := ih (apply state first)
      cases mapped : rest.mapM f with
      | none => exact ⟨fun _ impossible => (nomatch impossible), fun _ => fails mapped⟩
      | some others =>
        refine ⟨fun results same => ?_, fun impossible => nomatch impossible⟩
        obtain rfl : first :: others = results := Option.some.inj same
        exact succeeds others mapped

end AhsApp.Library
