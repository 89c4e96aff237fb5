import Mathlib.Data.List.Basic

/-! A dictionary of marks kept in memory together with its saved copy. Saving
prunes the copy to a list of known keys; loading puts the copy back in memory. -/

namespace AhsApp.Library

universe u
variable {Key : Type u}

/-- A dictionary from keys to flags; absent keys have no flag. -/
abbrev Marks (Key : Type u) := Key → Option Bool

/-- The entries whose key is listed, all with the flag `true`. -/
def Marks.prune [DecidableEq Key] (listed : List Key) (marks : Marks Key) : Marks Key :=
  fun key => if key ∈ listed then (marks key).map fun _ => true else none

theorem Marks.prune_true [DecidableEq Key] {listed : List Key} {marks : Marks Key} {key : Key}
    (present : marks.prune listed key ≠ none) : marks.prune listed key = some true := by
  by_cases member : key ∈ listed
  · cases entry : marks key with
    | none => simp [Marks.prune, entry] at present
    | some flag => simp [Marks.prune, member, entry]
  · simp [Marks.prune, member] at present

def Marks.ofKeys [DecidableEq Key] (keys : List Key) : Marks Key :=
  fun key => if key ∈ keys then some true else none

structure MarkStore (Key : Type u) where
  memory : Marks Key
  saved : Option (Marks Key)

namespace MarkStore

/-- A new process: nothing in memory, the copy an earlier process saved. -/
def launch [DecidableEq Key] (keys : Option (List Key)) : MarkStore Key :=
  ⟨fun _ => none, keys.map Marks.ofKeys⟩

def mark [DecidableEq Key] (key : Key) (store : MarkStore Key) : MarkStore Key :=
  { store with memory := fun other => if other = key then some true else store.memory other }

def save [DecidableEq Key] (listed : List Key) (store : MarkStore Key) : MarkStore Key :=
  { store with saved := some (store.memory.prune listed) }

def saveAll (store : MarkStore Key) : MarkStore Key :=
  { store with saved := some store.memory }

/-- Without a saved copy the memory stays as it is. -/
def load (store : MarkStore Key) : MarkStore Key :=
  { store with memory := store.saved.getD store.memory }

@[simp] theorem load_load (store : MarkStore Key) : store.load.load = store.load := by
  obtain ⟨memory, saved⟩ := store
  cases saved <;> rfl

/-- The key is marked in memory and in the saved copy. -/
def Kept (store : MarkStore Key) (key : Key) : Prop :=
  store.memory key = some true ∧ ∃ saved, store.saved = some saved ∧ saved key = some true

theorem Kept.load {store : MarkStore Key} {key : Key} (kept : store.Kept key) :
    store.load.Kept key := by
  obtain ⟨_, saved, present, marked⟩ := kept
  exact ⟨by simp [MarkStore.load, present, marked], saved, present, marked⟩

/-- Saving keeps exactly the marks whose key is listed. -/
theorem kept_save_iff [DecidableEq Key] {listed : List Key} {store : MarkStore Key} {key : Key}
    (marked : store.memory key = some true) : (store.save listed).Kept key ↔ key ∈ listed := by
  simp [Kept, save, Marks.prune, marked]

/-- So does saving and loading back. -/
theorem kept_save_load_iff [DecidableEq Key] {listed : List Key} {store : MarkStore Key}
    {key : Key} (marked : store.memory key = some true) :
    (store.save listed).load.Kept key ↔ key ∈ listed := by
  simp [Kept, load, save, Marks.prune, marked]

@[simp] theorem mark_self [DecidableEq Key] (key : Key) (store : MarkStore Key) :
    (store.mark key).memory key = some true := by
  simp [mark]

theorem mark_of_marked [DecidableEq Key] {store : MarkStore Key} {key : Key} (other : Key)
    (marked : store.memory key = some true) : (store.mark other).memory key = some true := by
  simp [mark, marked]

/-- Marking another key and saving everything keeps the key. -/
theorem Kept.mark_saveAll [DecidableEq Key] {store : MarkStore Key} {key : Key}
    (kept : store.Kept key) (other : Key) : (store.mark other).saveAll.Kept key :=
  ⟨mark_of_marked other kept.1, _, rfl, mark_of_marked other kept.1⟩

/-- One store has the marks of the other, and one key marked besides. -/
def AheadAt (key : Key) (ahead behind : MarkStore Key) : Prop :=
  ∀ other, ahead.memory other = behind.memory other ∨
    other = key ∧ ahead.memory other = some true

theorem AheadAt.mark_saveAll [DecidableEq Key] (key : Key) (store : MarkStore Key) :
    AheadAt key (store.mark key).saveAll store := by
  intro other
  by_cases same : other = key
  · subst same
    exact .inr ⟨rfl, mark_self other store⟩
  · simp [mark, saveAll, same]

/-- What is saved of a key that is listed is its mark. -/
theorem mark_save_load_memory [DecidableEq Key] (key : Key) (listed : List Key)
    (store : MarkStore Key) (other : Key) :
    ((store.mark key).save listed).load.memory other =
      if other ∈ listed then (if other = key then some true else store.memory other).map
        fun _ => true else none := rfl

theorem AheadAt.mark_save_load [DecidableEq Key] {key : Key} {ahead behind : MarkStore Key}
    (aheadAt : AheadAt key ahead behind) (tapped : Key) (listed : List Key) :
    AheadAt key ((ahead.mark tapped).save listed).load ((behind.mark tapped).save listed).load := by
  intro other
  rw [mark_save_load_memory, mark_save_load_memory]
  rcases aheadAt other with same | ⟨rfl, marked⟩
  · exact .inl (by rw [same])
  · by_cases member : other ∈ listed
    · exact .inr ⟨rfl, by simp [member, marked]⟩
    · exact .inl (by simp [member])

theorem mark_save_load_marked [DecidableEq Key] {key other : Key} {listed : List Key}
    {store : MarkStore Key} (marked : store.memory other = some true) :
    ((store.mark key).save listed).load.memory other = some true ↔ other ∈ listed := by
  simp [mark_save_load_memory, marked]

/-- What holds between loads for a screen that lists `listed`: the memory of a
listed key agrees with the saved copy, and only `true` is ever saved. -/
structure Valid (listed : List Key) (store : MarkStore Key) : Prop where
  fresh : store.saved = none → ∀ key, store.memory key = none
  truthful : ∀ saved, store.saved = some saved → ∀ key, saved key ≠ none → saved key = some true
  synced : ∀ key ∈ listed, store.memory key ≠ none → store.Kept key

theorem Valid.launch [DecidableEq Key] (keys : Option (List Key)) :
    Valid [] (MarkStore.launch keys) where
  fresh _ _ := rfl
  truthful saved present key := by
    cases keys with
    | none => simp [MarkStore.launch] at present
    | some keys =>
      simp only [MarkStore.launch, Option.map_some, Option.some.injEq] at present
      subst present
      simp [Marks.ofKeys]
  synced key member := by simp at member

theorem Valid.load {listed : List Key} {store : MarkStore Key} (valid : store.Valid listed)
    (listed' : List Key) : store.load.Valid listed' where
  fresh absent key := by
    have empty : store.saved = none := absent
    simp [MarkStore.load, empty, valid.fresh empty key]
  truthful := valid.truthful
  synced key _ present := by
    cases copy : store.saved with
    | none => simp [MarkStore.load, copy, valid.fresh copy key] at present
    | some saved =>
      have loaded : store.load.memory key = saved key := by simp [MarkStore.load, copy]
      have marked := valid.truthful saved copy key (loaded ▸ present)
      exact ⟨loaded.trans marked, saved, copy, marked⟩

theorem Valid.mark_save [DecidableEq Key] {listed : List Key} {store : MarkStore Key}
    (valid : store.Valid listed) (key : Key) : ((store.mark key).save listed).Valid listed where
  fresh absent := by simp [save] at absent
  truthful saved present other := by
    simp only [save, Option.some.injEq] at present
    subst present
    exact Marks.prune_true
  synced other member present := by
    refine (kept_save_iff ?_).mpr member
    by_cases same : other = key
    · exact same ▸ mark_self key store
    · have before : store.memory other ≠ none := by simpa [save, mark, same] using present
      exact mark_of_marked key (valid.synced other member before).1

end MarkStore

end AhsApp.Library
