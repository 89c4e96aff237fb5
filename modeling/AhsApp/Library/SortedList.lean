import Mathlib.Data.List.Perm.Basic
import Mathlib.Data.List.Nodup

/-! A list that keeps its items in the order of a comparison, as its users see it.
Where an item is put is left to the implementation; a comparison that throws gives
`none`, and so may the operation that called it. -/

namespace AhsApp.Library

variable {Item Key : Type}

/-- The operations, given the comparison and the identity of the items. -/
structure SortedList (Item : Type) where
  add : (Item → Item → Option Int) → (Item → Item → Bool) → List Item → Item →
    Option (List Item)
  recalculatePositionOfItemAt : (Item → Item → Option Int) → (Item → Item → Bool) →
    List Item → Nat → Option (List Item)

namespace SortedList

/-- Items are the same when their keys are. -/
def sameKey [DecidableEq Key] (key : Item → Key) (first second : Item) : Bool :=
  key first == key second

/-- An item whose key is not listed is inserted, and the only thing that can go wrong
is a comparison with a listed item; recalculating a position only moves the item. -/
structure Lawful (sorted : SortedList Item) : Prop where
  add_returns : ∀ {compare : Item → Item → Option Int} {same : Item → Item → Bool}
    {items : List Item} {item : Item}, (∀ old ∈ items, (compare old item).isSome) →
      ∃ next, sorted.add compare same items item = some next
  add_new : ∀ {compare : Item → Item → Option Int} {same : Item → Item → Bool}
    {items next : List Item} {item : Item}, (∀ old ∈ items, same old item = false) →
      sorted.add compare same items item = some next → next.Perm (item :: items)
  recalculate : ∀ {compare : Item → Item → Option Int} {same : Item → Item → Bool}
    {items next : List Item} {index : Nat},
      items.Pairwise (fun first second => same first second = false ∧ same second first = false) →
      sorted.recalculatePositionOfItemAt compare same items index = some next → next.Perm items

/-- Add the items one after another. -/
def addAll (sorted : SortedList Item) (compare : Item → Item → Option Int)
    (same : Item → Item → Bool) (items new : List Item) : Option (List Item) :=
  new.foldlM (sorted.add compare same) items

private theorem sameKey_eq_false [DecidableEq Key] {key : Item → Key} {first second : Item} :
    sameKey key first second = false ↔ key first ≠ key second := by
  simp [sameKey]

namespace Lawful

variable [DecidableEq Key] {sorted : SortedList Item} {compare : Item → Item → Option Int}
variable {key : Item → Key} {items new next : List Item}

theorem add_perm (lawful : sorted.Lawful) {item : Item} (fresh : key item ∉ items.map key)
    (added : sorted.add compare (sameKey key) items item = some next) :
    next.Perm (item :: items) := by
  refine lawful.add_new ?_ added
  intro old member
  refine sameKey_eq_false.mpr ?_
  intro same
  exact fresh (same ▸ List.mem_map_of_mem member)

private theorem add_step (lawful : sorted.Lawful) {item : Item} {rest : List Item}
    (distinct : (items.map key ++ (item :: rest).map key).Nodup)
    (added : sorted.add compare (sameKey key) items item = some next) :
    (next ++ rest).Perm (items ++ item :: rest) ∧ (next.map key ++ rest.map key).Nodup := by
  have fresh : key item ∉ items.map key := by
    intro member
    exact (List.nodup_append.mp distinct).2.2 _ member _ (by simp) rfl
  have moved : (next ++ rest).Perm (items ++ item :: rest) :=
    ((lawful.add_perm fresh added).append_right rest).trans List.perm_middle.symm
  refine ⟨moved, ?_⟩
  rw [← List.map_append, (moved.map key).nodup_iff, List.map_append]
  exact distinct

theorem addAll_perm (lawful : sorted.Lawful) (distinct : (items.map key ++ new.map key).Nodup)
    (added : sorted.addAll compare (sameKey key) items new = some next) :
    next.Perm (items ++ new) := by
  induction new generalizing items with
  | nil =>
    obtain rfl : items = next := Option.some.inj added
    rw [List.append_nil]
  | cons item rest ih =>
    simp only [addAll, List.foldlM_cons, Option.bind_eq_bind, Option.bind_eq_some_iff] at added
    obtain ⟨middle, inserted, added⟩ := added
    obtain ⟨moved, unique⟩ := lawful.add_step distinct inserted
    exact (ih unique added).trans moved

theorem addAll_returns (lawful : sorted.Lawful) (distinct : (items.map key ++ new.map key).Nodup)
    (comparable : ∀ first ∈ items ++ new, ∀ second ∈ items ++ new,
      (compare first second).isSome) :
    ∃ next, sorted.addAll compare (sameKey key) items new = some next := by
  induction new generalizing items with
  | nil => exact ⟨items, rfl⟩
  | cons item rest ih =>
    obtain ⟨middle, inserted⟩ : ∃ next, sorted.add compare (sameKey key) items item = some next :=
      lawful.add_returns fun old member =>
        comparable old (List.mem_append_left _ member) item (by simp)
    obtain ⟨moved, unique⟩ := lawful.add_step distinct inserted
    obtain ⟨next, added⟩ := ih unique fun first here second there =>
      comparable first (moved.mem_iff.mp here) second (moved.mem_iff.mp there)
    refine ⟨next, ?_⟩
    rw [addAll, List.foldlM_cons, inserted]
    exact added

theorem recalculate_perm (lawful : sorted.Lawful) {index : Nat} (distinct : (items.map key).Nodup)
    (moved : sorted.recalculatePositionOfItemAt compare (sameKey key) items index = some next) :
    next.Perm items := by
  refine lawful.recalculate ?_ moved
  refine (List.pairwise_map.mp distinct).imp ?_
  intro first second apart
  exact ⟨sameKey_eq_false.mpr apart, sameKey_eq_false.mpr apart.symm⟩

end Lawful

/-- Put the item before the first one that does not come before it. -/
def insertInOrder (compare : Item → Item → Option Int) (item : Item) :
    List Item → Option (List Item)
  | [] => some [item]
  | old :: rest => do
    let order ← compare old item
    if order < 0 then
      let inserted ← insertInOrder compare item rest
      some (old :: inserted)
    else some (item :: old :: rest)

/-- Linear insertion; a position is recalculated by removing the item and inserting it
again. -/
def linear : SortedList Item where
  add compare _ items item := insertInOrder compare item items
  recalculatePositionOfItemAt compare _ items index := do
    let item ← items[index]?
    insertInOrder compare item (items.eraseIdx index)

theorem insertInOrder_perm {compare : Item → Item → Option Int} {item : Item}
    (inserted : insertInOrder compare item items = some next) : next.Perm (item :: items) := by
  induction items generalizing next with
  | nil =>
    obtain rfl : [item] = next := Option.some.inj inserted
    exact List.Perm.refl _
  | cons old rest ih =>
    simp only [insertInOrder, Option.bind_eq_bind, Option.bind_eq_some_iff] at inserted
    obtain ⟨order, _, inserted⟩ := inserted
    split at inserted
    · obtain ⟨later, placed, result⟩ := Option.bind_eq_some_iff.mp inserted
      obtain rfl := Option.some.inj result
      exact ((ih placed).cons old).trans (List.Perm.swap item old rest)
    · obtain rfl := Option.some.inj inserted
      exact List.Perm.refl _

theorem insertInOrder_returns {compare : Item → Item → Option Int} {item : Item}
    (compared : ∀ old ∈ items, (compare old item).isSome) :
    ∃ next, insertInOrder compare item items = some next := by
  induction items with
  | nil => exact ⟨[item], rfl⟩
  | cons old rest ih =>
    obtain ⟨order, found⟩ := Option.isSome_iff_exists.mp (compared old (by simp))
    obtain ⟨later, placed⟩ := ih fun other member => compared other (by simp [member])
    simp only [insertInOrder, found, placed, Option.bind_eq_bind, Option.bind_some]
    split
    · exact ⟨_, rfl⟩
    · exact ⟨_, rfl⟩

theorem linear_lawful : (linear : SortedList Item).Lawful where
  add_returns := insertInOrder_returns
  add_new _ := insertInOrder_perm
  recalculate _ moved := by
    simp only [linear, Option.bind_eq_bind, Option.bind_eq_some_iff] at moved
    obtain ⟨item, found, inserted⟩ := moved
    obtain ⟨bound, rfl⟩ := List.getElem?_eq_some_iff.mp found
    exact (insertInOrder_perm inserted).trans (List.getElem_cons_eraseIdx_perm bound)

end SortedList

end AhsApp.Library
