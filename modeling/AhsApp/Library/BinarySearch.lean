import AhsApp.Library.Ranking

/-! Sorted lists that put an item where a binary search finds its place. The comparison may
have changed since the list was built: the items that stay in place are then in order after
the operation exactly if they were before it. -/

namespace AhsApp.Library

open Ranking

variable {Item Key : Type}

/-- A binary search for the item, begun between two positions, can end at an index. Which
item it looks at next is left open, as is which of several ties it settles for. -/
inductive Found (compare : Item → Item → Option Int) (items : List Item) (item : Item) :
    Nat → Nat → Nat → Prop
  | done (index : Nat) : Found compare items item index index index
  | right {left right middle index : Nat} {old : Item} : items[middle]? = some old →
      left ≤ middle → middle < right → Before compare old item →
      Found compare items item (middle + 1) right index → Found compare items item left right index
  | left {left right middle index : Nat} {old : Item} : items[middle]? = some old →
      left ≤ middle → middle < right → After compare old item →
      Found compare items item left middle index → Found compare items item left right index
  | tie {left right index : Nat} {old : Item} : items[index]? = some old →
      left ≤ index → index < right → compare old item = some 0 →
      Found compare items item left right index

/-- The item is inserted where a search ends, or replaces the same item there. -/
def Placed (compare : Item → Item → Option Int) (same : Item → Item → Bool) (items : List Item)
    (item : Item) (next : List Item) : Prop :=
  ∃ index, Found compare items item 0 items.length index ∧
    (next = items.take index ++ item :: items.drop index ∨
      ∃ old, items[index]? = some old ∧ same old item = true ∧ compare old item = some 0 ∧
        next = items.set index item)

/-- Adding searches for the place of an item, and recalculating moves only the item at the
position, to the place that a search in the others finds for it. -/
structure SortedList.Searches (sorted : SortedList Item) : Prop where
  add : ∀ {compare : Item → Item → Option Int} {same : Item → Item → Bool}
    {items next : List Item} {item : Item},
      sorted.add compare same items item = some next → Placed compare same items item next
  recalculate : ∀ {compare : Item → Item → Option Int} {same : Item → Item → Bool}
    {items next : List Item} {index : Nat},
      sorted.recalculatePositionOfItemAt compare same items index = some next →
      ∃ item, items[index]? = some item ∧ Placed compare same (items.eraseIdx index) item next

section Keys

variable [LinearOrder Key] {key : Item → Key} {compare : Item → Item → Option Int}
variable {same : Item → Item → Bool} {items next : List Item} {item old : Item}
variable {left right index middle : Nat}

private theorem separates_of_sorted (ordered : (items.map key).Pairwise (· ≤ ·))
    (here : items[middle]? = some old) :
    (∀ other ∈ items.take (middle + 1), key other ≤ key old) ∧
      ∀ other ∈ items.drop middle, key old ≤ key other := by
  obtain ⟨bound, rfl⟩ := List.getElem?_eq_some_iff.mp here
  rw [List.pairwise_map] at ordered
  have parts : (items.take middle ++ items[middle] :: items.drop (middle + 1)).Pairwise
      fun first second => key first ≤ key second := by
    rwa [← List.drop_eq_getElem_cons bound, List.take_append_drop]
  obtain ⟨_, later, across⟩ := List.pairwise_append.mp parts
  refine ⟨fun other member => ?_, fun other member => ?_⟩
  · rw [List.take_succ_eq_append_getElem bound] at member
    rcases List.mem_append.mp member with before | last
    · exact across other before _ List.mem_cons_self
    · exact (congrArg key (List.mem_singleton.mp last)).le
  · rw [List.drop_eq_getElem_cons bound] at member
    rcases List.mem_cons.mp member with rfl | after
    · exact le_rfl
    · exact (List.pairwise_cons.mp later).1 other after

/-- In a sorted list nothing before the end of the search belongs after the item, and nothing
from there on belongs before it. -/
theorem Found.separates (ranks : ∀ old ∈ items, Ranks compare key old item)
    (ordered : (items.map key).Pairwise (· ≤ ·))
    (found : Found compare items item left right index)
    (below : ∀ old ∈ items.take left, key old ≤ key item)
    (above : ∀ old ∈ items.drop right, key item ≤ key old) :
    (∀ old ∈ items.take index, key old ≤ key item) ∧
      ∀ old ∈ items.drop index, key item ≤ key old := by
  induction found with
  | done index => exact ⟨below, above⟩
  | @right left right middle index old here lower upper before _ ih =>
    have less : key old < key item :=
      (ranks old (List.mem_of_getElem? here)).before_iff.mp before
    refine ih (fun earlier member => ?_) above
    exact ((separates_of_sorted ordered here).1 earlier member).trans less.le
  | @left left right middle index old here lower upper after _ ih =>
    have greater : key item < key old :=
      (ranks old (List.mem_of_getElem? here)).after_iff.mp after
    refine ih below fun later member => ?_
    exact greater.le.trans ((separates_of_sorted ordered here).2 later member)
  | @tie left right index old here lower upper tied =>
    have keys : key old = key item := (ranks old (List.mem_of_getElem? here)).tie_iff.mp tied
    obtain ⟨earlier, later⟩ := separates_of_sorted ordered here
    refine ⟨fun other member => ?_, fun other member => ?_⟩
    · exact keys ▸ earlier other (List.take_subset_take_left items (Nat.le_succ index) member)
    · exact keys ▸ later other member

/-- Placing an item leaves a list sorted exactly if it was. -/
theorem Placed.sorted_iff (ranks : ∀ old ∈ items, Ranks compare key old item)
    (placed : Placed compare same items item next) :
    (next.map key).Pairwise (· ≤ ·) ↔ (items.map key).Pairwise (· ≤ ·) := by
  obtain ⟨index, found, rfl | ⟨old, here, _, tied, rfl⟩⟩ := placed
  · constructor
    · intro ordered
      refine ordered.sublist (List.Sublist.map key ?_)
      have grown : (items.take index ++ items.drop index).Sublist
          (items.take index ++ item :: items.drop index) :=
        (List.Sublist.refl _).append (List.sublist_cons_self _ _)
      rwa [List.take_append_drop] at grown
    · intro ordered
      obtain ⟨below, above⟩ := found.separates ranks ordered (by simp) (by simp)
      rw [List.pairwise_map] at ordered ⊢
      rw [← List.take_append_drop index items] at ordered
      obtain ⟨first, second, across⟩ := List.pairwise_append.mp ordered
      refine List.pairwise_append.mpr ⟨first, List.pairwise_cons.mpr ⟨above, second⟩, ?_⟩
      intro earlier member later beyond
      rcases List.mem_cons.mp beyond with rfl | beyond
      · exact below earlier member
      · exact across earlier member later beyond
  · have keys : key old = key item := (ranks old (List.mem_of_getElem? here)).tie_iff.mp tied
    obtain ⟨bound, rfl⟩ := List.getElem?_eq_some_iff.mp here
    have replaced : (items.set index item).map key = items.map key := by
      rw [List.map_set, ← keys, ← List.map_set, List.set_getElem_self]
    rw [replaced]

theorem Placed.subset (placed : Placed compare same items item next) : next ⊆ item :: items := by
  intro other member
  obtain ⟨index, _, rfl | ⟨_, _, _, _, rfl⟩⟩ := placed
  · rw [List.mem_append, List.mem_cons] at member
    rcases member with before | rfl | after
    · exact List.mem_cons_of_mem _ (List.mem_of_mem_take before)
    · exact List.mem_cons_self
    · exact List.mem_cons_of_mem _ (List.mem_of_mem_drop after)
  · rcases List.mem_or_eq_of_mem_set member with listed | rfl
    · exact List.mem_cons_of_mem _ listed
    · exact List.mem_cons_self

variable {sorted : SortedList Item} {new : List Item}

/-- Additions keep a list sorted when the comparisons with what is listed follow the keys. -/
theorem SortedList.Searches.addAll_sorted (searches : sorted.Searches)
    (listed : ∀ old ∈ items, ∀ item ∈ new, Ranks compare key old item)
    (among : new.Pairwise (Ranks compare key)) (ordered : (items.map key).Pairwise (· ≤ ·))
    (added : sorted.addAll compare same items new = some next) :
    (next.map key).Pairwise (· ≤ ·) := by
  induction new generalizing items with
  | nil => exact Option.some.inj added ▸ ordered
  | cons item rest ih =>
    simp only [SortedList.addAll, List.foldlM_cons, Option.bind_eq_bind,
      Option.bind_eq_some_iff] at added
    obtain ⟨middle, inserted, added⟩ := added
    obtain ⟨first, later⟩ := List.pairwise_cons.mp among
    have placed := searches.add inserted
    refine ih (fun old member other there => ?_) later ?_ added
    · rcases List.mem_cons.mp (placed.subset member) with rfl | before
      · exact first other there
      · exact listed old before other (List.mem_cons_of_mem _ there)
    · exact (placed.sorted_iff fun old member => listed old member item List.mem_cons_self).mpr
        ordered

theorem SortedList.Searches.recalculate_sorted (searches : sorted.Searches)
    (among : items.Pairwise fun first second =>
      Ranks compare key first second ∧ Ranks compare key second first)
    (ordered : (items.map key).Pairwise (· ≤ ·))
    (moved : sorted.recalculatePositionOfItemAt compare same items index = some next) :
    (next.map key).Pairwise (· ≤ ·) := by
  obtain ⟨item, here, placed⟩ := searches.recalculate moved
  obtain ⟨bound, rfl⟩ := List.getElem?_eq_some_iff.mp here
  have apart := List.pairwise_cons.mp
    (among.perm (List.getElem_cons_eraseIdx_perm bound).symm fun both => both.symm)
  refine (placed.sorted_iff fun old member => (apart.1 old member).2).mpr ?_
  exact ordered.sublist ((List.eraseIdx_sublist items index).map key)

end Keys

namespace SortedList

/-- The search, which halves the interval and takes the first tie it meets. -/
def findIndexOf (compare : Item → Item → Option Int) (items : List Item) (item : Item) :
    Nat → Nat → Nat → Option Nat
  | 0, left, _ => some left
  | steps + 1, left, right =>
    if left < right then do
      let middle := (left + right) / 2
      let old ← items[middle]?
      let order ← compare old item
      if order < 0 then findIndexOf compare items item steps (middle + 1) right
      else if order = 0 then some middle
      else findIndexOf compare items item steps left middle
    else some left

def place (compare : Item → Item → Option Int) (same : Item → Item → Bool) (items : List Item)
    (item : Item) : Option (List Item) := do
  let index ← findIndexOf compare items item items.length 0 items.length
  let replaces := items[index]?.any fun old => same old item && compare old item == some 0
  some (if replaces then items.set index item else items.take index ++ item :: items.drop index)

def binary : SortedList Item where
  add := place
  recalculatePositionOfItemAt compare same items index := do
    let item ← items[index]?
    place compare same (items.eraseIdx index) item

private theorem findIndexOf_found {compare : Item → Item → Option Int} {items : List Item}
    {item : Item}
    {steps left right index : Nat} (upTo : left ≤ right) (enough : right ≤ left + steps)
    (ended : findIndexOf compare items item steps left right = some index) :
    Found compare items item left right index := by
  induction steps generalizing left right with
  | zero =>
    obtain rfl : left = index := Option.some.inj ended
    obtain rfl : left = right := by omega
    exact .done left
  | succ steps ih =>
    rw [findIndexOf] at ended
    split at ended
    · rename_i inside
      simp only [Option.bind_eq_bind, Option.bind_eq_some_iff] at ended
      obtain ⟨old, here, order, compared, ended⟩ := ended
      split at ended
      · rename_i negative
        exact .right here (by omega) (by omega) ⟨order, compared, negative⟩
          (ih (by omega) (by omega) ended)
      · split at ended
        · rename_i zero
          obtain rfl := Option.some.inj ended
          exact .tie here (by omega) (by omega) (zero ▸ compared)
        · exact .left here (by omega) (by omega) ⟨order, compared, by omega⟩
            (ih (by omega) (by omega) ended)
    · obtain rfl := Option.some.inj ended
      obtain rfl : left = right := by omega
      exact .done left

private theorem place_placed {compare : Item → Item → Option Int} {same : Item → Item → Bool}
    {items next : List Item} {item : Item} (placed : place compare same items item = some next) :
    Placed compare same items item next := by
  obtain ⟨index, ended, result⟩ := Option.bind_eq_some_iff.mp placed
  refine ⟨index, findIndexOf_found (Nat.zero_le _) (by omega) ended, ?_⟩
  obtain rfl := Option.some.inj result
  split
  · rename_i replaces
    obtain ⟨old, here, tests⟩ := (Option.any_eq_true _ _).mp replaces
    obtain ⟨same, tied⟩ := Bool.and_eq_true_iff.mp tests
    exact .inr ⟨old, here, same, eq_of_beq tied, rfl⟩
  · exact .inl rfl

theorem binary_searches : (binary : SortedList Item).Searches where
  add := place_placed
  recalculate moved := by
    obtain ⟨item, here, placed⟩ := Option.bind_eq_some_iff.mp moved
    exact ⟨item, here, place_placed placed⟩

private theorem findIndexOf_returns {compare : Item → Item → Option Int} {items : List Item}
    {item : Item}
    (compared : ∀ old ∈ items, (compare old item).isSome) {steps left right : Nat}
    (within : right ≤ items.length) :
    ∃ index, findIndexOf compare items item steps left right = some index := by
  induction steps generalizing left right with
  | zero => exact ⟨left, rfl⟩
  | succ steps ih =>
    rw [findIndexOf]
    split
    · rename_i inside
      have bound : (left + right) / 2 < items.length := by omega
      have here : items[(left + right) / 2]? = some items[(left + right) / 2] :=
        List.getElem?_eq_getElem bound
      obtain ⟨order, found⟩ := Option.isSome_iff_exists.mp (compared _ (List.mem_of_getElem? here))
      simp only [here, found, Option.bind_eq_bind, Option.bind_some]
      split
      · exact ih within
      · split
        · exact ⟨_, rfl⟩
        · exact ih bound.le
    · exact ⟨left, rfl⟩

private theorem place_perm {compare : Item → Item → Option Int} {same : Item → Item → Bool}
    {items next : List Item} {item : Item} (apart : ∀ old ∈ items, same old item = false)
    (placed : place compare same items item = some next) : next.Perm (item :: items) := by
  obtain ⟨index, _, rfl | ⟨old, here, same, _⟩⟩ := place_placed placed
  · refine List.perm_middle.trans ?_
    rw [List.take_append_drop]
  · rw [apart old (List.mem_of_getElem? here)] at same
    exact absurd same Bool.false_ne_true

theorem binary_lawful : (binary : SortedList Item).Lawful where
  add_returns compared := by
    obtain ⟨index, found⟩ := findIndexOf_returns compared le_rfl
    exact ⟨_, Option.bind_eq_some_iff.mpr ⟨index, found, rfl⟩⟩
  add_new := place_perm
  recalculate distinct moved := by
    obtain ⟨item, here, placed⟩ := Option.bind_eq_some_iff.mp moved
    obtain ⟨bound, rfl⟩ := List.getElem?_eq_some_iff.mp here
    have others := List.getElem_cons_eraseIdx_perm bound
    have apart := List.pairwise_cons.mp (distinct.perm others.symm fun both => both.symm)
    exact (place_perm (fun old member => (apart.1 old member).2) placed).trans others

end SortedList

end AhsApp.Library
