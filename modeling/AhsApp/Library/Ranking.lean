import AhsApp.Library.SortedList
import Mathlib.Order.Lattice
import Mathlib.Order.RelClasses

/-! Three-way comparisons, which tell an order by a sign and may throw, here `none`. One
that has the signs of a linearly ordered key keeps the contract that sorting relies on. -/

namespace AhsApp.Library.Ranking

variable {Item Key : Type}

def Before (compare : Item → Item → Option Int) (first second : Item) : Prop :=
  ∃ order, compare first second = some order ∧ order < 0

def After (compare : Item → Item → Option Int) (first second : Item) : Prop :=
  ∃ order, compare first second = some order ∧ 0 < order

/-- The contract of a comparison, for the given items. -/
structure Consistent (compare : Item → Item → Option Int) (items : List Item) : Prop where
  returns : ∀ first ∈ items, ∀ second ∈ items, (compare first second).isSome
  reverse : ∀ first ∈ items, ∀ second ∈ items,
    Before compare first second ↔ After compare second first
  transitive : ∀ first ∈ items, ∀ second ∈ items, ∀ third ∈ items,
    After compare first second → After compare second third → After compare first third
  ties : ∀ first ∈ items, ∀ second ∈ items, compare first second = some 0 → ∀ third ∈ items,
    (Before compare first third ↔ Before compare second third) ∧
      (After compare first third ↔ After compare second third)

/-- Every comparison with a later item returns, and none says that it comes first. -/
def InOrder (compare : Item → Item → Option Int) (items : List Item) : Prop :=
  items.Pairwise fun first second => ∃ order, compare first second = some order ∧ order ≤ 0

/-- The comparison of the items has the sign of the comparison of their keys. -/
def Ranks [LinearOrder Key] (compare : Item → Item → Option Int) (key : Item → Key)
    (first second : Item) : Prop :=
  ∃ order, compare first second = some order ∧
    (order < 0 ↔ key first < key second) ∧ (0 < order ↔ key second < key first)

variable {compare : Item → Item → Option Int} {items rest : List Item} {first second third : Item}

section Keys

variable [LinearOrder Key] {key : Item → Key}

theorem Ranks.before_iff (ranks : Ranks compare key first second) :
    Before compare first second ↔ key first < key second := by
  obtain ⟨order, compared, below, _⟩ := ranks
  simp [Before, compared, below]

theorem Ranks.after_iff (ranks : Ranks compare key first second) :
    After compare first second ↔ key second < key first := by
  obtain ⟨order, compared, _, above⟩ := ranks
  simp [After, compared, above]

theorem Ranks.le_iff (ranks : Ranks compare key first second) :
    (∃ order, compare first second = some order ∧ order ≤ 0) ↔ key first ≤ key second := by
  obtain ⟨order, compared, _, above⟩ := ranks
  rw [← not_lt, ← above]
  simp [compared]

theorem Ranks.tie_iff (ranks : Ranks compare key first second) :
    compare first second = some 0 ↔ key first = key second := by
  obtain ⟨order, compared, below, above⟩ := ranks
  have keys : key first = key second ↔ ¬ order < 0 ∧ ¬ 0 < order := by
    rw [below, above, not_lt, not_lt]
    exact ⟨fun same => ⟨same.ge, same.le⟩, fun both => le_antisymm both.2 both.1⟩
  rw [keys, compared, Option.some.injEq]
  omega

/-- A list in the order of the comparison has its keys in order. -/
theorem inOrder_iff (ranks : ∀ first ∈ items, ∀ second ∈ items, Ranks compare key first second) :
    InOrder compare items ↔ (items.map key).Pairwise (· ≤ ·) := by
  rw [List.pairwise_map]
  exact List.Pairwise.iff_of_mem fun here there => (ranks _ here _ there).le_iff

end Keys

namespace Consistent

theorem subset (consistent : Consistent compare items) (within : rest ⊆ items) :
    Consistent compare rest where
  returns first here second there := consistent.returns first (within here) second (within there)
  reverse first here second there := consistent.reverse first (within here) second (within there)
  transitive first here second there third beyond :=
    consistent.transitive first (within here) second (within there) third (within beyond)
  ties first here second there tied third beyond :=
    consistent.ties first (within here) second (within there) tied third (within beyond)

private theorem not_after_iff (consistent : Consistent compare items) (here : first ∈ items)
    (there : second ∈ items) :
    ¬ After compare first second ↔ ∃ order, compare first second = some order ∧ order ≤ 0 := by
  obtain ⟨order, compared⟩ :=
    Option.isSome_iff_exists.mp (consistent.returns first here second there)
  simp [After, compared]

private theorem not_after_cases (consistent : Consistent compare items) (here : first ∈ items)
    (there : second ∈ items) (upTo : ¬ After compare first second) :
    Before compare first second ∨ compare first second = some 0 := by
  obtain ⟨order, compared, sign⟩ := (consistent.not_after_iff here there).mp upTo
  rcases Int.lt_or_eq_of_le sign with negative | rfl
  · exact .inl ⟨order, compared, negative⟩
  · exact .inr compared

private theorem asymm (consistent : Consistent compare items) (here : first ∈ items)
    (there : second ∈ items) (after : After compare first second) :
    ¬ After compare second first := by
  intro back
  obtain ⟨order, compared, negative⟩ := (consistent.reverse first here second there).mpr back
  obtain ⟨other, compared', positive⟩ := after
  rw [compared] at compared'
  obtain rfl := Option.some.inj compared'
  omega

/-- What is not after a second item that is not after a third is not after the third. -/
theorem trans (consistent : Consistent compare items) (here : first ∈ items)
    (there : second ∈ items) (beyond : third ∈ items) (left : ¬ After compare first second)
    (right : ¬ After compare second third) : ¬ After compare first third := by
  intro after
  rcases consistent.not_after_cases here there left with before | tied
  · have back := (consistent.reverse first here second there).mp before
    rcases consistent.not_after_cases there beyond right with before' | tied'
    · have back' := (consistent.reverse second there third beyond).mp before'
      exact consistent.asymm here beyond after
        (consistent.transitive third beyond second there first here back' back)
    · have moved := (consistent.ties second there third beyond tied' first here).2.mp back
      exact consistent.asymm here beyond after moved
  · exact right ((consistent.ties first here second there tied third beyond).2.mp after)

theorem of_ranks [LinearOrder Key] {key : Item → Key}
    (ranks : ∀ first ∈ items, ∀ second ∈ items, Ranks compare key first second) :
    Consistent compare items := by
  constructor
  · intro first here second there
    obtain ⟨order, compared, _⟩ := ranks first here second there
    simp [compared]
  · intro first here second there
    rw [(ranks first here second there).before_iff, (ranks second there first here).after_iff]
  · intro first here second there third beyond
    rw [(ranks first here second there).after_iff, (ranks second there third beyond).after_iff,
      (ranks first here third beyond).after_iff]
    exact fun left right => right.trans left
  · intro first here second there tied third beyond
    have same : key first = key second := (ranks first here second there).tie_iff.mp tied
    rw [(ranks first here third beyond).before_iff, (ranks second there third beyond).before_iff,
      (ranks first here third beyond).after_iff, (ranks second there third beyond).after_iff, same]
    exact ⟨Iff.rfl, Iff.rfl⟩

end Consistent

/-- A sort that is given the comparison; it may throw when it finds the contract broken. -/
structure ListSort (Item : Type) where
  sort : (Item → Item → Option Int) → List Item → Option (List Item)

/-- Under the contract the items are returned in order. -/
def ListSort.Lawful (sorting : ListSort Item) : Prop :=
  ∀ {compare : Item → Item → Option Int} {items : List Item}, Consistent compare items →
    ∃ sorted, sorting.sort compare items = some sorted ∧ sorted.Perm items ∧
      InOrder compare sorted

/-- Whatever the comparison says, items that are returned are those that were given. -/
def ListSort.Permutes (sorting : ListSort Item) : Prop :=
  ∀ {compare : Item → Item → Option Int} {items sorted : List Item},
    sorting.sort compare items = some sorted → sorted.Perm items

/-- Insertion sort. -/
def ListSort.insertion : ListSort Item where
  sort compare items := items.foldrM (SortedList.insertInOrder compare) []

private theorem insertInOrder_inOrder {next : List Item}
    (consistent : Consistent compare (first :: items))
    (ordered : InOrder compare items)
    (inserted : SortedList.insertInOrder compare first items = some next) :
    InOrder compare next := by
  induction items generalizing next with
  | nil =>
    obtain rfl : [first] = next := Option.some.inj inserted
    exact List.pairwise_singleton _ _
  | cons old rest ih =>
    obtain ⟨above, ordered⟩ := List.pairwise_cons.mp ordered
    obtain ⟨order, compared, inserted⟩ := Option.bind_eq_some_iff.mp inserted
    have here : first ∈ first :: old :: rest := by simp
    have there : old ∈ first :: old :: rest := by simp
    split at inserted
    · rename_i negative
      obtain ⟨later, placed, result⟩ := Option.bind_eq_some_iff.mp inserted
      obtain rfl := Option.some.inj result
      have within : first :: rest ⊆ first :: old :: rest := by grind
      refine List.pairwise_cons.mpr ⟨?_, ih (consistent.subset within) ordered placed⟩
      intro other member
      rcases List.mem_cons.mp ((SortedList.insertInOrder_perm placed).mem_iff.mp member) with
        rfl | member
      · exact ⟨order, compared, Int.le_of_lt negative⟩
      · exact above other member
    · rename_i notBefore
      obtain rfl := Option.some.inj inserted
      have upTo : ¬ After compare first old := by
        intro after
        obtain ⟨other, compared', negative⟩ :=
          (consistent.reverse old there first here).mpr after
        rw [compared] at compared'
        exact notBefore (Option.some.inj compared' ▸ negative)
      refine List.pairwise_cons.mpr ⟨?_, List.pairwise_cons.mpr ⟨above, ordered⟩⟩
      intro other member
      have beyond : other ∈ first :: old :: rest := List.mem_cons_of_mem _ member
      refine (consistent.not_after_iff here beyond).mp ?_
      rcases List.mem_cons.mp member with rfl | member
      · exact upTo
      · exact consistent.trans here there beyond upTo
          ((consistent.not_after_iff there beyond).mpr (above other member))

theorem insertion_lawful : (ListSort.insertion : ListSort Item).Lawful := by
  intro compare items consistent
  induction items with
  | nil => exact ⟨[], rfl, .nil, List.Pairwise.nil⟩
  | cons first rest ih =>
    obtain ⟨sorted, returned, perm, ordered⟩ :=
      ih (consistent.subset (List.subset_cons_self first rest))
    have within : first :: sorted ⊆ first :: rest := (perm.cons first).subset
    obtain ⟨next, inserted⟩ : ∃ next, SortedList.insertInOrder compare first sorted = some next :=
      SortedList.insertInOrder_returns fun old member => consistent.returns old
        (within (List.mem_cons_of_mem _ member)) first (within List.mem_cons_self)
    refine ⟨next, ?_, (SortedList.insertInOrder_perm inserted).trans (perm.cons first),
      insertInOrder_inOrder (consistent.subset within) ordered inserted⟩
    have sorts : rest.foldrM (SortedList.insertInOrder compare) [] = some sorted := returned
    simp only [ListSort.insertion, List.foldrM_cons, sorts, Option.bind_eq_bind, Option.bind_some]
    exact inserted

theorem insertion_permutes : (ListSort.insertion : ListSort Item).Permutes := by
  intro compare items sorted returned
  induction items generalizing sorted with
  | nil =>
    obtain rfl : [] = sorted := Option.some.inj returned
    exact .nil
  | cons first rest ih =>
    simp only [ListSort.insertion, List.foldrM_cons] at returned
    obtain ⟨later, sorts, inserted⟩ := Option.bind_eq_some_iff.mp returned
    exact (SortedList.insertInOrder_perm inserted).trans ((ih sorts).cons first)

end AhsApp.Library.Ranking
