import Mathlib.Data.List.Sort

/-! Sorting by a key. A stable sort leaves the items of one key in the order in which they
came, and this and the order of the keys determine the sorted list. -/

namespace AhsApp.Library

universe u v

variable {Item : Type u} {Key : Type v} [LinearOrder Key]

theorem rel_or_of_pairwise {related : Item → Item → Prop} {items : List Item}
    (ordered : items.Pairwise related) {first second : Item} (here : first ∈ items)
    (there : second ∈ items) : first = second ∨ related first second ∨ related second first := by
  have either : items.Pairwise fun a b => a = b ∨ related a b ∨ related b a :=
    ordered.imp fun upTo => .inr (.inl upTo)
  refine List.Pairwise.forall_of_forall_of_flip (fun _ _ => .inl rfl) either ?_ here there
  exact ordered.imp fun upTo => Or.inr (Or.inr upTo)

theorem isStrictWeakOrder_of_key {before : Item → Item → Prop} {key : Item → Key}
    (compares : ∀ first second, before first second ↔ key first < key second) :
    IsStrictWeakOrder Item before where
  irrefl item less := lt_irrefl _ ((compares item item).mp less)
  trans first second third here there :=
    (compares first third).mpr (((compares first second).mp here).trans
      ((compares second third).mp there))
  incomp_trans first second third here there := by
    simp only [compares, not_lt] at here there ⊢
    exact ⟨there.1.trans here.1, here.2.trans there.2⟩

theorem filter_eq_of_alike {Label : Type*} {Group : Type*} [DecidableEq Label] [DecidableEq Group]
    {label : Item → Label} {group : Item → Group} {left right : List Item}
    (alike : ∀ first second, label first = label second ↔ group first = group second)
    (same : ∀ value, left.filter (group · = value) = right.filter (group · = value))
    (value : Label) : left.filter (label · = value) = right.filter (label · = value) := by
  by_cases carried : ∃ item, label item = value
  · obtain ⟨item, rfl⟩ := carried
    simpa only [alike] using same (group item)
  · have absent : ∀ item, ¬ label item = value := fun item here => carried ⟨item, here⟩
    simp [absent]

/-- A relation that lets the item with the smaller key come first, and ties in any order. -/
def SortsBy (upTo : Item → Item → Prop) (key : Item → Key) : Prop :=
  ∀ first second, upTo first second ↔ key first ≤ key second

namespace SortsBy

variable {upTo : Item → Item → Prop} [DecidableRel upTo] {key : Item → Key}
variable {items left right : List Item}

theorem sorted (sorts : SortsBy upTo key) (items : List Item) :
    (items.insertionSort upTo).Pairwise upTo := by
  have total : Std.Total upTo := ⟨fun first second => by
    rw [sorts first second, sorts second first]
    exact le_total _ _⟩
  have trans : IsTrans Item upTo := ⟨fun first second third here there => by
    rw [sorts] at here there ⊢
    exact here.trans there⟩
  exact List.pairwise_insertionSort upTo items

/-- The items of one key stay in the order in which they came. -/
theorem stable (sorts : SortsBy upTo key) (items : List Item) (value : Key) :
    (items.insertionSort upTo).filter (key · = value) = items.filter (key · = value) := by
  have tied : (items.filter (key · = value)).Pairwise upTo := by
    refine List.pairwise_of_forall_mem_list fun first here second there => ?_
    have firstKey : key first = value := by simpa using List.of_mem_filter here
    have secondKey : key second = value := by simpa using List.of_mem_filter there
    exact (sorts first second).mpr (firstKey.trans secondKey.symm).le
  have kept : (items.filter (key · = value)).Sublist (items.insertionSort upTo) :=
    List.sublist_insertionSort tied List.filter_sublist
  have within := kept.filter (fun item => key item = value)
  rw [List.filter_filter] at within
  simp only [Bool.and_self] at within
  exact (within.eq_of_length ((List.perm_insertionSort upTo items).filter _).length_eq.symm).symm

omit [DecidableRel upTo] in
private theorem head_le (sorts : SortsBy upTo key) {first item : Item} {rest : List Item}
    (ordered : (first :: rest).Pairwise upTo)
    (same : ∀ value, (first :: rest).filter (key · = value) = right.filter (key · = value))
    (member : item ∈ right) : key first ≤ key item := by
  have kept : item ∈ (first :: rest).filter (key · = key item) := by
    rw [same]
    exact List.mem_filter.mpr ⟨member, decide_eq_true rfl⟩
  rcases List.mem_cons.mp (List.mem_of_mem_filter kept) with rfl | later
  · exact le_rfl
  · exact (sorts first item).mp ((List.pairwise_cons.mp ordered).1 item later)

omit [DecidableRel upTo] in
/-- Sorted lists with the same items of each key, in the same order, are the same. -/
theorem eq_of_filter_eq (sorts : SortsBy upTo key) (ordered : left.Pairwise upTo)
    (ordered' : right.Pairwise upTo)
    (same : ∀ value, left.filter (key · = value) = right.filter (key · = value)) :
    left = right := by
  induction left generalizing right with
  | nil =>
    cases right with
    | nil => rfl
    | cons head rest => simpa using same (key head)
  | cons first rest ih =>
    cases right with
    | nil => simpa using same (key first)
    | cons head others =>
      have least := sorts.head_le ordered same List.mem_cons_self
      have least' := sorts.head_le ordered' (fun value => (same value).symm) List.mem_cons_self
      have keys : key first = key head := le_antisymm least least'
      have heads := same (key first)
      simp only [List.filter_cons, keys, decide_true, if_true, List.cons.injEq] at heads
      obtain ⟨rfl, _⟩ := heads
      refine congrArg (first :: ·) (ih ordered.of_cons ordered'.of_cons fun value => ?_)
      have tails := same value
      by_cases own : key first = value
      · simpa [List.filter_cons, own] using tails
      · simpa [List.filter_cons, own] using tails

/-- Two orders sort to the same list exactly if they have the items of each key in the same
order. -/
theorem insertionSort_eq_iff (sorts : SortsBy upTo key) :
    left.insertionSort upTo = right.insertionSort upTo ↔
      ∀ value, left.filter (key · = value) = right.filter (key · = value) := by
  constructor
  · intro same value
    rw [← sorts.stable left value, same, sorts.stable right value]
  · intro same
    refine sorts.eq_of_filter_eq (sorts.sorted left) (sorts.sorted right) fun value => ?_
    rw [sorts.stable left value, same, sorts.stable right value]

omit [DecidableRel upTo] in
theorem map_eq_of_perm (sorts : SortsBy upTo key) (ordered : left.Pairwise upTo)
    (ordered' : right.Pairwise upTo) (perm : left.Perm right) : left.map key = right.map key := by
  have keys : ∀ {items : List Item}, items.Pairwise upTo → (items.map key).Pairwise (· ≤ ·) :=
    fun ordered => List.pairwise_map.mpr (ordered.imp fun upTo => (sorts _ _).mp upTo)
  exact (perm.map key).eq_of_pairwise (fun _ _ _ _ => le_antisymm) (keys ordered) (keys ordered')

theorem insertionSort_eq_of_nodup (sorts : SortsBy upTo key) (perm : left.Perm right)
    (distinct : (left.map key).Nodup) :
    left.insertionSort upTo = right.insertionSort upTo := by
  have sorted : (left.insertionSort upTo).Perm (right.insertionSort upTo) :=
    (List.perm_insertionSort upTo left).trans
      (perm.trans (List.perm_insertionSort upTo right).symm)
  refine sorted.eq_of_pairwise ?_ (sorts.sorted left) (sorts.sorted right)
  intro first second here there upTo upTo'
  have member := (List.perm_insertionSort _ left).mem_iff.mp here
  have member' := perm.mem_iff.mpr ((List.perm_insertionSort _ right).mem_iff.mp there)
  exact List.inj_on_of_nodup_map distinct member member'
    (le_antisymm ((sorts _ _).mp upTo) ((sorts _ _).mp upTo'))

end SortsBy

end AhsApp.Library
