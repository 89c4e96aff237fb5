import Mathlib.Data.List.Nodup

/-! Lists whose items have distinct keys: looking one up, replacing it, removing it. -/

namespace AhsApp.Library

universe u
variable {Item : Type u} {Key : Type} {key : Item → Key} {items : List Item}

theorem find?_of_mem [DecidableEq Key] (distinct : (items.map key).Nodup) {item : Item}
    (member : item ∈ items) : items.find? (key · == key item) = some item := by
  cases found : items.find? (key · == key item) with
  | none => exact absurd (List.find?_eq_none.mp found item member) (by simp)
  | some other =>
    have same : key other = key item := by
      simpa using List.find?_some found
    exact congrArg some
      (List.inj_on_of_nodup_map distinct (List.mem_of_find?_eq_some found) member same)

theorem find?_eq_none_of_not_mem [DecidableEq Key] {wanted : Key}
    (absent : wanted ∉ items.map key) : items.find? (key · == wanted) = none := by
  refine List.find?_eq_none.mpr ?_
  intro item member same
  exact absent (eq_of_beq same ▸ List.mem_map_of_mem member)

/-- An item that replaces one with the same key leaves the keys as they are. -/
theorem map_set_of_sameKey {index : Nat} {old new : Item} (found : items[index]? = some old)
    (same : key new = key old) : (items.set index new).map key = items.map key := by
  obtain ⟨bound, rfl⟩ := List.getElem?_eq_some_iff.mp found
  rw [List.map_set, same, ← List.getElem_map key (h := by simpa using bound),
    List.set_getElem_self]

private theorem key_ne_of_nodup_cons {head : Item} {rest : List Item}
    (distinct : ((head :: rest).map key).Nodup) {item : Item} (member : item ∈ rest) :
    key item ≠ key head := by
  intro same
  exact (List.nodup_cons.mp distinct).1 (same ▸ List.mem_map_of_mem member)

theorem mem_set_iff {index : Nat} {old new item : Item} (distinct : (items.map key).Nodup)
    (found : items[index]? = some old) :
    item ∈ items.set index new ↔ item = new ∨ item ∈ items ∧ key item ≠ key old := by
  induction items generalizing index with
  | nil => simp at found
  | cons head rest ih =>
    have others := fun (other : Item) (member : other ∈ rest) =>
      key_ne_of_nodup_cons distinct member
    cases index with
    | zero =>
      obtain rfl : head = old := Option.some.inj found
      rw [List.set_cons_zero, List.mem_cons, List.mem_cons]
      grind
    | succ index =>
      have later : rest[index]? = some old := by simpa using found
      have first : key old ≠ key head := others old (List.mem_of_getElem? later)
      rw [List.set_cons_succ, List.mem_cons, ih (List.nodup_cons.mp distinct).2 later,
        List.mem_cons]
      grind

theorem filter_ne_eq_eraseIdx [DecidableEq Key] {index : Nat} {old : Item}
    (distinct : (items.map key).Nodup) (found : items[index]? = some old) :
    items.filter (fun item => key item ≠ key old) = items.eraseIdx index := by
  induction items generalizing index with
  | nil => simp at found
  | cons head rest ih =>
    have others := fun (other : Item) (member : other ∈ rest) =>
      key_ne_of_nodup_cons distinct member
    cases index with
    | zero =>
      obtain rfl : head = old := Option.some.inj found
      rw [List.filter_cons_of_neg (by simp), List.eraseIdx_cons_zero]
      exact List.filter_eq_self.mpr fun other member => decide_eq_true (others other member)
    | succ index =>
      have later : rest[index]? = some old := by simpa using found
      have first : key head ≠ key old := (others old (List.mem_of_getElem? later)).symm
      rw [List.eraseIdx_cons_succ, ← ih (List.nodup_cons.mp distinct).2 later]
      exact List.filter_cons_of_pos (decide_eq_true first)

/-- In an order in which only items of one key tie, such items can be listed in one way only. -/
theorem eq_of_perm_of_pairwise {upTo : Item → Item → Prop} {left right : List Item}
    (distinct : (items.map key).Nodup)
    (ties : ∀ {first second}, upTo first second → upTo second first → key first = key second)
    (within : left ⊆ items) (perm : left.Perm right) (ordered : left.Pairwise upTo)
    (ordered' : right.Pairwise upTo) : left = right := by
  refine perm.eq_of_pairwise ?_ ordered ordered'
  intro first second here there before after
  exact List.inj_on_of_nodup_map distinct (within here) (within (perm.mem_iff.mpr there))
    (ties before after)

end AhsApp.Library
