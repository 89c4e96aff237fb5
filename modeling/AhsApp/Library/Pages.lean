import Mathlib.Data.List.Basic
import Mathlib.Tactic.Common

/-! Pages of a list: all of one size, only the last may be shorter. A loop can collect
them, and each can be found by its index. -/

namespace AhsApp.Library

universe u

variable {Item : Type u} {size : Nat} {items page temp : List Item} {pages ans : List (List Item)}

/-- The pages hold the items in order, and only the last page may have room left. -/
structure Pages (size : Nat) (items : List Item) (pages : List (List Item)) : Prop where
  flatten : pages.flatten = items
  full : ∀ page ∈ pages.dropLast, page.length = size
  last : ∀ page ∈ pages.getLast?, 0 < page.length ∧ page.length ≤ size

namespace Pages

theorem tail {next : List Item} (paged : Pages size items (page :: next :: pages)) :
    Pages size (next :: pages).flatten (next :: pages) where
  flatten := rfl
  full page member := paged.full page (List.mem_cons_of_mem _ member)
  last page member := paged.last page (by rwa [List.getLast?_cons_cons])

private theorem size_pos (paged : Pages size items (page :: pages)) : 0 < size := by
  obtain ⟨nonempty, fits⟩ := paged.last _ (List.getLast?_eq_some_getLast (List.cons_ne_nil _ _))
  omega

/-- The page of an index starts after as many items as the pages before it have. -/
theorem getElem? (paged : Pages size items pages) (position : Nat) :
    pages[position]? = if size * position < items.length then
      some ((items.drop (size * position)).take size) else none := by
  induction pages generalizing items position with
  | nil =>
    obtain rfl : [] = items := paged.flatten
    simp
  | cons page rest ih =>
    obtain rfl := paged.flatten
    cases rest with
    | nil =>
      obtain ⟨nonempty, fits⟩ := paged.last page rfl
      cases position with
      | zero => simp [nonempty, List.take_of_length_le fits]
      | succ position =>
        have beyond : ¬ size * (position + 1) < page.length := by
          rw [Nat.mul_succ]
          omega
        simp [beyond]
    | cons next rest =>
      have full : page.length = size := paged.full page (by simp)
      have positive := paged.size_pos
      cases position with
      | zero =>
        have kept : (page :: next :: rest).flatten.take size = page := List.take_left' full
        have nonempty : 0 < (page :: next :: rest).flatten.length := by
          rw [List.flatten_cons, List.length_append]
          omega
        rw [Nat.mul_zero, if_pos nonempty, List.drop_zero, kept, List.getElem?_cons_zero]
      | succ position =>
        have later : size * (position + 1) = page.length + size * position := by
          rw [Nat.mul_succ, full, Nat.add_comm]
        rw [List.getElem?_cons_succ, ih paged.tail position, @List.flatten_cons _ page, later,
          @List.length_append _ page, List.drop_length_add_append]
        simp only [Nat.add_lt_add_iff_left]

theorem lt_length_iff (paged : Pages size items pages) (position : Nat) :
    position < pages.length ↔ size * position < items.length := by
  rw [← Nat.not_le, ← List.getElem?_eq_none_iff, paged.getElem?]
  split <;> simp [*]

/-- All pages but the last are full, and the last has something on it. -/
theorem length_of_mem (paged : Pages size items pages) (member : page ∈ pages) :
    0 < page.length ∧ page.length ≤ size := by
  rcases List.eq_nil_or_concat' pages with rfl | ⟨before, last, rfl⟩
  · cases member
  · obtain ⟨nonempty, fits⟩ := paged.last last List.getLast?_concat
    rcases List.mem_append.mp member with earlier | same
    · have full := paged.full page (by rwa [List.dropLast_concat])
      omega
    · obtain rfl := List.mem_singleton.mp same
      exact ⟨nonempty, fits⟩

end Pages

/-- The full pages that were collected, and the next one as far as it has come. -/
structure Collected (size : Nat) (items : List Item) (ans : List (List Item)) (temp : List Item) :
    Prop where
  flatten : ans.flatten ++ temp = items
  full : ∀ page ∈ ans, page.length = size
  room : temp.length < size

namespace Collected

theorem start (positive : 0 < size) : Collected size ([] : List Item) [] [] :=
  ⟨rfl, by simp, positive⟩

theorem extend (collected : Collected size items ans temp) (item : Item)
    (room : temp.length + 1 ≠ size) : Collected size (items ++ [item]) ans (temp ++ [item]) where
  flatten := by rw [← collected.flatten, List.append_assoc]
  full := collected.full
  room := by
    have := collected.room
    rw [List.length_append, List.length_singleton]
    omega

theorem fill (collected : Collected size items ans temp) (item : Item)
    (full : temp.length + 1 = size) :
    Collected size (items ++ [item]) (ans ++ [temp ++ [item]]) [] where
  flatten := by simp [← collected.flatten]
  full page member := by
    rcases List.mem_append.mp member with earlier | last
    · exact collected.full page earlier
    · rw [List.mem_singleton.mp last, List.length_append, List.length_singleton, full]
  room := full ▸ Nat.succ_pos _

theorem flush (collected : Collected size items ans temp) :
    Pages size items (if temp.length > 0 then ans ++ [temp] else ans) := by
  split
  · rename_i leftOver
    refine ⟨by simp [collected.flatten], fun page member => ?_, fun page last => ?_⟩
    · rw [List.dropLast_concat] at member
      exact collected.full page member
    · obtain rfl : temp = page := by simpa using last
      exact ⟨leftOver, Nat.le_of_lt collected.room⟩
  · obtain rfl : temp = [] := List.length_eq_zero_iff.mp (by omega)
    refine ⟨by simpa using collected.flatten, fun page member => ?_, fun page last => ?_⟩
    · exact collected.full page (List.dropLast_subset ans member)
    · have full := collected.full page (List.mem_of_getLast? last)
      exact ⟨full ▸ collected.room, Nat.le_of_eq full⟩

end Collected

end AhsApp.Library
