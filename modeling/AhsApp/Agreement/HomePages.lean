import AhsApp.Android.CategoryAdapter
import AhsApp.Ios.ArticlePairs

/-! The pages of a category of the home page. One application computes what a page shows from
its position, the other collects all pages in a loop; both lay the list out in pages of two,
and such a page is known from its index. -/

namespace AhsApp.Agreement

open AhsApp.Library AhsApp.Android.CategoryRecyclerAdapter

variable {Article : Type} {l : List Article}

/-- The articles that are shown at a position, when there are any. -/
def stackAt (articles : List Article) (position : Nat) : Option (List Article) :=
  match onBindViewHolder articles position with
  | some (.stack articlesStacked _) => some articlesStacked
  | _ => none

private theorem stackAt_eq (nonempty : l ≠ []) {position : Nat}
    (inside : position < getItemCount l) :
    stackAt l position = some ((l.drop (2 * position)).take 2) := by
  rw [stackAt, onBindViewHolder_eq nonempty inside]

private theorem bound_at {position : Nat} (inside : position < getItemCount l) :
    ∃ bound, onBindViewHolder l position = some bound := by
  by_cases empty : l = []
  · subst l
    exact ⟨_, rfl⟩
  · exact ⟨_, onBindViewHolder_eq empty inside⟩

private theorem lt_getItemCount_iff (nonempty : l ≠ []) (position : Nat) :
    position < getItemCount l ↔ 2 * position < l.length := by
  have shown : l.length ≠ 0 := mt List.length_eq_zero_iff.mp nonempty
  rw [getItemCount, if_pos shown, numStacked]
  split <;> omega

private theorem length_pairLoop (nonempty : l ≠ []) : (Ios.pairLoop l).length = getItemCount l := by
  refine eq_of_forall_lt_iff fun position => ?_
  rw [(Ios.pairLoop_pages l).lt_length_iff, lt_getItemCount_iff nonempty]

private theorem stackAt_eq_pair (nonempty : l ≠ []) {position : Nat}
    (inside : position < getItemCount l) :
    stackAt l position = (Ios.pairLoop l)[position]? := by
  rw [stackAt_eq nonempty inside, (Ios.pairLoop_pages l).getElem?,
    if_pos ((lt_getItemCount_iff nonempty position).mp inside)]

theorem stacks_eq_pairs (nonempty : l ≠ []) :
    (List.range (getItemCount l)).mapM (stackAt l) = some (Ios.pairLoop l) := by
  rw [← length_pairLoop nonempty]
  refine mapM_range fun position inside => stackAt_eq_pair nonempty ?_
  rwa [← length_pairLoop nonempty]

/-- Every position is bound; the stacks are the pairs of the other application, and these
hold the articles in order, two each and one or two at the end. -/
theorem home_pages_agree (l : List Article) :
    (∀ position < getItemCount l, ∃ bound, onBindViewHolder l position = some bound) ∧
    (l ≠ [] → ∃ shown, (List.range (getItemCount l)).mapM (stackAt l) = some shown ∧
      shown.flatten = l ∧
      ∀ position < getItemCount l, stackAt l position = (Ios.pairLoop l)[position]?) ∧
    (∀ pair ∈ (Ios.pairLoop l).dropLast, pair.length = 2) ∧
    (∀ pair ∈ (Ios.pairLoop l).getLast?, pair.length = 1 ∨ pair.length = 2) ∧
    ∀ pair ∈ Ios.pairLoop l, Ios.createStackView pair = some pair := by
  have paged := Ios.pairLoop_pages l
  refine ⟨fun _ => bound_at, fun nonempty => ?_, paged.full, fun pair last => ?_,
    fun _ => Ios.createStackView_of_mem⟩
  · exact ⟨Ios.pairLoop l, stacks_eq_pairs nonempty, paged.flatten,
      fun _ => stackAt_eq_pair nonempty⟩
  · obtain ⟨positive, fits⟩ := paged.last pair last
    omega

/-- Three articles, the last of which has a page of its own. -/
theorem three_articles_paged :
    ∃ shown, (List.range (getItemCount ["game", "essay", "club"])).mapM
        (stackAt ["game", "essay", "club"]) = some shown ∧
      shown.flatten = ["game", "essay", "club"] ∧
      ∀ position < getItemCount ["game", "essay", "club"],
        stackAt ["game", "essay", "club"] position =
          (Ios.pairLoop ["game", "essay", "club"])[position]? :=
  (home_pages_agree ["game", "essay", "club"]).2.1 (List.cons_ne_nil _ _)

end AhsApp.Agreement
