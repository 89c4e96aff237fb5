import AhsApp.Android.Comparison
import AhsApp.Library.Ranking

/-! The adapters of the home page, for the featured articles and for those of a category.
They sort what they are given; a category shows its articles in stacks of two. -/

namespace AhsApp.Android

open AhsApp.Library.Ranking

/-- What the home page keeps of an article. -/
structure ArticleSlim where
  id : String
  timeUpdated : Int
  title : String
  imagePath : String
  type : ArticleType
  deriving DecidableEq

/-- The difference of the times, narrowed to 32 bits. -/
def ArticleSlim.compareTo (article o : ArticleSlim) : Int :=
  int (long (o.timeUpdated - article.timeUpdated))

/-- `Collections.sort`. -/
def sortArticles (collections : ListSort ArticleSlim) (articles : List ArticleSlim) :
    Option (List ArticleSlim) :=
  collections.sort (fun article o => some (article.compareTo o)) articles

def FeaturedRecyclerAdapter.addArticles (collections : ListSort ArticleSlim)
    (newArticles articles : List ArticleSlim) : Option (List ArticleSlim) :=
  sortArticles collections (articles ++ newArticles)

namespace CategoryRecyclerAdapter

def addArticles (collections : ListSort ArticleSlim) (newArticles articles : List ArticleSlim) :
    Option (List ArticleSlim) :=
  sortArticles collections (articles ++ newArticles)

-- Which articles are shown where does not depend on what they are.
variable {Article : Type}

def numStacked : Nat := 2

/-- What the view of a position is initialized with. -/
inductive Bound (Article : Type) where
  | loading
  | stack (articlesStacked : List Article) (notFull : Bool)

/-- A view of a stack; a stack that is not full leaves room under each article. -/
inductive StackView (Article : Type) where
  | article (article : Article)
  | invisible

def initializeStack (articles : List Article) (notFull : Bool) : List (StackView Article) :=
  articles.flatMap fun article =>
    if notFull then [.article article, .invisible] else [.article article]

/-- `System.arraycopy` into a new array; it throws beyond the end of the source. -/
def arraycopy (source : List Article) (start length : Nat) : Option (List Article) :=
  if start + length ≤ source.length then some ((source.drop start).take length) else none

/-- A subscript out of range throws, as does an array of negative size. -/
def onBindViewHolder (articles : List Article) (position : Nat) : Option (Bound Article) :=
  if articles.length = 0 then some .loading
  else if position < articles.length / numStacked then do
    let articlesStacked ← (List.range numStacked).mapM fun i =>
      articles[i + position * numStacked]?
    some (.stack articlesStacked false)
  else if position * numStacked ≤ articles.length then do
    let articlesStacked ← arraycopy articles (numStacked * position)
      (articles.length - position * numStacked)
    some (.stack articlesStacked (position != 0))
  else none

def getItemCount (articles : List Article) : Nat :=
  if articles.length ≠ 0 then
    articles.length / numStacked + (if articles.length % numStacked = 0 then 0 else 1)
  else 1

private theorem mapM_getElem? {articles : List Article} {position : Nat}
    (full : position < articles.length / numStacked) :
    (List.range numStacked).mapM (fun i => articles[i + position * numStacked]?) =
      some ((articles.drop (2 * position)).take 2) := by
  rw [numStacked] at full ⊢
  have second : 2 * position + 1 < articles.length := by omega
  have first : 2 * position < articles.length := by omega
  have stacked : (articles.drop (2 * position)).take 2 =
      [articles[2 * position], articles[2 * position + 1]] := by
    rw [List.drop_eq_getElem_cons first, List.drop_eq_getElem_cons second]
    rfl
  rw [stacked]
  simp [List.range_succ, Nat.mul_comm position, Nat.add_comm 1, first, second]

private theorem arraycopy_rest {articles : List Article} {position : Nat}
    (fits : position * numStacked ≤ articles.length)
    (last : articles.length ≤ position * numStacked + 2) :
    arraycopy articles (numStacked * position) (articles.length - position * numStacked) =
      some ((articles.drop (2 * position)).take 2) := by
  rw [numStacked] at fits last ⊢
  rw [arraycopy, if_pos (by omega)]
  congr 1
  rw [List.take_of_length_le, List.take_of_length_le] <;> rw [List.length_drop] <;> omega

theorem onBindViewHolder_eq {articles : List Article} (nonempty : articles ≠ []) {position : Nat}
    (inside : position < getItemCount articles) :
    onBindViewHolder articles position = some (.stack ((articles.drop (2 * position)).take 2)
      (decide (position ≠ 0 ∧ articles.length / 2 ≤ position))) := by
  have shown : articles.length ≠ 0 := mt List.length_eq_zero_iff.mp nonempty
  rw [getItemCount, if_pos shown] at inside
  rw [onBindViewHolder, if_neg shown]
  split
  · rename_i full
    have flag : decide (position ≠ 0 ∧ articles.length / 2 ≤ position) = false :=
      decide_eq_false fun beyond => Nat.not_le.mpr full beyond.2
    rw [mapM_getElem? full, flag]
    rfl
  · rename_i beyond
    have last : position * numStacked < articles.length := by
      rw [numStacked] at *
      split at inside <;> omega
    have flag : decide (position ≠ 0 ∧ articles.length / 2 ≤ position) = (position != 0) := by
      rw [numStacked] at beyond
      rw [Bool.eq_iff_iff]
      simp [Nat.not_lt.mp beyond]
    have rest : articles.length ≤ position * numStacked + 2 := by
      rw [numStacked] at *
      omega
    rw [if_pos last.le, arraycopy_rest last.le rest, flag]
    rfl

private theorem initializeStack_length (articles : List Article) (notFull : Bool) :
    (initializeStack articles notFull).length =
      if notFull then 2 * articles.length else articles.length := by
  cases notFull <;> simp [initializeStack, List.length_flatMap, Nat.mul_comm]

theorem two_views {articles articlesStacked : List Article} {position : Nat} {notFull : Bool}
    (later : position ≠ 0) (inside : position < getItemCount articles)
    (bound : onBindViewHolder articles position = some (.stack articlesStacked notFull)) :
    (initializeStack articlesStacked notFull).length = 2 := by
  have nonempty : articles ≠ [] := by
    rintro rfl
    cases bound
  have shown : articles.length ≠ 0 := mt List.length_eq_zero_iff.mp nonempty
  obtain ⟨rfl, rfl⟩ := Bound.stack.inj
    (Option.some.inj (bound.symm.trans (onBindViewHolder_eq nonempty inside)))
  rw [getItemCount, if_pos shown, numStacked] at inside
  rw [initializeStack_length, List.length_take, List.length_drop]
  by_cases full : position < articles.length / 2
  · rw [if_neg (by simp [full])]
    omega
  · rw [if_pos (by simp [later, Nat.not_lt.mp full])]
    split at inside <;> omega

end CategoryRecyclerAdapter

end AhsApp.Android
