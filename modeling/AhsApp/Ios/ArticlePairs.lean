import AhsApp.Ios.Decode
import AhsApp.Library.OptionList
import AhsApp.Library.Pages
import Mathlib.Data.List.Induction

/-! The pages of a category on the iOS home page. Its articles are sorted and put into pairs
by a loop, and each pair is shown in a view of its own. -/

namespace AhsApp.Ios

open AhsApp.Library

variable {Article : Type}

/-- A turn of the loop over the articles; the state is `ans` and `temp`. -/
def pairTurn (state : List (List Article) × List Article) (i : Article) :
    List (List Article) × List Article :=
  let temp := state.2 ++ [i]
  if temp.length = 2 then (state.1 ++ [temp], []) else (state.1, temp)

/-- The loop, and what is done with the last `temp`. -/
def pairLoop (b : List Article) : List (List Article) :=
  let (ans, temp) := b.foldl pairTurn ([], [])
  if temp.length > 0 then ans ++ [temp] else ans

def arrayToPairs (currTime : Int) (a : List ArticleData) : List (List ArticleData) :=
  pairLoop (sortBy (sortArticlesByTime currTime) a)

/-- The articles that a view shows, one below the other; a subscript out of range traps. -/
def createStackView (data : List Article) : Option (List Article) := do
  let first ← data[0]?
  if data.length = 2 then do
    let second ← data[1]?
    some [first, second]
  else some [first]

/-- The views of a category; without articles the page still loads. -/
def setUpCategory (currTime : Int) (rawData : List ArticleData) :
    Option (List (List ArticleData)) :=
  if rawData.length > 0 then
    let data := arrayToPairs currTime rawData
    (List.range data.length).mapM fun aIndex => do
      let pair ← data[aIndex]?
      createStackView pair
  else some []

private theorem pairTurn_collected {items : List Article}
    {state : List (List Article) × List Article}
    (collected : Collected 2 items state.1 state.2) (i : Article) :
    Collected 2 (items ++ [i]) (pairTurn state i).1 (pairTurn state i).2 := by
  rw [pairTurn, List.length_append, List.length_singleton]
  split
  · exact collected.fill i ‹_›
  · exact collected.extend i ‹_›

private theorem pairLoop_collected (b : List Article) :
    Collected 2 b (b.foldl pairTurn ([], [])).1 (b.foldl pairTurn ([], [])).2 := by
  induction b using List.reverseRecOn with
  | nil => exact .start Nat.two_pos
  | append_singleton b i ih =>
    rw [List.foldl_concat]
    exact pairTurn_collected ih i

theorem pairLoop_pages (b : List Article) : Pages 2 b (pairLoop b) :=
  (pairLoop_collected b).flush

private theorem createStackView_of_length {data : List Article} (nonempty : 0 < data.length)
    (fits : data.length ≤ 2) : createStackView data = some data := by
  match data, nonempty, fits with
  | [_], _, _ => rfl
  | [_, _], _, _ => rfl

theorem createStackView_of_mem {b pair : List Article} (member : pair ∈ pairLoop b) :
    createStackView pair = some pair :=
  have ⟨nonempty, fits⟩ := (pairLoop_pages b).length_of_mem member
  createStackView_of_length nonempty fits

theorem setUpCategory_shows (currTime : Int) (rawData : List ArticleData) :
    setUpCategory currTime rawData = some (arrayToPairs currTime rawData) ∧
    (arrayToPairs currTime rawData).flatten = sortBy (sortArticlesByTime currTime) rawData ∧
    (arrayToPairs currTime rawData).flatten.Perm rawData := by
  have flatten := (pairLoop_pages (sortBy (sortArticlesByTime currTime) rawData)).flatten
  refine ⟨?_, flatten, (List.Perm.of_eq flatten).trans (sortBy_perm _ _)⟩
  rw [setUpCategory]
  split
  · refine mapM_range fun aIndex inside => ?_
    rw [List.getElem?_eq_getElem inside, Option.bind_eq_bind, Option.bind_some]
    exact createStackView_of_mem (List.getElem_mem inside)
  · obtain rfl : rawData = [] := List.length_eq_zero_iff.mp (by omega)
    rfl

end AhsApp.Ios
