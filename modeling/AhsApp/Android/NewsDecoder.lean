import AhsApp.Android.FirebaseHandler
import AhsApp.Library.OptionList

/-! The listener of the home page. It calls back while it decodes, so a conversion that
throws in the middle leaves what was called before. -/

namespace AhsApp.Android

open AhsApp.Firebase AhsApp.Library

inductive NewsCallback where
  | onDataLoaded
  | onArticleLoaded (article : Article)
  | onCategoryArticlesLoaded (category : Nat) (articles : List Article)
  | onFeaturedArticlesLoaded (articles : List Article)
  | onAllArticlesLoaded (articles : List Article)
  deriving DecidableEq

namespace NewsListener

/-- What the loops of `onDataChange` carry. -/
structure Loading where
  calls : List NewsCallback
  allArticles : List Article
  featuredArticles : List Article

/-- One turn of the inner loop; an exception comes with the calls made before it. -/
def loadArticle (type : ArticleType) (state : Loading × List Article) (childSn : DataSnapshot) :
    Except (List NewsCallback) (Loading × List Article) :=
  match readNewsArticle type childSn with
  | none => .error state.1.calls
  | some (article, isFeatured) => .ok ({
      calls := state.1.calls ++ [.onArticleLoaded article]
      allArticles := state.1.allArticles ++ [article]
      featuredArticles := state.1.featuredArticles ++ if isFeatured then [article] else [] },
    state.2 ++ [article])

/-- One turn of the outer loop, over the categories with their index. -/
def loadCategory (snapshot : DataSnapshot) (state : Loading)
    (category : (String × ArticleType) × Nat) : Except (List NewsCallback) Loading := do
  let (state, articles) ← (snapshot.child category.1.1).children.foldlM
    (loadArticle category.1.2) (state, [])
  .ok { state with calls := state.calls ++ [.onCategoryArticlesLoaded category.2 articles] }

/-- The calls of the listener, or those made before it threw. -/
def onDataChange (snapshot : DataSnapshot) : Except (List NewsCallback) (List NewsCallback) := do
  let state ← newsCategories.zipIdx.foldlM (loadCategory snapshot) ⟨[.onDataLoaded], [], []⟩
  .ok (state.calls ++ [.onFeaturedArticlesLoaded state.featuredArticles,
    .onAllArticlesLoaded state.allArticles])

end NewsListener

/-- Every field is absent or of the type that the decoder expects. -/
structure FieldsOrAbsent (childSn : DataSnapshot) : Prop where
  author : (childSn.child "articleAuthor").value = some .null ∨
    ∃ text, (childSn.child "articleAuthor").value = some (.string text)
  title : (childSn.child "articleTitle").value = some .null ∨
    ∃ text, (childSn.child "articleTitle").value = some (.string text)
  body : (childSn.child "articleBody").value = some .null ∨
    ∃ text, (childSn.child "articleBody").value = some (.string text)
  images : (childSn.child "articleImages").StringChildren
  videos : (childSn.child "articleVideoIDs").StringChildren
  time : (childSn.child "articleUnixEpoch").value = some .null ∨
    ∃ time : Int, (childSn.child "articleUnixEpoch").value = some (.number time) ∧
      DataSnapshot.int64Min ≤ time ∧ time ≤ DataSnapshot.int64Max
  featured : (childSn.child "isFeatured").value = some .null ∨
    ∃ flag, (childSn.child "isFeatured").value = some (.bool flag)

/-- The time and the flag are there. -/
def HasTimeAndFlag (childSn : DataSnapshot) : Prop :=
  (childSn.child "articleUnixEpoch").value ≠ some .null ∧
    (childSn.child "isFeatured").value ≠ some .null

def stringOrEmpty (snapshot : DataSnapshot) : String := (snapshot.asString).getD ""

/-- The article of a child, with what is absent empty. -/
def articleOf (type : ArticleType) (childSn : DataSnapshot) : Article where
  id := childSn.key
  timeUpdated := (childSn.child "articleUnixEpoch").castLong.getD 0
  title := stringOrEmpty (childSn.child "articleTitle")
  author := stringOrEmpty (childSn.child "articleAuthor")
  story := replaceNewLines (stringOrEmpty (childSn.child "articleBody"))
  imagePaths := (childSn.child "articleImages").strings
  videoIDS := (childSn.child "articleVideoIDs").strings
  type := type

def featuredOf (childSn : DataSnapshot) : Bool :=
  (childSn.child "isFeatured").castBoolean == some true

/-- The articles of a category, and those of them that are featured. -/
def categoryArticles (snapshot : DataSnapshot) (category : String × ArticleType) : List Article :=
  (snapshot.child category.1).children.map (articleOf category.2)

def categoryFeatured (snapshot : DataSnapshot) (category : String × ArticleType) :
    List Article :=
  ((snapshot.child category.1).children.filter featuredOf).map (articleOf category.2)

namespace NewsCallback

def allArticles : NewsCallback → Option (List Article)
  | onAllArticlesLoaded articles => some articles
  | _ => none

def categoryArticles : NewsCallback → Option (List Article × Nat)
  | onCategoryArticlesLoaded category articles => some (articles, category)
  | _ => none

def featuredArticles : NewsCallback → Option (List Article)
  | onFeaturedArticlesLoaded articles => some articles
  | _ => none

end NewsCallback

/-- The listener returns, and calls back with one article for each child, by category
and altogether, and with the featured ones. -/
def NewsDelivered (snapshot : DataSnapshot) : Prop :=
  ∃ calls, NewsListener.onDataChange snapshot = .ok calls ∧
    calls.filterMap NewsCallback.allArticles =
      [newsCategories.flatMap (categoryArticles snapshot)] ∧
    calls.filterMap NewsCallback.categoryArticles =
      (newsCategories.map (categoryArticles snapshot)).zipIdx ∧
    calls.filterMap NewsCallback.featuredArticles =
      [newsCategories.flatMap (categoryFeatured snapshot)]

theorem newsCategories_types : newsCategories.map Prod.snd = ArticleType.values := rfl

private theorem getString_of_absent_or_string {snapshot : DataSnapshot}
    (field : snapshot.value = some .null ∨ ∃ text, snapshot.value = some (.string text)) :
    ∃ text, snapshot.getString = some text ∧ text.getD "" = stringOrEmpty snapshot := by
  rcases field with null | ⟨text, value⟩
  · exact ⟨none, by simp [DataSnapshot.getString, null],
      by simp [stringOrEmpty, DataSnapshot.asString, null]⟩
  · exact ⟨some text, by simp [DataSnapshot.getString, value],
      by simp [stringOrEmpty, DataSnapshot.asString, value]⟩

private theorem stringList_of_strings {snapshot : DataSnapshot}
    (strings : snapshot.StringChildren) :
    stringList snapshot = some snapshot.strings := by
  have read : ∀ child ∈ snapshot.children, child.getString = some child.asString := by
    intro child member
    obtain ⟨text, value⟩ := strings child member
    simp [DataSnapshot.getString, DataSnapshot.asString, value]
  rw [stringList, mapM_eq_map read]
  simp [DataSnapshot.strings, List.filterMap_map]

private theorem readNewsArticle_of_fields (type : ArticleType) {childSn : DataSnapshot}
    (fields : FieldsOrAbsent childSn) : readNewsArticle type childSn =
      (childSn.child "articleUnixEpoch").castLong.bind fun _ =>
        (childSn.child "isFeatured").castBoolean.map fun _ =>
          (articleOf type childSn, featuredOf childSn) := by
  obtain ⟨author, authorRead, authorText⟩ := getString_of_absent_or_string fields.author
  obtain ⟨title, titleRead, titleText⟩ := getString_of_absent_or_string fields.title
  obtain ⟨body, bodyRead, bodyText⟩ := getString_of_absent_or_string fields.body
  simp only [readNewsArticle, authorRead, titleRead, bodyRead, authorText, titleText, bodyText,
    stringList_of_strings fields.images, stringList_of_strings fields.videos,
    Option.bind_eq_bind, Option.bind_some, articleOf, featuredOf]
  cases (childSn.child "articleUnixEpoch").castLong with
  | none => rfl
  | some time =>
    cases (childSn.child "isFeatured").castBoolean with
    | none => rfl
    | some flag => cases flag <;> rfl

theorem readNewsArticle_of_present (type : ArticleType) {childSn : DataSnapshot}
    (fields : FieldsOrAbsent childSn) (present : HasTimeAndFlag childSn) :
    readNewsArticle type childSn = some (articleOf type childSn, featuredOf childSn) := by
  obtain ⟨time, timeValue, lower, upper⟩ := fields.time.resolve_left present.1
  obtain ⟨flag, flagValue⟩ := fields.featured.resolve_left present.2
  rw [readNewsArticle_of_fields type fields]
  simp [DataSnapshot.castLong, DataSnapshot.castBoolean, timeValue, flagValue, lower, upper]

private theorem readNewsArticle_of_absent (type : ArticleType) {childSn : DataSnapshot}
    (fields : FieldsOrAbsent childSn) (absent : ¬ HasTimeAndFlag childSn) :
    readNewsArticle type childSn = none := by
  rw [readNewsArticle_of_fields type fields]
  rcases not_and_or.mp absent with missing | missing
  · simp [DataSnapshot.castLong, not_not.mp missing]
  · simp [DataSnapshot.castBoolean, not_not.mp missing]

namespace NewsListener

/-- A category that was loaded, with its index. -/
abbrev LoadedCategory := List (Article × Bool) × Nat

def loadedCategory (snapshot : DataSnapshot) (category : (String × ArticleType) × Nat) :
    Option LoadedCategory :=
  ((snapshot.child category.1.1).children.mapM (readNewsArticle category.1.2)).map
    (·, category.2)

def featured (loaded : List (Article × Bool)) : List Article := (loaded.filter (·.2)).map Prod.fst

/-- The state after the articles of a category. -/
def Loading.articlesLoaded (state : Loading) (loaded : List (Article × Bool)) : Loading where
  calls := state.calls ++ loaded.map fun article => .onArticleLoaded article.1
  allArticles := state.allArticles ++ loaded.map Prod.fst
  featuredArticles := state.featuredArticles ++ featured loaded

def Loading.categoryLoaded (state : Loading) (category : LoadedCategory) : Loading :=
  let state := state.articlesLoaded category.1
  { state with
    calls := state.calls ++ [.onCategoryArticlesLoaded category.2 (category.1.map Prod.fst)] }

private theorem articlesLoaded_fold (loaded : List (Article × Bool)) (state : Loading)
    (articles : List Article) :
    loaded.foldl (fun (state : Loading × List Article) article =>
        (state.1.articlesLoaded [article], state.2 ++ [article.1])) (state, articles) =
      (state.articlesLoaded loaded, articles ++ loaded.map Prod.fst) := by
  induction loaded generalizing state articles with
  | nil => simp [Loading.articlesLoaded, featured]
  | cons article rest ih =>
    rw [List.foldl_cons, ih]
    cases flagged : article.2 <;> simp [Loading.articlesLoaded, featured, flagged]

private theorem loadCategory_spec (snapshot : DataSnapshot) (state : Loading)
    (category : (String × ArticleType) × Nat) :
    (∀ loaded, loadedCategory snapshot category = some loaded →
      loadCategory snapshot state category = .ok (state.categoryLoaded loaded)) ∧
    (loadedCategory snapshot category = none →
      ∃ calls, loadCategory snapshot state category = .error calls) := by
  have returned : ∀ (state : Loading × List Article) childSn result,
      readNewsArticle category.1.2 childSn = some result →
      loadArticle category.1.2 state childSn =
        .ok (state.1.articlesLoaded [result], state.2 ++ [result.1]) := by
    intro state childSn result read
    rw [loadArticle, read]
    cases flagged : result.2 <;> simp [Loading.articlesLoaded, featured, flagged]
  have threw : ∀ (state : Loading × List Article) childSn,
      readNewsArticle category.1.2 childSn = none →
      ∃ calls, loadArticle category.1.2 state childSn = .error calls := by
    intro state childSn read
    exact ⟨state.1.calls, by rw [loadArticle, read]⟩
  obtain ⟨succeeds, fails⟩ := foldlM_of_mapM returned threw
    (snapshot.child category.1.1).children (state, [])
  constructor
  · intro loaded returned
    obtain ⟨results, mapped, rfl⟩ := Option.map_eq_some_iff.mp returned
    rw [loadCategory, succeeds results mapped, articlesLoaded_fold]
    rfl
  · intro none
    obtain ⟨calls, stopped⟩ := fails (Option.map_eq_none_iff.mp none)
    exact ⟨calls, by rw [loadCategory, stopped]; rfl⟩

/-- The calls for a category. -/
def categoryCalls (category : LoadedCategory) : List NewsCallback :=
  (category.1.map fun article => .onArticleLoaded article.1) ++
    [.onCategoryArticlesLoaded category.2 (category.1.map Prod.fst)]

/-- The calls of a listener that returns. -/
def newsCalls (loaded : List LoadedCategory) : List NewsCallback :=
  .onDataLoaded :: (loaded.flatMap categoryCalls ++
    [.onFeaturedArticlesLoaded (loaded.flatMap fun category => featured category.1),
      .onAllArticlesLoaded (loaded.flatMap fun category => category.1.map Prod.fst)])

private theorem categoryLoaded_fold (loaded : List LoadedCategory) (state : Loading) :
    loaded.foldl Loading.categoryLoaded state = {
      calls := state.calls ++ loaded.flatMap categoryCalls
      allArticles := state.allArticles ++ loaded.flatMap fun category => category.1.map Prod.fst
      featuredArticles :=
        state.featuredArticles ++ loaded.flatMap fun category => featured category.1 } := by
  induction loaded generalizing state with
  | nil => simp
  | cons category rest ih =>
    rw [List.foldl_cons, ih]
    simp [Loading.categoryLoaded, Loading.articlesLoaded, categoryCalls]

/-- The listener returns exactly when every article can be read. -/
theorem onDataChange_spec (snapshot : DataSnapshot) :
    (∀ loaded, newsCategories.zipIdx.mapM (loadedCategory snapshot) = some loaded →
      onDataChange snapshot = .ok (newsCalls loaded)) ∧
    (newsCategories.zipIdx.mapM (loadedCategory snapshot) = none →
      ∃ calls, onDataChange snapshot = .error calls) := by
  obtain ⟨succeeds, fails⟩ := foldlM_of_mapM
    (fun state category loaded => (loadCategory_spec snapshot state category).1 loaded)
    (fun state category => (loadCategory_spec snapshot state category).2)
    newsCategories.zipIdx ⟨[.onDataLoaded], [], []⟩
  constructor
  · intro loaded mapped
    rw [onDataChange, succeeds loaded mapped, categoryLoaded_fold]
    simp [newsCalls, Bind.bind, Except.bind]
  · intro none
    obtain ⟨calls, stopped⟩ := fails none
    exact ⟨calls, by rw [onDataChange, stopped]; rfl⟩

private theorem categoryCalls_view {View : Type} (view : NewsCallback → Option View)
    (skips : ∀ article, view (.onArticleLoaded article) = none) (category : LoadedCategory) :
    (categoryCalls category).filterMap view =
      (view (.onCategoryArticlesLoaded category.2 (category.1.map Prod.fst))).toList := by
  have skipped : (category.1.map fun article =>
      NewsCallback.onArticleLoaded article.1).filterMap view = [] := by
    rw [List.filterMap_map, List.filterMap_eq_nil_iff]
    exact fun article _ => skips article.1
  rw [categoryCalls, List.filterMap_append, skipped, List.nil_append]
  cases viewed : view (.onCategoryArticlesLoaded category.2 (category.1.map Prod.fst)) <;>
    simp [viewed]

private theorem newsCalls_delivered (loaded : List LoadedCategory) :
    (newsCalls loaded).filterMap NewsCallback.allArticles =
      [loaded.flatMap fun category => category.1.map Prod.fst] ∧
    (newsCalls loaded).filterMap NewsCallback.categoryArticles =
      loaded.map (fun category => (category.1.map Prod.fst, category.2)) ∧
    (newsCalls loaded).filterMap NewsCallback.featuredArticles =
      [loaded.flatMap fun category => featured category.1] := by
  refine ⟨?_, ?_, ?_⟩
  · have view := categoryCalls_view NewsCallback.allArticles fun _ => rfl
    simp [newsCalls, List.filterMap_cons, List.filterMap_flatMap, view, NewsCallback.allArticles]
  · have view := categoryCalls_view NewsCallback.categoryArticles fun _ => rfl
    simp [newsCalls, List.filterMap_cons, List.filterMap_flatMap, view, NewsCallback.categoryArticles,
      ← List.map_eq_flatMap]
  · have view := categoryCalls_view NewsCallback.featuredArticles fun _ => rfl
    simp [newsCalls, List.filterMap_cons, List.filterMap_flatMap, view, NewsCallback.featuredArticles]

end NewsListener

open NewsListener

private theorem loadedCategory_of_present {snapshot : DataSnapshot}
    {category : (String × ArticleType) × Nat}
    (fields : ∀ childSn ∈ (snapshot.child category.1.1).children, FieldsOrAbsent childSn)
    (present : ∀ childSn ∈ (snapshot.child category.1.1).children, HasTimeAndFlag childSn) :
    loadedCategory snapshot category =
      some ((snapshot.child category.1.1).children.map fun childSn =>
        (articleOf category.1.2 childSn, featuredOf childSn), category.2) := by
  rw [loadedCategory, mapM_eq_map fun childSn child =>
    readNewsArticle_of_present category.1.2 (fields childSn child) (present childSn child)]
  rfl

private theorem loadedCategory_of_absent {snapshot childSn : DataSnapshot}
    {category : (String × ArticleType) × Nat}
    (child : childSn ∈ (snapshot.child category.1.1).children)
    (fields : FieldsOrAbsent childSn) (absent : ¬ HasTimeAndFlag childSn) :
    loadedCategory snapshot category = none := by
  rw [loadedCategory, mapM_eq_none child (readNewsArticle_of_absent category.1.2 fields absent)]
  rfl

/-- The listener delivers a feed with absent fields exactly if no article lacks its time
or its featured flag. -/
theorem news_delivered_iff {snapshot : DataSnapshot}
    (fields : ∀ category ∈ newsCategories, ∀ childSn ∈ (snapshot.child category.1).children,
      FieldsOrAbsent childSn) :
    NewsDelivered snapshot ↔
      ∀ category ∈ newsCategories, ∀ childSn ∈ (snapshot.child category.1).children,
        HasTimeAndFlag childSn := by
  obtain ⟨succeeds, fails⟩ := NewsListener.onDataChange_spec snapshot
  constructor
  · rintro ⟨calls, returned, _⟩ category member childSn child
    by_contra absent
    obtain ⟨index, here⟩ := List.mem_iff_getElem?.mp member
    have indexed : (category, index) ∈ newsCategories.zipIdx :=
      List.mk_mem_zipIdx_iff_getElem?.mpr here
    have stopped : loadedCategory snapshot (category, index) = none :=
      loadedCategory_of_absent child (fields category member childSn child) absent
    obtain ⟨before, threw⟩ := fails (mapM_eq_none indexed stopped)
    rw [threw] at returned
    cases returned
  · intro present
    have loaded : newsCategories.zipIdx.mapM (loadedCategory snapshot) =
        some (newsCategories.zipIdx.map fun category =>
          ((snapshot.child category.1.1).children.map fun childSn =>
            (articleOf category.1.2 childSn, featuredOf childSn), category.2)) := by
      refine mapM_eq_map fun category member => ?_
      have own : category.1 ∈ newsCategories := List.fst_mem_of_mem_zipIdx member
      exact loadedCategory_of_present (fields category.1 own) (present category.1 own)
    obtain ⟨all, categories, featured⟩ := newsCalls_delivered (newsCategories.zipIdx.map
      fun category => ((snapshot.child category.1.1).children.map fun childSn =>
        (articleOf category.1.2 childSn, featuredOf childSn), category.2))
    refine ⟨_, succeeds _ loaded, ?_, ?_, ?_⟩
    · rw [all]
      simp [newsCategories, categoryArticles, Function.comp_def]
    · rw [categories]
      simp [newsCategories, categoryArticles, Function.comp_def]
    · rw [featured]
      simp [newsCategories, categoryFeatured, NewsListener.featured, List.filter_map,
        Function.comp_def]

/-- An article that has nothing but its time and its flag. -/
def bareArticle : DataSnapshot :=
  .node "bare" [.leaf "articleUnixEpoch" (.number 1600000000), .leaf "isFeatured" (.bool true)]

/-- An article that has only its time. -/
def unflaggedArticle : DataSnapshot :=
  .node "unflagged" [.leaf "articleUnixEpoch" (.number 1600000000)]

private theorem bareArticle_fields : FieldsOrAbsent bareArticle where
  author := .inl rfl
  title := .inl rfl
  body := .inl rfl
  images _ member := by cases member
  videos _ member := by cases member
  time := .inr ⟨1600000000, rfl, by decide, by decide⟩
  featured := .inr ⟨true, rfl⟩

private theorem unflaggedArticle_fields : FieldsOrAbsent unflaggedArticle where
  author := .inl rfl
  title := .inl rfl
  body := .inl rfl
  images _ member := by cases member
  videos _ member := by cases member
  time := .inr ⟨1600000000, rfl, by decide, by decide⟩
  featured := .inl rfl

theorem bare_article_delivered :
    NewsDelivered (.node "homepage" [.node "District" [bareArticle]]) ↔
      ∀ category ∈ newsCategories, ∀ childSn ∈
        ((DataSnapshot.node "homepage" [.node "District" [bareArticle]]).child
          category.1).children, HasTimeAndFlag childSn := by
  refine news_delivered_iff ?_
  simp only [newsCategories, List.forall_mem_cons]
  refine ⟨?_, ?_, ?_, by simp⟩
  · intro childSn member
    cases member
  · intro childSn member
    obtain rfl := List.mem_singleton.mp member
    exact bareArticle_fields
  · intro childSn member
    cases member

/-- The listener throws after it has called back for the first of two articles. -/
theorem unflagged_article_throws :
    (∀ category ∈ newsCategories, ∀ childSn ∈
      ((DataSnapshot.node "homepage" [.node "ASB" [bareArticle, unflaggedArticle]]).child
        category.1).children, FieldsOrAbsent childSn) ∧
    NewsListener.onDataChange (.node "homepage" [.node "ASB" [bareArticle, unflaggedArticle]]) =
      .error [.onDataLoaded, .onCategoryArticlesLoaded 0 [], .onCategoryArticlesLoaded 1 [],
        .onArticleLoaded (articleOf .asb bareArticle)] ∧
    ¬ NewsDelivered (.node "homepage" [.node "ASB" [bareArticle, unflaggedArticle]]) := by
  have threw : NewsListener.onDataChange
      (.node "homepage" [.node "ASB" [bareArticle, unflaggedArticle]]) =
        .error [.onDataLoaded, .onCategoryArticlesLoaded 0 [], .onCategoryArticlesLoaded 1 [],
          .onArticleLoaded (articleOf .asb bareArticle)] := rfl
  refine ⟨?_, threw, ?_⟩
  · simp only [newsCategories, List.forall_mem_cons]
    refine ⟨?_, ?_, ?_, by simp⟩
    · intro childSn member
      cases member
    · intro childSn member
      cases member
    · intro childSn member
      rcases List.mem_cons.mp member with rfl | member
      · exact bareArticle_fields
      · obtain rfl := List.mem_singleton.mp member
        exact unflaggedArticle_fields
  · rintro ⟨calls, returned, _⟩
    rw [threw] at returned
    cases returned

end AhsApp.Android
