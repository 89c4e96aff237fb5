import AhsApp.Android.NewestFirst
import AhsApp.Android.NewsDecoder
import AhsApp.Android.StoredLists
import Mathlib.Logic.Function.Basic

/-! The home page while it is open: its rows, the pages of a row, and what a click starts.
Rows and pages keep what they were bound to until they are bound again; articles are
looked up in the cache by their ID. -/

namespace AhsApp.Android

open AhsApp.Firebase AhsApp.Library AhsApp.Library.Ranking

def ArticleSlim.ofArticle (article : Article) : ArticleSlim where
  id := article.id
  timeUpdated := article.timeUpdated
  title := article.title
  imagePath := article.imagePaths.head?.getD ""
  type := article.type

def toArticleSlim (articles : List Article) : List ArticleSlim := articles.map .ofArticle

/-- What a page of a row is bound to. A featured article comes with what the cache had. -/
inductive PageView where
  | loading
  | featured (articleSlim : ArticleSlim) (article : Option Article)
  | stacked (views : List (CategoryRecyclerAdapter.StackView ArticleSlim))

namespace FeaturedRecyclerAdapter

def getItemCount (articles : List ArticleSlim) : Nat :=
  if articles.length > 0 then articles.length else 1

/-- A subscript out of range throws. -/
def onBindViewHolder (json : JsonCodec) (cache : Table ArticleRow) (articles : List ArticleSlim)
    (position : Nat) : Option PageView :=
  if articles.length = 0 then some .loading
  else do
    let articleSlim ← articles[position]?
    let article ← ArticleDatabase.queryArticleById json articleSlim.id cache
    some (.featured articleSlim article)

/-- The article that is started, which is looked up again if there was none. -/
def onClick (json : JsonCodec) (cache : Table ArticleRow) (articleSlim : ArticleSlim) :
    Option Article → Option (Option Article)
  | some article => some (some article)
  | none => ArticleDatabase.queryArticleById json articleSlim.id cache

end FeaturedRecyclerAdapter

def CategoryRecyclerAdapter.bindPage (articles : List ArticleSlim) (position : Nat) :
    Option PageView := do
  match ← onBindViewHolder articles position with
  | .loading => some .loading
  | .stack articlesStacked notFull => some (.stacked (initializeStack articlesStacked notFull))

/-- A row of the home page with an adapter of its own, and its pages that were bound. -/
structure RowView where
  title : String
  articles : List ArticleSlim
  pages : Nat → Option PageView

structure NewsRecyclerAdapter where
  titles : List String
  featuredArticles : List ArticleSlim
  articles : List (List ArticleSlim)

namespace NewsRecyclerAdapter

/-- The constructor. -/
def ofTitles (titles : List String) : NewsRecyclerAdapter :=
  ⟨titles, [], List.replicate (titles.length - 1) []⟩

def setFeaturedArticles (articles : List ArticleSlim) (adapter : NewsRecyclerAdapter) :
    NewsRecyclerAdapter :=
  { adapter with featuredArticles := articles }

def setCategoryArticlesAtPosition (articles : List ArticleSlim) (position : Nat)
    (adapter : NewsRecyclerAdapter) : NewsRecyclerAdapter :=
  if position < adapter.articles.length then
    { adapter with articles := adapter.articles.set position articles }
  else adapter

/-- A row gets a new adapter, which sorts; that and a subscript out of range may throw. -/
def onBindViewHolder (collections : ListSort ArticleSlim) (adapter : NewsRecyclerAdapter)
    (position : Nat) : Option RowView := do
  let title ← adapter.titles[position]?
  if position = 0 then
    let articles ← FeaturedRecyclerAdapter.addArticles collections adapter.featuredArticles []
    some ⟨title, articles, fun _ => none⟩
  else
    let row ← adapter.articles[position - 1]?
    let articles ← CategoryRecyclerAdapter.addArticles collections row []
    some ⟨title, articles, fun _ => none⟩

end NewsRecyclerAdapter

/-- The open page, with the cache and the articles that were started, each with what was
clicked on. -/
structure HomePage where
  adapter : NewsRecyclerAdapter
  cache : Table ArticleRow
  rows : Nat → Option RowView
  started : List (ArticleSlim × Article)

def newsTitles : List String := ["Featured", "General Info", "District News", "ASB News"]

inductive HomeEvent where
  | dataChanged (snapshot : DataSnapshot) (fails : Nat → Bool)
  | rowBound (position : Nat)
  | pageBound (row position : Nat)
  | clicked (row position index : Nat)

namespace HomePage

def onCreate (cache : Table ArticleRow) : HomePage :=
  ⟨.ofTitles newsTitles, cache, fun _ => none, []⟩

def callback (json : JsonCodec) (fails : Nat → Bool) (page : HomePage) : NewsCallback → HomePage
  | .onDataLoaded => page
  | .onArticleLoaded _ => page
  | .onFeaturedArticlesLoaded articles =>
    { page with adapter := page.adapter.setFeaturedArticles (toArticleSlim articles) }
  | .onCategoryArticlesLoaded position articles => { page with
      adapter := page.adapter.setCategoryArticlesAtPosition (toArticleSlim articles) position }
  | .onAllArticlesLoaded articles =>
    { page with cache := ArticleDatabase.updateArticles json.toJsonText fails articles page.cache }

end HomePage

namespace RowView

/-- How many pages the adapter of the row has. -/
def itemCount (row : Nat) (view : RowView) : Nat :=
  if row = 0 then FeaturedRecyclerAdapter.getItemCount view.articles
  else CategoryRecyclerAdapter.getItemCount view.articles

def bindPage (json : JsonCodec) (cache : Table ArticleRow) (row position : Nat) (view : RowView) :
    Option PageView :=
  if row = 0 then FeaturedRecyclerAdapter.onBindViewHolder json cache view.articles position
  else CategoryRecyclerAdapter.bindPage view.articles position

def setPage (position : Nat) (page : PageView) (view : RowView) : RowView :=
  { view with pages := Function.update view.pages position (some page) }

theorem setPage_pages (position : Nat) (page : PageView) (view : RowView) (other : Nat) :
    (view.setPage position page).pages other =
      if other = position then some page else view.pages other :=
  Function.update_apply ..

end RowView

namespace HomePage

def setRow (row : Nat) (view : RowView) (page : HomePage) : HomePage :=
  { page with rows := Function.update page.rows row (some view) }

theorem setRow_rows (row : Nat) (view : RowView) (page : HomePage) (other : Nat) :
    (page.setRow row view).rows other = if other = row then some view else page.rows other :=
  Function.update_apply ..

/-- `onItemClicked`, unless the cache has no article. -/
def start (articleSlim : ArticleSlim) (article : Option Article) (page : HomePage) : HomePage :=
  { page with started := page.started ++ (article.map (articleSlim, ·)).toList }

end HomePage

/-- A step that throws ends the run. A featured page keeps the article that a click found. -/
def homeStep (json : JsonCodec) (collections : ListSort ArticleSlim) (page : HomePage) :
    HomeEvent → Option HomePage
  | .dataChanged snapshot fails =>
    match NewsListener.onDataChange snapshot with
    | .ok calls => some (calls.foldl (HomePage.callback json fails) page)
    | .error _ => none
  | .rowBound position => do
    let view ← page.adapter.onBindViewHolder collections position
    some (page.setRow position view)
  | .pageBound row position => do
    let view ← page.rows row
    if position < view.itemCount row then
      let bound ← view.bindPage json page.cache row position
      some (page.setRow row (view.setPage position bound))
    else none
  | .clicked row position index => do
    let view ← page.rows row
    match ← view.pages position with
    | .loading => some page
    | .featured articleSlim article =>
      let article ← FeaturedRecyclerAdapter.onClick json page.cache articleSlim article
      some ((page.start articleSlim article).setRow row
        (view.setPage position (.featured articleSlim article)))
    | .stacked views =>
      match ← views[index]? with
      | .invisible => some page
      | .article articleSlim =>
        let article ← ArticleDatabase.queryArticleById json articleSlim.id page.cache
        some (page.start articleSlim article)

abbrev homeRun (json : JsonCodec) (collections : ListSort ArticleSlim) :
    HomePage → List HomeEvent → Option HomePage :=
  run (homeStep json collections)

/-- The articles of each row, in the order of the titles. -/
def NewsArticles.rows (news : NewsArticles) : List (List Article) :=
  news.featuredArticles :: news.categoryArticles

namespace NewsListener

private theorem onDataChange_getNewsArticles {snapshot : DataSnapshot} {calls : List NewsCallback}
    (returned : onDataChange snapshot = .ok calls) :
    ∃ generalInfo district asb : List (Article × Bool),
      calls = newsCalls [(generalInfo, 0), (district, 1), (asb, 2)] ∧
      getNewsArticles snapshot = some {
        categoryArticles := [generalInfo, district, asb].map (·.map Prod.fst)
        featuredArticles := ([generalInfo, district, asb].flatten.filter (·.2)).map Prod.fst
        allArticles := [generalInfo, district, asb].flatten.map Prod.fst } := by
  obtain ⟨succeeds, fails⟩ := onDataChange_spec snapshot
  cases mapped : newsCategories.zipIdx.mapM (loadedCategory snapshot) with
  | none =>
    obtain ⟨before, threw⟩ := fails mapped
    rw [threw] at returned
    cases returned
  | some loaded =>
    rw [succeeds loaded mapped] at returned
    obtain rfl := Except.ok.inj returned
    have read : newsCategories.zipIdx = [(("General_Info", .generalInfo), 0),
      (("District", .district), 1), (("ASB", .asb), 2)] := rfl
    simp only [read, List.mapM_cons, List.mapM_nil, loadedCategory, Option.bind_eq_bind,
      Option.bind_eq_some_iff, Option.map_eq_some_iff, Option.pure_def, Option.some.injEq] at mapped
    obtain ⟨_, ⟨generalInfo, first, rfl⟩, _, ⟨_, ⟨district, second, rfl⟩, _,
      ⟨_, ⟨asb, third, rfl⟩, _, rfl, rfl⟩, rfl⟩, rfl⟩ := mapped
    refine ⟨generalInfo, district, asb, rfl, ?_⟩
    simp [getNewsArticles, newsCategories, first, second, third]

end NewsListener

/-- The page after a delivery. -/
def HomePage.dataChanged (json : JsonCodec) (news : NewsArticles) (fails : Nat → Bool)
    (page : HomePage) : HomePage := { page with
  adapter := { page.adapter with
    featuredArticles := toArticleSlim news.featuredArticles
    articles := news.categoryArticles.map toArticleSlim }
  cache := ArticleDatabase.updateArticles json.toJsonText fails news.allArticles page.cache }

section delivery

variable {json : JsonCodec} {collections : ListSort ArticleSlim} {page next : HomePage}
variable {snapshot : DataSnapshot} {fails : Nat → Bool}

private theorem categoryCalls_fold (category : NewsListener.LoadedCategory) :
    (NewsListener.categoryCalls category).foldl (HomePage.callback json fails) page =
      page.callback json fails
        (.onCategoryArticlesLoaded category.2 (category.1.map Prod.fst)) := by
  have passed : (category.1.map fun article => NewsCallback.onArticleLoaded article.1).foldl
      (HomePage.callback json fails) page = page := by
    induction category.1 with
    | nil => rfl
    | cons article rest ih => exact ih
  rw [NewsListener.categoryCalls, List.foldl_append, passed]
  rfl

/-- Every list of a row is replaced. -/
theorem dataChanged_eq (three : page.adapter.articles.length = 3)
    (taken : homeStep json collections page (.dataChanged snapshot fails) = some next) :
    ∃ news, getNewsArticles snapshot = some news ∧ next = page.dataChanged json news fails ∧
      news.categoryArticles.length = 3 ∧ ∀ row ∈ news.rows, row ⊆ news.allArticles := by
  rw [homeStep] at taken
  cases returned : NewsListener.onDataChange snapshot with
  | error calls =>
    rw [returned] at taken
    cases taken
  | ok calls =>
    rw [returned] at taken
    obtain rfl := Option.some.inj taken
    obtain ⟨generalInfo, district, asb, rfl, read⟩ :=
      NewsListener.onDataChange_getNewsArticles returned
    refine ⟨_, read, ?_, rfl, ?_⟩
    · obtain ⟨first, second, third, rows⟩ := List.length_eq_three.mp three
      simp [NewsListener.newsCalls, List.foldl_append, categoryCalls_fold, HomePage.callback,
        NewsRecyclerAdapter.setCategoryArticlesAtPosition, NewsRecyclerAdapter.setFeaturedArticles,
        NewsListener.featured, rows, HomePage.dataChanged]
    · simp only [NewsArticles.rows, List.forall_mem_cons, List.map_cons, List.map_nil]
      refine ⟨?_, ?_, ?_, ?_, by simp⟩
      · exact List.map_subset _ (List.filter_subset_self _)
      all_goals
        refine List.map_subset _ ?_
        simp

end delivery

end AhsApp.Android
