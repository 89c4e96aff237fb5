import AhsApp.Agreement.HomeFeed
import AhsApp.Agreement.HomePages
import AhsApp.Android.HomeRows
import AhsApp.Ios.HomeScreen
import AhsApp.Library.KeyedList

/-! The home pages of the two applications. Where their feeds agree, what they show of it agrees
as well: the same rows, the same articles on the same pages, the newest first. -/

namespace AhsApp.Agreement

open AhsApp.Firebase AhsApp.Library

/-- What both home pages show of an article. -/
structure HomeItem where
  id : String
  title : String
  time : Int
  imagePath : String
  category : String
  deriving DecidableEq

namespace HomeItem

def ofSlim (articleSlim : Android.ArticleSlim) : HomeItem :=
  ⟨articleSlim.id, articleSlim.title, articleSlim.timeUpdated, articleSlim.imagePath,
    articleSlim.type.getName⟩

def ofArticleData (data : Ios.ArticleData) : HomeItem where
  id := data.articleID.getD ""
  title := data.articleTitle.getD ""
  time := data.articleUnixEpoch.getD (-1)
  imagePath := (data.articleImages.getD []).head?.getD ""
  category := data.articleCatagory.getD ""

/-- What is shown of an article of the feed. -/
def ofHomeArticle (article : HomeArticle) : HomeItem where
  id := article.id.getD ""
  title := article.title.getD ""
  time := article.time.getD (-1)
  imagePath := article.images.head?.getD ""
  category := article.category.getD ""

end HomeItem

/-- A branch of the feed, as it is shown. -/
def branchItems (homepage : DataSnapshot) (index : Fin 3) : List HomeItem :=
  ((homeFeed homepage index).map Prod.fst).map .ofHomeArticle

def featuredItems (homepage : DataSnapshot) : List HomeItem :=
  ((((List.finRange 3).flatMap (homeFeed homepage)).filter (·.2)).map Prod.fst).map .ofHomeArticle

def feedItems (homepage : DataSnapshot) : List HomeItem :=
  (List.finRange 3).flatMap (branchItems homepage)

def NewestItemsFirst (items : List HomeItem) : Prop :=
  items.Pairwise fun first second => second.time ≤ first.time

/-- There is one way to list items with times of their own, the newest first. -/
theorem newestItemsFirst_eq {items listed listed' : List HomeItem}
    (distinct : (items.map HomeItem.time).Nodup) (perm : listed.Perm items)
    (perm' : listed'.Perm items) (newest : NewestItemsFirst listed)
    (newest' : NewestItemsFirst listed') : listed = listed' :=
  eq_of_perm_of_pairwise distinct (fun before after => le_antisymm after before) perm.subset
    (perm.trans perm'.symm) newest newest'

/-- Every article of the feed has a time of its own, near enough for the comparison to keep. -/
structure SpreadFeed (homepage : DataSnapshot) : Prop where
  distinct : ((feedItems homepage).map HomeItem.time).Nodup
  narrows : ∀ first ∈ feedItems homepage, ∀ second ∈ feedItems homepage,
    Android.NarrowsWell first.time second.time

private theorem branchItems_sublist (homepage : DataSnapshot) (index : Fin 3) :
    (branchItems homepage index).Sublist (feedItems homepage) :=
  List.sublist_flatten_of_mem (List.mem_map_of_mem (List.mem_finRange index))

private theorem featuredItems_sublist (homepage : DataSnapshot) :
    (featuredItems homepage).Sublist (feedItems homepage) := by
  have all : feedItems homepage =
      (((List.finRange 3).flatMap (homeFeed homepage)).map Prod.fst).map .ofHomeArticle := by
    rw [feedItems, List.map_flatMap, List.map_flatMap]
    rfl
  rw [all, featuredItems]
  exact (List.filter_sublist.map _).map _

section android

variable {homepage : DataSnapshot} {news : Android.NewsArticles}

/-- The rows of a delivery: the featured articles, then the branches. -/
def rowItems (homepage : DataSnapshot) : List (List HomeItem) :=
  featuredItems homepage :: (List.finRange 3).map (branchItems homepage)

private theorem rows_items (complete : CompleteFeed homepage)
    (read : Android.getNewsArticles homepage = some news) :
    (news.rows.map Android.toArticleSlim).map (·.map HomeItem.ofSlim) = rowItems homepage := by
  obtain ⟨loaded, returned, categories, featured⟩ := getNewsArticles_homeFeed complete
  obtain rfl : news = loaded := Option.some.inj (read.symm.trans returned)
  have slim : ∀ row : List Android.Article, (Android.toArticleSlim row).map HomeItem.ofSlim =
      (row.map HomeArticle.ofArticle).map .ofHomeArticle := by
    intro row
    rw [Android.toArticleSlim, List.map_map, List.map_map]
    rfl
  have each : news.categoryArticles.map (fun row => (Android.toArticleSlim row).map HomeItem.ofSlim) =
      (news.categoryArticles.map (·.map HomeArticle.ofArticle)).map
        (·.map HomeItem.ofHomeArticle) := by
    rw [List.map_map]
    exact List.map_congr_left fun row _ => slim row
  rw [List.map_map, Android.NewsArticles.rows, rowItems, featuredItems, List.map_cons, ← featured]
  refine congrArg₂ List.cons (slim _) (each.trans ?_)
  rw [categories, List.map_map]
  rfl

private theorem android_row_items (complete : CompleteFeed homepage) (spread : SpreadFeed homepage)
    {collections : Ranking.ListSort Android.ArticleSlim} (lawful : collections.Lawful)
    {page : Android.HomePage} (delivered : page.Delivered news)
    (read : Android.getNewsArticles homepage = some news) {position : Nat}
    {items : List HomeItem} (here : (rowItems homepage)[position]? = some items)
    (within : items.Sublist (feedItems homepage)) : ∃ title view,
      Android.newsTitles[position]? = some title ∧
      page.adapter.onBindViewHolder collections position = some view ∧ view.title = title ∧
      (view.articles.map HomeItem.ofSlim).Perm items ∧
      NewestItemsFirst (view.articles.map HomeItem.ofSlim) := by
  rw [← rows_items complete read, List.getElem?_map, List.getElem?_map, Option.map_map,
    Option.map_eq_some_iff] at here
  obtain ⟨row, here, rfl⟩ := here
  have item : ∀ article ∈ row, HomeItem.ofSlim (.ofArticle article) ∈ feedItems homepage := by
    intro article member
    exact within.subset (List.mem_map_of_mem (List.mem_map_of_mem member))
  obtain ⟨title, view, titled, binds, named, shown, same, perm, newest⟩ :=
    delivered.onBindViewHolder_shows lawful here fun first member second member' =>
      spread.narrows _ (item first member) _ (item second member')
  obtain rfl := Option.some.inj same
  exact ⟨title, view, titled, binds, named, perm.map _, List.pairwise_map.mpr newest⟩

end android

section ios

variable {homepage server : DataSnapshot}

/-- Articles sorted at a time that all of theirs have passed are listed newest first. -/
theorem newestItemsFirst_of_sorted {now : Int} {articles : List Ios.ArticleData}
    (passed : ∀ data ∈ articles, ∃ time, data.articleUnixEpoch = some time ∧ time ≤ now)
    (ordered : articles.Pairwise fun first second =>
      Ios.sortArticlesByTime now second first = false) :
    NewestItemsFirst (articles.map HomeItem.ofArticleData) := by
  refine List.pairwise_map.mpr (ordered.imp_of_mem fun {first second} here there upTo => ?_)
  obtain ⟨time, stored, _⟩ := passed first here
  obtain ⟨time', stored', past'⟩ := passed second there
  rw [Ios.sortArticlesByTime, stored, stored'] at upTo
  simpa [HomeItem.ofArticleData, stored, stored'] using (Ios.timeOrder_of_passed past').mp upTo

private theorem homeContent_items (valid : homepage.DistinctKeys) (complete : CompleteFeed homepage)
    (same : server.child "homepage" = homepage) (index : Fin 3) :
    (Ios.homeContent server index).map HomeItem.ofArticleData = branchItems homepage index := by
  rw [branchItems, ← (featuredOn_homeFeed valid complete same index).1, List.map_map]
  rfl

private theorem homeContent_time (valid : homepage.DistinctKeys) (complete : CompleteFeed homepage)
    (same : server.child "homepage" = homepage) {index : Fin 3} {data : Ios.ArticleData}
    (member : data ∈ Ios.homeContent server index) : ∃ time, data.articleUnixEpoch = some time := by
  have shown := List.mem_map_of_mem (f := HomeArticle.ofArticleData) member
  rw [(featuredOn_homeFeed valid complete same index).1, homeFeed, List.map_map] at shown
  obtain ⟨article, child, same⟩ := List.mem_map.mp shown
  obtain ⟨time, value, lower, upper⟩ := (complete index article child).time
  refine ⟨time, (congrArg HomeArticle.time same).symm.trans ?_⟩
  simp [homeArticle, DataSnapshot.asInt64, value, lower, upper]

private theorem featuredFeed_items (valid : homepage.DistinctKeys)
    (complete : CompleteFeed homepage)
    (same : server.child "homepage" = homepage) :
    (Ios.featuredFeed server).map HomeItem.ofArticleData = featuredItems homepage := by
  have each : ∀ index ∈ List.finRange 3, (Ios.featuredOn server index).map HomeItem.ofArticleData =
      (((homeFeed homepage index).filter (·.2)).map Prod.fst).map .ofHomeArticle := by
    intro index _
    rw [← (featuredOn_homeFeed valid complete same index).2, List.map_map]
    rfl
  have feed : Ios.featuredFeed server = (List.finRange 3).flatMap (Ios.featuredOn server) := by
    rw [Ios.featuredFeed, List.filter_flatMap]
    rfl
  rw [feed, featuredItems, List.map_flatMap, List.flatMap_congr each, List.filter_flatMap,
    List.map_flatMap, List.map_flatMap]

/-- Every time of the feed has passed whenever a branch arrives. -/
def TimesPassed (homepage : DataSnapshot) (events : List Ios.HomeScreenEvent) : Prop :=
  ∀ index currTime, .arrived index currTime ∈ events →
    ∀ item ∈ feedItems homepage, item.time ≤ currTime

theorem TimesPassed.homeContent {events : List Ios.HomeScreenEvent}
    (passed : TimesPassed homepage events) (valid : homepage.DistinctKeys)
    (complete : CompleteFeed homepage) (same : server.child "homepage" = homepage)
    {index : Fin 3} {currTime : Int} (arrived : .arrived index currTime ∈ events) {branch : Fin 3}
    {data : Ios.ArticleData} (member : data ∈ Ios.homeContent server branch) :
    ∃ time, data.articleUnixEpoch = some time ∧ time ≤ currTime := by
  obtain ⟨time, stored⟩ := homeContent_time valid complete same member
  have item : HomeItem.ofArticleData data ∈ feedItems homepage := by
    refine (branchItems_sublist homepage branch).subset ?_
    rw [← homeContent_items valid complete same]
    exact List.mem_map_of_mem member
  have past := passed index currTime arrived _ item
  rw [HomeItem.ofArticleData, stored] at past
  exact ⟨time, stored, past⟩

section screen

variable {internetConnected : Bool} {saved : Option (List String)}
variable {events : List Ios.HomeScreenEvent} {screen : Ios.HomeScreen}

/-- A category whose branch has arrived shows it, the newest first. -/
theorem ios_category_items (valid : homepage.DistinctKeys) (complete : CompleteFeed homepage)
    (same : server.child "homepage" = homepage) (passed : TimesPassed homepage events)
    (fixed : ∀ other, .feed (.serverChanges other) ∉ events)
    (ran : Ios.homeScreenRun (.viewDidLoad internetConnected (.launch server saved)) events =
      some screen) {index : Fin 3} (arrives : ∃ currTime, .arrived index currTime ∈ events) :
    ((screen.categories index).pages.flatten.map HomeItem.ofArticleData).Perm
        (branchItems homepage index) ∧
      NewestItemsFirst ((screen.categories index).pages.flatten.map HomeItem.ofArticleData) ∧
      (branchItems homepage index ≠ [] →
        (screen.categories index).numberOfPages = (screen.categories index).pages.length ∧
        Pages 2 (screen.categories index).pages.flatten (screen.categories index).pages) := by
  have shows' := (Ios.HomeScreen.Follows.run ran).category index
  have items := homeContent_items valid complete same index
  by_cases empty : Ios.homeContent server index = []
  · rw [Ios.drawn_of_empty fixed empty] at shows'
    obtain ⟨_, _, none⟩ := shows'
    rw [empty, List.map_nil] at items
    rw [none, ← items]
    exact ⟨.refl _, .nil, fun filled => absurd rfl filled⟩
  · obtain ⟨currTime, arrived, drawn⟩ := Ios.drawn_of_arrived fixed arrives empty
    rw [drawn] at shows'
    obtain ⟨_, _, pageCount, paged⟩ := shows'
    have perm : (screen.categories index).pages.flatten.Perm (Ios.homeContent server index) :=
      paged.flatten ▸ Ios.sortBy_perm _ _
    have ordered : (screen.categories index).pages.flatten.Pairwise fun first second =>
        Ios.sortArticlesByTime currTime second first = false := by
      rw [paged.flatten]
      exact (Ios.sortsBy_timeRank currTime Ios.ArticleData.articleUnixEpoch).sorted _
    refine ⟨items ▸ perm.map _, newestItemsFirst_of_sorted (fun data member => ?_) ordered,
      fun _ => ⟨pageCount, paged.flatten ▸ paged⟩⟩
    exact passed.homeContent valid complete same arrived (perm.subset member)

/-- The label of a category that is not empty is its title again once the branch has arrived. -/
theorem ios_category_label (valid : homepage.DistinctKeys) (complete : CompleteFeed homepage)
    (same : server.child "homepage" = homepage)
    (fixed : ∀ other, .feed (.serverChanges other) ∉ events)
    (online : .refreshAllArticles false ∉ events)
    (ran : Ios.homeScreenRun (.viewDidLoad internetConnected (.launch server saved)) events =
      some screen) {index : Fin 3} (since : index ∈ Ios.sinceLoad events)
    (filled : branchItems homepage index ≠ []) :
    (screen.categories index).label = Ios.categoryTitle index := by
  have shows' := (Ios.HomeScreen.Follows.run ran).category index
  have content : Ios.homeContent server index ≠ [] := by
    intro empty
    rw [← homeContent_items valid complete same, empty] at filled
    exact filled rfl
  obtain ⟨currTime, _, drawn⟩ :=
    Ios.drawn_of_arrived fixed (Ios.arrived_of_sinceLoad since) content
  rw [drawn, Ios.waiting_of_sinceLoad fixed online since content] at shows'
  exact shows'.1

/-- When each branch has arrived once since the last load, the carousel shows the featured
articles, the newest first. -/
theorem ios_featured_items (valid : homepage.DistinctKeys) (complete : CompleteFeed homepage)
    (same : server.child "homepage" = homepage) (passed : TimesPassed homepage events)
    (fixed : ∀ other, .feed (.serverChanges other) ∉ events)
    (once : (Ios.sinceLoad events).Perm (List.finRange 3))
    (ran : Ios.homeScreenRun (.viewDidLoad internetConnected (.launch server saved)) events =
      some screen) :
    (screen.featuredButtons.map HomeItem.ofArticleData).Perm (featuredItems homepage) ∧
      NewestItemsFirst (screen.featuredButtons.map HomeItem.ofArticleData) := by
  have shows' := (Ios.HomeScreen.Follows.run ran).featured
  have since : Ios.sinceLoad events ≠ [] := by
    intro none
    rw [none] at once
    exact absurd once.length_eq (by decide)
  obtain ⟨index, currTime, arrived, drawn⟩ : ∃ index currTime, .arrived index currTime ∈ events ∧
      (events.foldl Ios.homeShownStep (.launch server)).featured =
        some (currTime, (events.foldl Ios.homeShownStep (.launch server)).collected) :=
    Ios.featured_of_sinceLoad since
  have collected : (events.foldl Ios.homeShownStep (.launch server)).collected =
      (Ios.featuredFeed server : List Ios.ArticleData) := by
    rw [Ios.collected_eq fixed, ← Ios.sum_featuredBag]
    exact (once.map _).sum_eq
  rw [drawn, collected] at shows'
  obtain ⟨_, hidden, buttons⟩ := shows'
  have items := featuredFeed_items valid complete same
  rw [Ios.HomeScreen.featuredButtons]
  split
  · rename_i empty
    rw [(Multiset.coe_eq_zero _).mp (hidden.mp empty), List.map_nil] at items
    rw [← items]
    exact ⟨.refl _, .nil⟩
  · rename_i visible
    obtain ⟨perm, ordered⟩ := buttons (mt hidden.mpr visible)
    have perm := Multiset.coe_eq_coe.mp perm
    refine ⟨items ▸ perm.map _, newestItemsFirst_of_sorted (fun data member => ?_) ordered⟩
    obtain ⟨branch, _, here⟩ := List.mem_flatMap.mp (List.mem_of_mem_filter (perm.subset member))
    exact passed.homeContent valid complete same arrived here

end screen

end ios

private theorem newsTitles_category (index : Fin 3) :
    Android.newsTitles[index.val + 1]? = some (Ios.categoryTitle index) := by
  match index with
  | 0 => rfl
  | 1 => rfl
  | 2 => rfl

private theorem stacks_eq_pages {articles : List Android.ArticleSlim}
    {pages : List (List Ios.ArticleData)}
    (nonempty : articles ≠ []) (paged : Pages 2 pages.flatten pages)
    (same : articles.map HomeItem.ofSlim = pages.flatten.map HomeItem.ofArticleData) :
    ∃ bound, (List.range (Android.CategoryRecyclerAdapter.getItemCount articles)).mapM
        (stackAt articles) = some bound ∧
      bound.map (·.map HomeItem.ofSlim) = pages.map (·.map HomeItem.ofArticleData) := by
  refine ⟨Ios.pairLoop articles, stacks_eq_pairs nonempty, List.ext_getElem? fun position => ?_⟩
  have lengths : articles.length = pages.flatten.length := by
    simpa only [List.length_map] using congrArg List.length same
  rw [List.getElem?_map, List.getElem?_map, (Ios.pairLoop_pages articles).getElem?, paged.getElem?,
    lengths]
  split
  · rw [Option.map_some, Option.map_some, List.map_take, List.map_drop, same, List.map_take,
      List.map_drop]
  · rfl

/-- Once the page was delivered on one side, and on the other each branch has arrived once since
the last load, the two home pages show the same: in each category the same articles, the newest
first and two to a page, and the same featured ones. A category with articles has the same title
as well, unless a refresh without a connection left it at "Loading...". On neither side does it
matter what happened before or what is bound, tapped or loaded for other pages meanwhile. -/
theorem home_screens_agree {homepage : DataSnapshot} (valid : homepage.DistinctKeys)
    (complete : CompleteFeed homepage) (spread : SpreadFeed homepage) {json : Android.JsonCodec}
    {collections : Ranking.ListSort Android.ArticleSlim} (lawful : collections.Lawful)
    {cached : List Android.ArticleRow} {before after : List Android.HomeEvent}
    {fails : Nat → Bool} {page : Android.HomePage}
    (quiet : ∀ event ∈ after, event.isDelivery = false)
    (ranPage : Android.homeRun json collections (.onCreate (.idle cached))
      (before ++ .dataChanged homepage fails :: after) = some page)
    {server : DataSnapshot} (same : server.child "homepage" = homepage)
    {internetConnected : Bool} {saved : Option (List String)} {events : List Ios.HomeScreenEvent}
    {screen : Ios.HomeScreen} (fixed : ∀ other, .feed (.serverChanges other) ∉ events)
    (passed : TimesPassed homepage events)
    (once : (Ios.sinceLoad events).Perm (List.finRange 3))
    (ranScreen : Ios.homeScreenRun (.viewDidLoad internetConnected (.launch server saved)) events =
      some screen) :
    (∀ index : Fin 3, ∃ view,
      page.adapter.onBindViewHolder collections (index + 1) = some view ∧
      view.title = Ios.categoryTitle index ∧
      view.articles.map HomeItem.ofSlim =
        (screen.categories index).pages.flatten.map HomeItem.ofArticleData ∧
      (view.articles ≠ [] →
        (.refreshAllArticles false ∉ events → (screen.categories index).label = view.title) ∧
        ∃ bound, (List.range (Android.CategoryRecyclerAdapter.getItemCount view.articles)).mapM
            (stackAt view.articles) = some bound ∧
          bound.length = (screen.categories index).numberOfPages ∧
          bound.map (·.map HomeItem.ofSlim) =
            (screen.categories index).pages.map (·.map HomeItem.ofArticleData))) ∧
    ∃ view, page.adapter.onBindViewHolder collections 0 = some view ∧ view.title = "Featured" ∧
      view.articles.map HomeItem.ofSlim =
        screen.featuredButtons.map HomeItem.ofArticleData := by
  obtain ⟨news, read, _⟩ := getNewsArticles_homeFeed complete
  obtain ⟨delivered, _⟩ := Android.delivered_run read quiet ranPage
  have distinct : ∀ {items : List HomeItem}, items.Sublist (feedItems homepage) →
      (items.map HomeItem.time).Nodup := fun within =>
    spread.distinct.sublist (within.map HomeItem.time)
  refine ⟨fun index => ?_, ?_⟩
  · have here : (rowItems homepage)[index.val + 1]? = some (branchItems homepage index) := by
      simp [rowItems]
    obtain ⟨title, view, titled, binds, named, perm, newest⟩ := android_row_items complete spread
      lawful delivered read here (branchItems_sublist homepage index)
    have since : index ∈ Ios.sinceLoad events := once.mem_iff.mpr (List.mem_finRange index)
    obtain ⟨perm', newest', paged⟩ :=
      ios_category_items valid complete same passed fixed ranScreen
        (Ios.arrived_of_sinceLoad since)
    have agree := newestItemsFirst_eq (distinct (branchItems_sublist homepage index)) perm perm'
      newest newest'
    have title : view.title = Ios.categoryTitle index := by
      rw [named]
      exact Option.some.inj (titled.symm.trans (newsTitles_category index))
    refine ⟨view, binds, title, agree, fun nonempty => ?_⟩
    · have filled : branchItems homepage index ≠ [] := by
        intro empty
        rw [empty] at perm
        exact nonempty (List.map_eq_nil_iff.mp perm.eq_nil)
      obtain ⟨pageCount, paged⟩ := paged filled
      obtain ⟨bound, binds, alike⟩ := stacks_eq_pages nonempty paged agree
      have lengths := congrArg List.length alike
      rw [List.length_map, List.length_map] at lengths
      refine ⟨fun online => ?_, bound, binds, lengths.trans pageCount.symm, alike⟩
      rw [title]
      exact ios_category_label valid complete same fixed online ranScreen since filled
  · have here : (rowItems homepage)[0]? = some (featuredItems homepage) := rfl
    obtain ⟨title, view, titled, binds, named, perm, newest⟩ := android_row_items complete spread
      lawful delivered read here (featuredItems_sublist homepage)
    obtain ⟨perm', newest'⟩ :=
      ios_featured_items valid complete same passed fixed once ranScreen
    refine ⟨view, binds, ?_, ?_⟩
    · rw [named]
      exact (Option.some.inj titled).symm
    · exact newestItemsFirst_eq (distinct (featuredItems_sublist homepage)) perm perm' newest newest'

/-- A complete article with a time of its own. -/
def datedArticle (key : String) (time : Rat) (isFeatured : Bool) : DataSnapshot :=
  .node key [.leaf "articleAuthor" (.string "Staff"), .leaf "articleBody" (.string ""),
    .node "articleImages" [.leaf "0" (.string "first.png")],
    .leaf "articleTitle" (.string "News"), .leaf "articleUnixEpoch" (.number time),
    .leaf "isFeatured" (.bool isFeatured)]

def datedHomepage : DataSnapshot :=
  .node "homepage" [.node "ASB" [datedArticle "club" 2 true],
    .node "General_Info" [datedArticle "essay" 1 false, datedArticle "game" 3 true]]

private theorem datedArticle_complete (key : String) (time : Nat) (isFeatured : Bool)
    (fits : time < 2 ^ 63) : CompleteArticle (datedArticle key time isFeatured) where
  author := ⟨_, rfl⟩
  title := ⟨_, rfl⟩
  body := ⟨_, rfl⟩
  time := ⟨time, rfl, by simp [DataSnapshot.int64Min], by simp [DataSnapshot.int64Max]; omega⟩
  isFeatured := ⟨_, rfl⟩
  images := fun child member => ⟨"first.png", by obtain rfl := List.mem_singleton.mp member; rfl⟩
  videos := fun child member => by cases member

private theorem datedArticle_distinct (key : String) (time : Rat) (isFeatured : Bool) :
    (datedArticle key time isFeatured).DistinctKeys := by
  refine .node (by simp [DataSnapshot.key]) ?_
  simp only [List.forall_mem_cons]
  refine ⟨.leaf .., .leaf .., .node (by decide) ?_, .leaf .., .leaf .., .leaf .., by simp⟩
  simp only [List.forall_mem_cons]
  exact ⟨.leaf .., by simp⟩

/-- The branches arrive in another order, and notifications are tapped in between. -/
def branchesArrive : List Ios.HomeScreenEvent :=
  (List.finRange 3).reverse.flatMap fun index => [.arrived index 5, .feed (.loadAllArticles true)]

private theorem dated_times : ∀ item ∈ feedItems datedHomepage, 0 ≤ item.time ∧ item.time ≤ 3 := by
  decide

theorem dated_home_screens_agree : ∃ page screen view,
    Android.homeRun Android.oneArrayCodec .insertion (.onCreate (.idle []))
      [.dataChanged datedHomepage fun _ => false] = some page ∧
    Ios.homeScreenRun (.viewDidLoad true (.launch (.node "" [datedHomepage]) none))
      branchesArrive = some screen ∧
    page.adapter.onBindViewHolder .insertion 1 = some view ∧
    view.articles.map HomeItem.ofSlim =
      (screen.categories 0).pages.flatten.map HomeItem.ofArticleData ∧
    (screen.categories 0).label = view.title := by
  obtain ⟨page, ranPage⟩ : ∃ page, Android.homeRun Android.oneArrayCodec .insertion
      (.onCreate (.idle [])) ([] ++ .dataChanged datedHomepage (fun _ => false) :: []) = some page :=
    Option.isSome_iff_exists.mp (by decide +kernel)
  obtain ⟨screen, ranScreen, listed⟩ : ∃ screen, Ios.homeScreenRun
      (.viewDidLoad true (.launch (.node "" [datedHomepage]) none)) branchesArrive = some screen ∧
      (screen.categories 0).pages.flatten.length = 2 :=
    Option.map_eq_some_iff.mp (by decide +kernel)
  have valid : datedHomepage.DistinctKeys := by
    refine .node (by decide) ?_
    simp only [List.forall_mem_cons]
    refine ⟨.node (by decide) ?_, .node (by decide) ?_, by simp⟩
    · simp [datedArticle_distinct]
    · simp [datedArticle_distinct]
  have complete : CompleteFeed datedHomepage := by
    intro index article member
    have listed : article ∈ [datedArticle "club" (2 : Nat) true,
        datedArticle "essay" (1 : Nat) false, datedArticle "game" (3 : Nat) true] := by
      fin_cases index
      · exact List.mem_cons_of_mem _ member
      · cases member
      · exact List.mem_cons.mpr (.inl (List.mem_singleton.mp member))
    simp only [List.mem_cons, List.not_mem_nil, or_false] at listed
    rcases listed with rfl | rfl | rfl <;> exact datedArticle_complete _ _ _ (by decide)
  have spread : SpreadFeed datedHomepage := by
    refine ⟨by decide, fun first here second there => ?_⟩
    have bounds := dated_times first here
    have bounds' := dated_times second there
    unfold Android.NarrowsWell
    omega
  have passed : TimesPassed datedHomepage branchesArrive := by
    intro index currTime arrived item member
    have bounds := dated_times item member
    have now : currTime = 5 := by simpa [branchesArrive] using arrived
    omega
  obtain ⟨view, binds, _, agree, shows'⟩ := (home_screens_agree valid complete spread
    Ranking.insertion_lawful (by simp) ranPage rfl (by simp [branchesArrive]) passed (by decide)
    ranScreen).1 0
  have nonempty : view.articles ≠ [] := by
    intro empty
    rw [empty] at agree
    simp [List.map_eq_nil_iff.mp agree.symm] at listed
  exact ⟨page, screen, view, ranPage, ranScreen, binds, agree,
    (shows' nonempty).1 (by simp [branchesArrive])⟩

end AhsApp.Agreement
