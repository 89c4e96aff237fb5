import AhsApp.Android.HomeRows

/-! What clicks on the home page start, whatever was delivered, bound and clicked before. A page
that was bound before a delivery still shows what it showed. -/

namespace AhsApp.Android

open AhsApp.Firebase AhsApp.Library AhsApp.Library.Ranking

namespace HomeEvent

/-- The articles that an event delivers. -/
def articles : HomeEvent → List Article
  | dataChanged snapshot _ => ((getNewsArticles snapshot).map NewsArticles.allArticles).getD []
  | _ => []

end HomeEvent

/-- An article of one of the deliveries. -/
def DeliveredBy (events : List HomeEvent) (article : Article) : Prop :=
  ∃ event ∈ events, article ∈ event.articles

/-- What the page shows of an article of a delivery. -/
def ShownFrom (events : List HomeEvent) (articleSlim : ArticleSlim) : Prop :=
  ∃ article, DeliveredBy events article ∧ .ofArticle article = articleSlim

section interleaving

variable (json : JsonCodec) (shown : ArticleSlim → Prop) (known : Article → Prop)

/-- The page shows articles that are shown, and keeps known ones with their IDs. -/
def PageView.Holds : PageView → Prop
  | loading => True
  | featured articleSlim article =>
    shown articleSlim ∧ ∀ found ∈ article, known found ∧ found.id = articleSlim.id
  | stacked views => ∀ articleSlim, .article articleSlim ∈ views → shown articleSlim

structure RowView.Holds (view : RowView) : Prop where
  articles : ∀ articleSlim ∈ view.articles, shown articleSlim
  pages : ∀ position bound, view.pages position = some bound → bound.Holds shown known

structure HomePage.Holds (page : HomePage) : Prop where
  three : page.adapter.articles.length = 3
  featured : ∀ articleSlim ∈ page.adapter.featuredArticles, shown articleSlim
  categories : ∀ row ∈ page.adapter.articles, ∀ articleSlim ∈ row, shown articleSlim
  cache : ∃ stored : List Article, page.cache = .idle (stored.map (·.values json.toJsonText)) ∧
    ∀ article ∈ stored, known article
  rows : ∀ row view, page.rows row = some view → view.Holds shown known
  started : ∀ pair ∈ page.started, shown pair.1 ∧ known pair.2 ∧ pair.2.id = pair.1.id

end interleaving

private theorem initializeStack_mem {articlesStacked : List ArticleSlim} {notFull : Bool}
    {articleSlim : ArticleSlim}
    (member : .article articleSlim ∈
      CategoryRecyclerAdapter.initializeStack articlesStacked notFull) :
    articleSlim ∈ articlesStacked := by
  obtain ⟨other, here, view⟩ := List.mem_flatMap.mp member
  cases notFull <;> simp_all

/-- What a position of a category shows is from the list, in its order. -/
theorem onBindViewHolder_sublist {articles articlesStacked : List ArticleSlim} {position : Nat}
    {notFull : Bool} (inside : position < CategoryRecyclerAdapter.getItemCount articles)
    (bound : CategoryRecyclerAdapter.onBindViewHolder articles position =
      some (.stack articlesStacked notFull)) : articlesStacked.Sublist articles := by
  have nonempty : articles ≠ [] := by
    rintro rfl
    cases bound
  rw [CategoryRecyclerAdapter.onBindViewHolder_eq nonempty inside] at bound
  obtain ⟨rfl, _⟩ := CategoryRecyclerAdapter.Bound.stack.inj (Option.some.inj bound)
  exact (List.take_sublist ..).trans (List.drop_sublist ..)

namespace HomePage.Holds

variable {json : JsonCodec} {collections : ListSort ArticleSlim} {page next : HomePage}
variable {shown : ArticleSlim → Prop} {known : Article → Prop}

theorem lookup (holds : page.Holds json shown known) (roundTrips : json.RoundTrips)
    {articleSlim : ArticleSlim} (free : PlainText articleSlim.id) :
    ∃ article, ArticleDatabase.queryArticleById json articleSlim.id page.cache = some article ∧
      ∀ found ∈ article, known found ∧ found.id = articleSlim.id := by
  obtain ⟨stored, cached, allKnown⟩ := holds.cache
  refine ⟨_, cached ▸ ArticleDatabase.queryArticleById_stored roundTrips stored free, ?_⟩
  intro found first
  have same := List.find?_some first
  exact ⟨allKnown found (List.mem_of_find?_eq_some first), by simpa using same⟩

theorem setRow (holds : page.Holds json shown known) {row : Nat} {view : RowView}
    (kept : view.Holds shown known) : (page.setRow row view).Holds json shown known where
  three := holds.three
  featured := holds.featured
  categories := holds.categories
  cache := holds.cache
  started := holds.started
  rows other viewed found := by
    rw [setRow_rows] at found
    split at found
    · exact Option.some.inj found ▸ kept
    · exact holds.rows other viewed found

theorem start (holds : page.Holds json shown known) {articleSlim : ArticleSlim}
    {article : Option Article} (here : shown articleSlim)
    (kept : ∀ found ∈ article, known found ∧ found.id = articleSlim.id) :
    (page.start articleSlim article).Holds json shown known where
  three := holds.three
  featured := holds.featured
  categories := holds.categories
  cache := holds.cache
  rows := holds.rows
  started pair member := by
    rcases List.mem_append.mp member with older | latest
    · exact holds.started pair older
    · simp only [Option.mem_toList, Option.map_eq_some_iff] at latest
      obtain ⟨found, rfl, rfl⟩ := latest
      exact ⟨here, kept found rfl⟩

end HomePage.Holds

theorem RowView.Holds.setPage {shown : ArticleSlim → Prop} {known : Article → Prop}
    {view : RowView} (holds : view.Holds shown known) {position : Nat} {bound : PageView}
    (kept : bound.Holds shown known) : (view.setPage position bound).Holds shown known where
  articles := holds.articles
  pages other found here := by
    rw [RowView.setPage_pages] at here
    split at here
    · exact Option.some.inj here ▸ kept
    · exact holds.pages other found here

namespace HomePage.Holds

variable {json : JsonCodec} {collections : ListSort ArticleSlim} {page next : HomePage}
variable {shown : ArticleSlim → Prop} {known : Article → Prop}

theorem dataChanged (holds : page.Holds json shown known) {news : NewsArticles}
    {fails : Nat → Bool} (three : news.categoryArticles.length = 3)
    (within : ∀ row ∈ news.rows, row ⊆ news.allArticles)
    (delivered : ∀ article ∈ news.allArticles, shown (.ofArticle article) ∧ known article) :
    (page.dataChanged json news fails).Holds json shown known where
  three := (List.length_map _).trans three
  featured articleSlim member := by
    obtain ⟨article, here, rfl⟩ := List.mem_map.mp member
    exact (delivered article (within _ List.mem_cons_self here)).1
  categories row member articleSlim here := by
    obtain ⟨articles, category, rfl⟩ := List.mem_map.mp member
    obtain ⟨article, inside, rfl⟩ := List.mem_map.mp here
    exact (delivered article (within _ (List.mem_cons_of_mem _ category) inside)).1
  cache := by
    obtain ⟨stored, cached, _⟩ := holds.cache
    refine ⟨storedList fails news.allArticles, ?_, fun article member => ?_⟩
    · simp only [HomePage.dataChanged, cached]
      exact ArticleDatabase.updateArticles_stored ..
    · exact (delivered article (storedList_subset fails _ member)).2
  rows := holds.rows
  started := holds.started

theorem rowBound (holds : page.Holds json shown known) (permutes : collections.Permutes)
    {position : Nat} {view : RowView}
    (bound : page.adapter.onBindViewHolder collections position = some view) :
    view.Holds shown known := by
  obtain ⟨title, _, bound⟩ := Option.bind_eq_some_iff.mp bound
  split at bound
  · obtain ⟨articles, sorted, bound⟩ := Option.bind_eq_some_iff.mp bound
    obtain rfl := Option.some.inj bound
    have perm := permutes sorted
    exact ⟨fun articleSlim member => holds.featured articleSlim (perm.subset member),
      fun _ _ none => nomatch none⟩
  · obtain ⟨row, found, bound⟩ := Option.bind_eq_some_iff.mp bound
    obtain ⟨articles, sorted, bound⟩ := Option.bind_eq_some_iff.mp bound
    obtain rfl := Option.some.inj bound
    have perm := permutes sorted
    exact ⟨fun articleSlim member => holds.categories row (List.mem_of_getElem? found) articleSlim
      (perm.subset member), fun _ _ none => nomatch none⟩

theorem pageBound (holds : page.Holds json shown known) (roundTrips : json.RoundTrips)
    (free : ∀ articleSlim, shown articleSlim → PlainText articleSlim.id) {row position : Nat}
    {view : RowView} (kept : view.Holds shown known) (inside : position < view.itemCount row)
    {bound : PageView} (binds : view.bindPage json page.cache row position = some bound) :
    bound.Holds shown known := by
  rw [RowView.itemCount] at inside
  rw [RowView.bindPage] at binds
  split at binds
  · rw [FeaturedRecyclerAdapter.onBindViewHolder] at binds
    split at binds
    · obtain rfl := Option.some.inj binds
      trivial
    · obtain ⟨articleSlim, found, binds⟩ := Option.bind_eq_some_iff.mp binds
      have here := kept.articles articleSlim (List.mem_of_getElem? found)
      obtain ⟨article, looked, same⟩ := holds.lookup roundTrips (free articleSlim here)
      rw [looked] at binds
      obtain rfl := Option.some.inj binds
      exact ⟨here, same⟩
  · rename_i category
    rw [if_neg category] at inside
    rw [CategoryRecyclerAdapter.bindPage] at binds
    obtain ⟨stack, bound', binds⟩ := Option.bind_eq_some_iff.mp binds
    cases stack with
    | loading =>
      obtain rfl := Option.some.inj binds
      trivial
    | stack articlesStacked notFull =>
      obtain rfl := Option.some.inj binds
      intro articleSlim member
      exact kept.articles articleSlim
        ((onBindViewHolder_sublist inside bound').subset (initializeStack_mem member))

/-- A click on a page that is bound returns. -/
theorem clicked (holds : page.Holds json shown known) (roundTrips : json.RoundTrips)
    (free : ∀ articleSlim, shown articleSlim → PlainText articleSlim.id) {row position index : Nat}
    {view : RowView} (viewed : page.rows row = some view) {bound : PageView}
    (onPage : view.pages position = some bound)
    (inside : ∀ views, bound = .stacked views → index < views.length) :
    ∃ next, homeStep json collections page (.clicked row position index) = some next ∧
      next.Holds json shown known := by
  have kept := holds.rows row view viewed
  have keptPage := kept.pages position bound onPage
  simp only [homeStep, viewed, onPage, Option.bind_eq_bind, Option.bind_some]
  cases bound with
  | loading => exact ⟨page, rfl, holds⟩
  | featured articleSlim article =>
    obtain ⟨here, same⟩ := keptPage
    cases article with
    | some article =>
      exact ⟨_, rfl, (holds.start here same).setRow (kept.setPage ⟨here, same⟩)⟩
    | none =>
      obtain ⟨article, looked, same⟩ := holds.lookup roundTrips (free articleSlim here)
      simp only [FeaturedRecyclerAdapter.onClick, looked, Option.bind_some]
      exact ⟨_, rfl, (holds.start here same).setRow (kept.setPage ⟨here, same⟩)⟩
  | stacked views =>
    have within : index < views.length := inside views rfl
    have found := List.getElem?_eq_getElem within
    simp only [found, Option.bind_some]
    cases shownThere : views[index] with
    | invisible => exact ⟨page, rfl, holds⟩
    | article articleSlim =>
      have here := keptPage articleSlim (shownThere ▸ List.getElem_mem _)
      obtain ⟨article, looked, same⟩ := holds.lookup roundTrips (free articleSlim here)
      simp only [looked, Option.bind_some]
      exact ⟨_, rfl, holds.start here same⟩

/-- Every step that returns keeps what holds. -/
theorem step (holds : page.Holds json shown known) (roundTrips : json.RoundTrips)
    (permutes : collections.Permutes)
    (free : ∀ articleSlim, shown articleSlim → PlainText articleSlim.id) {event : HomeEvent}
    (delivered : ∀ article ∈ event.articles, shown (.ofArticle article) ∧ known article)
    (taken : homeStep json collections page event = some next) : next.Holds json shown known := by
  cases event with
  | dataChanged snapshot fails =>
    obtain ⟨news, read, rfl, three, within⟩ := dataChanged_eq holds.three taken
    refine holds.dataChanged three within fun article member => delivered article ?_
    rw [HomeEvent.articles, read]
    exact member
  | rowBound position =>
    obtain ⟨view, bound, taken⟩ := Option.bind_eq_some_iff.mp taken
    obtain rfl := Option.some.inj taken
    exact holds.setRow (holds.rowBound permutes bound)
  | pageBound row position =>
    obtain ⟨view, viewed, taken⟩ := Option.bind_eq_some_iff.mp taken
    split at taken
    · rename_i inside
      obtain ⟨bound, binds, taken⟩ := Option.bind_eq_some_iff.mp taken
      obtain rfl := Option.some.inj taken
      have kept := holds.rows row view viewed
      exact holds.setRow (kept.setPage (holds.pageBound roundTrips free kept inside binds))
    · cases taken
  | clicked row position index =>
    obtain ⟨view, viewed, clickedPage⟩ := Option.bind_eq_some_iff.mp taken
    obtain ⟨bound, onPage, clickedView⟩ := Option.bind_eq_some_iff.mp clickedPage
    have inside : ∀ views, bound = .stacked views → index < views.length := by
      rintro views rfl
      obtain ⟨articleView, found, _⟩ := Option.bind_eq_some_iff.mp clickedView
      exact (List.getElem?_eq_some_iff.mp found).1
    obtain ⟨other, same, kept⟩ : ∃ other, homeStep json collections page
        (.clicked row position index) = some other ∧ other.Holds json shown known :=
      holds.clicked roundTrips free viewed onPage inside
    obtain rfl := Option.some.inj (same.symm.trans taken)
    exact kept

theorem onCreate {cached : List Article} (allKnown : ∀ article ∈ cached, known article) :
    (HomePage.onCreate (.idle (cached.map (·.values json.toJsonText)))).Holds json shown known where
  three := rfl
  featured _ member := nomatch member
  categories row member articleSlim here := by
    rw [List.eq_of_mem_replicate member] at here
    cases here
  cache := ⟨cached, rfl, allKnown⟩
  rows _ _ none := nomatch none
  started _ member := nomatch member

end HomePage.Holds

/-- Whatever is delivered, bound and clicked in whichever order: an article that is started has
the ID of what was clicked on, which shows an article of a delivery; it was delivered or was in
the cache before. A click on what is bound returns. -/
theorem clicks_start_same_id {json : JsonCodec} (roundTrips : json.RoundTrips)
    {collections : ListSort ArticleSlim} (permutes : collections.Permutes)
    {cached : List Article} {events : List HomeEvent} {page : HomePage}
    (free : ∀ article, DeliveredBy events article → PlainText article.id)
    (ran : homeRun json collections
      (.onCreate (.idle (cached.map (·.values json.toJsonText)))) events = some page) :
    (∀ pair ∈ page.started, ShownFrom events pair.1 ∧ pair.2.id = pair.1.id ∧
      (pair.2 ∈ cached ∨ DeliveredBy events pair.2)) ∧
    ∀ row position view bound index, page.rows row = some view →
      view.pages position = some bound →
      (∀ views, bound = .stacked views → index < views.length) →
      (homeStep json collections page (.clicked row position index)).isSome := by
  have freeShown : ∀ articleSlim, ShownFrom events articleSlim → PlainText articleSlim.id := by
    rintro _ ⟨article, delivered, rfl⟩
    exact free article delivered
  have holds : page.Holds json (ShownFrom events)
      (fun article => article ∈ cached ∨ DeliveredBy events article) := by
    refine run_invariant _ (fun _ event => event ∈ events) ?_ (.onCreate fun _ => .inl)
      (Along.of_forall (fun _ _ member => member) _) ran
    intro state event next holds member taken
    refine holds.step roundTrips permutes freeShown ?_ taken
    intro article here
    have delivered : DeliveredBy events article := ⟨event, member, here⟩
    exact ⟨⟨article, delivered, rfl⟩, .inr delivered⟩
  constructor
  · intro pair member
    obtain ⟨from', known, same⟩ := holds.started pair member
    exact ⟨from', same, known⟩
  · intro row position view bound index viewed onPage inside
    obtain ⟨next, taken, _⟩ := holds.clicked roundTrips freeShown viewed onPage inside
    exact Option.isSome_of_eq_some taken

def bareClick : List HomeEvent :=
  [.dataChanged bareHomepage fun _ => false, .rowBound 2, .pageBound 2 0, .clicked 2 0 0]

private theorem bareClick_delivers {article : Article} (delivered : DeliveredBy bareClick article) :
    article ∈ bareNewsArticles.allArticles := by
  obtain ⟨event, member, here⟩ := delivered
  simp only [bareClick, List.mem_cons, List.not_mem_nil, or_false] at member
  rcases member with rfl | rfl | rfl | rfl
  · exact here
  all_goals cases here

theorem bare_click_starts_same_id : ∃ page,
    homeRun oneArrayCodec .insertion (.onCreate (.idle [])) bareClick = some page ∧
    page.started = [(.ofArticle bareNews, bareNews)] ∧
    ∀ pair ∈ page.started, pair.2.id = pair.1.id := by
  have looked : ArticleDatabase.queryArticleById oneArrayCodec (ArticleSlim.ofArticle bareNews).id
      barePage.cache = some (some bareNews) := by
    have cached : barePage.cache =
        .idle (bareNewsArticles.allArticles.map (·.values oneArrayCodec.toJsonText)) := rfl
    rw [cached]
    exact ArticleDatabase.queryArticleById_stored oneArrayCodec_roundTrips _ (by decide)
  have first : bareRow.articles[0]? = some (.ofArticle bareNews) := rfl
  obtain ⟨page, ranLast, started⟩ := row_starts looked barePage_binds first
  have ran : homeRun oneArrayCodec .insertion
      (.onCreate (.idle (([] : List Article).map (·.values oneArrayCodec.toJsonText)))) bareClick =
        some page :=
    run_cons_iff.mpr ⟨barePage, bareHomepage_delivered, ranLast⟩
  have free : ∀ article, DeliveredBy bareClick article → PlainText article.id := by
    intro article delivered
    have plain : ∀ article ∈ bareNewsArticles.allArticles, PlainText article.id := by decide
    exact plain article (bareClick_delivers delivered)
  refine ⟨page, ran, started, fun pair member => ?_⟩
  exact ((clicks_start_same_id oneArrayCodec_roundTrips insertion_permutes free ran).1
    pair member).2.1

end AhsApp.Android
