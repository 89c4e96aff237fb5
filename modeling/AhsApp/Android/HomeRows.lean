import AhsApp.Android.HomePage
import AhsApp.Library.KeyedList

/-! What the home page shows of the last delivery, and that an article is started from where
it is shown. -/

namespace AhsApp.Android

open AhsApp.Firebase AhsApp.Library AhsApp.Library.Ranking

def HomeEvent.isDelivery : HomeEvent → Bool
  | dataChanged .. => true
  | _ => false

/-- The page on which an article of a row is. -/
def pageOf (row index : Nat) : Nat := if row = 0 then index else index / 2

section delivered

variable {json : JsonCodec} {collections : ListSort ArticleSlim} {page next : HomePage}

private theorem homeStep_frame {event : HomeEvent} (quiet : event.isDelivery = false)
    (taken : homeStep json collections page event = some next) :
    next.adapter = page.adapter ∧ next.cache = page.cache := by
  cases event with
  | dataChanged snapshot fails => cases quiet
  | rowBound position =>
    obtain ⟨view, _, taken⟩ := Option.bind_eq_some_iff.mp taken
    exact Option.some.inj taken ▸ ⟨rfl, rfl⟩
  | pageBound row position =>
    obtain ⟨view, _, taken⟩ := Option.bind_eq_some_iff.mp taken
    split at taken
    · obtain ⟨bound, _, taken⟩ := Option.bind_eq_some_iff.mp taken
      exact Option.some.inj taken ▸ ⟨rfl, rfl⟩
    · cases taken
  | clicked row position index =>
    obtain ⟨view, _, taken⟩ := Option.bind_eq_some_iff.mp taken
    obtain ⟨bound, _, taken⟩ := Option.bind_eq_some_iff.mp taken
    cases bound with
    | loading => exact Option.some.inj taken ▸ ⟨rfl, rfl⟩
    | featured articleSlim article =>
      obtain ⟨article, _, taken⟩ := Option.bind_eq_some_iff.mp taken
      exact Option.some.inj taken ▸ ⟨rfl, rfl⟩
    | stacked views =>
      obtain ⟨shown, _, taken⟩ := Option.bind_eq_some_iff.mp taken
      cases shown with
      | invisible => exact Option.some.inj taken ▸ ⟨rfl, rfl⟩
      | article articleSlim =>
        obtain ⟨article, _, taken⟩ := Option.bind_eq_some_iff.mp taken
        exact Option.some.inj taken ▸ ⟨rfl, rfl⟩

/-- The adapter has its titles and a list for each category, and the cache is idle. -/
structure HomePage.Ready (page : HomePage) : Prop where
  titles : page.adapter.titles = newsTitles
  three : page.adapter.articles.length = 3
  idle : ∃ rows, page.cache = .idle rows

theorem HomePage.Ready.step (ready : page.Ready) {event : HomeEvent}
    (taken : homeStep json collections page event = some next) : next.Ready := by
  cases delivery : event.isDelivery with
  | false =>
    obtain ⟨adapter, cache⟩ := homeStep_frame delivery taken
    exact ⟨adapter ▸ ready.titles, adapter ▸ ready.three, cache ▸ ready.idle⟩
  | true =>
    cases event with
    | dataChanged snapshot fails =>
      obtain ⟨news, _, rfl, three, _⟩ := dataChanged_eq ready.three taken
      obtain ⟨rows, idle⟩ := ready.idle
      refine ⟨ready.titles, (List.length_map _).trans three, ?_⟩
      simp only [HomePage.dataChanged, idle]
      exact ⟨_, ArticleDatabase.updateArticles_stored ..⟩
    | _ => cases delivery

private theorem initializeStack_getElem? {articles : List ArticleSlim} {index : Nat}
    {articleSlim : ArticleSlim} (found : articles[index]? = some articleSlim) :
    (CategoryRecyclerAdapter.initializeStack ((articles.drop (2 * (index / 2))).take 2)
      (decide (index / 2 ≠ 0 ∧ articles.length / 2 ≤ index / 2)))[index % 2]? =
        some (.article articleSlim) := by
  have inside : index < articles.length := (List.getElem?_eq_some_iff.mp found).1
  have stacked : ((articles.drop (2 * (index / 2))).take 2)[index % 2]? = some articleSlim := by
    rw [List.getElem?_take_of_lt (by omega), List.getElem?_drop, Nat.div_add_mod, found]
  rw [CategoryRecyclerAdapter.initializeStack]
  by_cases last : index / 2 ≠ 0 ∧ articles.length / 2 ≤ index / 2
  · have even : index % 2 = 0 := by omega
    rw [even] at stacked ⊢
    obtain ⟨rest, list⟩ := List.head?_eq_some_iff.mp (List.head?_eq_getElem? ▸ stacked)
    rw [decide_eq_true last, list]
    rfl
  · rw [decide_eq_false last]
    simp [← List.map_eq_flatMap, -List.map_take, stacked]

private theorem bindPage_pageOf {cache : Table ArticleRow} {articleSlim : ArticleSlim}
    {article : Article}
    (looked : ArticleDatabase.queryArticleById json articleSlim.id cache = some (some article))
    {row index : Nat} {view : RowView} (found : view.articles[index]? = some articleSlim) :
    pageOf row index < view.itemCount row ∧
      ∃ bound, view.bindPage json cache row (pageOf row index) = some bound ∧
        (bound = .featured articleSlim (some article) ∨
          ∃ views, bound = .stacked views ∧ views[index % 2]? = some (.article articleSlim)) := by
  have inside : index < view.articles.length := (List.getElem?_eq_some_iff.mp found).1
  rw [pageOf, RowView.itemCount, RowView.bindPage]
  by_cases featured : row = 0
  · rw [if_pos featured, if_pos featured, if_pos featured, FeaturedRecyclerAdapter.getItemCount,
      FeaturedRecyclerAdapter.onBindViewHolder, if_pos (by omega), if_neg (by omega)]
    refine ⟨inside, _, ?_, .inl rfl⟩
    simp [found, looked]
  · have nonempty : view.articles ≠ [] := List.ne_nil_of_length_pos (by omega)
    have counted : index / 2 < CategoryRecyclerAdapter.getItemCount view.articles := by
      rw [CategoryRecyclerAdapter.getItemCount, CategoryRecyclerAdapter.numStacked,
        if_pos (by omega)]
      split <;> omega
    rw [if_neg featured, if_neg featured, if_neg featured, CategoryRecyclerAdapter.bindPage,
      CategoryRecyclerAdapter.onBindViewHolder_eq nonempty counted]
    exact ⟨counted, _, rfl, .inr ⟨_, rfl, initializeStack_getElem? found⟩⟩

private theorem homeStep_pageBound {row position : Nat} {view : RowView} {bound : PageView}
    (viewed : page.rows row = some view) (inside : position < view.itemCount row)
    (binds : view.bindPage json page.cache row position = some bound) :
    homeStep json collections page (.pageBound row position) =
      some (page.setRow row (view.setPage position bound)) := by
  simp only [homeStep, viewed, Option.bind_eq_bind, Option.bind_some]
  rw [if_pos inside, binds]
  rfl

private theorem homeStep_clicked {row position index : Nat} {view : RowView} {bound : PageView}
    {articleSlim : ArticleSlim} {article : Article} (viewed : page.rows row = some view)
    (onPage : view.pages position = some bound)
    (looked : ArticleDatabase.queryArticleById json articleSlim.id page.cache = some (some article))
    (shows' : bound = .featured articleSlim (some article) ∨
      ∃ views, bound = .stacked views ∧ views[index]? = some (.article articleSlim)) :
    ∃ next, homeStep json collections page (.clicked row position index) = some next ∧
      next.started = page.started ++ [(articleSlim, article)] := by
  simp only [homeStep, viewed, onPage, Option.bind_eq_bind, Option.bind_some]
  rcases shows' with rfl | ⟨views, rfl, shown⟩
  · exact ⟨_, rfl, rfl⟩
  · simp only [shown, looked, Option.bind_some]
    exact ⟨_, rfl, rfl⟩

/-- An article that the cache has is started from the page of its row that shows it. -/
theorem row_starts {articleSlim : ArticleSlim} {article : Article}
    (looked : ArticleDatabase.queryArticleById json articleSlim.id page.cache = some (some article))
    {position index : Nat} {view : RowView}
    (binds : page.adapter.onBindViewHolder collections position = some view)
    (found : view.articles[index]? = some articleSlim) :
    ∃ last, homeRun json collections page [.rowBound position,
        .pageBound position (pageOf position index),
        .clicked position (pageOf position index) (index % 2)] = some last ∧
      last.started = page.started ++ [(articleSlim, article)] := by
  obtain ⟨inside, bound, bindsPage, shows'⟩ := bindPage_pageOf looked found
  have rowBound : homeStep json collections page (.rowBound position) =
      some (page.setRow position view) := by
    rw [homeStep, binds]
    rfl
  have viewed : (page.setRow position view).rows position = some view := by
    rw [HomePage.setRow_rows, if_pos rfl]
  have pageBound : homeStep json collections (page.setRow position view)
      (.pageBound position (pageOf position index)) =
        some ((page.setRow position view).setRow position
          (view.setPage (pageOf position index) bound)) :=
    homeStep_pageBound viewed inside bindsPage
  have viewedAgain : ((page.setRow position view).setRow position
      (view.setPage (pageOf position index) bound)).rows position =
        some (view.setPage (pageOf position index) bound) := by
    rw [HomePage.setRow_rows, if_pos rfl]
  have onPage : (view.setPage (pageOf position index) bound).pages (pageOf position index) =
      some bound := by
    rw [RowView.setPage_pages, if_pos rfl]
  obtain ⟨last, clicked, started⟩ := homeStep_clicked viewedAgain onPage looked shows'
  exact ⟨last, run_cons_iff.mpr ⟨_, rowBound, run_cons_iff.mpr ⟨_, pageBound,
    run_cons_iff.mpr ⟨last, clicked, rfl⟩⟩⟩, started⟩

/-- The adapter has the titles and the articles of a delivery. -/
structure HomePage.Delivered (page : HomePage) (news : NewsArticles) : Prop where
  titles : page.adapter.titles = newsTitles
  featured : page.adapter.featuredArticles = toArticleSlim news.featuredArticles
  categories : page.adapter.articles = news.categoryArticles.map toArticleSlim
  three : news.categoryArticles.length = 3

theorem delivered_run {cached : List ArticleRow} {before after : List HomeEvent}
    {snapshot : DataSnapshot} {fails : Nat → Bool} {news : NewsArticles}
    (read : getNewsArticles snapshot = some news)
    (quiet : ∀ event ∈ after, event.isDelivery = false)
    (ran : homeRun json collections (.onCreate (.idle cached))
      (before ++ .dataChanged snapshot fails :: after) = some page) :
    page.Delivered news ∧ (∀ row ∈ news.rows, row ⊆ news.allArticles) ∧
      page.cache = .idle ((storedList fails news.allArticles).map (·.values json.toJsonText)) := by
  obtain ⟨first, ranBefore, ran⟩ := run_append_iff.mp ran
  obtain ⟨second, delivered, ranAfter⟩ := run_cons_iff.mp ran
  have ready : first.Ready := run_invariant HomePage.Ready (fun _ _ => True)
    (fun ready _ taken => ready.step taken) ⟨rfl, rfl, cached, rfl⟩
    (Along.of_forall (fun _ _ _ => trivial) _) ranBefore
  obtain ⟨other, alsoRead, rfl, three, within⟩ := dataChanged_eq ready.three delivered
  obtain rfl : news = other := Option.some.inj (read.symm.trans alsoRead)
  have unchanged : (page.adapter, page.cache) =
      ((first.dataChanged json news fails).adapter, (first.dataChanged json news fails).cache) := by
    refine run_view (fun page : HomePage => (page.adapter, page.cache)) ?_ quiet ranAfter
    intro state event next quiet taken
    obtain ⟨adapter, cache⟩ := homeStep_frame quiet taken
    rw [adapter, cache]
  obtain ⟨adapter, cache⟩ := Prod.mk.inj unchanged
  refine ⟨⟨?_, ?_, ?_, three⟩, within, ?_⟩
  · rw [adapter]
    exact ready.titles
  · rw [adapter]
    rfl
  · rw [adapter]
    rfl
  · obtain ⟨rows, idle⟩ := ready.idle
    rw [cache, HomePage.dataChanged, idle]
    exact ArticleDatabase.updateArticles_stored ..

theorem HomePage.Delivered.onBindViewHolder_shows (lawful : collections.Lawful)
    {news : NewsArticles} (delivered : page.Delivered news) {position : Nat} {row : List Article}
    (here : news.rows[position]? = some row)
    (narrows : ∀ first ∈ row, ∀ second ∈ row,
      NarrowsWell first.timeUpdated second.timeUpdated) :
    ∃ title view, newsTitles[position]? = some title ∧
      page.adapter.onBindViewHolder collections position = some view ∧ view.title = title ∧
      ShowsNewestFirst (some view.articles) (toArticleSlim row) := by
  have fits : position < newsTitles.length := by
    have inside := (List.getElem?_eq_some_iff.mp here).1
    rwa [NewsArticles.rows, List.length_cons, delivered.three] at inside
  have narrowsSlim : ∀ first ∈ toArticleSlim row, ∀ second ∈ toArticleSlim row,
      NarrowsWell first.timeUpdated second.timeUpdated := by
    intro first inRow second inRow'
    obtain ⟨article, member, rfl⟩ := List.mem_map.mp inRow
    obtain ⟨other, member', rfl⟩ := List.mem_map.mp inRow'
    exact narrows article member other member'
  obtain ⟨shown, sorted, perm, ordered⟩ := sortArticles_shows lawful narrowsSlim
  refine ⟨_, ⟨newsTitles[position], shown, fun _ => none⟩, List.getElem?_eq_getElem fits, ?_, rfl,
    shown, rfl, perm, ordered⟩
  rw [NewsRecyclerAdapter.onBindViewHolder, delivered.titles, List.getElem?_eq_getElem fits]
  cases position with
  | zero =>
    obtain rfl : news.featuredArticles = row := Option.some.inj here
    have added : FeaturedRecyclerAdapter.addArticles collections page.adapter.featuredArticles []
        = some shown := by rw [delivered.featured]; exact sorted
    simp [added]
  | succ position =>
    have category : news.categoryArticles[position]? = some row := here
    have found : page.adapter.articles[position]? = some (toArticleSlim row) := by
      rw [delivered.categories, List.getElem?_map, category, Option.map_some]
    have added : CategoryRecyclerAdapter.addArticles collections (toArticleSlim row) [] =
        some shown := sorted
    simp [found, added]

end delivered

/-- After a delivery that was stored, and until the next one, each row shows its articles of
that delivery under its title, the newest first; binding the row and the page of one of them
and clicking on it starts that article. -/
theorem home_articles_start {json : JsonCodec} (roundTrips : json.RoundTrips)
    {collections : ListSort ArticleSlim} (lawful : collections.Lawful) {cached : List ArticleRow}
    {before after : List HomeEvent} {snapshot : DataSnapshot} {fails : Nat → Bool}
    {news : NewsArticles} {page : HomePage} (read : getNewsArticles snapshot = some news)
    (stored : ∀ index < news.allArticles.length, fails index = false)
    (distinct : (news.allArticles.map (·.id)).Nodup)
    (free : ∀ article ∈ news.allArticles, PlainText article.id)
    (narrows : ∀ row ∈ news.rows, ∀ first ∈ row, ∀ second ∈ row,
      NarrowsWell first.timeUpdated second.timeUpdated)
    (quiet : ∀ event ∈ after, event.isDelivery = false)
    (ran : homeRun json collections (.onCreate (.idle cached))
      (before ++ .dataChanged snapshot fails :: after) = some page)
    {position : Nat} {row : List Article} (here : news.rows[position]? = some row) :
    ∃ title view, newsTitles[position]? = some title ∧
      page.adapter.onBindViewHolder collections position = some view ∧ view.title = title ∧
      ShowsNewestFirst (some view.articles) (toArticleSlim row) ∧
      ∀ index articleSlim, view.articles[index]? = some articleSlim →
        ∃ article ∈ row, .ofArticle article = articleSlim ∧
          ∃ last, homeRun json collections page [.rowBound position,
              .pageBound position (pageOf position index),
              .clicked position (pageOf position index) (index % 2)] = some last ∧
            last.started = page.started ++ [(articleSlim, article)] := by
  obtain ⟨delivered, within, cache⟩ := delivered_run read quiet ran
  rw [storedList_of_none stored] at cache
  have member : row ∈ news.rows := List.mem_of_getElem? here
  obtain ⟨title, view, titled, binds, named, shows'⟩ :=
    delivered.onBindViewHolder_shows lawful here (narrows row member)
  refine ⟨title, view, titled, binds, named, shows', ?_⟩
  intro index articleSlim found
  obtain ⟨shown, same, perm, _⟩ := shows'
  obtain rfl := Option.some.inj same
  obtain ⟨article, inRow, rfl⟩ :=
    List.mem_map.mp (perm.subset (List.mem_of_getElem? found))
  have delivered := within row member inRow
  refine ⟨article, inRow, rfl, row_starts ?_ binds found⟩
  rw [cache, ← find?_of_mem distinct delivered]
  exact ArticleDatabase.queryArticleById_stored roundTrips _ (free article delivered)

/-- An article with nothing but its time and its flag. -/
def timedArticle (key : String) (time : Rat) : DataSnapshot :=
  .node key [.leaf "articleUnixEpoch" (.number time), .leaf "isFeatured" (.bool false)]

/-- The older of the two articles of the district comes first. -/
def bareHomepage : DataSnapshot :=
  .node "homepage" [.node "ASB" [timedArticle "rally" 1600086400],
    .node "District" [timedArticle "agenda" 1500000000, bareArticle]]

def bareNews : Article := ⟨"bare", 1600000000, "", "", "", [], [], .district⟩

def agendaNews : Article := ⟨"agenda", 1500000000, "", "", "", [], [], .district⟩

def rallyNews : Article := ⟨"rally", 1600086400, "", "", "", [], [], .asb⟩

def bareNewsArticles : NewsArticles :=
  ⟨[[], [agendaNews, bareNews], [rallyNews]], [bareNews], [agendaNews, bareNews, rallyNews]⟩

private theorem bareHomepage_news : getNewsArticles bareHomepage = some bareNewsArticles := rfl

/-- The home page once the articles are delivered. -/
def barePage : HomePage :=
  (HomePage.onCreate (.idle [])).dataChanged oneArrayCodec bareNewsArticles fun _ => false

theorem bareHomepage_delivered : homeStep oneArrayCodec .insertion (.onCreate (.idle []))
    (.dataChanged bareHomepage fun _ => false) = some barePage := rfl

/-- The row of the district, once it is bound. -/
def bareRow : RowView :=
  ⟨"District News", [.ofArticle bareNews, .ofArticle agendaNews], fun _ => none⟩

theorem barePage_binds : barePage.adapter.onBindViewHolder .insertion 2 = some bareRow := rfl

/-- The second of the two articles is clicked on. -/
theorem agenda_article_starts :
    homeRun oneArrayCodec .insertion (.onCreate (.idle []))
      [.dataChanged bareHomepage fun _ => false] = some barePage ∧
    ∃ last, homeRun oneArrayCodec .insertion barePage
        [.rowBound 2, .pageBound 2 0, .clicked 2 0 1] = some last ∧
      last.started = [(.ofArticle agendaNews, agendaNews)] := by
  have ran : homeRun oneArrayCodec .insertion (.onCreate (.idle []))
      ([] ++ .dataChanged bareHomepage (fun _ => false) :: []) = some barePage :=
    run_cons_iff.mpr ⟨barePage, bareHomepage_delivered, rfl⟩
  have here : bareNewsArticles.rows[2]? = some [agendaNews, bareNews] := rfl
  obtain ⟨title, view, titled, binds, named, shows', starts⟩ :=
    home_articles_start oneArrayCodec_roundTrips insertion_lawful bareHomepage_news
      (by simp) (by decide) (by decide)
      (by simp [NewsArticles.rows, bareNewsArticles, bareNews, agendaNews, rallyNews, NarrowsWell])
      (by simp) ran here
  obtain rfl := Option.some.inj (barePage_binds.symm.trans binds)
  refine ⟨ran, ?_⟩
  obtain ⟨article, member, same, last, ranLast, started⟩ := starts 1 (.ofArticle agendaNews) rfl
  obtain rfl : article = agendaNews := by
    rcases List.mem_pair.mp member with rfl | rfl
    · rfl
    · exact absurd same (by decide)
  exact ⟨last, ranLast, started⟩

end AhsApp.Android
