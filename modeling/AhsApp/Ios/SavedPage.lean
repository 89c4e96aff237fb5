import AhsApp.Ios.MainScreen

/-! What the tabs, the bookmarks and the list of saved articles show: the articles that are
bookmarked, however the pages were opened and left. -/

namespace AhsApp.Ios

open AhsApp.Library

universe u

variable {Data : Type u}

/-- What the user did: the selected tab, the bookmarked articles, and the pages on top. -/
structure Bookmarks where
  selected : Tab
  saved : String → Option ArticleData
  notificationsPage : Bool
  page : Option ArticleData

namespace Bookmarks

def install : Bookmarks := ⟨.home, fun _ => none, false, none⟩

def isSaved (bookmarks : Bookmarks) (article : ArticleData) : Bool :=
  (article.articleID.bind bookmarks.saved).isSome

/-- Pressing the bookmark adds the article or takes out the one with its ID. -/
def toggle (bookmarks : Bookmarks) (article : ArticleData) : Bookmarks :=
  match article.articleID with
  | some articleID => { bookmarks with
      saved := Function.update bookmarks.saved articleID
        (if bookmarks.isSaved article then none else some article) }
  | none => bookmarks

end Bookmarks

def bookmarkStep (bookmarks : Bookmarks) : ScreenEvent → Bookmarks
  | .didPressTab tag _ => { bookmarks with selected := tag }
  | .openNotifications => { bookmarks with notificationsPage := true }
  | .exitPopup => { bookmarks with notificationsPage := false }
  | .articlePosted articleContent =>
    if bookmarks.notificationsPage = false ∧ bookmarks.page = none then
      { bookmarks with page := some articleContent }
    else bookmarks
  | .savedButtonPressed article => { bookmarks with page := some article }
  | .notificationOpened articleContent => { bookmarks with page := some articleContent }
  | .saveArticle => (bookmarks.page.map bookmarks.toggle).getD bookmarks
  | .exitArticle _ => { bookmarks with page := none }
  | .handlePan _ =>
    if bookmarks.page.isSome then { bookmarks with page := none }
    else { bookmarks with notificationsPage := false }
  | .resetPreferences => { bookmarks with saved := fun _ => none }
  | .relaunch => { Bookmarks.install with saved := bookmarks.saved }

/-- The name in the top bar; home has its own content instead. -/
def Tab.pageName : Tab → Option String
  | home => none
  | bulletin => some "Student Bulletin"
  | saved => some "Saved"
  | settings => some "Settings"

/-- The tab's button is highlighted, its page alone is in the content view, and the top bar is
the tab's. -/
structure TabBar.Shows (bar : TabBar) (tab : Tab) : Prop where
  selectedIndex : bar.selectedIndex = tab
  tintColor : ∀ other, bar.tintColor other = .inverseBackground ↔ other = tab
  unselected : ∀ other ≠ tab, bar.tintColor other = .backgroundGray
  children : bar.children = [tab]
  height : bar.topBar.height = if tab = .home then 62 else 60
  shadowColor : bar.topBar.shadowColor = if tab = .bulletin then .clear else .backgroundGray
  homeTopBarContent : bar.topBar.homeTopBarContentHidden = false ↔ tab = .home
  topBarPageName : (if bar.topBar.topBarPageNameHidden then none
    else some bar.topBar.topBarPageName) = tab.pageName

/-- The bookmarked articles and no others, each once, in the order of time at some instant. -/
structure ListsSaved (saved : String → Option ArticleData) (listed : List ArticleData) : Prop where
  mem_iff : ∀ article, article ∈ listed ↔
    ∃ articleID, article.articleID = some articleID ∧ saved articleID = some article
  once : (listed.map ArticleData.articleID).Nodup
  ordered : ∃ currTime, listed.Pairwise (InTimeOrder currTime)

/-- The page of an article shows whether it is bookmarked; the page of saved articles, when it
can be seen, lists the bookmarked ones. -/
structure MainScreen.Shows (screen : MainScreen Data) (bookmarks : Bookmarks) : Prop where
  tabBar : screen.tabBar.Shows bookmarks.selected
  notificationsPage : screen.notificationsPage = bookmarks.notificationsPage
  articlePage : screen.articlePage = bookmarks.page.map fun article =>
    ⟨article, bookmarks.isSaved article⟩
  savedButtons : bookmarks.selected = .saved → bookmarks.page = none →
    ∃ listed, screen.savedButtons = some listed ∧ ListsSaved bookmarks.saved listed

namespace TabBar.Shows

variable {bar : TabBar} {tab : Tab}

theorem viewDidLoad : TabBar.viewDidLoad.Shows .home where
  selectedIndex := rfl
  tintColor other := by cases other <;> decide
  unselected other different := by
    simp [TabBar.viewDidLoad, Function.update_of_ne different]
  children := rfl
  height := rfl
  shadowColor := rfl
  homeTopBarContent := by decide
  topBarPageName := rfl

theorem didPressTab (shows' : bar.Shows tab) (tag : Tab) : (bar.didPressTab tag).Shows tag := by
  obtain ⟨rfl, highlighted, unselected, children, _, _, _, _⟩ := id shows'
  rw [TabBar.didPressTab]
  split
  · rename_i same
    exact same ▸ shows'
  · rename_i different
    have gray : ∀ other ≠ tag, Function.update (Function.update bar.tintColor bar.selectedIndex
        .backgroundGray) tag .inverseBackground other = .backgroundGray := by
      intro other apart
      rw [Function.update_of_ne apart]
      by_cases earlier : other = bar.selectedIndex
      · rw [earlier, Function.update_self]
      · rw [Function.update_of_ne earlier, unselected other earlier]
    refine ⟨rfl, fun other => ?_, gray, ?_, ?_, ?_, ?_, ?_⟩
    · by_cases same : other = tag
      · simp [same]
      · exact iff_of_false (fun lit => absurd ((gray other same).symm.trans lit) (by decide)) same
    · simp [children]
    all_goals cases tag <;> simp [showTopBar, Tab.pageName]

end TabBar.Shows

section list

variable {codec : ArticleCodec Data} {enumerate : Enumeration}

/-- Every article is bookmarked under its own ID. -/
def Keyed (saved : String → Option ArticleData) : Prop :=
  ∀ articleID article, saved articleID = some article → article.articleID = some articleID

private theorem enumeration_keys_nodup (lawful : enumerate.Lawful)
    (dictionary : Dictionary String ArticleData) :
    ((enumerate dictionary).map Sigma.fst).Nodup := by
  have nodup := Multiset.nodup_keys.mpr dictionary.nodupKeys
  rwa [Multiset.keys, ← lawful dictionary, Multiset.map_coe, Multiset.coe_nodup] at nodup

theorem Refines.listsSaved (lawful : enumerate.Lawful) {state : SavedArticles Data}
    {saved : String → Option ArticleData} (refines : Refines codec state saved)
    (keyed : Keyed saved) (currTime : Int) : ∃ listed,
      getSavedArticles codec enumerate currTime state = (state, listed) ∧
        ListsSaved saved listed := by
  have loaded : getArticleDictionary codec state = state := refines.synced.load
  have sorted : (savedPage codec enumerate currTime state).Perm
      ((enumerate state.memory).map (·.2)) := by
    rw [savedPage, getSavedArticles, loaded]
    exact sortBy_perm _ _
  have stored : ∀ articleID article,
      ⟨articleID, article⟩ ∈ enumerate state.memory ↔ saved articleID = some article := by
    intro articleID article
    rw [mem_enumeration lawful, refines.memory]
  refine ⟨savedPage codec enumerate currTime state, ?_, fun article => ?_, ?_,
    currTime, savedPage_ordered currTime state⟩
  · rw [savedPage, getSavedArticles, loaded]
  · rw [sorted.mem_iff, List.mem_map]
    constructor
    · rintro ⟨⟨articleID, article⟩, member, rfl⟩
      have here := (stored articleID article).mp member
      exact ⟨articleID, keyed articleID article here, here⟩
    · rintro ⟨articleID, _, here⟩
      exact ⟨⟨articleID, article⟩, (stored articleID article).mpr here, rfl⟩
  · have ids : (enumerate state.memory).map (fun entry => entry.2.articleID) =
        ((enumerate state.memory).map Sigma.fst).map some := by
      rw [List.map_map]
      refine List.map_congr_left fun entry member => ?_
      exact keyed entry.1 entry.2 ((stored entry.1 entry.2).mp member)
    rw [(sorted.map ArticleData.articleID).nodup_iff, List.map_map]
    refine ids ▸ (enumeration_keys_nodup lawful state.memory).map (Option.some_injective _)

/-- Saving and removing on the dictionary are the toggle of the bookmark. -/
theorem Refines.toggled (roundTrips : codec.RoundTrips) {state : SavedArticles Data}
    {bookmarks : Bookmarks} (refines : Refines codec state bookmarks.saved)
    {article : ArticleData} {articleID : String} (named : article.articleID = some articleID) :
    Refines codec
      (if bookmarks.isSaved article then removeCurrArticle codec articleID state
        else saveCurrArticle codec articleID article state)
      (bookmarks.toggle article).saved := by
  simp only [Bookmarks.toggle, named]
  cases bookmarks.isSaved article with
  | true =>
    refine ⟨fun other => ?_, .save roundTrips⟩
    simp only [if_true, removeCurrArticle, saveArticleDictionary, PersistentMap.save_memory]
    by_cases same : other = articleID
    · subst same
      simp
    · rw [Finmap.lookup_erase_ne same, Function.update_of_ne same, refines.memory]
  | false =>
    refine ⟨fun other => ?_, .save roundTrips⟩
    simp only [Bool.false_eq_true, if_false, saveCurrArticle, saveArticleDictionary,
      PersistentMap.save_memory]
    by_cases same : other = articleID
    · subst same
      simp
    · rw [Finmap.lookup_insert_of_ne _ same, Function.update_of_ne same, refines.memory]

theorem Keyed.toggled {bookmarks : Bookmarks} (keyed : Keyed bookmarks.saved)
    (article : ArticleData) : Keyed (bookmarks.toggle article).saved := by
  intro other stored here
  rw [Bookmarks.toggle] at here
  split at here
  · rename_i articleID named
    dsimp only at here
    by_cases same : other = articleID
    · subst same
      rw [Function.update_self] at here
      split at here
      · cases here
      · exact Option.some.inj here ▸ named
    · rw [Function.update_of_ne same] at here
      exact keyed other stored here
  · exact keyed other stored here

/-- What every step keeps: the screen shows the bookmarks, and the dictionary holds them. -/
structure MainScreen.Follows (codec : ArticleCodec Data) (screen : MainScreen Data)
    (bookmarks : Bookmarks) : Prop extends screen.Shows bookmarks where
  refines : Refines codec screen.saved bookmarks.saved
  keyed : Keyed bookmarks.saved
  loaded : bookmarks.selected = .saved → screen.savedButtons.isSome = true

namespace MainScreen

variable {screen next : MainScreen Data} {bookmarks : Bookmarks}

private theorem setBookmarkColor_eq {saved : SavedArticles Data}
    (refines : Refines codec saved bookmarks.saved) (page : ArticlePage) :
    page.setBookmarkColor saved =
      ⟨page.articleContent, bookmarks.isSaved page.articleContent⟩ := by
  rw [ArticlePage.setBookmarkColor, Bookmarks.isSaved]
  cases page.articleContent.articleID with
  | none => rfl
  | some articleID => simp [isSavedCurrentArticle, refines.memory]

namespace Follows

private theorem bare_iff (follows : screen.Follows codec bookmarks) :
    screen.Bare ↔ bookmarks.notificationsPage = false ∧ bookmarks.page = none := by
  rw [Bare, follows.notificationsPage, follows.articlePage, Option.map_eq_none_iff]

theorem renderList (lawful : enumerate.Lawful) (follows : screen.Follows codec bookmarks)
    (currTime : Int) : ∃ listed, screen.renderList codec enumerate currTime =
      { screen with savedButtons := some listed } ∧ ListsSaved bookmarks.saved listed := by
  obtain ⟨listed, rendered, lists⟩ := follows.refines.listsSaved lawful follows.keyed currTime
  exact ⟨listed, by rw [MainScreen.renderList, rendered], lists⟩

theorem didPressTab (lawful : enumerate.Lawful) (follows : screen.Follows codec bookmarks)
    (tag : Tab) (currTime : Int) : (screen.didPressTab codec enumerate tag currTime).Follows codec
      { bookmarks with selected := tag } := by
  have pressed := follows.tabBar.didPressTab tag
  rw [MainScreen.didPressTab]
  by_cases appears : screen.tabBar.selectedIndex ≠ tag ∧ tag = .saved
  · obtain ⟨listed, rendered, lists⟩ := follows.refines.listsSaved lawful follows.keyed currTime
    rw [if_pos appears, MainScreen.renderList, rendered]
    exact { follows with
      tabBar := pressed
      savedButtons := fun _ _ => ⟨listed, rfl, lists⟩
      loaded := fun _ => rfl }
  · have before : tag = .saved → bookmarks.selected = .saved := fun isSaved =>
      follows.tabBar.selectedIndex.symm.trans
        ((not_and_not_right.mp fun both => appears both.symm) isSaved) |>.trans isSaved
    rw [if_neg appears]
    exact { follows with
      tabBar := pressed
      savedButtons := fun isSaved => follows.savedButtons (before isSaved)
      loaded := fun isSaved => follows.loaded (before isSaved) }

theorem presentArticle (follows : screen.Follows codec bookmarks) (articleContent : ArticleData) :
    (screen.presentArticle articleContent).Follows codec
      { bookmarks with page := some articleContent } :=
  { follows with
    articlePage := congrArg some (setBookmarkColor_eq follows.refines _)
    savedButtons := fun _ closed => absurd closed (Option.some_ne_none _) }

/-- A controller that presents already leaves the screen. -/
theorem articleSelector (follows : screen.Follows codec bookmarks) (articleContent : ArticleData) :
    (screen.articleSelector articleContent).Follows codec
      (bookmarkStep bookmarks (.articlePosted articleContent)) := by
  rw [MainScreen.articleSelector, bookmarkStep]
  by_cases bare : screen.Bare
  · rw [if_pos bare, if_pos (follows.bare_iff.mp bare)]
    exact follows.presentArticle articleContent
  · rw [if_neg bare, if_neg fun closed => bare (follows.bare_iff.mpr closed)]
    exact follows

/-- The list is built again when a page is left, wherever the page was opened. -/
theorem reloadSavedArticles (lawful : enumerate.Lawful) (follows : screen.Follows codec bookmarks)
    (currTime : Int) : ∃ savedButtons, screen.reloadSavedArticles codec enumerate currTime =
      { screen with savedButtons } ∧
      (bookmarks.selected = .saved →
        ∃ listed, savedButtons = some listed ∧ ListsSaved bookmarks.saved listed) := by
  rw [MainScreen.reloadSavedArticles]
  by_cases loaded : screen.savedButtons.isSome
  · obtain ⟨listed, rendered, lists⟩ := follows.renderList lawful currTime
    rw [if_pos loaded, rendered]
    exact ⟨some listed, rfl, fun _ => ⟨listed, rfl, lists⟩⟩
  · rw [if_neg loaded]
    exact ⟨screen.savedButtons, rfl, fun isSaved => absurd (follows.loaded isSaved) loaded⟩

theorem exitArticle (lawful : enumerate.Lawful) (follows : screen.Follows codec bookmarks)
    (currTime : Int) :
    Follows codec { screen.reloadSavedArticles codec enumerate currTime with articlePage := none }
      { bookmarks with page := none } := by
  obtain ⟨savedButtons, reloaded, lists⟩ := follows.reloadSavedArticles lawful currTime
  rw [reloaded]
  refine { follows with articlePage := rfl, savedButtons := fun isSaved _ => lists isSaved, loaded := ?_ }
  intro isSaved
  obtain ⟨listed, rfl, _⟩ := lists isSaved
  rfl

private theorem notificationsLeft (lawful : enumerate.Lawful)
    (follows : screen.Follows codec bookmarks)
    (currTime : Int) : Follows codec
      { screen.reloadSavedArticles codec enumerate currTime with notificationsPage := false }
      { bookmarks with notificationsPage := false } := by
  obtain ⟨savedButtons, reloaded, lists⟩ := follows.reloadSavedArticles lawful currTime
  rw [reloaded]
  refine { follows with
    notificationsPage := rfl, savedButtons := fun isSaved _ => lists isSaved, loaded := ?_ }
  intro isSaved
  obtain ⟨listed, rfl, _⟩ := lists isSaved
  rfl

theorem saveArticle (roundTrips : codec.RoundTrips) (follows : screen.Follows codec bookmarks)
    (taken : screenStep codec enumerate screen .saveArticle = some next) :
    next.Follows codec (bookmarkStep bookmarks .saveArticle) := by
  obtain ⟨page, presented, result⟩ := Option.map_eq_some_iff.mp taken
  obtain ⟨article, opened, shown⟩ := Option.map_eq_some_iff.mp
    (follows.articlePage.symm.trans presented)
  subst result shown
  have toggled : bookmarkStep bookmarks .saveArticle = bookmarks.toggle article := by
    simp [bookmarkStep, opened]
  rw [toggled]
  cases named : article.articleID with
  | none =>
    have kept : bookmarks.toggle article = bookmarks := by simp [Bookmarks.toggle, named]
    rw [kept]
    simp only [ArticlePage.saveArticle, named]
    exact { follows with articlePage := by rw [opened]; rfl }
  | some articleID =>
    have refines := follows.refines.toggled roundTrips named
    have others : bookmarks.toggle article =
        { bookmarks with saved := (bookmarks.toggle article).saved } := by
      simp [Bookmarks.toggle, named]
    simp only [ArticlePage.saveArticle, named]
    rw [others]
    refine { follows with
      articlePage := ?_
      savedButtons := fun _ closed => absurd (opened.symm.trans closed) (Option.some_ne_none _)
      refines
      keyed := follows.keyed.toggled article }
    rw [opened]
    exact congrArg some (setBookmarkColor_eq refines _)

/-- The settings are open, so that the list can not be seen. -/
theorem resetPreferences (follows : screen.Follows codec bookmarks)
    (onSettings : bookmarks.selected = .settings) (closed : bookmarks.page = none) :
    Follows codec { screen with saved := Ios.resetPreferences screen.saved }
      { bookmarks with saved := fun _ => none } where
  tabBar := follows.tabBar
  notificationsPage := follows.notificationsPage
  articlePage := by
    rw [follows.articlePage, closed]
    rfl
  savedButtons onSaved := absurd (onSettings.symm.trans onSaved) (by decide)
  refines := ⟨fun _ => rfl, rfl⟩
  keyed _ _ stored := absurd stored (Option.some_ne_none _).symm
  loaded := follows.loaded

theorem relaunch (follows : screen.Follows codec bookmarks) :
    Follows codec (.launch codec screen.saved) (bookmarkStep bookmarks .relaunch) where
  tabBar := .viewDidLoad
  notificationsPage := rfl
  articlePage := rfl
  savedButtons onSaved := absurd onSaved (show Tab.home ≠ .saved by decide)
  refines := by
    have relaunched : Ios.relaunch codec screen.saved = screen.saved := follows.refines.synced.restart
    rw [launch, relaunched]
    exact follows.refines
  keyed := follows.keyed
  loaded onSaved := absurd onSaved (show Tab.home ≠ .saved by decide)

/-- Every step keeps what the screen shows. -/
theorem step (roundTrips : codec.RoundTrips) (lawful : enumerate.Lawful)
    (follows : screen.Follows codec bookmarks) {event : ScreenEvent}
    (taken : screenStep codec enumerate screen event = some next) :
    next.Follows codec (bookmarkStep bookmarks event) := by
  cases event with
  | didPressTab tag currTime =>
    obtain ⟨_, result⟩ := Option.ite_none_right_eq_some.mp taken
    exact Option.some.inj result ▸ follows.didPressTab lawful tag currTime
  | openNotifications =>
    obtain ⟨_, result⟩ := Option.ite_none_right_eq_some.mp taken
    exact Option.some.inj result ▸ { follows with notificationsPage := rfl }
  | exitPopup =>
    obtain ⟨_, result⟩ := Option.ite_none_right_eq_some.mp taken
    exact Option.some.inj result ▸ { follows with notificationsPage := rfl }
  | articlePosted articleContent => exact Option.some.inj taken ▸ follows.articleSelector articleContent
  | savedButtonPressed article =>
    obtain ⟨⟨bare, _⟩, result⟩ := Option.ite_none_right_eq_some.mp taken
    rw [MainScreen.articleSelector, if_pos bare] at result
    exact Option.some.inj result ▸ follows.presentArticle article
  | notificationOpened articleContent =>
    obtain ⟨_, result⟩ := Option.ite_none_right_eq_some.mp taken
    exact Option.some.inj result ▸ follows.presentArticle articleContent
  | saveArticle => exact follows.saveArticle roundTrips taken
  | exitArticle currTime =>
    obtain ⟨_, _, result⟩ := Option.map_eq_some_iff.mp taken
    exact result ▸ follows.exitArticle lawful currTime
  | handlePan currTime =>
    have presented : screen.articlePage.isSome = bookmarks.page.isSome := by
      rw [follows.articlePage, Option.isSome_map]
    simp only [screenStep] at taken
    rw [bookmarkStep]
    split at taken
    · rename_i onTop
      rw [if_pos (presented ▸ onTop)]
      exact Option.some.inj taken ▸ follows.exitArticle lawful currTime
    · rename_i none
      rw [if_neg (presented ▸ none)]
      obtain ⟨_, result⟩ := Option.ite_none_right_eq_some.mp taken
      exact Option.some.inj result ▸ follows.notificationsLeft lawful currTime
  | resetPreferences =>
    obtain ⟨⟨bare, onSettings⟩, result⟩ := Option.ite_none_right_eq_some.mp taken
    exact Option.some.inj result ▸ follows.resetPreferences
      (follows.tabBar.selectedIndex.symm.trans onSettings) (follows.bare_iff.mp bare).2
  | relaunch => exact Option.some.inj taken ▸ follows.relaunch

theorem run (roundTrips : codec.RoundTrips) (lawful : enumerate.Lawful)
    (follows : screen.Follows codec bookmarks) {events : List ScreenEvent}
    (ran : screenRun codec enumerate screen events = some next) :
    next.Follows codec (events.foldl bookmarkStep bookmarks) := by
  refine run_refines (MainScreen.Follows codec) (fun _ _ => True) ?_ follows
    (Along.of_forall (fun _ _ _ => trivial) _) ran
  intro _ _ _ _ follows _ taken
  exact follows.step roundTrips lawful taken

theorem install : Follows codec (.install codec) .install where
  tabBar := .viewDidLoad
  notificationsPage := rfl
  articlePage := rfl
  savedButtons onSaved := absurd onSaved (by decide)
  refines := ⟨fun _ => rfl, rfl⟩
  keyed _ _ stored := absurd stored (Option.some_ne_none _).symm
  loaded onSaved := absurd onSaved (by decide)

end Follows

end MainScreen

/-- Whatever is opened, bookmarked, reset and left, in whichever order and over restarts: the
tab bar shows the selected tab, the page of an article whether the article is bookmarked, and the
page of saved articles, whenever it can be seen, the bookmarked articles. -/
theorem screen_shows_bookmarks (roundTrips : codec.RoundTrips) (lawful : enumerate.Lawful)
    {events : List ScreenEvent} {screen : MainScreen Data}
    (ran : screenRun codec enumerate (.install codec) events = some screen) :
    screen.Shows (events.foldl bookmarkStep .install) :=
  (MainScreen.Follows.install.run roundTrips lawful ran).toShows

/-- An article of the bulletin is saved, found in the list, taken out of it and saved again. -/
def bookmarkSession : List ScreenEvent :=
  [.articlePosted { articleID := some "game" }, .saveArticle, .exitArticle 0, .didPressTab .saved 0,
    .savedButtonPressed { articleID := some "game" }, .saveArticle, .saveArticle, .handlePan 0]

theorem bookmark_session_shown : ∃ screen,
    screenRun articleCodec enumerateByKey (.install articleCodec) bookmarkSession = some screen ∧
      screen.Shows (bookmarkSession.foldl bookmarkStep .install) := by
  obtain ⟨screen, ran⟩ : ∃ screen, screenRun articleCodec enumerateByKey (.install articleCodec)
      bookmarkSession = some screen := Option.isSome_iff_exists.mp (by decide +kernel)
  exact ⟨screen, ran, screen_shows_bookmarks articleCodec_roundTrips enumerateByKey_lawful ran⟩

namespace Bookmarks

variable {bookmarks : Bookmarks} {article : ArticleData} {articleID : String}

private theorem isSaved_of_saved (named : article.articleID = some articleID)
    (here : bookmarks.saved articleID = some article) : bookmarks.isSaved article = true := by
  simp [isSaved, named, here]

private theorem toggle_toggle (named : article.articleID = some articleID)
    (here : bookmarks.saved articleID = some article) :
    (bookmarks.toggle article).toggle article = bookmarks := by
  have removed : bookmarks.toggle article =
      { bookmarks with saved := Function.update bookmarks.saved articleID none } := by
    simp [toggle, named, isSaved_of_saved named here]
  rw [removed]
  simp [toggle, named, isSaved, ← here]

private theorem presses_eq (named : article.articleID = some articleID)
    (here : bookmarks.saved articleID = some article) (opened : bookmarks.page = some article)
    (presses : Nat) : (List.replicate presses ScreenEvent.saveArticle).foldl bookmarkStep bookmarks =
      if presses % 2 = 0 then bookmarks else bookmarks.toggle article := by
  have still : (bookmarks.toggle article).page = some article := by
    simp [toggle, named, opened]
  induction presses with
  | zero => rfl
  | succ presses ih =>
    rw [List.replicate_succ', List.foldl_concat, ih]
    rcases Nat.mod_two_eq_zero_or_one presses with even | odd
    · have next : (presses + 1) % 2 ≠ 0 := by omega
      simp [even, next, bookmarkStep, opened]
    · have next : (presses + 1) % 2 = 0 := by omega
      simp [odd, next, bookmarkStep, still, toggle_toggle named here]

end Bookmarks

private theorem saveArticle_returns {screen : MainScreen Data} (opened : screen.articlePage.isSome)
    (presses : Nat) : ∃ next, screenRun codec enumerate screen
      (List.replicate presses .saveArticle) = some next ∧ next.articlePage.isSome := by
  induction presses generalizing screen with
  | zero => exact ⟨screen, rfl, opened⟩
  | succ presses ih =>
    obtain ⟨page, presented⟩ := Option.isSome_iff_exists.mp opened
    obtain ⟨next, taken, still⟩ : ∃ next, screenStep codec enumerate screen .saveArticle = some next ∧
        next.articlePage.isSome := ⟨_, Option.map_eq_some_iff.mpr ⟨page, presented, rfl⟩, rfl⟩
    obtain ⟨last, ran, stays⟩ := ih still
    exact ⟨last, run_cons_iff.mpr ⟨next, taken, ran⟩, stays⟩

theorem ListsSaved.perm {saved : String → Option ArticleData} {listed rest : List ArticleData}
    (lists : ListsSaved saved listed) (lists' : ListsSaved saved rest) : listed.Perm rest :=
  (List.perm_ext_iff_of_nodup (.of_map _ lists.once) (.of_map _ lists'.once)).mpr fun article =>
    (lists.mem_iff article).trans (lists'.mem_iff article).symm

/-- A list of the bookmarked articles without one of them lists what is bookmarked without it. -/
theorem ListsSaved.perm_toggled {bookmarks : Bookmarks} {article : ArticleData}
    {listed rest : List ArticleData} (lists : ListsSaved bookmarks.saved listed)
    (member : article ∈ listed) (lists' : ListsSaved (bookmarks.toggle article).saved rest) :
    rest.Perm (listed.erase article) := by
  have unique : listed.Nodup := .of_map _ lists.once
  refine (List.perm_ext_iff_of_nodup (.of_map _ lists'.once) (unique.erase article)).mpr ?_
  intro other
  obtain ⟨articleID, named, here⟩ := (lists.mem_iff article).mp member
  rw [unique.mem_erase_iff, lists.mem_iff, lists'.mem_iff]
  simp only [Bookmarks.toggle, named, Bookmarks.isSaved_of_saved named here, if_true]
  constructor
  · rintro ⟨otherID, named', stored⟩
    have different : otherID ≠ articleID := by
      rintro rfl
      rw [Function.update_self] at stored
      cases stored
    rw [Function.update_of_ne different] at stored
    refine ⟨?_, otherID, named', stored⟩
    rintro rfl
    exact different (Option.some.inj (named'.symm.trans named))
  · rintro ⟨apart, otherID, named', stored⟩
    have different : otherID ≠ articleID := by
      rintro rfl
      exact apart (Option.some.inj (stored.symm.trans here))
    exact ⟨otherID, named', by rw [Function.update_of_ne different, stored]⟩

/-- A button of the list opens its article with the bookmark filled. After any number of presses
of the bookmark and the way back the list is the same, or has lost just that article. -/
theorem listed_article_toggles (roundTrips : codec.RoundTrips) (lawful : enumerate.Lawful)
    {events : List ScreenEvent} {screen opened : MainScreen Data}
    (ran : screenRun codec enumerate (.install codec) events = some screen) {article : ArticleData}
    (pressed : screenStep codec enumerate screen (.savedButtonPressed article) = some opened) :
    opened.articlePage = some ⟨article, true⟩ ∧
    ∃ listed, screen.savedButtons = some listed ∧ article ∈ listed ∧
      ∀ presses currTime, ∃ last rest, screenRun codec enumerate opened
          (List.replicate presses .saveArticle ++ [.exitArticle currTime]) = some last ∧
        last.savedButtons = some rest ∧
        rest.Perm (if presses % 2 = 0 then listed else listed.erase article) := by
  have follows := MainScreen.Follows.install.run roundTrips lawful ran
  generalize events.foldl bookmarkStep .install = bookmarks at follows
  obtain ⟨⟨bare, onSaved, member⟩, _⟩ := Option.ite_none_right_eq_some.mp pressed
  obtain ⟨_, closed⟩ := follows.bare_iff.mp bare
  have selected : bookmarks.selected = .saved := follows.tabBar.selectedIndex.symm.trans onSaved
  obtain ⟨listed, built, lists⟩ := follows.savedButtons selected closed
  rw [built] at member
  obtain ⟨articleID, named, here⟩ := (lists.mem_iff article).mp member
  have after := follows.step roundTrips lawful pressed
  have filled : opened.articlePage = some ⟨article, true⟩ := by
    rw [after.articlePage]
    exact congrArg some (congrArg (ArticlePage.mk article) (Bookmarks.isSaved_of_saved named here))
  refine ⟨filled, listed, built, member, fun presses currTime => ?_⟩
  obtain ⟨middle, ranPresses, stays⟩ := saveArticle_returns (Option.isSome_iff_exists.mpr ⟨_, filled⟩)
    presses
  obtain ⟨page, presented⟩ := Option.isSome_iff_exists.mp stays
  obtain ⟨last, left⟩ : ∃ last, screenStep codec enumerate middle (.exitArticle currTime) = some last :=
    ⟨_, Option.map_eq_some_iff.mpr ⟨page, presented, rfl⟩⟩
  have ended := (after.run roundTrips lawful ranPresses).step roundTrips lawful left
  have shown : bookmarkStep bookmarks (.savedButtonPressed article) =
      { bookmarks with page := some article } := rfl
  have here' : ({ bookmarks with page := some article } : Bookmarks).saved articleID =
      some article := here
  rw [shown, Bookmarks.presses_eq named here' rfl] at ended
  obtain ⟨rest, rebuilt, lists'⟩ : ∃ rest, last.savedButtons = some rest ∧ ListsSaved
      (if presses % 2 = 0 then bookmarks else bookmarks.toggle article).saved rest := by
    by_cases even : presses % 2 = 0
    · rw [if_pos even] at ended ⊢
      exact ended.savedButtons selected rfl
    · have toggled : ({ bookmarks with page := some article } : Bookmarks).toggle article =
          { bookmarks.toggle article with page := some article } := by
        simp [Bookmarks.toggle, named, Bookmarks.isSaved]
      have still : (bookmarks.toggle article).selected = .saved := by
        simp [Bookmarks.toggle, named, selected]
      rw [if_neg even] at ended ⊢
      rw [toggled] at ended
      exact ended.savedButtons still rfl
  refine ⟨last, rest, run_append_iff.mpr ⟨middle, ranPresses, run_cons_iff.mpr ⟨last, left, rfl⟩⟩,
    rebuilt, ?_⟩
  split at lists'
  · rw [if_pos ‹_›]
    exact lists'.perm lists
  · rw [if_neg ‹_›]
    exact lists.perm_toggled member lists'

end list

/-- The article of the session, in the list. -/
theorem game_button_toggles : ∃ screen opened listed,
    screenRun articleCodec enumerateByKey (.install articleCodec) (bookmarkSession.take 4) =
      some screen ∧
    screenStep articleCodec enumerateByKey screen
      (.savedButtonPressed { articleID := some "game" }) = some opened ∧
    screen.savedButtons = some listed ∧ ∃ last rest,
      screenRun articleCodec enumerateByKey opened [.saveArticle, .exitArticle 0] = some last ∧
      last.savedButtons = some rest ∧
      rest.Perm (listed.erase { articleID := some "game" }) := by
  obtain ⟨opened, both⟩ : ∃ opened, screenRun articleCodec enumerateByKey (.install articleCodec)
      (bookmarkSession.take 4 ++ [.savedButtonPressed { articleID := some "game" }]) =
        some opened := Option.isSome_iff_exists.mp (by decide +kernel)
  obtain ⟨screen, ran, pressed⟩ := run_append_iff.mp both
  obtain ⟨next, taken, ended⟩ := run_cons_iff.mp pressed
  obtain rfl := Option.some.inj ended
  obtain ⟨_, listed, built, _, presses⟩ :=
    listed_article_toggles articleCodec_roundTrips enumerateByKey_lawful ran taken
  exact ⟨screen, next, listed, ran, taken, built, presses 1 0⟩

end AhsApp.Ios