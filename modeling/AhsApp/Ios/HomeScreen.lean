import AhsApp.Ios.ArticlePairs
import AhsApp.Ios.EpochText
import AhsApp.Ios.FeaturedCarousel
import AhsApp.Ios.TimeOrder
import AhsApp.Library.Refinement

/-! The home page. Each part of it is drawn when a fetch of its own arrives, from what the feed
then holds; the loads of other pages empty and fill the same feed and draw nothing. -/

namespace AhsApp.Ios

open AhsApp.Firebase AhsApp.Library

/-- A category with the articles on its pages. The view that covers it while it loads is there
until it is drawn. -/
structure CategoryView where
  label : String
  loadingViewHidden : Bool
  numberOfPages : Nat
  pages : List (List ArticleData)
  deriving DecidableEq

/-- The scroll view and the label that stands in for it have opposite visibilities once the
carousel is drawn. -/
structure FeaturedView where
  label : String
  missingLabelHidden : Bool
  scrollViewHidden : Bool
  buttons : List ArticleData
  deriving DecidableEq

structure HomeScreen where
  feeds : Feeds
  categories : Fin 3 → CategoryView
  featured : FeaturedView
  refreshing : Bool
  posted : List ArticleData

def loading : String := "Loading..."

namespace HomeScreen

/-- The labels before a load. -/
def setLoading (screen : HomeScreen) : HomeScreen := { screen with
  categories := fun index => { screen.categories index with label := loading }
  featured := { screen.featured with label := loading } }

/-- Without a connection nothing is loaded, and a popup says so. -/
def getHomeArticleData (internetConnected : Bool) (screen : HomeScreen) : HomeScreen :=
  if internetConnected then
    { screen with feeds := getHomepageData internetConnected screen.feeds }
  else { screen with featured := { screen.featured with label := "No Connection" } }

def storyboard (feeds : Feeds) : HomeScreen where
  feeds := feeds
  categories
    | 0 => ⟨"General Info", false, 3, []⟩
    | 1 => ⟨"District News", false, 3, []⟩
    | 2 => ⟨"ASB News", false, 3, []⟩
  featured := ⟨"Featured", false, false, []⟩
  refreshing := false
  posted := []

def viewDidLoad (internetConnected : Bool) (feeds : Feeds) : HomeScreen :=
  (storyboard feeds).setLoading.getHomeArticleData internetConnected

/-- The user has pulled the page down. -/
def refreshAllArticles (internetConnected : Bool) (screen : HomeScreen) : HomeScreen :=
  { screen with refreshing := true }.setLoading.getHomeArticleData internetConnected

/-- The button of an article in its category. The text of its time may trap. -/
def smallArticle (currTime : Int) (articleSingle : ArticleData) : Option ArticleData := do
  let _timeStampText ← epochToString currTime (articleSingle.articleUnixEpoch.getD (-1))
  some articleSingle

/-- A category is drawn from its row of `homeArticleList`, unless that is empty. -/
def setUp (index : Fin 3) (label : String) (currTime : Int) (screen : HomeScreen) :
    Option HomeScreen :=
  let rawData := screen.feeds.homeArticleList index
  if rawData.length > 0 then do
    let data ← setUpCategory currTime rawData
    let pages ← data.mapM (·.mapM (smallArticle currTime))
    let view := ⟨label, true, (arrayToPairs currTime rawData).length, pages⟩
    some { screen with categories := Function.update screen.categories index view }
  else some screen

def setUpGeneralInfo : Int → HomeScreen → Option HomeScreen :=
  setUp ⟨0, by decide⟩ "General Info"

def setUpDistrict : Int → HomeScreen → Option HomeScreen :=
  setUp ⟨1, by decide⟩ "District News"

def setUpASB : Int → HomeScreen → Option HomeScreen :=
  setUp ⟨2, by decide⟩ "ASB News"

/-- `articleImages?[0] ?? ""`: an empty array traps. -/
def firstImage : Option (List String) → Option String
  | some articleImages => articleImages[0]?
  | none => some ""

/-- The button of an article in the carousel. -/
def featuredButton (currTime : Int) (currArticle : ArticleData) : Option ArticleData := do
  let _timeStampText ← epochToString currTime (currArticle.articleUnixEpoch.getD (-1))
  let _sURL ← firstImage currArticle.articleImages
  some currArticle

/-- The feed has been sorted by its callback. -/
def setUpFeatured (currTime : Int) (screen : HomeScreen) : Option HomeScreen :=
  if screen.feeds.featuredArticles.length > 0 then do
    let buttons ← screen.feeds.featuredArticles.mapM (featuredButton currTime)
    some { screen with featured := ⟨"Featured", true, false, buttons⟩ }
  else some { screen with
    featured := { screen.featured with missingLabelHidden := false, scrollViewHidden := true } }

def updateViews (index : Fin 3) (currTime : Int) (screen : HomeScreen) : Option HomeScreen := do
  let drawn ← match index with
    | 0 => screen.setUpGeneralInfo currTime
    | 1 => screen.setUpDistrict currTime
    | 2 => screen.setUpASB currTime
  let drawn ← drawn.setUpFeatured currTime
  some { drawn with refreshing := false }

/-- The articles of the carousel, unless it is hidden. -/
def featuredButtons (screen : HomeScreen) : List ArticleData :=
  if screen.featured.scrollViewHidden then [] else screen.featured.buttons

/-- The articles behind the buttons that can be seen. -/
def buttons (screen : HomeScreen) : List ArticleData :=
  screen.featuredButtons ++
    (List.finRange 3).flatMap fun index => (screen.categories index).pages.flatten

end HomeScreen

inductive HomeScreenEvent where
  | feed (event : FeedEvent)
  | refreshAllArticles (internetConnected : Bool)
  | arrived (index : Fin 3) (currTime : Int)
  | infoPopupOk
  | openArticle (articleSingle : ArticleData)

/-- What only the home page does to the feed. -/
def FeedEvent.ofHomePage : FeedEvent → Bool
  | .getHomepageData _ => true
  | .complete (.homepage _) _ => true
  | _ => false

/-- The page is pulled down at most once until it stops refreshing. -/
def homeScreenStep (screen : HomeScreen) : HomeScreenEvent → Option HomeScreen
  | .feed event =>
    if event.ofHomePage then none
    else do
      let feeds ← feedStep screen.feeds event
      some { screen with feeds }
  | .refreshAllArticles internetConnected =>
    if screen.refreshing then none else some (screen.refreshAllArticles internetConnected)
  | .arrived index currTime => do
    let feeds ← feedStep screen.feeds (.complete (.homepage index) currTime)
    { screen with feeds }.updateViews index currTime
  | .infoPopupOk => some { screen with refreshing := false }
  | .openArticle articleSingle =>
    if articleSingle ∈ screen.buttons then
      some { screen with posted := screen.posted ++ [articleSingle] }
    else none

abbrev homeScreenRun : HomeScreen → List HomeScreenEvent → Option HomeScreen := run homeScreenStep

/-- What matters of a run: the server, the articles that each category was drawn from and when,
whether its label waits for a load, the featured articles that have arrived since the last load,
those that were there when the carousel was drawn last, and every article that has arrived. -/
structure HomeShown where
  server : DataSnapshot
  drawn : Fin 3 → Option (Int × List ArticleData)
  waiting : Fin 3 → Bool
  collected : Multiset ArticleData
  featured : Option (Int × Multiset ArticleData)
  arrived : ArticleData → Prop

def HomeShown.launch (server : DataSnapshot) : HomeShown :=
  ⟨server, fun _ => none, fun _ => true, 0, none, fun _ => False⟩

def homeShownStep (shown : HomeShown) : HomeScreenEvent → HomeShown
  | .feed (.serverChanges server) => { shown with server }
  | .feed _ => shown
  | .refreshAllArticles internetConnected => { shown with
      waiting := fun _ => true
      collected := if internetConnected then 0 else shown.collected }
  | .arrived index currTime =>
    let articles := homeContent shown.server index
    let collected := shown.collected + featuredBag shown.server index
    { shown with
      drawn := if articles = [] then shown.drawn
        else Function.update shown.drawn index (some (currTime, articles))
      waiting := if articles = [] then shown.waiting
        else Function.update shown.waiting index false
      collected
      featured := some (currTime, collected)
      arrived := fun article => shown.arrived article ∨ article ∈ articles }
  | .infoPopupOk => shown
  | .openArticle _ => shown

def categoryTitle : Fin 3 → String
  | 0 => "General Info"
  | 1 => "District News"
  | 2 => "ASB News"

/-- A category that was never drawn is covered; else its pages have every article it was drawn
from, two to a page and in the order of their times. -/
def CategoryView.Shows (view : CategoryView) (title : String) (waiting : Bool) :
    Option (Int × List ArticleData) → Prop
  | none => view.label = loading ∧ view.loadingViewHidden = false ∧ view.pages = []
  | some (currTime, articles) =>
    view.label = (if waiting then loading else title) ∧ view.loadingViewHidden = true ∧
      view.numberOfPages = view.pages.length ∧
      Pages 2 (sortBy (sortArticlesByTime currTime) articles) view.pages

/-- The carousel has a button for each article that was collected, or its label says that there
are none. -/
def FeaturedView.Shows (view : FeaturedView) : Option (Int × Multiset ArticleData) → Prop
  | none => view.buttons = []
  | some (currTime, articles) =>
    view.missingLabelHidden = !view.scrollViewHidden ∧
      (view.scrollViewHidden = true ↔ articles = 0) ∧
      (articles ≠ 0 → (view.buttons : Multiset ArticleData) = articles ∧
        view.buttons.Pairwise fun first second => sortArticlesByTime currTime second first = false)

structure HomeScreen.Shows (screen : HomeScreen) (shown : HomeShown) : Prop where
  category : ∀ index,
    (screen.categories index).Shows (categoryTitle index) (shown.waiting index) (shown.drawn index)
  featured : screen.featured.Shows shown.featured
  buttons : ∀ article ∈ screen.buttons, shown.arrived article
  posted : ∀ article ∈ screen.posted, shown.arrived article

private theorem feedStep_featured {feeds next : Feeds} {event : FeedEvent}
    (elsewhere : event.ofHomePage = false) (taken : feedStep feeds event = some next) :
    next.featuredArticles = feeds.featuredArticles := by
  cases event with
  | serverChanges server => exact Option.some.inj taken ▸ rfl
  | getHomepageData connected => cases elsewhere
  | getBulletinData connected => cases connected <;> exact Option.some.inj taken ▸ rfl
  | loadAllArticles connected => cases connected <;> exact Option.some.inj taken ▸ rfl
  | complete fetch now =>
    obtain ⟨_, called⟩ := complete_cases taken
    cases fetch with
    | homepage index => cases elsewhere
    | bulletin index => exact (generateBulletin_frame called).2.2.1
    | allHomepage call index =>
      obtain ⟨temp, _, rfl⟩ := allHomepage_callback called
      rfl
    | allBulletin call index => exact Option.some.inj called ▸ rfl
  | addFilter index now => exact (generateBulletin_frame taken).2.2.1
  | openArticle article =>
    obtain ⟨_, rfl⟩ := openArticle_cases taken
    unfold openArticle
    split <;> rfl

private theorem feedStep_server_eq {feeds next : Feeds} {event : FeedEvent}
    (taken : feedStep feeds event = some next) :
    next.server = match event with
      | .serverChanges server => server
      | _ => feeds.server := by
  cases event with
  | serverChanges server => exact Option.some.inj taken ▸ rfl
  | _ => exact feedStep_server (by simp) taken

private theorem feedStep_arrived {feeds next : Feeds} {index : Fin 3} {currTime : Int}
    (taken : feedStep feeds (.complete (.homepage index) currTime) = some next) :
    next.server = feeds.server ∧
      next.homeArticleList index = homeContent feeds.server index ∧
      next.featuredArticles = sortBy (sortArticlesByTime currTime)
        (feeds.featuredArticles ++ featuredOn feeds.server index) := by
  obtain ⟨temp, decoded, rfl⟩ := homepage_callback (complete_cases taken).2
  have content : serverHomepage feeds.server index = some temp := decoded
  rw [homeContent, featuredOn, content]
  exact ⟨rfl, Function.update_self .., rfl⟩

namespace HomeScreen

private theorem smallArticle_eq {currTime : Int} {articleSingle button : ArticleData}
    (drawn : smallArticle currTime articleSingle = some button) : button = articleSingle := by
  obtain ⟨_, _, same⟩ := Option.bind_eq_some_iff.mp drawn
  exact (Option.some.inj same).symm

private theorem featuredButton_eq {currTime : Int} {currArticle button : ArticleData}
    (drawn : featuredButton currTime currArticle = some button) : button = currArticle := by
  obtain ⟨_, _, drawn⟩ := Option.bind_eq_some_iff.mp drawn
  obtain ⟨_, _, same⟩ := Option.bind_eq_some_iff.mp drawn
  exact (Option.some.inj same).symm

private theorem setUp_eq {index : Fin 3} {label : String} {currTime : Int}
    {screen next : HomeScreen}
    (drawn : screen.setUp index label currTime = some next) : next = { screen with
      categories :=
        if screen.feeds.homeArticleList index = [] then screen.categories
        else
          let pages := arrayToPairs currTime (screen.feeds.homeArticleList index)
          Function.update screen.categories index ⟨label, true, pages.length, pages⟩ } := by
  rw [setUp] at drawn
  by_cases empty : screen.feeds.homeArticleList index = []
  · rw [if_neg (by simp [empty])] at drawn
    rw [if_pos empty]
    exact (Option.some.inj drawn).symm
  · have nonempty : (screen.feeds.homeArticleList index).length > 0 :=
      List.length_pos_iff.mpr empty
    rw [if_pos nonempty, (setUpCategory_shows currTime _).1, Option.bind_eq_bind,
      Option.bind_some] at drawn
    obtain ⟨pages, mapped, same⟩ := Option.bind_eq_some_iff.mp drawn
    obtain rfl : pages = arrayToPairs currTime (screen.feeds.homeArticleList index) :=
      eq_of_mapM (eq_of_mapM smallArticle_eq) mapped
    rw [if_neg empty]
    exact (Option.some.inj same).symm

/-- The carousel that is drawn. -/
def featuredDrawn (screen : HomeScreen) : FeaturedView :=
  if screen.feeds.featuredArticles.length > 0 then
    ⟨"Featured", true, false, screen.feeds.featuredArticles⟩
  else { screen.featured with missingLabelHidden := false, scrollViewHidden := true }

private theorem setUpFeatured_eq {currTime : Int} {screen next : HomeScreen}
    (drawn : screen.setUpFeatured currTime = some next) :
    next = { screen with featured := screen.featuredDrawn } := by
  rw [setUpFeatured] at drawn
  rw [featuredDrawn]
  split at drawn
  · obtain ⟨buttons, mapped, same⟩ := Option.bind_eq_some_iff.mp drawn
    obtain rfl : buttons = screen.feeds.featuredArticles := eq_of_mapM featuredButton_eq mapped
    rw [if_pos ‹_›]
    exact (Option.some.inj same).symm
  · rw [if_neg ‹_›]
    exact (Option.some.inj drawn).symm

private theorem updateViews_eq (index : Fin 3) (currTime : Int) (screen : HomeScreen) :
    screen.updateViews index currTime =
      (screen.setUp index (categoryTitle index) currTime).bind fun drawn =>
        (drawn.setUpFeatured currTime).bind fun drawn =>
          some { drawn with refreshing := false } := by
  match index with
  | 0 => rfl
  | 1 => rfl
  | 2 => rfl

/-- What drawing a category and the carousel changes. -/
theorem updateViews_spec {index : Fin 3} {currTime : Int} {screen next : HomeScreen}
    (drawn : screen.updateViews index currTime = some next) :
    next.feeds = screen.feeds ∧ next.posted = screen.posted ∧
      next.featured = screen.featuredDrawn ∧
      next.categories =
        if screen.feeds.homeArticleList index = [] then screen.categories
        else
          let pages := arrayToPairs currTime (screen.feeds.homeArticleList index)
          Function.update screen.categories index
            ⟨categoryTitle index, true, pages.length, pages⟩ := by
  rw [updateViews_eq] at drawn
  obtain ⟨category, setUp, drawn⟩ := Option.bind_eq_some_iff.mp drawn
  obtain ⟨carousel, setUpFeatured, drawn⟩ := Option.bind_eq_some_iff.mp drawn
  obtain rfl := setUp_eq setUp
  obtain rfl := setUpFeatured_eq setUpFeatured
  obtain rfl := Option.some.inj drawn
  exact ⟨rfl, rfl, rfl, rfl⟩

end HomeScreen

/-- What every step keeps. Of the feed it needs the server and the carousel only. -/
structure HomeScreen.Follows (screen : HomeScreen) (shown : HomeShown) : Prop where
  server : screen.feeds.server = shown.server
  collected : (screen.feeds.featuredArticles : Multiset ArticleData) = shown.collected
  category : ∀ index,
    (screen.categories index).Shows (categoryTitle index) (shown.waiting index) (shown.drawn index)
  featured : screen.featured.Shows shown.featured
  drawnArrived : ∀ index currTime articles, shown.drawn index = some (currTime, articles) →
    ∀ article ∈ articles, shown.arrived article
  carouselArrived : ∀ article ∈ screen.feeds.featuredArticles, shown.arrived article
  featuredArrived : ∀ article ∈ screen.featured.buttons, shown.arrived article
  posted : ∀ article ∈ screen.posted, shown.arrived article

theorem CategoryView.Shows.articles {view : CategoryView} {title : String} {waiting : Bool}
    {drawn : Option (Int × List ArticleData)} (shows' : view.Shows title waiting drawn)
    {article : ArticleData} (member : article ∈ view.pages.flatten) :
    ∃ currTime articles, drawn = some (currTime, articles) ∧ article ∈ articles := by
  cases drawn with
  | none =>
    obtain ⟨_, _, empty⟩ := shows'
    rw [empty] at member
    exact absurd member List.not_mem_nil
  | some last =>
    obtain ⟨_, _, _, paged⟩ := shows'
    exact ⟨last.1, last.2, rfl, (sortBy_perm _ _).mem_iff.mp (paged.flatten ▸ member)⟩

theorem CategoryView.Shows.setLoading {view : CategoryView} {title : String} {waiting : Bool}
    {drawn : Option (Int × List ArticleData)} (shows' : view.Shows title waiting drawn) :
    CategoryView.Shows { view with label := loading } title true drawn := by
  cases drawn with
  | none => exact ⟨rfl, shows'.2⟩
  | some last => exact ⟨rfl, shows'.2⟩

theorem HomeScreen.featuredDrawn_shows {screen : HomeScreen} {currTime : Int}
    {collected : List ArticleData} {articles : Multiset ArticleData}
    (sorted : screen.feeds.featuredArticles = sortBy (sortArticlesByTime currTime) collected)
    (same : (screen.feeds.featuredArticles : Multiset ArticleData) = articles) :
    screen.featuredDrawn.Shows (some (currTime, articles)) := by
  subst same
  have empty : screen.feeds.featuredArticles.length > 0 ↔
      (screen.feeds.featuredArticles : Multiset ArticleData) ≠ 0 := by
    rw [gt_iff_lt, List.length_pos_iff, ne_eq, ne_eq, Multiset.coe_eq_zero]
  rw [HomeScreen.featuredDrawn]
  by_cases some' : screen.feeds.featuredArticles.length > 0
  · rw [if_pos some']
    refine ⟨rfl, iff_of_false Bool.false_ne_true (empty.mp some'), fun _ => ⟨rfl, ?_⟩⟩
    rw [sorted]
    exact (sortsBy_timeRank currTime ArticleData.articleUnixEpoch).sorted collected
  · rw [if_neg some']
    exact ⟨rfl, iff_of_true rfl (not_not.mp (mt empty.mpr some')), fun filled =>
      absurd (empty.mpr filled) some'⟩

theorem CategoryView.shows_arrayToPairs (title : String) (currTime : Int)
    (articles : List ArticleData) : CategoryView.Shows
      ⟨title, true, (arrayToPairs currTime articles).length, arrayToPairs currTime articles⟩ title
      false (some (currTime, articles)) :=
  ⟨rfl, rfl, rfl, pairLoop_pages _⟩

namespace HomeScreen.Follows

variable {screen next : HomeScreen} {shown : HomeShown}

theorem toShows (follows : screen.Follows shown) : screen.Shows shown where
  category := follows.category
  featured := follows.featured
  buttons article member := by
    rcases List.mem_append.mp member with carousel | category
    · rw [featuredButtons] at carousel
      split at carousel
      · exact absurd carousel List.not_mem_nil
      · exact follows.featuredArrived article carousel
    · obtain ⟨index, _, here⟩ := List.mem_flatMap.mp category
      obtain ⟨currTime, articles, drawn, inside⟩ := (follows.category index).articles here
      exact follows.drawnArrived index currTime articles drawn article inside
  posted := follows.posted

theorem feed (follows : screen.Follows shown) {event : FeedEvent} {feeds : Feeds}
    (elsewhere : event.ofHomePage = false) (taken : feedStep screen.feeds event = some feeds) :
    HomeScreen.Follows { screen with feeds } (homeShownStep shown (.feed event)) := by
  have featured := feedStep_featured elsewhere taken
  have server := feedStep_server_eq taken
  have step : homeShownStep shown (.feed event) = { shown with server := feeds.server } := by
    rw [server]
    cases event with
    | serverChanges server => rfl
    | _ => simp only [homeShownStep, follows.server]
  rw [step]
  exact { follows with
    server := rfl
    collected := featured ▸ follows.collected
    carouselArrived := featured ▸ follows.carouselArrived }

theorem refreshAllArticles (follows : screen.Follows shown) (internetConnected : Bool) :
    (screen.refreshAllArticles internetConnected).Follows
      (homeShownStep shown (.refreshAllArticles internetConnected)) := by
  have category : ∀ index, CategoryView.Shows { screen.categories index with label := loading }
      (categoryTitle index) true (shown.drawn index) := fun index =>
    (follows.category index).setLoading
  have featured : ∀ label, FeaturedView.Shows { screen.featured with label } shown.featured := by
    intro label
    have before := follows.featured
    revert before
    cases shown.featured with
    | none => exact id
    | some last => exact id
  cases internetConnected with
  | false => exact { follows with category, featured := featured _ }
  | true =>
    exact { follows with
      category
      featured := featured _
      collected := rfl
      carouselArrived := fun _ member => absurd member List.not_mem_nil }

theorem arrived (follows : screen.Follows shown) {index : Fin 3} {currTime : Int}
    (taken : homeScreenStep screen (.arrived index currTime) = some next) :
    next.Follows (homeShownStep shown (.arrived index currTime)) := by
  obtain ⟨feeds, stepped, drawn⟩ := Option.bind_eq_some_iff.mp taken
  obtain ⟨server, row, carousel⟩ := feedStep_arrived stepped
  obtain ⟨same, posted, featured, categories⟩ := updateViews_spec drawn
  rw [follows.server] at server row carousel
  have collected : (feeds.featuredArticles : Multiset ArticleData) =
      shown.collected + featuredBag shown.server index := by
    rw [carousel, Multiset.coe_eq_coe.mpr (sortBy_perm _ _), ← Multiset.coe_add, follows.collected]
    rfl
  have inCarousel : ∀ article ∈ feeds.featuredArticles, shown.arrived article ∨
      article ∈ homeContent shown.server index := by
    intro article member
    rw [carousel, (sortBy_perm _ _).mem_iff] at member
    rcases List.mem_append.mp member with before | new
    · exact .inl (follows.carouselArrived article before)
    · exact .inr (List.mem_of_mem_filter new)
  refine {
    server := by rw [same]; exact server
    collected := by rw [same]; exact collected
    category := fun other => ?_
    featured := ?_
    drawnArrived := ?_
    carouselArrived := by rw [same]; exact inCarousel
    featuredArrived := ?_
    posted := fun article member => .inl (follows.posted article (posted ▸ member)) }
  · dsimp only at categories
    rw [categories, row]
    simp only [homeShownStep]
    by_cases empty : homeContent shown.server index = []
    · rw [if_pos empty, if_pos empty, if_pos empty]
      exact follows.category other
    · rw [if_neg empty, if_neg empty, if_neg empty]
      by_cases here : other = index
      · subst here
        simp only [Function.update_self]
        exact CategoryView.shows_arrayToPairs ..
      · simp only [Function.update_of_ne here]
        exact follows.category other
  · rw [featured]
    exact HomeScreen.featuredDrawn_shows carousel collected
  · intro other time articles here article member
    simp only [homeShownStep] at here
    split at here
    · exact .inl (follows.drawnArrived other time articles here article member)
    · by_cases same : other = index
      · subst same
        rw [Function.update_self] at here
        obtain ⟨rfl, rfl⟩ := Prod.mk.inj (Option.some.inj here)
        exact .inr member
      · rw [Function.update_of_ne same] at here
        exact .inl (follows.drawnArrived other time articles here article member)
  · intro article member
    rw [featured, HomeScreen.featuredDrawn] at member
    dsimp only at member
    split at member
    · exact inCarousel article member
    · exact .inl (follows.featuredArrived article member)

/-- Every step keeps what the page is to show. -/
theorem step (follows : screen.Follows shown) {event : HomeScreenEvent}
    (taken : homeScreenStep screen event = some next) :
    next.Follows (homeShownStep shown event) := by
  cases event with
  | feed event =>
    obtain ⟨elsewhere, stepped⟩ := Option.ite_none_left_eq_some.mp taken
    obtain ⟨feeds, stepped, result⟩ := Option.bind_eq_some_iff.mp stepped
    exact Option.some.inj result ▸ follows.feed (Bool.eq_false_iff.mpr elsewhere) stepped
  | refreshAllArticles internetConnected =>
    obtain ⟨_, result⟩ := Option.ite_none_left_eq_some.mp taken
    exact Option.some.inj result ▸ follows.refreshAllArticles internetConnected
  | arrived index currTime => exact follows.arrived taken
  | infoPopupOk => exact Option.some.inj taken ▸ { follows with }
  | openArticle articleSingle =>
    obtain ⟨member, result⟩ := Option.ite_none_right_eq_some.mp taken
    refine Option.some.inj result ▸ { follows with posted := fun article posted => ?_ }
    rcases List.mem_append.mp posted with before | new
    · exact follows.posted article before
    · exact List.mem_singleton.mp new ▸ follows.toShows.buttons articleSingle member

theorem viewDidLoad (internetConnected : Bool) (server : DataSnapshot)
    (saved : Option (List String)) :
    (HomeScreen.viewDidLoad internetConnected (Feeds.launch server saved)).Follows
      (.launch server) where
  server := by cases internetConnected <;> rfl
  collected := by cases internetConnected <;> rfl
  category index := by
    cases internetConnected <;> match index with
      | 0 => exact ⟨rfl, rfl, rfl⟩
      | 1 => exact ⟨rfl, rfl, rfl⟩
      | 2 => exact ⟨rfl, rfl, rfl⟩
  featured := by cases internetConnected <;> rfl
  drawnArrived _ _ _ drawn := absurd drawn (Option.some_ne_none _).symm
  carouselArrived := by cases internetConnected <;> exact List.forall_mem_nil _
  featuredArrived := by cases internetConnected <;> exact List.forall_mem_nil _
  posted := by cases internetConnected <;> exact List.forall_mem_nil _

end HomeScreen.Follows

theorem HomeScreen.Follows.run {internetConnected : Bool} {server : DataSnapshot}
    {saved : Option (List String)} {events : List HomeScreenEvent} {screen : HomeScreen}
    (ran : homeScreenRun (.viewDidLoad internetConnected (Feeds.launch server saved)) events =
      some screen) :
    screen.Follows (events.foldl homeShownStep (.launch server)) := by
  refine run_refines HomeScreen.Follows (fun _ _ => True) ?_
    (.viewDidLoad internetConnected server saved) (Along.of_forall (fun _ _ _ => trivial) _) ran
  intro _ _ _ _ follows _ taken
  exact follows.step taken

/-- Whatever the other pages load in between and in whichever order the fetches arrive: each
category shows the articles with which its branch last arrived for this page, the carousel what
is featured in the branches that arrived since the last load, and a button posts an article that
arrived. -/
theorem home_screen_shows {internetConnected : Bool} {server : DataSnapshot}
    {saved : Option (List String)} {events : List HomeScreenEvent} {screen : HomeScreen}
    (ran : homeScreenRun (.viewDidLoad internetConnected (Feeds.launch server saved)) events =
      some screen) :
    screen.Shows (events.foldl homeShownStep (.launch server)) :=
  (HomeScreen.Follows.run ran).toShows

def featuredArticle : ArticleData where
  articleID := some "article"
  articleCatagory := some "General Info"
  isFeatured := true

/-- A notification is tapped while the branches are on their way; then its article is opened
from the home page, and the page is refreshed. -/
def loadDuringArrival : List HomeScreenEvent :=
  .feed (.loadAllArticles true) ::
    (List.finRange 3).flatMap (fun index =>
      [.feed (.complete (.allHomepage 0 index) 0), .arrived index 0]) ++
    .openArticle featuredArticle :: .refreshAllArticles true ::
      (List.finRange 3).map fun index => .arrived index 0

theorem load_during_arrival_shown : ∃ screen,
    homeScreenRun (.viewDidLoad true (Feeds.launch featuredHomepage none)) loadDuringArrival =
      some screen ∧
    screen.Shows (loadDuringArrival.foldl homeShownStep (.launch featuredHomepage)) := by
  obtain ⟨screen, ran⟩ : ∃ screen, homeScreenRun
      (.viewDidLoad true (Feeds.launch featuredHomepage none)) loadDuringArrival = some screen :=
    Option.isSome_iff_exists.mp (by decide +kernel)
  exact ⟨screen, ran, home_screen_shows ran⟩

/-- The branches that have arrived since the last load. -/
def sinceLoad (events : List HomeScreenEvent) : List (Fin 3) :=
  events.foldl (fun arrived event => match event with
    | .refreshAllArticles true => []
    | .arrived index _ => arrived ++ [index]
    | _ => arrived) []

section arrivals

variable {server : DataSnapshot} {events : List HomeScreenEvent}

/-- An event is an arrival or a load, or leaves what is shown. -/
theorem homeShown_concat_cases (events : List HomeScreenEvent) (event : HomeScreenEvent)
    (start : HomeShown) :
    (∃ index currTime, event = .arrived index currTime ∧
      sinceLoad (events ++ [event]) = sinceLoad events ++ [index]) ∨
    (event = .refreshAllArticles true ∧ sinceLoad (events ++ [event]) = []) ∨
    ((∀ index currTime, event ≠ .arrived index currTime) ∧
      sinceLoad (events ++ [event]) = sinceLoad events ∧
      ((events ++ [event]).foldl homeShownStep start).drawn =
        (events.foldl homeShownStep start).drawn ∧
      ((events ++ [event]).foldl homeShownStep start).collected =
        (events.foldl homeShownStep start).collected ∧
      ((events ++ [event]).foldl homeShownStep start).featured =
        (events.foldl homeShownStep start).featured) := by
  simp only [sinceLoad, List.foldl_concat]
  cases event with
  | feed event => cases event <;> exact .inr (.inr ⟨by simp, rfl, rfl, rfl, rfl⟩)
  | refreshAllArticles internetConnected =>
    cases internetConnected with
    | true => exact .inr (.inl ⟨rfl, rfl⟩)
    | false => exact .inr (.inr ⟨by simp, rfl, rfl, rfl, rfl⟩)
  | arrived index currTime => exact .inl ⟨index, currTime, rfl, rfl⟩
  | infoPopupOk => exact .inr (.inr ⟨by simp, rfl, rfl, rfl, rfl⟩)
  | openArticle articleSingle => exact .inr (.inr ⟨by simp, rfl, rfl, rfl, rfl⟩)

theorem arrived_of_sinceLoad {index : Fin 3} (since : index ∈ sinceLoad events) :
    ∃ currTime, .arrived index currTime ∈ events := by
  induction events using List.reverseRecOn with
  | nil => cases since
  | append_singleton events event ih =>
    rcases homeShown_concat_cases events event (.launch (.node "" [])) with
      ⟨other, currTime, rfl, same⟩ | ⟨rfl, same⟩ | ⟨_, same, _⟩
    · rcases List.mem_append.mp (same ▸ since) with before | last
      · exact (ih before).imp fun _ member => List.mem_append_left _ member
      · obtain rfl := List.mem_singleton.mp last
        exact ⟨currTime, by simp⟩
    · rw [same] at since
      cases since
    · exact (ih (same ▸ since)).imp fun _ member => List.mem_append_left _ member

/-- Once a branch has arrived since the last load the carousel is drawn from what was collected. -/
theorem featured_of_sinceLoad (since : sinceLoad events ≠ []) : ∃ index currTime,
    .arrived index currTime ∈ events ∧
      (events.foldl homeShownStep (.launch server)).featured =
        some (currTime, (events.foldl homeShownStep (.launch server)).collected) := by
  induction events using List.reverseRecOn with
  | nil => exact absurd rfl since
  | append_singleton events event ih =>
    rcases homeShown_concat_cases events event (.launch server) with
      ⟨index, currTime, rfl, _⟩ | ⟨_, same⟩ | ⟨_, same, _, collected, featured⟩
    · refine ⟨index, currTime, by simp, ?_⟩
      rw [List.foldl_concat]
      rfl
    · exact absurd same since
    · obtain ⟨index, currTime, member, drawn⟩ := ih (same ▸ since)
      exact ⟨index, currTime, List.mem_append_left _ member, by rw [featured, collected, drawn]⟩

private theorem homeShown_server (fixed : ∀ other, .feed (.serverChanges other) ∉ events) :
    (events.foldl homeShownStep (.launch server)).server = server := by
  induction events using List.reverseRecOn with
  | nil => rfl
  | append_singleton events event ih =>
    simp only [List.mem_append, List.mem_singleton, not_or, forall_and] at fixed
    rw [List.foldl_concat]
    refine Eq.trans ?_ (ih fixed.1)
    cases event with
    | feed event =>
      cases event with
      | serverChanges other => exact absurd rfl (fixed.2 other)
      | _ => rfl
    | _ => rfl

theorem collected_eq (fixed : ∀ other, .feed (.serverChanges other) ∉ events) :
    (events.foldl homeShownStep (.launch server)).collected =
      ((sinceLoad events).map (featuredBag server)).sum := by
  induction events using List.reverseRecOn with
  | nil => rfl
  | append_singleton events event ih =>
    have before : ∀ other, .feed (.serverChanges other) ∉ events := fun other member =>
      fixed other (List.mem_append_left _ member)
    rcases homeShown_concat_cases events event (.launch server) with
      ⟨index, currTime, rfl, same⟩ | ⟨rfl, same⟩ | ⟨_, same, _, collected, _⟩
    · rw [same, List.map_append, List.sum_append, ← ih before, List.foldl_concat]
      simp only [homeShownStep, homeShown_server before, List.map_cons, List.map_nil,
        List.sum_cons, List.sum_nil, add_zero]
    · rw [same, List.foldl_concat]
      rfl
    · rw [same, collected, ih before]

theorem drawn_of_arrived (fixed : ∀ other, .feed (.serverChanges other) ∉ events) {index : Fin 3}
    (arrives : ∃ currTime, .arrived index currTime ∈ events)
    (filled : homeContent server index ≠ []) : ∃ currTime, .arrived index currTime ∈ events ∧
      (events.foldl homeShownStep (.launch server)).drawn index =
        some (currTime, homeContent server index) := by
  induction events using List.reverseRecOn with
  | nil =>
    obtain ⟨_, member⟩ := arrives
    cases member
  | append_singleton events event ih =>
    have before : ∀ other, .feed (.serverChanges other) ∉ events := fun other member =>
      fixed other (List.mem_append_left _ member)
    have earlier : (∀ currTime, event ≠ .arrived index currTime) →
        ∃ currTime, .arrived index currTime ∈ events := by
      intro apart
      obtain ⟨currTime, member⟩ := arrives
      rcases List.mem_append.mp member with member | last
      · exact ⟨currTime, member⟩
      · exact absurd (List.mem_singleton.mp last).symm (apart currTime)
    rcases homeShown_concat_cases events event (.launch server) with
      ⟨other, currTime, rfl, _⟩ | ⟨rfl, _⟩ | ⟨noArrival, _, drawn, _⟩
    · rw [List.foldl_concat]
      simp only [homeShownStep, homeShown_server before]
      by_cases same : other = index
      · subst same
        rw [if_neg filled, Function.update_self]
        exact ⟨currTime, by simp, rfl⟩
      · obtain ⟨earlierTime, member, drawn⟩ := ih before (earlier (by simp [same]))
        refine ⟨earlierTime, List.mem_append_left _ member, ?_⟩
        split
        · exact drawn
        · rw [Function.update_of_ne (Ne.symm same), drawn]
    · obtain ⟨currTime, member, drawn⟩ := ih before (earlier (by simp))
      rw [List.foldl_concat]
      exact ⟨currTime, List.mem_append_left _ member, drawn⟩
    · obtain ⟨currTime, member, before⟩ := ih before (earlier (noArrival index))
      exact ⟨currTime, List.mem_append_left _ member, drawn ▸ before⟩

/-- A branch that is not empty and has arrived since the last load waits for none, unless
a refresh without a connection has put the label back. -/
theorem waiting_of_sinceLoad (fixed : ∀ other, .feed (.serverChanges other) ∉ events)
    (online : .refreshAllArticles false ∉ events) {index : Fin 3}
    (since : index ∈ sinceLoad events) (filled : homeContent server index ≠ []) :
    (events.foldl homeShownStep (.launch server)).waiting index = false := by
  induction events using List.reverseRecOn with
  | nil => cases since
  | append_singleton events event ih =>
    have before : ∀ other, .feed (.serverChanges other) ∉ events := fun other member =>
      fixed other (List.mem_append_left _ member)
    have ih := ih before fun member => online (List.mem_append_left _ member)
    simp only [sinceLoad, List.foldl_concat] at since ⊢
    cases event with
    | feed event =>
      cases event with
      | serverChanges other => exact absurd (by simp) (fixed other)
      | _ => exact ih since
    | refreshAllArticles internetConnected =>
      cases internetConnected with
      | true => cases since
      | false => exact absurd (by simp) online
    | arrived other currTime =>
      simp only [homeShownStep, homeShown_server before]
      by_cases same : other = index
      · subst same
        rw [if_neg filled, Function.update_self]
      · have earlier := ih ((List.mem_append.mp since).resolve_right fun last =>
          same (List.mem_singleton.mp last).symm)
        split
        · exact earlier
        · rw [Function.update_of_ne (Ne.symm same), earlier]
    | infoPopupOk => exact ih since
    | openArticle articleSingle => exact ih since

theorem drawn_of_empty (fixed : ∀ other, .feed (.serverChanges other) ∉ events) {index : Fin 3}
    (empty : homeContent server index = []) :
    (events.foldl homeShownStep (.launch server)).drawn index = none := by
  induction events using List.reverseRecOn with
  | nil => rfl
  | append_singleton events event ih =>
    have before : ∀ other, .feed (.serverChanges other) ∉ events := fun other member =>
      fixed other (List.mem_append_left _ member)
    rcases homeShown_concat_cases events event (.launch server) with
      ⟨other, currTime, rfl, _⟩ | ⟨rfl, _⟩ | ⟨_, _, drawn, _⟩
    · rw [List.foldl_concat]
      simp only [homeShownStep, homeShown_server before]
      split
      · exact ih before
      · rename_i filled
        have apart : index ≠ other := fun same => filled (same ▸ empty)
        rw [Function.update_of_ne apart, ih before]
    · rw [List.foldl_concat]
      exact ih before
    · rw [drawn, ih before]

end arrivals

end AhsApp.Ios
