import AhsApp.Ios.SavedOrder
import AhsApp.Library.Refinement
import AhsApp.Library.Run
import Mathlib.Logic.Function.Basic

/-! The screen under the tab bar: the tabs, the list of the saved articles, and the page of an
article with its bookmark. The list is built when its tab appears and when a page is left; a
button that is pressed and a page that opens in between find what was built before. -/

namespace AhsApp.Ios

open AhsApp.Library

universe u

variable {Data : Type u}

/-- The buttons and their pages, in the order of the tags. -/
inductive Tab where
  | home
  | bulletin
  | saved
  | settings
  deriving DecidableEq

inductive BarColor where
  | backgroundGray
  | inverseBackground
  | clear
  deriving DecidableEq

structure TopBar where
  height : Nat
  shadowColor : BarColor
  homeTopBarContentHidden : Bool
  topBarPageNameHidden : Bool
  topBarPageName : String
  deriving DecidableEq

/-- `children` are the child controllers, whose views stand in the content view. -/
structure TabBar where
  selectedIndex : Tab
  tintColor : Tab → BarColor
  children : List Tab
  topBar : TopBar

namespace TabBar

/-- What the storyboard and `viewDidLoad` leave. -/
def viewDidLoad : TabBar where
  selectedIndex := .home
  tintColor := Function.update (fun _ => .backgroundGray) .home .inverseBackground
  children := [.home]
  topBar := ⟨62, .backgroundGray, false, true, "PAGE NAME HERE"⟩

/-- What a tab makes of the top bar. -/
def showTopBar (topBar : TopBar) : Tab → TopBar
  | .home => { topBar with
      height := 62
      shadowColor := .backgroundGray
      homeTopBarContentHidden := false
      topBarPageNameHidden := true }
  | .bulletin => ⟨60, .clear, true, false, "Student Bulletin"⟩
  | .saved => ⟨60, .backgroundGray, true, false, "Saved"⟩
  | .settings => ⟨60, .backgroundGray, true, false, "Settings"⟩

/-- The tab that is selected already only scrolls its page. -/
def didPressTab (tag : Tab) (bar : TabBar) : TabBar :=
  if bar.selectedIndex = tag then bar
  else {
    selectedIndex := tag
    tintColor := Function.update
      (Function.update bar.tintColor bar.selectedIndex .backgroundGray) tag .inverseBackground
    children := bar.children.erase bar.selectedIndex ++ [tag]
    topBar := showTopBar bar.topBar tag }

end TabBar

/-- The page of an article, with whether its bookmark is filled. -/
structure ArticlePage where
  articleContent : ArticleData
  isSelected : Bool
  deriving DecidableEq

namespace ArticlePage

def setBookmarkColor (saved : SavedArticles Data) (page : ArticlePage) : ArticlePage :=
  { page with isSelected :=
      match page.articleContent.articleID with
      | some articleID => isSavedCurrentArticle articleID saved
      | none => false }

def viewDidLoad (saved : SavedArticles Data) (articleContent : ArticleData) : ArticlePage :=
  setBookmarkColor saved ⟨articleContent, false⟩

/-- An article without an ID is left alone. -/
def saveArticle (codec : ArticleCodec Data) (page : ArticlePage) (saved : SavedArticles Data) :
    ArticlePage × SavedArticles Data :=
  match page.articleContent.articleID with
  | some articleID =>
    let saved :=
      if page.isSelected then removeCurrArticle codec articleID saved
      else saveCurrArticle codec articleID page.articleContent saved
    (setBookmarkColor saved { page with isSelected := !page.isSelected }, saved)
  | none => (page, saved)

end ArticlePage

/-- The page of saved articles is loaded, and observes, from its first appearance on;
`savedButtons` are then the articles of its buttons. -/
structure MainScreen (Data : Type u) where
  saved : SavedArticles Data
  tabBar : TabBar
  savedButtons : Option (List ArticleData)
  notificationsPage : Bool
  articlePage : Option ArticlePage

namespace MainScreen

/-- A new process reads the dictionary. -/
def launch (codec : ArticleCodec Data) (saved : SavedArticles Data) : MainScreen Data where
  saved := relaunch codec saved
  tabBar := .viewDidLoad
  savedButtons := none
  notificationsPage := false
  articlePage := none

/-- Nothing is presented over the tab bar. -/
def Bare (screen : MainScreen Data) : Prop :=
  screen.notificationsPage = false ∧ screen.articlePage = none

instance (screen : MainScreen Data) : Decidable screen.Bare :=
  inferInstanceAs (Decidable (_ ∧ _))

/-- The texts of the buttons are left out, and so is the trap of `epochToString` in them. -/
def renderList (codec : ArticleCodec Data) (enumerate : Enumeration) (currTime : Int)
    (screen : MainScreen Data) : MainScreen Data :=
  let (saved, articles) := getSavedArticles codec enumerate currTime screen.saved
  { screen with saved, savedButtons := some articles }

/-- The observers of `savedpage_reloadSavedArticles`. -/
def reloadSavedArticles (codec : ArticleCodec Data) (enumerate : Enumeration) (currTime : Int)
    (screen : MainScreen Data) : MainScreen Data :=
  if screen.savedButtons.isSome then screen.renderList codec enumerate currTime else screen

/-- The page of saved articles is rendered when it appears. -/
def didPressTab (codec : ArticleCodec Data) (enumerate : Enumeration) (tag : Tab) (currTime : Int)
    (screen : MainScreen Data) : MainScreen Data :=
  let appears := screen.tabBar.selectedIndex ≠ tag ∧ tag = .saved
  let screen := { screen with tabBar := screen.tabBar.didPressTab tag }
  if appears then screen.renderList codec enumerate currTime else screen

def presentArticle (articleContent : ArticleData) (screen : MainScreen Data) : MainScreen Data :=
  { screen with articlePage := some (.viewDidLoad screen.saved articleContent) }

/-- A controller that presents already does not present another. -/
def articleSelector (articleContent : ArticleData) (screen : MainScreen Data) : MainScreen Data :=
  if screen.Bare then screen.presentArticle articleContent else screen

end MainScreen

/-- `articlePosted` is the notification that the buttons of home and bulletin and a tapped push
post, at any time; `handlePan` is a pan far enough to leave the page on top. -/
inductive ScreenEvent where
  | didPressTab (tag : Tab) (currTime : Int)
  | openNotifications
  | exitPopup
  | articlePosted (articleContent : ArticleData)
  | savedButtonPressed (article : ArticleData)
  | notificationOpened (articleContent : ArticleData)
  | saveArticle
  | exitArticle (currTime : Int)
  | handlePan (currTime : Int)
  | resetPreferences
  | relaunch

/-- What is under a presented page cannot be touched. -/
def screenStep (codec : ArticleCodec Data) (enumerate : Enumeration) (screen : MainScreen Data) :
    ScreenEvent → Option (MainScreen Data)
  | .didPressTab tag currTime =>
    if screen.Bare then some (screen.didPressTab codec enumerate tag currTime) else none
  | .openNotifications =>
    if screen.Bare then some { screen with notificationsPage := true } else none
  | .exitPopup =>
    if screen.notificationsPage ∧ screen.articlePage = none then
      some { screen with notificationsPage := false }
    else none
  | .articlePosted articleContent => some (screen.articleSelector articleContent)
  | .savedButtonPressed article =>
    if screen.Bare ∧ screen.tabBar.selectedIndex = .saved ∧
        article ∈ screen.savedButtons.getD [] then
      some (screen.articleSelector article)
    else none
  | .notificationOpened articleContent =>
    if screen.notificationsPage ∧ screen.articlePage = none then
      some (screen.presentArticle articleContent)
    else none
  | .saveArticle => screen.articlePage.map fun page =>
    let (page, saved) := page.saveArticle codec screen.saved
    { screen with articlePage := some page, saved }
  | .exitArticle currTime => screen.articlePage.map fun _ =>
    { screen.reloadSavedArticles codec enumerate currTime with articlePage := none }
  | .handlePan currTime =>
    let reloaded := screen.reloadSavedArticles codec enumerate currTime
    if screen.articlePage.isSome then some { reloaded with articlePage := none }
    else if screen.notificationsPage then some { reloaded with notificationsPage := false }
    else none
  | .resetPreferences =>
    if screen.Bare ∧ screen.tabBar.selectedIndex = .settings then
      some { screen with saved := Ios.resetPreferences screen.saved }
    else none
  | .relaunch => some (.launch codec screen.saved)

abbrev screenRun (codec : ArticleCodec Data) (enumerate : Enumeration) :
    MainScreen Data → List ScreenEvent → Option (MainScreen Data) :=
  run (screenStep codec enumerate)

/-- The application just installed. -/
def MainScreen.install (codec : ArticleCodec Data) : MainScreen Data := .launch codec ⟨∅, none⟩

end AhsApp.Ios
