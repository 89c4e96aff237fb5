import AhsApp.Ios.Decode
import AhsApp.Library.Run
import AhsApp.Library.ReadMarks

/-! The home and bulletin feeds of the iOS application: the static arrays of
`dataManager`, the carousel of `homeClass`, and the bulletin page. Every closure
runs on the main thread, so a callback is one step; a trap has no next state. -/

namespace AhsApp.Ios

open AhsApp.Firebase AhsApp.Library

/-- A single-event read whose callback has not run yet. Those of
`loadAllArticles` remember which call started them. -/
inductive Fetch where
  | homepage (index : Fin 3)
  | bulletin (index : Fin 5)
  | allHomepage (call : Nat) (index : Fin 3)
  | allBulletin (call : Nat) (index : Fin 5)
  deriving DecidableEq

/-- The arrays are indexed by branch. The sixth row that `bulletinArticleList`
starts with is never written, so it is left out. -/
structure Feeds where
  server : DataSnapshot
  homeArticleList : Fin 3 → List ArticleData
  featuredArticles : List ArticleData
  bulletinArticleList : Fin 5 → List BulletinArticleData
  totalArticles : List BulletinArticleData
  bulletinReadDict : MarkStore String
  selectedFilters : Fin 5 → Bool
  currentArticles : List BulletinArticleData
  inFlight : List Fetch
  loadCalls : Nat
  reported : List (Nat × ArticleData)

namespace Feeds

/-- The application just started, with the read marks an earlier run saved. -/
def launch (server : DataSnapshot) (saved : Option (List String)) : Feeds where
  server := server
  homeArticleList _ := []
  featuredArticles := []
  bulletinArticleList _ := []
  totalArticles := []
  bulletinReadDict := MarkStore.launch saved
  selectedFilters _ := false
  currentArticles := []
  inFlight := []
  loadCalls := 0
  reported := []

end Feeds

/-- What a read of a homepage branch decodes to; `none` when decoding traps. -/
def serverHomepage (server : DataSnapshot) (index : Fin 3) : Option (List ArticleData) :=
  decodeHomepageBranch index ((server.child "homepage").child (homepageBranch index))

def serverBulletin (server : DataSnapshot) (index : Fin 5) : List BulletinArticleData :=
  decodeBulletinBranch index ((server.child "bulletin").child (bulletinBranch index))

/-- `articleID ?? ""`. -/
def BulletinArticleData.id (article : BulletinArticleData) : String :=
  article.articleID.getD ""

def loadBullPref (feeds : Feeds) : Feeds :=
  { feeds with bulletinReadDict := feeds.bulletinReadDict.load }

/-- Only marks of articles in `totalArticles` are written. -/
def saveBullPref (feeds : Feeds) : Feeds :=
  { feeds with
    bulletinReadDict :=
      feeds.bulletinReadDict.save (feeds.totalArticles.map BulletinArticleData.id) }

def bulletinArrayHasData (bulletinArticleList : Fin 5 → List BulletinArticleData) : Bool :=
  (List.finRange 5).any fun index => !(bulletinArticleList index).isEmpty

def noFilterSelected (selectedFilters : Fin 5 → Bool) : Bool :=
  (List.finRange 5).all fun index => !selectedFilters index

/-- The loop of `filterArticles`. -/
def selectedCopy (selectedFilters : Fin 5 → Bool) :
    List BulletinArticleData → Option (List BulletinArticleData)
  | [] => some []
  | article :: rest => do
    let selected ← elementAt selectedFilters article.articleType
    let copy ← selectedCopy selectedFilters rest
    some (if selected then article :: copy else copy)

def filterArticles (selectedFilters : Fin 5 → Bool) (totalArticles : List BulletinArticleData) :
    Option (List BulletinArticleData) := do
  let copy ← selectedCopy selectedFilters totalArticles
  some (if copy.isEmpty && noFilterSelected selectedFilters then totalArticles else copy)

/-- The branches in order, as the loop over `0...4` appends them. -/
def allBulletins (bulletinArticleList : Fin 5 → List BulletinArticleData) :
    List BulletinArticleData :=
  (List.finRange 5).flatMap bulletinArticleList

/-- Nothing is rendered, and no mark loaded, while every branch is empty. The buttons are
not part of the feed, nor is the trap of `epochToString` when one is drawn. -/
def generateBulletin (now : Int) (feeds : Feeds) : Option Feeds :=
  if bulletinArrayHasData feeds.bulletinArticleList then do
    let totalArticles :=
      sortBy (sortBulletinsByTime now) (allBulletins feeds.bulletinArticleList)
    let currentArticles ← filterArticles feeds.selectedFilters totalArticles
    some (loadBullPref { feeds with totalArticles, currentArticles })
  else some feeds

def addFilter (index : Fin 5) (now : Int) (feeds : Feeds) : Option Feeds :=
  generateBulletin now { feeds with
    selectedFilters :=
      Function.update feeds.selectedFilters index (!feeds.selectedFilters index) }

/-- `openArticle` of the bulletin page: only an article without a mark is saved. -/
def openArticle (article : BulletinArticleData) (feeds : Feeds) : Feeds :=
  if feeds.bulletinReadDict.memory article.id = none then
    saveBullPref { feeds with bulletinReadDict := feeds.bulletinReadDict.mark article.id }
  else feeds

def getHomepageData (internetConnected : Bool) (feeds : Feeds) : Feeds :=
  if internetConnected then
    { feeds with
      featuredArticles := []
      homeArticleList := fun _ => []
      inFlight := feeds.inFlight ++ (List.finRange 3).map .homepage }
  else feeds

def getBulletinData (internetConnected : Bool) (feeds : Feeds) : Feeds :=
  if internetConnected then
    { feeds with
      bulletinArticleList := fun _ => []
      inFlight := feeds.inFlight ++ (List.finRange 5).map .bulletin }
  else feeds

/-- Both feeds are emptied; the carousel is not. -/
def loadAllArticles (internetConnected : Bool) (feeds : Feeds) : Feeds :=
  if internetConnected then
    { feeds with
      homeArticleList := fun _ => []
      bulletinArticleList := fun _ => []
      inFlight := feeds.inFlight ++ (List.finRange 3).map (.allHomepage feeds.loadCalls) ++
        (List.finRange 5).map (.allBulletin feeds.loadCalls)
      loadCalls := feeds.loadCalls + 1 }
  else feeds

/-- What `setUpFeatured` does to the feed before it draws the carousel. The views are not
part of the feed: what is drawn, and where drawing traps, is left to the home page. -/
def sortFeatured (now : Int) (feeds : Feeds) : Feeds :=
  { feeds with featuredArticles := sortBy (sortArticlesByTime now) feeds.featuredArticles }

/-- The callback of a fetch: it reads the server and stores its branch, then does
what the loader that started it asks for. -/
def callback (fetch : Fetch) (now : Int) (feeds : Feeds) : Option Feeds :=
  match fetch with
  | .homepage index => do
    let temp ← serverHomepage feeds.server index
    some (sortFeatured now { feeds with
      featuredArticles := feeds.featuredArticles ++ temp.filter (·.isFeatured)
      homeArticleList := Function.update feeds.homeArticleList index temp })
  | .bulletin index =>
    generateBulletin now { feeds with
      bulletinArticleList := Function.update feeds.bulletinArticleList index
        (serverBulletin feeds.server index) }
  | .allHomepage call index => do
    let temp ← serverHomepage feeds.server index
    some { feeds with
      homeArticleList := Function.update feeds.homeArticleList index temp
      reported := feeds.reported ++ temp.map (call, ·) }
  | .allBulletin call index =>
    let temp := serverBulletin feeds.server index
    some { feeds with
      bulletinArticleList := Function.update feeds.bulletinArticleList index temp
      reported := feeds.reported ++ temp.map fun article =>
        (call, bulletinDataToarticleData article) }

inductive FeedEvent where
  | serverChanges (server : DataSnapshot)
  | getHomepageData (internetConnected : Bool)
  | getBulletinData (internetConnected : Bool)
  | loadAllArticles (internetConnected : Bool)
  | complete (fetch : Fetch) (now : Int)
  | addFilter (index : Fin 5) (now : Int)
  | openArticle (article : BulletinArticleData)

/-- One step of the main thread. Only a started fetch can complete, and only an
article with a button on the screen can be opened. -/
def feedStep (feeds : Feeds) : FeedEvent → Option Feeds
  | .serverChanges server => some { feeds with server }
  | .getHomepageData internetConnected => some (getHomepageData internetConnected feeds)
  | .getBulletinData internetConnected => some (getBulletinData internetConnected feeds)
  | .loadAllArticles internetConnected => some (loadAllArticles internetConnected feeds)
  | .complete fetch now =>
    if fetch ∈ feeds.inFlight then
      callback fetch now { feeds with inFlight := feeds.inFlight.erase fetch }
    else none
  | .addFilter index now => addFilter index now feeds
  | .openArticle article =>
    if article ∈ feeds.currentArticles then some (openArticle article feeds) else none

abbrev feedRun : Feeds → List FeedEvent → Option Feeds := run feedStep

theorem selectedCopy_eq_filter {selectedFilters : Fin 5 → Bool}
    {articles copy : List BulletinArticleData}
    (copied : selectedCopy selectedFilters articles = some copy) :
    copy = articles.filter fun article =>
      elementAt selectedFilters article.articleType == some true := by
  induction articles generalizing copy with
  | nil => simpa [selectedCopy] using copied.symm
  | cons article rest ih =>
    simp only [selectedCopy, Option.bind_eq_bind, Option.bind_eq_some_iff, Option.some.injEq]
      at copied
    obtain ⟨selected, looked, remaining, copiedRest, result⟩ := copied
    rw [← result, List.filter_cons, looked, ih copiedRest]
    cases selected <;> simp

theorem filterArticles_sublist {selectedFilters : Fin 5 → Bool}
    {articles kept : List BulletinArticleData}
    (filtered : filterArticles selectedFilters articles = some kept) : kept.Sublist articles := by
  simp only [filterArticles, Option.bind_eq_bind, Option.bind_eq_some_iff, Option.some.injEq]
    at filtered
  obtain ⟨copy, copied, result⟩ := filtered
  rw [← result]
  split
  · exact List.Sublist.refl _
  · rw [selectedCopy_eq_filter copied]
    exact List.filter_sublist

/-- Either nothing was loaded and nothing changes, or the page is rebuilt from
the arrays and the saved marks come back into memory. -/
theorem generateBulletin_cases {now : Int} {feeds next : Feeds}
    (generated : generateBulletin now feeds = some next) :
    (bulletinArrayHasData feeds.bulletinArticleList = false ∧ next = feeds) ∨
    (bulletinArrayHasData feeds.bulletinArticleList = true ∧ ∃ kept,
      filterArticles feeds.selectedFilters
        (sortBy (sortBulletinsByTime now) (allBulletins feeds.bulletinArticleList)) = some kept ∧
      next = { feeds with
        totalArticles := sortBy (sortBulletinsByTime now) (allBulletins feeds.bulletinArticleList)
        currentArticles := kept
        bulletinReadDict := feeds.bulletinReadDict.load }) := by
  unfold generateBulletin at generated
  split at generated
  · rename_i loaded
    simp only [Option.bind_eq_bind, Option.bind_eq_some_iff, Option.some.injEq] at generated
    obtain ⟨kept, filtered, result⟩ := generated
    exact .inr ⟨loaded, kept, filtered, result.symm⟩
  · rename_i blank
    exact .inl ⟨by simpa using blank, (Option.some.inj generated).symm⟩

theorem generateBulletin_frame {now : Int} {feeds next : Feeds}
    (generated : generateBulletin now feeds = some next) :
    next.server = feeds.server ∧ next.homeArticleList = feeds.homeArticleList ∧
      next.featuredArticles = feeds.featuredArticles ∧
      next.bulletinArticleList = feeds.bulletinArticleList ∧
      next.selectedFilters = feeds.selectedFilters ∧ next.inFlight = feeds.inFlight := by
  rcases generateBulletin_cases generated with ⟨_, rfl⟩ | ⟨_, kept, _, rfl⟩ <;> simp

theorem homepage_callback {index : Fin 3} {now : Int} {feeds next : Feeds}
    (called : callback (.homepage index) now feeds = some next) :
    ∃ temp, serverHomepage feeds.server index = some temp ∧
      sortFeatured now { feeds with
        featuredArticles := feeds.featuredArticles ++ temp.filter (·.isFeatured)
        homeArticleList := Function.update feeds.homeArticleList index temp } = next := by
  simpa only [callback, Option.bind_eq_bind, Option.bind_eq_some_iff, Option.some.injEq]
    using called

theorem allHomepage_callback {call : Nat} {index : Fin 3} {now : Int} {feeds next : Feeds}
    (called : callback (.allHomepage call index) now feeds = some next) :
    ∃ temp, serverHomepage feeds.server index = some temp ∧
      { feeds with
        homeArticleList := Function.update feeds.homeArticleList index temp
        reported := feeds.reported ++ temp.map (call, ·) } = next := by
  simpa only [callback, Option.bind_eq_bind, Option.bind_eq_some_iff, Option.some.injEq]
    using called

theorem complete_cases {fetch : Fetch} {now : Int} {feeds next : Feeds}
    (taken : feedStep feeds (.complete fetch now) = some next) :
    fetch ∈ feeds.inFlight ∧
      callback fetch now { feeds with inFlight := feeds.inFlight.erase fetch } = some next := by
  simp only [feedStep] at taken
  split at taken
  · exact ⟨‹_›, taken⟩
  · cases taken

theorem openArticle_cases {article : BulletinArticleData} {feeds next : Feeds}
    (taken : feedStep feeds (.openArticle article) = some next) :
    article ∈ feeds.currentArticles ∧ next = openArticle article feeds := by
  simp only [feedStep] at taken
  split at taken
  · exact ⟨‹_›, (Option.some.inj taken).symm⟩
  · cases taken

theorem feedStep_server {feeds next : Feeds} {event : FeedEvent}
    (fixed : ∀ server, event ≠ .serverChanges server)
    (taken : feedStep feeds event = some next) : next.server = feeds.server := by
  cases event with
  | serverChanges server => exact absurd rfl (fixed server)
  | getHomepageData connected => cases connected <;> exact Option.some.inj taken ▸ rfl
  | getBulletinData connected => cases connected <;> exact Option.some.inj taken ▸ rfl
  | loadAllArticles connected => cases connected <;> exact Option.some.inj taken ▸ rfl
  | complete fetch now =>
    obtain ⟨_, called⟩ := complete_cases taken
    cases fetch with
    | homepage index =>
      obtain ⟨temp, _, rfl⟩ := homepage_callback called
      rfl
    | bulletin index => exact (generateBulletin_frame called).1
    | allHomepage call index =>
      obtain ⟨temp, _, rfl⟩ := allHomepage_callback called
      rfl
    | allBulletin call index => exact Option.some.inj called ▸ rfl
  | addFilter index now => exact (generateBulletin_frame taken).1
  | openArticle article =>
    obtain ⟨_, rfl⟩ := openArticle_cases taken
    unfold openArticle
    split <;> rfl

theorem fixed_server_run (invariant : Feeds → Prop)
    (preserved : ∀ {feeds event next}, invariant feeds →
      (∀ server, event ≠ FeedEvent.serverChanges server) →
      feedStep feeds event = some next → invariant next)
    {feeds last : Feeds} {events : List FeedEvent} (initial : invariant feeds)
    (fixed : ∀ server, .serverChanges server ∉ events)
    (ran : feedRun feeds events = some last) : invariant last := by
  refine run_invariant invariant (fun _ event => ∀ server, event ≠ .serverChanges server)
    preserved initial (Along.of_forall ?_ feeds) ran
  rintro _ event member server rfl
  exact fixed server member

theorem server_run {feeds last : Feeds} {events : List FeedEvent}
    (fixed : ∀ server, .serverChanges server ∉ events) (ran : feedRun feeds events = some last) :
    last.server = feeds.server :=
  run_view Feeds.server feedStep_server
    (fun _ member server same => fixed server (same ▸ member)) ran

/-- One article in each of the first two branches. -/
def twoBranches : DataSnapshot :=
  .node "" [.node "bulletin"
    [.node "Academics" [.node "essay" []], .node "Athletics" [.node "game" []]]]

def essay : BulletinArticleData :=
  { articleID := some "essay", articleCatagory := some "Academics", articleType := 0 }

def game : BulletinArticleData :=
  { articleID := some "game", articleCatagory := some "Athletics", articleType := 1 }

def bulletinArrives : List FeedEvent :=
  (List.finRange 5).map fun index => .complete (.bulletin index) 0

def bulletinRefresh : List FeedEvent := .getBulletinData true :: bulletinArrives

end AhsApp.Ios
