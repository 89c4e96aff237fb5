import AhsApp.Ios.FeedConvergence

/-! What the completions of `loadAllArticles` do. A tapped push opens the articles that have
its ID as they are reported; the page of notifications collects the reports in a dictionary
that its buttons open from. -/

namespace AhsApp.Ios

open AhsApp.Firebase AhsApp.Library

/-- The two completions that are passed, one for a tapped push and one for a page. -/
inductive Completion where
  | didReceive (articleID : String)
  | setUpArticleDictionary
  deriving DecidableEq

abbrev ArticleDictionary := String → Option ArticleData

/-- A button of the page, with the ID of its notification and whether it has a chevron. -/
structure NotificationButton where
  notificationArticleID : Option String
  chevron : Bool
  deriving DecidableEq

/-- The key under which the button looks. -/
def NotificationButton.key (button : NotificationButton) : String :=
  button.notificationArticleID.getD ""

/-- The feeds with the completions of their calls. Of the pages of notifications the one on
the screen is kept, with the call it made when it had a connection. -/
structure ArticleReports where
  feeds : Feeds
  completions : List Completion
  posted : List (Nat × ArticleData)
  pageCall : Option Nat
  articleDictionary : ArticleDictionary
  buttons : List NotificationButton
  presented : List (NotificationButton × ArticleData)

namespace ArticleReports

def launch (server : DataSnapshot) (saved : Option (List String)) : ArticleReports :=
  ⟨.launch server saved, [], [], none, fun _ => none, [], []⟩

/-- A report reaches the completion of its call. That of an earlier page fills a dictionary
that no button looks in. -/
def runCompletion (state : ArticleReports) (report : Nat × ArticleData) : ArticleReports :=
  match state.completions[report.1]? with
  | some (.didReceive id) =>
    if report.2.articleID = some id then { state with posted := state.posted ++ [report] }
    else state
  | some .setUpArticleDictionary =>
    if state.pageCall = some report.1 then { state with
      articleDictionary :=
        Function.update state.articleDictionary (report.2.articleID.getD "") (some report.2) }
    else state
  | none => state

/-- Without a connection the completion is told so, and does nothing. -/
def load (completion : Completion) (internetConnected : Bool) (state : ArticleReports) :
    ArticleReports := { state with
  feeds := loadAllArticles internetConnected state.feeds
  completions := state.completions ++ if internetConnected then [completion] else [] }

/-- A page that is opened has an empty dictionary of its own. -/
def viewDidLoad (internetConnected : Bool) (state : ArticleReports) : ArticleReports :=
  load .setUpArticleDictionary internetConnected { state with
    pageCall := if internetConnected then some state.feeds.loadCalls else none
    articleDictionary := fun _ => none
    buttons := [] }

/-- A button for each notification that is listed, by the ID of its article. -/
def loadScrollView (listed : List (Option String)) (state : ArticleReports) : ArticleReports :=
  { state with buttons := listed.map fun id =>
      ⟨id, id.isSome && (state.articleDictionary (id.getD "")).isSome⟩ }

/-- The list is built again after the page of the article is presented. -/
def openArticle (button : NotificationButton) (listed : List (Option String))
    (state : ArticleReports) : ArticleReports :=
  loadScrollView listed { state with presented := state.presented ++
    ((state.articleDictionary button.key).map (button, ·)).toList }

end ArticleReports

inductive ReportEvent where
  | feed (event : FeedEvent)
  | didReceive (articleID : String) (internetConnected : Bool)
  | viewDidLoad (internetConnected : Bool)
  | loadScrollView (listed : List (Option String))
  | openArticle (button : NotificationButton) (listed : List (Option String))

/-- No one else loads all articles. What a callback reports is passed on at once. -/
def reportStep (state : ArticleReports) : ReportEvent → Option ArticleReports
  | .feed (.loadAllArticles _) => none
  | .feed event => do
    let feeds ← feedStep state.feeds event
    some ((feeds.reported.drop state.feeds.reported.length).foldl ArticleReports.runCompletion
      { state with feeds })
  | .didReceive articleID internetConnected =>
    some (state.load (.didReceive articleID) internetConnected)
  | .viewDidLoad internetConnected => some (state.viewDidLoad internetConnected)
  | .loadScrollView listed => some (state.loadScrollView listed)
  | .openArticle button listed =>
    if button ∈ state.buttons then some (state.openArticle button listed) else none

abbrev reportRun : ArticleReports → List ReportEvent → Option ArticleReports := run reportStep

/-- The fetches of the call have arrived. -/
def CallDone (call : Nat) (feeds : Feeds) : Prop :=
  ∀ fetch ∈ feeds.inFlight, fetchCall fetch ≠ some call

def withID (id : String) (articles : List ArticleData) : List ArticleData :=
  articles.filter (·.articleID == some id)

/-- What was posted for a call. -/
def postsOf (call : Nat) (state : ArticleReports) : List ArticleData :=
  reportsOf call state.posted

/-- The completion that an event passes, and the step of the feeds that it is. -/
def ReportEvent.completion : ReportEvent → Option Completion
  | didReceive articleID true => some (.didReceive articleID)
  | viewDidLoad true => some .setUpArticleDictionary
  | _ => none

def ReportEvent.feedEvent : ReportEvent → Option FeedEvent
  | feed event => some event
  | didReceive _ internetConnected => some (.loadAllArticles internetConnected)
  | viewDidLoad internetConnected => some (.loadAllArticles internetConnected)
  | _ => none

/-- What a completion posts of the reports. -/
def postedBy : Option Completion → List ArticleData → List ArticleData
  | some (.didReceive id), articles => withID id articles
  | _, _ => []

/-- The last article that was added under each ID. -/
def addReports (dictionary : ArticleDictionary) (articles : List ArticleData) :
    ArticleDictionary :=
  articles.foldl (fun dictionary article =>
    Function.update dictionary (article.articleID.getD "") (some article)) dictionary

theorem addReports_eq_some {dictionary : ArticleDictionary} {articles : List ArticleData}
    {key : String} {article : ArticleData}
    (found : addReports dictionary articles key = some article) :
    (article ∈ articles ∧ article.articleID.getD "" = key) ∨ dictionary key = some article := by
  induction articles generalizing dictionary with
  | nil => exact .inr found
  | cons first rest ih =>
    rcases ih found with ⟨member, same⟩ | before
    · exact .inl ⟨List.mem_cons_of_mem first member, same⟩
    · have before : Function.update dictionary (first.articleID.getD "") (some first) key =
          some article := before
      rw [Function.update_apply] at before
      split at before
      · rename_i same
        obtain rfl := Option.some.inj before
        exact .inl ⟨List.mem_cons_self, same.symm⟩
      · exact .inr before

theorem addReports_isSome {dictionary : ArticleDictionary} {articles : List ArticleData}
    {key : String} : (addReports dictionary articles key).isSome ↔
      (dictionary key).isSome ∨ ∃ article ∈ articles, article.articleID.getD "" = key := by
  induction articles generalizing dictionary with
  | nil => simp [addReports]
  | cons first rest ih =>
    have added : addReports dictionary (first :: rest) = addReports
        (Function.update dictionary (first.articleID.getD "") (some first)) rest := rfl
    rw [added, ih, Function.update_apply, List.exists_mem_cons_iff, ← or_assoc]
    refine or_congr_left ?_
    by_cases same : key = first.articleID.getD ""
    · simp [same]
    · simp [same, Ne.symm same]

theorem reportsOf_join (call : Nat) (first second : List (Nat × ArticleData)) :
    reportsOf call (first ++ second) = reportsOf call first ++ reportsOf call second := by
  simp [reportsOf]

private theorem reportsOf_singleton (call : Nat) (report : Nat × ArticleData) :
    reportsOf call [report] = if report.1 = call then [report.2] else [] := by
  by_cases own : report.1 = call <;> simp [reportsOf, own]

/-- What passing on reports does, call by call. -/
structure Passed (reports : List (Nat × ArticleData)) (state last : ArticleReports) : Prop where
  feeds : last.feeds = state.feeds
  completions : last.completions = state.completions
  pageCall : last.pageCall = state.pageCall
  buttons : last.buttons = state.buttons
  presented : last.presented = state.presented
  posts : ∀ call, postsOf call last =
    postsOf call state ++ postedBy state.completions[call]? (reportsOf call reports)
  dictionary : last.articleDictionary = match state.pageCall with
    | some call => if state.completions[call]? = some .setUpArticleDictionary then
        addReports state.articleDictionary (reportsOf call reports) else state.articleDictionary
    | none => state.articleDictionary

theorem postedBy_append (completion : Option Completion) (first second : List ArticleData) :
    postedBy completion (first ++ second) = postedBy completion first ++ postedBy completion second := by
  unfold postedBy
  split <;> simp [withID]

private theorem postsOf_post (call : Nat) (report : Nat × ArticleData) (state : ArticleReports) :
    postsOf call { state with posted := state.posted ++ [report] } =
      postsOf call state ++ if report.1 = call then [report.2] else [] := by
  rw [postsOf, postsOf, reportsOf_join, reportsOf_singleton]

theorem postedBy_nil (completion : Option Completion) : postedBy completion [] = [] := by
  unfold postedBy
  split <;> rfl

private theorem runCompletion_passed (state : ArticleReports) (report : Nat × ArticleData) :
    Passed [report] state (state.runCompletion report) := by
  have others : ∀ call, report.1 ≠ call → postedBy state.completions[call]?
      (reportsOf call [report]) = [] := by
    intro call other
    rw [reportsOf_singleton, if_neg other, postedBy_nil]
  have uncollected : state.completions[report.1]? ≠ some .setUpArticleDictionary →
      state.articleDictionary = match state.pageCall with
        | some call => if state.completions[call]? = some .setUpArticleDictionary then
            addReports state.articleDictionary (reportsOf call [report])
          else state.articleDictionary
        | none => state.articleDictionary := by
    intro other
    cases state.pageCall with
    | none => rfl
    | some call =>
      by_cases own : report.1 = call
      · subst call
        simp [other]
      · simp [reportsOf_singleton, own, addReports]
  rw [ArticleReports.runCompletion]
  cases found : state.completions[report.1]? with
  | none =>
    refine ⟨rfl, rfl, rfl, rfl, rfl, fun call => ?_, uncollected (by simp [found])⟩
    by_cases own : report.1 = call
    · subst call
      simp [found, postedBy]
    · rw [others call own, List.append_nil]
  | some completion =>
    cases completion with
    | didReceive id =>
      have posted : ∀ call, postedBy state.completions[call]? (reportsOf call [report]) =
          if report.1 = call then withID id [report.2] else [] := by
        intro call
        by_cases own : report.1 = call
        · subst call
          simp [found, postedBy, reportsOf_singleton]
        · rw [others call own, if_neg own]
      by_cases same : report.2.articleID = some id
      · refine ⟨?_, ?_, ?_, ?_, ?_, fun call => ?_, ?_⟩ <;> simp only [if_pos same]
        · rw [postsOf_post, posted]
          simp [withID, same]
        · exact uncollected (by simp [found])
      · refine ⟨?_, ?_, ?_, ?_, ?_, fun call => ?_, ?_⟩ <;> simp only [if_neg same]
        · rw [posted]
          simp [withID, same]
        · exact uncollected (by simp [found])
    | setUpArticleDictionary =>
      have posted : ∀ call,
          postedBy state.completions[call]? (reportsOf call [report]) = [] := by
        intro call
        by_cases own : report.1 = call
        · subst call
          simp [found, postedBy]
        · exact others call own
      by_cases page : state.pageCall = some report.1
      · refine ⟨?_, ?_, ?_, ?_, ?_, fun call => ?_, ?_⟩ <;> simp only [if_pos page]
        · rw [posted, List.append_nil]
          rfl
        · simp [page, found, reportsOf_singleton, addReports]
      · refine ⟨?_, ?_, ?_, ?_, ?_, fun call => ?_, ?_⟩ <;> simp only [if_neg page]
        · rw [posted, List.append_nil]
        · cases here : state.pageCall with
          | none => rfl
          | some call =>
            have other : report.1 ≠ call := by
              rintro rfl
              exact page here
            simp [reportsOf_singleton, other, addReports]

theorem Passed.cons {report : Nat × ArticleData} {reports : List (Nat × ArticleData)}
    {state next last : ArticleReports} (first : Passed [report] state next)
    (rest : Passed reports next last) : Passed (report :: reports) state last where
  feeds := rest.feeds.trans first.feeds
  completions := rest.completions.trans first.completions
  pageCall := rest.pageCall.trans first.pageCall
  buttons := rest.buttons.trans first.buttons
  presented := rest.presented.trans first.presented
  posts call := by
    rw [rest.posts, first.posts, first.completions, List.append_assoc, ← postedBy_append,
      ← reportsOf_join, List.singleton_append]
  dictionary := by
    rw [rest.dictionary, first.dictionary, first.pageCall, first.completions]
    cases state.pageCall with
    | none => rfl
    | some call =>
      by_cases collects : state.completions[call]? = some .setUpArticleDictionary
      · simp only [if_pos collects]
        rw [addReports, addReports, addReports, ← List.foldl_append, ← reportsOf_join,
          List.singleton_append]
      · simp only [if_neg collects]

theorem fold_passed (reports : List (Nat × ArticleData)) (state : ArticleReports) :
    Passed reports state (reports.foldl ArticleReports.runCompletion state) := by
  induction reports generalizing state with
  | nil =>
    refine ⟨rfl, rfl, rfl, rfl, rfl, fun call => ?_, ?_⟩
    · exact (List.append_nil _).symm.trans (by rw [reportsOf]; exact congrArg _ (postedBy_nil _).symm)
    · cases state.pageCall with
      | none => rfl
      | some call => simp [reportsOf, addReports]
  | cons report rest ih => exact (runCompletion_passed state report).cons (ih _)

end AhsApp.Ios
