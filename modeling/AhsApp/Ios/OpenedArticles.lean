import AhsApp.Ios.ArticleReports

/-! Which articles a tapped push and the buttons of the page of notifications open. Each goes by
what its own call has reported, in whichever order the fetches of all calls arrive. -/

namespace AhsApp.Ios

open AhsApp.Firebase AhsApp.Library

/-- What is reported is appended to what was reported. -/
theorem reported_step {feeds next : Feeds} {event : FeedEvent}
    (taken : feedStep feeds event = some next) :
    ∃ reports, next.reported = feeds.reported ++ reports := by
  cases event with
  | serverChanges server => exact Option.some.inj taken ▸ ⟨[], (List.append_nil _).symm⟩
  | getHomepageData connected =>
    cases connected <;> exact Option.some.inj taken ▸ ⟨[], (List.append_nil _).symm⟩
  | getBulletinData connected =>
    cases connected <;> exact Option.some.inj taken ▸ ⟨[], (List.append_nil _).symm⟩
  | loadAllArticles connected =>
    cases connected <;> exact Option.some.inj taken ▸ ⟨[], (List.append_nil _).symm⟩
  | complete fetch now =>
    obtain ⟨_, called⟩ := complete_cases taken
    cases fetch with
    | homepage index =>
      obtain ⟨temp, _, rfl⟩ := homepage_callback called
      exact ⟨[], (List.append_nil _).symm⟩
    | bulletin index => exact ⟨[], by simp [(generateBulletin_reports called).2.1]⟩
    | allHomepage call index =>
      obtain ⟨temp, _, rfl⟩ := allHomepage_callback called
      exact ⟨_, rfl⟩
    | allBulletin call index => exact Option.some.inj called ▸ ⟨_, rfl⟩
  | addFilter index now => exact ⟨[], by simp [(generateBulletin_reports taken).2.1]⟩
  | openArticle article =>
    obtain ⟨_, rfl⟩ := openArticle_cases taken
    refine ⟨[], ?_⟩
    unfold openArticle
    split <;> exact (List.append_nil _).symm

/-- Reports are posted as their calls ask for, and a call that was not made has none. -/
structure CallsHandled (state : ArticleReports) : Prop where
  calls : state.completions.length = state.feeds.loadCalls
  unmade : ∀ call, state.feeds.loadCalls ≤ call → reports call state.feeds = ⟨0, 0⟩
  posts : ∀ call, postsOf call state =
    postedBy state.completions[call]? (reportsOf call state.feeds.reported)

/-- The dictionary holds what was reported to its page, and buttons and pages of articles
follow it. -/
structure ReportsHandled (state : ArticleReports) : Prop extends CallsHandled state where
  page : ∀ call, state.pageCall = some call →
    state.completions[call]? = some .setUpArticleDictionary
  dictionary : state.articleDictionary = match state.pageCall with
    | some call => addReports (fun _ => none) (reportsOf call state.feeds.reported)
    | none => fun _ => none
  chevrons : ∀ button ∈ state.buttons, button.chevron = true →
    (state.articleDictionary button.key).isSome
  presented : ∀ pair ∈ state.presented, pair.2.articleID.getD "" = pair.1.key ∧
    ∃ call, pair.2 ∈ reportsOf call state.feeds.reported

namespace CallsHandled

variable {state : ArticleReports}

private theorem unmade_step (handled : CallsHandled state) {event : FeedEvent} {feeds : Feeds}
    (taken : feedStep state.feeds event = some feeds) :
    ∀ call, feeds.loadCalls ≤ call → reports call feeds = ⟨0, 0⟩ := by
  intro call later
  obtain ⟨loadCalls, cases⟩ := reports_step taken
  have before : state.feeds.loadCalls ≤ call := by omega
  have none := handled.unmade call before
  rcases cases call with ⟨starts, rfl, _⟩ | ⟨_, ⟨fetch, pending, _⟩ | kept⟩
  · rw [loadCalls, if_pos starts] at later
    omega
  · rw [none] at pending
    exact absurd pending (Multiset.notMem_zero _)
  · exact kept.trans none

private theorem reportsOf_unmade (handled : CallsHandled state) {call : Nat}
    (unmade : state.feeds.loadCalls ≤ call) : reportsOf call state.feeds.reported = [] := by
  have bag := congrArg Refill.bag (handled.unmade call unmade)
  exact Multiset.coe_eq_zero _ |>.mp bag

theorem load (handled : CallsHandled state) (completion : Completion) (internetConnected : Bool) :
    CallsHandled (state.load completion internetConnected) := by
  have loaded : feedStep state.feeds (.loadAllArticles internetConnected) =
      some (loadAllArticles internetConnected state.feeds) := rfl
  have unmade := handled.unmade_step loaded
  cases internetConnected with
  | false =>
    have unchanged : state.load completion false = state := by
      simp [ArticleReports.load, loadAllArticles]
    rw [unchanged]
    exact handled
  | true =>
    refine ⟨?_, unmade, fun call => ?_⟩
    · simp [ArticleReports.load, loadAllArticles, handled.calls]
    · have posted : postsOf call (state.load completion true) = postsOf call state := rfl
      have reported : (state.load completion true).feeds.reported = state.feeds.reported := rfl
      have completions : (state.load completion true).completions =
          state.completions ++ [completion] := rfl
      rw [posted, reported, completions, handled.posts call]
      by_cases made : call < state.completions.length
      · rw [List.getElem?_append_left made]
      · rw [handled.reportsOf_unmade (handled.calls ▸ Nat.not_lt.mp made), postedBy_nil, postedBy_nil]

end CallsHandled

namespace ReportsHandled

variable {state next : ArticleReports}

theorem found (handled : ReportsHandled state) {key : String} {article : ArticleData}
    (here : state.articleDictionary key = some article) :
    article.articleID.getD "" = key ∧
      ∃ call, state.pageCall = some call ∧ article ∈ reportsOf call state.feeds.reported := by
  rw [handled.dictionary] at here
  cases page : state.pageCall with
  | none =>
    rw [page] at here
    cases here
  | some call =>
    rw [page] at here
    rcases addReports_eq_some here with ⟨member, same⟩ | nothing
    · exact ⟨same, call, rfl, member⟩
    · cases nothing

theorem loadScrollView (handled : ReportsHandled state) (listed : List (Option String)) :
    ReportsHandled (state.loadScrollView listed) := by
  refine ⟨⟨handled.calls, handled.unmade, handled.posts⟩, handled.page, handled.dictionary, ?_,
    handled.presented⟩
  intro button member chevron
  obtain ⟨id, _, rfl⟩ := List.mem_map.mp member
  exact (Bool.and_eq_true_iff.mp chevron).2

theorem feed (handled : ReportsHandled state) {event : FeedEvent} {feeds : Feeds}
    (quiet : startsCall event = false) (taken : feedStep state.feeds event = some feeds)
    {passed : List (Nat × ArticleData)} (reported : feeds.reported = state.feeds.reported ++ passed)
    (after : Passed passed { state with feeds } next) : ReportsHandled next where
  calls := by
    rw [after.completions, after.feeds, (reports_step taken).1, quiet]
    exact handled.calls
  unmade := by
    rw [after.feeds]
    exact handled.unmade_step taken
  posts call := by
    have before : postsOf call { state with feeds } = postsOf call state := rfl
    rw [after.posts, after.completions, after.feeds, reported, reportsOf_join, postedBy_append,
      before, handled.posts]
  page call here := by
    rw [after.completions]
    exact handled.page call (after.pageCall ▸ here)
  dictionary := by
    rw [after.dictionary, after.pageCall, after.feeds]
    cases page : state.pageCall with
    | none =>
      have empty := handled.dictionary
      rw [page] at empty
      exact empty
    | some call =>
      have filled := handled.dictionary
      rw [page] at filled
      simp only [handled.page call page, if_true, filled, reported, reportsOf_join, addReports,
        List.foldl_append]
  chevrons button member chevron := by
    have here := handled.chevrons button (after.buttons ▸ member) chevron
    rw [after.dictionary]
    cases state.pageCall with
    | none => exact here
    | some call =>
      dsimp only
      split
      · exact addReports_isSome.mpr (.inl here)
      · exact here
  presented pair member := by
    obtain ⟨same, call, here⟩ := handled.presented pair (after.presented ▸ member)
    refine ⟨same, call, ?_⟩
    rw [after.feeds, reported, reportsOf_join]
    exact List.mem_append_left _ here

/-- Every step keeps what holds. -/
theorem step (handled : ReportsHandled state) {event : ReportEvent}
    (taken : reportStep state event = some next) : ReportsHandled next := by
  cases event with
  | feed event =>
    have passes : startsCall event = false ∧ ((feedStep state.feeds event).bind fun feeds =>
        some ((feeds.reported.drop state.feeds.reported.length).foldl
          ArticleReports.runCompletion { state with feeds })) = some next := by
      cases event <;> first | exact ⟨rfl, taken⟩ | cases taken
    obtain ⟨quiet, taken⟩ := passes
    obtain ⟨feeds, stepped, passed⟩ := Option.bind_eq_some_iff.mp taken
    obtain rfl := Option.some.inj passed
    obtain ⟨reports, reported⟩ := reported_step stepped
    have new : feeds.reported.drop state.feeds.reported.length = reports := by
      rw [reported, List.drop_left]
    rw [new]
    exact handled.feed quiet stepped reported (fold_passed reports _)
  | didReceive articleID internetConnected =>
    obtain rfl := Option.some.inj taken
    have reported : (state.load (.didReceive articleID) internetConnected).feeds.reported =
        state.feeds.reported := by
      cases internetConnected <;> rfl
    refine ⟨handled.toCallsHandled.load _ _, fun call here => ?_, ?_, handled.chevrons, ?_⟩
    · have made := handled.page call here
      obtain ⟨inside, _⟩ := List.getElem?_eq_some_iff.mp made
      exact (List.getElem?_append_left inside).trans made
    · rw [reported]
      exact handled.dictionary
    · rw [reported]
      exact handled.presented
  | viewDidLoad internetConnected =>
    obtain rfl := Option.some.inj taken
    have opened : CallsHandled { state with
        pageCall := if internetConnected then some state.feeds.loadCalls else none
        articleDictionary := fun _ => none
        buttons := [] } := ⟨handled.calls, handled.unmade, handled.posts⟩
    have reported : (state.viewDidLoad internetConnected).feeds.reported =
        state.feeds.reported := by
      cases internetConnected <;> rfl
    refine ⟨opened.load _ _, fun call here => ?_, ?_, nofun, ?_⟩
    · cases internetConnected with
      | false => cases here
      | true =>
        obtain rfl := Option.some.inj here
        simp [ArticleReports.viewDidLoad, ArticleReports.load, ← handled.calls]
    · cases internetConnected with
      | false => rfl
      | true =>
        have none := handled.reportsOf_unmade (Nat.le_refl state.feeds.loadCalls)
        have page : (state.viewDidLoad true).pageCall = some state.feeds.loadCalls := rfl
        rw [page, reported]
        simp only [none]
        rfl
    · rw [reported]
      exact handled.presented
  | loadScrollView listed =>
    obtain rfl := Option.some.inj taken
    exact handled.loadScrollView listed
  | openArticle button listed =>
    obtain ⟨_, result⟩ := Option.ite_none_right_eq_some.mp taken
    obtain rfl := Option.some.inj result
    have presented : ReportsHandled { state with presented := state.presented ++
        ((state.articleDictionary button.key).map (button, ·)).toList } := by
      refine ⟨⟨handled.calls, handled.unmade, handled.posts⟩, handled.page, handled.dictionary,
        handled.chevrons, ?_⟩
      intro pair member
      rcases List.mem_append.mp member with earlier | latest
      · exact handled.presented pair earlier
      · simp only [Option.mem_toList, Option.map_eq_some_iff] at latest
        obtain ⟨article, here, rfl⟩ := latest
        obtain ⟨same, call, _, reported⟩ := handled.found here
        exact ⟨same, call, reported⟩
    exact presented.loadScrollView listed

end ReportsHandled

private theorem feedEvent_step {state next : ArticleReports} {event : ReportEvent}
    (taken : reportStep state event = some next) :
    next.completions = state.completions ++ event.completion.toList ∧
      match event.feedEvent with
      | some event => feedStep state.feeds event = some next.feeds
      | none => next.feeds = state.feeds := by
  cases event with
  | feed event =>
    have taken : ((feedStep state.feeds event).bind fun feeds =>
        some ((feeds.reported.drop state.feeds.reported.length).foldl
          ArticleReports.runCompletion { state with feeds })) = some next := by
      cases event <;> first | exact taken | cases taken
    obtain ⟨feeds, stepped, passed⟩ := Option.bind_eq_some_iff.mp taken
    obtain rfl := Option.some.inj passed
    have after := fold_passed (feeds.reported.drop state.feeds.reported.length) { state with feeds }
    exact ⟨after.completions.trans (List.append_nil _).symm,
      stepped.trans (congrArg some after.feeds.symm)⟩
  | didReceive articleID internetConnected =>
    obtain rfl := Option.some.inj taken
    cases internetConnected <;> exact ⟨rfl, rfl⟩
  | viewDidLoad internetConnected =>
    obtain rfl := Option.some.inj taken
    cases internetConnected <;> exact ⟨rfl, rfl⟩
  | loadScrollView listed =>
    exact Option.some.inj taken ▸ ⟨(List.append_nil _).symm, rfl⟩
  | openArticle button listed =>
    obtain ⟨_, result⟩ := Option.ite_none_right_eq_some.mp taken
    exact Option.some.inj result ▸ ⟨(List.append_nil _).symm, rfl⟩

theorem completions_run {state last : ArticleReports} {events : List ReportEvent}
    (ran : reportRun state events = some last) :
    last.completions = state.completions ++ events.filterMap ReportEvent.completion := by
  induction events generalizing state with
  | nil => exact Option.some.inj ran ▸ (List.append_nil _).symm
  | cons event rest ih =>
    obtain ⟨next, taken, ran⟩ := run_cons_iff.mp ran
    rw [ih ran, (feedEvent_step taken).1, List.filterMap_cons]
    cases event.completion <;> simp

private theorem launch_handled (server : DataSnapshot) (saved : Option (List String)) :
    ReportsHandled (.launch server saved) where
  calls := rfl
  unmade _ _ := rfl
  posts _ := rfl
  page _ here := nomatch here
  dictionary := rfl
  chevrons _ member := nomatch member
  presented _ member := nomatch member

/-- With one server throughout, the reports of a call and what its fetches will still report
are all articles. -/
structure ReportsOnServer (server : DataSnapshot) (state : ArticleReports) : Prop
    extends ReportsHandled state where
  due : ReportsDue state.feeds
  server : state.feeds.server = server

private theorem reportsOnServer_run {server : DataSnapshot} {saved : Option (List String)}
    {events : List ReportEvent} {last : ArticleReports}
    (fixed : ∀ other, .feed (.serverChanges other) ∉ events)
    (ran : reportRun (.launch server saved) events = some last) : ReportsOnServer server last := by
  have launched : ReportsDue (Feeds.launch server saved) := by
    intro call
    simp [reports, reportsOf, Feeds.launch, Refill.due]
  refine run_invariant (ReportsOnServer server)
    (fun _ event => ∀ other, event ≠ .feed (.serverChanges other)) ?_
    ⟨launch_handled server saved, launched, rfl⟩ (Along.of_forall ?_ _) ran
  · intro state event next onServer unchanged taken
    have stepped := (feedEvent_step taken).2
    have kept := onServer.toReportsHandled.step taken
    cases passed : event.feedEvent with
    | none =>
      rw [passed] at stepped
      have stepped : next.feeds = state.feeds := stepped
      exact ⟨kept, stepped ▸ onServer.due, stepped ▸ onServer.server⟩
    | some feedEvent =>
      rw [passed] at stepped
      have same : ∀ other, feedEvent ≠ .serverChanges other := by
        rintro other rfl
        cases event with
        | feed event => exact unchanged other (congrArg ReportEvent.feed (Option.some.inj passed))
        | _ => cases passed
      exact ⟨kept, onServer.due.step same stepped,
        (feedStep_server same stepped).trans onServer.server⟩
  · intro _ event member other same
    exact fixed other (same ▸ member)

/-- Of what a call reported nothing is not on the server, and once it is done all is. -/
theorem ReportsOnServer.reported {server : DataSnapshot} {state : ArticleReports}
    (onServer : ReportsOnServer server state) (call : Nat) :
    (reportsOf call state.feeds.reported : Multiset ArticleData) ≤ allArticles server ∧
      (call < state.feeds.loadCalls → CallDone call state.feeds →
        (reportsOf call state.feeds.reported).Perm (allArticles server)) := by
  have due := onServer.due call
  rw [onServer.server] at due
  constructor
  · have part : (reportsOf call state.feeds.reported : Multiset ArticleData) ≤
        (reports call state.feeds).due (fetchedBag server) := Multiset.le_add_right _ _
    rw [due] at part
    split at part
    · exact part
    · exact part.trans (Multiset.zero_le _)
  · intro made done
    have idle : (reports call state.feeds).inFlight = 0 := by
      refine Multiset.coe_eq_zero _ |>.mpr (List.filter_eq_nil_iff.mpr ?_)
      intro fetch member own
      exact done fetch member (by simpa using own)
    rw [if_pos made, ← Refill.bag_of_idle idle] at due
    exact Multiset.coe_eq_coe.mp due

/-- A tapped push opens pages of articles of the server that have its ID and no others, each
once at most; once the fetches of its call have arrived it has opened all of them, whatever else
was loaded and tapped meanwhile. -/
theorem push_opens_articles {server : DataSnapshot} {saved : Option (List String)}
    {events : List ReportEvent} {last : ArticleReports}
    (fixed : ∀ other, .feed (.serverChanges other) ∉ events)
    (ran : reportRun (.launch server saved) events = some last) {call : Nat} {id : String}
    (tapped : (events.filterMap ReportEvent.completion)[call]? = some (.didReceive id)) :
    (postsOf call last : Multiset ArticleData) ≤ withID id (allArticles server) ∧
      (CallDone call last.feeds → (postsOf call last).Perm (withID id (allArticles server))) := by
  have onServer := reportsOnServer_run fixed ran
  have completions : last.completions = events.filterMap ReportEvent.completion := completions_run ran
  have posts := onServer.posts call
  rw [completions, tapped] at posts
  have made : call < last.feeds.loadCalls := by
    rw [← onServer.calls, completions]
    exact (List.getElem?_eq_some_iff.mp tapped).1
  obtain ⟨part, all⟩ := onServer.reported call
  rw [posts]
  exact ⟨Multiset.coe_le.mpr ((Multiset.coe_le.mp part).filter _),
    fun done => (all made done).filter _⟩

/-- A push is tapped while a page of notifications loads, and the older load ends first. -/
def pushedMeeting : List ReportEvent :=
  [.viewDidLoad true, .didReceive "meeting" true] ++
    (callFetches 0 ++ callFetches 1).map fun fetch => .feed (.complete fetch 0)

private theorem fixed_pushedMeeting : ∀ other, .feed (.serverChanges other) ∉ pushedMeeting := by
  simp [pushedMeeting, callFetches]

private theorem pushedMeeting_settles : ∃ last,
    reportRun (.launch smallFeeds none) pushedMeeting = some last ∧ last.feeds.inFlight = [] ∧
      last.pageCall = some 0 := by
  have settles : (reportRun (.launch smallFeeds none) pushedMeeting).map
      (fun last => (last.feeds.inFlight, last.pageCall)) = some ([], some 0) := by decide +kernel
  obtain ⟨last, ran, same⟩ := Option.map_eq_some_iff.mp settles
  exact ⟨last, ran, (Prod.mk.inj same).1, (Prod.mk.inj same).2⟩

theorem pushed_meeting_opens : ∃ last,
    reportRun (.launch smallFeeds none) pushedMeeting = some last ∧
      (postsOf 1 last).Perm (withID "meeting" (allArticles smallFeeds)) := by
  obtain ⟨last, ran, idle, _⟩ := pushedMeeting_settles
  have tapped : (pushedMeeting.filterMap ReportEvent.completion)[1]? =
      some (.didReceive "meeting") := by decide +kernel
  refine ⟨last, ran, (push_opens_articles fixed_pushedMeeting ran tapped).2 ?_⟩
  simp [CallDone, idle]

/-- A button presents articles of the server that have the ID of its notification. One with a
chevron presents one; once the fetches of the page have arrived every button does whose ID the
server has, and has a chevron when the list is built again. -/
theorem buttons_open_articles {server : DataSnapshot} {saved : Option (List String)}
    {events : List ReportEvent} {last : ArticleReports}
    (fixed : ∀ other, .feed (.serverChanges other) ∉ events)
    (ran : reportRun (.launch server saved) events = some last) :
    (∀ pair ∈ last.presented, pair.2 ∈ allArticles server ∧
      pair.2.articleID.getD "" = pair.1.key) ∧
    (∀ button ∈ last.buttons, button.chevron = true → ∀ listed, ∃ article,
      (last.openArticle button listed).presented = last.presented ++ [(button, article)]) ∧
    ∀ call, last.pageCall = some call → CallDone call last.feeds → ∀ listed,
      (∀ button : NotificationButton,
        (∃ article, (last.openArticle button listed).presented =
          last.presented ++ [(button, article)]) ↔
        ∃ article ∈ allArticles server, article.articleID.getD "" = button.key) ∧
      ∀ button ∈ (last.loadScrollView listed).buttons, (button.chevron = true ↔
        button.notificationArticleID.isSome ∧
          ∃ article ∈ allArticles server, article.articleID.getD "" = button.key) := by
  have onServer := reportsOnServer_run fixed ran
  have presents : ∀ (button : NotificationButton) listed, (∃ article,
      (last.openArticle button listed).presented = last.presented ++ [(button, article)]) ↔
        (last.articleDictionary button.key).isSome := by
    intro button listed
    cases here : last.articleDictionary button.key <;>
      simp [ArticleReports.openArticle, ArticleReports.loadScrollView, here]
  refine ⟨?_, ?_, ?_⟩
  · intro pair member
    obtain ⟨same, call, reported⟩ := onServer.presented pair member
    exact ⟨Multiset.mem_of_le (onServer.reported call).1 reported, same⟩
  · intro button member chevron listed
    exact (presents button listed).mpr (onServer.chevrons button member chevron)
  · intro call page done listed
    have made : call < last.feeds.loadCalls := by
      rw [← onServer.calls]
      exact (List.getElem?_eq_some_iff.mp (onServer.page call page)).1
    have all := (onServer.reported call).2 made done
    have held : ∀ key, (last.articleDictionary key).isSome ↔
        ∃ article ∈ allArticles server, article.articleID.getD "" = key := by
      intro key
      have filled := onServer.dictionary
      rw [page] at filled
      rw [filled, addReports_isSome]
      simp [all.mem_iff]
    refine ⟨fun button => (presents button listed).trans (held _), fun button member => ?_⟩
    obtain ⟨id, _, rfl⟩ := List.mem_map.mp member
    rw [Bool.and_eq_true_iff, held]
    rfl

theorem game_button_opens : ∃ last,
    reportRun (.launch smallFeeds none) pushedMeeting = some last ∧
      ∃ article, (last.openArticle ⟨some "game", true⟩ []).presented =
        last.presented ++ [(⟨some "game", true⟩, article)] := by
  obtain ⟨last, ran, idle, page⟩ := pushedMeeting_settles
  obtain ⟨_, _, settled⟩ := buttons_open_articles fixed_pushedMeeting ran
  have done : CallDone 0 last.feeds := by simp [CallDone, idle]
  refine ⟨last, ran, ((settled 0 page done []).1 ⟨some "game", true⟩).mpr ?_⟩
  have stored : (allArticles smallFeeds).any
      (fun article => article.articleID.getD "" == "game") = true := by decide +kernel
  obtain ⟨article, member, same⟩ := List.any_eq_true.mp stored
  exact ⟨article, member, eq_of_beq same⟩

end AhsApp.Ios
