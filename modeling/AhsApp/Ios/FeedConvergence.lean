import AhsApp.Ios.BulletinConvergence
import AhsApp.Ios.FeaturedCarousel
import AhsApp.Ios.HomeDecoder

/-! The feed arrays under overlapping loads. Three loaders empty and refill them
through two copies of the decoding loops; whichever callback comes last, every branch
is what the server has. Each `loadAllArticles` also reports what it decodes. -/

namespace AhsApp.Ios

open AhsApp.Firebase AhsApp.Library

/-- A turn of the loop of `getHomepageDataBranch`, on `temp` and `featuredArticles`. -/
def homepageBranchTurn (index : Fin 3) (state : List ArticleData × List ArticleData)
    (article : DataSnapshot) : Option (List ArticleData × List ArticleData) := do
  let singleArticle ← decodeHomepageArticle index article
  some (state.1 ++ [singleArticle],
    state.2 ++ if singleArticle.isFeatured then [singleArticle] else [])

/-- A turn of the home loop of `loadAllArticles`, on `temp` and what is reported. -/
def allHomepageTurn (index : Fin 3) (call : Nat)
    (state : List ArticleData × List (Nat × ArticleData)) (article : DataSnapshot) :
    Option (List ArticleData × List (Nat × ArticleData)) := do
  let singleArticle ← decodeHomepageArticle index article
  some (state.1 ++ [singleArticle], state.2 ++ [(call, singleArticle)])

/-- A turn of the loop of `getBulletinDataBranch`. -/
def bulletinBranchTurn (index : Fin 5) (temp : List BulletinArticleData)
    (article : DataSnapshot) : List BulletinArticleData :=
  temp ++ [decodeBulletinArticle index article]

/-- A turn of the bulletin loop of `loadAllArticles`. -/
def allBulletinTurn (index : Fin 5) (call : Nat)
    (state : List BulletinArticleData × List (Nat × ArticleData)) (article : DataSnapshot) :
    List BulletinArticleData × List (Nat × ArticleData) :=
  let singleArticle := decodeBulletinArticle index article
  (state.1 ++ [singleArticle],
    state.2 ++ [(call, bulletinDataToarticleData singleArticle)])

/-- The branch of the homepage that a callback reads. -/
def homepageNode (server : DataSnapshot) (index : Fin 3) : DataSnapshot :=
  (server.child "homepage").child (homepageBranch index)

def bulletinNode (server : DataSnapshot) (index : Fin 5) : DataSnapshot :=
  (server.child "bulletin").child (bulletinBranch index)

private theorem featured_flatMap (temp : List ArticleData) :
    (temp.flatMap fun article => if article.isFeatured then [article] else []) =
      temp.filter (·.isFeatured) := by
  induction temp with
  | nil => rfl
  | cons article rest ih =>
    rw [List.flatMap_cons, ih, List.filter_cons]
    split <;> rfl

/-- The callback of `getHomepageDataBranch` is its loop, then the store. -/
theorem homepage_callback_loop (index : Fin 3) (now : Int) (feeds : Feeds) :
    callback (.homepage index) now feeds =
      ((homepageNode feeds.server index).children.foldlM (homepageBranchTurn index)
        ([], feeds.featuredArticles)).map fun (temp, featuredArticles) =>
          sortFeatured now { feeds with
            featuredArticles
            homeArticleList := Function.update feeds.homeArticleList index temp } := by
  have collects : ∀ state article, homepageBranchTurn index state article =
      (decodeHomepageArticle index article).map fun singleArticle =>
        (state.1 ++ [singleArticle],
          state.2 ++ if singleArticle.isFeatured then [singleArticle] else []) := by
    intro state article
    rw [homepageBranchTurn]
    cases decodeHomepageArticle index article <;> rfl
  rw [foldlM_collect (fun article => if article.isFeatured then [article] else []) collects,
    callback, serverHomepage, decodeHomepageBranch, ← homepageNode]
  simp only [featured_flatMap]
  cases (homepageNode feeds.server index).children.mapM (decodeHomepageArticle index) <;> rfl

/-- So is the inlined copy, which agrees with it on what is stored. -/
theorem allHomepage_callback_loop (call : Nat) (index : Fin 3) (now : Int) (feeds : Feeds) :
    callback (.allHomepage call index) now feeds =
      ((homepageNode feeds.server index).children.foldlM (allHomepageTurn index call)
        ([], feeds.reported)).map fun (temp, reported) =>
          { feeds with
            homeArticleList := Function.update feeds.homeArticleList index temp
            reported } := by
  have collects : ∀ state article, allHomepageTurn index call state article =
      (decodeHomepageArticle index article).map fun singleArticle =>
        (state.1 ++ [singleArticle], state.2 ++ [(call, singleArticle)]) := by
    intro state article
    rw [allHomepageTurn]
    cases decodeHomepageArticle index article <;> rfl
  rw [foldlM_collect (fun article => [(call, article)]) collects, callback, serverHomepage,
    decodeHomepageBranch, ← homepageNode]
  simp only [← List.map_eq_flatMap]
  cases (homepageNode feeds.server index).children.mapM (decodeHomepageArticle index) <;> rfl

theorem bulletin_callback_loop (index : Fin 5) (now : Int) (feeds : Feeds) :
    callback (.bulletin index) now feeds =
      generateBulletin now { feeds with
        bulletinArticleList := Function.update feeds.bulletinArticleList index
          ((bulletinNode feeds.server index).children.foldl (bulletinBranchTurn index) []) } := by
  have looped : ∀ (children : List DataSnapshot) (temp : List BulletinArticleData),
      children.foldl (bulletinBranchTurn index) temp =
        temp ++ children.map (decodeBulletinArticle index) := by
    intro children temp
    induction children generalizing temp with
    | nil => simp
    | cons article rest ih => simp [bulletinBranchTurn, ih]
  rw [looped]
  rfl

theorem allBulletin_callback_loop (call : Nat) (index : Fin 5) (now : Int) (feeds : Feeds) :
    callback (.allBulletin call index) now feeds =
      let (temp, reported) := (bulletinNode feeds.server index).children.foldl
        (allBulletinTurn index call) ([], feeds.reported)
      some { feeds with
        bulletinArticleList := Function.update feeds.bulletinArticleList index temp
        reported } := by
  have collects : ∀ state article, allBulletinTurn index call state article =
      (state.1 ++ [decodeBulletinArticle index article],
        state.2 ++ [(call, bulletinDataToarticleData (decodeBulletinArticle index article))]) :=
    fun _ _ => rfl
  rw [foldl_collect (decodeBulletinArticle index)
    (fun article => [(call, bulletinDataToarticleData article)]) collects]
  simp only [← List.map_eq_flatMap]
  rfl

/-- Every image and video of the three homepage branches is a string. -/
def StringFeed (server : DataSnapshot) : Prop :=
  ∀ index, ∀ article ∈ (homepageNode server index).children, StringMedia article

private theorem serverHomepage_returns {server : DataSnapshot} (strings : StringFeed server)
    (index : Fin 3) : serverHomepage server index = some (homeContent server index) := by
  obtain ⟨articles, decoded⟩ := decodeHomepageBranch_returns index (strings index)
  have returned : serverHomepage server index = some articles := decoded
  rw [homeContent, returned]
  rfl

def requestsHomepage : FeedEvent → Prop
  | .getHomepageData internetConnected => internetConnected
  | .loadAllArticles internetConnected => internetConnected
  | _ => False

def requestsBulletin : FeedEvent → Prop
  | .getBulletinData internetConnected => internetConnected
  | .loadAllArticles internetConnected => internetConnected
  | _ => False

theorem HomeSlots.requested {feeds next : Feeds} {event : FeedEvent}
    (requested : requestsHomepage event) (taken : feedStep feeds event = some next) :
    HomeSlots next := by
  cases event with
  | getHomepageData connected =>
    obtain rfl : connected = true := requested
    exact Option.some.inj taken ▸ .refreshed feeds
  | loadAllArticles connected =>
    obtain rfl : connected = true := requested
    exact Option.some.inj taken ▸
      Refilling.reset fun _ => .inr ⟨feeds.loadCalls, by simp [loadAllArticles]⟩
  | _ => exact requested.elim

theorem BulletinSlots.requested {feeds next : Feeds} {event : FeedEvent}
    (requested : requestsBulletin event) (taken : feedStep feeds event = some next) :
    BulletinSlots next := by
  cases event with
  | getBulletinData connected =>
    obtain rfl : connected = true := requested
    exact Option.some.inj taken ▸ .refreshed feeds
  | loadAllArticles connected =>
    obtain rfl : connected = true := requested
    exact Option.some.inj taken ▸
      Refilling.reset fun _ => .inr ⟨feeds.loadCalls, by simp [loadAllArticles]⟩
  | _ => exact requested.elim

private theorem requested_run {requests : FeedEvent → Prop} {slots : Feeds → Prop}
    (established : ∀ {feeds next event}, requests event → feedStep feeds event = some next →
      slots next)
    (kept : ∀ {feeds last events}, slots feeds → (∀ server, .serverChanges server ∉ events) →
      feedRun feeds events = some last → slots last)
    {feeds last : Feeds} {events : List FeedEvent}
    (fixed : ∀ server, .serverChanges server ∉ events)
    (requested : ∃ event ∈ events, requests event) (ran : feedRun feeds events = some last) :
    slots last := by
  obtain ⟨event, member, request⟩ := requested
  obtain ⟨before, after, rfl⟩ := List.append_of_mem member
  obtain ⟨middle, _, ranRest⟩ := run_append_iff.mp ran
  obtain ⟨next, taken, ranAfter⟩ := run_cons_iff.mp ranRest
  refine kept (established request taken) (fun server late => fixed server ?_) ranAfter
  exact List.mem_append_right _ (List.mem_cons_of_mem _ late)

/-- The call of `loadAllArticles` that a fetch belongs to. -/
def fetchCall : Fetch → Option Nat
  | .allHomepage call _ => some call
  | .allBulletin call _ => some call
  | _ => none

/-- What a callback decodes, as its completion would be given it. -/
def fetchedArticles (server : DataSnapshot) : Fetch → List ArticleData
  | .homepage index => homeContent server index
  | .allHomepage _ index => homeContent server index
  | .bulletin index => (serverBulletin server index).map bulletinDataToarticleData
  | .allBulletin _ index => (serverBulletin server index).map bulletinDataToarticleData

/-- The fetches that a call starts. -/
def callFetches (call : Nat) : List Fetch :=
  (List.finRange 3).map (.allHomepage call) ++ (List.finRange 5).map (.allBulletin call)

/-- Every article of both feeds, branch by branch. -/
def allArticles (server : DataSnapshot) : List ArticleData :=
  (List.finRange 3).flatMap (homeContent server) ++
    (allBulletins (serverBulletin server)).map bulletinDataToarticleData

/-- What a call has reported to its completion. -/
def reportsOf (call : Nat) (reported : List (Nat × ArticleData)) : List ArticleData :=
  (reported.filter (·.1 == call)).map Prod.snd

/-- The reports of a call as a bag that its fetches fill. -/
def reports (call : Nat) (feeds : Feeds) : Refill Fetch ArticleData :=
  ⟨reportsOf call feeds.reported, feeds.inFlight.filter (fetchCall · == some call)⟩

def fetchedBag (server : DataSnapshot) (fetch : Fetch) : Multiset ArticleData :=
  fetchedArticles server fetch

private theorem reportsOf_append (call other : Nat) (reported : List (Nat × ArticleData))
    (articles : List ArticleData) :
    reportsOf call (reported ++ articles.map (other, ·)) =
      reportsOf call reported ++ if other = call then articles else [] := by
  rw [reportsOf, List.filter_append, List.map_append, List.filter_map]
  by_cases same : other = call <;> simp [reportsOf, same, Function.comp_def]

private theorem erase_of_call {inFlight : List Fetch} {fetch : Fetch} {call : Nat}
    (member : fetch ∈ inFlight) :
    (((inFlight.erase fetch).filter (fetchCall · == some call) : List Fetch) : Multiset Fetch) =
      if fetchCall fetch = some call then
        ((inFlight.filter (fetchCall · == some call) : List Fetch) : Multiset Fetch).erase fetch
      else (inFlight.filter (fetchCall · == some call) : List Fetch) := by
  have front := (List.perm_cons_erase member).filter (fetchCall · == some call)
  rw [Multiset.coe_eq_coe.mpr front]
  by_cases own : fetchCall fetch = some call <;> simp [own]

theorem generateBulletin_reports {now : Int} {feeds next : Feeds}
    (generated : generateBulletin now feeds = some next) :
    next.inFlight = feeds.inFlight ∧ next.reported = feeds.reported ∧
      next.loadCalls = feeds.loadCalls := by
  rcases generateBulletin_cases generated with ⟨_, rfl⟩ | ⟨_, kept, _, rfl⟩ <;> simp

private theorem complete_reports {fetch : Fetch} {now : Int} {feeds next : Feeds}
    (taken : feedStep feeds (.complete fetch now) = some next) :
    fetch ∈ feeds.inFlight ∧ next.inFlight = feeds.inFlight.erase fetch ∧
      next.loadCalls = feeds.loadCalls ∧ ∀ call, reportsOf call next.reported =
        reportsOf call feeds.reported ++
          if fetchCall fetch = some call then fetchedArticles feeds.server fetch else [] := by
  obtain ⟨pending, called⟩ := complete_cases taken
  cases fetch with
  | homepage index =>
    obtain ⟨temp, _, rfl⟩ := homepage_callback called
    exact ⟨pending, rfl, rfl, fun call => by simp [sortFeatured, fetchCall]⟩
  | bulletin index =>
    obtain ⟨inFlight, reported, loadCalls⟩ := generateBulletin_reports called
    exact ⟨pending, inFlight, loadCalls, fun call => by simp [reported, fetchCall]⟩
  | allHomepage other index =>
    obtain ⟨temp, decoded, rfl⟩ := allHomepage_callback called
    refine ⟨pending, rfl, rfl, fun call => ?_⟩
    rw [reportsOf_append]
    simp [fetchCall, fetchedArticles, homeContent, decoded]
  | allBulletin other index =>
    obtain rfl := Option.some.inj called
    refine ⟨pending, rfl, rfl, fun call => ?_⟩
    have reported : ((serverBulletin feeds.server index).map fun article =>
        (other, bulletinDataToarticleData article)) =
          ((serverBulletin feeds.server index).map bulletinDataToarticleData).map (other, ·) := by
      rw [List.map_map]
      rfl
    simp only [reported, reportsOf_append]
    simp [fetchCall, fetchedArticles]

def startsCall : FeedEvent → Bool
  | .loadAllArticles internetConnected => internetConnected
  | _ => false

/-- What a step can do to the reports of a call: the call starts, one of its fetches
reports, or nothing. -/
theorem reports_step {feeds next : Feeds} {event : FeedEvent}
    (taken : feedStep feeds event = some next) :
    next.loadCalls = feeds.loadCalls + (if startsCall event then 1 else 0) ∧ ∀ call,
      (startsCall event = true ∧ call = feeds.loadCalls ∧
        reports call next = (reports call feeds).extend (callFetches call : List Fetch)) ∨
      (¬(startsCall event = true ∧ call = feeds.loadCalls) ∧
        ((∃ fetch ∈ (reports call feeds).inFlight,
            reports call next = (reports call feeds).complete (fetchedBag feeds.server) fetch) ∨
          reports call next = reports call feeds)) := by
  cases event with
  | serverChanges server =>
    obtain rfl := Option.some.inj taken
    exact ⟨rfl, fun call => .inr ⟨by simp [startsCall], .inr rfl⟩⟩
  | getHomepageData connected =>
    cases connected <;> obtain rfl := Option.some.inj taken <;>
      refine ⟨rfl, fun call => .inr ⟨by simp [startsCall], .inr ?_⟩⟩
    · rfl
    · simp [reports, getHomepageData, List.filter_append, List.filter_map, Function.comp_def,
        fetchCall]
  | getBulletinData connected =>
    cases connected <;> obtain rfl := Option.some.inj taken <;>
      refine ⟨rfl, fun call => .inr ⟨by simp [startsCall], .inr ?_⟩⟩
    · rfl
    · simp [reports, getBulletinData, List.filter_append, List.filter_map, Function.comp_def,
        fetchCall]
  | loadAllArticles connected =>
    cases connected <;> obtain rfl := Option.some.inj taken
    · exact ⟨rfl, fun call => .inr ⟨by simp [startsCall], .inr rfl⟩⟩
    · refine ⟨rfl, fun call => ?_⟩
      by_cases own : call = feeds.loadCalls
      · subst call
        refine .inl ⟨rfl, rfl, ?_⟩
        simp [reports, loadAllArticles, List.filter_append, List.filter_map, Function.comp_def,
          fetchCall, callFetches, Refill.extend]
      · have apart : (feeds.loadCalls == call) = false := beq_eq_false_iff_ne.mpr (Ne.symm own)
        refine .inr ⟨fun starts => own starts.2, .inr ?_⟩
        simp [reports, loadAllArticles, List.filter_append, List.filter_map, Function.comp_def,
          fetchCall, apart]
  | complete fetch now =>
    obtain ⟨pending, inFlight, loadCalls, reported⟩ := complete_reports taken
    refine ⟨loadCalls, fun call => .inr ⟨by simp [startsCall], ?_⟩⟩
    by_cases own : fetchCall fetch = some call
    · refine .inl ⟨fetch, by simp [reports, pending, own], ?_⟩
      rw [reports, reported, inFlight, erase_of_call pending, if_pos own, if_pos own]
      rfl
    · refine .inr ?_
      rw [reports, reports, reported, inFlight, erase_of_call pending, if_neg own, if_neg own,
        List.append_nil]
  | addFilter index now =>
    obtain ⟨inFlight, reported, loadCalls⟩ := generateBulletin_reports taken
    exact ⟨loadCalls, fun call => .inr ⟨by simp [startsCall],
      .inr (by simp [reports, inFlight, reported])⟩⟩
  | openArticle article =>
    obtain ⟨_, rfl⟩ := openArticle_cases taken
    unfold openArticle
    split <;> exact ⟨rfl, fun call => .inr ⟨by simp [startsCall], .inr rfl⟩⟩

private theorem sum_callFetches (server : DataSnapshot) (call : Nat) :
    (((callFetches call : List Fetch) : Multiset Fetch).map (fetchedBag server)).sum =
      allArticles server := by
  simp [callFetches, fetchedBag, fetchedArticles, allArticles, allBulletins, List.finRange_succ]

/-- A started call will have reported every article once its fetches have arrived. -/
def ReportsDue (feeds : Feeds) : Prop :=
  ∀ call, (reports call feeds).due (fetchedBag feeds.server) =
    if call < feeds.loadCalls then (allArticles feeds.server : Multiset ArticleData) else 0

theorem ReportsDue.step {feeds next : Feeds} {event : FeedEvent} (valid : ReportsDue feeds)
    (fixed : ∀ server, event ≠ .serverChanges server)
    (taken : feedStep feeds event = some next) : ReportsDue next := by
  intro call
  obtain ⟨loadCalls, cases⟩ := reports_step taken
  have counted : ¬(startsCall event = true ∧ call = feeds.loadCalls) →
      (call < feeds.loadCalls + (if startsCall event then 1 else 0) ↔ call < feeds.loadCalls) := by
    intro other
    cases starts : startsCall event with
    | false => simp
    | true =>
      have apart : call ≠ feeds.loadCalls := fun same => other ⟨starts, same⟩
      simp only [↓reduceIte]
      omega
  rw [feedStep_server fixed taken, loadCalls]
  rcases cases call with ⟨starts, rfl, started⟩ | ⟨other, ⟨fetch, pending, completed⟩ | kept⟩
  · rw [started, Refill.due_extend, valid, sum_callFetches]
    simp [starts]
  · rw [completed, Refill.due_complete _ pending, valid]
    simp only [counted other]
  · rw [kept, valid]
    simp only [counted other]

theorem ReportsDue.run {feeds last : Feeds} {events : List FeedEvent} (valid : ReportsDue feeds)
    (fixed : ∀ server, .serverChanges server ∉ events)
    (ran : feedRun feeds events = some last) : ReportsDue last :=
  fixed_server_run ReportsDue ReportsDue.step valid fixed ran

private theorem loadCalls_run {feeds last : Feeds} {events : List FeedEvent}
    (ran : feedRun feeds events = some last) :
    last.loadCalls = feeds.loadCalls + events.countP startsCall := by
  induction events generalizing feeds with
  | nil => exact Option.some.inj ran ▸ rfl
  | cons event rest ih =>
    obtain ⟨next, taken, ran⟩ := run_cons_iff.mp ran
    rw [ih ran, (reports_step taken).1, List.countP_cons]
    omega

/-- Decoding traps on no branch, and once nothing is in flight every list of a requested feed
is what the server has, and every call of `loadAllArticles` has reported every article once. -/
theorem feeds_converge {server : DataSnapshot} {saved : Option (List String)}
    {events : List FeedEvent} {feeds : Feeds} (strings : StringFeed server)
    (fixed : ∀ other, .serverChanges other ∉ events)
    (ran : feedRun (Feeds.launch server saved) events = some feeds) :
    (∀ index, ∃ temp, serverHomepage server index = some temp) ∧
    (feeds.inFlight = [] →
      ((∃ event ∈ events, requestsHomepage event) →
        ∀ index, serverHomepage server index = some (feeds.homeArticleList index)) ∧
      ((∃ event ∈ events, requestsBulletin event) →
        ∀ index, feeds.bulletinArticleList index = serverBulletin server index) ∧
      ∀ call < events.countP startsCall,
        (reportsOf call feeds.reported).Perm (allArticles server)) := by
  have same : feeds.server = server := server_run fixed ran
  constructor
  · exact fun index => ⟨_, serverHomepage_returns strings index⟩
  · intro idle
    refine ⟨?_, ?_, ?_⟩
    · intro requested index
      have slots := requested_run HomeSlots.requested HomeSlots.run fixed requested ran
      rw [slots.idle (by simp [homePending, idle]), same]
      exact serverHomepage_returns strings index
    · intro requested index
      have slots := requested_run BulletinSlots.requested BulletinSlots.run fixed requested ran
      rw [slots.idle (by simp [bulletinPending, idle]), same]
    · intro call started
      have launched : ReportsDue (Feeds.launch server saved) := by
        intro other
        simp [reports, reportsOf, Feeds.launch, Refill.due]
      have bag : (reports call feeds).bag = (reports call feeds).due (fetchedBag feeds.server) :=
        Refill.bag_of_idle (by simp [reports, idle])
      rw [launched.run fixed ran call, if_pos (by simpa [loadCalls_run ran, Feeds.launch] using
        started), same] at bag
      exact Multiset.coe_eq_coe.mp bag

/-- A home article and a bulletin article. -/
def smallFeeds : DataSnapshot :=
  .node "" [.node "homepage" [.node "District" [.node "game" [.leaf "isFeatured" (.bool true)]]],
    .node "bulletin" [.node "Clubs" [.node "meeting" []]]]

/-- Both pages are refreshed while everything is being loaded, and the older load ends last. -/
def overlappingLoads : List FeedEvent :=
  [.loadAllArticles true, .getHomepageData true, .getBulletinData true] ++
    (List.finRange 3).map (fun index => .complete (.homepage index) 0) ++
    (List.finRange 5).map (fun index => .complete (.bulletin index) 0) ++
    (callFetches 0).map fun fetch => .complete fetch 0

theorem overlapping_loads_converge : ∃ feeds,
    feedRun (Feeds.launch smallFeeds none) overlappingLoads = some feeds ∧ feeds.inFlight = [] ∧
      (∀ index, serverHomepage smallFeeds index = some (feeds.homeArticleList index)) ∧
      (∀ index, feeds.bulletinArticleList index = serverBulletin smallFeeds index) ∧
      (reportsOf 0 feeds.reported).Perm (allArticles smallFeeds) := by
  have strings : StringFeed smallFeeds := by
    intro index article member
    have listed : article = .node "game" [.leaf "isFeatured" (.bool true)] := by
      fin_cases index
      · cases member
      · exact List.mem_singleton.mp member
      · cases member
    subst article
    rintro content member (images | videos)
    · obtain rfl := List.mem_singleton.mp member
      exact absurd images (by decide)
    · obtain rfl := List.mem_singleton.mp member
      exact absurd videos (by decide)
  have fixed : ∀ other, .serverChanges other ∉ overlappingLoads := by
    simp [overlappingLoads, callFetches]
  have settles : (feedRun (Feeds.launch smallFeeds none) overlappingLoads).map Feeds.inFlight =
      some [] := by decide +kernel
  obtain ⟨feeds, ran, idle⟩ := Option.map_eq_some_iff.mp settles
  obtain ⟨_, converged⟩ := feeds_converge strings fixed ran
  obtain ⟨home, bulletin, reported⟩ := converged idle
  exact ⟨feeds, ran, idle, home ⟨_, List.mem_cons_self, rfl⟩,
    bulletin ⟨_, List.mem_cons_self, rfl⟩, reported 0 (by decide)⟩

end AhsApp.Ios
