import AhsApp.Android.Article
import AhsApp.Library.Run
import Mathlib.Data.List.Nodup

/-! Opening the application from a notification whose article is in neither local
database. Two listeners share two flags, and each of them can start pages. -/

namespace AhsApp.Android

open AhsApp.Library

/-- `LOADING`, `NOT_FOUND` and `FOUND`. -/
inductive FoundFlag where
  | loading
  | notFound
  | found
  deriving DecidableEq

inductive StartedActivity where
  | articleActivity (article : Article)
  | bulletinArticleActivity (article : BulletinArticle)
  | notifActivity
  deriving DecidableEq

inductive Feed where
  | news
  | bulletin
  deriving DecidableEq

def Feed.other : Feed → Feed
  | news => bulletin
  | bulletin => news

structure NewsLaunch where
  notifArticleID : String
  newsFound : FoundFlag
  bulletinFound : FoundFlag
  started : List StartedActivity

/-- `onCreate` of the news page, once neither database has the article. -/
def NewsLaunch.onCreate (notifArticleID : String) : NewsLaunch :=
  ⟨notifArticleID, .loading, .loading, []⟩

/-- `onArticleLoaded` of a listener, on its own flag: an article comes with its ID
and the page it is shown on. -/
def onArticleLoaded (notifArticleID : String) (state : FoundFlag × List StartedActivity)
    (article : String × StartedActivity) : FoundFlag × List StartedActivity :=
  if article.1 = notifArticleID then (.found, state.2 ++ [article.2]) else state

/-- `onAllArticlesLoaded` of a listener, on its own flag and that of the other. -/
def onAllArticlesLoaded (otherFound : FoundFlag) (state : FoundFlag × List StartedActivity) :
    FoundFlag × List StartedActivity :=
  (.notFound,
    if otherFound = .notFound ∧ state.1 ≠ .found then state.2 ++ [.notifActivity] else state.2)

/-- One delivery calls `onArticleLoaded` for each article, then the other. -/
def onDataChange (notifArticleID : String) (ownFound otherFound : FoundFlag)
    (started : List StartedActivity) (articles : List (String × StartedActivity)) :
    FoundFlag × List StartedActivity :=
  onAllArticlesLoaded otherFound
    (articles.foldl (onArticleLoaded notifArticleID) (ownFound, started))

def newsPages (articles : List Article) : List (String × StartedActivity) :=
  articles.map fun article => (article.id, .articleActivity article)

def bulletinPages (articles : List BulletinArticle) : List (String × StartedActivity) :=
  articles.map fun article => (article.id, .bulletinArticleActivity article)

def newsDelivered (articles : List Article) (state : NewsLaunch) : NewsLaunch :=
  let (newsFound, started) := onDataChange state.notifArticleID state.newsFound
    state.bulletinFound state.started (newsPages articles)
  { state with newsFound, started }

def bulletinDelivered (articles : List BulletinArticle) (state : NewsLaunch) : NewsLaunch :=
  let (bulletinFound, started) := onDataChange state.notifArticleID state.bulletinFound
    state.newsFound state.started (bulletinPages articles)
  { state with bulletinFound, started }

/-- A snapshot that reaches one of the listeners. -/
inductive Delivery where
  | news (articles : List Article)
  | bulletin (articles : List BulletinArticle)

namespace Delivery

def feed : Delivery → Feed
  | news _ => .news
  | bulletin _ => .bulletin

def ids : Delivery → List String
  | news articles => articles.map (·.id)
  | bulletin articles => articles.map (·.id)

end Delivery

def launchStep (state : NewsLaunch) : Delivery → NewsLaunch
  | .news articles => newsDelivered articles state
  | .bulletin articles => bulletinDelivered articles state

def launchRun (state : NewsLaunch) (deliveries : List Delivery) : NewsLaunch :=
  deliveries.foldl launchStep state

inductive PageKind where
  | articleActivity
  | bulletinArticleActivity
  | notifActivity
  deriving DecidableEq

def StartedActivity.kind : StartedActivity → PageKind
  | articleActivity _ => .articleActivity
  | bulletinArticleActivity _ => .bulletinArticleActivity
  | notifActivity => .notifActivity

def Feed.page : Feed → PageKind
  | news => .articleActivity
  | bulletin => .bulletinArticleActivity

/-- The kinds of the pages started by a run, in order. -/
def launched (notifArticleID : String) (deliveries : List Delivery) : List PageKind :=
  (launchRun (NewsLaunch.onCreate notifArticleID) deliveries).started.map StartedActivity.kind

/-- The page that shows the article, if one of the feeds has it. -/
def expectedPage (has : Feed → Bool) : PageKind :=
  if has .news then .articleActivity
  else if has .bulletin then .bulletinArticleActivity
  else .notifActivity

/-- Every snapshot has distinct IDs, and those of a feed agree on the article. -/
def Steady (notifArticleID : String) (has : Feed → Bool) (deliveries : List Delivery) : Prop :=
  ∀ delivery ∈ deliveries, delivery.ids.Nodup ∧
    (notifArticleID ∈ delivery.ids ↔ has delivery.feed = true)

/-- The run starts the expected page and nothing else, and the notifications page
at no time before both feeds are delivered. -/
structure LaunchesOnce (notifArticleID : String) (has : Feed → Bool)
    (deliveries : List Delivery) : Prop where
  once : launched notifArticleID deliveries = [expectedPage has]
  afterBoth : ∀ before after, deliveries = before ++ after →
    .notifActivity ∈ launched notifArticleID before →
      ∀ feed, ∃ delivery ∈ before, delivery.feed = feed

/-- A feed without the article is delivered first, any number of times, and the
other feed once, at the end. -/
def OtherFeedLast (has : Feed → Bool) (deliveries : List Delivery) : Prop :=
  ∃ before last, deliveries = before ++ [last] ∧
    ∀ delivery ∈ before, delivery.feed = last.feed.other ∧ has delivery.feed = false

def NewsLaunch.flag (state : NewsLaunch) : Feed → FoundFlag
  | .news => state.newsFound
  | .bulletin => state.bulletinFound

/-- The kinds of pages that one delivery starts. -/
def launchedBy (has : Feed → Bool) (otherFound : FoundFlag) (feed : Feed) : List PageKind :=
  if has feed then [feed.page] else if otherFound = .notFound then [.notifActivity] else []

private theorem onArticleLoaded_none {notifArticleID : String}
    {articles : List (String × StartedActivity)} (absent : notifArticleID ∉ articles.map Prod.fst)
    (state : FoundFlag × List StartedActivity) :
    articles.foldl (onArticleLoaded notifArticleID) state = state := by
  induction articles generalizing state with
  | nil => rfl
  | cons article rest ih =>
    simp only [List.map_cons, List.mem_cons, not_or] at absent
    rw [List.foldl_cons, onArticleLoaded, if_neg (Ne.symm absent.1), ih absent.2]

/-- With distinct IDs the matching article is found once. -/
private theorem onArticleLoaded_once {notifArticleID : String}
    {articles : List (String × StartedActivity)} (distinct : (articles.map Prod.fst).Nodup)
    (present : notifArticleID ∈ articles.map Prod.fst)
    (state : FoundFlag × List StartedActivity) :
    ∃ page ∈ articles.map Prod.snd,
      articles.foldl (onArticleLoaded notifArticleID) state = (.found, state.2 ++ [page]) := by
  induction articles generalizing state with
  | nil => simp at present
  | cons article rest ih =>
    rw [List.map_cons, List.nodup_cons] at distinct
    by_cases same : article.1 = notifArticleID
    · refine ⟨article.2, by simp, ?_⟩
      rw [List.foldl_cons, onArticleLoaded, if_pos same,
        onArticleLoaded_none (same ▸ distinct.1)]
    · have later : notifArticleID ∈ rest.map Prod.fst := by
        simpa [Ne.symm same] using present
      obtain ⟨page, member, found⟩ := ih distinct.2 later state
      refine ⟨page, by simp [member], ?_⟩
      rw [List.foldl_cons, onArticleLoaded, if_neg same, found]

/-- A delivery to a listener whose flag is not `FOUND`. -/
theorem onDataChange_spec {notifArticleID : String} {has : Feed → Bool} (feed : Feed)
    {ownFound : FoundFlag} (otherFound : FoundFlag) (started : List StartedActivity)
    {articles : List (String × StartedActivity)}
    (kinds : ∀ page ∈ articles.map Prod.snd, page.kind = feed.page)
    (distinct : (articles.map Prod.fst).Nodup)
    (steady : notifArticleID ∈ articles.map Prod.fst ↔ has feed = true)
    (ready : ownFound ≠ .found) :
    (onDataChange notifArticleID ownFound otherFound started articles).1 = .notFound ∧
      (onDataChange notifArticleID ownFound otherFound started articles).2.map
          StartedActivity.kind =
        started.map StartedActivity.kind ++ launchedBy has otherFound feed := by
  refine ⟨rfl, ?_⟩
  rw [onDataChange, onAllArticlesLoaded, launchedBy]
  by_cases present : notifArticleID ∈ articles.map Prod.fst
  · obtain ⟨page, member, found⟩ := onArticleLoaded_once distinct present (ownFound, started)
    rw [found, if_pos (steady.mp present)]
    simp [kinds page member]
  · have absent : has feed = false := Bool.eq_false_iff.mpr (mt steady.mpr present)
    rw [onArticleLoaded_none present, absent]
    by_cases waited : otherFound = .notFound
    · simp [waited, ready, StartedActivity.kind]
    · simp [waited]

private theorem launchStep_spec {state : NewsLaunch} {has : Feed → Bool} {delivery : Delivery}
    (steady : Steady state.notifArticleID has [delivery])
    (ready : ∀ feed, state.flag feed ≠ .found) :
    (launchStep state delivery).notifArticleID = state.notifArticleID ∧
      (∀ feed, (launchStep state delivery).flag feed =
        if feed = delivery.feed then .notFound else state.flag feed) ∧
      (launchStep state delivery).started.map StartedActivity.kind =
        state.started.map StartedActivity.kind ++
          launchedBy has (state.flag delivery.feed.other) delivery.feed := by
  obtain ⟨distinct, presence⟩ := steady delivery (by simp)
  cases delivery with
  | news articles =>
    have ids : (newsPages articles).map Prod.fst = (Delivery.news articles).ids := by
      simp [newsPages, Delivery.ids]
    have kinds : ∀ page ∈ (newsPages articles).map Prod.snd, page.kind = Feed.news.page := by
      simp [newsPages, StartedActivity.kind, Feed.page]
    have spec := onDataChange_spec .news state.bulletinFound state.started kinds
      (ids ▸ distinct) (ids ▸ presence) (ready .news)
    exact ⟨rfl, fun feed => by cases feed <;> rfl, spec.2⟩
  | bulletin articles =>
    have ids : (bulletinPages articles).map Prod.fst = (Delivery.bulletin articles).ids := by
      simp [bulletinPages, Delivery.ids]
    have kinds : ∀ page ∈ (bulletinPages articles).map Prod.snd,
        page.kind = Feed.bulletin.page := by
      simp [bulletinPages, StartedActivity.kind, Feed.page]
    have spec := onDataChange_spec .bulletin state.newsFound state.started kinds
      (ids ▸ distinct) (ids ▸ presence) (ready .bulletin)
    exact ⟨rfl, fun feed => by cases feed <;> rfl, spec.2⟩

def kinds (state : NewsLaunch) : List PageKind := state.started.map StartedActivity.kind

theorem Steady.cons {notifArticleID : String} {has : Feed → Bool} {delivery : Delivery}
    {rest : List Delivery} (steady : Steady notifArticleID has (delivery :: rest)) :
    Steady notifArticleID has [delivery] ∧ Steady notifArticleID has rest := by
  constructor
  · intro other member
    exact steady other (by simp_all)
  · intro other member
    exact steady other (List.mem_cons_of_mem _ member)

private theorem launchRun_cons (state : NewsLaunch) (delivery : Delivery) (rest : List Delivery) :
    launchRun state (delivery :: rest) = launchRun (launchStep state delivery) rest := rfl

private theorem launchRun_append (state : NewsLaunch) (before after : List Delivery) :
    launchRun state (before ++ after) = launchRun (launchRun state before) after :=
  List.foldl_append

theorem Feed.other_ne (feed : Feed) : feed.other ≠ feed := by
  cases feed <;> decide

@[simp] theorem Feed.other_other (feed : Feed) : feed.other.other = feed := by
  cases feed <;> rfl

theorem Feed.eq_other {first second : Feed} (apart : first ≠ second) : first = second.other := by
  cases first <;> cases second <;> simp_all [Feed.other]

/-- While only one feed is delivered, it starts its page each time it has the
article, and nothing else. -/
theorem one_feed_run {has : Feed → Bool} {feed : Feed} {deliveries : List Delivery}
    (state : NewsLaunch) (steady : Steady state.notifArticleID has deliveries)
    (same : ∀ delivery ∈ deliveries, delivery.feed = feed)
    (ready : ∀ feed, state.flag feed ≠ .found) (waiting : state.flag feed.other = .loading) :
    (launchRun state deliveries).notifArticleID = state.notifArticleID ∧
      (launchRun state deliveries).flag feed.other = .loading ∧
      (state.flag feed = .notFound ∨ deliveries ≠ [] →
        (launchRun state deliveries).flag feed = .notFound) ∧
      kinds (launchRun state deliveries) = kinds state ++
        if has feed then List.replicate deliveries.length feed.page else [] := by
  induction deliveries generalizing state with
  | nil => exact ⟨rfl, waiting, by simp [launchRun], by simp [launchRun]⟩
  | cons delivery rest ih =>
    obtain ⟨steadyFirst, steadyRest⟩ := steady.cons
    obtain ⟨id, flags, started⟩ := launchStep_spec steadyFirst ready
    obtain rfl := same delivery (by simp)
    have ready' : ∀ feed, (launchStep state delivery).flag feed ≠ .found := fun feed => by
      rw [flags]
      split
      · simp
      · exact ready feed
    have waiting' : (launchStep state delivery).flag delivery.feed.other = .loading := by
      rw [flags, if_neg delivery.feed.other_ne, waiting]
    have arrived : (launchStep state delivery).flag delivery.feed = .notFound := by
      rw [flags, if_pos rfl]
    have steady' : Steady (launchStep state delivery).notifArticleID has rest := by rwa [id]
    obtain ⟨id', loading, found, kinds'⟩ :=
      ih _ steady' (fun later member => same later (by simp [member])) ready' waiting'
    refine ⟨id'.trans id, loading, fun _ => found (.inl arrived), ?_⟩
    rw [launchRun_cons, kinds', kinds, started, waiting, launchedBy]
    cases has delivery.feed <;> simp [kinds, List.replicate_succ]

/-- Once both feeds are delivered, every delivery starts exactly one page. -/
theorem both_feeds_run {has : Feed → Bool} {deliveries : List Delivery} {state : NewsLaunch}
    (steady : Steady state.notifArticleID has deliveries)
    (arrived : ∀ feed, state.flag feed = .notFound) :
    kinds (launchRun state deliveries) = kinds state ++ deliveries.map fun delivery =>
      if has delivery.feed then delivery.feed.page else .notifActivity := by
  induction deliveries generalizing state with
  | nil => simp [launchRun]
  | cons delivery rest ih =>
    obtain ⟨steadyFirst, steadyRest⟩ := steady.cons
    obtain ⟨id, flags, started⟩ := launchStep_spec steadyFirst fun feed => by simp [arrived feed]
    have arrived' : ∀ feed, (launchStep state delivery).flag feed = .notFound := fun feed => by
      simp [flags, arrived feed]
    have steady' : Steady (launchStep state delivery).notifArticleID has rest := by rwa [id]
    rw [launchRun_cons, ih steady' arrived', kinds, started, arrived, launchedBy]
    cases present : has delivery.feed <;> simp [kinds, present]

private theorem onCreate_loading (notifArticleID : String) (feed : Feed) :
    (NewsLaunch.onCreate notifArticleID).flag feed = .loading := by
  cases feed <;> rfl

/-- The pages of a run that delivers both feeds: those of the feed that comes
first, then one for every delivery from the first of the other feed on. -/
theorem launched_eq {notifArticleID : String} {has : Feed → Bool} {before rest : List Delivery}
    {delivery : Delivery} (steady : Steady notifArticleID has (before ++ delivery :: rest))
    (nonempty : before ≠ []) (first : ∀ earlier ∈ before, earlier.feed = delivery.feed.other) :
    launched notifArticleID (before ++ delivery :: rest) =
      (if has delivery.feed.other then List.replicate before.length delivery.feed.other.page
        else []) ++
      (delivery :: rest).map fun delivery =>
        if has delivery.feed then delivery.feed.page else .notifActivity := by
  have steadyBefore : Steady notifArticleID has before := fun earlier member =>
    steady earlier (by simp [member])
  have steadyAfter : Steady notifArticleID has (delivery :: rest) := fun later member =>
    steady later (List.mem_append_right _ member)
  obtain ⟨id, waiting, found, kindsBefore⟩ :=
    one_feed_run (NewsLaunch.onCreate notifArticleID) steadyBefore first
      (fun feed => by simp [onCreate_loading]) (onCreate_loading ..)
  have arrived := found (.inr nonempty)
  rw [Feed.other_other] at waiting
  change kinds (launchRun _ _) = _
  rw [launchRun_append, launchRun_cons]
  generalize launchRun (NewsLaunch.onCreate notifArticleID) before = middle at *
  replace id : middle.notifArticleID = notifArticleID := id
  have flagged : ∀ feed, middle.flag feed = if feed = delivery.feed then .loading else .notFound :=
    fun feed => by
      by_cases same : feed = delivery.feed
      · rw [if_pos same, same, waiting]
      · rw [if_neg same, Feed.eq_other same, arrived]
  obtain ⟨steadyFirst, steadyRest⟩ := (id ▸ steadyAfter).cons
  obtain ⟨id', flags, started⟩ := launchStep_spec steadyFirst fun feed => by
    rw [flagged]
    split <;> simp
  have both : ∀ feed, (launchStep middle delivery).flag feed = .notFound := fun feed => by
    rw [flags, flagged]
    split <;> rfl
  have steadyLast : Steady (launchStep middle delivery).notifArticleID has rest := by rwa [id']
  rw [both_feeds_run steadyLast both, kinds, started, arrived, ← kinds, kindsBefore, launchedBy]
  cases present : has delivery.feed <;> simp [present, kinds, NewsLaunch.onCreate]

private theorem launched_one_feed {notifArticleID : String} {has : Feed → Bool} {feed : Feed}
    {deliveries : List Delivery} (steady : Steady notifArticleID has deliveries)
    (same : ∀ delivery ∈ deliveries, delivery.feed = feed) :
    .notifActivity ∉ launched notifArticleID deliveries := by
  obtain ⟨_, _, _, kindsOf⟩ := one_feed_run (NewsLaunch.onCreate notifArticleID) steady same
    (fun feed => by simp [onCreate_loading]) (onCreate_loading ..)
  change _ ∉ kinds (launchRun _ _)
  rw [kindsOf]
  cases feed <;> cases has _ <;> simp [kinds, NewsLaunch.onCreate, Feed.page]

/-- Split a run that delivers both feeds where the second one comes first. -/
theorem exists_feed_split {deliveries : List Delivery}
    (both : ∀ feed, ∃ delivery ∈ deliveries, delivery.feed = feed) :
    ∃ before delivery rest, deliveries = before ++ delivery :: rest ∧ before ≠ [] ∧
      ∀ earlier ∈ before, earlier.feed = delivery.feed.other := by
  cases deliveries with
  | nil =>
    obtain ⟨_, member, _⟩ := both .news
    simp at member
  | cons head tail =>
    obtain ⟨delivery, member, other⟩ := both head.feed.other
    have later : delivery ∈ tail := (List.mem_cons.mp member).resolve_left fun same =>
      head.feed.other_ne (same ▸ other).symm
    obtain ⟨before, delivery, rest, split, other, none⟩ :=
      exists_first_split (fun delivery : Delivery => delivery.feed = head.feed.other) tail
        ⟨delivery, later, other⟩
    refine ⟨head :: before, delivery, rest, by simp [split], by simp, ?_⟩
    intro earlier member
    rw [other, Feed.other_other]
    rcases List.mem_cons.mp member with same | member
    · rw [same]
    · rw [Feed.eq_other (none earlier member), Feed.other_other]

/-- Exactly the expected page is started if and only if all but the last delivery
come from one feed, which does not have the article. -/
theorem launches_once_iff {notifArticleID : String} {has : Feed → Bool}
    {deliveries : List Delivery} (steady : Steady notifArticleID has deliveries)
    (both : ∀ feed, ∃ delivery ∈ deliveries, delivery.feed = feed) :
    LaunchesOnce notifArticleID has deliveries ↔ OtherFeedLast has deliveries := by
  obtain ⟨before, delivery, rest, rfl, nonempty, first⟩ := exists_feed_split both
  constructor
  · intro once
    have lengths := congrArg List.length once.once
    rw [launched_eq steady nonempty first] at lengths
    have positive : 0 < before.length := List.length_pos_iff.mpr nonempty
    have absent : has delivery.feed.other = false := by
      by_contra present
      simp only [Bool.not_eq_false] at present
      simp [present] at lengths
      omega
    have last : rest = [] := by
      simp [absent] at lengths
      exact lengths
    refine ⟨before, delivery, by simp [last], ?_⟩
    intro earlier member
    exact ⟨first earlier member, (first earlier member) ▸ absent⟩
  · rintro ⟨init, last, split, alike⟩
    have ends : rest = [] := by
      rcases rest.eq_nil_or_concat with nil | ⟨rest', final, rfl⟩
      · exact nil
      · obtain ⟨earlier, member⟩ := List.exists_mem_of_ne_nil before nonempty
        have split' : (before ++ delivery :: rest') ++ [final] = init ++ [last] := by
          simpa using split
        obtain ⟨rfl, -⟩ := List.append_inj' split' rfl
        have here := (alike delivery (by simp)).1
        have there := (alike earlier (by simp [member])).1
        exact absurd ((here.trans there.symm).trans (first earlier member)).symm
          delivery.feed.other_ne
    subst ends
    obtain ⟨rfl, same⟩ := List.append_inj' split rfl
    obtain rfl := List.cons.inj same |>.1
    have absent : has delivery.feed.other = false := by
      obtain ⟨earlier, member⟩ := List.exists_mem_of_ne_nil before nonempty
      exact (alike earlier member).1 ▸ (alike earlier member).2
    constructor
    · rw [launched_eq steady nonempty first, absent]
      cases feed : delivery.feed <;> cases present : has delivery.feed <;>
        simp_all [expectedPage, Feed.other, Feed.page]
    · intro early late split' started feed
      by_contra missing
      push Not at missing
      have steadyEarly : Steady notifArticleID has early := by
        intro delivery member
        exact steady delivery (split' ▸ List.mem_append_left _ member)
      have alone : ∀ delivery ∈ early, delivery.feed = feed.other := by
        intro delivery member
        exact Feed.eq_other (missing delivery member)
      exact launched_one_feed steadyEarly alone started

/-- A news article that is not in the bulletin. -/
def newsArticle : Article := ⟨"story", 0, "", "", "", [], [], .asb⟩

def onlyInNews : Feed → Bool
  | .news => true
  | .bulletin => false

theorem launches_once_bulletin_first :
    LaunchesOnce "story" onlyInNews [.bulletin [], .news [newsArticle]] ↔
      OtherFeedLast onlyInNews [.bulletin [], .news [newsArticle]] := by
  refine launches_once_iff ?_ ?_
  · simp [Steady, Delivery.ids, Delivery.feed, onlyInNews, newsArticle]
  · rintro (_ | _)
    · exact ⟨.news [newsArticle], by simp, rfl⟩
    · exact ⟨.bulletin [], by simp, rfl⟩

/-- The news arrive first, then the bulletin, which does not have the article. -/
theorem news_first_launches_twice :
    Steady "story" onlyInNews [.news [newsArticle], .bulletin []] ∧
      launched "story" [.news [newsArticle], .bulletin []] =
        [.articleActivity, .notifActivity] ∧
      ¬ LaunchesOnce "story" onlyInNews [.news [newsArticle], .bulletin []] := by
  refine ⟨?_, by decide, ?_⟩
  · simp [Steady, Delivery.ids, Delivery.feed, onlyInNews, newsArticle]
  · intro once
    exact absurd once.once (by decide)

end AhsApp.Android
