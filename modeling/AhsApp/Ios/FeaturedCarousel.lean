import AhsApp.Ios.Feeds
import AhsApp.Library.Loader

/-! The featured carousel against the home feed. The carousel refines a bag that
each refresh empties and each homepage callback refills; the feed arrays are
slots that each callback overwrites. -/

namespace AhsApp.Ios

open AhsApp.Firebase AhsApp.Library

/-- What a branch callback appends to the carousel. -/
def featuredOn (server : DataSnapshot) (index : Fin 3) : List ArticleData :=
  ((serverHomepage server index).getD []).filter (·.isFeatured)

def homeContent (server : DataSnapshot) (index : Fin 3) : List ArticleData :=
  (serverHomepage server index).getD []

/-- No two articles of the homepage, in any branch, share an ID. -/
def DistinctArticles (server : DataSnapshot) : Prop :=
  (((List.finRange 3).flatMap (homeContent server)).map (·.articleID)).Nodup

/-- The carousel holds the featured articles of the feed arrays, each once. -/
def CarouselMatches (feeds : Feeds) : Prop :=
  feeds.featuredArticles.Perm
    (((List.finRange 3).flatMap feeds.homeArticleList).filter (·.isFeatured)) ∧
  feeds.featuredArticles.Nodup

/-- When the last refresh of the run starts, no callback that will still append a
featured article is in flight. -/
def LastRefreshAlone (start : Feeds) (events : List FeedEvent) : Prop :=
  ∀ before after middle, events = before ++ .getHomepageData true :: after →
    .getHomepageData true ∉ after → feedRun start before = some middle →
    ∀ index, .homepage index ∈ middle.inFlight → featuredOn middle.server index = []

def homepageIndex : Fetch → Option (Fin 3)
  | .homepage index => some index
  | _ => none

def carousel (feeds : Feeds) : Refill (Fin 3) ArticleData :=
  ⟨feeds.featuredArticles, feeds.inFlight.filterMap homepageIndex⟩

/-- The bag a homepage callback adds. -/
def featuredBag (server : DataSnapshot) (index : Fin 3) : Multiset ArticleData :=
  featuredOn server index

private theorem mem_carousel {feeds : Feeds} {index : Fin 3} :
    index ∈ (carousel feeds).inFlight ↔ .homepage index ∈ feeds.inFlight := by
  simp only [carousel, Multiset.mem_coe, List.mem_filterMap]
  constructor
  · rintro ⟨fetch, member, same⟩
    cases fetch <;> simp_all [homepageIndex]
  · exact fun member => ⟨_, member, rfl⟩

private theorem erase_homepage {inFlight : List Fetch} {index : Fin 3}
    (member : .homepage index ∈ inFlight) :
    (((inFlight.erase (.homepage index)).filterMap homepageIndex : List (Fin 3)) :
      Multiset (Fin 3)) = ((inFlight.filterMap homepageIndex : List (Fin 3)) :
      Multiset (Fin 3)).erase index := by
  have front := (List.perm_cons_erase member).filterMap homepageIndex
  rw [Multiset.coe_eq_coe.mpr front]
  simp [homepageIndex]

private theorem erase_other {inFlight : List Fetch} (fetch : Fetch)
    (other : homepageIndex fetch = none) :
    (((inFlight.erase fetch).filterMap homepageIndex : List (Fin 3)) : Multiset (Fin 3)) =
      ((inFlight.filterMap homepageIndex : List (Fin 3)) : Multiset (Fin 3)) := by
  by_cases member : fetch ∈ inFlight
  · have front := (List.perm_cons_erase member).filterMap homepageIndex
    rw [Multiset.coe_eq_coe.mpr front]
    simp [other]
  · rw [List.erase_of_not_mem member]

private theorem no_homepage {branches : Nat} (start : Fin branches → Fetch)
    (other : ∀ index, homepageIndex (start index) = none) :
    ((List.finRange branches).map start).filterMap homepageIndex = [] := by
  simp [List.filterMap_map, other]

private theorem carousel_step {feeds next : Feeds} {event : FeedEvent}
    (taken : feedStep feeds event = some next) :
    (event = .getHomepageData true ∧
        carousel next = (carousel feeds).start (List.finRange 3 : List (Fin 3))) ∨
      (event ≠ .getHomepageData true ∧
        ((∃ index ∈ (carousel feeds).inFlight,
            carousel next = (carousel feeds).complete (featuredBag feeds.server) index) ∨
          carousel next = carousel feeds)) := by
  cases event with
  | serverChanges server =>
    obtain rfl := Option.some.inj taken
    exact .inr ⟨by simp, .inr rfl⟩
  | getHomepageData connected =>
    cases connected <;> obtain rfl := Option.some.inj taken
    · exact .inr ⟨by simp, .inr rfl⟩
    · refine .inl ⟨rfl, ?_⟩
      simp only [carousel, getHomepageData, Refill.start, ↓reduceIte, List.filterMap_append,
        List.filterMap_map, Multiset.coe_nil, ← Multiset.coe_add]
      rfl
  | getBulletinData connected =>
    cases connected <;> obtain rfl := Option.some.inj taken
    · exact .inr ⟨by simp, .inr rfl⟩
    · refine .inr ⟨by simp, .inr ?_⟩
      simp [carousel, getBulletinData, List.filterMap_append,
        no_homepage .bulletin fun _ => rfl]
  | loadAllArticles connected =>
    cases connected <;> obtain rfl := Option.some.inj taken
    · exact .inr ⟨by simp, .inr rfl⟩
    · refine .inr ⟨by simp, .inr ?_⟩
      simp [carousel, loadAllArticles, List.filterMap_append,
        no_homepage (.allHomepage feeds.loadCalls) fun _ => rfl,
        no_homepage (.allBulletin feeds.loadCalls) fun _ => rfl]
  | complete fetch now =>
    refine .inr ⟨by simp, ?_⟩
    obtain ⟨pending, called⟩ := complete_cases taken
    cases fetch with
    | homepage index =>
      obtain ⟨temp, decoded, rfl⟩ := homepage_callback called
      refine .inl ⟨index, mem_carousel.mpr pending, ?_⟩
      have added : featuredOn feeds.server index = temp.filter (·.isFeatured) := by
        simp [featuredOn, decoded]
      simp only [carousel, sortFeatured, Refill.complete, featuredBag, added,
        Multiset.coe_add, erase_homepage pending,
        Multiset.coe_eq_coe.mpr (sortBy_perm (sortArticlesByTime now) _)]
    | bulletin index =>
      obtain ⟨_, _, featured, _, _, inFlight⟩ := generateBulletin_frame called
      exact .inr (by
        simp [carousel, featured, inFlight, erase_other (.bulletin index) rfl])
    | allHomepage call index =>
      obtain ⟨temp, _, rfl⟩ := allHomepage_callback called
      exact .inr (by simp [carousel, erase_other (.allHomepage call index) rfl])
    | allBulletin call index =>
      obtain rfl := Option.some.inj called
      exact .inr (by simp [carousel, erase_other (.allBulletin call index) rfl])
  | addFilter index now =>
    obtain ⟨_, _, featured, _, _, inFlight⟩ := generateBulletin_frame taken
    exact .inr ⟨by simp, .inr (by simp [carousel, featured, inFlight])⟩
  | openArticle article =>
    obtain ⟨_, rfl⟩ := openArticle_cases taken
    unfold openArticle
    split <;> exact .inr ⟨by simp, .inr rfl⟩

/-- Between refreshes the carousel and what is still to come add up to one bag. -/
theorem carousel_due_run {feeds last : Feeds} {events : List FeedEvent}
    (fixed : ∀ server, .serverChanges server ∉ events)
    (quiet : .getHomepageData true ∉ events) (ran : feedRun feeds events = some last) :
    last.server = feeds.server ∧
      (carousel last).due (featuredBag feeds.server) =
        (carousel feeds).due (featuredBag feeds.server) := by
  refine run_invariant
    (fun state => state.server = feeds.server ∧
      (carousel state).due (featuredBag feeds.server) =
        (carousel feeds).due (featuredBag feeds.server))
    (fun _ event => (∀ server, event ≠ .serverChanges server) ∧ event ≠ .getHomepageData true)
    ?_ ⟨rfl, rfl⟩ (Along.of_forall ?_ feeds) ran
  · rintro state event next ⟨server, due⟩ ⟨unchanged, notRefresh⟩ taken
    refine ⟨(feedStep_server unchanged taken).trans server, ?_⟩
    rcases carousel_step taken with ⟨refresh, _⟩ | ⟨_, ⟨index, pending, same⟩ | same⟩
    · exact absurd refresh notRefresh
    · rw [same, server, Refill.due_complete _ pending, due]
    · rw [same, due]
  · intro _ event member
    exact ⟨fun server same => fixed server (same ▸ member), fun same => quiet (same ▸ member)⟩

def homePending (inFlight : List Fetch) (index : Fin 3) : Prop :=
  .homepage index ∈ inFlight ∨ ∃ call, .allHomepage call index ∈ inFlight

/-- Each array holds its branch, or is empty with a callback to fill it. -/
def HomeSlots (feeds : Feeds) : Prop :=
  Refilling (homeContent feeds.server) [] (homePending feeds.inFlight) feeds.homeArticleList

private theorem homePending_erase {inFlight : List Fetch} {fetch : Fetch} {index : Fin 3}
    (single : .homepage index ≠ fetch) (all : ∀ call, .allHomepage call index ≠ fetch) :
    homePending (inFlight.erase fetch) index ↔ homePending inFlight index :=
  or_congr (List.mem_erase_of_ne single) (exists_congr fun call => List.mem_erase_of_ne (all call))

private theorem homePending_of_erase {inFlight : List Fetch} {fetch : Fetch} {index : Fin 3}
    (pending : homePending (inFlight.erase fetch) index) : homePending inFlight index := by
  rcases pending with single | ⟨call, all⟩
  · exact .inl (List.mem_of_mem_erase single)
  · exact .inr ⟨call, List.mem_of_mem_erase all⟩

/-- What a step can do to the feed arrays: empty them all and start a callback for
each, store the branch of one pending callback, or nothing. -/
inductive HomeStep (event : FeedEvent) (feeds next : Feeds) : Prop
  | emptied (starts : event = .getHomepageData true ∨ event = .loadAllArticles true)
      (lists : next.homeArticleList = fun _ => [])
      (pending : ∀ slot, homePending next.inFlight slot)
  | stored (index : Fin 3) (was : homePending feeds.inFlight index)
      (lists : next.homeArticleList =
        Function.update feeds.homeArticleList index (homeContent feeds.server index))
      (others : ∀ slot, slot ≠ index →
        (homePending next.inFlight slot ↔ homePending feeds.inFlight slot))
      (fewer : ∀ slot, homePending next.inFlight slot → homePending feeds.inFlight slot)
  | kept (lists : next.homeArticleList = feeds.homeArticleList)
      (pending : ∀ slot, homePending next.inFlight slot ↔ homePending feeds.inFlight slot)

private theorem home_step {feeds next : Feeds} {event : FeedEvent}
    (taken : feedStep feeds event = some next) : HomeStep event feeds next := by
  cases event with
  | serverChanges server =>
    obtain rfl := Option.some.inj taken
    exact .kept rfl fun _ => Iff.rfl
  | getHomepageData connected =>
    cases connected <;> obtain rfl := Option.some.inj taken
    · exact .kept rfl fun _ => Iff.rfl
    · exact .emptied (.inl rfl) rfl fun slot => .inl (by simp [getHomepageData])
  | getBulletinData connected =>
    cases connected <;> obtain rfl := Option.some.inj taken
    · exact .kept rfl fun _ => Iff.rfl
    · exact .kept rfl fun slot => by simp [homePending, getBulletinData]
  | loadAllArticles connected =>
    cases connected <;> obtain rfl := Option.some.inj taken
    · exact .kept rfl fun _ => Iff.rfl
    · exact .emptied (.inr rfl) rfl fun slot => .inr ⟨feeds.loadCalls, by simp [loadAllArticles]⟩
  | complete fetch now =>
    obtain ⟨pending, called⟩ := complete_cases taken
    cases fetch with
    | homepage index =>
      obtain ⟨temp, decoded, rfl⟩ := homepage_callback called
      refine .stored index (.inl pending) (by simp [sortFeatured, homeContent, decoded])
        (fun slot other => homePending_erase (by simpa using other) (by simp)) fun _ => ?_
      exact homePending_of_erase
    | bulletin index =>
      obtain ⟨_, home, _, _, _, inFlight⟩ := generateBulletin_frame called
      refine .kept home ?_
      intro slot
      rw [inFlight]
      exact homePending_erase (by simp) (by simp)
    | allHomepage call index =>
      obtain ⟨temp, decoded, rfl⟩ := allHomepage_callback called
      refine .stored index (.inr ⟨call, pending⟩) (by simp [homeContent, decoded])
        (fun slot other => homePending_erase (by simp) fun _ same => other
          (Fetch.allHomepage.inj same).2) fun _ => ?_
      exact homePending_of_erase
    | allBulletin call index =>
      obtain rfl := Option.some.inj called
      exact .kept rfl fun slot => homePending_erase (by simp) (by simp)
  | addFilter index now =>
    obtain ⟨_, home, _, _, _, inFlight⟩ := generateBulletin_frame taken
    exact .kept home fun slot => by rw [inFlight]
  | openArticle article =>
    obtain ⟨_, rfl⟩ := openArticle_cases taken
    unfold openArticle
    split <;> exact .kept rfl fun _ => Iff.rfl

theorem HomeSlots.refreshed (feeds : Feeds) : HomeSlots (getHomepageData true feeds) :=
  Refilling.reset fun _ => .inl (by simp [getHomepageData])

theorem HomeSlots.step {feeds next : Feeds} {event : FeedEvent} (valid : HomeSlots feeds)
    (fixed : ∀ server, event ≠ .serverChanges server)
    (taken : feedStep feeds event = some next) : HomeSlots next := by
  unfold HomeSlots
  rw [feedStep_server fixed taken]
  cases home_step taken with
  | emptied _ lists pending => exact lists ▸ Refilling.reset pending
  | stored index _ lists others =>
    exact lists ▸ valid.store index fun slot other => (others slot other).mpr
  | kept lists pending => exact lists ▸ valid.weaken fun slot => (pending slot).mpr

theorem HomeSlots.run {feeds last : Feeds} {events : List FeedEvent} (valid : HomeSlots feeds)
    (fixed : ∀ server, .serverChanges server ∉ events)
    (ran : feedRun feeds events = some last) : HomeSlots last :=
  fixed_server_run HomeSlots HomeSlots.step valid fixed ran

theorem HomeSlots.idle {feeds : Feeds} (valid : HomeSlots feeds)
    (idle : ∀ index, ¬ homePending feeds.inFlight index) :
    feeds.homeArticleList = homeContent feeds.server :=
  valid.complete_of_idle idle

private theorem carousel_idle {feeds : Feeds} (idle : ∀ index, ¬ homePending feeds.inFlight index) :
    (carousel feeds).inFlight = 0 :=
  Multiset.eq_zero_of_forall_notMem fun index member => idle index (.inl (mem_carousel.mp member))

private theorem untouched_run {feeds last : Feeds} {events : List FeedEvent}
    (blank : feeds.homeArticleList = fun _ => []) (none : ∀ slot, ¬ homePending feeds.inFlight slot)
    (quiet : .getHomepageData true ∉ events) (unloaded : .loadAllArticles true ∉ events)
    (ran : feedRun feeds events = some last) : last.homeArticleList = fun _ => [] := by
  refine (run_invariant
    (fun state => (state.homeArticleList = fun _ => []) ∧
      ∀ slot, ¬ homePending state.inFlight slot)
    (fun _ event => event ≠ .getHomepageData true ∧ event ≠ .loadAllArticles true)
    ?_ ⟨blank, none⟩ (Along.of_forall ?_ feeds) ran).1
  · rintro state event next ⟨blank, none⟩ ⟨notRefresh, notReload⟩ taken
    cases home_step taken with
    | emptied starts => exact (starts.elim notRefresh notReload).elim
    | stored index was => exact absurd was (none index)
    | kept lists pending =>
      exact ⟨lists.trans blank, fun slot waiting => none slot ((pending slot).mp waiting)⟩
  · exact fun _ event member => ⟨fun same => quiet (same ▸ member),
      fun same => unloaded (same ▸ member)⟩

/-- The bag of a single refresh. -/
def featuredFeed (server : DataSnapshot) : List ArticleData :=
  ((List.finRange 3).flatMap (homeContent server)).filter (·.isFeatured)

theorem sum_featuredBag (server : DataSnapshot) :
    (((List.finRange 3 : List (Fin 3)) : Multiset (Fin 3)).map (featuredBag server)).sum =
      featuredFeed server := by
  simp [featuredBag, featuredOn, featuredFeed, homeContent, List.finRange_succ,
    List.filter_append]

private theorem featuredFeed_nodup {server : DataSnapshot} (distinct : DistinctArticles server) :
    (featuredFeed server).Nodup :=
  (List.Nodup.of_map _ distinct).filter _

/-- With nothing in flight the feed arrays hold the server's homepage, so the
carousel matches when it is the bag of a single refresh. -/
theorem carouselMatches_iff {feeds : Feeds} (distinct : DistinctArticles feeds.server)
    (arrived : feeds.homeArticleList = homeContent feeds.server) :
    CarouselMatches feeds ↔
      (feeds.featuredArticles : Multiset ArticleData) = featuredFeed feeds.server := by
  rw [CarouselMatches, arrived, Multiset.coe_eq_coe]
  exact ⟨And.left, fun same => ⟨same, same.nodup_iff.mpr (featuredFeed_nodup distinct)⟩⟩

/-- The carousel that is left is what was due when the last refresh started. -/
theorem carousel_after_refresh {middle feeds : Feeds} {after : List FeedEvent}
    (fixed : ∀ server, .serverChanges server ∉ after) (last : .getHomepageData true ∉ after)
    (ran : feedRun (getHomepageData true middle) after = some feeds)
    (idle : ∀ index, ¬ homePending feeds.inFlight index) :
    feeds.server = middle.server ∧ feeds.homeArticleList = homeContent feeds.server ∧
      (feeds.featuredArticles : Multiset ArticleData) =
        ((carousel middle).start (List.finRange 3 : List (Fin 3))).due
          (featuredBag middle.server) := by
  have taken : feedStep middle (.getHomepageData true) = some (getHomepageData true middle) := rfl
  obtain ⟨_, started⟩ | ⟨other, _⟩ := carousel_step taken
  · obtain ⟨same, due⟩ := carousel_due_run fixed last ran
    refine ⟨same, ((HomeSlots.refreshed middle).run fixed ran).idle idle, ?_⟩
    calc (feeds.featuredArticles : Multiset ArticleData)
        = (carousel feeds).due (featuredBag middle.server) :=
          Refill.bag_of_idle (carousel_idle idle)
      _ = (carousel (getHomepageData true middle)).due (featuredBag middle.server) := due
      _ = _ := by rw [started]
  · exact absurd rfl other

/-- What decides is which callbacks are in flight when the last refresh starts. -/
theorem carousel_matches_after_refresh {server : DataSnapshot} {saved : Option (List String)}
    {before after : List FeedEvent} {middle feeds : Feeds} (distinct : DistinctArticles server)
    (fixed : ∀ other, .serverChanges other ∉ before ++ .getHomepageData true :: after)
    (last : .getHomepageData true ∉ after)
    (ranBefore : feedRun (Feeds.launch server saved) before = some middle)
    (ran : feedRun (Feeds.launch server saved) (before ++ .getHomepageData true :: after) =
      some feeds)
    (idle : ∀ index, ¬ homePending feeds.inFlight index) :
    CarouselMatches feeds ↔
      ∀ index, .homepage index ∈ middle.inFlight → featuredOn middle.server index = [] := by
  simp only [List.mem_append, List.mem_cons, not_or, forall_and] at fixed
  obtain ⟨fixedBefore, _, fixedAfter⟩ := fixed
  obtain ⟨middle', ranBefore', ranRest⟩ := run_append_iff.mp ran
  obtain rfl := Option.some.inj (ranBefore.symm.trans ranBefore')
  obtain ⟨refreshed, taken, ranAfter⟩ := run_cons_iff.mp ranRest
  obtain rfl := Option.some.inj taken
  obtain ⟨same, arrived, bag⟩ := carousel_after_refresh fixedAfter last ranAfter idle
  have origin : middle.server = server := server_run fixedBefore ranBefore
  rw [carouselMatches_iff (by rwa [same, origin]) arrived, bag, same, ← sum_featuredBag,
    Refill.due_start_eq_iff]
  simp [featuredBag, mem_carousel]

/-- Over any run of refreshes, reloads and callbacks, the carousel that is left
matches the feed exactly if the last refresh was not started too early. -/
theorem carousel_matches_iff {server : DataSnapshot} {saved : Option (List String)}
    {events : List FeedEvent} {feeds : Feeds} (distinct : DistinctArticles server)
    (fixed : ∀ other, .serverChanges other ∉ events)
    (opened : .loadAllArticles true ∈ events → .getHomepageData true ∈ events)
    (ran : feedRun (Feeds.launch server saved) events = some feeds)
    (idle : ∀ index, ¬ homePending feeds.inFlight index) :
    CarouselMatches feeds ↔ LastRefreshAlone (Feeds.launch server saved) events := by
  by_cases refresh : .getHomepageData true ∈ events
  · constructor
    · rintro matched before after middle rfl last ranBefore index
      exact (carousel_matches_after_refresh distinct fixed last ranBefore ran idle).mp matched index
    · intro alone
      obtain ⟨before, _, after, rfl, rfl, none⟩ :=
        exists_last_split (· = FeedEvent.getHomepageData true) events ⟨_, refresh, rfl⟩
      have last : .getHomepageData true ∉ after := fun member => none _ member rfl
      obtain ⟨middle, ranBefore, _⟩ := run_append_iff.mp ran
      exact (carousel_matches_after_refresh distinct fixed last ranBefore ran idle).mpr
        (alone before after middle rfl last ranBefore)
  · have blank : feeds.homeArticleList = fun _ => [] :=
      untouched_run rfl (by simp [Feeds.launch, homePending]) refresh (refresh ∘ opened) ran
    have due := (carousel_due_run fixed refresh ran).2
    have empty : feeds.featuredArticles = [] := by
      simpa [carousel, Feeds.launch, Refill.due] using
        (Refill.bag_of_idle (carousel_idle idle)).trans due
    apply iff_of_true (by simp [CarouselMatches, empty, blank])
    rintro before after _ rfl
    exact absurd (by simp) refresh

/-- A homepage with one featured article in its first branch. -/
def featuredHomepage : DataSnapshot :=
  .node "" [.node "homepage" [.node "General_Info"
    [.node "article" [.leaf "isFeatured" (.bool true)]]]]

def refresh : List FeedEvent :=
  .getHomepageData true :: (List.finRange 3).map fun index => .complete (.homepage index) 0

theorem carousel_matches_refresh : ∃ feeds,
    feedRun (Feeds.launch featuredHomepage none) refresh = some feeds ∧
      (CarouselMatches feeds ↔
        LastRefreshAlone (Feeds.launch featuredHomepage none) refresh) := by
  refine ⟨_, rfl, carousel_matches_iff (by unfold DistinctArticles; decide) ?_ ?_ rfl ?_⟩
  · simp [refresh]
  · simp [refresh]
  · rintro index (single | ⟨call, all⟩)
    · cases single
    · cases all

/-- The user pulls to refresh while the first load is still on its way. -/
def overlappingRefreshes : List FeedEvent :=
  .getHomepageData true :: .getHomepageData true ::
    (List.finRange 3).flatMap fun index =>
      [.complete (.homepage index) 0, .complete (.homepage index) 0]

theorem overlapping_refreshes_duplicate :
    DistinctArticles featuredHomepage ∧ ∃ feeds,
      feedRun (Feeds.launch featuredHomepage none) overlappingRefreshes = some feeds ∧
        feeds.inFlight = [] ∧ ¬ CarouselMatches feeds := by
  refine ⟨by unfold DistinctArticles; decide, _, rfl, rfl, ?_⟩
  unfold CarouselMatches
  decide

end AhsApp.Ios
