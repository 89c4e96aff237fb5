import AhsApp.Ios.Feeds
import AhsApp.Library.Loader
import Mathlib.Data.Fintype.Basic
import Mathlib.Tactic.FinCases

/-! The bulletin page against the server. The branches are slots that two loaders
empty and refill, but only the callbacks of one of them, and filter taps, render
what the slots hold at that moment. -/

namespace AhsApp.Ios

open AhsApp.Firebase AhsApp.Library

/-- The branches that the filters show: all of them when none is selected. -/
def shown (selectedFilters : Fin 5 → Bool) (index : Fin 5) : Bool :=
  noFilterSelected selectedFilters || selectedFilters index

/-- The articles that the filters show. -/
def selectedArticles (selectedFilters : Fin 5 → Bool)
    (articles : List BulletinArticleData) : List BulletinArticleData :=
  articles.filter fun article => noFilterSelected selectedFilters ||
    elementAt selectedFilters article.articleType == some true

/-- The page lists the selected articles of the server, in some order. -/
def PageConverged (feeds : Feeds) : Prop :=
  feeds.currentArticles.Perm
    (selectedArticles feeds.selectedFilters (allBulletins (serverBulletin feeds.server)))

/-- The feeds that `generateBulletin` is called on, for the events that render. -/
def rendered (feeds : Feeds) : FeedEvent → Option Feeds
  | .complete (.bulletin index) _ => some { feeds with
      inFlight := feeds.inFlight.erase (.bulletin index)
      bulletinArticleList := Function.update feeds.bulletinArticleList index
        (serverBulletin feeds.server index) }
  | .addFilter index _ => some { feeds with
      selectedFilters :=
        Function.update feeds.selectedFilters index (!feeds.selectedFilters index) }
  | _ => none

def renders : FeedEvent → Bool
  | .complete (.bulletin _) _ => true
  | .addFilter _ _ => true
  | _ => false

/-- The event renders while some branch has data; otherwise the page stays. -/
def FindsData (feeds : Feeds) (event : FeedEvent) : Prop :=
  ∃ seen, rendered feeds event = some seen ∧ bulletinArrayHasData seen.bulletinArticleList

/-- The last render of the run that found data found these articles under its
filters; if none did, they are those of the page the run started from. -/
def LastFound (start : Feeds) (events : List FeedEvent)
    (articles : List BulletinArticleData) : Prop :=
  (∃ before event after middle seen next, events = before ++ event :: after ∧
    feedRun start before = some middle ∧ rendered middle event = some seen ∧
    bulletinArrayHasData seen.bulletinArticleList ∧ feedStep middle event = some next ∧
    Along feedStep (¬ FindsData · ·) next after ∧
    (selectedArticles seen.selectedFilters (allBulletins seen.bulletinArticleList)).Perm
      articles) ∨
  (Along feedStep (¬ FindsData · ·) start events ∧ start.currentArticles.Perm articles)

/-- What the last render finds is complete: every branch shown is stored as on the
server. When it finds no data, an earlier render has found the articles that the
filters select now. -/
def RendersServer (start : Feeds) (before : List FeedEvent) (seen : Feeds) : Prop :=
  if bulletinArrayHasData seen.bulletinArticleList then
    ∀ index, shown seen.selectedFilters index →
      seen.bulletinArticleList index = serverBulletin seen.server index
  else LastFound start before
    (selectedArticles seen.selectedFilters (allBulletins (serverBulletin seen.server)))

/-- The last render of the run finds complete data. -/
def LastRenderComplete (start : Feeds) (events : List FeedEvent) : Prop :=
  ∀ before event after middle seen, events = before ++ event :: after →
    feedRun start before = some middle → rendered middle event = some seen →
    (∀ later ∈ after, renders later = false) → RendersServer start before seen

theorem noFilterSelected_iff {selectedFilters : Fin 5 → Bool} :
    noFilterSelected selectedFilters = true ↔ ∀ index, selectedFilters index = false := by
  simp [noFilterSelected]

theorem elementAt_index (selectedFilters : Fin 5 → Bool) (index : Fin 5) :
    elementAt selectedFilters index.val = some (selectedFilters index) := by
  have inRange : (0 : Int) ≤ index.val ∧ (index.val : Int) < 5 := by omega
  simp [elementAt, inRange]

private theorem elementAt_of_none_selected {selectedFilters : Fin 5 → Bool} {articleType : Int}
    (unselected : noFilterSelected selectedFilters = true) :
    elementAt selectedFilters articleType ≠ some true := by
  unfold elementAt
  split
  · simp [noFilterSelected_iff.mp unselected]
  · simp

/-- `filterArticles` keeps the selected articles. -/
theorem filterArticles_eq {selectedFilters : Fin 5 → Bool}
    {articles kept : List BulletinArticleData}
    (filtered : filterArticles selectedFilters articles = some kept) :
    kept = selectedArticles selectedFilters articles := by
  simp only [filterArticles, Option.bind_eq_bind, Option.bind_eq_some_iff, Option.some.injEq]
    at filtered
  obtain ⟨copy, copied, result⟩ := filtered
  rw [← result, selectedCopy_eq_filter copied, selectedArticles]
  cases unselected : noFilterSelected selectedFilters with
  | false => simp
  | true => simp [elementAt_of_none_selected unselected]

/-- Every article carries the index of the branch it is stored in. -/
def TypedBranches (list : Fin 5 → List BulletinArticleData) : Prop :=
  ∀ index, ∀ article ∈ list index, article.articleType = (index.val : Int)

private theorem selectedArticles_allBulletins {selectedFilters : Fin 5 → Bool}
    {list : Fin 5 → List BulletinArticleData}
    (typed : TypedBranches list) :
    selectedArticles selectedFilters (allBulletins list) =
      allBulletins fun index => if shown selectedFilters index then list index else [] := by
  rw [selectedArticles, allBulletins, List.filter_flatMap, allBulletins]
  congr 1
  funext index
  have same : ∀ article ∈ list index, (noFilterSelected selectedFilters ||
      elementAt selectedFilters article.articleType == some true) =
        shown selectedFilters index := by
    intro article member
    rw [typed index article member, elementAt_index, shown]
    simp
  rw [List.filter_congr same]
  cases shown selectedFilters index <;> simp

private theorem branch_of_allBulletins {list : Fin 5 → List BulletinArticleData}
    (typed : TypedBranches list) (index : Fin 5) :
    (allBulletins list).filter
      (fun article => article.articleType == (index.val : Int)) = list index := by
  have split : ∀ other,
      (list other).filter (fun article => article.articleType == (index.val : Int)) =
      if other = index then list index else [] := by
    intro other
    by_cases same : other = index
    · subst other
      simpa using typed index
    · have apart : (other.val : Int) ≠ index.val := by omega
      simp only [same, ↓reduceIte, List.filter_eq_nil_iff]
      intro article member
      simp [typed other article member, apart]
  rw [allBulletins, List.filter_flatMap]
  simp only [split]
  fin_cases index <;> simp [List.finRange_succ]

private theorem allBulletins_perm_iff {list other : Fin 5 → List BulletinArticleData}
    (typed : TypedBranches list)
    (typed' : TypedBranches other) :
    (allBulletins list).Perm (allBulletins other) ↔ ∀ index, (list index).Perm (other index) := by
  constructor
  · intro same index
    rw [← branch_of_allBulletins typed index, ← branch_of_allBulletins typed' index]
    exact same.filter _
  · exact fun same => List.Perm.flatMap_left _ fun index _ => same index

def bulletinPending (inFlight : List Fetch) (index : Fin 5) : Prop :=
  .bulletin index ∈ inFlight ∨ ∃ call, .allBulletin call index ∈ inFlight

/-- Each branch holds its articles, or is empty with a callback to fill it. -/
def BulletinSlots (feeds : Feeds) : Prop :=
  Refilling (serverBulletin feeds.server) [] (bulletinPending feeds.inFlight)
    feeds.bulletinArticleList

private theorem bulletinPending_append {inFlight more : List Fetch} {index : Fin 5}
    (pending : bulletinPending inFlight index) : bulletinPending (inFlight ++ more) index := by
  rcases pending with single | ⟨call, all⟩
  · exact .inl (List.mem_append_left _ single)
  · exact .inr ⟨call, List.mem_append_left _ all⟩

private theorem bulletinPending_erase {inFlight : List Fetch} {fetch : Fetch} {index : Fin 5}
    (single : .bulletin index ≠ fetch) (all : ∀ call, .allBulletin call index ≠ fetch)
    (pending : bulletinPending inFlight index) : bulletinPending (inFlight.erase fetch) index := by
  rcases pending with present | ⟨call, present⟩
  · exact .inl ((List.mem_erase_of_ne single).mpr present)
  · exact .inr ⟨call, (List.mem_erase_of_ne (all call)).mpr present⟩

theorem BulletinSlots.refreshed (feeds : Feeds) : BulletinSlots (getBulletinData true feeds) :=
  Refilling.reset fun _ => .inl (by simp [getBulletinData])

private theorem rendered_step {feeds next seen : Feeds} {event : FeedEvent}
    (taken : feedStep feeds event = some next) (renders : rendered feeds event = some seen) :
    ∃ now, generateBulletin now seen = some next := by
  cases event with
  | complete fetch now =>
    cases fetch with
    | bulletin index => exact ⟨now, Option.some.inj renders ▸ (complete_cases taken).2⟩
    | _ => cases renders
  | addFilter index now => exact ⟨now, Option.some.inj renders ▸ taken⟩
  | _ => cases renders

theorem BulletinSlots.rendered {feeds seen : Feeds} {event : FeedEvent}
    (valid : BulletinSlots feeds) (renders : rendered feeds event = some seen) :
    BulletinSlots seen := by
  cases event with
  | complete fetch now =>
    cases fetch with
    | bulletin index =>
      obtain rfl := Option.some.inj renders
      exact valid.store index fun slot other =>
        bulletinPending_erase (by simpa using other) (by simp)
    | _ => cases renders
  | addFilter index now =>
    obtain rfl := Option.some.inj renders
    exact valid
  | _ => cases renders

theorem BulletinSlots.step {feeds next : Feeds} {event : FeedEvent} (valid : BulletinSlots feeds)
    (fixed : ∀ server, event ≠ .serverChanges server)
    (taken : feedStep feeds event = some next) : BulletinSlots next := by
  cases renders : Ios.rendered feeds event with
  | some seen =>
    obtain ⟨now, generated⟩ := rendered_step taken renders
    obtain ⟨server, _, _, lists, _, inFlight⟩ := generateBulletin_frame generated
    unfold BulletinSlots
    rw [server, lists, inFlight]
    exact valid.rendered renders
  | none =>
    cases event with
    | serverChanges server => exact absurd rfl (fixed server)
    | getHomepageData connected =>
      cases connected <;> obtain rfl := Option.some.inj taken
      · exact valid
      · exact valid.weaken fun _ => bulletinPending_append
    | getBulletinData connected =>
      cases connected <;> obtain rfl := Option.some.inj taken
      · exact valid
      · exact .refreshed feeds
    | loadAllArticles connected =>
      cases connected <;> obtain rfl := Option.some.inj taken
      · exact valid
      · exact Refilling.reset fun _ => .inr ⟨feeds.loadCalls, by simp [loadAllArticles]⟩
    | complete fetch now =>
      obtain ⟨_, called⟩ := complete_cases taken
      cases fetch with
      | homepage index =>
        obtain ⟨temp, _, rfl⟩ := homepage_callback called
        exact valid.weaken fun _ => bulletinPending_erase (by simp) (by simp)
      | bulletin index => cases renders
      | allHomepage call index =>
        obtain ⟨temp, _, rfl⟩ := allHomepage_callback called
        exact valid.weaken fun _ => bulletinPending_erase (by simp) (by simp)
      | allBulletin call index =>
        obtain rfl := Option.some.inj called
        exact valid.store index fun slot other => bulletinPending_erase (by simp)
          fun _ same => other (Fetch.allBulletin.inj same).2
    | addFilter index now => cases renders
    | openArticle article =>
      obtain ⟨_, rfl⟩ := openArticle_cases taken
      unfold openArticle
      split <;> exact valid

theorem BulletinSlots.run {feeds last : Feeds} {events : List FeedEvent}
    (valid : BulletinSlots feeds) (fixed : ∀ server, .serverChanges server ∉ events)
    (ran : feedRun feeds events = some last) : BulletinSlots last :=
  fixed_server_run BulletinSlots BulletinSlots.step valid fixed ran

theorem BulletinSlots.idle {feeds : Feeds} (valid : BulletinSlots feeds)
    (idle : ∀ index, ¬ bulletinPending feeds.inFlight index) :
    feeds.bulletinArticleList = serverBulletin feeds.server :=
  valid.complete_of_idle idle

private theorem serverBulletin_typed (server : DataSnapshot) :
    TypedBranches (serverBulletin server) :=
  fun _ _ => decodeBulletinBranch_articleType

theorem BulletinSlots.typed {feeds : Feeds} (valid : BulletinSlots feeds) :
    TypedBranches feeds.bulletinArticleList := by
  intro index article member
  rcases valid index with stored | ⟨blank, _⟩
  · exact serverBulletin_typed feeds.server index article (stored ▸ member)
  · simp [blank] at member

private theorem typed_shown {list : Fin 5 → List BulletinArticleData} (typed : TypedBranches list)
    (selectedFilters : Fin 5 → Bool) :
    TypedBranches fun index => if shown selectedFilters index then list index else [] := by
  intro index article member
  cases visible : shown selectedFilters index with
  | false => simp [visible] at member
  | true => exact typed index article (by simpa [visible] using member)

/-- Slots show the server's selected articles when no slot that is shown is blank
while the server has articles for it. -/
theorem BulletinSlots.selected_perm_iff {feeds : Feeds} (valid : BulletinSlots feeds) :
    (selectedArticles feeds.selectedFilters (allBulletins feeds.bulletinArticleList)).Perm
        (selectedArticles feeds.selectedFilters (allBulletins (serverBulletin feeds.server))) ↔
      ∀ index, shown feeds.selectedFilters index →
        feeds.bulletinArticleList index = serverBulletin feeds.server index := by
  have typed := serverBulletin_typed feeds.server
  rw [selectedArticles_allBulletins valid.typed, selectedArticles_allBulletins typed,
    allBulletins_perm_iff (typed_shown valid.typed _) (typed_shown typed _)]
  apply forall_congr'
  intro index
  cases shown feeds.selectedFilters index with
  | false => simp
  | true =>
    rcases valid index with stored | ⟨blank, _⟩
    · simp [stored]
    · simp [blank, @eq_comm _ []]

/-- A render that finds data draws the stored articles that its filters select. -/
theorem generateBulletin_draws {now : Int} {seen next : Feeds}
    (found : bulletinArrayHasData seen.bulletinArticleList)
    (generated : generateBulletin now seen = some next) :
    next.currentArticles.Perm
      (selectedArticles seen.selectedFilters (allBulletins seen.bulletinArticleList)) := by
  rcases generateBulletin_cases generated with ⟨blank, rfl⟩ | ⟨_, kept, filtered, rfl⟩
  · simp [blank] at found
  · rw [filterArticles_eq filtered]
    exact (sortBy_perm _ _).filter _

private theorem rendered_page {feeds seen : Feeds} {event : FeedEvent}
    (sees : rendered feeds event = some seen) : seen.currentArticles = feeds.currentArticles := by
  cases event with
  | complete fetch now =>
    cases fetch with
    | bulletin index => exact Option.some.inj sees ▸ rfl
    | _ => cases sees
  | addFilter index now => exact Option.some.inj sees ▸ rfl
  | _ => cases sees

private theorem rendered_of_renders {event : FeedEvent} (visible : renders event = true)
    (feeds : Feeds) :
    ∃ seen, rendered feeds event = some seen := by
  cases event with
  | complete fetch now =>
    cases fetch with
    | bulletin index => exact ⟨_, rfl⟩
    | _ => cases visible
  | addFilter index now => exact ⟨_, rfl⟩
  | _ => cases visible

/-- A step that does not render leaves the page, the filters and every bulletin
callback of a refresh. -/
theorem quiet_step {feeds next : Feeds} {event : FeedEvent} (quiet : renders event = false)
    (taken : feedStep feeds event = some next) :
    next.currentArticles = feeds.currentArticles ∧
      next.selectedFilters = feeds.selectedFilters ∧
      ∀ index, .bulletin index ∈ feeds.inFlight → .bulletin index ∈ next.inFlight := by
  cases event with
  | serverChanges server =>
    obtain rfl := Option.some.inj taken
    exact ⟨rfl, rfl, fun _ => id⟩
  | getHomepageData connected =>
    cases connected <;> obtain rfl := Option.some.inj taken
    · exact ⟨rfl, rfl, fun _ => id⟩
    · exact ⟨rfl, rfl, fun _ => List.mem_append_left _⟩
  | getBulletinData connected =>
    cases connected <;> obtain rfl := Option.some.inj taken
    · exact ⟨rfl, rfl, fun _ => id⟩
    · exact ⟨rfl, rfl, fun _ => List.mem_append_left _⟩
  | loadAllArticles connected =>
    cases connected <;> obtain rfl := Option.some.inj taken
    · exact ⟨rfl, rfl, fun _ => id⟩
    · exact ⟨rfl, rfl, fun _ member => List.mem_append_left _ (List.mem_append_left _ member)⟩
  | complete fetch now =>
    obtain ⟨_, called⟩ := complete_cases taken
    cases fetch with
    | homepage index =>
      obtain ⟨temp, _, rfl⟩ := homepage_callback called
      exact ⟨rfl, rfl, fun _ => (List.mem_erase_of_ne (by simp)).mpr⟩
    | bulletin index => cases quiet
    | allHomepage call index =>
      obtain ⟨temp, _, rfl⟩ := allHomepage_callback called
      exact ⟨rfl, rfl, fun _ => (List.mem_erase_of_ne (by simp)).mpr⟩
    | allBulletin call index =>
      obtain rfl := Option.some.inj called
      exact ⟨rfl, rfl, fun _ => (List.mem_erase_of_ne (by simp)).mpr⟩
  | addFilter index now => cases quiet
  | openArticle article =>
    obtain ⟨_, rfl⟩ := openArticle_cases taken
    unfold openArticle
    split <;> exact ⟨rfl, rfl, fun _ => id⟩

private theorem quiet_run {feeds last : Feeds} {events : List FeedEvent}
    (quiet : ∀ event ∈ events, renders event = false) (ran : feedRun feeds events = some last) :
    last.currentArticles = feeds.currentArticles ∧
      last.selectedFilters = feeds.selectedFilters ∧
      ∀ index, .bulletin index ∈ feeds.inFlight → .bulletin index ∈ last.inFlight := by
  refine run_invariant
    (fun state => state.currentArticles = feeds.currentArticles ∧
      state.selectedFilters = feeds.selectedFilters ∧
      ∀ index, .bulletin index ∈ feeds.inFlight → .bulletin index ∈ state.inFlight)
    (fun _ event => renders event = false) ?_ ⟨rfl, rfl, fun _ => id⟩
    (Along.of_forall (fun _ => quiet) feeds) ran
  rintro state event next ⟨page, filters, waiting⟩ silent taken
  obtain ⟨page', filters', waiting'⟩ := quiet_step silent taken
  exact ⟨page'.trans page, filters'.trans filters,
    fun index member => waiting' index (waiting index member)⟩

private theorem unfound_step {feeds next : Feeds} {event : FeedEvent}
    (none : ¬ FindsData feeds event)
    (taken : feedStep feeds event = some next) : next.currentArticles = feeds.currentArticles := by
  cases visible : renders event with
  | false => exact (quiet_step visible taken).1
  | true =>
    obtain ⟨seen, sees⟩ := rendered_of_renders visible feeds
    obtain ⟨now, generated⟩ := rendered_step taken sees
    rcases generateBulletin_cases generated with ⟨_, rfl⟩ | ⟨found, _⟩
    · exact rendered_page sees
    · exact absurd ⟨seen, sees, found⟩ none

private theorem unfound_run {feeds last : Feeds} {events : List FeedEvent}
    (none : Along feedStep (¬ FindsData · ·) feeds events)
    (ran : feedRun feeds events = some last) : last.currentArticles = feeds.currentArticles :=
  run_invariant (·.currentArticles = feeds.currentArticles) (¬ FindsData · ·)
    (fun same unfound taken => (unfound_step unfound taken).trans same) rfl none ran

private theorem page_of_last_found {start middle seen next last : Feeds}
    {before after : List FeedEvent} {event : FeedEvent}
    (ran : feedRun start (before ++ event :: after) = some last)
    (ranBefore : feedRun start before = some middle) (sees : rendered middle event = some seen)
    (found : bulletinArrayHasData seen.bulletinArticleList)
    (taken : feedStep middle event = some next)
    (none : Along feedStep (¬ FindsData · ·) next after) :
    last.currentArticles.Perm
      (selectedArticles seen.selectedFilters (allBulletins seen.bulletinArticleList)) := by
  obtain ⟨_, same, ranRest⟩ := run_append_iff.mp ran
  obtain rfl := Option.some.inj (ranBefore.symm.trans same)
  obtain ⟨_, same, ranAfter⟩ := run_cons_iff.mp ranRest
  obtain rfl := Option.some.inj (taken.symm.trans same)
  obtain ⟨now, generated⟩ := rendered_step taken sees
  rw [unfound_run none ranAfter]
  exact generateBulletin_draws found generated

/-- The page lists what the last render with data found. -/
theorem lastFound_iff {start last : Feeds} {events : List FeedEvent}
    {articles : List BulletinArticleData} (ran : feedRun start events = some last) :
    LastFound start events articles ↔ last.currentArticles.Perm articles := by
  constructor
  · rintro (⟨before, event, after, middle, seen, next, rfl, ranBefore, sees, found, taken,
      none, drawn⟩ | ⟨none, first⟩)
    · exact (page_of_last_found ran ranBefore sees found taken none).trans drawn
    · rwa [unfound_run none ran]
  · intro listed
    rcases exists_last_step FindsData ran with none | ⟨before, event, after, middle, next, rfl,
      ranBefore, ⟨seen, sees, found⟩, taken, none⟩
    · exact .inr ⟨none, unfound_run none ran ▸ listed⟩
    · have drawn := page_of_last_found ran ranBefore sees found taken none
      exact .inl ⟨before, event, after, middle, seen, next, rfl, ranBefore, sees, found, taken,
        none, drawn.symm.trans listed⟩

private theorem render_converged_iff {start middle seen next : Feeds} {before : List FeedEvent}
    {event : FeedEvent} (ran : feedRun start before = some middle)
    (sees : rendered middle event = some seen) (valid : BulletinSlots seen)
    (taken : feedStep middle event = some next) :
    PageConverged next ↔ RendersServer start before seen := by
  obtain ⟨now, generated⟩ := rendered_step taken sees
  unfold RendersServer
  split
  · have found : bulletinArrayHasData seen.bulletinArticleList := ‹_›
    obtain ⟨server, _, _, _, filters, _⟩ := generateBulletin_frame generated
    rw [← valid.selected_perm_iff, PageConverged, server, filters]
    exact (generateBulletin_draws found generated).congr_left _
  · rcases generateBulletin_cases generated with ⟨_, rfl⟩ | ⟨found, _⟩
    · rw [lastFound_iff ran, PageConverged, rendered_page sees]
    · contradiction

private theorem refresh_renders {feeds last : Feeds} {events : List FeedEvent}
    (refreshed : .getBulletinData true ∈ events) (ran : feedRun feeds events = some last)
    (idle : ∀ index, ¬ bulletinPending last.inFlight index) :
    ∃ event ∈ events, renders event = true := by
  by_contra! silent
  obtain ⟨before, after, rfl⟩ := List.mem_iff_append.mp refreshed
  obtain ⟨middle, _, ranRest⟩ := run_append_iff.mp ran
  obtain ⟨next, taken, ranAfter⟩ := run_cons_iff.mp ranRest
  obtain rfl := Option.some.inj taken
  have quiet : ∀ event ∈ after, renders event = false := fun event member =>
    Bool.eq_false_iff.mpr (silent event (by simp [member]))
  exact idle 0 (.inl ((quiet_run quiet ranAfter).2.2 0 (by simp [getBulletinData])))

/-- The slots are valid once a refresh has started. -/
theorem BulletinSlots.of_refreshed {start middle : Feeds} {before : List FeedEvent}
    (fixed : ∀ server, .serverChanges server ∉ before)
    (refreshed : .getBulletinData true ∈ before) (ran : feedRun start before = some middle) :
    BulletinSlots middle := by
  obtain ⟨first, rest, rfl⟩ := List.mem_iff_append.mp refreshed
  obtain ⟨opened, _, ranRest⟩ := run_append_iff.mp ran
  obtain ⟨started, taken, ranSlots⟩ := run_cons_iff.mp ranRest
  obtain rfl := Option.some.inj taken
  have fixedRest : ∀ server, .serverChanges server ∉ rest := by
    intro server member
    exact fixed server (by simp [member])
  exact (BulletinSlots.refreshed opened).run fixedRest ranSlots

/-- What decides is what the last render sees. -/
theorem page_converged_after_render {start feeds middle seen : Feeds}
    {before after : List FeedEvent} {event : FeedEvent}
    (fixed : ∀ server, .serverChanges server ∉ before ++ event :: after)
    (refreshed : .getBulletinData true ∈ before ++ event :: after)
    (ranBefore : feedRun start before = some middle)
    (sees : rendered middle event = some seen)
    (quiet : ∀ later ∈ after, renders later = false)
    (ran : feedRun start (before ++ event :: after) = some feeds)
    (idle : ∀ index, ¬ bulletinPending feeds.inFlight index) :
    PageConverged feeds ↔ RendersServer start before seen := by
  simp only [List.mem_append, List.mem_cons, not_or, forall_and] at fixed
  obtain ⟨fixedBefore, _, fixedAfter⟩ := fixed
  obtain ⟨middle', ranBefore', ranRest⟩ := run_append_iff.mp ran
  obtain rfl := Option.some.inj (ranBefore.symm.trans ranBefore')
  obtain ⟨next, taken, ranAfter⟩ := run_cons_iff.mp ranRest
  obtain ⟨page, filters, _⟩ := quiet_run quiet ranAfter
  have earlier : .getBulletinData true ∈ before := by
    rcases List.mem_append.mp refreshed with member | member
    · exact member
    · rcases List.mem_cons.mp member with rfl | member
      · cases sees
      · obtain ⟨later, found, visible⟩ := refresh_renders member ranAfter idle
        simp [quiet later found] at visible
  have valid : BulletinSlots middle := BulletinSlots.of_refreshed fixedBefore earlier ranBefore
  rw [← render_converged_iff ranBefore sees (valid.rendered sees) taken, PageConverged,
    PageConverged, page, filters, server_run fixedAfter ranAfter]

/-- Whatever the page showed before, once a refresh and everything else has
arrived it lists the selected articles of the server exactly if the last render
found complete data. -/
theorem page_converged_iff {start feeds : Feeds} {events : List FeedEvent}
    (fixed : ∀ server, .serverChanges server ∉ events)
    (refreshed : .getBulletinData true ∈ events) (ran : feedRun start events = some feeds)
    (idle : ∀ index, ¬ bulletinPending feeds.inFlight index) :
    PageConverged feeds ↔ LastRenderComplete start events := by
  constructor
  · rintro converged before event after middle seen rfl ranBefore sees quiet
    exact (page_converged_after_render fixed refreshed ranBefore sees quiet ran idle).mp converged
  · intro complete
    obtain ⟨before, event, after, rfl, visible, none⟩ :=
      exists_last_split (renders · = true) events (refresh_renders refreshed ran idle)
    have quiet : ∀ later ∈ after, renders later = false := by
      intro later member
      exact Bool.eq_false_iff.mpr (none later member)
    obtain ⟨middle, ranBefore, _⟩ := run_append_iff.mp ran
    obtain ⟨seen, sees⟩ := rendered_of_renders visible middle
    exact (page_converged_after_render fixed refreshed ranBefore sees quiet ran idle).mpr
      (complete before event after middle seen rfl ranBefore sees quiet)

theorem page_converged_refresh : ∃ feeds,
    feedRun (Feeds.launch twoBranches none) bulletinRefresh = some feeds ∧
      (PageConverged feeds ↔
        LastRenderComplete (Feeds.launch twoBranches none) bulletinRefresh) := by
  refine ⟨_, rfl, page_converged_iff ?_ ?_ rfl ?_⟩
  · simp [bulletinRefresh, bulletinArrives]
  · simp [bulletinRefresh, bulletinArrives]
  · rintro index (single | ⟨call, all⟩)
    · cases single
    · cases all

/-- A notification is tapped after the first branch of a refresh has arrived. -/
def refreshDuringLoad : List FeedEvent :=
  .getBulletinData true :: bulletinArrives.take 1 ++ .loadAllArticles true ::
    bulletinArrives.drop 1 ++
    (List.finRange 3).map (fun index => .complete (.allHomepage 0 index) 0) ++
    (List.finRange 5).map fun index => .complete (.allBulletin 0 index) 0

theorem refresh_during_load_diverges : ∃ feeds,
    feedRun (Feeds.launch twoBranches none) refreshDuringLoad = some feeds ∧
      feeds.inFlight = [] ∧ ¬ PageConverged feeds := by
  refine ⟨_, rfl, rfl, ?_⟩
  unfold PageConverged
  decide

end AhsApp.Ios
