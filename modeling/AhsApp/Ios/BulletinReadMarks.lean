import AhsApp.Ios.Feeds

/-! Read marks of the bulletin. Opening an article prunes the saved marks to the
articles the page was last built from, and every render loads them back. -/

namespace AhsApp.Ios

open AhsApp.Firebase AhsApp.Library

def OnServer (server : DataSnapshot) (id : String) : Prop :=
  ∃ article ∈ allBulletins (serverBulletin server), article.id = id

def listedIDs (feeds : Feeds) : List String := feeds.totalArticles.map BulletinArticleData.id

/-- The opening of an article without a mark, whichever it is, finds the ID in
`totalArticles`. -/
def OpensWhileListed (id : String) (feeds : Feeds) : FeedEvent → Prop
  | .openArticle article =>
    feeds.bulletinReadDict.memory article.id = none → id ∈ listedIDs feeds
  | _ => True

/-- What a step can do to the marks and the page. -/
inductive PageStep (event : FeedEvent) (feeds next : Feeds) : Prop
  | kept (quiet : ∀ id, OpensWhileListed id feeds event)
      (marks : next.bulletinReadDict = feeds.bulletinReadDict)
      (total : next.totalArticles = feeds.totalArticles)
      (current : next.currentArticles = feeds.currentArticles)
  | rebuilt (quiet : ∀ id, OpensWhileListed id feeds event)
      (marks : next.bulletinReadDict = feeds.bulletinReadDict.load)
      (current : next.currentArticles.Sublist next.totalArticles)
  | saved (article : BulletinArticleData) (opened : event = .openArticle article)
      (unread : feeds.bulletinReadDict.memory article.id = none)
      (marks : next.bulletinReadDict =
        (feeds.bulletinReadDict.mark article.id).save (listedIDs feeds))
      (total : next.totalArticles = feeds.totalArticles)
      (current : next.currentArticles = feeds.currentArticles)

private theorem generateBulletin_page {event : FeedEvent} {now : Int} {feeds seen next : Feeds}
    (generated : generateBulletin now seen = some next)
    (quiet : ∀ id, OpensWhileListed id feeds event)
    (marks : seen.bulletinReadDict = feeds.bulletinReadDict)
    (total : seen.totalArticles = feeds.totalArticles)
    (current : seen.currentArticles = feeds.currentArticles) : PageStep event feeds next := by
  rcases generateBulletin_cases generated with ⟨_, rfl⟩ | ⟨_, kept, filtered, rfl⟩
  · exact .kept quiet marks total current
  · exact .rebuilt quiet (congrArg MarkStore.load marks) (filterArticles_sublist filtered)

private theorem page_step {feeds next : Feeds} {event : FeedEvent}
    (taken : feedStep feeds event = some next) : PageStep event feeds next := by
  cases event with
  | serverChanges server => exact Option.some.inj taken ▸ .kept (fun _ => trivial) rfl rfl rfl
  | getHomepageData connected =>
    cases connected <;> exact Option.some.inj taken ▸ .kept (fun _ => trivial) rfl rfl rfl
  | getBulletinData connected =>
    cases connected <;> exact Option.some.inj taken ▸ .kept (fun _ => trivial) rfl rfl rfl
  | loadAllArticles connected =>
    cases connected <;> exact Option.some.inj taken ▸ .kept (fun _ => trivial) rfl rfl rfl
  | complete fetch now =>
    obtain ⟨_, called⟩ := complete_cases taken
    cases fetch with
    | homepage index =>
      obtain ⟨temp, _, rfl⟩ := homepage_callback called
      exact .kept (fun _ => trivial) rfl rfl rfl
    | bulletin index => exact generateBulletin_page called (fun _ => trivial) rfl rfl rfl
    | allHomepage call index =>
      obtain ⟨temp, _, rfl⟩ := allHomepage_callback called
      exact .kept (fun _ => trivial) rfl rfl rfl
    | allBulletin call index => exact Option.some.inj called ▸ .kept (fun _ => trivial) rfl rfl rfl
  | addFilter index now => exact generateBulletin_page taken (fun _ => trivial) rfl rfl rfl
  | openArticle article =>
    obtain ⟨_, rfl⟩ := openArticle_cases taken
    unfold openArticle
    split
    · exact .saved article rfl ‹_› rfl rfl rfl
    · exact .kept (fun _ unread => absurd unread ‹_›) rfl rfl rfl

/-- The page shows only articles it was built from, and the marks of those agree
with the saved copy. -/
structure PageValid (feeds : Feeds) : Prop where
  marks : feeds.bulletinReadDict.Valid (listedIDs feeds)
  page : feeds.currentArticles ⊆ feeds.totalArticles

theorem PageValid.launch (server : DataSnapshot) (saved : Option (List String)) :
    PageValid (Feeds.launch server saved) :=
  ⟨MarkStore.Valid.launch saved, List.nil_subset _⟩

theorem PageValid.step {feeds next : Feeds} {event : FeedEvent} (valid : PageValid feeds)
    (taken : feedStep feeds event = some next) : PageValid next := by
  cases page_step taken with
  | kept _ marks total current =>
    refine ⟨?_, by rw [total, current]; exact valid.page⟩
    rw [marks, listedIDs, total]
    exact valid.marks
  | rebuilt _ marks current => exact ⟨marks ▸ valid.marks.load _, current.subset⟩
  | saved article opened unread marks total current =>
    refine ⟨?_, by rw [total, current]; exact valid.page⟩
    rw [marks, listedIDs, total]
    exact valid.marks.mark_save article.id

theorem PageValid.run {feeds last : Feeds} {events : List FeedEvent} (valid : PageValid feeds)
    (ran : feedRun feeds events = some last) : PageValid last :=
  run_invariant PageValid (fun _ _ => True) (fun valid _ taken => valid.step taken) valid
    (Along.of_forall (fun _ _ _ => trivial) feeds) ran

/-- Opening an article leaves it marked, in memory and on disk. -/
theorem openArticle_kept {feeds opened : Feeds} {article : BulletinArticleData}
    (valid : PageValid feeds) (taken : feedStep feeds (.openArticle article) = some opened) :
    opened.bulletinReadDict.Kept article.id := by
  obtain ⟨onPage, rfl⟩ := openArticle_cases taken
  have listed : article.id ∈ listedIDs feeds := List.mem_map_of_mem (valid.page onPage)
  unfold openArticle
  split
  · exact (MarkStore.kept_save_iff (MarkStore.mark_self ..)).mpr listed
  · exact valid.marks.synced _ listed ‹_›

/-- A mark survives exactly the steps that list it when they save. -/
theorem kept_step_iff {feeds next : Feeds} {event : FeedEvent} {id : String}
    (kept : feeds.bulletinReadDict.Kept id) (taken : feedStep feeds event = some next) :
    next.bulletinReadDict.Kept id ↔ OpensWhileListed id feeds event := by
  cases page_step taken with
  | kept quiet marks => exact iff_of_true (marks ▸ kept) (quiet id)
  | rebuilt quiet marks => exact iff_of_true (marks ▸ kept.load) (quiet id)
  | saved article opened unread marks =>
    subst opened
    rw [marks, MarkStore.kept_save_iff (MarkStore.mark_of_marked article.id kept.1)]
    exact ⟨fun listed _ => listed, fun lists => lists unread⟩

/-- Once opened, an article stays read, in memory and on disk, if and only if every
later first opening of an article finds it listed. -/
theorem opened_article_stays_read {server : DataSnapshot} {saved : Option (List String)}
    {before after : List FeedEvent} {article : BulletinArticleData} {middle opened last : Feeds}
    (ranBefore : feedRun (Feeds.launch server saved) before = some middle)
    (taken : feedStep middle (.openArticle article) = some opened)
    (ranAfter : feedRun opened after = some last) :
    Throughout feedStep (fun feeds => feeds.bulletinReadDict.Kept article.id) opened after ↔
      Along feedStep (OpensWhileListed article.id) opened after := by
  have valid : PageValid middle := (PageValid.launch server saved).run ranBefore
  exact throughout_iff_along kept_step_iff (openArticle_kept valid taken) ranAfter

private theorem onServer_throughout {feeds : Feeds} {events : List FeedEvent} {id : String}
    (fixed : ∀ server, .serverChanges server ∉ events) (onServer : OnServer feeds.server id) :
    Throughout feedStep (fun state => OnServer state.server id) feeds events :=
  Throughout.of_view (OnServer · id) Feeds.server feedStep_server
    (fun _ member server same => fixed server (same ▸ member)) onServer

theorem game_stays_read : ∃ middle opened,
    feedRun (Feeds.launch twoBranches none) bulletinRefresh = some middle ∧
      feedStep middle (.openArticle game) = some opened ∧
      Throughout feedStep (fun feeds => feeds.bulletinReadDict.Kept game.id) opened
        [.openArticle essay] := by
  refine ⟨_, _, rfl, rfl, (@opened_article_stays_read twoBranches none bulletinRefresh
    [.openArticle essay] game _ _ _ rfl rfl rfl).mpr ?_⟩
  exact ⟨fun _ => by decide, fun _ _ => trivial⟩

/-- A second refresh has only brought the first branch back when its article is
opened. -/
def openDuringRefresh : List FeedEvent :=
  .getBulletinData true :: bulletinArrives.take 1 ++ .openArticle essay ::
    bulletinArrives.drop 1

theorem open_during_refresh_loses_mark : ∃ middle opened feeds,
    feedRun (Feeds.launch twoBranches none) bulletinRefresh = some middle ∧
      feedStep middle (.openArticle game) = some opened ∧
      feedRun opened openDuringRefresh = some feeds ∧
      Throughout feedStep (fun state => OnServer state.server game.id) opened
        openDuringRefresh ∧
      feeds.inFlight = [] ∧ feeds.bulletinReadDict.memory game.id ≠ some true := by
  refine ⟨_, _, _, rfl, rfl, rfl, ?_, rfl, by decide⟩
  exact onServer_throughout (by simp [openDuringRefresh, bulletinArrives, List.finRange_succ])
    ⟨game, by decide, rfl⟩

end AhsApp.Ios
