import AhsApp.Android.NotifService

/-! Opening the application from a notification, from the caches on. The news page starts
the cached article at once and listens for it only when neither cache has it; its
deliveries refill the caches either way. -/

namespace AhsApp.Android

open AhsApp.Library

/-- The news page: the caches, what it started by itself, and the two listeners that look
for the article, if they do. -/
structure NewsActivity where
  articles : Table ArticleRow
  bulletins : Table BulletinRow
  fromCache : List StartedActivity
  listeners : Option NewsLaunch

namespace NewsActivity

/-- A lookup that throws leaves no page. -/
def onCreate (json : JsonCodec) (notifArticleID : Option String) (articles : Table ArticleRow)
    (bulletins : Table BulletinRow) : Option NewsActivity := do
  match notifArticleID with
  | none => some ⟨articles, bulletins, [], none⟩
  | some articleID =>
    match ← ArticleDatabase.queryArticleById json articleID articles with
    | some article => some ⟨articles, bulletins, [.articleActivity article], none⟩
    | none =>
      match ← BulletinDatabase.queryArticleByID articleID bulletins with
      | some bulletinArticle =>
        some ⟨articles, bulletins, [.bulletinArticleActivity bulletinArticle], none⟩
      | none => some ⟨articles, bulletins, [], some (.onCreate articleID)⟩

/-- A delivered list with the inserts that fail when it is stored. -/
abbrev Stored := (Nat → Bool) × Delivery

/-- A delivery reaches the listeners that look for the article and is then stored. -/
def delivered (json : JsonCodec) (activity : NewsActivity) (stored : Stored) : NewsActivity :=
  let activity := { activity with
    listeners := activity.listeners.map (launchStep · stored.2) }
  match stored.2 with
  | .news articles => { activity with
      articles := ArticleDatabase.updateArticles json.toJsonText stored.1 articles
        activity.articles }
  | .bulletin articles => { activity with
      bulletins := BulletinDatabase.updateArticles stored.1 articles activity.bulletins }

def afterDeliveries (json : JsonCodec) (activity : NewsActivity) (deliveries : List Stored) :
    NewsActivity :=
  deliveries.foldl (delivered json) activity

/-- Every page that was started. -/
def started (activity : NewsActivity) : List StartedActivity :=
  activity.fromCache ++ (activity.listeners.map NewsLaunch.started).getD []

/-- The device of the page. -/
def onDevice (activity : NewsActivity) (device : Device) : Device :=
  { device with articles := activity.articles, bulletins := activity.bulletins }

end NewsActivity

/-- Storing a delivery, as an event of the device. -/
def storingEvent : NewsActivity.Stored → DeviceEvent
  | (fails, .news articles) => .updateArticles fails articles
  | (fails, .bulletin articles) => .updateBulletins fails articles

/-- The caches after the deliveries. -/
def bannersAfter (events : List DeviceEvent) (deliveries : List NewsActivity.Stored) : Banners :=
  bannersOf (events ++ deliveries.map storingEvent)

/-- The pages that opening the application starts: that of the cached article, or what
the listeners start. -/
def pagesStarted (page : StartedActivity) (articleID : String) (deliveries : List Delivery) :
    List StartedActivity :=
  match page with
  | .notifActivity => (launchRun (.onCreate articleID) deliveries).started
  | page => [page]

namespace NewsActivity

variable {json : JsonCodec} {activity : NewsActivity} {device : Device} {banners : Banners}

private theorem tracks_delivered (roundTrips : json.RoundTrips)
    (tracks : Tracks json (activity.onDevice device) banners) (stored : Stored) :
    Tracks json ((activity.delivered json stored).onDevice device)
      (bannersStep banners (storingEvent stored)) := by
  obtain ⟨fails, delivery⟩ := stored
  cases delivery with
  | news articles =>
    have stored : deviceStep json (activity.onDevice device) (.updateArticles fails articles) =
        some ((activity.delivered json (fails, .news articles)).onDevice device) := rfl
    have free : (DeviceEvent.updateArticles fails articles).PlainIDs := trivial
    exact tracks.step roundTrips free stored
  | bulletin articles =>
    have stored : deviceStep json (activity.onDevice device) (.updateBulletins fails articles) =
        some ((activity.delivered json (fails, .bulletin articles)).onDevice device) := rfl
    have free : (DeviceEvent.updateBulletins fails articles).PlainIDs := trivial
    exact tracks.step roundTrips free stored

private theorem tracks_afterDeliveries (roundTrips : json.RoundTrips)
    (tracks : Tracks json (activity.onDevice device) banners) (deliveries : List Stored) :
    Tracks json ((activity.afterDeliveries json deliveries).onDevice device)
      ((deliveries.map storingEvent).foldl bannersStep banners) := by
  induction deliveries generalizing activity banners with
  | nil => exact tracks
  | cons stored rest ih => exact ih (tracks_delivered roundTrips tracks stored)

private theorem delivered_frame (json : JsonCodec) (activity : NewsActivity) (stored : Stored) :
    (activity.delivered json stored).fromCache = activity.fromCache ∧
      (activity.delivered json stored).listeners =
        activity.listeners.map (launchStep · stored.2) := by
  obtain ⟨fails, delivery⟩ := stored
  cases delivery <;> exact ⟨rfl, rfl⟩

private theorem started_afterDeliveries (json : JsonCodec) (activity : NewsActivity)
    (deliveries : List Stored) : (activity.afterDeliveries json deliveries).started =
      activity.fromCache ++ (activity.listeners.map fun launch =>
        (launchRun launch (deliveries.map Prod.snd)).started).getD [] := by
  induction deliveries generalizing activity with
  | nil => rfl
  | cons stored rest ih =>
    obtain ⟨fromCache, listeners⟩ := delivered_frame json activity stored
    have later : activity.afterDeliveries json (stored :: rest) =
        (activity.delivered json stored).afterDeliveries json rest := rfl
    rw [later, ih, fromCache, listeners, Option.map_map]
    rfl

private theorem onCreate_eq (roundTrips : json.RoundTrips) (tracks : Tracks json device banners)
    {articleID : String} (free : PlainText articleID) :
    ∃ activity, onCreate json (some articleID) device.articles device.bulletins = some activity ∧
      activity.onDevice device = device ∧
      ((banners.pageFor articleID = .notifActivity ∧ activity.fromCache = [] ∧
          activity.listeners = some (.onCreate articleID)) ∨
        (banners.pageFor articleID ≠ .notifActivity ∧
          activity.fromCache = [banners.pageFor articleID] ∧ activity.listeners = none)) := by
  have first : ArticleDatabase.queryArticleById json articleID device.articles =
      some (banners.articles.find? (·.id == articleID)) :=
    tracks.articles ▸ ArticleDatabase.queryArticleById_stored roundTrips _ free
  have second : BulletinDatabase.queryArticleByID articleID device.bulletins =
      some (banners.bulletins.find? (·.id == articleID)) :=
    tracks.bulletins ▸ BulletinDatabase.queryArticleByID_stored _ free
  simp only [onCreate, first, second, Option.bind_eq_bind, Option.bind_some, Banners.pageFor]
  cases banners.articles.find? (·.id == articleID) with
  | some article => exact ⟨_, rfl, rfl, .inr ⟨by simp, rfl, rfl⟩⟩
  | none =>
    cases banners.bulletins.find? (·.id == articleID) with
    | some bulletinArticle => exact ⟨_, rfl, rfl, .inr ⟨by simp, rfl, rfl⟩⟩
    | none => exact ⟨_, rfl, rfl, .inl ⟨rfl, rfl, rfl⟩⟩

end NewsActivity

/-- Opening the application from a notification starts the page that the messaging
service would open for the article, once, whatever is delivered; only when that is the
page of notifications are the listeners left to decide. The deliveries are what both find
from then on. -/
theorem launches_as_notified {json : JsonCodec} (roundTrips : json.RoundTrips)
    {events : List DeviceEvent} {device : Device} {articleID : String}
    (free : ∀ event ∈ events, event.PlainIDs) (freeID : PlainText articleID)
    (ran : deviceRun json .install events = some device) :
    ∃ activity page,
      NewsActivity.onCreate json (some articleID) device.articles device.bulletins =
        some activity ∧
      device.pageFor json articleID = some page ∧
      ∀ deliveries : List NewsActivity.Stored,
        (activity.afterDeliveries json deliveries).started =
          pagesStarted page articleID (deliveries.map Prod.snd) ∧
        ((activity.afterDeliveries json deliveries).onDevice device).pageFor json articleID =
          some ((bannersAfter events deliveries).pageFor articleID) := by
  have tracks := (device_follows roundTrips free ran).1
  obtain ⟨activity, created, same, found⟩ := NewsActivity.onCreate_eq roundTrips tracks freeID
  refine ⟨activity, _, created, tracks.pageFor roundTrips freeID, fun deliveries => ⟨?_, ?_⟩⟩
  · rw [NewsActivity.started_afterDeliveries]
    rcases found with ⟨absent, fromCache, listeners⟩ | ⟨cached, fromCache, listeners⟩
    · rw [fromCache, listeners, absent]
      rfl
    · rw [fromCache, listeners]
      cases page : (bannersOf events).pageFor articleID with
      | notifActivity => exact absurd page cached
      | articleActivity article => rfl
      | bulletinArticleActivity article => rfl
  · have after := NewsActivity.tracks_afterDeliveries roundTrips (same.symm ▸ tracks) deliveries
    rw [after.pageFor roundTrips freeID, bannersAfter, bannersOf, bannersOf, List.foldl_append]

/-- The article is cached, and the list that is delivered has it no more. -/
theorem cached_launch_starts_one : ∃ device activity,
    deviceRun oneArrayCodec .install [.updateArticles (fun _ => false) [oneNews]] = some device ∧
      NewsActivity.onCreate oneArrayCodec (some "a") device.articles device.bulletins =
        some activity ∧
      (activity.afterDeliveries oneArrayCodec [(fun _ => false, .news [])]).started =
        [.articleActivity oneNews] := by
  obtain ⟨device, ran⟩ : ∃ device, deviceRun oneArrayCodec .install
      [.updateArticles (fun _ => false) [oneNews]] = some device := ⟨_, rfl⟩
  have freeID : PlainText "a" := by decide
  obtain ⟨activity, page, created, found, later⟩ :=
    launches_as_notified oneArrayCodec_roundTrips (by simp [DeviceEvent.PlainIDs]) freeID ran
  have cached : page = .articleActivity oneNews := by
    have tracks := (device_follows oneArrayCodec_roundTrips
      (by simp [DeviceEvent.PlainIDs]) ran).1
    rw [tracks.pageFor oneArrayCodec_roundTrips freeID] at found
    exact Option.some.inj (found.symm.trans rfl)
  refine ⟨device, activity, ran, created, ?_⟩
  rw [(later [(fun _ => false, .news [])]).1, cached]
  rfl

end AhsApp.Android
