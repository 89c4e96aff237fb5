import AhsApp.Android.NotifOrder
import AhsApp.Android.NotifService

/-! What the rows of the notification list open. Each row was given its article at the delivery,
from the caches as they were then; the messaging service looks the same article up when a message
comes. -/

namespace AhsApp.Android

open AhsApp.Firebase AhsApp.Library

/-- The page of what a holder holds. -/
def ArticleOrBulletinHolder.activity : ArticleOrBulletinHolder → StartedActivity
  | .article news => .articleActivity news
  | .bulletinArticle bulletin => .bulletinArticleActivity bulletin

/-- The page that a tap on the row starts for its result. -/
def NotifData.startedOnClick (data : NotifData) : Option StartedActivity :=
  data.holder.map ArticleOrBulletinHolder.activity

/-- The rows have IDs of their own and open what the caches had for them. -/
structure HoldsCached (json : JsonCodec) (caches : Caches) (items : List NotifData) : Prop where
  distinct : (items.map NotifData.id).Nodup
  held : ∀ data ∈ items, lookUpHolder json caches data.articleID = some data.holder

private theorem buildData_held {json : JsonCodec} {caches : Caches} {notifDatabase : Table NotifRow}
    {childSn : DataSnapshot} {data : NotifData}
    (built : buildData json caches notifDatabase childSn = some data) :
    lookUpHolder json caches data.articleID = some data.holder := by
  simp only [buildData, Option.bind_eq_bind, Option.bind_eq_some_iff] at built
  obtain ⟨entry, _, notified, _, holder, looked, made⟩ := built
  obtain rfl := Option.some.inj made
  exact looked

namespace HoldsCached

variable {sorted : SortedList NotifData} {json : JsonCodec} {caches : Caches}
variable {items next : List NotifData} {index : Nat} {data : NotifData}

private theorem of_perm (holds : HoldsCached json caches items) (perm : next.Perm items) :
    HoldsCached json caches next :=
  ⟨(perm.map NotifData.id).nodup_iff.mpr holds.distinct,
    fun item member => holds.held item (perm.mem_iff.mp member)⟩

/-- A mark leaves what the rows open. -/
theorem mark (holds : HoldsCached json caches items) (here : items[index]? = some data) :
    HoldsCached json caches (items.set index { data with notified := true }) := by
  have ids : (items.set index { data with notified := true }).map NotifData.id =
      items.map NotifData.id := map_set_of_sameKey here rfl
  refine ⟨ids ▸ holds.distinct, fun item member => ?_⟩
  rcases List.mem_or_eq_of_mem_set member with old | rfl
  · exact holds.held item old
  · exact holds.held data (List.mem_of_getElem? here)

theorem updateReadItemPosition {screen after : NotifScreen}
    (holds : HoldsCached json caches screen.sortedList) (lawful : sorted.Lawful)
    (updated : screen.updateReadItemPosition sorted index = some after) :
    HoldsCached json caches after.sortedList := by
  rw [NotifScreen.updateReadItemPosition] at updated
  cases here : screen.sortedList[index]? with
  | none =>
    rw [here] at updated
    exact Option.some.inj updated ▸ holds
  | some data =>
    rw [here] at updated
    obtain ⟨moved, recalculated, result⟩ := Option.bind_eq_some_iff.mp updated
    obtain rfl := Option.some.inj result
    have marked := holds.mark here
    exact marked.of_perm (lawful.recalculate_perm marked.distinct recalculated)

end HoldsCached

section activity

variable {sorted : SortedList NotifData} (lawful : sorted.Lawful) {json : JsonCodec}
variable {caches : Caches} {activity next : NotifActivity}

include lawful

theorem HoldsCached.of_delivery {snapshot : DataSnapshot} {fails : Nat → Bool}
    (distinct : (snapshot.children.map DataSnapshot.key).Nodup)
    (taken : NotifScreen.onDataChange sorted json caches fails snapshot activity = some next) :
    HoldsCached json caches next.2.sortedList := by
  obtain ⟨⟨new, items⟩, looped, result⟩ := Option.bind_eq_some_iff.mp taken
  obtain rfl := Option.some.inj result
  obtain ⟨_, mapped, rfl, added⟩ := NotifScreen.addChildren_eq_some.mp looped
  have ids : new.map NotifData.id = snapshot.children.map DataSnapshot.key :=
    map_of_mapM (fun built => (buildData_spec built).1) mapped
  have read : HoldsCached json caches new := by
    refine ⟨ids ▸ distinct, fun data member => ?_⟩
    obtain ⟨child, _, built⟩ := (mem_of_mapM mapped).mp member
    exact buildData_held built
  exact read.of_perm (lawful.addAll_perm (by simpa using read.distinct) added)

/-- Taps and returning pages leave what the rows open. -/
theorem HoldsCached.step (holds : HoldsCached json caches activity.2.sortedList)
    {event : NotifActivityEvent} (quiet : event.isDelivery = false)
    (taken : notifActivityStep sorted json activity event = some next) :
    HoldsCached json caches next.2.sortedList := by
  cases event with
  | onDataChange snapshot caches fails => cases quiet
  | onClick position =>
    obtain ⟨data, here, taken⟩ := Option.bind_eq_some_iff.mp taken
    obtain ⟨notifDatabase, _, taken⟩ := Option.bind_eq_some_iff.mp taken
    simp only at taken
    split at taken
    · exact Option.some.inj taken ▸ holds.mark here
    · obtain ⟨screen, marked, result⟩ := Option.bind_eq_some_iff.mp taken
      obtain rfl := Option.some.inj result
      exact (holds.mark here).updateReadItemPosition lawful marked
  | onActivityResult resultOk =>
    obtain ⟨screen, returned, rfl⟩ := Option.map_eq_some_iff.mp taken
    rw [NotifScreen.onActivityResult] at returned
    split at returned
    · cases returned
    · cases resultOk with
      | false => exact Option.some.inj returned ▸ holds
      | true =>
        exact @updateReadItemPosition _ _ _ _ { activity.2 with opened := activity.2.opened - 1 }
          _ holds lawful returned

theorem HoldsCached.of_run {snapshot : DataSnapshot} {fails : Nat → Bool}
    {before after : List NotifActivityEvent}
    (distinct : (snapshot.children.map DataSnapshot.key).Nodup)
    (quiet : ∀ event ∈ after, event.isDelivery = false)
    (ran : notifActivityRun sorted json activity
      (before ++ .onDataChange snapshot caches fails :: after) = some next) :
    HoldsCached json caches next.2.sortedList := by
  obtain ⟨_, _, ranOn⟩ := run_append_iff.mp ran
  obtain ⟨_, taken, ranAfter⟩ := run_cons_iff.mp ranOn
  exact run_invariant (fun activity => HoldsCached json caches activity.2.sortedList)
    (fun _ event => event.isDelivery = false)
    (fun holds quiet taken => holds.step lawful quiet taken)
    (.of_delivery lawful distinct taken) (.of_forall (fun _ => quiet) _) ranAfter

end activity

theorem Article.values_code (json : JsonText) (article : Article) :
    (article.values json).type.bmod (2 ^ 32) = (article.values json).type := by
  have code : article.type.numCode.bmod (2 ^ 32) = article.type.numCode := by
    cases article.type <;> decide
  exact code

theorem BulletinArticle.values_codes (article : BulletinArticle) :
    BulletinDatabase.IntCodes article.values := by
  have type : article.type.numCode.bmod (2 ^ 32) = article.type.numCode := by
    cases article.type <;> decide
  have read : (if article.alreadyRead then 1 else 0 : Int).bmod (2 ^ 32) =
      if article.alreadyRead then 1 else 0 := by
    cases article.alreadyRead <;> decide
  exact ⟨type, read⟩

namespace Tracks

variable {json : JsonCodec} {device : Device} {banners : Banners} {articleID : String}

theorem getArticleById (tracks : Tracks json device banners) (roundTrips : json.RoundTrips)
    (free : PlainText articleID) :
    ArticleDatabase.getArticleById json articleID device.articles =
      some (banners.articles.find? (·.id == articleID)) := by
  rw [tracks.articles, ← ArticleDatabase.queryArticleById_eq json articleID]
  · exact ArticleDatabase.queryArticleById_stored roundTrips _ free
  · intro row member
    obtain ⟨article, _, rfl⟩ := List.mem_map.mp member
    exact article.values_code _

theorem getArticleByID (tracks : Tracks json device banners) (free : PlainText articleID) :
    BulletinDatabase.getArticleByID articleID device.bulletins =
      some (banners.bulletins.find? (·.id == articleID)) := by
  rw [tracks.bulletins, ← BulletinDatabase.queryArticleByID_eq articleID]
  · exact BulletinDatabase.queryArticleByID_stored _ free
  · intro row member
    obtain ⟨bulletinArticle, _, rfl⟩ := List.mem_map.mp member
    exact bulletinArticle.values_codes

private theorem pageFor_of_lookUpHolder (tracks : Tracks json device banners)
    (roundTrips : json.RoundTrips) (free : PlainText articleID)
    {holder : Option ArticleOrBulletinHolder}
    (looked : lookUpHolder json ⟨device.articles, device.bulletins⟩ (some articleID) =
      some holder) :
    banners.pageFor articleID =
      (holder.map ArticleOrBulletinHolder.activity).getD .notifActivity := by
  rw [lookUpHolder, Option.getD_some, tracks.getArticleById roundTrips free,
    tracks.getArticleByID free] at looked
  rw [Banners.pageFor]
  cases news : banners.articles.find? (·.id == articleID) with
  | some article =>
    rw [news] at looked
    obtain rfl := Option.some.inj looked
    rfl
  | none =>
    rw [news] at looked
    obtain rfl := Option.some.inj looked
    cases banners.bulletins.find? (·.id == articleID) <;> rfl

end Tracks

/-- With the caches that a delivery found, a message about the article of a row gets an intent for
the page that a tap on the row starts, and for the notification list where the row starts none:
the rows keep what they open until the next delivery. -/
theorem rows_start_as_notified {sorted : SortedList NotifData} (lawful : sorted.Lawful)
    {json : JsonCodec} (roundTrips : json.RoundTrips) {events : List DeviceEvent} {device : Device}
    (free : ∀ event ∈ events, event.PlainIDs)
    (stored : deviceRun json .install events = some device) {notifDatabase : Table NotifRow}
    {before after : List NotifActivityEvent} {snapshot : DataSnapshot} {fails : Nat → Bool}
    (distinct : (snapshot.children.map DataSnapshot.key).Nodup)
    (quiet : ∀ event ∈ after, event.isDelivery = false) {last : NotifActivity}
    (ran : notifActivityRun sorted json (notifDatabase, .created)
      (before ++ .onDataChange snapshot ⟨device.articles, device.bulletins⟩ fails :: after) =
        some last) {data : NotifData} (shown : data ∈ last.2.sortedList)
    {remoteMessage : RemoteMessage} {articleID : String}
    (about : remoteMessage.data.lookup notifArticleIDKey = some articleID)
    (freeID : PlainText articleID) (same : data.articleID = some articleID) :
    device.intentFor json remoteMessage.data =
      some (data.startedOnClick.getD .notifActivity) := by
  have tracks := (device_follows roundTrips free stored).1
  have holds : HoldsCached json ⟨device.articles, device.bulletins⟩ last.2.sortedList :=
    .of_run lawful distinct quiet ran
  have looked := holds.held data shown
  rw [same] at looked
  have named : ∀ other, remoteMessage.data.lookup notifArticleIDKey = some other →
      PlainText other := by
    intro other found
    obtain rfl := Option.some.inj (about.symm.trans found)
    exact freeID
  rw [tracks.intentFor roundTrips named, Banners.pageOf, about]
  exact congrArg some (tracks.pageFor_of_lookUpHolder roundTrips freeID looked)

def oneBulletin : BulletinArticle := ⟨"b", 1, "Title", "Body", .clubs, false⟩

def bulletinMessage : RemoteMessage := ⟨[("articleID", "b")], some (some "Title", none)⟩

/-- A notification about the bulletin article. -/
def bulletinNotice : DataSnapshot := .node "notifications" [notificationAbout "n" 1]

def bulletinRow : NotifData :=
  ⟨"n", 1, some "n", none, -1, some "b", some (.bulletinArticle oneBulletin), true⟩

/-- The row of a cached bulletin article is tapped, and its page returns. -/
theorem tapped_row_starts_as_notified : ∃ device last data,
    deviceRun oneArrayCodec .install [.updateBulletins (fun _ => false) [oneBulletin]] =
      some device ∧
    notifActivityRun .linear oneArrayCodec (Table.idle [], .created)
      [.onDataChange bulletinNotice ⟨device.articles, device.bulletins⟩ fun _ => false, .onClick 0,
        .onActivityResult true] = some last ∧
    data ∈ last.2.sortedList ∧ data.startedOnClick = some (.bulletinArticleActivity oneBulletin) ∧
    device.intentFor oneArrayCodec bulletinMessage.data =
      some (.bulletinArticleActivity oneBulletin) := by
  have stored : deviceRun oneArrayCodec .install
      [.updateBulletins (fun _ => false) [oneBulletin]] = some _ := rfl
  have ran : ∃ last, notifActivityRun .linear oneArrayCodec (Table.idle [], .created)
      [.onDataChange bulletinNotice ⟨.idle [], .idle [oneBulletin.values]⟩ fun _ => false,
        .onClick 0, .onActivityResult true] = some last ∧
      bulletinRow ∈ last.2.sortedList :=
    ⟨_, (Option.some_get (by decide +kernel)).symm, by decide +kernel⟩
  obtain ⟨last, ran, listed⟩ := ran
  refine ⟨_, last, bulletinRow, stored, ran, listed, rfl, ?_⟩
  exact @rows_start_as_notified .linear SortedList.linear_lawful oneArrayCodec
    oneArrayCodec_roundTrips [.updateBulletins (fun _ => false) [oneBulletin]] _
    (by simp [DeviceEvent.PlainIDs]) stored (Table.idle []) [] [.onClick 0, .onActivityResult true]
    bulletinNotice (fun _ => false) (by decide) (by simp [NotifActivityEvent.isDelivery]) last ran
    bulletinRow listed bulletinMessage "b" rfl (by decide) rfl

end AhsApp.Android
