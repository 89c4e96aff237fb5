import AhsApp.Android.NotifOrder
import AhsApp.Firebase.Conversions
import AhsApp.Ios.NotificationPage
import AhsApp.Library.KeyedList

/-! The two pages of notifications. The Android page keeps a list in order while it is marked and
delivered anew; the iOS page sorts what its fetch appended each time it is drawn. -/

namespace AhsApp.Agreement

open AhsApp.Firebase AhsApp.Library

/-- A notification in terms that both applications have. -/
structure NotificationItem where
  id : String
  title : Option String
  body : Option String
  time : Int
  articleID : Option String
  deriving DecidableEq

namespace NotificationItem

def ofEntry (entry : Android.NotifEntry) : NotificationItem :=
  ⟨entry.notifID, entry.title, entry.body, entry.time, entry.articleID⟩

def ofNotifData (data : Android.NotifData) : NotificationItem := ofEntry data.entry

def ofNotificationData (data : Ios.NotificationData) : NotificationItem where
  id := data.id
  title := data.notificationTitle
  body := data.notificationBody
  time := data.notificationUnixEpoch.getD 0
  articleID := data.notificationArticleID

end NotificationItem

private theorem readNotificationContent_eq (data : Ios.NotificationData) (content : DataSnapshot) :
    Ios.readNotificationContent data content = { data with
      notificationArticleID :=
        if content.key = "notificationArticleID" then content.asString
        else data.notificationArticleID
      notificationBody :=
        if content.key = "notificationBody" then content.asString else data.notificationBody
      notificationTitle :=
        if content.key = "notificationTitle" then content.asString else data.notificationTitle
      notificationUnixEpoch :=
        if content.key = "notificationUnixEpoch" then content.asInt64
        else data.notificationUnixEpoch
      notificationCatagory :=
        if content.key = "notificationCategory" then content.asInt64
        else data.notificationCatagory } := by
  unfold Ios.readNotificationContent
  split_ifs <;> simp_all

/-- The notification is what its children read as. -/
theorem decodeNotification_reads {article : DataSnapshot} (valid : article.DistinctKeys) :
    ∃ notificationCatagory, Ios.decodeNotification article = {
      messageID := some article.key
      notificationTitle := (article.child "notificationTitle").asString
      notificationBody := (article.child "notificationBody").asString
      notificationUnixEpoch := (article.child "notificationUnixEpoch").asInt64
      notificationArticleID := (article.child "notificationArticleID").asString
      notificationCatagory } := by
  let last := Ios.decodeNotification article
  have messageID : last.messageID = some article.key :=
    List.foldlRecOn (motive := fun data => data.messageID = some article.key) article.children
      Ios.readNotificationContent rfl fun data same content _ => by
        rw [readNotificationContent_eq]
        exact same
  have articleID : last.notificationArticleID = (article.child "notificationArticleID").asString :=
    DataSnapshot.scanned_children (fun data content => by rw [readNotificationContent_eq]) valid rfl
  have body : last.notificationBody = (article.child "notificationBody").asString :=
    DataSnapshot.scanned_children (fun data content => by rw [readNotificationContent_eq]) valid rfl
  have title : last.notificationTitle = (article.child "notificationTitle").asString :=
    DataSnapshot.scanned_children (fun data content => by rw [readNotificationContent_eq]) valid rfl
  have time : last.notificationUnixEpoch = (article.child "notificationUnixEpoch").asInt64 :=
    DataSnapshot.scanned_children (fun data content => by rw [readNotificationContent_eq]) valid rfl
  refine ⟨last.notificationCatagory, ?_⟩
  rw [← messageID, ← articleID, ← body, ← title, ← time]

/-- What Android reads iOS decodes as well. -/
theorem readNotification_item {article : DataSnapshot} (valid : article.DistinctKeys)
    {entry : Android.NotifEntry} (read : Android.readNotification article = some entry) :
    NotificationItem.ofEntry entry =
        NotificationItem.ofNotificationData (Ios.decodeNotification article) ∧
      (Ios.decodeNotification article).notificationUnixEpoch = some entry.time := by
  obtain ⟨notificationCatagory, decoded⟩ := decodeNotification_reads valid
  simp only [Android.readNotification, Option.bind_eq_bind, Option.bind_eq_some_iff,
    Option.some.injEq] at read
  obtain ⟨articleID, linked, body, bodied, title, titled, time, cast, category, _, rfl⟩ := read
  rw [decoded, (DataSnapshot.reads_of_castLong cast).1, DataSnapshot.asString_of_getString linked,
    DataSnapshot.asString_of_getString bodied, DataSnapshot.asString_of_getString titled]
  exact ⟨rfl, rfl⟩

section feed

variable {server : DataSnapshot} {entries : List Android.NotifEntry}

private theorem serverNotifications_items (valid : (server.child "notifications").DistinctKeys)
    (read : (server.child "notifications").children.mapM Android.readNotification = some entries) :
    entries.map NotificationItem.ofEntry =
      (Ios.serverNotifications server).map NotificationItem.ofNotificationData := by
  rw [Ios.serverNotifications, Ios.decodeNotifications, List.map_map]
  exact map_of_mapM_mem (fun article member reads =>
    (readNotification_item (valid.of_mem member) reads).1) read

private theorem notificationUnixEpoch_eq (valid : (server.child "notifications").DistinctKeys)
    (read : (server.child "notifications").children.mapM Android.readNotification = some entries)
    {data : Ios.NotificationData} (member : data ∈ Ios.serverNotifications server) :
    ∃ entry ∈ entries, data.notificationUnixEpoch = some entry.time := by
  obtain ⟨article, child, rfl⟩ := List.mem_map.mp member
  obtain ⟨entry, listed, reads⟩ := returned_of_mapM read child
  exact ⟨entry, listed, (readNotification_item (valid.of_mem child) reads).2⟩

private theorem entries_ids (valid : (server.child "notifications").DistinctKeys)
    (read : (server.child "notifications").children.mapM Android.readNotification = some entries) :
    (entries.map Android.NotifEntry.notifID).Nodup := by
  have keys : entries.map Android.NotifEntry.notifID =
      (server.child "notifications").children.map DataSnapshot.key := by
    refine map_of_mapM (fun {article entry} reads => ?_) read
    simp only [Android.readNotification, Option.bind_eq_bind, Option.bind_eq_some_iff,
      Option.some.injEq] at reads
    obtain ⟨_, _, _, _, _, _, _, _, _, _, rfl⟩ := reads
    rfl
  exact keys ▸ valid.children_nodup

end feed

/-- Each notification has a time of its own, and 64 bits hold the differences. -/
structure SpreadEntries (entries : List Android.NotifEntry) : Prop where
  times : (entries.map Android.NotifEntry.time).Nodup
  close : entries.Pairwise fun first second => (first.time - second.time).natAbs < 2 ^ 63

theorem SpreadEntries.comparable {entries : List Android.NotifEntry}
    (spread : SpreadEntries entries)
    (ids : (entries.map Android.NotifEntry.notifID).Nodup) : Android.ComparableEntries entries := by
  refine ⟨ids, (spread.close.and (List.pairwise_map.mp spread.times)).imp ?_⟩
  exact fun both => ⟨both.1, fun same => absurd same both.2⟩

def NewestNotificationsFirst (items : List NotificationItem) : Prop :=
  items.Pairwise fun first second => second.time ≤ first.time

private theorem newestNotificationsFirst_of_rank {items : List Android.NotifData}
    (ordered : (items.map Android.NotifData.rank).Pairwise (· ≤ ·)) :
    NewestNotificationsFirst (items.map NotificationItem.ofNotifData) := by
  refine List.pairwise_map.mpr ((List.pairwise_map.mp ordered).imp fun {first second} upTo => ?_)
  rcases (Prod.Lex.toLex_le_toLex).mp upTo with earlier | ⟨same, _⟩
  · exact le_of_lt earlier
  · exact le_of_eq same.symm

private theorem newestNotificationsFirst_of_sorted {now : Int} {rows : List Ios.NotificationData}
    (passed : ∀ data ∈ rows, ∃ time ≤ now, data.notificationUnixEpoch = some time)
    (ordered : rows.Pairwise fun first second => Ios.notificationSort now second first = false) :
    NewestNotificationsFirst (rows.map NotificationItem.ofNotificationData) := by
  refine List.pairwise_map.mpr (ordered.imp_of_mem fun {first second} here there upTo => ?_)
  obtain ⟨time, _, stored⟩ := passed first here
  obtain ⟨time', passed', stored'⟩ := passed second there
  rw [Ios.notificationSort, stored, stored'] at upTo
  simpa [NotificationItem.ofNotificationData, stored, stored'] using
    (Ios.timeOrder_of_passed passed').mp upTo

/-- Everything passes when the first switch is on. -/
theorem selectedOutput_everything {selected : Fin 5 → Bool} (everything : selected 0 = true)
    (list : List Ios.NotificationData) : Ios.selectedOutput selected list = some list := by
  induction list with
  | nil => rfl
  | cons data rest ih => simp [Ios.selectedOutput, Ios.passesSelection, everything, ih]

/-- However the Android list was delivered, tapped and returned to, and whatever else happened
while the iOS page was open: when both were last filled from the same notifications, they list
the same ones in the same order. Each has a time of its own that has passed, and everything is
selected. -/
theorem notification_pages_agree {sorted : SortedList Android.NotifData} (lawful : sorted.Lawful)
    (searches : sorted.Searches) {server : DataSnapshot}
    (valid : (server.child "notifications").DistinctKeys) {entries : List Android.NotifEntry}
    (read : (server.child "notifications").children.mapM Android.readNotification = some entries)
    (spread : SpreadEntries entries) {json : Android.JsonCodec}
    {notifDatabase : Table Android.NotifRow} {before after : List Android.NotifActivityEvent}
    {caches : Android.Caches} {fails : Nat → Bool} {activity : Android.NotifActivity}
    (quiet : ∀ event ∈ after, event.isDelivery = false)
    (ranActivity : Android.notifActivityRun sorted json (notifDatabase, .created)
      (before ++ .onDataChange (server.child "notifications") caches fails :: after) =
        some activity)
    {opened last : Ios.Notifications} (idle : opened.inFlight = [])
    (everything : opened.storedSelection.getD Ios.defaultSelection 0 = true)
    {events : List Ios.NotificationEvent} (keeps : ∀ event ∈ events, event.keepsPage = true)
    {now : Int} (drawn : (events.foldl Ios.pageShownStep ⟨opened.server, none⟩).drawn =
      some (now, server))
    (passed : ∀ entry ∈ entries, entry.time ≤ now)
    (ranPage : Ios.notificationRun (Ios.viewDidLoad true opened) events = some last) :
    activity.2.sortedList.map NotificationItem.ofNotifData =
      last.rows.map NotificationItem.ofNotificationData := by
  have items := serverNotifications_items valid read
  have lists : Android.ListsNewest entries activity.2.sortedList :=
    .of_run lawful searches (spread.comparable (entries_ids valid read)) read quiet ranActivity
  have shows' := (Ios.Notifications.Follows.run idle keeps ranPage).rows
  rw [drawn] at shows'
  obtain ⟨output, selected, perm, ordered⟩ := shows'
  obtain rfl := Option.some.inj ((selectedOutput_everything everything _).symm.trans selected)
  have listed := lists.perm.map NotificationItem.ofEntry
  rw [List.map_map] at listed
  have times : ((entries.map NotificationItem.ofEntry).map NotificationItem.time).Nodup := by
    rw [List.map_map]
    exact spread.times
  refine eq_of_perm_of_pairwise times (fun before after => le_antisymm after before) listed.subset
    (listed.trans (items ▸ (perm.map _).symm)) (newestNotificationsFirst_of_rank lists.ordered)
    (newestNotificationsFirst_of_sorted (fun data member => ?_) ordered)
  obtain ⟨entry, here, stored⟩ := notificationUnixEpoch_eq valid read (perm.subset member)
  exact ⟨entry.time, passed entry here, stored⟩

/-- Three notifications, of which the second is the newest. -/
def threeNotifications : DataSnapshot :=
  .node "" [.node "notifications" [Android.notificationAbout "n" 1,
    Android.notificationAbout "m" 3, Android.notificationAbout "o" 2]]

def threeEntries : List Android.NotifEntry :=
  [⟨"n", some "b", none, some "n", 1, -1⟩, ⟨"m", some "b", none, some "m", 3, -1⟩,
    ⟨"o", some "b", none, some "o", 2, -1⟩]

/-- The page arrives, its newest notification is tapped, and a push is tapped. -/
def newestTapped : List Ios.NotificationEvent :=
  [.complete (.data 1) 5, .openArticle (Ios.decodeNotification (Android.notificationAbout "m" 3)) 6,
    .didReceive "b"]

private theorem notificationAbout_distinct (id : String) (time : Rat) :
    (Android.notificationAbout id time).DistinctKeys :=
  .node (by simp [DataSnapshot.key]) (by
    simp only [List.forall_mem_cons]
    exact ⟨.leaf .., .leaf .., .leaf .., by simp⟩)

theorem three_notifications_agree : ∃ activity last,
    Android.notifActivityRun .binary Android.unusedCodec (Table.idle [], .created)
      [.onDataChange (threeNotifications.child "notifications") ⟨Table.idle [], Table.idle []⟩
        fun _ => false, .onClick 1] = some activity ∧
    Ios.notificationRun (Ios.viewDidLoad true (.launch threeNotifications none none fun _ => false))
      newestTapped = some last ∧
    activity.2.sortedList.map NotificationItem.ofNotifData =
      last.rows.map NotificationItem.ofNotificationData := by
  obtain ⟨activity, ranActivity⟩ : ∃ activity, Android.notifActivityRun .binary
      Android.unusedCodec (Table.idle [], .created)
      ([] ++ .onDataChange (threeNotifications.child "notifications")
        ⟨Table.idle [], Table.idle []⟩ (fun _ => false) :: [.onClick 1]) = some activity :=
    Option.isSome_iff_exists.mp (by decide +kernel)
  obtain ⟨last, ranPage⟩ : ∃ last, Ios.notificationRun
      (Ios.viewDidLoad true (.launch threeNotifications none none fun _ => false)) newestTapped =
        some last := Option.isSome_iff_exists.mp (by decide +kernel)
  have valid : (threeNotifications.child "notifications").DistinctKeys := by
    refine .node (by decide) ?_
    simp only [List.forall_mem_cons]
    simp [notificationAbout_distinct]
  have spread : SpreadEntries threeEntries := ⟨by decide, by decide⟩
  have keeps : ∀ event ∈ newestTapped, event.keepsPage = true := by
    simp [newestTapped, Ios.NotificationEvent.keepsPage, Ios.empties]
  exact ⟨activity, last, ranActivity, ranPage,
    @notification_pages_agree .binary SortedList.binary_lawful SortedList.binary_searches
      threeNotifications valid threeEntries rfl spread _ _ [] _ _ _ _
      (by simp [Android.NotifActivityEvent.isDelivery]) ranActivity _ _ rfl rfl _ keeps 6 rfl
      (by decide) ranPage⟩

end AhsApp.Agreement
