import AhsApp.Android.Comparison
import AhsApp.Android.NotificationLaunch
import AhsApp.Android.StoredLists
import AhsApp.Library.Refinement
import AhsApp.Library.Tickets
import Mathlib.Algebra.Ring.Nat
import Mathlib.Data.List.Forall2
import Mathlib.Logic.Function.Basic

/-! The messaging service. A message is shown under an ID from a counter that the
preferences keep, and opens the page that the caches had for its article when it came. -/

namespace AhsApp.Android

open AhsApp.Library

def notifArticleIDKey : String := "articleID"

/-- A message that is handed to the service, with its data. Without a notification payload
its title and text cannot be asked for; a payload may leave either of them out. -/
structure RemoteMessage where
  data : List (String × String)
  notification : Option (Option String × Option String)

/-- Pending intents are told apart by their request code and the activity they start. -/
abbrev PendingKey := Int × PageKind

structure PostedNotification where
  id : Int
  contentTitle : Option String
  contentText : Option String
  contentIntent : PendingKey
  deriving DecidableEq

/-- What the service works with: the caches, the stored `NOTIF_ID_KEY`, the pending
intents of the system and the notifications it was asked for, less those cancelled. -/
structure Device where
  articles : Table ArticleRow
  bulletins : Table BulletinRow
  notifID : Option Int
  pendingIntents : PendingKey → Option StartedActivity
  active : List PostedNotification

namespace Device

def install : Device := ⟨.idle [], .idle [], none, fun _ => none, []⟩

def getUniqueNotifID (device : Device) : Int × Device :=
  let ID := device.notifID.getD 1
  (ID, { device with notifID := some (int (ID + 1)) })

/-- `PendingIntent.getActivity` without flags: one that exists already is kept as it is. -/
def getActivity (requestCode : Int) (intent : StartedActivity) (device : Device) :
    PendingKey × Device :=
  let key := (requestCode, intent.kind)
  (key, match device.pendingIntents key with
    | some _ => device
    | none => { device with
        pendingIntents := Function.update device.pendingIntents key (some intent) })

/-- A notification that is asked for takes the place of the one with its ID. -/
def notify (notification : PostedNotification) (device : Device) : Device :=
  { device with active := device.active.filter (·.id ≠ notification.id) ++ [notification] }

/-- The page that the intent of a tap on the notification is for. -/
def opens (device : Device) (notification : PostedNotification) : Option StartedActivity :=
  device.pendingIntents notification.contentIntent

/-- The page for an article; a lookup that throws has none. -/
def pageFor (json : JsonCodec) (articleID : String) (device : Device) :
    Option StartedActivity := do
  match ← ArticleDatabase.queryArticleById json articleID device.articles with
  | some article => some (.articleActivity article)
  | none =>
    match ← BulletinDatabase.queryArticleByID articleID device.bulletins with
    | some bulletinArticle => some (.bulletinArticleActivity bulletinArticle)
    | none => some .notifActivity

def intentFor (json : JsonCodec) (data : List (String × String)) (device : Device) :
    Option StartedActivity :=
  if data.length > 0 then
    match data.lookup notifArticleIDKey with
    | some articleID => device.pageFor json articleID
    | none => some .notifActivity
  else some .notifActivity

/-- An exception comes with what was done before it. -/
def onMessageReceived (json : JsonCodec) (remoteMessage : RemoteMessage) (device : Device) :
    Except Device Device :=
  match device.intentFor json remoteMessage.data with
  | none => .error device
  | some intent =>
    let (requestCode, device) := device.getUniqueNotifID
    let (pendingIntent, device) := device.getActivity requestCode intent
    match remoteMessage.notification with
    | none => .error device
    | some (title, body) =>
      let (id, device) := device.getUniqueNotifID
      .ok (device.notify ⟨id, title, body, pendingIntent⟩)

end Device

inductive DeviceEvent where
  | updateArticles (fails : Nat → Bool) (articles : List Article)
  | updateBulletins (fails : Nat → Bool) (articles : List BulletinArticle)
  | updateReadStatus (data : BulletinArticle)
  | messageReceived (remoteMessage : RemoteMessage)
  | cancelled (id : Int)
  | collected (key : PendingKey)

/-- A message that throws leaves what it did before. A notification that is tapped or
dismissed is cancelled, and so is one that the system does not show because there are too
many of the application. A pending intent that none refers to may be dropped. -/
def deviceStep (json : JsonCodec) (device : Device) : DeviceEvent → Option Device
  | .updateArticles fails articles => some { device with
      articles := ArticleDatabase.updateArticles json.toJsonText fails articles device.articles }
  | .updateBulletins fails articles => some { device with
      bulletins := BulletinDatabase.updateArticles fails articles device.bulletins }
  | .updateReadStatus data => do
    let bulletins ← BulletinDatabase.updateReadStatus data device.bulletins
    some { device with bulletins }
  | .messageReceived remoteMessage =>
    match device.onMessageReceived json remoteMessage with
    | .ok next => some next
    | .error next => some next
  | .cancelled id => some { device with active := device.active.filter (·.id ≠ id) }
  | .collected key =>
    if device.active.all fun notification => notification.contentIntent != key then
      some { device with pendingIntents := Function.update device.pendingIntents key none }
    else none

abbrev deviceRun (json : JsonCodec) : Device → List DeviceEvent → Option Device :=
  run (deviceStep json)

/-- What the user is shown, with the page behind it. -/
structure Banner where
  id : Int
  title : Option String
  text : Option String
  page : StartedActivity
  deriving DecidableEq

/-- The lists last stored, how many IDs were handed out, and what is shown. -/
structure Banners where
  articles : List Article
  bulletins : List BulletinArticle
  issued : Nat
  shown : List Banner

/-- The ID that is handed out after `count` others. -/
@[irreducible] def notifTicket (count : Nat) : Int := ticket (2 ^ 32) 1 count

namespace Banners

def install : Banners := ⟨[], [], 0, []⟩

/-- The page of the first article with the ID. -/
def pageFor (banners : Banners) (articleID : String) : StartedActivity :=
  match banners.articles.find? (·.id == articleID) with
  | some article => .articleActivity article
  | none =>
    match banners.bulletins.find? (·.id == articleID) with
    | some bulletinArticle => .bulletinArticleActivity bulletinArticle
    | none => .notifActivity

def pageOf (banners : Banners) (data : List (String × String)) : StartedActivity :=
  match data.lookup notifArticleIDKey with
  | some articleID => banners.pageFor articleID
  | none => .notifActivity

end Banners

/-- How many IDs a message uses up. -/
def RemoteMessage.ids (remoteMessage : RemoteMessage) : Nat :=
  if remoteMessage.notification.isSome then 2 else 1

/-- Every message with a payload is shown until it is cancelled. -/
def bannersStep (banners : Banners) : DeviceEvent → Banners
  | .updateArticles fails articles => { banners with articles := storedList fails articles }
  | .updateBulletins fails articles => { banners with bulletins := storedList fails articles }
  | .updateReadStatus data => { banners with
      bulletins := banners.bulletins.map fun article =>
        if article.id = data.id then { article with alreadyRead := data.alreadyRead }
        else article }
  | .messageReceived remoteMessage => { banners with
      issued := banners.issued + remoteMessage.ids
      shown := banners.shown ++ (remoteMessage.notification.map fun (title, text) =>
        ⟨notifTicket (banners.issued + 1), title, text, banners.pageOf remoteMessage.data⟩).toList }
  | .cancelled id => { banners with shown := banners.shown.filter (·.id ≠ id) }
  | .collected _ => banners

def bannersOf (events : List DeviceEvent) : Banners := events.foldl bannersStep .install

namespace DeviceEvent

/-- The IDs that a statement is built from are plain. -/
def PlainIDs : DeviceEvent → Prop
  | messageReceived remoteMessage => ∀ articleID,
      remoteMessage.data.lookup notifArticleIDKey = some articleID → PlainText articleID
  | updateReadStatus data => PlainText data.id
  | _ => True

def isMessage : DeviceEvent → Bool
  | messageReceived _ => true
  | _ => false

/-- How many IDs an event uses up. -/
def ids : DeviceEvent → Nat
  | messageReceived remoteMessage => remoteMessage.ids
  | _ => 0

end DeviceEvent

/-- The notification as the user has it. -/
def Device.banner (device : Device) (notification : PostedNotification) : Option Banner :=
  (device.opens notification).map fun page =>
    ⟨notification.id, notification.contentTitle, notification.contentText, page⟩

/-- The caches hold the lists, and the counter is at the next ID. -/
structure Tracks (json : JsonCodec) (device : Device) (banners : Banners) : Prop where
  articles : device.articles = .idle (banners.articles.map (·.values json.toJsonText))
  bulletins : device.bulletins = .idle (banners.bulletins.map BulletinArticle.values)
  counter : device.notifID.getD 1 = notifTicket banners.issued

/-- The pending intents once there is one under the key. -/
def filed (pendingIntents : PendingKey → Option StartedActivity) (key : PendingKey)
    (intent : StartedActivity) : PendingKey → Option StartedActivity :=
  match pendingIntents key with
  | some _ => pendingIntents
  | none => Function.update pendingIntents key (some intent)

theorem Device.getActivity_eq (device : Device) (requestCode : Int) (intent : StartedActivity) :
    device.getActivity requestCode intent = ((requestCode, intent.kind),
      { device with
        pendingIntents := filed device.pendingIntents (requestCode, intent.kind) intent }) := by
  rw [getActivity, filed]
  cases device.pendingIntents (requestCode, intent.kind) <;> rfl

private theorem int_notifTicket (count : Nat) :
    int (notifTicket count + 1) = notifTicket (count + 1) := by
  unfold notifTicket
  exact ticket_succ

theorem Device.getUniqueNotifID_eq (device : Device) (count : Nat)
    (counter : device.notifID.getD 1 = notifTicket count) :
    device.getUniqueNotifID =
      (notifTicket count, { device with notifID := some (notifTicket (count + 1)) }) := by
  rw [getUniqueNotifID, counter, int_notifTicket]

namespace Tracks

variable {json : JsonCodec} {device : Device} {banners : Banners}

theorem pageFor (tracks : Tracks json device banners) (roundTrips : json.RoundTrips)
    {articleID : String} (free : PlainText articleID) :
    device.pageFor json articleID = some (banners.pageFor articleID) := by
  rw [Device.pageFor, tracks.articles, tracks.bulletins,
    ArticleDatabase.queryArticleById_stored roundTrips _ free,
    BulletinDatabase.queryArticleByID_stored _ free, Banners.pageFor]
  cases banners.articles.find? (·.id == articleID) with
  | some article => rfl
  | none => cases banners.bulletins.find? (·.id == articleID) <;> rfl

theorem intentFor (tracks : Tracks json device banners) (roundTrips : json.RoundTrips)
    {data : List (String × String)}
    (free : ∀ articleID, data.lookup notifArticleIDKey = some articleID → PlainText articleID) :
    device.intentFor json data = some (banners.pageOf data) := by
  rw [Device.intentFor, Banners.pageOf]
  cases data with
  | nil => rfl
  | cons entry rest =>
    rw [if_pos (by simp)]
    cases found : List.lookup notifArticleIDKey (entry :: rest) with
    | none => rfl
    | some articleID => exact tracks.pageFor roundTrips (free articleID found)

/-- The key under which the next message files its intent. -/
def nextKey (banners : Banners) (data : List (String × String)) : PendingKey :=
  (notifTicket banners.issued, (banners.pageOf data).kind)

/-- What a message does. -/
theorem onMessageReceived (tracks : Tracks json device banners) (roundTrips : json.RoundTrips)
    {remoteMessage : RemoteMessage}
    (free : DeviceEvent.PlainIDs (.messageReceived remoteMessage)) :
    device.onMessageReceived json remoteMessage =
      match remoteMessage.notification with
      | none => .error { device with
          notifID := some (notifTicket (banners.issued + 1))
          pendingIntents := filed device.pendingIntents (nextKey banners remoteMessage.data)
            (banners.pageOf remoteMessage.data) }
      | some (title, body) => .ok { device with
          notifID := some (notifTicket (banners.issued + 2))
          pendingIntents := filed device.pendingIntents (nextKey banners remoteMessage.data)
            (banners.pageOf remoteMessage.data)
          active := device.active.filter (·.id ≠ notifTicket (banners.issued + 1)) ++
            [⟨notifTicket (banners.issued + 1), title, body, nextKey banners remoteMessage.data⟩] } := by
  have second := Device.getUniqueNotifID_eq
    { device with
      notifID := some (notifTicket (banners.issued + 1))
      pendingIntents := filed device.pendingIntents (nextKey banners remoteMessage.data)
        (banners.pageOf remoteMessage.data) }
    (banners.issued + 1) (Option.getD_some ..)
  rw [Device.onMessageReceived, tracks.intentFor roundTrips free]
  dsimp only
  rw [Device.getUniqueNotifID_eq device banners.issued tracks.counter, Device.getActivity_eq]
  dsimp only
  rw [← nextKey, second]
  cases remoteMessage.notification with
  | none => rfl
  | some payload => dsimp only [Device.notify]

theorem install : Tracks json .install .install := ⟨rfl, rfl, by decide +kernel⟩

/-- The caches and the counter follow every event. -/
theorem step (roundTrips : json.RoundTrips) (tracks : Tracks json device banners)
    {event : DeviceEvent} (free : event.PlainIDs) {next : Device}
    (taken : deviceStep json device event = some next) :
    Tracks json next (bannersStep banners event) := by
  cases event with
  | updateArticles fails articles =>
    obtain rfl := Option.some.inj taken
    refine ⟨?_, tracks.bulletins, tracks.counter⟩
    simp only [tracks.articles]
    exact ArticleDatabase.updateArticles_stored _ fails articles _
  | updateBulletins fails articles =>
    obtain rfl := Option.some.inj taken
    refine ⟨tracks.articles, ?_, tracks.counter⟩
    simp only [tracks.bulletins]
    exact BulletinDatabase.updateArticles_stored fails articles _
  | updateReadStatus data =>
    have marked := BulletinDatabase.updateReadStatus_stored banners.bulletins free
    simp only [deviceStep, tracks.bulletins, marked, Option.bind_eq_bind, Option.bind_some,
      Option.some.injEq] at taken
    subst taken
    exact ⟨tracks.articles, rfl, tracks.counter⟩
  | messageReceived remoteMessage =>
    rw [deviceStep, tracks.onMessageReceived roundTrips free] at taken
    cases payload : remoteMessage.notification with
    | none =>
      rw [payload] at taken
      obtain rfl := Option.some.inj taken
      refine ⟨tracks.articles, tracks.bulletins, ?_⟩
      rw [bannersStep, RemoteMessage.ids, payload]
      exact Option.getD_some ..
    | some texts =>
      rw [payload] at taken
      obtain rfl := Option.some.inj taken
      refine ⟨tracks.articles, tracks.bulletins, ?_⟩
      rw [bannersStep, RemoteMessage.ids, payload]
      exact Option.getD_some ..
  | cancelled id =>
    obtain rfl := Option.some.inj taken
    exact ⟨tracks.articles, tracks.bulletins, tracks.counter⟩
  | collected key =>
    rw [deviceStep] at taken
    split at taken
    · obtain rfl := Option.some.inj taken
      exact ⟨tracks.articles, tracks.bulletins, tracks.counter⟩
    · cases taken

end Tracks

/-- The notification shows the banner and opens its page. -/
structure Behind (pendingIntents : PendingKey → Option StartedActivity)
    (notification : PostedNotification) (banner : Banner) : Prop where
  id : notification.id = banner.id
  title : notification.contentTitle = banner.title
  text : notification.contentText = banner.text
  opens : pendingIntents notification.contentIntent = some banner.page

/-- What is posted are the banners, and what is in use was handed out before. -/
structure Shows (device : Device) (banners : Banners) : Prop where
  shown : List.Forall₂ (Behind device.pendingIntents) device.active banners.shown
  codes : ∀ key, device.pendingIntents key ≠ none →
    ∃ count < banners.issued, key.1 = notifTicket count
  ids : ∀ banner ∈ banners.shown, ∃ count < banners.issued, banner.id = notifTicket count
  distinct : (banners.shown.map (·.id)).Nodup

private theorem notifTicket_ne {earlier later : Nat} (before : earlier < later)
    (within : later < 2 ^ 32) :
    notifTicket earlier ≠ notifTicket later := by
  unfold notifTicket
  exact ticket_ne before (by omega)

section filed

variable {pendingIntents : PendingKey → Option StartedActivity} {key : PendingKey}

private theorem filed_of_some {intent page : StartedActivity} {other : PendingKey}
    (present : pendingIntents other = some page) :
    filed pendingIntents key intent other = some page := by
  cases found : pendingIntents key with
  | some kept => simpa [filed, found] using present
  | none =>
    have apart : other ≠ key := by
      rintro rfl
      simp [found] at present
    simpa [filed, found, Function.update_of_ne apart] using present

private theorem filed_self (absent : pendingIntents key = none) (intent : StartedActivity) :
    filed pendingIntents key intent key = some intent := by
  simp [filed, absent]

private theorem key_of_filed {intent : StartedActivity} {other : PendingKey}
    (present : filed pendingIntents key intent other ≠ none) :
    other = key ∨ pendingIntents other ≠ none := by
  by_cases same : other = key
  · exact .inl same
  · refine .inr ?_
    cases found : pendingIntents key <;>
      simpa [filed, found, Function.update_of_ne same] using present

end filed

namespace Shows

variable {json : JsonCodec} {device next : Device} {banners : Banners}

theorem of_same {after : Banners} (shows' : Shows device banners)
    (pendingIntents : next.pendingIntents = device.pendingIntents)
    (active : next.active = device.active) (issued : after.issued = banners.issued)
    (shown : after.shown = banners.shown) : Shows next after := by
  refine ⟨?_, ?_, ?_, ?_⟩
  · rw [pendingIntents, active, shown]
    exact shows'.shown
  · rw [pendingIntents, issued]
    exact shows'.codes
  · rw [shown, issued]
    exact shows'.ids
  · rw [shown]
    exact shows'.distinct

private theorem nextKey_absent (shows' : Shows device banners) (data : List (String × String))
    (room : banners.issued < 2 ^ 32) :
    device.pendingIntents (Tracks.nextKey banners data) = none := by
  by_contra present
  obtain ⟨count, before, same⟩ := shows'.codes _ present
  exact notifTicket_ne before room same.symm

private theorem codes_filed (shows' : Shows device banners) (data : List (String × String))
    {ids : Nat} (used : 0 < ids) (key : PendingKey)
    (present : filed device.pendingIntents (Tracks.nextKey banners data) (banners.pageOf data) key ≠
      none) : ∃ count < banners.issued + ids, key.1 = notifTicket count := by
  rcases key_of_filed present with rfl | older
  · exact ⟨banners.issued, by omega, rfl⟩
  · obtain ⟨count, before, same⟩ := shows'.codes key older
    exact ⟨count, by omega, same⟩

private theorem shown_filed (shows' : Shows device banners) (data : List (String × String)) :
    List.Forall₂ (Behind (filed device.pendingIntents (Tracks.nextKey banners data)
      (banners.pageOf data))) device.active banners.shown :=
  shows'.shown.imp fun _ _ behind => { behind with opens := filed_of_some behind.opens }

private theorem same_ids (shows' : Shows device banners) :
    device.active.map (·.id) = banners.shown.map (·.id) := by
  rw [← List.forall₂_eq_eq_eq, List.forall₂_map_left_iff, List.forall₂_map_right_iff]
  exact shows'.shown.imp fun _ _ behind => behind.id

private theorem next_id_fresh (shows' : Shows device banners) (room : banners.issued + 1 < 2 ^ 32) :
    notifTicket (banners.issued + 1) ∉ banners.shown.map (·.id) := by
  intro used
  obtain ⟨banner, member, same⟩ := List.mem_map.mp used
  obtain ⟨count, before, older⟩ := shows'.ids banner member
  exact notifTicket_ne (by omega) room (older.symm.trans same)

private theorem none_replaced (shows' : Shows device banners) (room : banners.issued + 1 < 2 ^ 32) :
    device.active.filter (·.id ≠ notifTicket (banners.issued + 1)) = device.active := by
  rw [List.filter_eq_self]
  intro notification member
  refine decide_eq_true ?_
  intro same
  refine shows'.next_id_fresh room ?_
  rw [← shows'.same_ids, ← same]
  exact List.mem_map_of_mem member

private theorem old_ids (shows' : Shows device banners) {ids : Nat} :
    ∀ banner ∈ banners.shown, ∃ count < banners.issued + ids, banner.id = notifTicket count := by
  intro banner member
  obtain ⟨count, before, same⟩ := shows'.ids banner member
  exact ⟨count, by omega, same⟩

/-- Each event keeps the notifications what the banners say, while IDs last. -/
theorem step (roundTrips : json.RoundTrips) (tracks : Tracks json device banners)
    (shows' : Shows device banners) {event : DeviceEvent} (free : event.PlainIDs)
    (room : (bannersStep banners event).issued ≤ 2 ^ 32)
    (taken : deviceStep json device event = some next) :
    Shows next (bannersStep banners event) := by
  cases event with
  | updateArticles fails articles =>
    obtain rfl := Option.some.inj taken
    exact shows'.of_same rfl rfl rfl rfl
  | updateBulletins fails articles =>
    obtain rfl := Option.some.inj taken
    exact shows'.of_same rfl rfl rfl rfl
  | updateReadStatus data =>
    obtain ⟨bulletins, _, marked⟩ := Option.bind_eq_some_iff.mp taken
    obtain rfl := Option.some.inj marked
    exact shows'.of_same rfl rfl rfl rfl
  | messageReceived remoteMessage =>
    rw [deviceStep, tracks.onMessageReceived roundTrips free] at taken
    rw [bannersStep, RemoteMessage.ids] at room ⊢
    cases payload : remoteMessage.notification with
    | none =>
      rw [payload] at taken room
      obtain rfl := Option.some.inj taken
      exact ⟨by simpa using shows'.shown_filed remoteMessage.data,
        shows'.codes_filed remoteMessage.data (by simp),
        fun banner member => shows'.old_ids banner (by simpa using member),
        by simpa using shows'.distinct⟩
    | some texts =>
      rw [payload] at taken room
      obtain rfl := Option.some.inj taken
      have room : banners.issued + 2 ≤ 2 ^ 32 := room
      have absent := shows'.nextKey_absent remoteMessage.data (by omega)
      have fresh := shows'.next_id_fresh (by omega)
      refine ⟨?_, shows'.codes_filed remoteMessage.data (by simp), ?_, ?_⟩
      · dsimp only
        rw [shows'.none_replaced (by omega)]
        refine List.rel_append (shows'.shown_filed remoteMessage.data) (.cons ?_ .nil)
        exact ⟨rfl, rfl, rfl, filed_self absent _⟩
      · intro banner member
        rcases List.mem_append.mp member with older | latest
        · exact shows'.old_ids banner older
        · obtain rfl := List.mem_singleton.mp latest
          exact ⟨banners.issued + 1, by simp, rfl⟩
      · rw [List.map_append, List.nodup_append]
        refine ⟨shows'.distinct, List.nodup_singleton _, ?_⟩
        rintro id older _ latest rfl
        obtain rfl := List.mem_singleton.mp latest
        exact fresh older
  | cancelled id =>
    obtain rfl := Option.some.inj taken
    refine ⟨?_, shows'.codes, ?_, ?_⟩
    · refine List.rel_filter ?_ shows'.shown
      intro notification banner behind
      simp [behind.id]
    · intro banner member
      exact shows'.ids banner (List.mem_of_mem_filter member)
    · exact shows'.distinct.sublist (List.filter_sublist.map _)
  | collected key =>
    rw [deviceStep] at taken
    split at taken
    · rename_i unused
      obtain rfl := Option.some.inj taken
      have others : ∀ notification ∈ device.active, notification.contentIntent ≠ key := by
        simpa using unused
      refine ⟨?_, ?_, shows'.ids, shows'.distinct⟩
      · refine ((List.forall₂_and_left _ _).mpr ⟨others, shows'.shown⟩).imp ?_
        rintro notification banner ⟨apart, behind⟩
        exact { behind with opens := (Function.update_of_ne apart ..).trans behind.opens }
      · intro other present
        refine shows'.codes other fun absent => present ?_
        by_cases same : other = key
        · exact same ▸ Function.update_self ..
        · exact (Function.update_of_ne same ..).trans absent
    · cases taken

theorem install : Shows .install .install :=
  ⟨.nil, fun _ present => absurd rfl present, by simp [Banners.install], List.nodup_nil⟩

private theorem banners_eq (shows' : Shows device banners) :
    device.active.map device.banner = banners.shown.map some := by
  rw [← List.forall₂_eq_eq_eq, List.forall₂_map_left_iff, List.forall₂_map_right_iff]
  refine shows'.shown.imp ?_
  intro notification banner behind
  simp [Device.banner, Device.opens, behind.opens, behind.id, behind.title, behind.text]

end Shows

private theorem issued_bannersStep (banners : Banners) (event : DeviceEvent) :
    (bannersStep banners event).issued = banners.issued + event.ids := by
  cases event <;> rfl

private theorem issued_foldl (events : List DeviceEvent) (banners : Banners) :
    (events.foldl bannersStep banners).issued =
      banners.issued + (events.map DeviceEvent.ids).sum := by
  induction events generalizing banners with
  | nil => simp
  | cons event rest ih =>
    rw [List.foldl_cons, ih, issued_bannersStep, List.map_cons, List.sum_cons, Nat.add_assoc]

theorem DeviceEvent.ids_le (event : DeviceEvent) :
    event.ids ≤ if event.isMessage then 2 else 0 := by
  cases event with
  | messageReceived remoteMessage =>
    rw [ids, RemoteMessage.ids, isMessage]
    split <;> simp
  | _ => exact Nat.le_refl 0

private theorem sum_ids_le (events : List DeviceEvent) :
    (events.map DeviceEvent.ids).sum ≤ 2 * events.countP DeviceEvent.isMessage := by
  induction events with
  | nil => simp
  | cons event rest ih =>
    have atMost := event.ids_le
    rw [List.map_cons, List.sum_cons, List.countP_cons]
    split at atMost <;> simp_all
    omega

/-- The caches and the counter follow a run, and what is shown as well while IDs last. -/
theorem device_follows {json : JsonCodec} (roundTrips : json.RoundTrips)
    {events : List DeviceEvent} {device : Device}
    (free : ∀ event ∈ events, event.PlainIDs)
    (ran : deviceRun json .install events = some device) :
    Tracks json device (bannersOf events) ∧
      ((bannersOf events).issued ≤ 2 ^ 32 → Shows device (bannersOf events)) := by
  refine run_refines_of_forall
    (fun device banners => Tracks json device banners ∧
      (banners.issued ≤ 2 ^ 32 → Shows device banners))
    ?_ ⟨.install, fun _ => .install⟩ free ran
  rintro state banners event next ⟨tracks, shows'⟩ allowed taken
  refine ⟨tracks.step roundTrips allowed taken, fun room => ?_⟩
  have before : banners.issued ≤ 2 ^ 32 := by
    rw [issued_bannersStep] at room
    omega
  exact (shows' before).step roundTrips tracks allowed room taken

/-- For up to `2 ^ 31` messages with plain IDs, each notification that was asked for and not
cancelled is as its message said, under an ID of its own, and its intent is for the page that
the caches had for its article when the message came. -/
theorem banners_refined {json : JsonCodec} (roundTrips : json.RoundTrips)
    {events : List DeviceEvent} {device : Device}
    (free : ∀ event ∈ events, event.PlainIDs)
    (few : events.countP DeviceEvent.isMessage ≤ 2 ^ 31)
    (ran : deviceRun json .install events = some device) :
    device.active.map device.banner = (bannersOf events).shown.map some ∧
      ((bannersOf events).shown.map (·.id)).Nodup := by
  have room : (bannersOf events).issued ≤ 2 ^ 32 := by
    have most := sum_ids_le events
    rw [bannersOf, issued_foldl]
    simp only [Banners.install]
    omega
  have shows' := (device_follows roundTrips free ran).2 room
  exact ⟨shows'.banners_eq, shows'.distinct⟩

private theorem message_returns (json : JsonCodec) (device : Device)
    (remoteMessage : RemoteMessage) :
    ∃ next, deviceStep json device (.messageReceived remoteMessage) = some next := by
  rw [deviceStep]
  cases device.onMessageReceived json remoteMessage with
  | ok next => exact ⟨next, rfl⟩
  | error next => exact ⟨next, rfl⟩

def oneNews : Article := ⟨"a", 1, "News", "Author", "Story", [], [], .asb⟩

def newsMessage : RemoteMessage := ⟨[("articleID", "a")], some (some "News", none)⟩

/-- A message about a cached article, and one more once the cache is empty. -/
def cachedThenEmptied : List DeviceEvent :=
  [.updateArticles (fun _ => false) [oneNews], .messageReceived newsMessage,
    .updateArticles (fun _ => true) [oneNews], .messageReceived newsMessage]

private theorem plainIDs_newsMessage :
    DeviceEvent.PlainIDs (.messageReceived newsMessage) := by
  intro articleID found
  obtain rfl : "a" = articleID := Option.some.inj (found.symm.trans rfl).symm
  decide

theorem cached_then_emptied_shown : ∃ device,
    deviceRun oneArrayCodec .install cachedThenEmptied = some device ∧
      device.active.map device.banner =
        [some ⟨2, some "News", none, .articleActivity oneNews⟩,
          some ⟨4, some "News", none, .notifActivity⟩] := by
  have free : ∀ event ∈ cachedThenEmptied, event.PlainIDs := by
    intro event member
    simp only [cachedThenEmptied, List.mem_cons, List.not_mem_nil, or_false] at member
    rcases member with rfl | rfl | rfl | rfl
    · trivial
    · exact plainIDs_newsMessage
    · trivial
    · exact plainIDs_newsMessage
  obtain ⟨second, first⟩ := message_returns oneArrayCodec
    { Device.install with
      articles := ArticleDatabase.updateArticles oneArrayCodec.toJsonText (fun _ => false)
        [oneNews] (.idle []) } newsMessage
  obtain ⟨last, again⟩ := message_returns oneArrayCodec
    { second with
      articles := ArticleDatabase.updateArticles oneArrayCodec.toJsonText (fun _ => true)
        [oneNews] second.articles } newsMessage
  have ran : deviceRun oneArrayCodec .install cachedThenEmptied = some last :=
    run_cons_iff.mpr ⟨_, rfl, run_cons_iff.mpr ⟨second, first,
      run_cons_iff.mpr ⟨_, rfl, run_cons_iff.mpr ⟨last, again, rfl⟩⟩⟩⟩
  refine ⟨last, ran, ?_⟩
  rw [(banners_refined oneArrayCodec_roundTrips free (by decide +kernel) ran).1]
  decide +kernel

namespace Device

/-- The ID under which a message is posted. -/
def postedID (json : JsonCodec) (remoteMessage : RemoteMessage) (device : Device) : Option Int :=
  match device.onMessageReceived json remoteMessage with
  | .ok next => next.active.getLast?.map (·.id)
  | .error _ => none

end Device

private theorem notifTicket_eq_iff {earlier between : Nat} :
    notifTicket earlier = notifTicket (earlier + between) ↔ 2 ^ 32 ∣ between := by
  unfold notifTicket
  rw [ticket_eq_iff, ← Int.natCast_dvd_natCast]
  have shift : ((earlier + between : Nat) : Int) - earlier = between := by omega
  rw [shift]

theorem Tracks.postedID {json : JsonCodec} {device : Device} {banners : Banners}
    (tracks : Tracks json device banners) (roundTrips : json.RoundTrips)
    {remoteMessage : RemoteMessage} (free : DeviceEvent.PlainIDs (.messageReceived remoteMessage))
    (payload : remoteMessage.notification.isSome) :
    device.postedID json remoteMessage = some (notifTicket (banners.issued + 1)) := by
  obtain ⟨texts, present⟩ := Option.isSome_iff_exists.mp payload
  rw [Device.postedID, tracks.onMessageReceived roundTrips free, present]
  simp

/-- A later notification is posted under the ID of an earlier one, and so replaces it,
exactly when the IDs handed out from one to the other are a multiple of `2 ^ 32`. -/
theorem notif_ids_repeat_iff {json : JsonCodec} (roundTrips : json.RoundTrips)
    {before between : List DeviceEvent} {first second : RemoteMessage} {device later : Device}
    (free : ∀ event ∈ before ++ .messageReceived first :: between ++ [.messageReceived second],
      event.PlainIDs)
    (firstPayload : first.notification.isSome) (secondPayload : second.notification.isSome)
    (ran : deviceRun json .install before = some device)
    (ranOn : deviceRun json device (.messageReceived first :: between) = some later) :
    ∃ id other, device.postedID json first = some id ∧ later.postedID json second = some other ∧
      (id = other ↔
        2 ^ 32 ∣ ((DeviceEvent.messageReceived first :: between).map DeviceEvent.ids).sum) := by
  have ranAll : deviceRun json .install (before ++ .messageReceived first :: between) =
      some later := run_append_iff.mpr ⟨device, ran, ranOn⟩
  have tracks := (device_follows roundTrips (fun event member => free event (by simp [member])) ran).1
  have tracksLater := (device_follows roundTrips
    (fun event member => free event (List.mem_append_left _ member)) ranAll).1
  refine ⟨_, _, tracks.postedID roundTrips (free _ (by simp)) firstPayload,
    tracksLater.postedID roundTrips (free _ (by simp)) secondPayload, ?_⟩
  rw [bannersOf, bannersOf, List.foldl_append, issued_foldl (_ :: _), Nat.add_right_comm]
  exact notifTicket_eq_iff

/-- Two messages in a row. -/
theorem next_message_has_new_id : ∃ device id other,
    deviceRun oneArrayCodec .install [.messageReceived newsMessage] = some device ∧
      Device.install.postedID oneArrayCodec newsMessage = some id ∧
      device.postedID oneArrayCodec newsMessage = some other ∧ id ≠ other := by
  obtain ⟨device, received⟩ := message_returns oneArrayCodec .install newsMessage
  have ran : deviceRun oneArrayCodec .install [.messageReceived newsMessage] = some device :=
    run_cons_iff.mpr ⟨device, received, rfl⟩
  have free : ∀ event ∈ [] ++ DeviceEvent.messageReceived newsMessage :: [] ++
      [.messageReceived newsMessage], event.PlainIDs := by
    simp [plainIDs_newsMessage]
  obtain ⟨id, other, posted, postedLater, same⟩ := notif_ids_repeat_iff
    oneArrayCodec_roundTrips free (by decide) (by decide) rfl ran
  exact ⟨device, id, other, ran, posted, postedLater, fun repeated =>
    absurd (same.mp repeated) (by decide +kernel)⟩

end AhsApp.Android
