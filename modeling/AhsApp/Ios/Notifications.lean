import AhsApp.Ios.Decode
import AhsApp.Library.Run
import AhsApp.Library.ReadMarks
import Mathlib.Logic.Function.Basic

/-! The notifications of the iOS application: the static list and read marks of
`notificationsClass`, the selection and unread count of `notificationFuncClass`,
and the callers that fetch, tap and switch. A trap has no next state. -/

namespace AhsApp.Ios

open AhsApp.Firebase AhsApp.Library

inductive Topic where
  | mandatory
  | general
  | asb
  | district
  | bulletin
  deriving DecidableEq

/-- A read of the notifications whose callback has not run yet: started by a
notifications page, or by the tab bar. -/
inductive NotificationFetch where
  | data (page : Nat)
  | dot
  deriving DecidableEq

/-- `page` numbers the notifications page presented last; `rows` are its buttons. -/
structure Notifications where
  server : DataSnapshot
  totalNotificationList : List NotificationData
  notificationReadDict : MarkStore String
  selectedNotifications : Fin 5 → Bool
  storedSelection : Option (Fin 5 → Bool)
  subscribed : Topic → Bool
  unreadNotifCount : Nat
  notificationDotHidden : Bool
  applicationIconBadgeNumber : Nat
  inFlight : List NotificationFetch
  page : Nat
  rows : List NotificationData

/-- `[true, false, false, false, false]`. -/
def defaultSelection : Fin 5 → Bool := fun index => index = 0

namespace Notifications

/-- The application just started, with what earlier runs stored. -/
def launch (server : DataSnapshot) (saved : Option (List String))
    (storedSelection : Option (Fin 5 → Bool)) (subscribed : Topic → Bool) : Notifications where
  server := server
  totalNotificationList := []
  notificationReadDict := MarkStore.launch saved
  selectedNotifications _ := false
  storedSelection := storedSelection
  subscribed := subscribed
  unreadNotifCount := 0
  notificationDotHidden := false
  applicationIconBadgeNumber := 0
  inFlight := []
  page := 0
  rows := []

end Notifications

/-- `messageID ?? ""`. -/
def NotificationData.id (data : NotificationData) : String := data.messageID.getD ""

def serverNotifications (server : DataSnapshot) : List NotificationData :=
  decodeNotifications (server.child "notifications")

/-- `updateSubscriptionNotifs`: everything when the first entry is selected, else
one topic per entry; the mandatory topic always. -/
def updateSubscriptionNotifs (state : Notifications) : Notifications :=
  let selected := state.selectedNotifications
  let subscribed : Topic → Bool
    | .mandatory => true
    | .general => if selected 0 then true else selected 1
    | .asb => if selected 0 then true else selected 2
    | .district => if selected 0 then true else selected 3
    | .bulletin => if selected 0 then true else selected 4
  { state with subscribed }

/-- The selection is read back from the defaults, then the topics follow it. -/
def reloadSelection (state : Notifications) : Notifications :=
  updateSubscriptionNotifs { state with
    selectedNotifications := state.storedSelection.getD defaultSelection }

def loadNotifPref (state : Notifications) : Notifications :=
  { state with notificationReadDict := state.notificationReadDict.load }

/-- With `filter`, only marks of notifications in `totalNotificationList` are
written. -/
def saveNotifPref (filter : Bool) (state : Notifications) : Notifications :=
  { state with
    notificationReadDict :=
      if filter then
        state.notificationReadDict.save (state.totalNotificationList.map NotificationData.id)
      else state.notificationReadDict.saveAll }

/-- The selected-category test, with the short circuits of `||`. -/
def passesSelection (selectedNotifications : Fin 5 → Bool) (data : NotificationData) :
    Option Bool :=
  if selectedNotifications 0 then some true
  else do
    let selected ← elementAt selectedNotifications (data.notificationCatagory.getD 0)
    some (selected || data.notificationCatagory == some 0)

/-- The loop of `filterThroughSelectedNotifcations`. -/
def selectedOutput (selectedNotifications : Fin 5 → Bool) :
    List NotificationData → Option (List NotificationData)
  | [] => some []
  | data :: rest => do
    let passes ← passesSelection selectedNotifications data
    let output ← selectedOutput selectedNotifications rest
    some (if passes then data :: output else output)

def filterThroughSelectedNotifcations (state : Notifications) :
    Option (List NotificationData × Notifications) := do
  let state := reloadSelection state
  let output ← selectedOutput state.selectedNotifications state.totalNotificationList
  some (output, state)

/-- The test counted by the unread loops: selected, and not marked read. -/
def countsAsUnread (state : Notifications) (data : NotificationData) : Option Bool := do
  let passes ← passesSelection state.selectedNotifications data
  some (passes && state.notificationReadDict.memory data.id != some true)

/-- The loop of `numOfUnreadInArray`. -/
def unreadCount (state : Notifications) : List NotificationData → Option Nat
  | [] => some 0
  | data :: rest => do
    let unread ← countsAsUnread state data
    let count ← unreadCount state rest
    some (if unread then count + 1 else count)

def numOfUnreadInArray (arr : List NotificationData) (state : Notifications) :
    Option (Nat × Notifications) := do
  let state := reloadSelection (loadNotifPref state)
  let count ← unreadCount state arr
  some (count, state)

/-- The statement that `openArticle` and `changedSettings` end their updates with. -/
def recountUnread (state : Notifications) : Option Notifications := do
  let (output, state) ← filterThroughSelectedNotifcations state
  let (count, state) ← numOfUnreadInArray output state
  some { state with unreadNotifCount := count, applicationIconBadgeNumber := count }

/-- `loadScrollView` of a page; only the buttons of the last page are on screen. -/
def loadScrollView (page : Nat) (now : Int) (state : Notifications) : Option Notifications := do
  let (currNotifList, state) ← filterThroughSelectedNotifcations state
  some (if page = state.page then
    { state with rows := sortBy (notificationSort now) currNotifList } else state)

/-- `updateNotifDot`, which is also the completion of a dot fetch. -/
def updateNotifDot (state : Notifications) : Notifications :=
  { state with
    notificationDotHidden := state.unreadNotifCount == 0
    applicationIconBadgeNumber := state.unreadNotifCount }

/-- The list is emptied when a fetch starts. -/
def startFetch (fetch : NotificationFetch) (state : Notifications) : Notifications :=
  { state with totalNotificationList := [], inFlight := state.inFlight ++ [fetch] }

/-- `getNotificationData` for the page on screen; offline it only shows a popup. -/
def getNotificationData (internetConnected : Bool) (state : Notifications) : Notifications :=
  if internetConnected then startFetch (.data state.page) state else state

def getNotificationDataDot (internetConnected : Bool) (state : Notifications) : Notifications :=
  if internetConnected then startFetch .dot state else updateNotifDot state

def setUpNotifDot (internetConnected : Bool) (state : Notifications) : Notifications :=
  getNotificationDataDot internetConnected
    { reloadSelection (loadNotifPref state) with unreadNotifCount := 0 }

/-- A new page is presented: it empties the list before it asks for it. -/
def viewDidLoad (internetConnected : Bool) (state : Notifications) : Notifications :=
  getNotificationData internetConnected
    (loadNotifPref { state with page := state.page + 1, rows := [], totalNotificationList := [] })

def refreshNotifications (internetConnected : Bool) (state : Notifications) : Notifications :=
  getNotificationData internetConnected (loadNotifPref state)

/-- What a fetch does with one notification the server delivered. -/
def deliver (fetch : NotificationFetch) (now : Int) (state : Notifications)
    (data : NotificationData) : Option Notifications :=
  let state := { state with totalNotificationList := state.totalNotificationList ++ [data] }
  match fetch with
  | .data page => loadScrollView page now state
  | .dot => do
    let unread ← countsAsUnread state data
    some (updateNotifDot (if unread then
      { state with unreadNotifCount := state.unreadNotifCount + 1 } else state))

/-- The callback of a fetch handles the notifications one after another. -/
def notificationCallback (fetch : NotificationFetch) (now : Int) (state : Notifications) :
    Option Notifications :=
  run (deliver fetch now) state (serverNotifications state.server)

/-- A tap marks its row, saves, recounts and rebuilds the page. No button ever has
`alreadyRead` set, so every tap does all of it. -/
def openNotification (row : NotificationData) (now : Int) (state : Notifications) :
    Option Notifications := do
  let state ← recountUnread (saveNotifPref true
    { state with notificationReadDict := state.notificationReadDict.mark row.id })
  loadScrollView state.page now state

/-- The tag of the switch `generalUpdates`; the other tags are those of categories. -/
abbrev generalUpdatesTag : Fin 5 := 0

/-- The selection after a switch is changed; `generalUpdates` is the first switch. -/
def changedSelection (generalUpdates : Bool) (tag : Fin 5) (isOn : Bool)
    (selected : Fin 5 → Bool) : Fin 5 → Bool :=
  if tag ≠ 0 then
    Function.update (if generalUpdates then Function.update selected 0 false else selected)
      tag isOn
  else if isOn then fun index => index = 0
  else Function.update selected 0 false

def changedSettings (generalUpdates : Bool) (tag : Fin 5) (isOn : Bool)
    (state : Notifications) : Option Notifications :=
  let selected := changedSelection generalUpdates tag isOn state.selectedNotifications
  recountUnread (updateSubscriptionNotifs { state with
    selectedNotifications := selected, storedSelection := some selected })

/-- A tapped push: the article's ID is marked and the whole dictionary saved. -/
def didReceive (articleID : String) (state : Notifications) : Notifications :=
  let state := loadNotifPref state
  saveNotifPref false
    { state with notificationReadDict := state.notificationReadDict.mark articleID }

/-- The page posts `updateNotifDot`; unless its dismissal is cancelled its buttons
are gone. -/
def viewWillDisappear (dismissed : Bool) (state : Notifications) : Notifications :=
  let state := updateNotifDot state
  if dismissed then { state with rows := [] } else state

inductive NotificationEvent where
  | serverChanges (server : DataSnapshot)
  | setUpNotifDot (internetConnected : Bool)
  | viewDidLoad (internetConnected : Bool)
  | refreshNotifications (internetConnected : Bool)
  | complete (fetch : NotificationFetch) (now : Int)
  | openArticle (row : NotificationData) (now : Int)
  | changedSettings (generalUpdates : Bool) (tag : Fin 5) (isOn : Bool)
  | didReceive (articleID : String)
  | didReceiveRegistrationToken
  | viewWillDisappear (dismissed : Bool)

/-- One step of the main thread: only a started fetch completes, and only a row on
the screen is tapped. -/
def notificationStep (state : Notifications) : NotificationEvent → Option Notifications
  | .serverChanges server => some { state with server }
  | .setUpNotifDot internetConnected => some (setUpNotifDot internetConnected state)
  | .viewDidLoad internetConnected => some (viewDidLoad internetConnected state)
  | .refreshNotifications internetConnected =>
    some (refreshNotifications internetConnected state)
  | .complete fetch now =>
    if fetch ∈ state.inFlight then
      notificationCallback fetch now { state with inFlight := state.inFlight.erase fetch }
    else none
  | .openArticle row now => if row ∈ state.rows then openNotification row now state else none
  | .changedSettings generalUpdates tag isOn => changedSettings generalUpdates tag isOn state
  | .didReceive articleID => some (didReceive articleID state)
  | .didReceiveRegistrationToken => some (reloadSelection state)
  | .viewWillDisappear dismissed => some (viewWillDisappear dismissed state)

abbrev notificationRun : Notifications → List NotificationEvent → Option Notifications :=
  run notificationStep

/-- The server, the list, the marks and the fetches of one state are those of
another. -/
structure SameData (state next : Notifications) : Prop where
  server : next.server = state.server
  list : next.totalNotificationList = state.totalNotificationList
  marks : next.notificationReadDict = state.notificationReadDict
  inFlight : next.inFlight = state.inFlight

private theorem filterThrough_eq {state next : Notifications} {output : List NotificationData}
    (filtered : filterThroughSelectedNotifcations state = some (output, next)) :
    next = reloadSelection state := by
  simp only [filterThroughSelectedNotifcations, Option.bind_eq_bind, Option.bind_eq_some_iff,
    Option.some.injEq, Prod.mk.injEq] at filtered
  obtain ⟨_, _, _, same⟩ := filtered
  exact same.symm

theorem loadScrollView_cases {page : Nat} {now : Int} {state next : Notifications}
    (loaded : loadScrollView page now state = some next) :
    ∃ rows, next = { reloadSelection state with rows } := by
  simp only [loadScrollView, Option.bind_eq_bind, Option.bind_eq_some_iff, Option.some.injEq]
    at loaded
  obtain ⟨⟨currNotifList, reloaded⟩, filtered, rfl⟩ := loaded
  obtain rfl := filterThrough_eq filtered
  dsimp only
  split
  · exact ⟨_, rfl⟩
  · exact ⟨(reloadSelection state).rows, rfl⟩

/-- A recount loads the selection, then the marks, and counts the selected list. -/
theorem recountUnread_cases {state next : Notifications}
    (counted : recountUnread state = some next) : ∃ output count,
      selectedOutput (reloadSelection state).selectedNotifications state.totalNotificationList =
        some output ∧
      unreadCount (reloadSelection (loadNotifPref (reloadSelection state))) output = some count ∧
      next = { reloadSelection (loadNotifPref (reloadSelection state)) with
        unreadNotifCount := count
        applicationIconBadgeNumber := count } := by
  simp only [recountUnread, filterThroughSelectedNotifcations, numOfUnreadInArray,
    Option.bind_eq_bind, Option.bind_eq_some_iff, Option.some.injEq] at counted
  obtain ⟨⟨output, reloaded⟩, ⟨_, selected, same⟩, ⟨count, loaded⟩, ⟨_, found, same'⟩, rfl⟩ :=
    counted
  obtain ⟨rfl, rfl⟩ := Prod.mk.inj same
  obtain ⟨rfl, rfl⟩ := Prod.mk.inj same'
  exact ⟨_, _, selected, found, rfl⟩

theorem loadScrollView_same {page : Nat} {now : Int} {state next : Notifications}
    (loaded : loadScrollView page now state = some next) : SameData state next := by
  obtain ⟨rows, rfl⟩ := loadScrollView_cases loaded
  exact ⟨rfl, rfl, rfl, rfl⟩

theorem recountUnread_same {state next : Notifications}
    (counted : recountUnread state = some next) : SameData (loadNotifPref state) next := by
  obtain ⟨output, count, _, _, rfl⟩ := recountUnread_cases counted
  exact ⟨rfl, rfl, rfl, rfl⟩

private theorem deliver_frame {fetch : NotificationFetch} {now : Int} {state next : Notifications}
    {data : NotificationData} (delivered : deliver fetch now state data = some next) :
    SameData { state with
      totalNotificationList := state.totalNotificationList ++ [data] } next := by
  cases fetch with
  | data page => exact loadScrollView_same delivered
  | dot =>
    simp only [deliver, Option.bind_eq_bind, Option.bind_eq_some_iff, Option.some.injEq]
      at delivered
    obtain ⟨unread, _, rfl⟩ := delivered
    cases unread <;> exact ⟨rfl, rfl, rfl, rfl⟩

theorem notificationCallback_frame {fetch : NotificationFetch} {now : Int}
    {state next : Notifications} (called : notificationCallback fetch now state = some next) :
    SameData { state with
      totalNotificationList :=
        state.totalNotificationList ++ serverNotifications state.server } next := by
  have folded : ∀ (items : List NotificationData) (state : Notifications),
      run (deliver fetch now) state items = some next →
      SameData { state with
        totalNotificationList := state.totalNotificationList ++ items } next := by
    intro items
    induction items with
    | nil =>
      intro state ran
      obtain rfl := Option.some.inj ran
      exact ⟨rfl, by simp, rfl, rfl⟩
    | cons data rest ih =>
      intro state ran
      obtain ⟨middle, delivered, ran⟩ := run_cons_iff.mp ran
      have first := deliver_frame delivered
      have later := ih middle ran
      refine ⟨later.server.trans first.server, ?_, later.marks.trans first.marks,
        later.inFlight.trans first.inFlight⟩
      simp [later.list, first.list]
  exact folded _ state called

theorem complete_notification_cases {fetch : NotificationFetch} {now : Int}
    {state next : Notifications}
    (taken : notificationStep state (.complete fetch now) = some next) :
    fetch ∈ state.inFlight ∧
      notificationCallback fetch now
        { state with inFlight := state.inFlight.erase fetch } = some next := by
  simp only [notificationStep] at taken
  split at taken
  · exact ⟨‹_›, taken⟩
  · cases taken

theorem open_notification_cases {row : NotificationData} {now : Int} {state next : Notifications}
    (taken : notificationStep state (.openArticle row now) = some next) :
    row ∈ state.rows ∧ ∃ counted,
      recountUnread (saveNotifPref true
        { state with notificationReadDict := state.notificationReadDict.mark row.id }) =
          some counted ∧
        loadScrollView counted.page now counted = some next := by
  simp only [notificationStep] at taken
  split at taken
  · rename_i onScreen
    simp only [openNotification, Option.bind_eq_bind, Option.bind_eq_some_iff] at taken
    exact ⟨onScreen, taken⟩
  · cases taken

theorem tap_cases {row : NotificationData} {now : Int} {state next : Notifications}
    (taken : notificationStep state (.openArticle row now) = some next) :
    row ∈ state.rows ∧ SameData (loadNotifPref (saveNotifPref true
      { state with notificationReadDict := state.notificationReadDict.mark row.id })) next := by
  obtain ⟨onScreen, counted, recount, loaded⟩ := open_notification_cases taken
  have first := recountUnread_same recount
  have later := loadScrollView_same loaded
  exact ⟨onScreen, later.server.trans first.server, later.list.trans first.list,
    later.marks.trans first.marks, later.inFlight.trans first.inFlight⟩

theorem notificationStep_server {state next : Notifications} {event : NotificationEvent}
    (fixed : ∀ server, event ≠ .serverChanges server)
    (taken : notificationStep state event = some next) : next.server = state.server := by
  cases event with
  | serverChanges server => exact absurd rfl (fixed server)
  | setUpNotifDot connected => cases connected <;> exact Option.some.inj taken ▸ rfl
  | viewDidLoad connected => cases connected <;> exact Option.some.inj taken ▸ rfl
  | refreshNotifications connected => cases connected <;> exact Option.some.inj taken ▸ rfl
  | complete fetch now =>
    exact (notificationCallback_frame (complete_notification_cases taken).2).server
  | openArticle row now => exact (tap_cases taken).2.server
  | changedSettings generalUpdates tag isOn => exact (recountUnread_same taken).server
  | didReceive articleID => exact Option.some.inj taken ▸ rfl
  | didReceiveRegistrationToken => exact Option.some.inj taken ▸ rfl
  | viewWillDisappear dismissed => cases dismissed <;> exact Option.some.inj taken ▸ rfl

theorem notification_server_run {state last : Notifications} {events : List NotificationEvent}
    (fixed : ∀ server, .serverChanges server ∉ events)
    (ran : notificationRun state events = some last) : last.server = state.server :=
  run_view Notifications.server notificationStep_server
    (fun _ member server same => fixed server (same ▸ member)) ran

/-- The selection, its stored copy and the topics of one state are those of another. -/
structure SameSelection (state next : Notifications) : Prop where
  stored : next.storedSelection = state.storedSelection
  selected : next.selectedNotifications = state.selectedNotifications
  subscribed : next.subscribed = state.subscribed

theorem SameSelection.trans {first second third : Notifications}
    (later : SameSelection second third) (earlier : SameSelection first second) :
    SameSelection first third :=
  ⟨later.stored.trans earlier.stored, later.selected.trans earlier.selected,
    later.subscribed.trans earlier.subscribed⟩

theorem SameSelection.reload {state next : Notifications} (same : SameSelection state next) :
    SameSelection (reloadSelection state) (reloadSelection next) := by
  refine ⟨same.stored, ?_, ?_⟩ <;>
    simp only [reloadSelection, updateSubscriptionNotifs, same.stored]

theorem loadScrollView_selection {page : Nat} {now : Int} {state next : Notifications}
    (loaded : loadScrollView page now state = some next) :
    SameSelection (reloadSelection state) next := by
  obtain ⟨rows, rfl⟩ := loadScrollView_cases loaded
  exact ⟨rfl, rfl, rfl⟩

theorem recountUnread_selection {state next : Notifications}
    (counted : recountUnread state = some next) : SameSelection (reloadSelection state) next := by
  obtain ⟨output, count, _, _, rfl⟩ := recountUnread_cases counted
  exact ⟨rfl, rfl, rfl⟩

private theorem deliver_selection {fetch : NotificationFetch} {now : Int}
    {state next : Notifications}
    {data : NotificationData} (delivered : deliver fetch now state data = some next) :
    SameSelection state next ∨ SameSelection (reloadSelection state) next := by
  cases fetch with
  | data page => exact .inr ((loadScrollView_selection delivered).trans ⟨rfl, rfl, rfl⟩)
  | dot =>
    simp only [deliver, Option.bind_eq_bind, Option.bind_eq_some_iff, Option.some.injEq]
      at delivered
    obtain ⟨unread, _, rfl⟩ := delivered
    cases unread <;> exact .inl ⟨rfl, rfl, rfl⟩

private theorem deliveries_selection {fetch : NotificationFetch} {now : Int}
    {items : List NotificationData} {state last : Notifications}
    (called : run (deliver fetch now) state items = some last) :
    SameSelection state last ∨ SameSelection (reloadSelection state) last := by
  induction items generalizing state with
  | nil =>
    obtain rfl := Option.some.inj called
    exact .inl ⟨rfl, rfl, rfl⟩
  | cons data rest ih =>
    obtain ⟨middle, delivered, called⟩ := run_cons_iff.mp called
    rcases deliver_selection delivered with first | first <;>
      rcases ih called with later | later
    · exact .inl (later.trans first)
    · exact .inr (later.trans first.reload)
    · exact .inr (later.trans first)
    · exact .inr (later.trans (first.reload.trans ⟨rfl, rfl, rfl⟩))

/-- Only a switch changes the selection to anything but its stored copy. -/
theorem selection_step {state next : Notifications} {event : NotificationEvent}
    (unswitched : ∀ generalUpdates tag isOn, event ≠ .changedSettings generalUpdates tag isOn)
    (taken : notificationStep state event = some next) :
    SameSelection state next ∨ SameSelection (reloadSelection state) next := by
  cases event with
  | serverChanges server => exact Option.some.inj taken ▸ .inl ⟨rfl, rfl, rfl⟩
  | setUpNotifDot connected =>
    cases connected <;> exact Option.some.inj taken ▸ .inr ⟨rfl, rfl, rfl⟩
  | viewDidLoad connected =>
    cases connected <;> exact Option.some.inj taken ▸ .inl ⟨rfl, rfl, rfl⟩
  | refreshNotifications connected =>
    cases connected <;> exact Option.some.inj taken ▸ .inl ⟨rfl, rfl, rfl⟩
  | complete fetch now =>
    rcases deliveries_selection (complete_notification_cases taken).2 with same | same
    · exact .inl (same.trans ⟨rfl, rfl, rfl⟩)
    · exact .inr (same.trans ⟨rfl, rfl, rfl⟩)
  | openArticle row now =>
    obtain ⟨_, counted, recount, loaded⟩ := open_notification_cases taken
    have first := recountUnread_selection recount
    exact .inr ((loadScrollView_selection loaded).trans (first.reload.trans ⟨rfl, rfl, rfl⟩))
  | changedSettings generalUpdates tag isOn => exact absurd rfl (unswitched generalUpdates tag isOn)
  | didReceive articleID => exact Option.some.inj taken ▸ .inl ⟨rfl, rfl, rfl⟩
  | didReceiveRegistrationToken => exact Option.some.inj taken ▸ .inr ⟨rfl, rfl, rfl⟩
  | viewWillDisappear dismissed =>
    cases dismissed <;> exact Option.some.inj taken ▸ .inl ⟨rfl, rfl, rfl⟩

def oneNotification : DataSnapshot :=
  .node "" [.node "notifications" [.node "welcome" []]]

def welcome : NotificationData := decodeNotification (.node "welcome" [])

/-- The page is opened and its notifications arrive. -/
def pageOpened : List NotificationEvent := [.viewDidLoad true, .complete (.data 1) 0]

end AhsApp.Ios
