import AhsApp.Ios.CategorySafety
import AhsApp.Ios.NotificationReadMarks

/-! A tapped push. Its handler marks the ID of the article, while the counts, the saves
and the loads go by the IDs of the messages; the run after the tap is compared with the
run without it. -/

namespace AhsApp.Ios

open AhsApp.Firebase AhsApp.Library

/-- `numOfUnreadInArray` counts the notification. -/
def CountedAsUnread (state : Notifications) (data : NotificationData) : Prop :=
  ∃ counted, numOfUnreadInArray [data] state = some (1, counted)

/-- The notification is marked, once the marks are loaded. -/
def MarkedRead (state : Notifications) (data : NotificationData) : Prop :=
  (loadNotifPref state).notificationReadDict.memory data.id = some true

/-- The stored selection lets the notification pass. -/
def SelectedByStored (state : Notifications) (data : NotificationData) : Prop :=
  passesSelection (state.storedSelection.getD defaultSelection) data = some true

/-- Of a state and of what it would be without the tap: no notification of the article
counts, and the others are as they would be. -/
structure PushRead (articleID : String) (list : List NotificationData)
    (states : Notifications × Notifications) : Prop where
  own : ∀ data ∈ list, data.notificationArticleID = some articleID →
    ¬ CountedAsUnread states.1 data
  others : ∀ data ∈ list, data.notificationArticleID ≠ some articleID →
    (MarkedRead states.1 data ↔ MarkedRead states.2 data)

/-- The message of every notification of the article that counts has the ID of the
article, and no message of another one has it unless it is read. -/
structure TapNamesMessages (articleID : String) (state : Notifications) : Prop where
  own : ∀ data ∈ serverNotifications state.server, data.notificationArticleID = some articleID →
    CountedAsUnread state data → data.id = articleID
  others : ∀ data ∈ serverNotifications state.server,
    data.notificationArticleID ≠ some articleID → data.id = articleID → MarkedRead state data

/-- A row is opened while the list holds what is selected of the article. -/
def OpensWithArticleListed (articleID : String) (state : Notifications) : NotificationEvent → Prop
  | .openArticle _ _ => ∀ data ∈ serverNotifications state.server,
      data.notificationArticleID = some articleID → SelectedByStored state data →
        data.id ∈ listedMessages state
  | _ => True

/-- What follows the tap: no other push, and neither the list of the server nor the
selection changes. -/
def AfterTap : NotificationEvent → Prop
  | .serverChanges _ | .changedSettings _ _ _ | .didReceive _ => False
  | _ => True

/-- The marks are loaded before there is anything to open or to wait for. -/
def MarksLoaded (state : Notifications) : Prop :=
  state.notificationReadDict.load = state.notificationReadDict ∨
    (state.rows = [] ∧ state.inFlight = [])

private theorem marksLoaded_launch (server : DataSnapshot) (saved : Option (List String))
    (storedSelection : Option (Fin 5 → Bool)) (subscribed : Topic → Bool) :
    MarksLoaded (.launch server saved storedSelection subscribed) :=
  .inr ⟨rfl, rfl⟩

private theorem marksLoaded_step {state next : Notifications} {event : NotificationEvent}
    (loaded : MarksLoaded state) (taken : notificationStep state event = some next) :
    MarksLoaded next := by
  cases event with
  | serverChanges server => exact Option.some.inj taken ▸ loaded
  | setUpNotifDot connected =>
    cases connected <;> exact Option.some.inj taken ▸ .inl (MarkStore.load_load _)
  | viewDidLoad connected =>
    cases connected <;> exact Option.some.inj taken ▸ .inl (MarkStore.load_load _)
  | refreshNotifications connected =>
    cases connected <;> exact Option.some.inj taken ▸ .inl (MarkStore.load_load _)
  | complete fetch now =>
    obtain ⟨pending, called⟩ := complete_notification_cases taken
    refine .inl ?_
    rw [(notificationCallback_frame called).marks]
    rcases loaded with same | ⟨_, idle⟩
    · exact same
    · simp [idle] at pending
  | openArticle row now =>
    refine .inl ?_
    rw [(tap_cases taken).2.marks]
    exact MarkStore.load_load _
  | changedSettings generalUpdates tag isOn =>
    refine .inl ?_
    rw [(recountUnread_same taken).marks]
    exact MarkStore.load_load _
  | didReceive articleID => exact Option.some.inj taken ▸ .inl rfl
  | didReceiveRegistrationToken => exact Option.some.inj taken ▸ loaded
  | viewWillDisappear dismissed =>
    cases dismissed
    · exact Option.some.inj taken ▸ loaded
    · exact Option.some.inj taken ▸ loaded.imp_right fun idle => ⟨rfl, idle.2⟩

/-- Every state of a run has its marks loaded. -/
theorem marksLoaded_run {server : DataSnapshot} {saved : Option (List String)}
    {storedSelection : Option (Fin 5 → Bool)} {subscribed : Topic → Bool}
    {events : List NotificationEvent} {last : Notifications}
    (ran : notificationRun (.launch server saved storedSelection subscribed) events = some last) :
    MarksLoaded last :=
  run_invariant MarksLoaded (fun _ _ => True) (fun loaded _ => marksLoaded_step loaded)
    (marksLoaded_launch server saved storedSelection subscribed)
    (Along.of_forall (fun _ _ _ => trivial) _) ran

/-- The marks and what is counted by them. -/
structure Remark where
  marks : MarkStore String
  count : Nat
  hidden : Bool
  badge : Nat

def Notifications.remark (state : Notifications) (with' : Remark) : Notifications :=
  { state with
    notificationReadDict := with'.marks
    unreadNotifCount := with'.count
    notificationDotHidden := with'.hidden
    applicationIconBadgeNumber := with'.badge }

/-- Two states that differ in their marks and counts at most. -/
def SameButMarks (state other : Notifications) : Prop := ∃ remark, other = state.remark remark

private theorem filterThrough_follows {state other next : Notifications}
    {output : List NotificationData}
    (same : SameButMarks state other)
    (filtered : filterThroughSelectedNotifcations state = some (output, next)) :
    ∃ after, filterThroughSelectedNotifcations other = some (output, after) ∧
      SameButMarks next after := by
  obtain ⟨remark, rfl⟩ := same
  simp only [filterThroughSelectedNotifcations, Option.bind_eq_bind, Option.bind_eq_some_iff,
    Option.some.injEq, Prod.mk.injEq] at filtered
  obtain ⟨_, selected, rfl, rfl⟩ := filtered
  refine ⟨(reloadSelection state).remark remark, ?_, remark, rfl⟩
  have again : selectedOutput (reloadSelection (state.remark remark)).selectedNotifications
      (reloadSelection (state.remark remark)).totalNotificationList = some _ := selected
  simp only [filterThroughSelectedNotifcations, again]
  rfl

private theorem numOfUnread_follows {state other next : Notifications} {arr : List NotificationData}
    {count : Nat} (same : SameButMarks state other)
    (counted : numOfUnreadInArray arr state = some (count, next)) :
    ∃ number after, numOfUnreadInArray arr other = some (number, after) ∧
      SameButMarks next after := by
  obtain ⟨remark, rfl⟩ := same
  simp only [numOfUnreadInArray, Option.bind_eq_bind, Option.bind_eq_some_iff,
    Option.some.injEq, Prod.mk.injEq] at counted
  obtain ⟨_, looped, rfl, rfl⟩ := counted
  have inRange : ∀ data ∈ arr, CategoryInRange
      (reloadSelection (loadNotifPref state)).selectedNotifications data :=
    unreadCount_returns_iff.mp ⟨_, looped⟩
  obtain ⟨number, again⟩ : ∃ number,
      unreadCount (reloadSelection (loadNotifPref (state.remark remark))) arr = some number :=
    unreadCount_returns_iff.mpr inRange
  refine ⟨number, reloadSelection (loadNotifPref (state.remark remark)), ?_,
    ⟨remark.marks.load, remark.count, remark.hidden, remark.badge⟩, rfl⟩
  simp [numOfUnreadInArray, again]

private theorem recountUnread_follows {state other next : Notifications}
    (same : SameButMarks state other) (recount : recountUnread state = some next) :
    ∃ after, recountUnread other = some after ∧ SameButMarks next after := by
  simp only [recountUnread, Option.bind_eq_bind, Option.bind_eq_some_iff, Option.some.injEq]
    at recount
  obtain ⟨⟨output, reloaded⟩, filtered, ⟨count, counting⟩, counted, rfl⟩ := recount
  obtain ⟨reloaded', filtered', same⟩ := filterThrough_follows same filtered
  obtain ⟨number, counting', counted', remark, rfl⟩ := numOfUnread_follows same counted
  have recount' : recountUnread other = some { counting.remark remark with
      unreadNotifCount := number, applicationIconBadgeNumber := number } :=
    Option.bind_eq_some_iff.mpr ⟨_, filtered', Option.bind_eq_some_iff.mpr ⟨_, counted', rfl⟩⟩
  exact ⟨_, recount', ⟨remark.marks, number, remark.hidden, number⟩, rfl⟩

private theorem loadScrollView_follows {page : Nat} {now : Int} {state other next : Notifications}
    (same : SameButMarks state other) (loaded : loadScrollView page now state = some next) :
    ∃ after, loadScrollView page now other = some after ∧ SameButMarks next after := by
  simp only [loadScrollView, Option.bind_eq_bind, Option.bind_eq_some_iff, Option.some.injEq]
    at loaded
  obtain ⟨⟨output, reloaded⟩, filtered, rfl⟩ := loaded
  obtain ⟨reloaded', filtered', remark, rfl⟩ := filterThrough_follows same filtered
  refine ⟨_, Option.bind_eq_some_iff.mpr ⟨_, filtered', rfl⟩, remark, ?_⟩
  by_cases here : page = reloaded.page <;> simp [Notifications.remark, here]

private theorem deliver_follows {fetch : NotificationFetch} {now : Int} {data : NotificationData}
    {state other next : Notifications} (same : SameButMarks state other)
    (delivered : deliver fetch now state data = some next) :
    ∃ after, deliver fetch now other data = some after ∧ SameButMarks next after := by
  obtain ⟨remark, rfl⟩ := same
  cases fetch with
  | data page => exact loadScrollView_follows ⟨remark, rfl⟩ delivered
  | dot =>
    simp only [deliver, Option.bind_eq_bind, Option.bind_eq_some_iff, Option.some.injEq]
      at delivered
    obtain ⟨unread, tested, rfl⟩ := delivered
    have inRange : CategoryInRange state.selectedNotifications data :=
      countsAsUnread_returns_iff.mp ⟨unread, tested⟩
    have returns : ∃ after, deliver .dot now (state.remark remark) data = some after :=
      deliver_dot_returns now inRange
    obtain ⟨after, delivered⟩ := returns
    refine ⟨after, delivered, ?_⟩
    simp only [deliver, Option.bind_eq_bind, Option.bind_eq_some_iff, Option.some.injEq]
      at delivered
    obtain ⟨unread', _, rfl⟩ := delivered
    refine ⟨⟨remark.marks, if unread' then remark.count + 1 else remark.count,
      (if unread' then remark.count + 1 else remark.count) == 0,
      if unread' then remark.count + 1 else remark.count⟩, ?_⟩
    cases unread <;> cases unread' <;> rfl

private theorem callback_follows {fetch : NotificationFetch} {now : Int}
    {items : List NotificationData}
    {state other last : Notifications} (same : SameButMarks state other)
    (called : run (deliver fetch now) state items = some last) :
    ∃ after, run (deliver fetch now) other items = some after ∧ SameButMarks last after :=
  run_follows deliver_follows same called

private theorem notificationStep_follows {state other next : Notifications}
    {event : NotificationEvent}
    (same : SameButMarks state other) (taken : notificationStep state event = some next) :
    ∃ after, notificationStep other event = some after ∧ SameButMarks next after := by
  cases event with
  | serverChanges server =>
    obtain ⟨remark, rfl⟩ := same
    exact ⟨_, rfl, remark, Option.some.inj taken ▸ rfl⟩
  | setUpNotifDot connected =>
    obtain ⟨remark, rfl⟩ := same
    obtain rfl := Option.some.inj taken
    cases connected
    · exact ⟨_, rfl, ⟨remark.marks.load, 0, true, 0⟩, rfl⟩
    · exact ⟨_, rfl, ⟨remark.marks.load, 0, remark.hidden, remark.badge⟩, rfl⟩
  | viewDidLoad connected =>
    obtain ⟨remark, rfl⟩ := same
    obtain rfl := Option.some.inj taken
    refine ⟨_, rfl, ⟨remark.marks.load, remark.count, remark.hidden, remark.badge⟩, ?_⟩
    cases connected <;> rfl
  | refreshNotifications connected =>
    obtain ⟨remark, rfl⟩ := same
    obtain rfl := Option.some.inj taken
    refine ⟨_, rfl, ⟨remark.marks.load, remark.count, remark.hidden, remark.badge⟩, ?_⟩
    cases connected <;> rfl
  | complete fetch now =>
    obtain ⟨pending, called⟩ := complete_notification_cases taken
    obtain ⟨remark, rfl⟩ := same
    have waiting : SameButMarks { state with inFlight := state.inFlight.erase fetch }
        { state.remark remark with inFlight := state.inFlight.erase fetch } := ⟨remark, rfl⟩
    obtain ⟨after, called', same⟩ := callback_follows waiting called
    exact ⟨after, (if_pos pending).trans called', same⟩
  | openArticle row now =>
    obtain ⟨onScreen, counted, recount, loaded⟩ := open_notification_cases taken
    obtain ⟨remark, rfl⟩ := same
    have saved : SameButMarks
        (saveNotifPref true { state with
          notificationReadDict := state.notificationReadDict.mark row.id })
        (saveNotifPref true { state.remark remark with
          notificationReadDict := (state.remark remark).notificationReadDict.mark row.id }) :=
      ⟨⟨_, remark.count, remark.hidden, remark.badge⟩, rfl⟩
    obtain ⟨counted', recount', same⟩ := recountUnread_follows saved recount
    obtain ⟨after, loaded', kept⟩ := loadScrollView_follows same loaded
    have page : counted'.page = counted.page := by
      obtain ⟨remark, rfl⟩ := same
      rfl
    rw [← page] at loaded'
    exact ⟨after, (if_pos onScreen).trans (Option.bind_eq_some_iff.mpr ⟨_, recount', loaded'⟩),
      kept⟩
  | changedSettings generalUpdates tag isOn =>
    obtain ⟨remark, rfl⟩ := same
    exact recountUnread_follows ⟨remark, rfl⟩ taken
  | didReceive articleID =>
    obtain ⟨remark, rfl⟩ := same
    obtain rfl := Option.some.inj taken
    exact ⟨_, rfl, ⟨(remark.marks.load.mark articleID).saveAll, remark.count, remark.hidden,
      remark.badge⟩, rfl⟩
  | didReceiveRegistrationToken =>
    obtain ⟨remark, rfl⟩ := same
    exact ⟨_, rfl, remark, Option.some.inj taken ▸ rfl⟩
  | viewWillDisappear dismissed =>
    obtain ⟨remark, rfl⟩ := same
    obtain rfl := Option.some.inj taken
    refine ⟨_, rfl, ⟨remark.marks, remark.count, remark.count == 0, remark.count⟩, ?_⟩
    cases dismissed <;> rfl

private theorem countedAsUnread_iff {state : Notifications} {data : NotificationData} :
    CountedAsUnread state data ↔ SelectedByStored state data ∧ ¬ MarkedRead state data := by
  have selection : (reloadSelection (loadNotifPref state)).selectedNotifications =
      state.storedSelection.getD defaultSelection := rfl
  have marks : (reloadSelection (loadNotifPref state)).notificationReadDict =
      (loadNotifPref state).notificationReadDict := rfl
  simp only [CountedAsUnread, SelectedByStored, MarkedRead, numOfUnreadInArray, unreadCount,
    countsAsUnread, selection, marks]
  cases passesSelection (state.storedSelection.getD defaultSelection) data with
  | none => simp
  | some passes =>
    by_cases marked : (loadNotifPref state).notificationReadDict.memory data.id = some true <;>
      cases passes <;> simp [marked]

private theorem opens_or_loads (articleID : String) {event : NotificationEvent}
    (later : AfterTap event) :
    (∃ row now, event = .openArticle row now) ∨
      ((∀ state, OpensWithArticleListed articleID state event) ∧
        ∀ state next, notificationStep state event = some next →
          next.notificationReadDict = state.notificationReadDict ∨
            next.notificationReadDict = state.notificationReadDict.load) := by
  cases event with
  | serverChanges server => exact later.elim
  | setUpNotifDot connected =>
    refine .inr ⟨fun _ => trivial, fun state next taken => .inr ?_⟩
    cases connected <;> exact Option.some.inj taken ▸ rfl
  | viewDidLoad connected =>
    refine .inr ⟨fun _ => trivial, fun state next taken => .inr ?_⟩
    cases connected <;> exact Option.some.inj taken ▸ rfl
  | refreshNotifications connected =>
    refine .inr ⟨fun _ => trivial, fun state next taken => .inr ?_⟩
    cases connected <;> exact Option.some.inj taken ▸ rfl
  | complete fetch now =>
    refine .inr ⟨fun _ => trivial, fun state next taken => .inl ?_⟩
    exact (notificationCallback_frame (complete_notification_cases taken).2).marks
  | openArticle row now => exact .inl ⟨row, now, rfl⟩
  | changedSettings generalUpdates tag isOn => exact later.elim
  | didReceive articleID => exact later.elim
  | didReceiveRegistrationToken =>
    exact .inr ⟨fun _ => trivial, fun state next taken => .inl (Option.some.inj taken ▸ rfl)⟩
  | viewWillDisappear dismissed =>
    refine .inr ⟨fun _ => trivial, fun state next taken => .inl ?_⟩
    cases dismissed <;> exact Option.some.inj taken ▸ rfl

private theorem afterTap_server {event : NotificationEvent} (later : AfterTap event)
    {state next : Notifications} (taken : notificationStep state event = some next) :
    next.server = state.server :=
  notificationStep_server (by rintro server rfl; exact later) taken

private theorem afterTap_stored {event : NotificationEvent} (later : AfterTap event)
    {state next : Notifications} (taken : notificationStep state event = some next) :
    next.storedSelection = state.storedSelection := by
  have unswitched : ∀ generalUpdates tag isOn, event ≠ .changedSettings generalUpdates tag isOn := by
    rintro generalUpdates tag isOn rfl
    exact later
  rcases selection_step unswitched taken with same | same
  · exact same.stored
  · exact same.stored

private theorem selectedByStored_step {event : NotificationEvent} (later : AfterTap event)
    {state next : Notifications} (taken : notificationStep state event = some next)
    {data : NotificationData} : SelectedByStored next data ↔ SelectedByStored state data := by
  rw [SelectedByStored, SelectedByStored, afterTap_stored later taken]

/-- The state after the tap and the one without it: the first has the mark of the
article besides, unless it was lost. -/
structure Twins (articleID : String) (list : List NotificationData)
    (states : Notifications × Notifications) : Prop where
  list : serverNotifications states.1.server = list
  same : SameButMarks states.1 states.2
  loaded : states.1.notificationReadDict.load = states.1.notificationReadDict
  without : MarksLoaded states.2
  ahead : MarkStore.AheadAt articleID states.1.notificationReadDict
    states.2.notificationReadDict.load

section twins

variable {articleID : String} {list : List NotificationData}
  {states next : Notifications × Notifications} {event : NotificationEvent}

private theorem twins_tapped {state : Notifications} (loaded : MarksLoaded state) :
    Twins articleID (serverNotifications state.server) (didReceive articleID state, state) where
  list := rfl
  same := ⟨⟨state.notificationReadDict, state.unreadNotifCount, state.notificationDotHidden,
    state.applicationIconBadgeNumber⟩, rfl⟩
  loaded := rfl
  without := loaded
  ahead := MarkStore.AheadAt.mark_saveAll articleID state.notificationReadDict.load

/-- An opened row does the same to both. -/
theorem Twins.opened {row : NotificationData} {now : Int} (twins : Twins articleID list states)
    (taken : sideBySide notificationStep states (.openArticle row now) = some next) :
    next.1.notificationReadDict =
        ((states.1.notificationReadDict.mark row.id).save (listedMessages states.1)).load ∧
      next.2.notificationReadDict =
        ((states.2.notificationReadDict.load.mark row.id).save (listedMessages states.1)).load := by
  obtain ⟨first, second⟩ := sideBySide_iff.mp taken
  obtain ⟨onScreen, same⟩ := tap_cases second
  have loaded : states.2.notificationReadDict.load = states.2.notificationReadDict := by
    rcases twins.without with loaded | ⟨blank, _⟩
    · exact loaded
    · simp [blank] at onScreen
  have listed : listedMessages states.2 = listedMessages states.1 := by
    obtain ⟨remark, same⟩ := twins.same
    rw [same]
    rfl
  rw [loaded, ← listed]
  exact ⟨(tap_cases first).2.marks.trans (by rw [listed]; rfl), same.marks⟩

private theorem twins_step (twins : Twins articleID list states) (later : AfterTap event)
    (taken : sideBySide notificationStep states event = some next) :
    Twins articleID list next := by
  obtain ⟨first, second⟩ := sideBySide_iff.mp taken
  have onServer : serverNotifications next.1.server = list :=
    (congrArg serverNotifications (afterTap_server later first)).trans twins.list
  have same : SameButMarks next.1 next.2 := by
    obtain ⟨after, taken, same⟩ := notificationStep_follows twins.same first
    exact Option.some.inj (second.symm.trans taken) ▸ same
  have without := marksLoaded_step twins.without second
  rcases opens_or_loads articleID later with ⟨row, now, rfl⟩ | ⟨_, loads⟩
  · obtain ⟨marks, others⟩ := twins.opened taken
    refine ⟨onServer, same, ?_, without, ?_⟩
    · rw [marks, MarkStore.load_load]
    · rw [marks, others, MarkStore.load_load]
      exact twins.ahead.mark_save_load row.id (listedMessages states.1)
  · have marks : next.1.notificationReadDict = states.1.notificationReadDict := by
      rcases loads _ _ first with same | loaded
      · exact same
      · exact loaded.trans twins.loaded
    have others : next.2.notificationReadDict.load = states.2.notificationReadDict.load := by
      rcases loads _ _ second with same | loaded
      · rw [same]
      · rw [loaded, MarkStore.load_load]
    exact ⟨onServer, same, marks ▸ twins.loaded, without, others ▸ marks ▸ twins.ahead⟩

private theorem markedRead_of_loaded {state : Notifications} {data : NotificationData}
    (loaded : state.notificationReadDict.load = state.notificationReadDict) :
    MarkedRead state data ↔ state.notificationReadDict.memory data.id = some true := by
  rw [MarkedRead, loadNotifPref, loaded]

/-- The other notifications have the same marks without the tap. -/
theorem Twins.marks_eq {data : NotificationData} (twins : Twins articleID list states)
    (right : PushRead articleID list states) (member : data ∈ list)
    (other : data.notificationArticleID ≠ some articleID) :
    states.1.notificationReadDict.memory data.id =
      states.2.notificationReadDict.load.memory data.id := by
  rcases twins.ahead data.id with same | ⟨_, marked⟩
  · exact same
  · have read : MarkedRead states.1 data := (markedRead_of_loaded twins.loaded).mpr marked
    exact marked.trans ((right.others data member other).mp read).symm

theorem Twins.own_marked {data : NotificationData} (twins : Twins articleID list states)
    (right : PushRead articleID list states) (member : data ∈ list)
    (own : data.notificationArticleID = some articleID)
    (selected : SelectedByStored states.1 data) :
    states.1.notificationReadDict.memory data.id = some true := by
  have read : MarkedRead states.1 data :=
    not_not.mp fun unread => right.own data member own (countedAsUnread_iff.mpr ⟨selected, unread⟩)
  exact (markedRead_of_loaded twins.loaded).mp read

private theorem pushRead_of_loads (right : PushRead articleID list states)
    (loads : ∀ {state next : Notifications}, notificationStep state event = some next →
      next.notificationReadDict = state.notificationReadDict ∨
        next.notificationReadDict = state.notificationReadDict.load)
    (later : AfterTap event) (taken : sideBySide notificationStep states event = some next) :
    PushRead articleID list next := by
  obtain ⟨first, second⟩ := sideBySide_iff.mp taken
  have loaded : ∀ {state next : Notifications}, notificationStep state event = some next →
      ∀ data, MarkedRead next data ↔ MarkedRead state data := by
    intro state next taken data
    rw [MarkedRead, MarkedRead, loadNotifPref, loadNotifPref]
    rcases loads taken with same | loaded
    · rw [same]
    · rw [loaded, MarkStore.load_load]
  constructor
  · intro data member own
    rw [countedAsUnread_iff, selectedByStored_step later first, loaded first,
      ← countedAsUnread_iff]
    exact right.own data member own
  · intro data member other
    rw [loaded first, loaded second]
    exact right.others data member other

private theorem pushRead_opened_iff {row : NotificationData} {now : Int}
    (twins : Twins articleID list states) (right : PushRead articleID list states)
    (taken : sideBySide notificationStep states (.openArticle row now) = some next) :
    PushRead articleID list next ↔
      OpensWithArticleListed articleID states.1 (.openArticle row now) := by
  obtain ⟨first, _⟩ := sideBySide_iff.mp taken
  obtain ⟨marks, others⟩ := twins.opened taken
  have later : AfterTap (.openArticle row now) := trivial
  have loaded := (twins_step twins later taken).loaded
  have selected : ∀ data, SelectedByStored next.1 data ↔ SelectedByStored states.1 data :=
    fun _ => selectedByStored_step later first
  have kept : ∀ data ∈ list, data.notificationArticleID = some articleID →
      SelectedByStored states.1 data →
        (MarkedRead next.1 data ↔ data.id ∈ listedMessages states.1) := by
    intro data member own passes
    rw [markedRead_of_loaded loaded, marks]
    exact MarkStore.mark_save_load_marked (twins.own_marked right member own passes)
  constructor
  · intro read data member own passes
    have onList : data ∈ list := twins.list ▸ member
    have unread := read.own data onList own
    rw [countedAsUnread_iff, selected, kept data onList own passes] at unread
    exact not_not.mp fun unlisted => unread ⟨passes, unlisted⟩
  · intro listed
    constructor
    · intro data member own counted
      rw [countedAsUnread_iff, selected] at counted
      exact counted.2 ((kept data member own counted.1).mpr
        (listed data (twins.list.symm ▸ member) own counted.1))
    · intro data member other
      have same := twins.marks_eq right member other
      rw [markedRead_of_loaded loaded, MarkedRead, loadNotifPref, marks, others,
        MarkStore.load_load, MarkStore.mark_save_load_memory, MarkStore.mark_save_load_memory,
        same]

private theorem pushRead_step_iff (twins : Twins articleID list states) (later : AfterTap event)
    (right : PushRead articleID list states)
    (taken : sideBySide notificationStep states event = some next) :
    PushRead articleID list next ↔ OpensWithArticleListed articleID states.1 event := by
  rcases opens_or_loads articleID later with ⟨row, now, rfl⟩ | ⟨quiet, loads⟩
  · exact pushRead_opened_iff twins right taken
  · exact iff_of_true (pushRead_of_loads right (loads _ _) later taken) (quiet states.1)

private theorem pushRead_tapped_iff {state : Notifications} :
    PushRead articleID (serverNotifications state.server) (didReceive articleID state, state) ↔
      TapNamesMessages articleID state := by
  have memory : ∀ data, MarkedRead (didReceive articleID state) data ↔
      data.id = articleID ∨ MarkedRead state data := by
    intro data
    have marked : (loadNotifPref (didReceive articleID state)).notificationReadDict.memory
        data.id = if data.id = articleID then some true else
          (loadNotifPref state).notificationReadDict.memory data.id := rfl
    rw [MarkedRead, MarkedRead, marked]
    by_cases same : data.id = articleID <;> simp [same]
  have selected : ∀ data, SelectedByStored (didReceive articleID state) data ↔
      SelectedByStored state data := fun _ => Iff.rfl
  constructor
  · intro right
    constructor
    · intro data member own counted
      rw [countedAsUnread_iff] at counted
      have unread := right.own data member own
      rw [countedAsUnread_iff, selected, memory] at unread
      by_contra different
      exact unread ⟨counted.1, by simp [different, counted.2]⟩
    · intro data member other same
      exact (right.others data member other).mp ((memory data).mpr (.inl same))
  · intro names
    constructor
    · intro data member own counted
      rw [countedAsUnread_iff, selected, memory] at counted
      have unread : ¬ MarkedRead state data := fun read => counted.2 (.inr read)
      exact counted.2 (.inl (names.own data member own (countedAsUnread_iff.mpr
        ⟨counted.1, unread⟩)))
    · intro data member other
      rw [memory]
      exact ⟨fun read => read.elim (names.others data member other) id, .inr⟩

end twins

/-- Whatever can follow the tap can happen without it, and the push is read in all
states reached exactly if the tap names the messages and no row is opened while the
article is not in the list. -/
theorem push_read_iff {articleID : String} {state last : Notifications}
    {events : List NotificationEvent} (loaded : MarksLoaded state)
    (later : ∀ event ∈ events, AfterTap event)
    (ran : notificationRun (didReceive articleID state) events = some last) :
    (∃ untapped, notificationRun state events = some untapped) ∧
      (Throughout (sideBySide notificationStep)
          (PushRead articleID (serverNotifications state.server))
          (didReceive articleID state, state) events ↔
        TapNamesMessages articleID state ∧
          Along notificationStep (OpensWithArticleListed articleID) (didReceive articleID state)
            events) := by
  have twins : Twins articleID (serverNotifications state.server)
      (didReceive articleID state, state) := twins_tapped loaded
  obtain ⟨untapped, ranWithout, _⟩ := run_follows notificationStep_follows twins.same ran
  have both : run (sideBySide notificationStep) (didReceive articleID state, state) events =
      some (last, untapped) := run_sideBySide_iff.mpr ⟨ran, ranWithout⟩
  refine ⟨⟨untapped, ranWithout⟩, ?_⟩
  rw [← along_sideBySide_iff both]
  have given : Along (sideBySide notificationStep) (fun _ event => AfterTap event)
      (didReceive articleID state, state) events := Along.of_forall (fun _ => later) _
  constructor
  · intro read
    have names := pushRead_tapped_iff.mp read.first
    exact ⟨names, (throughout_iff_along_of_invariant twins_step pushRead_step_iff twins
      read.first given both).mp read⟩
  · rintro ⟨names, along⟩
    exact (throughout_iff_along_of_invariant twins_step pushRead_step_iff twins
      (pushRead_tapped_iff.mpr names) given both).mpr along

/-- One notification, about the article `a`. -/
def articleNotification (messageID : String) : DataSnapshot :=
  .node "" [.node "notifications"
    [.node messageID [.leaf "notificationArticleID" (.string "a")]]]

def aboutArticle (messageID : String) : NotificationData :=
  { messageID := some messageID, notificationArticleID := some "a" }

private theorem serverNotifications_article (messageID : String) :
    serverNotifications (articleNotification messageID) = [aboutArticle messageID] := rfl

/-- The message has the ID of its article; the page is refreshed after the tap. -/
theorem push_of_same_id_read : ∃ state last,
    notificationRun (.launch (articleNotification "a") none none fun _ => false) pageOpened =
        some state ∧
      notificationRun (didReceive "a" state) refreshed = some last ∧
      Throughout (sideBySide notificationStep)
        (PushRead "a" (serverNotifications state.server)) (didReceive "a" state, state)
        refreshed := by
  obtain ⟨state, opened⟩ : ∃ state, notificationRun
      (.launch (articleNotification "a") none none fun _ => false) pageOpened = some state :=
    ⟨_, rfl⟩
  have server : state.server = articleNotification "a" :=
    notification_server_run (by simp [pageOpened]) opened
  have later : ∀ event ∈ refreshed, AfterTap event := by
    simp [refreshed, AfterTap]
  obtain ⟨last, ran⟩ : ∃ last, notificationRun (didReceive "a" state) refreshed = some last := by
    obtain rfl := Option.some.inj opened
    exact ⟨_, rfl⟩
  refine ⟨state, last, opened, ran, ((push_read_iff (marksLoaded_run opened) later ran).2).mpr ?_⟩
  refine ⟨⟨?_, ?_⟩, trivial, fun _ _ => ⟨trivial, fun _ _ => trivial⟩⟩ <;>
    rw [server, serverNotifications_article]
  · intro data member _ _
    rw [List.mem_singleton.mp member]
    rfl
  · intro data member other
    exact absurd (by rw [List.mem_singleton.mp member]; rfl) other

/-- The message has an ID of its own: it counts as before the tap. -/
theorem tapped_push_stays_unread : ∃ state,
    notificationRun (.launch (articleNotification "m") none none fun _ => false) pageOpened =
        some state ∧
      aboutArticle "m" ∈ state.totalNotificationList ∧
      CountedAsUnread (didReceive "a" state) (aboutArticle "m") ∧
      ¬ PushRead "a" (serverNotifications state.server) (didReceive "a" state, state) := by
  refine ⟨_, rfl, List.mem_singleton.mpr rfl, ⟨_, rfl⟩, ?_⟩
  intro read
  exact read.own (aboutArticle "m") (List.mem_singleton.mpr rfl) rfl ⟨_, rfl⟩

end AhsApp.Ios
