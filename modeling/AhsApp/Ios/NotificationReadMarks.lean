import AhsApp.Ios.Notifications

/-! Read marks of the notifications. A tap prunes the saved marks to the list as it
is at that moment, which every fetch empties when it starts. -/

namespace AhsApp.Ios

open AhsApp.Firebase AhsApp.Library

def NotificationOnServer (server : DataSnapshot) (id : String) : Prop :=
  ∃ data ∈ serverNotifications server, data.id = id

def listedMessages (state : Notifications) : List String :=
  state.totalNotificationList.map NotificationData.id

/-- A tap, on whatever row, finds the notification in the list. -/
def TapsWhileListed (id : String) (state : Notifications) : NotificationEvent → Prop
  | .openArticle _ _ => id ∈ listedMessages state
  | _ => True

/-- What a step can do to the marks. -/
inductive MarksStep (event : NotificationEvent) (state next : Notifications) : Prop
  | kept (quiet : ∀ id, TapsWhileListed id state event)
      (marks : next.notificationReadDict = state.notificationReadDict)
  | loaded (quiet : ∀ id, TapsWhileListed id state event)
      (marks : next.notificationReadDict = state.notificationReadDict.load)
  | tapped (row : NotificationData) (now : Int) (tap : event = .openArticle row now)
      (marks : next.notificationReadDict =
        ((state.notificationReadDict.mark row.id).save (listedMessages state)).load)
  | pushed (quiet : ∀ id, TapsWhileListed id state event) (articleID : String)
      (marks : next.notificationReadDict =
        (state.notificationReadDict.load.mark articleID).saveAll)

private theorem marks_step {state next : Notifications} {event : NotificationEvent}
    (taken : notificationStep state event = some next) : MarksStep event state next := by
  cases event with
  | serverChanges server => exact Option.some.inj taken ▸ .kept (fun _ => trivial) rfl
  | setUpNotifDot connected =>
    cases connected <;> exact Option.some.inj taken ▸ .loaded (fun _ => trivial) rfl
  | viewDidLoad connected =>
    cases connected <;> exact Option.some.inj taken ▸ .loaded (fun _ => trivial) rfl
  | refreshNotifications connected =>
    cases connected <;> exact Option.some.inj taken ▸ .loaded (fun _ => trivial) rfl
  | complete fetch now =>
    obtain ⟨_, called⟩ := complete_notification_cases taken
    exact .kept (fun _ => trivial) (notificationCallback_frame called).marks
  | openArticle row now => exact .tapped row now rfl (tap_cases taken).2.marks
  | changedSettings generalUpdates tag isOn =>
    exact .loaded (fun _ => trivial) (recountUnread_same taken).marks
  | didReceive articleID =>
    exact Option.some.inj taken ▸ .pushed (fun _ => trivial) articleID rfl
  | didReceiveRegistrationToken => exact Option.some.inj taken ▸ .kept (fun _ => trivial) rfl
  | viewWillDisappear dismissed =>
    cases dismissed <;> exact Option.some.inj taken ▸ .kept (fun _ => trivial) rfl

private theorem tap_kept_iff {state opened : Notifications} {row : NotificationData} {now : Int}
    (taken : notificationStep state (.openArticle row now) = some opened) :
    opened.notificationReadDict.Kept row.id ↔ row.id ∈ listedMessages state := by
  rw [(tap_cases taken).2.marks]
  exact MarkStore.kept_save_load_iff (MarkStore.mark_self ..)

/-- A mark survives exactly the steps that list it when they prune. -/
theorem notification_kept_step_iff {state next : Notifications} {event : NotificationEvent}
    {id : String} (kept : state.notificationReadDict.Kept id)
    (taken : notificationStep state event = some next) :
    next.notificationReadDict.Kept id ↔ TapsWhileListed id state event := by
  cases marks_step taken with
  | kept quiet marks => exact iff_of_true (marks ▸ kept) (quiet id)
  | loaded quiet marks => exact iff_of_true (marks ▸ kept.load) (quiet id)
  | tapped row now tap marks =>
    subst tap
    rw [marks]
    exact MarkStore.kept_save_load_iff (MarkStore.mark_of_marked row.id kept.1)
  | pushed quiet articleID marks =>
    exact iff_of_true (marks ▸ kept.load.mark_saveAll articleID) (quiet id)

/-- Once tapped, a notification stays read, in memory and on disk, if and only if
that tap and every later one find it in the list. -/
theorem opened_notification_stays_read {state opened last : Notifications}
    {row : NotificationData} {now : Int} {after : List NotificationEvent}
    (taken : notificationStep state (.openArticle row now) = some opened)
    (ran : notificationRun opened after = some last) :
    Throughout notificationStep (fun state => state.notificationReadDict.Kept row.id) opened
        after ↔
      Along notificationStep (TapsWhileListed row.id) state (.openArticle row now :: after) := by
  constructor
  · intro kept
    refine ⟨(tap_kept_iff taken).mp kept.first, ?_⟩
    intro next same
    obtain rfl : opened = next := Option.some.inj (taken.symm.trans same)
    exact (throughout_iff_along notification_kept_step_iff kept.first ran).mp kept
  · rintro ⟨listed, later⟩
    have kept : opened.notificationReadDict.Kept row.id := (tap_kept_iff taken).mpr listed
    exact (throughout_iff_along notification_kept_step_iff kept ran).mpr (later opened taken)

private theorem notificationOnServer_throughout {state : Notifications}
    {events : List NotificationEvent}
    {id : String} (fixed : ∀ server, .serverChanges server ∉ events)
    (onServer : NotificationOnServer state.server id) :
    Throughout notificationStep (fun state => NotificationOnServer state.server id) state
      events :=
  Throughout.of_view (NotificationOnServer · id) Notifications.server notificationStep_server
    (fun _ member server same => fixed server (same ▸ member)) onServer

/-- The page is refreshed after the tap. -/
def refreshed : List NotificationEvent := [.refreshNotifications true, .complete (.data 1) 0]

theorem welcome_stays_read : ∃ state opened,
    notificationRun (.launch oneNotification none none fun _ => false) pageOpened = some state ∧
      notificationStep state (.openArticle welcome 0) = some opened ∧
      Throughout notificationStep (fun state => state.notificationReadDict.Kept welcome.id) opened
        refreshed := by
  obtain ⟨last, ran⟩ : ∃ last, notificationRun (.launch oneNotification none none fun _ => false)
      (pageOpened ++ .openArticle welcome 0 :: refreshed) = some last := ⟨_, rfl⟩
  obtain ⟨state, ranBefore, ranRest⟩ := run_append_iff.mp ran
  obtain ⟨opened, taken, ranAfter⟩ := run_cons_iff.mp ranRest
  have computed : (notificationRun (.launch oneNotification none none fun _ => false)
      pageOpened).map listedMessages = some ["welcome"] := rfl
  have listed : listedMessages state = ["welcome"] := by simpa [ranBefore] using computed
  refine ⟨state, opened, ranBefore, taken, (opened_notification_stays_read taken ranAfter).mpr ?_⟩
  have here : welcome.id ∈ listedMessages state := by
    rw [listed]
    decide
  exact ⟨here, fun _ _ => ⟨trivial, fun _ _ => ⟨trivial, fun _ _ => trivial⟩⟩⟩

/-- The row is tapped while the fetch of a refresh is on its way. -/
theorem tap_during_refresh_loses_mark : ∃ state opened last,
    notificationRun (.launch oneNotification none none fun _ => false)
        (pageOpened ++ [.refreshNotifications true]) = some state ∧
      notificationStep state (.openArticle welcome 0) = some opened ∧
      notificationRun opened [.complete (.data 1) 0] = some last ∧
      Throughout notificationStep (fun state => NotificationOnServer state.server welcome.id)
        opened [.complete (.data 1) 0] ∧
      last.inFlight = [] ∧ last.notificationReadDict.memory welcome.id ≠ some true := by
  refine ⟨_, _, _, rfl, rfl, rfl, ?_, rfl, by decide⟩
  exact notificationOnServer_throughout (by simp) ⟨welcome, by decide, rfl⟩

end AhsApp.Ios
