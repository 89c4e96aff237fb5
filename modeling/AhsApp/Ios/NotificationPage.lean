import AhsApp.Ios.NotificationFetch
import AhsApp.Ios.TimeOrder
import AhsApp.Library.Refinement

/-! What the page of notifications shows. It is drawn when its fetch arrives and again after each
tap, from the list that the fetch filled and from the selection that is stored. -/

namespace AhsApp.Ios

open AhsApp.Firebase AhsApp.Library

/-- Neither the list of an opened page is emptied, nor its selection changed, nor is it left. -/
def NotificationEvent.keepsPage : NotificationEvent → Bool
  | .changedSettings _ _ _ => false
  | .viewWillDisappear dismissed => !dismissed
  | event => !empties event

/-- The server, and when and from which server the page was drawn last. -/
structure PageShown where
  server : DataSnapshot
  drawn : Option (Int × DataSnapshot)

def pageShownStep (shown : PageShown) : NotificationEvent → PageShown
  | .serverChanges server => { shown with server }
  | .complete _ now => { shown with drawn := some (now, shown.server) }
  | .openArticle _ now => { shown with drawn := shown.drawn.map fun drawn => (now, drawn.2) }
  | _ => shown

/-- The rows are what the selection lets through, in the order of the moment. -/
def DrawnAt (now : Int) (selectedNotifications : Fin 5 → Bool) (list rows : List NotificationData) :
    Prop :=
  ∃ output, selectedOutput selectedNotifications list = some output ∧ rows.Perm output ∧
    rows.Pairwise fun first second => notificationSort now second first = false

/-- The page is empty until it is drawn. -/
def PageShows (selectedNotifications : Fin 5 → Bool) (rows : List NotificationData) :
    Option (Int × DataSnapshot) → Prop
  | none => rows = []
  | some (now, server) => DrawnAt now selectedNotifications (serverNotifications server) rows

/-- The page has been drawn, from the list as it is and the selection as it was stored. -/
structure Draws (now : Int) (state next : Notifications) : Prop where
  page : next.page = state.page
  stored : next.storedSelection = state.storedSelection
  drawn : DrawnAt now (state.storedSelection.getD defaultSelection) next.totalNotificationList
    next.rows

private theorem loadScrollView_draws {now : Int} {page : Nat} {state next : Notifications}
    (current : state.page = page) (loaded : loadScrollView page now state = some next) :
    Draws now state next := by
  simp only [loadScrollView, filterThroughSelectedNotifcations, Option.bind_eq_bind,
    Option.bind_eq_some_iff, Option.some.injEq] at loaded
  obtain ⟨⟨output, reloaded⟩, ⟨_, selected, same⟩, rfl⟩ := loaded
  obtain ⟨rfl, rfl⟩ := Prod.mk.inj same
  have here : page = (reloadSelection state).page := current.symm
  simp only [if_pos here]
  exact ⟨rfl, rfl, _, selected, sortBy_perm _ _,
    (sortsBy_timeRank now NotificationData.notificationUnixEpoch).sorted _⟩

private theorem deliveries_draw {now : Int} {page : Nat} {items : List NotificationData}
    {state last : Notifications} (current : state.page = page)
    (called : run (deliver (.data page) now) state items = some last) :
    items = [] ∧ last = state ∨ Draws now state last := by
  induction items generalizing state with
  | nil => exact .inl ⟨rfl, (Option.some.inj called).symm⟩
  | cons data rest ih =>
    obtain ⟨middle, delivered, called⟩ := run_cons_iff.mp called
    have draws : Draws now { state with
        totalNotificationList := state.totalNotificationList ++ [data] } middle :=
      loadScrollView_draws current delivered
    right
    rcases ih (draws.page.trans current) called with ⟨rfl, rfl⟩ | later
    · exact ⟨draws.page, draws.stored, draws.drawn⟩
    · exact ⟨later.page.trans draws.page, later.stored.trans draws.stored,
        draws.stored ▸ later.drawn⟩

private theorem complete_draws {now : Int} {page : Nat} {state next : Notifications}
    (current : state.page = page) (blank : state.rows = [])
    (empty : state.totalNotificationList = [])
    (taken : notificationStep state (.complete (.data page) now) = some next) :
    Draws now state next := by
  have called := (complete_notification_cases taken).2
  have current' : { state with inFlight := state.inFlight.erase (.data page) }.page = page := current
  rcases deliveries_draw current' called with ⟨_, rfl⟩ | draws
  · refine ⟨rfl, rfl, ?_⟩
    rw [empty, blank]
    exact ⟨[], rfl, .refl _, .nil⟩
  · exact ⟨draws.page, draws.stored, draws.drawn⟩

private theorem openArticle_draws {row : NotificationData} {now : Int} {state next : Notifications}
    (taken : notificationStep state (.openArticle row now) = some next) : Draws now state next := by
  obtain ⟨_, counted, recount, loaded⟩ := open_notification_cases taken
  obtain ⟨output, count, _, _, rfl⟩ := recountUnread_cases recount
  have draws := loadScrollView_draws rfl loaded
  exact ⟨draws.page, draws.stored, draws.drawn⟩

/-- Until the fetch of the page arrives there is nothing to draw; from then on the list is what
it appended. -/
structure Notifications.Follows (state : Notifications) (opened : Nat)
    (selection : Option (Fin 5 → Bool)) (shown : PageShown) : Prop where
  page : state.page = opened
  stored : state.storedSelection = selection
  server : state.server = shown.server
  inFlight : state.inFlight = shown.drawn.elim [.data opened] fun _ => []
  list : state.totalNotificationList =
    shown.drawn.elim [] fun drawn => serverNotifications drawn.2
  rows : PageShows (selection.getD defaultSelection) state.rows shown.drawn

namespace Notifications.Follows

variable {state next : Notifications} {opened : Nat} {selection : Option (Fin 5 → Bool)}
variable {shown : PageShown}

theorem complete (follows : state.Follows opened selection shown) {fetch : NotificationFetch}
    {now : Int} (taken : notificationStep state (.complete fetch now) = some next) :
    next.Follows opened selection (pageShownStep shown (.complete fetch now)) := by
  obtain ⟨pending, called⟩ := complete_notification_cases taken
  have same := notificationCallback_frame called
  have inFlight := follows.inFlight
  have list := follows.list
  have rows := follows.rows
  cases drawn : shown.drawn with
  | some last =>
    rw [inFlight, drawn] at pending
    exact absurd pending List.not_mem_nil
  | none =>
    rw [drawn] at inFlight list rows
    rw [inFlight] at pending
    obtain rfl := List.mem_singleton.mp pending
    have draws := complete_draws follows.page rows list taken
    have appended : next.totalNotificationList = serverNotifications shown.server := by
      rw [same.list, list, ← follows.server]
      exact List.nil_append _
    have arrived : next.inFlight = [] := by
      rw [same.inFlight]
      simp [inFlight]
    have shows' := draws.drawn
    rw [appended, follows.stored] at shows'
    exact ⟨draws.page.trans follows.page, draws.stored.trans follows.stored,
      same.server.trans follows.server, arrived, appended, shows'⟩

theorem openArticle (follows : state.Follows opened selection shown) {row : NotificationData}
    {now : Int} (taken : notificationStep state (.openArticle row now) = some next) :
    next.Follows opened selection (pageShownStep shown (.openArticle row now)) := by
  obtain ⟨onScreen, same⟩ := tap_cases taken
  have draws := openArticle_draws taken
  have inFlight := follows.inFlight
  have list := follows.list
  have rows := follows.rows
  cases drawn : shown.drawn with
  | none =>
    rw [drawn] at rows
    rw [show state.rows = [] from rows] at onScreen
    exact absurd onScreen List.not_mem_nil
  | some last =>
    rw [drawn] at inFlight list
    have kept : next.totalNotificationList = serverNotifications last.2 := same.list.trans list
    have shows' := draws.drawn
    rw [kept, follows.stored] at shows'
    have again : pageShownStep shown (.openArticle row now) = ⟨shown.server, some (now, last.2)⟩ := by
      rw [pageShownStep, drawn]
      rfl
    rw [again]
    exact ⟨draws.page.trans follows.page, draws.stored.trans follows.stored,
      same.server.trans follows.server, same.inFlight.trans inFlight, kept, shows'⟩

theorem step (follows : state.Follows opened selection shown) {event : NotificationEvent}
    (keeps : event.keepsPage = true) (taken : notificationStep state event = some next) :
    next.Follows opened selection (pageShownStep shown event) := by
  obtain ⟨page, stored, server, inFlight, list, rows⟩ := follows
  cases event with
  | serverChanges server =>
    exact Option.some.inj taken ▸ ⟨page, stored, rfl, inFlight, list, rows⟩
  | setUpNotifDot connected =>
    cases connected with
    | true => cases keeps
    | false => exact Option.some.inj taken ▸ ⟨page, stored, server, inFlight, list, rows⟩
  | viewDidLoad connected => cases keeps
  | refreshNotifications connected =>
    cases connected with
    | true => cases keeps
    | false => exact Option.some.inj taken ▸ ⟨page, stored, server, inFlight, list, rows⟩
  | complete fetch now => exact complete ⟨page, stored, server, inFlight, list, rows⟩ taken
  | openArticle row now => exact openArticle ⟨page, stored, server, inFlight, list, rows⟩ taken
  | changedSettings generalUpdates tag isOn => cases keeps
  | didReceive articleID =>
    exact Option.some.inj taken ▸ ⟨page, stored, server, inFlight, list, rows⟩
  | didReceiveRegistrationToken =>
    exact Option.some.inj taken ▸ ⟨page, stored, server, inFlight, list, rows⟩
  | viewWillDisappear dismissed =>
    cases dismissed with
    | true => cases keeps
    | false => exact Option.some.inj taken ▸ ⟨page, stored, server, inFlight, list, rows⟩

theorem run {state last : Notifications} (idle : state.inFlight = [])
    {events : List NotificationEvent} (keeps : ∀ event ∈ events, event.keepsPage = true)
    (ran : notificationRun (viewDidLoad true state) events = some last) :
    last.Follows (state.page + 1) state.storedSelection
      (events.foldl pageShownStep ⟨state.server, none⟩) := by
  refine run_refines_of_forall
    (fun current shown => current.Follows (state.page + 1) state.storedSelection shown)
    (fun follows keeps taken => step follows keeps taken) ?_ keeps ran
  have started : (viewDidLoad true state).inFlight = [.data (state.page + 1)] := by
    simp [viewDidLoad, getNotificationData, startFetch, loadNotifPref, idle]
  exact ⟨rfl, rfl, rfl, started, rfl, rfl⟩

end Notifications.Follows

/-- A page that is opened while nothing else is fetched is empty until its fetch arrives. From
then on it shows what the stored selection lets through of what the server had, in the order of
the moment of the arrival or of the last tap, whatever else happens while it is open. -/
theorem notification_page_shows {opened last : Notifications} (idle : opened.inFlight = [])
    {events : List NotificationEvent} (keeps : ∀ event ∈ events, event.keepsPage = true)
    (ran : notificationRun (viewDidLoad true opened) events = some last) :
    PageShows (opened.storedSelection.getD defaultSelection) last.rows
      (events.foldl pageShownStep ⟨opened.server, none⟩).drawn :=
  (Notifications.Follows.run idle keeps ran).rows

/-- Two notifications, of the first two categories. -/
def twoNotifications : DataSnapshot :=
  .node "" [.node "notifications"
    [.node "club" [.leaf "notificationCategory" (.number 1)],
      .node "meeting" [.leaf "notificationCategory" (.number 2)]]]

/-- Only the first category was selected. -/
def clubsSelected : Notifications :=
  .launch twoNotifications none (some fun index => index.val = 1) fun _ => false

/-- The page arrives, its notification is tapped, and the server loses both. -/
def clubTapped : List NotificationEvent :=
  [.complete (.data 1) 5,
    .openArticle (decodeNotification (.node "club" [.leaf "notificationCategory" (.number 1)])) 6,
    .serverChanges (.node "" [])]

theorem tapped_page_shown : ∃ last,
    notificationRun (viewDidLoad true clubsSelected) clubTapped = some last ∧
    DrawnAt 6 (fun index => index.val = 1) (serverNotifications twoNotifications) last.rows := by
  obtain ⟨last, ran⟩ : ∃ last, notificationRun (viewDidLoad true clubsSelected) clubTapped =
      some last := Option.isSome_iff_exists.mp (by decide +kernel)
  exact ⟨last, ran, notification_page_shows rfl (by simp [clubTapped, NotificationEvent.keepsPage,
    empties]) ran⟩

end AhsApp.Ios
