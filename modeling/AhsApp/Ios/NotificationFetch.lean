import AhsApp.Ios.Notifications
import AhsApp.Library.Loader

/-! The notification list against the server. The list refines a bag that some
events empty, whether or not they fetch, and that every callback refills. -/

namespace AhsApp.Ios

open AhsApp.Firebase AhsApp.Library

/-- The list holds every notification of the server, each once. -/
def ListMatches (state : Notifications) : Prop :=
  state.totalNotificationList.Perm (serverNotifications state.server) ∧
    state.totalNotificationList.Nodup

/-- The fetches an event starts. A page that is opened offline starts none. -/
def startedFetches (state : Notifications) : NotificationEvent → List NotificationFetch
  | .setUpNotifDot true => [.dot]
  | .viewDidLoad true => [.data (state.page + 1)]
  | .refreshNotifications true => [.data state.page]
  | _ => []

/-- The events that empty the list. -/
def empties : NotificationEvent → Bool
  | .setUpNotifDot internetConnected => internetConnected
  | .viewDidLoad _ => true
  | .refreshNotifications internetConnected => internetConnected
  | _ => false

/-- The server has no notifications, or one fetch is on its way when the list is
emptied for the last time: the one that is started, or an older one of a page opened
offline. -/
def FilledOnce (start : Notifications) (events : List NotificationEvent) : Prop :=
  serverNotifications start.server = [] ∨ ∃ before event after middle,
    events = before ++ event :: after ∧ empties event = true ∧
      (∀ later ∈ after, empties later = false) ∧ notificationRun start before = some middle ∧
      middle.inFlight.length + (startedFetches middle event).length = 1

def listBag (state : Notifications) : Refill NotificationFetch NotificationData :=
  ⟨state.totalNotificationList, state.inFlight⟩

/-- What every callback adds. -/
def notificationBag (server : DataSnapshot) : NotificationFetch → Multiset NotificationData :=
  fun _ => serverNotifications server

private theorem listBag_of_same {state next : Notifications}
    (list : next.totalNotificationList = state.totalNotificationList)
    (inFlight : next.inFlight = state.inFlight) : listBag next = listBag state := by
  rw [listBag, listBag, list, inFlight]

private theorem list_step {state next : Notifications} {event : NotificationEvent}
    (taken : notificationStep state event = some next) :
    (empties event = true ∧ listBag next = (listBag state).start (startedFetches state event)) ∨
      (empties event = false ∧
        ((∃ fetch ∈ (listBag state).inFlight,
            listBag next = (listBag state).complete (notificationBag state.server) fetch) ∨
          listBag next = listBag state)) := by
  cases event with
  | serverChanges server => exact Option.some.inj taken ▸ .inr ⟨rfl, .inr rfl⟩
  | setUpNotifDot connected =>
    cases connected <;> obtain rfl := Option.some.inj taken
    · exact .inr ⟨rfl, .inr rfl⟩
    · exact .inl ⟨rfl, rfl⟩
  | viewDidLoad connected =>
    cases connected <;> obtain rfl := Option.some.inj taken
    · exact .inl ⟨rfl, by simp [listBag, viewDidLoad, getNotificationData, loadNotifPref,
        startedFetches, Refill.start]⟩
    · exact .inl ⟨rfl, rfl⟩
  | refreshNotifications connected =>
    cases connected <;> obtain rfl := Option.some.inj taken
    · exact .inr ⟨rfl, .inr rfl⟩
    · exact .inl ⟨rfl, rfl⟩
  | complete fetch now =>
    obtain ⟨pending, called⟩ := complete_notification_cases taken
    refine .inr ⟨rfl, .inl ⟨fetch, pending, ?_⟩⟩
    have same := notificationCallback_frame called
    simp [listBag, same.list, same.inFlight, Refill.complete, notificationBag]
  | openArticle row now =>
    have same := (tap_cases taken).2
    exact .inr ⟨rfl, .inr (listBag_of_same same.list same.inFlight)⟩
  | changedSettings generalUpdates tag isOn =>
    have same := recountUnread_same taken
    exact .inr ⟨rfl, .inr (listBag_of_same same.list same.inFlight)⟩
  | didReceive articleID => exact Option.some.inj taken ▸ .inr ⟨rfl, .inr rfl⟩
  | didReceiveRegistrationToken => exact Option.some.inj taken ▸ .inr ⟨rfl, .inr rfl⟩
  | viewWillDisappear dismissed =>
    cases dismissed <;> exact Option.some.inj taken ▸ .inr ⟨rfl, .inr rfl⟩

private theorem list_due_run {state last : Notifications} {events : List NotificationEvent}
    (fixed : ∀ server, .serverChanges server ∉ events)
    (quiet : ∀ event ∈ events, empties event = false)
    (ran : notificationRun state events = some last) :
    last.server = state.server ∧
      (listBag last).due (notificationBag state.server) =
        (listBag state).due (notificationBag state.server) := by
  refine run_invariant
    (fun current => current.server = state.server ∧
      (listBag current).due (notificationBag state.server) =
        (listBag state).due (notificationBag state.server))
    (fun _ event => (∀ server, event ≠ .serverChanges server) ∧ empties event = false)
    ?_ ⟨rfl, rfl⟩ (Along.of_forall ?_ state) ran
  · rintro current event next ⟨server, due⟩ ⟨unchanged, silent⟩ taken
    refine ⟨(notificationStep_server unchanged taken).trans server, ?_⟩
    rcases list_step taken with ⟨emptied, _⟩ | ⟨_, ⟨fetch, pending, same⟩ | same⟩
    · simp [silent] at emptied
    · rw [same, server, Refill.due_complete _ pending, due]
    · rw [same, due]
  · exact fun _ event member =>
      ⟨fun server same => fixed server (same ▸ member), quiet event member⟩

private theorem listMatches_iff {state : Notifications}
    (distinct : ((serverNotifications state.server).map (·.messageID)).Nodup) :
    ListMatches state ↔
      (state.totalNotificationList : Multiset NotificationData) =
        serverNotifications state.server := by
  have nodup : (serverNotifications state.server).Nodup := List.Nodup.of_map _ distinct
  rw [ListMatches, Multiset.coe_eq_coe]
  constructor
  · intro matched
    exact matched.1
  · intro same
    exact ⟨same, same.nodup_iff.mpr nodup⟩

private theorem list_after_emptying {middle emptied last : Notifications}
    {event : NotificationEvent}
    {after : List NotificationEvent} (emptying : empties event = true)
    (unchanged : ∀ server, event ≠ .serverChanges server)
    (fixed : ∀ server, .serverChanges server ∉ after)
    (quiet : ∀ later ∈ after, empties later = false)
    (taken : notificationStep middle event = some emptied)
    (ran : notificationRun emptied after = some last) (idle : last.inFlight = []) :
    last.server = middle.server ∧
      (last.totalNotificationList : Multiset NotificationData) =
        ((listBag middle).start (startedFetches middle event)).due
          (notificationBag middle.server) := by
  have kept : emptied.server = middle.server := notificationStep_server unchanged taken
  obtain ⟨same, due⟩ := list_due_run fixed quiet ran
  have arrived : (listBag last).inFlight = 0 := by simp [listBag, idle]
  rcases list_step taken with ⟨_, started⟩ | ⟨silent, _⟩
  · refine ⟨same.trans kept, ?_⟩
    calc (last.totalNotificationList : Multiset NotificationData)
        = (listBag last).due (notificationBag emptied.server) := Refill.bag_of_idle arrived
      _ = (listBag emptied).due (notificationBag emptied.server) := due
      _ = _ := by rw [started, kept]
  · simp [silent] at emptying

section launched

variable {server : DataSnapshot} {saved : Option (List String)}
  {storedSelection : Option (Fin 5 → Bool)} {subscribed : Topic → Bool}
  {events : List NotificationEvent} {last : Notifications}

private theorem untouched_list (fixed : ∀ server, .serverChanges server ∉ events)
    (quiet : ∀ event ∈ events, empties event = false)
    (ran : notificationRun (.launch server saved storedSelection subscribed) events = some last)
    (idle : last.inFlight = []) : last.totalNotificationList = [] := by
  have arrived : (listBag last).inFlight = 0 := by simp [listBag, idle]
  have due := (list_due_run fixed quiet ran).2
  simpa [listBag, Notifications.launch, Refill.due] using
    (Refill.bag_of_idle arrived).trans due

private theorem list_matches_after_emptying {before after : List NotificationEvent}
    {event : NotificationEvent} {middle : Notifications}
    (distinct : ((serverNotifications server).map (·.messageID)).Nodup)
    (fixed : ∀ server, .serverChanges server ∉ before ++ event :: after)
    (emptying : empties event = true) (quiet : ∀ later ∈ after, empties later = false)
    (ranBefore :
      notificationRun (.launch server saved storedSelection subscribed) before = some middle)
    (ran : notificationRun (.launch server saved storedSelection subscribed)
      (before ++ event :: after) = some last)
    (idle : last.inFlight = []) :
    ListMatches last ↔ serverNotifications server = [] ∨
      middle.inFlight.length + (startedFetches middle event).length = 1 := by
  have origin : last.server = server := notification_server_run fixed ran
  simp only [List.mem_append, List.mem_cons, not_or, forall_and] at fixed
  obtain ⟨_, fixedEvent, fixedAfter⟩ := fixed
  obtain ⟨middle', ranBefore', ranRest⟩ := run_append_iff.mp ran
  obtain rfl := Option.some.inj (ranBefore.symm.trans ranBefore')
  obtain ⟨emptied, taken, ranAfter⟩ := run_cons_iff.mp ranRest
  have unchanged : ∀ server, event ≠ .serverChanges server := by
    rintro server rfl
    exact fixedEvent server rfl
  obtain ⟨same, bag⟩ := list_after_emptying emptying unchanged fixedAfter quiet taken ranAfter idle
  rw [listMatches_iff (origin ▸ distinct), bag, ← same, origin]
  exact Refill.due_start_uniform_eq_iff.trans (by simp [listBag])

/-- Over any run of page openings, refreshes, dot fetches and callbacks, the list that
is left matches the server exactly if it was filled once. -/
theorem list_matches_iff
    (distinct : ((serverNotifications server).map (·.messageID)).Nodup)
    (fixed : ∀ server, .serverChanges server ∉ events)
    (ran : notificationRun (.launch server saved storedSelection subscribed) events = some last)
    (idle : last.inFlight = []) :
    ListMatches last ↔
      FilledOnce (.launch server saved storedSelection subscribed) events := by
  by_cases asked : ∃ event ∈ events, empties event = true
  · obtain ⟨before, event, after, split, emptying, none⟩ :=
      exists_last_split (empties · = true) events asked
    have quiet : ∀ later ∈ after, empties later = false := by
      intro later member
      exact Bool.eq_false_iff.mpr (none later member)
    obtain ⟨middle, ranBefore, _⟩ := run_append_iff.mp (split ▸ ran)
    have decided := list_matches_after_emptying distinct (split ▸ fixed) emptying quiet ranBefore
      (split ▸ ran) idle
    constructor
    · intro matched
      rcases decided.mp matched with empty | one
      · exact .inl empty
      · exact .inr ⟨before, event, after, middle, split, emptying, quiet, ranBefore, one⟩
    · rintro (empty | ⟨before, event, after, middle, rfl, emptying, quiet, ranBefore, one⟩)
      · exact decided.mpr (.inl empty)
      · exact (list_matches_after_emptying distinct fixed emptying quiet ranBefore ran idle).mpr
          (.inr one)
  · have quiet : ∀ event ∈ events, empties event = false := by
      intro event member
      exact Bool.eq_false_iff.mpr fun emptying => asked ⟨event, member, emptying⟩
    have blank := untouched_list fixed quiet ran idle
    have origin : last.server = server := notification_server_run fixed ran
    rw [listMatches_iff (origin ▸ distinct), blank, origin]
    constructor
    · intro same
      exact .inl ((Multiset.coe_eq_zero _).mp same.symm)
    · rintro (empty | ⟨before, event, after, _, rfl, emptying, _⟩)
      · exact ((Multiset.coe_eq_zero _).mpr empty).symm
      · exact absurd ⟨event, by simp, emptying⟩ asked

end launched

theorem list_matches_page_opened : ∃ last,
    notificationRun (.launch oneNotification none none fun _ => false) pageOpened = some last ∧
      (ListMatches last ↔
        FilledOnce (.launch oneNotification none none fun _ => false) pageOpened) := by
  refine ⟨_, rfl, list_matches_iff (by decide) ?_ rfl rfl⟩
  simp [pageOpened]

/-- The page is opened while the fetch of the tab bar is on its way. -/
def overlappingFetches : List NotificationEvent :=
  [.setUpNotifDot true, .viewDidLoad true, .complete .dot 0, .complete (.data 1) 0]

theorem overlapping_fetches_duplicate :
    ((serverNotifications oneNotification).map (·.messageID)).Nodup ∧ ∃ last,
      notificationRun (.launch oneNotification none none fun _ => false) overlappingFetches =
          some last ∧
        last.inFlight = [] ∧ ¬ ListMatches last := by
  refine ⟨by decide, _, rfl, rfl, ?_⟩
  unfold ListMatches
  decide

end AhsApp.Ios
