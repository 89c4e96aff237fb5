import AhsApp.Ios.NotificationFetch

/-! The unread count against the notifications it should count. The dot fetch counts
them as they arrive and a tap or a switch counts them again; the other events that
change the list or the marks leave the count as it is. -/

namespace AhsApp.Ios

open AhsApp.Firebase AhsApp.Library

/-- The notifications that the unread loops count. -/
def unreadIn (state : Notifications) (list : List NotificationData) : List NotificationData :=
  list.filter fun data => countsAsUnread state data == some true

def unreadNumber (state : Notifications) : Nat :=
  (unreadIn state state.totalNotificationList).length

/-- What `updateNotifDot` shows, if it runs now with no fetch in flight. -/
def BadgeRight (state : Notifications) : Prop :=
  state.inFlight = [] → state.unreadNotifCount = unreadNumber state ∧
    ((updateNotifDot state).notificationDotHidden = true ↔ unreadNumber state = 0)

/-- No fetch is started while another one is on its way. -/
def NoOverlap (state : Notifications) (event : NotificationEvent) : Prop :=
  startedFetches state event ≠ [] → state.inFlight = []

/-- The count is left alone, or zeroed, only where that is right: a page fetch brings
as many unread notifications as are counted, nothing is counted when the tab bar or
the page is set up offline, and a tapped push names no unread notification. -/
def CountStays (state : Notifications) : NotificationEvent → Prop
  | .setUpNotifDot false => state.inFlight = [] → state.unreadNotifCount = 0
  | .viewDidLoad false => state.inFlight = [] → state.unreadNotifCount = 0
  | .complete (.data _) _ => state.unreadNotifCount =
      (unreadIn (reloadSelection state) (serverNotifications state.server)).length
  | .didReceive articleID =>
      ∀ data ∈ unreadIn state state.totalNotificationList, data.id ≠ articleID
  | _ => True

private theorem unreadIn_congr {state next : Notifications} (list : List NotificationData)
    (selection : next.selectedNotifications = state.selectedNotifications)
    (marks : next.notificationReadDict = state.notificationReadDict) :
    unreadIn next list = unreadIn state list := by
  simp only [unreadIn, countsAsUnread, selection, marks]

private theorem selectedOutput_eq {selected : Fin 5 → Bool} {list output : List NotificationData}
    (filtered : selectedOutput selected list = some output) :
    output = list.filter fun data => passesSelection selected data == some true := by
  induction list generalizing output with
  | nil => exact (Option.some.inj filtered).symm
  | cons data rest ih =>
    simp only [selectedOutput, Option.bind_eq_bind, Option.bind_eq_some_iff, Option.some.injEq]
      at filtered
    obtain ⟨passes, tested, tail, found, rfl⟩ := filtered
    rw [List.filter_cons, tested, ← ih found]
    cases passes <;> rfl

theorem unreadCount_eq {state : Notifications} {list : List NotificationData} {count : Nat}
    (counted : unreadCount state list = some count) : count = (unreadIn state list).length := by
  induction list generalizing count with
  | nil => exact (Option.some.inj counted).symm
  | cons data rest ih =>
    simp only [unreadCount, Option.bind_eq_bind, Option.bind_eq_some_iff, Option.some.injEq]
      at counted
    obtain ⟨unread, tested, tail, found, rfl⟩ := counted
    rw [unreadIn, List.filter_cons, tested, ih found]
    cases unread <;> rfl

private theorem unreadIn_filter (state : Notifications) (list : List NotificationData) :
    unreadIn state (list.filter fun data =>
        passesSelection state.selectedNotifications data == some true) = unreadIn state list := by
  rw [unreadIn, List.filter_filter]
  refine List.filter_congr ?_
  intro data _
  cases tested : passesSelection state.selectedNotifications data with
  | none => simp [countsAsUnread, tested]
  | some passes => cases passes <;> simp [countsAsUnread, tested]

private theorem recountUnread_count {state next : Notifications}
    (recount : recountUnread state = some next) : next.unreadNotifCount = unreadNumber next := by
  obtain ⟨output, count, filtered, counted, rfl⟩ := recountUnread_cases recount
  rw [selectedOutput_eq filtered] at counted
  exact (unreadCount_eq counted).trans (congrArg List.length (unreadIn_filter _ _))

private theorem loadScrollView_count {page : Nat} {now : Int} {state next : Notifications}
    (loaded : loadScrollView page now state = some next) :
    next.unreadNotifCount = state.unreadNotifCount := by
  obtain ⟨rows, rfl⟩ := loadScrollView_cases loaded
  rfl

theorem dot_callback_count {now : Int} {items : List NotificationData}
    {state last : Notifications} (called : run (deliver .dot now) state items = some last) :
    last.unreadNotifCount = state.unreadNotifCount + (unreadIn state items).length ∧
      SameSelection state last := by
  induction items generalizing state with
  | nil =>
    obtain rfl := Option.some.inj called
    exact ⟨rfl, rfl, rfl, rfl⟩
  | cons data rest ih =>
    obtain ⟨middle, delivered, called⟩ := run_cons_iff.mp called
    obtain ⟨count, selection⟩ := ih called
    simp only [deliver, Option.bind_eq_bind, Option.bind_eq_some_iff, Option.some.injEq]
      at delivered
    obtain ⟨unread, tested, result⟩ := delivered
    have now : countsAsUnread state data = some unread := tested
    have kept : SameSelection state middle := by
      subst result
      cases unread <;> exact ⟨rfl, rfl, rfl⟩
    have marks : middle.notificationReadDict = state.notificationReadDict := by
      subst result
      cases unread <;> rfl
    have counted : middle.unreadNotifCount =
        state.unreadNotifCount + (unreadIn state [data]).length := by
      subst result
      cases unread <;> simp [unreadIn, now, updateNotifDot]
    refine ⟨?_, selection.trans kept⟩
    rw [count, counted, unreadIn_congr rest kept.selected marks, Nat.add_assoc,
      ← List.length_append, unreadIn, unreadIn, ← List.filter_append]
    rfl

private theorem page_callback_count {page : Nat} {now : Int} {items : List NotificationData}
    {state last : Notifications} (called : run (deliver (.data page) now) state items = some last) :
    last.unreadNotifCount = state.unreadNotifCount ∧
      (items ≠ [] → SameSelection (reloadSelection state) last) := by
  induction items generalizing state with
  | nil =>
    obtain rfl := Option.some.inj called
    exact ⟨rfl, fun absent => absurd rfl absent⟩
  | cons data rest ih =>
    obtain ⟨middle, delivered, called⟩ := run_cons_iff.mp called
    obtain ⟨count, selection⟩ := ih called
    have kept := loadScrollView_count delivered
    have first := loadScrollView_selection delivered
    refine ⟨count.trans kept, ?_⟩
    intro _
    cases rest with
    | nil =>
      obtain rfl := Option.some.inj called
      exact first.trans ⟨rfl, rfl, rfl⟩
    | cons next rest =>
      exact (selection (by simp)).trans (first.reload.trans ⟨rfl, rfl, rfl⟩)

/-- What a step can do to the count and to what it depends on. -/
inductive BadgeStep (event : NotificationEvent) (state next : Notifications) : Prop
  | quiet (stays : CountStays state event)
      (list : next.totalNotificationList = state.totalNotificationList)
      (inFlight : next.inFlight = state.inFlight)
      (count : next.unreadNotifCount = state.unreadNotifCount)
      (stored : next.storedSelection = state.storedSelection)
      (selection : next.selectedNotifications = state.selectedNotifications ∨
        next.selectedNotifications = state.storedSelection.getD defaultSelection)
      (marks : next.notificationReadDict = state.notificationReadDict ∨
        next.notificationReadDict = state.notificationReadDict.load)
  | offline (event_eq : event = .setUpNotifDot false)
      (result : next = updateNotifDot
        { reloadSelection (loadNotifPref state) with unreadNotifCount := 0 })
  | blank (event_eq : event = .viewDidLoad false) (result : next = viewDidLoad false state)
  | started (fetch : NotificationFetch) (stays : CountStays state event)
      (starts : startedFetches state event = [fetch])
      (list : next.totalNotificationList = [])
      (inFlight : next.inFlight = state.inFlight ++ [fetch])
      (marks : next.notificationReadDict = state.notificationReadDict.load)
      (counting : fetch = .dot → next.unreadNotifCount = 0 ∧
        next.selectedNotifications = next.storedSelection.getD defaultSelection)
  | arrived (fetch : NotificationFetch) (now : Int) (event_eq : event = .complete fetch now)
      (pending : fetch ∈ state.inFlight)
      (called : notificationCallback fetch now
        { state with inFlight := state.inFlight.erase fetch } = some next)
  | recounted (stays : CountStays state event)
      (list : next.totalNotificationList = state.totalNotificationList)
      (inFlight : next.inFlight = state.inFlight)
      (count : next.unreadNotifCount = unreadNumber next)
      (selection : next.selectedNotifications = next.storedSelection.getD defaultSelection)
      (marks : next.notificationReadDict.load = next.notificationReadDict)
  | pushed (articleID : String) (event_eq : event = .didReceive articleID)
      (result : next = didReceive articleID state)

private theorem badge_step {state next : Notifications} {event : NotificationEvent}
    (taken : notificationStep state event = some next) : BadgeStep event state next := by
  cases event with
  | serverChanges server =>
    exact Option.some.inj taken ▸ .quiet trivial rfl rfl rfl rfl (.inl rfl) (.inl rfl)
  | setUpNotifDot connected =>
    cases connected <;> obtain rfl := Option.some.inj taken
    · exact .offline rfl rfl
    · exact .started .dot trivial rfl rfl rfl rfl fun _ => ⟨rfl, rfl⟩
  | viewDidLoad connected =>
    cases connected <;> obtain rfl := Option.some.inj taken
    · exact .blank rfl rfl
    · exact .started (.data (state.page + 1)) trivial rfl rfl rfl rfl fun same => nomatch same
  | refreshNotifications connected =>
    cases connected <;> obtain rfl := Option.some.inj taken
    · exact .quiet trivial rfl rfl rfl rfl (.inl rfl) (.inr rfl)
    · exact .started (.data state.page) trivial rfl rfl rfl rfl fun same => nomatch same
  | complete fetch now =>
    obtain ⟨pending, called⟩ := complete_notification_cases taken
    exact .arrived fetch now rfl pending called
  | openArticle row now =>
    have same := (tap_cases taken).2
    obtain ⟨_, counted, recount, loaded⟩ := open_notification_cases taken
    have shown := loadScrollView_same loaded
    have reloaded := recountUnread_selection recount
    have again := loadScrollView_selection loaded
    have selection : next.selectedNotifications = counted.selectedNotifications := by
      rw [again.selected, reloaded.selected, reloaded.reload.selected]
      rfl
    refine .recounted trivial same.list same.inFlight ?_ ?_ ?_
    · rw [loadScrollView_count loaded, recountUnread_count recount, unreadNumber, unreadNumber,
        shown.list, unreadIn_congr _ selection shown.marks]
    · rw [again.selected, again.stored]
      rfl
    · rw [same.marks]
      exact MarkStore.load_load _
  | changedSettings generalUpdates tag isOn =>
    have same := recountUnread_same taken
    have reloaded := recountUnread_selection taken
    refine .recounted trivial same.list same.inFlight (recountUnread_count taken) ?_ ?_
    · rw [reloaded.selected, reloaded.stored]
      rfl
    · rw [same.marks]
      exact MarkStore.load_load _
  | didReceive articleID => exact Option.some.inj taken ▸ .pushed articleID rfl rfl
  | didReceiveRegistrationToken =>
    exact Option.some.inj taken ▸ .quiet trivial rfl rfl rfl rfl (.inr rfl) (.inl rfl)
  | viewWillDisappear dismissed =>
    cases dismissed <;>
      exact Option.some.inj taken ▸ .quiet trivial rfl rfl rfl rfl (.inl rfl) (.inl rfl)

/-- What holds between steps while fetches do not overlap: the list is empty until the
one fetch on its way arrives, and a list is shown under loaded marks and selection. -/
structure Settled (state : Notifications) : Prop where
  single : state.inFlight.length ≤ 1
  waiting : state.inFlight ≠ [] → state.totalNotificationList = []
  counting : .dot ∈ state.inFlight → state.unreadNotifCount = 0
  marks : state.totalNotificationList ≠ [] ∨ state.inFlight ≠ [] →
    state.notificationReadDict.load = state.notificationReadDict
  selection : state.totalNotificationList ≠ [] ∨ .dot ∈ state.inFlight →
    state.selectedNotifications = state.storedSelection.getD defaultSelection

private theorem settled_launch (server : DataSnapshot) (saved : Option (List String))
    (storedSelection : Option (Fin 5 → Bool)) (subscribed : Topic → Bool) :
    Settled (.launch server saved storedSelection subscribed) := by
  constructor <;> simp [Notifications.launch]

/-- Nothing else is on its way when a fetch arrives. -/
theorem Settled.only {state : Notifications} {fetch : NotificationFetch}
    (settled : Settled state) (pending : fetch ∈ state.inFlight) : state.inFlight = [fetch] := by
  have single := settled.single
  match inFlight : state.inFlight with
  | [] => simp [inFlight] at pending
  | [other] =>
    rw [inFlight, List.mem_singleton] at pending
    rw [pending]
  | first :: second :: rest =>
    rw [inFlight, List.length_cons, List.length_cons] at single
    omega

/-- What the server has is the list when the fetch on its way arrives. The dot fetch
counts it and a page fetch leaves the count alone. -/
theorem Settled.arrival {state next : Notifications} {fetch : NotificationFetch} {now : Int}
    (settled : Settled state) (pending : fetch ∈ state.inFlight)
    (called : notificationCallback fetch now
      { state with inFlight := state.inFlight.erase fetch } = some next) :
    next.inFlight = [] ∧ next.totalNotificationList = serverNotifications state.server ∧
      next.notificationReadDict = state.notificationReadDict ∧
      (next.totalNotificationList ≠ [] →
        next.selectedNotifications = next.storedSelection.getD defaultSelection) ∧
      match fetch with
      | .data _ => next.unreadNotifCount = state.unreadNotifCount ∧
          unreadNumber next =
            (unreadIn (reloadSelection state) (serverNotifications state.server)).length
      | .dot => next.unreadNotifCount = unreadNumber next := by
  have same := notificationCallback_frame called
  have inFlight : next.inFlight = [] := by simp [same.inFlight, settled.only pending]
  have waiting : state.totalNotificationList = [] :=
    settled.waiting (List.ne_nil_of_mem pending)
  have list : next.totalNotificationList = serverNotifications state.server := by
    simp [same.list, waiting]
  refine ⟨inFlight, list, same.marks, ?_⟩
  cases fetch with
  | data page =>
    obtain ⟨count, selection⟩ := page_callback_count called
    have shown : next.totalNotificationList ≠ [] →
        next.selectedNotifications = next.storedSelection.getD defaultSelection := by
      rw [list]
      intro present
      rw [(selection present).selected, (selection present).stored]
      rfl
    refine ⟨shown, count, ?_⟩
    rw [unreadNumber, list]
    by_cases present : serverNotifications state.server = []
    · rw [present]
      rfl
    · exact congrArg List.length (unreadIn_congr _ (selection present).selected same.marks)
  | dot =>
    obtain ⟨count, selection⟩ := dot_callback_count called
    have reloaded : next.selectedNotifications = next.storedSelection.getD defaultSelection := by
      rw [selection.selected, selection.stored]
      exact settled.selection (.inr pending)
    refine ⟨fun _ => reloaded, ?_⟩
    have zero : state.unreadNotifCount = 0 := settled.counting pending
    rw [count, unreadNumber, list, unreadIn_congr _ selection.selected same.marks]
    simp [zero]

private theorem settled_step {state next : Notifications} {event : NotificationEvent}
    (settled : Settled state) (apart : NoOverlap state event)
    (taken : notificationStep state event = some next) : Settled next := by
  cases badge_step taken with
  | quiet stays list inFlight count stored selection marks =>
    constructor
    · exact inFlight ▸ settled.single
    · rw [list, inFlight]
      exact settled.waiting
    · rw [inFlight, count]
      exact settled.counting
    · rw [list, inFlight]
      intro shown
      rcases marks with same | loaded
      · exact same ▸ settled.marks shown
      · rw [loaded, MarkStore.load_load]
    · rw [list, inFlight, stored]
      intro shown
      rcases selection with same | reloaded
      · exact same.trans (settled.selection shown)
      · exact reloaded
  | offline event_eq result =>
    subst result
    exact ⟨settled.single, settled.waiting, fun _ => rfl,
      fun _ => MarkStore.load_load _, fun _ => rfl⟩
  | blank event_eq result =>
    subst result
    refine ⟨settled.single, fun _ => rfl, settled.counting, fun _ => MarkStore.load_load _, ?_⟩
    rintro (shown | pending)
    · exact absurd rfl shown
    · exact settled.selection (.inr pending)
  | started fetch stays starts list inFlight marks counting =>
    have idle : state.inFlight = [] := apart (by simp [starts])
    rw [idle, List.nil_append] at inFlight
    constructor
    · simp [inFlight]
    · exact fun _ => list
    · rw [inFlight, List.mem_singleton]
      intro same
      exact (counting same.symm).1
    · intro _
      rw [marks, MarkStore.load_load]
    · rw [list, inFlight, List.mem_singleton]
      rintro (shown | same)
      · exact absurd rfl shown
      · exact (counting same.symm).2
  | arrived fetch now event_eq pending called =>
    obtain ⟨inFlight, list, marks, selection, _⟩ := settled.arrival pending called
    have loaded : next.notificationReadDict.load = next.notificationReadDict := by
      rw [marks]
      exact settled.marks (.inr (List.ne_nil_of_mem pending))
    constructor
    · simp [inFlight]
    · exact fun waiting => absurd inFlight waiting
    · simp [inFlight]
    · exact fun _ => loaded
    · rintro (shown | waiting)
      · exact selection shown
      · simp [inFlight] at waiting
  | recounted stays list inFlight count selection marks =>
    constructor
    · exact inFlight ▸ settled.single
    · rw [list, inFlight]
      exact settled.waiting
    · rw [inFlight]
      intro pending
      have empty : next.totalNotificationList = [] :=
        list.trans (settled.waiting (List.ne_nil_of_mem pending))
      rw [count, unreadNumber, empty]
      rfl
    · exact fun _ => marks
    · exact fun _ => selection
  | pushed articleID event_eq result =>
    subst result
    exact ⟨settled.single, settled.waiting, settled.counting, fun _ => rfl, settled.selection⟩

private theorem badgeRight_iff {state : Notifications} :
    BadgeRight state ↔ (state.inFlight = [] → state.unreadNotifCount = unreadNumber state) := by
  constructor
  · intro right idle
    exact (right idle).1
  · intro counted idle
    have count := counted idle
    exact ⟨count, by simp [updateNotifDot, ← count]⟩

private theorem unreadNumber_congr {state next : Notifications}
    (list : next.totalNotificationList = state.totalNotificationList)
    (shown : state.totalNotificationList ≠ [] →
      next.selectedNotifications = state.selectedNotifications ∧
        next.notificationReadDict = state.notificationReadDict) :
    unreadNumber next = unreadNumber state := by
  rw [unreadNumber, unreadNumber, list]
  by_cases empty : state.totalNotificationList = []
  · rw [empty]
    rfl
  · obtain ⟨selection, marks⟩ := shown empty
    rw [unreadIn_congr _ selection marks]

/-- Loading and reloading change nothing for a list that is shown. -/
theorem Settled.shown {state next : Notifications} (settled : Settled state)
    (selection : next.selectedNotifications = state.selectedNotifications ∨
      next.selectedNotifications = state.storedSelection.getD defaultSelection)
    (marks : next.notificationReadDict = state.notificationReadDict ∨
      next.notificationReadDict = state.notificationReadDict.load)
    (present : state.totalNotificationList ≠ []) :
    next.selectedNotifications = state.selectedNotifications ∧
      next.notificationReadDict = state.notificationReadDict := by
  constructor
  · rcases selection with same | reloaded
    · exact same
    · exact reloaded.trans (settled.selection (.inl present)).symm
  · rcases marks with same | loaded
    · exact same
    · exact loaded.trans (settled.marks (.inl present))

private theorem unreadIn_didReceive {state : Notifications} (articleID : String)
    (loaded : state.notificationReadDict.load = state.notificationReadDict)
    (list : List NotificationData) :
    unreadIn (didReceive articleID state) list =
      (unreadIn state list).filter fun data => decide (data.id ≠ articleID) := by
  rw [unreadIn, unreadIn, List.filter_filter]
  refine List.filter_congr ?_
  intro data _
  have memory : (didReceive articleID state).notificationReadDict.memory data.id =
      if data.id = articleID then some true else state.notificationReadDict.memory data.id := by
    simp only [didReceive, saveNotifPref, loadNotifPref, loaded]
    rfl
  have selection : (didReceive articleID state).selectedNotifications =
      state.selectedNotifications := rfl
  simp only [countsAsUnread, memory, selection]
  by_cases same : data.id = articleID <;>
    cases passesSelection state.selectedNotifications data <;> simp [same]

theorem Settled.didReceive_count_iff {state : Notifications} (settled : Settled state)
    (articleID : String)
    (right : state.inFlight = [] → state.unreadNotifCount = unreadNumber state) :
    ((didReceive articleID state).inFlight = [] →
        (didReceive articleID state).unreadNotifCount =
          unreadNumber (didReceive articleID state)) ↔
      CountStays state (.didReceive articleID) := by
  by_cases empty : state.totalNotificationList = []
  · have number : unreadNumber (didReceive articleID state) = unreadNumber state :=
      unreadNumber_congr rfl fun present => absurd empty present
    refine iff_of_true ?_ ?_
    · rw [number]
      exact right
    · simp [CountStays, unreadIn, empty]
  · have loaded : state.notificationReadDict.load = state.notificationReadDict :=
      settled.marks (.inl empty)
    have idle : state.inFlight = [] := not_imp_comm.mp settled.waiting empty
    have number : unreadNumber (didReceive articleID state) =
        ((unreadIn state state.totalNotificationList).filter fun data =>
          decide (data.id ≠ articleID)).length :=
      congrArg List.length (unreadIn_didReceive articleID loaded _)
    have count : (didReceive articleID state).unreadNotifCount =
        (unreadIn state state.totalNotificationList).length := right idle
    have kept : (unreadIn state state.totalNotificationList).length =
        ((unreadIn state state.totalNotificationList).filter fun data =>
          decide (data.id ≠ articleID)).length ↔ CountStays state (.didReceive articleID) := by
      rw [eq_comm, List.length_filter_eq_length_iff]
      simp only [decide_eq_true_eq, CountStays]
    rw [number, count]
    exact ⟨fun right => kept.mp (right idle), fun stays _ => kept.mpr stays⟩

/-- A step keeps the badge right exactly when its count may stay. -/
theorem badgeRight_step_iff {state next : Notifications} {event : NotificationEvent}
    (settled : Settled state) (apart : NoOverlap state event) (right : BadgeRight state)
    (taken : notificationStep state event = some next) :
    BadgeRight next ↔ CountStays state event := by
  rw [badgeRight_iff] at right ⊢
  cases badge_step taken with
  | quiet stays list inFlight count stored selection marks =>
    have number := unreadNumber_congr list (settled.shown selection marks)
    refine iff_of_true ?_ stays
    rw [inFlight, count, number]
    exact right
  | offline event_eq result =>
    subst event_eq result
    have number : unreadNumber (updateNotifDot
        { reloadSelection (loadNotifPref state) with unreadNotifCount := 0 }) =
          unreadNumber state :=
      unreadNumber_congr rfl (settled.shown (.inr rfl) (.inr rfl))
    rw [number]
    refine forall_congr' fun idle => ?_
    rw [right idle]
    exact eq_comm
  | blank event_eq result =>
    subst event_eq result
    exact Iff.rfl
  | started fetch stays starts list inFlight marks counting =>
    refine iff_of_true ?_ stays
    intro idle
    simp [inFlight] at idle
  | arrived fetch now event_eq pending called =>
    subst event_eq
    obtain ⟨inFlight, _, _, _, counted⟩ := settled.arrival pending called
    cases fetch with
    | data page =>
      obtain ⟨count, number⟩ := counted
      rw [count, number]
      exact ⟨fun right => right inFlight, fun stays _ => stays⟩
    | dot => exact iff_of_true (fun _ => counted) trivial
  | recounted stays list inFlight count selection marks => exact iff_of_true (fun _ => count) stays
  | pushed articleID event_eq result =>
    subst event_eq result
    exact settled.didReceive_count_iff articleID right

section launched

variable {server : DataSnapshot} {saved : Option (List String)}
  {storedSelection : Option (Fin 5 → Bool)} {subscribed : Topic → Bool}

/-- Over any run without overlapping fetches, the badge is right whenever the page may
close exactly if every event that leaves the count alone may do so. -/
theorem badge_right_iff {events : List NotificationEvent} {last : Notifications}
    (apart : Along notificationStep NoOverlap
      (.launch server saved storedSelection subscribed) events)
    (ran : notificationRun (.launch server saved storedSelection subscribed) events = some last) :
    Throughout notificationStep BadgeRight (.launch server saved storedSelection subscribed)
        events ↔
      Along notificationStep CountStays (.launch server saved storedSelection subscribed)
        events :=
  throughout_iff_along_of_invariant settled_step badgeRight_step_iff
    (settled_launch server saved storedSelection subscribed) (badgeRight_iff.mpr fun _ => rfl)
    apart ran

end launched

def mandatoryNotification : DataSnapshot :=
  .node "" [.node "notifications" [.node "m" [.leaf "notificationCategory" (.number 0)]]]

/-- The tab bar counts, then the page is closed. -/
def dotFetched : List NotificationEvent :=
  [.setUpNotifDot true, .complete .dot 0, .viewWillDisappear true]

theorem badge_right_dot_fetched : ∃ last,
    notificationRun (.launch mandatoryNotification none none fun _ => false) dotFetched =
        some last ∧
      (Throughout notificationStep BadgeRight
          (.launch mandatoryNotification none none fun _ => false) dotFetched ↔
        Along notificationStep CountStays
          (.launch mandatoryNotification none none fun _ => false) dotFetched) := by
  refine ⟨_, rfl, badge_right_iff ?_ rfl⟩
  exact .cons rfl (fun _ => rfl) (.cons rfl (fun absent => absurd rfl absent)
    (.cons rfl (fun absent => absurd rfl absent) trivial))

/-- The tab bar is set up offline, then the page is opened online and closed. -/
def pageFetched : List NotificationEvent :=
  [.setUpNotifDot false, .viewDidLoad true, .complete (.data 1) 0, .viewWillDisappear true]

theorem page_fetch_leaves_count :
    Along notificationStep NoOverlap (.launch mandatoryNotification none none fun _ => false)
        pageFetched ∧
      ∃ last, notificationRun (.launch mandatoryNotification none none fun _ => false)
          pageFetched = some last ∧
        last.totalNotificationList.map (·.notificationCatagory) = [some 0] ∧
        last.inFlight = [] ∧ last.unreadNotifCount = 0 ∧ unreadNumber last = 1 ∧
        last.notificationDotHidden = true := by
  refine ⟨?_, _, rfl, by decide, rfl, rfl, by decide, rfl⟩
  exact .cons rfl (fun absent => absurd rfl absent) (.cons rfl (fun _ => rfl)
    (.cons rfl (fun absent => absurd rfl absent) (.cons rfl (fun absent => absurd rfl absent)
      trivial)))

end AhsApp.Ios
