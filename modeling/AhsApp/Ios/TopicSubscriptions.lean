import AhsApp.Ios.Notifications

/-! The selection of notification categories: its stored copy, the switches of the
settings page, the subscribed topics and the filter of the notifications page. All of
them follow the stored selection, which only a switch changes. -/

namespace AhsApp.Ios

open AhsApp.Firebase AhsApp.Library

/-- The application and, while its settings page is open, the five switches in the
order of their tags. -/
structure NotificationSettings where
  app : Notifications
  switches : Option (Fin 5 → Bool)

/-- The loop of `viewDidLoad` and `viewDidAppear`, which never switches anything off. -/
def switchOnSelected (selectedNotifications switches : Fin 5 → Bool) : Fin 5 → Bool :=
  fun index => if selectedNotifications index then true else switches index

/-- A new settings page, whose switches are off in the storyboard. -/
def settingsViewDidLoad (state : NotificationSettings) : NotificationSettings :=
  { state with
    switches := some (switchOnSelected state.app.selectedNotifications fun _ => false) }

def settingsViewDidAppear (state : NotificationSettings) : NotificationSettings :=
  { state with switches := state.switches.map (switchOnSelected state.app.selectedNotifications) }

/-- What `changedSettings` does to the switches: one of the four switches `generalUpdates`
off if it is on, and `generalUpdates` switched on switches the four off. -/
def changedSwitches (tag : Fin 5) (isOn : Bool) (switches : Fin 5 → Bool) : Fin 5 → Bool :=
  if tag ≠ generalUpdatesTag then
    if switches generalUpdatesTag then Function.update switches generalUpdatesTag false
    else switches
  else if isOn then
    fun index => if index = generalUpdatesTag then switches generalUpdatesTag else false
  else switches

/-- The user sets the switch of the sender before its action runs. -/
def flipSwitch (tag : Fin 5) (isOn : Bool) (state : NotificationSettings) :
    Option NotificationSettings := do
  let switches ← state.switches
  let switches := Function.update switches tag isOn
  let app ← changedSettings (switches generalUpdatesTag) tag isOn state.app
  some { app, switches := some (changedSwitches tag isOn switches) }

/-- A new process: the server, the topics, the badge and what is stored are left of
the old one. -/
def restart (state : Notifications) : Notifications :=
  { state with
    totalNotificationList := []
    notificationReadDict := { memory := fun _ => none, saved := state.notificationReadDict.saved }
    selectedNotifications := fun _ => false
    unreadNotifCount := 0
    notificationDotHidden := false
    inFlight := []
    page := 0
    rows := [] }

/-- The application starts, and its tab bar is loaded. -/
def startApp (internetConnected : Bool) (state : Notifications) : NotificationSettings where
  app := setUpNotifDot internetConnected (restart state)
  switches := none

inductive SettingsEvent where
  | startApp (internetConnected : Bool)
  | viewDidLoad
  | viewDidAppear
  | dismissed
  | changedSettings (tag : Fin 5) (isOn : Bool)
  | notification (event : NotificationEvent)

/-- The switches are changed on the settings page only. The other events of the
notifications, the refresh of a token among them, go on while it is open. -/
def settingsStep (state : NotificationSettings) : SettingsEvent → Option NotificationSettings
  | .startApp internetConnected => some (startApp internetConnected state.app)
  | .viewDidLoad => some (settingsViewDidLoad state)
  | .viewDidAppear => some (settingsViewDidAppear state)
  | .dismissed => some { state with switches := none }
  | .changedSettings tag isOn => flipSwitch tag isOn state
  | .notification (.changedSettings _ _ _) => none
  | .notification event => do
    let app ← notificationStep state.app event
    some { state with app }

/-- The topic of a category: 0 mandatory, 1 general, 2 asb, 3 district, 4 bulletin. -/
def NotificationData.topic (data : NotificationData) : Option Topic :=
  match data.notificationCatagory with
  | some 0 => some .mandatory
  | some 1 => some .general
  | some 2 => some .asb
  | some 3 => some .district
  | some 4 => some .bulletin
  | _ => none

def CategoriesInRange (list : List NotificationData) : Prop :=
  ∀ data ∈ list, ∃ category, data.notificationCatagory = some category ∧
    0 ≤ category ∧ category ≤ 4

/-- The notifications whose topic is subscribed. -/
def subscribedOf (state : Notifications) (list : List NotificationData) :
    List NotificationData :=
  list.filter fun data => data.topic.map state.subscribed == some true

/-- The filter agrees with the topics, and what else shows the selection with the
stored copy. No switch traps. -/
structure TopicsAgree (state : NotificationSettings) : Prop where
  switchable : ∀ list, CategoriesInRange list → ∀ generalUpdates tag isOn, ∃ next,
    changedSettings generalUpdates tag isOn { state.app with totalNotificationList := list } =
      some next
  filtered : ∀ list, CategoriesInRange list →
    filterThroughSelectedNotifcations { state.app with totalNotificationList := list } =
      some (subscribedOf state.app list, { state.app with totalNotificationList := list })
  stored : state.app.selectedNotifications = state.app.storedSelection.getD defaultSelection
  onScreen : ∀ switches, state.switches = some switches →
    switches = state.app.selectedNotifications
  exclusive : state.app.selectedNotifications 0 = true →
    ∀ index, index ≠ 0 → state.app.selectedNotifications index = false

/-- Reloading changes neither the selection nor the topics. -/
def InStep (state : Notifications) : Prop := SameSelection (reloadSelection state) state

theorem InStep.reloaded (state : Notifications) : InStep (reloadSelection state) :=
  ⟨rfl, rfl, rfl⟩

theorem InStep.of_same {state next : Notifications} (inStep : InStep state)
    (same : SameSelection state next) : InStep next :=
  same.trans (inStep.trans ⟨same.reload.stored.symm, same.reload.selected.symm,
    same.reload.subscribed.symm⟩)

theorem InStep.reload_eq {state : Notifications} (inStep : InStep state) :
    reloadSelection state = state := by
  calc reloadSelection state
      = { state with
          selectedNotifications := (reloadSelection state).selectedNotifications
          subscribed := (reloadSelection state).subscribed } := rfl
    _ = state := by rw [← inStep.selected, ← inStep.subscribed]

theorem InStep.topics {state : Notifications} (inStep : InStep state) :
    (updateSubscriptionNotifs state).subscribed = state.subscribed := by
  have same : updateSubscriptionNotifs (reloadSelection state) = reloadSelection state := rfl
  rw [inStep.reload_eq] at same
  rw [same]

private theorem category_cases {category : Int} (least : 0 ≤ category) (most : category ≤ 4) :
    category = 0 ∨ category = 1 ∨ category = 2 ∨ category = 3 ∨ category = 4 := by
  omega

/-- A notification passes the selection exactly when its topic is subscribed. -/
theorem passesSelection_eq {state : Notifications} (inStep : InStep state)
    {data : NotificationData} {category : Int} (present : data.notificationCatagory = some category)
    (least : 0 ≤ category) (most : category ≤ 4) :
    passesSelection state.selectedNotifications data = data.topic.map state.subscribed := by
  rw [← inStep.topics]
  cases everything : state.selectedNotifications 0 <;>
    rcases category_cases least most with rfl | rfl | rfl | rfl | rfl <;>
      simp [passesSelection, NotificationData.topic, updateSubscriptionNotifs, elementAt, present,
        everything]

private theorem topic_of_inRange {data : NotificationData} {category : Int}
    (present : data.notificationCatagory = some category) (least : 0 ≤ category)
    (most : category ≤ 4) : ∃ topic, data.topic = some topic := by
  rcases category_cases least most with rfl | rfl | rfl | rfl | rfl <;>
    simp [NotificationData.topic, present]

private theorem selectedOutput_eq_subscribed {state : Notifications} (inStep : InStep state)
    {list : List NotificationData} (inRange : CategoriesInRange list) :
    selectedOutput state.selectedNotifications list = some (subscribedOf state list) := by
  induction list with
  | nil => rfl
  | cons data rest ih =>
    have tail := ih fun data member => inRange data (List.mem_cons_of_mem _ member)
    obtain ⟨category, present, least, most⟩ := inRange data (List.mem_cons_self ..)
    obtain ⟨topic, known⟩ := topic_of_inRange present least most
    have passes := passesSelection_eq inStep present least most
    cases subscribed : state.subscribed topic <;>
      simp [selectedOutput, passes, tail, subscribedOf, known, subscribed]

/-- The filter of a state in step selects what is subscribed and changes nothing. -/
theorem filterThrough_eq_subscribed {state : Notifications} (inStep : InStep state)
    (inRange : CategoriesInRange state.totalNotificationList) :
    filterThroughSelectedNotifcations state =
      some (subscribedOf state state.totalNotificationList, state) := by
  simp only [filterThroughSelectedNotifcations, inStep.reload_eq,
    selectedOutput_eq_subscribed inStep inRange]
  rfl

private theorem unreadCount_returns {state : Notifications} (inStep : InStep state)
    {list : List NotificationData} (inRange : CategoriesInRange list) :
    ∃ count, unreadCount state list = some count := by
  induction list with
  | nil => exact ⟨0, rfl⟩
  | cons data rest ih =>
    obtain ⟨count, tail⟩ := ih fun data member => inRange data (List.mem_cons_of_mem _ member)
    obtain ⟨category, present, least, most⟩ := inRange data (List.mem_cons_self ..)
    obtain ⟨topic, known⟩ := topic_of_inRange present least most
    have passes := passesSelection_eq inStep present least most
    simp [unreadCount, countsAsUnread, passes, tail, known]

private theorem recountUnread_returns {state : Notifications}
    (inRange : CategoriesInRange state.totalNotificationList) :
    ∃ next, recountUnread state = some next := by
  have filtered : filterThroughSelectedNotifcations state =
      some (subscribedOf (reloadSelection state) state.totalNotificationList,
        reloadSelection state) :=
    filterThrough_eq_subscribed (.reloaded state) inRange
  have kept : CategoriesInRange (subscribedOf (reloadSelection state)
      state.totalNotificationList) :=
    fun data member => inRange data (List.mem_of_mem_filter member)
  obtain ⟨count, counted⟩ := unreadCount_returns
    (.reloaded (loadNotifPref (reloadSelection state))) kept
  simp [recountUnread, filtered, numOfUnreadInArray, counted]

private theorem changedSwitches_eq (tag : Fin 5) (isOn : Bool) (selected : Fin 5 → Bool) :
    changedSwitches tag isOn (Function.update selected tag isOn) =
      changedSelection (Function.update selected tag isOn 0) tag isOn selected := by
  by_cases general : tag = 0
  · subst general
    cases isOn with
    | false => simp [changedSwitches, changedSelection]
    | true =>
      funext index
      by_cases first : index = 0 <;> simp [changedSwitches, changedSelection, first]
  · have kept : Function.update selected tag isOn 0 = selected 0 :=
      Function.update_of_ne (Ne.symm general) ..
    simp only [changedSwitches, changedSelection, ne_eq, general, not_false_eq_true, if_true, kept]
    split
    · exact Function.update_comm general ..
    · rfl

private theorem changedSelection_exclusive (tag : Fin 5) (isOn : Bool) (selected : Fin 5 → Bool)
    (everything : changedSelection (Function.update selected tag isOn 0) tag isOn selected 0 =
      true) (index : Fin 5) (other : index ≠ 0) :
    changedSelection (Function.update selected tag isOn 0) tag isOn selected index = false := by
  by_cases general : tag = 0
  · subst general
    cases isOn <;> simp_all [changedSelection]
  · have kept : Function.update selected tag isOn 0 = selected 0 :=
      Function.update_of_ne (Ne.symm general) ..
    rw [kept] at everything
    cases chosen : selected 0 <;>
      simp [changedSelection, general, Ne.symm general, chosen] at everything

/-- What holds after every event from the first start on. -/
structure SettingsKept (state : NotificationSettings) : Prop where
  inStep : InStep state.app
  onScreen : ∀ switches, state.switches = some switches →
    switches = state.app.selectedNotifications
  exclusive : state.app.selectedNotifications 0 = true →
    ∀ index, index ≠ 0 → state.app.selectedNotifications index = false

theorem SettingsKept.of_same {state next : NotificationSettings} (kept : SettingsKept state)
    (same : SameSelection state.app next.app)
    (onScreen : ∀ switches, next.switches = some switches →
      switches = state.app.selectedNotifications) : SettingsKept next := by
  refine ⟨kept.inStep.of_same same, ?_, ?_⟩
  · rw [same.selected]
    exact onScreen
  · rw [same.selected]
    exact kept.exclusive

private theorem switchOnSelected_self (selected : Fin 5 → Bool) :
    switchOnSelected selected selected = selected := by
  funext index
  simp [switchOnSelected]

private theorem switchOnSelected_off (selected : Fin 5 → Bool) :
    switchOnSelected selected (fun _ => false) = selected := by
  funext index
  simp [switchOnSelected]

private theorem startApp_selection (state : Notifications) (internetConnected : Bool) :
    SameSelection (reloadSelection state) (startApp internetConnected state).app := by
  cases internetConnected <;> exact ⟨rfl, rfl, rfl⟩

private theorem flipSwitch_cases {state next : NotificationSettings} {tag : Fin 5} {isOn : Bool}
    (taken : flipSwitch tag isOn state = some next) :
    ∃ switches app, state.switches = some switches ∧
      changedSettings (Function.update switches tag isOn 0) tag isOn state.app = some app ∧
      next = ⟨app, some (changedSwitches tag isOn (Function.update switches tag isOn))⟩ := by
  simp only [flipSwitch, Option.bind_eq_bind, Option.bind_eq_some_iff, Option.some.injEq] at taken
  obtain ⟨switches, shown, app, changed, rfl⟩ := taken
  exact ⟨switches, app, shown, changed, rfl⟩

private theorem notification_step_cases {state next : NotificationSettings}
    {event : NotificationEvent}
    (taken : settingsStep state (.notification event) = some next) :
    (∀ generalUpdates tag isOn, event ≠ .changedSettings generalUpdates tag isOn) ∧
      ∃ app, notificationStep state.app event = some app ∧ next = { state with app } := by
  have unswitched : ∀ generalUpdates tag isOn,
      event ≠ .changedSettings generalUpdates tag isOn := by
    rintro generalUpdates tag isOn rfl
    cases taken
  have passed : settingsStep state (.notification event) =
      (notificationStep state.app event).bind fun app => some { state with app } := by
    cases event with
    | changedSettings generalUpdates tag isOn =>
      exact absurd rfl (unswitched generalUpdates tag isOn)
    | _ => rfl
  rw [passed, Option.bind_eq_some_iff] at taken
  obtain ⟨app, stepped, result⟩ := taken
  exact ⟨unswitched, app, stepped, (Option.some.inj result).symm⟩

private theorem settings_kept_step {state next : NotificationSettings} {event : SettingsEvent}
    (kept : SettingsKept state) (taken : settingsStep state event = some next) :
    SettingsKept next := by
  cases event with
  | startApp connected =>
    obtain rfl := Option.some.inj taken
    have same := startApp_selection state.app connected
    rw [kept.inStep.reload_eq] at same
    exact kept.of_same same (by simp [startApp])
  | viewDidLoad =>
    obtain rfl := Option.some.inj taken
    refine kept.of_same ⟨rfl, rfl, rfl⟩ ?_
    rintro switches shown
    obtain rfl := Option.some.inj shown
    exact switchOnSelected_off _
  | viewDidAppear =>
    obtain rfl := Option.some.inj taken
    refine kept.of_same ⟨rfl, rfl, rfl⟩ ?_
    intro switches shown
    obtain ⟨before, present, rfl⟩ := Option.map_eq_some_iff.mp shown
    rw [kept.onScreen before present]
    exact switchOnSelected_self _
  | dismissed =>
    obtain rfl := Option.some.inj taken
    exact kept.of_same ⟨rfl, rfl, rfl⟩ (by simp)
  | changedSettings tag isOn =>
    obtain ⟨switches, app, shown, changed, rfl⟩ := flipSwitch_cases taken
    obtain rfl := kept.onScreen switches shown
    have same := recountUnread_selection changed
    refine ⟨(InStep.reloaded _).of_same same, ?_, ?_⟩
    · rintro switches shown
      obtain rfl := Option.some.inj shown
      rw [same.selected]
      exact changedSwitches_eq tag isOn _
    · rw [same.selected]
      exact changedSelection_exclusive tag isOn _
  | notification event =>
    obtain ⟨unswitched, app, stepped, rfl⟩ := notification_step_cases taken
    have same : SameSelection state.app app := by
      rcases selection_step unswitched stepped with same | reloaded
      · exact same
      · exact kept.inStep.reload_eq ▸ reloaded
    exact kept.of_same same kept.onScreen

private theorem settings_kept_first (server : DataSnapshot) (saved : Option (List String))
    (subscribed : Topic → Bool) (internetConnected : Bool) :
    SettingsKept (startApp internetConnected (.launch server saved none subscribed)) := by
  have same := startApp_selection (.launch server saved none subscribed) internetConnected
  refine ⟨(InStep.reloaded _).of_same same, by simp [startApp], ?_⟩
  rw [same.selected]
  intro _ index other
  exact decide_eq_false other

theorem SettingsKept.agree {state : NotificationSettings} (kept : SettingsKept state) :
    TopicsAgree state where
  switchable _ inRange _ _ _ := recountUnread_returns inRange
  filtered _ inRange :=
    filterThrough_eq_subscribed (kept.inStep.of_same ⟨rfl, rfl, rfl⟩) inRange
  stored := kept.inStep.selected
  onScreen := kept.onScreen
  exclusive := kept.exclusive

/-- In any run of switch changes, application starts, token refreshes and whatever else
the notifications do, everything follows the stored selection. -/
theorem topics_agree (server : DataSnapshot) (saved : Option (List String))
    (subscribed : Topic → Bool) (internetConnected : Bool) (events : List SettingsEvent) :
    Throughout settingsStep TopicsAgree
      (startApp internetConnected (.launch server saved none subscribed)) events :=
  (Throughout.of_preserved (fun _ _ => True) (fun kept _ => settings_kept_step kept)
    (settings_kept_first server saved subscribed internetConnected)
    (Along.of_forall (fun _ _ _ => trivial) _)).imp fun _ => SettingsKept.agree

end AhsApp.Ios
