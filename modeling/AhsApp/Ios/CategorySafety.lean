import AhsApp.Ios.UnreadBadge
import AhsApp.Library.OptionList

/-! The three loops that test the category of a notification. Only the first entry of
the selection guards its subscript, so a category the server sends traps unless it is
one of the five or everything is selected. -/

namespace AhsApp.Ios

open AhsApp.Firebase AhsApp.Library

/-- The selection and the read marks are what is stored. -/
structure EqualsStored (state : Notifications) : Prop where
  selection : state.selectedNotifications = state.storedSelection.getD defaultSelection
  marks : state.notificationReadDict.load = state.notificationReadDict

/-- The filter, the count and the dot fetch of a list finish, and the dot fetch adds as
many notifications as the count finds. -/
def CategoriesSafe (list : List NotificationData) (state : Notifications) : Prop :=
  (∃ filtered, filterThroughSelectedNotifcations { state with totalNotificationList := list } =
    some filtered) ∧
  ∃ count counted, numOfUnreadInArray list state = some (count, counted) ∧
    ∀ now, ∃ last,
      run (deliver .dot now) { state with totalNotificationList := [] } list = some last ∧
        last.unreadNotifCount = state.unreadNotifCount + count

/-- Everything is selected, or the category is one of the five or missing. -/
def CategoryInRange (selectedNotifications : Fin 5 → Bool) (data : NotificationData) : Prop :=
  selectedNotifications generalUpdatesTag = true ∨
    ∀ category, data.notificationCatagory = some category → 0 ≤ category ∧ category < 5

private theorem elementAt_returns_iff {array : Fin 5 → Bool} {index : Int} :
    (∃ element, elementAt array index = some element) ↔ 0 ≤ index ∧ index < 5 := by
  unfold elementAt
  split
  · exact iff_of_true ⟨_, rfl⟩ ‹_›
  · exact iff_of_false (by simp) ‹_›

private theorem passesSelection_returns_iff {selectedNotifications : Fin 5 → Bool}
    {data : NotificationData} :
    (∃ passes, passesSelection selectedNotifications data = some passes) ↔
      CategoryInRange selectedNotifications data := by
  cases everything : selectedNotifications generalUpdatesTag with
  | true => simp [passesSelection, CategoryInRange, everything]
  | false =>
    have subscript : (∃ passes, passesSelection selectedNotifications data = some passes) ↔
        ∃ selected, elementAt selectedNotifications (data.notificationCatagory.getD 0) =
          some selected := by
      simp only [passesSelection, everything, Bool.false_eq_true, if_false]
      exact bind_some_returns_iff
    rw [subscript, elementAt_returns_iff]
    cases present : data.notificationCatagory with
    | none => simp [CategoryInRange, present]
    | some category => simp [CategoryInRange, present, everything]

theorem countsAsUnread_returns_iff {state : Notifications} {data : NotificationData} :
    (∃ unread, countsAsUnread state data = some unread) ↔
      CategoryInRange state.selectedNotifications data := by
  rw [← passesSelection_returns_iff]
  exact bind_some_returns_iff

private theorem selectedOutput_returns_iff {selectedNotifications : Fin 5 → Bool}
    {list : List NotificationData} :
    (∃ output, selectedOutput selectedNotifications list = some output) ↔
      ∀ data ∈ list, CategoryInRange selectedNotifications data := by
  have turn : ∀ data rest, selectedOutput selectedNotifications (data :: rest) =
      (passesSelection selectedNotifications data).bind fun passes =>
        (selectedOutput selectedNotifications rest).bind fun output =>
          some (if passes then data :: output else output) :=
    fun _ _ => rfl
  simp only [← passesSelection_returns_iff]
  exact loop_returns_iff turn ⟨[], rfl⟩

theorem unreadCount_returns_iff {state : Notifications} {list : List NotificationData} :
    (∃ count, unreadCount state list = some count) ↔
      ∀ data ∈ list, CategoryInRange state.selectedNotifications data := by
  have turn : ∀ data rest, unreadCount state (data :: rest) =
      (countsAsUnread state data).bind fun unread =>
        (unreadCount state rest).bind fun count => some (if unread then count + 1 else count) :=
    fun _ _ => rfl
  simp only [← countsAsUnread_returns_iff]
  exact loop_returns_iff turn ⟨0, rfl⟩

theorem deliver_dot_returns (now : Int) {state : Notifications} {data : NotificationData}
    (inRange : CategoryInRange state.selectedNotifications data) :
    ∃ next, deliver .dot now state data = some next := by
  obtain ⟨unread, tested⟩ := countsAsUnread_returns_iff.mpr inRange
  have appended : countsAsUnread { state with
      totalNotificationList := state.totalNotificationList ++ [data] } data = some unread := tested
  simp [deliver, appended]

private theorem dot_callback_returns (now : Int) {items : List NotificationData}
    {state : Notifications}
    (inRange : ∀ data ∈ items, CategoryInRange state.selectedNotifications data) :
    ∃ last, run (deliver .dot now) state items = some last := by
  induction items generalizing state with
  | nil => exact ⟨state, rfl⟩
  | cons data rest ih =>
    obtain ⟨middle, delivered⟩ := deliver_dot_returns now (inRange data (by simp))
    have kept : middle.selectedNotifications = state.selectedNotifications := by
      have single : run (deliver .dot now) state [data] = some middle :=
        run_cons_iff.mpr ⟨middle, delivered, rfl⟩
      exact (dot_callback_count single).2.selected
    have later : ∀ other ∈ rest, CategoryInRange middle.selectedNotifications other :=
      fun other member => kept ▸ inRange other (List.mem_cons_of_mem _ member)
    obtain ⟨last, called⟩ := ih later
    exact ⟨last, run_cons_iff.mpr ⟨middle, delivered, called⟩⟩

theorem EqualsStored.reload {state : Notifications} (stored : EqualsStored state)
    (list : List NotificationData) :
    unreadCount (reloadSelection (loadNotifPref state)) list = unreadCount state list := by
  have selection : (reloadSelection (loadNotifPref state)).selectedNotifications =
      state.selectedNotifications := stored.selection.symm
  have marks : (reloadSelection (loadNotifPref state)).notificationReadDict =
      state.notificationReadDict := stored.marks
  induction list with
  | nil => rfl
  | cons data rest ih => simp only [unreadCount, countsAsUnread, selection, marks, ih]

/-- The loops are safe exactly for lists whose categories are in range. -/
theorem categories_safe_iff (state : Notifications) (list : List NotificationData)
    (stored : EqualsStored state) :
    CategoriesSafe list state ↔
      ∀ data ∈ list, CategoryInRange state.selectedNotifications data := by
  constructor
  · rintro ⟨_, count, counted, returned, _⟩
    simp only [numOfUnreadInArray, Option.bind_eq_bind, Option.bind_eq_some_iff] at returned
    obtain ⟨number, loop, _⟩ := returned
    exact unreadCount_returns_iff.mp ⟨number, stored.reload list ▸ loop⟩
  · intro inRange
    obtain ⟨output, filtered⟩ := selectedOutput_returns_iff.mpr inRange
    obtain ⟨count, counted⟩ := unreadCount_returns_iff.mpr inRange
    have reloaded := (stored.reload list).trans counted
    refine ⟨?_, count, _, by simp [numOfUnreadInArray, reloaded]; rfl, ?_⟩
    · have selection : (reloadSelection { state with
          totalNotificationList := list }).selectedNotifications =
            state.selectedNotifications := stored.selection.symm
      have kept : (reloadSelection { state with
          totalNotificationList := list }).totalNotificationList = list := rfl
      simp [filterThroughSelectedNotifcations, selection, kept, filtered]
    · intro now
      have started : ∃ last,
          run (deliver .dot now) { state with totalNotificationList := [] } list = some last :=
        dot_callback_returns now inRange
      obtain ⟨last, called⟩ := started
      refine ⟨last, called, ?_⟩
      rw [(dot_callback_count called).1, unreadCount_eq counted]
      rfl

/-- Only the ASB notifications are selected, and so they are stored. -/
def asbSelected : Notifications :=
  reloadSelection (.launch (.node "" []) none (some fun index => index.val = 2) fun _ => false)

def notificationOf (category : Int) : NotificationData :=
  decodeNotification (.node "n" [.leaf "notificationCategory" (.number category)])

theorem known_categories_safe :
    CategoriesSafe [welcome, notificationOf 2, notificationOf 4] asbSelected := by
  refine (categories_safe_iff asbSelected _ ⟨rfl, rfl⟩).mpr ?_
  exact selectedOutput_returns_iff.mp ⟨_, rfl⟩

/-- The server sends a category that is none of the five. -/
theorem sixth_category_traps :
    (notificationOf 5).notificationCatagory = some 5 ∧ EqualsStored asbSelected ∧
      filterThroughSelectedNotifcations { asbSelected with
        totalNotificationList := [notificationOf 5] } = none ∧
      numOfUnreadInArray [notificationOf 5] asbSelected = none ∧
      run (deliver .dot 0) asbSelected [notificationOf 5] = none ∧
      ¬ CategoriesSafe [notificationOf 5] asbSelected := by
  refine ⟨rfl, ⟨rfl, rfl⟩, rfl, rfl, rfl, ?_⟩
  rintro ⟨⟨filtered, returned⟩, _⟩
  cases returned

end AhsApp.Ios
