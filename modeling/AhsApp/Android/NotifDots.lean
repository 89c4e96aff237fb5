import AhsApp.Android.Dots
import AhsApp.Android.NotifReadMarks

/-! The dots that announce unread notifications. Each page with a button to the notifications has
one of its own. The layout shows it until a posted runnable hides it and adds a listener, which
only ever turns it on, from what the database has when it is called. -/

namespace AhsApp.Android

open AhsApp.Firebase AhsApp.Library

/-- The dot of a button, whether its listener was added, and whether that was called with what
the server has now. -/
structure LiveButton where
  dotVisible : Bool
  listening : Bool
  called : Bool
  deriving DecidableEq

namespace LiveButton

/-- The layout shows the dot. -/
def onCreateView : LiveButton := ⟨true, false, false⟩

def runPosted (button : LiveButton) : Option LiveButton :=
  if button.listening then none else some ⟨false, true, false⟩

/-- The listener of the button, with the database as it is then. -/
def onDataChange (notifDatabase : Table NotifRow) (snapshot : DataSnapshot) (button : LiveButton) :
    Option LiveButton :=
  if button.listening then do
    let shown ← NotifBtn.onDataChange snapshot ⟨notifDatabase, button.dotVisible⟩
    some ⟨shown.dotVisible, true, true⟩
  else none

end LiveButton

/-- The buttons beside the notification screens; listeners outlive their pages. -/
structure NotifButtons where
  server : DataSnapshot
  screens : NotifScreens
  buttons : List LiveButton

inductive NotifButtonsEvent where
  | serverChanges (server : DataSnapshot)
  | openScreen
  | screenDataChange (index : Nat) (caches : Caches)
  | onClick (index position : Nat)
  | onCreateView
  | runPosted (index : Nat)
  | onDataChange (index : Nat)

def NotifButtons.onScreens (sorted : SortedList NotifData) (json : JsonCodec)
    (event : NotifScreensEvent) (state : NotifButtons) : Option NotifButtons := do
  let screens ← notifScreensStep sorted json state.screens event
  some { state with screens }

/-- All listeners are called with what the server has. -/
def notifButtonsStep (sorted : SortedList NotifData) (json : JsonCodec) (state : NotifButtons) :
    NotifButtonsEvent → Option NotifButtons
  | .serverChanges server =>
    some { state with
      server
      buttons := state.buttons.map fun button => { button with called := false } }
  | .openScreen => state.onScreens sorted json .openScreen
  | .screenDataChange index caches =>
    state.onScreens sorted json (.onDataChange index state.server caches)
  | .onClick index position => state.onScreens sorted json (.onClick index position)
  | .onCreateView => some { state with buttons := state.buttons ++ [.onCreateView] }
  | .runPosted index => do
    let button ← state.buttons[index]?
    let button ← button.runPosted
    some { state with buttons := state.buttons.set index button }
  | .onDataChange index => do
    let button ← state.buttons[index]?
    let button ← button.onDataChange state.screens.notifDatabase state.server
    some { state with buttons := state.buttons.set index button }

/-- The server has plain snapshots, and each reaches every screen before the next tap. -/
def ReachesScreens (state : NotifButtons) : NotifButtonsEvent → Prop
  | .serverChanges server => PlainSnapshot server
  | .onClick index position => ReachesAll state.screens (.onClick index position)
  | _ => True

/-- A dot that was called and stays hidden hides nothing that is unread. -/
structure HidesNothing (state : NotifButtons) : Prop where
  inStep : InStep state.screens
  plain : PlainSnapshot state.server
  waiting : ∀ button ∈ state.buttons, button.listening = false → button.dotVisible = true
  hidden : ∀ button ∈ state.buttons, button.called = true → button.dotVisible = false →
    ∀ child ∈ state.server.children, Marked child.key state.screens.notifDatabase

section loop

variable {notifDatabase : Table NotifRow}
variable (distinct : (notifDatabase.rows.map NotifRow.notifID).Nodup)

include distinct

private theorem showUnread_iff {childSn : DataSnapshot} (free : PlainText childSn.key)
    {visible next : Bool}
    (shown : showUnread notifDatabase visible childSn = some next) :
    next = true ↔ visible = true ∨ ¬ Marked childSn.key notifDatabase := by
  rw [← read_iff_marked free distinct]
  simp only [showUnread, NotifDatabase.alreadyAdded_of_plain free,
    NotifDatabase.getReadStatusByID_of_plain free, Option.bind_eq_bind, Option.bind_some]
    at shown ⊢
  cases found : notifDatabase.rows.find? (·.notifID == childSn.key) with
  | none => simp_all
  | some row => cases marked : row.notified == 1 <;> simp_all

private theorem showAllUnread_iff {children : List DataSnapshot}
    (free : ∀ child ∈ children, PlainText child.key) {visible last : Bool}
    (looped : children.foldlM (showUnread notifDatabase) visible = some last) :
    last = true ↔ visible = true ∨ ∃ child ∈ children, ¬ Marked child.key notifDatabase := by
  induction children generalizing visible with
  | nil =>
    obtain rfl : visible = last := Option.some.inj looped
    simp
  | cons child rest ih =>
    simp only [List.foldlM_cons, Option.bind_eq_bind, Option.bind_eq_some_iff] at looped
    obtain ⟨middle, shown, looped⟩ := looped
    rw [ih (fun other member => free other (List.mem_cons_of_mem child member)) looped,
      showUnread_iff distinct (free child List.mem_cons_self) shown]
    simp [or_assoc]

end loop

section step

variable {sorted : SortedList NotifData} (lawful : sorted.Lawful) {json : JsonCodec}
variable {state next : NotifButtons} {event : NotifButtonsEvent}

private theorem onScreens_cases {event : NotifScreensEvent}
    (taken : state.onScreens sorted json event = some next) :
    ∃ screens, notifScreensStep sorted json state.screens event = some screens ∧
      next = { state with screens } := by
  obtain ⟨screens, stepped, result⟩ := Option.bind_eq_some_iff.mp taken
  exact ⟨screens, stepped, (Option.some.inj result).symm⟩

private theorem onDataChange_iff (valid : HidesNothing state) {button after : LiveButton}
    (called : button.onDataChange state.screens.notifDatabase state.server = some after) :
    button.listening = true ∧ after.listening = true ∧ after.called = true ∧
      (after.dotVisible = true ↔ button.dotVisible = true ∨
        ∃ child ∈ state.server.children, ¬ Marked child.key state.screens.notifDatabase) := by
  rw [LiveButton.onDataChange] at called
  split at called
  · rename_i listening
    obtain ⟨_, shown, result⟩ := Option.bind_eq_some_iff.mp called
    obtain ⟨visible, looped, rfl⟩ := Option.map_eq_some_iff.mp shown
    obtain rfl := Option.some.inj result
    exact ⟨listening, rfl, rfl,
      showAllUnread_iff (valid.inStep.rows ▸ valid.inStep.distinct) valid.plain.2 looped⟩
  · cases called

theorem LiveButton.runPosted_cases {button after : LiveButton}
    (posted : button.runPosted = some after) :
    button.listening = false ∧ after = ⟨false, true, false⟩ := by
  rw [LiveButton.runPosted] at posted
  split at posted
  · cases posted
  · rename_i waiting
    exact ⟨Bool.eq_false_iff.mpr waiting, (Option.some.inj posted).symm⟩

include lawful

theorem HidesNothing.onScreens (valid : HidesNothing state) (event : NotifScreensEvent)
    (given : ReachesAll state.screens event)
    (keeps : ∀ child ∈ state.server.children, KeepsInFeed child.key event)
    (taken : state.onScreens sorted json event = some next) : HidesNothing next := by
  obtain ⟨screens, stepped, rfl⟩ := onScreens_cases taken
  refine ⟨valid.inStep.step lawful given stepped, valid.plain, valid.waiting, ?_⟩
  intro button member called hidden child present
  have marked := valid.hidden button member called hidden child present
  exact (marked_step_iff lawful child.key valid.inStep given stepped).mpr
    (.inr ⟨marked, keeps child present⟩)

theorem HidesNothing.step (valid : HidesNothing state) (given : ReachesScreens state event)
    (taken : notifButtonsStep sorted json state event = some next) : HidesNothing next := by
  cases event with
  | serverChanges server =>
    obtain rfl := Option.some.inj taken
    refine ⟨valid.inStep, given, ?_, ?_⟩
    · intro button member
      obtain ⟨old, listed, rfl⟩ := List.mem_map.mp member
      exact valid.waiting old listed
    · intro button member called
      obtain ⟨old, _, rfl⟩ := List.mem_map.mp member
      cases called
  | openScreen => exact valid.onScreens lawful .openScreen trivial (fun _ _ => trivial) taken
  | screenDataChange index caches =>
    exact valid.onScreens lawful (.onDataChange index state.server caches) valid.plain
      (fun _ present => List.mem_map_of_mem present) taken
  | onClick index position =>
    exact valid.onScreens lawful (.onClick index position) given (fun _ _ => trivial) taken
  | onCreateView =>
    obtain rfl := Option.some.inj taken
    refine ⟨valid.inStep, valid.plain, ?_, ?_⟩
    · intro button member waiting
      rcases List.mem_append.mp member with old | new
      · exact valid.waiting button old waiting
      · exact List.mem_singleton.mp new ▸ rfl
    · intro button member called
      rcases List.mem_append.mp member with old | new
      · exact valid.hidden button old called
      · obtain rfl := List.mem_singleton.mp new
        cases called
  | runPosted index =>
    obtain ⟨button, found, taken⟩ := Option.bind_eq_some_iff.mp taken
    obtain ⟨after, posted, result⟩ := Option.bind_eq_some_iff.mp taken
    obtain ⟨_, rfl⟩ := LiveButton.runPosted_cases posted
    obtain rfl := Option.some.inj result
    refine ⟨valid.inStep, valid.plain, ?_, ?_⟩
    · intro other member waiting
      rcases List.mem_or_eq_of_mem_set member with old | rfl
      · exact valid.waiting other old waiting
      · cases waiting
    · intro other member called
      rcases List.mem_or_eq_of_mem_set member with old | rfl
      · exact valid.hidden other old called
      · cases called
  | onDataChange index =>
    obtain ⟨button, found, taken⟩ := Option.bind_eq_some_iff.mp taken
    obtain ⟨after, called, result⟩ := Option.bind_eq_some_iff.mp taken
    obtain rfl := Option.some.inj result
    obtain ⟨_, listening, _, shows'⟩ := onDataChange_iff valid called
    refine ⟨valid.inStep, valid.plain, ?_, ?_⟩
    · intro other member waiting
      rcases List.mem_or_eq_of_mem_set member with old | rfl
      · exact valid.waiting other old waiting
      · rw [listening] at waiting
        cases waiting
    · intro other member reached hidden child present
      rcases List.mem_or_eq_of_mem_set member with old | rfl
      · exact valid.hidden other old reached hidden child present
      · by_contra unread
        have visible := shows'.mpr (.inr ⟨child, present, unread⟩)
        rw [hidden] at visible
        cases visible

omit lawful

end step

end AhsApp.Android
