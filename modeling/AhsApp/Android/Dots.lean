import AhsApp.Android.FirebaseHandler
import AhsApp.Library.OptionList
import AhsApp.Library.Run

/-! The red dots of the navigation bar and of the notification button. Their listeners
only ever show a dot; each starts hidden when its view is created. -/

namespace AhsApp.Android

open AhsApp.Firebase AhsApp.Library

/-- The categories that the listener of the navigation bar looks into. -/
def dotCategories : List String :=
  ["seniors", "events", "Colleges", "Reference", "Athletics", "others"]

/-- The inner loop ends at the first unread child. -/
def anyUnread (database : Table BulletinRow) : List DataSnapshot → Option Bool
  | [] => some false
  | dataSnapshot :: rest => do
    let read ← BulletinDatabase.getReadStatusByID dataSnapshot.key database
    if !read then some true else anyUnread database rest

/-- The outer loop ends after the first category with an unread child. -/
def success (snapshot : DataSnapshot) (database : Table BulletinRow) :
    List String → Option Bool
  | [] => some false
  | category :: rest => do
    let found ← anyUnread database (snapshot.child category).children
    if found then some true else success snapshot database rest

/-- `onDataChange`, given and giving whether the dot is visible. -/
def bulletinDotOnDataChange (snapshot : DataSnapshot) (database : Table BulletinRow)
    (visible : Bool) : Option Bool :=
  (success snapshot database dotCategories).map fun found => if found then true else visible

/-- The category has a child that the database does not know as read. -/
def HasUnread (snapshot : DataSnapshot) (database : Table BulletinRow) (category : String) : Prop :=
  ∃ child ∈ (snapshot.child category).children,
    BulletinDatabase.getReadStatusByID child.key database = some false

private theorem anyUnread_iff {database : Table BulletinRow} {children : List DataSnapshot}
    {found : Bool}
    (returned : anyUnread database children = some found) :
    found = true ↔ ∃ child ∈ children,
      BulletinDatabase.getReadStatusByID child.key database = some false := by
  induction children with
  | nil =>
    obtain rfl : false = found := Option.some.inj returned
    simp
  | cons child rest ih =>
    obtain ⟨read, looked, returned⟩ := Option.bind_eq_some_iff.mp returned
    cases read with
    | false =>
      obtain rfl : true = found := Option.some.inj returned
      simp [looked]
    | true =>
      rw [ih returned, List.exists_mem_cons_iff, looked]
      simp

private theorem success_iff {snapshot : DataSnapshot} {database : Table BulletinRow}
    {categories : List String} {found : Bool}
    (returned : success snapshot database categories = some found) :
    found = true ↔ ∃ category ∈ categories, HasUnread snapshot database category := by
  induction categories with
  | nil =>
    obtain rfl : false = found := Option.some.inj returned
    simp
  | cons category rest ih =>
    obtain ⟨here, looked, returned⟩ := Option.bind_eq_some_iff.mp returned
    have unread : here = true ↔ HasUnread snapshot database category := anyUnread_iff looked
    cases here with
    | true =>
      obtain rfl : true = found := Option.some.inj returned
      simp [← unread]
    | false =>
      rw [ih returned, List.exists_mem_cons_iff, ← unread]
      simp

private theorem readBulletinArticle_alreadyRead {database : Table BulletinRow} {type : BulletinType}
    {child : DataSnapshot} {article : BulletinArticle}
    (read : readBulletinArticle database type child = some article) :
    BulletinDatabase.getReadStatusByID child.key database = some article.alreadyRead := by
  simp only [readBulletinArticle, Option.bind_eq_bind, Option.bind_eq_some_iff] at read
  obtain ⟨title, _, body, _, time, _, alreadyRead, looked, built⟩ := read
  obtain rfl := Option.some.inj built
  exact looked

private theorem getBulletinArticles_unread_iff {snapshot : DataSnapshot}
    {database : Table BulletinRow}
    {articles : List BulletinArticle}
    (loaded : getBulletinArticles snapshot database = some articles) :
    (∃ article ∈ articles, article.alreadyRead = false) ↔
      ∃ category ∈ bulletinCategories.map Prod.fst, HasUnread snapshot database category := by
  obtain ⟨data, read, built⟩ := Option.bind_eq_some_iff.mp loaded
  obtain rfl := Option.some.inj built
  constructor
  · rintro ⟨article, member, unread⟩
    obtain ⟨list, listed, member⟩ := List.mem_flatten.mp member
    obtain ⟨⟨category, type⟩, known, mapped⟩ := (mem_of_mapM read).mp listed
    obtain ⟨child, present, decoded⟩ := (mem_of_mapM mapped).mp member
    refine ⟨category, List.mem_map_of_mem known, child, present, ?_⟩
    rw [readBulletinArticle_alreadyRead decoded, unread]
  · rintro ⟨_, named, child, present, unread⟩
    obtain ⟨⟨category, type⟩, known, rfl⟩ := List.mem_map.mp named
    obtain ⟨list, listed, mapped⟩ := returned_of_mapM read known
    obtain ⟨article, member, decoded⟩ := returned_of_mapM mapped present
    refine ⟨article, List.mem_flatten.mpr ⟨list, listed, member⟩, ?_⟩
    exact Option.some.inj ((readBulletinArticle_alreadyRead decoded).symm.trans unread)

/-- The hidden dot is shown exactly when the feed has an unread article. -/
def BulletinDotAgrees (visible : Bool) (articles : List BulletinArticle) : Prop :=
  visible = true ↔ ∃ article ∈ articles, article.alreadyRead = false

instance (visible : Bool) (articles : List BulletinArticle) :
    Decidable (BulletinDotAgrees visible articles) :=
  inferInstanceAs (Decidable (_ ↔ _))

/-- The dot agrees with the feed when a category of both has an unread article, or the
categories of the feed alone have one just when those of the dot alone do. -/
theorem bulletin_dot_iff {snapshot : DataSnapshot} {database : Table BulletinRow}
    {visible : Bool} {articles : List BulletinArticle}
    (shown : bulletinDotOnDataChange snapshot database false = some visible)
    (loaded : getBulletinArticles snapshot database = some articles) :
    BulletinDotAgrees visible articles ↔
      (∃ category ∈ ["Athletics", "Colleges", "Reference"],
        HasUnread snapshot database category) ∨
      ((∃ category ∈ ["Academics", "Clubs"], HasUnread snapshot database category) ↔
        ∃ category ∈ ["seniors", "events", "others"], HasUnread snapshot database category) := by
  obtain ⟨found, returned, result⟩ := Option.map_eq_some_iff.mp shown
  have dot : visible = true ↔ ∃ category ∈ dotCategories, HasUnread snapshot database category := by
    rw [← success_iff returned, ← result]
    cases found <;> simp
  rw [BulletinDotAgrees, dot, getBulletinArticles_unread_iff loaded]
  simp only [dotCategories, bulletinCategories, List.map_cons, List.map_nil,
    List.exists_mem_cons_iff, List.not_mem_nil, false_and, exists_false, or_false]
  generalize HasUnread snapshot database "Academics" = academics
  generalize HasUnread snapshot database "Clubs" = clubs
  generalize HasUnread snapshot database "Athletics" = athletics
  generalize HasUnread snapshot database "Colleges" = colleges
  generalize HasUnread snapshot database "Reference" = reference
  generalize HasUnread snapshot database "seniors" = seniors
  generalize HasUnread snapshot database "events" = events
  generalize HasUnread snapshot database "others" = others
  by_cases both : athletics ∨ colleges ∨ reference
  · grind
  · grind

/-- A bulletin with one article, in the given category. -/
def bulletinOf (category : String) : DataSnapshot :=
  .node "bulletin" [.node category [.node "a" [.leaf "articleTitle" (.string "Title")]]]

theorem athletics_dot_agrees :
    BulletinDotAgrees true [⟨"a", 0, "Title", "", .athletics, false⟩] := by
  have shown : bulletinDotOnDataChange (bulletinOf "Athletics") (Table.idle []) false =
      some true := by decide +kernel
  have loaded : getBulletinArticles (bulletinOf "Athletics") (Table.idle []) =
      some [⟨"a", 0, "Title", "", .athletics, false⟩] := by decide +kernel
  refine (bulletin_dot_iff shown loaded).mpr (Or.inl ⟨"Athletics", by simp, ?_⟩)
  exact ⟨_, List.mem_cons_self, by decide +kernel⟩

/-- An unread article under Academics does not show the dot. -/
theorem academics_dot_stays_hidden :
    bulletinDotOnDataChange (bulletinOf "Academics") (Table.idle []) false = some false ∧
    getBulletinArticles (bulletinOf "Academics") (Table.idle []) =
      some [⟨"a", 0, "Title", "", .academics, false⟩] ∧
    ¬ BulletinDotAgrees false [⟨"a", 0, "Title", "", .academics, false⟩] := by
  decide +kernel

/-- The button with the database that the notification screen writes to. -/
structure NotifBtn where
  database : Table NotifRow
  dotVisible : Bool
  deriving DecidableEq

/-- One turn of the loop over the notifications. -/
def showUnread (database : Table NotifRow) (visible : Bool) (childSn : DataSnapshot) :
    Option Bool := do
  let added ← NotifDatabase.alreadyAdded childSn.key database
  if !added then some true
  else
    let read ← NotifDatabase.getReadStatusByID childSn.key database
    if !read then some true else some visible

def NotifBtn.onDataChange (snapshot : DataSnapshot) (button : NotifBtn) : Option NotifBtn :=
  (snapshot.children.foldlM (showUnread button.database) button.dotVisible).map
    fun dotVisible => { button with dotVisible }

inductive NotifBtnEvent where
  | deliver (snapshot : DataSnapshot)
  | databaseChanges (data : List NotifData)

def notifBtnStep (button : NotifBtn) : NotifBtnEvent → Option NotifBtn
  | .deliver snapshot => button.onDataChange snapshot
  | .databaseChanges data => some { button with database := Table.idle (data.map (·.values)) }

abbrev notifBtnRun : NotifBtn → List NotifBtnEvent → Option NotifBtn := run notifBtnStep

/-- The button when its view is created. -/
def NotifBtn.created (data : List NotifData) : NotifBtn :=
  ⟨Table.idle (data.map (·.values)), false⟩

/-- The ID has no row, or a row that is not marked read. -/
def unread (rows : List NotifRow) (id : String) : Bool :=
  (rows.find? (·.notifID == id)).all (·.notified == 0)

def ContainsUnread (rows : List NotifRow) (snapshot : DataSnapshot) : Prop :=
  ∃ child ∈ snapshot.children, unread rows child.key = true

instance (rows : List NotifRow) (snapshot : DataSnapshot) :
    Decidable (ContainsUnread rows snapshot) :=
  inferInstanceAs (Decidable (∃ child ∈ snapshot.children, _))

/-- What the two lookups answer for an ID. -/
def looksUnread (database : Table NotifRow) (id : String) : Bool :=
  NotifDatabase.alreadyAdded id database == some false ||
    NotifDatabase.getReadStatusByID id database == some false

def LooksUnread (database : Table NotifRow) (snapshot : DataSnapshot) : Prop :=
  ∃ child ∈ snapshot.children, looksUnread database child.key = true

instance (database : Table NotifRow) (snapshot : DataSnapshot) :
    Decidable (LooksUnread database snapshot) :=
  inferInstanceAs (Decidable (∃ child ∈ snapshot.children, _))

/-- Right after a delivery the dot tells whether it contains an unread notification. -/
def DotTellsUnread (button : NotifBtn) : NotifBtnEvent → Prop
  | .deliver snapshot => ∀ next, button.onDataChange snapshot = some next →
    (next.dotVisible = true ↔ ContainsUnread button.database.rows snapshot)
  | .databaseChanges _ => True

/-- A delivery contains an unread notification when the dot is already visible; when it
is not, one just when one looks unread, as it does when the IDs are plain. -/
def DotCanTell (button : NotifBtn) : NotifBtnEvent → Prop
  | .deliver snapshot =>
    if button.dotVisible then ContainsUnread button.database.rows snapshot
    else LooksUnread button.database snapshot ↔ ContainsUnread button.database.rows snapshot
  | .databaseChanges _ => True

instance (button : NotifBtn) : (event : NotifBtnEvent) → Decidable (DotCanTell button event)
  | .deliver snapshot => inferInstanceAs (Decidable (if button.dotVisible then
      ContainsUnread button.database.rows snapshot
    else (_ ↔ ContainsUnread button.database.rows snapshot)))
  | .databaseChanges _ => inferInstanceAs (Decidable True)

/-- The rows are flagged with zero or one. -/
def Flagged (button : NotifBtn) : Prop :=
  ∀ row ∈ button.database.rows, row.notified = 0 ∨ row.notified = 1

private theorem flagged_values (data : List NotifData) (dotVisible : Bool) :
    Flagged ⟨Table.idle (data.map (·.values)), dotVisible⟩ := by
  intro row member
  obtain ⟨notification, _, rfl⟩ := List.mem_map.mp member
  cases read : notification.notified <;> simp [NotifData.values, read]

private theorem looksUnread_of_plain {button : NotifBtn} (flagged : Flagged button) {id : String}
    (plain : PlainText id) : looksUnread button.database id = unread button.database.rows id := by
  rw [looksUnread, NotifDatabase.alreadyAdded_of_plain plain,
    NotifDatabase.getReadStatusByID_of_plain plain, unread]
  cases found : button.database.rows.find? (·.notifID == id) with
  | none => rfl
  | some row => rcases flagged row (List.mem_of_find?_eq_some found) with read | read <;> simp [read]

theorem looksUnread_iff_of_plain {button : NotifBtn} (flagged : Flagged button)
    {snapshot : DataSnapshot} (plain : ∀ child ∈ snapshot.children, PlainText child.key) :
    LooksUnread button.database snapshot ↔ ContainsUnread button.database.rows snapshot :=
  exists_congr fun child => and_congr_right fun present => by
    rw [looksUnread_of_plain flagged (plain child present)]

private theorem showUnread_eq {database : Table NotifRow} {visible after : Bool}
    {childSn : DataSnapshot}
    (shown : showUnread database visible childSn = some after) :
    after = (visible || looksUnread database childSn.key) := by
  obtain ⟨added, looked, shown⟩ := Option.bind_eq_some_iff.mp shown
  rw [looksUnread, looked]
  cases added with
  | false =>
    obtain rfl : true = after := Option.some.inj shown
    simp
  | true =>
    obtain ⟨read, asked, shown⟩ := Option.bind_eq_some_iff.mp shown
    rw [asked]
    cases read with
    | false =>
      obtain rfl : true = after := Option.some.inj shown
      simp
    | true =>
      obtain rfl : visible = after := Option.some.inj shown
      simp

private theorem onDataChange_dotVisible {button next : NotifBtn} {snapshot : DataSnapshot}
    (taken : button.onDataChange snapshot = some next) :
    next.dotVisible = true ↔
      button.dotVisible = true ∨ LooksUnread button.database snapshot := by
  obtain ⟨visible, shown, rfl⟩ := Option.map_eq_some_iff.mp taken
  have loop : ∀ {children : List DataSnapshot} {before after : Bool},
      children.foldlM (showUnread button.database) before = some after →
      (after = true ↔ before = true ∨ ∃ child ∈ children,
        looksUnread button.database child.key = true) := by
    intro children
    induction children with
    | nil =>
      intro before after shown
      obtain rfl : before = after := Option.some.inj shown
      simp
    | cons child rest ih =>
      intro before after shown
      rw [List.foldlM_cons] at shown
      obtain ⟨middle, here, later⟩ := Option.bind_eq_some_iff.mp shown
      rw [ih later, showUnread_eq here, Bool.or_eq_true, List.exists_mem_cons_iff, or_assoc]
  exact loop shown

private theorem dotTellsUnread_iff {button next : NotifBtn} {event : NotifBtnEvent}
    (taken : notifBtnStep button event = some next) :
    DotTellsUnread button event ↔ DotCanTell button event := by
  cases event with
  | databaseChanges data => exact Iff.rfl
  | deliver snapshot =>
    have shown := onDataChange_dotVisible taken
    have here : DotTellsUnread button (.deliver snapshot) ↔
        (next.dotVisible = true ↔ ContainsUnread button.database.rows snapshot) := by
      constructor
      · intro tells
        exact tells next taken
      · intro tells other same
        obtain rfl : next = other := Option.some.inj (taken.symm.trans same)
        exact tells
    rw [here, shown, DotCanTell]
    cases button.dotVisible <;> simp

theorem Flagged.step {button next : NotifBtn} {event : NotifBtnEvent} (flagged : Flagged button)
    (taken : notifBtnStep button event = some next) : Flagged next := by
  cases event with
  | deliver snapshot =>
    obtain ⟨visible, _, rfl⟩ := Option.map_eq_some_iff.mp taken
    exact flagged
  | databaseChanges data =>
    obtain rfl := Option.some.inj taken
    exact flagged_values data button.dotVisible

/-- The dot tells after every delivery whether it contains an unread notification just
when each delivery that finds the dot visible contains one, and each that finds it hidden
contains one when one looks so. -/
theorem notif_dot_iff {data : List NotifData} {events : List NotifBtnEvent} {last : NotifBtn}
    (ran : notifBtnRun (NotifBtn.created data) events = some last) :
    Along notifBtnStep DotTellsUnread (NotifBtn.created data) events ↔
      Along notifBtnStep DotCanTell (NotifBtn.created data) events :=
  along_iff_along_of_invariant Flagged.step (fun _ taken => dotTellsUnread_iff taken)
    (flagged_values data false) ran

/-- A snapshot with one notification. -/
def oneNotification : DataSnapshot :=
  .node "notifications" [.node "n" [.leaf "notificationTitle" (.string "Title")]]

/-- The notification of that snapshot once the screen has stored it. -/
def storedNotification (notified : Bool) : NotifData :=
  ⟨"n", 0, some "Title", none, -1, none, none, notified⟩

/-- A notification that was read before the first delivery leaves the dot hidden. -/
theorem first_delivery_tells :
    Along notifBtnStep DotTellsUnread (NotifBtn.created [])
      [.databaseChanges [storedNotification true], .deliver oneNotification] := by
  have ran : notifBtnRun (NotifBtn.created [])
      [.databaseChanges [storedNotification true], .deliver oneNotification] =
      some ⟨Table.idle [(storedNotification true).values], false⟩ := by decide +kernel
  have taken : notifBtnStep ⟨Table.idle [(storedNotification true).values], false⟩
      (.deliver oneNotification) =
        some ⟨Table.idle [(storedNotification true).values], false⟩ := by decide +kernel
  have tells : DotCanTell ⟨Table.idle [(storedNotification true).values], false⟩
      (.deliver oneNotification) := by decide +kernel
  exact (notif_dot_iff ran).mpr (Along.cons rfl trivial (Along.cons taken tells trivial))

/-- A dot shown for a notification stays when the notification has been read. -/
theorem dot_stays_visible : ¬ Along notifBtnStep DotTellsUnread (NotifBtn.created [])
    [.deliver oneNotification, .databaseChanges [storedNotification true],
      .deliver oneNotification] := by
  intro along
  have shown : notifBtnStep (NotifBtn.created []) (.deliver oneNotification) =
      some ⟨Table.idle [], true⟩ := by decide +kernel
  have stays : NotifBtn.onDataChange oneNotification
      ⟨Table.idle [(storedNotification true).values], true⟩ =
        some ⟨Table.idle [(storedNotification true).values], true⟩ := by decide +kernel
  have tells := (((along.2 _ shown).2 _ rfl).1 _ stays).mp rfl
  exact absurd tells (by decide)

end AhsApp.Android
