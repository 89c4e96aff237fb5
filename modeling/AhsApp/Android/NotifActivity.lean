import AhsApp.Android.Comparison
import AhsApp.Android.FirebaseHandler
import AhsApp.Library.KeyedList
import AhsApp.Library.OptionList
import AhsApp.Library.Run
import AhsApp.Library.SortedList

/-! The notification screen. Its listener rebuilds the list and rewrites the database
from the flags it finds there; a tap marks a notification in both, and remembers the
row, which is marked once more when the page that was opened returns. -/

namespace AhsApp.Android

open AhsApp.Firebase AhsApp.Library

/-- What the two article databases hold when a notification is looked up. -/
structure Caches where
  articles : Table ArticleRow
  bulletins : Table BulletinRow

/-- The article of a notification, else its bulletin article. A missing ID is pasted into
the query as `null`. -/
def lookUpHolder (json : JsonCodec) (caches : Caches) (articleID : Option String) :
    Option (Option ArticleOrBulletinHolder) := do
  let id := articleID.getD "null"
  let article ← ArticleDatabase.getArticleById json id caches.articles
  match article with
  | some article => some (some (.article article))
  | none =>
    let article1 ← BulletinDatabase.getArticleByID id caches.bulletins
    some (article1.map .bulletinArticle)

/-- The notification of a child, marked as the database knows it. -/
def buildData (json : JsonCodec) (caches : Caches) (notifDatabase : Table NotifRow)
    (childSn : DataSnapshot) : Option NotifData := do
  let entry ← readNotification childSn
  let notified ← NotifDatabase.getReadStatusByID entry.notifID notifDatabase
  let holder ← lookUpHolder json caches entry.articleID
  some ⟨entry.notifID, entry.time, entry.title, entry.body, entry.category, entry.articleID,
    holder, notified⟩

/-- One screen: the list of its adapter, the row tapped last and how many opened pages
have yet to return. -/
structure NotifScreen where
  sortedList : List NotifData
  position : Nat
  opened : Nat
  deriving DecidableEq

namespace NotifScreen

def created : NotifScreen := ⟨[], 0, 0⟩

def areItemsTheSame : NotifData → NotifData → Bool := SortedList.sameKey NotifData.id

/-- One turn of the loop over the notifications, on the array and the sorted list. -/
def addChild (sorted : SortedList NotifData) (json : JsonCodec) (caches : Caches)
    (notifDatabase : Table NotifRow) (lists : List NotifData × List NotifData)
    (childSn : DataSnapshot) : Option (List NotifData × List NotifData) := do
  let data ← buildData json caches notifDatabase childSn
  let sortedList ← sorted.add NotifData.compare areItemsTheSame lists.2 data
  some (lists.1 ++ [data], sortedList)

def onDataChange (sorted : SortedList NotifData) (json : JsonCodec) (caches : Caches)
    (fails : Nat → Bool) (snapshot : DataSnapshot)
    (state : Table NotifRow × NotifScreen) : Option (Table NotifRow × NotifScreen) := do
  let (notifData, sortedList) ←
    snapshot.children.foldlM (addChild sorted json caches state.1) ([], [])
  some (NotifDatabase.updateData fails notifData state.1, { state.2 with sortedList })

/-- Beyond the end of the list there is nothing to mark. -/
def updateReadItemPosition (sorted : SortedList NotifData) (position : Nat)
    (screen : NotifScreen) : Option NotifScreen :=
  match screen.sortedList[position]? with
  | none => some screen
  | some data => do
    let sortedList ← sorted.recalculatePositionOfItemAt NotifData.compare areItemsTheSame
      (screen.sortedList.set position { data with notified := true }) position
    some { screen with sortedList }

/-- A tap on the row at a position. The page of an article or of a bulletin article is
opened for its result. -/
def onClick (sorted : SortedList NotifData) (position : Nat)
    (state : Table NotifRow × NotifScreen) : Option (Table NotifRow × NotifScreen) := do
  let data ← state.2.sortedList[position]?
  let data := { data with notified := true }
  let notifDatabase ← NotifDatabase.updateReadStatus data state.1
  let screen := { state.2 with position, sortedList := state.2.sortedList.set position data }
  if data.holder.isSome then some (notifDatabase, { screen with opened := screen.opened + 1 })
  else
    let screen ← screen.updateReadItemPosition sorted screen.position
    some (notifDatabase, screen)

/-- One of the opened pages returns. -/
def onActivityResult (sorted : SortedList NotifData) (resultOk : Bool) (screen : NotifScreen) :
    Option NotifScreen :=
  if screen.opened = 0 then none
  else
    let screen := { screen with opened := screen.opened - 1 }
    if resultOk then screen.updateReadItemPosition sorted screen.position else some screen

end NotifScreen

theorem buildData_spec {json : JsonCodec} {caches : Caches} {notifDatabase : Table NotifRow}
    {childSn : DataSnapshot} {data : NotifData}
    (built : buildData json caches notifDatabase childSn = some data) :
    data.id = childSn.key ∧
      NotifDatabase.getReadStatusByID childSn.key notifDatabase = some data.notified := by
  simp only [buildData, readNotification, Option.bind_eq_bind, Option.bind_eq_some_iff] at built
  obtain ⟨entry, ⟨_, _, _, _, _, _, _, _, _, _, read⟩, notified, looked, holder, _, made⟩ := built
  obtain rfl := Option.some.inj read
  obtain rfl := Option.some.inj made
  exact ⟨rfl, looked⟩

namespace NotifScreen

theorem addChildren_eq_some {sorted : SortedList NotifData} {json : JsonCodec} {caches : Caches}
    {notifDatabase : Table NotifRow} {children : List DataSnapshot}
    {lists next : List NotifData × List NotifData} :
    children.foldlM (addChild sorted json caches notifDatabase) lists = some next ↔
      ∃ new, children.mapM (buildData json caches notifDatabase) = some new ∧
        next.1 = lists.1 ++ new ∧
        sorted.addAll NotifData.compare areItemsTheSame lists.2 new = some next.2 := by
  induction children generalizing lists with
  | nil =>
    obtain ⟨before, items⟩ := lists
    obtain ⟨after, items'⟩ := next
    simp [SortedList.addAll, eq_comm]
  | cons child rest ih =>
    simp only [List.foldlM_cons, addChild, Option.bind_eq_bind, Option.bind_assoc,
      Option.bind_eq_some_iff, Option.bind_some, ih]
    constructor
    · rintro ⟨data, built, items, added, new, mapped, first, second⟩
      refine ⟨data :: new, mapM_cons_eq_some.mpr ⟨data, new, built, mapped, rfl⟩, ?_, ?_⟩
      · rw [first, List.append_assoc, List.singleton_append]
      · simp only [SortedList.addAll, List.foldlM_cons, Option.bind_eq_bind, added,
          Option.bind_some]
        exact second
    · rintro ⟨all, mapped, first, second⟩
      obtain ⟨data, new, built, later, rfl⟩ := mapM_cons_eq_some.mp mapped
      simp only [SortedList.addAll, List.foldlM_cons, Option.bind_eq_bind,
        Option.bind_eq_some_iff] at second
      obtain ⟨items, added, second⟩ := second
      refine ⟨data, built, items, added, new, later, ?_, second⟩
      rw [first, List.append_assoc, List.singleton_append]

/-- A delivery lists the notifications of the snapshot and stores them, each with the flag
that the database had for it. -/
theorem onDataChange_spec {sorted : SortedList NotifData} (lawful : sorted.Lawful)
    {json : JsonCodec} {caches : Caches} {fails : Nat → Bool} {snapshot : DataSnapshot}
    {state next : Table NotifRow × NotifScreen}
    (distinct : (snapshot.children.map DataSnapshot.key).Nodup)
    (taken : onDataChange sorted json caches fails snapshot state = some next) :
    ∃ new : List NotifData, new.map NotifData.id = snapshot.children.map DataSnapshot.key ∧
      (∀ data ∈ new, NotifDatabase.getReadStatusByID data.id state.1 = some data.notified) ∧
      next.2.sortedList.Perm new ∧
      next.1.rows = Table.inserted fails (new.map NotifData.values) := by
  obtain ⟨⟨new, items⟩, looped, result⟩ := Option.bind_eq_some_iff.mp taken
  obtain rfl := Option.some.inj result
  obtain ⟨_, mapped, rfl, added⟩ := addChildren_eq_some.mp looped
  have ids : new.map NotifData.id = snapshot.children.map DataSnapshot.key :=
    map_of_mapM (fun built => (buildData_spec built).1) mapped
  refine ⟨new, ids, ?_, ?_, ?_⟩
  · intro data member
    obtain ⟨child, _, built⟩ := (mem_of_mapM mapped).mp member
    rw [(buildData_spec built).1]
    exact (buildData_spec built).2
  · have listed : items.Perm ([] ++ new) :=
      lawful.addAll_perm (by simpa [ids] using distinct) added
    exact listed
  · simp [NotifDatabase.updateData, NotifDatabase.add, NotifDatabase.deleteAll, deleteAllRows,
      Table.insertAll_eq, Table.rows_execSQL]

/-- A delivery returns when its notifications have plain IDs, a time and a title, and their
articles can be looked up. -/
theorem onDataChange_returns {sorted : SortedList NotifData} (lawful : sorted.Lawful)
    {json : JsonCodec} {caches : Caches} {fails : Nat → Bool} {snapshot : DataSnapshot}
    {state : Table NotifRow × NotifScreen}
    (distinct : (snapshot.children.map DataSnapshot.key).Nodup)
    (plain : ∀ child ∈ snapshot.children, PlainText child.key)
    (complete : ∀ child ∈ snapshot.children, ∃ entry, readNotification child = some entry ∧
      entry.title.isSome ∧ (lookUpHolder json caches entry.articleID).isSome) :
    ∃ next, onDataChange sorted json caches fails snapshot state = some next := by
  have built : ∀ child ∈ snapshot.children, ∃ data,
      buildData json caches state.1 child = some data ∧ data.title.isSome := by
    intro child member
    obtain ⟨entry, read, titled, looked⟩ := complete child member
    obtain ⟨holder, looked⟩ := Option.isSome_iff_exists.mp looked
    have named : entry.notifID = child.key := by
      simp only [readNotification, Option.bind_eq_bind, Option.bind_eq_some_iff] at read
      obtain ⟨_, _, _, _, _, _, _, _, _, _, made⟩ := read
      exact Option.some.inj made ▸ rfl
    obtain ⟨notified, known⟩ : ∃ notified,
        NotifDatabase.getReadStatusByID child.key state.1 = some notified :=
      ⟨_, NotifDatabase.getReadStatusByID_of_plain (plain child member) state.1⟩
    refine ⟨⟨entry.notifID, entry.time, entry.title, entry.body, entry.category,
      entry.articleID, holder, notified⟩, ?_, titled⟩
    simp [buildData, read, named, known, looked]
  obtain ⟨new, mapped⟩ := mapM_returns fun child member =>
    (built child member).imp fun _ made => made.1
  have ids : new.map NotifData.id = snapshot.children.map DataSnapshot.key :=
    map_of_mapM (fun built => (buildData_spec built).1) mapped
  have titled : ∀ data ∈ new, data.title.isSome := by
    intro data member
    obtain ⟨child, listed, made⟩ := (mem_of_mapM mapped).mp member
    obtain ⟨other, same, titled⟩ := built child listed
    exact Option.some.inj (made.symm.trans same) ▸ titled
  have unique : (([] : List NotifData).map NotifData.id ++ new.map NotifData.id).Nodup := by
    simpa [ids] using distinct
  obtain ⟨items, added⟩ := lawful.addAll_returns unique fun first here second there =>
    NotifData.compare_isSome (titled first here) (titled second there)
  have looped : snapshot.children.foldlM (addChild sorted json caches state.1) ([], []) =
      some (new, items) := addChildren_eq_some.mpr ⟨new, mapped, rfl, added⟩
  rw [onDataChange, looped]
  exact ⟨_, rfl⟩

private theorem updateReadItemPosition_spec {sorted : SortedList NotifData} (lawful : sorted.Lawful)
    {position : Nat} {screen next : NotifScreen}
    (distinct : (screen.sortedList.map NotifData.id).Nodup)
    (updated : screen.updateReadItemPosition sorted position = some next) :
    (next.sortedList.map NotifData.id).Perm (screen.sortedList.map NotifData.id) ∧
      match screen.sortedList[position]? with
      | none => next.sortedList = screen.sortedList
      | some data => ∀ item, item ∈ next.sortedList ↔
          item = { data with notified := true } ∨ item ∈ screen.sortedList ∧ item.id ≠ data.id := by
  rw [updateReadItemPosition] at updated
  cases found : screen.sortedList[position]? with
  | none =>
    rw [found] at updated
    obtain rfl := Option.some.inj updated
    exact ⟨List.Perm.refl _, rfl⟩
  | some data =>
    rw [found] at updated
    obtain ⟨items, moved, result⟩ := Option.bind_eq_some_iff.mp updated
    obtain rfl := Option.some.inj result
    have keys : (screen.sortedList.set position { data with notified := true }).map NotifData.id =
        screen.sortedList.map NotifData.id := map_set_of_sameKey found rfl
    have placed : items.Perm (screen.sortedList.set position { data with notified := true }) :=
      lawful.recalculate_perm (keys ▸ distinct) moved
    refine ⟨keys ▸ placed.map NotifData.id, ?_⟩
    intro item
    rw [placed.mem_iff]
    exact mem_set_iff distinct found

private theorem onActivityResult_spec {sorted : SortedList NotifData} (lawful : sorted.Lawful)
    {resultOk : Bool} {screen next : NotifScreen}
    (distinct : (screen.sortedList.map NotifData.id).Nodup)
    (returned : screen.onActivityResult sorted resultOk = some next) :
    (next.sortedList.map NotifData.id).Perm (screen.sortedList.map NotifData.id) ∧
      if resultOk then
        match screen.sortedList[screen.position]? with
        | none => next.sortedList = screen.sortedList
        | some data => ∀ item, item ∈ next.sortedList ↔
            item = { data with notified := true } ∨ item ∈ screen.sortedList ∧ item.id ≠ data.id
      else next.sortedList = screen.sortedList := by
  rw [onActivityResult] at returned
  split at returned
  · cases returned
  · cases resultOk with
    | false =>
      obtain rfl := Option.some.inj returned
      exact ⟨List.Perm.refl _, rfl⟩
    | true =>
      exact @updateReadItemPosition_spec _ lawful _ { screen with opened := screen.opened - 1 } _
        distinct returned

theorem onClick_spec {sorted : SortedList NotifData} (lawful : sorted.Lawful) {position : Nat}
    {state next : Table NotifRow × NotifScreen}
    (distinct : (state.2.sortedList.map NotifData.id).Nodup)
    (taken : onClick sorted position state = some next) :
    ∃ data, state.2.sortedList[position]? = some data ∧
      NotifDatabase.updateReadStatus { data with notified := true } state.1 = some next.1 ∧
      (next.2.sortedList.map NotifData.id).Perm (state.2.sortedList.map NotifData.id) ∧
      ∀ item, item ∈ next.2.sortedList ↔ item = { data with notified := true } ∨
        item ∈ state.2.sortedList ∧ item.id ≠ data.id := by
  obtain ⟨data, found, taken⟩ := Option.bind_eq_some_iff.mp taken
  obtain ⟨notifDatabase, updated, taken⟩ := Option.bind_eq_some_iff.mp taken
  have keys : (state.2.sortedList.set position { data with notified := true }).map NotifData.id =
      state.2.sortedList.map NotifData.id := map_set_of_sameKey found rfl
  have listed : ∀ item, item ∈ state.2.sortedList.set position { data with notified := true } ↔
      item = { data with notified := true } ∨ item ∈ state.2.sortedList ∧ item.id ≠ data.id :=
    fun item => mem_set_iff distinct found
  refine ⟨data, found, ?_⟩
  simp only at taken
  split at taken
  · obtain rfl := Option.some.inj taken
    exact ⟨updated, keys ▸ List.Perm.refl _, listed⟩
  · obtain ⟨screen, marked, result⟩ := Option.bind_eq_some_iff.mp taken
    obtain rfl := Option.some.inj result
    obtain ⟨perm, again⟩ := updateReadItemPosition_spec lawful (keys ▸ distinct) marked
    obtain ⟨bound, _⟩ := List.getElem?_eq_some_iff.mp found
    simp only [List.getElem?_set_self bound] at again
    refine ⟨updated, keys ▸ perm, ?_⟩
    intro item
    rw [again, listed]
    grind

end NotifScreen

/-- The database with the screen. -/
abbrev NotifActivity := Table NotifRow × NotifScreen

/-- The article caches may have changed at every delivery. -/
inductive NotifActivityEvent where
  | onDataChange (snapshot : DataSnapshot) (caches : Caches) (fails : Nat → Bool)
  | onClick (position : Nat)
  | onActivityResult (resultOk : Bool)

def notifActivityStep (sorted : SortedList NotifData) (json : JsonCodec)
    (activity : NotifActivity) : NotifActivityEvent → Option NotifActivity
  | .onDataChange snapshot caches fails =>
    NotifScreen.onDataChange sorted json caches fails snapshot activity
  | .onClick position => NotifScreen.onClick sorted position activity
  | .onActivityResult resultOk =>
    (activity.2.onActivityResult sorted resultOk).map fun screen => (activity.1, screen)

abbrev notifActivityRun (sorted : SortedList NotifData) (json : JsonCodec) :
    NotifActivity → List NotifActivityEvent → Option NotifActivity :=
  run (notifActivityStep sorted json)

/-- What is shown as read is what is stored as read. -/
def ShowsStored (activity : NotifActivity) : Prop :=
  ∀ data ∈ activity.2.sortedList,
    NotifDatabase.getReadStatusByID data.id activity.1 = some data.notified

instance (activity : NotifActivity) : Decidable (ShowsStored activity) :=
  inferInstanceAs (Decidable (∀ data ∈ activity.2.sortedList, _))

/-- The IDs of a snapshot are distinct and plain. -/
def PlainSnapshot (snapshot : DataSnapshot) : Prop :=
  (snapshot.children.map DataSnapshot.key).Nodup ∧
    ∀ child ∈ snapshot.children, PlainText child.key

instance : DecidablePred PlainSnapshot := fun snapshot =>
  inferInstanceAs (Decidable (_ ∧ ∀ child ∈ snapshot.children, PlainText child.key))

def PlainEvent (_ : NotifActivity) : NotifActivityEvent → Prop
  | .onDataChange snapshot _ _ => PlainSnapshot snapshot
  | _ => True

instance (activity : NotifActivity) :
    (event : NotifActivityEvent) → Decidable (PlainEvent activity event)
  | .onDataChange snapshot _ _ => inferInstanceAs (Decidable (PlainSnapshot snapshot))
  | .onClick _ => inferInstanceAs (Decidable True)
  | .onActivityResult _ => inferInstanceAs (Decidable True)

/-- No notification that was read fails to be stored again, a row that is tapped is in the
database, and a page that returns finds a read notification at the remembered position. -/
def MarksWhatIsStored (activity : NotifActivity) : NotifActivityEvent → Prop
  | .onDataChange snapshot _ fails => ∀ entry ∈ snapshot.children.zipIdx, fails entry.2 = true →
    NotifDatabase.getReadStatusByID entry.1.key activity.1 = some false
  | .onClick position => ∀ data ∈ activity.2.sortedList[position]?,
    NotifDatabase.alreadyAdded data.id activity.1 = some true
  | .onActivityResult resultOk => resultOk = true →
    ∀ data ∈ activity.2.sortedList[activity.2.position]?, data.notified = true

instance (activity : NotifActivity) :
    (event : NotifActivityEvent) → Decidable (MarksWhatIsStored activity event)
  | .onDataChange snapshot _ fails =>
    inferInstanceAs (Decidable (∀ entry ∈ snapshot.children.zipIdx, fails entry.2 = true → _))
  | .onClick position =>
    inferInstanceAs (Decidable (∀ data ∈ activity.2.sortedList[position]?, _))
  | .onActivityResult resultOk => inferInstanceAs (Decidable (resultOk = true →
      ∀ data ∈ activity.2.sortedList[activity.2.position]?, data.notified = true))

private theorem getReadStatusByID_updateData {fails : Nat → Bool} {new : List NotifData}
    {table : Table NotifRow} (distinct : (new.map NotifData.id).Nodup)
    (stored : table.rows = Table.inserted fails (new.map NotifData.values)) {index : Nat}
    {data : NotifData} (found : new[index]? = some data) (free : PlainText data.id) :
    NotifDatabase.getReadStatusByID data.id table = some (!fails index && data.notified) := by
  have column : (new.map NotifData.values).map NotifRow.notifID = new.map NotifData.id := by
    rw [List.map_map]
    rfl
  have unique : (table.rows.map NotifRow.notifID).Nodup := by
    rw [stored]
    exact (column ▸ distinct).sublist ((Table.inserted_sublist fails _).map NotifRow.notifID)
  cases failed : fails index with
  | false =>
    have member : data.values ∈ table.rows := by
      rw [stored]
      exact Table.mem_inserted.mpr ⟨index, by simp [found], failed⟩
    have key : data.values.notifID = data.id := rfl
    rw [NotifDatabase.getReadStatusByID_of_plain free, ← key, find?_of_mem unique member,
      Option.any_some]
    cases notified : data.notified <;> simp [NotifData.values, notified]
  | true =>
    have absent : data.id ∉ table.rows.map NotifRow.notifID := by
      intro member
      obtain ⟨row, member, same⟩ := List.mem_map.mp member
      rw [stored] at member
      obtain ⟨other, there, kept⟩ := Table.mem_inserted.mp member
      rw [List.getElem?_map] at there
      obtain ⟨twin, twinAt, rfl⟩ := Option.map_eq_some_iff.mp there
      have position : (new.map NotifData.id)[index]? = (new.map NotifData.id)[other]? := by
        rw [List.getElem?_map, List.getElem?_map, found, twinAt]
        exact congrArg some same.symm
      have inside : index < (new.map NotifData.id).length := by
        obtain ⟨bound, _⟩ := List.getElem?_eq_some_iff.mp found
        simpa using bound
      obtain rfl : index = other := (List.getElem?_inj inside distinct).mp position
      exact absurd kept (by simp [failed])
    rw [NotifDatabase.getReadStatusByID_of_plain free, find?_eq_none_of_not_mem absent]
    rfl

/-- The listed notifications are distinct and their IDs plain. -/
structure Plain (activity : NotifActivity) : Prop where
  distinct : (activity.2.sortedList.map NotifData.id).Nodup
  free : ∀ id ∈ activity.2.sortedList.map NotifData.id, PlainText id

theorem Plain.perm {activity next : NotifActivity} (plain : Plain activity)
    (perm : (next.2.sortedList.map NotifData.id).Perm (activity.2.sortedList.map NotifData.id)) :
    Plain next :=
  ⟨perm.nodup_iff.mpr plain.distinct, fun id member => plain.free id (perm.mem_iff.mp member)⟩

section
variable {sorted : SortedList NotifData} (lawful : sorted.Lawful) {json : JsonCodec}
variable {activity next : NotifActivity} {event : NotifActivityEvent}

include lawful

theorem Plain.step (plain : Plain activity) (given : PlainEvent activity event)
    (taken : notifActivityStep sorted json activity event = some next) : Plain next := by
  cases event with
  | onDataChange snapshot caches fails =>
    obtain ⟨new, ids, _, listed, _⟩ := NotifScreen.onDataChange_spec lawful given.1 taken
    have perm := ids ▸ listed.map NotifData.id
    refine ⟨perm.nodup_iff.mpr given.1, ?_⟩
    intro id member
    obtain ⟨child, present, rfl⟩ := List.mem_map.mp (perm.mem_iff.mp member)
    exact given.2 child present
  | onClick position =>
    obtain ⟨_, _, _, perm, _⟩ := NotifScreen.onClick_spec lawful plain.distinct taken
    exact plain.perm perm
  | onActivityResult resultOk =>
    obtain ⟨screen, returned, rfl⟩ := Option.map_eq_some_iff.mp taken
    exact plain.perm (NotifScreen.onActivityResult_spec lawful plain.distinct returned).1

/-- A delivery shows what it stores when no insert of a read notification fails. -/
theorem showsStored_onDataChange_iff {snapshot : DataSnapshot} {caches : Caches}
    {fails : Nat → Bool} (given : PlainSnapshot snapshot)
    (taken : NotifScreen.onDataChange sorted json caches fails snapshot activity = some next) :
    ShowsStored next ↔
      MarksWhatIsStored activity (.onDataChange snapshot caches fails) := by
  obtain ⟨new, ids, before, listed, stored⟩ :=
    NotifScreen.onDataChange_spec lawful given.1 taken
  have distinct : (new.map NotifData.id).Nodup := ids ▸ given.1
  have free : ∀ data ∈ new, PlainText data.id := by
    intro data member
    have key : data.id ∈ snapshot.children.map DataSnapshot.key :=
      ids ▸ List.mem_map_of_mem member
    obtain ⟨child, present, same⟩ := List.mem_map.mp key
    exact same ▸ given.2 child present
  have after : ∀ {index : Nat} {data : NotifData}, new[index]? = some data →
      NotifDatabase.getReadStatusByID data.id next.1 = some (!fails index && data.notified) :=
    fun found => getReadStatusByID_updateData distinct stored found
      (free _ (List.mem_of_getElem? found))
  have keyAt : ∀ index : Nat, (new[index]?).map NotifData.id =
      (snapshot.children[index]?).map DataSnapshot.key := by
    intro index
    rw [← List.getElem?_map, ids, List.getElem?_map]
  constructor
  · rintro shown ⟨child, index⟩ member failed
    have there : snapshot.children[index]? = some child := by
      simpa [List.mem_zipIdx_iff_getElem?] using member
    have same := keyAt index
    rw [there] at same
    obtain ⟨data, found, key⟩ := Option.map_eq_some_iff.mp same
    have member := List.mem_of_getElem? found
    have now := (shown data (listed.mem_iff.mpr member)).symm.trans (after found)
    have unread : data.notified = false := by simpa [failed] using now
    rw [← key, before data member, unread]
  · intro kept data member
    obtain ⟨index, found⟩ := List.mem_iff_getElem?.mp (listed.mem_iff.mp member)
    rw [after found]
    cases failed : fails index with
    | false => simp
    | true =>
      have same := keyAt index
      rw [found] at same
      obtain ⟨child, there, key⟩ := Option.map_eq_some_iff.mp same.symm
      have entry : (child, index) ∈ snapshot.children.zipIdx := by
        simpa [List.mem_zipIdx_iff_getElem?] using there
      have unread := kept (child, index) entry failed
      rw [key, before data (listed.mem_iff.mp member)] at unread
      simp [Option.some.inj unread]

/-- A tap shows what it stores when the notification is in the database. -/
theorem showsStored_onClick_iff {position : Nat} (plain : Plain activity)
    (shown : ShowsStored activity)
    (taken : NotifScreen.onClick sorted position activity = some next) :
    ShowsStored next ↔ MarksWhatIsStored activity (.onClick position) := by
  obtain ⟨data, found, updated, _, listed⟩ :=
    NotifScreen.onClick_spec lawful plain.distinct taken
  have member := List.mem_of_getElem? found
  have free : ∀ item ∈ activity.2.sortedList, PlainText item.id :=
    fun item member => plain.free _ (List.mem_map_of_mem member)
  have marked : PlainText { data with notified := true }.id := free data member
  have here : NotifDatabase.getReadStatusByID data.id next.1 =
      NotifDatabase.alreadyAdded data.id activity.1 :=
    NotifDatabase.getReadStatusByID_updateReadStatus marked rfl updated
  have others : ∀ item ∈ activity.2.sortedList, item.id ≠ data.id →
      NotifDatabase.getReadStatusByID item.id next.1 =
        NotifDatabase.getReadStatusByID item.id activity.1 :=
    fun item member apart => NotifDatabase.getReadStatusByID_updateReadStatus_of_ne
      marked rfl updated (free item member) apart
  constructor
  · intro now other there
    obtain rfl : data = other := Option.some.inj (found.symm.trans there)
    exact here ▸ now _ ((listed _).mpr (Or.inl rfl))
  · intro stored item there
    rcases (listed item).mp there with rfl | ⟨old, apart⟩
    · exact here.trans (stored data found)
    · exact (others item old apart).trans (shown item old)

/-- A page that returns shows what is stored when the remembered row is read already. -/
theorem showsStored_onActivityResult_iff {resultOk : Bool} (plain : Plain activity)
    (shown : ShowsStored activity) {screen : NotifScreen}
    (returned : activity.2.onActivityResult sorted resultOk = some screen) :
    ShowsStored (activity.1, screen) ↔
      MarksWhatIsStored activity (.onActivityResult resultOk) := by
  obtain ⟨_, listed⟩ := NotifScreen.onActivityResult_spec lawful plain.distinct returned
  cases resultOk with
  | false =>
    have same : screen.sortedList = activity.2.sortedList := listed
    refine iff_of_true (fun item member => shown item (same ▸ member)) fun ok => ?_
    cases ok
  | true =>
    cases found : activity.2.sortedList[activity.2.position]? with
    | none =>
      rw [if_pos rfl, found] at listed
      have same : ShowsStored (activity.1, screen) := by
        intro item member
        exact shown item (listed ▸ member)
      refine iff_of_true same ?_
      intro _ data there
      exact absurd (found.symm.trans there) (by simp)
    | some data =>
      rw [if_pos rfl, found] at listed
      have member := List.mem_of_getElem? found
      constructor
      · intro now _ other there
        obtain rfl : data = other := Option.some.inj (found.symm.trans there)
        have marked := now _ ((listed _).mpr (Or.inl rfl))
        exact Option.some.inj ((shown data member).symm.trans marked)
      · intro read item there
        have notified : data.notified = true := read rfl data found
        rcases (listed item).mp there with rfl | ⟨old, _⟩
        · exact notified ▸ shown data member
        · exact shown item old

private theorem showsStored_step_iff (plain : Plain activity) (given : PlainEvent activity event)
    (shown : ShowsStored activity)
    (taken : notifActivityStep sorted json activity event = some next) :
    ShowsStored next ↔ MarksWhatIsStored activity event := by
  cases event with
  | onDataChange snapshot caches fails => exact showsStored_onDataChange_iff lawful given taken
  | onClick position => exact showsStored_onClick_iff lawful plain shown taken
  | onActivityResult resultOk =>
    obtain ⟨screen, returned, rfl⟩ := Option.map_eq_some_iff.mp taken
    exact showsStored_onActivityResult_iff lawful plain shown returned

end

/-- Over a run the screen shows what is stored exactly when every step marks what is
stored: above all, no page returns to another row than the one it was opened from. -/
theorem notif_activity_iff {sorted : SortedList NotifData} (lawful : sorted.Lawful)
    {json : JsonCodec} {notifDatabase : Table NotifRow} {events : List NotifActivityEvent}
    {last : NotifActivity}
    (given : Along (notifActivityStep sorted json) PlainEvent
      (notifDatabase, NotifScreen.created) events)
    (ran : notifActivityRun sorted json (notifDatabase, NotifScreen.created) events = some last) :
    Throughout (notifActivityStep sorted json) ShowsStored
        (notifDatabase, NotifScreen.created) events ↔
      Along (notifActivityStep sorted json) MarksWhatIsStored
        (notifDatabase, NotifScreen.created) events :=
  throughout_iff_along_of_invariant (Plain.step lawful) (showsStored_step_iff lawful)
    ⟨List.nodup_nil, by simp [NotifScreen.created]⟩ (by simp [ShowsStored, NotifScreen.created])
    given ran

/-- A notification about the bulletin article `b`. -/
def notificationAbout (id : String) (time : Rat) : DataSnapshot :=
  .node id [.leaf "notificationArticleID" (.string "b"), .leaf "notificationTitle" (.string id),
    .leaf "notificationUnixEpoch" (.number time)]

/-- A delivery while the bulletin article is cached. -/
def notificationsDelivered (children : List DataSnapshot) : NotifActivityEvent :=
  .onDataChange (.node "notifications" children)
    ⟨Table.idle [], Table.idle [⟨"b", 0, "Title", "", 1, 0⟩]⟩ (fun _ => false)

/-- A codec that is never asked, since no news article is cached. -/
def unusedCodec : JsonCodec := ⟨⟨fun _ _ => ""⟩, fun _ _ => none⟩

theorem page_returns_to_its_row :
    Throughout (notifActivityStep SortedList.linear unusedCodec) ShowsStored
      (Table.idle [], NotifScreen.created)
      [notificationsDelivered [notificationAbout "n" 1], .onClick 0, .onActivityResult true] := by
  refine (notif_activity_iff SortedList.linear_lawful ?_
    (Option.some_get (by decide +kernel)).symm).mpr ?_
  · exact ⟨by decide, fun _ _ => ⟨trivial, fun _ _ => ⟨trivial, fun _ _ => trivial⟩⟩⟩
  · exact Along.cons (Option.some_get (by decide +kernel)).symm (by decide) <|
      Along.cons (Option.some_get (by decide +kernel)).symm (by decide +kernel) <|
      Along.cons (Option.some_get (by decide +kernel)).symm (by decide +kernel) trivial

/-- While the page is open a newer notification takes the remembered row, and is shown as
read when the page returns. -/
theorem page_returns_to_another_row : ∃ activity,
    notifActivityRun SortedList.linear unusedCodec (Table.idle [], NotifScreen.created)
      [notificationsDelivered [notificationAbout "n" 1], .onClick 0,
        notificationsDelivered [notificationAbout "n" 1, notificationAbout "m" 2],
        .onActivityResult true] = some activity ∧
    ¬ ShowsStored activity := by
  show ∃ activity, activity ∈ (_ : Option NotifActivity) ∧ ¬ ShowsStored activity
  decide +kernel

end AhsApp.Android
