import AhsApp.Android.NotifActivity

/-! The read marks in the notification database while any number of screens share it.
Each delivery to one of them rewrites the whole table. -/

namespace AhsApp.Android

open AhsApp.Firebase AhsApp.Library

/-- A screen with the snapshot that its listener was called with last. -/
structure LiveScreen where
  screen : NotifScreen
  received : Option DataSnapshot

/-- The listener of a screen outlives it, so no screen is ever removed. -/
structure NotifScreens where
  notifDatabase : Table NotifRow
  screens : List LiveScreen
  latest : Option DataSnapshot

def NotifScreens.empty : NotifScreens := ⟨Table.idle [], [], none⟩

inductive NotifScreensEvent where
  | openScreen
  | onDataChange (index : Nat) (snapshot : DataSnapshot) (caches : Caches)
  | onClick (index position : Nat)

/-- Without a failure in SQL. -/
def notifScreensStep (sorted : SortedList NotifData) (json : JsonCodec) (state : NotifScreens) :
    NotifScreensEvent → Option NotifScreens
  | .openScreen =>
    some { state with screens := state.screens ++ [⟨NotifScreen.created, none⟩] }
  | .onDataChange index snapshot caches => do
    let live ← state.screens[index]?
    let (notifDatabase, screen) ← NotifScreen.onDataChange sorted json caches (fun _ => false)
      snapshot (state.notifDatabase, live.screen)
    some ⟨notifDatabase, state.screens.set index ⟨screen, some snapshot⟩, some snapshot⟩
  | .onClick index position => do
    let live ← state.screens[index]?
    let (notifDatabase, screen) ← NotifScreen.onClick sorted position
      (state.notifDatabase, live.screen)
    some { state with
      notifDatabase, screens := state.screens.set index { live with screen } }

abbrev notifScreensRun (sorted : SortedList NotifData) (json : JsonCodec) :
    NotifScreens → List NotifScreensEvent → Option NotifScreens :=
  run (notifScreensStep sorted json)

/-- The IDs of a snapshot; none before the first. -/
def notificationIDs : Option DataSnapshot → List String
  | none => []
  | some snapshot => snapshot.children.map DataSnapshot.key

/-- A snapshot is plain, and it reaches every listener before the next tap. -/
def ReachesAll (state : NotifScreens) : NotifScreensEvent → Prop
  | .openScreen => True
  | .onDataChange _ snapshot _ => PlainSnapshot snapshot
  | .onClick _ _ => ∀ live ∈ state.screens, live.received = none ∨ live.received = state.latest

/-- The tap is on a row of the notification. -/
def TapsNotification (id : String) (state : NotifScreens) : NotifScreensEvent → Prop
  | .onClick index position => ∃ live data, state.screens[index]? = some live ∧
    live.screen.sortedList[position]? = some data ∧ data.id = id
  | _ => False

def KeepsInFeed (id : String) : NotifScreensEvent → Prop
  | .onDataChange _ snapshot _ => id ∈ notificationIDs (some snapshot)
  | _ => True

/-- A row of the ID is marked. -/
def Marked (id : String) (table : Table NotifRow) : Prop :=
  ∃ row ∈ table.rows, row.notifID = id ∧ row.notified = 1

/-- The table has the rows of the latest snapshot, and each screen lists what it received. -/
structure InStep (state : NotifScreens) : Prop where
  rows : state.notifDatabase.rows.map NotifRow.notifID = notificationIDs state.latest
  distinct : (notificationIDs state.latest).Nodup
  free : ∀ id ∈ notificationIDs state.latest, PlainText id
  listed : ∀ live ∈ state.screens,
    (live.screen.sortedList.map NotifData.id).Perm (notificationIDs live.received)
  unique : ∀ live ∈ state.screens, (notificationIDs live.received).Nodup

theorem InStep.empty : InStep NotifScreens.empty where
  rows := rfl
  distinct := List.nodup_nil
  free := by simp [NotifScreens.empty, notificationIDs]
  listed := by simp [NotifScreens.empty]
  unique := by simp [NotifScreens.empty]

theorem read_iff_marked {id : String} (free : PlainText id) {table : Table NotifRow}
    (distinct : (table.rows.map NotifRow.notifID).Nodup) :
    NotifDatabase.getReadStatusByID id table = some true ↔ Marked id table := by
  rw [NotifDatabase.getReadStatusByID_of_plain free]
  constructor
  · intro read
    cases found : table.rows.find? (·.notifID == id) with
    | none => simp [found] at read
    | some row =>
      have marked : row.notified = 1 := by simpa [found] using read
      exact ⟨row, List.mem_of_find?_eq_some found, by simpa using List.find?_some found, marked⟩
  · rintro ⟨row, member, rfl, marked⟩
    rw [find?_of_mem distinct member]
    simp [marked]

private theorem marked_values_iff {table : Table NotifRow} {new : List NotifData}
    (stored : table.rows = new.map NotifData.values) (id : String) :
    Marked id table ↔ ∃ data ∈ new, data.id = id ∧ data.notified = true := by
  rw [Marked, stored]
  constructor
  · rintro ⟨row, member, named, marked⟩
    obtain ⟨data, inside, rfl⟩ := List.mem_map.mp member
    exact ⟨data, inside, named, by simpa [NotifData.values] using marked⟩
  · rintro ⟨data, inside, named, notified⟩
    exact ⟨data.values, List.mem_map_of_mem inside, named, by simp [NotifData.values, notified]⟩

private theorem marked_updated_iff {table next : Table NotifRow} {key : String}
    (rows : next.rows = table.rows.map fun row =>
      if row.notifID = key then { row with notified := 1 } else row)
    (present : key ∈ table.rows.map NotifRow.notifID) (id : String) :
    Marked id next ↔ key = id ∨ Marked id table := by
  rw [Marked, rows]
  constructor
  · rintro ⟨row, inside, rfl, marked⟩
    obtain ⟨old, stored, rfl⟩ := List.mem_map.mp inside
    by_cases same : old.notifID = key
    · exact Or.inl (by simp [same])
    · simp only [same, if_false] at marked ⊢
      exact Or.inr ⟨old, stored, rfl, marked⟩
  · rintro (rfl | ⟨row, inside, rfl, marked⟩)
    · obtain ⟨row, inside, same⟩ := List.mem_map.mp present
      exact ⟨{ row with notified := 1 }, List.mem_map.mpr ⟨row, inside, if_pos same⟩, same, rfl⟩
    · by_cases same : row.notifID = key
      · exact ⟨{ row with notified := 1 }, List.mem_map.mpr ⟨row, inside, if_pos same⟩, rfl, rfl⟩
      · exact ⟨row, List.mem_map.mpr ⟨row, inside, if_neg same⟩, rfl, marked⟩

private theorem keys_of_updated {table next : Table NotifRow} {key : String}
    (rows : next.rows = table.rows.map fun row =>
      if row.notifID = key then { row with notified := 1 } else row) :
    next.rows.map NotifRow.notifID = table.rows.map NotifRow.notifID := by
  rw [rows, List.map_map]
  refine List.map_congr_left fun row _ => ?_
  simp only [Function.comp_apply]
  split <;> rfl

theorem InStep.setScreen {state next : NotifScreens} {index : Nat} {live : LiveScreen}
    (valid : InStep state) (screens : next.screens = state.screens.set index live)
    (rows : next.notifDatabase.rows.map NotifRow.notifID = notificationIDs next.latest)
    (distinct : (notificationIDs next.latest).Nodup)
    (free : ∀ id ∈ notificationIDs next.latest, PlainText id)
    (listed : (live.screen.sortedList.map NotifData.id).Perm (notificationIDs live.received))
    (unique : (notificationIDs live.received).Nodup) : InStep next := by
  refine ⟨rows, distinct, free, ?_, ?_⟩
  · intro other member
    rw [screens] at member
    rcases List.mem_or_eq_of_mem_set member with member | rfl
    · exact valid.listed other member
    · exact listed
  · intro other member
    rw [screens] at member
    rcases List.mem_or_eq_of_mem_set member with member | rfl
    · exact valid.unique other member
    · exact unique

section
variable {sorted : SortedList NotifData} (lawful : sorted.Lawful) {json : JsonCodec}
variable {state next : NotifScreens}
include lawful

/-- A delivery brings a screen and the table in step with the snapshot; a notification of
the snapshot is marked if it was. -/
theorem deliver_spec {index : Nat} {snapshot : DataSnapshot} {caches : Caches}
    (valid : InStep state) (plain : PlainSnapshot snapshot)
    (taken : notifScreensStep sorted json state (.onDataChange index snapshot caches) = some next) :
    InStep next ∧ ∀ id, Marked id next.notifDatabase ↔
      Marked id state.notifDatabase ∧ id ∈ notificationIDs (some snapshot) := by
  obtain ⟨live, found, taken⟩ := Option.bind_eq_some_iff.mp taken
  obtain ⟨⟨notifDatabase, screen⟩, delivered, result⟩ := Option.bind_eq_some_iff.mp taken
  obtain rfl := Option.some.inj result
  obtain ⟨new, ids, before, listed, stored⟩ :=
    NotifScreen.onDataChange_spec lawful plain.1 delivered
  rw [Table.inserted_of_noneFails (fun _ _ => rfl)] at stored
  simp only at before listed stored
  have keys : notifDatabase.rows.map NotifRow.notifID = notificationIDs (some snapshot) := by
    rw [stored, List.map_map, notificationIDs, ← ids]
    rfl
  refine ⟨valid.setScreen rfl keys plain.1 ?_ ?_ plain.1, ?_⟩
  · intro id member
    obtain ⟨child, present, rfl⟩ := List.mem_map.mp member
    exact plain.2 child present
  · have perm := listed.map NotifData.id
    rw [ids] at perm
    exact perm
  · intro id
    have read : ∀ data ∈ new, data.notified = true ↔ Marked data.id state.notifDatabase := by
      intro data member
      have key : data.id ∈ snapshot.children.map DataSnapshot.key :=
        ids ▸ List.mem_map_of_mem member
      obtain ⟨child, present, same⟩ := List.mem_map.mp key
      rw [← read_iff_marked (same ▸ plain.2 child present) (valid.rows ▸ valid.distinct),
        before data member, Option.some.injEq]
    rw [marked_values_iff stored, notificationIDs, ← ids]
    constructor
    · rintro ⟨data, inside, rfl, notified⟩
      exact ⟨(read data inside).mp notified, List.mem_map_of_mem inside⟩
    · rintro ⟨marked, present⟩
      obtain ⟨data, member, rfl⟩ := List.mem_map.mp present
      exact ⟨data, member, rfl, (read data member).mpr marked⟩

/-- A tap marks the notification of the row, which is one of the latest snapshot. -/
theorem tap_spec {index position : Nat} (valid : InStep state)
    (given : ReachesAll state (.onClick index position))
    (taken : notifScreensStep sorted json state (.onClick index position) = some next) :
    InStep next ∧ ∀ id, Marked id next.notifDatabase ↔
      TapsNotification id state (.onClick index position) ∨ Marked id state.notifDatabase := by
  obtain ⟨live, found, taken⟩ := Option.bind_eq_some_iff.mp taken
  obtain ⟨⟨notifDatabase, screen⟩, tapped, result⟩ := Option.bind_eq_some_iff.mp taken
  obtain rfl := Option.some.inj result
  have member : live ∈ state.screens := List.mem_of_getElem? found
  have listed := valid.listed live member
  obtain ⟨data, there, updated, perm, _⟩ := NotifScreen.onClick_spec lawful
    (listed.nodup_iff.mpr (valid.unique live member)) tapped
  simp only at updated perm there
  -- The row is there, so its screen has received a snapshot, and that is the latest.
  have present : data.id ∈ notificationIDs state.latest := by
    have shown : data.id ∈ notificationIDs live.received :=
      listed.mem_iff.mp (List.mem_map_of_mem (List.mem_of_getElem? there))
    rcases given live member with unreached | reached
    · simp [unreached, notificationIDs] at shown
    · exact reached ▸ shown
  have free : PlainText { data with notified := true }.id := valid.free data.id present
  have rows := NotifDatabase.updateReadStatus_spec free rfl updated
  refine ⟨valid.setScreen rfl ((keys_of_updated rows).trans valid.rows) valid.distinct valid.free
    (perm.trans listed) (valid.unique live member), ?_⟩
  intro id
  have taps : TapsNotification id state (.onClick index position) ↔ data.id = id := by
    constructor
    · rintro ⟨other, row, foundOther, foundRow, same⟩
      obtain rfl : live = other := Option.some.inj (found.symm.trans foundOther)
      obtain rfl : data = row := Option.some.inj (there.symm.trans foundRow)
      exact same
    · intro same
      exact ⟨live, data, found, there, same⟩
  rw [taps]
  exact marked_updated_iff rows (valid.rows ▸ present) id

theorem InStep.step {event : NotifScreensEvent} (valid : InStep state)
    (given : ReachesAll state event)
    (taken : notifScreensStep sorted json state event = some next) : InStep next := by
  cases event with
  | openScreen =>
    obtain rfl := Option.some.inj taken
    refine ⟨valid.rows, valid.distinct, valid.free, ?_, ?_⟩
    · intro live member
      rcases List.mem_append.mp member with member | member
      · exact valid.listed live member
      · obtain rfl := List.mem_singleton.mp member
        exact List.Perm.refl _
    · intro live member
      rcases List.mem_append.mp member with member | member
      · exact valid.unique live member
      · obtain rfl := List.mem_singleton.mp member
        exact List.nodup_nil
  | onDataChange index snapshot caches => exact (deliver_spec lawful valid given taken).1
  | onClick index position => exact (tap_spec lawful valid given taken).1

/-- A mark comes from a tap, and is kept by the deliveries that contain its ID. -/
theorem marked_step_iff {event : NotifScreensEvent} (id : String) (valid : InStep state)
    (given : ReachesAll state event)
    (taken : notifScreensStep sorted json state event = some next) :
    Marked id next.notifDatabase ↔
      TapsNotification id state event ∨ Marked id state.notifDatabase ∧ KeepsInFeed id event := by
  cases event with
  | openScreen =>
    obtain rfl := Option.some.inj taken
    simp [TapsNotification, KeepsInFeed]
  | onDataChange index snapshot caches =>
    rw [(deliver_spec lawful valid given taken).2]
    simp [TapsNotification, KeepsInFeed]
  | onClick index position =>
    rw [(tap_spec lawful valid given taken).2]
    simp [KeepsInFeed]

end

/-- After any run the table has one row for each notification of the latest snapshot,
marked when the notification was tapped and every snapshot since has contained it. -/
theorem notif_read_marks {sorted : SortedList NotifData} (lawful : sorted.Lawful)
    {json : JsonCodec} {events : List NotifScreensEvent} {last : NotifScreens}
    (given : Along (notifScreensStep sorted json) ReachesAll NotifScreens.empty events)
    (ran : notifScreensRun sorted json NotifScreens.empty events = some last) :
    last.notifDatabase.rows.map NotifRow.notifID = notificationIDs last.latest ∧
    (notificationIDs last.latest).Nodup ∧
    ∀ row ∈ last.notifDatabase.rows, row.notified = 1 ↔
      Since (notifScreensStep sorted json) (TapsNotification row.notifID)
        (KeepsInFeed row.notifID) NotifScreens.empty events := by
  have valid : InStep last := run_invariant InStep ReachesAll (InStep.step lawful)
    InStep.empty given ran
  refine ⟨valid.rows, valid.distinct, ?_⟩
  intro row member
  have unmarked : ¬ Marked row.notifID NotifScreens.empty.notifDatabase := by
    rintro ⟨other, absent, _⟩
    exact absurd absent (by simp [NotifScreens.empty, Table.idle, Table.rows])
  have marked : row.notified = 1 ↔ Marked row.notifID last.notifDatabase := by
    constructor
    · intro marked
      exact ⟨row, member, rfl, marked⟩
    · rintro ⟨other, present, same, marked⟩
      obtain rfl : other = row :=
        List.inj_on_of_nodup_map (valid.rows ▸ valid.distinct) present member same
      exact marked
  have since : Marked row.notifID last.notifDatabase ↔
      Since (notifScreensStep sorted json) (TapsNotification row.notifID)
        (KeepsInFeed row.notifID) NotifScreens.empty events ∨
      (Marked row.notifID NotifScreens.empty.notifDatabase ∧
        ∀ event ∈ events, KeepsInFeed row.notifID event) := by
    refine holds_iff_since (fun state => Marked row.notifID state.notifDatabase) ?_ ?_
      InStep.empty given ran
    · exact InStep.step lawful
    · exact marked_step_iff lawful row.notifID
  rw [marked, since]
  simp [unmarked]

/-- A delivery to a screen while the bulletin article `b` is cached. -/
def deliveredTo (index : Nat) (children : List DataSnapshot) : NotifScreensEvent :=
  .onDataChange index (.node "notifications" children)
    ⟨Table.idle [], Table.idle [⟨"b", 0, "Title", "", 1, 0⟩]⟩

theorem reaches_after_delivery {sorted : SortedList NotifData} {json : JsonCodec}
    {state next : NotifScreens} {snapshot : DataSnapshot} {caches : Caches}
    (single : state.screens.length = 1)
    (taken : notifScreensStep sorted json state (.onDataChange 0 snapshot caches) = some next) :
    ∀ live ∈ next.screens, live.received = none ∨ live.received = next.latest := by
  obtain ⟨live, _, taken⟩ := Option.bind_eq_some_iff.mp taken
  obtain ⟨after, _, result⟩ := Option.bind_eq_some_iff.mp taken
  obtain rfl := Option.some.inj result
  obtain ⟨only, one⟩ := List.length_eq_one_iff.mp single
  intro other member
  obtain rfl : other = _ := by simpa [one] using member
  exact .inr rfl

def twoNotifications : List NotifScreensEvent :=
  [.openScreen, deliveredTo 0 [notificationAbout "n" 1, notificationAbout "m" 2], .onClick 0 0]

/-- The newer of two notifications is tapped. -/
theorem tapped_notification_marked : ∃ last,
    notifScreensRun SortedList.linear unusedCodec NotifScreens.empty twoNotifications = some last ∧
    last.notifDatabase.rows.map NotifRow.notified = [0, 1] ∧
    last.notifDatabase.rows.map NotifRow.notifID = notificationIDs last.latest ∧
    (notificationIDs last.latest).Nodup ∧
    ∀ row ∈ last.notifDatabase.rows, row.notified = 1 ↔
      Since (notifScreensStep SortedList.linear unusedCodec) (TapsNotification row.notifID)
        (KeepsInFeed row.notifID) NotifScreens.empty twoNotifications := by
  refine ⟨_, (Option.some_get (by decide +kernel)).symm, by decide +kernel,
    notif_read_marks SortedList.linear_lawful ?_ (Option.some_get (by decide +kernel)).symm⟩
  refine ⟨trivial, fun _ opened => ?_⟩
  obtain rfl := Option.some.inj opened
  refine ⟨show PlainSnapshot _ by decide, fun _ delivered => ?_⟩
  exact ⟨reaches_after_delivery rfl delivered, fun _ _ => trivial⟩

end AhsApp.Android
