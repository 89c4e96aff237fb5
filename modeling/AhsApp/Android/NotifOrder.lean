import AhsApp.Android.NewestFirst
import AhsApp.Android.NotifActivity
import AhsApp.Library.BinarySearch

/-! The order of the notification list. A delivery adds each notification where it belongs; taps
and returning pages mark notifications and move at most the marked one, which its mark does not
displace. -/

namespace AhsApp.Android

open AhsApp.Firebase AhsApp.Library AhsApp.Library.Ranking

/-- What was read of a notification, without its mark and what it opens. -/
def NotifData.entry (data : NotifData) : NotifEntry :=
  ⟨data.id, data.articleID, data.body, data.title, data.time, data.category⟩

/-- The difference of the times fits in 64 bits, and titles are there where they decide. -/
def NotifEntry.Comparable (first second : NotifEntry) : Prop :=
  (first.time - second.time).natAbs < 2 ^ 63 ∧
    (first.time = second.time → first.title.isSome ∧ second.title.isSome)

def NotifActivityEvent.isDelivery : NotifActivityEvent → Bool
  | .onDataChange _ _ _ => true
  | _ => false

theorem NotifEntry.Comparable.symm {first second : NotifEntry}
    (comparable : first.Comparable second) : second.Comparable first := by
  obtain ⟨close, titled⟩ := comparable
  refine ⟨by omega, fun same => ?_⟩
  exact (titled same.symm).symm

theorem NotifEntry.Comparable.ranks {o1 o2 : NotifData}
    (comparable : o1.entry.Comparable o2.entry) :
    Ranks NotifData.compare NotifData.rank o1 o2 := by
  obtain ⟨close, titled⟩ := comparable
  simp only [NotifData.entry] at close titled
  rcases lt_trichotomy o1.time o2.time with earlier | same | later
  · have difference : long (o1.time - o2.time) = o1.time - o2.time :=
      long_eq_self (by omega) (by omega)
    refine ⟨1, ?_, ?_⟩
    · rw [NotifData.compare, difference, if_pos (by omega)]
    · simp [NotifData.rank, Prod.Lex.toLex_lt_toLex, earlier, earlier.ne, earlier.not_gt]
  · exact NotifData.compare_ranks (titled same).1 (titled same).2 close
  · have difference : long (o1.time - o2.time) = o1.time - o2.time :=
      long_eq_self (by omega) (by omega)
    refine ⟨-1, ?_, ?_⟩
    · rw [NotifData.compare, difference, if_neg (by omega), if_pos (by omega)]
    · simp [NotifData.rank, Prod.Lex.toLex_lt_toLex, later, later.ne, later.not_gt]

private theorem buildData_entry {json : JsonCodec} {caches : Caches}
    {notifDatabase : Table NotifRow}
    {childSn : DataSnapshot} {data : NotifData}
    (built : buildData json caches notifDatabase childSn = some data) :
    readNotification childSn = some data.entry := by
  simp only [buildData, Option.bind_eq_bind, Option.bind_eq_some_iff] at built
  obtain ⟨entry, read, _, _, _, _, made⟩ := built
  obtain rfl := Option.some.inj made
  exact read

/-- The list has the notifications that were read, the newest first. -/
structure ListsNewest (entries : List NotifEntry) (items : List NotifData) : Prop where
  perm : (items.map NotifData.entry).Perm entries
  ordered : (items.map NotifData.rank).Pairwise (· ≤ ·)

/-- The notifications have IDs of their own, and any two can be compared. -/
structure ComparableEntries (entries : List NotifEntry) : Prop where
  ids : (entries.map NotifEntry.notifID).Nodup
  comparable : entries.Pairwise NotifEntry.Comparable

namespace ListsNewest

variable {entries : List NotifEntry} {items next : List NotifData} {sorted : SortedList NotifData}
variable {index : Nat} {data : NotifData}

theorem ids (lists : ListsNewest entries items) (valid : ComparableEntries entries) :
    (items.map NotifData.id).Nodup := by
  have same : (items.map NotifData.id).Perm (entries.map NotifEntry.notifID) := by
    simpa [NotifData.entry, Function.comp_def] using lists.perm.map NotifEntry.notifID
  exact same.nodup_iff.mpr valid.ids

/-- A mark is not read from the snapshot, and no order depends on it. -/
theorem mark (lists : ListsNewest entries items) (here : items[index]? = some data) :
    ListsNewest entries (items.set index { data with notified := true }) := by
  have entry : (items.set index { data with notified := true }).map NotifData.entry =
      items.map NotifData.entry := map_set_of_sameKey here rfl
  have rank : (items.set index { data with notified := true }).map NotifData.rank =
      items.map NotifData.rank := map_set_of_sameKey here rfl
  exact ⟨entry ▸ lists.perm, rank ▸ lists.ordered⟩

theorem recalculate (lists : ListsNewest entries items) (valid : ComparableEntries entries)
    (lawful : sorted.Lawful) (searches : sorted.Searches)
    (moved : sorted.recalculatePositionOfItemAt NotifData.compare NotifScreen.areItemsTheSame
      items index = some next) : ListsNewest entries next := by
  have comparable : (items.map NotifData.entry).Pairwise NotifEntry.Comparable :=
    valid.comparable.perm lists.perm.symm NotifEntry.Comparable.symm
  refine ⟨((lawful.recalculate_perm (lists.ids valid) moved).map _).trans lists.perm, ?_⟩
  refine searches.recalculate_sorted ((List.pairwise_map.mp comparable).imp ?_) lists.ordered moved
  exact fun both => ⟨both.ranks, both.symm.ranks⟩

theorem updateReadItemPosition {screen after : NotifScreen}
    (lists : ListsNewest entries screen.sortedList) (valid : ComparableEntries entries)
    (lawful : sorted.Lawful) (searches : sorted.Searches)
    (updated : screen.updateReadItemPosition sorted index = some after) :
    ListsNewest entries after.sortedList := by
  rw [NotifScreen.updateReadItemPosition] at updated
  cases here : screen.sortedList[index]? with
  | none =>
    rw [here] at updated
    exact Option.some.inj updated ▸ lists
  | some data =>
    rw [here] at updated
    obtain ⟨moved, recalculated, result⟩ := Option.bind_eq_some_iff.mp updated
    obtain rfl := Option.some.inj result
    exact (lists.mark here).recalculate valid lawful searches recalculated

end ListsNewest

section activity

variable {sorted : SortedList NotifData} (lawful : sorted.Lawful) (searches : sorted.Searches)
variable {json : JsonCodec} {entries : List NotifEntry} {activity next : NotifActivity}

include lawful searches

theorem ListsNewest.of_delivery (valid : ComparableEntries entries) {snapshot : DataSnapshot}
    (read : snapshot.children.mapM readNotification = some entries) {caches : Caches}
    {fails : Nat → Bool}
    (taken : NotifScreen.onDataChange sorted json caches fails snapshot activity = some next) :
    ListsNewest entries next.2.sortedList := by
  obtain ⟨⟨new, items⟩, looped, result⟩ := Option.bind_eq_some_iff.mp taken
  obtain rfl := Option.some.inj result
  obtain ⟨_, mapped, rfl, added⟩ := NotifScreen.addChildren_eq_some.mp looped
  obtain rfl : new.map NotifData.entry = entries :=
    Option.some.inj ((mapM_of_mapM buildData_entry mapped).symm.trans read)
  have distinct : (new.map NotifData.id).Nodup := by
    simpa [NotifData.entry, Function.comp_def] using valid.ids
  have perm : items.Perm ([] ++ new) := lawful.addAll_perm (by simpa using distinct) added
  refine ⟨perm.map NotifData.entry, searches.addAll_sorted ?_ ?_ List.Pairwise.nil added⟩
  · simp
  · exact (List.pairwise_map.mp valid.comparable).imp fun comparable => comparable.ranks

/-- Taps and returning pages keep the list. -/
theorem ListsNewest.step (valid : ComparableEntries entries) {event : NotifActivityEvent}
    (lists : ListsNewest entries activity.2.sortedList) (quiet : event.isDelivery = false)
    (taken : notifActivityStep sorted json activity event = some next) :
    ListsNewest entries next.2.sortedList := by
  cases event with
  | onDataChange snapshot caches fails => cases quiet
  | onClick position =>
    obtain ⟨data, here, taken⟩ := Option.bind_eq_some_iff.mp taken
    obtain ⟨notifDatabase, _, taken⟩ := Option.bind_eq_some_iff.mp taken
    simp only at taken
    split at taken
    · exact Option.some.inj taken ▸ lists.mark here
    · obtain ⟨screen, marked, result⟩ := Option.bind_eq_some_iff.mp taken
      obtain rfl := Option.some.inj result
      exact (lists.mark here).updateReadItemPosition valid lawful searches marked
  | onActivityResult resultOk =>
    obtain ⟨screen, returned, rfl⟩ := Option.map_eq_some_iff.mp taken
    rw [NotifScreen.onActivityResult] at returned
    split at returned
    · cases returned
    · cases resultOk with
      | false => exact Option.some.inj returned ▸ lists
      | true =>
        exact @updateReadItemPosition _ _ _ { activity.2 with opened := activity.2.opened - 1 } _
          lists valid lawful searches returned

theorem ListsNewest.of_run (valid : ComparableEntries entries) {snapshot : DataSnapshot}
    (read : snapshot.children.mapM readNotification = some entries) {caches : Caches}
    {fails : Nat → Bool} {before after : List NotifActivityEvent}
    (quiet : ∀ event ∈ after, event.isDelivery = false)
    (ran : notifActivityRun sorted json activity
      (before ++ .onDataChange snapshot caches fails :: after) = some next) :
    ListsNewest entries next.2.sortedList := by
  obtain ⟨_, _, ranOn⟩ := run_append_iff.mp ran
  obtain ⟨_, taken, ranAfter⟩ := run_cons_iff.mp ranOn
  exact run_invariant (fun activity => ListsNewest entries activity.2.sortedList)
    (fun _ event => event.isDelivery = false)
    (fun lists quiet taken => lists.step lawful searches valid quiet taken)
    (.of_delivery lawful searches valid read taken) (.of_forall (fun _ => quiet) _) ranAfter

end activity

/-- Whatever was delivered and tapped before: from a delivery on the list has exactly its
notifications, the newest first and those of one time by their titles, until the next delivery. -/
theorem notif_list_newest_first {sorted : SortedList NotifData} (lawful : sorted.Lawful)
    (searches : sorted.Searches) {json : JsonCodec} {notifDatabase : Table NotifRow}
    {before after : List NotifActivityEvent} {snapshot : DataSnapshot} {caches : Caches}
    {fails : Nat → Bool} {entries : List NotifEntry}
    (read : snapshot.children.mapM readNotification = some entries)
    (valid : ComparableEntries entries) (quiet : ∀ event ∈ after, event.isDelivery = false)
    {last : NotifActivity}
    (ran : notifActivityRun sorted json (notifDatabase, .created)
      (before ++ .onDataChange snapshot caches fails :: after) = some last) :
    ListsNewest entries last.2.sortedList :=
  .of_run lawful searches valid read quiet ran

/-- Two notifications of one time, and an earlier one between them. -/
def threeNotifications : List DataSnapshot :=
  [notificationAbout "n" 2, notificationAbout "o" 1, notificationAbout "m" 2]

def threeEntries : List NotifEntry :=
  [⟨"n", some "b", none, some "n", 2, -1⟩, ⟨"o", some "b", none, some "o", 1, -1⟩,
    ⟨"m", some "b", none, some "m", 2, -1⟩]

theorem tapped_list_newest_first : ∃ last,
    notifActivityRun .binary unusedCodec (Table.idle [], .created)
      [notificationsDelivered threeNotifications, .onClick 1, .onActivityResult true] = some last ∧
    ListsNewest threeEntries last.2.sortedList := by
  obtain ⟨last, ran⟩ : ∃ last, notifActivityRun .binary unusedCodec (Table.idle [], .created)
      ([] ++ notificationsDelivered threeNotifications :: [.onClick 1, .onActivityResult true]) =
        some last := Option.isSome_iff_exists.mp (by decide +kernel)
  have valid : ComparableEntries threeEntries :=
    ⟨by decide, by simp [threeEntries, NotifEntry.Comparable]⟩
  exact ⟨last, ran, notif_list_newest_first SortedList.binary_lawful SortedList.binary_searches
    rfl valid (by simp [NotifActivityEvent.isDelivery]) ran⟩

end AhsApp.Android
