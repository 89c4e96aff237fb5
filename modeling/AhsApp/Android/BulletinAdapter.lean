import AhsApp.Android.Comparison
import AhsApp.Library.Run
import AhsApp.Library.SortedList

/-! The list of the bulletin page and its selectors. The feed listener fills the list
whatever the selectors say; only a click on one of them filters it. -/

namespace AhsApp.Android

open AhsApp.Library

/-- `selectorsActive` is indexed by the types, in whose order the selectors stand. -/
structure BulletinRecyclerAdapter where
  sortedList : List BulletinArticle
  bulletinData : List BulletinArticle
  selectorsActive : BulletinType → Bool

namespace BulletinRecyclerAdapter

def areItemsTheSame : BulletinArticle → BulletinArticle → Bool :=
  SortedList.sameKey BulletinArticle.id

def created : BulletinRecyclerAdapter := ⟨[], [], fun _ => false⟩

/-- `sortedList.add`; the comparison reads the clock and does not throw. -/
def add (sorted : SortedList BulletinArticle) (now : Int) (items : List BulletinArticle)
    (item : BulletinArticle) : Option (List BulletinArticle) :=
  sorted.add (fun o1 o2 => some (o1.compare now o2)) areItemsTheSame items item

def addItem (sorted : SortedList BulletinArticle) (now : Int)
    (adapter : BulletinRecyclerAdapter) (item : BulletinArticle) :
    Option BulletinRecyclerAdapter := do
  let sortedList ← add sorted now adapter.sortedList item
  some { adapter with sortedList, bulletinData := adapter.bulletinData ++ [item] }

def clearAll (adapter : BulletinRecyclerAdapter) : BulletinRecyclerAdapter :=
  { adapter with sortedList := [], bulletinData := [] }

/-- The inner loop over the selectors removes an article whose own selector is off. -/
def removed (selectorsActive : BulletinType → Bool) (copyType : BulletinType) : Bool :=
  BulletinType.values.any fun type => !selectorsActive type && copyType == type

/-- The copy of the data that `filterItems` filters first. -/
def filteredCopy (selectorsActive : BulletinType → Bool) (data : List BulletinArticle) :
    List BulletinArticle :=
  let hasTrue := BulletinType.values.any selectorsActive
  if hasTrue then data.filter fun article => !removed selectorsActive article.type else data

/-- An article whose title is not listed is added. -/
def addMissing (sorted : SortedList BulletinArticle) (now : Int) (items : List BulletinArticle)
    (info : BulletinArticle) : Option (List BulletinArticle) :=
  if items.any (·.title == info.title) then some items else add sorted now items info

def filterItems (sorted : SortedList BulletinArticle) (now : Int)
    (adapter : BulletinRecyclerAdapter) : Option BulletinRecyclerAdapter := do
  let copy := filteredCopy adapter.selectorsActive adapter.bulletinData
  let sortedList := adapter.sortedList.filter fun item => copy.any (item.title == ·.title)
  let sortedList ← copy.foldlM (addMissing sorted now) sortedList
  some { adapter with sortedList }

/-- `onDataLoaded`, then `onArticleLoaded` for each article. -/
def onDataChange (sorted : SortedList BulletinArticle) (now : Int)
    (articles : List BulletinArticle) (adapter : BulletinRecyclerAdapter) :
    Option BulletinRecyclerAdapter :=
  articles.foldlM (addItem sorted now) adapter.clearAll

def flipSelector (type : BulletinType) (adapter : BulletinRecyclerAdapter) :
    BulletinRecyclerAdapter :=
  { adapter with
    selectorsActive := fun other =>
      if other = type then !adapter.selectorsActive type else adapter.selectorsActive other }

def selectorClicked (sorted : SortedList BulletinArticle) (now : Int) (type : BulletinType)
    (adapter : BulletinRecyclerAdapter) : Option BulletinRecyclerAdapter :=
  (adapter.flipSelector type).filterItems sorted now

end BulletinRecyclerAdapter

inductive BulletinAdapterEvent where
  | deliver (articles : List BulletinArticle) (now : Int)
  | selectorClicked (type : BulletinType) (now : Int)

def bulletinAdapterStep (sorted : SortedList BulletinArticle)
    (adapter : BulletinRecyclerAdapter) :
    BulletinAdapterEvent → Option BulletinRecyclerAdapter
  | .deliver articles now => adapter.onDataChange sorted now articles
  | .selectorClicked type now => adapter.selectorClicked sorted now type

abbrev bulletinAdapterRun (sorted : SortedList BulletinArticle) :
    BulletinRecyclerAdapter → List BulletinAdapterEvent → Option BulletinRecyclerAdapter :=
  run (bulletinAdapterStep sorted)

/-- The selector of the type is active, or none is. -/
def Selected (selectorsActive : BulletinType → Bool) (type : BulletinType) : Prop :=
  selectorsActive type = true ∨ ∀ other, selectorsActive other = false

instance (selectorsActive : BulletinType → Bool) :
    DecidablePred (Selected selectorsActive) := fun type =>
  decidable_of_iff (selectorsActive type = true ∨
    ∀ other ∈ BulletinType.values, selectorsActive other = false) (by simp [Selected])

def BulletinAdapterEvent.delivered (latest : List BulletinArticle) :
    BulletinAdapterEvent → List BulletinArticle
  | .deliver articles _ => articles
  | .selectorClicked _ _ => latest

/-- The articles delivered last. -/
def latestSnapshot (events : List BulletinAdapterEvent) : List BulletinArticle :=
  events.foldl BulletinAdapterEvent.delivered []

/-- The page lists the selected articles, in whatever order. -/
def ListsSelected (articles : List BulletinArticle) (adapter : BulletinRecyclerAdapter) : Prop :=
  adapter.sortedList.Perm
    (articles.filter fun article => Selected adapter.selectorsActive article.type)

/-- After every part of the events the page lists what is selected of the latest snapshot. -/
def FollowsFilter (sorted : SortedList BulletinArticle) (events : List BulletinAdapterEvent) :
    Prop :=
  ∀ before after adapter, events = before ++ after →
    bulletinAdapterRun sorted BulletinRecyclerAdapter.created before = some adapter →
      ListsSelected (latestSnapshot before) adapter

def HonoursFilter (adapter : BulletinRecyclerAdapter) : Prop :=
  ListsSelected adapter.bulletinData adapter

/-- A snapshot has distinct IDs and distinct titles. -/
def DistinctSnapshot : BulletinAdapterEvent → Prop
  | .deliver articles _ =>
    (articles.map BulletinArticle.id).Nodup ∧ (articles.map BulletinArticle.title).Nodup
  | .selectorClicked _ _ => True

/-- A delivery brings only articles that the active selectors let through. -/
def DeliversSelected (adapter : BulletinRecyclerAdapter) : BulletinAdapterEvent → Prop
  | .deliver articles _ => ∀ article ∈ articles, Selected adapter.selectorsActive article.type
  | .selectorClicked _ _ => True

namespace BulletinRecyclerAdapter

private theorem removed_eq (selectorsActive : BulletinType → Bool) (type : BulletinType) :
    removed selectorsActive type = !selectorsActive type := by
  rw [Bool.eq_iff_iff]
  simp [removed]

theorem filteredCopy_eq (selectorsActive : BulletinType → Bool) (data : List BulletinArticle) :
    filteredCopy selectorsActive data =
      data.filter fun article => Selected selectorsActive article.type := by
  rw [filteredCopy]
  cases hasTrue : BulletinType.values.any selectorsActive with
  | true =>
    obtain ⟨active, _, on⟩ := List.any_eq_true.mp hasTrue
    have someActive : ¬ ∀ other, selectorsActive other = false := fun none => by
      simp [none active] at on
    rw [if_pos rfl]
    apply List.filter_congr
    intro article _
    simp [removed_eq, Selected, someActive]
  | false =>
    have none : ∀ other, selectorsActive other = false := fun other =>
      Bool.eq_false_iff.mpr fun on => List.any_eq_false.mp hasTrue other (by simp) on
    rw [if_neg (by decide), List.filter_eq_self.mpr]
    intro article _
    exact decide_eq_true (Or.inr none)

theorem addItems_eq_some {sorted : SortedList BulletinArticle} {now : Int}
    {articles : List BulletinArticle} {adapter next : BulletinRecyclerAdapter} :
    articles.foldlM (addItem sorted now) adapter = some next ↔ ∃ items,
      sorted.addAll (fun o1 o2 => some (o1.compare now o2)) areItemsTheSame adapter.sortedList
        articles = some items ∧
      next = { adapter with
        sortedList := items, bulletinData := adapter.bulletinData ++ articles } := by
  induction articles generalizing adapter with
  | nil => simp [SortedList.addAll, eq_comm]
  | cons article rest ih =>
    simp only [List.foldlM_cons, addItem, Option.bind_eq_bind, Option.bind_assoc,
      Option.bind_eq_some_iff, Option.bind_some, ih, SortedList.addAll, add]
    constructor
    · rintro ⟨middle, added, items, rest, rfl⟩
      exact ⟨items, ⟨middle, added, rest⟩, by simp⟩
    · rintro ⟨items, ⟨middle, added, rest⟩, rfl⟩
      exact ⟨middle, added, items, rest, by simp⟩

/-- A delivery lists the whole snapshot. -/
theorem onDataChange_spec {sorted : SortedList BulletinArticle} (lawful : sorted.Lawful)
    {now : Int} {articles : List BulletinArticle} {adapter next : BulletinRecyclerAdapter}
    (distinct : (articles.map BulletinArticle.id).Nodup)
    (taken : adapter.onDataChange sorted now articles = some next) :
    next.sortedList.Perm articles ∧ next.bulletinData = articles ∧
      next.selectorsActive = adapter.selectorsActive := by
  obtain ⟨items, added, rfl⟩ := addItems_eq_some.mp taken
  have listed : items.Perm ([] ++ articles) := lawful.addAll_perm (by simpa using distinct) added
  exact ⟨listed, rfl, rfl⟩

/-- The list holds articles of the data, none of them twice. -/
structure Valid (adapter : BulletinRecyclerAdapter) : Prop where
  ids : (adapter.bulletinData.map BulletinArticle.id).Nodup
  titles : (adapter.bulletinData.map BulletinArticle.title).Nodup
  listed : adapter.sortedList ⊆ adapter.bulletinData
  once : (adapter.sortedList.map BulletinArticle.id).Nodup

theorem Valid.created : Valid created :=
  ⟨List.nodup_nil, List.nodup_nil, List.nil_subset _, List.nodup_nil⟩

theorem Valid.flipSelector {adapter : BulletinRecyclerAdapter} (valid : Valid adapter)
    (type : BulletinType) : Valid (adapter.flipSelector type) :=
  ⟨valid.ids, valid.titles, valid.listed, valid.once⟩

private theorem addMissing_spec {sorted : SortedList BulletinArticle} (lawful : sorted.Lawful)
    {now : Int} {copy infos items next : List BulletinArticle}
    (ids : (copy.map BulletinArticle.id).Nodup) (titles : (copy.map BulletinArticle.title).Nodup)
    (wanted : infos ⊆ copy) (listed : items ⊆ copy)
    (once : (items.map BulletinArticle.id).Nodup)
    (added : infos.foldlM (addMissing sorted now) items = some next) :
    (next.map BulletinArticle.id).Nodup ∧ next ⊆ copy ∧ items ⊆ next ∧ infos ⊆ next := by
  induction infos generalizing items with
  | nil =>
    obtain rfl : items = next := Option.some.inj added
    exact ⟨once, listed, List.Subset.refl _, List.nil_subset _⟩
  | cons info rest ih =>
    obtain ⟨here, later⟩ := List.cons_subset.mp wanted
    simp only [List.foldlM_cons, Option.bind_eq_bind, Option.bind_eq_some_iff] at added
    obtain ⟨middle, first, others⟩ := added
    rw [addMissing] at first
    split at first
    · rename_i present
      obtain rfl := Option.some.inj first
      obtain ⟨old, member, titled⟩ := List.any_eq_true.mp present
      obtain rfl : old = info :=
        List.inj_on_of_nodup_map titles (listed member) here (by simpa using titled)
      obtain ⟨unique, within, kept, found⟩ := ih later listed once others
      exact ⟨unique, within, kept, List.cons_subset.mpr ⟨kept member, found⟩⟩
    · rename_i absent
      have fresh : info.id ∉ items.map BulletinArticle.id := by
        intro member
        obtain ⟨old, present, same⟩ := List.mem_map.mp member
        obtain rfl := List.inj_on_of_nodup_map ids (listed present) here same
        exact absent (List.any_eq_true.mpr ⟨old, present, by simp⟩)
      have grown : middle.Perm (info :: items) := lawful.add_perm fresh first
      have listed' : middle ⊆ copy := by
        intro item member
        rcases List.mem_cons.mp (grown.mem_iff.mp member) with rfl | member
        · exact here
        · exact listed member
      have once' : (middle.map BulletinArticle.id).Nodup :=
        (grown.map _).nodup_iff.mpr (List.nodup_cons.mpr ⟨fresh, once⟩)
      obtain ⟨unique, within, kept, found⟩ := ih later listed' once' others
      have carried : info :: items ⊆ next := fun item member =>
        kept (grown.mem_iff.mpr member)
      exact ⟨unique, within, fun item member => carried (List.mem_cons_of_mem _ member),
        List.cons_subset.mpr ⟨carried List.mem_cons_self, found⟩⟩

theorem filterItems_spec {sorted : SortedList BulletinArticle} (lawful : sorted.Lawful)
    {now : Int} {adapter next : BulletinRecyclerAdapter} (valid : Valid adapter)
    (filtered : adapter.filterItems sorted now = some next) :
    HonoursFilter next ∧ Valid next ∧ next.bulletinData = adapter.bulletinData ∧
      next.selectorsActive = adapter.selectorsActive := by
  obtain ⟨items, added, result⟩ := Option.bind_eq_some_iff.mp filtered
  obtain rfl := Option.some.inj result
  rw [filteredCopy_eq] at added
  generalize selected : (adapter.bulletinData.filter fun article =>
    Selected adapter.selectorsActive article.type) = copy at added
  have within : copy.Sublist adapter.bulletinData := selected ▸ List.filter_sublist
  have titles : (copy.map BulletinArticle.title).Nodup := valid.titles.sublist (within.map _)
  have ids : (copy.map BulletinArticle.id).Nodup := valid.ids.sublist (within.map _)
  have kept : (adapter.sortedList.filter fun item => copy.any (item.title == ·.title)) ⊆ copy := by
    intro item member
    obtain ⟨member, titled⟩ := List.mem_filter.mp member
    obtain ⟨info, chosen, same⟩ := List.any_eq_true.mp titled
    obtain rfl := List.inj_on_of_nodup_map valid.titles (valid.listed member)
      (within.subset chosen) (by simpa using same)
    exact chosen
  obtain ⟨once, listed, _, found⟩ := addMissing_spec lawful ids titles (List.Subset.refl _) kept
    (valid.once.sublist (List.filter_sublist.map _)) added
  have exactly : items.Perm copy := (List.perm_ext_iff_of_nodup (List.Nodup.of_map _ once)
    (List.Nodup.of_map _ ids)).mpr fun item => ⟨fun member => listed member,
      fun member => found member⟩
  subst selected
  exact ⟨exactly, ⟨valid.ids, valid.titles,
    fun item member => within.subset (listed member), once⟩, rfl, rfl⟩

theorem add_returns {sorted : SortedList BulletinArticle} (lawful : sorted.Lawful) (now : Int)
    (items : List BulletinArticle) (item : BulletinArticle) :
    ∃ next, add sorted now items item = some next :=
  lawful.add_returns fun _ _ => rfl

private theorem addItem_returns {sorted : SortedList BulletinArticle} (lawful : sorted.Lawful)
    (now : Int) (adapter : BulletinRecyclerAdapter) (item : BulletinArticle) :
    ∃ next, addItem sorted now adapter item = some next := by
  obtain ⟨items, added⟩ := add_returns lawful now adapter.sortedList item
  exact ⟨_, by rw [addItem, added]; rfl⟩

theorem addMissing_returns {sorted : SortedList BulletinArticle} (lawful : sorted.Lawful)
    (now : Int) (items : List BulletinArticle) (info : BulletinArticle) :
    ∃ next, addMissing sorted now items info = some next := by
  rw [addMissing]
  split
  · exact ⟨items, rfl⟩
  · exact add_returns lawful now items info

end BulletinRecyclerAdapter

open BulletinRecyclerAdapter

private theorem bulletinAdapterStep_returns {sorted : SortedList BulletinArticle}
    (lawful : sorted.Lawful)
    (adapter : BulletinRecyclerAdapter) (event : BulletinAdapterEvent) :
    ∃ next, bulletinAdapterStep sorted adapter event = some next := by
  cases event with
  | deliver articles now =>
    rw [bulletinAdapterStep, BulletinRecyclerAdapter.onDataChange, foldlM_eq_run]
    exact run_returns (addItem_returns lawful now) _ articles
  | selectorClicked type now =>
    rw [bulletinAdapterStep, selectorClicked, filterItems, foldlM_eq_run]
    obtain ⟨items, added⟩ := run_returns (addMissing_returns lawful now) _ _
    exact ⟨_, by rw [added]; rfl⟩

theorem BulletinRecyclerAdapter.Valid.step {sorted : SortedList BulletinArticle}
    (lawful : sorted.Lawful) {adapter next : BulletinRecyclerAdapter}
    {event : BulletinAdapterEvent} (valid : Valid adapter) (distinct : DistinctSnapshot event)
    (taken : bulletinAdapterStep sorted adapter event = some next) : Valid next := by
  cases event with
  | deliver articles now =>
    obtain ⟨listed, data, _⟩ :=
      BulletinRecyclerAdapter.onDataChange_spec lawful distinct.1 taken
    refine ⟨data ▸ distinct.1, data ▸ distinct.2, ?_, ?_⟩
    · rw [data]
      exact listed.subset
    · exact (listed.map _).nodup_iff.mpr distinct.1
  | selectorClicked type now =>
    exact (filterItems_spec lawful (valid.flipSelector type) taken).2.1

/-- A click always leaves the page filtered; a delivery does when it brings nothing that
the filter hides. -/
theorem honoursFilter_step_iff {sorted : SortedList BulletinArticle} (lawful : sorted.Lawful)
    {adapter next : BulletinRecyclerAdapter} {event : BulletinAdapterEvent}
    (valid : Valid adapter) (distinct : DistinctSnapshot event)
    (taken : bulletinAdapterStep sorted adapter event = some next) :
    HonoursFilter next ↔ DeliversSelected adapter event := by
  cases event with
  | deliver articles now =>
    obtain ⟨listed, data, selectors⟩ :=
      BulletinRecyclerAdapter.onDataChange_spec lawful distinct.1 taken
    rw [HonoursFilter, ListsSelected, data, selectors, DeliversSelected, listed.congr_left]
    constructor
    · intro same article member
      exact of_decide_eq_true (List.mem_filter.mp (same.subset member)).2
    · intro all
      rw [List.filter_eq_self.mpr fun article member => decide_eq_true (all article member)]
  | selectorClicked type now =>
    exact iff_of_true (filterItems_spec lawful (valid.flipSelector type) taken).1 trivial

private theorem bulletinData_run {sorted : SortedList BulletinArticle}
    {adapter last : BulletinRecyclerAdapter} {events : List BulletinAdapterEvent}
    (ran : bulletinAdapterRun sorted adapter events = some last) :
    last.bulletinData = events.foldl BulletinAdapterEvent.delivered adapter.bulletinData := by
  induction events generalizing adapter with
  | nil => exact Option.some.inj ran ▸ rfl
  | cons event rest ih =>
    obtain ⟨next, taken, ran⟩ := run_cons_iff.mp ran
    have data : next.bulletinData = event.delivered adapter.bulletinData := by
      cases event with
      | deliver articles now =>
        obtain ⟨items, _, rfl⟩ := addItems_eq_some.mp taken
        rfl
      | selectorClicked type now =>
        obtain ⟨items, _, result⟩ := Option.bind_eq_some_iff.mp taken
        exact Option.some.inj result ▸ rfl
    rw [ih ran, data, List.foldl_cons]

/-- After every event the page lists what the filter selects of the latest snapshot,
if and only if no delivery brings an article that an active filter hides. -/
theorem bulletin_filter_iff {sorted : SortedList BulletinArticle} (lawful : sorted.Lawful)
    {events : List BulletinAdapterEvent} (distinct : ∀ event ∈ events, DistinctSnapshot event) :
    FollowsFilter sorted events ↔
      Along (bulletinAdapterStep sorted) DeliversSelected created events := by
  obtain ⟨last, ran⟩ := run_returns (bulletinAdapterStep_returns lawful) created events
  have given : Along (bulletinAdapterStep sorted) (fun _ event => DistinctSnapshot event)
      created events := Along.of_forall (fun _ => distinct) created
  have empty : HonoursFilter created := List.Perm.refl []
  have exact : Throughout (bulletinAdapterStep sorted) HonoursFilter created events ↔
      Along (bulletinAdapterStep sorted) DeliversSelected created events := by
    apply throughout_iff_along_of_invariant ?_ ?_ Valid.created empty given ran
    · exact fun valid distinct taken => valid.step lawful distinct taken
    · exact fun valid distinct _ taken => honoursFilter_step_iff lawful valid distinct taken
  rw [← exact, throughout_iff_prefix]
  refine forall₄_congr fun before after adapter split => forall_congr' fun ranBefore => ?_
  rw [HonoursFilter, bulletinData_run ranBefore]
  rfl

/-- An athletics article. -/
def gameArticle : BulletinArticle := ⟨"game", 0, "Game", "", .athletics, false⟩

/-- Filtered by its own type, the article stays listed. -/
theorem own_filter_honoured : FollowsFilter SortedList.linear
    [.deliver [gameArticle] 0, .selectorClicked .athletics 0, .deliver [gameArticle] 0] := by
  refine (bulletin_filter_iff SortedList.linear_lawful (by simp [DistinctSnapshot])).mpr ?_
  refine ⟨by simp [DeliversSelected, Selected, created], ?_⟩
  intro first delivered
  obtain rfl := Option.some.inj delivered
  refine ⟨trivial, ?_⟩
  intro second clicked
  obtain rfl := Option.some.inj clicked
  refine ⟨?_, fun _ _ => trivial⟩
  unfold DeliversSelected
  decide

/-- A delivery brings back an article that the filter hides. -/
theorem delivery_ignores_filter : ∃ adapter,
    bulletinAdapterRun SortedList.linear created
        [.deliver [gameArticle] 0, .selectorClicked .academics 0, .deliver [gameArticle] 0] =
      some adapter ∧ ¬ ListsSelected [gameArticle] adapter := by
  refine ⟨_, rfl, ?_⟩
  unfold ListsSelected
  decide

end AhsApp.Android
