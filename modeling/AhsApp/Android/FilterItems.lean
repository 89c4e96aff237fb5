import AhsApp.Android.BulletinAdapter

/-! What `filterItems` shows when titles repeat. It tells articles apart by their
titles: a listed article stays if a selected one has its title, and a selected one is
added if no listed one has its title. -/

namespace AhsApp.Android

open AhsApp.Library

namespace BulletinRecyclerAdapter

/-- The articles of the data whose selector is active, or all when none is. -/
def selectedData (adapter : BulletinRecyclerAdapter) : List BulletinArticle :=
  adapter.bulletinData.filter fun article => Selected adapter.selectorsActive article.type

/-- The IDs on the screen are those of the selected articles. -/
def ShowsSelected (adapter : BulletinRecyclerAdapter) : Prop :=
  ∀ id, id ∈ adapter.sortedList.map BulletinArticle.id ↔
    id ∈ adapter.selectedData.map BulletinArticle.id

/-- The article is in the list, and nothing listed or before it has its title. -/
def FirstTitled (listed infos : List BulletinArticle) (article : BulletinArticle) : Prop :=
  ∃ before after, infos = before ++ article :: after ∧
    ∀ other ∈ listed ++ before, other.title ≠ article.title

/-- No listed article has the title of a selected one without being selected, and every
selected article is listed or the first with its title. -/
def TitlesTellApart (adapter : BulletinRecyclerAdapter) : Prop :=
  (∀ item ∈ adapter.sortedList, item ∈ adapter.selectedData ∨
    ∀ article ∈ adapter.selectedData, item.title ≠ article.title) ∧
  ∀ article ∈ adapter.selectedData, article ∈ adapter.sortedList ∨
    FirstTitled adapter.sortedList adapter.selectedData article

private theorem firstTitled_cons {listed rest : List BulletinArticle}
    {info article : BulletinArticle} :
    FirstTitled listed (info :: rest) article ↔
      (article = info ∧ ∀ other ∈ listed, other.title ≠ info.title) ∨
        FirstTitled (info :: listed) rest article := by
  constructor
  · rintro ⟨before, after, split, apart⟩
    cases before with
    | nil =>
      obtain ⟨rfl, rfl⟩ := List.cons.inj split
      exact .inl ⟨rfl, by simpa using apart⟩
    | cons first before =>
      obtain ⟨rfl, rfl⟩ := List.cons.inj split
      exact .inr ⟨before, after, rfl, fun other member => apart other (by grind)⟩
  · rintro (⟨rfl, apart⟩ | ⟨before, after, rfl, apart⟩)
    · exact ⟨[], rest, rfl, by simpa using apart⟩
    · exact ⟨info :: before, after, rfl, fun other member => apart other (by grind)⟩

theorem FirstTitled.congr {listed listed' infos : List BulletinArticle} {article : BulletinArticle}
    (same : ∀ other, other ∈ listed ↔ other ∈ listed') :
    FirstTitled listed infos article ↔ FirstTitled listed' infos article := by
  simp only [FirstTitled, List.mem_append, same]

theorem FirstTitled.shadowed {listed infos : List BulletinArticle}
    {info old article : BulletinArticle}
    (member : old ∈ listed) (same : old.title = info.title) :
    FirstTitled (info :: listed) infos article ↔ FirstTitled listed infos article := by
  refine exists_congr fun before => exists_congr fun after => and_congr_right fun _ => ?_
  simp only [List.cons_append, List.forall_mem_cons]
  refine and_iff_right_of_imp fun apart => ?_
  rw [← same]
  exact apart old (List.mem_append_left _ member)

private theorem addMissing_cases {sorted : SortedList BulletinArticle} (lawful : sorted.Lawful)
    {now : Int}
    {data items next : List BulletinArticle} {info : BulletinArticle}
    (ids : (data.map BulletinArticle.id).Nodup) (here : info ∈ data) (listed : items ⊆ data)
    (added : addMissing sorted now items info = some next) :
    (next = items ∧ ∃ old ∈ items, old.title = info.title) ∨
      (next.Perm (info :: items) ∧ ∀ other ∈ items, other.title ≠ info.title) := by
  rw [addMissing] at added
  split at added
  · rename_i present
    obtain ⟨old, member, titled⟩ := List.any_eq_true.mp present
    exact .inl ⟨(Option.some.inj added).symm, old, member, by simpa using titled⟩
  · rename_i absent
    have apart : ∀ other ∈ items, other.title ≠ info.title := by
      intro other member same
      exact absent (List.any_eq_true.mpr ⟨other, member, by simpa using same⟩)
    have fresh : info.id ∉ items.map BulletinArticle.id := by
      intro member
      obtain ⟨old, present, same⟩ := List.mem_map.mp member
      obtain rfl := List.inj_on_of_nodup_map ids (listed present) here same
      exact apart old present rfl
    exact .inr ⟨lawful.add_perm fresh added, apart⟩

private theorem mem_addMissing {sorted : SortedList BulletinArticle} (lawful : sorted.Lawful)
    {now : Int}
    {data infos items next : List BulletinArticle} (ids : (data.map BulletinArticle.id).Nodup)
    (wanted : infos ⊆ data) (listed : items ⊆ data)
    (added : infos.foldlM (addMissing sorted now) items = some next) (article : BulletinArticle) :
    article ∈ next ↔ article ∈ items ∨ FirstTitled items infos article := by
  induction infos generalizing items with
  | nil =>
    obtain rfl : items = next := Option.some.inj added
    simp [FirstTitled]
  | cons info rest ih =>
    obtain ⟨here, later⟩ := List.cons_subset.mp wanted
    simp only [List.foldlM_cons, Option.bind_eq_bind, Option.bind_eq_some_iff] at added
    obtain ⟨middle, first, others⟩ := added
    rw [firstTitled_cons]
    rcases addMissing_cases lawful ids here listed first with
      ⟨rfl, old, member, same⟩ | ⟨grown, apart⟩
    · have blocked : ¬ ∀ other ∈ middle, other.title ≠ info.title :=
        fun apart => apart old member same
      rw [ih later listed others, FirstTitled.shadowed member same]
      simp [blocked]
    · have within : middle ⊆ data := by
        intro item member
        rcases List.mem_cons.mp (grown.mem_iff.mp member) with rfl | member
        · exact here
        · exact listed member
      rw [ih later within others, FirstTitled.congr fun other => grown.mem_iff, grown.mem_iff,
        List.mem_cons]
      grind

/-- What `filterItems` lists: the listed articles with a selected title, and the first
article of every selected title that is not listed. -/
theorem mem_filterItems {sorted : SortedList BulletinArticle} (lawful : sorted.Lawful) {now : Int}
    {adapter next : BulletinRecyclerAdapter}
    (ids : (adapter.bulletinData.map BulletinArticle.id).Nodup)
    (listed : adapter.sortedList ⊆ adapter.bulletinData)
    (filtered : adapter.filterItems sorted now = some next) :
    next.bulletinData = adapter.bulletinData ∧ next.selectorsActive = adapter.selectorsActive ∧
      ∀ article, article ∈ next.sortedList ↔
        (article ∈ adapter.sortedList ∧ ∃ info ∈ adapter.selectedData, article.title = info.title) ∨
          (article ∈ adapter.selectedData ∧
            FirstTitled adapter.sortedList adapter.selectedData article) := by
  obtain ⟨items, added, result⟩ := Option.bind_eq_some_iff.mp filtered
  obtain rfl := Option.some.inj result
  rw [filteredCopy_eq] at added
  refine ⟨rfl, rfl, fun article => ?_⟩
  have within : adapter.selectedData ⊆ adapter.bulletinData := List.filter_subset_self _
  have kept : (adapter.sortedList.filter fun item =>
      adapter.selectedData.any (item.title == ·.title)) ⊆ adapter.bulletinData :=
    fun item member => listed (List.mem_filter.mp member).1
  rw [mem_addMissing lawful ids within kept added]
  apply or_congr
  · simp [List.mem_filter, List.any_eq_true]
  · constructor
    · rintro ⟨before, after, split, apart⟩
      have member : article ∈ adapter.selectedData := by
        rw [split]
        simp
      refine ⟨member, before, after, split, fun other here same => ?_⟩
      rcases List.mem_append.mp here with displayed | earlier
      · refine apart other (List.mem_append_left _ (List.mem_filter.mpr ⟨displayed, ?_⟩)) same
        exact List.any_eq_true.mpr ⟨article, member, by simpa using same⟩
      · exact apart other (List.mem_append_right _ earlier) same
    · rintro ⟨_, before, after, split, apart⟩
      refine ⟨before, after, split, fun other here => apart other ?_⟩
      rcases List.mem_append.mp here with displayed | earlier
      · exact List.mem_append_left _ (List.mem_filter.mp displayed).1
      · exact List.mem_append_right _ earlier

private theorem showsSelected_iff {adapter : BulletinRecyclerAdapter}
    (ids : (adapter.bulletinData.map BulletinArticle.id).Nodup)
    (listed : adapter.sortedList ⊆ adapter.bulletinData) :
    ShowsSelected adapter ↔
      adapter.sortedList ⊆ adapter.selectedData ∧ adapter.selectedData ⊆ adapter.sortedList := by
  have within : adapter.selectedData ⊆ adapter.bulletinData := List.filter_subset_self _
  constructor
  · intro shows
    constructor
    · intro item member
      obtain ⟨article, selected, same⟩ :=
        List.mem_map.mp ((shows item.id).mp (List.mem_map_of_mem member))
      exact List.inj_on_of_nodup_map ids (within selected) (listed member) same ▸ selected
    · intro article selected
      obtain ⟨item, member, same⟩ :=
        List.mem_map.mp ((shows article.id).mpr (List.mem_map_of_mem selected))
      exact List.inj_on_of_nodup_map ids (listed member) (within selected) same ▸ member
  · rintro ⟨right, complete⟩ id
    exact ⟨fun member => List.map_subset _ right member,
      fun member => List.map_subset _ complete member⟩

/-- Filtering always returns, and shows exactly the selected articles when titles tell
apart those that it compares. -/
theorem filterItems_shows_iff {sorted : SortedList BulletinArticle} (lawful : sorted.Lawful)
    (now : Int) {adapter : BulletinRecyclerAdapter}
    (ids : (adapter.bulletinData.map BulletinArticle.id).Nodup)
    (listed : adapter.sortedList ⊆ adapter.bulletinData) : ∃ next,
      adapter.filterItems sorted now = some next ∧
        (ShowsSelected next ↔ TitlesTellApart adapter) := by
  obtain ⟨items, added⟩ := run_returns (addMissing_returns lawful now)
    (adapter.sortedList.filter fun item =>
      (filteredCopy adapter.selectorsActive adapter.bulletinData).any (item.title == ·.title))
    (filteredCopy adapter.selectorsActive adapter.bulletinData)
  let next : BulletinRecyclerAdapter := { adapter with sortedList := items }
  have filtered : adapter.filterItems sorted now = some next := by
    rw [filterItems, foldlM_eq_run, added]
    rfl
  refine ⟨next, filtered, ?_⟩
  obtain ⟨_, _, shown⟩ := mem_filterItems lawful ids listed filtered
  have within : adapter.selectedData ⊆ adapter.bulletinData := List.filter_subset_self _
  have stays : next.sortedList ⊆ next.bulletinData := by
    intro article member
    rcases (shown article).mp member with ⟨displayed, _⟩ | ⟨selected, _⟩
    · exact listed displayed
    · exact within selected
  have exactly : ShowsSelected next ↔ next.sortedList ⊆ adapter.selectedData ∧
      adapter.selectedData ⊆ next.sortedList := @showsSelected_iff next ids stays
  rw [exactly]
  constructor
  · rintro ⟨right, complete⟩
    refine ⟨fun item displayed => ?_, fun article selected => ?_⟩
    · by_cases titled : ∃ article ∈ adapter.selectedData, item.title = article.title
      · exact .inl (right ((shown item).mpr (.inl ⟨displayed, titled⟩)))
      · exact .inr fun article selected same => titled ⟨article, selected, same⟩
    · rcases (shown article).mp (complete selected) with ⟨displayed, _⟩ | ⟨_, first⟩
      · exact .inl displayed
      · exact .inr first
  · rintro ⟨right, complete⟩
    refine ⟨fun item member => ?_, fun article selected => ?_⟩
    · rcases (shown item).mp member with ⟨displayed, info, selected, same⟩ | ⟨selected, _⟩
      · exact (right item displayed).resolve_right fun apart => apart info selected same
      · exact selected
    · rcases complete article selected with displayed | first
      · exact (shown article).mpr (.inl ⟨displayed, article, selected, rfl⟩)
      · exact (shown article).mpr (.inr ⟨selected, first⟩)

/-- Another athletics article with the title of the first. -/
def rematchArticle : BulletinArticle := ⟨"rematch", 1, "Game", "", .athletics, false⟩

/-- Of two articles with one title only the first is shown. -/
theorem same_title_hidden : ∃ next,
    (⟨[], [gameArticle, rematchArticle], fun _ => false⟩ : BulletinRecyclerAdapter).filterItems
      SortedList.linear 0 = some next ∧ ¬ ShowsSelected next := by
  refine ⟨_, rfl, fun shows => ?_⟩
  exact absurd ((shows "rematch").mpr (by decide)) (by decide)

/-- The athletics selector is active; its two articles with one title are listed, among others. -/
def athleticsSelected : BulletinRecyclerAdapter where
  sortedList := [⟨"essay", 2, "Essay", "", .academics, false⟩, rematchArticle, gameArticle]
  bulletinData := [gameArticle, ⟨"essay", 2, "Essay", "", .academics, false⟩, rematchArticle,
    ⟨"relay", 3, "Relay", "", .athletics, true⟩]
  selectorsActive type := type == .athletics

theorem filterItems_shows_game : ∃ next,
    athleticsSelected.filterItems SortedList.linear 0 = some next ∧ ShowsSelected next ∧
      "rematch" ∈ next.sortedList.map BulletinArticle.id := by
  have within : athleticsSelected.sortedList ⊆ athleticsSelected.bulletinData := by decide
  obtain ⟨next, filtered, shows'⟩ :=
    filterItems_shows_iff SortedList.linear_lawful 0 (by decide) within
  have apart : TitlesTellApart athleticsSelected := by
    refine ⟨by decide, ?_⟩
    have selected : athleticsSelected.selectedData =
        [gameArticle, rematchArticle] ++ [⟨"relay", 3, "Relay", "", .athletics, true⟩] := by decide
    rw [selected]
    simp only [List.forall_mem_append, List.forall_mem_cons]
    refine ⟨⟨.inl (by decide), .inl (by decide), by simp⟩, .inr ⟨_, [], rfl, by decide⟩, by simp⟩
  obtain ⟨_, _, listed⟩ := mem_filterItems SortedList.linear_lawful (by decide) within filtered
  refine ⟨next, filtered, shows'.mpr apart, ?_⟩
  exact List.mem_map_of_mem ((listed rematchArticle).mpr (.inl ⟨by decide, by decide⟩))

end BulletinRecyclerAdapter

end AhsApp.Android
