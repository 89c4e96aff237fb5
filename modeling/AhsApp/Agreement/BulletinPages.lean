import AhsApp.Agreement.BulletinOrder
import AhsApp.Android.FirebaseHandler
import AhsApp.Firebase.Conversions
import AhsApp.Ios.BulletinConvergence
import AhsApp.Library.KeyedList
import AhsApp.Library.OptionList

/-! The two bulletin pages. Both decode the same branches; the Android page inserts each article
into a sorted list and filters it in place, the iOS page sorts all articles again and filters the
result. -/

namespace AhsApp.Agreement

open AhsApp.Firebase AhsApp.Library

/-- An article of the bulletin in terms that both applications have. -/
structure BulletinItem where
  id : String
  title : String
  body : String
  time : Int
  category : String
  deriving DecidableEq

namespace BulletinItem

def ofArticle (article : Android.BulletinArticle) : BulletinItem :=
  ⟨article.id, article.title, article.body, article.time, article.type.getName⟩

def ofArticleData (data : Ios.BulletinArticleData) : BulletinItem where
  id := data.id
  title := data.articleTitle.getD ""
  body := data.articleBody.getD ""
  time := data.articleUnixEpoch.getD 0
  category := data.articleCatagory.getD ""

end BulletinItem

section feed

variable {bulletin server : DataSnapshot} {database : Table Android.BulletinRow}
variable {delivered : List Android.BulletinArticle}

end feed

/-- An item that the filters let through. -/
def BulletinItem.selected (selectorsActive : Android.BulletinType → Bool) (item : BulletinItem) :
    Bool :=
  Android.BulletinType.values.any fun type =>
    type.getName == item.category && decide (Android.Selected selectorsActive type)

/-- The first item may be listed before the second. -/
def InOrder (now : Int) (first second : BulletinItem) : Prop :=
  Ios.timeRank (now / 1000) (some first.time) ≤ Ios.timeRank (now / 1000) (some second.time)

/-- The clock value and now see the same times come, and 64 bits hold the differences. -/
def NoneDue (now clock : Int) (articles : List Android.BulletinArticle) : Prop :=
  ∀ article ∈ articles, article.Fits clock ∧ article.Fits now ∧
    (clock ≤ article.time * 1000 ↔ now ≤ article.time * 1000)

section page

open Android.BulletinRecyclerAdapter

variable {sorted : SortedList Android.BulletinArticle} {now clock : Int}
variable {delivered items : List Android.BulletinArticle}
variable {adapter next : Android.BulletinRecyclerAdapter}

theorem NoneDue.compare_iff (noneDue : NoneDue now clock delivered)
    {o1 o2 : Android.BulletinArticle} (here : o1 ∈ delivered) (there : o2 ∈ delivered) :
    o1.compare clock o2 < 0 ↔ o1.compare now o2 < 0 := by
  obtain ⟨before, after, due⟩ := noneDue o1 here
  obtain ⟨before', after', due'⟩ := noneDue o2 there
  rcases lt_trichotomy o1.time o2.time with earlier | same | later
  · rw [(Android.BulletinArticle.compare_neg_of_earlier before before' earlier).1,
      (Android.BulletinArticle.compare_neg_of_earlier after after' earlier).1, due]
  · rw [Android.BulletinArticle.compare_neg_of_same_time same,
      Android.BulletinArticle.compare_neg_of_same_time same]
  · rw [(Android.BulletinArticle.compare_neg_of_earlier before' before later).2,
      (Android.BulletinArticle.compare_neg_of_earlier after' after later).2, ← not_le, due', not_le]

theorem NoneDue.orderedAt_iff (noneDue : NoneDue now clock delivered) (within : items ⊆ delivered) :
    Android.OrderedAt clock items ↔ Android.OrderedAt now items := by
  constructor
  · exact fun ordered => (Android.orderedAt_iff_of_orderedAt ordered).mpr
      fun _ here _ there => (noneDue.compare_iff (within here) (within there)).mp
  · exact fun ordered => (Android.orderedAt_iff_of_orderedAt ordered).mpr
      fun _ here _ there => (noneDue.compare_iff (within here) (within there)).mpr

private theorem addAll_ordered (searches : sorted.Searches) {same : Android.BulletinArticle →
      Android.BulletinArticle → Bool} {new added : List Android.BulletinArticle}
    (ordered : Android.OrderedAt clock items)
    (all : sorted.addAll (fun o1 o2 => some (o1.compare clock o2)) same items new = some added) :
    Android.OrderedAt clock added := by
  induction new generalizing items with
  | nil => exact Option.some.inj all ▸ ordered
  | cons item rest ih =>
    simp only [SortedList.addAll, List.foldlM_cons, Option.bind_eq_bind,
      Option.bind_eq_some_iff] at all
    obtain ⟨middle, added, all⟩ := all
    exact ih ((Android.placed_orderedAt_iff (searches.add added)).mpr ordered) all

/-- The page has the delivered articles, and lists them in the order of now. -/
structure PageHolds (now : Int) (delivered : List Android.BulletinArticle)
    (adapter : Android.BulletinRecyclerAdapter) : Prop where
  valid : adapter.Valid
  data : adapter.bulletinData = delivered
  ordered : Android.OrderedAt now adapter.sortedList

theorem PageHolds.of_delivery (lawful : sorted.Lawful) (searches : sorted.Searches)
    (valid : adapter.Valid)
    (distinct : Android.DistinctSnapshot (.deliver delivered clock))
    (noneDue : NoneDue now clock delivered)
    (taken : Android.bulletinAdapterStep sorted adapter (.deliver delivered clock) = some next) :
    PageHolds now delivered next := by
  obtain ⟨listed, data, _⟩ := onDataChange_spec lawful distinct.1 taken
  obtain ⟨items, added, same⟩ := addItems_eq_some.mp taken
  have ordered : Android.OrderedAt clock next.sortedList := by
    rw [same]
    exact addAll_ordered searches List.Pairwise.nil added
  exact ⟨valid.step lawful distinct taken, data, (noneDue.orderedAt_iff listed.subset).mp ordered⟩

theorem PageHolds.clicked (lawful : sorted.Lawful) (searches : sorted.Searches)
    (holds : PageHolds now delivered adapter) {type : Android.BulletinType}
    (noneDue : NoneDue now clock delivered)
    (taken : Android.bulletinAdapterStep sorted adapter (.selectorClicked type clock) = some next) :
    PageHolds now delivered next ∧ Android.ListsSelected delivered next := by
  obtain ⟨honours, valid, data, _⟩ :=
    filterItems_spec lawful (holds.valid.flipSelector type) taken
  have same : next.bulletinData = delivered := data.trans holds.data
  let call := Android.AdapterCall.filterItems (adapter.flipSelector type).selectorsActive
  have performed : call.perform sorted clock adapter = some next := taken
  have stays : Android.OrderedAt now (call.stays adapter) :=
    List.Pairwise.sublist (Android.stays_sublist call adapter) holds.ordered
  have within : call.stays adapter ⊆ delivered := fun article member =>
    holds.data ▸ holds.valid.listed ((Android.stays_sublist call adapter).subset member)
  have ordered : Android.OrderedAt clock next.sortedList :=
    (Android.perform_orderedAt_iff searches performed).mpr
      ((noneDue.orderedAt_iff within).mpr stays)
  refine ⟨⟨valid, same, (noneDue.orderedAt_iff ?_).mp ordered⟩, same ▸ honours⟩
  exact fun article member => same ▸ valid.listed member

/-- After a delivery and clicks the page lists the selected articles in order. -/
theorem PageHolds.run (lawful : sorted.Lawful) (searches : sorted.Searches)
    (holds : PageHolds now delivered adapter) {clicks : List (Android.BulletinType × Int)}
    (noneDue : ∀ click ∈ clicks, NoneDue now click.2 delivered) (clicked : clicks ≠ [])
    (ran : Android.bulletinAdapterRun sorted adapter
      (clicks.map fun click => .selectorClicked click.1 click.2) = some next) :
    PageHolds now delivered next ∧ Android.ListsSelected delivered next := by
  induction clicks generalizing adapter with
  | nil => exact absurd rfl clicked
  | cons click rest ih =>
    obtain ⟨middle, taken, ran⟩ := run_cons_iff.mp ran
    obtain ⟨holds', lists⟩ := holds.clicked lawful searches (noneDue click List.mem_cons_self) taken
    cases rest with
    | nil => exact Option.some.inj ran ▸ ⟨holds', lists⟩
    | cons second rest =>
      exact ih holds' (fun other member => noneDue other (List.mem_cons_of_mem _ member))
        (List.cons_ne_nil _ _) ran

end page

end AhsApp.Agreement
