import AhsApp.Android.BulletinAdapter
import AhsApp.Library.BinarySearch
import AhsApp.Library.StableSort
import Mathlib.Data.Prod.Lex

/-! The order of the bulletin list while time passes. At any instant the comparison ranks
the articles by a key; the key depends on the clock, and an operation moves only the items
that it adds or recalculates. -/

namespace AhsApp.Android

open AhsApp.Library AhsApp.Library.Ranking

namespace BulletinArticle

/-- What is not past comes first, then what is closest to the present, then the title. -/
def rank (now : Int) (article : BulletinArticle) : Bool ×ₗ Int ×ₗ List Nat :=
  toLex (decide (0 < timeFromNow now article.time),
    toLex (longAbs (timeFromNow now article.time), utf16 article.title))

private theorem timeFromNow_cases (now time : Int) :
    (-2 ^ 63 ≤ timeFromNow now time ∧ timeFromNow now time < 2 ^ 63) ∧
      ∃ turns, timeFromNow now time = now - time * 1000 + turns * 2 ^ 64 := by
  obtain ⟨range, turns, wrapped⟩ := long_cases (now - long (time * 1000))
  obtain ⟨_, turns', wrapped'⟩ := long_cases (time * 1000)
  exact ⟨range, turns - turns', by rw [timeFromNow]; omega⟩

private theorem longAbs_cases (now time : Int) :
    (0 ≤ timeFromNow now time ∧ longAbs (timeFromNow now time) = timeFromNow now time) ∨
      (timeFromNow now time < 0 ∧
        (longAbs (timeFromNow now time) = -timeFromNow now time ∨
          timeFromNow now time = -2 ^ 63 ∧ longAbs (timeFromNow now time) = -2 ^ 63)) := by
  obtain ⟨range, _⟩ := timeFromNow_cases now time
  by_cases least : timeFromNow now time = -2 ^ 63
  · exact .inr ⟨by omega, .inr ⟨least, by rw [least]; rfl⟩⟩
  · have absolute : longAbs (timeFromNow now time) = (timeFromNow now time).natAbs :=
      longAbs_eq_natAbs (by omega) range.2
    omega

theorem compare_ranks (now : Int) (o1 o2 : BulletinArticle) :
    Ranks (fun o1 o2 => some (o1.compare now o2)) (rank now) o1 o2 := by
  refine ⟨o1.compare now o2, rfl, ?_⟩
  obtain ⟨less, greater⟩ := compareTo_sign o1.title o2.title
  have first := longAbs_cases now o1.time
  have second := longAbs_cases now o2.time
  simp only [compare, rank, Prod.Lex.toLex_lt_toLex, Bool.lt_iff, decide_eq_true_eq,
    decide_eq_false_iff_not, decide_eq_decide]
  generalize timeFromNow now o1.time = diff1 at first ⊢
  generalize timeFromNow now o2.time = diff2 at second ⊢
  split_ifs with pastFuture futurePast farther nearer
  · omega
  · omega
  · omega
  · omega
  · have same : longAbs diff1 = longAbs diff2 := by omega
    have past : 0 < diff1 ↔ 0 < diff2 := by omega
    simp [same, past, less, greater]

theorem compare_neg_iff {now : Int} {o1 o2 : BulletinArticle} :
    o1.compare now o2 < 0 ↔ o1.rank now < o2.rank now := by
  rw [← (compare_ranks now o1 o2).before_iff, Before]
  simp

private theorem timeFromNow_eq_of_abs {now time other : Int}
    (past : 0 < timeFromNow now time ↔ 0 < timeFromNow now other)
    (absolute : longAbs (timeFromNow now time) = longAbs (timeFromNow now other)) :
    timeFromNow now time = timeFromNow now other := by
  have first := longAbs_cases now time
  have second := longAbs_cases now other
  omega

private theorem timeFromNow_shift (clock now time : Int) :
    timeFromNow now time = long (timeFromNow clock time + (now - clock)) := by
  simp only [timeFromNow, long, Int.bmod_add_bmod]
  congr 1
  omega

private theorem rank_eq_of_rank_eq {clock now : Int} {o1 o2 : BulletinArticle}
    (tied : o1.rank clock = o2.rank clock) : o1.rank now = o2.rank now := by
  obtain ⟨past, rest⟩ := Prod.mk.inj (congrArg ofLex tied)
  obtain ⟨absolute, titles⟩ := Prod.mk.inj (congrArg ofLex rest)
  have before : timeFromNow clock o1.time = timeFromNow clock o2.time :=
    timeFromNow_eq_of_abs (decide_eq_decide.mp past) absolute
  have after : timeFromNow now o1.time = timeFromNow now o2.time := by
    rw [timeFromNow_shift clock now o1.time, before, ← timeFromNow_shift]
  rw [rank, rank, after, titles]

/-- The subtraction from the clock value stays within a `long`. -/
def Fits (now : Int) (article : BulletinArticle) : Prop :=
  (now - article.time * 1000).natAbs < 2 ^ 63

private theorem timeFromNow_of_fits {now : Int} {article : BulletinArticle}
    (fits : article.Fits now) :
    timeFromNow now article.time = now - article.time * 1000 := by
  have range : (now - article.time * 1000).natAbs < 2 ^ 63 := fits
  rw [timeFromNow, long, long, Int.sub_bmod_bmod]
  exact long_eq_self (by omega) (by omega)

theorem compare_neg_of_earlier {now : Int} {o1 o2 : BulletinArticle} (fits : o1.Fits now)
    (fits' : o2.Fits now) (earlier : o1.time < o2.time) :
    (o1.compare now o2 < 0 ↔ now ≤ o1.time * 1000) ∧
      (o2.compare now o1 < 0 ↔ o1.time * 1000 < now) := by
  have first : longAbs (now - o1.time * 1000) = (now - o1.time * 1000).natAbs :=
    longAbs_eq_natAbs (by rw [Fits] at fits; omega) (by rw [Fits] at fits; omega)
  have second : longAbs (now - o2.time * 1000) = (now - o2.time * 1000).natAbs :=
    longAbs_eq_natAbs (by rw [Fits] at fits'; omega) (by rw [Fits] at fits'; omega)
  simp only [compare_neg_iff, rank, timeFromNow_of_fits fits, timeFromNow_of_fits fits', first,
    second, Prod.Lex.toLex_lt_toLex, Bool.lt_iff, decide_eq_true_eq, decide_eq_false_iff_not,
    decide_eq_decide]
  omega

theorem compare_neg_of_same_time {now : Int} {o1 o2 : BulletinArticle}
    (same : o1.time = o2.time) : o1.compare now o2 < 0 ↔ utf16 o1.title < utf16 o2.title := by
  simp [compare_neg_iff, rank, same, Prod.Lex.toLex_lt_toLex]

end BulletinArticle

/-- The list is in the order that the comparison has at the instant. -/
def OrderedAt (now : Int) (items : List BulletinArticle) : Prop :=
  items.Pairwise fun o1 o2 => o1.compare now o2 ≤ 0

theorem orderedAt_iff {now : Int} {items : List BulletinArticle} :
    OrderedAt now items ↔ (items.map (BulletinArticle.rank now)).Pairwise (· ≤ ·) := by
  rw [← inOrder_iff fun o1 _ o2 _ => BulletinArticle.compare_ranks now o1 o2, InOrder, OrderedAt]
  simp

namespace BulletinRecyclerAdapter

/-- The object at the position is marked, in both lists, and put where it belongs. -/
def updateReadItemPosition (sorted : SortedList BulletinArticle) (now : Int) (position : Int)
    (adapter : BulletinRecyclerAdapter) : Option BulletinRecyclerAdapter :=
  if position < adapter.sortedList.length then
    if position < 0 then none
    else do
      let article ← adapter.sortedList[position.toNat]?
      let read := { article with alreadyRead := true }
      let sortedList ← sorted.recalculatePositionOfItemAt
        (fun o1 o2 => some (o1.compare now o2)) areItemsTheSame
        (adapter.sortedList.set position.toNat read) position.toNat
      some { adapter with
        sortedList
        bulletinData := adapter.bulletinData.map fun data => if data = article then read else data }
  else some adapter

end BulletinRecyclerAdapter

open BulletinRecyclerAdapter

/-- A call of the activity; it sets the selectors before it filters. -/
inductive AdapterCall where
  | clearAll
  | addItem (item : BulletinArticle)
  | filterItems (selectorsActive : BulletinType → Bool)
  | updateReadItemPosition (position : Int)

namespace AdapterCall

def perform (sorted : SortedList BulletinArticle) (now : Int) (adapter : BulletinRecyclerAdapter) :
    AdapterCall → Option BulletinRecyclerAdapter
  | clearAll => some adapter.clearAll
  | addItem item => BulletinRecyclerAdapter.addItem sorted now adapter item
  | filterItems selectorsActive =>
    BulletinRecyclerAdapter.filterItems sorted now { adapter with selectorsActive }
  | updateReadItemPosition position =>
    BulletinRecyclerAdapter.updateReadItemPosition sorted now position adapter

/-- What the call leaves in place: not what it removes, nor what it takes out to put it
elsewhere. -/
def stays (adapter : BulletinRecyclerAdapter) : AdapterCall → List BulletinArticle
  | clearAll => []
  | addItem _ => adapter.sortedList
  | filterItems selectorsActive => adapter.sortedList.filter fun item =>
      (filteredCopy selectorsActive adapter.bulletinData).any (item.title == ·.title)
  | updateReadItemPosition position =>
    if position < adapter.sortedList.length then adapter.sortedList.eraseIdx position.toNat
    else adapter.sortedList

end AdapterCall

/-- The adapter, and what the clock showed at the last operation. -/
structure ClockedAdapter where
  adapter : BulletinRecyclerAdapter
  clock : Int

def clockedStep (sorted : SortedList BulletinArticle) (state : ClockedAdapter)
    (event : AdapterCall × Int) : Option ClockedAdapter := do
  let adapter ← event.1.perform sorted event.2 state.adapter
  some ⟨adapter, event.2⟩

/-- The list is in order at the clock value of the last operation. -/
def ClockedAdapter.Ordered (state : ClockedAdapter) : Prop :=
  OrderedAt state.clock state.adapter.sortedList

/-- The articles that stay in place compare as they did at the last operation. -/
def KeepsOrder (state : ClockedAdapter) (event : AdapterCall × Int) : Prop :=
  ∀ o1 ∈ event.1.stays state.adapter, ∀ o2 ∈ event.1.stays state.adapter,
    o1.compare state.clock o2 < 0 → o1.compare event.2 o2 < 0

section Step

variable {sorted : SortedList BulletinArticle} {now clock : Int}
variable {adapter next : BulletinRecyclerAdapter} {items : List BulletinArticle}

theorem placed_orderedAt_iff {same : BulletinArticle → BulletinArticle → Bool}
    {item : BulletinArticle} {placed : List BulletinArticle}
    (place : Placed (fun o1 o2 => some (o1.compare now o2)) same items item placed) :
    OrderedAt now placed ↔ OrderedAt now items := by
  rw [orderedAt_iff, orderedAt_iff]
  exact place.sorted_iff fun old _ => BulletinArticle.compare_ranks now old item

private theorem addMissing_orderedAt_iff (searches : sorted.Searches)
    {infos added : List BulletinArticle}
    (folded : infos.foldlM (addMissing sorted now) items = some added) :
    OrderedAt now added ↔ OrderedAt now items := by
  induction infos generalizing items with
  | nil =>
    obtain rfl : items = added := Option.some.inj folded
    rfl
  | cons info rest ih =>
    simp only [List.foldlM_cons, Option.bind_eq_bind, Option.bind_eq_some_iff] at folded
    obtain ⟨middle, first, others⟩ := folded
    rw [ih others]
    rw [addMissing] at first
    split at first
    · rw [Option.some.inj first]
    · exact placed_orderedAt_iff (searches.add first)

/-- After a call the list is in order exactly if what the call leaves in place is. -/
theorem perform_orderedAt_iff (searches : sorted.Searches) {call : AdapterCall}
    (performed : call.perform sorted now adapter = some next) :
    OrderedAt now next.sortedList ↔ OrderedAt now (call.stays adapter) := by
  cases call with
  | clearAll =>
    obtain rfl := Option.some.inj performed
    rfl
  | addItem item =>
    obtain ⟨items, added, result⟩ := Option.bind_eq_some_iff.mp performed
    obtain rfl := Option.some.inj result
    exact placed_orderedAt_iff (searches.add added)
  | filterItems selectorsActive =>
    obtain ⟨items, added, result⟩ := Option.bind_eq_some_iff.mp performed
    obtain rfl := Option.some.inj result
    exact addMissing_orderedAt_iff searches added
  | updateReadItemPosition position =>
    simp only [AdapterCall.perform, BulletinRecyclerAdapter.updateReadItemPosition] at performed
    rw [AdapterCall.stays]
    split at performed
    · rename_i inside
      rw [if_pos inside]
      split at performed
      · cases performed
      · obtain ⟨article, here, performed⟩ := Option.bind_eq_some_iff.mp performed
        obtain ⟨items, moved, result⟩ := Option.bind_eq_some_iff.mp performed
        obtain rfl := Option.some.inj result
        obtain ⟨item, _, placed⟩ := searches.recalculate moved
        rw [List.eraseIdx_set_eq] at placed
        exact placed_orderedAt_iff placed
    · rename_i outside
      rw [if_neg outside, Option.some.inj performed]

theorem stays_sublist (call : AdapterCall) (adapter : BulletinRecyclerAdapter) :
    (call.stays adapter).Sublist adapter.sortedList := by
  cases call with
  | clearAll => exact List.nil_sublist _
  | addItem item => exact List.Sublist.refl _
  | filterItems selectorsActive => exact List.filter_sublist
  | updateReadItemPosition position =>
    rw [AdapterCall.stays]
    split
    · exact List.eraseIdx_sublist ..
    · exact List.Sublist.refl _

theorem orderedAt_iff_of_orderedAt (ordered : OrderedAt clock items) :
    OrderedAt now items ↔ ∀ o1 ∈ items, ∀ o2 ∈ items,
      o1.compare clock o2 < 0 → o1.compare now o2 < 0 := by
  simp only [BulletinArticle.compare_neg_iff]
  rw [orderedAt_iff, List.pairwise_map] at ordered ⊢
  constructor
  · intro later o1 here o2 there before
    rcases rel_or_of_pairwise (List.pairwise_and_iff.mpr ⟨ordered, later⟩) here there with
      rfl | ⟨_, upTo⟩ | ⟨back, _⟩
    · exact absurd before (lt_irrefl _)
    · refine lt_of_le_of_ne upTo fun tied => before.ne ?_
      exact BulletinArticle.rank_eq_of_rank_eq tied
    · exact absurd before back.not_gt
  · intro kept
    refine ordered.imp_of_mem fun here there upTo => ?_
    rcases upTo.lt_or_eq with before | tied
    · exact (kept _ here _ there before).le
    · exact (BulletinArticle.rank_eq_of_rank_eq tied).le

end Step

private theorem clockedStep_ordered_iff {sorted : SortedList BulletinArticle}
    (searches : sorted.Searches)
    {state next : ClockedAdapter} {event : AdapterCall × Int} (ordered : state.Ordered)
    (taken : clockedStep sorted state event = some next) :
    next.Ordered ↔ KeepsOrder state event := by
  obtain ⟨adapter, performed, result⟩ := Option.bind_eq_some_iff.mp taken
  obtain rfl := Option.some.inj result
  have stayed : OrderedAt state.clock (event.1.stays state.adapter) :=
    List.Pairwise.sublist (stays_sublist event.1 state.adapter) ordered
  exact (perform_orderedAt_iff searches performed).trans (orderedAt_iff_of_orderedAt stayed)

/-- Right after each operation of a run the list is in order at the clock value of that
operation, exactly if at every operation the articles that stay in place compare as they
did at the operation before. -/
theorem bulletin_order_iff {sorted : SortedList BulletinArticle} (searches : sorted.Searches)
    {start : Int} {events : List (AdapterCall × Int)} {last : ClockedAdapter}
    (ran : run (clockedStep sorted) ⟨created, start⟩ events = some last) :
    Throughout (clockedStep sorted) ClockedAdapter.Ordered ⟨created, start⟩ events ↔
      Along (clockedStep sorted) KeepsOrder ⟨created, start⟩ events :=
  throughout_iff_along (clockedStep_ordered_iff searches) List.Pairwise.nil ran

/-- For times that fit and a clock that does not go back: of the articles that stay in
place, only one with no later one among them has become past since the last operation. -/
theorem keepsOrder_iff {state : ClockedAdapter} {event : AdapterCall × Int}
    (fits : ∀ article ∈ event.1.stays state.adapter,
      article.Fits state.clock ∧ article.Fits event.2)
    (forward : state.clock ≤ event.2) :
    KeepsOrder state event ↔
      ∀ o1 ∈ event.1.stays state.adapter, ∀ o2 ∈ event.1.stays state.adapter,
        o1.time < o2.time → ¬ (state.clock ≤ o1.time * 1000 ∧ o1.time * 1000 < event.2) := by
  refine forall₂_congr fun o1 here => forall₂_congr fun o2 there => ?_
  obtain ⟨before, now⟩ := fits o1 here
  obtain ⟨before', now'⟩ := fits o2 there
  rcases lt_trichotomy o1.time o2.time with earlier | same | later
  · rw [(BulletinArticle.compare_neg_of_earlier before before' earlier).1,
      (BulletinArticle.compare_neg_of_earlier now now' earlier).1]
    omega
  · rw [BulletinArticle.compare_neg_of_same_time same, BulletinArticle.compare_neg_of_same_time same]
    exact iff_of_true id fun earlier => absurd same earlier.ne
  · rw [(BulletinArticle.compare_neg_of_earlier before' before later).2,
      (BulletinArticle.compare_neg_of_earlier now' now later).2]
    omega

/-- An article from the second `time`. -/
def articleAtTime (id : String) (time : Int) : BulletinArticle :=
  ⟨id, time, id, "", .clubs, false⟩

/-- Two articles are added before the first second has passed; the nearer one is read
within it. -/
def readInTime : List (AdapterCall × Int) :=
  [(.addItem (articleAtTime "late" 2), 0), (.addItem (articleAtTime "soon" 1), 400),
    (.updateReadItemPosition 0, 800)]

theorem read_in_time_ordered :
    Throughout (clockedStep .binary) ClockedAdapter.Ordered ⟨created, 0⟩ readInTime := by
  refine (bulletin_order_iff SortedList.binary_searches rfl).mpr ?_
  refine Along.cons rfl ?_ (Along.cons rfl ?_ (Along.cons rfl ?_ trivial))
  all_goals
    unfold KeepsOrder
    decide

/-- The two articles stay in place while their times pass. -/
theorem passing_time_misorders : ∃ last,
    run (clockedStep .binary) ⟨created, 0⟩
        [(.addItem (articleAtTime "late" 2), 0), (.addItem (articleAtTime "soon" 1), 0),
          (.filterItems fun _ => false, 5000)] = some last ∧ ¬ last.Ordered := by
  refine ⟨_, rfl, ?_⟩
  unfold ClockedAdapter.Ordered OrderedAt
  decide

end AhsApp.Android
