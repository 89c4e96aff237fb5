import AhsApp.Android.BulletinOrder
import AhsApp.Ios.TimeOrder

/-! The orders in which the two applications list bulletin articles. They rank past and
future events alike; an event at this very instant is not past on Android and not to come
on iOS. -/

namespace AhsApp.Agreement

open AhsApp.Library

/-- One bulletin article as either application holds it. -/
structure BulletinPair where
  android : Android.BulletinArticle
  ios : Ios.BulletinArticleData
  sameTime : ios.articleUnixEpoch = some android.time

namespace BulletinPair

def time (article : BulletinPair) : Int := article.android.time

/-- The Android comparison at a clock value in milliseconds. -/
def androidBefore (now : Int) (a b : BulletinPair) : Bool :=
  decide (a.android.compare now b.android < 0)

/-- The iOS comparison at the same instant, whose clock shows whole seconds. -/
def iosBefore (now : Int) (a b : BulletinPair) : Bool :=
  Ios.sortBulletinsByTime (now / 1000) a.ios b.ios

variable {now : Int} {a b : BulletinPair}

theorem iosBefore_iff : iosBefore now a b = true ↔
    Ios.timeRank (now / 1000) (some a.time) < Ios.timeRank (now / 1000) (some b.time) := by
  rw [iosBefore, Ios.sortBulletinsByTime, Ios.timeOrder_iff, a.sameTime, b.sameTime, time, time]

private theorem iosBefore_of_earlier (earlier : a.time < b.time) :
    (iosBefore now a b = true ↔ now < a.time * 1000) ∧
      (iosBefore now b a = true ↔ a.time * 1000 ≤ now) := by
  simp only [iosBefore_iff, Ios.timeRank, Option.getD_some, Prod.Lex.toLex_lt_toLex, Bool.lt_iff,
    decide_eq_true_eq, decide_eq_false_iff_not, decide_eq_decide]
  constructor
  · split <;> split <;> omega
  · split <;> split <;> omega

theorem before_iff (fits : a.android.Fits now) (fits' : b.android.Fits now)
    (apart : a.time ≠ b.time) :
    (a.android.compare now b.android < 0 ↔ iosBefore now a b = true) ↔
      min a.time b.time * 1000 ≠ now := by
  rcases apart.lt_or_gt with earlier | later
  · rw [(Android.BulletinArticle.compare_neg_of_earlier fits fits' earlier).1,
      (iosBefore_of_earlier earlier).1, min_eq_left earlier.le]
    change (now ≤ a.time * 1000 ↔ _) ↔ _
    omega
  · rw [(Android.BulletinArticle.compare_neg_of_earlier fits' fits later).2,
      (iosBefore_of_earlier later).2, min_eq_right later.le]
    change (b.time * 1000 < now ↔ _) ↔ _
    omega

private theorem sortsBy_android (now : Int) :
    SortsBy (fun a b : BulletinPair => androidBefore now b a = false)
      fun article => article.android.rank now := by
  intro a b
  rw [← not_lt, ← Android.BulletinArticle.compare_neg_iff]
  exact decide_eq_false_iff_not

private theorem sortsBy_ios (now : Int) :
    SortsBy (fun a b : BulletinPair => iosBefore now b a = false)
      fun article => Ios.timeRank (now / 1000) (some article.time) := by
  intro a b
  rw [← not_lt, ← iosBefore_iff, Bool.not_eq_true]

private theorem latest_of_sort_eq {articles : List BulletinPair}
    (fits : ∀ article ∈ articles, article.android.Fits now)
    (same : Ios.sortBy (androidBefore now) articles = Ios.sortBy (iosBefore now) articles)
    (here : a ∈ articles) (instant : a.time * 1000 = now) (there : b ∈ articles) :
    b.time ≤ a.time := by
  by_contra later
  have earlier : a.time < b.time := not_le.mp later
  have android : androidBefore now a b = true := decide_eq_true
    ((Android.BulletinArticle.compare_neg_of_earlier (fits a here) (fits b there) earlier).1.mpr
      instant.ge)
  have ios : iosBefore now b a = true := (iosBefore_of_earlier earlier).2.mpr instant.le
  have sorted := (sortsBy_android now).sorted articles
  have sorted' := (sortsBy_ios now).sorted articles
  have listed : ∀ {article}, article ∈ articles → article ∈ Ios.sortBy (iosBefore now) articles :=
    fun member => (Ios.sortBy_perm _ _).mem_iff.mpr member
  rw [show articles.insertionSort (fun a b => androidBefore now b a = false) =
    Ios.sortBy (iosBefore now) articles from same] at sorted
  rcases rel_or_of_pairwise (List.pairwise_and_iff.mpr ⟨sorted, sorted'⟩) (listed here)
    (listed there) with rfl | first | second
  · exact lt_irrefl _ earlier
  · rw [ios] at first
    cases first.2
  · rw [android] at second
    cases second.1

private theorem sort_eq_of_latest {articles : List BulletinPair}
    (fits : ∀ article ∈ articles, article.android.Fits now)
    (distinct : (articles.map time).Nodup)
    (latest : ∀ a ∈ articles, a.time * 1000 = now → ∀ b ∈ articles, b.time ≤ a.time) :
    Ios.sortBy (androidBefore now) articles = Ios.sortBy (iosBefore now) articles := by
  have agree : ∀ a ∈ articles, ∀ b ∈ articles, androidBefore now b a = iosBefore now b a := by
    intro a here b there
    by_cases apart : b.time = a.time
    · obtain rfl := List.inj_on_of_nodup_map distinct there here apart
      have android : androidBefore now b b = false :=
        (sortsBy_android now b b).mpr le_rfl
      exact android.trans ((sortsBy_ios now b b).mpr le_rfl).symm
    · rw [Bool.eq_iff_iff, androidBefore, decide_eq_true_eq]
      refine (before_iff (fits b there) (fits a here) apart).mpr fun instant => ?_
      rcases lt_or_gt_of_ne apart with first | second
      · rw [min_eq_left first.le] at instant
        exact absurd (latest b there instant a here) first.not_ge
      · rw [min_eq_right second.le] at instant
        exact absurd (latest a here instant b there) second.not_ge
  have sorted : (Ios.sortBy (androidBefore now) articles).map id =
      Ios.sortBy (iosBefore now) (articles.map id) := by
    refine List.map_insertionSort _ _ id articles fun a here b there => ?_
    rw [agree a here b there, id, id]
  rwa [List.map_id, List.map_id] at sorted

end BulletinPair

open BulletinPair

/-- Articles at other times than this instant compare alike in both applications, by strict
weak orders, and lists of articles at different times are sorted alike exactly if none at
this instant has a later one beside it. -/
theorem bulletin_orders_agree (now : Int) :
    (∀ a b : BulletinPair, a.android.Fits now → b.android.Fits now → a.time ≠ b.time →
      ((a.android.compare now b.android < 0 ↔
        Ios.sortBulletinsByTime (now / 1000) a.ios b.ios = true) ↔
          min a.time b.time * 1000 ≠ now)) ∧
    IsStrictWeakOrder Android.BulletinArticle (fun a b => a.compare now b < 0) ∧
    IsStrictWeakOrder Ios.BulletinArticleData
      (fun a b => Ios.sortBulletinsByTime (now / 1000) a b = true) ∧
    ∀ articles : List BulletinPair, (∀ article ∈ articles, article.android.Fits now) →
      (articles.map time).Nodup →
      (Ios.sortBy (androidBefore now) articles = Ios.sortBy (iosBefore now) articles ↔
        ∀ a ∈ articles, a.time * 1000 = now → ∀ b ∈ articles, b.time ≤ a.time) := by
  refine ⟨fun a b => before_iff, ?_, ?_, fun articles fits distinct => ?_⟩
  · exact isStrictWeakOrder_of_key fun _ _ => Android.BulletinArticle.compare_neg_iff
  · exact isStrictWeakOrder_of_key fun _ _ => Ios.timeOrder_iff
  · exact ⟨fun same _ here instant _ there => latest_of_sort_eq fits same here instant there,
      sort_eq_of_latest fits distinct⟩

def pairAt (time : Int) : BulletinPair where
  android := ⟨"game", time, "Game", "", .athletics, false⟩
  ios := { articleID := some "game", articleUnixEpoch := some time }
  sameTime := rfl

/-- A second after the first of three events, both list the other two first. -/
theorem between_events_agree :
    Ios.sortBy (androidBefore 2000) [pairAt 1, pairAt 4, pairAt 3] =
      Ios.sortBy (iosBefore 2000) [pairAt 1, pairAt 4, pairAt 3] := by
  refine ((bulletin_orders_agree 2000).2.2.2 _ ?_ ?_).mpr ?_
  · simp [pairAt, Android.BulletinArticle.Fits]
  · simp [pairAt, time]
  · simp [pairAt, time]

/-- The comparisons differ when one of two events is now, and when its difference from the
clock value does not fit in a `long` though its milliseconds do. -/
theorem this_instant_disagrees :
    ((-2 ^ 63 ≤ (pairAt 1).time * 1000 ∧ (pairAt 2).time * 1000 < 2 ^ 63) ∧
      (pairAt 1).android.compare 1000 (pairAt 2).android < 0 ∧
      Ios.sortBulletinsByTime (1000 / 1000) (pairAt 1).ios (pairAt 2).ios = false) ∧
    ((-2 ^ 63 ≤ (pairAt (-9223372036854775)).time * 1000 ∧ (pairAt 0).time * 1000 < 2 ^ 63) ∧
      (pairAt (-9223372036854775)).android.compare 1600000000000 (pairAt 0).android < 0 ∧
      Ios.sortBulletinsByTime (1600000000000 / 1000) (pairAt (-9223372036854775)).ios
        (pairAt 0).ios = false) := by
  decide

end AhsApp.Agreement
