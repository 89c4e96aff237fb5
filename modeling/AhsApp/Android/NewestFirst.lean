import AhsApp.Android.CategoryAdapter
import AhsApp.Firebase.DataSnapshot
import Mathlib.Data.Prod.Lex

/-! The orders that list the newest first. Both comparisons subtract two times: the one of
articles keeps 32 bits of the difference, the one of notifications 64. -/

namespace AhsApp.Android

open AhsApp.Firebase AhsApp.Library.Ranking

variable {Item : Type}

/-- The comparison keeps its contract and puts a later item strictly before an earlier one. -/
structure NewestFirst (compare : Item → Item → Option Int) (time : Item → Int)
    (items : List Item) : Prop where
  consistent : Consistent compare items
  later : ∀ first ∈ items, ∀ second ∈ items, time second < time first →
    Before compare first second

def ArticleSlim.compare (article o : ArticleSlim) : Option Int := some (article.compareTo o)

/-- The addition returns what was there and what is new, by non-increasing time. -/
def ShowsNewestFirst (added : Option (List ArticleSlim)) (articles : List ArticleSlim) : Prop :=
  ∃ shown, added = some shown ∧ shown.Perm articles ∧
    shown.Pairwise fun first second => second.timeUpdated ≤ first.timeUpdated

/-- The times are equal, or apart by an amount whose sign 32 bits keep. -/
def NarrowsWell (first second : Int) : Prop :=
  first = second ∨
    0 < (first - second).natAbs % 2 ^ 32 ∧ (first - second).natAbs % 2 ^ 32 < 2 ^ 31

def IsLong (value : Int) : Prop :=
  DataSnapshot.int64Min ≤ value ∧ value ≤ DataSnapshot.int64Max

private theorem compareTo_cases (article o : ArticleSlim) :
    (-2 ^ 31 ≤ article.compareTo o ∧ article.compareTo o < 2 ^ 31) ∧ ∃ turns,
      article.compareTo o = o.timeUpdated - article.timeUpdated + turns * 2 ^ 32 := by
  obtain ⟨range, turns, narrowed⟩ := int_cases (long (o.timeUpdated - article.timeUpdated))
  obtain ⟨_, turns', wrapped⟩ := long_cases (o.timeUpdated - article.timeUpdated)
  exact ⟨range, turns + turns' * 2 ^ 32, by rw [ArticleSlim.compareTo]; omega⟩

private theorem compareTo_ranks {article o : ArticleSlim}
    (narrows : NarrowsWell article.timeUpdated o.timeUpdated) :
    Ranks ArticleSlim.compare (OrderDual.toDual ·.timeUpdated) article o := by
  obtain ⟨range, turns, difference⟩ := compareTo_cases article o
  refine ⟨article.compareTo o, rfl, ?_⟩
  simp only [OrderDual.toDual_lt_toDual]
  rcases narrows with same | apart
  · omega
  · omega

private theorem narrowsWell_of_newestFirst {articles : List ArticleSlim}
    {first second : ArticleSlim}
    (newest : NewestFirst ArticleSlim.compare ArticleSlim.timeUpdated articles)
    (here : first ∈ articles) (there : second ∈ articles)
    (later : second.timeUpdated < first.timeUpdated) :
    NarrowsWell first.timeUpdated second.timeUpdated := by
  have before := newest.later first here second there later
  have after := (newest.consistent.reverse first here second there).mp before
  obtain ⟨order, compared, negative⟩ := before
  obtain ⟨back, compared', positive⟩ := after
  obtain rfl := Option.some.inj compared
  obtain rfl := Option.some.inj compared'
  obtain ⟨_, turns, difference⟩ := compareTo_cases first second
  obtain ⟨_, turns', difference'⟩ := compareTo_cases second first
  right
  omega

theorem NarrowsWell.symm {first second : Int} (narrows : NarrowsWell first second) :
    NarrowsWell second first := by
  rcases narrows with rfl | apart
  · exact .inl rfl
  · exact .inr (by omega)

private theorem articles_newestFirst_iff (articles : List ArticleSlim) :
    NewestFirst ArticleSlim.compare ArticleSlim.timeUpdated articles ↔
      ∀ first ∈ articles, ∀ second ∈ articles,
        NarrowsWell first.timeUpdated second.timeUpdated := by
  constructor
  · intro newest first here second there
    rcases lt_trichotomy first.timeUpdated second.timeUpdated with earlier | same | later
    · exact (narrowsWell_of_newestFirst newest there here earlier).symm
    · exact .inl same
    · exact narrowsWell_of_newestFirst newest here there later
  · intro narrows
    have ranks : ∀ first ∈ articles, ∀ second ∈ articles,
        Ranks ArticleSlim.compare (OrderDual.toDual ·.timeUpdated) first second :=
      fun first here second there => compareTo_ranks (narrows first here second there)
    exact ⟨.of_ranks ranks, fun first here second there later =>
      (ranks first here second there).before_iff.mpr later⟩

/-- Sorting under the contract shows the newest first. -/
theorem sortArticles_shows {collections : ListSort ArticleSlim} (lawful : collections.Lawful)
    {articles : List ArticleSlim} (narrows : ∀ first ∈ articles, ∀ second ∈ articles,
      NarrowsWell first.timeUpdated second.timeUpdated) :
    ShowsNewestFirst (sortArticles collections articles) articles := by
  obtain ⟨shown, returned, perm, ordered⟩ :=
    lawful ((articles_newestFirst_iff articles).mpr narrows).consistent
  refine ⟨shown, returned, perm, ?_⟩
  have keys := (inOrder_iff fun first here second there => compareTo_ranks
    (narrows first (perm.subset here) second (perm.subset there))).mp ordered
  exact List.pairwise_map.mp keys

/-- The later notification comes first, then the smaller title. -/
def NotifData.rank (data : NotifData) : Intᵒᵈ ×ₗ List Nat :=
  toLex (OrderDual.toDual data.time, utf16 (data.title.getD ""))

theorem NotifData.compare_ranks {o1 o2 : NotifData} (titled : o1.title.isSome)
    (titled' : o2.title.isSome) (close : (o1.time - o2.time).natAbs < 2 ^ 63) :
    Ranks NotifData.compare NotifData.rank o1 o2 := by
  have difference : long (o1.time - o2.time) = o1.time - o2.time :=
    long_eq_self (by omega) (by omega)
  obtain ⟨title, found⟩ := Option.isSome_iff_exists.mp titled
  obtain ⟨other, found'⟩ := Option.isSome_iff_exists.mp titled'
  simp only [Ranks, NotifData.compare, difference, found, found', NotifData.rank,
    Prod.Lex.toLex_lt_toLex, OrderDual.toDual_lt_toDual, OrderDual.toDual_inj,
    Option.getD_some, Option.bind_eq_bind, Option.bind_some]
  rcases lt_trichotomy o1.time o2.time with earlier | same | later
  · refine ⟨1, if_pos (by omega), ?_⟩
    simp [earlier, earlier.ne, earlier.not_gt]
  · obtain ⟨less, greater⟩ := compareTo_sign title other
    refine ⟨compareTo title other, ?_, ?_⟩
    · rw [if_neg (by omega), if_neg (by omega)]
    · simp [same, less, greater]
  · refine ⟨-1, ?_, ?_⟩
    · rw [if_neg (by omega), if_pos (by omega)]
    · simp [later, later.ne, later.not_gt]

private theorem not_before_of_far {o1 o2 : NotifData} (isLong : IsLong o1.time)
    (isLong' : IsLong o2.time)
    (far : 2 ^ 63 ≤ o1.time - o2.time) : ¬ Before NotifData.compare o1 o2 := by
  rintro ⟨order, compared, negative⟩
  obtain ⟨range, turns, wrapped⟩ := long_cases (o1.time - o2.time)
  simp only [IsLong, DataSnapshot.int64Min, DataSnapshot.int64Max] at isLong isLong'
  have wrong : long (o1.time - o2.time) < 0 := by omega
  rw [NotifData.compare, if_pos wrong] at compared
  obtain rfl := Option.some.inj compared
  omega

private theorem notifications_newestFirst_iff {data : List NotifData}
    (valid : ∀ item ∈ data, IsLong item.time ∧ item.title.isSome) :
    NewestFirst NotifData.compare NotifData.time data ↔
      ∀ first ∈ data, ∀ second ∈ data, (first.time - second.time).natAbs < 2 ^ 63 := by
  constructor
  · intro newest first here second there
    obtain ⟨isLong, _⟩ := valid first here
    obtain ⟨isLong', _⟩ := valid second there
    by_contra far
    rcases lt_trichotomy first.time second.time with earlier | same | later
    · exact not_before_of_far isLong' isLong (by omega)
        (newest.later second there first here earlier)
    · omega
    · exact not_before_of_far isLong isLong' (by omega)
        (newest.later first here second there later)
  · intro close
    have ranks : ∀ first ∈ data, ∀ second ∈ data,
        Ranks NotifData.compare NotifData.rank first second :=
      fun first here second there => NotifData.compare_ranks (valid first here).2
        (valid second there).2 (close first here second there)
    refine ⟨.of_ranks ranks, fun first here second there later => ?_⟩
    exact (ranks first here second there).before_iff.mpr
      (Prod.Lex.toLex_lt_toLex.mpr (.inl later))

/-- The articles of either adapter are in a consistent newest-first order and shown in it
exactly if 32 bits keep the sign of every difference of their times; notifications are
exactly if 64 bits do. -/
theorem newest_first_iff {collections : ListSort ArticleSlim} (lawful : collections.Lawful)
    (articles newArticles : List ArticleSlim) {data : List NotifData}
    (valid : ∀ item ∈ data, IsLong item.time ∧ item.title.isSome) :
    ((NewestFirst ArticleSlim.compare ArticleSlim.timeUpdated (articles ++ newArticles) ∧
        ShowsNewestFirst (CategoryRecyclerAdapter.addArticles collections newArticles articles)
          (articles ++ newArticles) ∧
        ShowsNewestFirst (FeaturedRecyclerAdapter.addArticles collections newArticles articles)
          (articles ++ newArticles)) ↔
      ∀ first ∈ articles ++ newArticles, ∀ second ∈ articles ++ newArticles,
        NarrowsWell first.timeUpdated second.timeUpdated) ∧
    (NewestFirst NotifData.compare NotifData.time data ↔
      ∀ first ∈ data, ∀ second ∈ data, (first.time - second.time).natAbs < 2 ^ 63) := by
  refine ⟨⟨fun shows => (articles_newestFirst_iff _).mp shows.1, fun narrows => ?_⟩,
    notifications_newestFirst_iff valid⟩
  exact ⟨(articles_newestFirst_iff _).mpr narrows, sortArticles_shows lawful narrows,
    sortArticles_shows lawful narrows⟩

def articleAt (time : Int) : ArticleSlim := ⟨"article", time, "Article", "", .asb⟩

def notificationAt (time : Int) : NotifData := ⟨"note", time, some "Note", none, 0, none, none, false⟩

/-- Recent articles and notifications. -/
theorem recent_newest_first :
    ShowsNewestFirst (CategoryRecyclerAdapter.addArticles .insertion
      [articleAt 1600000000, articleAt 1500000000] [articleAt 1550000000])
      [articleAt 1550000000, articleAt 1600000000, articleAt 1500000000] ∧
    NewestFirst NotifData.compare NotifData.time
      [notificationAt 1600000000, notificationAt 1500000000] := by
  have valid : ∀ item ∈ [notificationAt 1600000000, notificationAt 1500000000],
      IsLong item.time ∧ item.title.isSome := by
    simp [notificationAt, IsLong, DataSnapshot.int64Min, DataSnapshot.int64Max]
  obtain ⟨articles, notifications⟩ := newest_first_iff insertion_lawful [articleAt 1550000000]
    [articleAt 1600000000, articleAt 1500000000] valid
  refine ⟨(articles.mpr ?_).2.1, notifications.mpr ?_⟩
  · simp [articleAt, NarrowsWell]
  · simp [notificationAt]

/-- Three thousand million seconds apart, the earlier article is shown first and comparisons
run in a circle; the last notification of the range counts as earlier than one before 1970. -/
theorem far_times_misordered :
    ¬ ShowsNewestFirst (FeaturedRecyclerAdapter.addArticles .insertion
      [articleAt 0] [articleAt 3000000000]) [articleAt 3000000000, articleAt 0] ∧
    ¬ Consistent ArticleSlim.compare
      [articleAt 0, articleAt 1500000000, articleAt 3000000000] ∧
    ¬ NewestFirst NotifData.compare NotifData.time
      [notificationAt (2 ^ 63 - 1), notificationAt (-1)] := by
  refine ⟨?_, ?_, ?_⟩
  · rintro ⟨shown, returned, _, ordered⟩
    have wrong : FeaturedRecyclerAdapter.addArticles .insertion
        [articleAt 0] [articleAt 3000000000] = some [articleAt 0, articleAt 3000000000] := rfl
    rw [wrong] at returned
    obtain rfl := Option.some.inj returned
    exact absurd ordered (by decide)
  · intro consistent
    have circle := consistent.transitive (articleAt 0) (by simp) (articleAt 1500000000) (by simp)
      (articleAt 3000000000) (by simp) ⟨_, rfl, by decide⟩ ⟨_, rfl, by decide⟩
    obtain ⟨order, compared, positive⟩ := circle
    obtain rfl := Option.some.inj compared
    exact absurd positive (by decide)
  · intro newest
    obtain ⟨order, compared, negative⟩ := newest.later (notificationAt (2 ^ 63 - 1)) (by simp)
      (notificationAt (-1)) (by simp) (by decide)
    obtain rfl : 1 = order := Option.some.inj compared
    exact absurd negative (by decide)

end AhsApp.Android
