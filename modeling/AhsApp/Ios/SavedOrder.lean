import AhsApp.Ios.SavedArticles
import AhsApp.Ios.TimeOrder

/-! What the page of the saved articles shows of the order in which the dictionary happens
to be enumerated. -/

namespace AhsApp.Ios

open AhsApp.Firebase AhsApp.Library

universe u

variable {Data : Type u}

/-- A missing time is the last one. -/
def savedTime (article : ArticleData) : Int :=
  article.articleUnixEpoch.getD DataSnapshot.int64Max

/-- The first of two articles may come first: nothing past comes before the future, and each
starts with what is nearest. -/
def InTimeOrder (currTime : Int) (a b : ArticleData) : Prop :=
  if currTime < savedTime a then currTime < savedTime b → savedTime a ≤ savedTime b
  else savedTime b ≤ savedTime a

/-- The articles on the page. -/
def savedPage (codec : ArticleCodec Data) (enumerate : Enumeration) (currTime : Int)
    (state : SavedArticles Data) : List ArticleData :=
  (getSavedArticles codec enumerate currTime state).2

/-- The saved articles in the order of the enumeration. -/
def enumerated (codec : ArticleCodec Data) (enumerate : Enumeration)
    (state : SavedArticles Data) : List ArticleData :=
  (enumerate (getArticleDictionary codec state).memory).map (·.2)

/-- No two saved articles share a time. -/
def DistinctTimes (codec : ArticleCodec Data) (state : SavedArticles Data) : Prop :=
  ∀ articleID articleID' article article',
    (getArticleDictionary codec state).memory.lookup articleID = some article →
    (getArticleDictionary codec state).memory.lookup articleID' = some article' →
    savedTime article = savedTime article' → articleID = articleID'

private theorem sortArticlesByTime_eq (currTime : Int) (a b : ArticleData) :
    sortArticlesByTime currTime a b =
      if savedTime a > currTime ∧ savedTime b > currTime then decide (savedTime a < savedTime b)
      else decide (savedTime a > savedTime b) := rfl

private theorem inTimeOrder_iff {currTime : Int} {a b : ArticleData} :
    InTimeOrder currTime a b ↔ sortArticlesByTime currTime b a = false := by
  rw [InTimeOrder, sortArticlesByTime_eq]
  by_cases future : currTime < savedTime a <;> by_cases future' : currTime < savedTime b
  all_goals simp [future, future']
  all_goals omega

private theorem sortsBy_article (currTime : Int) :
    SortsBy (fun a b => sortArticlesByTime currTime b a = false)
      fun article => timeRank currTime article.articleUnixEpoch :=
  sortsBy_timeRank currTime ArticleData.articleUnixEpoch

private theorem savedTime_alike (currTime : Int) (a b : ArticleData) :
    timeRank currTime a.articleUnixEpoch = timeRank currTime b.articleUnixEpoch ↔
      savedTime a = savedTime b := timeRank_inj

variable {codec : ArticleCodec Data} {enumerate enumerate' : Enumeration}

theorem savedPage_ordered (currTime : Int) (state : SavedArticles Data) :
    (savedPage codec enumerate currTime state).Pairwise (InTimeOrder currTime) :=
  ((sortsBy_article currTime).sorted _).imp inTimeOrder_iff.mpr

private theorem enumerated_perm (lawful : enumerate.Lawful) (lawful' : enumerate'.Lawful)
    (state : SavedArticles Data) :
    (enumerated codec enumerate state).Perm (enumerated codec enumerate' state) := by
  refine List.Perm.map _ (Multiset.coe_eq_coe.mp ?_)
  rw [lawful, lawful']

private theorem savedPage_times (lawful : enumerate.Lawful) (lawful' : enumerate'.Lawful)
    (currTime : Int)
    (state : SavedArticles Data) :
    (savedPage codec enumerate currTime state).map savedTime =
      (savedPage codec enumerate' currTime state).map savedTime := by
  have sorts := sortsBy_article currTime
  have perm : (savedPage codec enumerate currTime state).Perm
      (savedPage codec enumerate' currTime state) :=
    (sortBy_perm _ _).trans ((enumerated_perm lawful lawful' state).trans (sortBy_perm _ _).symm)
  have ranks := sorts.map_eq_of_perm (sorts.sorted _) (sorts.sorted _) perm
  rw [← List.forall₂_eq_eq_eq, List.forall₂_map_left_iff, List.forall₂_map_right_iff] at ranks ⊢
  exact ranks.imp fun a b same => (savedTime_alike currTime a b).mp same

private theorem savedPage_eq_iff (currTime : Int) (state : SavedArticles Data) :
    savedPage codec enumerate currTime state = savedPage codec enumerate' currTime state ↔
      ∀ time, (enumerated codec enumerate state).filter (savedTime · = time) =
        (enumerated codec enumerate' state).filter (savedTime · = time) := by
  refine (sortsBy_article currTime).insertionSort_eq_iff.trans ⟨?_, ?_⟩
  · exact filter_eq_of_alike fun a b => (savedTime_alike currTime a b).symm
  · exact filter_eq_of_alike (savedTime_alike currTime)

private theorem enumerated_times_nodup (lawful : enumerate.Lawful) {state : SavedArticles Data}
    (distinct : DistinctTimes codec state) :
    ((enumerated codec enumerate state).map savedTime).Nodup := by
  have keys := Multiset.nodup_keys.mpr (getArticleDictionary codec state).memory.nodupKeys
  rw [Multiset.keys, ← lawful, Multiset.map_coe, Multiset.coe_nodup] at keys
  rw [enumerated, List.map_map]
  refine keys.of_map.map_on fun entry here other there same => ?_
  have found := (mem_enumeration lawful _ entry.1 entry.2).mp here
  have found' := (mem_enumeration lawful _ other.1 other.2).mp there
  have key := distinct _ _ _ _ found found' same
  exact List.inj_on_of_nodup_map keys here there key

private theorem savedPage_eq_of_distinct (lawful : enumerate.Lawful) (lawful' : enumerate'.Lawful)
    (currTime : Int) {state : SavedArticles Data} (distinct : DistinctTimes codec state) :
    savedPage codec enumerate currTime state = savedPage codec enumerate' currTime state := by
  refine (sortsBy_article currTime).insertionSort_eq_of_nodup
    (enumerated_perm lawful lawful' state) ?_
  have times := enumerated_times_nodup lawful distinct
  refine times.of_map.map_on fun a here b there same => ?_
  exact List.inj_on_of_nodup_map times here there ((savedTime_alike currTime a b).mp same)

/-- Whatever the order of the enumeration, the page is ordered by time and shows the same
times; it shows the same articles exactly if those of each single time are enumerated in
the same order, so always when no two articles share a time. -/
theorem saved_order_iff (lawful : enumerate.Lawful) (lawful' : enumerate'.Lawful) (currTime : Int)
    (state : SavedArticles Data) :
    (savedPage codec enumerate currTime state).Pairwise (InTimeOrder currTime) ∧
    (savedPage codec enumerate' currTime state).Pairwise (InTimeOrder currTime) ∧
    (savedPage codec enumerate currTime state).map savedTime =
      (savedPage codec enumerate' currTime state).map savedTime ∧
    (savedPage codec enumerate currTime state = savedPage codec enumerate' currTime state ↔
      ∀ time, (enumerated codec enumerate state).filter (savedTime · = time) =
        (enumerated codec enumerate' state).filter (savedTime · = time)) ∧
    (DistinctTimes codec state →
      savedPage codec enumerate currTime state = savedPage codec enumerate' currTime state) :=
  ⟨savedPage_ordered currTime state, savedPage_ordered currTime state,
    savedPage_times lawful lawful' currTime state, savedPage_eq_iff currTime state,
    savedPage_eq_of_distinct lawful lawful' currTime⟩

/-- An enumeration that lists one dictionary in a given order. -/
def enumerateAs (entries : List (Sigma fun _ : String => ArticleData)) : Enumeration :=
  fun dictionary =>
    if (entries : Multiset _) = dictionary.entries then entries else enumerateByKey dictionary

private theorem enumerateAs_lawful (entries : List (Sigma fun _ : String => ArticleData)) :
    (enumerateAs entries).Lawful := by
  intro dictionary
  rw [enumerateAs]
  split
  · assumption
  · exact enumerateByKey_lawful dictionary

def savedArticle (articleID : String) (time : Option Int) : ArticleData where
  articleID := some articleID
  articleUnixEpoch := time

/-- Two articles were saved. -/
def savedTwo (game essay : Option Int) :
    SavedArticles (Dictionary String (List (String × JsonValue))) :=
  saveCurrArticle articleCodec "essay" (savedArticle "essay" essay)
    (saveCurrArticle articleCodec "game" (savedArticle "game" game) ⟨∅, none⟩)

def twoEntries (game essay : Option Int) : List (Sigma fun _ : String => ArticleData) :=
  [⟨"essay", savedArticle "essay" essay⟩, ⟨"game", savedArticle "game" game⟩]

private theorem savedTwo_entries (game essay : Option Int) :
    (getArticleDictionary articleCodec (savedTwo game essay)).memory.entries =
      twoEntries game essay := by
  have synced : (savedTwo game essay).Synced articleCodec := .save articleCodec_roundTrips
  have loaded : getArticleDictionary articleCodec (savedTwo game essay) = savedTwo game essay :=
    synced.load
  rw [loaded]
  rfl

private theorem enumerated_savedTwo {game essay : Option Int}
    {entries : List (Sigma fun _ : String => ArticleData)}
    (perm : entries.Perm (twoEntries game essay)) :
    enumerated articleCodec (enumerateAs entries) (savedTwo game essay) = entries.map (·.2) := by
  rw [enumerated, enumerateAs, if_pos ((Multiset.coe_eq_coe.mpr perm).trans
    (savedTwo_entries game essay).symm)]

/-- A missing time is not shared with a time in the past. -/
theorem savedTwo_distinct : DistinctTimes articleCodec (savedTwo (some 1) none) := by
  intro articleID articleID' article article' found found' same
  rw [Finmap.lookup_eq_some_iff, savedTwo_entries, Multiset.mem_coe] at found found'
  simp only [twoEntries, List.mem_cons, Sigma.mk.injEq, heq_eq_eq, List.not_mem_nil,
    or_false] at found found'
  rcases found with ⟨rfl, rfl⟩ | ⟨rfl, rfl⟩ <;> rcases found' with ⟨rfl, rfl⟩ | ⟨rfl, rfl⟩
  · rfl
  · exact absurd same (by decide)
  · exact absurd same (by decide)
  · rfl

theorem distinct_times_same_page :
    savedPage articleCodec enumerateByKey 0 (savedTwo (some 1) none) =
      savedPage articleCodec (enumerateAs (twoEntries (some 1) none)) 0
        (savedTwo (some 1) none) :=
  (saved_order_iff enumerateByKey_lawful (enumerateAs_lawful _) 0 _).2.2.2.2 savedTwo_distinct

/-- Two articles of one time stand on the page in the order of the enumeration. -/
theorem same_time_reordered :
    (enumerateAs (twoEntries (some 1) (some 1))).Lawful ∧
    (enumerateAs (twoEntries (some 1) (some 1)).reverse).Lawful ∧
    savedPage articleCodec (enumerateAs (twoEntries (some 1) (some 1))) 0
        (savedTwo (some 1) (some 1)) ≠
      savedPage articleCodec (enumerateAs (twoEntries (some 1) (some 1)).reverse) 0
        (savedTwo (some 1) (some 1)) := by
  refine ⟨enumerateAs_lawful _, enumerateAs_lawful _, fun same => ?_⟩
  have reordered := (savedPage_eq_iff 0 (savedTwo (some 1) (some 1))).mp same 1
  rw [enumerated_savedTwo (.refl _), enumerated_savedTwo (List.reverse_perm _)] at reordered
  revert reordered
  decide

end AhsApp.Ios
