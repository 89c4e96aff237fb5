import AhsApp.Android.FirebaseHandler
import AhsApp.Android.SavedList
import AhsApp.Library.OptionList

/-! What the saved screen shows of the articles that it was given: a view for every
position, created by the kind of its item and filled from the item. An exception while
a view is created or filled gives `none`. -/

namespace AhsApp.Android

open AhsApp.Firebase AhsApp.Library

inductive SavedViewHolder where
  | article
  | bulletinArticle
  | noArticles

/-- The details of a view; the summary is shown as HTML, the time as a date. -/
inductive SavedDetails where
  | article (timeUpdated : Int) (titleText summaryText typeText image : String)
  | bulletinArticle (titleText bodyText : String) (time : Int) (typeText : String)
  | none
  deriving DecidableEq

namespace SavedRecyclerAdapter

def emptyPlaceholder : Int := 10

/-- The placeholder stands for an empty list. -/
def getItemCount (articles : List (Option ArticleOrBulletinHolder)) : Nat :=
  if articles.length > 0 then articles.length else 1

def getItemViewType (articles : List (Option ArticleOrBulletinHolder)) (position : Nat) :
    Option Int :=
  if articles.length = 0 then some emptyPlaceholder
  else do
    let holder ← articles[position]?.join
    match holder with
    | .article _ => some HolderOption.article.num
    | .bulletinArticle _ => some HolderOption.bulletinArticle.num

def onCreateViewHolder (viewType : Int) : Option SavedViewHolder :=
  if viewType = HolderOption.article.num then some .article
  else if viewType = HolderOption.bulletinArticle.num then some .bulletinArticle
  else if viewType = emptyPlaceholder then some .noArticles
  else none

/-- The first image is taken without a look at how many there are. -/
def setArticleDetails (article : Article) : Option SavedDetails := do
  let image ← article.imagePaths[0]?
  some (.article article.timeUpdated article.title article.story article.type.getName image)

def setBulletinDetails (data : BulletinArticle) : SavedDetails :=
  .bulletinArticle data.title data.body data.time data.type.getName

/-- The view is cast to the class that the kind of the item asks for. -/
def onBindViewHolder (articles : List (Option ArticleOrBulletinHolder)) (holder : SavedViewHolder)
    (position : Nat) : Option SavedDetails := do
  let viewType ← getItemViewType articles position
  if viewType = HolderOption.article.num then
    match holder, articles[position]?.join with
    | .article, some (.article news) => setArticleDetails news
    | _, _ => none
  else if viewType = HolderOption.bulletinArticle.num then
    match holder, articles[position]?.join with
    | .bulletinArticle, some (.bulletinArticle data) => some (setBulletinDetails data)
    | _, _ => none
  else some .none

def showPosition (articles : List (Option ArticleOrBulletinHolder)) (position : Nat) :
    Option SavedDetails := do
  let viewType ← getItemViewType articles position
  let holder ← onCreateViewHolder viewType
  onBindViewHolder articles holder position

def showAll (articles : List (Option ArticleOrBulletinHolder)) : Option (List SavedDetails) :=
  (List.range (getItemCount articles)).mapM (showPosition articles)

end SavedRecyclerAdapter

/-- The screen loads the table and shows every position. -/
def showSaved (json : JsonCodec) (table : Table SavedRow) : Option (List SavedDetails) := do
  let articles ← SavedDatabase.getAllArticlesFromNewestWithCallBack json table
  SavedRecyclerAdapter.showAll articles

/-- What a view shows of an item. -/
def ArticleOrBulletinHolder.details : ArticleOrBulletinHolder → Option SavedDetails
  | .article news => SavedRecyclerAdapter.setArticleDetails news
  | .bulletinArticle data => some (SavedRecyclerAdapter.setBulletinDetails data)

theorem SavedRecyclerAdapter.showPosition_eq {articles : List (Option ArticleOrBulletinHolder)}
    {position : Nat} {holder : ArticleOrBulletinHolder}
    (found : articles[position]? = some (some holder)) :
    showPosition articles position = holder.details := by
  have nonempty : articles.length ≠ 0 := by
    obtain ⟨bound, _⟩ := List.getElem?_eq_some_iff.mp found
    omega
  cases holder with
  | article news =>
    have viewType : getItemViewType articles position = some HolderOption.article.num := by
      rw [getItemViewType, if_neg nonempty, found]
      rfl
    simp only [showPosition, viewType, Option.bind_eq_bind, Option.bind_some, onCreateViewHolder,
      if_true, onBindViewHolder, found, Option.join_some]
    rfl
  | bulletinArticle data =>
    have viewType : getItemViewType articles position = some HolderOption.bulletinArticle.num := by
      rw [getItemViewType, if_neg nonempty, found]
      rfl
    have apart : ¬ HolderOption.bulletinArticle.num = HolderOption.article.num := by decide
    simp only [showPosition, viewType, Option.bind_eq_bind, Option.bind_some, onCreateViewHolder,
      apart, if_true, if_false, onBindViewHolder, found, Option.join_some]
    rfl

theorem SavedRecyclerAdapter.showAll_returns_iff (holders : List ArticleOrBulletinHolder) :
    (∃ shown, showAll (holders.map some) = some shown) ↔
      ∀ holder ∈ holders, ∃ details, holder.details = some details := by
  cases holders with
  | nil => simp [showAll, getItemCount, showPosition, getItemViewType, onCreateViewHolder,
      onBindViewHolder, emptyPlaceholder, HolderOption.num]
  | cons head rest =>
    generalize listed : head :: rest = holders
    have count : getItemCount (holders.map some) = holders.length := by
      simp [getItemCount, ← listed]
    have shownAt : ∀ {position : Nat} {holder : ArticleOrBulletinHolder},
        holders[position]? = some holder →
        showPosition (holders.map some) position = holder.details := by
      intro position holder found
      exact showPosition_eq (by simp [List.getElem?_map, found])
    rw [showAll, count]
    constructor
    · rintro ⟨shown, mapped⟩ holder member
      obtain ⟨position, found⟩ := List.mem_iff_getElem?.mp member
      obtain ⟨bound, _⟩ := List.getElem?_eq_some_iff.mp found
      obtain ⟨details, _, returned⟩ := returned_of_mapM mapped (List.mem_range.mpr bound)
      exact ⟨details, (shownAt found).symm.trans returned⟩
    · intro all
      refine mapM_returns ?_
      intro position bound
      have inside : position < holders.length := List.mem_range.mp bound
      obtain ⟨details, returned⟩ := all holders[position] (List.getElem_mem inside)
      exact ⟨details, (shownAt (List.getElem?_eq_getElem inside)).trans returned⟩

private theorem details_returns_iff (holder : ArticleOrBulletinHolder) :
    (∃ details, holder.details = some details) ↔
      ∀ news, holder = .article news → news.imagePaths ≠ [] := by
  cases holder with
  | article news =>
    cases paths : news.imagePaths with
    | nil =>
      simp [ArticleOrBulletinHolder.details, SavedRecyclerAdapter.setArticleDetails, paths]
    | cons image rest =>
      simp [ArticleOrBulletinHolder.details, SavedRecyclerAdapter.setArticleDetails, paths]
  | bulletinArticle data => simp [ArticleOrBulletinHolder.details]

/-- The articles saved are among the given ones, the deleted IDs are plain. -/
def SavesFrom (articles : List Article) : SavedOperation → Prop
  | .add saved => saved ⊆ articles
  | .addBulletin _ => True
  | .deleteByID id => PlainText id

/-- The article was decoded from a node with an image path. -/
def DecodedWithImage (snapshot : DataSnapshot) (article : Article) : Prop :=
  ∃ category ∈ newsCategories, ∃ child ∈ (snapshot.child category.1).children, ∃ isFeatured,
    readNewsArticle category.2 child = some (article, isFeatured) ∧
    ∃ image ∈ (child.child "articleImages").children, ∃ path, image.getString = some (some path)

private theorem stringList_ne_nil_iff {snapshot : DataSnapshot} {paths : List String}
    (read : stringList snapshot = some paths) :
    paths ≠ [] ↔ ∃ child ∈ snapshot.children, ∃ path, child.getString = some (some path) := by
  obtain ⟨values, mapped, result⟩ := Option.bind_eq_some_iff.mp read
  obtain rfl := Option.some.inj result
  constructor
  · intro nonempty
    obtain ⟨path, member⟩ := List.exists_mem_of_ne_nil _ nonempty
    obtain ⟨value, listed, present⟩ := List.mem_filterMap.mp member
    obtain ⟨child, inside, returned⟩ := (mem_of_mapM mapped).mp listed
    exact ⟨child, inside, path, by rw [returned]; exact congrArg some present⟩
  · rintro ⟨child, inside, path, returned⟩
    have listed : some path ∈ values := (mem_of_mapM mapped).mpr ⟨child, inside, returned⟩
    exact List.ne_nil_of_mem (List.mem_filterMap.mpr ⟨some path, listed, rfl⟩)

private theorem readNewsArticle_imagePaths {type : ArticleType} {child : DataSnapshot}
    {article : Article}
    {isFeatured : Bool} (read : readNewsArticle type child = some (article, isFeatured)) :
    stringList (child.child "articleImages") = some article.imagePaths := by
  simp only [readNewsArticle, Option.bind_eq_bind, Option.bind_eq_some_iff] at read
  obtain ⟨_, _, _, _, _, _, paths, images, _, _, _, _, _, _, built⟩ := read
  obtain ⟨rfl, _⟩ := Prod.mk.inj (Option.some.inj built)
  exact images

private theorem decodedWithImage_iff {snapshot : DataSnapshot} {news : NewsArticles}
    (loaded : getNewsArticles snapshot = some news) {article : Article}
    (decoded : article ∈ news.allArticles) :
    DecodedWithImage snapshot article ↔ article.imagePaths ≠ [] := by
  constructor
  · rintro ⟨category, _, child, _, isFeatured, read, image⟩
    exact (stringList_ne_nil_iff (readNewsArticle_imagePaths read)).mpr image
  · intro nonempty
    obtain ⟨lists, mapped, result⟩ := Option.bind_eq_some_iff.mp loaded
    obtain rfl := Option.some.inj result
    obtain ⟨⟨_, isFeatured⟩, member, rfl⟩ := List.mem_map.mp decoded
    obtain ⟨list, listed, member⟩ := List.mem_flatten.mp member
    obtain ⟨category, known, readAll⟩ := (mem_of_mapM mapped).mp listed
    obtain ⟨child, inside, read⟩ := (mem_of_mapM readAll).mp member
    exact ⟨category, known, child, inside, isFeatured, read,
      (stringList_ne_nil_iff (readNewsArticle_imagePaths read)).mp nonempty⟩

private theorem mem_of_savedList {articles : List Article} {operations : List SavedOperation}
    (saves : ∀ operation ∈ operations, SavesFrom articles operation)
    {saved : List ArticleOrBulletinHolder}
    (before : ∀ news, .article news ∈ saved → news ∈ articles) {news : Article}
    (member : .article news ∈ operations.foldl savedListStep saved) : news ∈ articles := by
  induction operations generalizing saved with
  | nil => exact before news member
  | cons operation rest ih =>
    refine ih (fun other later => saves other (List.mem_cons_of_mem operation later)) ?_ member
    intro news member
    have here := saves operation List.mem_cons_self
    cases operation with
    | add added =>
      rcases List.mem_append.mp member with member | member
      · exact before news member
      · obtain ⟨other, inside, same⟩ := List.mem_map.mp member
        obtain rfl := ArticleOrBulletinHolder.article.inj same
        exact here inside
    | addBulletin added =>
      rcases List.mem_append.mp member with member | member
      · exact before news member
      · simp at member
    | deleteByID id => exact before news (List.mem_of_mem_filter member)

/-- Whatever decoded articles and bulletin articles are saved, the screen can show them all
exactly when each article was decoded from a node with an image path. -/
theorem saved_screen_shows_iff {json : JsonCodec} (roundTrips : json.RoundTrips)
    {snapshot : DataSnapshot} {news : NewsArticles}
    (loaded : getNewsArticles snapshot = some news) {operations : List SavedOperation}
    (saves : ∀ operation ∈ operations, SavesFrom news.allArticles operation)
    {table : Table SavedRow}
    (ran : run (savedStep json) (Table.idle []) operations = some table) :
    (∃ shown, showSaved json table = some shown) ↔
      ∀ article, .article article ∈ savedList operations → DecodedWithImage snapshot article := by
  have plain : ∀ operation ∈ operations, DeletesPlain operation := by
    intro operation member
    have here := saves operation member
    cases operation with
    | add added => trivial
    | addBulletin added => trivial
    | deleteByID id => exact here
  have empty : Represents json (Table.idle []) [] := ⟨rfl, by simp⟩
  obtain ⟨last, ran', represented⟩ := represents_run plain empty
  obtain rfl : table = last := Option.some.inj (ran.symm.trans ran')
  rw [showSaved, represented.newest roundTrips, Option.bind_eq_bind, Option.bind_some,
    SavedRecyclerAdapter.showAll_returns_iff, ← savedList]
  constructor
  · intro all article member
    have decoded : article ∈ news.allArticles := mem_of_savedList saves (by simp) member
    have images := (details_returns_iff _).mp (all _ (List.mem_reverse.mpr member)) article rfl
    exact (decodedWithImage_iff loaded decoded).mpr images
  · intro all holder member
    refine (details_returns_iff holder).mpr ?_
    rintro article rfl
    have saved := List.mem_reverse.mp member
    exact (decodedWithImage_iff loaded (mem_of_savedList saves (by simp) saved)).mp
      (all article saved)

/-- A homepage with one article, which has the given image paths. -/
def homepageWith (images : List DataSnapshot) : DataSnapshot :=
  .node "homepage" [.node "ASB" [.node "a" [.leaf "articleTitle" (.string "Title"),
    .leaf "articleUnixEpoch" (.number 0), .leaf "isFeatured" (.bool false),
    .node "articleImages" images]]]

/-- The article of that homepage. -/
def homepageArticle (imagePaths : List String) : Article :=
  ⟨"a", 0, "Title", "", "", imagePaths, [], .asb⟩

theorem article_with_image_shown : ∃ table,
    run (savedStep oneArrayCodec) (Table.idle []) [.add [homepageArticle ["path"]]] = some table ∧
    ∃ shown, showSaved oneArrayCodec table = some shown := by
  have loaded : getNewsArticles (homepageWith [.leaf "0" (.string "path")]) =
      some ⟨[[], [], [homepageArticle ["path"]]], [], [homepageArticle ["path"]]⟩ := rfl
  have saves : ∀ operation ∈ [SavedOperation.add [homepageArticle ["path"]]],
      SavesFrom [homepageArticle ["path"]] operation := by
    simp [SavesFrom]
  refine ⟨_, rfl, (saved_screen_shows_iff oneArrayCodec_roundTrips loaded saves rfl).mpr ?_⟩
  · intro article member
    obtain rfl : article = homepageArticle ["path"] := by
      simpa [savedList, savedListStep] using member
    exact (decodedWithImage_iff loaded (by simp)).mpr (by simp [homepageArticle])

/-- An article without images that can be decoded and saved makes the screen throw. -/
theorem article_without_image_throws : ∃ news table,
    getNewsArticles (homepageWith []) = some news ∧ homepageArticle [] ∈ news.allArticles ∧
    run (savedStep oneArrayCodec) (Table.idle []) [.add [homepageArticle []]] = some table ∧
    showSaved oneArrayCodec table = none := by
  refine ⟨_, _, rfl, ?_, rfl, ?_⟩
  · decide
  · decide

end AhsApp.Android
