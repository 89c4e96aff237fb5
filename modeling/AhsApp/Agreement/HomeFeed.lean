import AhsApp.Android.NewsDecoder
import AhsApp.Ios.FeaturedCarousel
import AhsApp.Ios.HomeDecoder
import Mathlib.Data.Fintype.Basic
import Mathlib.Tactic.FinCases

/-! The home feed as the two applications decode it. One looks the children of an
article up by key and the other scans them; on complete articles both read the same
abstract feed. -/

namespace AhsApp.Agreement

open AhsApp.Firebase AhsApp.Library

/-- An article of the home feed in terms that both applications have. -/
structure HomeArticle where
  id : Option String
  title : Option String
  author : Option String
  time : Option Int
  images : List String
  videos : List String
  category : Option String
  deriving DecidableEq

namespace HomeArticle

def ofArticle (article : Android.Article) : HomeArticle where
  id := some article.id
  title := some article.title
  author := some article.author
  time := some article.timeUpdated
  images := article.imagePaths
  videos := article.videoIDS
  category := some article.type.getName

def ofArticleData (data : Ios.ArticleData) : HomeArticle where
  id := data.articleID
  title := data.articleTitle
  author := data.articleAuthor
  time := data.articleUnixEpoch
  images := data.articleImages.getD []
  videos := data.articleVideoIDs.getD []
  category := data.articleCatagory

end HomeArticle

/-- The article has every field, with the type that both applications expect, except
that it may have no images or videos. -/
structure CompleteArticle (article : DataSnapshot) : Prop where
  author : ∃ text, (article.child "articleAuthor").value = some (.string text)
  title : ∃ text, (article.child "articleTitle").value = some (.string text)
  body : ∃ text, (article.child "articleBody").value = some (.string text)
  time : ∃ time : Int, (article.child "articleUnixEpoch").value = some (.number time) ∧
    DataSnapshot.int64Min ≤ time ∧ time ≤ DataSnapshot.int64Max
  isFeatured : ∃ flag, (article.child "isFeatured").value = some (.bool flag)
  images : (article.child "articleImages").StringChildren
  videos : (article.child "articleVideoIDs").StringChildren

/-- Every article of the three branches is complete. -/
def CompleteFeed (homepage : DataSnapshot) : Prop :=
  ∀ index, ∀ article ∈ (homepage.child (Ios.homepageBranch index)).children,
    CompleteArticle article

/-- `Article.Type.values()[i]`. -/
def newsType (index : Fin 3) : Android.ArticleType := Android.ArticleType.values.get index

/-- The article and whether it is featured, by the children under its keys. -/
def homeArticle (index : Fin 3) (article : DataSnapshot) : HomeArticle × Bool where
  fst := {
    id := some article.key
    title := (article.child "articleTitle").asString
    author := (article.child "articleAuthor").asString
    time := (article.child "articleUnixEpoch").asInt64
    images := (article.child "articleImages").strings
    videos := (article.child "articleVideoIDs").strings
    category := some (newsType index).getName }
  snd := (article.child "isFeatured").castBoolean == some true

/-- A branch of the feed. -/
def homeFeed (homepage : DataSnapshot) (index : Fin 3) : List (HomeArticle × Bool) :=
  (homepage.child (Ios.homepageBranch index)).children.map (homeArticle index)

private theorem newsCategories_eq : Android.newsCategories =
    (List.finRange 3).map fun index => (Ios.homepageBranch index, newsType index) := rfl

private theorem category_eq (index : Fin 3) :
    (if index = 0 then "General Info" else Ios.homepageBranch index) =
      (newsType index).getName := by
  revert index
  decide

/-- A complete article has its fields, the time and the flag among them. -/
theorem CompleteArticle.fields {article : DataSnapshot} (complete : CompleteArticle article) :
    Android.FieldsOrAbsent article where
  author := .inr complete.author
  title := .inr complete.title
  body := .inr complete.body
  images := complete.images
  videos := complete.videos
  time := .inr complete.time
  featured := .inr complete.isFeatured

theorem CompleteArticle.present {article : DataSnapshot} (complete : CompleteArticle article) :
    Android.HasTimeAndFlag article := by
  obtain ⟨time, timeValue, _⟩ := complete.time
  obtain ⟨flag, flagValue⟩ := complete.isFeatured
  exact ⟨by simp [timeValue], by simp [flagValue]⟩

private theorem readNewsArticle_homeArticle (index : Fin 3) {article : DataSnapshot}
    (complete : CompleteArticle article) : ∃ loaded,
      Android.readNewsArticle (newsType index) article = some loaded ∧
      (HomeArticle.ofArticle loaded.1, loaded.2) = homeArticle index article := by
  refine ⟨_, Android.readNewsArticle_of_present _ complete.fields complete.present, ?_⟩
  obtain ⟨author, authorValue⟩ := complete.author
  obtain ⟨title, titleValue⟩ := complete.title
  obtain ⟨time, timeValue, lower, upper⟩ := complete.time
  simp [homeArticle, HomeArticle.ofArticle, Android.articleOf, Android.featuredOf,
    Android.stringOrEmpty, DataSnapshot.asString, DataSnapshot.asInt64, DataSnapshot.castLong,
    authorValue, titleValue, timeValue, lower, upper]

theorem CompleteArticle.stringMedia {article : DataSnapshot} (valid : article.DistinctKeys)
    (complete : CompleteArticle article) : Ios.StringMedia article := by
  rintro content member (images | videos)
  · rw [← DataSnapshot.child_of_mem valid member, images]
    exact complete.images
  · rw [← DataSnapshot.child_of_mem valid member, videos]
    exact complete.videos

private theorem decodeHomepageArticle_homeArticle {index : Fin 3} {article : DataSnapshot}
    (valid : article.DistinctKeys) (complete : CompleteArticle article) {data : Ios.ArticleData}
    (decoded : Ios.decodeHomepageArticle index article = some data) :
    (HomeArticle.ofArticleData data, data.isFeatured) = homeArticle index article := by
  have reads := Ios.readsAs valid decoded
  obtain ⟨flag, flagValue⟩ := complete.isFeatured
  have featured : data.isFeatured = flag := by
    rw [reads.isFeatured, DataSnapshot.find_child (by simp [flagValue])]
    cases flag <;> simp [Ios.flagOf, DataSnapshot.asInt64, flagValue]
  simp only [homeArticle, HomeArticle.ofArticleData, reads.articleID, reads.articleTitle,
    reads.articleAuthor, reads.articleUnixEpoch, reads.articleImages, reads.articleVideoIDs,
    Ios.forceStrings_of_strings complete.images, Ios.forceStrings_of_strings complete.videos,
    Option.getD_some,
    Ios.articleCatagory_of_decode decoded, category_eq, featured, DataSnapshot.castBoolean,
    flagValue]
  cases flag <;> rfl

/-- A loaded article and whether it is featured, for either application. -/
def ofLoaded (loaded : Android.Article × Bool) : HomeArticle × Bool :=
  (HomeArticle.ofArticle loaded.1, loaded.2)

def ofDecoded (data : Ios.ArticleData) : HomeArticle × Bool :=
  (HomeArticle.ofArticleData data, data.isFeatured)

private theorem androidBranch {homepage : DataSnapshot} (complete : CompleteFeed homepage)
    (index : Fin 3) : ∃ branch,
      (homepage.child (Ios.homepageBranch index)).children.mapM
        (Android.readNewsArticle (newsType index)) = some branch ∧
      branch.map ofLoaded = homeFeed homepage index := by
  obtain ⟨branch, loaded⟩ := mapM_returns fun article member =>
    (readNewsArticle_homeArticle index (complete index article member)).imp fun _ => And.left
  refine ⟨branch, loaded, map_of_mapM_mem ?_ loaded⟩
  intro result article member returned
  obtain ⟨expected, read, same⟩ :=
    readNewsArticle_homeArticle index (complete index article member)
  obtain rfl := Option.some.inj (returned.symm.trans read)
  exact same

private theorem iosBranch {homepage : DataSnapshot} (valid : homepage.DistinctKeys)
    (complete : CompleteFeed homepage) (index : Fin 3) : ∃ branch,
      Ios.decodeHomepageBranch index (homepage.child (Ios.homepageBranch index)) = some branch ∧
      branch.map ofDecoded = homeFeed homepage index := by
  have distinct : ∀ article ∈ (homepage.child (Ios.homepageBranch index)).children,
      article.DistinctKeys := fun _ => (valid.child _).of_mem
  obtain ⟨branch, decoded⟩ := Ios.decodeHomepageBranch_returns index fun article member =>
    (complete index article member).stringMedia (distinct article member)
  refine ⟨branch, decoded, map_of_mapM_mem ?_ decoded⟩
  intro data article member returned
  exact decodeHomepageArticle_homeArticle (distinct article member)
    (complete index article member) returned

/-- What the listener of the home page is given on a complete feed. -/
theorem getNewsArticles_homeFeed {homepage : DataSnapshot} (complete : CompleteFeed homepage) :
    ∃ loaded, Android.getNewsArticles homepage = some loaded ∧
      loaded.categoryArticles.map (·.map HomeArticle.ofArticle) =
        (List.finRange 3).map (fun index => (homeFeed homepage index).map Prod.fst) ∧
      loaded.featuredArticles.map HomeArticle.ofArticle =
        (((List.finRange 3).flatMap (homeFeed homepage)).filter (·.2)).map Prod.fst := by
  choose branch loaded same using androidBranch complete
  have categories : (Android.newsCategories.mapM fun category =>
      (homepage.child category.1).children.mapM (Android.readNewsArticle category.2)) =
        some ((List.finRange 3).map branch) := by
    rw [newsCategories_eq]
    simp [List.finRange_succ, loaded]
  have feed : homeFeed homepage = fun index => (branch index).map ofLoaded :=
    funext fun index => (same index).symm
  refine ⟨_, Option.bind_eq_some_iff.mpr ⟨_, categories, rfl⟩, ?_, ?_⟩
  · simp only [feed, List.map_map]
    apply List.map_congr_left
    intro index _
    simp only [Function.comp_apply, List.map_map]
    rfl
  · rw [feed, ← List.map_flatMap, List.filter_map, List.map_map, List.map_map, List.flatMap_def]
    rfl

theorem featuredOn_homeFeed {homepage : DataSnapshot} (valid : homepage.DistinctKeys)
    (complete : CompleteFeed homepage) {server : DataSnapshot}
    (same : server.child "homepage" = homepage) (index : Fin 3) :
    (Ios.homeContent server index).map HomeArticle.ofArticleData =
        (homeFeed homepage index).map Prod.fst ∧
      (Ios.featuredOn server index).map HomeArticle.ofArticleData =
        ((homeFeed homepage index).filter (·.2)).map Prod.fst := by
  obtain ⟨branch, decoded, views⟩ := iosBranch valid complete index
  rw [← same] at decoded
  have content : Ios.serverHomepage server index = some branch := decoded
  rw [Ios.homeContent, Ios.featuredOn, content, ← views, List.filter_map, List.map_map,
    List.map_map]
  exact ⟨rfl, rfl⟩

private theorem completion_step {feeds : Ios.Feeds} {index : Fin 3} {temp : List Ios.ArticleData}
    (decoded : Ios.serverHomepage feeds.server index = some temp)
    (pending : .homepage index ∈ feeds.inFlight) (now : Int) : ∃ next,
      Ios.feedStep feeds (.complete (.homepage index) now) = some next ∧
      next.server = feeds.server ∧
      next.inFlight = feeds.inFlight.erase (.homepage index) ∧
      next.homeArticleList = Function.update feeds.homeArticleList index temp ∧
      next.featuredArticles.Perm (feeds.featuredArticles ++ temp.filter (·.isFeatured)) := by
  refine ⟨Ios.sortFeatured now { feeds with
    inFlight := feeds.inFlight.erase (.homepage index)
    featuredArticles := feeds.featuredArticles ++ temp.filter (·.isFeatured)
    homeArticleList := Function.update feeds.homeArticleList index temp },
    ?_, rfl, rfl, rfl, Ios.sortBy_perm ..⟩
  rw [Ios.feedStep, if_pos pending, Ios.callback, decoded]
  rfl

/-- Callbacks that are all pending store their branches and append what is featured. -/
theorem completions_run {feeds : Ios.Feeds} {order : List (Fin 3 × Int)}
    (decodes : ∀ index, ∃ articles, Ios.serverHomepage feeds.server index = some articles)
    (once : (order.map Prod.fst).Nodup)
    (pending : ∀ index ∈ order.map Prod.fst, .homepage index ∈ feeds.inFlight) : ∃ last,
      Ios.feedRun feeds (order.map fun (index, now) => .complete (.homepage index) now) =
        some last ∧
      (∀ index, last.homeArticleList index =
        if index ∈ order.map Prod.fst then Ios.homeContent feeds.server index
        else feeds.homeArticleList index) ∧
      last.featuredArticles.Perm
        (feeds.featuredArticles ++ order.flatMap fun (index, _) =>
          Ios.featuredOn feeds.server index) := by
  induction order generalizing feeds with
  | nil => exact ⟨feeds, rfl, fun _ => rfl, by simp⟩
  | cons first rest ih =>
    obtain ⟨index, now⟩ := first
    obtain ⟨temp, decoded⟩ := decodes index
    rw [List.map_cons, List.nodup_cons] at once
    obtain ⟨fresh, once⟩ := once
    obtain ⟨next, taken, server, inFlight, stored, appended⟩ :=
      completion_step decoded (pending index List.mem_cons_self) now
    have waiting : ∀ other ∈ rest.map Prod.fst, .homepage other ∈ next.inFlight := by
      intro other member
      have apart : Ios.Fetch.homepage other ≠ .homepage index := by
        rintro ⟨⟩
        exact fresh member
      rw [inFlight]
      exact (List.mem_erase_of_ne apart).mpr (pending other (List.mem_cons_of_mem _ member))
    obtain ⟨last, ran, lists, featured⟩ := ih (server ▸ decodes) once waiting
    have content : Ios.homeContent feeds.server index = temp := by simp [Ios.homeContent, decoded]
    have added : Ios.featuredOn feeds.server index = temp.filter (·.isFeatured) := by
      simp [Ios.featuredOn, decoded]
    refine ⟨last, run_cons_iff.mpr ⟨next, taken, ran⟩, ?_, ?_⟩
    · intro other
      rw [lists other, stored, server]
      by_cases same : other = index
      · subst other
        simp [fresh, content]
      · simp only [List.map_cons, List.mem_cons, same, false_or, Function.update_of_ne same]
    · refine featured.trans ((appended.append_right _).trans ?_)
      simp [added, server]

/-- Both applications decode a complete home feed to the same articles in the same
order, and feature the same articles in whatever order the branches arrive. -/
theorem home_feeds_agree {homepage : DataSnapshot} (valid : homepage.DistinctKeys)
    (complete : CompleteFeed homepage) {feeds : Ios.Feeds}
    (same : feeds.server.child "homepage" = homepage) {order : List (Fin 3 × Int)}
    (permuted : (order.map Prod.fst).Perm (List.finRange 3)) : ∃ loaded last,
      Android.getNewsArticles homepage = some loaded ∧
      Ios.feedRun feeds (.getHomepageData true ::
        order.map fun (index, now) => .complete (.homepage index) now) = some last ∧
      loaded.categoryArticles.map (·.map HomeArticle.ofArticle) =
        (List.finRange 3).map
          (fun index => (last.homeArticleList index).map HomeArticle.ofArticleData) ∧
      (loaded.featuredArticles.map HomeArticle.ofArticle).Perm
        (last.featuredArticles.map HomeArticle.ofArticleData) := by
  obtain ⟨loaded, returned, categories, featured⟩ := getNewsArticles_homeFeed complete
  have feed := featuredOn_homeFeed valid complete same
  have decodes : ∀ index, ∃ articles,
      Ios.serverHomepage (Ios.getHomepageData true feeds).server index = some articles := by
    intro index
    obtain ⟨branch, decoded, _⟩ := iosBranch valid complete index
    rw [← same] at decoded
    exact ⟨branch, decoded⟩
  have pending : ∀ index ∈ order.map Prod.fst,
      .homepage index ∈ (Ios.getHomepageData true feeds).inFlight := by
    intro index _
    simp [Ios.getHomepageData]
  obtain ⟨last, ran, lists, carousel⟩ := completions_run decodes
    (permuted.nodup_iff.mpr (List.nodup_finRange 3)) pending
  refine ⟨loaded, last, returned, run_cons_iff.mpr ⟨_, rfl, ran⟩, ?_, ?_⟩
  · rw [categories]
    apply List.map_congr_left
    intro index member
    rw [lists index, if_pos (permuted.mem_iff.mpr member)]
    exact (feed index).1.symm
  · rw [featured]
    have arrived : (last.featuredArticles.map HomeArticle.ofArticleData).Perm
        ((order.flatMap fun (index, _) => Ios.featuredOn feeds.server index).map
          HomeArticle.ofArticleData) := carousel.map _
    refine .trans ?_ arrived.symm
    have views : ((order.flatMap fun (index, _) => Ios.featuredOn feeds.server index).map
        HomeArticle.ofArticleData) = (order.map Prod.fst).flatMap fun index =>
          ((homeFeed homepage index).filter (·.2)).map Prod.fst := by
      rw [List.map_flatMap, List.flatMap_map]
      congr 1
      funext entry
      exact (feed entry.1).2
    rw [views, List.filter_flatMap, List.map_flatMap]
    exact (permuted.symm).flatMap_right _

/-- A complete article with an image and without videos. -/
def picturedArticle (key : String) (isFeatured : Bool) : DataSnapshot :=
  .node key [.leaf "articleAuthor" (.string "Staff"), .leaf "articleBody" (.string ""),
    .node "articleImages" [.leaf "0" (.string "first.png")],
    .leaf "articleTitle" (.string "News"), .leaf "articleUnixEpoch" (.number 1600000000),
    .leaf "isFeatured" (.bool isFeatured)]

def picturedHomepage : DataSnapshot :=
  .node "homepage" [.node "ASB" [picturedArticle "club" true],
    .node "General_Info" [picturedArticle "game" true, picturedArticle "essay" false]]

private theorem picturedArticle_complete (key : String) (isFeatured : Bool) :
    CompleteArticle (picturedArticle key isFeatured) where
  author := ⟨_, rfl⟩
  title := ⟨_, rfl⟩
  body := ⟨_, rfl⟩
  time := ⟨1600000000, rfl, by decide, by decide⟩
  isFeatured := ⟨_, rfl⟩
  images := fun child member => ⟨"first.png", by obtain rfl := List.mem_singleton.mp member; rfl⟩
  videos := fun child member => by cases member

private theorem picturedArticle_distinct (key : String) (isFeatured : Bool) :
    (picturedArticle key isFeatured).DistinctKeys := by
  refine .node (by simp [DataSnapshot.key]) ?_
  simp only [List.forall_mem_cons]
  refine ⟨.leaf .., .leaf .., .node (by decide) ?_, .leaf .., .leaf .., .leaf .., by simp⟩
  simp only [List.forall_mem_cons]
  exact ⟨.leaf .., by simp⟩

theorem home_feeds_agree_pictured : ∃ loaded last,
    Android.getNewsArticles picturedHomepage = some loaded ∧
    Ios.feedRun (Ios.Feeds.launch (.node "" [picturedHomepage]) none) (.getHomepageData true ::
      [((2 : Fin 3), (0 : Int)), (0, 5), (1, 9)].map fun (index, now) =>
        .complete (.homepage index) now) = some last ∧
    loaded.categoryArticles.map (·.map HomeArticle.ofArticle) =
      (List.finRange 3).map
        (fun index => (last.homeArticleList index).map HomeArticle.ofArticleData) ∧
    (loaded.featuredArticles.map HomeArticle.ofArticle).Perm
      (last.featuredArticles.map HomeArticle.ofArticleData) := by
  have permuted : ([((2 : Fin 3), (0 : Int)), (0, 5), (1, 9)].map Prod.fst).Perm
      (List.finRange 3) := by decide
  have same : (Ios.Feeds.launch (.node "" [picturedHomepage]) none).server.child "homepage" =
      picturedHomepage := rfl
  refine home_feeds_agree ?_ ?_ same permuted
  · refine .node (by decide) ?_
    simp only [List.forall_mem_cons]
    refine ⟨.node (by decide) ?_, .node (by decide) ?_, by simp⟩
    · simp [picturedArticle_distinct]
    · simp [picturedArticle_distinct]
  · intro index article member
    have listed : article ∈ [picturedArticle "club" true, picturedArticle "game" true,
        picturedArticle "essay" false] := by
      fin_cases index
      · exact List.mem_cons_of_mem _ member
      · cases member
      · exact List.mem_cons.mpr (.inl (List.mem_singleton.mp member))
    simp only [List.mem_cons, List.not_mem_nil, or_false] at listed
    rcases listed with rfl | rfl | rfl <;> exact picturedArticle_complete ..

end AhsApp.Agreement
