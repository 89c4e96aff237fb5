import AhsApp.Ios.Decode
import AhsApp.Library.KeyedFold
import AhsApp.Library.OptionList
import Mathlib.Tactic.SplitIfs

/-! What the home decoder of the iOS application makes of one article. The chain of
comparisons sets one field a child, so under distinct keys every field is what its
own child reads as. -/

namespace AhsApp.Ios

open AhsApp.Firebase AhsApp.Library

/-- Every child of the article that holds images or videos holds strings. -/
def StringMedia (article : DataSnapshot) : Prop :=
  ∀ content ∈ article.children,
    content.key = "articleImages" ∨ content.key = "articleVideoIDs" → content.StringChildren

theorem forceStrings_of_strings {snapshot : DataSnapshot} (strings : snapshot.StringChildren) :
    forceStrings snapshot = some snapshot.strings := by
  apply mapM_eq_filterMap
  intro child member
  obtain ⟨text, value⟩ := strings child member
  exact ⟨text, by simp [DataSnapshot.asString, value]⟩

private theorem readHomepageContent_eq {state next : ArticleData} {content : DataSnapshot}
    (taken : readHomepageContent state content = some next) :
    next = { state with
      articleAuthor :=
        if content.key = "articleAuthor" then content.asString else state.articleAuthor
      articleBody := if content.key = "articleBody" then content.asString else state.articleBody
      articleUnixEpoch :=
        if content.key = "articleUnixEpoch" then content.asInt64 else state.articleUnixEpoch
      articleImages :=
        if content.key = "articleImages" then forceStrings content else state.articleImages
      articleVideoIDs :=
        if content.key = "articleVideoIDs" then forceStrings content else state.articleVideoIDs
      articleTitle :=
        if content.key = "articleTitle" then content.asString else state.articleTitle
      isFeatured := if content.key = "isFeatured" then flagOf content else state.isFeatured
      hasHTML := if content.key = "hasHTML" then flagOf content else state.hasHTML } := by
  unfold readHomepageContent at taken
  split_ifs at taken with author body time images videos title featured html
  · obtain rfl := Option.some.inj taken
    simp [author]
  · obtain rfl := Option.some.inj taken
    simp [body]
  · obtain rfl := Option.some.inj taken
    simp [time]
  · obtain ⟨texts, forced, same⟩ := Option.bind_eq_some_iff.mp taken
    obtain rfl := Option.some.inj same
    simp [images, forced]
  · obtain ⟨texts, forced, same⟩ := Option.bind_eq_some_iff.mp taken
    obtain rfl := Option.some.inj same
    simp [videos, forced]
  · obtain rfl := Option.some.inj taken
    simp [title]
  · obtain rfl := Option.some.inj taken
    simp [featured]
  · obtain rfl := Option.some.inj taken
    simp [html]
  · obtain rfl := Option.some.inj taken
    simp [author, body, time, images, videos, title, featured, html]

private theorem readHomepageContent_returns (state : ArticleData) {content : DataSnapshot}
    (strings : content.key = "articleImages" ∨ content.key = "articleVideoIDs" →
      content.StringChildren) : ∃ next, readHomepageContent state content = some next := by
  unfold readHomepageContent
  split_ifs with author body time images videos title featured html
  · exact ⟨_, rfl⟩
  · exact ⟨_, rfl⟩
  · exact ⟨_, rfl⟩
  · exact ⟨_, by rw [forceStrings_of_strings (strings (.inl images))]; rfl⟩
  · exact ⟨_, by rw [forceStrings_of_strings (strings (.inr videos))]; rfl⟩
  · exact ⟨_, rfl⟩
  · exact ⟨_, rfl⟩
  · exact ⟨_, rfl⟩
  · exact ⟨_, rfl⟩

private theorem decodeHomepageArticle_cases {index : Fin 3} {article : DataSnapshot}
    {data : ArticleData}
    (decoded : decodeHomepageArticle index article = some data) : ∃ singleArticle,
      article.children.foldlM readHomepageContent { articleID := some article.key } =
        some singleArticle ∧
      data = { singleArticle with
        articleCatagory := some (if index = 0 then "General Info" else homepageBranch index) } := by
  simp only [decodeHomepageArticle, Option.bind_eq_bind, Option.bind_eq_some_iff,
    Option.some.injEq] at decoded
  obtain ⟨singleArticle, folded, same⟩ := decoded
  exact ⟨singleArticle, folded, same.symm⟩

/-- Only a child that is not a string can trap the decoder. -/
theorem decodeHomepageArticle_returns (index : Fin 3) {article : DataSnapshot}
    (strings : StringMedia article) : ∃ data, decodeHomepageArticle index article = some data := by
  obtain ⟨singleArticle, folded⟩ := foldlM_returns
    (fun state content member => readHomepageContent_returns state (strings content member))
    { articleID := some article.key }
  exact ⟨_, by rw [decodeHomepageArticle, folded]; rfl⟩

theorem decodeHomepageBranch_returns (index : Fin 3) {snapshot : DataSnapshot}
    (strings : ∀ article ∈ snapshot.children, StringMedia article) :
    ∃ articles, decodeHomepageBranch index snapshot = some articles :=
  mapM_returns fun article member => decodeHomepageArticle_returns index (strings article member)

/-- A field that one key of the chain sets is what the scan finds under that key. -/
theorem scanned {Field : Type} (field : ArticleData → Field) (own : String)
    (read : DataSnapshot → Field)
    (chain : ∀ {state next content}, readHomepageContent state content = some next →
      field next = if content.key = own then read content else field state)
    {article : DataSnapshot} (distinct : article.DistinctKeys) {start last : ArticleData}
    (folded : article.children.foldlM readHomepageContent start = some last) :
    field last = ((article.children.find? fun child => child.key == own).map read).getD
      (field start) := by
  refine SetsField.scanned ?_ distinct.children_nodup folded
  intro state content next taken
  rw [chain taken]
  exact ⟨fun same => if_pos same, fun other => if_neg other⟩

/-- The article is what its children read as. -/
structure ReadsAs (article : DataSnapshot) (data : ArticleData) : Prop where
  articleID : data.articleID = some article.key
  articleAuthor : data.articleAuthor = (article.child "articleAuthor").asString
  articleTitle : data.articleTitle = (article.child "articleTitle").asString
  articleUnixEpoch : data.articleUnixEpoch = (article.child "articleUnixEpoch").asInt64
  articleImages : data.articleImages.getD [] =
    (forceStrings (article.child "articleImages")).getD []
  articleVideoIDs : data.articleVideoIDs.getD [] =
    (forceStrings (article.child "articleVideoIDs")).getD []
  isFeatured : data.isFeatured =
    ((article.children.find? fun child => child.key == "isFeatured").map flagOf).getD false

theorem readsAs {index : Fin 3} {article : DataSnapshot} {data : ArticleData}
    (distinct : article.DistinctKeys)
    (decoded : decodeHomepageArticle index article = some data) : ReadsAs article data := by
  obtain ⟨last, folded, rfl⟩ := decodeHomepageArticle_cases decoded
  constructor
  · have keeps : ∀ {state next : ArticleData}, ∀ content ∈ article.children,
        readHomepageContent state content = some next → next.articleID = state.articleID := by
      intro state next content _ taken
      rw [readHomepageContent_eq taken]
    exact foldlM_keeps keeps folded
  · rw [scanned ArticleData.articleAuthor "articleAuthor" DataSnapshot.asString
      (fun taken => by rw [readHomepageContent_eq taken]) distinct folded]
    exact DataSnapshot.read_child _ rfl article
  · rw [scanned ArticleData.articleTitle "articleTitle" DataSnapshot.asString
      (fun taken => by rw [readHomepageContent_eq taken]) distinct folded]
    exact DataSnapshot.read_child _ rfl article
  · rw [scanned ArticleData.articleUnixEpoch "articleUnixEpoch" DataSnapshot.asInt64
      (fun taken => by rw [readHomepageContent_eq taken]) distinct folded]
    exact DataSnapshot.read_child _ rfl article
  · rw [scanned (fun data => data.articleImages.getD []) "articleImages"
      (fun content => (forceStrings content).getD [])
      (fun taken => by rw [readHomepageContent_eq taken]; exact apply_ite (Option.getD · []) ..)
      distinct folded]
    exact DataSnapshot.read_child (fun content => (forceStrings content).getD []) rfl article
  · rw [scanned (fun data => data.articleVideoIDs.getD []) "articleVideoIDs"
      (fun content => (forceStrings content).getD [])
      (fun taken => by rw [readHomepageContent_eq taken]; exact apply_ite (Option.getD · []) ..)
      distinct folded]
    exact DataSnapshot.read_child (fun content => (forceStrings content).getD []) rfl article
  · exact scanned ArticleData.isFeatured "isFeatured" flagOf
      (fun taken => by rw [readHomepageContent_eq taken]) distinct folded

theorem articleCatagory_of_decode {index : Fin 3} {article : DataSnapshot} {data : ArticleData}
    (decoded : decodeHomepageArticle index article = some data) :
    data.articleCatagory =
      some (if index = 0 then "General Info" else homepageBranch index) := by
  obtain ⟨_, _, rfl⟩ := decodeHomepageArticle_cases decoded
  rfl

end AhsApp.Ios
