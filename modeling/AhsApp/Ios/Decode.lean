import AhsApp.Firebase.DataSnapshot
import Mathlib.Data.List.Sort

/-! The records of the iOS application and the loops that decode them from a
snapshot. The home feed force-casts its image and video children: a child that
is not a string traps, here `none`. -/

namespace AhsApp.Ios

open AhsApp.Firebase

/-- A subscript of a Swift array of five flags; an index out of range traps. -/
def elementAt (array : Fin 5 → Bool) (index : Int) : Option Bool :=
  if inRange : 0 ≤ index ∧ index < 5 then some (array ⟨index.toNat, by omega⟩) else none

structure BulletinArticleData where
  articleID : Option String := none
  articleTitle : Option String := none
  articleUnixEpoch : Option Int := none
  articleBody : Option String := none
  articleCatagory : Option String := none
  articleType : Int := -1
  hasHTML : Bool := false
  deriving DecidableEq

structure ArticleData where
  articleID : Option String := none
  articleTitle : Option String := none
  articleUnixEpoch : Option Int := none
  articleBody : Option String := none
  articleAuthor : Option String := none
  articleImages : Option (List String) := none
  articleVideoIDs : Option (List String) := none
  articleCatagory : Option String := none
  isFeatured : Bool := false
  hasHTML : Bool := false
  deriving DecidableEq

structure NotificationData where
  messageID : Option String := none
  notificationTitle : Option String := none
  notificationBody : Option String := none
  notificationUnixEpoch : Option Int := none
  notificationArticleID : Option String := none
  notificationCatagory : Option Int := none
  deriving DecidableEq

def bulletinDataToarticleData (data : BulletinArticleData) : ArticleData where
  articleAuthor := none
  articleBody := data.articleBody
  articleUnixEpoch := data.articleUnixEpoch
  articleID := data.articleID
  articleImages := some []
  articleTitle := data.articleTitle
  articleCatagory := data.articleCatagory
  hasHTML := data.hasHTML

/-- `value as? Int == 0 ? false : true`: anything but a zero reads as true. -/
def flagOf (content : DataSnapshot) : Bool := content.asInt64 != some 0

/-- The child of `bulletin` that `getBulletinDataBranch` reads for an index. -/
def bulletinBranch : Fin 5 → String
  | 0 => "Academics"
  | 1 => "Athletics"
  | 2 => "Clubs"
  | 3 => "Colleges"
  | 4 => "Reference"

/-- The child of `homepage` that `getHomepageDataBranch` reads for an index. -/
def homepageBranch : Fin 3 → String
  | 0 => "General_Info"
  | 1 => "District"
  | 2 => "ASB"

def readBulletinContent (singleArticle : BulletinArticleData) (articleContent : DataSnapshot) :
    BulletinArticleData :=
  if articleContent.key = "articleBody" then
    { singleArticle with articleBody := articleContent.asString }
  else if articleContent.key = "articleUnixEpoch" then
    { singleArticle with articleUnixEpoch := articleContent.asInt64 }
  else if articleContent.key = "articleTitle" then
    { singleArticle with articleTitle := articleContent.asString }
  else if articleContent.key = "hasHTML" then
    { singleArticle with hasHTML := flagOf articleContent }
  else singleArticle

def decodeBulletinArticle (index : Fin 5) (article : DataSnapshot) : BulletinArticleData :=
  let singleArticle := article.children.foldl readBulletinContent
    { articleID := some article.key }
  { singleArticle with
    articleCatagory := some (bulletinBranch index)
    articleType := index.val }

/-- The array a bulletin branch callback stores at `index`. -/
def decodeBulletinBranch (index : Fin 5) (snapshot : DataSnapshot) : List BulletinArticleData :=
  snapshot.children.map (decodeBulletinArticle index)

/-- The loop over an `articleImages` or `articleVideoIDs` child. -/
def forceStrings (snapshot : DataSnapshot) : Option (List String) :=
  snapshot.children.mapM DataSnapshot.asString

def readHomepageContent (singleArticle : ArticleData) (articleContent : DataSnapshot) :
    Option ArticleData :=
  if articleContent.key = "articleAuthor" then
    some { singleArticle with articleAuthor := articleContent.asString }
  else if articleContent.key = "articleBody" then
    some { singleArticle with articleBody := articleContent.asString }
  else if articleContent.key = "articleUnixEpoch" then
    some { singleArticle with articleUnixEpoch := articleContent.asInt64 }
  else if articleContent.key = "articleImages" then do
    let tempImage ← forceStrings articleContent
    some { singleArticle with articleImages := some tempImage }
  else if articleContent.key = "articleVideoIDs" then do
    let tempArr ← forceStrings articleContent
    some { singleArticle with articleVideoIDs := some tempArr }
  else if articleContent.key = "articleTitle" then
    some { singleArticle with articleTitle := articleContent.asString }
  else if articleContent.key = "isFeatured" then
    some { singleArticle with isFeatured := flagOf articleContent }
  else if articleContent.key = "hasHTML" then
    some { singleArticle with hasHTML := flagOf articleContent }
  else some singleArticle

def decodeHomepageArticle (index : Fin 3) (article : DataSnapshot) : Option ArticleData := do
  let singleArticle ← article.children.foldlM readHomepageContent
    { articleID := some article.key }
  some { singleArticle with
    articleCatagory := some (if index = 0 then "General Info" else homepageBranch index) }

/-- The array a homepage branch callback stores at `index`. -/
def decodeHomepageBranch (index : Fin 3) (snapshot : DataSnapshot) : Option (List ArticleData) :=
  snapshot.children.mapM (decodeHomepageArticle index)

def readNotificationContent (singleNotification : NotificationData)
    (notificationContent : DataSnapshot) : NotificationData :=
  if notificationContent.key = "notificationArticleID" then
    { singleNotification with notificationArticleID := notificationContent.asString }
  else if notificationContent.key = "notificationBody" then
    { singleNotification with notificationBody := notificationContent.asString }
  else if notificationContent.key = "notificationTitle" then
    { singleNotification with notificationTitle := notificationContent.asString }
  else if notificationContent.key = "notificationUnixEpoch" then
    { singleNotification with notificationUnixEpoch := notificationContent.asInt64 }
  else if notificationContent.key = "notificationCategory" then
    { singleNotification with notificationCatagory := notificationContent.asInt64 }
  else singleNotification

def decodeNotification (article : DataSnapshot) : NotificationData :=
  article.children.foldl readNotificationContent { messageID := some article.key }

/-- The notifications `getNotificationDataBranch` hands to its completion. -/
def decodeNotifications (snapshot : DataSnapshot) : List NotificationData :=
  snapshot.children.map decodeNotification

/-- The comparison behind every time ordering: nearest future first, then the
most recent past; a missing time counts as `INT64_MAX`. -/
def timeOrder (currTime : Int) (a b : Option Int) : Bool :=
  let a := a.getD DataSnapshot.int64Max
  let b := b.getD DataSnapshot.int64Max
  if a > currTime ∧ b > currTime then decide (a < b) else decide (a > b)

def sortArticlesByTime (currTime : Int) (a b : ArticleData) : Bool :=
  timeOrder currTime a.articleUnixEpoch b.articleUnixEpoch

def sortBulletinsByTime (currTime : Int) (a b : BulletinArticleData) : Bool :=
  timeOrder currTime a.articleUnixEpoch b.articleUnixEpoch

def notificationSort (currTime : Int) (a b : NotificationData) : Bool :=
  timeOrder currTime a.notificationUnixEpoch b.notificationUnixEpoch

/-- Swift's stable `sort(by:)` for a strict ordering. -/
def sortBy {α : Type} (before : α → α → Bool) (items : List α) : List α :=
  items.insertionSort fun a b => before b a = false

theorem sortBy_perm {α : Type} (before : α → α → Bool) (items : List α) :
    (sortBy before items).Perm items :=
  List.perm_insertionSort _ items

theorem decodeBulletinBranch_articleType {index : Fin 5} {snapshot : DataSnapshot}
    {article : BulletinArticleData} (member : article ∈ decodeBulletinBranch index snapshot) :
    article.articleType = index.val := by
  obtain ⟨source, _, rfl⟩ := List.mem_map.mp member
  rfl

end AhsApp.Ios
