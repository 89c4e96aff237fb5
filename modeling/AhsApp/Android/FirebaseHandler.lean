import AhsApp.Android.Database
import AhsApp.Firebase.DataSnapshot

/-! How the Android application decodes its feeds. A conversion that throws gives
`none`, and so does the listener that asked for it; a missing value is `null`, here
`some none` where the source allows for it. -/

namespace AhsApp.Android

open AhsApp.Firebase AhsApp.Library

/-- `body.replace("\n","<br/>")`. -/
def replaceNewLines (body : String) : String :=
  String.ofList (body.toList.flatMap fun char =>
    if char = Char.ofNat 10 then "<br/>".toList else [char])

/-- The categories of the homepage with the type of their articles. -/
def newsCategories : List (String × ArticleType) :=
  [("General_Info", .generalInfo), ("District", .district), ("ASB", .asb)]

/-- The loops over images and videos skip `null`. -/
def stringList (snapshot : DataSnapshot) : Option (List String) := do
  let values ← snapshot.children.mapM DataSnapshot.getString
  some (values.filterMap id)

/-- One turn of the inner loop: the article, and whether it is featured. -/
def readNewsArticle (type : ArticleType) (childSn : DataSnapshot) : Option (Article × Bool) := do
  let author ← (childSn.child "articleAuthor").getString
  let title ← (childSn.child "articleTitle").getString
  let body ← (childSn.child "articleBody").getString
  let imagePaths ← stringList (childSn.child "articleImages")
  let videoIDs ← stringList (childSn.child "articleVideoIDs")
  let articleTime ← (childSn.child "articleUnixEpoch").castLong
  let isFeatured ← (childSn.child "isFeatured").castBoolean
  some (⟨childSn.key, articleTime, title.getD "", author.getD "", replaceNewLines (body.getD ""),
    imagePaths, videoIDs, type⟩, isFeatured)

/-- What the callbacks of `getNewsArticles` are given. -/
structure NewsArticles where
  categoryArticles : List (List Article)
  featuredArticles : List Article
  allArticles : List Article

def getNewsArticles (snapshot : DataSnapshot) : Option NewsArticles := do
  let loaded ← newsCategories.mapM fun (ref, type) =>
    (snapshot.child ref).children.mapM (readNewsArticle type)
  some {
    categoryArticles := loaded.map (·.map Prod.fst)
    featuredArticles := (loaded.flatten.filter (·.2)).map Prod.fst
    allArticles := loaded.flatten.map Prod.fst }

def bulletinCategories : List (String × BulletinType) :=
  [("Academics", .academics), ("Athletics", .athletics), ("Clubs", .clubs),
    ("Colleges", .colleges), ("Reference", .reference)]

def readBulletinArticle (database : Table BulletinRow) (type : BulletinType)
    (dataSnapshot : DataSnapshot) : Option BulletinArticle := do
  let title ← (dataSnapshot.child "articleTitle").getString
  let body ← (dataSnapshot.child "articleBody").getString
  let time ← (dataSnapshot.child "articleUnixEpoch").getLong
  let alreadyRead ← BulletinDatabase.getReadStatusByID dataSnapshot.key database
  some ⟨dataSnapshot.key, time.getD 0, title.getD "", body.getD "", type, alreadyRead⟩

/-- The list of `getBulletinArticles` for the bulletin node. -/
def getBulletinArticles (snapshot : DataSnapshot) (database : Table BulletinRow) :
    Option (List BulletinArticle) := do
  let data ← bulletinCategories.mapM fun (category, type) =>
    (snapshot.child category).children.mapM (readBulletinArticle database type)
  some data.flatten

/-- The fields of a notification, before its read status and its article are looked up. -/
structure NotifEntry where
  notifID : String
  articleID : Option String
  body : Option String
  title : Option String
  time : Int
  category : Int

/-- One turn of the loop over the notifications. -/
def readNotification (childSn : DataSnapshot) : Option NotifEntry := do
  let articleID ← (childSn.child "notificationArticleID").getString
  let body ← (childSn.child "notificationBody").getString
  let title ← (childSn.child "notificationTitle").getString
  let time ← (childSn.child "notificationUnixEpoch").castLong
  let category ← (childSn.child "notificationCategory").getInt
  some ⟨childSn.key, articleID, body, title, time, category.getD (-1)⟩

end AhsApp.Android
