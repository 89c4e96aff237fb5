import Mathlib.Data.List.Basic

/-! The articles and notifications of the Android application, and the values its
databases store for them. -/

namespace AhsApp.Android

/-- The JSON library: the text of an object that holds an array of strings under
one key. -/
structure JsonText where
  text : String → List String → String

/-- The library with its parser, which gives the array under a key of the object with
the text; `none` where the caller meets a `null`. -/
structure JsonCodec extends JsonText where
  optStrings : String → String → Option (List String)

/-- The text of an object parses back to the same value. -/
def JsonCodec.RoundTrips (json : JsonCodec) : Prop :=
  ∀ key array, json.optStrings key (json.text key array) = some array

inductive ArticleType where
  | generalInfo
  | district
  | asb
  deriving DecidableEq

namespace ArticleType

def values : List ArticleType := [generalInfo, district, asb]

def getName : ArticleType → String
  | generalInfo => "General Info"
  | district => "District"
  | asb => "ASB"

def numCode : ArticleType → Int
  | generalInfo => 3
  | district => 2
  | asb => 1

/-- The first type with the code; `none` stands for `null`. -/
def getTypeFromNumCode (numCode : Int) : Option ArticleType :=
  values.find? fun type => type.numCode == numCode

@[simp] private theorem getTypeFromNumCode_numCode (type : ArticleType) :
    getTypeFromNumCode type.numCode = some type := by
  cases type <;> rfl

end ArticleType

structure Article where
  id : String
  timeUpdated : Int
  title : String
  author : String
  story : String
  imagePaths : List String
  videoIDS : List String
  type : ArticleType
  deriving DecidableEq

inductive BulletinType where
  | academics
  | athletics
  | clubs
  | colleges
  | reference
  deriving DecidableEq

namespace BulletinType

def values : List BulletinType := [academics, athletics, clubs, colleges, reference]

def getName : BulletinType → String
  | academics => "Academics"
  | athletics => "Athletics"
  | clubs => "Clubs"
  | colleges => "Colleges"
  | reference => "Reference"

def numCode : BulletinType → Int
  | academics => 1
  | athletics => 2
  | clubs => 3
  | colleges => 4
  | reference => 5

def getTypeFromNumCode (numCode : Int) : Option BulletinType :=
  values.find? fun type => type.numCode == numCode

@[simp] theorem getTypeFromNumCode_numCode (type : BulletinType) :
    getTypeFromNumCode type.numCode = some type := by
  cases type <;> rfl

@[simp] theorem mem_values (type : BulletinType) : type ∈ values := by
  cases type <;> decide

end BulletinType

structure BulletinArticle where
  id : String
  time : Int
  title : String
  body : String
  type : BulletinType
  alreadyRead : Bool
  deriving DecidableEq

inductive ArticleOrBulletinHolder where
  | article (article : Article)
  | bulletinArticle (data : BulletinArticle)
  deriving DecidableEq

/-- What the server leaves out of a notification is `null`, as is the holder of one
without an article. -/
structure NotifData where
  id : String
  time : Int
  title : Option String
  body : Option String
  category : Int
  articleID : Option String
  holder : Option ArticleOrBulletinHolder
  notified : Bool
  deriving DecidableEq

/-- The primary key that SQLite assigns is never read, so a row has no field for it. -/
structure ArticleRow where
  artID : String
  time : Int
  title : String
  author : String
  story : String
  iPaths : String
  vIDS : String
  type : Int
  deriving DecidableEq

structure BulletinRow where
  bulID : String
  time : Int
  title : String
  body : String
  type : Int
  read : Int
  deriving DecidableEq

structure NotifRow where
  notifID : String
  time : Int
  title : Option String
  body : Option String
  cat : Int
  artID : Option String
  notified : Int
  deriving DecidableEq

/-- A bookmark. A bulletin article leaves three columns null. -/
structure SavedRow where
  type : Int
  ids : String
  time : Int
  title : String
  author : Option String
  story : String
  iPaths : Option String
  vIds : Option String
  category : Int
  deriving DecidableEq

def convertArrayToString (json : JsonText) (array : List String) : String :=
  json.text "iPaths" array

def convertStringToArray (json : JsonCodec) (str : String) : Option (List String) :=
  json.optStrings "iPaths" str

@[simp] theorem convertStringToArray_convertArrayToString {json : JsonCodec}
    (roundTrips : json.RoundTrips) (array : List String) :
    convertStringToArray json (convertArrayToString json.toJsonText array) = some array :=
  roundTrips "iPaths" array

def Article.values (json : JsonText) (article : Article) : ArticleRow where
  artID := article.id
  time := article.timeUpdated
  title := article.title
  author := article.author
  story := article.story
  iPaths := convertArrayToString json article.imagePaths
  vIDS := convertArrayToString json article.videoIDS
  type := article.type.numCode

def BulletinArticle.values (data : BulletinArticle) : BulletinRow where
  bulID := data.id
  time := data.time
  title := data.title
  body := data.body
  type := data.type.numCode
  read := if data.alreadyRead then 1 else 0

def NotifData.values (data : NotifData) : NotifRow where
  notifID := data.id
  time := data.time
  title := data.title
  body := data.body
  cat := data.category
  artID := data.articleID
  notified := if data.notified then 1 else 0

/-- `Article_or_BulletinHolder.Option`. -/
inductive HolderOption where
  | article
  | bulletinArticle
  deriving DecidableEq

def HolderOption.num : HolderOption → Int
  | article => 0
  | bulletinArticle => 1

def Article.savedValues (json : JsonText) (article : Article) : SavedRow where
  type := HolderOption.article.num
  ids := article.id
  time := article.timeUpdated
  title := article.title
  author := some article.author
  story := article.story
  iPaths := some (convertArrayToString json article.imagePaths)
  vIds := some (convertArrayToString json article.videoIDS)
  category := article.type.numCode

def BulletinArticle.savedValues (article : BulletinArticle) : SavedRow where
  type := HolderOption.bulletinArticle.num
  ids := article.id
  time := article.time
  title := article.title
  author := none
  story := article.body
  iPaths := none
  vIds := none
  category := article.type.numCode

end AhsApp.Android
