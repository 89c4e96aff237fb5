import AhsApp.Android.CacheReplacement
import AhsApp.Android.LookupById
import AhsApp.Android.SavedList

/-! What the caches of articles return for an ID. Values are put under the names of the
columns and read back by the indices of the columns. -/

namespace AhsApp.Android

open AhsApp.Library Table

/-- The value at an index: a table has its columns in the order it was created with, and
a row has its values by name. -/
def cellAt (columns : List String) (values : List (String × Cell)) (index : Nat) : Cell :=
  (columns[index]?.bind fun column => values.lookup column).getD .null

/-- `null` when the cursor has no row, else what its first row holds. -/
def firstOf {Row Found : Type} (fromCursor : Row → Option Found) (data : List Row) :
    Option (Option Found) :=
  match data.head? with
  | none => some none
  | some row => (fromCursor row).map some

/-- `false` when the cursor has no row, else what its first row says. -/
def flagOfFirst {Row : Type} (fromCursor : Row → Bool) (data : List Row) : Bool :=
  match data.head? with
  | none => false
  | some row => fromCursor row

namespace ArticleDatabase

def columns : List String :=
  ["ID", "ART_ID", "TIME", "TITLE", "AUTHOR", "STORY", "IPATHS", "V_IDS", "TYPE"]

def idCol : Nat := 1
def timeCol : Nat := 2
def titleCol : Nat := 3
def authorCol : Nat := 4
def storyCol : Nat := 5
def iPathsCol : Nat := 6
def vIdsCol : Nat := 7
def typeCol : Nat := 8

end ArticleDatabase

def ArticleRow.contentValues (row : ArticleRow) : List (String × Cell) :=
  [("ART_ID", .text row.artID), ("TIME", .integer row.time), ("TITLE", .text row.title),
    ("AUTHOR", .text row.author), ("STORY", .text row.story), ("IPATHS", .text row.iPaths),
    ("V_IDS", .text row.vIDS), ("TYPE", .integer row.type)]

def ArticleRow.cell (row : ArticleRow) : Nat → Cell :=
  cellAt ArticleDatabase.columns row.contentValues

namespace ArticleDatabase

/-- The article that is made of the first row of the cursor. -/
def articleFromCursor (json : JsonCodec) (data : ArticleRow) : Option Article := do
  let id ← (data.cell idCol).getString
  let title ← (data.cell titleCol).getString
  let author ← (data.cell authorCol).getString
  let story ← (data.cell storyCol).getString
  let iPaths ← (data.cell iPathsCol).getString
  let imagePaths ← convertStringToArray json iPaths
  let vIds ← (data.cell vIdsCol).getString
  let videoIDS ← convertStringToArray json vIds
  let type ← ArticleType.getTypeFromNumCode (data.cell typeCol).getInt
  some ⟨id, (data.cell timeCol).getLong, title, author, story, imagePaths, videoIDS, type⟩

/-- `getArticleById` from the text of its statement to the columns of its cursor. -/
def queryArticleById (json : JsonCodec) (ID : String) (table : Table ArticleRow) :
    Option (Option Article) := do
  let data ← rowsOf idTable.columns (getArticleByIdQuery ID) table.rows
  firstOf (articleFromCursor json) data

end ArticleDatabase

namespace BulletinDatabase

def columns : List String := ["ID", "BUL_ID", "TIME", "TITLE", "BODY", "TYPE", "READ"]

def bulCol : Nat := 1
def timeCol : Nat := 2
def titleCol : Nat := 3
def bodyCol : Nat := 4
def typeCol : Nat := 5
def readCol : Nat := 6

end BulletinDatabase

def BulletinRow.contentValues (row : BulletinRow) : List (String × Cell) :=
  [("BUL_ID", .text row.bulID), ("TIME", .integer row.time), ("TITLE", .text row.title),
    ("BODY", .text row.body), ("TYPE", .integer row.type), ("READ", .integer row.read)]

def BulletinRow.cell (row : BulletinRow) : Nat → Cell :=
  cellAt BulletinDatabase.columns row.contentValues

namespace BulletinDatabase

def articleFromCursor (data : BulletinRow) : Option BulletinArticle := do
  let id ← (data.cell bulCol).getString
  let title ← (data.cell titleCol).getString
  let body ← (data.cell bodyCol).getString
  let type ← BulletinType.getTypeFromNumCode (data.cell typeCol).getInt
  some ⟨id, (data.cell timeCol).getLong, title, body, type, (data.cell readCol).getInt == 1⟩

/-- `getArticleByID` from the text of its statement to the columns of its cursor. -/
def queryArticleByID (ID : String) (table : Table BulletinRow) :
    Option (Option BulletinArticle) := do
  let data ← rowsOf idTable.columns (getArticleByIDQuery ID) table.rows
  firstOf articleFromCursor data

/-- The cursor of `getReadStatusByID` has one column. -/
def readFromCursor (data : BulletinRow) : Bool :=
  (cellAt ["READ"] data.contentValues 0).getInt == 1

/-- `getReadStatusByID` from the text of its statement to the column of its cursor. -/
def queryReadStatusByID (ID : String) (table : Table BulletinRow) : Option Bool := do
  let data ← rowsOf idTable.columns (getReadStatusByIDQuery ID) table.rows
  some (flagOfFirst readFromCursor data)

end BulletinDatabase

/-- A code in the range of an `int` is read as it is. -/
theorem ArticleDatabase.articleFromCursor_eq (json : JsonCodec) {row : ArticleRow}
    (code : row.type.bmod (2 ^ 32) = row.type) :
    articleFromCursor json row = (do
      let imagePaths ← convertStringToArray json row.iPaths
      let videoIDS ← convertStringToArray json row.vIDS
      let type ← ArticleType.getTypeFromNumCode row.type
      some ⟨row.artID, row.time, row.title, row.author, row.story, imagePaths, videoIDS,
        type⟩) := by
  have type : (row.cell typeCol).getInt = row.type := code
  rw [articleFromCursor, type]
  rfl

/-- The columns of the cursor are the fields of the row. -/
theorem ArticleDatabase.queryArticleById_eq (json : JsonCodec) (id : String)
    {table : Table ArticleRow} (codes : ∀ row ∈ table.rows, row.type.bmod (2 ^ 32) = row.type) :
    queryArticleById json id table = getArticleById json id table := by
  cases asked : conditionOf textColumns (getArticleByIdQuery id) with
  | none => simp [queryArticleById, getArticleById, idTable, rowsOf, asked]
  | some selected =>
    cases first : (table.rows.filter selected).head? with
    | none => simp [queryArticleById, getArticleById, idTable, rowsOf, asked, firstOf, first]
    | some row =>
      have member : row ∈ table.rows := List.mem_of_mem_filter (List.mem_of_head? first)
      simp only [queryArticleById, getArticleById, idTable, rowsOf, asked, firstOf, first,
        Option.bind_eq_bind, Option.map_some, Option.bind_some,
        articleFromCursor_eq json (codes row member)]
      cases convertStringToArray json row.iPaths <;> cases convertStringToArray json row.vIDS <;>
        cases ArticleType.getTypeFromNumCode row.type <;> rfl

namespace BulletinDatabase

/-- The codes of a row are in the range of an `int`. -/
structure IntCodes (row : BulletinRow) : Prop where
  type : row.type.bmod (2 ^ 32) = row.type
  read : row.read.bmod (2 ^ 32) = row.read

private theorem articleFromCursor_eq {row : BulletinRow} (codes : IntCodes row) :
    articleFromCursor row = (do
      let type ← BulletinType.getTypeFromNumCode row.type
      some ⟨row.bulID, row.time, row.title, row.body, type, row.read == 1⟩) := by
  have type : (row.cell typeCol).getInt = row.type := codes.type
  have read : (row.cell readCol).getInt = row.read := codes.read
  rw [articleFromCursor, type, read]
  rfl

theorem queryArticleByID_eq (id : String) {table : Table BulletinRow}
    (codes : ∀ row ∈ table.rows, IntCodes row) :
    queryArticleByID id table = getArticleByID id table := by
  cases asked : conditionOf textColumns (getArticleByIDQuery id) with
  | none => simp [queryArticleByID, getArticleByID, idTable, rowsOf, asked]
  | some selected =>
    cases first : (table.rows.filter selected).head? with
    | none => simp [queryArticleByID, getArticleByID, idTable, rowsOf, asked, firstOf, first]
    | some row =>
      have member : row ∈ table.rows := List.mem_of_mem_filter (List.mem_of_head? first)
      simp only [queryArticleByID, getArticleByID, idTable, rowsOf, asked, firstOf, first,
        Option.bind_eq_bind, Option.map_some, Option.bind_some,
        articleFromCursor_eq (codes row member)]
      cases BulletinType.getTypeFromNumCode row.type <;> rfl

theorem queryReadStatusByID_eq (id : String) {table : Table BulletinRow}
    (codes : ∀ row ∈ table.rows, IntCodes row) :
    queryReadStatusByID id table = getReadStatusByID id table := by
  cases asked : conditionOf textColumns (getReadStatusByIDQuery id) with
  | none => simp [queryReadStatusByID, getReadStatusByID, idTable, rowsOf, asked]
  | some selected =>
    cases first : (table.rows.filter selected).head? with
    | none =>
      simp [queryReadStatusByID, getReadStatusByID, idTable, rowsOf, asked, flagOfFirst,
        firstFlag, first]
    | some row =>
      have member : row ∈ table.rows := List.mem_of_mem_filter (List.mem_of_head? first)
      have read : readFromCursor row = (row.read == 1) :=
        congrArg (· == 1) (codes row member).read
      simp [queryReadStatusByID, getReadStatusByID, idTable, rowsOf, asked, flagOfFirst,
        firstFlag, first, read]

end BulletinDatabase

theorem ArticleDatabase.articleFromCursor_values {json : JsonCodec}
    (roundTrips : json.RoundTrips) (article : Article) :
    articleFromCursor json (article.values json.toJsonText) = some article := by
  have code : (Cell.integer article.type.numCode).getInt = article.type.numCode := by
    cases article.type <;> decide
  simp [articleFromCursor, ArticleRow.cell, cellAt, columns, ArticleRow.contentValues,
    Article.values, idCol, timeCol, titleCol, authorCol, storyCol, iPathsCol, vIdsCol, typeCol,
    List.lookup_cons, Cell.getString, Cell.getLong, code,
    convertStringToArray_convertArrayToString roundTrips]

theorem BulletinDatabase.articleFromCursor_values (article : BulletinArticle) :
    articleFromCursor article.values = some article := by
  have code : (Cell.integer article.type.numCode).getInt = article.type.numCode := by
    cases article.type <;> decide
  have flag : ((Cell.integer (if article.alreadyRead then 1 else 0)).getInt == 1) =
      article.alreadyRead := by
    cases article.alreadyRead <;> decide
  simp [articleFromCursor, BulletinRow.cell, cellAt, columns, BulletinRow.contentValues,
    BulletinArticle.values, bulCol, timeCol, titleCol, bodyCol, typeCol, readCol,
    List.lookup_cons, Cell.getString, Cell.getLong, code, flag]

theorem BulletinDatabase.readFromCursor_values (article : BulletinArticle) :
    readFromCursor article.values = article.alreadyRead := by
  have read : cellAt ["READ"] article.values.contentValues 0 =
      .integer (if article.alreadyRead then 1 else 0) := rfl
  rw [readFromCursor, read]
  cases article.alreadyRead <;> decide

section stored

variable {Row Item : Type} {make : Item → Row} {column : Row → String} {key : Item → String}

/-- The first of the rows made of a list is made of the first of the list. -/
theorem head?_filter_map (named : ∀ item, column (make item) = key item) (items : List Item)
    (id : String) : ((items.map make).filter (column · == id)).head? =
      (items.find? (key · == id)).map make := by
  have same : (column · == id) ∘ make = (key · == id) := by
    funext item
    rw [Function.comp_apply, named]
  rw [List.head?_filter, List.find?_map, same]

theorem firstOf_filter_map {fromCursor : Row → Option Item}
    (named : ∀ item, column (make item) = key item)
    (restores : ∀ item, fromCursor (make item) = some item) (items : List Item) (id : String) :
    firstOf fromCursor ((items.map make).filter (column · == id)) =
      some (items.find? (key · == id)) := by
  rw [firstOf, head?_filter_map named]
  cases items.find? (key · == id) with
  | none => rfl
  | some item => simp [restores]

private theorem flagOfFirst_filter_map {fromCursor : Row → Bool} {flag : Item → Bool}
    (named : ∀ item, column (make item) = key item)
    (restores : ∀ item, fromCursor (make item) = flag item) (items : List Item) (id : String) :
    flagOfFirst fromCursor ((items.map make).filter (column · == id)) =
      (items.find? (key · == id)).any flag := by
  rw [flagOfFirst, head?_filter_map named]
  cases items.find? (key · == id) with
  | none => rfl
  | some item => simp [restores]

end stored

private theorem replaced_rows {Row : Type} {fails : Nat → Bool} {rows : List Row} (prior : List Row)
    (none : NoneFails fails rows) :
    ((deleteAllRows (idle prior)).insertAllInTransaction fails rows).2.rows = rows := by
  rw [deleteAllRows_idle, insertAllInTransaction_of_noneFails none]
  rfl

theorem ArticleDatabase.queryArticleById_updateArticles {json : JsonCodec}
    (roundTrips : json.RoundTrips) {fails : Nat → Bool} (prior : List ArticleRow)
    {articles : List Article} (none : NoneFails fails (articles.map (·.values json.toJsonText)))
    {id : String} (free : PlainText id) :
    queryArticleById json id (updateArticles json.toJsonText fails articles (idle prior)) =
      some (articles.find? (·.id == id)) := by
  have found := Lookup.articleGetArticleById.rowsOf_of_plain free
    (updateArticles json.toJsonText fails articles (idle prior)).rows
  have stored : (updateArticles json.toJsonText fails articles (idle prior)).rows =
      articles.map (·.values json.toJsonText) := replaced_rows prior none
  calc queryArticleById json id (updateArticles json.toJsonText fails articles (idle prior))
      = firstOf (articleFromCursor json)
          ((articles.map (·.values json.toJsonText)).filter (·.artID == id)) := by
        rw [← stored]
        exact congrArg (Option.bind · (firstOf (articleFromCursor json))) found
    _ = some (articles.find? (·.id == id)) :=
        firstOf_filter_map (fun _ => rfl) (articleFromCursor_values roundTrips) articles id

namespace BulletinDatabase

variable {fails : Nat → Bool} {articles : List BulletinArticle} {id : String}

private theorem queryArticleByID_updateArticles (prior : List BulletinRow)
    (none : NoneFails fails (articles.map BulletinArticle.values)) (free : PlainText id) :
    queryArticleByID id (updateArticles fails articles (idle prior)) =
      some (articles.find? (·.id == id)) := by
  have found := Lookup.bulletinGetArticleByID.rowsOf_of_plain free
    (updateArticles fails articles (idle prior)).rows
  have stored : (updateArticles fails articles (idle prior)).rows =
      articles.map BulletinArticle.values := replaced_rows prior none
  calc queryArticleByID id (updateArticles fails articles (idle prior))
      = firstOf articleFromCursor
          ((articles.map BulletinArticle.values).filter (·.bulID == id)) := by
        rw [← stored]
        exact congrArg (Option.bind · (firstOf articleFromCursor)) found
    _ = some (articles.find? (·.id == id)) :=
        firstOf_filter_map (fun _ => rfl) articleFromCursor_values articles id

private theorem queryReadStatusByID_updateArticles (prior : List BulletinRow)
    (none : NoneFails fails (articles.map BulletinArticle.values)) (free : PlainText id) :
    queryReadStatusByID id (updateArticles fails articles (idle prior)) =
      some ((articles.find? (·.id == id)).any (·.alreadyRead)) := by
  have found := Lookup.bulletinGetReadStatusByID.rowsOf_of_plain free
    (updateArticles fails articles (idle prior)).rows
  have stored : (updateArticles fails articles (idle prior)).rows =
      articles.map BulletinArticle.values := replaced_rows prior none
  calc queryReadStatusByID id (updateArticles fails articles (idle prior))
      = some (flagOfFirst readFromCursor
          ((articles.map BulletinArticle.values).filter (·.bulID == id))) := by
        rw [← stored]
        exact congrArg (Option.bind · fun data => some (flagOfFirst readFromCursor data)) found
    _ = some ((articles.find? (·.id == id)).any (·.alreadyRead)) :=
        congrArg some (flagOfFirst_filter_map (fun _ => rfl) readFromCursor_values articles id)

end BulletinDatabase

/-- After a replacement in which no insert fails, a cache returns for an ID the first
article of the list that has it, as it was, and `null` if none has it. -/
theorem caches_return_stored {json : JsonCodec} (roundTrips : json.RoundTrips)
    (fails : Nat → Bool) :
    (∀ (prior : List ArticleRow) (articles : List Article),
      NoneFails fails (articles.map (·.values json.toJsonText)) → ∀ id, PlainText id →
        ArticleDatabase.queryArticleById json id
            (ArticleDatabase.updateArticles json.toJsonText fails articles (idle prior)) =
          some (articles.find? (·.id == id))) ∧
      ∀ (prior : List BulletinRow) (articles : List BulletinArticle),
        NoneFails fails (articles.map BulletinArticle.values) → ∀ id, PlainText id →
          BulletinDatabase.queryArticleByID id
              (BulletinDatabase.updateArticles fails articles (idle prior)) =
            some (articles.find? (·.id == id)) ∧
          BulletinDatabase.queryReadStatusByID id
              (BulletinDatabase.updateArticles fails articles (idle prior)) =
            some ((articles.find? (·.id == id)).any (·.alreadyRead)) :=
  ⟨fun prior _ none _ free =>
      ArticleDatabase.queryArticleById_updateArticles roundTrips prior none free,
    fun prior _ none _ free =>
      ⟨BulletinDatabase.queryArticleByID_updateArticles prior none free,
        BulletinDatabase.queryReadStatusByID_updateArticles prior none free⟩⟩

/-- Two articles with one ID, and a read bulletin article. -/
theorem duplicate_returns_first :
    ArticleDatabase.queryArticleById oneArrayCodec "a"
        (ArticleDatabase.updateArticles oneArrayCodec.toJsonText (fun _ => false)
          [⟨"a", 1, "News", "Author", "Story", ["image"], [], .asb⟩,
            ⟨"a", 2, "Late", "Author", "Story", [], ["video"], .district⟩] (idle [])) =
      some (some ⟨"a", 1, "News", "Author", "Story", ["image"], [], .asb⟩) ∧
    BulletinDatabase.queryArticleByID "essay"
        (BulletinDatabase.updateArticles (fun _ => false) [readBulletin] (idle [])) =
      some (some readBulletin) ∧
    BulletinDatabase.queryReadStatusByID "essay"
        (BulletinDatabase.updateArticles (fun _ => false) [readBulletin] (idle [])) =
      some true := by
  obtain ⟨articles, bulletins⟩ :=
    caches_return_stored oneArrayCodec_roundTrips fun _ => false
  obtain ⟨stored, read⟩ := bulletins [] [readBulletin] (fun _ _ => rfl) "essay" (by decide)
  exact ⟨articles [] _ (fun _ _ => rfl) "a" (by decide), stored, read⟩

end AhsApp.Android
