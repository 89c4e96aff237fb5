import AhsApp.Android.LookupById
import AhsApp.Library.Sqlite

/-! The local databases of the Android application, one table each. The inserts
that fail are given by their index in the call; a lookup is what the text of its
statement asks for. -/

namespace AhsApp.Android

open AhsApp.Library

def deleteAllRows {Row : Type} (table : Table Row) : Table Row := table.execSQL fun _ => []

namespace ArticleDatabase

def add (json : JsonText) (fails : Nat → Bool) (articles : List Article)
    (table : Table ArticleRow) : Bool × Table ArticleRow :=
  table.insertAllInTransaction fails (articles.map (·.values json))

def deleteAll (table : Table ArticleRow) : Table ArticleRow := deleteAllRows table

def updateArticles (json : JsonText) (fails : Nat → Bool) (articles : List Article)
    (table : Table ArticleRow) : Table ArticleRow :=
  (add json fails articles (deleteAll table)).2

/-- The first article with the ID, or `null`. A code without a type gives an article
without one, which nothing that is written here has. -/
def getArticleById (json : JsonCodec) (id : String) (table : Table ArticleRow) :
    Option (Option Article) := do
  let data ← rowsOf textColumns (getArticleByIdQuery id) table.rows
  match data.head? with
  | none => some none
  | some row =>
    let imagePaths ← convertStringToArray json row.iPaths
    let videoIDS ← convertStringToArray json row.vIDS
    let type ← ArticleType.getTypeFromNumCode row.type
    some (some ⟨row.artID, row.time, row.title, row.author, row.story, imagePaths, videoIDS, type⟩)

end ArticleDatabase

namespace BulletinDatabase

def add (fails : Nat → Bool) (datas : List BulletinArticle) (table : Table BulletinRow) :
    Bool × Table BulletinRow :=
  table.insertAllInTransaction fails (datas.map BulletinArticle.values)

def deleteAll (table : Table BulletinRow) : Table BulletinRow := deleteAllRows table

def updateArticles (fails : Nat → Bool) (articles : List BulletinArticle)
    (table : Table BulletinRow) : Table BulletinRow :=
  (add fails articles (deleteAll table)).2

def getArticleByID (id : String) (table : Table BulletinRow) :
    Option (Option BulletinArticle) := do
  let data ← rowsOf textColumns (getArticleByIDQuery id) table.rows
  match data.head? with
  | none => some none
  | some row =>
    let type ← BulletinType.getTypeFromNumCode row.type
    some (some ⟨row.bulID, row.time, row.title, row.body, type, row.read == 1⟩)

def getReadStatusByID (id : String) (table : Table BulletinRow) : Option Bool := do
  let data ← rowsOf textColumns (getReadStatusByIDQuery id) table.rows
  some (firstFlag BulletinRow.read data)

def updateReadStatus (data : BulletinArticle) (table : Table BulletinRow) :
    Option (Table BulletinRow) := do
  let selected ← conditionOf textColumns (updateReadStatusQuery data.alreadyRead data.id)
  some (table.execSQL (·.map fun row =>
    if selected row then { row with read := if data.alreadyRead then 1 else 0 } else row))

end BulletinDatabase

namespace NotifDatabase

/-- Unlike the other two, each insert commits by itself. -/
def add (fails : Nat → Bool) (datas : List NotifData) (table : Table NotifRow) :
    Bool × Table NotifRow :=
  table.insertAll fails (datas.map NotifData.values)

def deleteAll (table : Table NotifRow) : Table NotifRow := deleteAllRows table

def updateData (fails : Nat → Bool) (data : List NotifData) (table : Table NotifRow) :
    Table NotifRow :=
  (add fails data (deleteAll table)).2

def alreadyAdded (id : String) (table : Table NotifRow) : Option Bool := do
  let cursor ← rowsOf textColumns (alreadyAddedQuery id) table.rows
  some (decide (cursor.length > 0))

def getReadStatusByID (id : String) (table : Table NotifRow) : Option Bool := do
  let data ← rowsOf textColumns (getReadStatusByIDQuery id) table.rows
  some (firstFlag NotifRow.notified data)

def updateReadStatus (data : NotifData) (table : Table NotifRow) : Option (Table NotifRow) := do
  let selected ← conditionOf textColumns (updateReadStatusQuery data.notified data.id)
  some (table.execSQL (·.map fun row =>
    if selected row then { row with notified := if data.notified then 1 else 0 } else row))

theorem getReadStatusByID_of_plain {id : String} (free : PlainText id)
    (table : Table NotifRow) : getReadStatusByID id table =
      some ((table.rows.find? (·.notifID == id)).any (·.notified == 1)) := by
  have found := Lookup.notifGetReadStatusByID.rowsOf_of_plain free table.rows
  rw [getReadStatusByID, ← firstFlag_filter]
  exact congrArg (Option.bind · fun data => some (firstFlag NotifRow.notified data)) found

theorem alreadyAdded_of_plain {id : String} (free : PlainText id) (table : Table NotifRow) :
    alreadyAdded id table = some (table.rows.find? (·.notifID == id)).isSome := by
  have found : rowsOf textColumns (alreadyAddedQuery id) table.rows =
      some (table.rows.filter (·.notifID == id)) :=
    Lookup.notifAlreadyAdded.rowsOf_of_plain free table.rows
  rw [alreadyAdded, found, Option.bind_eq_bind, Option.bind_some, ← List.head?_filter]
  cases table.rows.filter (·.notifID == id) <;> rfl

/-- Marking a notification as read marks its rows. -/
theorem updateReadStatus_spec {data : NotifData} (free : PlainText data.id)
    (read : data.notified = true) {table next : Table NotifRow}
    (updated : updateReadStatus data table = some next) :
    next.rows = table.rows.map fun row =>
      if row.notifID = data.id then { row with notified := 1 } else row := by
  have found : conditionOf textColumns (updateReadStatusQuery true data.id) =
      some (·.notifID == data.id) :=
    (Lookup.notifUpdateReadStatus true).conditionOf_of_plain free
  simp only [updateReadStatus, read, found, Option.bind_eq_bind, Option.bind_some,
    Option.some.injEq, if_true, beq_iff_eq] at updated
  rw [← updated, Table.rows_execSQL]

/-- What a query finds after that: the row of the ID, and marked if it is that ID. -/
theorem find?_updateReadStatus {data : NotifData} (free : PlainText data.id)
    (read : data.notified = true) {table next : Table NotifRow}
    (updated : updateReadStatus data table = some next) (id : String) :
    next.rows.find? (·.notifID == id) = (table.rows.find? (·.notifID == id)).map fun row =>
      if row.notifID = data.id then { row with notified := 1 } else row := by
  rw [updateReadStatus_spec free read updated, List.find?_map]
  congr 2
  funext row
  simp only [Function.comp_apply]
  split <;> rfl

/-- A notification that was marked is found read when it has a row. -/
theorem getReadStatusByID_updateReadStatus {data : NotifData} (free : PlainText data.id)
    (read : data.notified = true) {table next : Table NotifRow}
    (updated : updateReadStatus data table = some next) :
    getReadStatusByID data.id next = alreadyAdded data.id table := by
  rw [getReadStatusByID_of_plain free, alreadyAdded_of_plain free,
    find?_updateReadStatus free read updated]
  cases found : table.rows.find? (·.notifID == data.id) with
  | none => rfl
  | some row =>
    have same : row.notifID = data.id := by simpa using List.find?_some found
    simp [same]

theorem getReadStatusByID_updateReadStatus_of_ne {data : NotifData} (free : PlainText data.id)
    (read : data.notified = true) {table next : Table NotifRow}
    (updated : updateReadStatus data table = some next) {id : String} (other : PlainText id)
    (apart : id ≠ data.id) : getReadStatusByID id next = getReadStatusByID id table := by
  rw [getReadStatusByID_of_plain other, getReadStatusByID_of_plain other,
    find?_updateReadStatus free read updated]
  cases found : table.rows.find? (·.notifID == id) with
  | none => rfl
  | some row =>
    have same : row.notifID = id := by simpa using List.find?_some found
    simp [same, apart]

end NotifDatabase

namespace SavedDatabase

def add (json : JsonText) (fails : Nat → Bool) (articles : List Article)
    (table : Table SavedRow) : Bool × Table SavedRow :=
  table.insertAll fails (articles.map (·.savedValues json))

/-- `add` of bulletin articles. -/
def addBulletin (fails : Nat → Bool) (articles : List BulletinArticle)
    (table : Table SavedRow) : Bool × Table SavedRow :=
  table.insertAll fails (articles.map BulletinArticle.savedValues)

def deleteByID (id : String) (table : Table SavedRow) : Option (Table SavedRow) := do
  let selected ← conditionOf textColumns (deleteByIDQuery id)
  some (table.execSQL (·.filter (!selected ·)))

def alreadyAdded (id : String) (table : Table SavedRow) : Option Bool := do
  let cursor ← rowsOf textColumns (alreadyAddedQuery id) table.rows
  some (decide (cursor.length > 0))

end SavedDatabase

end AhsApp.Android
