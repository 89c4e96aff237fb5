import AhsApp.Android.Database
import AhsApp.Library.JsonStrings
import AhsApp.Library.Run
import Mathlib.Algebra.Group.Nat.Defs

/-! The saved table as a list of articles. Rows of both kinds share the columns, which are
written by name and read by index. -/

namespace AhsApp.Android

open AhsApp.Library

/-- A value in a column. -/
inductive Cell where
  | null
  | integer (value : Int)
  | text (value : String)

namespace Cell

def getString : Cell → Option String
  | null => none
  | integer value => some (toString value)
  | text value => some value

/-- No text is stored in a column that is read as a number. -/
def getLong : Cell → Int
  | integer value => value
  | _ => 0

def getInt (cell : Cell) : Int := (getLong cell).bmod (2 ^ 32)

end Cell

namespace SavedDatabase

def typeCol : Nat := 1
def idCol : Nat := 2
def timeCol : Nat := 3
def titleCol : Nat := 4
def authorCol : Nat := 5
def storyCol : Nat := 6
def iPathsCol : Nat := 7
def vIdsCol : Nat := 8
def categoryCol : Nat := 9

end SavedDatabase

/-- The columns in the order in which the table is created; the first is its key. -/
def SavedRow.cell (row : SavedRow) : Nat → Cell
  | 1 => .integer row.type
  | 2 => .text row.ids
  | 3 => .integer row.time
  | 4 => .text row.title
  | 5 => (row.author.map .text).getD .null
  | 6 => .text row.story
  | 7 => (row.iPaths.map .text).getD .null
  | 8 => (row.vIds.map .text).getD .null
  | 9 => .integer row.category
  | _ => .null

namespace HolderOption

def values : List HolderOption := [article, bulletinArticle]

def getOptionFromInteger (i : Int) : Option HolderOption :=
  values.find? fun option => option.num == i

end HolderOption

namespace SavedDatabase

/-- `none` where a column that the article needs is null or cannot be decoded. -/
def getArticleFromCursor (json : JsonCodec) (data : SavedRow) : Option Article := do
  let id ← (data.cell idCol).getString
  let title ← (data.cell titleCol).getString
  let author ← (data.cell authorCol).getString
  let story ← (data.cell storyCol).getString
  let iPaths ← (data.cell iPathsCol).getString
  let imagePaths ← convertStringToArray json iPaths
  let vIds ← (data.cell vIdsCol).getString
  let videoIDS ← convertStringToArray json vIds
  let type ← ArticleType.getTypeFromNumCode (data.cell categoryCol).getInt
  some ⟨id, (data.cell timeCol).getLong, title, author, story, imagePaths, videoIDS, type⟩

def getBulletinArticleFromCursor (data : SavedRow) : Option BulletinArticle := do
  let id ← (data.cell idCol).getString
  let title ← (data.cell titleCol).getString
  let story ← (data.cell storyCol).getString
  let type ← BulletinType.getTypeFromNumCode (data.cell categoryCol).getInt
  some ⟨id, (data.cell timeCol).getLong, title, story, type, true⟩

/-- What the callback is given for a row: `null` when the kind of the row is unknown. -/
def getSingleSavedArticle (json : JsonCodec) (data : SavedRow) :
    Option (Option ArticleOrBulletinHolder) :=
  match HolderOption.getOptionFromInteger (data.cell typeCol).getInt with
  | none => some none
  | some .article => (getArticleFromCursor json data).map fun article => some (.article article)
  | some .bulletinArticle =>
    (getBulletinArticleFromCursor data).map fun article => some (.bulletinArticle article)

/-- The callbacks in their order. -/
def getAllArticlesWithCallBack (json : JsonCodec) (table : Table SavedRow) :
    Option (List (Option ArticleOrBulletinHolder)) :=
  table.rows.mapM (getSingleSavedArticle json)

/-- The row under the cursor; a cursor before the first row throws. -/
def rowAt (rows : List SavedRow) (position : Int) : Option SavedRow :=
  if position < 0 then none else rows[position.toNat]?

/-- The loop that counts down while the cursor moves to the previous row. -/
def loopBackwards (json : JsonCodec) (rows : List SavedRow) :
    Nat → Int → Option (List (Option ArticleOrBulletinHolder))
  | 0, _ => some []
  | i + 1, position => do
    let data ← rowAt rows position
    let holder ← getSingleSavedArticle json data
    let rest ← loopBackwards json rows i (position - 1)
    some (holder :: rest)

/-- From the last row on. -/
def getAllArticlesFromNewestWithCallBack (json : JsonCodec) (table : Table SavedRow) :
    Option (List (Option ArticleOrBulletinHolder)) :=
  loopBackwards json table.rows table.rows.length (table.rows.length - 1)

end SavedDatabase

def ArticleOrBulletinHolder.id : ArticleOrBulletinHolder → String
  | .article news => news.id
  | .bulletinArticle data => data.id

inductive SavedOperation where
  | add (articles : List Article)
  | addBulletin (articles : List BulletinArticle)
  | deleteByID (id : String)

/-- The operation on the table; no insert fails. -/
def savedStep (json : JsonCodec) (table : Table SavedRow) :
    SavedOperation → Option (Table SavedRow)
  | .add articles => some (SavedDatabase.add json.toJsonText (fun _ => false) articles table).2
  | .addBulletin articles => some (SavedDatabase.addBulletin (fun _ => false) articles table).2
  | .deleteByID id => SavedDatabase.deleteByID id table

/-- The operation on what is saved, oldest first: a bulletin article counts as read. -/
def savedListStep (saved : List ArticleOrBulletinHolder) :
    SavedOperation → List ArticleOrBulletinHolder
  | .add articles => saved ++ articles.map .article
  | .addBulletin articles =>
    saved ++ articles.map fun article => .bulletinArticle { article with alreadyRead := true }
  | .deleteByID id => saved.filter fun holder => holder.id ≠ id

def savedList (operations : List SavedOperation) : List ArticleOrBulletinHolder :=
  operations.foldl savedListStep []

/-- The deleted IDs are plain. -/
def DeletesPlain : SavedOperation → Prop
  | .deleteByID id => PlainText id
  | _ => True

/-- The row of a saved article. -/
def ArticleOrBulletinHolder.row (json : JsonCodec) : ArticleOrBulletinHolder → SavedRow
  | .article news => news.savedValues json.toJsonText
  | .bulletinArticle data => data.savedValues

/-- The table has the rows of the saved articles, each of which is restored as it is. -/
structure Represents (json : JsonCodec) (table : Table SavedRow)
    (saved : List ArticleOrBulletinHolder) : Prop where
  rows : table.rows = saved.map (·.row json)
  read : ∀ data, .bulletinArticle data ∈ saved → data.alreadyRead = true

private theorem getSingleSavedArticle_row {json : JsonCodec} (roundTrips : json.RoundTrips)
    {holder : ArticleOrBulletinHolder}
    (read : ∀ data, holder = .bulletinArticle data → data.alreadyRead = true) :
    SavedDatabase.getSingleSavedArticle json (holder.row json) = some (some holder) := by
  cases holder with
  | article article =>
    have kind : HolderOption.getOptionFromInteger
        (((ArticleOrBulletinHolder.article article).row json).cell SavedDatabase.typeCol).getInt =
        some .article := rfl
    have code : (Cell.integer article.type.numCode).getInt = article.type.numCode := by
      cases article.type <;> decide
    rw [SavedDatabase.getSingleSavedArticle, kind]
    simp [SavedDatabase.getArticleFromCursor, ArticleOrBulletinHolder.row, Article.savedValues,
      SavedRow.cell, SavedDatabase.idCol, SavedDatabase.timeCol, SavedDatabase.titleCol,
      SavedDatabase.authorCol, SavedDatabase.storyCol, SavedDatabase.iPathsCol,
      SavedDatabase.vIdsCol, SavedDatabase.categoryCol, Cell.getString, Cell.getLong, code,
      convertStringToArray_convertArrayToString roundTrips]
  | bulletinArticle data =>
    have kind : HolderOption.getOptionFromInteger
        (((ArticleOrBulletinHolder.bulletinArticle data).row json).cell
          SavedDatabase.typeCol).getInt = some .bulletinArticle := rfl
    have code : (Cell.integer data.type.numCode).getInt = data.type.numCode := by
      cases data.type <;> decide
    have marked : data = { data with alreadyRead := true } := by
      rw [← read data rfl]
    rw [SavedDatabase.getSingleSavedArticle, kind, marked]
    simp [SavedDatabase.getBulletinArticleFromCursor, ArticleOrBulletinHolder.row,
      BulletinArticle.savedValues, SavedRow.cell, SavedDatabase.idCol, SavedDatabase.timeCol,
      SavedDatabase.titleCol, SavedDatabase.storyCol, SavedDatabase.categoryCol, Cell.getString,
      Cell.getLong, code]

/-- The loop reads the rows below the cursor from the last to the first. -/
theorem loopBackwards_eq (json : JsonCodec) (rows : List SavedRow) {i : Nat}
    (bound : i ≤ rows.length) :
    SavedDatabase.loopBackwards json rows i (i - 1) =
      ((rows.take i).mapM (SavedDatabase.getSingleSavedArticle json)).map List.reverse := by
  induction i with
  | zero => rfl
  | succ i ih =>
    have inside : i < rows.length := bound
    have row : SavedDatabase.rowAt rows i = some rows[i] := by
      simp [SavedDatabase.rowAt, inside]
    have previous : ((i + 1 : Nat) : Int) - 1 = i := by omega
    rw [SavedDatabase.loopBackwards, previous, row, ih (Nat.le_of_lt inside),
      List.take_succ_eq_append_getElem inside, List.mapM_append]
    simp only [Option.bind_eq_bind, Option.bind_some, List.mapM_cons, List.mapM_nil,
      Option.pure_def]
    cases SavedDatabase.getSingleSavedArticle json rows[i] <;>
      cases (rows.take i).mapM (SavedDatabase.getSingleSavedArticle json) <;> simp

/-- The newest come first: the callbacks are those of the other method, reversed. -/
theorem getAllArticlesFromNewest_eq (json : JsonCodec) (table : Table SavedRow) :
    SavedDatabase.getAllArticlesFromNewestWithCallBack json table =
      (SavedDatabase.getAllArticlesWithCallBack json table).map List.reverse := by
  rw [SavedDatabase.getAllArticlesFromNewestWithCallBack, loopBackwards_eq json _ (Nat.le_refl _),
    List.take_length]
  rfl

private theorem deleteByID_of_plain {id : String} (plain : PlainText id) (table : Table SavedRow) :
    SavedDatabase.deleteByID id table = some (table.execSQL (·.filter (!·.ids == id))) := by
  have asked : conditionOf SavedDatabase.textColumns (SavedDatabase.deleteByIDQuery id) =
      some (·.ids == id) := Lookup.savedDeleteByID.conditionOf_of_plain plain
  rw [SavedDatabase.deleteByID, asked, Option.bind_eq_bind, Option.bind_some]

namespace Represents

variable {json : JsonCodec} {table : Table SavedRow} {saved : List ArticleOrBulletinHolder}

theorem callbacks (represented : Represents json table saved) (roundTrips : json.RoundTrips) :
    SavedDatabase.getAllArticlesWithCallBack json table = some (saved.map some) := by
  rw [SavedDatabase.getAllArticlesWithCallBack, represented.rows]
  have read := represented.read
  clear represented
  induction saved with
  | nil => rfl
  | cons holder rest ih =>
    have here : SavedDatabase.getSingleSavedArticle json (holder.row json) = some (some holder) :=
      getSingleSavedArticle_row roundTrips fun data same => read data (same ▸ List.mem_cons_self)
    rw [List.map_cons, List.mapM_cons, here,
      ih fun data member => read data (List.mem_cons_of_mem holder member)]
    rfl

theorem newest (represented : Represents json table saved) (roundTrips : json.RoundTrips) :
    SavedDatabase.getAllArticlesFromNewestWithCallBack json table =
      some (saved.reverse.map some) := by
  rw [getAllArticlesFromNewest_eq, represented.callbacks roundTrips, Option.map_some,
    List.map_reverse]

private theorem row_ids (holder : ArticleOrBulletinHolder) : (holder.row json).ids = holder.id := by
  cases holder <;> rfl

theorem alreadyAdded (represented : Represents json table saved) {id : String}
    (free : PlainText id) :
    SavedDatabase.alreadyAdded id table = some (decide (∃ holder ∈ saved, holder.id = id)) := by
  have found : rowsOf SavedDatabase.textColumns (SavedDatabase.alreadyAddedQuery id) table.rows =
      some (table.rows.filter (·.ids == id)) :=
    Lookup.savedAlreadyAdded.rowsOf_of_plain free table.rows
  rw [SavedDatabase.alreadyAdded, found, represented.rows, Option.bind_eq_bind,
    Option.bind_some]
  refine congrArg some (decide_eq_decide.mpr ?_)
  rw [gt_iff_lt, List.length_pos_iff_exists_mem]
  simp [row_ids]

/-- Each operation does to the table what it does to the list. -/
theorem step (represented : Represents json table saved) {operation : SavedOperation}
    (plain : DeletesPlain operation) :
    ∃ next, savedStep json table operation = some next ∧
      Represents json next (savedListStep saved operation) := by
  cases operation with
  | add articles =>
    refine ⟨_, rfl, ?_, ?_⟩
    · rw [SavedDatabase.add, Table.insertAll_eq, Table.rows_execSQL,
        Table.inserted_of_noneFails fun _ _ => rfl, represented.rows]
      simp [savedListStep, ArticleOrBulletinHolder.row]
    · intro data member
      rcases List.mem_append.mp member with member | member
      · exact represented.read data member
      · simp at member
  | addBulletin articles =>
    refine ⟨_, rfl, ?_, ?_⟩
    · rw [SavedDatabase.addBulletin, Table.insertAll_eq, Table.rows_execSQL,
        Table.inserted_of_noneFails fun _ _ => rfl, represented.rows]
      simp [savedListStep, ArticleOrBulletinHolder.row, BulletinArticle.savedValues]
    · intro data member
      rcases List.mem_append.mp member with member | member
      · exact represented.read data member
      · obtain ⟨article, _, same⟩ := List.mem_map.mp member
        obtain rfl := ArticleOrBulletinHolder.bulletinArticle.inj same
        rfl
  | deleteByID id =>
    refine ⟨_, deleteByID_of_plain plain table, ?_, ?_⟩
    · rw [Table.rows_execSQL, represented.rows, List.filter_map, savedListStep]
      refine congrArg (List.map _) (List.filter_congr fun holder _ => ?_)
      rw [Bool.eq_iff_iff]
      simp [row_ids]
    · intro data member
      exact represented.read data (List.mem_of_mem_filter member)

end Represents

theorem represents_run {json : JsonCodec} {operations : List SavedOperation}
    (plain : ∀ operation ∈ operations, DeletesPlain operation) {table : Table SavedRow}
    {saved : List ArticleOrBulletinHolder} (represented : Represents json table saved) :
    ∃ last, run (savedStep json) table operations = some last ∧
      Represents json last (operations.foldl savedListStep saved) := by
  induction operations generalizing table saved with
  | nil => exact ⟨table, rfl, represented⟩
  | cons operation rest ih =>
    obtain ⟨next, taken, represented⟩ := represented.step (plain operation List.mem_cons_self)
    obtain ⟨last, ran, represented⟩ :=
      ih (fun other member => plain other (List.mem_cons_of_mem operation member)) represented
    exact ⟨last, run_cons_iff.mpr ⟨next, taken, ran⟩, represented⟩

/-- The saved table is the saved list: it is read back newest first, a deletion removes
the rows of its ID, and an ID is found when it is listed. -/
theorem saved_list_refined {json : JsonCodec} (roundTrips : json.RoundTrips)
    {operations : List SavedOperation} (plain : ∀ operation ∈ operations, DeletesPlain operation) :
    ∃ table, run (savedStep json) (Table.idle []) operations = some table ∧
      SavedDatabase.getAllArticlesFromNewestWithCallBack json table =
        some ((savedList operations).reverse.map some) ∧
      SavedDatabase.getAllArticlesFromNewestWithCallBack json table =
        (SavedDatabase.getAllArticlesWithCallBack json table).map List.reverse ∧
      (∀ id, PlainText id → ∃ next, SavedDatabase.deleteByID id table = some next ∧
        next.rows = table.rows.filter fun row => row.ids ≠ id) ∧
      ∀ id, PlainText id → SavedDatabase.alreadyAdded id table =
        some (decide (∃ holder ∈ savedList operations, holder.id = id)) := by
  have empty : Represents json (Table.idle []) [] := ⟨rfl, by simp⟩
  obtain ⟨table, ran, represented⟩ := represents_run plain empty
  refine ⟨table, ran, represented.newest roundTrips, getAllArticlesFromNewest_eq json table, ?_, ?_⟩
  · intro id free
    refine ⟨_, deleteByID_of_plain free table, ?_⟩
    rw [Table.rows_execSQL]
    refine List.filter_congr fun row _ => ?_
    rw [Bool.eq_iff_iff]
    simp
  · intro id free
    exact represented.alreadyAdded free

/-- A codec for objects with one array. -/
def oneArrayCodec : JsonCodec := ⟨⟨JsonStrings.render⟩, JsonStrings.parse⟩

theorem oneArrayCodec_roundTrips : oneArrayCodec.RoundTrips := by
  intro key array
  simp only [oneArrayCodec, JsonStrings.parse_render]

def newsAndBulletin : List SavedOperation :=
  [.add [⟨"a", 1, "News", "Author", "Story", ["image"], [], .asb⟩],
    .addBulletin [⟨"b", 2, "Club", "Body", .clubs, false⟩], .deleteByID "c"]

theorem newsAndBulletin_refined : ∃ table,
    run (savedStep oneArrayCodec) (Table.idle []) newsAndBulletin = some table ∧
    SavedDatabase.getAllArticlesFromNewestWithCallBack oneArrayCodec table =
      some ((savedList newsAndBulletin).reverse.map some) ∧
    savedList newsAndBulletin =
      [.article ⟨"a", 1, "News", "Author", "Story", ["image"], [], .asb⟩,
        .bulletinArticle ⟨"b", 2, "Club", "Body", .clubs, true⟩] := by
  have plain : ∀ operation ∈ newsAndBulletin, DeletesPlain operation := by
    have free : PlainText "c" := by decide
    simp [newsAndBulletin, DeletesPlain, free]
  obtain ⟨table, ran, newest, _⟩ := saved_list_refined oneArrayCodec_roundTrips plain
  exact ⟨table, ran, newest, by decide⟩

end AhsApp.Android
