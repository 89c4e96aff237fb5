import AhsApp.Android.Article
import AhsApp.Library.SqlText

/-! The statements that look rows up by an ID. Each of them pastes the ID between two
quotes as it is. -/

namespace AhsApp.Android

open AhsApp.Library

/-- A table with a column of IDs, and the texts that its rows are never without. -/
structure IDTable where
  table : String
  Row : Type
  columns : String → Option (Row → String)
  name : String
  key : Row → String
  withKey : String → Row
  keyed : KeyedBy columns name key withKey

namespace ArticleDatabase

def currentTable : String := "current_table"

def getArticleByIdQuery (ID : String) : String :=
  "SELECT * FROM " ++ currentTable ++ " WHERE  " ++ "ART_ID" ++ " = '" ++ ID ++ "'"

end ArticleDatabase

namespace BulletinDatabase

def currentTable : String := "BulletinDatabase"

def getArticleByIDQuery (ID : String) : String :=
  "SELECT * FROM " ++ currentTable ++ " WHERE  " ++ "BUL_ID" ++ " = '" ++ ID ++ "'"

def getReadStatusByIDQuery (ID : String) : String :=
  "SELECT " ++ "READ" ++ " FROM " ++ currentTable ++ " WHERE  " ++ "BUL_ID" ++ " = '" ++ ID ++ "'"

def updateReadStatusQuery (alreadyRead : Bool) (ID : String) : String :=
  "UPDATE " ++ currentTable ++ " SET " ++ "READ" ++ " = '" ++ (if alreadyRead then "1" else "0") ++
    "' WHERE " ++ "BUL_ID" ++ " = '" ++ ID ++ "'"

end BulletinDatabase

namespace NotifDatabase

def currentTable : String := "NotifDatabase"

def alreadyAddedQuery (ID : String) : String :=
  "SELECT " ++ "NOTIF_ID" ++ " FROM " ++ currentTable ++ " WHERE  " ++ "NOTIF_ID" ++ " = '" ++ ID ++
    "'"

def getReadStatusByIDQuery (ID : String) : String :=
  "SELECT " ++ "NOTIFIED" ++ " FROM " ++ currentTable ++ " WHERE  " ++ "NOTIF_ID" ++ " = '" ++ ID ++
    "'"

def updateReadStatusQuery (notified : Bool) (ID : String) : String :=
  "UPDATE " ++ currentTable ++ " SET " ++ "NOTIFIED" ++ " = '" ++ (if notified then "1" else "0") ++
    "' WHERE " ++ "NOTIF_ID" ++ " = '" ++ ID ++ "'"

end NotifDatabase

namespace SavedDatabase

def currentTable : String := "saved_table"

def alreadyAddedQuery (id : String) : String :=
  "SELECT " ++ "IDS" ++ " FROM " ++ currentTable ++ " WHERE  " ++ "IDS" ++ " = '" ++ id ++ "'"

def deleteByIDQuery (id : String) : String :=
  "DELETE FROM " ++ currentTable ++ " WHERE " ++ "IDS" ++ " = '" ++ id ++ "'"

end SavedDatabase

namespace ArticleDatabase

/-- The columns that are texts in every row. -/
def textColumns : String → Option (ArticleRow → String) :=
  ([("ART_ID", (·.artID)), ("TITLE", (·.title)), ("AUTHOR", (·.author)), ("STORY", (·.story)),
    ("IPATHS", (·.iPaths)), ("V_IDS", (·.vIDS))].lookup ·)

def idTable : IDTable where
  table := "CURRENT_TABLE"
  Row := ArticleRow
  columns := textColumns
  name := "ART_ID"
  key := (·.artID)
  withKey id := ⟨id, 0, "", "", "", "", "", 0⟩
  keyed := .of_list rfl (fun _ => rfl) (by simp)

end ArticleDatabase

namespace BulletinDatabase

def textColumns : String → Option (BulletinRow → String) :=
  ([("BUL_ID", (·.bulID)), ("TITLE", (·.title)), ("BODY", (·.body))].lookup ·)

def idTable : IDTable where
  table := "BULLETINDATABASE"
  Row := BulletinRow
  columns := textColumns
  name := "BUL_ID"
  key := (·.bulID)
  withKey id := ⟨id, 0, "", "", 0, 0⟩
  keyed := .of_list rfl (fun _ => rfl) (by simp)

end BulletinDatabase

namespace NotifDatabase

def textColumns : String → Option (NotifRow → String) := ([("NOTIF_ID", (·.notifID))].lookup ·)

def idTable : IDTable where
  table := "NOTIFDATABASE"
  Row := NotifRow
  columns := textColumns
  name := "NOTIF_ID"
  key := (·.notifID)
  withKey id := ⟨id, 0, none, none, 0, none, 0⟩
  keyed := .of_list rfl (fun _ => rfl) (by simp)

end NotifDatabase

namespace SavedDatabase

def textColumns : String → Option (SavedRow → String) :=
  ([("IDS", (·.ids)), ("TITLE", (·.title)), ("STORY", (·.story))].lookup ·)

def idTable : IDTable where
  table := "SAVED_TABLE"
  Row := SavedRow
  columns := textColumns
  name := "IDS"
  key := (·.ids)
  withKey id := ⟨0, id, 0, "", none, "", none, none, 0⟩
  keyed := .of_list rfl (fun _ => rfl) (by simp)

end SavedDatabase

/-- The methods whose statement is built from an ID. -/
inductive Lookup where
  | articleGetArticleById
  | bulletinGetArticleByID
  | bulletinGetReadStatusByID
  | bulletinUpdateReadStatus (alreadyRead : Bool)
  | notifAlreadyAdded
  | notifGetReadStatusByID
  | notifUpdateReadStatus (notified : Bool)
  | savedAlreadyAdded
  | savedDeleteByID

namespace Lookup

def query : Lookup → String → String
  | articleGetArticleById => ArticleDatabase.getArticleByIdQuery
  | bulletinGetArticleByID => BulletinDatabase.getArticleByIDQuery
  | bulletinGetReadStatusByID => BulletinDatabase.getReadStatusByIDQuery
  | bulletinUpdateReadStatus alreadyRead => BulletinDatabase.updateReadStatusQuery alreadyRead
  | notifAlreadyAdded => NotifDatabase.alreadyAddedQuery
  | notifGetReadStatusByID => NotifDatabase.getReadStatusByIDQuery
  | notifUpdateReadStatus notified => NotifDatabase.updateReadStatusQuery notified
  | savedAlreadyAdded => SavedDatabase.alreadyAddedQuery
  | savedDeleteByID => SavedDatabase.deleteByIDQuery

def idTable : Lookup → IDTable
  | articleGetArticleById => ArticleDatabase.idTable
  | bulletinGetArticleByID | bulletinGetReadStatusByID | bulletinUpdateReadStatus _ =>
    BulletinDatabase.idTable
  | notifAlreadyAdded | notifGetReadStatusByID | notifUpdateReadStatus _ =>
    NotifDatabase.idTable
  | savedAlreadyAdded | savedDeleteByID => SavedDatabase.idTable

def verb : Lookup → Verb
  | articleGetArticleById | bulletinGetArticleByID => .select none
  | bulletinGetReadStatusByID => .select (some "READ")
  | bulletinUpdateReadStatus alreadyRead => .update "READ" [if alreadyRead then '1' else '0']
  | notifAlreadyAdded => .select (some "NOTIF_ID")
  | notifGetReadStatusByID => .select (some "NOTIFIED")
  | notifUpdateReadStatus notified => .update "NOTIFIED" [if notified then '1' else '0']
  | savedAlreadyAdded => .select (some "IDS")
  | savedDeleteByID => .delete

/-- The rows that the statement for an ID is about. -/
def rowsOf (lookup : Lookup) (id : String) (rows : List lookup.idTable.Row) :
    Option (List lookup.idTable.Row) :=
  Library.rowsOf lookup.idTable.columns (lookup.query id) rows

/-- The statement is well-formed, and about exactly the rows with the ID. -/
def Exact (lookup : Lookup) (id : String) : Prop :=
  ∀ rows, lookup.rowsOf id rows = some (rows.filter (lookup.idTable.key · == id))

/-- The ID is pasted where the statement starts its comparison. -/
theorem query_pasted (lookup : Lookup) : ∃ before,
    (∀ id, lookup.query id = before ++ id ++ "'") ∧
      PastedAfter before lookup.verb lookup.idTable.table lookup.idTable.name := by
  cases lookup with
  | bulletinUpdateReadStatus alreadyRead =>
    cases alreadyRead <;> exact ⟨_, fun _ => rfl, by decide +kernel⟩
  | notifUpdateReadStatus notified =>
    cases notified <;> exact ⟨_, fun _ => rfl, by decide +kernel⟩
  | _ => exact ⟨_, fun _ => rfl, by decide +kernel⟩

/-- Lookups in one table ask the same of a row. -/
theorem conditionOf_eq (lookup : Lookup) (id : String) :
    conditionOf lookup.idTable.columns (lookup.query id) =
      pastedCondition lookup.idTable.columns lookup.idTable.name id := by
  obtain ⟨before, query, pasted⟩ := lookup.query_pasted
  rw [query]
  exact pasted.conditionOf_eq _ _

/-- A plain ID is looked up as itself. -/
theorem conditionOf_of_plain (lookup : Lookup) {id : String} (plain : PlainText id) :
    conditionOf lookup.idTable.columns (lookup.query id) =
      some (lookup.idTable.key · == id) := by
  rw [conditionOf_eq, pastedCondition_of_plain lookup.idTable.keyed plain]

theorem rowsOf_of_plain (lookup : Lookup) {id : String} (plain : PlainText id)
    (rows : List lookup.idTable.Row) :
    lookup.rowsOf id rows = some (rows.filter (lookup.idTable.key · == id)) := by
  rw [rowsOf, Library.rowsOf, lookup.conditionOf_of_plain plain, Option.map_some]

/-- A lookup means exactly its ID if and only if the ID has no quote and no U+0000. -/
theorem exact_iff (lookup : Lookup) (id : String) : lookup.Exact id ↔ PlainText id := by
  obtain ⟨before, query, pasted⟩ := lookup.query_pasted
  rw [← pasted.rowsOf_exact_iff lookup.idTable.keyed]
  exact forall_congr' fun rows => by rw [rowsOf, query]

/-- A quote that closes the literal makes the deletion one of every bookmark, and one
that does not leaves no statement. -/
theorem quoted_id_not_exact :
    readText (savedDeleteByID.query "' OR '1'='1") = some ⟨.delete, "SAVED_TABLE",
        [[⟨.column "IDS", .literal []⟩], [⟨.literal ['1'], .literal ['1']⟩]]⟩ ∧
      savedDeleteByID.rowsOf "' OR '1'='1" [SavedDatabase.idTable.withKey "a"] =
        some [SavedDatabase.idTable.withKey "a"] ∧
      ¬ savedDeleteByID.Exact "' OR '1'='1" ∧
      readText (articleGetArticleById.query "'") = none ∧
      ¬ articleGetArticleById.Exact "'" := by
  have read : readText (savedDeleteByID.query "' OR '1'='1") = some ⟨.delete, "SAVED_TABLE",
      [[⟨.column "IDS", .literal []⟩], [⟨.literal ['1'], .literal ['1']⟩]]⟩ := by
    decide +kernel
  have unread : readText (articleGetArticleById.query "'") = none := by decide +kernel
  have selected : savedDeleteByID.rowsOf "' OR '1'='1" [SavedDatabase.idTable.withKey "a"] =
      some [SavedDatabase.idTable.withKey "a"] := by
    rw [rowsOf, Library.rowsOf, conditionOf, read]
    rfl
  refine ⟨read, selected, ?_, unread, ?_⟩
  · intro exact
    have none := Option.some.inj (selected.symm.trans (exact _))
    simp [idTable, SavedDatabase.idTable] at none
  · intro exact
    have wrong := exact []
    rw [rowsOf, Library.rowsOf, conditionOf, unread] at wrong
    cases wrong

end Lookup

end AhsApp.Android
