import AhsApp.Android.CacheLookup

/-! What a cache holds and finds once lists were stored in it. -/

namespace AhsApp.Android

open AhsApp.Library

/-- A list that is stored as a whole or, if an insert fails, not at all. -/
def storedList {Item : Type} (fails : Nat → Bool) (items : List Item) : List Item :=
  if (List.range items.length).all fun index => !fails index then items else []

private theorem insertAllInTransaction_stored {Item Row : Type} (make : Item → Row)
    (fails : Nat → Bool)
    (items : List Item) (prior : List Row) :
    ((deleteAllRows (.idle prior)).insertAllInTransaction fails (items.map make)).2 =
      .idle ((storedList fails items).map make) := by
  rw [deleteAllRows_idle, storedList]
  by_cases none : Table.NoneFails fails (items.map make)
  · rw [Table.insertAllInTransaction_of_noneFails none, if_pos]
    · rfl
    · simpa [Table.NoneFails] using none
  · rw [Table.insertAllInTransaction_of_fails none, if_neg]
    · rfl
    · simpa [Table.NoneFails] using none

theorem ArticleDatabase.updateArticles_stored (json : JsonText) (fails : Nat → Bool)
    (articles : List Article) (prior : List ArticleRow) :
    updateArticles json fails articles (.idle prior) =
      .idle ((storedList fails articles).map (·.values json)) :=
  insertAllInTransaction_stored _ fails articles prior

theorem BulletinDatabase.updateArticles_stored (fails : Nat → Bool)
    (articles : List BulletinArticle) (prior : List BulletinRow) :
    updateArticles fails articles (.idle prior) =
      .idle ((storedList fails articles).map BulletinArticle.values) :=
  insertAllInTransaction_stored _ fails articles prior

theorem storedList_of_none {Item : Type} {fails : Nat → Bool} {items : List Item}
    (none : ∀ index < items.length, fails index = false) : storedList fails items = items := by
  rw [storedList, if_pos]
  simpa using none

theorem storedList_subset {Item : Type} (fails : Nat → Bool) (items : List Item) :
    storedList fails items ⊆ items := by
  rw [storedList]
  split
  · exact List.Subset.refl items
  · exact List.nil_subset items

theorem ArticleDatabase.queryArticleById_stored {json : JsonCodec} (roundTrips : json.RoundTrips)
    (articles : List Article) {id : String} (free : PlainText id) :
    queryArticleById json id (.idle (articles.map (·.values json.toJsonText))) =
      some (articles.find? (·.id == id)) := by
  have found := Lookup.articleGetArticleById.rowsOf_of_plain free
    (articles.map (·.values json.toJsonText))
  calc queryArticleById json id (.idle (articles.map (·.values json.toJsonText)))
      = firstOf (articleFromCursor json)
          ((articles.map (·.values json.toJsonText)).filter (·.artID == id)) :=
        congrArg (Option.bind · (firstOf (articleFromCursor json))) found
    _ = some (articles.find? (·.id == id)) :=
        firstOf_filter_map (fun _ => rfl) (articleFromCursor_values roundTrips) articles id

theorem BulletinDatabase.queryArticleByID_stored (articles : List BulletinArticle) {id : String}
    (free : PlainText id) : queryArticleByID id (.idle (articles.map BulletinArticle.values)) =
      some (articles.find? (·.id == id)) := by
  have found := Lookup.bulletinGetArticleByID.rowsOf_of_plain free
    (articles.map BulletinArticle.values)
  calc queryArticleByID id (.idle (articles.map BulletinArticle.values))
      = firstOf articleFromCursor
          ((articles.map BulletinArticle.values).filter (·.bulID == id)) :=
        congrArg (Option.bind · (firstOf articleFromCursor)) found
    _ = some (articles.find? (·.id == id)) :=
        firstOf_filter_map (fun _ => rfl) articleFromCursor_values articles id

/-- Marking stored articles stores the marked articles. -/
theorem BulletinDatabase.updateReadStatus_stored (articles : List BulletinArticle)
    {data : BulletinArticle} (free : PlainText data.id) :
    updateReadStatus data (.idle (articles.map BulletinArticle.values)) =
      some (.idle ((articles.map fun article =>
        if article.id = data.id then { article with alreadyRead := data.alreadyRead }
        else article).map BulletinArticle.values)) := by
  have asked : conditionOf textColumns (updateReadStatusQuery data.alreadyRead data.id) =
      some (·.bulID == data.id) :=
    (Lookup.bulletinUpdateReadStatus data.alreadyRead).conditionOf_of_plain free
  rw [updateReadStatus, asked, Option.bind_eq_bind, Option.bind_some]
  simp only [Table.execSQL, Table.idle, List.map_map]
  congr 3
  funext article
  by_cases same : article.id = data.id <;> simp [BulletinArticle.values, same]

end AhsApp.Android
