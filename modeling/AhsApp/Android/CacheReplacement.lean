import AhsApp.Android.Database

/-! Replacing a cache. The deletion commits before the inserts start, so the
rollback of a failed replacement finds nothing to restore. -/

namespace AhsApp.Android

open AhsApp.Library Table

/-- Afterwards the table holds the new rows and no insert failed, or it holds its
prior rows and one did. -/
def AllOrNothing {Row : Type} (fails : Nat → Bool) (rows prior : List Row)
    (after : Table Row) : Prop :=
  (NoneFails fails rows ∧ after = idle rows) ∨ (¬ NoneFails fails rows ∧ after = idle prior)

theorem deleteAllRows_idle {Row : Type} (prior : List Row) :
    deleteAllRows (idle prior) = idle [] := rfl

private theorem idle_inj {Row : Type} {first second : List Row} :
    (idle first : Table Row) = idle second ↔ first = second :=
  ⟨fun same => congrArg Table.committed same, congrArg idle⟩

private theorem replace_in_transaction_iff {Row : Type} (fails : Nat → Bool)
    (rows prior : List Row) :
    AllOrNothing fails rows prior
        ((deleteAllRows (idle prior)).insertAllInTransaction fails rows).2 ↔
      NoneFails fails rows ∨ prior = [] := by
  rw [deleteAllRows_idle, AllOrNothing]
  by_cases none : NoneFails fails rows
  · simp [none, insertAllInTransaction_of_noneFails]
  · simp [none, insertAllInTransaction_of_fails none, idle_inj, eq_comm]

private theorem replace_rowwise_iff {Row : Type} (fails : Nat → Bool) (rows prior : List Row) :
    AllOrNothing fails rows prior ((deleteAllRows (idle prior)).insertAll fails rows).2 ↔
      NoneFails fails rows ∨ inserted fails rows = prior := by
  have left : ((deleteAllRows (idle prior)).insertAll fails rows).2 =
      idle (inserted fails rows) := by
    rw [deleteAllRows_idle, insertAll_eq]
    rfl
  rw [left, AllOrNothing, idle_inj, idle_inj]
  by_cases none : NoneFails fails rows
  · simp [none, inserted_of_noneFails none]
  · simp [none]

/-- When replacing each of the three caches is all-or-nothing. -/
theorem cache_replacement_iff (json : JsonText) (fails : Nat → Bool) :
    (∀ (prior : List ArticleRow) (articles : List Article),
      AllOrNothing fails (articles.map (·.values json)) prior
          (ArticleDatabase.updateArticles json fails articles (idle prior)) ↔
        NoneFails fails (articles.map (·.values json)) ∨ prior = []) ∧
    (∀ (prior : List BulletinRow) (articles : List BulletinArticle),
      AllOrNothing fails (articles.map BulletinArticle.values) prior
          (BulletinDatabase.updateArticles fails articles (idle prior)) ↔
        NoneFails fails (articles.map BulletinArticle.values) ∨ prior = []) ∧
    ∀ (prior : List NotifRow) (data : List NotifData),
      AllOrNothing fails (data.map NotifData.values) prior
          (NotifDatabase.updateData fails data (idle prior)) ↔
        NoneFails fails (data.map NotifData.values) ∨
          inserted fails (data.map NotifData.values) = prior :=
  ⟨fun prior _ => replace_in_transaction_iff fails _ prior,
    fun prior _ => replace_in_transaction_iff fails _ prior,
    fun prior _ => replace_rowwise_iff fails _ prior⟩

/-- A read bulletin article, alone in the table and in the refresh. -/
def readBulletin : BulletinArticle := ⟨"essay", 0, "", "", .academics, true⟩

theorem failed_refresh_empties_cache :
    ¬ AllOrNothing (fun _ => true) ([readBulletin].map BulletinArticle.values)
        [readBulletin.values]
        (BulletinDatabase.updateArticles (fun _ => true) [readBulletin]
          (idle [readBulletin.values])) ∧
      (BulletinDatabase.updateArticles (fun _ => true) [readBulletin]
        (idle [readBulletin.values])).rows = [] := by
  refine ⟨?_, rfl⟩
  intro kept
  rcases (replace_in_transaction_iff _ _ _).mp kept with none | empty
  · exact absurd (none 0 (by decide)) (by decide)
  · exact absurd empty (by decide)

end AhsApp.Android
