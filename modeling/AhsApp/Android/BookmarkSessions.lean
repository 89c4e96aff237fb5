import AhsApp.Android.Database
import AhsApp.Library.Run
import Mathlib.Data.List.Nodup

/-! Bookmarks. Every open article page acts on the bookmark it read when it was
opened, and writes it when its back button is pressed. -/

namespace AhsApp.Android

open AhsApp.Library Table

/-- What `ArticleActivity` and `Bulletin_Article_Activity` show. -/
inductive ArticlePage where
  | article (article : Article)
  | bulletin (data : BulletinArticle)
  deriving DecidableEq

def ArticlePage.id : ArticlePage → String
  | .article data => data.id
  | .bulletin data => data.id

structure Bookmark where
  saved : Bool
  savedCopy : Bool
  deriving DecidableEq

/-- An open page; `ArticleActivity` posts the reading of its bookmark. -/
structure BookmarkSession where
  page : ArticlePage
  bookmark : Option Bookmark
  deriving DecidableEq

/-- The table, and the pages in the order they were opened, `none` once closed. -/
structure Bookmarks where
  table : Table SavedRow
  sessions : List (Option BookmarkSession)
  deriving DecidableEq

def readBookmark (page : ArticlePage) (table : Table SavedRow) : Option BookmarkSession := do
  let added ← SavedDatabase.alreadyAdded page.id table
  some ⟨page, some ⟨added, added⟩⟩

/-- The insert of a bookmark may fail, which nothing checks. -/
def updateSavedStatus (json : JsonText) (insertFails : Bool) (page : ArticlePage) (saved : Bool)
    (table : Table SavedRow) : Option (Table SavedRow) :=
  if saved then
    match page with
    | .article article => some (SavedDatabase.add json (fun _ => insertFails) [article] table).2
    | .bulletin data => some (SavedDatabase.addBulletin (fun _ => insertFails) [data] table).2
  else SavedDatabase.deleteByID page.id table

/-- The back button writes a bookmark that was changed. -/
def writeBookmark (json : JsonText) (insertFails : Bool) (page : ArticlePage)
    (bookmark : Bookmark) (table : Table SavedRow) : Option (Table SavedRow) :=
  if bookmark.saved ≠ bookmark.savedCopy then
    updateSavedStatus json insertFails page bookmark.saved table
  else some table

namespace Bookmarks

def install : Bookmarks := ⟨idle [], []⟩

def session (state : Bookmarks) (index : Nat) : Option BookmarkSession :=
  state.sessions[index]?.join

def setSession (index : Nat) (session : Option BookmarkSession) (state : Bookmarks) :
    Bookmarks :=
  { state with sessions := state.sessions.set index session }

def onCreate (page : ArticlePage) (state : Bookmarks) : Option Bookmarks :=
  match page with
  | .article _ => some { state with sessions := state.sessions ++ [some ⟨page, none⟩] }
  | .bulletin _ => do
    let session ← readBookmark page state.table
    some { state with sessions := state.sessions ++ [some session] }

def runPosted (index : Nat) (state : Bookmarks) : Option Bookmarks := do
  let session ← state.session index
  match session.bookmark with
  | some _ => none
  | none =>
    let session ← readBookmark session.page state.table
    some (state.setSession index (some session))

def toggle (index : Nat) (state : Bookmarks) : Option Bookmarks := do
  let session ← state.session index
  let bookmark ← session.bookmark
  let bookmark := { bookmark with saved := !bookmark.saved }
  some (state.setSession index (some { session with bookmark := some bookmark }))

def backButton (json : JsonText) (index : Nat) (insertFails : Bool) (state : Bookmarks) :
    Option Bookmarks := do
  let session ← state.session index
  let bookmark ← session.bookmark
  let table ← writeBookmark json insertFails session.page bookmark state.table
  some (setSession index none { state with table })

def systemBack (index : Nat) (state : Bookmarks) : Option Bookmarks := do
  let _ ← state.session index
  some (state.setSession index none)

end Bookmarks

inductive BookmarkEvent where
  | onCreate (page : ArticlePage)
  | runPosted (index : Nat)
  | toggle (index : Nat)
  | backButton (index : Nat) (insertFails : Bool)
  | systemBack (index : Nat)

def bookmarkStep (json : JsonText) (state : Bookmarks) : BookmarkEvent → Option Bookmarks
  | .onCreate page => state.onCreate page
  | .runPosted index => state.runPosted index
  | .toggle index => state.toggle index
  | .backButton index insertFails => state.backButton json index insertFails
  | .systemBack index => state.systemBack index

def bookmarkIDs (table : Table SavedRow) : List String := table.rows.map SavedRow.ids

def UniqueBookmarks (state : Bookmarks) : Prop := (bookmarkIDs state.table).Nodup

/-- A page that closes through its back button leaves the bookmark it was showing. -/
def BackAgrees (json : JsonText) (state : Bookmarks) : BookmarkEvent → Prop
  | .backButton index insertFails => ∀ session bookmark next,
      state.session index = some session → session.bookmark = some bookmark →
        bookmarkStep json state (.backButton index insertFails) = some next →
          SavedDatabase.alreadyAdded session.page.id next.table = some bookmark.saved
  | _ => True

/-- The row that the page adds. -/
def ArticlePage.savedValues (json : JsonText) : ArticlePage → SavedRow
  | .article data => data.savedValues json
  | .bulletin data => data.savedValues

/-- A bookmark that is not written still agrees with the table. One that is added
finds no row with its ID, and the statement of a lookup asks for the row that is added, as
it does for every plain ID, or finds one already. -/
def WriteSound (json : JsonText) (insertFails : Bool) (page : ArticlePage) (bookmark : Bookmark)
    (table : Table SavedRow) : Prop :=
  if bookmark.saved = bookmark.savedCopy ∨ bookmark.saved = true ∧ insertFails = true then
    SavedDatabase.alreadyAdded page.id table = some bookmark.saved
  else bookmark.saved = true → page.id ∉ bookmarkIDs table ∧
    (SavedDatabase.alreadyAdded page.id (idle [page.savedValues json]) = some true ∨
      SavedDatabase.alreadyAdded page.id table = some true)

def BackSound (json : JsonText) (state : Bookmarks) : BookmarkEvent → Prop
  | .backButton index insertFails => ∀ session bookmark,
      state.session index = some session → session.bookmark = some bookmark →
        WriteSound json insertFails session.page bookmark state.table
  | _ => True

private theorem alreadyAdded_eq_some {id : String} {table : Table SavedRow} {added : Bool} :
    SavedDatabase.alreadyAdded id table = some added ↔ ∃ selected,
      conditionOf SavedDatabase.textColumns (SavedDatabase.alreadyAddedQuery id) =
        some selected ∧ ((∃ row ∈ table.rows, selected row = true) ↔ added = true) := by
  simp only [SavedDatabase.alreadyAdded, rowsOf, Option.bind_eq_bind, Option.bind_eq_some_iff,
    Option.map_eq_some_iff, Option.some.injEq]
  constructor
  · rintro ⟨_, ⟨selected, asked, rfl⟩, rfl⟩
    refine ⟨selected, asked, ?_⟩
    simp [List.length_pos_iff_exists_mem]
  · rintro ⟨selected, asked, agrees⟩
    refine ⟨_, ⟨selected, asked, rfl⟩, ?_⟩
    rw [Bool.eq_iff_iff, ← agrees]
    simp [List.length_pos_iff_exists_mem]

/-- A row that a lookup asks for is found with the row alone, and with any others. -/
theorem alreadyAdded_append_iff {id : String} {table after : Table SavedRow} {row : SavedRow}
    (appended : after.rows = table.rows ++ [row]) :
    SavedDatabase.alreadyAdded id after = some true ↔
      SavedDatabase.alreadyAdded id (idle [row]) = some true ∨
        SavedDatabase.alreadyAdded id table = some true := by
  have alone : (idle [row]).rows = [row] := rfl
  simp only [alreadyAdded_eq_some, appended, alone, iff_true, List.mem_append,
    List.mem_singleton, exists_eq_left]
  constructor
  · rintro ⟨selected, asked, found, old | rfl, held⟩
    · exact .inr ⟨selected, asked, found, old, held⟩
    · exact .inl ⟨selected, asked, held⟩
  · rintro (⟨selected, asked, held⟩ | ⟨selected, asked, found, old, held⟩)
    · exact ⟨selected, asked, row, .inr rfl, held⟩
    · exact ⟨selected, asked, found, .inl old, held⟩

/-- An added bookmark is one more row, unless its insert fails. -/
theorem updateSavedStatus_add (json : JsonText) (insertFails : Bool) (page : ArticlePage)
    (table : Table SavedRow) :
    ∃ after, updateSavedStatus json insertFails page true table = some after ∧
      after.rows = table.rows ++ if insertFails then [] else [page.savedValues json] := by
  cases page with
  | article data =>
    refine ⟨_, rfl, ?_⟩
    rw [SavedDatabase.add, insertAll_eq, rows_execSQL]
    cases insertFails <;> rfl
  | bulletin data =>
    refine ⟨_, rfl, ?_⟩
    rw [SavedDatabase.addBulletin, insertAll_eq, rows_execSQL]
    cases insertFails <;> rfl

theorem ArticlePage.savedValues_ids (json : JsonText) (page : ArticlePage) :
    (page.savedValues json).ids = page.id := by
  cases page <;> rfl

/-- A deletion removes what a lookup of the ID asks for. -/
theorem deleteByID_spec {id : String} {table after : Table SavedRow}
    (deleted : SavedDatabase.deleteByID id table = some after) :
    (bookmarkIDs after).Sublist (bookmarkIDs table) ∧
      SavedDatabase.alreadyAdded id after = some false := by
  obtain ⟨selected, asked, result⟩ := Option.bind_eq_some_iff.mp deleted
  obtain rfl := Option.some.inj result
  constructor
  · rw [bookmarkIDs, rows_execSQL]
    exact List.filter_sublist.map _
  · have same : conditionOf SavedDatabase.textColumns (SavedDatabase.alreadyAddedQuery id) =
        some selected :=
      (Lookup.savedAlreadyAdded.conditionOf_eq id).trans
        ((Lookup.savedDeleteByID.conditionOf_eq id).symm.trans asked)
    refine alreadyAdded_eq_some.mpr ⟨selected, same, ?_⟩
    simp [rows_execSQL]

/-- A write keeps the IDs unique and leaves what the page was showing exactly when it
is sound. -/
theorem writeBookmark_exact (json : JsonText) (insertFails : Bool) (page : ArticlePage)
    (bookmark : Bookmark) {table : Table SavedRow} (unique : (bookmarkIDs table).Nodup) :
    (∀ after, writeBookmark json insertFails page bookmark table = some after →
      (bookmarkIDs after).Nodup ∧
        SavedDatabase.alreadyAdded page.id after = some bookmark.saved) ↔
      WriteSound json insertFails page bookmark table := by
  by_cases same : bookmark.saved = bookmark.savedCopy
  · simp [writeBookmark, WriteSound, same, unique]
  obtain ⟨saved, savedCopy⟩ := bookmark
  cases saved with
  | false =>
    refine iff_of_true ?_ (by simp [WriteSound, same])
    intro after written
    rw [writeBookmark, if_pos same] at written
    obtain ⟨fewer, gone⟩ := deleteByID_spec written
    exact ⟨unique.sublist fewer, gone⟩
  | true =>
    obtain ⟨after, added, rows⟩ := updateSavedStatus_add json insertFails page table
    have written : writeBookmark json insertFails page ⟨true, savedCopy⟩ table = some after := by
      rw [writeBookmark, if_pos same]
      exact added
    have changed : ¬ true = savedCopy := same
    cases insertFails with
    | true =>
      have unchanged : after.rows = table.rows := rows.trans (List.append_nil _)
      have ids : bookmarkIDs after = bookmarkIDs table := congrArg (List.map _) unchanged
      simp [written, WriteSound, ids, unique, alreadyAdded_eq_some, unchanged]
    | false =>
      have ids : bookmarkIDs after = bookmarkIDs table ++ [page.id] := by
        rw [bookmarkIDs, rows, List.map_append]
        exact congrArg (_ ++ [·]) (page.savedValues_ids json)
      have fresh : (bookmarkIDs after).Nodup ↔ page.id ∉ bookmarkIDs table := by
        rw [ids, ← List.concat_eq_append, List.nodup_concat, and_iff_left unique]
      simp only [written, Option.some.injEq, forall_eq', WriteSound, Bool.false_eq_true,
        and_false, or_false, changed, if_false, true_implies, fresh,
        alreadyAdded_append_iff rows]

private theorem backButton_eq_some {json : JsonText} {index : Nat} {insertFails : Bool}
    {state next : Bookmarks} :
    bookmarkStep json state (.backButton index insertFails) = some next ↔
      ∃ session bookmark after, state.session index = some session ∧
        session.bookmark = some bookmark ∧
        writeBookmark json insertFails session.page bookmark state.table = some after ∧
          next = Bookmarks.setSession index none { state with table := after } := by
  simp only [bookmarkStep, Bookmarks.backButton, Option.bind_eq_bind, Option.bind_eq_some_iff,
    Option.some.injEq]
  constructor
  · rintro ⟨session, alive, bookmark, read, after, written, rfl⟩
    exact ⟨session, bookmark, after, alive, read, written, rfl⟩
  · rintro ⟨session, bookmark, after, alive, read, written, rfl⟩
    exact ⟨session, alive, bookmark, read, after, written, rfl⟩

private theorem bookmarkStep_table {json : JsonText} {state next : Bookmarks}
    {event : BookmarkEvent}
    (other : ∀ index insertFails, event ≠ .backButton index insertFails)
    (taken : bookmarkStep json state event = some next) : next.table = state.table := by
  cases event with
  | onCreate page =>
    cases page with
    | article data => exact Option.some.inj taken ▸ rfl
    | bulletin data =>
      simp only [bookmarkStep, Bookmarks.onCreate, Option.bind_eq_bind, Option.bind_eq_some_iff,
        Option.some.injEq] at taken
      obtain ⟨_, _, rfl⟩ := taken
      rfl
  | runPosted index =>
    simp only [bookmarkStep, Bookmarks.runPosted, Option.bind_eq_bind,
      Option.bind_eq_some_iff] at taken
    obtain ⟨session, _, read⟩ := taken
    split at read
    · cases read
    · obtain ⟨_, _, read⟩ := Option.bind_eq_some_iff.mp read
      exact Option.some.inj read ▸ rfl
  | toggle index =>
    simp only [bookmarkStep, Bookmarks.toggle, Option.bind_eq_bind, Option.bind_eq_some_iff,
      Option.some.injEq] at taken
    obtain ⟨_, _, _, _, rfl⟩ := taken
    rfl
  | backButton index insertFails => exact absurd rfl (other index insertFails)
  | systemBack index =>
    simp only [bookmarkStep, Bookmarks.systemBack, Option.bind_eq_bind, Option.bind_eq_some_iff,
      Option.some.injEq] at taken
    obtain ⟨_, _, rfl⟩ := taken
    rfl

private theorem bookmarkStep_exact {json : JsonText} {state : Bookmarks} {event : BookmarkEvent}
    (unique : UniqueBookmarks state) :
    (∀ next, bookmarkStep json state event = some next → UniqueBookmarks next) ∧
      BackAgrees json state event ↔ BackSound json state event := by
  by_cases back : ∃ index insertFails, event = .backButton index insertFails
  · obtain ⟨index, insertFails, rfl⟩ := back
    constructor
    · rintro ⟨kept, agrees⟩ session bookmark alive read
      refine (writeBookmark_exact json insertFails session.page bookmark unique).mp ?_
      intro after written
      obtain ⟨next, taken, rfl⟩ : ∃ next,
          bookmarkStep json state (.backButton index insertFails) = some next ∧
            next.table = after :=
        ⟨_, backButton_eq_some.mpr ⟨session, bookmark, after, alive, read, written, rfl⟩, rfl⟩
      exact ⟨kept next taken, agrees session bookmark next alive read taken⟩
    · intro sound
      have exact : ∀ session bookmark after, state.session index = some session →
          session.bookmark = some bookmark →
          writeBookmark json insertFails session.page bookmark state.table = some after →
          (bookmarkIDs after).Nodup ∧
            SavedDatabase.alreadyAdded session.page.id after = some bookmark.saved :=
        fun session bookmark after alive read =>
          (writeBookmark_exact json insertFails session.page bookmark unique).mpr
            (sound session bookmark alive read) after
      constructor
      · intro next taken
        obtain ⟨session, bookmark, after, alive, read, written, rfl⟩ := backButton_eq_some.mp taken
        exact (exact session bookmark after alive read written).1
      · intro session bookmark next alive read taken
        obtain ⟨session', bookmark', after, alive', read', written, rfl⟩ :=
          backButton_eq_some.mp taken
        obtain rfl := Option.some.inj (alive.symm.trans alive')
        obtain rfl := Option.some.inj (read.symm.trans read')
        exact (exact session bookmark after alive read written).2
  · push Not at back
    have kept : ∀ next, bookmarkStep json state event = some next → UniqueBookmarks next :=
      fun next taken => by
        rw [UniqueBookmarks, bookmarkStep_table back taken]
        exact unique
    cases event with
    | backButton index insertFails => exact absurd rfl (back index insertFails)
    | _ => exact iff_of_true ⟨kept, trivial⟩ trivial

/-- The table never has two rows with one ID, and every page that closes through its
back button leaves what it was showing, if and only if every such write is sound. -/
theorem bookmarks_sound_iff (json : JsonText) (events : List BookmarkEvent) :
    Throughout (bookmarkStep json) UniqueBookmarks .install events ∧
        Along (bookmarkStep json) (BackAgrees json) .install events ↔
      Along (bookmarkStep json) (BackSound json) .install events :=
  throughout_and_along_iff bookmarkStep_exact List.nodup_nil

/-- Pages of bulletin articles never write JSON. -/
def noText : JsonText := ⟨fun _ _ => ""⟩

def club : BulletinArticle := ⟨"club", 0, "Club", "", .clubs, false⟩

def openedTwice : List BookmarkEvent :=
  [.onCreate (.bulletin club), .onCreate (.bulletin club), .toggle 0]

/-- Two pages of one article are open. Each adds its bookmark; or one adds it while
the other, which shows none, closes after it. -/
theorem overlapping_pages_disagree :
    (∃ state, run (bookmarkStep noText) .install
        (openedTwice ++ [.toggle 1, .backButton 0 false, .backButton 1 false]) = some state ∧
      ¬ UniqueBookmarks state) ∧
    ∃ state next, run (bookmarkStep noText) .install
        (openedTwice ++ [.backButton 0 false]) = some state ∧
      state.session 1 = some ⟨.bulletin club, some ⟨false, false⟩⟩ ∧
      bookmarkStep noText state (.backButton 1 false) = some next ∧
      SavedDatabase.alreadyAdded "club" next.table = some true := by
  refine ⟨⟨⟨idle [club.savedValues, club.savedValues], [none, none]⟩, by decide +kernel,
    fun unique => ?_⟩, ?_⟩
  · simp [UniqueBookmarks, bookmarkIDs, rows, idle] at unique
  exact ⟨⟨idle [club.savedValues], [none, some ⟨.bulletin club, some ⟨false, false⟩⟩]⟩,
    ⟨idle [club.savedValues], [none, none]⟩, by decide +kernel⟩

end AhsApp.Android
