import AhsApp.Android.BookmarkSessions
import AhsApp.Android.SavedList
import AhsApp.Library.KeyedList
import Mathlib.Data.List.InsertIdx

/-! The list of the saved screen. It is read from the table when the screen is created;
afterwards the only change to it is that the item tapped last is removed when its page
reports that the bookmark has changed. -/

namespace AhsApp.Android

open AhsApp.Library

/-- What the adapter was given, and the position of the item tapped last. -/
structure SavedActivity where
  articles : List (Option ArticleOrBulletinHolder)
  position : Nat
  deriving DecidableEq

namespace SavedActivity

def onCreate (json : JsonCodec) (table : Table SavedRow) : Option SavedActivity := do
  let articles ← SavedDatabase.getAllArticlesFromNewestWithCallBack json table
  some ⟨articles, 0⟩

/-- `updateItemRemoved`; a position beyond the list removes nothing. -/
def updateItemRemoved (position : Nat) (activity : SavedActivity) : SavedActivity :=
  { activity with articles := activity.articles.eraseIdx position }

def onActivityResult (savedStatusChanged : Bool) (activity : SavedActivity) : SavedActivity :=
  if savedStatusChanged then activity.updateItemRemoved activity.position else activity

end SavedActivity

def ArticleOrBulletinHolder.page : ArticleOrBulletinHolder → ArticlePage
  | .article news => .article news
  | .bulletinArticle data => .bulletin data

/-- A screen on the stack. A page that a saved screen started for its result has that
screen below it; any other page may have been started from anywhere. -/
inductive Frame where
  | saved (activity : SavedActivity)
  | page (page : ArticlePage) (bookmark : Bookmark) (forResult : Bool)
  | other
  deriving DecidableEq

/-- The table and the stack of screens, the one in the foreground first. -/
structure Screens where
  table : Table SavedRow
  stack : List Frame
  deriving DecidableEq

namespace Screens

def install : Screens := ⟨Table.idle [], [.other]⟩

/-- A page opens with the bookmark it reads. `ArticleActivity` posts the reading, which
comes before anything that the user does next. -/
def openPage (page : ArticlePage) (forResult : Bool) (below : List Frame) (state : Screens) :
    Option Screens := do
  let added ← SavedDatabase.alreadyAdded page.id state.table
  some { state with stack := .page page ⟨added, added⟩ forResult :: below }

/-- The result of a page goes to the saved screen that started it, if one did. -/
def deliverResult (forResult savedStatusChanged : Bool) : List Frame → List Frame
  | .saved activity :: rest =>
    .saved (if forResult then activity.onActivityResult savedStatusChanged else activity) :: rest
  | stack => stack

end Screens

inductive ScreenEvent where
  | launch
  | startSaved
  | startOther
  | onItemClick (position : Nat)
  | openArticle (page : ArticlePage)
  | toggle
  | backButton (insertFails : Bool)
  | systemBack

/-- An event happens on the screen in the foreground; on another one it is not possible. A
page can open over any screen: a listener of a screen below starts it, or a notification. -/
def screenStep (json : JsonCodec) (state : Screens) : ScreenEvent → Option Screens
  | .launch => some { state with stack := [.other] }
  | .startSaved => do
    let activity ← SavedActivity.onCreate json state.table
    some { state with stack := .saved activity :: state.stack }
  | .startOther => some { state with stack := .other :: state.stack }
  | .onItemClick position =>
    match state.stack with
    | .saved activity :: rest => do
      let holder ← activity.articles[position]?.join
      state.openPage holder.page true (.saved { activity with position } :: rest)
    | _ => none
  | .openArticle page => state.openPage page false state.stack
  | .toggle =>
    match state.stack with
    | .page page bookmark forResult :: rest =>
      some { state with
        stack := .page page { bookmark with saved := !bookmark.saved } forResult :: rest }
    | _ => none
  | .backButton insertFails =>
    match state.stack with
    | .page page bookmark forResult :: rest => do
      let table ← writeBookmark json.toJsonText insertFails page bookmark state.table
      some ⟨table,
        Screens.deliverResult forResult (bookmark.saved != bookmark.savedCopy) rest⟩
    | _ => none
  | .systemBack =>
    match state.stack with
    | _ :: rest => some { state with stack := rest }
    | [] => none

abbrev screenRun (json : JsonCodec) : Screens → List ScreenEvent → Option Screens :=
  run (screenStep json)

def Frame.pageID : Frame → Option String
  | .page shown _ _ => some shown.id
  | _ => none

/-- The IDs of the open pages. -/
def openIDs (stack : List Frame) : List String := stack.filterMap Frame.pageID

/-- A page is not opened while another one of its ID is open. -/
def OnePagePerID (state : Screens) : ScreenEvent → Prop
  | .onItemClick position => ∀ activity holder,
      state.stack.head? = some (.saved activity) →
        activity.articles[position]?.join = some holder → holder.page.id ∉ openIDs state.stack
  | .openArticle page => page.id ∉ openIDs state.stack
  | _ => True

/-- No saved screen is on the stack. -/
def NoSaved (stack : List Frame) : Prop := ∀ activity, Frame.saved activity ∉ stack

/-- What is below a page but the saved screen that started it. -/
def unrelated (forResult : Bool) (below : List Frame) : List Frame :=
  if forResult then below.tail else below

/-- A page writes only while no saved screen is on the stack but the one that started it, and
the IDs of the pages are plain. -/
def WritesOwnList (state : Screens) : ScreenEvent → Prop
  | .openArticle page => PlainText page.id
  | .backButton _ => ∀ page bookmark forResult rest,
      state.stack = .page page bookmark forResult :: rest →
        bookmark.saved ≠ bookmark.savedCopy → NoSaved (unrelated forResult rest)
  | _ => True

/-- A page has an ID of its own, read whether it is saved, and, started by a saved screen, is
the item that was tapped there last. -/
structure PageValid (saved : List ArticleOrBulletinHolder) (below : List Frame)
    (page : ArticlePage) (bookmark : Bookmark) (forResult : Bool) : Prop where
  only : page.id ∉ openIDs below
  free : PlainText page.id
  read : bookmark.savedCopy = true ↔ ∃ holder ∈ saved, holder.id = page.id
  tapped : forResult = true → ∀ activity, below.head? = some (.saved activity) →
    ∃ holder, activity.articles[activity.position]? = some (some holder) ∧ holder.id = page.id

def FrameValid (saved : List ArticleOrBulletinHolder) (below : List Frame) : Frame → Prop
  | .saved activity => activity.articles = saved.reverse.map some
  | .page page bookmark forResult => PageValid saved below page bookmark forResult
  | .other => True

def StackValid (saved : List ArticleOrBulletinHolder) : List Frame → Prop
  | [] => True
  | frame :: rest => FrameValid saved rest frame ∧ StackValid saved rest

/-- The table represents the saved list, and every screen on the stack agrees with it. -/
structure Mirrored (json : JsonCodec) (saved : List ArticleOrBulletinHolder) (state : Screens) :
    Prop where
  table : Represents json state.table saved
  distinct : (saved.map (·.id)).Nodup
  free : ∀ holder ∈ saved, PlainText holder.id
  stack : StackValid saved state.stack

theorem Mirrored.install (json : JsonCodec) : Mirrored json [] Screens.install :=
  ⟨⟨rfl, by simp⟩, List.nodup_nil, by simp, trivial, trivial⟩

theorem ArticleOrBulletinHolder.page_id (holder : ArticleOrBulletinHolder) :
    holder.page.id = holder.id := by
  cases holder <;> rfl

/-- What is above a stack without saved screens may add or remove an article whose page
is not open there. -/
theorem StackValid.change {saved saved' : List ArticleOrBulletinHolder} {id : String}
    (others : ∀ other, other ≠ id →
      ((∃ holder ∈ saved', holder.id = other) ↔ ∃ holder ∈ saved, holder.id = other))
    {stack : List Frame} (valid : StackValid saved stack) (closed : id ∉ openIDs stack)
    (noSaved : NoSaved stack) : StackValid saved' stack := by
  induction stack with
  | nil => trivial
  | cons frame rest ih =>
    have later : NoSaved rest := fun activity member =>
      noSaved activity (List.mem_cons_of_mem frame member)
    have closed' : id ∉ openIDs rest := by
      intro member
      obtain ⟨page, inside, same⟩ := List.mem_filterMap.mp member
      exact closed (List.mem_filterMap.mpr ⟨page, List.mem_cons_of_mem frame inside, same⟩)
    refine ⟨?_, ih valid.2 closed' later⟩
    cases frame with
    | saved activity => exact absurd List.mem_cons_self (noSaved activity)
    | other => trivial
    | page page bookmark forResult =>
      have here : PageValid saved rest page bookmark forResult := valid.1
      have apart : page.id ≠ id := by
        intro same
        exact closed (by simp [openIDs, Frame.pageID, same])
      exact ⟨here.only, here.free, here.read.trans (others page.id apart).symm, here.tapped⟩

/-- What the back button leaves saved when the bookmark was changed. -/
theorem writeBookmark_spec {json : JsonCodec} {insertFails : Bool} {page : ArticlePage}
    {bookmark : Bookmark} {table table' : Table SavedRow} {saved : List ArticleOrBulletinHolder}
    (represented : Represents json table saved) (free : PlainText page.id)
    (changed : bookmark.saved ≠ bookmark.savedCopy)
    (written : writeBookmark json.toJsonText insertFails page bookmark table = some table') :
    (bookmark.saved = true ∧ Represents json table' saved) ∨
    (bookmark.saved = true ∧ ∃ holder, holder.id = page.id ∧
      Represents json table' (saved ++ [holder])) ∨
    (bookmark.saved = false ∧
      Represents json table' (saved.filter fun holder => holder.id ≠ page.id)) := by
  rw [writeBookmark, if_pos changed, updateSavedStatus.eq_def] at written
  cases on : bookmark.saved with
  | false =>
    rw [on, if_neg (by decide)] at written
    have plain : DeletesPlain (.deleteByID page.id) := free
    obtain ⟨next, deleted, represented⟩ := represented.step plain
    obtain rfl : next = table' := Option.some.inj (deleted.symm.trans written)
    exact Or.inr (Or.inr ⟨rfl, represented⟩)
  | true =>
    rw [on, if_pos rfl] at written
    cases insertFails with
    | true =>
      refine Or.inl ⟨rfl, ?_, represented.read⟩
      cases page with
      | article news =>
        obtain rfl := Option.some.inj written
        simp [SavedDatabase.add, Table.insertAll_eq, Table.rows_execSQL, Table.inserted,
          represented.rows]
      | bulletin data =>
        obtain rfl := Option.some.inj written
        simp [SavedDatabase.addBulletin, Table.insertAll_eq, Table.rows_execSQL, Table.inserted,
          represented.rows]
    | false =>
      refine Or.inr (Or.inl ⟨rfl, ?_⟩)
      cases page with
      | article news =>
        have plain : DeletesPlain (.add [news]) := trivial
        obtain ⟨next, added, represented⟩ := represented.step plain
        obtain rfl : next = table' := Option.some.inj (added.symm.trans written)
        exact ⟨.article news, rfl, represented⟩
      | bulletin data =>
        have plain : DeletesPlain (.addBulletin [data]) := trivial
        obtain ⟨next, added, represented⟩ := represented.step plain
        obtain rfl : next = table' := Option.some.inj (added.symm.trans written)
        exact ⟨.bulletinArticle { data with alreadyRead := true }, rfl, represented⟩

private theorem deliverResult_unchanged (forResult : Bool) (stack : List Frame) :
    Screens.deliverResult forResult false stack = stack := by
  cases stack with
  | nil => rfl
  | cons frame rest => cases frame <;> cases forResult <;> rfl

private theorem deliverResult_unrequested (savedStatusChanged : Bool) (stack : List Frame) :
    Screens.deliverResult false savedStatusChanged stack = stack := by
  cases stack with
  | nil => rfl
  | cons frame rest => cases frame <;> rfl

private theorem deliverResult_of_noSaved {stack : List Frame} (none : NoSaved stack)
    (forResult savedStatusChanged : Bool) :
    Screens.deliverResult forResult savedStatusChanged stack = stack := by
  cases stack with
  | nil => rfl
  | cons frame rest =>
    cases frame with
    | saved activity => exact absurd List.mem_cons_self (none activity)
    | page page bookmark forResult => rfl
    | other => rfl

theorem NoSaved.of_tail {stack : List Frame}
    (none : ∀ activity, stack.head? ≠ some (.saved activity)) (tail : NoSaved stack.tail) :
    NoSaved stack := by
  intro activity member
  cases stack with
  | nil => simp at member
  | cons frame rest =>
    rcases List.mem_cons.mp member with rfl | member
    · exact none activity rfl
    · exact tail activity member

private theorem removed_articles {saved : List ArticleOrBulletinHolder}
    (distinct : (saved.map (·.id)).Nodup) {position : Nat} {holder : ArticleOrBulletinHolder}
    (found : (saved.reverse.map some)[position]? = some (some holder)) :
    (saved.reverse.map some).eraseIdx position =
      (saved.filter fun other => other.id ≠ holder.id).reverse.map some := by
  have there : saved.reverse[position]? = some holder := by
    rw [List.getElem?_map] at found
    obtain ⟨other, there, same⟩ := Option.map_eq_some_iff.mp found
    exact there.trans same
  have unique : (saved.reverse.map (·.id)).Nodup := by
    rw [List.map_reverse]
    exact List.nodup_reverse.mpr distinct
  rw [← List.filter_reverse, filter_ne_eq_eraseIdx unique there, List.eraseIdx_map]

namespace Mirrored

variable {json : JsonCodec} {saved : List ArticleOrBulletinHolder} {state next : Screens}

private theorem openPage (valid : Mirrored json saved state) {below : List Frame}
    {page : ArticlePage}
    {forResult : Bool} (stack : StackValid saved below) (only : page.id ∉ openIDs below)
    (free : PlainText page.id)
    (tapped : forResult = true → ∀ activity, below.head? = some (.saved activity) →
      ∃ holder, activity.articles[activity.position]? = some (some holder) ∧ holder.id = page.id)
    (opened : state.openPage page forResult below = some next) : Mirrored json saved next := by
  obtain ⟨added, read, result⟩ := Option.bind_eq_some_iff.mp opened
  obtain rfl := Option.some.inj result
  rw [valid.table.alreadyAdded free] at read
  obtain rfl := Option.some.inj read
  exact ⟨valid.table, valid.distinct, valid.free, ⟨only, free, decide_eq_true_iff, tapped⟩, stack⟩

private theorem noSaved_of_unsaved {table : Table SavedRow} {page : ArticlePage}
    {bookmark : Bookmark}
    {forResult : Bool} {rest : List Frame}
    (valid : Mirrored json saved ⟨table, .page page bookmark forResult :: rest⟩)
    (unsaved : page.id ∉ saved.map (·.id)) (others : NoSaved (unrelated forResult rest)) :
    NoSaved rest := by
  cases forResult with
  | false => exact others
  | true =>
    refine NoSaved.of_tail ?_ others
    intro activity head
    obtain ⟨_, _, _, pageValid, below⟩ := valid
    obtain ⟨holder, found, named⟩ := pageValid.tapped rfl activity head
    have listed : activity.articles = saved.reverse.map some := by
      cases rest with
      | nil => simp at head
      | cons frame rest =>
        obtain rfl : frame = .saved activity := Option.some.inj head
        exact below.1
    rw [listed] at found
    have member : holder ∈ saved := by
      simpa using List.mem_of_getElem? found
    exact unsaved (List.mem_map.mpr ⟨holder, member, named⟩)

private theorem closeAdded {table table' : Table SavedRow} {page : ArticlePage}
    {bookmark : Bookmark}
    {forResult : Bool} {rest : List Frame} {holder : ArticleOrBulletinHolder}
    (valid : Mirrored json saved ⟨table, .page page bookmark forResult :: rest⟩)
    (unsaved : page.id ∉ saved.map (·.id)) (noSaved : NoSaved rest) (named : holder.id = page.id)
    (added : Represents json table' (saved ++ [holder])) :
    Mirrored json (saved ++ [holder]) ⟨table', rest⟩ := by
  obtain ⟨_, distinct, free, pageValid, below⟩ := valid
  refine ⟨added, ?_, ?_, below.change ?_ pageValid.only noSaved⟩
  · rw [List.map_append, List.nodup_append]
    refine ⟨distinct, by simp, ?_⟩
    intro id member other single
    obtain rfl : other = page.id := by simpa [named] using single
    intro equal
    exact unsaved (equal ▸ member)
  · intro other member
    rcases List.mem_append.mp member with member | member
    · exact free other member
    · obtain rfl := List.mem_singleton.mp member
      exact named ▸ pageValid.free
  · intro other apart
    simp [named, Ne.symm apart]

private theorem closeRemoved {table table' : Table SavedRow} {page : ArticlePage}
    {bookmark : Bookmark}
    {forResult : Bool} {rest : List Frame}
    (valid : Mirrored json saved ⟨table, .page page bookmark forResult :: rest⟩)
    (noSaved : NoSaved (unrelated forResult rest))
    (removed : Represents json table' (saved.filter fun holder => holder.id ≠ page.id)) :
    Mirrored json (saved.filter fun holder => holder.id ≠ page.id)
      ⟨table', Screens.deliverResult forResult true rest⟩ := by
  obtain ⟨_, distinct, free, pageValid, below⟩ := valid
  have kept : ∀ other, other ≠ page.id →
      ((∃ holder ∈ saved.filter fun holder => holder.id ≠ page.id, holder.id = other) ↔
        ∃ holder ∈ saved, holder.id = other) := by
    intro other apart
    constructor
    · rintro ⟨holder, member, named⟩
      exact ⟨holder, List.mem_of_mem_filter member, named⟩
    · rintro ⟨holder, member, rfl⟩
      exact ⟨holder, List.mem_filter.mpr ⟨member, decide_eq_true apart⟩, rfl⟩
  refine ⟨removed, distinct.sublist (List.filter_sublist.map _),
    fun holder member => free holder (List.mem_of_mem_filter member), ?_⟩
  cases forResult with
  | false =>
    rw [deliverResult_unrequested]
    exact below.change kept pageValid.only noSaved
  | true =>
    cases rest with
    | nil => trivial
    | cons frame rest =>
      cases frame with
      | saved activity =>
        obtain ⟨holder, found, named⟩ := pageValid.tapped rfl activity rfl
        have listed : activity.articles = saved.reverse.map some := below.1
        refine ⟨?_, below.2.change kept pageValid.only noSaved⟩
        rw [listed] at found
        have erased := removed_articles distinct found
        rw [named] at erased
        exact (congrArg (List.eraseIdx · activity.position) listed).trans erased
      | other => exact ⟨trivial, below.2.change kept pageValid.only noSaved⟩
      | page opener bookmark opened =>
        have none : NoSaved (.page opener bookmark opened :: rest) :=
          NoSaved.of_tail (by simp) noSaved
        exact below.change kept pageValid.only none

theorem backButton {insertFails : Bool} {page : ArticlePage} {bookmark : Bookmark}
    {forResult : Bool} {rest : List Frame} {table : Table SavedRow}
    (valid : Mirrored json saved ⟨table, .page page bookmark forResult :: rest⟩)
    (ownList : bookmark.saved ≠ bookmark.savedCopy → NoSaved (unrelated forResult rest))
    {table' : Table SavedRow}
    (written : writeBookmark json.toJsonText insertFails page bookmark table = some table') :
    ∃ saved', Mirrored json saved'
      ⟨table', Screens.deliverResult forResult (bookmark.saved != bookmark.savedCopy) rest⟩ := by
  have pageValid : PageValid saved rest page bookmark forResult := valid.stack.1
  by_cases same : bookmark.saved = bookmark.savedCopy
  · obtain rfl : table = table' := by
      rw [writeBookmark, if_neg (not_not.mpr same)] at written
      exact Option.some.inj written
    have unchanged : (bookmark.saved != bookmark.savedCopy) = false := by simp [same]
    rw [unchanged, deliverResult_unchanged]
    exact ⟨saved, valid.table, valid.distinct, valid.free, valid.stack.2⟩
  have changed : (bookmark.saved != bookmark.savedCopy) = true := by simp [same]
  rw [changed]
  have unsaved : bookmark.saved = true → page.id ∉ saved.map (·.id) := by
    intro on member
    obtain ⟨old, inside, named⟩ := List.mem_map.mp member
    exact same (on.trans (pageValid.read.mpr ⟨old, inside, named⟩).symm)
  rcases writeBookmark_spec valid.table pageValid.free same written with
    ⟨on, kept⟩ | ⟨on, holder, named, added⟩ | ⟨off, removed⟩
  · rw [deliverResult_of_noSaved (valid.noSaved_of_unsaved (unsaved on) (ownList same))]
    exact ⟨saved, kept, valid.distinct, valid.free, valid.stack.2⟩
  · have none := valid.noSaved_of_unsaved (unsaved on) (ownList same)
    rw [deliverResult_of_noSaved none]
    exact ⟨_, valid.closeAdded (unsaved on) none named added⟩
  · exact ⟨_, valid.closeRemoved (ownList same) removed⟩

theorem step (roundTrips : json.RoundTrips) {event : ScreenEvent}
    (valid : Mirrored json saved state) (one : OnePagePerID state event)
    (sound : WritesOwnList state event) (taken : screenStep json state event = some next) :
    ∃ saved', Mirrored json saved' next := by
  obtain ⟨table, stack⟩ := state
  cases event with
  | launch =>
    obtain rfl := Option.some.inj taken
    exact ⟨saved, valid.table, valid.distinct, valid.free, trivial, trivial⟩
  | startSaved =>
    obtain ⟨activity, created, result⟩ := Option.bind_eq_some_iff.mp taken
    obtain ⟨articles, loaded, made⟩ := Option.bind_eq_some_iff.mp created
    obtain rfl := Option.some.inj made
    obtain rfl := Option.some.inj result
    rw [valid.table.newest roundTrips] at loaded
    have listed : articles = saved.reverse.map some := (Option.some.inj loaded).symm
    exact ⟨saved, valid.table, valid.distinct, valid.free, listed, valid.stack⟩
  | startOther =>
    obtain rfl := Option.some.inj taken
    exact ⟨saved, valid.table, valid.distinct, valid.free, trivial, valid.stack⟩
  | onItemClick position =>
    rw [screenStep] at taken
    split at taken
    · rename_i activity rest top
      obtain rfl : stack = .saved activity :: rest := top
      obtain ⟨holder, found, opened⟩ := Option.bind_eq_some_iff.mp taken
      have there : activity.articles[position]? = some (some holder) :=
        Option.join_eq_some_iff.mp found
      have listed : activity.articles = saved.reverse.map some := valid.stack.1
      have member : holder ∈ saved := by
        rw [listed] at there
        simpa using List.mem_of_getElem? there
      have free : PlainText holder.page.id := holder.page_id ▸ valid.free holder member
      have stack : StackValid saved (.saved { activity with position } :: rest) :=
        ⟨listed, valid.stack.2⟩
      refine ⟨saved, valid.openPage stack ?_ free ?_ opened⟩
      · exact one activity holder rfl found
      · intro _ shown head
        obtain rfl : { activity with position } = shown := by simpa using head
        exact ⟨holder, there, holder.page_id.symm⟩
    · simp at taken
  | openArticle page =>
    have opened : Screens.openPage page false stack ⟨table, stack⟩ = some next := taken
    exact ⟨saved, valid.openPage valid.stack one sound (by simp) opened⟩
  | toggle =>
    rw [screenStep] at taken
    split at taken
    · rename_i page bookmark forResult rest top
      obtain rfl : stack = .page page bookmark forResult :: rest := top
      obtain rfl := Option.some.inj taken
      have here : PageValid saved rest page bookmark forResult := valid.stack.1
      exact ⟨saved, valid.table, valid.distinct, valid.free,
        ⟨here.only, here.free, here.read, here.tapped⟩, valid.stack.2⟩
    · simp at taken
  | backButton insertFails =>
    rw [screenStep] at taken
    split at taken
    · rename_i page bookmark forResult rest top
      obtain rfl : stack = .page page bookmark forResult :: rest := top
      obtain ⟨table', written, result⟩ := Option.bind_eq_some_iff.mp taken
      obtain rfl := Option.some.inj result
      exact valid.backButton (sound page bookmark forResult rest rfl) written
    · simp at taken
  | systemBack =>
    rw [screenStep] at taken
    split at taken
    · rename_i frame rest top
      obtain rfl : stack = frame :: rest := top
      obtain rfl := Option.some.inj taken
      exact ⟨saved, valid.table, valid.distinct, valid.free, valid.stack.2⟩
    · simp at taken

end Mirrored

end AhsApp.Android
