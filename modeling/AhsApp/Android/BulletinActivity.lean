import AhsApp.Android.Database
import AhsApp.Library.Run
import Mathlib.Data.List.Nodup

/-! Read marks of the bulletin page. Every delivery of the feed builds new objects,
shows them and posts their write-back, which reads their flags only when it runs. -/

namespace AhsApp.Android

open AhsApp.Library Table

/-- A child of the bulletin feed, its missing fields filled in. -/
structure BulletinEntry where
  id : String
  time : Int
  title : String
  body : String
  type : BulletinType
  deriving DecidableEq

def BulletinEntry.article (entry : BulletinEntry) (alreadyRead : Bool) : BulletinArticle :=
  ⟨entry.id, entry.time, entry.title, entry.body, entry.type, alreadyRead⟩

/-- The objects built so far, by address. The page and the posted write-backs, oldest
first, refer to them. -/
structure BulletinActivity where
  database : Table BulletinRow
  objects : List BulletinArticle
  bulletinData : List Nat
  posted : List (List Nat)
  deriving DecidableEq

namespace BulletinActivity

def onCreate (rows : List BulletinRow) : BulletinActivity := ⟨idle rows, [], [], []⟩

def objectsAt (objects : List BulletinArticle) (addresses : List Nat) : List BulletinArticle :=
  addresses.filterMap (objects[·]?)

/-- The articles of the page. -/
def shown (page : BulletinActivity) : List BulletinArticle :=
  objectsAt page.objects page.bulletinData

def buildArticles (snapshot : List BulletinEntry) (database : Table BulletinRow) :
    Option (List BulletinArticle) :=
  snapshot.mapM fun entry =>
    (BulletinDatabase.getReadStatusByID entry.id database).map entry.article

def onDataChange (snapshot : List BulletinEntry) (page : BulletinActivity) :
    Option BulletinActivity := do
  let articles ← buildArticles snapshot page.database
  let data := List.range' page.objects.length articles.length
  some { page with
    objects := page.objects ++ articles
    bulletinData := data
    posted := page.posted ++ [data] }

/-- The oldest posted write-back; none of its inserts fails. -/
def runPosted (page : BulletinActivity) : Option BulletinActivity :=
  match page.posted with
  | [] => none
  | articles :: rest => some { page with
      database := BulletinDatabase.updateArticles (fun _ => false)
        (objectsAt page.objects articles) page.database
      posted := rest }

def onClick (address : Nat) (page : BulletinActivity) : Option BulletinActivity := do
  let data ← page.objects[address]?
  let data := { data with alreadyRead := true }
  let database ← BulletinDatabase.updateReadStatus data page.database
  some { page with objects := page.objects.set address data, database }

end BulletinActivity

inductive BulletinEvent where
  | deliver (snapshot : List BulletinEntry)
  | runNext
  | click (address : Nat)

def bulletinStep (page : BulletinActivity) : BulletinEvent → Option BulletinActivity
  | .deliver snapshot => page.onDataChange snapshot
  | .runNext => page.runPosted
  | .click address => if address ∈ page.bulletinData then page.onClick address else none

def bulletinRun (page : BulletinActivity) (events : List BulletinEvent) :
    Option BulletinActivity :=
  run bulletinStep page events

/-- The IDs of a delivered snapshot are distinct. -/
def DistinctIDs : BulletinEvent → Prop
  | .deliver snapshot => (snapshot.map BulletinEntry.id).Nodup
  | _ => True

/-- A delivered snapshot has the article. -/
def Delivers (id : String) : BulletinEvent → Prop
  | .deliver snapshot => id ∈ snapshot.map BulletinEntry.id
  | _ => True

/-- A delivery while the page shows the article as read finds its mark in the
database. -/
def FindsMark (id : String) (page : BulletinActivity) : BulletinEvent → Prop
  | .deliver _ => ∀ article ∈ page.shown, article.id = id → article.alreadyRead = true →
      BulletinDatabase.getReadStatusByID id page.database = some true
  | _ => True

namespace BulletinActivity

private theorem objectsAt_range' (objects articles : List BulletinArticle) :
    objectsAt (objects ++ articles) (List.range' objects.length articles.length) = articles := by
  induction articles generalizing objects with
  | nil => rfl
  | cons article rest ih =>
    have tail := ih (objects ++ [article])
    rw [List.append_assoc, List.length_append] at tail
    simpa [objectsAt, List.range'_succ] using tail

private theorem mem_objectsAt {objects : List BulletinArticle} {addresses : List Nat}
    {article : BulletinArticle} :
    article ∈ objectsAt objects addresses ↔
      ∃ address ∈ addresses, objects[address]? = some article := by
  simp [objectsAt]

/-- Replacing an object by one with the same ID keeps the list of IDs. -/
theorem objectsAt_set_ids {objects : List BulletinArticle} {address : Nat}
    {old new : BulletinArticle} (addresses : List Nat) (found : objects[address]? = some old)
    (same : new.id = old.id) :
    (objectsAt (objects.set address new) addresses).map BulletinArticle.id =
      (objectsAt objects addresses).map BulletinArticle.id := by
  induction addresses with
  | nil => rfl
  | cons first rest ih =>
    have head : ((objects.set address new)[first]?).map BulletinArticle.id =
        (objects[first]?).map BulletinArticle.id := by
      by_cases here : address = first
      · have bound := (List.getElem?_eq_some_iff.mp found).1
        rw [← here, List.getElem?_set_self bound, found, Option.map_some, Option.map_some, same]
      · rw [List.getElem?_set_ne here]
    simp only [objectsAt, List.map_filterMap] at ih ⊢
    rw [List.filterMap_cons, List.filterMap_cons, head, ih]

end BulletinActivity

private theorem buildArticles_cons {entry : BulletinEntry} {rest : List BulletinEntry}
    {database : Table BulletinRow} {articles : List BulletinArticle} :
    BulletinActivity.buildArticles (entry :: rest) database = some articles ↔
      ∃ read others, BulletinDatabase.getReadStatusByID entry.id database = some read ∧
        BulletinActivity.buildArticles rest database = some others ∧
        articles = entry.article read :: others := by
  simp only [BulletinActivity.buildArticles, List.mapM_cons, Option.bind_eq_bind,
    Option.bind_eq_some_iff, Option.map_eq_some_iff, Option.pure_def, Option.some.injEq]
  constructor
  · rintro ⟨_, ⟨read, found, rfl⟩, others, built, rfl⟩
    exact ⟨read, others, found, built, rfl⟩
  · rintro ⟨read, others, found, built, rfl⟩
    exact ⟨_, ⟨read, found, rfl⟩, others, built, rfl⟩

/-- The built articles have the IDs of the snapshot and the flags of the database. -/
theorem buildArticles_spec {snapshot : List BulletinEntry} {database : Table BulletinRow}
    {articles : List BulletinArticle}
    (built : BulletinActivity.buildArticles snapshot database = some articles) :
    articles.map BulletinArticle.id = snapshot.map BulletinEntry.id ∧
      ∀ article ∈ articles,
        BulletinDatabase.getReadStatusByID article.id database = some article.alreadyRead := by
  induction snapshot generalizing articles with
  | nil =>
    obtain rfl : [] = articles := Option.some.inj built
    exact ⟨rfl, by simp⟩
  | cons entry rest ih =>
    obtain ⟨read, others, found, builtRest, rfl⟩ := buildArticles_cons.mp built
    obtain ⟨ids, flags⟩ := ih builtRest
    refine ⟨by rw [List.map_cons, List.map_cons, ids]; rfl, ?_⟩
    intro article member
    rcases List.mem_cons.mp member with rfl | member
    · exact found
    · exact flags article member

private theorem getReadStatusByID_eq {id : String} {table : Table BulletinRow} {read : Bool}
    (plain : PlainText id) (present : id ∈ table.rows.map BulletinRow.bulID)
    (agree : ∀ row ∈ table.rows, row.bulID = id → (row.read == 1) = read) :
    BulletinDatabase.getReadStatusByID id table = some read := by
  obtain ⟨row, member, named⟩ := List.mem_map.mp present
  have selected : table.rows.filter (·.bulID == id) ≠ [] :=
    List.ne_nil_of_mem (List.mem_filter.mpr ⟨member, by simp [named]⟩)
  obtain ⟨first, rest, cut⟩ := List.exists_cons_of_ne_nil selected
  obtain ⟨member, named⟩ := List.mem_filter.mp (cut ▸ List.mem_cons_self : first ∈ _)
  have flag := agree first member (by simpa using named)
  have found : rowsOf BulletinDatabase.textColumns (BulletinDatabase.getReadStatusByIDQuery id)
      table.rows = some (table.rows.filter (·.bulID == id)) :=
    Lookup.bulletinGetReadStatusByID.rowsOf_of_plain plain table.rows
  simp [BulletinDatabase.getReadStatusByID, found, cut, firstFlag, flag]

/-- The table has the article, and only as read. -/
def StoredRead (id : String) (rows : List BulletinRow) : Prop :=
  id ∈ rows.map BulletinRow.bulID ∧ ∀ row ∈ rows, row.bulID = id → row.read = 1

theorem StoredRead.getReadStatusByID {id : String} {table : Table BulletinRow}
    (stored : StoredRead id table.rows) (plain : PlainText id) :
    BulletinDatabase.getReadStatusByID id table = some true := by
  apply getReadStatusByID_eq plain stored.1
  intro row member named
  rw [stored.2 row member named]
  rfl

private theorem onDataChange_cases {snapshot : List BulletinEntry} {page next : BulletinActivity}
    (taken : page.onDataChange snapshot = some next) :
    ∃ articles, BulletinActivity.buildArticles snapshot page.database = some articles ∧
      next.database = page.database ∧ next.shown = articles ∧
      next.posted = page.posted ++ [next.bulletinData] := by
  simp only [BulletinActivity.onDataChange, Option.bind_eq_bind, Option.bind_eq_some_iff,
    Option.some.injEq] at taken
  obtain ⟨articles, built, rfl⟩ := taken
  exact ⟨articles, built, rfl, BulletinActivity.objectsAt_range' _ _, rfl⟩

theorem runPosted_cases {page next : BulletinActivity} (taken : page.runPosted = some next) :
    ∃ articles rest, page.posted = articles :: rest ∧ next = { page with
      database := BulletinDatabase.updateArticles (fun _ => false)
        (BulletinActivity.objectsAt page.objects articles) page.database
      posted := rest } := by
  unfold BulletinActivity.runPosted at taken
  split at taken
  · cases taken
  · exact ⟨_, _, ‹_›, (Option.some.inj taken).symm⟩

/-- What `UPDATE` does to the rows. -/
def setRead (selected : BulletinRow → Bool) (rows : List BulletinRow) : List BulletinRow :=
  rows.map fun row => if selected row then { row with read := 1 } else row

private theorem onClick_cases {address : Nat} {page next : BulletinActivity}
    (taken : bulletinStep page (.click address) = some next) :
    address ∈ page.bulletinData ∧ ∃ data selected, page.objects[address]? = some data ∧
      conditionOf BulletinDatabase.textColumns
        (BulletinDatabase.updateReadStatusQuery true data.id) = some selected ∧
      next = { page with
        objects := page.objects.set address { data with alreadyRead := true }
        database := page.database.execSQL (setRead selected) } := by
  rw [bulletinStep] at taken
  split at taken
  · simp only [BulletinActivity.onClick, BulletinDatabase.updateReadStatus, Option.bind_eq_bind,
      Option.bind_eq_some_iff, Option.some.injEq] at taken
    obtain ⟨data, found, database, ⟨selected, asked, rfl⟩, rfl⟩ := taken
    exact ⟨‹_›, data, selected, found, asked, rfl⟩
  · cases taken

private theorem updateArticles_idle (articles : List BulletinArticle) (rows : List BulletinRow) :
    BulletinDatabase.updateArticles (fun _ => false) articles (idle rows) =
      idle (articles.map BulletinArticle.values) :=
  insertAllInTransaction_of_noneFails fun _ _ => rfl

private theorem values_ids (articles : List BulletinArticle) :
    (articles.map BulletinArticle.values).map BulletinRow.bulID =
      articles.map BulletinArticle.id := by
  rw [List.map_map]
  rfl

private theorem storedRead_values {id : String} {articles : List BulletinArticle}
    (present : id ∈ articles.map BulletinArticle.id)
    (read : ∀ article ∈ articles, article.id = id → article.alreadyRead = true) :
    StoredRead id (articles.map BulletinArticle.values) := by
  refine ⟨by rwa [values_ids], ?_⟩
  rintro _ stored named
  obtain ⟨article, member, rfl⟩ := List.mem_map.mp stored
  exact if_pos (read article member named)

private theorem mem_setRead {selected : BulletinRow → Bool} {rows : List BulletinRow}
    {row : BulletinRow} (updated : row ∈ setRead selected rows) :
    row.read = 1 ∨ row ∈ rows ∧ selected row = false := by
  obtain ⟨old, member, rfl⟩ := List.mem_map.mp updated
  cases held : selected old with
  | true => exact .inl rfl
  | false => exact .inr ⟨member, held⟩

private theorem setRead_ids (selected : BulletinRow → Bool) (rows : List BulletinRow) :
    (setRead selected rows).map BulletinRow.bulID = rows.map BulletinRow.bulID := by
  rw [setRead, List.map_map]
  apply List.map_congr_left
  intro row _
  rw [Function.comp_apply]
  cases selected row <;> rfl

theorem StoredRead.setRead {id : String} {selected : BulletinRow → Bool}
    {rows : List BulletinRow} (stored : StoredRead id rows) :
    StoredRead id (setRead selected rows) := by
  refine ⟨by rw [setRead_ids]; exact stored.1, ?_⟩
  intro row member named
  rcases mem_setRead member with read | ⟨member, _⟩
  · exact read
  · exact stored.2 row member named

private theorem storedRead_setRead {id : String} {rows : List BulletinRow}
    (present : id ∈ rows.map BulletinRow.bulID) :
    StoredRead id (setRead (·.bulID == id) rows) := by
  refine ⟨by rwa [setRead_ids], ?_⟩
  intro row member named
  refine (mem_setRead member).resolve_right fun missed => ?_
  exact absurd named (beq_eq_false_iff_ne.mp missed.2)

/-- Between two steps no transaction is open, and the articles of the page are in the
table or about to be written by the last posted write-back. -/
structure BulletinValid (page : BulletinActivity) : Prop where
  closed : page.database = idle page.database.rows
  distinct : (page.shown.map BulletinArticle.id).Nodup
  written : page.posted.getLast? = some page.bulletinData ∨ page.posted = [] ∧
    page.shown.map BulletinArticle.id ⊆ page.database.rows.map BulletinRow.bulID

theorem BulletinValid.onCreate (rows : List BulletinRow) :
    BulletinValid (BulletinActivity.onCreate rows) :=
  ⟨rfl, List.nodup_nil, .inr ⟨rfl, List.nil_subset _⟩⟩

private theorem click_ids {address : Nat} {page next : BulletinActivity}
    (taken : bulletinStep page (.click address) = some next) :
    next.shown.map BulletinArticle.id = page.shown.map BulletinArticle.id := by
  obtain ⟨_, data, selected, found, _, rfl⟩ := onClick_cases taken
  exact BulletinActivity.objectsAt_set_ids _ found rfl

/-- The write-back that empties the queue stores the articles of the page. -/
theorem BulletinValid.runPosted {page next : BulletinActivity} (valid : BulletinValid page)
    (taken : page.runPosted = some next) :
    next.shown = page.shown ∧ (∃ rows, next.database = idle rows) ∧
      (next.posted.getLast? = some next.bulletinData ∨ next.posted = [] ∧
        next.database.rows = page.shown.map BulletinArticle.values) := by
  obtain ⟨articles, rest, posted, rfl⟩ := runPosted_cases taken
  rw [valid.closed, updateArticles_idle]
  refine ⟨rfl, ⟨_, rfl⟩, ?_⟩
  have last : page.posted.getLast? = some page.bulletinData :=
    valid.written.resolve_right fun drained => by simp [drained.1] at posted
  rw [posted] at last
  cases rest with
  | nil =>
    obtain rfl : articles = page.bulletinData := by simpa using last
    exact .inr ⟨rfl, rfl⟩
  | cons later rest => exact .inl (by simpa using last)

theorem BulletinValid.step {page next : BulletinActivity} {event : BulletinEvent}
    (valid : BulletinValid page) (distinct : DistinctIDs event)
    (taken : bulletinStep page event = some next) : BulletinValid next := by
  cases event with
  | deliver snapshot =>
    obtain ⟨articles, built, database, shown, posted⟩ := onDataChange_cases taken
    refine ⟨by rw [database]; exact valid.closed, ?_, .inl (by simp [posted])⟩
    rw [shown, (buildArticles_spec built).1]
    exact distinct
  | runNext =>
    obtain ⟨shown, ⟨rows, closed⟩, written⟩ := valid.runPosted taken
    refine ⟨by rw [closed]; rfl, shown ▸ valid.distinct, ?_⟩
    rcases written with last | ⟨drained, same⟩
    · exact .inl last
    · refine .inr ⟨drained, ?_⟩
      rw [same, values_ids, shown]
      exact List.Subset.refl _
  | click address =>
    have ids := click_ids taken
    obtain ⟨_, data, selected, found, _, rfl⟩ := onClick_cases taken
    refine ⟨?_, ids ▸ valid.distinct, ?_⟩
    · rw [rows_execSQL]
      exact congrArg (Table.execSQL (setRead selected)) valid.closed
    · rcases valid.written with last | ⟨drained, stored⟩
      · exact .inl last
      · refine .inr ⟨drained, ?_⟩
        rw [rows_execSQL, setRead_ids, ids]
        exact stored

/-- The page shows the article as read, and so does the table unless a write-back of
the page is still posted. -/
structure MarkedRead (id : String) (page : BulletinActivity) : Prop where
  present : id ∈ page.shown.map BulletinArticle.id
  read : ∀ article ∈ page.shown, article.id = id → article.alreadyRead = true
  stored : page.posted = [] → StoredRead id page.database.rows

/-- Every object that a click leaves on the page was there before or is the clicked one. -/
theorem click_shown {address : Nat} {page : BulletinActivity} {new article : BulletinArticle}
    (member : article ∈ BulletinActivity.objectsAt (page.objects.set address new)
      page.bulletinData) : article = new ∨ article ∈ page.shown := by
  obtain ⟨place, onPage, found⟩ := BulletinActivity.mem_objectsAt.mp member
  by_cases here : address = place
  · subst here
    have bound : address < page.objects.length := by
      simpa using (List.getElem?_eq_some_iff.mp found).1
    rw [List.getElem?_set_self bound] at found
    exact .inl (Option.some.inj found).symm
  · rw [List.getElem?_set_ne here] at found
    exact .inr (BulletinActivity.mem_objectsAt.mpr ⟨place, onPage, found⟩)

/-- A click marks the article. -/
theorem MarkedRead.click {id : String} {address : Nat} {page next : BulletinActivity}
    (valid : BulletinValid page) (plain : PlainText id)
    (named : (page.objects[address]?).map BulletinArticle.id = some id)
    (taken : bulletinStep page (.click address) = some next) : MarkedRead id next := by
  have ids := click_ids taken
  obtain ⟨onPage, data, selected, found, asked, rfl⟩ := onClick_cases taken
  obtain rfl : data.id = id := by simpa [found] using named
  obtain rfl : (·.bulID == data.id) = selected := Option.some.inj
    (((Lookup.bulletinUpdateReadStatus true).conditionOf_of_plain plain).symm.trans asked)
  have present : data.id ∈ page.shown.map BulletinArticle.id :=
    List.mem_map_of_mem (BulletinActivity.mem_objectsAt.mpr ⟨address, onPage, found⟩)
  refine ⟨ids ▸ present, ?_, ?_⟩
  · intro article member same
    have bound := (List.getElem?_eq_some_iff.mp found).1
    have clicked := BulletinActivity.mem_objectsAt.mpr
      ⟨address, onPage, List.getElem?_set_self (a := { data with alreadyRead := true }) bound⟩
    rw [List.inj_on_of_nodup_map (ids ▸ valid.distinct) member clicked same]
  · intro drained
    have empty : page.posted = [] := drained
    rcases valid.written with last | ⟨_, stored⟩
    · simp [empty] at last
    · rw [rows_execSQL]
      exact storedRead_setRead (stored present)

/-- The mark survives every step that finds it. -/
theorem MarkedRead.step {id : String} {page next : BulletinActivity} {event : BulletinEvent}
    (marked : MarkedRead id page) (valid : BulletinValid page) (delivers : Delivers id event)
    (finds : FindsMark id page event) (taken : bulletinStep page event = some next) :
    MarkedRead id next := by
  cases event with
  | deliver snapshot =>
    obtain ⟨articles, built, database, shown, posted⟩ := onDataChange_cases taken
    obtain ⟨ids, flags⟩ := buildArticles_spec built
    obtain ⟨old, member, named⟩ := List.mem_map.mp marked.present
    have found := finds old member named (marked.read old member named)
    refine ⟨by rw [shown, ids]; exact delivers, ?_, ?_⟩
    · intro article member same
      rw [← same, flags article (shown ▸ member)] at found
      exact Option.some.inj found
    · intro drained
      simp [posted] at drained
  | runNext =>
    obtain ⟨shown, _, written⟩ := valid.runPosted taken
    refine ⟨shown ▸ marked.present, shown ▸ marked.read, ?_⟩
    intro drained
    rcases written with last | ⟨_, same⟩
    · simp [drained] at last
    · rw [same]
      exact storedRead_values marked.present marked.read
  | click address =>
    have ids := click_ids taken
    obtain ⟨_, data, selected, found, _, rfl⟩ := onClick_cases taken
    refine ⟨ids ▸ marked.present, ?_, ?_⟩
    · intro article member same
      rcases click_shown member with rfl | earlier
      · rfl
      · exact marked.read article earlier same
    · intro drained
      rw [rows_execSQL]
      exact (marked.stored drained).setRead

/-- Once clicked, an article that every later snapshot contains is read in the table
whenever no write-back is posted, through every run whose deliveries find its mark. -/
theorem clicked_article_stays_read {rows : List BulletinRow} {before after : List BulletinEvent}
    {id : String} {address : Nat} {middle clicked page : BulletinActivity}
    (distinct : ∀ event ∈ before ++ after, DistinctIDs event)
    (ranBefore : bulletinRun (BulletinActivity.onCreate rows) before = some middle)
    (named : (middle.objects[address]?).map BulletinArticle.id = some id)
    (plainText : PlainText id)
    (taken : bulletinStep middle (.click address) = some clicked)
    (ranAfter : bulletinRun clicked after = some page)
    (delivered : ∀ event ∈ after, Delivers id event)
    (finds : Along bulletinStep (FindsMark id) clicked after)
    (drained : page.posted = []) :
    BulletinDatabase.getReadStatusByID id page.database = some true := by
  have valid : BulletinValid middle := by
    apply run_invariant BulletinValid (fun _ event => DistinctIDs event)
      (fun valid distinct taken => valid.step distinct taken) (BulletinValid.onCreate rows)
      (Along.of_forall ?_ _) ranBefore
    intro _ event member
    exact distinct event (List.mem_append_left _ member)
  have feeds : Along bulletinStep (fun _ event => DistinctIDs event ∧ Delivers id event)
      clicked after := by
    apply Along.of_forall
    intro _ event member
    exact ⟨distinct event (List.mem_append_right _ member), delivered event member⟩
  have marked : BulletinValid clicked ∧ MarkedRead id clicked :=
    ⟨valid.step (show DistinctIDs (.click address) from trivial) taken,
      MarkedRead.click valid plainText named taken⟩
  have kept : BulletinValid page ∧ MarkedRead id page := by
    refine run_invariant (fun page => BulletinValid page ∧ MarkedRead id page) _ ?_ marked
      (feeds.and finds) ranAfter
    intro page event next held along taken
    exact ⟨held.1.step along.1.1 taken, held.2.step held.1 along.1.2 along.2 taken⟩
  exact (kept.2.stored drained).getReadStatusByID plainText

/-- What the write-backs leave of a delivered article is the flag that the delivery
found, so a delivery that misses a mark loses it. -/
theorem delivered_flag_stays {id : String} {snapshot : List BulletinEntry} {count : Nat}
    {page delivered last : BulletinActivity} (valid : BulletinValid page)
    (distinct : DistinctIDs (.deliver snapshot)) (present : Delivers id (.deliver snapshot))
    (plainText : PlainText id)
    (taken : bulletinStep page (.deliver snapshot) = some delivered)
    (ran : bulletinRun delivered (List.replicate count .runNext) = some last)
    (drained : last.posted = []) :
    BulletinDatabase.getReadStatusByID id last.database =
      BulletinDatabase.getReadStatusByID id page.database := by
  obtain ⟨articles, built, _, shown, posted⟩ := onDataChange_cases taken
  obtain ⟨ids, flags⟩ := buildArticles_spec built
  have unique : (articles.map BulletinArticle.id).Nodup := by
    rw [ids]
    exact distinct
  have written : BulletinValid last ∧ last.shown = articles ∧
      (last.posted = [] → last.database.rows = articles.map BulletinArticle.values) := by
    refine run_invariant (fun page => BulletinValid page ∧ page.shown = articles ∧
      (page.posted = [] → page.database.rows = articles.map BulletinArticle.values))
      (fun _ event => event = .runNext) ?_ ⟨valid.step distinct taken, shown, ?_⟩
      (Along.of_forall (fun _ event member => List.eq_of_mem_replicate member) _) ran
    · rintro page _ next ⟨valid, shown, _⟩ rfl taken
      obtain ⟨same, _, written⟩ := valid.runPosted taken
      refine ⟨valid.step (show DistinctIDs .runNext from trivial) taken, same.trans shown, ?_⟩
      intro drained
      rcases written with last | ⟨_, rows⟩
      · simp [drained] at last
      · rw [rows, shown]
    · intro none
      simp [posted] at none
  have rows := written.2.2 drained
  have listed : id ∈ articles.map BulletinArticle.id := by
    rw [ids]
    exact present
  obtain ⟨article, member, named⟩ := List.mem_map.mp listed
  rw [← named, flags article member]
  refine getReadStatusByID_eq (named ▸ plainText) ?_ ?_
  · rw [rows, values_ids]
    exact List.mem_map_of_mem member
  · intro row stored same
    obtain ⟨other, here, rfl⟩ := List.mem_map.mp (rows ▸ stored)
    rw [List.inj_on_of_nodup_map unique here member same]
    cases read : article.alreadyRead <;> simp [BulletinArticle.values, read]

def gameEntry : BulletinEntry := ⟨"game", 0, "Game", "", .athletics⟩

def unreadGame : BulletinArticle := gameEntry.article false

def readGame : BulletinArticle := gameEntry.article true

/-- The first write-back has run when the article is clicked. -/
theorem game_clicked_after_write_back : ∃ middle clicked page,
    bulletinRun (BulletinActivity.onCreate []) [.deliver [gameEntry], .runNext] = some middle ∧
      bulletinStep middle (.click 0) = some clicked ∧
      bulletinRun clicked [.deliver [gameEntry], .runNext] = some page ∧
      BulletinDatabase.getReadStatusByID "game" page.database = some true := by
  have ranBefore : bulletinRun (BulletinActivity.onCreate []) [.deliver [gameEntry], .runNext] =
      some ⟨idle [unreadGame.values], [unreadGame], [0], []⟩ := by decide +kernel
  have taken : bulletinStep ⟨idle [unreadGame.values], [unreadGame], [0], []⟩ (.click 0) =
      some ⟨idle [readGame.values], [readGame], [0], []⟩ := by decide +kernel
  have ranAfter : bulletinRun ⟨idle [readGame.values], [readGame], [0], []⟩
      [.deliver [gameEntry], .runNext] =
        some ⟨idle [readGame.values], [readGame, readGame], [1], []⟩ := by decide +kernel
  have found : BulletinDatabase.getReadStatusByID "game" (idle [readGame.values]) = some true := by
    decide +kernel
  refine ⟨_, _, _, ranBefore, taken, ranAfter, clicked_article_stays_read ?_ ranBefore rfl
    ?_ taken ranAfter ?_ ?_ rfl⟩
  · simp [DistinctIDs]
  · exact show PlainText "game" by decide
  · simp [Delivers, gameEntry]
  · exact ⟨fun _ _ _ _ => found, fun _ _ => ⟨trivial, fun _ _ => trivial⟩⟩

/-- The article is clicked and delivered again before its first write-back runs. -/
theorem delivery_before_write_back_loses_mark : ∃ middle clicked page,
    bulletinRun (BulletinActivity.onCreate []) [.deliver [gameEntry]] = some middle ∧
      (middle.objects[0]?).map BulletinArticle.id = some "game" ∧
      bulletinStep middle (.click 0) = some clicked ∧
      bulletinRun clicked [.deliver [gameEntry], .runNext, .runNext] = some page ∧
      page.posted = [] ∧
      BulletinDatabase.getReadStatusByID "game" page.database = some false :=
  ⟨⟨idle [], [unreadGame], [0], [[0]]⟩, ⟨idle [], [readGame], [0], [[0]]⟩,
    ⟨idle [unreadGame.values], [readGame, unreadGame], [1], []⟩, by decide +kernel⟩

end AhsApp.Android
