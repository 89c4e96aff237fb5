import AhsApp.Ios.Decode
import AhsApp.Library.PersistentMap
import Mathlib.Data.Finset.Sort
import Mathlib.Data.String.Basic

/-! The saved articles of the iOS application: a dictionary by article ID that
`savedArticleClass` keeps in memory and writes, as encoded data, to the key
`savedArticleDict` of the user defaults. -/

namespace AhsApp.Ios

open AhsApp.Library

universe u

variable {Data : Type u}

/-- The coding of a dictionary of articles. -/
abbrev ArticleCodec (Data : Type u) := Codec (Dictionary String ArticleData) Data

/-- `savedArticles` and what `savedArticleDict` holds. -/
abbrev SavedArticles (Data : Type u) := PersistentMap String ArticleData Data

def saveArticleDictionary (codec : ArticleCodec Data) : SavedArticles Data → SavedArticles Data :=
  PersistentMap.save codec

def getArticleDictionary (codec : ArticleCodec Data) : SavedArticles Data → SavedArticles Data :=
  PersistentMap.load codec

def saveCurrArticle (codec : ArticleCodec Data) (articleID : String) (article : ArticleData)
    (state : SavedArticles Data) : SavedArticles Data :=
  saveArticleDictionary codec { state with memory := state.memory.insert articleID article }

def removeCurrArticle (codec : ArticleCodec Data) (articleID : String)
    (state : SavedArticles Data) : SavedArticles Data :=
  saveArticleDictionary codec { state with memory := state.memory.erase articleID }

def isSavedCurrentArticle (articleID : String) (state : SavedArticles Data) : Bool :=
  (state.memory.lookup articleID).isSome

/-- The order in which a dictionary is enumerated, which the language leaves open. -/
abbrev Enumeration := Dictionary String ArticleData → List (Sigma fun _ : String => ArticleData)

def Enumeration.Lawful (enumerate : Enumeration) : Prop :=
  ∀ dictionary, (enumerate dictionary : Multiset _) = dictionary.entries

/-- The dictionary is loaded again before its articles are listed. -/
def getSavedArticles (codec : ArticleCodec Data) (enumerate : Enumeration) (currTime : Int)
    (state : SavedArticles Data) : SavedArticles Data × List ArticleData :=
  let state := getArticleDictionary codec state
  (state, sortBy (sortArticlesByTime currTime) ((enumerate state.memory).map (·.2)))

/-- The confirmed reset of the settings page. -/
def resetPreferences (_ : SavedArticles Data) : SavedArticles Data := ⟨∅, none⟩

/-- A new process, which reads the dictionary once. -/
def relaunch (codec : ArticleCodec Data) (state : SavedArticles Data) : SavedArticles Data :=
  getArticleDictionary codec (PersistentMap.launch state.stored)

inductive SavedEvent where
  | saveCurrArticle (articleID : String) (article : ArticleData)
  | removeCurrArticle (articleID : String)
  | getSavedArticles (currTime : Int)
  | resetPreferences
  | relaunch

def savedStep (codec : ArticleCodec Data) (enumerate : Enumeration) (state : SavedArticles Data) :
    SavedEvent → SavedArticles Data
  | .saveCurrArticle articleID article => saveCurrArticle codec articleID article state
  | .removeCurrArticle articleID => removeCurrArticle codec articleID state
  | .getSavedArticles currTime => (getSavedArticles codec enumerate currTime state).1
  | .resetPreferences => resetPreferences state
  | .relaunch => relaunch codec state

/-- From the first start of the application. -/
def savedRun (codec : ArticleCodec Data) (enumerate : Enumeration) (events : List SavedEvent) :
    SavedArticles Data :=
  events.foldl (savedStep codec enumerate) (relaunch codec ⟨∅, none⟩)

/-- The events that decide whether an article is saved. -/
def affects (articleID : String) : SavedEvent → Bool
  | .saveCurrArticle saved _ => saved == articleID
  | .removeCurrArticle removed => removed == articleID
  | .resetPreferences => true
  | _ => false

/-- The article of the last event that affects the ID, when that is a save. -/
def lastSaved (articleID : String) (events : List SavedEvent) : Option ArticleData :=
  match (events.filter (affects articleID)).getLast? with
  | some (.saveCurrArticle _ article) => some article
  | _ => none

private theorem lastSaved_concat (articleID : String) (events : List SavedEvent)
    (event : SavedEvent) :
    lastSaved articleID (events ++ [event]) =
      if affects articleID event then
        match event with
        | .saveCurrArticle _ article => some article
        | _ => none
      else lastSaved articleID events := by
  rw [lastSaved, List.filter_append]
  by_cases affected : affects articleID event
  · simp only [List.filter_cons_of_pos affected, List.filter_nil, List.getLast?_concat,
      if_pos affected]
    cases event <;> rfl
  · simp only [List.filter_cons_of_neg affected, List.filter_nil, List.append_nil,
      if_neg affected]
    rfl

variable {codec : ArticleCodec Data} {enumerate : Enumeration}

/-- The memory is the abstract map and the copy agrees with it. -/
structure Refines (codec : ArticleCodec Data) (state : SavedArticles Data)
    (saved : String → Option ArticleData) : Prop where
  memory : ∀ articleID, state.memory.lookup articleID = saved articleID
  synced : state.Synced codec

theorem Refines.step (roundTrips : codec.RoundTrips) {state : SavedArticles Data}
    {events : List SavedEvent}
    (refines : Refines codec state fun articleID => lastSaved articleID events)
    (event : SavedEvent) :
    Refines codec (savedStep codec enumerate state event)
      fun articleID => lastSaved articleID (events ++ [event]) := by
  cases event with
  | saveCurrArticle saved article =>
    refine ⟨fun articleID => ?_, .save roundTrips⟩
    simp only [savedStep, saveCurrArticle, saveArticleDictionary, PersistentMap.save_memory,
      lastSaved_concat, affects]
    by_cases same : articleID = saved
    · subst articleID
      simp
    · simp [Finmap.lookup_insert_of_ne _ same, Ne.symm same, refines.memory]
  | removeCurrArticle removed =>
    refine ⟨fun articleID => ?_, .save roundTrips⟩
    simp only [savedStep, removeCurrArticle, saveArticleDictionary, PersistentMap.save_memory,
      lastSaved_concat, affects]
    by_cases same : articleID = removed
    · subst articleID
      simp
    · simp [Finmap.lookup_erase_ne same, Ne.symm same, refines.memory]
  | getSavedArticles currTime =>
    have loaded : savedStep codec enumerate state (.getSavedArticles currTime) = state :=
      refines.synced.load
    rw [loaded]
    exact ⟨fun articleID => by simp [lastSaved_concat, affects, refines.memory], refines.synced⟩
  | resetPreferences =>
    refine ⟨fun articleID => ?_, rfl⟩
    simp [savedStep, resetPreferences, lastSaved_concat, affects]
  | relaunch =>
    have relaunched : savedStep codec enumerate state .relaunch = state := refines.synced.restart
    rw [relaunched]
    exact ⟨fun articleID => by simp [lastSaved_concat, affects, refines.memory], refines.synced⟩

theorem Refines.run (roundTrips : codec.RoundTrips) (events : List SavedEvent) :
    Refines codec (savedRun codec enumerate events)
      fun articleID => lastSaved articleID events := by
  induction events using List.reverseRecOn with
  | nil => exact ⟨fun articleID => by simp [savedRun, relaunch, getArticleDictionary,
      PersistentMap.load, PersistentMap.launch, lastSaved], rfl⟩
  | append_singleton events event ih =>
    rw [savedRun, List.foldl_concat]
    exact ih.step roundTrips event

theorem mem_enumeration (lawful : enumerate.Lawful) (dictionary : Dictionary String ArticleData)
    (articleID : String) (article : ArticleData) :
    ⟨articleID, article⟩ ∈ enumerate dictionary ↔ dictionary.lookup articleID = some article := by
  rw [Finmap.lookup_eq_some_iff, ← lawful dictionary, Multiset.mem_coe]

/-- The saved articles are a map that survives restarts: what is in it was saved last,
it is listed once, and the stored copy decodes to it. -/
theorem saved_articles_persist (roundTrips : codec.RoundTrips) (lawful : enumerate.Lawful)
    (events : List SavedEvent) :
    (∀ articleID, isSavedCurrentArticle articleID (savedRun codec enumerate events) = true ↔
      ∃ article, lastSaved articleID events = some article) ∧
    (∀ currTime, ∃ saved : List (String × ArticleData),
      (saved.map Prod.fst).Nodup ∧
      (∀ articleID article, (articleID, article) ∈ saved ↔
        lastSaved articleID events = some article) ∧
      (getSavedArticles codec enumerate currTime (savedRun codec enumerate events)).2.Perm
        (saved.map Prod.snd)) ∧
    (savedRun codec enumerate events).Synced codec := by
  have refines : Refines codec (savedRun codec enumerate events) _ := .run roundTrips events
  refine ⟨fun articleID => ?_, fun currTime => ?_, refines.synced⟩
  · rw [isSavedCurrentArticle, refines.memory, Option.isSome_iff_exists]
  · have loaded : getArticleDictionary codec (savedRun codec enumerate events) =
        savedRun codec enumerate events := refines.synced.load
    let memory := (savedRun codec enumerate events).memory
    refine ⟨(enumerate memory).map fun entry => (entry.1, entry.2), ?_, ?_, ?_⟩
    · rw [List.map_map]
      have nodup := Multiset.nodup_keys.mpr memory.nodupKeys
      rwa [Multiset.keys, ← lawful memory, Multiset.map_coe, Multiset.coe_nodup] at nodup
    · intro articleID article
      rw [← refines.memory, ← mem_enumeration lawful]
      simp [memory]
    · simp only [getSavedArticles, loaded, List.map_map]
      exact sortBy_perm _ _

/-- What an article is coded as. A keyed container leaves out a property that is `nil`. -/
inductive JsonValue where
  | string (text : String)
  | number (value : Int)
  | bool (flag : Bool)
  | strings (texts : List String)

namespace JsonValue

def asString : JsonValue → Option String
  | string text => some text
  | _ => none

def asNumber : JsonValue → Option Int
  | number value => some value
  | _ => none

def asBool : JsonValue → Option Bool
  | bool flag => some flag
  | _ => none

def asStrings : JsonValue → Option (List String)
  | strings texts => some texts
  | _ => none

end JsonValue

/-- The members of the object that a container writes. -/
def present (fields : List (String × Option JsonValue)) : List (String × JsonValue) :=
  fields.filterMap fun (key, value) => value.map (key, ·)

def articleFields (article : ArticleData) : List (String × Option JsonValue) :=
  [("articleID", article.articleID.map .string),
    ("articleTitle", article.articleTitle.map .string),
    ("articleUnixEpoch", article.articleUnixEpoch.map .number),
    ("articleBody", article.articleBody.map .string),
    ("articleAuthor", article.articleAuthor.map .string),
    ("articleImages", article.articleImages.map .strings),
    ("articleVideoIDs", article.articleVideoIDs.map .strings),
    ("articleCatagory", article.articleCatagory.map .string),
    ("isFeatured", some (.bool article.isFeatured)),
    ("hasHTML", some (.bool article.hasHTML))]

def encodeArticle (article : ArticleData) : List (String × JsonValue) :=
  present (articleFields article)

/-- An absent member reads as `nil`; one of another type throws. -/
def decodeIfPresent {Field : Type} (cast : JsonValue → Option Field)
    (members : List (String × JsonValue)) (key : String) : Option (Option Field) :=
  match members.lookup key with
  | some value => (cast value).map some
  | none => some none

open JsonValue in
def decodeArticle (members : List (String × JsonValue)) : Option ArticleData := do
  let articleID ← decodeIfPresent asString members "articleID"
  let articleTitle ← decodeIfPresent asString members "articleTitle"
  let articleUnixEpoch ← decodeIfPresent asNumber members "articleUnixEpoch"
  let articleBody ← decodeIfPresent asString members "articleBody"
  let articleAuthor ← decodeIfPresent asString members "articleAuthor"
  let articleImages ← decodeIfPresent asStrings members "articleImages"
  let articleVideoIDs ← decodeIfPresent asStrings members "articleVideoIDs"
  let articleCatagory ← decodeIfPresent asString members "articleCatagory"
  let isFeatured ← (members.lookup "isFeatured").bind asBool
  let hasHTML ← (members.lookup "hasHTML").bind asBool
  some ⟨articleID, articleTitle, articleUnixEpoch, articleBody, articleAuthor, articleImages,
    articleVideoIDs, articleCatagory, isFeatured, hasHTML⟩

private theorem lookup_present {fields : List (String × Option JsonValue)}
    (distinct : (fields.map Prod.fst).Nodup) (key : String) :
    (present fields).lookup key = (fields.lookup key).join := by
  induction fields with
  | nil => rfl
  | cons field rest ih =>
    obtain ⟨name, value⟩ := field
    rw [List.map_cons, List.nodup_cons] at distinct
    obtain ⟨fresh, distinct⟩ := distinct
    have later := ih distinct
    by_cases same : key = name
    · subst key
      cases value with
      | some value => simp [present]
      | none =>
        have absent : rest.lookup name = none := by
          rw [List.lookup_eq_none_iff]
          intro entry member
          have apart : name ≠ entry.1 := by
            rintro rfl
            exact fresh (List.mem_map.mpr ⟨entry, member, rfl⟩)
          simpa using apart
        simpa [present, absent] using later
    · have apart : (key == name) = false := beq_eq_false_iff_ne.mpr same
      cases value with
      | some value => simpa [present, List.lookup_cons, apart] using later
      | none => simpa [present, List.lookup_cons, apart] using later

private theorem decodeIfPresent_present {Field : Type} {cast : JsonValue → Option Field}
    {make : Field → JsonValue} (inverse : ∀ field, cast (make field) = some field)
    {fields : List (String × Option JsonValue)} (distinct : (fields.map Prod.fst).Nodup)
    {key : String} {field : Option Field} (listed : fields.lookup key = some (field.map make)) :
    decodeIfPresent cast (present fields) key = some field := by
  rw [decodeIfPresent, lookup_present distinct, listed]
  cases field with
  | none => rfl
  | some field => simp [inverse]

/-- The coding that the compiler derives for `articleData` loses nothing. -/
theorem decodeArticle_encodeArticle (article : ArticleData) :
    decodeArticle (encodeArticle article) = some article := by
  have text : ∀ field, JsonValue.asString (.string field) = some field := fun _ => rfl
  have number : ∀ field, JsonValue.asNumber (.number field) = some field := fun _ => rfl
  have texts : ∀ field, JsonValue.asStrings (.strings field) = some field := fun _ => rfl
  have distinct : ((articleFields article).map Prod.fst).Nodup := by simp [articleFields]
  unfold decodeArticle encodeArticle
  rw [decodeIfPresent_present text distinct rfl, decodeIfPresent_present text distinct rfl,
    decodeIfPresent_present number distinct rfl, decodeIfPresent_present text distinct rfl,
    decodeIfPresent_present text distinct rfl, decodeIfPresent_present texts distinct rfl,
    decodeIfPresent_present texts distinct rfl, decodeIfPresent_present text distinct rfl,
    lookup_present distinct, lookup_present distinct]
  rfl

instance : Inhabited ArticleData := ⟨{}⟩

/-- An object of such objects, one under each ID. -/
def articleCodec : ArticleCodec (Dictionary String (List (String × JsonValue))) :=
  Dictionary.codec encodeArticle decodeArticle

theorem articleCodec_roundTrips : articleCodec.RoundTrips :=
  Dictionary.codec_roundTrips decodeArticle_encodeArticle

/-- The enumeration by ID. -/
def enumerateByKey : Enumeration := fun dictionary =>
  (dictionary.keys.sort (· ≤ ·)).filterMap fun key => (dictionary.lookup key).map (Sigma.mk key)

theorem enumerateByKey_lawful : enumerateByKey.Lawful := by
  intro dictionary
  have nodup : (enumerateByKey dictionary).Nodup := by
    refine (dictionary.keys.sort_nodup _).filterMap ?_
    intro first second entry left right
    obtain ⟨_, _, rfl⟩ := Option.map_eq_some_iff.mp left
    obtain ⟨_, _, same⟩ := Option.map_eq_some_iff.mp right
    exact (congrArg Sigma.fst same).symm
  refine (Multiset.Nodup.ext (Multiset.coe_nodup.mpr nodup) dictionary.nodup_entries).mpr ?_
  rintro ⟨key, article⟩
  rw [Multiset.mem_coe, ← Finmap.lookup_eq_some_iff]
  simp only [enumerateByKey, List.mem_filterMap, Finset.mem_sort, Finmap.mem_keys]
  constructor
  · rintro ⟨other, _, found⟩
    obtain ⟨_, looked, same⟩ := Option.map_eq_some_iff.mp found
    cases same
    exact looked
  · intro looked
    exact ⟨key, Finmap.mem_of_lookup_eq_some looked, by simp [looked]⟩

def savedSession : List SavedEvent :=
  [.saveCurrArticle "game" { articleID := some "game" }, .saveCurrArticle "essay" {},
    .relaunch, .saveCurrArticle "game" { articleID := some "game", hasHTML := true },
    .removeCurrArticle "essay", .getSavedArticles 0, .relaunch]

theorem saved_session_persists :
    (isSavedCurrentArticle "game" (savedRun articleCodec enumerateByKey savedSession) = true ↔
      ∃ article, lastSaved "game" savedSession = some article) ∧
    (∃ saved : List (String × ArticleData),
      (saved.map Prod.fst).Nodup ∧
      (∀ articleID article, (articleID, article) ∈ saved ↔
        lastSaved articleID savedSession = some article) ∧
      (getSavedArticles articleCodec enumerateByKey 0
        (savedRun articleCodec enumerateByKey savedSession)).2.Perm (saved.map Prod.snd)) ∧
    (savedRun articleCodec enumerateByKey savedSession).Synced articleCodec := by
  obtain ⟨isSaved, listed, synced⟩ :=
    saved_articles_persist articleCodec_roundTrips enumerateByKey_lawful savedSession
  exact ⟨isSaved "game", listed 0, synced⟩

end AhsApp.Ios
