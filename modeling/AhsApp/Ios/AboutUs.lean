import AhsApp.Firebase.DataSnapshot
import AhsApp.Library.Loader
import AhsApp.Library.Run
import Mathlib.Data.List.FinRange

/-! The page about the makers of the application. Its names are shared by all pages of its kind:
a page that is opened with a connection empties them and fetches them again, one category at a
time, and each arrival draws the page that asked for it from all the names there are. -/

namespace AhsApp.Ios

open AhsApp.Firebase AhsApp.Library

def nameTitleArray : List String :=
  ["Programmers", "Graphic Designers", "Content Editors", "Previous Members", "Founders"]

abbrev NameIndex := Fin nameTitleArray.length

/-- The texts of the views that a page replaces when it is drawn. -/
structure AboutUsPage where
  textLabel : String
  isHidden : Bool
  views : List (String × String)
  deriving DecidableEq

structure AboutUs where
  server : DataSnapshot
  names : NameIndex → String
  pages : List AboutUsPage
  inFlight : List (NameIndex × Nat)

namespace AboutUs

def launch (server : DataSnapshot) : AboutUs := ⟨server, fun _ => "", [], []⟩

end AboutUs

def aboutUsBranch (server : DataSnapshot) (index : NameIndex) : DataSnapshot :=
  (server.child "aboutus").child (nameTitleArray.get index)

/-- The names of a branch, each with a line feed. -/
def namesText (snapshot : DataSnapshot) : String :=
  snapshot.children.foldl
    (fun currentString currentName => currentString ++ (currentName.asString.getD "" ++ "\n")) ""

/-- `dropLast` of a text that is empty or ends with a line feed, which is one character with a
carriage return before it. -/
def dropLastLineFeed (text : String) : String :=
  match text.toList.reverse with
  | [] => ""
  | '\n' :: '\r' :: rest => String.ofList rest.reverse
  | _ :: rest => String.ofList rest.reverse

namespace AboutUsPage

def loading : AboutUsPage := ⟨"Loading...", false, []⟩

def noConnection : AboutUsPage := ⟨"No connection", false, []⟩

def renderViews (names : NameIndex → String) (page : AboutUsPage) : AboutUsPage :=
  { page with
    isHidden := true
    views := ("Contact us at:", "hsappdev@students.ausd.net") ::
      (List.finRange nameTitleArray.length).map fun i =>
        (nameTitleArray.get i, dropLastLineFeed (names i)) }

end AboutUsPage

namespace AboutUs

/-- What a page does when a fetch of its own arrived, or when there is no connection. -/
def completion (page : Nat) (isConnected : Bool) (state : AboutUs) : AboutUs :=
  { state with
    pages := state.pages.modify page fun shown =>
      if isConnected then shown.renderViews state.names
      else { shown with textLabel := "No connection" } }

def getAboutUsDataBranch (index : NameIndex) (page : Nat) (state : AboutUs) : AboutUs :=
  completion page true { state with
    names := Function.update state.names index (namesText (aboutUsBranch state.server index)) }

def getAboutUsData (internetConnected : Bool) (page : Nat) (state : AboutUs) : AboutUs :=
  if internetConnected then
    { state with
      names := fun _ => ""
      inFlight := state.inFlight ++ (List.finRange nameTitleArray.length).map (·, page) }
  else state.completion page false

def viewDidLoad (internetConnected : Bool) (state : AboutUs) : AboutUs :=
  getAboutUsData internetConnected state.pages.length
    { state with pages := state.pages ++ [.loading] }

end AboutUs

inductive AboutUsEvent where
  | serverChanges (server : DataSnapshot)
  | viewDidLoad (internetConnected : Bool)
  | complete (index : NameIndex) (page : Nat)

/-- A fetch brings what the server has when it arrives. -/
def aboutUsStep (state : AboutUs) : AboutUsEvent → Option AboutUs
  | .serverChanges server => some { state with server }
  | .viewDidLoad internetConnected => some (state.viewDidLoad internetConnected)
  | .complete index page =>
    if (index, page) ∈ state.inFlight then
      some (AboutUs.getAboutUsDataBranch index page
        { state with inFlight := state.inFlight.erase (index, page) })
    else none

abbrev aboutUsRun : AboutUs → List AboutUsEvent → Option AboutUs := run aboutUsStep

/-- The names of a branch, one a line. A carriage return at the end goes with the line feed. -/
def nameLines (snapshot : DataSnapshot) : String :=
  let lines := ("\n".intercalate (snapshot.children.map fun name => name.asString.getD "")).toList
  String.ofList (if lines.getLast? = some '\r' then lines.dropLast else lines)

/-- What the server had while the events happened. -/
def serversOf (events : List AboutUsEvent) : List DataSnapshot :=
  events.filterMap fun
    | .serverChanges server => some server
    | _ => none

/-- The page has a view for each category, with what one of the servers had for it, or empty while
its fetch is on its way. -/
def AboutUsPage.Lists (servers : List DataSnapshot) (pending : NameIndex → Prop)
    (page : AboutUsPage) : Prop :=
  page.isHidden = true ∧ ∃ bodies : NameIndex → String,
    page.views = ("Contact us at:", "hsappdev@students.ausd.net") ::
      (List.finRange nameTitleArray.length).map (fun i => (nameTitleArray.get i, bodies i)) ∧
    Arriving (fun index body => ∃ server ∈ servers, body = nameLines (aboutUsBranch server index))
      "" pending bodies

private theorem toList_namesText (snapshot : DataSnapshot) : (namesText snapshot).toList =
    ((snapshot.children.map fun name => (name.asString.getD "").toList).map
      (· ++ ['\n'])).flatten := by
  have loop : ∀ (children : List DataSnapshot) (before : String),
      (children.foldl (fun currentString currentName =>
        currentString ++ (currentName.asString.getD "" ++ "\n")) before).toList =
      before.toList ++ ((children.map fun name => (name.asString.getD "").toList).map
        (· ++ ['\n'])).flatten := by
    intro children
    induction children with
    | nil => simp
    | cons child rest ih =>
      intro before
      rw [List.foldl_cons, ih]
      simp [String.toList_append]
  exact loop snapshot.children ""

private theorem flatten_lineFeeds {texts : List (List Char)} (present : texts ≠ []) :
    (texts.map (· ++ ['\n'])).flatten = ['\n'].intercalate texts ++ ['\n'] := by
  induction texts with
  | nil => exact absurd rfl present
  | cons text rest ih =>
    cases rest with
    | nil => simp
    | cons next others =>
      rw [List.map_cons, List.flatten_cons, ih (List.cons_ne_nil next others)]
      simp [List.intercalate]

private theorem dropLastLineFeed_of_toList {text : String} {lines : List Char}
    (ends : text.toList = lines ++ ['\n']) : dropLastLineFeed text =
      String.ofList (if lines.getLast? = some '\r' then lines.dropLast else lines) := by
  rcases lines.eq_nil_or_concat with rfl | ⟨before, last, rfl⟩
  · simp [dropLastLineFeed, ends]
  · by_cases carriage : last = '\r'
    · simp [dropLastLineFeed, ends, carriage]
    · simp [dropLastLineFeed, ends, carriage]

private theorem dropLastLineFeed_namesText (snapshot : DataSnapshot) :
    dropLastLineFeed (namesText snapshot) = nameLines snapshot := by
  have text := toList_namesText snapshot
  have lines : ("\n".intercalate (snapshot.children.map fun name => name.asString.getD "")).toList =
      ['\n'].intercalate (snapshot.children.map fun name => (name.asString.getD "").toList) := by
    simp [String.toList_intercalate, Function.comp_def]
  cases children : snapshot.children with
  | nil =>
    rw [children] at text
    simp [dropLastLineFeed, nameLines, text, children]
  | cons child rest =>
    rw [flatten_lineFeeds (by simp [children]), ← lines] at text
    exact dropLastLineFeed_of_toList text

/-- A name text as one of the servers had it. -/
def Served (servers : List DataSnapshot) (index : NameIndex) (text : String) : Prop :=
  ∃ server ∈ servers, text = namesText (aboutUsBranch server index)

/-- No other page empties the names. -/
def AboutUsEvent.Within (servers : List DataSnapshot) : AboutUsEvent → Prop
  | .serverChanges server => server ∈ servers
  | .viewDidLoad internetConnected => internetConnected = false
  | .complete _ _ => True

/-- The names have arrived, or are empty while the page waits for them; the page shows names that
were so when it was drawn last. -/
structure AboutUs.Fills (opened : Nat) (servers : List DataSnapshot) (state : AboutUs) : Prop where
  server : state.server ∈ servers
  names : Arriving (Served servers) "" (fun index => (index, opened) ∈ state.inFlight) state.names
  shown : ∃ page, state.pages[opened]? = some page ∧
    (page = .loading ∧ (∀ index, (index, opened) ∈ state.inFlight) ∨
      ∃ names, page = AboutUsPage.loading.renderViews names ∧
        Arriving (Served servers) "" (fun index => (index, opened) ∈ state.inFlight) names)

namespace AboutUs.Fills

variable {opened : Nat} {servers : List DataSnapshot} {state next : AboutUs}

private theorem renderViews_renderViews (names later : NameIndex → String) (page : AboutUsPage) :
    (page.renderViews names).renderViews later = page.renderViews later := rfl

private theorem of_viewDidLoad (known : state.server ∈ servers) :
    Fills state.pages.length servers (state.viewDidLoad true) := by
  have asked : ∀ index, (index, state.pages.length) ∈ (state.viewDidLoad true).inFlight := by
    intro index
    simp [viewDidLoad, getAboutUsData]
  refine ⟨known, .reset asked, .loading, ?_, .inl ⟨rfl, asked⟩⟩
  simp [viewDidLoad, getAboutUsData]

theorem complete (fills : Fills opened servers state) {index : NameIndex} {page : Nat} :
    Fills opened servers (getAboutUsDataBranch index page
      { state with inFlight := state.inFlight.erase (index, page) }) := by
  obtain ⟨known, names, shown, found, drawn⟩ := fills
  have served : Served servers index (namesText (aboutUsBranch state.server index)) :=
    ⟨state.server, known, rfl⟩
  have others : ∀ slot, slot ≠ index → (slot, opened) ∈ state.inFlight →
      (slot, opened) ∈ state.inFlight.erase (index, page) := fun slot other waiting =>
    (List.mem_erase_of_ne fun same => other (congrArg Prod.fst same)).mpr waiting
  have filled := names.store served others
  refine ⟨known, filled, ?_⟩
  by_cases own : page = opened
  · subst own
    refine ⟨AboutUsPage.loading.renderViews _, ?_, .inr ⟨_, rfl, filled⟩⟩
    rcases drawn with ⟨rfl, _⟩ | ⟨earlier, rfl, _⟩
    · simp [getAboutUsDataBranch, completion, found]
    · simpa [getAboutUsDataBranch, completion, found] using
        renderViews_renderViews earlier _ .loading
  · have kept : ∀ slot, (slot, opened) ∈ state.inFlight →
        (slot, opened) ∈ state.inFlight.erase (index, page) := fun slot waiting =>
      (List.mem_erase_of_ne fun same => own (congrArg Prod.snd same).symm).mpr waiting
    refine ⟨shown, ?_, ?_⟩
    · simp [getAboutUsDataBranch, completion, own, found]
    · rcases drawn with ⟨rfl, waiting⟩ | ⟨earlier, rfl, arriving⟩
      · exact .inl ⟨rfl, fun slot => kept slot (waiting slot)⟩
      · exact .inr ⟨earlier, rfl, arriving.mono (fun _ _ served => served) kept⟩

theorem step (fills : Fills opened servers state) {event : AboutUsEvent}
    (within : event.Within servers) (taken : aboutUsStep state event = some next) :
    Fills opened servers next := by
  cases event with
  | serverChanges server => exact Option.some.inj taken ▸ ⟨within, fills.names, fills.shown⟩
  | viewDidLoad internetConnected =>
    obtain rfl : internetConnected = false := within
    obtain rfl := Option.some.inj taken
    obtain ⟨page, found, drawn⟩ := fills.shown
    have inside := (List.getElem?_eq_some_iff.mp found).1
    refine ⟨fills.server, fills.names, page, ?_, drawn⟩
    simp [viewDidLoad, getAboutUsData, completion, inside.ne', found,
      List.getElem?_append_left inside]
  | complete index page =>
    rw [aboutUsStep] at taken
    split at taken
    · exact Option.some.inj taken ▸ fills.complete
    · cases taken

/-- The views of a page that was drawn. -/
theorem lists (fills : Fills opened servers state) : ∃ page, state.pages[opened]? = some page ∧
    (page = .loading ∧ (∀ index, (index, opened) ∈ state.inFlight) ∨
      page.Lists servers fun index => (index, opened) ∈ state.inFlight) := by
  obtain ⟨page, found, waits | ⟨names, rfl, arriving⟩⟩ := fills.shown
  · exact ⟨page, found, .inl waits⟩
  · refine ⟨_, found, .inr ⟨rfl, fun index => dropLastLineFeed (names index), rfl, ?_⟩⟩
    intro index
    rcases arriving index with ⟨server, known, text⟩ | ⟨empty, waiting⟩
    · exact .inl ⟨server, known,
        (congrArg dropLastLineFeed text).trans (dropLastLineFeed_namesText _)⟩
    · exact .inr ⟨congrArg dropLastLineFeed empty, waiting⟩

end AboutUs.Fills

/-- Fetches are of pages that were opened. -/
def AboutUs.Asked (state : AboutUs) : Prop :=
  ∀ fetch ∈ state.inFlight, fetch.2 < state.pages.length

/-- The page says that there is no connection, and waits for nothing. -/
structure AboutUs.Offline (opened : Nat) (state : AboutUs) : Prop where
  shown : state.pages[opened]? = some .noConnection
  none : ∀ index, (index, opened) ∉ state.inFlight

namespace AboutUs

variable {opened : Nat} {state next : AboutUs} {event : AboutUsEvent}

theorem Asked.step (asked : Asked state) (taken : aboutUsStep state event = some next) :
    Asked next := by
  cases event with
  | serverChanges server => exact Option.some.inj taken ▸ asked
  | viewDidLoad internetConnected =>
    obtain rfl := Option.some.inj taken
    intro fetch there
    cases internetConnected with
    | false =>
      have older := asked fetch (by simpa [viewDidLoad, getAboutUsData, completion] using there)
      simp only [viewDidLoad, getAboutUsData, completion, List.length_modify, List.length_append,
        List.length_singleton, Bool.false_eq_true, if_false]
      omega
    | true =>
      simp only [viewDidLoad, getAboutUsData, if_true, List.mem_append, List.length_append,
        List.length_singleton] at there ⊢
      rcases there with older | own
      · have before := asked fetch older
        omega
      · obtain ⟨_, _, rfl⟩ := List.mem_map.mp own
        exact Nat.lt_succ_self _
  | complete index page =>
    rw [aboutUsStep] at taken
    split at taken
    · obtain rfl := Option.some.inj taken
      intro fetch there
      have older := asked fetch (List.mem_of_mem_erase there)
      simpa [getAboutUsDataBranch, completion] using older
    · cases taken

theorem Offline.of_viewDidLoad (asked : Asked state) :
    Offline state.pages.length (state.viewDidLoad false) := by
  refine ⟨?_, ?_⟩
  · simp [viewDidLoad, getAboutUsData, completion, AboutUsPage.loading, AboutUsPage.noConnection]
  · intro index there
    exact absurd (asked _ there) (Nat.lt_irrefl _)

theorem Offline.step (offline : Offline opened state)
    (taken : aboutUsStep state event = some next) : Offline opened next := by
  obtain ⟨shown, none⟩ := offline
  have inside := (List.getElem?_eq_some_iff.mp shown).1
  cases event with
  | serverChanges server => exact Option.some.inj taken ▸ ⟨shown, none⟩
  | viewDidLoad internetConnected =>
    obtain rfl := Option.some.inj taken
    cases internetConnected with
    | false =>
      refine ⟨?_, none⟩
      simp [viewDidLoad, getAboutUsData, completion, inside.ne', shown,
        List.getElem?_append_left inside]
    | true =>
      refine ⟨(List.getElem?_append_left inside).trans shown, ?_⟩
      intro index there
      rcases List.mem_append.mp there with older | own
      · exact none index older
      · obtain ⟨_, _, same⟩ := List.mem_map.mp own
        exact inside.ne' (congrArg Prod.snd same)
  | complete index page =>
    rw [aboutUsStep] at taken
    split at taken
    · rename_i waiting
      obtain rfl := Option.some.inj taken
      have other : page ≠ opened := by
        rintro rfl
        exact none index waiting
      refine ⟨?_, fun slot there => none slot (List.mem_of_mem_erase there)⟩
      simp [getAboutUsDataBranch, completion, other, shown]
    · cases taken

end AboutUs

/-- A page that is opened without a connection says so for good. One that is opened with a
connection, as long as none is after it, loads until a fetch of its own arrives; then, in every
order of the fetches of all pages, each category is empty while its fetch is on its way, or has
the names, one a line, that the server had at some time since the page was opened. -/
theorem about_us_pages {server : DataSnapshot} {before after : List AboutUsEvent}
    {middle last : AboutUs} {internetConnected : Bool}
    (ranBefore : aboutUsRun (.launch server) before = some middle)
    (ran : aboutUsRun middle (.viewDidLoad internetConnected :: after) = some last) :
    (internetConnected = false → last.pages[middle.pages.length]? = some .noConnection) ∧
    (internetConnected = true → AboutUsEvent.viewDidLoad true ∉ after →
      ∃ page, last.pages[middle.pages.length]? = some page ∧
        (page = .loading ∧ (∀ index, (index, middle.pages.length) ∈ last.inFlight) ∨
          page.Lists (middle.server :: serversOf after)
            fun index => (index, middle.pages.length) ∈ last.inFlight)) := by
  obtain ⟨_, opened, ranAfter⟩ := run_cons_iff.mp ran
  obtain rfl := Option.some.inj opened
  refine ⟨?_, ?_⟩
  · rintro rfl
    have asked : AboutUs.Asked middle :=
      run_invariant AboutUs.Asked (fun _ _ => True) (fun asked _ taken => asked.step taken)
        (fun _ none => absurd none List.not_mem_nil) (.of_forall (fun _ _ _ => trivial) _) ranBefore
    exact (run_invariant (AboutUs.Offline middle.pages.length) (fun _ _ => True)
      (fun offline _ taken => offline.step taken) (.of_viewDidLoad asked)
      (.of_forall (fun _ _ _ => trivial) _) ranAfter).shown
  · rintro rfl latest
    have within : ∀ event ∈ after, event.Within (middle.server :: serversOf after) := by
      intro event member
      cases event with
      | serverChanges server =>
        exact List.mem_cons_of_mem _ (List.mem_filterMap.mpr ⟨_, member, rfl⟩)
      | viewDidLoad connected =>
        cases connected with
        | false => rfl
        | true => exact absurd member latest
      | complete index page => trivial
    exact (run_invariant (AboutUs.Fills middle.pages.length (middle.server :: serversOf after))
      (fun _ event => event.Within (middle.server :: serversOf after))
      (fun fills within taken => fills.step within taken)
      (.of_viewDidLoad List.mem_cons_self) (.of_forall (fun _ => within) _) ranAfter).lists

/-- Two programmers, and nobody else. -/
def twoProgrammers : DataSnapshot :=
  .node "" [.node "aboutus" [.node "Programmers" [.leaf "0" (.string "Ann"),
    .leaf "1" (.string "Bob")]]]

def categories : List NameIndex := List.finRange nameTitleArray.length

/-- A page is opened and left when two of its fetches have arrived. -/
def leftEarly : List AboutUsEvent :=
  .viewDidLoad true :: (categories.take 2).map (.complete · 0)

/-- The fetches of the next page arrive between those that the first one left. -/
def fetchedAgain : List AboutUsEvent :=
  categories.reverse.map (.complete · 1) ++ (categories.drop 2).map (.complete · 0)

theorem opened_again_lists : ∃ middle last page,
    aboutUsRun (.launch twoProgrammers) leftEarly = some middle ∧
    aboutUsRun middle (.viewDidLoad true :: fetchedAgain) = some last ∧ last.inFlight = [] ∧
    last.pages[middle.pages.length]? = some page ∧
    page.Lists [twoProgrammers] fun index => (index, middle.pages.length) ∈ last.inFlight := by
  have latest : AboutUsEvent.viewDidLoad true ∉ fetchedAgain := by
    simp only [fetchedAgain, List.mem_append, List.mem_map]
    rintro (⟨_, _, same⟩ | ⟨_, _, same⟩)
    · cases same
    · cases same
  obtain ⟨page, found, ⟨_, waiting⟩ | lists⟩ :=
    (@about_us_pages twoProgrammers leftEarly fetchedAgain _ _ true rfl rfl).2 rfl latest
  · exact absurd (waiting ⟨0, by decide⟩) List.not_mem_nil
  · exact ⟨_, _, page, rfl, rfl, rfl, found, lists⟩

end AhsApp.Ios
