import AhsApp.Library.Run
import Mathlib.Logic.Function.Basic

/-! The pages of an article: its videos, then its images. Players are started and
stopped through listeners, one for each fragment, that `createFragment` puts into an
array. `ViewPager2` decides when a fragment is created and when a page is selected. -/

namespace AhsApp.Android

open AhsApp.Library

/-- The listener of a fragment; no two fragments share one. -/
structure InitializeListener where
  fragment : Nat
  position : Nat
  deriving DecidableEq

/-- The adapter with the page callback of its activity. The listeners that were started
and not stopped since are `playing`, whether their players have come by then or not. -/
structure VideoPages where
  videoIDs : List String
  imagePaths : List String
  initializeListeners : Nat → Option InitializeListener
  fragments : Nat
  playing : List InitializeListener
  oldPosition : Int

namespace VideoPages

/-- The page was just opened. -/
def opened (videoIDs imagePaths : List String) : VideoPages where
  videoIDs := videoIDs
  imagePaths := imagePaths
  initializeListeners _ := none
  fragments := 0
  playing := []
  oldPosition := -1

def inVideosRange (pages : VideoPages) (position : Int) : Bool :=
  decide (0 ≤ position ∧ position < pages.videoIDs.length)

/-- A listener that is not there is dereferenced: the call throws. -/
def startVideo (position : Int) (pages : VideoPages) : Option VideoPages := do
  let listener ← pages.initializeListeners position.toNat
  some { pages with playing := listener :: pages.playing }

def stopVideo (position : Int) (pages : VideoPages) : Option VideoPages := do
  let listener ← pages.initializeListeners position.toNat
  some { pages with playing := pages.playing.filter (· ≠ listener) }

/-- A fragment is new each time; a single video is started at once. -/
def createFragment (position : Nat) (pages : VideoPages) : Option VideoPages :=
  if pages.inVideosRange position then
    let created := { pages with
      initializeListeners :=
        Function.update pages.initializeListeners position (some ⟨pages.fragments, position⟩)
      fragments := pages.fragments + 1 }
    if pages.videoIDs.length = 1 then created.startVideo position else some created
  else if position - pages.videoIDs.length < pages.imagePaths.length then some pages
  else none

def onPageChanged (oldPosition newPosition : Int) (pages : VideoPages) : Option VideoPages :=
  if !pages.inVideosRange oldPosition && pages.inVideosRange newPosition then
    pages.startVideo newPosition
  else if oldPosition ≠ newPosition then do
    let pages ← if pages.inVideosRange oldPosition then pages.stopVideo oldPosition else some pages
    if pages.inVideosRange newPosition then pages.startVideo newPosition else some pages
  else some pages

/-- The callback is registered when there are several videos. -/
def onPageSelected (position : Nat) (pages : VideoPages) : Option VideoPages :=
  if 1 < pages.videoIDs.length then do
    let pages ← pages.onPageChanged pages.oldPosition position
    some { pages with oldPosition := position }
  else some pages

end VideoPages

inductive PageEvent where
  | createFragment (position : Nat)
  | onPageSelected (position : Nat)

def pageStep (pages : VideoPages) : PageEvent → Option VideoPages
  | .createFragment position => pages.createFragment position
  | .onPageSelected position => pages.onPageSelected position

abbrev pageRun : VideoPages → List PageEvent → Option VideoPages := run pageStep

/-- The position of a page that exists. -/
def PageEvent.InRange (count : Nat) : PageEvent → Prop
  | .createFragment position => position < count
  | .onPageSelected position => position < count

/-- Exactly the selected page plays, if it is a video page. -/
def PlaysSelected (pages : VideoPages) : Prop :=
  ∀ position : Nat, (∃ listener ∈ pages.playing, listener.position = position) ↔
    (position : Int) = pages.oldPosition ∧ pages.inVideosRange position

/-- A selection of another page finds the listener of that page, if it has a video, and
that of the player that runs. -/
def FindsListeners (pages : VideoPages) : PageEvent → Prop
  | .createFragment _ => True
  | .onPageSelected position => (position : Int) = pages.oldPosition ∨
      (pages.inVideosRange position → ∃ listener, pages.initializeListeners position = some listener) ∧
      ∀ listener ∈ pages.playing, pages.initializeListeners listener.position = some listener

namespace VideoPages

/-- A listener in the array is the one of a fragment of that page, and a page that plays
has one. -/
structure Valid (videoIDs imagePaths : List String) (pages : VideoPages) : Prop where
  videos : pages.videoIDs = videoIDs
  images : pages.imagePaths = imagePaths
  positions : ∀ position listener, pages.initializeListeners position = some listener →
    listener.position = position
  created : ∀ listener ∈ pages.playing,
    ∃ current, pages.initializeListeners listener.position = some current

variable {videoIDs imagePaths : List String} {pages next : VideoPages}

private theorem startVideo_cases {position : Nat}
    (started : pages.startVideo position = some next) :
    ∃ listener, pages.initializeListeners position = some listener ∧
      next = { pages with playing := listener :: pages.playing } := by
  simp only [startVideo, Int.toNat_natCast, Option.bind_eq_bind, Option.bind_eq_some_iff,
    Option.some.injEq] at started
  obtain ⟨listener, found, same⟩ := started
  exact ⟨listener, found, same.symm⟩

private theorem onPageChanged_of_ne {oldPosition newPosition : Int}
    (changed : oldPosition ≠ newPosition) :
    pages.onPageChanged oldPosition newPosition =
      (if pages.inVideosRange oldPosition then pages.stopVideo oldPosition else some pages).bind
        fun pages => if pages.inVideosRange newPosition then pages.startVideo newPosition
          else some pages := by
  cases leaves : pages.inVideosRange oldPosition with
  | true => simp [onPageChanged, leaves, changed]
  | false =>
    cases enters : pages.inVideosRange newPosition with
    | true => simp [onPageChanged, leaves, enters]
    | false => simp [onPageChanged, leaves, enters, changed]

/-- What is left playing when a page is left: nothing exactly if the listener that plays
is the one in the array. -/
theorem stop_spec (valid : pages.Valid videoIDs imagePaths) (plays : PlaysSelected pages) :
    ∃ left, (if pages.inVideosRange pages.oldPosition then pages.stopVideo pages.oldPosition
        else some pages) = some { pages with playing := left } ∧
      (∀ listener ∈ left, (listener.position : Int) = pages.oldPosition) ∧
      (left = [] ↔ ∀ listener ∈ pages.playing,
        pages.initializeListeners listener.position = some listener) := by
  have selected : ∀ listener ∈ pages.playing,
      (listener.position : Int) = pages.oldPosition ∧ pages.inVideosRange listener.position :=
    fun listener member => (plays listener.position).mp ⟨listener, member, rfl⟩
  cases leaves : pages.inVideosRange pages.oldPosition with
  | false =>
    have quiet : pages.playing = [] := by
      apply List.eq_nil_iff_forall_not_mem.mpr
      intro listener member
      obtain ⟨same, inRange⟩ := selected listener member
      rw [same, leaves] at inRange
      cases inRange
    refine ⟨pages.playing, rfl, fun listener member => (selected listener member).1, ?_⟩
    simp [quiet]
  | true =>
    have bounds : 0 ≤ pages.oldPosition := by
      simp only [inVideosRange, decide_eq_true_eq] at leaves
      exact leaves.1
    obtain ⟨position, same⟩ := Int.eq_ofNat_of_zero_le bounds
    obtain ⟨listener, member, here⟩ := (plays position).mpr ⟨same.symm, same ▸ leaves⟩
    obtain ⟨current, found⟩ := valid.created listener member
    rw [here] at found
    refine ⟨pages.playing.filter (· ≠ current), ?_, ?_, ?_⟩
    · simp [stopVideo, same, found]
    · intro other kept
      exact (selected other (List.mem_filter.mp kept).1).1
    · rw [List.filter_eq_nil_iff]
      refine forall₂_congr fun other playing => ?_
      have there : other.position = position := by
        have := (selected other playing).1
        omega
      rw [there, found, Option.some.injEq, decide_eq_true_eq, not_not]
      exact eq_comm

private theorem select_image_iff {left : List InitializeListener} {position : Nat}
    (enters : pages.inVideosRange position = false)
    (others : ∀ listener ∈ left, (listener.position : Int) ≠ position) :
    PlaysSelected { pages with playing := left, oldPosition := position } ↔ left = [] := by
  constructor
  · intro plays
    refine List.eq_nil_iff_forall_not_mem.mpr fun listener member => ?_
    exact others listener member ((plays listener.position).mp ⟨listener, member, rfl⟩).1
  · rintro rfl
    refine fun other => iff_of_false (by simp) ?_
    rintro ⟨here, inRange⟩
    obtain rfl : other = position := Int.ofNat_inj.mp here
    have inside : pages.inVideosRange other = true := inRange
    rw [enters] at inside
    cases inside

private theorem select_video_iff (valid : pages.Valid videoIDs imagePaths)
    {left : List InitializeListener}
    {position : Nat} {current : InitializeListener} (enters : pages.inVideosRange position)
    (found : pages.initializeListeners position = some current)
    (others : ∀ listener ∈ left, (listener.position : Int) ≠ position) :
    PlaysSelected { pages with playing := current :: left, oldPosition := position } ↔
      left = [] := by
  constructor
  · intro plays
    refine List.eq_nil_iff_forall_not_mem.mpr fun listener member => ?_
    exact others listener member ((plays listener.position).mp
      ⟨listener, List.mem_cons_of_mem current member, rfl⟩).1
  · rintro rfl other
    simp only [List.mem_singleton, exists_eq_left, valid.positions position current found]
    constructor
    · rintro rfl
      exact ⟨rfl, enters⟩
    · rintro ⟨here, _⟩
      exact (Int.ofNat_inj.mp here).symm

private theorem onPageSelected_exact (valid : pages.Valid videoIDs imagePaths)
    (several : 1 < videoIDs.length) (plays : PlaysSelected pages) (position : Nat) :
    (∃ next, pages.onPageSelected position = some next ∧ PlaysSelected next) ↔
      FindsListeners pages (.onPageSelected position) := by
  have registered : 1 < pages.videoIDs.length := valid.videos ▸ several
  by_cases same : (position : Int) = pages.oldPosition
  · have taken : pages.onPageSelected position = some pages := by
      rw [onPageSelected, if_pos registered, same]
      simp [onPageChanged]
    exact iff_of_true ⟨pages, taken, plays⟩ (.inl same)
  · obtain ⟨left, stopped, positions, emptied⟩ := stop_spec valid plays
    simp only [FindsListeners, same, false_or, ← emptied]
    rw [onPageSelected, if_pos registered, onPageChanged_of_ne (Ne.symm same), stopped,
      Option.bind_some]
    have others : ∀ listener ∈ left, (listener.position : Int) ≠ position :=
      fun listener member here => same (here.symm.trans (positions listener member))
    simp only [show ({ pages with playing := left } : VideoPages).inVideosRange position =
      pages.inVideosRange position from rfl]
    cases enters : pages.inVideosRange position with
    | false =>
      constructor
      · rintro ⟨next, taken, plays⟩
        obtain rfl := Option.some.inj taken
        exact ⟨by simp, (select_image_iff enters others).mp plays⟩
      · rintro ⟨_, empty⟩
        exact ⟨_, rfl, (select_image_iff enters others).mpr empty⟩
    | true =>
      constructor
      · rintro ⟨next, taken, plays⟩
        obtain ⟨middle, started, selected⟩ := Option.bind_eq_some_iff.mp taken
        obtain ⟨current, found, rfl⟩ := startVideo_cases started
        obtain rfl := Option.some.inj selected
        exact ⟨fun _ => ⟨current, found⟩, (select_video_iff valid enters found others).mp plays⟩
      · rintro ⟨found, empty⟩
        obtain ⟨current, found⟩ := found rfl
        refine ⟨{ pages with playing := current :: left, oldPosition := position }, ?_,
          (select_video_iff valid enters found others).mpr empty⟩
        simp [startVideo, found]

private theorem createFragment_returns (valid : pages.Valid videoIDs imagePaths)
    (several : 1 < videoIDs.length) {position : Nat}
    (inRange : position < videoIDs.length + imagePaths.length) : ∃ next,
      pages.createFragment position = some next ∧ next.playing = pages.playing ∧
      next.oldPosition = pages.oldPosition ∧ next.videoIDs = pages.videoIDs := by
  have count : pages.videoIDs.length ≠ 1 := by
    rw [valid.videos]
    omega
  cases video : pages.inVideosRange position with
  | true =>
    rw [createFragment, if_pos video]
    simp only [count, ↓reduceIte]
    exact ⟨_, rfl, rfl, rfl, rfl⟩
  | false =>
    have image : position - pages.videoIDs.length < pages.imagePaths.length := by
      have outside : ¬ position < pages.videoIDs.length := by
        simpa [inVideosRange] using video
      rw [valid.videos] at outside ⊢
      rw [valid.images]
      omega
    rw [createFragment, video]
    exact ⟨pages, if_pos image, rfl, rfl, rfl⟩

end VideoPages

open VideoPages

private theorem page_exact {videoIDs imagePaths : List String} {pages : VideoPages}
    {event : PageEvent}
    (several : 1 < videoIDs.length) (valid : pages.Valid videoIDs imagePaths)
    (inRange : event.InRange (videoIDs.length + imagePaths.length))
    (plays : PlaysSelected pages) :
    (∃ next, pageStep pages event = some next ∧ PlaysSelected next) ↔
      FindsListeners pages event := by
  cases event with
  | createFragment position =>
    obtain ⟨next, taken, playing, oldPosition, videos⟩ :=
      createFragment_returns valid several inRange
    refine iff_of_true ⟨next, taken, fun other => ?_⟩ trivial
    rw [playing, oldPosition, inVideosRange, videos]
    exact plays other
  | onPageSelected position => exact onPageSelected_exact valid several plays position

namespace VideoPages.Valid

variable {videoIDs imagePaths : List String} {pages next : VideoPages}

theorem opened : (VideoPages.opened videoIDs imagePaths).Valid videoIDs imagePaths where
  videos := rfl
  images := rfl
  positions _ _ found := by cases found
  created _ member := by cases member

theorem startVideo (valid : pages.Valid videoIDs imagePaths) {position : Int}
    (started : pages.startVideo position = some next) : next.Valid videoIDs imagePaths := by
  obtain ⟨listener, found, same⟩ := Option.bind_eq_some_iff.mp started
  obtain rfl := Option.some.inj same
  refine ⟨valid.videos, valid.images, valid.positions, ?_⟩
  intro other member
  rcases List.mem_cons.mp member with rfl | member
  · have here := valid.positions _ _ found
    exact ⟨other, here ▸ found⟩
  · exact valid.created other member

theorem stopVideo (valid : pages.Valid videoIDs imagePaths) {position : Int}
    (stopped : pages.stopVideo position = some next) : next.Valid videoIDs imagePaths := by
  obtain ⟨listener, _, same⟩ := Option.bind_eq_some_iff.mp stopped
  obtain rfl := Option.some.inj same
  exact ⟨valid.videos, valid.images, valid.positions,
    fun other member => valid.created other (List.mem_filter.mp member).1⟩

theorem createFragment (valid : pages.Valid videoIDs imagePaths) {position : Nat}
    (taken : pages.createFragment position = some next) : next.Valid videoIDs imagePaths := by
  have updated : ({ pages with
      initializeListeners :=
        Function.update pages.initializeListeners position (some ⟨pages.fragments, position⟩)
      fragments := pages.fragments + 1 } : VideoPages).Valid videoIDs imagePaths := by
    refine ⟨valid.videos, valid.images, ?_, ?_⟩
    · intro other listener found
      by_cases same : other = position
      · subst other
        simp only [Function.update_self, Option.some.injEq] at found
        exact found ▸ rfl
      · simp only [Function.update_of_ne same] at found
        exact valid.positions other listener found
    · intro listener member
      by_cases same : listener.position = position
      · rw [same]
        exact ⟨_, Function.update_self ..⟩
      · simp only [Function.update_of_ne same]
        exact valid.created listener member
  unfold VideoPages.createFragment at taken
  split at taken
  · split at taken
    · exact updated.startVideo taken
    · exact Option.some.inj taken ▸ updated
  · split at taken
    · exact Option.some.inj taken ▸ valid
    · cases taken

theorem onPageChanged (valid : pages.Valid videoIDs imagePaths) {oldPosition newPosition : Int}
    (changed : pages.onPageChanged oldPosition newPosition = some next) :
    next.Valid videoIDs imagePaths := by
  by_cases same : oldPosition = newPosition
  · subst newPosition
    have kept : pages.onPageChanged oldPosition oldPosition = some pages := by
      simp [VideoPages.onPageChanged]
    exact Option.some.inj (kept.symm.trans changed) ▸ valid
  · rw [onPageChanged_of_ne same] at changed
    obtain ⟨middle, left, entered⟩ := Option.bind_eq_some_iff.mp changed
    have between : middle.Valid videoIDs imagePaths := by
      split at left
      · exact valid.stopVideo left
      · exact Option.some.inj left ▸ valid
    split at entered
    · exact between.startVideo entered
    · exact Option.some.inj entered ▸ between

theorem step {event : PageEvent} (valid : pages.Valid videoIDs imagePaths)
    (taken : pageStep pages event = some next) : next.Valid videoIDs imagePaths := by
  cases event with
  | createFragment position => exact valid.createFragment taken
  | onPageSelected position =>
    simp only [pageStep, VideoPages.onPageSelected] at taken
    split at taken
    · obtain ⟨middle, changed, selected⟩ := Option.bind_eq_some_iff.mp taken
      have between := valid.onPageChanged changed
      exact Option.some.inj selected ▸
        ⟨between.videos, between.images, between.positions, between.created⟩
    · exact Option.some.inj taken ▸ valid

end VideoPages.Valid

/-- In a run over an article with several videos no listener is missing and exactly the
selected video plays, exactly if every selection finds the listeners. -/
theorem video_pages_iff {videoIDs imagePaths : List String} {events : List PageEvent}
    (several : 1 < videoIDs.length)
    (inRange : ∀ event ∈ events, event.InRange (videoIDs.length + imagePaths.length)) :
    ((∃ last, pageRun (VideoPages.opened videoIDs imagePaths) events = some last) ∧
        Throughout pageStep PlaysSelected (VideoPages.opened videoIDs imagePaths) events) ↔
      Along pageStep FindsListeners (VideoPages.opened videoIDs imagePaths) events := by
  have nothing : PlaysSelected (VideoPages.opened videoIDs imagePaths) := by
    intro position
    refine iff_of_false (by simp [VideoPages.opened]) ?_
    rintro ⟨same, _⟩
    simp only [VideoPages.opened] at same
    omega
  have preserved : ∀ {pages event next}, VideoPages.Valid videoIDs imagePaths pages →
      event.InRange (videoIDs.length + imagePaths.length) → pageStep pages event = some next →
      next.Valid videoIDs imagePaths := fun valid _ taken => valid.step taken
  exact returns_and_throughout_iff preserved (page_exact several) VideoPages.Valid.opened nothing
    inRange

/-- The first page is shown, the second is prepared, and the user jumps to the third. -/
def jumpToThird : List PageEvent :=
  [.createFragment 0, .onPageSelected 0, .createFragment 1, .onPageSelected 2]

theorem jump_to_third_throws :
    (∀ event ∈ jumpToThird, event.InRange 3) ∧
      pageRun (VideoPages.opened ["a", "b", "c"] []) jumpToThird = none := by
  refine ⟨?_, rfl⟩
  simp [jumpToThird, PageEvent.InRange]

/-- Every page is prepared before it is shown. -/
def swipeThrough : List PageEvent :=
  [.createFragment 0, .onPageSelected 0, .createFragment 1, .onPageSelected 1,
    .createFragment 2, .onPageSelected 2]

theorem swipe_through_plays :
    ((∃ last, pageRun (VideoPages.opened ["a", "b"] ["c"]) swipeThrough = some last) ∧
        Throughout pageStep PlaysSelected (VideoPages.opened ["a", "b"] ["c"]) swipeThrough) ↔
      Along pageStep FindsListeners (VideoPages.opened ["a", "b"] ["c"]) swipeThrough :=
  video_pages_iff (by decide) (by simp [swipeThrough, PageEvent.InRange])

end AhsApp.Android
