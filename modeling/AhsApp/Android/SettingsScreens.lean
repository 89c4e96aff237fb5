import AhsApp.Android.SettingsCoherence
import Mathlib.Logic.Function.Basic

/-! The settings page and the page of notification settings, with their check box, switches
and bar for the text size. A page that lies under others keeps what it showed; only the result
of the page of notification settings makes the settings page read its check box again. -/

namespace AhsApp.Android

open AhsApp.Library

inductive TextSizeOption where
  | small
  | default
  | large
  | massive
  deriving DecidableEq

namespace TextSizeOption

def values : List TextSizeOption := [small, default, large, massive]

def numCode : TextSizeOption → Int
  | small => 0
  | default => 1
  | large => 2
  | massive => 3

def getOptionFromNumCode (numCode : Int) : Option TextSizeOption :=
  values.find? (·.numCode == numCode)

@[simp] private theorem getOptionFromNumCode_numCode (option : TextSizeOption) :
    getOptionFromNumCode option.numCode = some option := by
  cases option <;> decide

end TextSizeOption

/-- The stored size, and the size in use, which a process has with its first `Settings`. -/
structure TextSizeState where
  sharedPrefs : Option Int
  currentOption : Option TextSizeOption

def getTextSizeOption (state : TextSizeState) : Option TextSizeOption :=
  TextSizeOption.getOptionFromNumCode (state.sharedPrefs.getD 1)

def saveTextSizeOption (option : TextSizeOption) (state : TextSizeState) : TextSizeState :=
  { state with sharedPrefs := some option.numCode }

/-- Whether the size changed comes with it: then `optionChanged` is run. -/
def updateTextSize (option : TextSizeOption) (state : TextSizeState) : TextSizeState × Bool :=
  if state.currentOption ≠ some option then
    (saveTextSizeOption option { state with currentOption := some option }, true)
  else (state, false)

/-- What a page shows. The progress of the bar is the code of a size. -/
inductive SettingsPage where
  | other
  | settings (isChecked : Bool) (progress : Int)
  | notifSettings (isChecked : SwitchOption → Bool)

/-- The pages that are open, the one on top first. -/
structure SettingsScreens where
  settings : SettingsState
  textSize : TextSizeState
  pages : List SettingsPage

namespace SettingsScreens

def install : SettingsScreens := ⟨freshInstall, ⟨none, none⟩, []⟩

/-- The constructor of `Settings` reads what is stored. -/
def newSettings (screens : SettingsScreens) : SettingsScreens := { screens with
  settings := Android.newSettings screens.settings
  textSize := { screens.textSize with currentOption := getTextSizeOption screens.textSize } }

/-- `onCreate` of the settings page, over the pages; a size that is `null` throws. -/
def createSettings (pages : List SettingsPage) (screens : SettingsScreens) :
    Option SettingsScreens := do
  let screens := screens.newSettings
  let option ← screens.textSize.currentOption
  some { screens with
    pages := .settings (getAllNotifSetting screens.settings) option.numCode :: pages }

/-- The switches of the page, in the order in which they are set. -/
def switches : List SwitchOption :=
  [⟨.asb, by decide⟩, ⟨.district, by decide⟩, ⟨.general, by decide⟩, ⟨.bulletin, by decide⟩]

/-- A switch is on at first, and has its listener when it is set: a change is a click. -/
def setChecked (state : SettingsState × (SwitchOption → Bool)) (option : SwitchOption) :
    SettingsState × (SwitchOption → Bool) :=
  let isChecked := getNotifSetting state.1 option
  (if state.2 option ≠ isChecked then updateNotifSettings option isChecked true state.1
    else state.1, Function.update state.2 option isChecked)

/-- `onCreate` of the page of notification settings. -/
def createNotifSettings (screens : SettingsScreens) : SettingsScreens :=
  let screens := screens.newSettings
  let (settings, isChecked) := switches.foldl setChecked (screens.settings, fun _ => true)
  { screens with settings, pages := .notifSettings isChecked :: screens.pages }

/-- The check box has its listener when it is set to what is stored. -/
def onActivityResult (isChecked : Bool) (progress : Int) (pages : List SettingsPage)
    (screens : SettingsScreens) : SettingsScreens :=
  let screens := screens.newSettings
  let all := getAllNotifSetting screens.settings
  { screens with
    settings := if isChecked ≠ all then updateAllSetting all true screens.settings
      else screens.settings
    pages := .settings all progress :: pages }

/-- The greatest progress of the bar. -/
def maxProgress : Int := 3

/-- A new size closes the page and opens it again. -/
def onProgressChanged (isChecked : Bool) (progress : Int) (pages : List SettingsPage)
    (screens : SettingsScreens) : Option SettingsScreens := do
  let option ← TextSizeOption.getOptionFromNumCode progress
  let (textSize, changed) := updateTextSize option screens.textSize
  if changed then createSettings pages { screens with textSize }
  else some { screens with textSize, pages := .settings isChecked progress :: pages }

end SettingsScreens

inductive SettingsScreenEvent where
  | settingsOpened
  | notifSettingsOpened
  | otherOpened
  | back
  | checkBoxClicked
  | switchClicked (option : SwitchOption)
  | progressChanged (progress : Int)
  | textViewCreated
  | processRestart

open SettingsScreens in
/-- Any page may be opened on any other, but that of notification settings only from the
settings page. Every text reads the settings when it is created. -/
def settingsScreenStep (screens : SettingsScreens) : SettingsScreenEvent → Option SettingsScreens
  | .settingsOpened => screens.createSettings screens.pages
  | .notifSettingsOpened =>
    match screens.pages with
    | .settings .. :: _ => some screens.createNotifSettings
    | _ => none
  | .otherOpened => some { screens with pages := .other :: screens.pages }
  | .back =>
    match screens.pages with
    | .notifSettings _ :: .settings isChecked progress :: pages =>
      some (screens.onActivityResult isChecked progress pages)
    | _ :: pages => some { screens with pages }
    | [] => none
  | .checkBoxClicked =>
    match screens.pages with
    | .settings isChecked progress :: pages => some { screens with
        settings := updateAllSetting (!isChecked) true screens.settings
        pages := .settings (!isChecked) progress :: pages }
    | _ => none
  | .switchClicked option =>
    match screens.pages with
    | .notifSettings isChecked :: pages => some { screens with
        settings := updateNotifSettings option (!isChecked option) true screens.settings
        pages := .notifSettings (Function.update isChecked option (!isChecked option)) :: pages }
    | _ => none
  | .progressChanged progress =>
    match screens.pages with
    | .settings isChecked _ :: pages =>
      if 0 ≤ progress ∧ progress ≤ maxProgress then
        screens.onProgressChanged isChecked progress pages
      else none
    | _ => none
  | .textViewCreated => some screens.newSettings
  | .processRestart => some {
      settings := { screens.settings with currentSetting := fun _ => false, objects := 0 }
      textSize := { screens.textSize with currentOption := none }
      pages := [] }

abbrev settingsScreenRun : SettingsScreens → List SettingsScreenEvent → Option SettingsScreens := run settingsScreenStep

/-- The page shows what is stored. -/
def SettingsPage.Shows (screens : SettingsScreens) : SettingsPage → Prop
  | other => True
  | settings isChecked progress => isChecked = getAllNotifSetting screens.settings ∧
    (getTextSizeOption screens.textSize).map TextSizeOption.numCode = some progress
  | notifSettings isChecked =>
    ∀ option : SwitchOption, isChecked option = getNotifSetting screens.settings option

def SettingsPage.isSettings : SettingsPage → Bool
  | settings .. => true
  | _ => false

/-- What holds in every state: the settings agree, a size is stored, and it is in use. -/
structure SettingsScreensValid (screens : SettingsScreens) : Prop where
  settings : SettingsValid screens.settings
  stored : ∃ option, getTextSizeOption screens.textSize = some option
  current : 0 < screens.settings.objects →
    screens.textSize.currentOption = getTextSizeOption screens.textSize
  created : 0 < screens.settings.objects ∨ ∀ page ∈ screens.pages, page = .other

section clicks

variable {state : SettingsState}

private theorem objects_alone (newSetting : Bool) (state : SettingsState) :
    (updateAllSetting newSetting false state).objects = state.objects := by
  rw [updateAllSetting_alone]
  split <;> rfl

private theorem objects_updateNotifSettings (option : NotifOption)
    (newSetting makeSuccessToast : Bool)
    (state : SettingsState) :
    (updateNotifSettings option newSetting makeSuccessToast state).objects = state.objects := by
  rw [updateNotifSettings_eq]
  split
  · rfl
  · exact objects_alone ..

private theorem objects_updateAllSetting (newSetting changeOthers : Bool) (state : SettingsState) :
    (updateAllSetting newSetting changeOthers state).objects = state.objects := by
  have loop : ∀ (options : List NotifOption) (state : SettingsState),
      (options.foldl (fun state option =>
        if option ≠ .mandatory then updateNotifSettings option newSetting true state else state)
          state).objects = state.objects := by
    intro options
    induction options with
    | nil => exact fun _ => rfl
    | cons option rest ih =>
      intro state
      rw [List.foldl_cons, ih]
      split
      · exact objects_updateNotifSettings ..
      · rfl
  rw [updateAllSetting]
  split
  · split
    · exact loop ..
    · rfl
  · rfl

theorem Matched.updateNotifSettings_same (matched : Matched state) (option : NotifOption)
    (makeSuccessToast : Bool) :
    Android.updateNotifSettings option (getNotifSetting state option) makeSuccessToast state =
      state := by
  rw [updateNotifSettings_eq, if_pos (matched.cached option)]

private theorem updateAllSetting_same (changeOthers : Bool) (state : SettingsState) :
    updateAllSetting (getAllNotifSetting state) changeOthers state = state := by
  rw [updateAllSetting, if_neg (by simp)]

theorem Matched.getAllNotifSetting_updateAll (matched : Matched state) (newSetting : Bool) :
    getAllNotifSetting (updateAllSetting newSetting true state) = newSetting := by
  rw [updateAllSetting]
  split
  · exact ((matched.putAll newSetting).changeOthers NotifOption.values
      (getAllNotifSetting_put_all state newSetting)).2.1
  · simp_all

end clicks

namespace SettingsScreensValid

open SettingsScreens

variable {screens next : SettingsScreens}

theorem matched (valid : SettingsScreensValid screens.newSettings) :
    Matched screens.newSettings.settings :=
  valid.settings.matched (Nat.succ_pos _)

theorem newSettings (valid : SettingsScreensValid screens) :
    SettingsScreensValid screens.newSettings where
  settings := valid.settings.newSettings
  stored := valid.stored
  current _ := rfl
  created := .inl (Nat.succ_pos _)

/-- A page that is opened shows what is stored, and does not change it. -/
theorem createSettings_eq (valid : SettingsScreensValid screens) (pages : List SettingsPage) :
    ∃ page, createSettings pages screens = some { screens.newSettings with pages := page :: pages } ∧
      page.isSettings = true ∧ page.Shows screens.newSettings := by
  obtain ⟨option, stored⟩ := valid.stored
  have current : screens.newSettings.textSize.currentOption = some option := stored
  refine ⟨.settings (getAllNotifSetting screens.newSettings.settings) option.numCode, ?_, rfl,
    rfl, ?_⟩
  · simp [createSettings, current]
  · exact congrArg (Option.map TextSizeOption.numCode) stored

private theorem setChecked_fold {state : SettingsState} (matched : Matched state)
    (options : List SwitchOption) (isChecked : SwitchOption → Bool) :
    options.foldl setChecked (state, isChecked) = (state, fun option =>
      if option ∈ options then getNotifSetting state option else isChecked option) := by
  induction options generalizing isChecked with
  | nil => simp
  | cons first rest ih =>
    have unchanged : setChecked (state, isChecked) first =
        (state, Function.update isChecked first (getNotifSetting state first)) := by
      simp [setChecked, matched.updateNotifSettings_same]
    rw [List.foldl_cons, unchanged, ih]
    congr 1
    funext option
    by_cases same : option = first <;> simp [same]

private theorem mem_switches (option : SwitchOption) : option ∈ switches := by
  obtain ⟨option, switched⟩ := option
  cases option <;> first | exact absurd rfl switched | simp [switches]

theorem createNotifSettings_eq (valid : SettingsScreensValid screens) :
    createNotifSettings screens = { screens.newSettings with
      pages := .notifSettings (fun option : SwitchOption =>
        getNotifSetting screens.newSettings.settings option) :: screens.pages } := by
  have matched : Matched screens.newSettings.settings := valid.newSettings.matched
  simp [createNotifSettings, setChecked_fold matched, mem_switches]
  rfl

theorem onActivityResult_eq (isChecked : Bool) (progress : Int) (pages : List SettingsPage) :
    onActivityResult isChecked progress pages screens = { screens.newSettings with
      pages := .settings (getAllNotifSetting screens.newSettings.settings) progress :: pages } := by
  simp [onActivityResult, updateAllSetting_same]

private theorem withPages (valid : SettingsScreensValid screens)
    (created : 0 < screens.settings.objects)
    (pages : List SettingsPage) : SettingsScreensValid { screens with pages } :=
  ⟨valid.settings, valid.stored, valid.current, .inl created⟩

private theorem withSettings (valid : SettingsScreensValid screens) {settings : SettingsState}
    (kept : SettingsValid settings) (objects : settings.objects = screens.settings.objects) :
    SettingsScreensValid { screens with settings } where
  settings := kept
  stored := valid.stored
  current created := valid.current (objects ▸ created)
  created := valid.created.imp (objects ▸ ·) id

theorem objects_pos (valid : SettingsScreensValid screens) {page : SettingsPage}
    {pages : List SettingsPage} (here : screens.pages = page :: pages) (reads : page ≠ .other) :
    0 < screens.settings.objects := by
  refine valid.created.resolve_right fun others => reads (others page ?_)
  rw [here]
  exact List.mem_cons_self

/-- A size that is asked for is stored. A page that is opened again shows what is stored. -/
theorem onProgressChanged_spec (valid : SettingsScreensValid screens)
    (created : 0 < screens.settings.objects) (isChecked : Bool) (option : TextSizeOption)
    (pages : List SettingsPage) :
    ∃ next, onProgressChanged isChecked option.numCode pages screens = some next ∧
      SettingsScreensValid next ∧ getTextSizeOption next.textSize = some option ∧
      (next = { screens with pages := .settings isChecked option.numCode :: pages } ∨
        ∃ page, next.pages = page :: pages ∧ page.isSettings = true ∧ page.Shows next) := by
  by_cases used : screens.textSize.currentOption = some option
  · refine ⟨_, ?_, valid.withPages created _, ?_, .inl rfl⟩
    · simp [onProgressChanged, updateTextSize, used]
    · exact (valid.current created).symm.trans used
  · have stored : getTextSizeOption ⟨some option.numCode, some option⟩ = some option :=
      option.getOptionFromNumCode_numCode
    have saved : SettingsScreensValid
        { screens with textSize := ⟨some option.numCode, some option⟩ } :=
      ⟨valid.settings, ⟨option, stored⟩, fun _ => stored.symm, valid.created⟩
    obtain ⟨page, opened, isSettings, shows'⟩ := saved.createSettings_eq pages
    refine ⟨_, ?_, saved.newSettings.withPages (Nat.succ_pos _) _, stored,
      .inr ⟨page, rfl, isSettings, shows'⟩⟩
    rw [← opened]
    simp [onProgressChanged, updateTextSize, used, saveTextSizeOption]

theorem numCode_of_bounds {progress : Int} (lower : 0 ≤ progress) (upper : progress ≤ maxProgress) :
    ∃ option : TextSizeOption, option.numCode = progress := by
  rw [maxProgress] at upper
  obtain rfl | rfl | rfl | rfl : progress = 0 ∨ progress = 1 ∨ progress = 2 ∨ progress = 3 := by
    omega
  · exact ⟨.small, rfl⟩
  · exact ⟨.default, rfl⟩
  · exact ⟨.large, rfl⟩
  · exact ⟨.massive, rfl⟩

/-- Every step keeps the settings valid. -/
theorem step (valid : SettingsScreensValid screens) {event : SettingsScreenEvent}
    (taken : settingsScreenStep screens event = some next) : SettingsScreensValid next := by
  cases event with
  | settingsOpened =>
    obtain ⟨page, opened, _⟩ := valid.createSettings_eq screens.pages
    obtain rfl := Option.some.inj (opened.symm.trans taken)
    exact valid.newSettings.withPages (Nat.succ_pos _) _
  | notifSettingsOpened =>
    rw [settingsScreenStep] at taken
    split at taken
    · obtain rfl := Option.some.inj taken
      rw [valid.createNotifSettings_eq]
      exact valid.newSettings.withPages (Nat.succ_pos _) _
    · cases taken
  | otherOpened =>
    obtain rfl := Option.some.inj taken
    refine ⟨valid.settings, valid.stored, valid.current, valid.created.imp_right fun others => ?_⟩
    exact List.forall_mem_cons.mpr ⟨rfl, others⟩
  | back =>
    rw [settingsScreenStep] at taken
    split at taken
    · obtain rfl := Option.some.inj taken
      rw [onActivityResult_eq]
      exact valid.newSettings.withPages (Nat.succ_pos _) _
    · rename_i page pages _ here
      obtain rfl := Option.some.inj taken
      refine ⟨valid.settings, valid.stored, valid.current, valid.created.imp_right fun others => ?_⟩
      exact fun under member => others under (here ▸ List.mem_cons_of_mem page member)
    · cases taken
  | checkBoxClicked =>
    rw [settingsScreenStep] at taken
    split at taken
    · rename_i here
      obtain rfl := Option.some.inj taken
      have created := valid.objects_pos here nofun
      exact (valid.withSettings (valid.settings.checkBoxChanged created _)
        (objects_updateAllSetting ..)).withPages (by rwa [objects_updateAllSetting]) _
    · cases taken
  | switchClicked option =>
    rw [settingsScreenStep] at taken
    split at taken
    · rename_i here
      obtain rfl := Option.some.inj taken
      have created := valid.objects_pos here nofun
      exact (valid.withSettings (valid.settings.switchChanged created option _)
        (objects_updateNotifSettings ..)).withPages (by rwa [objects_updateNotifSettings]) _
    · cases taken
  | progressChanged progress =>
    rw [settingsScreenStep] at taken
    split at taken
    · rename_i here
      split at taken
      · rename_i bounds
        obtain ⟨option, rfl⟩ := numCode_of_bounds bounds.1 bounds.2
        obtain ⟨other, same, kept, _⟩ :=
          valid.onProgressChanged_spec (valid.objects_pos here nofun) _ option _
        exact Option.some.inj (same.symm.trans taken) ▸ kept
      · cases taken
    · cases taken
  | textViewCreated =>
    obtain rfl := Option.some.inj taken
    exact valid.newSettings
  | processRestart =>
    obtain rfl := Option.some.inj taken
    refine ⟨?_, valid.stored, fun created => absurd created (Nat.lt_irrefl 0), .inr nofun⟩
    have restarted : settingsStep screens.settings .processRestart =
        some { screens.settings with currentSetting := fun _ => false, objects := 0 } := rfl
    exact valid.settings.step restarted

theorem install : SettingsScreensValid .install :=
  ⟨.freshInstall, ⟨.default, by decide⟩, fun created => absurd created (Nat.lt_irrefl 0),
    .inr nofun⟩

end SettingsScreensValid

end AhsApp.Android
