import AhsApp.Android.SettingsScreens

/-! When the settings page and that of notification settings show what is stored. With one
settings page at a time they always do; a page that was left under another of its kind may not,
and still stores what it shows when it is clicked. -/

namespace AhsApp.Android

open AhsApp.Library

def Others (pages : List SettingsPage) : Prop := ∀ page ∈ pages, page = .other

/-- There is one settings page at most. It shows what is stored; under the page of
notification settings, which then shows what is stored, its check box may not. -/
inductive Settled (screens : SettingsScreens) : Prop where
  | others (all : Others screens.pages)
  | settings {above below : List SettingsPage} {isChecked : Bool} {progress : Int}
    (pages : screens.pages = above ++ .settings isChecked progress :: below)
    (upper : Others above) (lower : Others below)
    (shows' : (SettingsPage.settings isChecked progress).Shows screens)
  | notifSettings {above below : List SettingsPage} {switches : SwitchOption → Bool}
    {isChecked : Bool} {progress : Int}
    (pages : screens.pages = above ++ .notifSettings switches :: .settings isChecked progress :: below)
    (upper : Others above) (lower : Others below)
    (shows' : (SettingsPage.notifSettings switches).Shows screens)
    (size : (getTextSizeOption screens.textSize).map TextSizeOption.numCode = some progress)

namespace Settled

open SettingsScreens

variable {screens next : SettingsScreens}

/-- What leaves what is stored and the pages. -/
theorem of_same (settled : Settled screens) (pages : next.pages = screens.pages)
    (shows' : ∀ page : SettingsPage, page.Shows screens → page.Shows next)
    (size : getTextSizeOption next.textSize = getTextSizeOption screens.textSize) :
    Settled next := by
  cases settled with
  | others all => exact .others (pages ▸ all)
  | settings here upper lower shown =>
    exact .settings (pages.trans here) upper lower (shows' _ shown)
  | notifSettings here upper lower shown progress =>
    exact .notifSettings (pages.trans here) upper lower (shows' _ shown) (size ▸ progress)

theorem otherOpened (settled : Settled screens) :
    Settled { screens with pages := .other :: screens.pages } := by
  have above : ∀ {pages : List SettingsPage}, Others pages → Others (.other :: pages) :=
    fun others => List.forall_mem_cons.mpr ⟨rfl, others⟩
  cases settled with
  | others all => exact .others (above all)
  | settings pages upper lower shows' =>
    exact .settings (congrArg (List.cons .other) pages) (above upper) lower shows'
  | notifSettings pages upper lower shows' size =>
    exact .notifSettings (congrArg (List.cons .other) pages) (above upper) lower shows' size

private theorem of_settings (settled : Settled screens) {isChecked : Bool} {progress : Int}
    {rest : List SettingsPage} (here : screens.pages = .settings isChecked progress :: rest) :
    Others rest ∧ (SettingsPage.settings isChecked progress).Shows screens := by
  cases settled with
  | others all => cases all _ (here ▸ List.mem_cons_self)
  | @settings above _ _ _ pages upper lower shows' =>
    cases above with
    | nil =>
      obtain ⟨same, rfl⟩ := List.cons.inj (here.symm.trans pages)
      exact ⟨lower, same ▸ shows'⟩
    | cons first above =>
      obtain ⟨rfl, _⟩ := List.cons.inj (here.symm.trans pages)
      cases upper _ List.mem_cons_self
  | @notifSettings above _ _ _ _ pages upper lower shows' size =>
    cases above with
    | nil => cases here.symm.trans pages
    | cons first above =>
      obtain ⟨rfl, _⟩ := List.cons.inj (here.symm.trans pages)
      cases upper _ List.mem_cons_self

private theorem of_notifSettings (settled : Settled screens) {switches : SwitchOption → Bool}
    {rest : List SettingsPage} (here : screens.pages = .notifSettings switches :: rest) :
    ∃ isChecked progress below, rest = .settings isChecked progress :: below ∧ Others below ∧
      (SettingsPage.notifSettings switches).Shows screens ∧
      (getTextSizeOption screens.textSize).map TextSizeOption.numCode = some progress := by
  cases settled with
  | others all => cases all _ (here ▸ List.mem_cons_self)
  | @settings above _ _ _ pages upper lower shows' =>
    cases above with
    | nil => cases here.symm.trans pages
    | cons first above =>
      obtain ⟨rfl, _⟩ := List.cons.inj (here.symm.trans pages)
      cases upper _ List.mem_cons_self
  | @notifSettings above _ _ _ _ pages upper lower shows' size =>
    cases above with
    | nil =>
      obtain ⟨same, rfl⟩ := List.cons.inj (here.symm.trans pages)
      exact ⟨_, _, _, rfl, lower, same ▸ shows', size⟩
    | cons first above =>
      obtain ⟨rfl, _⟩ := List.cons.inj (here.symm.trans pages)
      cases upper _ List.mem_cons_self

private theorem of_other (settled : Settled screens) {rest : List SettingsPage}
    (here : screens.pages = .other :: rest) : Settled { screens with pages := rest } := by
  cases settled with
  | others all =>
    exact .others fun page member => all page (here ▸ List.mem_cons_of_mem _ member)
  | @settings above _ _ _ pages upper lower shows' =>
    cases above with
    | nil => cases here.symm.trans pages
    | cons first above =>
      obtain ⟨_, below⟩ := List.cons.inj (here.symm.trans pages)
      exact .settings below (fun page member => upper page (List.mem_cons_of_mem _ member)) lower
        shows'
  | @notifSettings above _ _ _ _ pages upper lower shows' size =>
    cases above with
    | nil => cases here.symm.trans pages
    | cons first above =>
      obtain ⟨_, below⟩ := List.cons.inj (here.symm.trans pages)
      exact .notifSettings below (fun page member => upper page (List.mem_cons_of_mem _ member))
        lower shows' size

private theorem settings_on_top {isChecked : Bool} {progress : Int} {below : List SettingsPage}
    (here : screens.pages = .settings isChecked progress :: below) (lower : Others below)
    (shows' : (SettingsPage.settings isChecked progress).Shows screens) : Settled screens := by
  have pages : screens.pages = [] ++ .settings isChecked progress :: below := here
  exact .settings pages (List.forall_mem_nil _) lower shows'

private theorem notifSettings_on_top {switches : SwitchOption → Bool} {isChecked : Bool}
    {progress : Int}
    {below : List SettingsPage}
    (here : screens.pages = .notifSettings switches :: .settings isChecked progress :: below)
    (lower : Others below) (shows' : (SettingsPage.notifSettings switches).Shows screens)
    (size : (getTextSizeOption screens.textSize).map TextSizeOption.numCode = some progress) :
    Settled screens := by
  have pages : screens.pages =
      [] ++ .notifSettings switches :: .settings isChecked progress :: below := here
  exact .notifSettings pages (List.forall_mem_nil _) lower shows' size

private theorem of_shown {page : SettingsPage} {below : List SettingsPage}
    (here : screens.pages = page :: below) (isSettings : page.isSettings = true)
    (lower : Others below) (shows' : page.Shows screens) : Settled screens := by
  cases page with
  | settings isChecked progress => exact settings_on_top here lower shows'
  | other => cases isSettings
  | notifSettings switches => cases isSettings

end Settled

/-- A settings page is opened only when there is none. -/
def OneSettingsPage (screens : SettingsScreens) (event : SettingsScreenEvent) : Prop :=
  event = .settingsOpened → ∀ page ∈ screens.pages, page.isSettings = false

theorem Settled.step {screens next : SettingsScreens} (settled : Settled screens)
    (valid : SettingsScreensValid screens) {event : SettingsScreenEvent}
    (one : OneSettingsPage screens event) (taken : settingsScreenStep screens event = some next) :
    Settled next := by
  have reread : ∀ page : SettingsPage, page.Shows screens → page.Shows screens.newSettings := by
    intro page shows'
    cases page <;> exact shows'
  cases event with
  | settingsOpened =>
    obtain ⟨page, opened, isSettings, shows'⟩ := valid.createSettings_eq screens.pages
    obtain rfl := Option.some.inj (opened.symm.trans taken)
    have none := one rfl
    refine .of_shown rfl isSettings ?_ (by cases page <;> exact shows')
    cases settled with
    | others all => exact all
    | @settings _ _ isChecked progress pages =>
      exact absurd (none (.settings isChecked progress) (pages ▸ by simp))
        (by simp [SettingsPage.isSettings])
    | @notifSettings _ _ _ isChecked progress pages =>
      exact absurd (none (.settings isChecked progress) (pages ▸ by simp))
        (by simp [SettingsPage.isSettings])
  | notifSettingsOpened =>
    rw [settingsScreenStep] at taken
    split at taken
    · rename_i here
      obtain rfl := Option.some.inj taken
      obtain ⟨lower, shows'⟩ := settled.of_settings here
      rw [valid.createNotifSettings_eq]
      exact .notifSettings_on_top (congrArg (List.cons _) here) lower (fun _ => rfl) shows'.2
    · cases taken
  | otherOpened =>
    obtain rfl := Option.some.inj taken
    exact settled.otherOpened
  | back =>
    rw [settingsScreenStep] at taken
    split at taken
    · rename_i here
      obtain rfl := Option.some.inj taken
      obtain ⟨_, progress, below, same, lower, _, size⟩ := settled.of_notifSettings here
      obtain ⟨same, rfl⟩ := List.cons.inj same
      cases same
      rw [SettingsScreensValid.onActivityResult_eq]
      exact .settings_on_top rfl lower ⟨rfl, size⟩
    · rename_i page rest outside here
      obtain rfl := Option.some.inj taken
      cases page with
      | other => exact settled.of_other here
      | settings isChecked progress => exact .others (settled.of_settings here).1
      | notifSettings switches =>
        obtain ⟨isChecked, progress, below, rfl, _⟩ := settled.of_notifSettings here
        exact (outside _ _ _ _ rfl rfl).elim
    · cases taken
  | checkBoxClicked =>
    rw [settingsScreenStep] at taken
    split at taken
    · rename_i here
      obtain rfl := Option.some.inj taken
      obtain ⟨lower, shows'⟩ := settled.of_settings here
      have matched := valid.settings.matched (valid.objects_pos here (by simp))
      exact .settings_on_top rfl lower
        ⟨(matched.getAllNotifSetting_updateAll _).symm, shows'.2⟩
    · cases taken
  | switchClicked option =>
    rw [settingsScreenStep] at taken
    split at taken
    · rename_i here
      obtain rfl := Option.some.inj taken
      obtain ⟨_, _, below, rfl, lower, shows', size⟩ := settled.of_notifSettings here
      have matched := valid.settings.matched (valid.objects_pos here (by simp))
      refine .notifSettings_on_top rfl lower (fun another => ?_) size
      rw [matched.getNotifSetting_update, Function.update_apply, shows' another]
      simp [Subtype.ext_iff]
    · cases taken
  | progressChanged progress =>
    rw [settingsScreenStep] at taken
    split at taken
    · rename_i here
      split at taken
      · rename_i bounds
        obtain ⟨option, rfl⟩ := SettingsScreensValid.numCode_of_bounds bounds.1 bounds.2
        obtain ⟨lower, shows'⟩ := settled.of_settings here
        obtain ⟨another, same, _, size, cases'⟩ :=
          valid.onProgressChanged_spec (valid.objects_pos here (by simp)) _ option _
        obtain rfl := Option.some.inj (same.symm.trans taken)
        rcases cases' with rfl | ⟨page, opened, isSettings, shown⟩
        · exact .settings_on_top rfl lower ⟨shows'.1, congrArg (Option.map _) size⟩
        · exact .of_shown opened isSettings lower shown
      · cases taken
    · cases taken
  | textViewCreated =>
    obtain rfl := Option.some.inj taken
    exact settled.of_same rfl reread rfl
  | processRestart =>
    obtain rfl := Option.some.inj taken
    exact .others (List.forall_mem_nil _)

/-- However pages were left and returned to: a click stores what it shows, and nothing that
another switch stores; a size that the bar can ask for is shown, stored and in use. -/
theorem clicks_store_shown {events : List SettingsScreenEvent} {screens : SettingsScreens}
    (ran : settingsScreenRun .install events = some screens) :
    Coherent screens.settings ∧
    (∀ next, settingsScreenStep screens .checkBoxClicked = some next →
      ∃ isChecked progress pages, next.pages = .settings isChecked progress :: pages ∧
        getAllNotifSetting next.settings = isChecked) ∧
    (∀ option next, settingsScreenStep screens (.switchClicked option) = some next →
      ∃ switches pages, next.pages = .notifSettings switches :: pages ∧
        getNotifSetting next.settings option = switches option ∧
        ∀ another ≠ option.val,
          getNotifSetting next.settings another = getNotifSetting screens.settings another) ∧
    ∀ isChecked shown pages progress, screens.pages = .settings isChecked shown :: pages →
      0 ≤ progress → progress ≤ SettingsScreens.maxProgress →
      ∃ next option isChecked, settingsScreenStep screens (.progressChanged progress) = some next ∧
        next.pages = .settings isChecked progress :: pages ∧ option.numCode = progress ∧
        getTextSizeOption next.textSize = some option ∧
        next.textSize.currentOption = some option := by
  have valid : SettingsScreensValid screens :=
    run_invariant SettingsScreensValid (fun _ _ => True) (fun valid _ taken => valid.step taken)
      .install (Along.of_forall (fun _ _ _ => trivial) _) ran
  refine ⟨valid.settings.toCoherent, ?_, ?_, ?_⟩
  · intro next taken
    rw [settingsScreenStep] at taken
    split at taken
    · rename_i here
      obtain rfl := Option.some.inj taken
      have matched := valid.settings.matched (valid.objects_pos here (by simp))
      exact ⟨_, _, _, rfl, matched.getAllNotifSetting_updateAll _⟩
    · cases taken
  · intro option next taken
    rw [settingsScreenStep] at taken
    split at taken
    · rename_i here
      obtain rfl := Option.some.inj taken
      have matched := valid.settings.matched (valid.objects_pos here (by simp))
      refine ⟨_, _, rfl, ?_, fun another different => ?_⟩
      · rw [matched.getNotifSetting_update, if_pos rfl, Function.update_self]
      · rw [matched.getNotifSetting_update, if_neg different]
    · cases taken
  · intro isChecked shown pages progress here lower upper
    obtain ⟨option, rfl⟩ := SettingsScreensValid.numCode_of_bounds lower upper
    obtain ⟨next, taken, valid', size, cases'⟩ :=
      valid.onProgressChanged_spec (valid.objects_pos here (by simp)) isChecked option pages
    obtain ⟨isChecked', pages'⟩ :
        ∃ isChecked, next.pages = .settings isChecked option.numCode :: pages := by
      rcases cases' with rfl | ⟨page, opened, isSettings, shows'⟩
      · exact ⟨isChecked, rfl⟩
      · cases page with
        | settings isChecked progress =>
          obtain ⟨_, code⟩ := shows'
          rw [size] at code
          exact ⟨isChecked, (Option.some.inj code : option.numCode = progress) ▸ opened⟩
        | other => cases isSettings
        | notifSettings switches => cases isSettings
    refine ⟨next, option, isChecked', ?_, pages', rfl, size, ?_⟩
    · simp only [settingsScreenStep, here]
      rw [if_pos ⟨lower, upper⟩, taken]
    · exact (valid'.current (valid'.objects_pos pages' (by simp))).trans size

/-- The check box of a page that was opened on another of its kind. -/
theorem check_box_stores_shown : ∃ screens next,
    settingsScreenRun .install [.settingsOpened, .settingsOpened] = some screens ∧
      settingsScreenStep screens .checkBoxClicked = some next ∧
      getAllNotifSetting next.settings = false := by
  obtain ⟨screens, ran⟩ : ∃ screens,
      settingsScreenRun .install [.settingsOpened, .settingsOpened] = some screens := ⟨_, rfl⟩
  have here : screens.pages = [.settings true 1, .settings true 1] := by
    obtain rfl := Option.some.inj ran
    rfl
  have taken : settingsScreenStep screens .checkBoxClicked = some { screens with
      settings := updateAllSetting false true screens.settings
      pages := [.settings false 1, .settings true 1] } := by
    simp [settingsScreenStep, here]
  obtain ⟨isChecked, progress, pages, pages', stored⟩ :=
    (clicks_store_shown ran).2.1 _ taken
  refine ⟨screens, _, ran, taken, stored.trans ?_⟩
  cases pages'
  rfl

end AhsApp.Android
