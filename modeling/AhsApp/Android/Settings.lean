import AhsApp.Library.Run

/-! Notification settings of the Android application: the preference file, the
settings cached in the enumeration, and the topic calls made to the messaging
service. -/

namespace AhsApp.Android

open AhsApp.Library

inductive NotifOption where
  | general
  | asb
  | district
  | bulletin
  | mandatory
  deriving DecidableEq

namespace NotifOption

def values : List NotifOption := [general, asb, district, bulletin, mandatory]

def fileKey : NotifOption → String
  | general => "3"
  | asb => "1"
  | district => "2"
  | bulletin => "4"
  | mandatory => "0"

/-- The string resource that `updateTopicSubscription` selects. -/
def topic : NotifOption → String
  | general => "general"
  | asb => "asb"
  | district => "district"
  | bulletin => "bulletin"
  | mandatory => "mandatory"

@[simp] theorem mem_values (option : NotifOption) : option ∈ values := by
  cases option <;> decide

theorem fileKey_injective : Function.Injective fileKey := by
  intro first second same
  cases first <;> cases second <;> first | rfl | simp [fileKey] at same

theorem topic_injective : Function.Injective topic := by
  intro first second same
  cases first <;> cases second <;> first | rfl | simp [topic] at same

end NotifOption

def allSetting : String := "A"

theorem fileKey_ne_allSetting (option : NotifOption) : option.fileKey ≠ allSetting := by
  cases option <;> decide

/-- One call to the messaging service. -/
structure TopicCall where
  topic : String
  subscribe : Bool
  makeSuccessToast : Bool

/-- The preference file and the calls outlive the process; the cache of the
enumeration and the `Settings` objects do not. -/
structure SettingsState where
  sharedPrefs : String → Option Bool
  calls : List TopicCall
  currentSetting : NotifOption → Bool
  objects : Nat

def freshInstall : SettingsState where
  sharedPrefs _ := none
  calls := []
  currentSetting _ := false
  objects := 0

def getNotifSetting (state : SettingsState) (option : NotifOption) : Bool :=
  (state.sharedPrefs option.fileKey).getD true

def getAllNotifSetting (state : SettingsState) : Bool :=
  (state.sharedPrefs allSetting).getD true

def putBoolean (key : String) (value : Bool) (state : SettingsState) : SettingsState :=
  { state with
    sharedPrefs := fun other => if other = key then some value else state.sharedPrefs other }

def setCurrentSetting (option : NotifOption) (value : Bool) (state : SettingsState) :
    SettingsState :=
  { state with
    currentSetting := fun other => if other = option then value else state.currentSetting other }

def updateTopicSubscription (option : NotifOption) (subscribe makeSuccessToast : Bool)
    (state : SettingsState) : SettingsState :=
  { state with calls := state.calls ++ [⟨option.topic, subscribe, makeSuccessToast⟩] }

/-- The constructor reads every stored setting into the enumeration. -/
def newSettings (state : SettingsState) : SettingsState :=
  NotifOption.values.foldl
    (fun state option => setCurrentSetting option (getNotifSetting state option) state)
    { state with objects := state.objects + 1 }

mutual

/-- A change of one option also moves the stored setting for all of them. -/
def updateNotifSettings (option : NotifOption) (newSetting makeSuccessToast : Bool)
    (state : SettingsState) : SettingsState :=
  if state.currentSetting option ≠ newSetting then
    let state := putBoolean option.fileKey newSetting state
    let state := setCurrentSetting option newSetting state
    let state := updateTopicSubscription option newSetting makeSuccessToast state
    let generalSetting := getAllNotifSetting state
    if newSetting ≠ generalSetting then
      if generalSetting then updateAllSetting false false state
      else
        let newGeneralSetting := NotifOption.values.foldl
          (fun newGeneralSetting option1 => newGeneralSetting && state.currentSetting option1)
          true
        updateAllSetting newGeneralSetting false state
    else state
  else state
termination_by 1

/-- With `changeOthers`, every option but the mandatory one follows. -/
def updateAllSetting (newSetting changeOthers : Bool) (state : SettingsState) : SettingsState :=
  if newSetting ≠ getAllNotifSetting state then
    let state := putBoolean allSetting newSetting state
    if changeOthers then
      NotifOption.values.foldl
        (fun state option =>
          if option ≠ .mandatory then updateNotifSettings option newSetting true state
          else state) state
    else state
  else state
termination_by if changeOthers then 2 else 0

end

def resubscribeToAll (state : SettingsState) : SettingsState :=
  NotifOption.values.foldl
    (fun state option => updateTopicSubscription option (getNotifSetting state option) false state)
    state

/-- The options that have a switch on the notification settings page. -/
abbrev SwitchOption := { option : NotifOption // option ≠ .mandatory }

inductive SettingsEvent where
  | newSettings
  | processRestart
  | switchChanged (option : SwitchOption) (isChecked : Bool)
  | checkBoxChanged (isChecked : Bool)
  | resubscribeToAll

/-- A method needs an object of the running process. -/
def settingsStep (state : SettingsState) : SettingsEvent → Option SettingsState
  | .newSettings => some (newSettings state)
  | .processRestart => some { state with currentSetting := fun _ => false, objects := 0 }
  | .switchChanged option isChecked =>
    if 0 < state.objects then some (updateNotifSettings option isChecked true state) else none
  | .checkBoxChanged isChecked =>
    if 0 < state.objects then some (updateAllSetting isChecked true state) else none
  | .resubscribeToAll => if 0 < state.objects then some (resubscribeToAll state) else none

end AhsApp.Android
