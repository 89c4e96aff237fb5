import AhsApp.Android.Settings

/-! The three copies of a notification setting. Single switches and the switch for
all of them call each other; the coherence of what is stored, cached and subscribed
is restored by each path. -/

namespace AhsApp.Android

open AhsApp.Library

/-- The last call made for a topic. -/
def lastCall (calls : List TopicCall) (topic : String) : Option Bool :=
  ((calls.filter (·.topic == topic)).getLast?).map (·.subscribe)

structure Coherent (state : SettingsState) : Prop where
  all : getAllNotifSetting state = NotifOption.values.all (getNotifSetting state)
  cached : 0 < state.objects →
    ∀ option, state.currentSetting option = getNotifSetting state option
  called : ∀ option subscribe, lastCall state.calls option.topic = some subscribe →
    subscribe = getNotifSetting state option

private theorem all_values_iff {setting : NotifOption → Bool} :
    NotifOption.values.all setting = true ↔ ∀ option, setting option = true := by
  simp

@[simp] private theorem getNotifSetting_put_option (state : SettingsState) (option other : NotifOption)
    (value : Bool) :
    getNotifSetting (putBoolean option.fileKey value state) other =
      if other = option then value else getNotifSetting state other := by
  by_cases same : other = option
  · simp [getNotifSetting, putBoolean, same]
  · simp [getNotifSetting, putBoolean, same, NotifOption.fileKey_injective.ne same]

@[simp] private theorem getAllNotifSetting_put_option (state : SettingsState) (option : NotifOption)
    (value : Bool) :
    getAllNotifSetting (putBoolean option.fileKey value state) = getAllNotifSetting state := by
  simp [getAllNotifSetting, putBoolean, (fileKey_ne_allSetting option).symm]

@[simp] private theorem getNotifSetting_put_all (state : SettingsState) (option : NotifOption)
    (value : Bool) :
    getNotifSetting (putBoolean allSetting value state) option = getNotifSetting state option := by
  simp [getNotifSetting, putBoolean, fileKey_ne_allSetting option]

@[simp] theorem getAllNotifSetting_put_all (state : SettingsState) (value : Bool) :
    getAllNotifSetting (putBoolean allSetting value state) = value := by
  simp [getAllNotifSetting, putBoolean]

private theorem lastCall_append (calls : List TopicCall) (call : TopicCall) (topic : String) :
    lastCall (calls ++ [call]) topic =
      if call.topic = topic then some call.subscribe else lastCall calls topic := by
  by_cases same : call.topic = topic <;> simp [lastCall, List.filter_append, same]

/-- Cache and calls agree with what is stored. -/
structure Matched (state : SettingsState) : Prop where
  cached : ∀ option, state.currentSetting option = getNotifSetting state option
  called : ∀ option subscribe, lastCall state.calls option.topic = some subscribe →
    subscribe = getNotifSetting state option

/-- The three writes of a changed option. -/
def writeOption (option : NotifOption) (newSetting makeSuccessToast : Bool)
    (state : SettingsState) : SettingsState :=
  updateTopicSubscription option newSetting makeSuccessToast
    (setCurrentSetting option newSetting (putBoolean option.fileKey newSetting state))

section writeOption

variable (option : NotifOption) (newSetting makeSuccessToast : Bool) (state : SettingsState)

@[simp] private theorem getNotifSetting_writeOption (other : NotifOption) :
    getNotifSetting (writeOption option newSetting makeSuccessToast state) other =
      if other = option then newSetting else getNotifSetting state other :=
  getNotifSetting_put_option state option other newSetting

@[simp] private theorem getAllNotifSetting_writeOption :
    getAllNotifSetting (writeOption option newSetting makeSuccessToast state) =
      getAllNotifSetting state :=
  getAllNotifSetting_put_option state option newSetting

end writeOption

theorem Matched.writeOption {state : SettingsState} (matched : Matched state)
    (option : NotifOption) (newSetting makeSuccessToast : Bool) :
    Matched (writeOption option newSetting makeSuccessToast state) where
  cached other := by
    by_cases same : other = option
    · simp [Android.writeOption, updateTopicSubscription, setCurrentSetting, same,
        getNotifSetting, putBoolean]
    · rw [getNotifSetting_writeOption, if_neg same, ← matched.cached other]
      simp [Android.writeOption, updateTopicSubscription, setCurrentSetting, same, putBoolean]
  called other subscribe last := by
    rw [getNotifSetting_writeOption]
    simp only [Android.writeOption, updateTopicSubscription, lastCall_append] at last
    by_cases same : other = option
    · subst other
      simpa [eq_comm] using last
    · rw [if_neg (NotifOption.topic_injective.ne (Ne.symm same))] at last
      rw [if_neg same]
      exact matched.called other subscribe last

theorem updateAllSetting_alone (newSetting : Bool) (state : SettingsState) :
    updateAllSetting newSetting false state =
      if newSetting ≠ getAllNotifSetting state then putBoolean allSetting newSetting state
      else state := by
  simp [updateAllSetting]

section updateAllSetting_alone

variable (newSetting : Bool) (state : SettingsState)

@[simp] private theorem getAllNotifSetting_alone :
    getAllNotifSetting (updateAllSetting newSetting false state) = newSetting := by
  rw [updateAllSetting_alone]
  split
  · simp
  · simp_all

@[simp] theorem getNotifSetting_alone (option : NotifOption) :
    getNotifSetting (updateAllSetting newSetting false state) option =
      getNotifSetting state option := by
  rw [updateAllSetting_alone]
  split <;> simp

end updateAllSetting_alone

theorem Matched.putAll {state : SettingsState} (matched : Matched state) (newSetting : Bool) :
    Matched (putBoolean allSetting newSetting state) where
  cached option := (matched.cached option).trans (getNotifSetting_put_all ..).symm
  called option subscribe last :=
    (matched.called option subscribe last).trans (getNotifSetting_put_all ..).symm

theorem Matched.alone {state : SettingsState} (matched : Matched state) (newSetting : Bool) :
    Matched (updateAllSetting newSetting false state) := by
  rw [updateAllSetting_alone]
  split
  · exact matched.putAll newSetting
  · exact matched

/-- A changed option is written, then the setting for all of them follows: off with
the first option, on only with the last. -/
theorem updateNotifSettings_eq (option : NotifOption) (newSetting makeSuccessToast : Bool)
    (state : SettingsState) :
    updateNotifSettings option newSetting makeSuccessToast state =
      if state.currentSetting option = newSetting then state
      else
        let written := writeOption option newSetting makeSuccessToast state
        updateAllSetting (newSetting && (getAllNotifSetting written ||
          NotifOption.values.all written.currentSetting)) false written := by
  by_cases same : state.currentSetting option = newSetting
  · rw [updateNotifSettings]
    simp [same]
  · rw [updateNotifSettings, if_pos same, if_neg same]
    dsimp only
    rw [← writeOption]
    generalize writeOption option newSetting makeSuccessToast state = written
    have unchanged : updateAllSetting (getAllNotifSetting written) false written = written := by
      simp [updateAllSetting_alone]
    cases newSetting <;> cases all : getAllNotifSetting written <;>
      simp_all [NotifOption.values, Bool.and_assoc]

/-- One switch keeps cache and calls, and changes one stored setting. -/
theorem Matched.updateNotifSettings {state : SettingsState} (matched : Matched state)
    (option : NotifOption) (newSetting makeSuccessToast : Bool) :
    Matched (updateNotifSettings option newSetting makeSuccessToast state) := by
  rw [updateNotifSettings_eq]
  split
  · exact matched
  · exact (matched.writeOption option newSetting makeSuccessToast).alone _

theorem Matched.getNotifSetting_update {state : SettingsState} (matched : Matched state)
    (option other : NotifOption) (newSetting makeSuccessToast : Bool) :
    getNotifSetting (Android.updateNotifSettings option newSetting makeSuccessToast state) other =
      if other = option then newSetting else getNotifSetting state other := by
  rw [updateNotifSettings_eq]
  split
  · rename_i same
    split
    · subst other
      rw [← same, matched.cached]
    · rfl
  · simp

/-- The setting for all options after a switch. -/
theorem Matched.getAllNotifSetting_update {state : SettingsState} (matched : Matched state)
    (option : NotifOption) (newSetting makeSuccessToast : Bool) :
    getAllNotifSetting (Android.updateNotifSettings option newSetting makeSuccessToast state) =
      if getNotifSetting state option = newSetting then getAllNotifSetting state
      else newSetting && (getAllNotifSetting state || NotifOption.values.all fun other =>
        if other = option then newSetting else getNotifSetting state other) := by
  have cached : (Android.writeOption option newSetting makeSuccessToast state).currentSetting =
      fun other => if other = option then newSetting else getNotifSetting state other := by
    funext other
    rw [(matched.writeOption option newSetting makeSuccessToast).cached,
      getNotifSetting_writeOption]
  rw [updateNotifSettings_eq, ← matched.cached option]
  split
  · rfl
  · simp only [getAllNotifSetting_alone, getAllNotifSetting_writeOption, cached]

/-- The loop of a change of all options: when the setting for all of them is
already the new one, it writes each listed option and nothing else. -/
theorem Matched.changeOthers {newSetting : Bool} (options : List NotifOption)
    {state : SettingsState} (matched : Matched state)
    (all : getAllNotifSetting state = newSetting) :
    let last := options.foldl (fun state option =>
      if option ≠ .mandatory then Android.updateNotifSettings option newSetting true state
      else state) state
    Matched last ∧ getAllNotifSetting last = newSetting ∧
      ∀ option, getNotifSetting last option =
        if option ∈ options ∧ option ≠ .mandatory then newSetting
        else getNotifSetting state option := by
  induction options generalizing state with
  | nil => exact ⟨matched, all, fun option => by simp⟩
  | cons first rest ih =>
    rw [List.foldl_cons]
    by_cases last : first = .mandatory
    · subst first
      obtain ⟨kept, same, settings⟩ := ih matched all
      refine ⟨kept, same, ?_⟩
      intro option
      rw [show (if NotifOption.mandatory ≠ .mandatory then _ else state) = state from rfl, settings]
      by_cases mandatory : option = .mandatory <;> simp [mandatory]
    · rw [if_pos last]
      have unchanged : getAllNotifSetting
          (Android.updateNotifSettings first newSetting true state) = newSetting := by
        rw [matched.getAllNotifSetting_update, all]
        cases newSetting <;> simp
      obtain ⟨kept, same, settings⟩ :=
        ih (matched.updateNotifSettings first newSetting true) unchanged
      refine ⟨kept, same, ?_⟩
      intro option
      rw [settings, matched.getNotifSetting_update]
      by_cases changed : option = first <;> simp [changed, last]

/-- Beside coherence, the mandatory option, which has no switch, stays on. -/
structure SettingsValid (state : SettingsState) : Prop extends Coherent state where
  mandatory : getNotifSetting state .mandatory = true

theorem SettingsValid.matched {state : SettingsState} (valid : SettingsValid state)
    (created : 0 < state.objects) : Matched state :=
  ⟨valid.cached created, valid.called⟩

theorem SettingsValid.of_matched {state : SettingsState} (matched : Matched state)
    (all : getAllNotifSetting state = NotifOption.values.all (getNotifSetting state))
    (mandatory : getNotifSetting state .mandatory = true) : SettingsValid state :=
  ⟨⟨all, fun _ => matched.cached, matched.called⟩, mandatory⟩

theorem SettingsValid.freshInstall : SettingsValid freshInstall :=
  ⟨⟨rfl, by simp [Android.freshInstall], by simp [Android.freshInstall, lastCall]⟩, rfl⟩

theorem SettingsValid.newSettings {state : SettingsState} (valid : SettingsValid state) :
    SettingsValid (newSettings state) := by
  refine ⟨⟨valid.all, ?_, valid.called⟩, valid.mandatory⟩
  intro _ option
  cases option <;> rfl

theorem SettingsValid.switchChanged {state : SettingsState} (valid : SettingsValid state)
    (created : 0 < state.objects) (option : SwitchOption) (isChecked : Bool) :
    SettingsValid (updateNotifSettings option isChecked true state) := by
  obtain ⟨option, switched⟩ := option
  have matched := valid.matched created
  refine .of_matched (matched.updateNotifSettings option isChecked true) ?_ ?_
  · have settings : getNotifSetting (updateNotifSettings option isChecked true state) =
        fun other => if other = option then isChecked else getNotifSetting state other :=
      funext fun other => matched.getNotifSetting_update option other isChecked true
    rw [matched.getAllNotifSetting_update, settings]
    split
    · rename_i same
      have unchanged : (fun other => if other = option then isChecked
          else getNotifSetting state other) = getNotifSetting state := by
        funext other
        split
        · simp_all
        · rfl
      rw [unchanged, valid.all]
    · rename_i changed
      cases isChecked with
      | false =>
        have off : NotifOption.values.all (fun other => if other = option then false
            else getNotifSetting state other) = false :=
          List.all_eq_false.mpr ⟨option, by simp, by simp⟩
        rw [off, Bool.false_and]
      | true =>
        have off : getAllNotifSetting state = false := by
          rw [valid.all]
          exact List.all_eq_false.mpr ⟨option, by simp, changed⟩
        rw [off, Bool.true_and, Bool.false_or]
  · rw [matched.getNotifSetting_update, if_neg (Ne.symm switched), valid.mandatory]

theorem SettingsValid.checkBoxChanged {state : SettingsState} (valid : SettingsValid state)
    (created : 0 < state.objects) (isChecked : Bool) :
    SettingsValid (updateAllSetting isChecked true state) := by
  rw [updateAllSetting]
  split
  · dsimp only
    rw [if_pos rfl]
    have matched := (valid.matched created).putAll isChecked
    obtain ⟨kept, all, settings⟩ :=
      matched.changeOthers NotifOption.values (getAllNotifSetting_put_all state isChecked)
    have mandatory := settings .mandatory
    simp only [ne_eq, not_true_eq_false, and_false, ↓reduceIte, getNotifSetting_put_all,
      valid.mandatory] at mandatory
    refine .of_matched kept (all.trans ?_) mandatory
    cases isChecked with
    | false =>
      refine (List.all_eq_false.mpr ⟨.general, by simp, ?_⟩).symm
      rw [settings]
      simp
    | true =>
      refine (all_values_iff.mpr ?_).symm
      intro option
      by_cases last : option = .mandatory
      · exact last ▸ mandatory
      · rw [settings]
        simp [last]
  · exact valid

private theorem resubscribe_called (options : List NotifOption) {state : SettingsState}
    (valid : SettingsValid state) :
    SettingsValid (options.foldl (fun state option =>
      updateTopicSubscription option (getNotifSetting state option) false state) state) := by
  induction options generalizing state with
  | nil => exact valid
  | cons option rest ih =>
    refine ih ⟨⟨valid.all, valid.cached, ?_⟩, valid.mandatory⟩
    intro other subscribe last
    simp only [updateTopicSubscription, lastCall_append] at last
    by_cases same : other = option
    · subst other
      rw [if_pos rfl] at last
      exact (Option.some.inj last).symm
    · rw [if_neg (NotifOption.topic_injective.ne (Ne.symm same))] at last
      exact valid.called other subscribe last

theorem SettingsValid.step {state next : SettingsState} {event : SettingsEvent}
    (valid : SettingsValid state) (taken : settingsStep state event = some next) :
    SettingsValid next := by
  cases event with
  | newSettings => exact Option.some.inj taken ▸ valid.newSettings
  | processRestart =>
    exact Option.some.inj taken ▸
      ⟨⟨valid.all, fun created => absurd created (Nat.lt_irrefl 0), valid.called⟩,
        valid.mandatory⟩
  | switchChanged option isChecked =>
    obtain ⟨created, result⟩ := Option.ite_none_right_eq_some.mp taken
    exact Option.some.inj result ▸ valid.switchChanged created option isChecked
  | checkBoxChanged isChecked =>
    obtain ⟨created, result⟩ := Option.ite_none_right_eq_some.mp taken
    exact Option.some.inj result ▸ valid.checkBoxChanged created isChecked
  | resubscribeToAll =>
    obtain ⟨_, result⟩ := Option.ite_none_right_eq_some.mp taken
    exact Option.some.inj result ▸ resubscribe_called NotifOption.values valid

/-- From a fresh install, every state of every run is coherent. -/
theorem settings_coherent (events : List SettingsEvent) :
    Throughout settingsStep Coherent freshInstall events :=
  (Throughout.of_preserved (fun _ _ => True) (fun valid _ taken => valid.step taken)
    SettingsValid.freshInstall (Along.of_forall (fun _ _ _ => trivial) freshInstall)).imp
    fun _ valid => valid.toCoherent

end AhsApp.Android
