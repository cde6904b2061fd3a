import PushWake.Proofs.NormalForms

/-!
# Values that are refused

A value is stored first, and the whole configuration is checked afterwards. A key that nobody knows
and a value that cannot be read leave the settings as they were. A value that makes the
configuration invalid is refused as well, but it stays: from then on everything is refused, until
the same key is given a value that is accepted. Three settings can be spoilt like that, the two
limits and the working directory.
-/

namespace PushWake.Settings

/-- A value that is stored, and makes the configuration invalid. -/
def SettingKey.Spoils (value : String) : SettingKey → Prop
  | .serviceTimeoutMs => number value = .ok 0
  | .emptyDelayMs => number value = .ok 0
  | .workingDir => Text.isAllBlank value = true
  | _ => False

/-- The setting of a key makes the configuration invalid. -/
def Unfit (s : Settings) : SettingKey → Prop
  | .serviceTimeoutMs => s.service.timeouts.serviceMs = 0
  | .emptyDelayMs => s.service.timeouts.emptyDelayMs = 0
  | .workingDir => Text.isAllBlank s.service.connection.workingDir = true
  | .nwcRelays => ∃ nwc, s.service.plugins.nwc = some nwc ∧ nwc.relayUrls = []
  | _ => False

variable {s changed left : Settings} {k other : SettingKey} {key value : String} {e : SettingsError}

theorem timeouts_validate_iff (t : Timeouts) :
    t.validate = .ok () ↔ t.serviceMs ≠ 0 ∧ t.emptyDelayMs ≠ 0 := by
  unfold Timeouts.validate
  split
  · simp [*]
  · split
    · simp [*]
    · simp [*]

theorem connection_validate_iff (c : ConnectionConfig) :
    c.validate = .ok () ↔ ¬Text.isAllBlank c.workingDir = true := by
  unfold ConnectionConfig.validate
  split
  · simp [*]
  · simp [*]

theorem plugins_validate_iff (c : PluginConfigs) :
    c.validate = .ok () ↔ ¬∃ nwc, c.nwc = some nwc ∧ nwc.relayUrls = [] := by
  unfold PluginConfigs.validate
  split
  · rename_i nwc hnwc
    split
    · simp_all
    · simp_all
  · simp [*]

/-- A configuration is valid if no setting makes it invalid. -/
theorem validate_iff : s.service.validate = .ok () ↔ ∀ k, ¬s.Unfit k := by
  have hparts : s.service.validate = .ok () ↔ s.service.timeouts.validate = .ok () ∧
      s.service.connection.validate = .ok () ∧ s.service.plugins.validate = .ok () := by
    unfold ServiceConfig.validate
    cases s.service.timeouts.validate with
    | error => simp [bind, Except.bind]
    | ok =>
      cases s.service.connection.validate with
      | error => simp [bind, Except.bind]
      | ok => simp [bind, Except.bind]
  rw [hparts, timeouts_validate_iff, connection_validate_iff, plugins_validate_iff]
  constructor
  · rintro ⟨⟨hservice, hempty⟩, hdir, hrelays⟩ k hk
    cases k with
    | serviceTimeoutMs => exact hservice hk
    | emptyDelayMs => exact hempty hk
    | workingDir => exact hdir hk
    | nwcRelays => exact hrelays hk
    | _ => exact hk
  · intro h
    exact ⟨⟨h .serviceTimeoutMs, h .emptyDelayMs⟩, h .workingDir, h .nwcRelays⟩

/-- The setting that took a value is unfit if the value spoils it. Relays that are set are never
none. -/
theorem Assigned.unfit (h : Assigned s value k changed) : changed.Unfit k ↔ k.Spoils value := by
  cases h with
  | serviceTimeoutMs hn => simp [Unfit, SettingKey.Spoils, withServiceTimeout, hn]
  | emptyDelayMs hn => simp [Unfit, SettingKey.Spoils, withEmptyDelay, hn]
  | workingDir => rfl
  | nwcRelays =>
    by_cases hitems : items value = []
    · simp [Unfit, SettingKey.Spoils, withRelays, hitems]
    · simp [Unfit, SettingKey.Spoils, withRelays, hitems]
  | _ => rfl

/-- Every other setting is as fit as before. -/
theorem Assigned.unfit_of_ne (h : Assigned s value k changed) (hne : other ≠ k) :
    changed.Unfit other ↔ s.Unfit other := by
  cases h <;> cases other <;> first
    | exact absurd rfl hne
    | simp only [Unfit, withServiceTimeout, withEmptyDelay, withConnection, withRelays]

/-- A setting that can be spoilt is overwritten as if it had not been. -/
theorem Assigned.assign_again (h : Assigned s value k left) (hspoils : k.Spoils value)
    (value' : String) : left.assign k value' = s.assign k value' := by
  cases h with
  | serviceTimeoutMs | emptyDelayMs | workingDir => rfl
  | _ => cases hspoils

/-- A value that spoils a setting can be read. -/
theorem assign_of_spoils (hspoils : k.Spoils value) :
    ∃ changed, s.assign k value = .ok changed := by
  cases k with
  | serviceTimeoutMs | emptyDelayMs =>
    have hn : number value = .ok 0 := hspoils
    simp only [assign, hn]
    exact ⟨_, rfl⟩
  | workingDir => exact ⟨_, rfl⟩
  | _ => cases hspoils

/-- What becomes of a value for a known key. -/
theorem set_of_assign (hkey : SettingKey.ofName? key = some k)
    (h : s.assign k value = .ok changed) :
    s.set key value = (changed, changed.service.validate.mapError .rejected) := by
  simp only [set, hkey, h]
  cases changed.service.validate <;> rfl

theorem set_of_refused (hkey : SettingKey.ofName? key = some k) (h : s.assign k value = .error e) :
    s.set key value = (s, .error e) := by
  simp only [set, hkey, h]

theorem set_of_unknown (hkey : SettingKey.ofName? key = none) :
    s.set key value = (s, .error (.unknownKey key)) := by
  simp only [set, hkey]

/-- While a setting is unfit, whatever is given to another key is refused. -/
theorem refused_of_unfit (hunfit : s.Unfit k) (hkey : SettingKey.ofName? key ≠ some k) :
    ∃ e, (s.set key value).2 = .error e := by
  cases hother : SettingKey.ofName? key with
  | none => exact ⟨_, congrArg Prod.snd (set_of_unknown hother)⟩
  | some other =>
    cases hassign : s.assign other value with
    | error e => exact ⟨e, congrArg Prod.snd (set_of_refused hother hassign)⟩
    | ok changed =>
      have hne : k ≠ other := by
        rintro rfl
        exact hkey hother
      have hstill := ((assigned_of_assign hassign).unfit_of_ne hne).mpr hunfit
      cases hvalidate : changed.service.validate with
      | ok => exact absurd hstill (validate_iff.mp hvalidate k)
      | error cause =>
        refine ⟨.rejected cause, ?_⟩
        rw [set_of_assign hother hassign, hvalidate]
        rfl

/-- **A value that is refused stays if it could be read.** Where the settings were valid and a value
is refused, they are left as they were exactly if the value does not spoil the setting: nobody knows
the key, or the value cannot be read. A value that spoils it, no time at all or a blank directory,
has been stored, and nothing else has changed. The configuration is invalid from then on: whatever
is given to another key is refused, and only a value that would have been accepted before, given to
the same key, is accepted, with the same effect. -/
theorem only_spoiling_values_stay (hvalid : s.service.validate = .ok ())
    (h : s.set key value = (left, .error e)) :
    (left = s ↔ ¬∃ k, SettingKey.ofName? key = some k ∧ k.Spoils value) ∧
    ∀ k, SettingKey.ofName? key = some k → k.Spoils value →
      s.assign k value = .ok left ∧
      (∃ cause, e = .rejected cause ∧ left.service.validate = .error cause) ∧
      (∀ other, other ≠ k → left.shown other = s.shown other) ∧
      (∀ key' value', SettingKey.ofName? key' ≠ some k →
        ∃ e', (left.set key' value').2 = .error e') ∧
      ∀ key' value' changed, SettingKey.ofName? key' = some k →
        s.set key' value' = (changed, .ok ()) → left.set key' value' = (changed, .ok ()) := by
  have hspoilt : ∀ k, SettingKey.ofName? key = some k → k.Spoils value →
      Assigned s value k left ∧ s.assign k value = .ok left ∧ left.Unfit k ∧
        ∃ cause, e = .rejected cause ∧ left.service.validate = .error cause := by
    intro k hkey hspoils
    obtain ⟨changed, hassign⟩ := assign_of_spoils (s := s) hspoils
    rw [set_of_assign hkey hassign] at h
    obtain ⟨rfl, hresult⟩ := Prod.mk.inj h
    have hassigned := assigned_of_assign hassign
    refine ⟨hassigned, hassign, hassigned.unfit.mpr hspoils, ?_⟩
    cases hvalidate : changed.service.validate with
    | ok =>
      rw [hvalidate] at hresult
      cases hresult
    | error cause =>
      rw [hvalidate] at hresult
      cases hresult
      exact ⟨cause, rfl, rfl⟩
  refine ⟨⟨?_, ?_⟩, ?_⟩
  · rintro rfl ⟨k, hkey, hspoils⟩
    obtain ⟨-, -, hunfit, -⟩ := hspoilt k hkey hspoils
    exact validate_iff.mp hvalid k hunfit
  · intro hno
    cases hkey : SettingKey.ofName? key with
    | none =>
      rw [set_of_unknown hkey] at h
      exact (Prod.mk.inj h).1.symm
    | some k =>
      cases hassign : s.assign k value with
      | error cause =>
        rw [set_of_refused hkey hassign] at h
        exact (Prod.mk.inj h).1.symm
      | ok changed =>
        -- a value that spoils nothing leaves every setting fit, and is accepted
        have hassigned := assigned_of_assign hassign
        have hfit : changed.service.validate = .ok () := by
          refine validate_iff.mpr fun other => ?_
          by_cases hother : other = k
          · rw [hother, hassigned.unfit]
            exact fun hspoils => hno ⟨k, hkey, hspoils⟩
          · rw [hassigned.unfit_of_ne hother]
            exact validate_iff.mp hvalid other
        rw [set_of_assign hkey hassign, hfit] at h
        cases (Prod.mk.inj h).2
  · intro k hkey hspoils
    obtain ⟨hassigned, hassign, hunfit, hcause⟩ := hspoilt k hkey hspoils
    refine ⟨hassign, hcause, fun other => hassigned.shown_of_ne,
      fun key' value' => refused_of_unfit hunfit, fun key' value' changed hkey' hset => ?_⟩
    have hagain := hassigned.assign_again hspoils value'
    cases hassign' : s.assign k value' with
    | error cause =>
      rw [set_of_refused hkey' hassign'] at hset
      cases (Prod.mk.inj hset).2
    | ok changed' =>
      rw [set_of_assign hkey' hassign'] at hset
      rw [set_of_assign hkey' (hagain.trans hassign')]
      exact hset

/-- A limit of no time is refused, and stays in the way of another limit. -/
theorem zero_limit_stays : ∃ left e,
    ({} : Settings).set "service_timeout_ms" "0" = (left, .error e) ∧
    left ≠ {} ∧ ∃ e', (left.set "empty_delay_ms" "5000").2 = .error e' := by
  have hset : ({} : Settings).set "service_timeout_ms" "0" =
      (withServiceTimeout {} 0, .error (.rejected (.invalidTimeout "service_timeout_ms"))) := rfl
  obtain ⟨hstays, hspoilt⟩ := only_spoiling_values_stay rfl hset
  obtain ⟨-, -, -, hrefused, -⟩ := hspoilt .serviceTimeoutMs rfl rfl
  refine ⟨_, _, hset, fun hsame => ?_, hrefused _ _ (by decide)⟩
  exact hstays.mp hsame ⟨.serviceTimeoutMs, rfl, rfl⟩

/-- So a value that is refused can change the settings, and what is accepted afterwards. -/
theorem refused_value_can_change_settings :
    ¬∀ (s left : Settings) (key value : String) (e : SettingsError),
      s.service.validate = .ok () → s.set key value = (left, .error e) →
      left = s ∧ ∀ key' value' changed, s.set key' value' = (changed, .ok ()) →
        left.set key' value' = (changed, .ok ()) := by
  intro hclaim
  obtain ⟨hsame, -⟩ := hclaim {} (withServiceTimeout {} 0) "service_timeout_ms" "0" _ rfl rfl
  cases hsame

end PushWake.Settings
