import PveSanFenced.ConfigWarnings

/-!
# The settings that apply to a device

`get_merged_config` compiles the patterns of every device entry at each call,
`get_merged_config_compiled` reads them compiled. Both follow one precedence:
the overrides, then the last entry of the file that applies and makes the
setting, then the defaults.
-/

namespace PveSanFenced.ConfigMerge

open PveSanFenced.Config
open PveSanFenced.ConfigCheck
open PveSanFenced.ConfigWarnings

set_option autoImplicit false

variable (regexNew : String → Option (String → Bool))

/-- The match of `get_merged_config` on one optional pattern. -/
def matchPattern (pattern : Option String) (text : String) : Bool :=
  match pattern with
  | some v =>
      match regexNew v with
      | some re => re text
      | none => false
  | none => true

def mergePlainDevice (vendor product : String) (merged device : DeviceConfig) : DeviceConfig :=
  if matchPattern regexNew device.vendor vendor && matchPattern regexNew device.product product
  then overrideSettings merged device
  else merged

def getMergedConfig (config : MultipathConfig) (vendor product : String) : DeviceConfig :=
  overrideSettings (config.devices.foldl (mergePlainDevice regexNew vendor product)
    config.defaults) config.overrides

section Precedence

/-- A pattern lets a text through when it is not set, or when it is valid and
matches. -/
def PatternApplies (pattern : Option String) (text : String) : Prop :=
  pattern = none ∨
    ∃ v isMatch, pattern = some v ∧ regexNew v = some isMatch ∧ isMatch text = true

def DeviceApplies (vendor product : String) (device : DeviceConfig) : Prop :=
  PatternApplies regexNew device.vendor vendor ∧ PatternApplies regexNew device.product product

/-- The documented precedence for one setting: which value is in force. -/
inductive InForce {Value : Type} (field : DeviceConfig → Option Value)
    (config : MultipathConfig) (vendor product : String) : Option Value → Prop
  | overridden (value : Value) (isSet : field config.overrides = some value) :
      InForce field config vendor product (some value)
  | lastDevice (before after : List DeviceConfig) (device : DeviceConfig) (value : Value)
      (unset : field config.overrides = none)
      (entries : config.devices = before ++ device :: after)
      (applies : DeviceApplies regexNew vendor product device)
      (isSet : field device = some value)
      (last : ∀ later ∈ after, DeviceApplies regexNew vendor product later →
        field later = none) :
      InForce field config vendor product (some value)
  | fallback (unset : field config.overrides = none)
      (noDevice : ∀ device ∈ config.devices, DeviceApplies regexNew vendor product device →
        field device = none) :
      InForce field config vendor product (field config.defaults)

theorem match_pattern_iff (pattern : Option String) (text : String) :
    matchPattern regexNew pattern text = true ↔ PatternApplies regexNew pattern text := by
  cases pattern with
  | none => simp [matchPattern, PatternApplies]
  | some v =>
      simp only [matchPattern, PatternApplies, Option.some.injEq]
      cases compiled : regexNew v with
      | none => simp [compiled]
      | some isMatch => simp [compiled]

theorem accepts_eq_match_pattern (pattern : Option String) (text : String) :
    accepts regexNew pattern text = matchPattern regexNew pattern text := by
  cases pattern with
  | none => rfl
  | some v =>
      simp only [accepts, matchPattern]
      cases regexNew v with
      | none => rfl
      | some isMatch => rfl

theorem device_applies_iff (vendor product : String) (device : DeviceConfig) :
    (accepts regexNew device.vendor vendor && accepts regexNew device.product product) = true ↔
      DeviceApplies regexNew vendor product device := by
  rw [Bool.and_eq_true, accepts_eq_match_pattern, accepts_eq_match_pattern, match_pattern_iff,
    match_pattern_iff]
  rfl

/-- Merging a device with its patterns compiled on the spot is merging the
compiled device. -/
theorem merge_plain_device_eq (vendor product : String) :
    mergePlainDevice regexNew vendor product = fun merged device =>
      mergeDevice vendor product merged
        { vendor := compilePattern regexNew device.vendor
          product := compilePattern regexNew device.product
          config := device } := by
  funext merged device
  simp only [mergePlainDevice, mergeDevice, pattern_match_compiled, accepts_eq_match_pattern]

theorem get_merged_config_eq_compiled (config : MultipathConfig) (vendor product : String) :
    getMergedConfig regexNew config vendor product =
      getMergedConfigCompiled config.defaults (compileDevices regexNew config) config.overrides
        vendor product := by
  rw [getMergedConfig, getMergedConfigCompiled, compileDevices, List.foldl_map,
    merge_plain_device_eq]

variable {Value : Type} (field : DeviceConfig → Option Value)

def contribution (vendor product : String) (device : DeviceConfig) : Option Value :=
  if accepts regexNew device.vendor vendor && accepts regexNew device.product product then
    field device
  else none

theorem contribution_eq_some_iff (vendor product : String) (device : DeviceConfig)
    (value : Value) :
    contribution regexNew field vendor product device = some value ↔
      DeviceApplies regexNew vendor product device ∧ field device = some value := by
  rw [← device_applies_iff, contribution]
  split_ifs with applies <;> simp [applies]

theorem contribution_eq_none_iff (vendor product : String) (device : DeviceConfig) :
    contribution regexNew field vendor product device = none ↔
      (DeviceApplies regexNew vendor product device → field device = none) := by
  rw [← device_applies_iff, contribution]
  split_ifs with applies <;> simp [applies]

theorem find_filtered_eq_contribution (vendor product : String) (devices : List DeviceConfig) :
    (devices.filter fun device => accepts regexNew device.vendor vendor &&
        accepts regexNew device.product product).reverse.findSome? field =
      devices.reverse.findSome? (contribution regexNew field vendor product) := by
  rw [← List.filter_reverse]
  induction devices.reverse with
  | nil => rfl
  | cons device devices ih =>
      rw [List.filter_cons, List.findSome?_cons, contribution]
      split_ifs with applies
      · rw [List.findSome?_cons, ih]
      · exact ih

theorem last_contribution_eq_some_iff (vendor product : String) (devices : List DeviceConfig)
    (value : Value) :
    devices.reverse.findSome? (contribution regexNew field vendor product) = some value ↔
      ∃ before device after, devices = before ++ device :: after ∧
        DeviceApplies regexNew vendor product device ∧ field device = some value ∧
        ∀ later ∈ after, DeviceApplies regexNew vendor product later → field later = none := by
  rw [List.findSome?_eq_some_iff]
  constructor
  · rintro ⟨after, device, before, reversed, found, none⟩
    have applies := (contribution_eq_some_iff regexNew field vendor product device value).mp found
    refine ⟨before.reverse, device, after.reverse, ?_, applies.1, applies.2, ?_⟩
    · rw [← devices.reverse_reverse, reversed]
      simp
    · intro later member
      rw [List.mem_reverse] at member
      exact (contribution_eq_none_iff regexNew field vendor product later).mp (none later member)
  · rintro ⟨before, device, after, rfl, applies, isSet, last⟩
    refine ⟨after.reverse, device, before.reverse, by simp, ?_, ?_⟩
    · rw [contribution_eq_some_iff]
      exact ⟨applies, isSet⟩
    · intro later member
      rw [contribution_eq_none_iff]
      exact last later (List.mem_reverse.mp member)

theorem in_force_iff (config : MultipathConfig) (vendor product : String)
    (value : Option Value) :
    InForce regexNew field config vendor product value ↔
      value = effective regexNew field config vendor product := by
  rw [effective, find_filtered_eq_contribution]
  have lastEntry := last_contribution_eq_some_iff regexNew field vendor product config.devices
  constructor
  · intro inForce
    cases inForce with
    | overridden value isSet => simp [isSet]
    | lastDevice before after device value unset entries applies isSet last =>
        have found := (lastEntry value).mpr ⟨before, device, after, entries, applies, isSet, last⟩
        simp [unset, found]
    | fallback unset noDevice =>
        have nothing : config.devices.reverse.findSome?
            (contribution regexNew field vendor product) = none := by
          rw [List.findSome?_eq_none_iff]
          intro device member
          rw [contribution_eq_none_iff]
          exact noDevice device (List.mem_reverse.mp member)
        simp [unset, nothing]
  · rintro rfl
    cases overridden : field config.overrides with
    | some value => exact InForce.overridden value overridden
    | none =>
        cases found : config.devices.reverse.findSome?
            (contribution regexNew field vendor product) with
        | some value =>
            obtain ⟨before, device, after, entries, applies, isSet, last⟩ :=
              (lastEntry value).mp found
            exact InForce.lastDevice before after device value overridden entries applies isSet
              last
        | none =>
            apply InForce.fallback overridden
            intro device member
            rw [List.findSome?_eq_none_iff] at found
            exact (contribution_eq_none_iff regexNew field vendor product device).mp
              (found device (List.mem_reverse.mpr member))

theorem merged_field_in_force
    (merges : ∀ merged settings, field (overrideSettings merged settings) =
      (field settings).or (field merged))
    (config : MultipathConfig) (vendor product : String) :
    InForce regexNew field config vendor product
      (field (getMergedConfigCompiled config.defaults (compileDevices regexNew config)
        config.overrides vendor product)) := by
  rw [in_force_iff, getMergedConfigCompiled, merges, merged_devices_field regexNew field merges]
  rfl

/-- Both ways of merging give the same record, and every setting in it is the
one in force. -/
theorem merged_config_precedence (config : MultipathConfig) (vendor product : String) :
    let plain := getMergedConfig regexNew config vendor product
    let compiled := getMergedConfigCompiled config.defaults (compileDevices regexNew config)
      config.overrides vendor product
    plain = compiled ∧
      ∀ merged ∈ [plain, compiled],
        InForce regexNew DeviceConfig.devLossTmo config vendor product merged.devLossTmo ∧
        InForce regexNew DeviceConfig.noPathRetry config vendor product merged.noPathRetry ∧
        InForce regexNew DeviceConfig.pollingInterval config vendor product
          merged.pollingInterval := by
  intro plain compiled
  have same : plain = compiled := get_merged_config_eq_compiled regexNew config vendor product
  refine ⟨same, ?_⟩
  intro merged listed
  have merged_eq : merged = compiled := by simpa [same] using listed
  subst merged_eq
  exact ⟨merged_field_in_force regexNew DeviceConfig.devLossTmo (fun _ _ => rfl) config vendor
      product,
    merged_field_in_force regexNew DeviceConfig.noPathRetry (fun _ _ => rfl) config vendor product,
    merged_field_in_force regexNew DeviceConfig.pollingInterval (fun _ _ => rfl) config vendor
      product⟩

end Precedence

end PveSanFenced.ConfigMerge
