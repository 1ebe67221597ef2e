import PveSanFenced.ConfigCheck

/-!
# Which configurations are warned about

`Safe` states in exact arithmetic when settings leave the fencer enough time,
and `effectiveSettings` which settings apply to a map. The check agrees with
both as long as every number it computes fits in a word.
-/

namespace PveSanFenced.ConfigWarnings

open PveSanFenced.Config
open PveSanFenced.ConfigCheck
open PveSanFenced.FencerModel
open PveSanFenced.Library.Fixed
open PveSanFenced.Library.Text
open PveSanFenced.Multipath
open PveSanFenced.Status

set_option autoImplicit false

section Settings

def interval (settings : DeviceConfig) : ℕ := (settings.pollingInterval.getD 5).toNat

def retryCount (settings : DeviceConfig) : Option UInt64 :=
  settings.noPathRetry.bind parseU64

/-- How long I/O is queued, where `no_path_retry` is a number from one on. -/
def queueTime (settings : DeviceConfig) : Option ℕ :=
  ((retryCount settings).filter (· ≠ 0)).map fun n => n.toNat * interval settings

def lossTimeout (settings : DeviceConfig) : Option UInt64 :=
  settings.devLossTmo.bind parseU64

/-- I/O is queued until the node has been fenced. -/
def QueuesLongEnough (settings : DeviceConfig) (fencingTime : ℕ) : Prop :=
  settings.noPathRetry = some "queue" ∨
    ∃ queued, queueTime settings = some queued ∧ fencingTime + 15 ≤ queued

def KeepsDevices (settings : DeviceConfig) (fencingTime : ℕ) : Prop :=
  settings.devLossTmo = some "infinity" ∨
    ∃ d, lossTimeout settings = some d ∧ fencingTime + 60 ≤ d.toNat ∧
      ∀ queued, queueTime settings = some queued → queued < d.toNat

def Safe (settings : DeviceConfig) (fencingTime : ℕ) : Prop :=
  QueuesLongEnough settings fencingTime ∧ KeepsDevices settings fencingTime

/-- The numbers the validation computes for these settings fit in a word. -/
def Fits (settings : DeviceConfig) (fencingTime : ℕ) : Prop :=
  fencingTime + 60 ≤ maxWord ∧
    ∀ queued, queueTime settings = some queued → queued ≤ maxWord

variable (regexNew : String → Option (String → Bool))

/-- An absent pattern accepts everything, an invalid one nothing. -/
def accepts (pattern : Option String) (text : String) : Bool :=
  match pattern with
  | none => true
  | some v => ((regexNew v).map fun isMatch => isMatch text).getD false

/-- A setting comes from the overrides, else from the last matching device
that makes it, else from the defaults. -/
def effective {Value : Type} (field : DeviceConfig → Option Value) (config : MultipathConfig)
    (vendor product : String) : Option Value :=
  (field config.overrides).or
    (((config.devices.filter fun device =>
        accepts regexNew device.vendor vendor &&
          accepts regexNew device.product product).reverse.findSome? field).or
      (field config.defaults))

def effectiveSettings (config : MultipathConfig) (map : MultipathMap) : DeviceConfig :=
  let vendor := map.vend.getD ""
  let product := map.prod.getD ""
  { vendor := config.defaults.vendor
    product := config.defaults.product
    devLossTmo := effective regexNew DeviceConfig.devLossTmo config vendor product
    noPathRetry := effective regexNew DeviceConfig.noPathRetry config vendor product
    pollingInterval := effective regexNew DeviceConfig.pollingInterval config vendor product }

theorem pattern_match_compiled (pattern : Option String) (text : String) :
    patternMatch (compilePattern regexNew pattern) text = accepts regexNew pattern text := by
  cases pattern with
  | none => rfl
  | some v =>
      simp only [compilePattern, accepts]
      cases regexNew v with
      | none => rfl
      | some re => rfl

/-- The fold over the compiled devices keeps, for each field that merges this
way, the value of the last matching device that sets it. -/
theorem merged_devices_field {Value : Type} (field : DeviceConfig → Option Value)
    (merges : ∀ merged settings, field (overrideSettings merged settings) =
      (field settings).or (field merged))
    (config : MultipathConfig) (vendor product : String) :
    field ((compileDevices regexNew config).foldl (mergeDevice vendor product)
        config.defaults) =
      ((config.devices.filter fun device =>
        accepts regexNew device.vendor vendor &&
          accepts regexNew device.product product).reverse.findSome? field).or
        (field config.defaults) := by
  rw [compileDevices, List.foldl_map]
  simp only [mergeDevice, pattern_match_compiled]
  induction config.devices using List.reverseRecOn with
  | nil => rfl
  | append_singleton devices device ih =>
      rw [List.foldl_append, List.foldl_cons, List.foldl_nil, List.filter_append]
      cases applies : accepts regexNew device.vendor vendor &&
          accepts regexNew device.product product with
      | false =>
          rw [List.filter_cons_of_neg (by simp [applies]), List.filter_nil, List.append_nil]
          exact ih
      | true =>
          rw [List.filter_cons_of_pos (by simp [applies]), List.filter_nil,
            List.reverse_append, List.reverse_singleton, List.singleton_append,
            List.findSome?_cons, if_pos rfl, merges, ih]
          cases field device with
          | none => rfl
          | some value => rfl

theorem merged_devices_patterns (devices : List CompiledDevice) (defaults : DeviceConfig)
    (vendor product : String) :
    (devices.foldl (mergeDevice vendor product) defaults).vendor = defaults.vendor ∧
      (devices.foldl (mergeDevice vendor product) defaults).product = defaults.product := by
  induction devices using List.reverseRecOn with
  | nil => exact ⟨rfl, rfl⟩
  | append_singleton devices device ih =>
      rw [List.foldl_append, List.foldl_cons, List.foldl_nil, mergeDevice]
      split_ifs
      · exact ih
      · exact ih

theorem merged_settings_eq (config : MultipathConfig) (map : MultipathMap) :
    mergedSettings regexNew config map = effectiveSettings regexNew config map := by
  have patterns := merged_devices_patterns (compileDevices regexNew config) config.defaults
    (map.vend.getD "") (map.prod.getD "")
  simp only [mergedSettings, getMergedConfigCompiled, overrideSettings, effectiveSettings,
    effective, DeviceConfig.mk.injEq]
  refine ⟨patterns.1, patterns.2, ?_, ?_, ?_⟩
  · rw [merged_devices_field regexNew DeviceConfig.devLossTmo fun merged settings => rfl]
  · rw [merged_devices_field regexNew DeviceConfig.noPathRetry fun merged settings => rfl]
  · rw [merged_devices_field regexNew DeviceConfig.pollingInterval fun merged settings => rfl]

end Settings

section Validation

variable (mode : Overflow) (settings : DeviceConfig)

private theorem warning_eq_nil_iff (found : Prop) [Decidable found] (warning : String) :
    (if found then [warning] else []) = [] ↔ ¬found := by
  simp

private theorem queue_not_number : parseU64 "queue" = none := by decide

theorem no_path_retry_warnings_eq_some {minQueueTime : UInt64} {fencingTime : ℕ}
    (least : minQueueTime.toNat = fencingTime + 15)
    (fits : ∀ queued, queueTime settings = some queued → queued ≤ maxWord) :
    ∃ warnings queueTimeSec,
      noPathRetryWarnings mode settings.noPathRetry (settings.pollingInterval.getD 5)
          minQueueTime = some (warnings, queueTimeSec) ∧
        (warnings = [] ↔ QueuesLongEnough settings fencingTime) ∧
        queueTimeSec.map UInt64.toNat = queueTime settings := by
  unfold noPathRetryWarnings QueuesLongEnough
  cases retry : settings.noPathRetry with
  | none =>
      have unset : queueTime settings = none := by simp [queueTime, retryCount, retry]
      exact ⟨_, _, rfl, by simp [unset], unset.symm⟩
  | some val =>
      by_cases queue : val = "queue"
      · have unset : queueTime settings = none := by
          simp [queueTime, retryCount, retry, queue, queue_not_number]
        exact ⟨_, _, if_pos queue, by simp [queue], unset.symm⟩
      · have count : retryCount settings = parseU64 val := by simp [retryCount, retry]
        simp only [if_neg queue]
        cases parsed : parseU64 val with
        | none =>
            have unset : queueTime settings = none := by simp [queueTime, count, parsed]
            by_cases fail : val = "fail"
            · exact ⟨_, _, if_pos fail, by simp [unset, fail], unset.symm⟩
            · exact ⟨_, _, if_neg fail, by simp [unset, queue], unset.symm⟩
        | some num =>
            by_cases zero : num = 0
            · have unset : queueTime settings = none := by
                simp [queueTime, count, parsed, zero]
              exact ⟨_, _, if_pos zero, by simp [unset, queue], unset.symm⟩
            · have queued : queueTime settings = some (num.toNat * interval settings) := by
                simp [queueTime, count, parsed, zero]
              have exact := of_nat_to_nat (fits _ queued)
              have multiplied : mulWord mode num (settings.pollingInterval.getD 5) =
                  some (UInt64.ofNat (num.toNat * interval settings)) :=
                exact_word_fits mode (fits _ queued)
              simp only [if_neg zero, multiplied, Option.bind_eq_bind, Option.bind_some]
              rw [queued]
              by_cases low : UInt64.ofNat (num.toNat * interval settings) < minQueueTime
              · refine ⟨_, _, if_pos low, ?_, congrArg some exact⟩
                rw [UInt64.lt_iff_toNat_lt, exact, least] at low
                simp [queue, low]
              · refine ⟨_, _, if_neg low, ?_, congrArg some exact⟩
                rw [UInt64.lt_iff_toNat_lt, exact, least] at low
                simp only [Option.some.injEq, queue, exists_eq_left', true_iff, false_or]
                omega

theorem dev_loss_tmo_warnings_iff {minDevLossTmo : UInt64} {fencingTime : ℕ}
    {queueTimeSec : Option UInt64} (least : minDevLossTmo.toNat = fencingTime + 60)
    (queued : queueTimeSec.map UInt64.toNat = queueTime settings) :
    devLossTmoWarnings settings.devLossTmo minDevLossTmo queueTimeSec = [] ↔
      KeepsDevices settings fencingTime := by
  unfold devLossTmoWarnings KeepsDevices
  rw [← queued]
  cases loss : settings.devLossTmo with
  | none =>
      have unset : lossTimeout settings = none := by simp [lossTimeout, loss]
      simp [unset]
  | some val =>
      by_cases infinity : val = "infinity"
      · simp [infinity]
      · have timeout : lossTimeout settings = parseU64 val := by simp [lossTimeout, loss]
        simp only [if_neg infinity]
        cases parsed : parseU64 val with
        | none => simp [timeout, parsed, infinity]
        | some num =>
            simp only [timeout, parsed, Option.some.injEq, infinity, exists_eq_left', false_or,
              List.append_eq_nil_iff, warning_eq_nil_iff]
            rw [UInt64.lt_iff_toNat_lt, least, Nat.not_lt]
            apply and_congr_right
            intro _
            cases queueTimeSec with
            | none => simp
            | some qt => simp [UInt64.le_iff_toNat_le]

theorem validate_fits {fencingTimeSec : UInt64} (fits : Fits settings fencingTimeSec.toNat) :
    ∃ warnings, validateMergedDeviceConfig mode settings fencingTimeSec = some warnings ∧
      (warnings = [] ↔ Safe settings fencingTimeSec.toNat) := by
  obtain ⟨lossFits, queueFits⟩ := fits
  have queueFitsWord : fencingTimeSec.toNat + 15 ≤ maxWord := by omega
  obtain ⟨retryWarnings, queueTimeSec, retried, retryIff, queued⟩ :=
    no_path_retry_warnings_eq_some mode settings (of_nat_to_nat queueFitsWord) queueFits
  have lossIff := dev_loss_tmo_warnings_iff settings (of_nat_to_nat lossFits) queued
  have queueSum : addWord mode fencingTimeSec 15 =
      some (UInt64.ofNat (fencingTimeSec.toNat + 15)) := exact_word_fits mode queueFitsWord
  have lossSum : addWord mode fencingTimeSec 60 =
      some (UInt64.ofNat (fencingTimeSec.toNat + 60)) := exact_word_fits mode lossFits
  refine ⟨retryWarnings ++ devLossTmoWarnings settings.devLossTmo
    (UInt64.ofNat (fencingTimeSec.toNat + 60)) queueTimeSec, ?_, ?_⟩
  · simp only [validateMergedDeviceConfig, queueSum, lossSum, retried, Option.bind_eq_bind,
      Option.bind_some]
  · rw [List.append_eq_nil_iff, retryIff, lossIff, Safe]

theorem queue_fits_of_panics {minQueueTime : UInt64}
    (completes : (noPathRetryWarnings .panics settings.noPathRetry
      (settings.pollingInterval.getD 5) minQueueTime).isSome = true) {queued : ℕ}
    (numeric : queueTime settings = some queued) : queued ≤ maxWord := by
  simp only [queueTime, retryCount, Option.map_eq_some_iff, Option.filter_eq_some_iff,
    Option.bind_eq_some_iff, decide_eq_true_eq] at numeric
  obtain ⟨num, ⟨⟨val, retry, parsed⟩, nonzero⟩, rfl⟩ := numeric
  have notQueue : val ≠ "queue" := by
    intro queue
    rw [queue, queue_not_number] at parsed
    cases parsed
  rw [← exact_word_panics_iff]
  simp only [noPathRetryWarnings, retry, if_neg notQueue, parsed, if_neg nonzero] at completes
  have multiplied : mulWord .panics num (settings.pollingInterval.getD 5) =
      exactWord .panics (num.toNat * interval settings) := rfl
  rw [multiplied] at completes
  cases product : exactWord .panics (num.toNat * interval settings) with
  | none => simp [product] at completes
  | some qt => rfl

theorem fits_of_validate_panics {fencingTimeSec : UInt64}
    (completes : (validateMergedDeviceConfig .panics settings fencingTimeSec).isSome = true) :
    Fits settings fencingTimeSec.toNat := by
  unfold validateMergedDeviceConfig at completes
  cases queueSum : addWord .panics fencingTimeSec 15 with
  | none => simp [queueSum] at completes
  | some minQueueTime =>
      cases retried : noPathRetryWarnings .panics settings.noPathRetry
          (settings.pollingInterval.getD 5) minQueueTime with
      | none => simp [queueSum, retried] at completes
      | some pair =>
          cases lossSum : addWord .panics fencingTimeSec 60 with
          | none => simp [queueSum, lossSum] at completes
          | some minDevLossTmo =>
              have lossFits := (exact_word_panics_iff (fencingTimeSec.toNat + 60)).mp
                (Option.isSome_of_eq_some lossSum)
              have queueCompletes := Option.isSome_of_eq_some retried
              exact ⟨lossFits, fun queued => queue_fits_of_panics settings queueCompletes⟩

end Validation

section Check

variable (regexNew : String → Option (String → Bool))

theorem collect_warnings_fits (mode : Overflow) (config : MultipathConfig)
    (fencingTimeSec : UInt64) (maps : List MultipathMap)
    (fits : ∀ map ∈ maps, Fits (effectiveSettings regexNew config map) fencingTimeSec.toNat) :
    ∃ warnings, collectWarnings mode regexNew config fencingTimeSec maps = some warnings ∧
      (warnings = [] ↔
        ∀ map ∈ maps, Safe (effectiveSettings regexNew config map) fencingTimeSec.toNat) := by
  induction maps with
  | nil => exact ⟨[], rfl, by simp⟩
  | cons map rest ih =>
      obtain ⟨others, collected, othersIff⟩ := ih fun other member =>
        fits other (List.mem_cons_of_mem map member)
      obtain ⟨warnings, validated, safeIff⟩ := validate_fits mode
        (effectiveSettings regexNew config map) (fits map (List.mem_cons_self ..))
      simp only [collectWarnings, merged_settings_eq, validated, collected,
        Option.bind_eq_bind, Option.bind_some, List.forall_mem_cons, ← safeIff, ← othersIff]
      cases warnings with
      | nil => exact ⟨others, if_pos rfl, by simp⟩
      | cons warning warnings => exact ⟨_, if_neg (by simp), by simp⟩

theorem fits_of_collect_panics (config : MultipathConfig) (fencingTimeSec : UInt64)
    (maps : List MultipathMap)
    (completes : (collectWarnings .panics regexNew config fencingTimeSec maps).isSome = true) :
    ∀ map ∈ maps, Fits (effectiveSettings regexNew config map) fencingTimeSec.toNat := by
  induction maps with
  | nil => simp
  | cons map rest ih =>
      simp only [collectWarnings, merged_settings_eq] at completes
      cases validated : validateMergedDeviceConfig .panics
          (effectiveSettings regexNew config map) fencingTimeSec with
      | none => simp [validated] at completes
      | some warnings =>
          cases collected : collectWarnings .panics regexNew config fencingTimeSec rest with
          | none => simp [collected] at completes
          | some others =>
              rw [List.forall_mem_cons]
              exact ⟨fits_of_validate_panics _ (Option.isSome_of_eq_some validated),
                ih (Option.isSome_of_eq_some collected)⟩

def InUse (maps : List MultipathMap) (activeSet : Finset String) (map : MultipathMap) : Prop :=
  map ∈ maps ∧ ∃ lun ∈ activeSet, lunNames lun map = true

theorem mem_config_monitored_maps (maps : List MultipathMap) (activeSet : Finset String)
    (map : MultipathMap) :
    map ∈ configMonitoredMaps maps activeSet ↔ InUse maps activeSet map := by
  simp [configMonitoredMaps, isActive, InUse]

variable (maxFailures pollInterval : UInt64) (maps : List MultipathMap)
  (activeSet : Finset String) (configResponse : String) (tracker : StatusTracker)

def AllFit : Prop :=
  maxFailures.toNat * pollInterval.toNat ≤ maxWord ∧
    ∀ map, InUse maps activeSet map →
      Fits (effectiveSettings regexNew (parseMultipathConfig configResponse) map)
        (maxFailures.toNat * pollInterval.toNat)

def SomeUnsafe : Prop :=
  ∃ map, InUse maps activeSet map ∧
    ¬Safe (effectiveSettings regexNew (parseMultipathConfig configResponse) map)
      (maxFailures.toNat * pollInterval.toNat)

theorem check_config_fits (mode : Overflow)
    (fit : AllFit regexNew maxFailures pollInterval maps activeSet configResponse) :
    ∃ checked, checkConfigResponse mode regexNew maxFailures pollInterval maps activeSet
        configResponse tracker = some checked ∧
      ((checked.issue "config_warnings").isSome = true ↔
        SomeUnsafe regexNew maxFailures pollInterval maps activeSet configResponse) := by
  obtain ⟨timeFits, settingsFit⟩ := fit
  have time := of_nat_to_nat timeFits
  have multiplied : mulWord mode maxFailures pollInterval =
      some (UInt64.ofNat (maxFailures.toNat * pollInterval.toNat)) :=
    exact_word_fits mode timeFits
  obtain ⟨warnings, collected, safeIff⟩ := collect_warnings_fits regexNew mode
    (parseMultipathConfig configResponse)
    (UInt64.ofNat (maxFailures.toNat * pollInterval.toNat))
    (configMonitoredMaps maps activeSet) (by
      intro map member
      rw [time]
      exact settingsFit map ((mem_config_monitored_maps ..).mp member))
  simp only [mem_config_monitored_maps, time] at safeIff
  simp only [checkConfigResponse, checkMapsConfig, multiplied, collected, Option.bind_eq_bind,
    Option.bind_some]
  have unsafeIff : SomeUnsafe regexNew maxFailures pollInterval maps activeSet configResponse ↔
      warnings ≠ [] := by
    rw [ne_eq, safeIff, SomeUnsafe]
    push Not
    rfl
  rw [unsafeIff]
  cases warnings with
  | nil => exact ⟨_, if_pos rfl, by simp⟩
  | cons warning warnings => exact ⟨_, if_neg (by simp), by simp⟩

theorem all_fit_of_panics
    (completes : (checkConfigResponse .panics regexNew maxFailures pollInterval maps activeSet
      configResponse tracker).isSome = true) :
    AllFit regexNew maxFailures pollInterval maps activeSet configResponse := by
  cases multiplied : mulWord .panics maxFailures pollInterval with
  | none => simp [checkConfigResponse, multiplied] at completes
  | some fencingTimeSec =>
      have timeFits := (exact_word_panics_iff (maxFailures.toNat * pollInterval.toNat)).mp
        (Option.isSome_of_eq_some multiplied)
      have time : fencingTimeSec.toNat = maxFailures.toNat * pollInterval.toNat := by
        have product := multiplied.symm.trans (exact_word_fits .panics timeFits)
        rw [Option.some.inj product, of_nat_to_nat timeFits]
      refine ⟨timeFits, fun map used => ?_⟩
      cases collected : collectWarnings .panics regexNew (parseMultipathConfig configResponse)
          fencingTimeSec (configMonitoredMaps maps activeSet) with
      | none => simp [checkConfigResponse, checkMapsConfig, multiplied, collected] at completes
      | some warnings =>
          have fits := fits_of_collect_panics regexNew _ _ _
            (Option.isSome_of_eq_some collected) map ((mem_config_monitored_maps ..).mpr used)
          rwa [time] at fits

/-- The check warns exactly about unsafe settings, and computes nothing that
overflows, if and only if the fencing time, the least timeouts and the queue
times of the maps in use all fit in a word. -/
theorem config_warnings_exact_iff :
    ((checkConfigResponse .panics regexNew maxFailures pollInterval maps activeSet
          configResponse tracker).isSome = true ∧
        ∀ mode checked,
          checkConfigResponse mode regexNew maxFailures pollInterval maps activeSet
            configResponse tracker = some checked →
          ((checked.issue "config_warnings").isSome = true ↔
            SomeUnsafe regexNew maxFailures pollInterval maps activeSet configResponse)) ↔
      AllFit regexNew maxFailures pollInterval maps activeSet configResponse := by
  constructor
  · intro exact
    exact all_fit_of_panics regexNew maxFailures pollInterval maps activeSet configResponse
      tracker exact.1
  · intro fit
    have checks := fun mode => check_config_fits regexNew maxFailures pollInterval maps
      activeSet configResponse tracker mode fit
    constructor
    · obtain ⟨checked, completes, -⟩ := checks .panics
      exact Option.isSome_of_eq_some completes
    · intro mode checked completes
      obtain ⟨expected, same, warned⟩ := checks mode
      obtain rfl : expected = checked := Option.some.inj (same.symm.trans completes)
      exact warned

end Check

section HugeRetry

def hugeRetry : String :=
  "defaults { no_path_retry 3689348814741910324 dev_loss_tmo infinity }"

def plainMap : MultipathMap where
  name := "mpatha"
  uuid := "36001"
  pathGroups := none
  vend := none
  prod := none

/-- The settings are safe, yet one build panics on them and the other warns
about a queue time of four seconds. -/
theorem huge_retry_overflows :
    ¬SomeUnsafe (fun _ => none) 6 10 [plainMap] {"mpatha"} hugeRetry ∧
      checkConfigResponse .panics (fun _ => none) 6 10 [plainMap] {"mpatha"} hugeRetry
        StatusTracker.new = none ∧
      ((checkConfigResponse .wraps (fun _ => none) 6 10 [plainMap] {"mpatha"} hugeRetry
        StatusTracker.new).bind fun checked => checked.issue "config_warnings").isSome = true := by
  refine ⟨?_, by decide +kernel, by decide +kernel⟩
  rintro ⟨map, ⟨member, -⟩, notSafe⟩
  obtain rfl := List.mem_singleton.mp member
  apply notSafe
  refine ⟨Or.inr ⟨3689348814741910324 * 5, by decide +kernel, by decide⟩,
    Or.inl (by decide +kernel)⟩

end HugeRetry

end PveSanFenced.ConfigWarnings
