import PveSanFenced.Config
import PveSanFenced.FencerModel

/-!
# Checking the device settings against the fencing time

The settings that apply to a map are merged from three levels and compared
with the time the fencer needs. All sums and products of the source are bare
`u64` operations, so each one can overflow; `none` is a panic. The regex
engine is a parameter: `Regex::new` either rejects a pattern or gives a test.
-/

namespace PveSanFenced.ConfigCheck

open PveSanFenced.Config
open PveSanFenced.FencerModel
open PveSanFenced.Library.Fixed
open PveSanFenced.Library.Text
open PveSanFenced.Multipath
open PveSanFenced.Status

set_option autoImplicit false

inductive CompiledPattern where
  | absent
  | invalid
  | compiled (isMatch : String → Bool)

structure CompiledDevice where
  vendor : CompiledPattern
  product : CompiledPattern
  config : DeviceConfig

def compilePattern (regexNew : String → Option (String → Bool)) (pattern : Option String) :
    CompiledPattern :=
  match pattern with
  | none => .absent
  | some v =>
      match regexNew v with
      | some re => .compiled re
      | none => .invalid

def compileDevices (regexNew : String → Option (String → Bool)) (config : MultipathConfig) :
    List CompiledDevice :=
  config.devices.map fun device =>
    { vendor := compilePattern regexNew device.vendor
      product := compilePattern regexNew device.product
      config := device }

def patternMatch (pattern : CompiledPattern) (text : String) : Bool :=
  match pattern with
  | .absent => true
  | .invalid => false
  | .compiled re => re text

/-- The three `is_some` blocks: what the second record sets replaces what is
there. -/
def overrideSettings (merged settings : DeviceConfig) : DeviceConfig :=
  { merged with
    devLossTmo := settings.devLossTmo.or merged.devLossTmo
    noPathRetry := settings.noPathRetry.or merged.noPathRetry
    pollingInterval := settings.pollingInterval.or merged.pollingInterval }

def mergeDevice (vendor product : String) (merged : DeviceConfig) (device : CompiledDevice) :
    DeviceConfig :=
  if patternMatch device.vendor vendor && patternMatch device.product product then
    overrideSettings merged device.config
  else merged

def getMergedConfigCompiled (defaults : DeviceConfig) (compiledDevices : List CompiledDevice)
    (overrides : DeviceConfig) (vendor product : String) : DeviceConfig :=
  overrideSettings (compiledDevices.foldl (mergeDevice vendor product) defaults) overrides

/-- The `no_path_retry` half of the validation: its warnings and the queue
time it found. -/
def noPathRetryWarnings (mode : Overflow) (noPathRetry : Option String)
    (pollingInterval minQueueTime : UInt64) : Option (List String × Option UInt64) :=
  match noPathRetry with
  | none => some (["no_path_retry is not configured (expected 'queue' or a safe high numeric " ++
      "value)"], none)
  | some val =>
      if val = "queue" then some ([], none)
      else
        match parseU64 val with
        | some num =>
            if num = 0 then
              some (["no_path_retry is set to '0' (queueing disabled). Expected 'queue' or a " ++
                "safe high numeric value"], none)
            else do
              let qt ← mulWord mode num pollingInterval
              if qt < minQueueTime then
                some (["no_path_retry is set to '" ++ val ++ "', yielding a queue time of " ++
                  toString qt ++ "s (with " ++ toString pollingInterval ++
                  "s polling_interval). This is too low (expected >= " ++
                  toString minQueueTime ++ "s to allow fencing)"], some qt)
              else some ([], some qt)
        | none =>
            if val = "fail" then
              some (["no_path_retry is set to 'fail' (queueing disabled). Expected 'queue' or " ++
                "a safe high numeric value"], none)
            else
              some (["no_path_retry is set to '" ++ val ++
                "' instead of 'queue' or a safe high numeric value"], none)

def devLossTmoWarnings (devLossTmo : Option String) (minDevLossTmo : UInt64)
    (queueTimeSec : Option UInt64) : List String :=
  match devLossTmo with
  | none => ["dev_loss_tmo is not configured (expected 'infinity' or a safe high number)"]
  | some val =>
      if val = "infinity" then []
      else
        match parseU64 val with
        | some num =>
            (if num < minDevLossTmo then
              ["dev_loss_tmo is set to '" ++ val ++
                "' which is too low (expected 'infinity' or >= " ++ toString minDevLossTmo ++ ")"]
            else []) ++
            match queueTimeSec with
            | some qt =>
                if num ≤ qt then
                  ["dev_loss_tmo (" ++ toString num ++
                    "s) must be strictly greater than no_path_retry queue time (" ++
                    toString qt ++ "s) to avoid deadlocks"]
                else []
            | none => []
        | none =>
            ["dev_loss_tmo is set to '" ++ val ++ "' instead of 'infinity' or a safe high number"]

def validateMergedDeviceConfig (mode : Overflow) (merged : DeviceConfig)
    (fencingTimeSec : UInt64) : Option (List String) := do
  let pollingInterval := merged.pollingInterval.getD 5
  let minQueueTime ← addWord mode fencingTimeSec 15
  let (retryWarnings, queueTimeSec) ←
    noPathRetryWarnings mode merged.noPathRetry pollingInterval minQueueTime
  let minDevLossTmo ← addWord mode fencingTimeSec 60
  some (retryWarnings ++ devLossTmoWarnings merged.devLossTmo minDevLossTmo queueTimeSec)

section Check

variable (mode : Overflow) (regexNew : String → Option (String → Bool))

def mergedSettings (config : MultipathConfig) (map : MultipathMap) : DeviceConfig :=
  getMergedConfigCompiled config.defaults (compileDevices regexNew config) config.overrides
    (map.vend.getD "") (map.prod.getD "")

def collectWarnings (config : MultipathConfig) (fencingTimeSec : UInt64) :
    List MultipathMap → Option (List String)
  | [] => some []
  | map :: rest => do
      let mapWarnings ←
        validateMergedDeviceConfig mode (mergedSettings regexNew config map) fencingTimeSec
      let others ← collectWarnings config fencingTimeSec rest
      if mapWarnings.isEmpty then some others
      else some (("Map " ++ map.name ++ " (vendor: " ++ map.vend.getD "" ++ ", product: " ++
        map.prod.getD "" ++ "): " ++ ", ".intercalate mapWarnings) :: others)

/-- The maps `check_maps_config` looks at, by the same test as the fencer's. -/
def configMonitoredMaps (maps : List MultipathMap) (activeLuns : Finset String) :
    List MultipathMap :=
  maps.filter (isActive activeLuns)

def checkMapsConfig (maps : List MultipathMap) (activeLuns : Finset String)
    (configStr : String) (fencingTimeSec : UInt64) (tracker : StatusTracker) :
    Option StatusTracker := do
  let parsedConfig := parseMultipathConfig configStr
  let monitored := configMonitoredMaps maps activeLuns
  let allWarnings ← collectWarnings mode regexNew parsedConfig fencingTimeSec monitored
  if allWarnings.isEmpty then some (tracker.clearIssue "config_warnings")
  else some (tracker.setIssue "config_warnings" .warning
    ("Multipath configuration recommendation warnings: " ++ "; ".intercalate allWarnings))

/-- What the monitoring loop does with an answer to `show config local`. -/
def checkConfigResponse (maxFailures pollInterval : UInt64) (maps : List MultipathMap)
    (activeSet : Finset String) (configResponse : String) (tracker : StatusTracker) :
    Option StatusTracker := do
  let tracker := tracker.clearIssue "config_query_error"
  let fencingTimeSec ← mulWord mode maxFailures pollInterval
  checkMapsConfig mode regexNew maps activeSet configResponse fencingTimeSec tracker

end Check

end PveSanFenced.ConfigCheck
