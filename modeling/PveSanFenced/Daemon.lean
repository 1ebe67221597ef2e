import PveSanFenced.ConfigCheck
import PveSanFenced.FencerHistory

/-!
# The two loops of the daemon

The discovery thread and the monitoring loop share one timestamped LUN set.
An event is one indivisible action of one of them, or the passing of time; an
event carries what the environment answers (the discovered set, multipathd's
replies). Any order of events the loops allow is a run, so nothing here
depends on how long a query or a sleep takes. A step that panics ends the
loop it happens in.
-/

namespace PveSanFenced.Daemon

open PveSanFenced.ConfigCheck
open PveSanFenced.FencerHistory
open PveSanFenced.FencerModel
open PveSanFenced.Library.Fixed
open PveSanFenced.Multipath
open PveSanFenced.Status

set_option autoImplicit false

/-- The command line, the build, and the two parsers that are not ours. -/
structure Settings where
  pollInterval : UInt64
  discoveryInterval : UInt64
  maxFailures : UInt64
  targetWwids : Finset String
  discoveryMaxRetries : UInt64
  discoveryBackoffBase : UInt64
  discoveryBackoffMax : UInt64
  overflow : Overflow
  fromStr : String → Option MultipathOutput
  maxResponseSize : Option ℕ
  regexNew : String → Option (String → Bool)

/-- The shared set; instants are nanoseconds on the monotonic clock. -/
structure ActiveLunsWithTimestamp where
  luns : Finset String
  discoveredAt : ℕ

def secondNanos : ℕ := 1000000000

/-- `is_stale` at a given instant. Doubling the interval panics when the
seconds no longer fit, in every build. -/
def ActiveLunsWithTimestamp.isStale (data : ActiveLunsWithTimestamp) (discoveryInterval : UInt64)
    (now : ℕ) : Option Bool :=
  if discoveryInterval.toNat * 2 ≤ maxWord then
    some (decide (discoveryInterval.toNat * 2 * secondNanos < now - data.discoveredAt))
  else none

inductive Monitor where
  | waiting
  | read (activeData : ActiveLunsWithTimestamp)
  | fresh (activeData : ActiveLunsWithTimestamp)
  | parsed (activeData : ActiveLunsWithTimestamp) (maps : List MultipathMap)
  | crashed

/-- How one attempt of the discovery task ends. A timeout is an error. -/
inductive Discovery where
  | found (mpaths : Finset String)
  | failed (error : String)
  | panicked (message : Option String)
  | cancelled

inductive Event where
  | elapse (nanos : ℕ)
  | discovery (outcome : Discovery)
  | readLuns
  | checkStale
  | queryMaps (response : Except String String)
  | queryConfig (response : Except String String)

/-- One evaluated poll. No step reads the record of them. -/
structure Evaluated where
  call : Call
  fence : Bool

structure State where
  now : ℕ
  shared : ActiveLunsWithTimestamp
  tracker : StatusTracker
  discoveryFailures : UInt64
  discoveryAlive : Bool
  monitor : Monitor
  fencer : Fencer
  evaluated : List Evaluated

def initial (settings : Settings) : State where
  now := 0
  shared := { luns := ∅, discoveredAt := 0 }
  tracker := StatusTracker.new
  discoveryFailures := 0
  discoveryAlive := true
  monitor := .waiting
  fencer := Fencer.new settings.maxFailures settings.targetWwids
  evaluated := []

section Discovery

variable (settings : Settings)

/-- The delay after too many failures. The exponent is cut to 32 bits and the
power of two is a bare operation. -/
def backoffSeconds (consecutiveFailures : UInt64) : Option UInt64 := do
  let backoffExp := saturatingSub consecutiveFailures settings.discoveryMaxRetries
  let power ← exactWord settings.overflow (2 ^ (backoffExp.toNat % 2 ^ 32))
  some (min (saturatingMul settings.discoveryBackoffBase power) settings.discoveryBackoffMax)

/-- The end of a failed round: the counter, the issue and the delay. -/
def afterFailure (state : State) (message : String) : State :=
  match addWord settings.overflow state.discoveryFailures 1 with
  | none => { state with discoveryAlive := false }
  | some consecutiveFailures =>
      let state := { state with
        discoveryFailures := consecutiveFailures
        tracker := state.tracker.setIssue "discovery_failure" .warning message }
      if 0 < consecutiveFailures ∧ 0 < settings.discoveryMaxRetries ∧
          settings.discoveryMaxRetries ≤ consecutiveFailures then
        match backoffSeconds settings consecutiveFailures with
        | none => { state with discoveryAlive := false }
        | some seconds =>
            { state with
              tracker := state.tracker.setIssue "discovery_backoff" .warning
                ("Discovery thread: " ++ toString consecutiveFailures ++
                  " consecutive failures, backing off for " ++ toString seconds ++ " seconds") }
      else state

def finishDiscovery (state : State) : Discovery → State
  | .found mpaths =>
      { state with
        discoveryFailures := 0
        tracker := (state.tracker.clearIssue "discovery_failure").clearIssue "discovery_backoff"
        shared := { luns := mpaths, discoveredAt := state.now } }
  | .failed error =>
      afterFailure settings state ("Error discovering active multipath devices: " ++ error)
  | .panicked message =>
      afterFailure settings state
        ("Panic in discovery thread: " ++ message.getD "Unknown panic error")
  | .cancelled =>
      afterFailure settings state "Panic in discovery thread: Discovery task was cancelled"

end Discovery

section Monitoring

variable (settings : Settings)

def staleMessage : String :=
  "Active LUN data is stale (older than 2x discovery interval). Skipping fencer update to " ++
    "avoid race condition with discovery thread."

def checkStale (state : State) (activeData : ActiveLunsWithTimestamp) : State :=
  match activeData.isStale settings.discoveryInterval state.now with
  | none => { state with monitor := .crashed }
  | some true =>
      { state with
        tracker := state.tracker.setIssue "stale_luns" .warning staleMessage
        monitor := .waiting }
  | some false =>
      { state with
        tracker := state.tracker.clearIssue "stale_luns"
        monitor := .fresh activeData }

def queryMaps (state : State) (activeData : ActiveLunsWithTimestamp) :
    Except String String → State
  | .error e =>
      { state with
        tracker := state.tracker.setIssue "query_failure" .warning
          ("Failed to query multipathd: " ++ e)
        monitor := .waiting }
  | .ok response =>
      let state := { state with tracker := state.tracker.clearIssue "query_failure" }
      match parseMultipathdResponse settings.fromStr settings.maxResponseSize response with
      | none => { state with monitor := .waiting }
      | some maps => { state with monitor := .parsed activeData maps }

def checkConfig (state : State) (activeData : ActiveLunsWithTimestamp)
    (maps : List MultipathMap) : Except String String → Option StatusTracker
  | .ok response =>
      checkConfigResponse settings.overflow settings.regexNew settings.maxFailures
        settings.pollInterval maps activeData.luns response state.tracker
  | .error e => some (state.tracker.setIssue "config_query_error" .warning
      ("Failed to query multipathd config: " ++ e))

def evaluate (state : State) (activeData : ActiveLunsWithTimestamp) (maps : List MultipathMap)
    (config : Except String String) : State :=
  match checkConfig settings state activeData maps config with
  | none =>
      -- only the check of an answer panics, after the issue of the query is cleared
      { state with
        tracker := state.tracker.clearIssue "config_query_error"
        monitor := .crashed }
  | some tracker =>
      let result := updateWithMaps state.fencer tracker maps activeData.luns
      { state with
        tracker := result.tracker
        monitor := .waiting
        fencer := result.fencer
        evaluated := state.evaluated ++ [{
          call := { tracker := tracker, maps := maps, activeLuns := activeData.luns }
          fence := result.fence }] }

/-- One event, where the loops allow it. -/
def step (state : State) : Event → Option State
  | .elapse nanos => some { state with now := state.now + nanos }
  | .discovery outcome =>
      if state.discoveryAlive then some (finishDiscovery settings state outcome) else none
  | .readLuns =>
      match state.monitor with
      | .waiting => some { state with monitor := .read state.shared }
      | _ => none
  | .checkStale =>
      match state.monitor with
      | .read activeData => some (checkStale settings state activeData)
      | _ => none
  | .queryMaps response =>
      match state.monitor with
      | .fresh activeData => some (queryMaps settings state activeData response)
      | _ => none
  | .queryConfig response =>
      match state.monitor with
      | .parsed activeData maps => some (evaluate settings state activeData maps response)
      | _ => none

def run (events : List Event) : Option State :=
  events.foldlM (step settings) (initial settings)

end Monitoring

end PveSanFenced.Daemon
