import PveSanFenced.DaemonStatus

/-!
# The calls of every event

The loops do not change the issue map themselves: each event makes calls on the
tracker, one after the other. The lists below follow the source call by call;
the state after an event holds the map that they leave. A call may write the
status file even if it leaves the map as it is, so the lists say more than the
map does. No call depends on the map, so each loop makes the same calls whatever
the other one has recorded.
-/

namespace PveSanFenced.DaemonCalls

open PveSanFenced.Config
open PveSanFenced.ConfigCheck
open PveSanFenced.Daemon
open PveSanFenced.DaemonSafety
open PveSanFenced.DaemonStatus
open PveSanFenced.FencerCycle
open PveSanFenced.FencerIssues
open PveSanFenced.FencerModel
open PveSanFenced.Library.Collections
open PveSanFenced.Library.Fixed
open PveSanFenced.Multipath
open PveSanFenced.Status
open PveSanFenced.StatusCalls
open PveSanFenced.StatusFile

set_option autoImplicit false

section Fencer

def missingDmStCall (name : String) : Call :=
  .setIssue (missingDmStKey name) .warning ("dm_st is missing for map '" ++ name ++ "'")

def pathCalls (name : String) : List MpathPath → List Call
  | [] => []
  | path :: rest =>
      match path.dmSt with
      | some dmSt =>
          if dmSt ≠ "failed" ∧ dmSt ≠ "faulty" ∧ dmSt ≠ "ghost" then [] else pathCalls name rest
      | none => [missingDmStCall name]

def pgCalls (name : String) (group : PathGroup) : List Call :=
  match group.dmSt with
  | some _ => []
  | none => [missingDmStCall name]

/-- The verdicts do not depend on the tracker, so a new one will do. -/
def groupCalls (name : String) : List PathGroup → List Call
  | [] => []
  | group :: rest =>
      pgCalls name group ++
        if (pgAlive name group .new).1 then
          match group.paths with
          | none => groupCalls name rest
          | some paths => pathCalls name paths ++
              if (activePathFound name paths .new).1 then [] else groupCalls name rest
        else groupCalls name rest

def isMapDeadCalls (map : MultipathMap) : List Call :=
  match map.pathGroups with
  | none => [.setIssue (missingPathGroupsKey map.name) .warning
      ("path_groups is missing for map '" ++ map.name ++ "'")]
  | some pgs => groupCalls map.name pgs

def judgeCalls (fencer : Fencer) (monitored : List MultipathMap)
    (mapDeadStates : HashMap String Bool) (activeLuns : Finset String) : List Call :=
  if monitored.isEmpty then []
  else if fencingConditionMet monitored mapDeadStates activeLuns then
    let consecutiveFailures := saturatingAdd fencer.consecutiveFailures 1
    if fencer.maxFailures ≤ consecutiveFailures then
      [.setIssue "fencing" .critical ("Fencing decision reached: " ++
        decisionMessage monitored mapDeadStates activeLuns fencer.targetWwids)]
    else
      [.setIssue "fencing" .warning ("Consecutive storage failure: " ++
        toString consecutiveFailures ++ "/" ++ toString fencer.maxFailures)]
  else [.clearIssue "fencing"]

def updateCalls (fencer : Fencer) (tracker : StatusTracker) (maps : List MultipathMap)
    (activeLuns : Finset String) : List Call :=
  let monitored := monitoredMaps fencer.targetWwids maps activeLuns
  let evaluation :=
    evaluateMaps fencer (tracker.clearIssuesWithPrefix "missing_dm_st_") monitored
  .clearIssuesWithPrefix "missing_dm_st_" :: (monitored.flatMap isMapDeadCalls ++
    judgeCalls (retainMonitored monitored evaluation.fencer) monitored evaluation.mapDeadStates
      activeLuns)

theorem path_calls_tracker (name : String) (paths : List MpathPath) (tracker : StatusTracker) :
    (pathCalls name paths).foldl mutate tracker = (activePathFound name paths tracker).2 := by
  induction paths with
  | nil => rfl
  | cons path rest ih =>
      rw [pathCalls, activePathFound]
      cases path.dmSt with
      | none => rfl
      | some dmSt =>
          dsimp only
          by_cases active : dmSt ≠ "failed" ∧ dmSt ≠ "faulty" ∧ dmSt ≠ "ghost"
          · rw [if_pos active, if_pos active]
            rfl
          · rw [if_neg active, if_neg active, ih]

theorem pg_calls_tracker (name : String) (group : PathGroup) (tracker : StatusTracker) :
    (pgCalls name group).foldl mutate tracker = (pgAlive name group tracker).2 := by
  rw [pgCalls, pgAlive]
  cases group.dmSt <;> rfl

theorem pg_alive_any (name : String) (group : PathGroup) (tracker tracker' : StatusTracker) :
    (pgAlive name group tracker).1 = (pgAlive name group tracker').1 := by
  rw [pgAlive, pgAlive]
  cases group.dmSt <;> rfl

theorem active_path_any (name : String) (paths : List MpathPath)
    (tracker tracker' : StatusTracker) :
    (activePathFound name paths tracker).1 = (activePathFound name paths tracker').1 := by
  rw [Bool.eq_iff_iff, ← Bool.not_eq_false, ← Bool.not_eq_false, active_path_found_iff,
    active_path_found_iff]

theorem group_calls_tracker (name : String) (pgs : List PathGroup) (tracker : StatusTracker) :
    (groupCalls name pgs).foldl mutate tracker = (noGroupActive name pgs tracker).2 := by
  induction pgs generalizing tracker with
  | nil => rfl
  | cons group rest ih =>
      rw [groupCalls, noGroupActive, List.foldl_append, pg_calls_tracker,
        pg_alive_any name group .new tracker]
      dsimp only
      generalize (pgAlive name group tracker).2 = reported
      cases (pgAlive name group tracker).1 with
      | false => exact ih reported
      | true =>
          cases group.paths with
          | none => exact ih reported
          | some paths =>
              simp only [Bool.not_true, Bool.false_eq_true, if_false, if_true, List.foldl_append,
                path_calls_tracker, active_path_any name paths .new reported]
              cases (activePathFound name paths reported).1 with
              | true => rfl
              | false => exact ih _

theorem is_map_dead_calls_tracker (map : MultipathMap) (tracker : StatusTracker) :
    (isMapDeadCalls map).foldl mutate tracker = (isMapDead map tracker).2 := by
  rw [isMapDeadCalls, isMapDead]
  cases map.pathGroups with
  | none => rfl
  | some pgs => exact group_calls_tracker map.name pgs tracker

theorem evaluate_calls_tracker (fencer : Fencer) (tracker : StatusTracker)
    (monitored : List MultipathMap) :
    (monitored.flatMap isMapDeadCalls).foldl mutate tracker =
      (evaluateMaps fencer tracker monitored).tracker := by
  induction monitored using List.reverseRecOn with
  | nil => rfl
  | append_singleton monitored map ih =>
      rw [evaluate_maps_tracker_snoc, ← ih, ← is_map_dead_calls_tracker, List.flatMap_append,
        List.foldl_append, List.flatMap_singleton]

theorem judge_calls_tracker (fencer : Fencer) (tracker : StatusTracker)
    (monitored : List MultipathMap) (mapDeadStates : HashMap String Bool)
    (activeLuns : Finset String) :
    (judgeCalls fencer monitored mapDeadStates activeLuns).foldl mutate tracker =
      (judgeCycle fencer tracker monitored mapDeadStates activeLuns).tracker := by
  unfold judgeCalls judgeCycle
  dsimp only
  split_ifs <;> rfl

theorem update_calls_tracker (fencer : Fencer) (tracker : StatusTracker)
    (maps : List MultipathMap) (activeLuns : Finset String) :
    (updateCalls fencer tracker maps activeLuns).foldl mutate tracker =
      (updateWithMaps fencer tracker maps activeLuns).tracker := by
  rw [updateCalls, updateWithMaps, List.foldl_cons, List.foldl_append, mutate,
    evaluate_calls_tracker fencer, judge_calls_tracker]

end Fencer

section Loops

variable (settings : Settings)

/-- The calls of a failed round. A counter that overflows panics before them. -/
def failureCalls (state : State) (message : String) : List Call :=
  match addWord settings.overflow state.discoveryFailures 1 with
  | none => []
  | some consecutiveFailures =>
      .setIssue "discovery_failure" .warning message ::
        if 0 < consecutiveFailures ∧ 0 < settings.discoveryMaxRetries ∧
            settings.discoveryMaxRetries ≤ consecutiveFailures then
          match backoffSeconds settings consecutiveFailures with
          | none => []
          | some seconds => [.setIssue "discovery_backoff" .warning
              ("Discovery thread: " ++ toString consecutiveFailures ++
                " consecutive failures, backing off for " ++ toString seconds ++ " seconds")]
        else []

def discoveryCalls (state : State) : Discovery → List Call
  | .found _ => [.clearIssue "discovery_failure", .clearIssue "discovery_backoff"]
  | .failed error =>
      failureCalls settings state ("Error discovering active multipath devices: " ++ error)
  | .panicked message =>
      failureCalls settings state
        ("Panic in discovery thread: " ++ message.getD "Unknown panic error")
  | .cancelled =>
      failureCalls settings state "Panic in discovery thread: Discovery task was cancelled"

def checkStaleCalls (state : State) (activeData : ActiveLunsWithTimestamp) : List Call :=
  match activeData.isStale settings.discoveryInterval state.now with
  | none => []
  | some true => [.setIssue "stale_luns" .warning staleMessage]
  | some false => [.clearIssue "stale_luns"]

def queryMapsCalls : Except String String → List Call
  | .error e => [.setIssue "query_failure" .warning ("Failed to query multipathd: " ++ e)]
  | .ok _ => [.clearIssue "query_failure"]

def configWarningsCall : Option (StatusLevel × String) → Call
  | none => .clearIssue "config_warnings"
  | some issue => .setIssue "config_warnings" issue.1 issue.2

def checkConfigCalls (activeData : ActiveLunsWithTimestamp) (maps : List MultipathMap) :
    Except String String → Option (List Call)
  | .error e => some [.setIssue "config_query_error" .warning
      ("Failed to query multipathd config: " ++ e)]
  | .ok reply => (warningsIssue settings activeData maps reply).map fun issue =>
      [.clearIssue "config_query_error", configWarningsCall issue]

/-- A check that panics has cleared the issue of the query, and no more. -/
def evaluateCalls (state : State) (activeData : ActiveLunsWithTimestamp)
    (maps : List MultipathMap) (config : Except String String) : List Call :=
  match checkConfigCalls settings activeData maps config with
  | none => [.clearIssue "config_query_error"]
  | some calls => calls ++
      updateCalls state.fencer (calls.foldl mutate state.tracker) maps activeData.luns

/-- The calls of one event. A cycle of the monitoring loop begins with a touch. -/
def eventCalls (state : State) : Event → List Call
  | .elapse _ => []
  | .discovery outcome => discoveryCalls settings state outcome
  | .readLuns => [.touch]
  | .checkStale =>
      match state.monitor with
      | .read activeData => checkStaleCalls settings state activeData
      | _ => []
  | .queryMaps response => queryMapsCalls response
  | .queryConfig response =>
      match state.monitor with
      | .parsed activeData maps => evaluateCalls settings state activeData maps response
      | _ => []

variable {settings} {state next : State}

theorem failure_calls_tracker (message : String) :
    (failureCalls settings state message).foldl mutate state.tracker =
      (afterFailure settings state message).tracker := by
  unfold failureCalls afterFailure
  cases addWord settings.overflow state.discoveryFailures 1 with
  | none => rfl
  | some consecutiveFailures =>
      dsimp only
      split_ifs with retried
      · cases backoffSeconds settings consecutiveFailures <;> rfl
      · rfl

theorem discovery_calls_tracker (outcome : Discovery) :
    (discoveryCalls settings state outcome).foldl mutate state.tracker =
      (finishDiscovery settings state outcome).tracker := by
  cases outcome with
  | found mpaths => rfl
  | failed error => exact failure_calls_tracker _
  | panicked message => exact failure_calls_tracker _
  | cancelled => exact failure_calls_tracker _

theorem check_stale_calls_tracker (activeData : ActiveLunsWithTimestamp) :
    (checkStaleCalls settings state activeData).foldl mutate state.tracker =
      (checkStale settings state activeData).tracker := by
  rw [checkStaleCalls, checkStale]
  rcases activeData.isStale settings.discoveryInterval state.now with _ | _ | _
  all_goals rfl

theorem query_maps_calls_tracker (activeData : ActiveLunsWithTimestamp)
    (response : Except String String) :
    (queryMapsCalls response).foldl mutate state.tracker =
      (queryMaps settings state activeData response).tracker := by
  cases response with
  | error e => rfl
  | ok reply =>
      rw [queryMaps]
      dsimp only
      cases parseMultipathdResponse settings.fromStr settings.maxResponseSize reply <;> rfl

theorem check_config_calls_tracker (activeData : ActiveLunsWithTimestamp)
    (maps : List MultipathMap) (response : Except String String) :
    (checkConfigCalls settings activeData maps response).map
        (fun calls => calls.foldl mutate state.tracker) =
      checkConfig settings state activeData maps response := by
  cases response with
  | error e => rfl
  | ok reply =>
      rw [checkConfigCalls, checkConfig, checkConfigResponse, warningsIssue]
      cases mulWord settings.overflow settings.maxFailures settings.pollInterval with
      | none => rfl
      | some fencingTimeSec =>
          simp only [Option.bind_eq_bind, Option.bind_some, checkMapsConfig]
          cases collectWarnings settings.overflow settings.regexNew (parseMultipathConfig reply)
            fencingTimeSec (configMonitoredMaps maps activeData.luns) with
          | none => rfl
          | some warnings =>
              simp only [Option.bind_some, Option.map_some]
              split_ifs <;> rfl

theorem evaluate_poll_calls_tracker (activeData : ActiveLunsWithTimestamp)
    (maps : List MultipathMap) (response : Except String String) :
    (evaluateCalls settings state activeData maps response).foldl mutate state.tracker =
      (evaluate settings state activeData maps response).tracker := by
  rw [evaluateCalls, evaluate, ← check_config_calls_tracker]
  cases checkConfigCalls settings activeData maps response with
  | none => rfl
  | some calls =>
      dsimp only [Option.map_some]
      rw [List.foldl_append, update_calls_tracker]

/-- The map after an event is what its calls leave. -/
theorem event_calls_tracker {event : Event} (stepped : step settings state event = some next) :
    (eventCalls settings state event).foldl mutate state.tracker = next.tracker := by
  rcases step_cases stepped with ⟨nanos, rfl, rfl⟩ | ⟨outcome, rfl, rfl⟩ | ⟨rfl, rfl⟩ |
    ⟨activeData, rfl, place, rfl⟩ | ⟨activeData, response, rfl, place, rfl⟩ |
    ⟨activeData, maps, response, rfl, place, rfl⟩
  · rfl
  · exact discovery_calls_tracker outcome
  · rfl
  · simp only [eventCalls, place]
    exact check_stale_calls_tracker activeData
  · exact query_maps_calls_tracker activeData response
  · simp only [eventCalls, place]
    exact evaluate_poll_calls_tracker activeData maps response

end Loops

section Kinds

def Warns : Call → Prop
  | .setIssue _ level _ => level ≠ .ok
  | _ => True

theorem path_calls_missing (name : String) (paths : List MpathPath) :
    ∀ call ∈ pathCalls name paths, call = missingDmStCall name := by
  induction paths with
  | nil => simp [pathCalls]
  | cons path rest ih =>
      rw [pathCalls]
      split
      · split_ifs
        · simp
        · exact ih
      · exact List.forall_mem_singleton.mpr rfl

theorem pg_calls_missing (name : String) (group : PathGroup) :
    ∀ call ∈ pgCalls name group, call = missingDmStCall name := by
  rw [pgCalls]
  split
  · simp
  · exact List.forall_mem_singleton.mpr rfl

theorem group_calls_missing (name : String) (pgs : List PathGroup) :
    ∀ call ∈ groupCalls name pgs, call = missingDmStCall name := by
  induction pgs with
  | nil => simp [groupCalls]
  | cons group rest ih =>
      rw [groupCalls, List.forall_mem_append]
      refine ⟨pg_calls_missing name group, ?_⟩
      split_ifs
      · split
        · exact ih
        · rw [List.forall_mem_append]
          refine ⟨path_calls_missing name _, ?_⟩
          split_ifs
          · simp
          · exact ih
      · exact ih

theorem is_map_dead_calls_kind (map : MultipathMap) :
    ∀ call ∈ isMapDeadCalls map, FencerCall call ∧ Warns call := by
  intro call member
  rw [isMapDeadCalls] at member
  split at member
  · rw [List.mem_singleton.mp member]
    exact ⟨FencerCall.missingPathGroups _ _, by simp [Warns]⟩
  · rw [group_calls_missing map.name _ call member]
    exact ⟨FencerCall.missingDmSt _ _, by simp [Warns, missingDmStCall]⟩

theorem judge_calls_kind (fencer : Fencer) (monitored : List MultipathMap)
    (mapDeadStates : HashMap String Bool) (activeLuns : Finset String) :
    ∀ call ∈ judgeCalls fencer monitored mapDeadStates activeLuns,
      FencerCall call ∧ Warns call := by
  rw [judgeCalls]
  dsimp only
  split_ifs
  · simp
  · exact List.forall_mem_singleton.mpr ⟨FencerCall.fencing _ _, by simp [Warns]⟩
  · exact List.forall_mem_singleton.mpr ⟨FencerCall.fencing _ _, by simp [Warns]⟩
  · exact List.forall_mem_singleton.mpr ⟨FencerCall.averted, trivial⟩

theorem update_calls_kind (fencer : Fencer) (tracker : StatusTracker) (maps : List MultipathMap)
    (activeLuns : Finset String) :
    ∀ call ∈ updateCalls fencer tracker maps activeLuns, FencerCall call ∧ Warns call := by
  rw [updateCalls, List.forall_mem_cons, List.forall_mem_append]
  refine ⟨⟨FencerCall.forgetMissing, trivial⟩, ?_, judge_calls_kind _ _ _ _⟩
  intro call member
  obtain ⟨map, -, made⟩ := List.mem_flatMap.mp member
  exact is_map_dead_calls_kind map call made

variable {settings : Settings} {state : State}

theorem failure_calls_kind (outcome : Discovery) (message : String) :
    ∀ call ∈ failureCalls settings state message,
      DaemonCall (.discovery outcome) call ∧ Warns call := by
  have failed (message : String) : DaemonCall (.discovery outcome)
      (.setIssue "discovery_failure" .warning message) ∧
        Warns (.setIssue "discovery_failure" .warning message) :=
    ⟨DaemonCall.discoveryFailed _ _, by simp [Warns]⟩
  have waits (message : String) : DaemonCall (.discovery outcome)
      (.setIssue "discovery_backoff" .warning message) ∧
        Warns (.setIssue "discovery_backoff" .warning message) :=
    ⟨DaemonCall.backingOff _ _, by simp [Warns]⟩
  unfold failureCalls
  cases addWord settings.overflow state.discoveryFailures 1 with
  | none => simp
  | some consecutiveFailures =>
      dsimp only
      rw [List.forall_mem_cons]
      refine ⟨failed message, ?_⟩
      split_ifs
      · cases backoffSeconds settings consecutiveFailures with
        | none => simp
        | some seconds => exact List.forall_mem_singleton.mpr (waits _)
      · simp

theorem warnings_issue_level {activeData : ActiveLunsWithTimestamp} {maps : List MultipathMap}
    {reply : String} {issue : StatusLevel × String}
    (warned : warningsIssue settings activeData maps reply = some (some issue)) :
    issue.1 = .warning := by
  rw [warningsIssue, Option.bind_eq_bind, Option.bind_eq_some_iff] at warned
  obtain ⟨fencingTimeSec, -, rest⟩ := warned
  rw [Option.bind_eq_bind, Option.bind_eq_some_iff] at rest
  obtain ⟨warnings, -, last⟩ := rest
  split_ifs at last
  · cases last
  · rw [← Option.some.inj (Option.some.inj last)]

theorem check_config_calls_kind {activeData : ActiveLunsWithTimestamp}
    {maps : List MultipathMap} {response : Except String String} {calls : List Call}
    (made : checkConfigCalls settings activeData maps response = some calls) :
    ∀ call ∈ calls, ConfigCall call ∧ Warns call := by
  cases response with
  | error e =>
      rw [← Option.some.inj made]
      exact List.forall_mem_singleton.mpr ⟨ConfigCall.queryFailed _, by simp [Warns]⟩
  | ok reply =>
      obtain ⟨issue, warned, rfl⟩ := Option.map_eq_some_iff.mp made
      rw [List.forall_mem_cons, List.forall_mem_singleton]
      refine ⟨⟨ConfigCall.queried, trivial⟩, ?_⟩
      cases issue with
      | none => exact ⟨ConfigCall.recommended, trivial⟩
      | some issue =>
          obtain ⟨level, message⟩ := issue
          obtain rfl : level = .warning := warnings_issue_level warned
          exact ⟨ConfigCall.warned _, by simp [configWarningsCall, Warns]⟩

theorem check_stale_calls_kind (activeData : ActiveLunsWithTimestamp) :
    ∀ call ∈ checkStaleCalls settings state activeData, DaemonCall .checkStale call ∧
      Warns call := by
  rw [checkStaleCalls]
  split
  · simp
  · exact List.forall_mem_singleton.mpr ⟨DaemonCall.stale _, by simp [Warns]⟩
  · exact List.forall_mem_singleton.mpr ⟨DaemonCall.notStale, trivial⟩

theorem evaluate_calls_kind (activeData : ActiveLunsWithTimestamp) (maps : List MultipathMap)
    (response : Except String String) :
    ∀ call ∈ evaluateCalls settings state activeData maps response,
      DaemonCall (.queryConfig response) call ∧ Warns call := by
  rw [evaluateCalls]
  cases made : checkConfigCalls settings activeData maps response with
  | none =>
      exact List.forall_mem_singleton.mpr
        ⟨DaemonCall.config _ _ ConfigCall.queried, trivial⟩
  | some calls =>
      rw [List.forall_mem_append]
      constructor
      · intro call member
        have kind := check_config_calls_kind made call member
        exact ⟨DaemonCall.config _ _ kind.1, kind.2⟩
      · intro call member
        have kind := update_calls_kind _ _ maps activeData.luns call member
        exact ⟨DaemonCall.fencer _ _ kind.1, kind.2⟩

theorem event_calls_kind (event : Event) : ∀ call ∈ eventCalls settings state event,
    (DaemonCall event call ∨ call = .touch) ∧ Warns call := by
  have plain {calls : List Call} (kinds : ∀ call ∈ calls, DaemonCall event call ∧ Warns call) :
      ∀ call ∈ calls, (DaemonCall event call ∨ call = .touch) ∧ Warns call :=
    fun call member => ⟨Or.inl (kinds call member).1, (kinds call member).2⟩
  cases event with
  | elapse nanos => simp [eventCalls]
  | discovery outcome =>
      apply plain
      cases outcome with
      | found mpaths =>
          rw [eventCalls, discoveryCalls, List.forall_mem_cons, List.forall_mem_singleton]
          exact ⟨⟨DaemonCall.discovered _, trivial⟩, DaemonCall.backedOff _, trivial⟩
      | failed error => exact failure_calls_kind _ _
      | panicked message => exact failure_calls_kind _ _
      | cancelled => exact failure_calls_kind _ _
  | readLuns => exact List.forall_mem_singleton.mpr ⟨Or.inr rfl, trivial⟩
  | checkStale =>
      apply plain
      simp only [eventCalls]
      split
      · exact check_stale_calls_kind _
      · simp
  | queryMaps response =>
      apply plain
      cases response with
      | error e =>
          exact List.forall_mem_singleton.mpr ⟨DaemonCall.queryFailed _ _, by simp [Warns]⟩
      | ok reply => exact List.forall_mem_singleton.mpr ⟨DaemonCall.queried _, trivial⟩
  | queryConfig response =>
      apply plain
      simp only [eventCalls]
      split
      · exact evaluate_calls_kind _ _ response
      · simp

theorem recorded_of_calls {calls : List Call} {tracker : StatusTracker} {key : String}
    {issue : StatusLevel × String} (found : (calls.foldl mutate tracker).issue key = some issue) :
    tracker.issue key = some issue ∨ .setIssue key issue.1 issue.2 ∈ calls := by
  induction calls generalizing tracker with
  | nil => exact Or.inl found
  | cons call rest ih =>
      cases ih found with
      | inr later => exact Or.inr (List.mem_cons_of_mem call later)
      | inl here =>
          cases mutate_recorded here with
          | inl before => exact Or.inl before
          | inr made => exact Or.inr (made ▸ List.mem_cons_self)

theorem step_warns {next : State} {event : Event} (stepped : step settings state event = some next)
    {key : String} {issue : StatusLevel × String} (found : next.tracker.issue key = some issue) :
    state.tracker.issue key = some issue ∨ issue.1 ≠ .ok := by
  rw [← event_calls_tracker stepped] at found
  apply (recorded_of_calls found).imp_right
  exact fun made => (event_calls_kind event _ made).2

end Kinds

section Unread

/-- Two states with the same loops and decisions. Their maps may differ, and
so may the maps in the record of the polls. -/
def Alike (state other : State) : Prop :=
  ∃ tracker evaluated, other = { state with tracker := tracker, evaluated := evaluated } ∧
    evaluated.map Evaluated.fence = state.evaluated.map Evaluated.fence

variable {settings : Settings} {state other : State}

theorem evaluate_maps_alike (fencer : Fencer) (tracker tracker' : StatusTracker)
    (monitored : List MultipathMap) :
    (evaluateMaps fencer tracker monitored).fencer =
        (evaluateMaps fencer tracker' monitored).fencer ∧
      (evaluateMaps fencer tracker monitored).mapDeadStates =
        (evaluateMaps fencer tracker' monitored).mapDeadStates := by
  induction monitored using List.reverseRecOn with
  | nil => exact ⟨rfl, rfl⟩
  | append_singleton monitored map ih =>
      have verdict : (isMapDead map (evaluateMaps fencer tracker monitored).tracker).1 =
          (isMapDead map (evaluateMaps fencer tracker' monitored).tracker).1 := by
        rw [Bool.eq_iff_iff, is_map_dead_iff, is_map_dead_iff]
      simp only [evaluate_maps_snoc, evaluateMap, verdict, ih.1, ih.2, and_self]

theorem update_alike (fencer : Fencer) (tracker tracker' : StatusTracker)
    (maps : List MultipathMap) (activeLuns : Finset String) :
    updateCalls fencer tracker maps activeLuns = updateCalls fencer tracker' maps activeLuns ∧
      (updateWithMaps fencer tracker maps activeLuns).fencer =
        (updateWithMaps fencer tracker' maps activeLuns).fencer ∧
      (updateWithMaps fencer tracker maps activeLuns).fence =
        (updateWithMaps fencer tracker' maps activeLuns).fence := by
  have same := evaluate_maps_alike fencer (tracker.clearIssuesWithPrefix "missing_dm_st_")
    (tracker'.clearIssuesWithPrefix "missing_dm_st_")
    (monitoredMaps fencer.targetWwids maps activeLuns)
  refine ⟨?_, ?_, ?_⟩
  · simp only [updateCalls, same.1, same.2]
  · simp only [updateWithMaps, judgeCycle, same.1, same.2]
    split_ifs <;> rfl
  · simp only [updateWithMaps, judgeCycle, same.1, same.2]
    split_ifs <;> rfl

theorem after_failure_alike (alike : Alike state other) (message : String) :
    Alike (afterFailure settings state message) (afterFailure settings other message) ∧
      failureCalls settings state message = failureCalls settings other message := by
  obtain ⟨tracker, evaluated, rfl, fences⟩ := alike
  refine ⟨?_, rfl⟩
  unfold afterFailure
  cases addWord settings.overflow state.discoveryFailures 1 with
  | none => exact ⟨_, _, rfl, fences⟩
  | some consecutiveFailures =>
      dsimp only
      split_ifs
      · cases backoffSeconds settings consecutiveFailures <;> exact ⟨_, _, rfl, fences⟩
      · exact ⟨_, _, rfl, fences⟩

theorem finish_discovery_alike (alike : Alike state other) (outcome : Discovery) :
    Alike (finishDiscovery settings state outcome) (finishDiscovery settings other outcome) ∧
      discoveryCalls settings state outcome = discoveryCalls settings other outcome := by
  cases outcome with
  | found mpaths =>
      obtain ⟨tracker, evaluated, rfl, fences⟩ := alike
      exact ⟨⟨_, _, rfl, fences⟩, rfl⟩
  | failed error => exact after_failure_alike alike _
  | panicked message => exact after_failure_alike alike _
  | cancelled => exact after_failure_alike alike _

theorem check_stale_alike (alike : Alike state other) (activeData : ActiveLunsWithTimestamp) :
    Alike (checkStale settings state activeData) (checkStale settings other activeData) := by
  obtain ⟨tracker, evaluated, rfl, fences⟩ := alike
  rw [checkStale, checkStale]
  rcases activeData.isStale settings.discoveryInterval state.now with _ | _ | _
  all_goals exact ⟨_, _, rfl, fences⟩

theorem query_maps_alike (alike : Alike state other) (activeData : ActiveLunsWithTimestamp)
    (response : Except String String) :
    Alike (queryMaps settings state activeData response)
      (queryMaps settings other activeData response) := by
  obtain ⟨tracker, evaluated, rfl, fences⟩ := alike
  cases response with
  | error e => exact ⟨_, _, rfl, fences⟩
  | ok reply =>
      rw [queryMaps, queryMaps]
      cases parseMultipathdResponse settings.fromStr settings.maxResponseSize reply
      all_goals exact ⟨_, _, rfl, fences⟩

theorem evaluate_alike (alike : Alike state other) (activeData : ActiveLunsWithTimestamp)
    (maps : List MultipathMap) (response : Except String String) :
    Alike (evaluate settings state activeData maps response)
        (evaluate settings other activeData maps response) ∧
      evaluateCalls settings state activeData maps response =
        evaluateCalls settings other activeData maps response := by
  obtain ⟨tracker, evaluated, rfl, fences⟩ := alike
  rw [evaluate, evaluate, evaluateCalls, evaluateCalls, ← check_config_calls_tracker,
    ← check_config_calls_tracker]
  cases checkConfigCalls settings activeData maps response with
  | none => exact ⟨⟨_, _, rfl, fences⟩, rfl⟩
  | some calls =>
      have same := update_alike state.fencer (calls.foldl mutate state.tracker)
        (calls.foldl mutate tracker) maps activeData.luns
      dsimp only [Option.map_some]
      rw [same.1, same.2.1]
      refine ⟨⟨_, _, rfl, ?_⟩, rfl⟩
      rw [List.map_append, List.map_append, fences, List.map_singleton, List.map_singleton,
        same.2.2]

theorem step_alike (alike : Alike state other) {event : Event} {next : State}
    (stepped : step settings state event = some next) :
    (∃ next', step settings other event = some next' ∧ Alike next next') ∧
      eventCalls settings state event = eventCalls settings other event := by
  cases event with
  | elapse nanos =>
      obtain ⟨tracker, evaluated, rfl, fences⟩ := alike
      obtain rfl := Option.some.inj stepped
      exact ⟨⟨_, rfl, _, _, rfl, fences⟩, rfl⟩
  | discovery outcome =>
      have finished := @finish_discovery_alike settings state other alike outcome
      obtain ⟨tracker, evaluated, rfl, fences⟩ := alike
      obtain ⟨alive, rfl⟩ := discovery_step stepped
      exact ⟨⟨_, if_pos alive, finished.1⟩, finished.2⟩
  | readLuns =>
      obtain ⟨tracker, evaluated, rfl, fences⟩ := alike
      cases place : state.monitor <;> simp only [step, place] at stepped ⊢
      all_goals cases stepped
      exact ⟨⟨_, rfl, _, _, rfl, fences⟩, rfl⟩
  | checkStale =>
      obtain ⟨tracker, evaluated, rfl, fences⟩ := alike
      cases place : state.monitor <;> simp only [step, eventCalls, place] at stepped ⊢
      all_goals cases stepped
      exact ⟨⟨_, rfl, check_stale_alike ⟨_, _, rfl, fences⟩ _⟩, rfl⟩
  | queryMaps response =>
      obtain ⟨tracker, evaluated, rfl, fences⟩ := alike
      cases place : state.monitor <;> simp only [step, place] at stepped ⊢
      all_goals cases stepped
      exact ⟨⟨_, rfl, query_maps_alike ⟨_, _, rfl, fences⟩ _ response⟩, rfl⟩
  | queryConfig response =>
      have evaluates := @evaluate_alike settings state other alike
      obtain ⟨tracker, evaluated, rfl, fences⟩ := alike
      cases place : state.monitor <;> simp only [step, eventCalls, place] at stepped ⊢
      all_goals cases stepped
      exact ⟨⟨_, rfl, (evaluates _ _ response).1⟩, (evaluates _ _ response).2⟩

end Unread

end PveSanFenced.DaemonCalls
