import PveSanFenced.DaemonCalls
import PveSanFenced.Discovery

/-!
# The debug mode

With `--debug` discovery asks multipathd for its maps too, and logs for every
multipath device in use whether its map is dead. The question has an effect:
`is_map_dead` records the fields that it misses, also for maps that no poll
monitors. A daemon in debug mode is set against one without it: the loops run
the same, decide the same and record the same, but for these warnings.
-/

namespace PveSanFenced.DebugMode

open PveSanFenced.Daemon
open PveSanFenced.DaemonCalls
open PveSanFenced.DaemonSafety
open PveSanFenced.DaemonStatus
open PveSanFenced.Discovery
open PveSanFenced.FencerIssues
open PveSanFenced.FencerModel
open PveSanFenced.Library.Collections
open PveSanFenced.Library.Runs
open PveSanFenced.Library.Text
open PveSanFenced.Multipath
open PveSanFenced.Pvesh
open PveSanFenced.Status
open PveSanFenced.StatusCalls
open PveSanFenced.StatusFile

set_option autoImplicit false

section Model

/-- A map is entered under its name and its uuid, in place of an earlier one. -/
def mapsByNameOrUuid (maps : List MultipathMap) : HashMap String MultipathMap :=
  maps.foldl (fun table map => (table.insert map.name map).insert map.uuid map) ∅

/-- The maps of the answer; here no limit on its size is checked. -/
def queriedMaps (fromStr : String → Option MultipathOutput) :
    Except String String → HashMap String MultipathMap
  | .error _ => ∅
  | .ok response => mapsByNameOrUuid (((fromStr response).bind MultipathOutput.maps).getD [])

def loggedMpaths (vms : List VmInfo) : List String :=
  (vms.filter (·.status = "running")).flatMap fun vm => vm.disks.flatMap fun disk =>
    (disk.deviceMapperName.map (splitStr " / ")).getD []

def deviceState (table : HashMap String MultipathMap) (mpath : String)
    (tracker : StatusTracker) : String × StatusTracker :=
  match table.lookup mpath with
  | some map =>
      let (dead, tracker) := isMapDead map tracker
      (if dead then "failed" else "active", tracker)
  | none => ("unknown", tracker)

def logDevices (table : HashMap String MultipathMap) (mpaths : List String)
    (tracker : StatusTracker) : StatusTracker :=
  mpaths.foldl (fun tracker mpath => (deviceState table mpath tracker).2) tracker

/-- `discover_in_use_mpaths` in debug mode. -/
def discoverLogging (host : PveHost) (fromStr : String → Option MultipathOutput)
    (response : Except String String) (node pveshCommand : String) (tracker : StatusTracker) :
    Except PveSanError (Finset String) × StatusTracker :=
  match withNodeAndPvesh node pveshCommand with
  | .error failed => (.error failed, tracker)
  | .ok client =>
      match getSanStorageInfo host client with
      | .error failed => (.error failed, tracker)
      | .ok storageInfo => (.ok (activeMpaths storageInfo.vms),
          logDevices (queriedMaps fromStr response) (loggedMpaths storageInfo.vms) tracker)

/-- What happens to a daemon in debug mode: also the log lines of a round of
discovery, between any of its other events. -/
inductive DebugEvent where
  | plain (event : Event)
  | logged (response : Except String String) (mpaths : List String)

def DebugEvent.event? : DebugEvent → Option Event
  | .plain event => some event
  | .logged _ _ => none

def stepDebug (settings : Settings) (state : State) : DebugEvent → Option State
  | .plain event => step settings state event
  | .logged response mpaths =>
      if state.discoveryAlive then
        some { state with
          tracker := logDevices (queriedMaps settings.fromStr response) mpaths state.tracker }
      else none

theorem discover_logging_result (host : PveHost) (fromStr : String → Option MultipathOutput)
    (response : Except String String) (node pveshCommand : String) (tracker : StatusTracker) :
    (discoverLogging host fromStr response node pveshCommand tracker).1 =
      discoverInUseMpaths host node pveshCommand := by
  rw [discoverLogging, discoverInUseMpaths]
  cases withNodeAndPvesh node pveshCommand with
  | error failed => rfl
  | ok client =>
      dsimp only [bind, Except.bind]
      cases getSanStorageInfo host client <;> rfl

end Model

section Lines

/-- A log line about a map that lacks a field leaves this warning. -/
inductive LackWarned (map : MultipathMap) : String → StatusLevel × String → Prop
  | pathGroups (missing : map.pathGroups = none) : LackWarned map (missingPathGroupsKey map.name)
      (.warning, "path_groups is missing for map '" ++ map.name ++ "'")
  | dmSt (missing : mapLacksDmSt map) : LackWarned map (missingDmStKey map.name)
      (.warning, "dm_st is missing for map '" ++ map.name ++ "'")

theorem is_map_dead_issue (map : MultipathMap) (tracker : StatusTracker) (key : String) :
    (isMapDead map tracker).2.issue key = tracker.issue key ∨
      ∃ issue, (isMapDead map tracker).2.issue key = some issue ∧ LackWarned map key issue := by
  have sets (own message : String)
      (warned : LackWarned map own (.warning, message)) :
      (tracker.setIssue own .warning message).issue key = tracker.issue key ∨
        ∃ issue, (tracker.setIssue own .warning message).issue key = some issue ∧
          LackWarned map key issue := by
    by_cases here : key = own
    · rw [here, StatusTracker.issue_set_issue]
      exact Or.inr ⟨_, rfl, warned⟩
    · exact Or.inl (StatusTracker.issue_set_issue_of_ne tracker _ _ here)
  cases is_map_dead_tracker map tracker with
  | inl noGroups =>
      rw [noGroups.2]
      exact sets _ _ (LackWarned.pathGroups noGroups.1)
  | inr groups =>
      cases groups.2 with
      | inl same => exact Or.inl (by rw [same])
      | inr set =>
          rw [set.1]
          exact sets _ _ (LackWarned.dmSt set.2)

theorem log_devices_issue (table : HashMap String MultipathMap) (mpaths : List String)
    (tracker : StatusTracker) (key : String) :
    (logDevices table mpaths tracker).issue key = tracker.issue key ∨
      ∃ mpath ∈ mpaths, ∃ map issue, table.lookup mpath = some map ∧
        (logDevices table mpaths tracker).issue key = some issue ∧ LackWarned map key issue := by
  induction mpaths using List.reverseRecOn with
  | nil => exact Or.inl rfl
  | append_singleton mpaths mpath ih =>
      have before : (logDevices table mpaths tracker).issue key = tracker.issue key ∨
          ∃ other ∈ mpaths ++ [mpath], ∃ map issue, table.lookup other = some map ∧
            (logDevices table mpaths tracker).issue key = some issue ∧
              LackWarned map key issue := by
        apply ih.imp_right
        intro warned
        obtain ⟨other, member, rest⟩ := warned
        exact ⟨other, List.mem_append_left [mpath] member, rest⟩
      have last : logDevices table (mpaths ++ [mpath]) tracker =
          (deviceState table mpath (logDevices table mpaths tracker)).2 := by
        rw [logDevices, List.foldl_append]
        rfl
      rw [last, deviceState]
      cases found : table.lookup mpath with
      | none => exact before
      | some map =>
          cases is_map_dead_issue map (logDevices table mpaths tracker) key with
          | inl same =>
              dsimp only
              rw [same]
              exact before
          | inr warned =>
              obtain ⟨issue, shown, lack⟩ := warned
              exact Or.inr ⟨mpath, by simp, map, issue, found, shown, lack⟩

end Lines

section Runs

variable {settings : Settings} {tracker : StatusTracker}

def LineWarned (settings : Settings) (events : List DebugEvent) (key : String)
    (issue : StatusLevel × String) : Prop :=
  ∃ response mpaths mpath map, .logged response mpaths ∈ events ∧ mpath ∈ mpaths ∧
    (queriedMaps settings.fromStr response).lookup mpath = some map ∧ LackWarned map key issue

structure Spared (settings : Settings) (events : List DebugEvent) (state other : State) : Prop where
  alike : Alike state other
  issues : ∀ key, state.tracker.issue key = other.tracker.issue key ∨
    ∃ issue, state.tracker.issue key = some issue ∧ LineWarned settings events key issue

theorem line_warned_snoc {events : List DebugEvent} {key : String} {issue : StatusLevel × String}
    (warned : LineWarned settings events key issue) (event : DebugEvent) :
    LineWarned settings (events ++ [event]) key issue := by
  obtain ⟨response, mpaths, mpath, map, member, rest⟩ := warned
  exact ⟨response, mpaths, mpath, map, List.mem_append_left [event] member, rest⟩

theorem spared_plain {events : List DebugEvent} {event : Event} {state other next : State}
    (spared : Spared settings events state other)
    (stepped : step settings state event = some next) :
    ∃ next', step settings other event = some next' ∧
      Spared settings (events ++ [.plain event]) next next' := by
  obtain ⟨⟨next', stepped', alike⟩, calls⟩ := step_alike spared.alike stepped
  refine ⟨next', stepped', alike, fun key => ?_⟩
  rw [← event_calls_tracker stepped, ← event_calls_tracker stepped', ← calls]
  cases calls_issue_cases (eventCalls settings state event) key with
  | inl given =>
      obtain ⟨issue, gives⟩ := given
      rw [gives, gives]
      exact Or.inl rfl
  | inr keeps =>
      rw [keeps, keeps]
      apply (spared.issues key).imp_right
      intro warned
      obtain ⟨issue, shown, line⟩ := warned
      exact ⟨issue, shown, line_warned_snoc line _⟩

theorem spared_logged {events : List DebugEvent} {state other : State}
    (spared : Spared settings events state other) (response : Except String String)
    (mpaths : List String) :
    Spared settings (events ++ [.logged response mpaths])
      { state with
        tracker := logDevices (queriedMaps settings.fromStr response) mpaths state.tracker }
      other := by
  obtain ⟨⟨map, evaluated, rfl, fences⟩, issues⟩ := spared
  refine ⟨⟨_, _, rfl, fences⟩, fun key => ?_⟩
  cases log_devices_issue (queriedMaps settings.fromStr response) mpaths state.tracker key with
  | inl same =>
      dsimp only
      rw [same]
      apply (issues key).imp_right
      intro warned
      obtain ⟨issue, shown, line⟩ := warned
      exact ⟨issue, shown, line_warned_snoc line _⟩
  | inr warned =>
      obtain ⟨mpath, member, found, issue, listed, shown, lack⟩ := warned
      exact Or.inr ⟨issue, shown, response, mpaths, mpath, found, by simp, member, listed, lack⟩

/-- With `--debug` a daemon runs, decides and records as it would without, in
every run; where its map differs, it holds the warning of a log line about a
map that lacks a field. -/
theorem debug_mode_spares {events : List DebugEvent} {state : State}
    (ran : events.foldlM (stepDebug settings) (startWith settings tracker) = some state) :
    ∃ other, runFrom settings tracker (events.filterMap DebugEvent.event?) = some other ∧
      Spared settings events state other := by
  apply events_invariant (fun events state =>
    ∃ other, runFrom settings tracker (events.filterMap DebugEvent.event?) = some other ∧
      Spared settings events state other) _ _ ran
  · exact ⟨startWith settings tracker, rfl, ⟨_, _, rfl, rfl⟩, fun key => Or.inl rfl⟩
  · intro events event before next held stepped
    obtain ⟨other, reached, spared⟩ := held
    cases event with
    | plain event =>
        obtain ⟨next', stepped', after⟩ := spared_plain spared stepped
        refine ⟨next', ?_, after⟩
        rw [runFrom] at reached
        rw [runFrom, List.filterMap_append, List.foldlM_append, reached]
        change step settings other event >>= _ = _
        rw [stepped']
        rfl
    | logged response mpaths =>
        obtain ⟨-, same⟩ := Option.ite_none_right_eq_some.mp stepped
        rw [← Option.some.inj same]
        refine ⟨other, ?_, spared_logged spared response mpaths⟩
        rw [List.filterMap_append]
        exact (congrArg _ (List.append_nil _)).trans reached

/-- The fencer has another target, and multipathd leaves the path groups out. -/
def untargeted : Settings :=
  { oneShot with
    targetWwids := {"36009"}
    fromStr := fun _ => some ⟨none, none, some [⟨"mpatha", "36001", none, none, none⟩]⟩ }

def loggedRound : List DebugEvent :=
  [.logged (.ok "") ["mpatha"], .plain (.discovery (.found {"mpatha"}))]

/-- The log line of a round warns of a map that no poll monitors. -/
theorem debug_mode_spares_untargeted : ∃ state,
    loggedRound.foldlM (stepDebug untargeted) (startWith untargeted StatusTracker.new) =
        some state ∧
      state.tracker.issue "missing_path_groups_mpatha" ≠ none ∧
      ∃ other, runFrom untargeted StatusTracker.new [.discovery (.found {"mpatha"})] =
          some other ∧ Spared untargeted loggedRound state other := by
  refine ⟨_, rfl, by decide, ?_⟩
  exact @debug_mode_spares untargeted StatusTracker.new loggedRound _ rfl

end Runs

end PveSanFenced.DebugMode
