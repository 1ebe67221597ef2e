import PveSanFenced.Multipath
import PveSanFenced.Library.Fixed

/-!
# The stateful fencer

`Fencer::update_with_maps` evaluates one answer of multipathd against the LUNs
in use. The source does it in one function; here each of its loops and
closures is a definition of its own, in the order the source runs them, and
`updateWithMaps` composes them. The tracker is threaded because the function
records issues in it; the fencer never reads it back.
-/

namespace PveSanFenced.FencerModel

open PveSanFenced.Library.Collections
open PveSanFenced.Library.Fixed
open PveSanFenced.Library.Text
open PveSanFenced.Multipath
open PveSanFenced.Status

set_option autoImplicit false

structure Fencer where
  consecutiveFailures : UInt64
  maxFailures : UInt64
  targetWwids : Finset String
  previousMapStates : HashMap String Bool
  hadWorkingPaths : Finset String
  permanentlyBrokenLuns : Finset String

def Fencer.new (maxFailures : UInt64) (targetWwids : Finset String) : Fencer where
  consecutiveFailures := 0
  maxFailures := maxFailures
  targetWwids := targetWwids
  previousMapStates := ∅
  hadWorkingPaths := ∅
  permanentlyBrokenLuns := ∅

/-- Whether one entry of the active set names a map: a key holding a `+` is a
list of members, any other key is one name or uuid. -/
def lunNames (lun : String) (map : MultipathMap) : Bool :=
  if containsChar lun '+' then
    let parts := splitChar '+' lun
    parts.elem map.name || parts.elem map.uuid
  else lun == map.name || lun == map.uuid

def isActive (activeLuns : Finset String) (map : MultipathMap) : Bool :=
  decide (∃ lun ∈ activeLuns, lunNames lun map = true)

def isTargeted (targetWwids : Finset String) (map : MultipathMap) : Bool :=
  if targetWwids = ∅ then true
  else decide (map.uuid ∈ targetWwids) || decide (map.name ∈ targetWwids)

def monitoredMaps (targetWwids : Finset String) (maps : List MultipathMap)
    (activeLuns : Finset String) : List MultipathMap :=
  maps.filter fun map => isActive activeLuns map && isTargeted targetWwids map

def totalPaths (map : MultipathMap) : ℕ :=
  match map.pathGroups with
  | some groups => (groups.map fun group => (group.paths.map List.length).getD 0).sum
  | none => 0

structure Evaluation where
  fencer : Fencer
  mapDeadStates : HashMap String Bool
  tracker : StatusTracker

def evaluateMap (evaluation : Evaluation) (map : MultipathMap) : Evaluation :=
  let fencer := evaluation.fencer
  let hadWorkingPaths :=
    if 0 < totalPaths map then insert map.name fencer.hadWorkingPaths
    else fencer.hadWorkingPaths
  let permanentlyBrokenLuns :=
    if 0 < totalPaths map then fencer.permanentlyBrokenLuns
    else if map.name ∈ fencer.hadWorkingPaths then insert map.name fencer.permanentlyBrokenLuns
    else fencer.permanentlyBrokenLuns
  let (dead, tracker) := isMapDead map evaluation.tracker
  let isDead := if map.name ∈ permanentlyBrokenLuns then true else dead
  { fencer := { fencer with
      hadWorkingPaths := hadWorkingPaths
      permanentlyBrokenLuns := permanentlyBrokenLuns
      previousMapStates := fencer.previousMapStates.insert map.name isDead }
    mapDeadStates := evaluation.mapDeadStates.insert map.name isDead
    tracker := tracker }

def evaluateMaps (fencer : Fencer) (tracker : StatusTracker)
    (monitored : List MultipathMap) : Evaluation :=
  monitored.foldl evaluateMap
    { fencer := fencer
      mapDeadStates := ∅
      tracker := tracker }

/-- The three `retain` calls: every set forgets the names that this answer
does not monitor. -/
def retainMonitored (monitored : List MultipathMap) (fencer : Fencer) : Fencer :=
  let monitoredNames := (monitored.map MultipathMap.name).toFinset
  { fencer with
    previousMapStates :=
      retain (fun name => decide (name ∈ monitoredNames)) fencer.previousMapStates
    hadWorkingPaths := fencer.hadWorkingPaths.filter (· ∈ monitoredNames)
    permanentlyBrokenLuns := fencer.permanentlyBrokenLuns.filter (· ∈ monitoredNames) }

/-- The state of the first monitored map answering to a name or uuid; a member
that no monitored map answers to counts as not failed. -/
def memberFailed (monitored : List MultipathMap) (mapDeadStates : HashMap String Bool)
    (part : String) : Bool :=
  ((monitored.find? fun map => map.name == part || map.uuid == part).bind
    fun map => mapDeadStates.lookup map.name).getD false

def groupFailed (monitored : List MultipathMap) (mapDeadStates : HashMap String Bool)
    (lun : String) : Bool :=
  if containsChar lun '+' then
    (splitChar '+' lun).any (memberFailed monitored mapDeadStates)
  else memberFailed monitored mapDeadStates lun

/-- The two flags of the loop over the active LUNs. Each is monotone in the
loop, so the iteration order of the hash set does not matter. -/
def fencingConditionMet (monitored : List MultipathMap) (mapDeadStates : HashMap String Bool)
    (activeLuns : Finset String) : Bool :=
  let hasFailedSpanned := decide (∃ lun ∈ activeLuns,
    containsChar lun '+' = true ∧ groupFailed monitored mapDeadStates lun = true)
  let allGroupsFailed := decide (∀ lun ∈ activeLuns,
    groupFailed monitored mapDeadStates lun = true)
  hasFailedSpanned || allGroupsFailed

def decisionMessage (monitored : List MultipathMap) (mapDeadStates : HashMap String Bool)
    (activeLuns targetWwids : Finset String) : String :=
  let deadMapNames := (monitored.filter fun map =>
    (mapDeadStates.lookup map.name).getD false).map
      fun map => map.name ++ " (" ++ map.uuid ++ ")"
  let targetMsg :=
    if targetWwids = ∅ then ""
    else " Target WWIDs: " ++ debugSet (sorted targetWwids) ++ "."
  "DECISION: Rebooting node because monitored multipath maps in use by running VMs have " ++
    "failed. Failed monitored maps: " ++ debugList deadMapNames ++ ". Active LUNs: " ++
    debugSet (sorted activeLuns) ++ "." ++ targetMsg

structure CycleResult where
  fencer : Fencer
  tracker : StatusTracker
  fence : Bool

/-- What follows the `retain` calls: the exit for an answer without monitored
maps, which leaves the `fencing` issue as it is, and the threshold. -/
def judgeCycle (fencer : Fencer) (tracker : StatusTracker) (monitored : List MultipathMap)
    (mapDeadStates : HashMap String Bool) (activeLuns : Finset String) : CycleResult :=
  if monitored.isEmpty then
    { fencer := { fencer with consecutiveFailures := 0 }
      tracker := tracker
      fence := false }
  else if fencingConditionMet monitored mapDeadStates activeLuns then
    let consecutiveFailures := saturatingAdd fencer.consecutiveFailures 1
    let fencer := { fencer with consecutiveFailures := consecutiveFailures }
    if fencer.maxFailures ≤ consecutiveFailures then
      { fencer := fencer
        tracker := tracker.setIssue "fencing" .critical ("Fencing decision reached: " ++
          decisionMessage monitored mapDeadStates activeLuns fencer.targetWwids)
        fence := true }
    else
      { fencer := fencer
        tracker := tracker.setIssue "fencing" .warning ("Consecutive storage failure: " ++
          toString consecutiveFailures ++ "/" ++ toString fencer.maxFailures)
        fence := false }
  else
    { fencer := { fencer with consecutiveFailures := 0 }
      tracker := tracker.clearIssue "fencing"
      fence := false }

def updateWithMaps (fencer : Fencer) (tracker : StatusTracker) (maps : List MultipathMap)
    (activeLuns : Finset String) : CycleResult :=
  let tracker := tracker.clearIssuesWithPrefix "missing_dm_st_"
  let monitored := monitoredMaps fencer.targetWwids maps activeLuns
  let evaluation := evaluateMaps fencer tracker monitored
  judgeCycle (retainMonitored monitored evaluation.fencer) evaluation.tracker monitored
    evaluation.mapDeadStates activeLuns

/-- `Fencer::update`: a rejected answer is no cycle at all. -/
def update (fromStr : String → Option MultipathOutput) (maxSize : Option ℕ) (fencer : Fencer)
    (tracker : StatusTracker) (responseJson : String) (activeLuns : Finset String) :
    CycleResult :=
  match parseMultipathdResponse fromStr maxSize responseJson with
  | some maps => updateWithMaps fencer tracker maps activeLuns
  | none => { fencer := fencer, tracker := tracker, fence := false }

end PveSanFenced.FencerModel
