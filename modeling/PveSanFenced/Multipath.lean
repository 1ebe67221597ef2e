import PveSanFenced.Status
import Mathlib.Tactic.Tauto

/-!
# multipathd's answer and the death of one map

The records of `show maps json` as the daemon deserializes them, the size and
parse gate in front of them, and `is_map_dead`. The source records a status
issue at every omitted field it meets, so the traversal threads the tracker;
its verdict does not depend on it.
-/

namespace PveSanFenced.Multipath

open PveSanFenced.Status

set_option autoImplicit false

structure MpathPath where
  dmSt : Option String
  deriving DecidableEq, Repr

structure PathGroup where
  dmSt : Option String
  paths : Option (List MpathPath)
  deriving DecidableEq, Repr

structure MultipathMap where
  name : String
  uuid : String
  pathGroups : Option (List PathGroup)
  vend : Option String
  prod : Option String
  deriving DecidableEq, Repr

structure MultipathOutput where
  majorVersion : Option UInt32
  minorVersion : Option UInt32
  maps : Option (List MultipathMap)
  deriving DecidableEq, Repr

/-- The limit when `PVE_SAN_MAX_RESPONSE_SIZE` is unset or no number. -/
def defaultMaxResponseSize : ℕ := 100 * 1024 * 1024

/-- `parse_multipathd_response`. `fromStr` is `serde_json::from_str` at this
record type, `maxSize` the value read from the environment. The version fields
are only logged. -/
def parseMultipathdResponse (fromStr : String → Option MultipathOutput)
    (maxSize : Option ℕ) (responseJson : String) : Option (List MultipathMap) :=
  if maxSize.getD defaultMaxResponseSize < responseJson.utf8ByteSize then none
  else match fromStr responseJson with
    | some out => some (out.maps.getD [])
    | none => none

def missingPathGroupsKey (name : String) : String := "missing_path_groups_" ++ name

def missingDmStKey (name : String) : String := "missing_dm_st_" ++ name

def setMissingDmSt (tracker : StatusTracker) (name : String) : StatusTracker :=
  tracker.setIssue (missingDmStKey name) .warning ("dm_st is missing for map '" ++ name ++ "'")

/-- The loop over the paths of one group: whether an active path was found. -/
def activePathFound (name : String) :
    List MpathPath → StatusTracker → Bool × StatusTracker
  | [], tracker => (false, tracker)
  | path :: rest, tracker =>
      match path.dmSt with
      | some dmSt =>
          if dmSt ≠ "failed" ∧ dmSt ≠ "faulty" ∧ dmSt ≠ "ghost" then (true, tracker)
          else activePathFound name rest tracker
      | none => (true, setMissingDmSt tracker name)

/-- The group's own verdict, before its paths are looked at. -/
def pgAlive (name : String) (group : PathGroup) (tracker : StatusTracker) :
    Bool × StatusTracker :=
  match group.dmSt with
  | some st => (st ≠ "offline" ∧ st ≠ "failed", tracker)
  | none => (true, setMissingDmSt tracker name)

/-- The loop over the path groups: `true` when no group held an active path. -/
def noGroupActive (name : String) :
    List PathGroup → StatusTracker → Bool × StatusTracker
  | [], tracker => (true, tracker)
  | group :: rest, tracker =>
      let (alive, tracker) := pgAlive name group tracker
      if !alive then noGroupActive name rest tracker
      else match group.paths with
        | none => noGroupActive name rest tracker
        | some paths =>
            let (active, tracker) := activePathFound name paths tracker
            if active then (false, tracker) else noGroupActive name rest tracker

def isMapDead (map : MultipathMap) (tracker : StatusTracker) : Bool × StatusTracker :=
  match map.pathGroups with
  | none =>
      (false, tracker.setIssue (missingPathGroupsKey map.name) .warning
        ("path_groups is missing for map '" ++ map.name ++ "'"))
  | some pgs => noGroupActive map.name pgs tracker

def pathFailed (path : MpathPath) : Prop :=
  path.dmSt = some "failed" ∨ path.dmSt = some "faulty" ∨ path.dmSt = some "ghost"

/-- A group holds no active path. A missing path list counts as empty, a
missing `dm_st` as alive. -/
def groupDead (group : PathGroup) : Prop :=
  group.dmSt = some "offline" ∨ group.dmSt = some "failed" ∨
    ∀ paths, group.paths = some paths → ∀ path ∈ paths, pathFailed path

/-- The map lists its path groups and none of them holds an active path. -/
def mapDead (map : MultipathMap) : Prop :=
  ∃ pgs, map.pathGroups = some pgs ∧ ∀ group ∈ pgs, groupDead group

theorem active_path_found_iff (name : String) (paths : List MpathPath)
    (tracker : StatusTracker) :
    (activePathFound name paths tracker).1 = false ↔ ∀ path ∈ paths, pathFailed path := by
  induction paths with
  | nil => simp [activePathFound]
  | cons path paths ih =>
      rcases path with ⟨_ | dmSt⟩
      · simp [activePathFound, pathFailed]
      · simp only [activePathFound, List.forall_mem_cons]
        by_cases active : dmSt ≠ "failed" ∧ dmSt ≠ "faulty" ∧ dmSt ≠ "ghost"
        · rw [if_pos active]
          simp [pathFailed, active]
        · rw [if_neg active, ih]
          have failed : pathFailed ⟨some dmSt⟩ := by
            simp only [pathFailed, Option.some.injEq]
            tauto
          simp [failed]

theorem pg_alive_iff (name : String) (group : PathGroup) (tracker : StatusTracker) :
    (pgAlive name group tracker).1 = false ↔
      group.dmSt = some "offline" ∨ group.dmSt = some "failed" := by
  rcases group with ⟨_ | st, paths⟩
  · simp [pgAlive]
  · simp only [pgAlive, decide_eq_false_iff_not, Option.some.injEq]
    tauto

theorem no_group_active_iff (name : String) (pgs : List PathGroup) (tracker : StatusTracker) :
    (noGroupActive name pgs tracker).1 = true ↔ ∀ group ∈ pgs, groupDead group := by
  induction pgs generalizing tracker with
  | nil => simp [noGroupActive]
  | cons group pgs ih =>
      rw [List.forall_mem_cons]
      have verdict := pg_alive_iff name group tracker
      simp only [noGroupActive]
      rcases gate : pgAlive name group tracker with ⟨_ | _, reported⟩ <;> rw [gate] at verdict
      · have down := verdict.mp rfl
        have dead : groupDead group := by
          rcases down with offline | failed
          · exact Or.inl offline
          · exact Or.inr (Or.inl failed)
        simp [ih, dead]
      · have up : ¬(group.dmSt = some "offline" ∨ group.dmSt = some "failed") :=
          fun down => by simpa using verdict.mpr down
        rcases listed : group.paths with _ | paths
        · have dead : groupDead group := Or.inr (Or.inr fun paths some => by simp [listed] at some)
          simp [ih, dead]
        · have dead : groupDead group ↔ (activePathFound name paths reported).1 = false := by
            rw [active_path_found_iff]
            simp only [not_or] at up
            simp [groupDead, up, listed]
          rcases found : activePathFound name paths reported with ⟨_ | _, after⟩
          · rw [found] at dead
            simp [found, dead, ih]
          · rw [found] at dead
            simp [found, dead]

theorem is_map_dead_iff (map : MultipathMap) (tracker : StatusTracker) :
    (isMapDead map tracker).1 = true ↔ mapDead map := by
  rcases listed : map.pathGroups with _ | pgs
  · simp [isMapDead, mapDead, listed]
  · simp [isMapDead, mapDead, listed, no_group_active_iff]

instance (map : MultipathMap) : Decidable (mapDead map) :=
  decidable_of_iff _ (is_map_dead_iff map StatusTracker.new)

section Order

/-- The group lists the same paths, in some order. -/
def SamePaths (group group' : PathGroup) : Prop :=
  group.dmSt = group'.dmSt ∧ Option.Rel List.Perm group.paths group'.paths

/-- The map lists the same groups with the same paths, in some order. -/
def Rearranged (map map' : MultipathMap) : Prop :=
  Option.Rel (fun pgs pgs' => ∃ permuted, pgs.Perm permuted ∧
    List.Forall₂ SamePaths permuted pgs') map.pathGroups map'.pathGroups

theorem same_paths_dead {group group' : PathGroup} (same : SamePaths group group') :
    groupDead group ↔ groupDead group' := by
  rcases group with ⟨st, paths⟩
  rcases group' with ⟨st', paths'⟩
  obtain ⟨sameState, samePaths⟩ := same
  dsimp only at sameState samePaths
  subst sameState
  cases samePaths with
  | none => rfl
  | some permuted => simp [groupDead, permuted.mem_iff]

theorem same_paths_groups_dead {pgs pgs' : List PathGroup}
    (pairs : List.Forall₂ SamePaths pgs pgs') :
    (∀ group ∈ pgs, groupDead group) ↔ ∀ group ∈ pgs', groupDead group := by
  induction pairs with
  | nil => rfl
  | cons group pairs ih => simp only [List.forall_mem_cons, same_paths_dead group, ih]

theorem rearranged_dead {map map' : MultipathMap} (rearranged : Rearranged map map') :
    mapDead map ↔ mapDead map' := by
  unfold Rearranged at rearranged
  generalize listed : map.pathGroups = groups at rearranged
  generalize listed' : map'.pathGroups = groups' at rearranged
  cases rearranged with
  | none => simp [mapDead, listed, listed']
  | some same =>
      obtain ⟨permuted, perm, pairs⟩ := same
      simp only [mapDead, listed, listed', Option.some.injEq, exists_eq_left', perm.mem_iff]
      exact same_paths_groups_dead pairs

/-- The verdict is the specification's, for every map, and no rearrangement of
groups or paths changes it. -/
theorem is_map_dead_specified (map : MultipathMap) (tracker : StatusTracker) :
    ((isMapDead map tracker).1 = true ↔
        ∃ pgs, map.pathGroups = some pgs ∧ ∀ group ∈ pgs,
          (group.dmSt = some "offline" ∨ group.dmSt = some "failed") ∨
          group.paths = none ∨
          ∃ paths, group.paths = some paths ∧ ∀ path ∈ paths,
            ∃ st ∈ ["failed", "faulty", "ghost"], path.dmSt = some st) ∧
      ∀ map' tracker', Rearranged map map' →
        (isMapDead map' tracker').1 = (isMapDead map tracker).1 := by
  constructor
  · rw [is_map_dead_iff, mapDead]
    have spelled : ∀ group : PathGroup, groupDead group ↔
        (group.dmSt = some "offline" ∨ group.dmSt = some "failed") ∨ group.paths = none ∨
          ∃ paths, group.paths = some paths ∧ ∀ path ∈ paths,
            ∃ st ∈ ["failed", "faulty", "ghost"], path.dmSt = some st := by
      rintro ⟨st, _ | paths⟩
      · simp [groupDead]
      · simp [groupDead, pathFailed, or_assoc]
    simp only [spelled]
  · intro map' tracker' rearranged
    rw [Bool.eq_iff_iff, is_map_dead_iff, is_map_dead_iff]
    exact (rearranged_dead rearranged).symm

theorem is_map_dead_specified_exchanged :
    (isMapDead ⟨"mpatha", "3600", some [⟨some "enabled", some [⟨some "ghost"⟩]⟩,
        ⟨some "active", some [⟨some "faulty"⟩, ⟨some "failed"⟩]⟩], none, none⟩
        StatusTracker.new).1 =
      (isMapDead ⟨"mpatha", "3600", some [⟨some "active", some [⟨some "failed"⟩,
        ⟨some "faulty"⟩]⟩, ⟨some "enabled", some [⟨some "ghost"⟩]⟩], none, none⟩
        StatusTracker.new).1 := by
  apply (is_map_dead_specified _ _).2
  refine Option.Rel.some ⟨_, List.Perm.swap _ _ [], ?_⟩
  exact List.Forall₂.cons ⟨rfl, Option.Rel.some (List.Perm.refl _)⟩
    (List.Forall₂.cons ⟨rfl, Option.Rel.some (List.Perm.swap _ _ [])⟩ List.Forall₂.nil)

end Order

end PveSanFenced.Multipath
