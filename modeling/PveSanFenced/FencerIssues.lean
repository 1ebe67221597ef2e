import PveSanFenced.FencerHistory

/-!
# The status issues of the fencer

`update_with_maps` writes three kinds of issues to the tracker: the missing
fields of a map, which `is_map_dead` records while it looks for an active path,
and the `fencing` issue, which goes with the counter. The first two kinds have
one key per map name; no key of one kind is a key of another.
-/

namespace PveSanFenced.FencerIssues

open PveSanFenced.FencerCycle
open PveSanFenced.FencerHistory
open PveSanFenced.FencerModel
open PveSanFenced.Library.Collections
open PveSanFenced.Library.Fixed
open PveSanFenced.Library.Runs
open PveSanFenced.Library.Text
open PveSanFenced.Multipath
open PveSanFenced.Status

set_option autoImplicit false

section Keys

theorem missing_dm_st_key_inj {name other : String}
    (same : missingDmStKey name = missingDmStKey other) : name = other := by
  apply String.toList_inj.mp
  have chars := congrArg String.toList same
  have first : (missingDmStKey name).toList = "missing_dm_st_".toList ++ name.toList :=
    String.toList_append
  have second : (missingDmStKey other).toList = "missing_dm_st_".toList ++ other.toList :=
    String.toList_append
  rw [first, second] at chars
  exact List.append_cancel_left chars

theorem missing_path_groups_key_inj {name other : String}
    (same : missingPathGroupsKey name = missingPathGroupsKey other) : name = other := by
  apply String.toList_inj.mp
  have chars := congrArg String.toList same
  have first : (missingPathGroupsKey name).toList = "missing_path_groups_".toList ++ name.toList :=
    String.toList_append
  have second : (missingPathGroupsKey other).toList =
      "missing_path_groups_".toList ++ other.toList := String.toList_append
  rw [first, second] at chars
  exact List.append_cancel_left chars

theorem missing_dm_st_key_starts (name : String) :
    startsWith (missingDmStKey name) "missing_dm_st_" = true :=
  starts_with_append name (by decide)

theorem missing_path_groups_key_starts (name : String) :
    startsWith (missingPathGroupsKey name) "missing_dm_st_" = false :=
  not_starts_with_append name (by decide) (by decide)

theorem missing_keys_ne (name other : String) :
    missingPathGroupsKey name ≠ missingDmStKey other := by
  intro same
  have starts := missing_dm_st_key_starts other
  rw [← same, missing_path_groups_key_starts] at starts
  cases starts

theorem fencing_ne_missing_dm_st (name : String) : "fencing" ≠ missingDmStKey name := by
  intro same
  have starts : startsWith (missingDmStKey name) "missing_" = true :=
    starts_with_append name (by decide)
  rw [← same] at starts
  exact absurd starts (by decide)

theorem fencing_ne_missing_path_groups (name : String) :
    "fencing" ≠ missingPathGroupsKey name := by
  intro same
  have starts : startsWith (missingPathGroupsKey name) "missing_" = true :=
    starts_with_append name (by decide)
  rw [← same] at starts
  exact absurd starts (by decide)

end Keys

section OneMap

def groupLacksDmSt (group : PathGroup) : Prop :=
  group.dmSt = none ∨ ∃ paths, group.paths = some paths ∧ ∃ path ∈ paths, path.dmSt = none

def mapLacksDmSt (map : MultipathMap) : Prop :=
  ∃ pgs, map.pathGroups = some pgs ∧ ∃ group ∈ pgs, groupLacksDmSt group

/-- A part of the traversal leaves the tracker alone, or it records the map's
`dm_st` issue, and then for a reason. -/
def Records (name : String) (reason : Prop) (before after : StatusTracker) : Prop :=
  after = before ∨ (after = setMissingDmSt before name ∧ reason)

theorem set_missing_dm_st_twice (tracker : StatusTracker) (name : String) :
    setMissingDmSt (setMissingDmSt tracker name) name = setMissingDmSt tracker name := by
  simp [setMissingDmSt, StatusTracker.setIssue, Finmap.insert_insert]

theorem records_trans {name : String} {first second : Prop} {before between after : StatusTracker}
    (left : Records name first before between) (right : Records name second between after) :
    Records name (first ∨ second) before after := by
  rcases left with rfl | ⟨rfl, reason⟩
  · rcases right with rfl | ⟨rfl, reason⟩
    · exact Or.inl rfl
    · exact Or.inr ⟨rfl, Or.inr reason⟩
  · rcases right with rfl | ⟨rfl, -⟩
    · exact Or.inr ⟨rfl, Or.inl reason⟩
    · exact Or.inr ⟨set_missing_dm_st_twice before name, Or.inl reason⟩

theorem records_mono {name : String} {reason reason' : Prop} {before after : StatusTracker}
    (records : Records name reason before after) (weaker : reason → reason') :
    Records name reason' before after :=
  records.imp_right fun set => ⟨set.1, weaker set.2⟩

theorem active_path_found_records (name : String) (paths : List MpathPath)
    (tracker : StatusTracker) :
    Records name (∃ path ∈ paths, path.dmSt = none) tracker
      (activePathFound name paths tracker).2 := by
  induction paths with
  | nil => exact Or.inl rfl
  | cons path paths ih =>
      rcases path with ⟨_ | dmSt⟩
      · exact Or.inr ⟨rfl, ⟨none⟩, List.mem_cons_self .., rfl⟩
      · simp only [activePathFound]
        split_ifs
        · exact Or.inl rfl
        · apply records_mono ih
          intro lacking
          obtain ⟨path, member, missing⟩ := lacking
          exact ⟨path, List.mem_cons_of_mem _ member, missing⟩

theorem pg_alive_records (name : String) (group : PathGroup) (tracker : StatusTracker) :
    Records name (groupLacksDmSt group) tracker (pgAlive name group tracker).2 := by
  rcases group with ⟨_ | st, paths⟩
  · exact Or.inr ⟨rfl, Or.inl rfl⟩
  · exact Or.inl rfl

theorem no_group_active_records (name : String) (pgs : List PathGroup)
    (tracker : StatusTracker) :
    Records name (∃ group ∈ pgs, groupLacksDmSt group) tracker
      (noGroupActive name pgs tracker).2 := by
  induction pgs generalizing tracker with
  | nil => exact Or.inl rfl
  | cons group pgs ih =>
      have gate := pg_alive_records name group tracker
      have here : groupLacksDmSt group → ∃ group' ∈ group :: pgs, groupLacksDmSt group' :=
        fun lacking => ⟨group, List.mem_cons_self .., lacking⟩
      have joined : groupLacksDmSt group ∨ (∃ group' ∈ pgs, groupLacksDmSt group') →
          ∃ group' ∈ group :: pgs, groupLacksDmSt group' := by
        intro lacking
        cases lacking with
        | inl own => exact here own
        | inr later =>
            obtain ⟨other, member, missing⟩ := later
            exact ⟨other, List.mem_cons_of_mem _ member, missing⟩
      simp only [noGroupActive]
      rcases alive : pgAlive name group tracker with ⟨_ | _, gated⟩ <;> rw [alive] at gate
      · exact records_mono (records_trans gate (ih gated)) joined
      · rcases listed : group.paths with _ | paths
        · exact records_mono (records_trans gate (ih gated)) joined
        · have scan := records_mono (active_path_found_records name paths gated)
            fun lacking => show groupLacksDmSt group from Or.inr ⟨paths, listed, lacking⟩
          simp only [Bool.not_true, Bool.false_eq_true, if_false]
          rcases found : activePathFound name paths gated with ⟨_ | _, after⟩ <;>
            rw [found] at scan
          · have scanned := records_mono (records_trans gate scan) or_self_iff.mp
            exact records_mono (records_trans scanned (ih after)) joined
          · exact records_mono (records_trans gate scan)
              fun lacking => here (or_self_iff.mp lacking)

theorem is_map_dead_tracker (map : MultipathMap) (tracker : StatusTracker) :
    (map.pathGroups = none ∧ (isMapDead map tracker).2 =
        tracker.setIssue (missingPathGroupsKey map.name) .warning
          ("path_groups is missing for map '" ++ map.name ++ "'")) ∨
      (map.pathGroups ≠ none ∧
        Records map.name (mapLacksDmSt map) tracker (isMapDead map tracker).2) := by
  unfold isMapDead
  rcases listed : map.pathGroups with _ | pgs
  · exact Or.inl ⟨rfl, rfl⟩
  · refine Or.inr ⟨Option.some_ne_none pgs, ?_⟩
    apply records_mono (no_group_active_records map.name pgs tracker)
    exact fun lacking => ⟨pgs, listed, lacking⟩

theorem is_map_dead_other_issue (map : MultipathMap) (tracker : StatusTracker) {key : String}
    (noDmSt : key ≠ missingDmStKey map.name) (noGroups : key ≠ missingPathGroupsKey map.name) :
    (isMapDead map tracker).2.issue key = tracker.issue key := by
  rcases is_map_dead_tracker map tracker with ⟨-, set⟩ | ⟨-, same | ⟨set, -⟩⟩
  · rw [set, StatusTracker.issue_set_issue_of_ne _ _ _ noGroups]
  · rw [same]
  · rw [set, setMissingDmSt, StatusTracker.issue_set_issue_of_ne _ _ _ noDmSt]

theorem is_map_dead_missing_groups (map : MultipathMap) (tracker : StatusTracker)
    (name : String) :
    (isMapDead map tracker).2.issue (missingPathGroupsKey name) ≠ none ↔
      tracker.issue (missingPathGroupsKey name) ≠ none ∨
        (map.name = name ∧ map.pathGroups = none) := by
  by_cases same : map.name = name
  · subst same
    rcases is_map_dead_tracker map tracker with ⟨absent, set⟩ | ⟨listed, same | ⟨set, -⟩⟩
    · simp [set, absent]
    · simp [same, listed]
    · rw [set, setMissingDmSt,
        StatusTracker.issue_set_issue_of_ne _ _ _ (missing_keys_ne map.name map.name)]
      simp [listed]
  · rw [is_map_dead_other_issue map tracker (missing_keys_ne name map.name)
      fun equal => same (missing_path_groups_key_inj equal).symm]
    simp [same]

theorem is_map_dead_missing_dm_st (map : MultipathMap) (tracker : StatusTracker) {name : String}
    (held : (isMapDead map tracker).2.issue (missingDmStKey name) ≠ none) :
    tracker.issue (missingDmStKey name) ≠ none ∨ (map.name = name ∧ mapLacksDmSt map) := by
  by_cases same : map.name = name
  · subst same
    rcases is_map_dead_tracker map tracker with ⟨-, set⟩ | ⟨-, same | ⟨-, lacking⟩⟩
    · rw [set, StatusTracker.issue_set_issue_of_ne _ _ _ (missing_keys_ne _ _).symm] at held
      exact Or.inl held
    · rw [same] at held
      exact Or.inl held
    · exact Or.inr ⟨rfl, lacking⟩
  · rw [is_map_dead_other_issue map tracker (fun equal => same (missing_dm_st_key_inj equal).symm)
      (missing_keys_ne _ _).symm] at held
    exact Or.inl held

end OneMap

section OneCall

variable (fencer : Fencer) (tracker : StatusTracker)

theorem evaluate_maps_tracker_snoc (monitored : List MultipathMap) (map : MultipathMap) :
    (evaluateMaps fencer tracker (monitored ++ [map])).tracker =
      (isMapDead map (evaluateMaps fencer tracker monitored).tracker).2 := by
  rw [evaluate_maps_snoc]
  rfl

theorem evaluate_maps_fencing_issue (monitored : List MultipathMap) :
    (evaluateMaps fencer tracker monitored).tracker.issue "fencing" = tracker.issue "fencing" := by
  induction monitored using List.reverseRecOn with
  | nil => rfl
  | append_singleton monitored map ih =>
      rw [evaluate_maps_tracker_snoc, is_map_dead_other_issue _ _ (fencing_ne_missing_dm_st _)
        (fencing_ne_missing_path_groups _), ih]

theorem evaluate_maps_missing_groups (monitored : List MultipathMap) (name : String) :
    (evaluateMaps fencer tracker monitored).tracker.issue (missingPathGroupsKey name) ≠ none ↔
      tracker.issue (missingPathGroupsKey name) ≠ none ∨
        ∃ map ∈ monitored, map.name = name ∧ map.pathGroups = none := by
  induction monitored using List.reverseRecOn with
  | nil => simp
  | append_singleton monitored map ih =>
      rw [evaluate_maps_tracker_snoc, is_map_dead_missing_groups, ih, or_assoc]
      simp only [List.mem_append, List.mem_singleton, or_and_right, exists_or, exists_eq_left]

theorem evaluate_maps_missing_dm_st (monitored : List MultipathMap) {name : String}
    (held : (evaluateMaps fencer tracker monitored).tracker.issue (missingDmStKey name) ≠ none) :
    tracker.issue (missingDmStKey name) ≠ none ∨
      ∃ map ∈ monitored, map.name = name ∧ mapLacksDmSt map := by
  induction monitored using List.reverseRecOn with
  | nil => exact Or.inl held
  | append_singleton monitored map ih =>
      rw [evaluate_maps_tracker_snoc] at held
      cases is_map_dead_missing_dm_st map _ held with
      | inl before =>
          apply (ih before).imp_right
          intro found
          obtain ⟨entry, member, lacking⟩ := found
          exact ⟨entry, List.mem_append_left _ member, lacking⟩
      | inr here => exact Or.inr ⟨map, by simp, here⟩

theorem judge_cycle_other_issue (monitored : List MultipathMap)
    (mapDeadStates : HashMap String Bool) (activeLuns : Finset String) {key : String}
    (other : key ≠ "fencing") :
    (judgeCycle fencer tracker monitored mapDeadStates activeLuns).tracker.issue key =
      tracker.issue key := by
  unfold judgeCycle
  dsimp only
  split_ifs
  · rfl
  · exact StatusTracker.issue_set_issue_of_ne _ _ _ other
  · exact StatusTracker.issue_set_issue_of_ne _ _ _ other
  · exact StatusTracker.issue_clear_issue_of_ne _ other

/-- The `fencing` issue is left alone when no map is monitored, cleared when
the condition is not met, and set with the level of the threshold otherwise. -/
theorem judge_cycle_fencing_issue (monitored : List MultipathMap)
    (mapDeadStates : HashMap String Bool) (activeLuns : Finset String) :
    (monitored = [] ∧
        (judgeCycle fencer tracker monitored mapDeadStates activeLuns).tracker.issue "fencing" =
          tracker.issue "fencing") ∨
      (monitored ≠ [] ∧ fencingConditionMet monitored mapDeadStates activeLuns = false ∧
        (judgeCycle fencer tracker monitored mapDeadStates activeLuns).tracker.issue "fencing" =
          none) ∨
      (monitored ≠ [] ∧ fencingConditionMet monitored mapDeadStates activeLuns = true ∧
        ∃ message,
          (judgeCycle fencer tracker monitored mapDeadStates activeLuns).tracker.issue "fencing" =
            some (if fencer.maxFailures ≤ saturatingAdd fencer.consecutiveFailures 1
              then .critical else .warning, message)) := by
  unfold judgeCycle
  by_cases none : monitored = []
  · exact Or.inl ⟨none, by rw [if_pos (by simp [none])]⟩
  · have filled : ¬monitored.isEmpty = true := by simpa using none
    apply Or.inr
    by_cases met : fencingConditionMet monitored mapDeadStates activeLuns = true
    · apply Or.inr
      rw [if_neg filled, if_pos met]
      refine ⟨none, met, ?_⟩
      dsimp only
      split_ifs
      · exact ⟨_, StatusTracker.issue_set_issue ..⟩
      · exact ⟨_, StatusTracker.issue_set_issue ..⟩
    · apply Or.inl
      rw [if_neg filled, if_neg met]
      exact ⟨none, Bool.eq_false_iff.mpr met, StatusTracker.issue_clear_issue ..⟩

variable (maps : List MultipathMap) (activeLuns : Finset String)

theorem update_with_maps_missing_groups (name : String) :
    (updateWithMaps fencer tracker maps activeLuns).tracker.issue (missingPathGroupsKey name) ≠
        none ↔
      tracker.issue (missingPathGroupsKey name) ≠ none ∨
        ∃ map ∈ monitoredMaps fencer.targetWwids maps activeLuns,
          map.name = name ∧ map.pathGroups = none := by
  rw [updateWithMaps, judge_cycle_other_issue _ _ _ _ _ (fencing_ne_missing_path_groups name).symm,
    evaluate_maps_missing_groups, StatusTracker.issue_clear_issues_with_prefix,
    missing_path_groups_key_starts, if_neg Bool.false_ne_true]

theorem update_with_maps_missing_dm_st {name : String}
    (held : (updateWithMaps fencer tracker maps activeLuns).tracker.issue (missingDmStKey name) ≠
      none) :
    ∃ map ∈ monitoredMaps fencer.targetWwids maps activeLuns,
      map.name = name ∧ mapLacksDmSt map := by
  rw [updateWithMaps, judge_cycle_other_issue _ _ _ _ _ (fencing_ne_missing_dm_st name).symm]
    at held
  cases evaluate_maps_missing_dm_st _ _ _ held with
  | inl before =>
      rw [StatusTracker.issue_clear_issues_with_prefix, missing_dm_st_key_starts, if_pos rfl]
        at before
      exact absurd rfl before
  | inr here => exact here

theorem update_with_maps_fencing_issue :
    (monitoredMaps fencer.targetWwids maps activeLuns = [] ∧
        (updateWithMaps fencer tracker maps activeLuns).tracker.issue "fencing" =
          tracker.issue "fencing") ∨
      (monitoredMaps fencer.targetWwids maps activeLuns ≠ [] ∧
        ¬CycleFails fencer maps activeLuns ∧
        (updateWithMaps fencer tracker maps activeLuns).tracker.issue "fencing" = none) ∨
      (CycleFails fencer maps activeLuns ∧ ∃ message,
        (updateWithMaps fencer tracker maps activeLuns).tracker.issue "fencing" =
          some (if fencer.maxFailures ≤ saturatingAdd fencer.consecutiveFailures 1
            then .critical else .warning, message)) := by
  have cleared : (tracker.clearIssuesWithPrefix "missing_dm_st_").issue "fencing" =
      tracker.issue "fencing" := by
    rw [StatusTracker.issue_clear_issues_with_prefix, if_neg (by decide)]
  obtain ⟨counter, maxFailures, -⟩ := evaluate_maps_settings fencer
    (tracker.clearIssuesWithPrefix "missing_dm_st_")
    (monitoredMaps fencer.targetWwids maps activeLuns)
  have fails := cycle_fails_iff fencer (tracker.clearIssuesWithPrefix "missing_dm_st_") maps
    activeLuns
  rw [updateWithMaps, fails]
  rcases judge_cycle_fencing_issue
      (retainMonitored (monitoredMaps fencer.targetWwids maps activeLuns)
        (evaluateMaps fencer (tracker.clearIssuesWithPrefix "missing_dm_st_")
          (monitoredMaps fencer.targetWwids maps activeLuns)).fencer)
      (evaluateMaps fencer (tracker.clearIssuesWithPrefix "missing_dm_st_")
        (monitoredMaps fencer.targetWwids maps activeLuns)).tracker
      (monitoredMaps fencer.targetWwids maps activeLuns)
      (evaluateMaps fencer (tracker.clearIssuesWithPrefix "missing_dm_st_")
        (monitoredMaps fencer.targetWwids maps activeLuns)).mapDeadStates activeLuns with
    ⟨none, kept⟩ | ⟨filled, unmet, gone⟩ | ⟨filled, met, message, set⟩
  · exact Or.inl ⟨none, by rw [kept, evaluate_maps_fencing_issue, cleared]⟩
  · exact Or.inr (Or.inl ⟨filled, by simp [unmet], gone⟩)
  · refine Or.inr (Or.inr ⟨by simp [met, filled], message, ?_⟩)
    rw [set]
    simp only [retainMonitored, counter, maxFailures]

end OneCall

section Current

/-- Every issue about a missing field is about a map that is monitored in this
answer and lacks that field there. -/
def MissingIssuesCurrent (monitored : List MultipathMap) (tracker : StatusTracker) : Prop :=
  ∀ name,
    (tracker.issue (missingDmStKey name) ≠ none →
      ∃ map ∈ monitored, map.name = name ∧ mapLacksDmSt map) ∧
    (tracker.issue (missingPathGroupsKey name) ≠ none →
      ∃ map ∈ monitored, map.name = name ∧ map.pathGroups = none)

/-- Only the `dm_st` issues are cleared at the start of a call, so the others
are current after it exactly if those found before it were. -/
theorem missing_issues_current_iff (fencer : Fencer) (tracker : StatusTracker)
    (maps : List MultipathMap) (activeLuns : Finset String) :
    MissingIssuesCurrent (monitoredMaps fencer.targetWwids maps activeLuns)
        (updateWithMaps fencer tracker maps activeLuns).tracker ↔
      ∀ name, tracker.issue (missingPathGroupsKey name) ≠ none →
        ∃ map ∈ monitoredMaps fencer.targetWwids maps activeLuns,
          map.name = name ∧ map.pathGroups = none := by
  constructor
  · intro current name held
    apply (current name).2
    exact (update_with_maps_missing_groups fencer tracker maps activeLuns name).mpr (Or.inl held)
  · intro before name
    constructor
    · exact update_with_maps_missing_dm_st fencer tracker maps activeLuns
    · intro held
      cases (update_with_maps_missing_groups fencer tracker maps activeLuns name).mp held with
      | inl older => exact before name older
      | inr here => exact here

private def reported (pathGroups : Option (List PathGroup)) : List MultipathMap :=
  [⟨"mpatha", "36001", pathGroups, none, none⟩]

private def running : Option (List PathGroup) :=
  some [⟨some "active", some [⟨some "active"⟩]⟩]

def omittedOnce : CycleResult :=
  updateWithMaps (Fencer.new 3 ∅) StatusTracker.new (reported none) {"mpatha"}

def completeAgain : CycleResult :=
  updateWithMaps omittedOnce.fencer omittedOnce.tracker (reported running) {"mpatha"}

/-- The issue stays behind although the map is complete again. -/
theorem missing_groups_issue_stays :
    ¬MissingIssuesCurrent (monitoredMaps ∅ (reported running) {"mpatha"})
      completeAgain.tracker := by
  intro current
  obtain ⟨map, member, -, absent⟩ := (current "mpatha").2 (by decide +kernel)
  have listed := ((mem_monitored_maps _ _ _ _).mp member).1
  rw [reported, List.mem_singleton] at listed
  rw [listed] at absent
  cases absent

end Current

section Mirror

/-- The `fencing` issue is there exactly while failures are counted, and it is
critical exactly from the threshold on. -/
structure Mirrors (fencer : Fencer) (tracker : StatusTracker) : Prop where
  held : tracker.issue "fencing" ≠ none ↔ 0 < fencer.consecutiveFailures
  level : ∀ level message, tracker.issue "fencing" = some (level, message) →
    level = if fencer.maxFailures ≤ fencer.consecutiveFailures then .critical else .warning

variable (maxFailures : UInt64) (targetWwids : Finset String) (calls : ℕ → Call)

def resultAt (index : ℕ) : CycleResult :=
  updateWithMaps (fencerAt maxFailures targetWwids calls index) (calls index).tracker
    (calls index).maps (calls index).activeLuns

/-- Between two calls other code may change the tracker, but not this issue. -/
structure FencingUntouched : Prop where
  first : (calls 0).tracker.issue "fencing" = none
  next : ∀ index, (calls (index + 1)).tracker.issue "fencing" =
    (resultAt maxFailures targetWwids calls index).tracker.issue "fencing"

/-- The failures are forgotten because no map is monitored any more. -/
def ForgetsFailures (index : ℕ) : Prop :=
  monitoredAt targetWwids calls index = [] ∧
    0 < (fencerAt maxFailures targetWwids calls index).consecutiveFailures

/-- The counter stands for the failing cycles right before the call. -/
theorem forgets_failures_iff (index : ℕ) : ForgetsFailures maxFailures targetWwids calls index ↔
    monitoredAt targetWwids calls index = [] ∧
      0 < streak (FailsAt maxFailures targetWwids calls) index := by
  rw [ForgetsFailures, UInt64.lt_iff_toNat_lt, UInt64.toNat_zero, consecutive_failures_at, maxWord]
  apply and_congr_right
  intro _
  omega

theorem result_at_fencer (index : ℕ) :
    (resultAt maxFailures targetWwids calls index).fencer =
      fencerAt maxFailures targetWwids calls (index + 1) := rfl

theorem counted_positive (counter : UInt64) : 0 < saturatingAdd counter 1 := by
  rw [UInt64.lt_iff_toNat_lt, saturating_add_to_nat, UInt64.toNat_zero, UInt64.toNat_one, maxWord]
  omega

theorem mirrors_of_monitored (fencer : Fencer) (tracker : StatusTracker)
    (maps : List MultipathMap) (activeLuns : Finset String)
    (monitors : monitoredMaps fencer.targetWwids maps activeLuns ≠ []) :
    Mirrors (updateWithMaps fencer tracker maps activeLuns).fencer
      (updateWithMaps fencer tracker maps activeLuns).tracker := by
  have counter := update_with_maps_consecutive_failures fencer tracker maps activeLuns
  have threshold := update_with_maps_max_failures fencer tracker maps activeLuns
  rcases update_with_maps_fencing_issue fencer tracker maps activeLuns with
    ⟨none, -⟩ | ⟨-, healthy, gone⟩ | ⟨fails, message, set⟩
  · exact absurd none monitors
  · rw [if_neg healthy] at counter
    refine ⟨by simp [gone, counter], ?_⟩
    intro level message held
    rw [gone] at held
    cases held
  · rw [if_pos fails] at counter
    constructor
    · rw [set, counter]
      exact iff_of_true (Option.some_ne_none _) (counted_positive _)
    · intro level other held
      rw [set, Option.some.injEq, Prod.mk.injEq] at held
      rw [counter, threshold, ← held.1]

theorem mirrors_of_unmonitored (fencer : Fencer) (tracker : StatusTracker)
    (maps : List MultipathMap) (activeLuns : Finset String)
    (unmonitored : monitoredMaps fencer.targetWwids maps activeLuns = []) :
    Mirrors (updateWithMaps fencer tracker maps activeLuns).fencer
        (updateWithMaps fencer tracker maps activeLuns).tracker ↔
      tracker.issue "fencing" = none := by
  have counter := update_with_maps_consecutive_failures fencer tracker maps activeLuns
  have passes : ¬CycleFails fencer maps activeLuns := fun fails => fails.1 unmonitored
  rw [if_neg passes] at counter
  have kept : (updateWithMaps fencer tracker maps activeLuns).tracker.issue "fencing" =
      tracker.issue "fencing" := by
    rcases update_with_maps_fencing_issue fencer tracker maps activeLuns with
      ⟨-, same⟩ | ⟨some, -⟩ | ⟨fails, -⟩
    · exact same
    · exact absurd unmonitored some
    · exact absurd fails passes
  constructor
  · intro mirrors
    have held := mirrors.held
    rw [kept, counter] at held
    by_contra issue
    exact absurd (held.mp issue) (by decide)
  · intro none
    refine ⟨by simp [kept, counter, none], ?_⟩
    intro level message held
    rw [kept, none] at held
    cases held

theorem issue_found_iff (untouched : FencingUntouched maxFailures targetWwids calls) {index : ℕ}
    (mirrored : ∀ before, before < index → Mirrors
      (resultAt maxFailures targetWwids calls before).fencer
      (resultAt maxFailures targetWwids calls before).tracker) :
    (calls index).tracker.issue "fencing" ≠ none ↔
      0 < (fencerAt maxFailures targetWwids calls index).consecutiveFailures := by
  cases index with
  | zero =>
      rw [untouched.first, fencer_at_zero]
      simp [Fencer.new]
  | succ index =>
      rw [untouched.next index, ← result_at_fencer]
      exact (mirrored index (Nat.lt_succ_self index)).held

theorem mirrors_at (untouched : FencingUntouched maxFailures targetWwids calls) {index : ℕ}
    (mirrored : ∀ before, before < index → Mirrors
      (resultAt maxFailures targetWwids calls before).fencer
      (resultAt maxFailures targetWwids calls before).tracker) :
    Mirrors (resultAt maxFailures targetWwids calls index).fencer
        (resultAt maxFailures targetWwids calls index).tracker ↔
      ¬ForgetsFailures maxFailures targetWwids calls index := by
  have found := issue_found_iff maxFailures targetWwids calls untouched mirrored
  have targets := (fencer_at_settings maxFailures targetWwids calls index).2
  by_cases unmonitored : monitoredAt targetWwids calls index = []
  · have none : monitoredMaps (fencerAt maxFailures targetWwids calls index).targetWwids
        (calls index).maps (calls index).activeLuns = [] := by
      rw [targets]
      exact unmonitored
    rw [resultAt, mirrors_of_unmonitored _ _ _ _ none, ForgetsFailures, ← found]
    simp [unmonitored]
  · have some : monitoredMaps (fencerAt maxFailures targetWwids calls index).targetWwids
        (calls index).maps (calls index).activeLuns ≠ [] := by
      rw [targets]
      exact unmonitored
    exact iff_of_true (mirrors_of_monitored _ _ _ _ some) fun forgets => unmonitored forgets.1

/-- In a run, the issue mirrors the counter after every call as long as no call
forgets failures, and no longer. -/
theorem fencing_issue_mirrors_iff (untouched : FencingUntouched maxFailures targetWwids calls)
    (count : ℕ) :
    (∀ index, index < count → Mirrors (resultAt maxFailures targetWwids calls index).fencer
        (resultAt maxFailures targetWwids calls index).tracker) ↔
      ∀ index, index < count → ¬ForgetsFailures maxFailures targetWwids calls index := by
  induction count with
  | zero => simp
  | succ count ih =>
      simp only [Nat.lt_succ_iff_lt_or_eq, or_imp, forall_and, forall_eq]
      rw [← ih]
      apply and_congr_right
      intro mirrored
      exact mirrors_at maxFailures targetWwids calls untouched mirrored

end Mirror

section Released

private def failed : Option (List PathGroup) :=
  some [⟨some "active", some [⟨some "failed"⟩]⟩]

private def outage : Call where
  tracker := StatusTracker.new
  maps := reported failed
  activeLuns := {"mpatha"}

def released : ℕ → Call
  | 0 => outage
  | _ + 1 => {
      tracker := (updateWithMaps (Fencer.new 3 ∅) outage.tracker outage.maps
        outage.activeLuns).tracker
      maps := reported failed
      activeLuns := ∅ }

theorem released_unmonitored (fencer : Fencer) (index : ℕ) :
    monitoredMaps fencer.targetWwids (released (index + 1)).maps
      (released (index + 1)).activeLuns = [] := by
  simp [released, monitoredMaps, isActive]

theorem released_untouched : FencingUntouched 3 ∅ released where
  first := StatusTracker.issue_new "fencing"
  next index := by
    cases index with
    | zero => rfl
    | succ index =>
        rcases update_with_maps_fencing_issue (fencerAt 3 ∅ released (index + 1))
            (released (index + 1)).tracker (released (index + 1)).maps
            (released (index + 1)).activeLuns with ⟨-, kept⟩ | ⟨some, -⟩ | ⟨fails, -⟩
        · exact kept.symm
        · exact absurd (released_unmonitored _ index) some
        · exact absurd (released_unmonitored _ index) fails.1

/-- The warning of the one failure is still there when the counter is back at
zero. -/
theorem warning_outlives_failures : FencingUntouched 3 ∅ released ∧
    (resultAt 3 ∅ released 1).fencer.consecutiveFailures = 0 ∧
      ¬Mirrors (resultAt 3 ∅ released 1).fencer (resultAt 3 ∅ released 1).tracker := by
  have counter : (resultAt 3 ∅ released 1).fencer.consecutiveFailures = 0 := by decide +kernel
  have held : (resultAt 3 ∅ released 1).tracker.issue "fencing" ≠ none := by decide +kernel
  refine ⟨released_untouched, counter, fun mirrors => ?_⟩
  have positive := mirrors.held.mp held
  rw [counter] at positive
  exact absurd positive (by decide)

theorem fencing_issue_mirrors_iff_released :
    Mirrors (resultAt 3 ∅ released 0).fencer (resultAt 3 ∅ released 0).tracker := by
  have mirrors := (fencing_issue_mirrors_iff 3 ∅ released released_untouched 1).mpr
  apply mirrors _ 0 Nat.one_pos
  intro index first forgets
  obtain rfl : index = 0 := Nat.lt_one_iff.mp first
  exact absurd forgets.2 (by decide)

end Released

end PveSanFenced.FencerIssues
