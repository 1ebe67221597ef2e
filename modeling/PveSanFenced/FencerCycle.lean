import PveSanFenced.FencerModel

/-!
# What one evaluation cycle does

Every later result about the fencer uses the facts of this module and never
unfolds `updateWithMaps`. Nothing is assumed of the answer: two entries may
share a name, and then the source evaluates them one after the other, so the
order inside one answer shows in `LosesPaths` and `lastNamed`.
-/

namespace PveSanFenced.FencerCycle

open PveSanFenced.FencerModel
open PveSanFenced.Library.Collections
open PveSanFenced.Library.Fixed
open PveSanFenced.Library.Text
open PveSanFenced.Multipath
open PveSanFenced.Status

set_option autoImplicit false

/-- The names and uuids an entry of the active set stands for. -/
def lunParts (lun : String) : List String :=
  if containsChar lun '+' then splitChar '+' lun else [lun]

def answersTo (part : String) (map : MultipathMap) : Bool :=
  map.name == part || map.uuid == part

theorem lun_names_iff (lun : String) (map : MultipathMap) :
    lunNames lun map = true ↔ ∃ part ∈ lunParts lun, answersTo part map = true := by
  unfold lunNames lunParts answersTo
  by_cases spanned : containsChar lun '+' = true
  · simp only [spanned, if_true, Bool.or_eq_true, List.elem_eq_mem, decide_eq_true_eq,
      beq_iff_eq]
    constructor
    · rintro (named | identified)
      · exact ⟨map.name, named, Or.inl rfl⟩
      · exact ⟨map.uuid, identified, Or.inr rfl⟩
    · rintro ⟨part, member, rfl | rfl⟩
      · exact Or.inl member
      · exact Or.inr member
  · simp only [spanned, if_false, Bool.or_eq_true, beq_iff_eq, List.mem_singleton,
      exists_eq_left, Bool.false_eq_true]
    rw [eq_comm, eq_comm (a := lun) (b := map.uuid)]

section MonitoredMaps

theorem mem_monitored_maps (targetWwids : Finset String) (maps : List MultipathMap)
    (activeLuns : Finset String) (map : MultipathMap) :
    map ∈ monitoredMaps targetWwids maps activeLuns ↔
      map ∈ maps ∧ (∃ lun ∈ activeLuns, lunNames lun map = true) ∧
        isTargeted targetWwids map = true := by
  simp [monitoredMaps, isActive]

end MonitoredMaps

section EvaluationLoop

def ListsPaths (monitored : List MultipathMap) (name : String) : Prop :=
  ∃ map ∈ monitored, map.name = name ∧ 0 < totalPaths map

/-- Some entry of this name lists no path although one was seen before it. -/
def LosesPaths (seen : Prop) (monitored : List MultipathMap) (name : String) : Prop :=
  ∃ before map after, monitored = before ++ map :: after ∧ map.name = name ∧
    totalPaths map = 0 ∧ (seen ∨ ListsPaths before name)

/-- The last entry of a name: later entries overwrite the state of earlier ones. -/
def lastNamed (monitored : List MultipathMap) (name : String) : Option MultipathMap :=
  monitored.reverse.find? fun map => map.name == name

@[simp] theorem lists_paths_snoc (monitored : List MultipathMap) (map : MultipathMap)
    (name : String) :
    ListsPaths (monitored ++ [map]) name ↔
      ListsPaths monitored name ∨ (map.name = name ∧ 0 < totalPaths map) := by
  simp only [ListsPaths, List.mem_append, List.mem_singleton]
  constructor
  · rintro ⟨entry, earlier | rfl, named, lists⟩
    · exact Or.inl ⟨entry, earlier, named, lists⟩
    · exact Or.inr ⟨named, lists⟩
  · rintro (⟨entry, earlier, named, lists⟩ | ⟨named, lists⟩)
    · exact ⟨entry, Or.inl earlier, named, lists⟩
    · exact ⟨map, Or.inr rfl, named, lists⟩

@[simp] theorem loses_paths_snoc (seen : Prop) (monitored : List MultipathMap)
    (map : MultipathMap) (name : String) :
    LosesPaths seen (monitored ++ [map]) name ↔
      LosesPaths seen monitored name ∨
        (map.name = name ∧ totalPaths map = 0 ∧ (seen ∨ ListsPaths monitored name)) := by
  constructor
  · rintro ⟨before, entry, after, split, named, empty, shown⟩
    rcases after.eq_nil_or_concat with rfl | ⟨front, last, rfl⟩
    · obtain ⟨rfl, last⟩ := List.append_inj' split rfl
      obtain rfl := (List.cons.inj last).1
      exact Or.inr ⟨named, empty, shown⟩
    · rw [List.concat_eq_append, ← List.cons_append, ← List.append_assoc] at split
      obtain ⟨earlier, -⟩ := List.append_inj' split rfl
      exact Or.inl ⟨before, entry, front, earlier, named, empty, shown⟩
  · rintro (⟨before, entry, after, rfl, named, empty, shown⟩ | ⟨named, empty, shown⟩)
    · exact ⟨before, entry, after ++ [map], by simp, named, empty, shown⟩
    · exact ⟨monitored, map, [], rfl, named, empty, shown⟩

@[simp] theorem last_named_snoc (monitored : List MultipathMap) (map : MultipathMap)
    (name : String) :
    lastNamed (monitored ++ [map]) name =
      if map.name = name then some map else lastNamed monitored name := by
  unfold lastNamed
  rw [List.reverse_append, List.reverse_singleton, List.singleton_append, List.find?_cons]
  by_cases same : map.name = name
  · rw [if_pos same, (beq_iff_eq (a := map.name)).mpr same]
  · rw [if_neg same, (beq_eq_false_iff_ne (a := map.name)).mpr same]

variable (fencer : Fencer) (tracker : StatusTracker)

@[simp] theorem evaluate_maps_nil : evaluateMaps fencer tracker [] =
    { fencer := fencer, mapDeadStates := ∅, tracker := tracker } := rfl

@[simp] theorem evaluate_maps_snoc (monitored : List MultipathMap) (map : MultipathMap) :
    evaluateMaps fencer tracker (monitored ++ [map]) =
      evaluateMap (evaluateMaps fencer tracker monitored) map := by
  simp [evaluateMaps]

theorem evaluate_maps_settings (monitored : List MultipathMap) :
    (evaluateMaps fencer tracker monitored).fencer.consecutiveFailures =
        fencer.consecutiveFailures ∧
      (evaluateMaps fencer tracker monitored).fencer.maxFailures = fencer.maxFailures ∧
      (evaluateMaps fencer tracker monitored).fencer.targetWwids = fencer.targetWwids := by
  induction monitored using List.reverseRecOn with
  | nil => exact ⟨rfl, rfl, rfl⟩
  | append_singleton monitored map ih =>
      rw [evaluate_maps_snoc]
      exact ih

theorem evaluate_maps_had_working_paths (monitored : List MultipathMap) (name : String) :
    name ∈ (evaluateMaps fencer tracker monitored).fencer.hadWorkingPaths ↔
      name ∈ fencer.hadWorkingPaths ∨ ListsPaths monitored name := by
  induction monitored using List.reverseRecOn with
  | nil => simp [ListsPaths]
  | append_singleton monitored map ih =>
      rw [evaluate_maps_snoc, lists_paths_snoc, ← or_assoc, ← ih]
      simp only [evaluateMap]
      by_cases lists : 0 < totalPaths map
      · rw [if_pos lists, Finset.mem_insert, or_comm]
        simp only [lists, and_true, eq_comm]
      · rw [if_neg lists]
        simp only [lists, and_false, or_false]

theorem evaluate_maps_permanently_broken_luns (monitored : List MultipathMap)
    (name : String) :
    name ∈ (evaluateMaps fencer tracker monitored).fencer.permanentlyBrokenLuns ↔
      name ∈ fencer.permanentlyBrokenLuns ∨
        LosesPaths (name ∈ fencer.hadWorkingPaths) monitored name := by
  induction monitored using List.reverseRecOn with
  | nil => simp [LosesPaths]
  | append_singleton monitored map ih =>
      have seen := evaluate_maps_had_working_paths fencer tracker monitored name
      rw [evaluate_maps_snoc, loses_paths_snoc, ← or_assoc, ← ih, ← seen]
      simp only [evaluateMap]
      by_cases lists : 0 < totalPaths map
      · simp only [if_pos lists, Nat.pos_iff_ne_zero.mp lists, false_and, and_false, or_false]
      · have empty : totalPaths map = 0 := Nat.eq_zero_of_not_pos lists
        rw [if_neg lists]
        by_cases had : map.name ∈
            (evaluateMaps fencer tracker monitored).fencer.hadWorkingPaths
        · rw [if_pos had, Finset.mem_insert, or_comm]
          refine or_congr_right ⟨fun same => ?_, fun ⟨same, _, _⟩ => same.symm⟩
          subst same
          exact ⟨rfl, empty, had⟩
        · rw [if_neg had, iff_self_or]
          rintro ⟨same, -, again⟩
          exact absurd (same ▸ again) had

theorem evaluate_map_own_state (evaluation : Evaluation) (map : MultipathMap) :
    (evaluateMap evaluation map).mapDeadStates.lookup map.name =
      some (decide (mapDead map ∨
        map.name ∈ (evaluateMap evaluation map).fencer.permanentlyBrokenLuns)) := by
  have recorded : (evaluateMap evaluation map).mapDeadStates.lookup map.name =
      some (if map.name ∈ (evaluateMap evaluation map).fencer.permanentlyBrokenLuns then true
        else (isMapDead map evaluation.tracker).1) := Finmap.lookup_insert _
  have verdict := is_map_dead_iff map evaluation.tracker
  rw [recorded]
  by_cases latched : map.name ∈ (evaluateMap evaluation map).fencer.permanentlyBrokenLuns
  · simp [latched]
  · simp [latched, ← verdict]

theorem evaluate_map_other_state (evaluation : Evaluation) (map : MultipathMap) {name : String}
    (different : name ≠ map.name) :
    (evaluateMap evaluation map).mapDeadStates.lookup name =
      evaluation.mapDeadStates.lookup name :=
  Finmap.lookup_insert_of_ne _ different

theorem evaluate_map_other_latch (evaluation : Evaluation) (map : MultipathMap) {name : String}
    (different : name ≠ map.name) :
    name ∈ (evaluateMap evaluation map).fencer.permanentlyBrokenLuns ↔
      name ∈ evaluation.fencer.permanentlyBrokenLuns := by
  simp only [evaluateMap]
  split_ifs <;> simp [different]

theorem evaluate_maps_dead_states (monitored : List MultipathMap) (name : String) :
    (evaluateMaps fencer tracker monitored).mapDeadStates.lookup name =
      (lastNamed monitored name).map fun map => decide (mapDead map ∨
        name ∈ (evaluateMaps fencer tracker monitored).fencer.permanentlyBrokenLuns) := by
  induction monitored using List.reverseRecOn with
  | nil => rfl
  | append_singleton monitored map ih =>
      rw [evaluate_maps_snoc, last_named_snoc]
      by_cases same : map.name = name
      · subst same
        rw [if_pos rfl, Option.map_some, evaluate_map_own_state]
      · have latch := evaluate_map_other_latch (evaluateMaps fencer tracker monitored) map
          (Ne.symm same)
        rw [if_neg same, evaluate_map_other_state _ _ (Ne.symm same), ih]
        simp only [latch]

theorem evaluate_map_previous_own (evaluation : Evaluation) (map : MultipathMap) :
    (evaluateMap evaluation map).fencer.previousMapStates.lookup map.name =
      (evaluateMap evaluation map).mapDeadStates.lookup map.name := by
  simp only [evaluateMap, Finmap.lookup_insert]

theorem evaluate_maps_previous_states (monitored : List MultipathMap) (name : String) :
    (evaluateMaps fencer tracker monitored).fencer.previousMapStates.lookup name =
      ((evaluateMaps fencer tracker monitored).mapDeadStates.lookup name).or
        (fencer.previousMapStates.lookup name) := by
  induction monitored using List.reverseRecOn with
  | nil => rfl
  | append_singleton monitored map ih =>
      rw [evaluate_maps_snoc]
      by_cases same : name = map.name
      · subst same
        rw [evaluate_map_previous_own, evaluate_map_own_state, Option.some_or]
      · rw [evaluate_map_other_state _ _ same, ← ih]
        exact Finmap.lookup_insert_of_ne _ same

end EvaluationLoop

section Verdict

variable (fencer : Fencer) (tracker : StatusTracker)

/-- The state the source stores for a name is dead: its last entry is, or the
name is latched, from before or by this very answer. -/
def CountedDead (monitored : List MultipathMap) (name : String) : Prop :=
  ∃ map, lastNamed monitored name = some map ∧
    (mapDead map ∨ name ∈ fencer.permanentlyBrokenLuns ∨
      LosesPaths (name ∈ fencer.hadWorkingPaths) monitored name)

def LunFailed (monitored : List MultipathMap) (lun : String) : Prop :=
  ∃ part ∈ lunParts lun, ∃ map, monitored.find? (answersTo part) = some map ∧
    CountedDead fencer monitored map.name

/-- The cycle meets the fencing condition: a spanned LUN failed, or every LUN
in use did. An answer without monitored maps never does. -/
def CycleFails (maps : List MultipathMap) (activeLuns : Finset String) : Prop :=
  monitoredMaps fencer.targetWwids maps activeLuns ≠ [] ∧
    ((∃ lun ∈ activeLuns, containsChar lun '+' = true ∧
        LunFailed fencer (monitoredMaps fencer.targetWwids maps activeLuns) lun) ∨
      ∀ lun ∈ activeLuns, LunFailed fencer (monitoredMaps fencer.targetWwids maps activeLuns) lun)

theorem counted_dead_iff (monitored : List MultipathMap) (name : String) :
    (evaluateMaps fencer tracker monitored).mapDeadStates.lookup name = some true ↔
      CountedDead fencer monitored name := by
  rw [evaluate_maps_dead_states, Option.map_eq_some_iff]
  simp only [decide_eq_true_eq, evaluate_maps_permanently_broken_luns, CountedDead]

theorem member_failed_iff (monitored : List MultipathMap) (part : String) :
    memberFailed monitored (evaluateMaps fencer tracker monitored).mapDeadStates part = true ↔
      ∃ map, monitored.find? (answersTo part) = some map ∧
        CountedDead fencer monitored map.name := by
  simp only [memberFailed, ← counted_dead_iff fencer tracker, Option.getD_eq_iff,
    Option.bind_eq_some_iff, Bool.false_eq_true, and_false, or_false]
  rfl

theorem group_failed_iff (monitored : List MultipathMap) (lun : String) :
    groupFailed monitored (evaluateMaps fencer tracker monitored).mapDeadStates lun = true ↔
      LunFailed fencer monitored lun := by
  simp only [groupFailed, LunFailed, lunParts, ← member_failed_iff fencer tracker]
  by_cases spanned : containsChar lun '+' = true
  · simp [spanned]
  · simp [spanned]

theorem fencing_condition_met_iff (monitored : List MultipathMap)
    (activeLuns : Finset String) :
    fencingConditionMet monitored (evaluateMaps fencer tracker monitored).mapDeadStates
        activeLuns = true ↔
      (∃ lun ∈ activeLuns, containsChar lun '+' = true ∧ LunFailed fencer monitored lun) ∨
        ∀ lun ∈ activeLuns, LunFailed fencer monitored lun := by
  simp only [fencingConditionMet, group_failed_iff, Bool.or_eq_true, decide_eq_true_eq]

theorem cycle_fails_iff (maps : List MultipathMap) (activeLuns : Finset String) :
    CycleFails fencer maps activeLuns ↔
      (!(monitoredMaps fencer.targetWwids maps activeLuns).isEmpty &&
        fencingConditionMet (monitoredMaps fencer.targetWwids maps activeLuns)
          (evaluateMaps fencer tracker
            (monitoredMaps fencer.targetWwids maps activeLuns)).mapDeadStates
          activeLuns) = true := by
  rw [Bool.and_eq_true, fencing_condition_met_iff, CycleFails]
  simp

instance (maps : List MultipathMap) (activeLuns : Finset String) :
    Decidable (CycleFails fencer maps activeLuns) :=
  decidable_of_iff _ (cycle_fails_iff fencer StatusTracker.new maps activeLuns).symm

end Verdict

section OneCall

variable (fencer : Fencer) (tracker : StatusTracker)

theorem judge_cycle_fencer (monitored : List MultipathMap)
    (mapDeadStates : HashMap String Bool) (activeLuns : Finset String) :
    (judgeCycle fencer tracker monitored mapDeadStates activeLuns).fencer =
      { fencer with
        consecutiveFailures :=
          if (!monitored.isEmpty && fencingConditionMet monitored mapDeadStates activeLuns) = true
          then saturatingAdd fencer.consecutiveFailures 1 else 0 } := by
  unfold judgeCycle
  by_cases none : monitored.isEmpty = true
  · simp [none]
  · by_cases met : fencingConditionMet monitored mapDeadStates activeLuns = true
    · rw [if_neg none, if_pos met]
      simp only [none, met, Bool.not_false, Bool.and_self, if_true]
      split_ifs <;> rfl
    · simp [none, met]

theorem judge_cycle_fence (monitored : List MultipathMap)
    (mapDeadStates : HashMap String Bool) (activeLuns : Finset String) :
    (judgeCycle fencer tracker monitored mapDeadStates activeLuns).fence = true ↔
      (!monitored.isEmpty && fencingConditionMet monitored mapDeadStates activeLuns) = true ∧
        fencer.maxFailures ≤ saturatingAdd fencer.consecutiveFailures 1 := by
  unfold judgeCycle
  by_cases none : monitored.isEmpty = true
  · simp [none]
  · by_cases met : fencingConditionMet monitored mapDeadStates activeLuns = true
    · rw [if_neg none, if_pos met]
      simp only [none, met, Bool.not_false, Bool.and_self, true_and]
      split_ifs with reached <;> simp [reached]
    · simp [none, met]

variable (maps : List MultipathMap) (activeLuns : Finset String)

/-- The counter counts the failing cycles and the other fields are those the
loop over the monitored maps left, pruned to the monitored names. -/
theorem update_with_maps_fencer :
    (updateWithMaps fencer tracker maps activeLuns).fencer =
      { retainMonitored (monitoredMaps fencer.targetWwids maps activeLuns)
          (evaluateMaps fencer (tracker.clearIssuesWithPrefix "missing_dm_st_")
            (monitoredMaps fencer.targetWwids maps activeLuns)).fencer with
        consecutiveFailures :=
          if CycleFails fencer maps activeLuns then saturatingAdd fencer.consecutiveFailures 1
          else 0 } := by
  have counter := (evaluate_maps_settings fencer
    (tracker.clearIssuesWithPrefix "missing_dm_st_")
    (monitoredMaps fencer.targetWwids maps activeLuns)).1
  rw [updateWithMaps, judge_cycle_fencer]
  simp only [cycle_fails_iff fencer (tracker.clearIssuesWithPrefix "missing_dm_st_"),
    retainMonitored, counter]

theorem update_with_maps_fence :
    (updateWithMaps fencer tracker maps activeLuns).fence = true ↔
      CycleFails fencer maps activeLuns ∧
        fencer.maxFailures ≤ saturatingAdd fencer.consecutiveFailures 1 := by
  obtain ⟨counter, maxFailures, -⟩ := evaluate_maps_settings fencer
    (tracker.clearIssuesWithPrefix "missing_dm_st_")
    (monitoredMaps fencer.targetWwids maps activeLuns)
  rw [updateWithMaps, judge_cycle_fence,
    cycle_fails_iff fencer (tracker.clearIssuesWithPrefix "missing_dm_st_")]
  simp only [retainMonitored, counter, maxFailures]

theorem update_with_maps_consecutive_failures :
    (updateWithMaps fencer tracker maps activeLuns).fencer.consecutiveFailures =
      if CycleFails fencer maps activeLuns then saturatingAdd fencer.consecutiveFailures 1
      else 0 := by
  rw [update_with_maps_fencer]

@[simp] theorem update_with_maps_max_failures :
    (updateWithMaps fencer tracker maps activeLuns).fencer.maxFailures = fencer.maxFailures := by
  rw [update_with_maps_fencer]
  exact (evaluate_maps_settings ..).2.1

@[simp] theorem update_with_maps_target_wwids :
    (updateWithMaps fencer tracker maps activeLuns).fencer.targetWwids = fencer.targetWwids := by
  rw [update_with_maps_fencer]
  exact (evaluate_maps_settings ..).2.2

def MonitorsName (targetWwids : Finset String) (maps : List MultipathMap)
    (activeLuns : Finset String) (name : String) : Prop :=
  ∃ map ∈ monitoredMaps targetWwids maps activeLuns, map.name = name

theorem update_with_maps_had_working_paths (name : String) :
    name ∈ (updateWithMaps fencer tracker maps activeLuns).fencer.hadWorkingPaths ↔
      MonitorsName fencer.targetWwids maps activeLuns name ∧
        (ListsPaths (monitoredMaps fencer.targetWwids maps activeLuns) name ∨
          name ∈ fencer.hadWorkingPaths) := by
  rw [update_with_maps_fencer]
  simp only [retainMonitored, Finset.mem_filter, evaluate_maps_had_working_paths,
    List.mem_toFinset, List.mem_map, MonitorsName]
  rw [and_comm, or_comm]

theorem update_with_maps_permanently_broken_luns (name : String) :
    name ∈ (updateWithMaps fencer tracker maps activeLuns).fencer.permanentlyBrokenLuns ↔
      MonitorsName fencer.targetWwids maps activeLuns name ∧
        (LosesPaths (name ∈ fencer.hadWorkingPaths)
            (monitoredMaps fencer.targetWwids maps activeLuns) name ∨
          name ∈ fencer.permanentlyBrokenLuns) := by
  rw [update_with_maps_fencer]
  simp only [retainMonitored, Finset.mem_filter, evaluate_maps_permanently_broken_luns,
    List.mem_toFinset, List.mem_map, MonitorsName]
  rw [and_comm, or_comm]

theorem update_with_maps_previous_states (name : String) :
    (updateWithMaps fencer tracker maps activeLuns).fencer.previousMapStates.lookup name =
      (evaluateMaps fencer (tracker.clearIssuesWithPrefix "missing_dm_st_")
        (monitoredMaps fencer.targetWwids maps activeLuns)).mapDeadStates.lookup name := by
  rw [update_with_maps_fencer]
  simp only [retainMonitored, lookup_retain, evaluate_maps_previous_states,
    decide_eq_true_eq, List.mem_toFinset, List.mem_map]
  rw [evaluate_maps_dead_states]
  rcases found : lastNamed (monitoredMaps fencer.targetWwids maps activeLuns) name with _ | map
  · have absent : ¬∃ map ∈ monitoredMaps fencer.targetWwids maps activeLuns, map.name = name := by
      rintro ⟨map, member, named⟩
      have none := List.find?_eq_none.mp found map (List.mem_reverse.mpr member)
      exact none (beq_iff_eq.mpr named)
    rw [if_neg absent, Option.map_none]
  · have present : ∃ map ∈ monitoredMaps fencer.targetWwids maps activeLuns, map.name = name :=
      ⟨map, List.mem_reverse.mp (List.mem_of_find?_eq_some found),
        by simpa using List.find?_some found⟩
    rw [if_pos present, Option.map_some, Option.some_or]

end OneCall

end PveSanFenced.FencerCycle
