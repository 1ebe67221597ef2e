import PveSanFenced.FencerRefinement
import PveSanFenced.FencerRelated

/-!
# Runs in which optional fields are missing

The second run below is the first with optional fields erased from its
answers. `is_map_dead` takes an omitted field for a healthy one, so a map dead
in the erased answer is dead in the full one. The path count that feeds the
latch reads an omitted `path_groups` as an empty list instead.
-/

namespace PveSanFenced.FencerErasure

open PveSanFenced.FencerCycle
open PveSanFenced.FencerHistory
open PveSanFenced.FencerModel
open PveSanFenced.FencerRefinement
open PveSanFenced.FencerRelated
open PveSanFenced.Library.Collections
open PveSanFenced.Library.Runs
open PveSanFenced.Library.Text
open PveSanFenced.Multipath
open PveSanFenced.Status

set_option autoImplicit false

section OneMap

structure PathErased (path erased : MpathPath) : Prop where
  dmSt : erased.dmSt = none ∨ erased.dmSt = path.dmSt

structure GroupErased (group erased : PathGroup) : Prop where
  dmSt : erased.dmSt = none ∨ erased.dmSt = group.dmSt
  paths : Option.Rel (List.Forall₂ PathErased) group.paths erased.paths

/-- `erased` is `map` with some of its optional fields missing. -/
structure MapErased (map erased : MultipathMap) : Prop where
  name : erased.name = map.name
  uuid : erased.uuid = map.uuid
  vend : erased.vend = map.vend
  prod : erased.prod = map.prod
  pathGroups : erased.pathGroups = none ∨
    Option.Rel (List.Forall₂ GroupErased) map.pathGroups erased.pathGroups

instance : Std.Refl PathErased where
  refl _ := ⟨Or.inr rfl⟩

instance : Std.Refl GroupErased where
  refl group := by
    refine ⟨Or.inr rfl, ?_⟩
    rcases group.paths with _ | paths
    · exact Option.Rel.none
    · exact Option.Rel.some (List.forall₂_refl paths)

instance : Std.Refl MapErased where
  refl map := by
    refine ⟨rfl, rfl, rfl, rfl, Or.inr ?_⟩
    rcases map.pathGroups with _ | pgs
    · exact Option.Rel.none
    · exact Option.Rel.some (List.forall₂_refl pgs)

theorem path_failed_of_erased {path erased : MpathPath} (relation : PathErased path erased)
    (failed : pathFailed erased) : pathFailed path := by
  rcases relation.dmSt with missing | same
  · simp [pathFailed, missing] at failed
  · rwa [pathFailed, ← same]

theorem group_dead_of_erased {group erased : PathGroup} (relation : GroupErased group erased)
    (dead : groupDead erased) : groupDead group := by
  rcases dead with offline | failed | noneActive
  · rcases relation.dmSt with missing | same
    · simp [missing] at offline
    · exact Or.inl (same ▸ offline)
  · rcases relation.dmSt with missing | same
    · simp [missing] at failed
    · exact Or.inr (Or.inl (same ▸ failed))
  · apply Or.inr
    apply Or.inr
    intro paths listed path member
    rcases related_option relation.paths with ⟨absent, -⟩ | ⟨own, others, shown, erasedShown, pair⟩
    · simp [absent] at listed
    · obtain rfl : own = paths := Option.some.inj (shown.symm.trans listed)
      obtain ⟨erasedPath, erasedMember, paths⟩ := related_mem pair.flip member
      exact path_failed_of_erased paths (noneActive others erasedShown erasedPath erasedMember)

theorem map_dead_of_erased {map erased : MultipathMap} (relation : MapErased map erased)
    (dead : mapDead erased) : mapDead map := by
  obtain ⟨erasedGroups, listed, allDead⟩ := dead
  rcases relation.pathGroups with missing | groups
  · simp [missing] at listed
  · rcases related_option groups with ⟨-, absent⟩ | ⟨pgs, others, shown, erasedShown, pair⟩
    · simp [absent] at listed
    · obtain rfl : others = erasedGroups := Option.some.inj (erasedShown.symm.trans listed)
      refine ⟨pgs, shown, fun group member => ?_⟩
      obtain ⟨erasedGroup, erasedMember, groupPair⟩ := related_mem pair.flip member
      exact group_dead_of_erased groupPair (allDead erasedGroup erasedMember)

theorem erased_worsens : Worsens MapErased where
  name relation := relation.name
  uuid relation := relation.uuid
  dead relation := map_dead_of_erased relation

theorem total_paths_of_erased {map erased : MultipathMap} (relation : MapErased map erased) :
    erased.pathGroups = none ∨ totalPaths erased = totalPaths map := by
  cases relation.pathGroups with
  | inl missing => exact Or.inl missing
  | inr groups =>
      apply Or.inr
      apply total_paths_congr
      apply related_option_imp groups
      intro pgs erasedPgs pair
      exact pair.imp fun group erased relation => same_path_count_of_related relation.paths

theorem total_paths_erased_le {map erased : MultipathMap} (relation : MapErased map erased) :
    totalPaths erased ≤ totalPaths map := by
  rcases total_paths_of_erased relation with missing | same
  · simp [totalPaths, missing]
  · exact same.le

end OneMap

section TwoRuns

variable (targetWwids : Finset String) (calls erased : ℕ → Call)

def RunErased : Prop :=
  ∀ index, (erased index).activeLuns = (calls index).activeLuns ∧
    List.Forall₂ MapErased (calls index).maps (erased index).maps

/-- An entry that lists paths has its `path_groups` erased, at a time when the
erased run has seen paths of that name and the full run has not yet latched it. -/
def ErasesSeenPaths (index : ℕ) : Prop :=
  ∃ before map after before' map' after',
    monitoredAt targetWwids calls index = before ++ map :: after ∧
      monitoredAt targetWwids erased index = before' ++ map' :: after' ∧
      before.length = before'.length ∧ 0 < totalPaths map ∧ map'.pathGroups = none ∧
      (Shown targetWwids erased map.name index ∨ ListsPaths before' map.name) ∧
      ¬(Latched targetWwids calls map.name index ∨
        LosesPaths (Shown targetWwids calls map.name index) before map.name)

variable {targetWwids calls erased} (relation : RunErased calls erased)

include relation

theorem run_related : RunRelated MapErased calls erased := relation

theorem monitored_of_erased (targetWwids : Finset String) (index : ℕ) :
    List.Forall₂ MapErased (monitoredAt targetWwids calls index)
      (monitoredAt targetWwids erased index) :=
  monitored_at_related erased_worsens targetWwids (run_related relation) index

theorem monitors_of_erased {name : String} {index : ℕ}
    (monitors : MonitorsAt targetWwids erased name index) :
    MonitorsAt targetWwids calls name index := by
  have same := monitors_at_related erased_worsens targetWwids (run_related relation) name index
  exact same.mp monitors

omit relation in
theorem lists_paths_of_erased {monitored monitored' : List MultipathMap}
    (related : List.Forall₂ MapErased monitored monitored') {name : String}
    (lists : ListsPaths monitored' name) : ListsPaths monitored name := by
  obtain ⟨erasedMap, member, named, paths⟩ := lists
  obtain ⟨map, mapMember, pair⟩ := related_mem related member
  have fewer := total_paths_erased_le pair
  exact ⟨map, mapMember, pair.name ▸ named, by omega⟩

theorem shown_of_erased {name : String} {count : ℕ}
    (shown : Shown targetWwids erased name count) : Shown targetWwids calls name count := by
  apply since_mono _ _ shown
  · intro step _
    exact monitors_of_erased relation
  · intro step _
    exact lists_paths_of_erased (monitored_of_erased relation targetWwids step)

theorem loses_paths_of_erased {index : ℕ} {name : String}
    (harmless : ¬ErasesSeenPaths targetWwids calls erased index)
    (loses : LosesPaths (Shown targetWwids erased name index)
      (monitoredAt targetWwids erased index) name) :
    Latched targetWwids calls name index ∨
      LosesPaths (Shown targetWwids calls name index)
        (monitoredAt targetWwids calls index) name := by
  obtain ⟨before', map', after', split', named', empty, seen⟩ := loses
  have related := monitored_of_erased relation targetWwids index
  rw [split'] at related
  obtain ⟨before, map, after, split, front, pair, -⟩ := related_split related
  have named : map.name = name := pair.name ▸ named'
  rcases Nat.eq_zero_or_pos (totalPaths map) with none | lists
  · refine Or.inr ⟨before, map, after, split, named, none, ?_⟩
    rcases seen with shown | earlier
    · exact Or.inl (shown_of_erased relation shown)
    · exact Or.inr (lists_paths_of_erased front earlier)
  · have missing : map'.pathGroups = none := by
      rcases total_paths_of_erased pair with missing | same
      · exact missing
      · omega
    by_contra fresh
    refine harmless ⟨before, map, after, before', map', after', split, split',
      front.length_eq, lists, missing, named ▸ seen, fun old => fresh ?_⟩
    rw [named] at old
    rcases old with latched | ⟨first, entry, rest, rfl, entryNamed, entryEmpty, entrySeen⟩
    · exact Or.inl latched
    · refine Or.inr ⟨first, entry, rest ++ map :: after, ?_, entryNamed, entryEmpty, entrySeen⟩
      rw [split, List.append_assoc, List.cons_append]

theorem latched_of_erased (harmless : ∀ index, ¬ErasesSeenPaths targetWwids calls erased index)
    {name : String} {count : ℕ} (latched : Latched targetWwids erased name count) :
    Latched targetWwids calls name count := by
  induction count with
  | zero => exact absurd latched since_zero
  | succ count ih =>
      rw [latched_succ] at latched ⊢
      obtain ⟨monitors, loses | earlier⟩ := latched
      · refine ⟨monitors_of_erased relation monitors, ?_⟩
        exact (loses_paths_of_erased relation (harmless count) loses).symm
      · exact ⟨monitors_of_erased relation monitors, Or.inr (ih earlier)⟩

/-- The condition is not too strong: a cycle that erases seen paths latches a
map which the full run leaves unlatched. -/
theorem erases_seen_paths_latches {index : ℕ} (wellFormed : WellFormed (calls index).maps)
    (harmful : ErasesSeenPaths targetWwids calls erased index) :
    ∃ name, Latched targetWwids erased name (index + 1) ∧
      ¬Latched targetWwids calls name (index + 1) := by
  obtain ⟨before, map, after, before', map', after', split, split', sameLength, lists, missing,
    seen, fresh⟩ := harmful
  have related := monitored_of_erased relation targetWwids index
  have pair : MapErased map map' := by
    rw [split'] at related
    obtain ⟨front, entry, rest, again, frontRelated, pair, -⟩ := related_split related
    have aligned := List.append_inj (split.symm.trans again)
      (sameLength.trans frontRelated.length_eq.symm)
    exact (List.cons.inj aligned.2).1 ▸ pair
  have empty : totalPaths map' = 0 := by simp [totalPaths, missing]
  refine ⟨map.name, ?_, fun latched => ?_⟩
  · rw [latched_succ]
    have member : map' ∈ monitoredAt targetWwids erased index := by simp [split']
    refine ⟨⟨map', member, pair.name⟩, Or.inl ?_⟩
    exact ⟨before', map', after', split', pair.name, empty, seen⟩
  · rw [latched_succ] at latched
    obtain ⟨-, loses | earlier⟩ := latched
    · obtain ⟨first, entry, rest, again, named, none, -⟩ := loses
      have entryMember : entry ∈ monitoredAt targetWwids calls index := by simp [again]
      have mapMember : map ∈ monitoredAt targetWwids calls index := by simp [split]
      have same := unique_name (monitored_well_formed wellFormed) entryMember mapMember named
      subst same
      omega
    · exact fresh (Or.inl earlier)

variable (maxFailures : UInt64)

/-- Erasing fields never brings a decision the full run does not take, and
never makes a map count as dead that the full run does not count as dead, as
long as no cycle erases the `path_groups` of a map seen with paths before. -/
theorem erased_run_fences_no_more
    (harmless : ∀ index, ¬ErasesSeenPaths targetWwids calls erased index) (index : ℕ) :
    (fencesAt maxFailures targetWwids erased index = true →
        fencesAt maxFailures targetWwids calls index = true) ∧
      ∀ name, CountedDead (fencerAt maxFailures targetWwids erased index)
          (monitoredAt targetWwids erased index) name →
        CountedDead (fencerAt maxFailures targetWwids calls index)
          (monitoredAt targetWwids calls index) name := by
  have related := run_related relation
  have latch : ∀ step name, Latched targetWwids erased name (step + 1) →
      Latched targetWwids calls name (step + 1) := fun step name =>
    latched_of_erased relation harmless
  constructor
  · apply fences_at_of_fails
    intro step _
    exact fails_at_of_related erased_worsens maxFailures targetWwids related (latch step)
  · intro name
    exact counted_dead_of_related erased_worsens maxFailures targetWwids related
      (latch index name)

end TwoRuns

section OmittedGroups

private def report (pathGroups : Option (List PathGroup)) : Call where
  tracker := StatusTracker.new
  maps := [⟨"mpatha", "36001", pathGroups, none, none⟩]
  activeLuns := {"mpatha"}

def healthy : ℕ → Call
  | _ => report (some [⟨some "active", some [⟨some "active"⟩]⟩])

/-- The same answers, with `path_groups` missing from the second one. -/
def omitted : ℕ → Call
  | 1 => report none
  | _ => report (some [⟨some "active", some [⟨some "active"⟩]⟩])

/-- The same answers, with `path_groups` missing from the first one. -/
def omittedFirst : ℕ → Call
  | 0 => report none
  | _ => report (some [⟨some "active", some [⟨some "active"⟩]⟩])

private theorem report_erased (pathGroups : Option (List PathGroup)) :
    List.Forall₂ MapErased (report pathGroups).maps (report none).maps :=
  List.Forall₂.cons ⟨rfl, rfl, rfl, rfl, Or.inl rfl⟩ List.Forall₂.nil

/-- Missing data does cause a decision: the one omission latches a map that is
healthy in every answer which describes it. -/
theorem omission_fences : RunErased healthy omitted ∧
    (∀ index, index < 4 → fencesAt 3 ∅ healthy index = false) ∧
      fencesAt 3 ∅ omitted 3 = true := by
  refine ⟨fun index => ?_, by decide +kernel, by decide +kernel⟩
  match index with
  | 0 => exact ⟨rfl, List.forall₂_refl _⟩
  | 1 => exact ⟨rfl, report_erased _⟩
  | index + 2 => exact ⟨rfl, List.forall₂_refl _⟩

theorem erased_run_fences_no_more_omitted_first :
    fencesAt 1 ∅ omittedFirst 1 = false := by
  have relation : RunErased healthy omittedFirst := by
    intro index
    match index with
    | 0 => exact ⟨rfl, report_erased _⟩
    | index + 1 => exact ⟨rfl, List.forall₂_refl _⟩
  have harmless : ∀ index, ¬ErasesSeenPaths ∅ healthy omittedFirst index := by
    rintro index ⟨before, map, after, before', map', after', -, split', -, -, missing, seen, -⟩
    match index with
    | 0 =>
        rcases seen with shown | ⟨earlier, member, -⟩
        · exact since_zero shown
        · have count := congrArg List.length split'
          have single : (monitoredAt ∅ omittedFirst 0).length = 1 := by decide
          rw [single, List.length_append, List.length_cons] at count
          have one := List.length_pos_of_mem member
          omega
    | index + 1 =>
        have described : ∀ map ∈ (omittedFirst (index + 1)).maps, map.pathGroups ≠ none := by
          simp [omittedFirst, report]
        have member : map' ∈ monitoredAt ∅ omittedFirst (index + 1) := by simp [split']
        exact described map' ((mem_monitored_maps _ _ _ _).mp member).1 missing
  have transfer := (erased_run_fences_no_more relation 1 harmless 1).1
  exact Bool.eq_false_iff.mpr fun fences => absurd (transfer fences) (by decide +kernel)

end OmittedGroups

end PveSanFenced.FencerErasure
