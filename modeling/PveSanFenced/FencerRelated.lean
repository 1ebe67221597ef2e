import PveSanFenced.FencerHistory
import PveSanFenced.Library.Collections

/-!
# Two runs side by side

Two runs of the fencer see answers that match entry by entry, and an entry of
the left run is dead whenever its partner on the right is. As long as what the
right run latches is latched on the left too, the left run fails in every cycle
in which the right one does, so it counts at least as much and decides at least
as early.
-/

namespace PveSanFenced.FencerRelated

open PveSanFenced.FencerCycle
open PveSanFenced.FencerHistory
open PveSanFenced.FencerModel
open PveSanFenced.Library.Collections
open PveSanFenced.Library.Runs
open PveSanFenced.Multipath

set_option autoImplicit false

/-- Partners have one identity, and the left one is dead if the right one is. -/
structure Worsens (Related : MultipathMap → MultipathMap → Prop) : Prop where
  name : ∀ {map other}, Related map other → other.name = map.name
  uuid : ∀ {map other}, Related map other → other.uuid = map.uuid
  dead : ∀ {map other}, Related map other → mapDead other → mapDead map

def SamePathCount (group other : PathGroup) : Prop :=
  (other.paths.map List.length).getD 0 = (group.paths.map List.length).getD 0

theorem same_path_count_of_related {Paired : MpathPath → MpathPath → Prop}
    {group other : PathGroup} (paths : Option.Rel (List.Forall₂ Paired) group.paths other.paths) :
    SamePathCount group other := by
  rcases related_option paths with ⟨absent, absent'⟩ | ⟨own, others, shown, shown', pair⟩
  · rw [SamePathCount, absent, absent']
  · rw [SamePathCount, shown, shown', Option.map_some, Option.map_some, pair.length_eq]

theorem total_paths_congr {map other : MultipathMap}
    (groups : Option.Rel (List.Forall₂ SamePathCount) map.pathGroups other.pathGroups) :
    totalPaths other = totalPaths map := by
  rcases related_option groups with ⟨absent, absent'⟩ | ⟨pgs, others, shown, shown', pair⟩
  · rw [totalPaths, totalPaths, absent, absent']
  · have counts : List.Forall₂ Eq
        (pgs.map fun group => (group.paths.map List.length).getD 0)
        (others.map fun group => (group.paths.map List.length).getD 0) := by
      rw [List.forall₂_map_left_iff, List.forall₂_map_right_iff]
      exact pair.imp fun group other same => same.symm
    rw [List.forall₂_eq_eq_eq] at counts
    rw [totalPaths, totalPaths, shown, shown']
    exact congrArg List.sum counts.symm

def RunRelated (Related : MultipathMap → MultipathMap → Prop) (left right : ℕ → Call) : Prop :=
  ∀ index, (right index).activeLuns = (left index).activeLuns ∧
    List.Forall₂ Related (left index).maps (right index).maps

section Related

variable {Related : MultipathMap → MultipathMap → Prop} (worsens : Worsens Related)
  (maxFailures : UInt64) (targetWwids : Finset String) {left right : ℕ → Call}
  (relation : RunRelated Related left right)

include worsens

theorem answers_to_related (part : String) (map other : MultipathMap)
    (partners : Related map other) : answersTo part map = answersTo part other := by
  rw [answersTo, answersTo, worsens.name partners, worsens.uuid partners]

include relation

theorem monitored_at_related (index : ℕ) :
    List.Forall₂ Related (monitoredAt targetWwids left index)
      (monitoredAt targetWwids right index) := by
  obtain ⟨luns, maps⟩ := relation index
  unfold monitoredAt monitoredMaps
  rw [luns]
  apply List.rel_filter _ maps
  intro map other partners
  simp only [isActive, isTargeted, lunNames, worsens.name partners, worsens.uuid partners]

theorem monitors_at_related (name : String) (index : ℕ) :
    MonitorsAt targetWwids right name index ↔ MonitorsAt targetWwids left name index := by
  have related := monitored_at_related worsens targetWwids relation index
  constructor
  · intro monitors
    obtain ⟨other, member, named⟩ := monitors
    obtain ⟨map, mapMember, partners⟩ := related_mem related member
    exact ⟨map, mapMember, worsens.name partners ▸ named⟩
  · intro monitors
    obtain ⟨map, member, named⟩ := monitors
    obtain ⟨other, otherMember, partners⟩ := related_mem related.flip member
    exact ⟨other, otherMember, (worsens.name partners).trans named⟩

theorem counted_dead_of_related {index : ℕ} {name : String}
    (latch : Latched targetWwids right name (index + 1) →
      Latched targetWwids left name (index + 1))
    (dead : CountedDead (fencerAt maxFailures targetWwids right index)
      (monitoredAt targetWwids right index) name) :
    CountedDead (fencerAt maxFailures targetWwids left index)
      (monitoredAt targetWwids left index) name := by
  rw [counted_dead_at_iff] at dead ⊢
  obtain ⟨other, found, why⟩ := dead
  have related := List.rel_reverse (monitored_at_related worsens targetWwids relation index)
  obtain ⟨map, mapFound, partners⟩ := related_find related
    (fun map other partners => by rw [worsens.name partners]) found
  exact ⟨map, mapFound, why.imp (worsens.dead partners) latch⟩

theorem fails_at_of_related {index : ℕ}
    (latch : ∀ name, Latched targetWwids right name (index + 1) →
      Latched targetWwids left name (index + 1))
    (fails : FailsAt maxFailures targetWwids right index) :
    FailsAt maxFailures targetWwids left index := by
  have related := monitored_at_related worsens targetWwids relation index
  have failed : ∀ lun, LunFailed (fencerAt maxFailures targetWwids right index)
      (monitoredAt targetWwids right index) lun →
      LunFailed (fencerAt maxFailures targetWwids left index)
        (monitoredAt targetWwids left index) lun := by
    intro lun lunFailed
    obtain ⟨part, member, other, found, dead⟩ := lunFailed
    obtain ⟨map, mapFound, partners⟩ :=
      related_find related (answers_to_related worsens part) found
    refine ⟨part, member, map, mapFound, ?_⟩
    exact counted_dead_of_related worsens maxFailures targetWwids relation (latch map.name)
      (worsens.name partners ▸ dead)
  rw [fails_at_iff_lun_failed, (relation index).1] at fails
  rw [fails_at_iff_lun_failed]
  obtain ⟨some, condition⟩ := fails
  constructor
  · intro none
    rw [none] at related
    exact some (List.forall₂_nil_left_iff.mp related)
  · cases condition with
    | inl spanned =>
        obtain ⟨lun, member, plus, lunFailed⟩ := spanned
        exact Or.inl ⟨lun, member, plus, failed lun lunFailed⟩
    | inr all => exact Or.inr fun lun member => failed lun (all lun member)

theorem latched_of_same_paths
    (counts : ∀ map other, Related map other → totalPaths other = totalPaths map)
    {name : String} {count : ℕ} (latched : Latched targetWwids right name count) :
    Latched targetWwids left name count := by
  have monitors : ∀ step, MonitorsAt targetWwids right name step →
      MonitorsAt targetWwids left name step := fun step =>
    (monitors_at_related worsens targetWwids relation name step).mp
  have lists : ∀ {before before' : List MultipathMap}, List.Forall₂ Related before before' →
      ListsPaths before' name → ListsPaths before name := by
    intro before before' related listed
    obtain ⟨other, member, named, some⟩ := listed
    obtain ⟨map, mapMember, partners⟩ := related_mem related member
    exact ⟨map, mapMember, worsens.name partners ▸ named, counts map other partners ▸ some⟩
  have shown : ∀ step, Shown targetWwids right name step → Shown targetWwids left name step :=
    fun step => since_mono (fun earlier _ => monitors earlier)
      (fun earlier _ => lists (monitored_at_related worsens targetWwids relation earlier))
  apply since_mono (fun step _ => monitors step) _ latched
  intro step _ loses
  obtain ⟨before', other, after', split', named, empty, seen⟩ := loses
  have related := monitored_at_related worsens targetWwids relation step
  rw [split'] at related
  obtain ⟨before, map, after, split, front, partners, -⟩ := related_split related
  exact ⟨before, map, after, split, worsens.name partners ▸ named,
    (counts map other partners).symm.trans empty, seen.imp (shown step) (lists front)⟩

omit relation worsens

variable {maxFailures targetWwids}

theorem fences_at_of_fails {index : ℕ}
    (fails : ∀ step, step ≤ index → FailsAt maxFailures targetWwids right step →
      FailsAt maxFailures targetWwids left step)
    (fences : fencesAt maxFailures targetWwids right index = true) :
    fencesAt maxFailures targetWwids left index = true := by
  rw [fences_at_iff_fails] at fences ⊢
  obtain ⟨failed, long⟩ := fences
  have longer : streak (FailsAt maxFailures targetWwids right) index ≤
      streak (FailsAt maxFailures targetWwids left) index :=
    streak_mono _ fun step before => fails step before.le
  exact ⟨fails index (Nat.le_refl index) failed, by omega⟩

theorem consecutive_failures_of_fails {count : ℕ}
    (fails : ∀ step, step < count → FailsAt maxFailures targetWwids right step →
      FailsAt maxFailures targetWwids left step) :
    (fencerAt maxFailures targetWwids right count).consecutiveFailures ≤
      (fencerAt maxFailures targetWwids left count).consecutiveFailures := by
  rw [UInt64.le_iff_toNat_le, consecutive_failures_at, consecutive_failures_at]
  exact min_le_min_right _ (streak_mono _ fails)

end Related

end PveSanFenced.FencerRelated
