import PveSanFenced.ConfigCheck
import PveSanFenced.Discovery
import PveSanFenced.FencerCycle

/-!
# The keys of the active LUN set

Discovery turns the multipath devices behind a disk into one text, splits that
text again and joins it into a key; the fencer and the configuration check
take the key apart once more. This module follows a set of names through all
of it.
-/

namespace PveSanFenced.LunKeys

open PveSanFenced.ConfigCheck
open PveSanFenced.Discovery
open PveSanFenced.Disks
open PveSanFenced.FencerCycle
open PveSanFenced.FencerModel
open PveSanFenced.Library.Collections
open PveSanFenced.Library.Text
open PveSanFenced.Multipath

set_option autoImplicit false

section ReadBack

theorem split_key_of {mpaths : Finset String} (some : mpaths.Nonempty)
    (free : ∀ name ∈ mpaths, '+' ∉ name.toList) :
    splitChar '+' (keyOf mpaths) = sorted mpaths :=
  split_char_intercalate (sorted_ne_nil some) fun name member =>
    free name ((mem_sorted mpaths name).mp member)

theorem lun_parts_eq_split_char (lun : String) : lunParts lun = splitChar '+' lun := by
  unfold lunParts
  by_cases spanned : containsChar lun '+' = true
  · rw [if_pos spanned]
  · rw [if_neg spanned, split_char_of_not_mem (mt (contains_char_iff _ _).mpr spanned)]

theorem lun_names_iff_mem_split (lun : String) (map : MultipathMap) :
    lunNames lun map = true ↔ map.name ∈ splitChar '+' lun ∨ map.uuid ∈ splitChar '+' lun := by
  rw [lun_names_iff, lun_parts_eq_split_char]
  simp only [answersTo, Bool.or_eq_true, beq_iff_eq]
  constructor
  · intro named
    obtain ⟨part, member, rfl | rfl⟩ := named
    · exact Or.inl member
    · exact Or.inr member
  · intro named
    cases named with
    | inl name => exact ⟨map.name, name, Or.inl rfl⟩
    | inr uuid => exact ⟨map.uuid, uuid, Or.inr rfl⟩

theorem group_failed_eq_any (monitored : List MultipathMap)
    (mapDeadStates : HashMap String Bool) (lun : String) :
    groupFailed monitored mapDeadStates lun =
      (splitChar '+' lun).any (memberFailed monitored mapDeadStates) := by
  unfold groupFailed
  by_cases spanned : containsChar lun '+' = true
  · rw [if_pos spanned]
  · rw [if_neg spanned, split_char_of_not_mem (mt (contains_char_iff _ _).mpr spanned)]
    simp

def mapsOf (mpaths : Finset String) (maps : List MultipathMap) : List MultipathMap :=
  maps.filter fun map => decide (map.name ∈ mpaths ∨ map.uuid ∈ mpaths)

/-- The fencer and the configuration check read a key as the set it was made
from: they select its maps from every response, and treat it as spanned, so
that one dead member fails it, exactly when it has several members. -/
def ReadsBack (mpaths : Finset String) (key : String) : Prop :=
  (∀ maps, monitoredMaps ∅ maps {key} = mapsOf mpaths maps) ∧
    (∀ maps, configMonitoredMaps maps {key} = mapsOf mpaths maps) ∧
    (containsChar key '+' = true ↔ 2 ≤ mpaths.card) ∧
    ∀ monitored mapDeadStates, groupFailed monitored mapDeadStates key = true ↔
      ∃ name ∈ mpaths, memberFailed monitored mapDeadStates name = true

theorem reads_back_of_free {mpaths : Finset String} (some : mpaths.Nonempty)
    (free : ∀ name ∈ mpaths, '+' ∉ name.toList) : ReadsBack mpaths (keyOf mpaths) := by
  have parts := split_key_of some free
  have names : ∀ map : MultipathMap, lunNames (keyOf mpaths) map =
      decide (map.name ∈ mpaths ∨ map.uuid ∈ mpaths) := by
    intro map
    rw [Bool.eq_iff_iff, lun_names_iff_mem_split, parts, mem_sorted, mem_sorted,
      decide_eq_true_iff]
  refine ⟨?_, ?_, ?_, ?_⟩
  · intro maps
    simp [monitoredMaps, isActive, isTargeted, mapsOf, names]
  · intro maps
    unfold configMonitoredMaps mapsOf
    apply List.filter_congr
    intro map _
    rw [← names map, Bool.eq_iff_iff]
    simp [isActive]
  · rw [contains_char_iff, ← two_le_split_char_iff, parts, sorted_length]
  · intro monitored mapDeadStates
    rw [group_failed_eq_any, parts]
    simp

theorem free_of_reads_back {mpaths : Finset String} {key : String}
    (back : ReadsBack mpaths key) : ∀ name ∈ mpaths, '+' ∉ name.toList := by
  intro name member plus
  -- a map that has the name for its uuid too is in the set, and no part of the key names it
  have selected := back.2.1 [⟨name, name, none, none, none⟩]
  have named : lunNames key ⟨name, name, none, none, none⟩ = true := by
    have kept : (⟨name, name, none, none, none⟩ : MultipathMap) ∈
        configMonitoredMaps [⟨name, name, none, none, none⟩] {key} := by
      rw [selected]
      simp [mapsOf, member]
    simpa [configMonitoredMaps, isActive] using kept
  rw [lun_names_iff_mem_split, or_self] at named
  exact not_mem_split_char named plus

/-- For names as discovery finds them, the key is read back correctly exactly
when no name holds a `+`. -/
theorem lun_key_reads_back_iff (mpaths : Finset String) (some : mpaths.Nonempty)
    (legal : ∀ name ∈ mpaths, '/' ∉ name.toList) :
    ∃ key, lunKey (deviceMapperName mpaths) = Option.some key ∧
      (ReadsBack mpaths key ↔ ∀ name ∈ mpaths, '+' ∉ name.toList) := by
  have unbroken : ∀ name ∈ mpaths, Unbroken " / ".toList name.toList := fun name member =>
    unbroken_slash (legal name member)
  exact ⟨keyOf mpaths, lun_key_device_mapper_name some unbroken,
    free_of_reads_back, reads_back_of_free some⟩

end ReadBack

section PlusInName

theorem lun_key_reads_back_iff_spanned :
    ∃ key, lunKey (deviceMapperName {"mpatha", "mpathb"}) = some key ∧
      ReadsBack {"mpatha", "mpathb"} key := by
  obtain ⟨key, made, back⟩ := lun_key_reads_back_iff {"mpatha", "mpathb"} (by decide) (by decide)
  exact ⟨key, made, back.mpr (by decide)⟩

/-- A single multipath device with a `+` in its name is not monitored at all. -/
theorem plus_name_unmonitored :
    lunKey (deviceMapperName {"mpath+a"}) = some "mpath+a" ∧
      monitoredMaps ∅ [⟨"mpath+a", "36001", none, none, none⟩] {"mpath+a"} = [] ∧
      ¬ReadsBack {"mpath+a"} "mpath+a" := by
  refine ⟨by decide, by decide, ?_⟩
  intro back
  exact absurd (back.1 [⟨"mpath+a", "36001", none, none, none⟩]) (by decide)

end PlusInName

end PveSanFenced.LunKeys
