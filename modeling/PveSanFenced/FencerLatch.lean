import PveSanFenced.FencerHistory

/-!
# How long a latch lasts

A LUN that lost all its paths is to count as broken for as long as it is in
use. The latch is kept per map name and pruned to the names that the current
answer monitors, so it lasts exactly until an answer leaves the map out.
-/

namespace PveSanFenced.FencerLatch

open PveSanFenced.FencerCycle
open PveSanFenced.FencerHistory
open PveSanFenced.FencerModel
open PveSanFenced.Library.Collections
open PveSanFenced.Library.Runs
open PveSanFenced.Multipath
open PveSanFenced.Status

set_option autoImplicit false

section Latch

variable (maxFailures : UInt64) (targetWwids : Finset String) (calls : ℕ → Call)

/-- The name lost its paths anew in a cycle after `first` and has been
monitored since. -/
def LatchedAgain (name : String) (first last : ℕ) : Prop :=
  ∃ again, first < again ∧ again ≤ last ∧
    LosesPaths (Shown targetWwids calls name again) (monitoredAt targetWwids calls again) name ∧
    ∀ step, again ≤ step → step ≤ last → MonitorsAt targetWwids calls name step

/-- A latch taken by `first` is still there after `last` exactly when no
answer in between left the name out, or the name was latched again. -/
theorem latched_later_iff {name : String} {first last : ℕ} (ordered : first ≤ last)
    (latched : Latched targetWwids calls name (first + 1)) :
    Latched targetWwids calls name (last + 1) ↔
      (∀ step, first < step → step ≤ last → MonitorsAt targetWwids calls name step) ∨
        LatchedAgain targetWwids calls name first last := by
  constructor
  · rintro ⟨start, before, loses, kept⟩
    rcases Nat.lt_or_ge first start with later | earlier
    · exact Or.inr ⟨start, later, by omega, loses, fun step lower upper =>
        kept step lower (by omega)⟩
    · exact Or.inl fun step lower upper => kept step (by omega) (by omega)
  · rintro (kept | ⟨again, later, within, loses, kept⟩)
    · exact since_persists latched (fun step lower upper => kept step (by omega) (by omega))
        (by omega)
    · exact ⟨again, by omega, loses, fun step lower upper => kept step lower (by omega)⟩

theorem monitors_at_of_reported {map : MultipathMap} {lun : String} {index : ℕ}
    (targeted : isTargeted targetWwids map = true) (named : lunNames lun map = true)
    (inUse : lun ∈ (calls index).activeLuns) {entry : MultipathMap}
    (reported : entry ∈ (calls index).maps)
    (same : entry.name = map.name ∧ entry.uuid = map.uuid) :
    MonitorsAt targetWwids calls map.name index := by
  refine ⟨entry, (mem_monitored_maps _ _ _ _).mpr ⟨reported, ⟨lun, inUse, ?_⟩, ?_⟩, same.1⟩
  · rw [lunNames, same.1, same.2]
    exact named
  · rw [isTargeted, same.1, same.2]
    exact targeted

/-- A map latched by cycle `first` whose LUN stays in use counts as dead in a
later cycle that reports it exactly when every answer in between monitored its
name, or its own entry is dead, or it has been latched again. -/
theorem latch_survives_iff (map : MultipathMap) (lun : String) (first last : ℕ)
    (targeted : isTargeted targetWwids map = true) (named : lunNames lun map = true)
    (latched : map.name ∈
      (fencerAt maxFailures targetWwids calls (first + 1)).permanentlyBrokenLuns)
    (later : first < last)
    (inUse : ∀ step, first ≤ step → step ≤ last → lun ∈ (calls step).activeLuns)
    (reported : ∃ entry ∈ (calls last).maps, entry.name = map.name ∧ entry.uuid = map.uuid) :
    (fencerAt maxFailures targetWwids calls (last + 1)).previousMapStates.lookup map.name =
        some true ↔
      (∀ step, first < step → step < last → MonitorsAt targetWwids calls map.name step) ∨
        (∃ entry, lastNamed (monitoredAt targetWwids calls last) map.name = some entry ∧
          mapDead entry) ∨
        LatchedAgain targetWwids calls map.name first last := by
  obtain ⟨entry, member, same⟩ := reported
  have monitors := monitors_at_of_reported targetWwids calls targeted named
    (inUse last (by omega) (Nat.le_refl last)) member same
  have between : (∀ step, first < step → step ≤ last →
      MonitorsAt targetWwids calls map.name step) ↔
      ∀ step, first < step → step < last → MonitorsAt targetWwids calls map.name step := by
    refine ⟨fun all step lower upper => all step lower (by omega), fun all step lower upper => ?_⟩
    rcases Nat.lt_or_eq_of_le upper with inside | rfl
    · exact all step lower inside
    · exact monitors
  have known : ∃ entry, lastNamed (monitoredAt targetWwids calls last) map.name = some entry := by
    obtain ⟨entry, member, named⟩ := monitors
    refine Option.isSome_iff_exists.mp (List.find?_isSome.mpr ?_)
    exact ⟨entry, List.mem_reverse.mpr member, beq_iff_eq.mpr named⟩
  rw [permanently_broken_luns_at] at latched
  rw [previous_states_at, counted_dead_at_iff,
    latched_later_iff targetWwids calls later.le latched, between]
  obtain ⟨entry, found⟩ := known
  simp only [found, Option.some.injEq, exists_eq_left']
  tauto

end Latch

section ForgottenLatch

private def answer (maps : List MultipathMap) : Call where
  tracker := StatusTracker.new
  maps := maps
  activeLuns := {"mpatha"}

private def mpatha (pathGroups : Option (List PathGroup)) : MultipathMap where
  name := "mpatha"
  uuid := "36001"
  pathGroups := pathGroups
  vend := none
  prod := none

private def running : Option (List PathGroup) := some [⟨some "active", some [⟨some "active"⟩]⟩]

def returning : ℕ → Call
  | 1 => answer [mpatha (some [])]
  | _ => answer [mpatha running]

def unreported : ℕ → Call
  | 1 => answer [mpatha (some [])]
  | 2 => answer []
  | _ => answer [mpatha running]

/-- One answer without the map is enough to forget that it is broken. -/
theorem latch_forgotten :
    "mpatha" ∈ (fencerAt 3 ∅ unreported 2).permanentlyBrokenLuns ∧
      (∀ step, 1 ≤ step → step ≤ 3 → "mpatha" ∈ (unreported step).activeLuns) ∧
      (unreported 3).maps = [mpatha running] ∧
      (fencerAt 3 ∅ unreported 4).previousMapStates.lookup "mpatha" = some false := by
  refine ⟨by decide +kernel, by decide, rfl, by decide +kernel⟩

theorem latch_survives_returning :
    (fencerAt 3 ∅ returning 4).previousMapStates.lookup "mpatha" = some true := by
  have survives := latch_survives_iff 3 ∅ returning (mpatha running) "mpatha" 1 3 (by decide)
    (by decide) (by decide +kernel) (by decide) (by decide) ⟨mpatha running, by decide, rfl, rfl⟩
  refine survives.mpr (Or.inl fun step lower upper => ?_)
  obtain rfl : step = 2 := by omega
  exact ⟨mpatha running, by decide, rfl⟩

end ForgottenLatch

end PveSanFenced.FencerLatch
