import PveSanFenced.FencerHistory

/-!
# LUNs outside the target set

`--target-wwids` restricts which maps are monitored. Two runs are compared
that differ only in active LUNs which no targeted map of the answer belongs
to. They monitor the same maps and keep the same sets; what differs is the
loop over the active LUNs, where such a LUN stands for a group that has not
failed.
-/

namespace PveSanFenced.FencerTargets

open PveSanFenced.FencerCycle
open PveSanFenced.FencerHistory
open PveSanFenced.FencerModel
open PveSanFenced.Library.Collections
open PveSanFenced.Library.Fixed
open PveSanFenced.Library.Runs
open PveSanFenced.Library.Text
open PveSanFenced.Multipath
open PveSanFenced.Status

set_option autoImplicit false

/-- All maps of the answer that the LUN names are untargeted. -/
def Excluded (targetWwids : Finset String) (maps : List MultipathMap) (lun : String) : Prop :=
  ∀ map ∈ maps, lunNames lun map = true → isTargeted targetWwids map = false

instance (targetWwids : Finset String) (maps : List MultipathMap) (lun : String) :
    Decidable (Excluded targetWwids maps lun) :=
  inferInstanceAs (Decidable (∀ map ∈ maps,
    lunNames lun map = true → isTargeted targetWwids map = false))

section TwoRuns

variable (targetWwids : Finset String) (calls pruned : ℕ → Call)

/-- The second run is the first with excluded LUNs removed from its active
sets: all of them, or any part of them. -/
def Pruned : Prop :=
  ∀ index, (pruned index).maps = (calls index).maps ∧
    (pruned index).activeLuns ⊆ (calls index).activeLuns ∧
    ∀ lun ∈ (calls index).activeLuns, lun ∉ (pruned index).activeLuns →
      Excluded targetWwids (calls index).maps lun

variable {targetWwids calls pruned} (relation : Pruned targetWwids calls pruned)

include relation

theorem monitored_at_pruned (index : ℕ) :
    monitoredAt targetWwids pruned index = monitoredAt targetWwids calls index := by
  obtain ⟨maps, fewer, excluded⟩ := relation index
  unfold monitoredAt monitoredMaps
  rw [maps]
  apply List.filter_congr
  intro map member
  rcases targeted : isTargeted targetWwids map with _ | _
  · rw [Bool.and_false, Bool.and_false]
  · rw [Bool.and_true, Bool.and_true, isActive, isActive, decide_eq_decide]
    constructor
    · rintro ⟨lun, active, named⟩
      exact ⟨lun, fewer active, named⟩
    · rintro ⟨lun, active, named⟩
      refine ⟨lun, ?_, named⟩
      by_contra removed
      have untargeted := excluded lun active removed map member named
      simp [targeted] at untargeted

theorem monitors_at_pruned (name : String) :
    MonitorsAt targetWwids pruned name = MonitorsAt targetWwids calls name := by
  funext index
  have monitored := monitored_at_pruned relation index
  unfold monitoredAt at monitored
  rw [MonitorsAt, MonitorsName, monitored]
  rfl

theorem shown_pruned (name : String) :
    Shown targetWwids pruned name = Shown targetWwids calls name := by
  funext index
  simp only [Shown, monitors_at_pruned relation, monitored_at_pruned relation]

theorem latched_pruned (name : String) :
    Latched targetWwids pruned name = Latched targetWwids calls name := by
  funext index
  simp only [Latched, monitors_at_pruned relation, monitored_at_pruned relation,
    shown_pruned relation]

variable (maxFailures : UInt64)

theorem counted_dead_pruned (index : ℕ) (name : String) :
    CountedDead (fencerAt maxFailures targetWwids pruned index)
        (monitoredAt targetWwids pruned index) name ↔
      CountedDead (fencerAt maxFailures targetWwids calls index)
        (monitoredAt targetWwids calls index) name := by
  rw [counted_dead_at_iff, counted_dead_at_iff, monitored_at_pruned relation,
    latched_pruned relation]

theorem lun_failed_pruned (index : ℕ) (lun : String) :
    LunFailed (fencerAt maxFailures targetWwids pruned index)
        (monitoredAt targetWwids pruned index) lun ↔
      LunFailed (fencerAt maxFailures targetWwids calls index)
        (monitoredAt targetWwids calls index) lun := by
  simp only [LunFailed, counted_dead_pruned relation]
  rw [monitored_at_pruned relation]

omit relation in
theorem excluded_not_failed {index : ℕ} {lun : String}
    (excluded : Excluded targetWwids (calls index).maps lun) :
    ¬LunFailed (fencerAt maxFailures targetWwids calls index)
      (monitoredAt targetWwids calls index) lun := by
  rintro ⟨part, member, map, found, -⟩
  obtain ⟨reported, -, targeted⟩ :=
    (mem_monitored_maps _ _ _ _).mp (List.mem_of_find?_eq_some found)
  have named := (lun_names_iff lun map).mpr ⟨part, member, List.find?_some found⟩
  have untargeted := excluded map reported named
  simp [targeted] at untargeted

omit relation in
variable (targetWwids calls pruned) in
/-- Every remaining LUN has failed, none of them is spanned, and an excluded
LUN is in use. -/
def HeldBack (index : ℕ) : Prop :=
  monitoredAt targetWwids calls index ≠ [] ∧
    (∃ lun ∈ (calls index).activeLuns, lun ∉ (pruned index).activeLuns) ∧
    ∀ lun ∈ (pruned index).activeLuns, containsChar lun '+' = false ∧
      LunFailed (fencerAt maxFailures targetWwids calls index)
        (monitoredAt targetWwids calls index) lun

variable (targetWwids calls pruned) in
omit relation in
/-- By the answers so far alone. -/
theorem held_back_iff (index : ℕ) : HeldBack targetWwids calls pruned maxFailures index ↔
    monitoredAt targetWwids calls index ≠ [] ∧
      (∃ lun ∈ (calls index).activeLuns, lun ∉ (pruned index).activeLuns) ∧
      ∀ lun ∈ (pruned index).activeLuns, containsChar lun '+' = false ∧
        ∃ part ∈ lunParts lun, ∃ map,
          (monitoredAt targetWwids calls index).find? (answersTo part) = some map ∧
            ∃ last, lastNamed (monitoredAt targetWwids calls index) map.name = some last ∧
              (mapDead last ∨ Latched targetWwids calls map.name (index + 1)) := by
  simp only [HeldBack, LunFailed, counted_dead_at_iff]

theorem fails_at_pruned_iff (index : ℕ) :
    FailsAt maxFailures targetWwids pruned index ↔
      FailsAt maxFailures targetWwids calls index ∨
        HeldBack targetWwids calls pruned maxFailures index := by
  obtain ⟨-, fewer, excluded⟩ := relation index
  rw [fails_at_iff_lun_failed, fails_at_iff_lun_failed]
  simp only [lun_failed_pruned relation]
  rw [monitored_at_pruned relation]
  constructor
  · rintro ⟨some, ⟨lun, active, spanned, failed⟩ | all⟩
    · exact Or.inl ⟨some, Or.inl ⟨lun, fewer active, spanned, failed⟩⟩
    · by_cases spannedFailed : ∃ lun ∈ (pruned index).activeLuns, containsChar lun '+' = true
      · obtain ⟨lun, active, spanned⟩ := spannedFailed
        exact Or.inl ⟨some, Or.inl ⟨lun, fewer active, spanned, all lun active⟩⟩
      · by_cases removed : ∃ lun ∈ (calls index).activeLuns, lun ∉ (pruned index).activeLuns
        · refine Or.inr ⟨some, removed, fun lun active => ⟨?_, all lun active⟩⟩
          exact Bool.eq_false_iff.mpr fun spanned => spannedFailed ⟨lun, active, spanned⟩
        · refine Or.inl ⟨some, Or.inr fun lun active => all lun ?_⟩
          by_contra gone
          exact removed ⟨lun, active, gone⟩
  · rintro (⟨some, ⟨lun, active, spanned, failed⟩ | all⟩ | ⟨some, -, all⟩)
    · refine ⟨some, Or.inl ⟨lun, ?_, spanned, failed⟩⟩
      by_contra gone
      exact excluded_not_failed maxFailures (excluded lun active gone) failed
    · exact ⟨some, Or.inr fun lun active => all lun (fewer active)⟩
    · exact ⟨some, Or.inr fun lun active => (all lun active).2⟩

omit relation in
theorem held_back_not_failing {index : ℕ} (relation : Pruned targetWwids calls pruned)
    (held : HeldBack targetWwids calls pruned maxFailures index) :
    ¬FailsAt maxFailures targetWwids calls index := by
  obtain ⟨-, fewer, excluded⟩ := relation index
  obtain ⟨-, ⟨lun, active, gone⟩, all⟩ := held
  rw [fails_at_iff_lun_failed]
  rintro ⟨-, ⟨spannedLun, spannedActive, spanned, failed⟩ | every⟩
  · by_cases kept : spannedLun ∈ (pruned index).activeLuns
    · have plain := (all spannedLun kept).1
      simp [spanned] at plain
    · exact excluded_not_failed maxFailures (excluded spannedLun spannedActive kept) failed
  · exact excluded_not_failed maxFailures (excluded lun active gone) (every lun active)

/-- Removing excluded LUNs leaves all answers and counters of a run unchanged
exactly when no cycle of the run is held back. -/
theorem pruned_run_agrees_iff (count : ℕ) :
    (∀ index, index < count →
      fencesAt maxFailures targetWwids pruned index =
          fencesAt maxFailures targetWwids calls index ∧
        (fencerAt maxFailures targetWwids pruned (index + 1)).consecutiveFailures =
          (fencerAt maxFailures targetWwids calls (index + 1)).consecutiveFailures) ↔
      ∀ index, index < count → ¬HeldBack targetWwids calls pruned maxFailures index := by
  constructor
  · intro agree index within held
    have counter := congrArg UInt64.toNat (agree index within).2
    have fails := (fails_at_pruned_iff relation maxFailures index).mpr (Or.inr held)
    rw [consecutive_failures_at, consecutive_failures_at, streak, streak, if_pos fails,
      if_neg (held_back_not_failing maxFailures relation held)] at counter
    simp only [maxWord] at counter
    omega
  · intro free
    have same : ∀ index, index < count → (FailsAt maxFailures targetWwids pruned index ↔
        FailsAt maxFailures targetWwids calls index) := by
      intro index within
      rw [fails_at_pruned_iff relation, or_iff_left (free index within)]
    have streaks : ∀ index, index ≤ count →
        streak (FailsAt maxFailures targetWwids pruned) index =
          streak (FailsAt maxFailures targetWwids calls) index := by
      intro index within
      refine Nat.le_antisymm (streak_mono _ fun step before => ?_)
        (streak_mono _ fun step before => ?_)
      · exact (same step (by omega)).mp
      · exact (same step (by omega)).mpr
    intro index within
    constructor
    · rw [Bool.eq_iff_iff, fences_at_iff_fails, fences_at_iff_fails, same index within,
        streaks index within.le]
    · rw [← UInt64.toNat_inj, consecutive_failures_at, consecutive_failures_at,
        streaks (index + 1) within]

end TwoRuns

section HealthyNeighbour

private def neighbours (activeLuns : Finset String) : Call where
  tracker := StatusTracker.new
  maps := [
    ⟨"mpatha", "36001", some [⟨some "active", some [⟨some "failed"⟩]⟩], none, none⟩,
    ⟨"mpathb", "36002", some [⟨some "active", some [⟨some "active"⟩]⟩], none, none⟩]
  activeLuns := activeLuns

def bothInUse : ℕ → Call := fun _ => neighbours {"mpatha", "mpathb"}

def targetInUse : ℕ → Call := fun _ => neighbours {"mpatha"}

theorem target_in_use_pruned : Pruned {"mpatha"} bothInUse targetInUse := by
  intro index
  refine ⟨rfl, ?_, ?_⟩
  · change ({"mpatha"} : Finset String) ⊆ {"mpatha", "mpathb"}
    decide
  · change ∀ lun ∈ ({"mpatha", "mpathb"} : Finset String), lun ∉ ({"mpatha"} : Finset String) →
      Excluded {"mpatha"} (neighbours {"mpatha"}).maps lun
    decide

/-- The only targeted LUN in use is dead, and it is the untargeted neighbour
that keeps the node from being fenced. -/
theorem neighbour_prevents_fencing : Pruned {"mpatha"} bothInUse targetInUse ∧
    fencesAt 1 {"mpatha"} targetInUse 0 = true ∧
      fencesAt 1 {"mpatha"} bothInUse 0 = false := by
  exact ⟨target_in_use_pruned, by decide +kernel, by decide +kernel⟩

theorem pruned_run_agrees_iff_neighbours :
    HeldBack {"mpatha"} bothInUse targetInUse 1 0 := by
  by_contra free
  have agree := (pruned_run_agrees_iff target_in_use_pruned 1 1).mpr fun index within => by
    obtain rfl : index = 0 := by omega
    exact free
  exact absurd (agree 0 (by decide)).1 (by decide +kernel)

end HealthyNeighbour

end PveSanFenced.FencerTargets
