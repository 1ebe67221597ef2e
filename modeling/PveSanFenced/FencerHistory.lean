import PveSanFenced.FencerCycle
import PveSanFenced.Library.Runs

/-!
# The fencer's state as a function of the past calls

A run of the fencer is a stream of calls. The sets the source keeps and prunes
are exactly `Since` statements about the calls already made, and the counter
is the streak of failing cycles up to `u64::MAX`. Other code writes to the
tracker between two calls, so each call brings the tracker it finds.
-/

namespace PveSanFenced.FencerHistory

open PveSanFenced.FencerCycle
open PveSanFenced.FencerModel
open PveSanFenced.Library.Fixed
open PveSanFenced.Library.Runs
open PveSanFenced.Library.Text
open PveSanFenced.Multipath
open PveSanFenced.Status

set_option autoImplicit false

structure Call where
  tracker : StatusTracker
  maps : List MultipathMap
  activeLuns : Finset String

def fencerMachine : Machine Fencer Call Bool where
  step fencer call :=
    let result := updateWithMaps fencer call.tracker call.maps call.activeLuns
    (result.fencer, result.fence)

section Run

variable (maxFailures : UInt64) (targetWwids : Finset String) (calls : ℕ → Call)

def fencerAt (count : ℕ) : Fencer :=
  fencerMachine.stateAt (Fencer.new maxFailures targetWwids) calls count

def fencesAt (index : ℕ) : Bool :=
  fencerMachine.outputAt (Fencer.new maxFailures targetWwids) calls index

def monitoredAt (index : ℕ) : List MultipathMap :=
  monitoredMaps targetWwids (calls index).maps (calls index).activeLuns

def MonitorsAt (name : String) (index : ℕ) : Prop :=
  MonitorsName targetWwids (calls index).maps (calls index).activeLuns name

/-- Before call number `count`, a path of this name was listed and the name
has been monitored ever since. -/
def Shown (name : String) (count : ℕ) : Prop :=
  Since (MonitorsAt targetWwids calls name)
    (fun index => ListsPaths (monitoredAt targetWwids calls index) name) count

/-- Before call number `count`, the name lost the paths it had shown and has
been monitored ever since. -/
def Latched (name : String) (count : ℕ) : Prop :=
  Since (MonitorsAt targetWwids calls name)
    (fun index => LosesPaths (Shown targetWwids calls name index)
      (monitoredAt targetWwids calls index) name) count

theorem shown_succ (name : String) (count : ℕ) :
    Shown targetWwids calls name (count + 1) ↔
      MonitorsAt targetWwids calls name count ∧
        (ListsPaths (monitoredAt targetWwids calls count) name ∨
          Shown targetWwids calls name count) :=
  since_succ count

theorem latched_succ (name : String) (count : ℕ) :
    Latched targetWwids calls name (count + 1) ↔
      MonitorsAt targetWwids calls name count ∧
        (LosesPaths (Shown targetWwids calls name count)
            (monitoredAt targetWwids calls count) name ∨
          Latched targetWwids calls name count) :=
  since_succ count

@[simp] theorem fencer_at_zero :
    fencerAt maxFailures targetWwids calls 0 = Fencer.new maxFailures targetWwids := rfl

theorem fencer_at_succ (count : ℕ) :
    fencerAt maxFailures targetWwids calls (count + 1) =
      (updateWithMaps (fencerAt maxFailures targetWwids calls count) (calls count).tracker
        (calls count).maps (calls count).activeLuns).fencer := rfl

@[simp] theorem fencer_at_settings (count : ℕ) :
    (fencerAt maxFailures targetWwids calls count).maxFailures = maxFailures ∧
      (fencerAt maxFailures targetWwids calls count).targetWwids = targetWwids := by
  apply fencerMachine.run_invariant fun _ fencer =>
    fencer.maxFailures = maxFailures ∧ fencer.targetWwids = targetWwids
  · exact ⟨rfl, rfl⟩
  · intro count fencer settings
    have kept := update_with_maps_max_failures fencer (calls count).tracker (calls count).maps
      (calls count).activeLuns
    have kept' := update_with_maps_target_wwids fencer (calls count).tracker (calls count).maps
      (calls count).activeLuns
    exact ⟨kept.trans settings.1, kept'.trans settings.2⟩

theorem had_working_paths_at (name : String) (count : ℕ) :
    name ∈ (fencerAt maxFailures targetWwids calls count).hadWorkingPaths ↔
      Shown targetWwids calls name count := by
  induction count with
  | zero => simp [Fencer.new, Shown]
  | succ count ih =>
      rw [fencer_at_succ, update_with_maps_had_working_paths, ih,
        (fencer_at_settings maxFailures targetWwids calls count).2, shown_succ]
      rfl

theorem permanently_broken_luns_at (name : String) (count : ℕ) :
    name ∈ (fencerAt maxFailures targetWwids calls count).permanentlyBrokenLuns ↔
      Latched targetWwids calls name count := by
  induction count with
  | zero => simp [Fencer.new, Latched]
  | succ count ih =>
      rw [fencer_at_succ, update_with_maps_permanently_broken_luns, ih, had_working_paths_at,
        (fencer_at_settings maxFailures targetWwids calls count).2, latched_succ]
      rfl

def FailsAt (index : ℕ) : Prop :=
  CycleFails (fencerAt maxFailures targetWwids calls index) (calls index).maps
    (calls index).activeLuns

instance : DecidablePred (FailsAt maxFailures targetWwids calls) := fun index =>
  inferInstanceAs (Decidable (CycleFails (fencerAt maxFailures targetWwids calls index)
    (calls index).maps (calls index).activeLuns))

theorem fails_at_iff_lun_failed (index : ℕ) :
    FailsAt maxFailures targetWwids calls index ↔
      monitoredAt targetWwids calls index ≠ [] ∧
        ((∃ lun ∈ (calls index).activeLuns, containsChar lun '+' = true ∧
            LunFailed (fencerAt maxFailures targetWwids calls index)
              (monitoredAt targetWwids calls index) lun) ∨
          ∀ lun ∈ (calls index).activeLuns,
            LunFailed (fencerAt maxFailures targetWwids calls index)
              (monitoredAt targetWwids calls index) lun) := by
  rw [FailsAt, CycleFails, (fencer_at_settings maxFailures targetWwids calls index).2]
  rfl

theorem consecutive_failures_at (count : ℕ) :
    (fencerAt maxFailures targetWwids calls count).consecutiveFailures.toNat =
      min (streak (FailsAt maxFailures targetWwids calls) count) maxWord := by
  refine capped_counter_eq_streak (FailsAt maxFailures targetWwids calls) maxWord
    (fun count => (fencerAt maxFailures targetWwids calls count).consecutiveFailures.toNat)
    rfl (fun count => ?_) count
  rw [fencer_at_succ, update_with_maps_consecutive_failures]
  by_cases fails : FailsAt maxFailures targetWwids calls count
  · have cycle : CycleFails (fencerAt maxFailures targetWwids calls count) (calls count).maps
        (calls count).activeLuns := fails
    rw [if_pos cycle, if_pos fails, saturating_add_to_nat, UInt64.toNat_one]
  · have cycle : ¬CycleFails (fencerAt maxFailures targetWwids calls count) (calls count).maps
        (calls count).activeLuns := fails
    rw [if_neg cycle, if_neg fails, UInt64.toNat_zero]

theorem fences_at_iff_fails (index : ℕ) :
    fencesAt maxFailures targetWwids calls index = true ↔
      FailsAt maxFailures targetWwids calls index ∧
        maxFailures.toNat ≤ streak (FailsAt maxFailures targetWwids calls) index + 1 := by
  have bound := word_le_max maxFailures
  have answer := update_with_maps_fence (fencerAt maxFailures targetWwids calls index)
    (calls index).tracker (calls index).maps (calls index).activeLuns
  rw [(fencer_at_settings maxFailures targetWwids calls index).1, UInt64.le_iff_toNat_le,
    saturating_add_to_nat, consecutive_failures_at, UInt64.toNat_one] at answer
  apply answer.trans
  apply and_congr_right
  intro _
  omega

/-- A decision is a streak of at least `max_failures` failing cycles. -/
theorem fences_at_iff (positive : maxFailures ≠ 0) (index : ℕ) :
    fencesAt maxFailures targetWwids calls index = true ↔
      maxFailures.toNat ≤ streak (FailsAt maxFailures targetWwids calls) (index + 1) := by
  have one : 0 < maxFailures.toNat := by
    rw [Nat.pos_iff_ne_zero]
    exact fun zero => positive (UInt64.toNat_inj.mp zero)
  rw [fences_at_iff_fails, streak]
  by_cases fails : FailsAt maxFailures targetWwids calls index
  · rw [if_pos fails, and_iff_right fails]
  · rw [if_neg fails]
    simp only [fails, false_and, false_iff]
    omega

/-- Whether a name counts as dead at a call depends on the past only through
the latch: its last entry is dead, or it was latched by now. -/
theorem counted_dead_at_iff (name : String) (index : ℕ) :
    CountedDead (fencerAt maxFailures targetWwids calls index)
        (monitoredAt targetWwids calls index) name ↔
      ∃ map, lastNamed (monitoredAt targetWwids calls index) name = some map ∧
        (mapDead map ∨ Latched targetWwids calls name (index + 1)) := by
  unfold CountedDead
  apply exists_congr
  intro map
  apply and_congr_right
  intro found
  have monitors : MonitorsAt targetWwids calls name index := by
    refine ⟨map, List.mem_reverse.mp (List.mem_of_find?_eq_some found), ?_⟩
    simpa using List.find?_some found
  have latch : Latched targetWwids calls name (index + 1) ↔
      LosesPaths (Shown targetWwids calls name index) (monitoredAt targetWwids calls index) name ∨
        Latched targetWwids calls name index := by
    rw [latched_succ]
    exact and_iff_right monitors
  rw [permanently_broken_luns_at, had_working_paths_at, latch, or_comm (a := Latched _ _ _ _)]

theorem previous_states_at (name : String) (index : ℕ) :
    (fencerAt maxFailures targetWwids calls (index + 1)).previousMapStates.lookup name =
        some true ↔
      CountedDead (fencerAt maxFailures targetWwids calls index)
        (monitoredAt targetWwids calls index) name := by
  rw [fencer_at_succ, update_with_maps_previous_states, counted_dead_iff,
    (fencer_at_settings maxFailures targetWwids calls index).2]
  rfl

theorem previous_states_kept (name : String) (index : ℕ) :
    ((fencerAt maxFailures targetWwids calls (index + 1)).previousMapStates.lookup name).isSome =
        true ↔ MonitorsAt targetWwids calls name index := by
  rw [fencer_at_succ, update_with_maps_previous_states, evaluate_maps_dead_states,
    Option.isSome_map, (fencer_at_settings maxFailures targetWwids calls index).2, lastNamed,
    List.find?_isSome, MonitorsAt, MonitorsName]
  simp only [List.mem_reverse, beq_iff_eq]

end Run

end PveSanFenced.FencerHistory
