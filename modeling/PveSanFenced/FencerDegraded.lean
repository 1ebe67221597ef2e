import PveSanFenced.FencerRelated

/-!
# Runs in which storage is worse

The second run below is the first with some states degraded: a path to
`failed`, `faulty` or `ghost`, a group to `offline` or `failed`. Every state
that counts as dead stays so, and no path appears or disappears, so the latch
is the same in both runs.
-/

namespace PveSanFenced.FencerDegraded

open PveSanFenced.FencerCycle
open PveSanFenced.FencerHistory
open PveSanFenced.FencerModel
open PveSanFenced.FencerRelated
open PveSanFenced.Library.Collections
open PveSanFenced.Library.Runs
open PveSanFenced.Multipath
open PveSanFenced.Status

set_option autoImplicit false

section OneMap

structure PathDegraded (path degraded : MpathPath) : Prop where
  dmSt : degraded.dmSt = path.dmSt ∨ degraded.dmSt = some "failed" ∨
    degraded.dmSt = some "faulty" ∨ degraded.dmSt = some "ghost"

structure GroupDegraded (group degraded : PathGroup) : Prop where
  dmSt : degraded.dmSt = group.dmSt ∨ degraded.dmSt = some "offline" ∨
    degraded.dmSt = some "failed"
  paths : Option.Rel (List.Forall₂ PathDegraded) group.paths degraded.paths

/-- `degraded` is `map` with some of its `dm_st` values worse. -/
structure MapDegraded (map degraded : MultipathMap) : Prop where
  name : degraded.name = map.name
  uuid : degraded.uuid = map.uuid
  vend : degraded.vend = map.vend
  prod : degraded.prod = map.prod
  pathGroups : Option.Rel (List.Forall₂ GroupDegraded) map.pathGroups degraded.pathGroups

theorem path_failed_degraded {path degraded : MpathPath} (relation : PathDegraded path degraded)
    (failed : pathFailed path) : pathFailed degraded := by
  cases relation.dmSt with
  | inl same => rwa [pathFailed, same]
  | inr worse => exact worse

theorem group_dead_degraded {group degraded : PathGroup} (relation : GroupDegraded group degraded)
    (dead : groupDead group) : groupDead degraded := by
  rcases relation.dmSt with same | offline | failed
  · rcases dead with offline | failed | noneActive
    · exact Or.inl (same.trans offline)
    · exact Or.inr (Or.inl (same.trans failed))
    · apply Or.inr
      apply Or.inr
      intro paths listed path member
      rcases related_option relation.paths with ⟨-, absent⟩ | ⟨own, others, shown, other, pair⟩
      · rw [absent] at listed
        cases listed
      · obtain rfl : others = paths := Option.some.inj (other.symm.trans listed)
        obtain ⟨before, beforeMember, partners⟩ := related_mem pair member
        exact path_failed_degraded partners (noneActive own shown before beforeMember)
  · exact Or.inl offline
  · exact Or.inr (Or.inl failed)

theorem map_dead_degraded {map degraded : MultipathMap} (relation : MapDegraded map degraded)
    (dead : mapDead map) : mapDead degraded := by
  obtain ⟨pgs, listed, allDead⟩ := dead
  rcases related_option relation.pathGroups with ⟨absent, -⟩ | ⟨own, others, shown, other, pair⟩
  · rw [absent] at listed
    cases listed
  · obtain rfl : own = pgs := Option.some.inj (shown.symm.trans listed)
    refine ⟨others, other, ?_⟩
    intro group member
    obtain ⟨before, beforeMember, partners⟩ := related_mem pair member
    exact group_dead_degraded partners (allDead before beforeMember)

theorem total_paths_degraded {map degraded : MultipathMap} (relation : MapDegraded map degraded) :
    totalPaths degraded = totalPaths map := by
  apply total_paths_congr
  apply related_option_imp relation.pathGroups
  intro pgs pgs' pair
  exact pair.imp fun group group' partners => same_path_count_of_related partners.paths

theorem degraded_worsens : Worsens (flip MapDegraded) where
  name relation := relation.name.symm
  uuid relation := relation.uuid.symm
  dead relation := map_dead_degraded relation

end OneMap

section TwoRuns

variable {targetWwids : Finset String} {calls degraded : ℕ → Call}

def RunDegraded (calls degraded : ℕ → Call) : Prop :=
  ∀ index, (degraded index).activeLuns = (calls index).activeLuns ∧
    List.Forall₂ MapDegraded (calls index).maps (degraded index).maps

theorem run_related (relation : RunDegraded calls degraded) :
    RunRelated (flip MapDegraded) degraded calls := by
  intro index
  obtain ⟨luns, maps⟩ := relation index
  exact ⟨luns.symm, maps.flip⟩

theorem fails_at_degraded (relation : RunDegraded calls degraded) (maxFailures : UInt64)
    (index : ℕ) (fails : FailsAt maxFailures targetWwids calls index) :
    FailsAt maxFailures targetWwids degraded index := by
  have related := run_related relation
  apply fails_at_of_related degraded_worsens maxFailures targetWwids related _ fails
  intro name
  apply latched_of_same_paths degraded_worsens targetWwids related
  exact fun _ _ partners => (total_paths_degraded partners).symm

/-- Worse storage never averts a decision, and it never lowers the counter. -/
theorem degraded_run_fences (maxFailures : UInt64) (targetWwids : Finset String)
    (calls degraded : ℕ → Call) (relation : RunDegraded calls degraded) :
    (∀ index, fencesAt maxFailures targetWwids calls index = true →
        fencesAt maxFailures targetWwids degraded index = true) ∧
      ∀ count, (fencerAt maxFailures targetWwids calls count).consecutiveFailures ≤
        (fencerAt maxFailures targetWwids degraded count).consecutiveFailures := by
  constructor
  · intro index
    exact fences_at_of_fails fun step _ => fails_at_degraded relation maxFailures step
  · intro count
    exact consecutive_failures_of_fails fun step _ =>
      fails_at_degraded relation maxFailures step

end TwoRuns

section Witness

private def answer (groupState pathState : String) : Call where
  tracker := StatusTracker.new
  maps := [⟨"mpatha", "36001", some [⟨some groupState, some [⟨some pathState⟩]⟩], none, none⟩]
  activeLuns := {"mpatha"}

def flapping : ℕ → Call
  | 2 => answer "active" "active"
  | _ => answer "active" "failed"

/-- The same run with the group offline when the path is back. -/
def offline : ℕ → Call
  | 2 => answer "offline" "active"
  | _ => answer "active" "faulty"

theorem flapping_degraded : RunDegraded flapping offline := by
  have one : ∀ {state path state' path' : String},
      GroupDegraded ⟨some state, some [⟨some path⟩]⟩ ⟨some state', some [⟨some path'⟩]⟩ →
        List.Forall₂ MapDegraded (answer state path).maps (answer state' path').maps := by
    intro state path state' path' group
    exact .cons ⟨rfl, rfl, rfl, rfl, .some (.cons group .nil)⟩ .nil
  have worsePath : GroupDegraded ⟨some "active", some [⟨some "failed"⟩]⟩
      ⟨some "active", some [⟨some "faulty"⟩]⟩ :=
    ⟨.inl rfl, .some (.cons ⟨.inr (.inr (.inl rfl))⟩ .nil)⟩
  have worseGroup : GroupDegraded ⟨some "active", some [⟨some "active"⟩]⟩
      ⟨some "offline", some [⟨some "active"⟩]⟩ :=
    ⟨.inr (.inl rfl), .some (.cons ⟨.inl rfl⟩ .nil)⟩
  intro index
  match index with
  | 0 => exact ⟨rfl, one worsePath⟩
  | 1 => exact ⟨rfl, one worsePath⟩
  | 2 => exact ⟨rfl, one worseGroup⟩
  | index + 3 => exact ⟨rfl, one worsePath⟩

theorem degraded_run_fences_offline : fencesAt 2 ∅ offline 1 = true ∧
    (fencerAt 2 ∅ flapping 3).consecutiveFailures ≤
      (fencerAt 2 ∅ offline 3).consecutiveFailures :=
  ⟨(degraded_run_fences 2 ∅ flapping offline flapping_degraded).1 1 (by decide +kernel),
    (degraded_run_fences 2 ∅ flapping offline flapping_degraded).2 3⟩

end Witness

end PveSanFenced.FencerDegraded
