import PveSanFenced.FencerIssues
import PveSanFenced.StatusFile
import Mathlib.Logic.Relation

/-!
# What a set of calls can do to the issue map

The code changes the issue map through four calls only. To bound what a piece
of code does to the map it is enough to say which calls it may make, in any
number and order: keys that none of them speaks of stay as they are, and an
issue found afterwards was there before or was set by one of them.
-/

namespace PveSanFenced.StatusCalls

open PveSanFenced.FencerIssues
open PveSanFenced.FencerModel
open PveSanFenced.Library.Collections
open PveSanFenced.Library.Text
open PveSanFenced.Multipath
open PveSanFenced.Status
open PveSanFenced.StatusFile

set_option autoImplicit false

section Calls

/-- Whether a call can change the issue under a key. -/
def SpeaksOf : Call → String → Prop
  | .setIssue own _ _, key => key = own
  | .clearIssue own, key => key = own
  | .clearIssuesWithPrefix start, key => startsWith key start = true
  | .touch, _ => False

/-- The second map comes from the first by allowed calls. -/
def Mutates (allowed : Call → Prop) : StatusTracker → StatusTracker → Prop :=
  Relation.ReflTransGen fun before after => ∃ call, allowed call ∧ after = mutate before call

variable {allowed : Call → Prop} {before after : StatusTracker}

theorem mutates_refl (tracker : StatusTracker) : Mutates allowed tracker tracker :=
  Relation.ReflTransGen.refl

theorem mutates_call {call : Call} (permitted : allowed call) (tracker : StatusTracker) :
    Mutates allowed tracker (mutate tracker call) :=
  Relation.ReflTransGen.single ⟨call, permitted, rfl⟩

theorem mutates_trans {between : StatusTracker} (first : Mutates allowed before between)
    (second : Mutates allowed between after) : Mutates allowed before after :=
  Relation.ReflTransGen.trans first second

theorem mutates_mono {wider : Call → Prop} (mutates : Mutates allowed before after)
    (weaker : ∀ call, allowed call → wider call) : Mutates wider before after := by
  refine Relation.ReflTransGen.mono ?_ before after mutates
  intro tracker tracker' made
  obtain ⟨call, permitted, same⟩ := made
  exact ⟨call, weaker call permitted, same⟩

theorem mutate_other_issue {call : Call} {key : String} (silent : ¬SpeaksOf call key)
    (tracker : StatusTracker) : (mutate tracker call).issue key = tracker.issue key := by
  cases call with
  | setIssue own level message =>
      exact StatusTracker.issue_set_issue_of_ne tracker level message silent
  | clearIssue own => exact StatusTracker.issue_clear_issue_of_ne tracker silent
  | clearIssuesWithPrefix start =>
      rw [mutate, StatusTracker.issue_clear_issues_with_prefix]
      exact if_neg silent
  | touch => rfl

theorem mutate_recorded {call : Call} {key : String} {issue : StatusLevel × String}
    {tracker : StatusTracker} (found : (mutate tracker call).issue key = some issue) :
    tracker.issue key = some issue ∨ call = .setIssue key issue.1 issue.2 := by
  by_cases speaks : SpeaksOf call key
  · cases call with
    | setIssue own level message =>
        have same : key = own := speaks
        subst same
        rw [mutate, StatusTracker.issue_set_issue] at found
        rw [← Option.some.inj found]
        exact Or.inr rfl
    | clearIssue own =>
        have same : key = own := speaks
        subst same
        rw [mutate, StatusTracker.issue_clear_issue] at found
        cases found
    | clearIssuesWithPrefix start =>
        have starts : startsWith key start = true := speaks
        rw [mutate, StatusTracker.issue_clear_issues_with_prefix, if_pos starts] at found
        cases found
    | touch => exact absurd speaks id
  · rw [mutate_other_issue speaks] at found
    exact Or.inl found

theorem mutates_other_issue {key : String} (mutates : Mutates allowed before after)
    (silent : ∀ call, allowed call → ¬SpeaksOf call key) :
    after.issue key = before.issue key := by
  induction mutates with
  | refl => rfl
  | tail _ made ih =>
      obtain ⟨call, permitted, rfl⟩ := made
      rw [mutate_other_issue (silent call permitted), ih]

theorem mutates_recorded {key : String} {issue : StatusLevel × String}
    (mutates : Mutates allowed before after) (found : after.issue key = some issue) :
    before.issue key = some issue ∨ allowed (.setIssue key issue.1 issue.2) := by
  induction mutates with
  | refl => exact Or.inl found
  | tail _ made ih =>
      obtain ⟨call, permitted, rfl⟩ := made
      cases mutate_recorded found with
      | inl earlier => exact ih earlier
      | inr here => exact Or.inr (here ▸ permitted)

end Calls

section Issues

variable {tracker tracker' : StatusTracker} {key : String}

theorem mutate_issue_cases (call : Call) (key : String) :
    (∃ issue, ∀ tracker, (mutate tracker call).issue key = issue) ∨
      ∀ tracker, (mutate tracker call).issue key = tracker.issue key := by
  by_cases speaks : SpeaksOf call key
  · apply Or.inl
    cases call with
    | setIssue own level message =>
        obtain rfl : key = own := speaks
        exact ⟨_, fun tracker => StatusTracker.issue_set_issue tracker key level message⟩
    | clearIssue own =>
        obtain rfl : key = own := speaks
        exact ⟨_, fun tracker => StatusTracker.issue_clear_issue tracker key⟩
    | clearIssuesWithPrefix start =>
        refine ⟨none, fun tracker => ?_⟩
        rw [mutate, StatusTracker.issue_clear_issues_with_prefix]
        exact if_pos speaks
    | touch => cases speaks
  · exact Or.inr (mutate_other_issue speaks)

theorem calls_issue_cases (calls : List Call) (key : String) :
    (∃ issue, ∀ tracker, (calls.foldl mutate tracker).issue key = issue) ∨
      ∀ tracker : StatusTracker, (calls.foldl mutate tracker).issue key = tracker.issue key := by
  induction calls with
  | nil => exact Or.inr fun _ => rfl
  | cons call rest ih =>
      cases ih with
      | inl later =>
          obtain ⟨issue, gives⟩ := later
          exact Or.inl ⟨issue, fun tracker => gives (mutate tracker call)⟩
      | inr keeps =>
          cases mutate_issue_cases call key with
          | inl here =>
              obtain ⟨issue, gives⟩ := here
              exact Or.inl ⟨issue, fun tracker => (keeps _).trans (gives tracker)⟩
          | inr still => exact Or.inr fun tracker => (keeps _).trans (still tracker)

theorem calls_issue_congr (same : tracker.issue key = tracker'.issue key) (calls : List Call) :
    (calls.foldl mutate tracker).issue key = (calls.foldl mutate tracker').issue key := by
  cases calls_issue_cases calls key with
  | inl given =>
      obtain ⟨issue, gives⟩ := given
      rw [gives, gives]
  | inr keeps => rw [keeps, keeps, same]

theorem calls_silent {calls : List Call} (silent : ∀ call ∈ calls, ¬SpeaksOf call key)
    (tracker : StatusTracker) :
    (calls.foldl mutate tracker).issue key = tracker.issue key := by
  induction calls generalizing tracker with
  | nil => rfl
  | cons call rest ih =>
      rw [List.forall_mem_cons] at silent
      rw [List.foldl_cons, ih silent.2, mutate_other_issue silent.1]

theorem tracker_ext (same : ∀ key, tracker.issue key = tracker'.issue key) :
    tracker = tracker' := by
  cases tracker
  cases tracker'
  exact congrArg StatusTracker.mk (Finmap.ext_lookup same)

end Issues

section Fencer

/-- The calls of `update_with_maps` and of `is_map_dead` under it. -/
inductive FencerCall : Call → Prop
  | forgetMissing : FencerCall (.clearIssuesWithPrefix "missing_dm_st_")
  | missingDmSt (name message : String) :
      FencerCall (.setIssue (missingDmStKey name) .warning message)
  | missingPathGroups (name message : String) :
      FencerCall (.setIssue (missingPathGroupsKey name) .warning message)
  | fencing (level : StatusLevel) (message : String) :
      FencerCall (.setIssue "fencing" level message)
  | averted : FencerCall (.clearIssue "fencing")

theorem is_map_dead_mutates (map : MultipathMap) (tracker : StatusTracker) :
    Mutates FencerCall tracker (isMapDead map tracker).2 := by
  rcases is_map_dead_tracker map tracker with ⟨-, set⟩ | ⟨-, same | ⟨set, -⟩⟩
  · rw [set]
    exact mutates_call (FencerCall.missingPathGroups map.name _) tracker
  · rw [same]
    exact mutates_refl tracker
  · rw [set]
    exact mutates_call (FencerCall.missingDmSt map.name _) tracker

theorem evaluate_maps_mutates (fencer : Fencer) (tracker : StatusTracker)
    (monitored : List MultipathMap) :
    Mutates FencerCall tracker (evaluateMaps fencer tracker monitored).tracker := by
  induction monitored using List.reverseRecOn with
  | nil => exact mutates_refl tracker
  | append_singleton monitored map ih =>
      rw [evaluate_maps_tracker_snoc]
      exact mutates_trans ih (is_map_dead_mutates map _)

theorem judge_cycle_mutates (fencer : Fencer) (tracker : StatusTracker)
    (monitored : List MultipathMap) (mapDeadStates : HashMap String Bool)
    (activeLuns : Finset String) :
    Mutates FencerCall tracker
      (judgeCycle fencer tracker monitored mapDeadStates activeLuns).tracker := by
  unfold judgeCycle
  dsimp only
  split_ifs
  · exact mutates_refl tracker
  · exact mutates_call (FencerCall.fencing .critical _) tracker
  · exact mutates_call (FencerCall.fencing .warning _) tracker
  · exact mutates_call FencerCall.averted tracker

theorem update_with_maps_mutates (fencer : Fencer) (tracker : StatusTracker)
    (maps : List MultipathMap) (activeLuns : Finset String) :
    Mutates FencerCall tracker (updateWithMaps fencer tracker maps activeLuns).tracker :=
  mutates_trans (mutates_call FencerCall.forgetMissing tracker)
    (mutates_trans (evaluate_maps_mutates fencer _ _) (judge_cycle_mutates _ _ _ _ _))

theorem ne_missing_keys {key : String} (plain : startsWith key "missing_" = false)
    (name : String) : key ≠ missingDmStKey name ∧ key ≠ missingPathGroupsKey name := by
  have dmSt : startsWith (missingDmStKey name) "missing_" = true :=
    starts_with_append name (by decide)
  have groups : startsWith (missingPathGroupsKey name) "missing_" = true :=
    starts_with_append name (by decide)
  constructor
  · intro same
    rw [← same, plain] at dmSt
    cases dmSt
  · intro same
    rw [← same, plain] at groups
    cases groups

theorem fencer_silent {key : String} (plain : startsWith key "missing_" = false)
    (other : key ≠ "fencing") (call : Call) (made : FencerCall call) : ¬SpeaksOf call key := by
  intro speaks
  cases made with
  | forgetMissing =>
      have longer : startsWith key "missing_dm_st_" = true := speaks
      rw [startsWith, List.isPrefixOf_iff_prefix] at longer
      have shorter : "missing_".toList <+: key.toList :=
        List.IsPrefix.trans (by decide) longer
      rw [startsWith, List.isPrefixOf_iff_prefix.mpr shorter] at plain
      cases plain
  | missingDmSt name message => exact (ne_missing_keys plain name).1 speaks
  | missingPathGroups name message => exact (ne_missing_keys plain name).2 speaks
  | fencing level message => exact other speaks
  | averted => exact other speaks

end Fencer

end PveSanFenced.StatusCalls
