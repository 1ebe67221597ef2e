import PveSanFenced.DaemonStatus

/-!
# Every issue has a cause

Whatever the status shows can be traced to the run: to the last event of its
kind, to the failures since the last success, to the last poll that found a
map to monitor, or to an answer that lacked a field. Without a cause there is
no issue, and without an issue the file says that all is well. The runs are
those of a daemon without `--debug`.
-/

namespace PveSanFenced.IssueCauses

open PveSanFenced.Backoff
open PveSanFenced.Daemon
open PveSanFenced.DaemonSafety
open PveSanFenced.DaemonStatus
open PveSanFenced.FencerCycle
open PveSanFenced.FencerHistory (fencerAt fencer_at_settings)
open PveSanFenced.FencerIssues
open PveSanFenced.FencerModel
open PveSanFenced.Library.Latest
open PveSanFenced.Library.Runs
open PveSanFenced.Library.Text
open PveSanFenced.Multipath
open PveSanFenced.Status
open PveSanFenced.StatusCalls
open PveSanFenced.StatusFile

set_option autoImplicit false

section Causes

variable (settings : Settings)

/-- A monitored map of this name in a poll for which something holds. -/
def Monitors (poll : Evaluated) (name : String) (fault : MultipathMap → Prop) : Prop :=
  ∃ map ∈ monitoredMaps settings.targetWwids poll.call.maps poll.call.activeLuns,
    map.name = name ∧ fault map

/-- The last poll that found a map to monitor met the fencing condition. -/
def FailedLast (evaluated : List Evaluated) : Prop :=
  ∃ index poll, evaluated[index]? = some poll ∧
    CycleFails (fencerAt settings.maxFailures settings.targetWwids (callsOf evaluated) index)
      poll.call.maps poll.call.activeLuns ∧
    ∀ later other, index < later → evaluated[later]? = some other → monitors settings other = false

/-- Why there may be an issue under a key. -/
inductive Cause (tracker : StatusTracker) (events : List Event) (evaluated : List Evaluated) :
    String → Prop
  | startup {key : String} (left : tracker.issue key ≠ none) : Cause tracker events evaluated key
  | reported {condition : Condition} {issue : StatusLevel × String}
      (said : SaidLast (step settings) (reports settings condition) (startWith settings tracker)
        events (some issue)) : Cause tracker events evaluated condition.key
  | backoff (failing : 0 < failuresSince events) :
      Cause tracker events evaluated "discovery_backoff"
  | fencing (failed : FailedLast settings evaluated) : Cause tracker events evaluated "fencing"
  | dmSt {name : String} {poll : Evaluated} (last : evaluated.getLast? = some poll)
      (lacks : Monitors settings poll name mapLacksDmSt) :
      Cause tracker events evaluated (missingDmStKey name)
  -- of any poll: the issue is never cleared
  | pathGroups {name : String} {poll : Evaluated} (some : poll ∈ evaluated)
      (lacks : Monitors settings poll name fun map => map.pathGroups = none) :
      Cause tracker events evaluated (missingPathGroupsKey name)

end Causes

section Keys

theorem is_fencer_key_dm_st (name : String) : IsFencerKey (missingDmStKey name) :=
  Or.inr (starts_with_append name (by decide))

theorem is_fencer_key_path_groups (name : String) : IsFencerKey (missingPathGroupsKey name) :=
  Or.inr (starts_with_append name (by decide))

end Keys

section Polls

variable {settings : Settings} {evaluated : List Evaluated}

theorem failed_last_unmonitored (failed : FailedLast settings evaluated) {poll : Evaluated}
    (unmonitored : monitors settings poll = false) :
    FailedLast settings (evaluated ++ [poll]) := by
  obtain ⟨index, found, listed, fails, last⟩ := failed
  have within := (List.getElem?_eq_some_iff.mp listed).1
  refine ⟨index, found, (List.getElem?_append_left within).trans listed, ?_, ?_⟩
  · rw [fencer_at_append _ _ _ _ within.le]
    exact fails
  · intro later other after listed'
    rw [List.getElem?_append] at listed'
    split_ifs at listed' with before
    · exact last later other after listed'
    · rw [List.getElem?_singleton] at listed'
      split_ifs at listed'
      rw [← Option.some.inj listed']
      exact unmonitored

theorem failed_last_of_fails {poll : Evaluated}
    (fails : CycleFails (fencerAt settings.maxFailures settings.targetWwids (callsOf evaluated)
      evaluated.length) poll.call.maps poll.call.activeLuns) :
    FailedLast settings (evaluated ++ [poll]) := by
  refine ⟨evaluated.length, poll, ?_, ?_, ?_⟩
  · rw [List.getElem?_append_right le_rfl, Nat.sub_self]
    rfl
  · rw [fencer_at_append _ _ _ _ le_rfl]
    exact fails
  · intro later other after listed
    have within := (List.getElem?_eq_some_iff.mp listed).1
    rw [List.length_append, List.length_singleton] at within
    omega

end Polls

section Run

variable {settings : Settings} {state next : State}

structure Caused (settings : Settings) (tracker : StatusTracker) (events : List Event)
    (state : State) : Prop where
  known : ∀ key, state.tracker.issue key ≠ none → tracker.issue key ≠ none ∨
    ∃ event level message, DaemonCall event (.setIssue key level message)
  backoff : state.tracker.issue "discovery_backoff" ≠ none →
    tracker.issue "discovery_backoff" ≠ none ∨ 0 < failuresSince events
  fencing : state.tracker.issue "fencing" ≠ none →
    tracker.issue "fencing" ≠ none ∨ FailedLast settings state.evaluated
  dmSt : ∀ name, state.tracker.issue (missingDmStKey name) ≠ none →
    tracker.issue (missingDmStKey name) ≠ none ∨ ∃ poll, state.evaluated.getLast? = some poll ∧
      Monitors settings poll name mapLacksDmSt
  pathGroups : ∀ name, state.tracker.issue (missingPathGroupsKey name) ≠ none →
    tracker.issue (missingPathGroupsKey name) ≠ none ∨ ∃ poll ∈ state.evaluated,
      Monitors settings poll name fun map => map.pathGroups = none

theorem caused_start (tracker : StatusTracker) :
    Caused settings tracker [] (startWith settings tracker) where
  known _ present := Or.inl present
  backoff present := Or.inl present
  fencing present := Or.inl present
  dmSt _ present := Or.inl present
  pathGroups _ present := Or.inl present

theorem evaluate_cases (activeData : ActiveLunsWithTimestamp) (maps : List MultipathMap)
    (response : Except String String) :
    (Mutates ConfigCall state.tracker
        (evaluate settings state activeData maps response).tracker ∧
      (evaluate settings state activeData maps response).evaluated = state.evaluated) ∨
    ∃ after poll, Mutates ConfigCall state.tracker after ∧ poll.call.maps = maps ∧
      poll.call.activeLuns = activeData.luns ∧
      (evaluate settings state activeData maps response).tracker =
        (updateWithMaps state.fencer after maps activeData.luns).tracker ∧
      (evaluate settings state activeData maps response).evaluated =
        state.evaluated ++ [poll] := by
  unfold evaluate
  cases checked : checkConfig settings state activeData maps response with
  | none => exact Or.inl ⟨mutates_call ConfigCall.queried _, rfl⟩
  | some after =>
      exact Or.inr ⟨after, _, check_config_mutates checked, rfl, rfl, rfl, rfl⟩

theorem known_step {tracker : StatusTracker} {events : List Event} {event : Event}
    (caused : Caused settings tracker events state)
    (stepped : step settings state event = some next) (key : String)
    (present : next.tracker.issue key ≠ none) : tracker.issue key ≠ none ∨
      ∃ event level message, DaemonCall event (.setIssue key level message) := by
  obtain ⟨issue, found⟩ := Option.ne_none_iff_exists'.mp present
  cases mutates_recorded (step_mutates stepped) found with
  | inl before =>
      apply caused.known key
      rw [before]
      exact Option.some_ne_none _
  | inr made => exact Or.inr ⟨event, issue.1, issue.2, made⟩

theorem backoff_caused_step {tracker : StatusTracker} {events : List Event} {event : Event}
    (caused : Caused settings tracker events state)
    (stepped : step settings state event = some next)
    (present : next.tracker.issue "discovery_backoff" ≠ none) :
    tracker.issue "discovery_backoff" ≠ none ∨ 0 < failuresSince (events ++ [event]) := by
  rw [failures_since_snoc]
  cases event with
  | discovery outcome =>
      cases outcome with
      | found mpaths =>
          rw [← (discovery_step stepped).2] at present
          exact absurd (StatusTracker.issue_clear_issue ..) present
      | _ => exact Or.inr (Nat.succ_pos _)
  | _ =>
      rw [mutates_other_issue (step_mutates stepped) fun call made =>
        backoff_silent made (by simp)] at present
      exact caused.backoff present

theorem config_kept {after : StatusTracker} (checked : Mutates ConfigCall state.tracker after)
    {key : String} (own : IsFencerKey key) : after.issue key = state.tracker.issue key :=
  mutates_other_issue checked fun _ made => config_spares_fencer own made

theorem fencing_caused_evaluate {tracker : StatusTracker} {events : List Event}
    (consistent : Consistent settings events state)
    (caused : Caused settings tracker events state) {after : StatusTracker} {poll : Evaluated}
    (checked : Mutates ConfigCall state.tracker after)
    (present : (updateWithMaps state.fencer after poll.call.maps poll.call.activeLuns).tracker.issue
      "fencing" ≠ none) :
    tracker.issue "fencing" ≠ none ∨ FailedLast settings (state.evaluated ++ [poll]) := by
  have targets : state.fencer.targetWwids = settings.targetWwids := by
    rw [consistent.fencer]
    exact (fencer_at_settings _ _ _ _).2
  rcases update_with_maps_fencing_issue state.fencer after poll.call.maps poll.call.activeLuns with
    ⟨none, kept⟩ | ⟨-, -, gone⟩ | ⟨fails, -⟩
  · rw [kept, config_kept checked (Or.inl rfl)] at present
    apply (caused.fencing present).imp_right
    intro failed
    apply failed_last_unmonitored failed
    rw [monitors, ← targets, none]
    rfl
  · exact absurd gone present
  · rw [consistent.fencer] at fails
    exact Or.inr (failed_last_of_fails fails)

theorem missing_caused_evaluate {tracker : StatusTracker} {events : List Event}
    (consistent : Consistent settings events state)
    (caused : Caused settings tracker events state) {after : StatusTracker} {poll : Evaluated}
    (checked : Mutates ConfigCall state.tracker after) (name : String) :
    ((updateWithMaps state.fencer after poll.call.maps poll.call.activeLuns).tracker.issue
        (missingDmStKey name) ≠ none → Monitors settings poll name mapLacksDmSt) ∧
      ((updateWithMaps state.fencer after poll.call.maps poll.call.activeLuns).tracker.issue
        (missingPathGroupsKey name) ≠ none → tracker.issue (missingPathGroupsKey name) ≠ none ∨
          ∃ poll' ∈ state.evaluated ++ [poll],
            Monitors settings poll' name fun map => map.pathGroups = none) := by
  have targets : state.fencer.targetWwids = settings.targetWwids := by
    rw [consistent.fencer]
    exact (fencer_at_settings _ _ _ _).2
  rw [Monitors, ← targets]
  refine ⟨update_with_maps_missing_dm_st _ _ _ _, fun present => ?_⟩
  rw [update_with_maps_missing_groups,
    config_kept checked (is_fencer_key_path_groups name)] at present
  cases present with
  | inl before =>
      apply (caused.pathGroups name before).imp_right
      intro some
      obtain ⟨poll', member, lacks⟩ := some
      exact ⟨poll', List.mem_append_left _ member, lacks⟩
  | inr lacks =>
      refine Or.inr ⟨poll, List.mem_append_right _ (List.mem_singleton_self poll), ?_⟩
      rw [Monitors, ← targets]
      exact lacks

theorem caused_step {tracker : StatusTracker} {events : List Event} {event : Event}
    (consistent : Consistent settings events state)
    (caused : Caused settings tracker events state)
    (stepped : step settings state event = some next) :
    Caused settings tracker (events ++ [event]) next := by
  have known := known_step caused stepped
  have backoff := backoff_caused_step caused stepped
  by_cases config : ∃ response, event = .queryConfig response
  · obtain ⟨response, rfl⟩ := config
    obtain ⟨activeData, maps, place, after⟩ := query_config_step stepped
    rcases @evaluate_cases settings state activeData maps response with
      ⟨checked, unchanged⟩ | ⟨checkedIn, poll, checked, rfl, luns, made, appended⟩
    · rw [← after] at checked unchanged
      refine ⟨known, backoff, ?_, fun name => ?_, fun name => ?_⟩
      · rw [config_kept checked (Or.inl rfl), unchanged]
        exact caused.fencing
      · rw [config_kept checked (is_fencer_key_dm_st name), unchanged]
        exact caused.dmSt name
      · rw [config_kept checked (is_fencer_key_path_groups name), unchanged]
        exact caused.pathGroups name
    · rw [← after] at made appended
      rw [← luns] at made
      refine ⟨known, backoff, ?_, fun name => ?_, fun name => ?_⟩
      · rw [made, appended]
        exact fencing_caused_evaluate consistent caused checked
      · rw [made, appended, List.getLast?_concat]
        intro present
        exact Or.inr ⟨poll, rfl,
          (missing_caused_evaluate consistent caused checked name).1 present⟩
      · rw [made, appended]
        exact (missing_caused_evaluate consistent caused checked name).2
  · obtain ⟨evaluated, kept⟩ := fencer_frame stepped fun response same => config ⟨response, same⟩
    refine ⟨known, backoff, ?_, fun name => ?_, fun name => ?_⟩
    · rw [kept _ (Or.inl rfl), evaluated]
      exact caused.fencing
    · rw [kept _ (is_fencer_key_dm_st name), evaluated]
      exact caused.dmSt name
    · rw [kept _ (is_fencer_key_path_groups name), evaluated]
      exact caused.pathGroups name

theorem caused_run {tracker : StatusTracker} {events : List Event}
    (ran : runFrom settings tracker events = some state) :
    Caused settings tracker events state := by
  have held : Consistent settings events state ∧ Caused settings tracker events state := by
    apply events_invariant (fun events state => Consistent settings events state ∧
      Caused settings tracker events state)
      ⟨consistent_start settings tracker, caused_start tracker⟩ _ ran
    intro events event before next both stepped
    exact ⟨consistent_step both.1 stepped, caused_step both.1 both.2 stepped⟩
  exact held.2

end Run

section Status

variable {settings : Settings} {state : State} {tracker : StatusTracker} {events : List Event}

theorem condition_caused (ran : runFrom settings tracker events = some state)
    (condition : Condition) (present : state.tracker.issue condition.key ≠ none) :
    Cause settings tracker events state.evaluated condition.key := by
  obtain ⟨issue, found⟩ := Option.ne_none_iff_exists'.mp present
  have tracks : ∀ before event after, step settings before event = some after →
      after.tracker.issue condition.key =
        (reports settings condition before event).getD (before.tracker.issue condition.key) :=
    fun before event after stepped => condition_tracked condition stepped
  cases (view_eq_iff tracks ran (some issue)).mp found with
  | inl said => exact Cause.reported said
  | inr silent =>
      apply Cause.startup
      rw [show tracker.issue condition.key = some issue from silent.2]
      exact Option.some_ne_none _

theorem cause_of_call (ran : runFrom settings tracker events = some state) {key : String}
    (present : state.tracker.issue key ≠ none) {event : Event} {level : StatusLevel}
    {message : String} (made : DaemonCall event (.setIssue key level message)) :
    Cause settings tracker events state.evaluated key := by
  have caused := caused_run ran
  cases made with
  | discoveryFailed outcome message => exact condition_caused ran .discoveryFailure present
  | stale message => exact condition_caused ran .staleLuns present
  | queryFailed response message => exact condition_caused ran .queryFailure present
  | backingOff outcome message =>
      exact (caused.backoff present).elim Cause.startup Cause.backoff
  | config response call made =>
      cases made with
      | queryFailed message => exact condition_caused ran .configQueryError present
      | warned message => exact condition_caused ran .configWarnings present
  | fencer response call made =>
      cases made with
      | fencing level message => exact (caused.fencing present).elim Cause.startup Cause.fencing
      | missingDmSt name message =>
          cases caused.dmSt name present with
          | inl left => exact Cause.startup left
          | inr lacking =>
              obtain ⟨poll, last, lacks⟩ := lacking
              exact Cause.dmSt last lacks
      | missingPathGroups name message =>
          cases caused.pathGroups name present with
          | inl left => exact Cause.startup left
          | inr lacking =>
              obtain ⟨poll, member, lacks⟩ := lacking
              exact Cause.pathGroups member lacks

theorem content_of_no_issue {tracker : StatusTracker} (none : ∀ key, tracker.issue key = none) :
    mapContent tracker = "OK - Daemon is running normally\n" := by
  obtain ⟨issues, iterates⟩ := exists_iteration tracker
  have empty : issues = [] := by
    rw [List.eq_nil_iff_forall_not_mem]
    intro issue member
    have present := (mem_of_iterates iterates issue.1 issue.2.1 issue.2.2).mp member
    rw [none issue.1] at present
    cases present
  rw [← content_of_iterates iterates, empty]
  rfl

/-- After any interleaving every issue has its cause in the run, and when there
is none left the file says that the daemon is running normally. -/
theorem issues_accounted_for (ran : runFrom settings tracker events = some state) :
    (∀ key, state.tracker.issue key ≠ none →
      Cause settings tracker events state.evaluated key) ∧
    ((∀ key, ¬Cause settings tracker events state.evaluated key) →
      mapContent state.tracker = "OK - Daemon is running normally\n") := by
  have caused : ∀ key, state.tracker.issue key ≠ none →
      Cause settings tracker events state.evaluated key := by
    intro key present
    cases (caused_run ran).known key present with
    | inl left => exact Cause.startup left
    | inr set =>
        obtain ⟨event, level, message, made⟩ := set
        exact cause_of_call ran present made
  refine ⟨caused, fun causeless => content_of_no_issue fun key => ?_⟩
  by_contra present
  exact causeless key (caused key present)

theorem issues_accounted_for_outage : ∃ state,
    runFrom oneShot StatusTracker.new outage = some state ∧
      Cause oneShot StatusTracker.new outage state.evaluated "fencing" := by
  have shown : (runFrom oneShot StatusTracker.new outage).map (fun state =>
      (state.tracker.issue "fencing").isSome) = some true := by decide +kernel
  obtain ⟨state, ran, present⟩ := Option.map_eq_some_iff.mp shown
  have caused := (issues_accounted_for ran).1 "fencing" (Option.isSome_iff_ne_none.mp present)
  exact ⟨state, ran, caused⟩

end Status

end PveSanFenced.IssueCauses
