import PveSanFenced.Backoff
import PveSanFenced.StatusCalls
import PveSanFenced.Library.Latest

/-!
# What the daemon's issues tell

Both loops write to one tracker, and the startup has written to it before
them. Each issue belongs to one kind of event: after any interleaving it shows
what the most recent event of its kind reported. Only the fencer records
anything critical, so the level of the whole status tells whether the last
poll that found a monitored map reached a decision.
-/

namespace PveSanFenced.DaemonStatus

open PveSanFenced.Backoff
open PveSanFenced.Config
open PveSanFenced.ConfigCheck
open PveSanFenced.Daemon
open PveSanFenced.DaemonSafety
open PveSanFenced.FencerCycle
open PveSanFenced.FencerHistory (fencer_at_settings)
open PveSanFenced.FencerIssues
open PveSanFenced.FencerModel
open PveSanFenced.Library.Fixed
open PveSanFenced.Library.Latest
open PveSanFenced.Library.Runs
open PveSanFenced.Library.Text
open PveSanFenced.Multipath
open PveSanFenced.Status
open PveSanFenced.StatusCalls
open PveSanFenced.StatusFile

set_option autoImplicit false

section Start

variable (settings : Settings) (tracker : StatusTracker)

/-- The loops start with the issues that the startup left. -/
def startWith : State := { initial settings with tracker := tracker }

def runFrom (events : List Event) : Option State :=
  events.foldlM (step settings) (startWith settings tracker)

theorem consistent_start : Consistent settings [] (startWith settings tracker) where
  now := rfl
  shared := Or.inr ⟨by simp, rfl⟩
  monitor := trivial
  fencer := rfl
  decisions index poll found := by simp [startWith, initial] at found

variable {settings tracker}

theorem consistent_run_from {events : List Event} {state : State}
    (ran : runFrom settings tracker events = some state) : Consistent settings events state := by
  apply events_invariant (Consistent settings) (consistent_start settings tracker) _ ran
  intro events event before next consistent stepped
  exact consistent_step consistent stepped

theorem discovery_step {state next : State} {outcome : Discovery}
    (stepped : step settings state (.discovery outcome) = some next) :
    state.discoveryAlive = true ∧ finishDiscovery settings state outcome = next := by
  rw [step, Option.ite_none_right_eq_some, Option.some.injEq] at stepped
  exact stepped

theorem counts_start : Counts settings 0 (startWith settings tracker) where
  counter alive := rfl
  fits alive panics := ⟨Nat.zero_le _, fun _ => by omega⟩
  ended dead := by cases dead

end Start

section Calls

inductive ConfigCall : Call → Prop
  | queryFailed (message : String) :
      ConfigCall (.setIssue "config_query_error" .warning message)
  | queried : ConfigCall (.clearIssue "config_query_error")
  | warned (message : String) : ConfigCall (.setIssue "config_warnings" .warning message)
  | recommended : ConfigCall (.clearIssue "config_warnings")

/-- The calls on the tracker that each event may make. -/
inductive DaemonCall : Event → Call → Prop
  | discoveryFailed (outcome : Discovery) (message : String) :
      DaemonCall (.discovery outcome) (.setIssue "discovery_failure" .warning message)
  | backingOff (outcome : Discovery) (message : String) :
      DaemonCall (.discovery outcome) (.setIssue "discovery_backoff" .warning message)
  | discovered (outcome : Discovery) :
      DaemonCall (.discovery outcome) (.clearIssue "discovery_failure")
  | backedOff (outcome : Discovery) :
      DaemonCall (.discovery outcome) (.clearIssue "discovery_backoff")
  | stale (message : String) : DaemonCall .checkStale (.setIssue "stale_luns" .warning message)
  | notStale : DaemonCall .checkStale (.clearIssue "stale_luns")
  | queryFailed (response : Except String String) (message : String) :
      DaemonCall (.queryMaps response) (.setIssue "query_failure" .warning message)
  | queried (response : Except String String) :
      DaemonCall (.queryMaps response) (.clearIssue "query_failure")
  | config (response : Except String String) (call : Call) (made : ConfigCall call) :
      DaemonCall (.queryConfig response) call
  | fencer (response : Except String String) (call : Call) (made : FencerCall call) :
      DaemonCall (.queryConfig response) call

variable {settings : Settings} {state next : State}

theorem after_failure_mutates (outcome : Discovery) (message : String) :
    Mutates (DaemonCall (.discovery outcome)) state.tracker
      (afterFailure settings state message).tracker := by
  have failed := mutates_call (DaemonCall.discoveryFailed outcome message) state.tracker
  unfold afterFailure
  cases addWord settings.overflow state.discoveryFailures 1 with
  | none => exact mutates_refl _
  | some consecutiveFailures =>
      dsimp only
      split_ifs with retried
      · cases backoffSeconds settings consecutiveFailures with
        | none => exact failed
        | some seconds =>
            exact mutates_trans failed (mutates_call (DaemonCall.backingOff outcome _) _)
      · exact failed

theorem finish_discovery_mutates (outcome : Discovery) :
    Mutates (DaemonCall (.discovery outcome)) state.tracker
      (finishDiscovery settings state outcome).tracker := by
  cases outcome with
  | found mpaths =>
      exact mutates_trans (mutates_call (DaemonCall.discovered _) _)
        (mutates_call (DaemonCall.backedOff _) _)
  | failed error => exact after_failure_mutates _ _
  | panicked message => exact after_failure_mutates _ _
  | cancelled => exact after_failure_mutates _ _

theorem check_maps_config_mutates {mode : Overflow} {regexNew : String → Option (String → Bool)}
    {maps : List MultipathMap} {activeLuns : Finset String} {configStr : String}
    {fencingTimeSec : UInt64} {before after : StatusTracker}
    (checked : checkMapsConfig mode regexNew maps activeLuns configStr fencingTimeSec before =
      some after) : Mutates ConfigCall before after := by
  rw [checkMapsConfig, Option.bind_eq_bind, Option.bind_eq_some_iff] at checked
  obtain ⟨warnings, -, last⟩ := checked
  split_ifs at last with none
  · rw [← Option.some.inj last]
    exact mutates_call ConfigCall.recommended before
  · rw [← Option.some.inj last]
    exact mutates_call (ConfigCall.warned _) before

/-- An answer to the configuration query clears the query's own issue first. -/
theorem check_config_ok {activeData : ActiveLunsWithTimestamp} {maps : List MultipathMap}
    {reply : String} {after : StatusTracker}
    (checked : checkConfig settings state activeData maps (.ok reply) = some after) :
    ∃ fencingTimeSec, checkMapsConfig settings.overflow settings.regexNew maps activeData.luns
      reply fencingTimeSec (state.tracker.clearIssue "config_query_error") = some after := by
  rw [checkConfig, checkConfigResponse, Option.bind_eq_bind, Option.bind_eq_some_iff] at checked
  obtain ⟨fencingTimeSec, -, rest⟩ := checked
  exact ⟨fencingTimeSec, rest⟩

theorem check_config_mutates {activeData : ActiveLunsWithTimestamp} {maps : List MultipathMap}
    {response : Except String String} {after : StatusTracker}
    (checked : checkConfig settings state activeData maps response = some after) :
    Mutates ConfigCall state.tracker after := by
  cases response with
  | error e =>
      rw [← Option.some.inj checked]
      exact mutates_call (ConfigCall.queryFailed _) _
  | ok reply =>
      obtain ⟨fencingTimeSec, rest⟩ := check_config_ok checked
      exact mutates_trans (mutates_call ConfigCall.queried _) (check_maps_config_mutates rest)

theorem evaluate_mutates (activeData : ActiveLunsWithTimestamp) (maps : List MultipathMap)
    (response : Except String String) :
    Mutates (DaemonCall (.queryConfig response)) state.tracker
      (evaluate settings state activeData maps response).tracker := by
  unfold evaluate
  cases checked : checkConfig settings state activeData maps response with
  | none => exact mutates_call (DaemonCall.config response _ ConfigCall.queried) _
  | some after =>
      have first : Mutates (DaemonCall (.queryConfig response)) state.tracker after :=
        mutates_mono (check_config_mutates checked) (DaemonCall.config response)
      exact mutates_trans first
        (mutates_mono (update_with_maps_mutates _ _ _ _) (DaemonCall.fencer response))

theorem sysrq_key_silent {key : String} (own : startsWith key "sysrq" = true) {event : Event}
    {call : Call} (made : DaemonCall event call) : ¬SpeaksOf call key := by
  intro speaks
  have literal {other : String} (foreign : startsWith other "sysrq" = false) : key ≠ other := by
    intro same
    rw [same, foreign] at own
    cases own
  cases made with
  | fencer response call made =>
      have plain : startsWith key "missing_" = false := by
        rw [Bool.eq_false_iff]
        intro missing
        have both := starts_with_of_starts_with missing own (by decide)
        exact absurd both (by decide)
      exact fencer_silent plain (literal (by decide)) call made speaks
  | config response call made =>
      cases made
      all_goals exact literal (by decide) speaks
  | _ => exact literal (by decide) speaks

theorem step_mutates {event : Event} (stepped : step settings state event = some next) :
    Mutates (DaemonCall event) state.tracker next.tracker := by
  rcases step_cases stepped with ⟨nanos, rfl, rfl⟩ | ⟨outcome, rfl, rfl⟩ | ⟨rfl, rfl⟩ |
    ⟨activeData, rfl, place, rfl⟩ | ⟨activeData, response, rfl, place, rfl⟩ |
    ⟨activeData, maps, response, rfl, place, rfl⟩
  · exact mutates_refl _
  · exact finish_discovery_mutates outcome
  · exact mutates_refl _
  · unfold checkStale
    split
    · exact mutates_refl _
    · exact mutates_call (DaemonCall.stale _) _
    · exact mutates_call DaemonCall.notStale _
  · cases response with
    | error e => exact mutates_call (DaemonCall.queryFailed _ _) _
    | ok reply =>
        unfold queryMaps
        dsimp only
        split
        · exact mutates_call (DaemonCall.queried _) _
        · exact mutates_call (DaemonCall.queried _) _
  · exact evaluate_mutates activeData maps response

theorem issue_kept_run {tracker : StatusTracker} {key : String}
    (silent : ∀ event call, DaemonCall event call → ¬SpeaksOf call key) {events : List Event}
    (ran : runFrom settings tracker events = some state) :
    state.tracker.issue key = tracker.issue key := by
  apply events_invariant (fun _ state => state.tracker.issue key = tracker.issue key) rfl _ ran
  intro events event before next kept stepped
  rw [mutates_other_issue (step_mutates stepped) (silent event), kept]

end Calls

section Reports

/-- The five issues that one kind of event alone sets and clears. -/
inductive Condition where
  | staleLuns
  | queryFailure
  | configQueryError
  | configWarnings
  | discoveryFailure

def Condition.key : Condition → String
  | .staleLuns => "stale_luns"
  | .queryFailure => "query_failure"
  | .configQueryError => "config_query_error"
  | .configWarnings => "config_warnings"
  | .discoveryFailure => "discovery_failure"

def failureMessage : Discovery → Option String
  | .found _ => none
  | .failed error => some ("Error discovering active multipath devices: " ++ error)
  | .panicked message => some ("Panic in discovery thread: " ++
      message.getD "Unknown panic error")
  | .cancelled => some "Panic in discovery thread: Discovery task was cancelled"

variable (settings : Settings)

/-- The issue that the warnings about a configuration make, if there are any. -/
def warningsIssue (activeData : ActiveLunsWithTimestamp) (maps : List MultipathMap)
    (reply : String) : Option (Option (StatusLevel × String)) := do
  let fencingTimeSec ← mulWord settings.overflow settings.maxFailures settings.pollInterval
  let warnings ← collectWarnings settings.overflow settings.regexNew (parseMultipathConfig reply)
    fencingTimeSec (configMonitoredMaps maps activeData.luns)
  some (if warnings.isEmpty then none else some (.warning,
    "Multipath configuration recommendation warnings: " ++ "; ".intercalate warnings))

/-- What an event reports about a condition, where it reports on it at all:
the issue to show, or that there is none. A computation that panics reports
nothing. -/
def reports : Condition → State → Event → Option (Option (StatusLevel × String))
  | .staleLuns, state, .checkStale =>
      match state.monitor with
      | .read activeData =>
          (activeData.isStale settings.discoveryInterval state.now).map fun stale =>
            if stale then some (.warning, staleMessage) else none
      | _ => none
  | .queryFailure, _, .queryMaps (.error e) =>
      some (some (.warning, "Failed to query multipathd: " ++ e))
  | .queryFailure, _, .queryMaps (.ok _) => some none
  | .configQueryError, _, .queryConfig (.error e) =>
      some (some (.warning, "Failed to query multipathd config: " ++ e))
  | .configQueryError, _, .queryConfig (.ok _) => some none
  | .configWarnings, state, .queryConfig (.ok reply) =>
      match state.monitor with
      | .parsed activeData maps => warningsIssue settings activeData maps reply
      | _ => none
  | .discoveryFailure, state, .discovery outcome =>
      match failureMessage outcome with
      | none => some none
      | some message =>
          (addWord settings.overflow state.discoveryFailures 1).map fun _ =>
            some (.warning, message)
  | _, _, _ => none

def concerns : Condition → Event → Bool
  | .staleLuns, .checkStale => true
  | .queryFailure, .queryMaps _ => true
  | .configQueryError, .queryConfig _ => true
  | .configWarnings, .queryConfig _ => true
  | .discoveryFailure, .discovery _ => true
  | _, _ => false

variable {settings} {state next : State}

theorem concerns_of_speaks {condition : Condition} {event : Event} {call : Call}
    (made : DaemonCall event call) (speaks : SpeaksOf call condition.key) :
    concerns condition event = true := by
  cases made with
  | fencer response call made =>
      apply absurd speaks
      apply fencer_silent _ _ call made
      · cases condition <;> decide
      · cases condition <;> decide
  | config response call made =>
      cases made
      all_goals cases condition
      all_goals first
        | exact rfl
        | exact absurd (show Condition.key _ = _ from speaks) (by decide)
  | _ =>
      cases condition
      all_goals first
        | exact rfl
        | exact absurd (show Condition.key _ = _ from speaks) (by decide)

theorem reports_of_unconcerned {condition : Condition} {event : Event}
    (other : concerns condition event = false) : reports settings condition state event = none := by
  cases condition <;> cases event <;> first | rfl | cases other

theorem after_failure_reported (message : String) :
    (afterFailure settings state message).tracker.issue "discovery_failure" =
      ((addWord settings.overflow state.discoveryFailures 1).map fun _ =>
        some (StatusLevel.warning, message)).getD (state.tracker.issue "discovery_failure") := by
  unfold afterFailure
  cases addWord settings.overflow state.discoveryFailures 1 with
  | none => rfl
  | some consecutiveFailures =>
      dsimp only
      split_ifs with retried
      · cases backoffSeconds settings consecutiveFailures with
        | none => exact StatusTracker.issue_set_issue ..
        | some seconds =>
            dsimp only
            rw [StatusTracker.issue_set_issue_of_ne _ _ _ (by decide)]
            exact StatusTracker.issue_set_issue ..
      · exact StatusTracker.issue_set_issue ..

theorem finish_discovery_eq (outcome : Discovery) :
    (failureMessage outcome = none ∧ ∃ mpaths, outcome = .found mpaths) ∨
      ∃ message, failureMessage outcome = some message ∧
        finishDiscovery settings state outcome = afterFailure settings state message := by
  cases outcome with
  | found mpaths => exact Or.inl ⟨rfl, mpaths, rfl⟩
  | failed error => exact Or.inr ⟨_, rfl, rfl⟩
  | panicked message => exact Or.inr ⟨_, rfl, rfl⟩
  | cancelled => exact Or.inr ⟨_, rfl, rfl⟩

theorem discovery_reported (outcome : Discovery) :
    (finishDiscovery settings state outcome).tracker.issue "discovery_failure" =
      (reports settings .discoveryFailure state (.discovery outcome)).getD
        (state.tracker.issue "discovery_failure") := by
  cases @finish_discovery_eq settings state outcome with
  | inl found =>
      obtain ⟨-, mpaths, rfl⟩ := found
      dsimp only [finishDiscovery, reports, failureMessage]
      rw [StatusTracker.issue_clear_issue_of_ne _ (by decide)]
      exact StatusTracker.issue_clear_issue ..
  | inr failed =>
      obtain ⟨message, text, after⟩ := failed
      rw [after, after_failure_reported]
      simp only [reports, text]

theorem stale_reported {activeData : ActiveLunsWithTimestamp}
    (place : state.monitor = .read activeData) :
    (checkStale settings state activeData).tracker.issue "stale_luns" =
      (reports settings .staleLuns state .checkStale).getD
        (state.tracker.issue "stale_luns") := by
  simp only [reports, place, checkStale]
  cases activeData.isStale settings.discoveryInterval state.now with
  | none => rfl
  | some stale =>
      cases stale with
      | true => exact StatusTracker.issue_set_issue ..
      | false => exact StatusTracker.issue_clear_issue ..

theorem query_reported (activeData : ActiveLunsWithTimestamp) (response : Except String String) :
    (queryMaps settings state activeData response).tracker.issue "query_failure" =
      (reports settings .queryFailure state (.queryMaps response)).getD
        (state.tracker.issue "query_failure") := by
  cases response with
  | error e => exact StatusTracker.issue_set_issue ..
  | ok reply =>
      unfold queryMaps
      dsimp only
      split
      · exact StatusTracker.issue_clear_issue ..
      · exact StatusTracker.issue_clear_issue ..

theorem config_query_reported (activeData : ActiveLunsWithTimestamp) (maps : List MultipathMap)
    (response : Except String String) :
    (evaluate settings state activeData maps response).tracker.issue "config_query_error" =
      (reports settings .configQueryError state (.queryConfig response)).getD
        (state.tracker.issue "config_query_error") := by
  have fencer (tracker : StatusTracker) :
      (updateWithMaps state.fencer tracker maps activeData.luns).tracker.issue
          "config_query_error" = tracker.issue "config_query_error" :=
    mutates_other_issue (update_with_maps_mutates _ _ _ _)
      (fencer_silent (by decide) (by decide))
  unfold evaluate
  cases checked : checkConfig settings state activeData maps response with
  | none =>
      cases response with
      | error e => cases checked
      | ok reply => exact StatusTracker.issue_clear_issue ..
  | some after =>
      dsimp only
      rw [fencer]
      cases response with
      | error e =>
          rw [← Option.some.inj checked]
          exact StatusTracker.issue_set_issue ..
      | ok reply =>
          obtain ⟨fencingTimeSec, rest⟩ := check_config_ok checked
          rw [checkMapsConfig, Option.bind_eq_bind, Option.bind_eq_some_iff] at rest
          obtain ⟨warnings, -, last⟩ := rest
          split_ifs at last
          · rw [← Option.some.inj last, StatusTracker.issue_clear_issue_of_ne _ (by decide)]
            exact StatusTracker.issue_clear_issue ..
          · rw [← Option.some.inj last, StatusTracker.issue_set_issue_of_ne _ _ _ (by decide)]
            exact StatusTracker.issue_clear_issue ..

theorem check_config_issue (activeData : ActiveLunsWithTimestamp) (maps : List MultipathMap)
    (reply : String) :
    (checkConfig settings state activeData maps (.ok reply)).map (·.issue "config_warnings") =
      warningsIssue settings activeData maps reply := by
  rw [checkConfig, checkConfigResponse, warningsIssue]
  cases mulWord settings.overflow settings.maxFailures settings.pollInterval with
  | none => rfl
  | some fencingTimeSec =>
      rw [Option.bind_eq_bind, Option.bind_some, Option.bind_eq_bind, Option.bind_some,
        checkMapsConfig]
      cases collectWarnings settings.overflow settings.regexNew (parseMultipathConfig reply)
        fencingTimeSec (configMonitoredMaps maps activeData.luns) with
      | none => rfl
      | some warnings =>
          rw [Option.bind_eq_bind, Option.bind_some, Option.bind_eq_bind, Option.bind_some]
          split_ifs
          · exact congrArg some (StatusTracker.issue_clear_issue ..)
          · exact congrArg some (StatusTracker.issue_set_issue ..)

theorem config_warnings_reported {activeData : ActiveLunsWithTimestamp}
    {maps : List MultipathMap} (place : state.monitor = .parsed activeData maps)
    (response : Except String String) :
    (evaluate settings state activeData maps response).tracker.issue "config_warnings" =
      (reports settings .configWarnings state (.queryConfig response)).getD
        (state.tracker.issue "config_warnings") := by
  cases response with
  | error e =>
      change (updateWithMaps _ _ _ _).tracker.issue "config_warnings" = _
      rw [mutates_other_issue (update_with_maps_mutates _ _ _ _)
        (fencer_silent (by decide) (by decide))]
      exact StatusTracker.issue_set_issue_of_ne _ _ _ (by decide)
  | ok reply =>
      have issue := @check_config_issue settings state activeData maps reply
      simp only [reports, place, ← issue, evaluate]
      cases checkConfig settings state activeData maps (.ok reply) with
      | none => exact StatusTracker.issue_clear_issue_of_ne _ (by decide)
      | some after =>
          exact mutates_other_issue (update_with_maps_mutates _ _ _ _)
            (fencer_silent (by decide) (by decide))

/-- An event that reports on a condition overwrites its issue, and no other
event touches it. -/
theorem condition_tracked (condition : Condition) {event : Event}
    (stepped : step settings state event = some next) :
    next.tracker.issue condition.key =
      (reports settings condition state event).getD (state.tracker.issue condition.key) := by
  cases own : concerns condition event with
  | false =>
      rw [reports_of_unconcerned own, Option.getD_none]
      apply mutates_other_issue (step_mutates stepped)
      intro call made speaks
      rw [concerns_of_speaks made speaks] at own
      cases own
  | true =>
      rcases step_cases stepped with ⟨nanos, rfl, rfl⟩ | ⟨outcome, rfl, rfl⟩ | ⟨rfl, rfl⟩ |
        ⟨activeData, rfl, place, rfl⟩ | ⟨activeData, response, rfl, place, rfl⟩ |
        ⟨activeData, maps, response, rfl, place, rfl⟩
      all_goals cases condition <;> try cases own
      · exact discovery_reported outcome
      · exact stale_reported place
      · exact query_reported activeData response
      · exact config_query_reported activeData maps response
      · exact config_warnings_reported place response

/-- After any interleaving an issue of a condition is what the most recent
event about it reported, and what the startup left if there was none. -/
theorem condition_reported_last {tracker : StatusTracker} (condition : Condition)
    {events : List Event} (ran : runFrom settings tracker events = some state)
    (report : Option (StatusLevel × String)) :
    state.tracker.issue condition.key = report ↔
      SaidLast (step settings) (reports settings condition) (startWith settings tracker) events
          report ∨
        (Silent (step settings) (reports settings condition) (startWith settings tracker) []
            events ∧ tracker.issue condition.key = report) := by
  have tracks : ∀ before event after, step settings before event = some after →
      after.tracker.issue condition.key =
        (reports settings condition before event).getD (before.tracker.issue condition.key) :=
    fun before event after stepped => condition_tracked condition stepped
  exact view_eq_iff tracks ran report

/-- A discovery that fails between two parts of a poll is what shows, and the
poll's own query is what shows of it. -/
theorem condition_reported_last_outage :
    ∃ state, runFrom oneShot StatusTracker.new outage = some state ∧
      (state.tracker.issue Condition.discoveryFailure.key =
          some (.warning, "Error discovering active multipath devices: timeout") ↔
        SaidLast (step oneShot) (reports oneShot .discoveryFailure)
            (startWith oneShot StatusTracker.new) outage
            (some (.warning, "Error discovering active multipath devices: timeout")) ∨
          (Silent (step oneShot) (reports oneShot .discoveryFailure)
              (startWith oneShot StatusTracker.new) [] outage ∧
            StatusTracker.new.issue Condition.discoveryFailure.key =
              some (.warning, "Error discovering active multipath devices: timeout"))) :=
  ⟨_, rfl, condition_reported_last .discoveryFailure rfl _⟩

end Reports

section Backoff

variable {settings : Settings} {state next : State}

/-- Enough failures in a row, counted exactly. -/
def BacksOff (settings : Settings) (failures : ℕ) : Prop :=
  0 < settings.discoveryMaxRetries ∧ settings.discoveryMaxRetries.toNat ≤ failures

theorem not_backs_off_zero : ¬BacksOff settings 0 := by
  intro backs
  have positive := UInt64.lt_iff_toNat_lt.mp backs.1
  have none := backs.2
  simp only [UInt64.toNat_zero] at positive
  omega

/-- The issue stands for the failures since the last success, while the
thread lives. -/
def BackoffShown (settings : Settings) (failures : ℕ) (state : State) : Prop :=
  state.discoveryAlive = true →
    (state.tracker.issue "discovery_backoff" ≠ none ↔ BacksOff settings failures)

theorem after_failure_backoff {failures : ℕ} (counts : Counts settings failures state)
    (alive : state.discoveryAlive = true) (shown : BackoffShown settings failures state)
    (message : String) :
    BackoffShown settings (failures + 1) (afterFailure settings state message) := by
  have before := shown alive
  unfold afterFailure
  cases added : addWord settings.overflow state.discoveryFailures 1 with
  | none =>
      intro dead
      cases dead
  | some counter =>
      have counted := (counter_of_added counts alive added).1
      have below : counter.toNat ≤ failures + 1 := by
        rw [counted, UInt64.toNat_ofNat']
        exact Nat.mod_le _ _
      dsimp only
      split_ifs with retried
      · cases backoffSeconds settings counter with
        | none =>
            intro dead
            cases dead
        | some seconds =>
            intro _
            dsimp only
            rw [StatusTracker.issue_set_issue]
            apply iff_of_true (Option.some_ne_none _)
            exact ⟨retried.2.1, le_trans (UInt64.le_iff_toNat_le.mp retried.2.2) below⟩
      · intro _
        dsimp only
        rw [StatusTracker.issue_set_issue_of_ne _ _ _ (by decide), before]
        -- the failure that reaches the retries is counted exactly and sets the issue
        constructor
        · exact fun backs => ⟨backs.1, Nat.le_succ_of_le backs.2⟩
        · intro backs
          refine ⟨backs.1, ?_⟩
          by_contra early
          apply retried
          have exact_count : counter.toNat = failures + 1 := by
            have bound := settings.discoveryMaxRetries.toNat_lt
            have reached := backs.2
            rw [counted, UInt64.toNat_ofNat']
            exact Nat.mod_eq_of_lt (by omega)
          refine ⟨?_, backs.1, ?_⟩
          · rw [UInt64.lt_iff_toNat_lt, exact_count]
            exact Nat.succ_pos failures
          · rw [UInt64.le_iff_toNat_le, exact_count]
            exact backs.2

theorem backoff_silent {event : Event} {call : Call} (made : DaemonCall event call)
    (other : ∀ outcome, event ≠ .discovery outcome) : ¬SpeaksOf call "discovery_backoff" := by
  intro speaks
  cases made with
  | fencer response call made => exact fencer_silent (by decide) (by decide) call made speaks
  | config response call made =>
      cases made
      all_goals exact absurd (show "discovery_backoff" = _ from speaks) (by decide)
  | backingOff outcome message => exact other outcome rfl
  | backedOff outcome => exact other outcome rfl
  | _ => exact absurd (show "discovery_backoff" = _ from speaks) (by decide)

theorem backoff_step {events : List Event} {event : Event}
    (counts : Counts settings (failuresSince events) state)
    (shown : BackoffShown settings (failuresSince events) state)
    (stepped : step settings state event = some next) :
    BackoffShown settings (failuresSince (events ++ [event])) next := by
  rw [failures_since_snoc]
  cases event with
  | discovery outcome =>
      obtain ⟨alive, rfl⟩ := discovery_step stepped
      cases outcome with
      | found mpaths =>
          intro _
          dsimp only [finishDiscovery]
          rw [StatusTracker.issue_clear_issue]
          exact iff_of_false (not_not_intro rfl) not_backs_off_zero
      | failed error => exact after_failure_backoff counts alive shown _
      | panicked message => exact after_failure_backoff counts alive shown _
      | cancelled => exact after_failure_backoff counts alive shown _
  | _ =>
      have frame := discovery_frame stepped (by simp)
      intro alive
      rw [frame.2] at alive
      rw [mutates_other_issue (step_mutates stepped)]
      · exact shown alive
      · exact fun call made => backoff_silent made (by simp)

/-- While the discovery thread lives, the backoff issue is present exactly
when that many attempts have failed since the last success. -/
theorem backoff_issue_iff {tracker : StatusTracker}
    (fresh : tracker.issue "discovery_backoff" = none) {events : List Event}
    (ran : runFrom settings tracker events = some state) (alive : state.discoveryAlive = true) :
    state.tracker.issue "discovery_backoff" ≠ none ↔
      BacksOff settings (failuresSince events) := by
  have start : BackoffShown settings 0 (startWith settings tracker) :=
    fun _ => iff_of_false (not_not_intro fresh) not_backs_off_zero
  have held : Counts settings (failuresSince events) state ∧
      BackoffShown settings (failuresSince events) state := by
    apply events_invariant (fun events state => Counts settings (failuresSince events) state ∧
      BackoffShown settings (failuresSince events) state) ⟨counts_start, start⟩ _ ran
    intro events event before next both stepped
    exact ⟨counts_step both.1 stepped, backoff_step both.1 both.2 stepped⟩
  exact held.2 alive

theorem backoff_issue_iff_second : ∃ state,
    runFrom { oneShot with discoveryMaxRetries := 1 } StatusTracker.new
        [.discovery (.failed "timeout"), .readLuns, .discovery .cancelled] = some state ∧
      (state.tracker.issue "discovery_backoff" ≠ none ↔
        BacksOff { oneShot with discoveryMaxRetries := 1 } (failuresSince
          [.discovery (.failed "timeout"), .readLuns, .discovery .cancelled])) :=
  ⟨_, rfl, backoff_issue_iff (StatusTracker.issue_new _) rfl rfl⟩

end Backoff

section FencerKeys

def IsFencerKey (key : String) : Prop := key = "fencing" ∨ startsWith key "missing_" = true

theorem config_spares_fencer {key : String} (own : IsFencerKey key) {call : Call}
    (made : ConfigCall call) : ¬SpeaksOf call key := by
  intro speaks
  cases made
  all_goals
    have same : key = _ := speaks
    rw [same, IsFencerKey] at own
    exact absurd own (by decide)

theorem others_spare_fencer {key : String} (own : IsFencerKey key) {event : Event} {call : Call}
    (made : DaemonCall event call) (other : ∀ response, event ≠ .queryConfig response) :
    ¬SpeaksOf call key := by
  intro speaks
  cases made with
  | fencer response call made => exact other response rfl
  | config response call made => exact other response rfl
  | _ =>
      have same : key = _ := speaks
      rw [same, IsFencerKey] at own
      exact absurd own (by decide)

variable {settings : Settings} {state next : State}

theorem fencer_frame {event : Event} (stepped : step settings state event = some next)
    (other : ∀ response, event ≠ .queryConfig response) :
    next.evaluated = state.evaluated ∧
      ∀ key, IsFencerKey key → next.tracker.issue key = state.tracker.issue key := by
  refine ⟨?_, fun key own => mutates_other_issue (step_mutates stepped) fun call made =>
    others_spare_fencer own made other⟩
  rcases step_cases stepped with ⟨nanos, rfl, rfl⟩ | ⟨outcome, rfl, rfl⟩ | ⟨rfl, rfl⟩ |
    ⟨activeData, rfl, place, rfl⟩ | ⟨activeData, response, rfl, place, rfl⟩ |
    ⟨activeData, maps, response, rfl, place, rfl⟩
  · rfl
  · exact (finish_discovery_frame settings state outcome).2.2.2
  · rfl
  · exact (check_stale_frame settings state activeData).2.2.2
  · exact (query_maps_frame settings state activeData response).2.2.2
  · exact absurd rfl (other response)

theorem query_config_step {response : Except String String}
    (stepped : step settings state (.queryConfig response) = some next) :
    ∃ activeData maps, state.monitor = .parsed activeData maps ∧
      next = evaluate settings state activeData maps response := by
  rcases step_cases stepped with ⟨_, impossible, -⟩ | ⟨_, impossible, -⟩ | ⟨impossible, -⟩ |
    ⟨_, impossible, -⟩ | ⟨_, _, impossible, -⟩ | ⟨activeData, maps, reply, same, place, after⟩
  all_goals try cases impossible
  cases same
  exact ⟨activeData, maps, place, after⟩

end FencerKeys

section Critical

variable (settings : Settings)

def monitors (poll : Evaluated) : Bool :=
  !(monitoredMaps settings.targetWwids poll.call.maps poll.call.activeLuns).isEmpty

def lastMonitoring (evaluated : List Evaluated) : Option Evaluated :=
  evaluated.reverse.find? (monitors settings)

/-- The last poll that found a map to monitor reached a decision. -/
def DecidedLast (evaluated : List Evaluated) : Prop :=
  ∃ poll, lastMonitoring settings evaluated = some poll ∧ poll.fence = true

/-- The only critical issue is the one of a decision that still stands. -/
structure CriticalShown (state : State) : Prop where
  only : ∀ key message, state.tracker.issue key = some (.critical, message) → key = "fencing"
  decided : (∃ message, state.tracker.issue "fencing" = some (.critical, message)) ↔
    DecidedLast settings state.evaluated

variable {settings} {state next : State}

theorem decided_last_snoc (evaluated : List Evaluated) (poll : Evaluated) :
    DecidedLast settings (evaluated ++ [poll]) ↔
      if monitors settings poll then poll.fence = true else DecidedLast settings evaluated := by
  unfold DecidedLast lastMonitoring
  rw [List.reverse_append, List.reverse_singleton, List.singleton_append, List.find?_cons]
  cases monitors settings poll with
  | true => simp
  | false => simp

theorem update_with_maps_critical (fencer : Fencer) (tracker : StatusTracker)
    (maps : List MultipathMap) (activeLuns : Finset String) :
    (∃ message, (updateWithMaps fencer tracker maps activeLuns).tracker.issue "fencing" =
        some (.critical, message)) ↔
      if (monitoredMaps fencer.targetWwids maps activeLuns).isEmpty then
        ∃ message, tracker.issue "fencing" = some (.critical, message)
      else (updateWithMaps fencer tracker maps activeLuns).fence = true := by
  rw [update_with_maps_fence]
  rcases update_with_maps_fencing_issue fencer tracker maps activeLuns with
    ⟨none, kept⟩ | ⟨filled, healthy, gone⟩ | ⟨fails, message, set⟩
  · rw [if_pos (by simpa using none), kept]
  · rw [if_neg (by simpa using filled), gone]
    simp [healthy]
  · rw [if_neg (by simpa using fails.1), set]
    by_cases reached : fencer.maxFailures ≤ saturatingAdd fencer.consecutiveFailures 1
    · simp [reached, fails]
    · simp [reached]

theorem critical_call {event : Event} {key message : String}
    (made : DaemonCall event (.setIssue key .critical message)) : key = "fencing" := by
  cases made with
  | fencer response call made =>
      cases made
      rfl
  | config response call made => cases made

theorem critical_evaluate {events : List Event} (consistent : Consistent settings events state)
    (shown : CriticalShown settings state) (activeData : ActiveLunsWithTimestamp)
    (maps : List MultipathMap) (response : Except String String) :
    (∃ message, (evaluate settings state activeData maps response).tracker.issue "fencing" =
        some (.critical, message)) ↔
      DecidedLast settings (evaluate settings state activeData maps response).evaluated := by
  unfold evaluate
  cases checked : checkConfig settings state activeData maps response with
  | none =>
      dsimp only
      rw [StatusTracker.issue_clear_issue_of_ne _ (by decide)]
      exact shown.decided
  | some after =>
      have kept : after.issue "fencing" = state.tracker.issue "fencing" :=
        mutates_other_issue (check_config_mutates checked) fun _ =>
          config_spares_fencer (Or.inl rfl)
      have targets : state.fencer.targetWwids = settings.targetWwids := by
        rw [consistent.fencer]
        exact (fencer_at_settings _ _ _ _).2
      dsimp only
      rw [update_with_maps_critical, decided_last_snoc, kept, shown.decided, targets, monitors]
      cases (monitoredMaps settings.targetWwids maps activeData.luns).isEmpty with
      | true => rfl
      | false => rfl

theorem critical_step {events : List Event} {event : Event}
    (consistent : Consistent settings events state) (shown : CriticalShown settings state)
    (stepped : step settings state event = some next) : CriticalShown settings next := by
  constructor
  · intro key message found
    cases mutates_recorded (step_mutates stepped) found with
    | inl before => exact shown.only key message before
    | inr made => exact critical_call made
  · by_cases config : ∃ response, event = .queryConfig response
    · obtain ⟨response, rfl⟩ := config
      obtain ⟨activeData, maps, place, rfl⟩ := query_config_step stepped
      exact critical_evaluate consistent shown activeData maps response
    · obtain ⟨evaluated, kept⟩ :=
        fencer_frame stepped fun response same => config ⟨response, same⟩
      rw [kept _ (Or.inl rfl), evaluated]
      exact shown.decided

/-- A startup that left nothing critical: the only critical issue is the one
of the last poll with a monitored map, if it reached a decision. -/
theorem critical_shown_run {tracker : StatusTracker}
    (calm : ∀ key message, tracker.issue key ≠ some (.critical, message)) {events : List Event}
    (ran : runFrom settings tracker events = some state) : CriticalShown settings state := by
  have start : CriticalShown settings (startWith settings tracker) := by
    refine ⟨fun key message found => absurd found (calm key message), iff_of_false ?_ ?_⟩
    · intro found
      obtain ⟨message, critical⟩ := found
      exact calm "fencing" message critical
    · intro decided
      obtain ⟨poll, last, -⟩ := decided
      cases last
  have held : Consistent settings events state ∧ CriticalShown settings state := by
    apply events_invariant (fun events state => Consistent settings events state ∧
      CriticalShown settings state) ⟨consistent_start settings tracker, start⟩ _ ran
    intro events event before next both stepped
    exact ⟨consistent_step both.1 stepped, critical_step both.1 both.2 stepped⟩
  exact held.2

theorem exit_code_highest (path : String) (tracker : StatusTracker) :
    ∃ level, Highest tracker level ∧
      (readStatus path (.ok (mapContent tracker))).2 = exitCode level := by
  obtain ⟨issues, iterates⟩ := exists_iteration tracker
  refine ⟨(aggregate issues).1, aggregate_highest iterates, ?_⟩
  rw [← content_of_iterates iterates]
  exact congrArg Prod.snd (read_status_line path _ _)

theorem exit_code_critical_iff (path : String) (tracker : StatusTracker) :
    (readStatus path (.ok (mapContent tracker))).2 = 2 ↔
      ∃ key message, tracker.issue key = some (.critical, message) := by
  obtain ⟨level, highest, code⟩ := exit_code_highest path tracker
  rw [code]
  constructor
  · intro two
    have critical : level = .critical := by
      cases level <;> first | rfl | cases two
    rw [critical] at highest
    exact highest.reached.resolve_left (by simp)
  · intro recorded
    obtain ⟨key, message, found⟩ := recorded
    have bound : severity .critical ≤ severity level := highest.bound key .critical message found
    cases level with
    | critical => rfl
    | _ => exact absurd bound (by decide)

theorem exit_code_of_warning (path : String) {tracker : StatusTracker} {key message : String}
    (found : tracker.issue key = some (.warning, message)) :
    (readStatus path (.ok (mapContent tracker))).2 ≠ 0 := by
  obtain ⟨level, highest, code⟩ := exit_code_highest path tracker
  have bound : severity .warning ≤ severity level := highest.bound key .warning message found
  rw [code]
  cases level with
  | ok => exact absurd bound (by decide)
  | _ => exact Nat.succ_ne_zero _

end Critical

end PveSanFenced.DaemonStatus
