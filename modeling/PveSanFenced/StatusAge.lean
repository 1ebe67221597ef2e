import PveSanFenced.DaemonCalls
import PveSanFenced.IssueCauses
import PveSanFenced.Lifecycle

/-!
# The age of the status file

`--status` takes a file that nobody has written for a while for the trace of a
daemon that hangs. Every cycle of the monitoring loop touches the file, but the
discovery thread writes to it as well, so a hanging monitoring loop does not
always show. A write is taken to reach the file in the instant of its call, and
no debug lines are logged.
-/

namespace PveSanFenced.StatusAge

open PveSanFenced.Daemon
open PveSanFenced.DaemonCalls
open PveSanFenced.DaemonSafety
open PveSanFenced.DaemonStatus
open PveSanFenced.IssueCauses
open PveSanFenced.Library.Fixed
open PveSanFenced.Library.Latest
open PveSanFenced.Library.Runs
open PveSanFenced.Lifecycle
open PveSanFenced.Startup
open PveSanFenced.Status
open PveSanFenced.StatusCalls
open PveSanFenced.StatusFile

set_option autoImplicit false

section Model

/-- What is in the status file, and since when. -/
structure Shown where
  line : String
  modified : ℕ

/-- A call on the tracker at an instant. -/
def makeCall (now : ℕ) (before : StatusTracker × Shown) (call : Call) : StatusTracker × Shown :=
  let tracker := mutate before.1 call
  (tracker, if writes before.1 call then ⟨mapContent tracker, now⟩ else before.2)

structure Observed where
  daemon : State
  shown : Shown

variable (settings : Settings) (tracker : StatusTracker)

def stepObserved (observed : Observed) (event : Event) : Option Observed :=
  (step settings observed.daemon event).map fun next =>
    ⟨next, ((eventCalls settings observed.daemon event).foldl (makeCall observed.daemon.now)
      (observed.daemon.tracker, observed.shown)).2⟩

/-- The startup ends with a touch. -/
def observedStart : Observed := ⟨startWith settings tracker, ⟨mapContent tracker, 0⟩⟩

def observe (events : List Event) : Option Observed :=
  events.foldlM (stepObserved settings) (observedStart settings tracker)

/-- Time goes by, and nobody makes a call. -/
def Observed.later (observed : Observed) (nanos : ℕ) : Observed :=
  { observed with daemon := { observed.daemon with now := observed.daemon.now + nanos } }

/-- The whole seconds since the file was written. -/
def age (observed : Observed) : ℕ :=
  (observed.daemon.now - observed.shown.modified) / secondNanos

/-- What `--status` answers, asked with the options of the daemon. -/
def answer (path : String) (observed : Observed) : Option (String × ℕ) :=
  statusBranch settings.overflow settings.pollInterval path
    ⟨some (age observed), .ok observed.shown.line⟩

def anyWrites : StatusTracker → List Call → Bool
  | _, [] => false
  | tracker, call :: rest => writes tracker call || anyWrites (mutate tracker call) rest

def writesFile (state : State) (event : Event) : Bool :=
  anyWrites state.tracker (eventCalls settings state event)

end Model

section Writes

variable {settings : Settings} {tracker : StatusTracker}

theorem make_calls (now : ℕ) (calls : List Call) (tracker : StatusTracker) (shown : Shown)
    (current : shown.line = mapContent tracker) :
    ((calls.foldl (makeCall now) (tracker, shown)).2.line =
        mapContent (calls.foldl mutate tracker)) ∧
      (calls.foldl (makeCall now) (tracker, shown)).2.modified =
        if anyWrites tracker calls then now else shown.modified := by
  induction calls generalizing tracker shown with
  | nil => exact ⟨current, rfl⟩
  | cons call rest ih =>
      rw [List.foldl_cons, List.foldl_cons, anyWrites, makeCall]
      dsimp only
      cases wrote : writes tracker call with
      | true =>
          rw [if_pos rfl, Bool.true_or]
          have later := ih (mutate tracker call) ⟨mapContent (mutate tracker call), now⟩ rfl
          refine ⟨later.1, ?_⟩
          rw [later.2]
          dsimp only
          rw [ite_self, if_pos rfl]
      | false =>
          rw [if_neg Bool.false_ne_true, Bool.false_or]
          apply ih
          rw [mutate_of_silent wrote, current]

theorem step_observed {observed next : Observed} {event : Event}
    (stepped : stepObserved settings observed event = some next) :
    step settings observed.daemon event = some next.daemon := by
  obtain ⟨daemon, moved, rfl⟩ := Option.map_eq_some_iff.mp stepped
  exact moved

theorem run_of_observed {events : List Event} {observed : Observed}
    (ran : observe settings tracker events = some observed) :
    runFrom settings tracker events = some observed.daemon := by
  apply events_invariant (fun events observed =>
    runFrom settings tracker events = some observed.daemon) rfl _ ran
  intro events event before next same stepped
  rw [runFrom, List.foldlM_append]
  have earlier : events.foldlM (step settings) (startWith settings tracker) =
      some before.daemon := same
  rw [earlier]
  simpa using step_observed stepped

theorem step_shown {observed next : Observed} {event : Event}
    (current : observed.shown.line = mapContent observed.daemon.tracker)
    (stepped : stepObserved settings observed event = some next) :
    next.shown.line = mapContent next.daemon.tracker ∧
      next.shown.modified = if writesFile settings observed.daemon event then
        observed.daemon.now else observed.shown.modified := by
  have moved := step_observed stepped
  have tracked := event_calls_tracker moved
  obtain ⟨daemon, -, rfl⟩ := Option.map_eq_some_iff.mp stepped
  have made := make_calls observed.daemon.now (eventCalls settings observed.daemon event)
    observed.daemon.tracker observed.shown current
  rw [tracked] at made
  exact made

theorem shown_line {events : List Event} {observed : Observed}
    (ran : observe settings tracker events = some observed) :
    observed.shown.line = mapContent observed.daemon.tracker := by
  apply events_invariant (fun _ observed =>
    observed.shown.line = mapContent observed.daemon.tracker) rfl _ ran
  intro events event before next current stepped
  exact (step_shown current stepped).1

theorem observed_now {events : List Event} {observed : Observed}
    (ran : observe settings tracker events = some observed) :
    observed.daemon.now = clock events :=
  (consistent_run_from (run_of_observed ran)).now

theorem clock_of_writes {state : State} {event : Event}
    (wrote : writesFile settings state event = true) (events : List Event) :
    clock (event :: events) = clock events := by
  cases event with
  | elapse nanos => cases wrote
  | _ => rfl

def WrittenWithin (settings : Settings) (tracker : StatusTracker) (limit : ℕ)
    (events : List Event) : Prop :=
  ∃ before event after middle, events = before ++ event :: after ∧
    observe settings tracker before = some middle ∧
      writesFile settings middle.daemon event = true ∧ clock after / secondNanos ≤ limit

structure Dated (settings : Settings) (tracker : StatusTracker) (events : List Event)
    (observed : Observed) : Prop where
  ran : observe settings tracker events = some observed
  past : observed.shown.modified ≤ clock events
  covers : ∀ before event after middle, events = before ++ event :: after →
    observe settings tracker before = some middle →
      writesFile settings middle.daemon event = true → clock before ≤ observed.shown.modified
  written : observed.shown.modified = 0 ∨ ∃ before event after middle,
    events = before ++ event :: after ∧ observe settings tracker before = some middle ∧
      writesFile settings middle.daemon event = true ∧ observed.shown.modified = clock before

theorem observe_snoc {events : List Event} {event : Event} {observed next : Observed}
    (ran : observe settings tracker events = some observed)
    (stepped : stepObserved settings observed event = some next) :
    observe settings tracker (events ++ [event]) = some next := by
  rw [observe, List.foldlM_append]
  have earlier : events.foldlM (stepObserved settings) (observedStart settings tracker) =
      some observed := ran
  rw [earlier]
  simpa using stepped

theorem dated_start : Dated settings tracker [] (observedStart settings tracker) where
  ran := rfl
  past := Nat.zero_le _
  covers before event after middle split := by simp at split
  written := Or.inl rfl

theorem dated_step {events : List Event} {event : Event} {observed next : Observed}
    (dated : Dated settings tracker events observed)
    (stepped : stepObserved settings observed event = some next) :
    Dated settings tracker (events ++ [event]) next := by
  have now := observed_now dated.ran
  have moved := (step_shown (shown_line dated.ran) stepped).2
  have passed : clock events ≤ clock (events ++ [event]) := by
    rw [clock_append]
    omega
  have grown : observed.shown.modified ≤ next.shown.modified := by
    rw [moved]
    split_ifs
    · rw [now]
      exact dated.past
    · exact le_refl _
  constructor
  · exact observe_snoc dated.ran stepped
  · rw [moved]
    split_ifs
    · rw [now]
      exact passed
    · exact dated.past.trans passed
  · intro before other after middle split reached wrote
    rcases List.eq_nil_or_concat after with rfl | ⟨rest, last, rfl⟩
    · obtain ⟨rfl, same⟩ := List.append_inj' split rfl
      obtain rfl := List.singleton_inj.mp same
      rw [dated.ran, Option.some.injEq] at reached
      rw [moved, reached, if_pos wrote, ← reached, now]
    · have shorter : events = before ++ other :: rest := by
        rw [List.concat_eq_append, ← List.cons_append, ← List.append_assoc] at split
        exact (List.append_inj' split rfl).1
      exact (dated.covers before other rest middle shorter reached wrote).trans grown
  · rw [moved]
    split_ifs with wrote
    · exact Or.inr ⟨events, event, [], observed, rfl, dated.ran, wrote, now⟩
    · apply dated.written.imp_right
      intro last
      obtain ⟨before, other, after, middle, rfl, reached, wrote, instant⟩ := last
      exact ⟨before, other, after ++ [event], middle, by simp, reached, wrote, instant⟩

theorem dated_run {events : List Event} {observed : Observed}
    (ran : observe settings tracker events = some observed) :
    Dated settings tracker events observed := by
  apply events_invariant (Dated settings tracker) dated_start _ ran
  intro events event before next dated stepped
  exact dated_step dated stepped

theorem age_le_iff {events : List Event} {observed : Observed}
    (ran : observe settings tracker events = some observed) (limit : ℕ) :
    age observed ≤ limit ↔
      clock events / secondNanos ≤ limit ∨ WrittenWithin settings tracker limit events := by
  have dated := dated_run ran
  rw [age, observed_now ran]
  have since {before after : List Event} {event : Event} {middle : Observed}
      (split : events = before ++ event :: after)
      (wrote : writesFile settings middle.daemon event = true) :
      clock events = clock before + clock after := by
    rw [split, clock_append, clock_of_writes wrote]
  constructor
  · intro young
    cases dated.written with
    | inl first =>
        rw [first, Nat.sub_zero] at young
        exact Or.inl young
    | inr last =>
        obtain ⟨before, event, after, middle, split, reached, wrote, instant⟩ := last
        rw [since split wrote, instant, Nat.add_sub_cancel_left] at young
        exact Or.inr ⟨before, event, after, middle, split, reached, wrote, young⟩
  · intro lately
    cases lately with
    | inl short =>
        exact (Nat.div_le_div_right (Nat.sub_le _ _)).trans short
    | inr recent =>
        obtain ⟨before, event, after, middle, split, reached, wrote, young⟩ := recent
        have covered := dated.covers before event after middle split reached wrote
        have passed := since split wrote
        have bound : clock events - observed.shown.modified ≤ clock after := by omega
        exact (Nat.div_le_div_right bound).trans young

end Writes

section Hanging

variable {settings : Settings} {tracker : StatusTracker}

/-- The monitoring loop takes no part in the event. -/
def IsOutside (event : Event) : Prop :=
  (∃ nanos, event = .elapse nanos) ∨ ∃ outcome, event = .discovery outcome

def Fails (settings : Settings) (state : State) (outcome : Discovery) : Prop :=
  failureMessage outcome ≠ none ∧ addWord settings.overflow state.discoveryFailures 1 ≠ none

/-- The attempt ends a series of failures. -/
def Recovers (state : State) (outcome : Discovery) : Prop :=
  failureMessage outcome = none ∧ (state.tracker.issue "discovery_failure" ≠ none ∨
    state.tracker.issue "discovery_backoff" ≠ none)

/-- After `before`, within the last `limit` seconds of `after`, there was such
an attempt. -/
def Lately (settings : Settings) (tracker : StatusTracker) (limit : ℕ) (before after : List Event)
    (kind : State → Discovery → Prop) : Prop :=
  ∃ earlier outcome later middle, after = earlier ++ .discovery outcome :: later ∧
    observe settings tracker (before ++ earlier) = some middle ∧ kind middle.daemon outcome ∧
      clock later / secondNanos ≤ limit

theorem failure_calls_write (state : State) (message : String) :
    anyWrites state.tracker (failureCalls settings state message) = true ↔
      addWord settings.overflow state.discoveryFailures 1 ≠ none := by
  unfold failureCalls
  cases addWord settings.overflow state.discoveryFailures 1 with
  | none => simp [anyWrites]
  | some consecutiveFailures => simp [anyWrites, writes]

/-- The writes of the discovery thread: a failure always writes, a success only
where it takes an issue back. -/
theorem writes_discovery_iff (state : State) (outcome : Discovery) :
    writesFile settings state (.discovery outcome) = true ↔
      Fails settings state outcome ∨ Recovers state outcome := by
  cases outcome with
  | found mpaths =>
      have other : (state.tracker.clearIssue "discovery_failure").issue "discovery_backoff" =
          state.tracker.issue "discovery_backoff" :=
        StatusTracker.issue_clear_issue_of_ne _ (by decide)
      simp [writesFile, eventCalls, discoveryCalls, anyWrites, writes, mutate, Fails, Recovers,
        failureMessage, other, Option.isSome_iff_ne_none]
  | failed error =>
      rw [writesFile, eventCalls, discoveryCalls, failure_calls_write]
      simp [Fails, Recovers, failureMessage]
  | panicked message =>
      rw [writesFile, eventCalls, discoveryCalls, failure_calls_write]
      simp [Fails, Recovers, failureMessage]
  | cancelled =>
      rw [writesFile, eventCalls, discoveryCalls, failure_calls_write]
      simp [Fails, Recovers, failureMessage]

theorem hanging_age_le_iff {before after : List Event} {observed : Observed}
    (ran : observe settings tracker (before ++ after) = some observed)
    (hangs : ∀ event ∈ after, IsOutside event) {limit : ℕ}
    (long : limit < clock after / secondNanos) :
    age observed ≤ limit ↔ Lately settings tracker limit before after
      fun state outcome => Fails settings state outcome ∨ Recovers state outcome := by
  rw [age_le_iff ran]
  constructor
  · intro young
    cases young with
    | inl short =>
        rw [clock_append] at short
        have grown := Nat.div_le_div_right (c := secondNanos)
          (Nat.le_add_left (clock after) (clock before))
        omega
    | inr recent =>
        obtain ⟨front, event, later, middle, split, reached, wrote, young⟩ := recent
        -- the write is recent, so it falls into the time the loop has been hanging
        rcases List.append_eq_append_iff.mp split with ⟨between, rfl, rest⟩ | ⟨between, rfl, rest⟩
        · have outside := hangs event (by rw [rest]; simp)
          cases outside with
          | inl passed =>
              obtain ⟨nanos, rfl⟩ := passed
              cases wrote
          | inr attempt =>
              obtain ⟨outcome, rfl⟩ := attempt
              have kind := (writes_discovery_iff middle.daemon outcome).mp wrote
              exact ⟨between, outcome, later, middle, rest, reached, kind, young⟩
        · have longer : clock after ≤ clock later := by
            cases between with
            | nil =>
                rw [List.nil_append] at rest
                rw [← rest, clock_of_writes wrote]
            | cons first between =>
                have tail : later = between ++ after := (List.cons.inj rest).2
                rw [tail, clock_append]
                omega
          have grown := Nat.div_le_div_right (c := secondNanos) longer
          omega
  · intro lately
    obtain ⟨earlier, outcome, later, middle, rfl, reached, kind, young⟩ := lately
    exact Or.inr ⟨before ++ earlier, _, later, middle, by simp, reached,
      (writes_discovery_iff middle.daemon outcome).mpr kind, young⟩

theorem recovers_of_gone {before after : List Event} {middle observed : Observed}
    (reached : observe settings tracker before = some middle)
    (ran : observe settings tracker (before ++ after) = some observed)
    (hangs : ∀ event ∈ after, IsOutside event)
    (held : middle.daemon.tracker.issue "discovery_failure" ≠ none)
    (gone : observed.daemon.tracker.issue "discovery_failure" = none) :
    ∃ earlier outcome later between, after = earlier ++ .discovery outcome :: later ∧
      observe settings tracker (before ++ earlier) = some between ∧
        Recovers between.daemon outcome := by
  induction after using List.reverseRecOn generalizing observed with
  | nil =>
      rw [List.append_nil, reached, Option.some.injEq] at ran
      rw [ran] at held
      exact absurd gone held
  | append_singleton after event ih =>
      rw [← List.append_assoc] at ran
      obtain ⟨near, earlier, stepped⟩ := run_snoc ran
      by_cases still : near.daemon.tracker.issue "discovery_failure" = none
      · have hangs' : ∀ event ∈ after, IsOutside event :=
          fun event member => hangs event (List.mem_append_left _ member)
        obtain ⟨front, outcome, later, between, rfl, at', recovers⟩ := ih earlier hangs' still
        exact ⟨front, outcome, later ++ [event], between, by simp, at', recovers⟩
      · -- the last event took it back
        have moved := step_observed stepped
        rcases hangs event (by simp) with ⟨nanos, rfl⟩ | ⟨outcome, rfl⟩
        · have same : observed.daemon = { near.daemon with now := near.daemon.now + nanos } :=
            (Option.some.inj moved).symm
          rw [same] at gone
          exact absurd gone still
        · have finished := (discovery_step moved).2
          refine ⟨after, outcome, [], near, rfl, earlier, ?_, Or.inl still⟩
          by_contra failing
          obtain ⟨message, text⟩ := Option.ne_none_iff_exists'.mp failing
          rw [← finished, discovery_reported] at gone
          simp only [reports, text] at gone
          cases counted : addWord settings.overflow near.daemon.discoveryFailures 1 with
          | none =>
              rw [counted] at gone
              exact still gone
          | some consecutiveFailures =>
              rw [counted] at gone
              cases gone

end Hanging

section Answers

variable {build : Build} {cli : Cli} {env : Environment} {tracker : StatusTracker}

theorem recorded_warns (started : startUp build cli env = .started tracker) {events : List Event}
    {state : State} (ran : runFrom (settings build cli) tracker events = some state) :
    ∀ key issue, state.tracker.issue key = some issue → issue.1 ≠ .ok := by
  apply events_invariant (fun _ state => ∀ key issue,
    state.tracker.issue key = some issue → issue.1 ≠ .ok) _ _ ran
  · intro key issue left fine
    rw [(started_issue started left).1] at fine
    cases fine
  · intro events event state next before stepped key issue found
    cases step_warns stepped found with
    | inl earlier => exact before key issue earlier
    | inr warns => exact warns

theorem exit_code_zero_iff (started : startUp build cli env = .started tracker)
    {events : List Event} {state : State}
    (ran : runFrom (settings build cli) tracker events = some state) (path : String) :
    (readStatus path (.ok (mapContent state.tracker))).2 = 0 ↔
      ∀ key, state.tracker.issue key = none := by
  obtain ⟨level, highest, code⟩ := exit_code_highest path state.tracker
  constructor
  · intro zero
    rw [code] at zero
    have fine : level = .ok := by
      cases level <;> first | rfl | cases zero
    intro key
    rw [Option.eq_none_iff_forall_ne_some]
    intro issue found
    have bound : severity issue.1 ≤ severity level := highest.bound key issue.1 issue.2 found
    apply recorded_warns started ran key issue found
    apply severity_injective
    rw [fine] at bound
    exact Nat.le_zero.mp bound
  · intro none
    rw [content_of_no_issue none]
    rfl

theorem answer_young {settings : Settings} {observed : Observed} {limit : ℕ}
    (checks : threshold settings.overflow settings.pollInterval = some limit)
    (young : age observed ≤ limit) (path : String) :
    answer settings path observed = some (readStatus path (.ok observed.shown.line)) := by
  have fresh : Fresh settings.overflow settings.pollInterval
      ⟨some (age observed), .ok observed.shown.line⟩ := by
    intro elapsed known
    rw [← Option.some.inj known]
    exact ⟨limit, checks, young⟩
  exact status_branch_fresh fresh path

theorem answer_old {settings : Settings} {observed : Observed} {limit : ℕ}
    (checks : threshold settings.overflow settings.pollInterval = some limit)
    (old : limit < age observed) (path : String) :
    ∃ line, answer settings path observed = some (line, 3) := by
  refine ⟨"UNKNOWN - Status file is outdated (last modified " ++ toString (age observed) ++
    " seconds ago)", ?_⟩
  simp only [answer, statusBranch, checks, Option.bind_eq_bind, Option.bind_some, if_pos old]

theorem recovers_lately {settings : Settings} {before after : List Event} {observed : Observed}
    (ran : observe settings tracker (before ++ after) = some observed)
    (hangs : ∀ event ∈ after, IsOutside event) {limit : ℕ}
    (none : observed.daemon.tracker.issue "discovery_failure" = none)
    (lately : Lately settings tracker limit before after fun state outcome =>
      Fails settings state outcome ∨ Recovers state outcome) :
    Lately settings tracker limit before after Recovers := by
  obtain ⟨earlier, outcome, later, middle, rfl, reached, kind, young⟩ := lately
  cases kind with
  | inr recovers => exact ⟨earlier, outcome, later, middle, rfl, reached, recovers, young⟩
  | inl fails =>
      have split : before ++ (earlier ++ .discovery outcome :: later) =
          (before ++ earlier ++ [.discovery outcome]) ++ later := by simp
      have whole := ran
      rw [split, observe, List.foldlM_append, Option.bind_eq_bind, Option.bind_eq_some_iff] at whole
      obtain ⟨next, attempted, -⟩ := whole
      obtain ⟨near, reached', stepped⟩ := run_snoc attempted
      obtain rfl : middle = near := Option.some.inj (reached.symm.trans reached')
      have finished := (discovery_step (step_observed stepped)).2
      have held : next.daemon.tracker.issue "discovery_failure" ≠ Option.none := by
        obtain ⟨message, text⟩ := Option.ne_none_iff_exists'.mp fails.1
        obtain ⟨counted, added⟩ := Option.ne_none_iff_exists'.mp fails.2
        rw [← finished, discovery_reported]
        simp [reports, text, added]
      rw [split] at ran
      obtain ⟨front, recovery, rest, between, rfl, at', recovers⟩ :=
        recovers_of_gone attempted ran (fun event member => hangs event (by simp [member])) held
          none
      refine ⟨earlier ++ .discovery outcome :: front, recovery, rest, between, by simp, ?_,
        recovers, ?_⟩
      · rw [← at']
        simp
      · have shorter : clock rest ≤ clock (front ++ .discovery recovery :: rest) := by
          rw [clock_append, clock]
          omega
        exact (Nat.div_le_div_right shorter).trans young

/-- Where the monitoring loop has been hanging for longer than the limit,
`--status` still answers that all is well exactly if no issue is recorded and
the discovery thread has recovered from failures lately. It reports the hang
exactly if the discovery thread has neither failed nor recovered lately. -/
theorem hanging_monitor_answer (started : startUp build cli env = .started tracker)
    {before after : List Event} {observed : Observed}
    (ran : observe (settings build cli) tracker (before ++ after) = some observed)
    (hangs : ∀ event ∈ after, IsOutside event) {limit : ℕ}
    (checks : threshold (settings build cli).overflow (settings build cli).pollInterval =
      some limit)
    (long : limit < clock after / secondNanos) (path : String) :
    ∃ line code, answer (settings build cli) path observed = some (line, code) ∧
      (code = 3 ↔ ¬Lately (settings build cli) tracker limit before after fun state outcome =>
        Fails (settings build cli) state outcome ∨ Recovers state outcome) ∧
      (code = 0 ↔ (∀ key, observed.daemon.tracker.issue key = none) ∧
        Lately (settings build cli) tracker limit before after Recovers) := by
  have lately := hanging_age_le_iff ran hangs long
  by_cases young : age observed ≤ limit
  · obtain ⟨level, -, shows⟩ := exit_code_highest path observed.daemon.tracker
    have zero := exit_code_zero_iff started (run_of_observed ran) path
    have read := answer_young checks young path
    rw [shown_line ran] at read
    generalize readStatus path (.ok (mapContent observed.daemon.tracker)) = said
      at read zero shows
    obtain ⟨line, code⟩ := said
    refine ⟨line, code, read, ?_, ?_⟩
    · apply iff_of_false
      · intro unknown
        have known : exitCode level = 3 := shows.symm.trans unknown
        cases level <;> cases known
      · exact not_not_intro (lately.mp young)
    · constructor
      · intro fine
        have none := zero.mp fine
        exact ⟨none, recovers_lately ran hangs (none _) (lately.mp young)⟩
      · exact fun fine => zero.mpr fine.1
  · obtain ⟨line, outdated⟩ := answer_old checks (Nat.lt_of_not_le young) path
    refine ⟨line, 3, outdated, ?_, ?_⟩
    · exact iff_of_true rfl fun recent => young (lately.mpr recent)
    · apply iff_of_false
      · decide
      · intro fine
        obtain ⟨-, earlier, outcome, later, middle, split, reached, recovers, recent⟩ := fine
        exact young (lately.mpr
          ⟨earlier, outcome, later, middle, split, reached, Or.inr recovers, recent⟩)

/-- While the monitoring loop keeps cycling, the answer is the level of the
issues: the file is never taken for outdated. -/
theorem cycling_monitor_answer {settings : Settings} {before after : List Event}
    {observed : Observed}
    (ran : observe settings tracker (before ++ .readLuns :: after) = some observed) {limit : ℕ}
    (checks : threshold settings.overflow settings.pollInterval = some limit)
    (cycled : clock after / secondNanos ≤ limit) (path : String) :
    ∃ line level, answer settings path observed = some (line, exitCode level) ∧
      Highest observed.daemon.tracker level := by
  have reached : ∃ middle, observe settings tracker before = some middle := by
    rw [observe, List.foldlM_append, Option.bind_eq_bind, Option.bind_eq_some_iff] at ran
    obtain ⟨middle, reached, -⟩ := ran
    exact ⟨middle, reached⟩
  obtain ⟨middle, reached⟩ := reached
  have young : age observed ≤ limit :=
    (age_le_iff ran limit).mpr
      (Or.inr ⟨before, .readLuns, after, middle, rfl, reached, rfl, cycled⟩)
  have read := answer_young checks young path
  obtain ⟨level, highest, shows⟩ := exit_code_highest path observed.daemon.tracker
  rw [shown_line ran] at read
  generalize readStatus path (.ok (mapContent observed.daemon.tracker)) = said at read shows
  obtain ⟨line, code⟩ := said
  have coded : code = exitCode level := shows
  rw [coded] at read
  exact ⟨line, level, read, highest⟩

end Answers

section Witness

/-- The loop hangs in its first cycle. Much later discovery fails once, and
recovers. -/
def hanging : List Event :=
  [.elapse (40 * secondNanos), .discovery (.failed "timeout"), .elapse (60 * secondNanos)]

def recovered : List Event := [.discovery (.found {"mpatha"}), .elapse (10 * secondNanos)]

theorem hanging_monitor_answer_recovered : ∃ observed,
    observe (settings plain oneFailure) StatusTracker.new ([.readLuns] ++ (hanging ++ recovered)) =
        some observed ∧
      ∃ line, answer (settings plain oneFailure) "status" observed = some (line, 0) := by
  have seen : (observe (settings plain oneFailure) StatusTracker.new
      ([.readLuns] ++ (hanging ++ recovered))).map (·.daemon.tracker.activeIssues) = some ∅ := by
    decide +kernel
  obtain ⟨observed, ran, empty⟩ := Option.map_eq_some_iff.mp seen
  have failing : (observe (settings plain oneFailure) StatusTracker.new
      ([.readLuns] ++ hanging)).map (fun middle =>
        (middle.daemon.tracker.issue "discovery_failure").isSome) = some true := by
    decide +kernel
  obtain ⟨middle, reached, held⟩ := Option.map_eq_some_iff.mp failing
  have outside : ∀ event ∈ hanging ++ recovered, IsOutside event := by
    simp [hanging, recovered, IsOutside]
  have none : ∀ key, observed.daemon.tracker.issue key = none := by
    intro key
    rw [StatusTracker.issue, empty, Finmap.lookup_empty]
  obtain ⟨line, code, said, -, fine⟩ := hanging_monitor_answer (obedient_started false) ran outside
    (show threshold _ _ = some 30 from rfl) (by decide) "status"
  have zero : code = 0 := fine.mpr ⟨none, hanging, .found {"mpatha"},
    [.elapse (10 * secondNanos)], middle, rfl, reached,
    ⟨rfl, Or.inl (Option.isSome_iff_ne_none.mp held)⟩, by decide⟩
  rw [zero] at said
  exact ⟨observed, ran, line, said⟩

end Witness

end PveSanFenced.StatusAge
