import PveSanFenced.DaemonPanics
import PveSanFenced.Startup

/-!
# One lifetime of the daemon

A lifetime begins with the issues that the startup left and runs the two loops
under any interleaving. When a poll reaches a decision the monitoring loop acts
on it before it goes on: in test mode it does nothing, in a dry run the process
exits, otherwise the SysRq sequence is written. The discovery thread shares
nothing with that sequence, so decision and action are one step. The monitoring
loop is the main thread: where it panics the process ends, and the discovery
thread with it.
-/

namespace PveSanFenced.Lifecycle

open PveSanFenced.Daemon
open PveSanFenced.DaemonPanics
open PveSanFenced.DaemonSafety
open PveSanFenced.DaemonStatus
open PveSanFenced.FencerHistory
open PveSanFenced.FencerModel
open PveSanFenced.Library.Latest
open PveSanFenced.Library.Paths
open PveSanFenced.Library.Runs
open PveSanFenced.Library.Text
open PveSanFenced.Startup
open PveSanFenced.Status
open PveSanFenced.StatusCalls
open PveSanFenced.StatusFile
open PveSanFenced.Sysrq

set_option autoImplicit false

section Model

/-- The loops, the SysRq writes made so far, and the exit code at the end. -/
structure Life where
  daemon : State
  process : Process
  attempts : List Attempt
  exited : Option ℕ

/-- Whether `update_with_maps` is reached in this event and returns true. -/
def decision (settings : Settings) (state : State) : Event → Bool
  | .queryConfig response =>
      match state.monitor with
      | .parsed activeData maps =>
          match checkConfig settings state activeData maps response with
          | some tracker => (updateWithMaps state.fencer tracker maps activeData.luns).fence
          | none => false
      | _ => false
  | _ => false

variable (build : Build) (cli : Cli) (env : Environment) (succeeds : ℕ → Bool)

def beginWith (tracker : StatusTracker) : Life where
  daemon := startWith (settings build cli) tracker
  process := Process.start
  attempts := []
  exited := none

/-- The branch of the monitoring loop behind a decision. -/
def act (life : Life) : Life :=
  if cli.testMode then life
  else
    let triggered := triggerFencing succeeds env.dryRun cli.sysrqChar life.process
    { life with
      process := triggered.process
      attempts := life.attempts ++ triggered.attempts
      exited := if triggered.exits then some 0 else none }

/-- The exit code of a panic in the main thread. -/
def panicExit (daemon : State) : Option ℕ :=
  match daemon.monitor with
  | .crashed => some 101
  | _ => none

def stepLife (life : Life) (event : Event) : Option Life :=
  match life.exited with
  | some _ => none
  | none =>
      (step (settings build cli) life.daemon event).map fun daemon =>
        if decision (settings build cli) life.daemon event then
          act cli env succeeds { life with daemon := daemon }
        else { life with daemon := daemon, exited := panicExit daemon }

def live (tracker : StatusTracker) (events : List Event) : Option Life :=
  events.foldlM (stepLife build cli env succeeds) (beginWith build cli tracker)

end Model

section Decisions

variable {settings : Settings} {state next : State}

def Decided (state : State) : Prop := ∃ poll ∈ state.evaluated, poll.fence = true

theorem decided_snoc (state : State) (poll : Evaluated) :
    (∃ other ∈ state.evaluated ++ [poll], other.fence = true) ↔
      Decided state ∨ poll.fence = true := by
  simp [Decided, or_and_right, exists_or]

/-- A decision is recorded with the poll that reached it, and no other event
changes what was decided. -/
theorem decision_recorded {event : Event} (stepped : step settings state event = some next) :
    Decided next ↔ Decided state ∨ decision settings state event = true := by
  have other (same : next.evaluated = state.evaluated)
      (undecided : decision settings state event = false) :
      Decided next ↔ Decided state ∨ decision settings state event = true := by
    rw [undecided, Decided, same]
    simp [Decided]
  rcases step_cases stepped with ⟨nanos, rfl, rfl⟩ | ⟨outcome, rfl, rfl⟩ | ⟨rfl, rfl⟩ |
    ⟨activeData, rfl, place, rfl⟩ | ⟨activeData, response, rfl, place, rfl⟩ |
    ⟨activeData, maps, response, rfl, place, rfl⟩
  · exact other rfl rfl
  · exact other (finish_discovery_frame settings state outcome).2.2.2 rfl
  · exact other rfl rfl
  · exact other (check_stale_frame settings state activeData).2.2.2 rfl
  · exact other (query_maps_frame settings state activeData response).2.2.2 rfl
  · simp only [decision, place, evaluate]
    cases checked : checkConfig settings state activeData maps response with
    | none => simp [Decided]
    | some tracker => exact decided_snoc state _

end Decisions

section Accounts

variable {build : Build} {cli : Cli} {env : Environment} {succeeds : ℕ → Bool}

/-- The decision is acted on by writing. -/
def Writes (cli : Cli) (env : Environment) (life : Life) : Prop :=
  cli.testMode = false ∧ env.dryRun = false ∧ Decided life.daemon

/-- The decision is acted on by exiting. -/
def Exits (cli : Cli) (env : Environment) (life : Life) : Prop :=
  cli.testMode = false ∧ env.dryRun = true ∧ Decided life.daemon

/-- The writes of the first decision of a process. -/
def sequence (cli : Cli) (succeeds : ℕ → Bool) : List Attempt :=
  (triggerFencing succeeds false cli.sysrqChar Process.start).attempts

structure Accounts (cli : Cli) (env : Environment) (succeeds : ℕ → Bool) (life : Life) :
    Prop where
  idle : ¬Writes cli env life → life.process = Process.start ∧ life.attempts = []
  written : Writes cli env life →
    life.process.fencingInProgress = true ∧ life.attempts = sequence cli succeeds
  running : ¬Exits cli env life → life.exited = panicExit life.daemon
  ended : Exits cli env life → life.exited = some 0 ∧ panicExit life.daemon = none

theorem accounts_begin (tracker : StatusTracker) :
    Accounts cli env succeeds (beginWith build cli tracker) := by
  have undecided : ¬Decided (beginWith build cli tracker).daemon := by
    intro decided
    obtain ⟨poll, member, -⟩ := decided
    cases member
  constructor
  · exact fun _ => ⟨rfl, rfl⟩
  · exact fun writes => absurd writes.2.2 undecided
  · exact fun _ => rfl
  · exact fun exits => absurd exits.2.2 undecided

theorem accounts_of_same {life : Life} {daemon : State} (accounts : Accounts cli env succeeds life)
    (running : life.exited = none) (same : Decided daemon ↔ Decided life.daemon) :
    Accounts cli env succeeds { life with daemon := daemon, exited := panicExit daemon } := by
  have writes : Writes cli env { life with daemon := daemon, exited := panicExit daemon } ↔
      Writes cli env life := by
    simp only [Writes, same]
  constructor
  · exact fun idle => accounts.idle fun wrote => idle (writes.mpr wrote)
  · exact fun wrote => accounts.written (writes.mp wrote)
  · exact fun _ => rfl
  · intro ended
    have before : Exits cli env life := ⟨ended.1, ended.2.1, same.mp ended.2.2⟩
    rw [(accounts.ended before).1] at running
    cases running

theorem accounts_act {life : Life} {daemon : State} (accounts : Accounts cli env succeeds life)
    (running : life.exited = none) (decided : Decided daemon) (alive : panicExit daemon = none) :
    Accounts cli env succeeds (act cli env succeeds { life with daemon := daemon }) := by
  unfold act
  cases test : cli.testMode with
  | true =>
      have silent (other : Life) : ¬Writes cli env other := by simp [Writes, test]
      have staying (other : Life) : ¬Exits cli env other := by simp [Exits, test]
      rw [if_pos rfl]
      exact ⟨fun _ => accounts.idle (silent life), fun wrote => absurd wrote (silent _),
        fun _ => running.trans alive.symm, fun ended => absurd ended (staying _)⟩
  | false =>
      rw [if_neg Bool.false_ne_true]
      cases dry : env.dryRun with
      | true =>
          have silent (other : Life) : ¬Writes cli env other := by simp [Writes, dry]
          have idle := accounts.idle (silent life)
          refine ⟨fun _ => ⟨idle.1, ?_⟩, fun wrote => absurd wrote (silent _), ?_,
            fun _ => ⟨rfl, alive⟩⟩
          · simp only [triggerFencing, if_pos, List.append_nil]
            exact idle.2
          · exact fun stays => absurd ⟨test, dry, decided⟩ stays
      | false =>
          have staying (other : Life) : ¬Exits cli env other := by simp [Exits, dry]
          refine ⟨fun silent => absurd ⟨test, dry, decided⟩ silent, fun _ => ?_, fun _ => ?_,
            fun ended => absurd ended (staying _)⟩
          · refine ⟨trigger_fencing_sets_flag succeeds cli.sysrqChar life.process, ?_⟩
            by_cases before : Writes cli env life
            · obtain ⟨flag, attempts⟩ := accounts.written before
              simp only [triggerFencing, Bool.false_eq_true, if_false, flag, if_pos,
                List.append_nil]
              exact attempts
            · obtain ⟨start, none⟩ := accounts.idle before
              simp only [start, none, List.nil_append]
              rfl
          · have goesOn : (triggerFencing succeeds false cli.sysrqChar life.process).exits =
                false := by
              unfold triggerFencing
              cases life.process.fencingInProgress with
              | true => rfl
              | false => rfl
            simp only [goesOn, Bool.false_eq_true, if_false]
            exact alive.symm

theorem step_life_cases {life next : Life} {event : Event}
    (stepped : stepLife build cli env succeeds life event = some next) :
    life.exited = none ∧ ∃ daemon,
      step (settings build cli) life.daemon event = some daemon ∧
      next = if decision (settings build cli) life.daemon event then
          act cli env succeeds { life with daemon := daemon }
        else { life with daemon := daemon, exited := panicExit daemon } := by
  rcases life with ⟨before, process, attempts, exited⟩
  cases exited with
  | some code => cases stepped
  | none =>
      rw [stepLife, Option.map_eq_some_iff] at stepped
      obtain ⟨daemon, moved, after⟩ := stepped
      exact ⟨rfl, daemon, moved, after.symm⟩

theorem decision_evaluated {settings : Settings} {state next : State} {event : Event}
    (stepped : step settings state event = some next)
    (decides : decision settings state event = true) : panicExit next = none ∧
      ∃ poll, next.evaluated = state.evaluated ++ [poll] ∧ poll.fence = true := by
  rcases step_cases stepped with ⟨nanos, rfl, rfl⟩ | ⟨outcome, rfl, rfl⟩ | ⟨rfl, rfl⟩ |
    ⟨activeData, rfl, place, rfl⟩ | ⟨activeData, response, rfl, place, rfl⟩ |
    ⟨activeData, maps, response, rfl, place, rfl⟩
  all_goals try cases decides
  simp only [decision, place] at decides
  simp only [evaluate]
  cases checked : checkConfig settings state activeData maps response with
  | none =>
      rw [checked] at decides
      cases decides
  | some after =>
      rw [checked] at decides
      exact ⟨rfl, _, rfl, decides⟩

theorem act_daemon (life : Life) : (act cli env succeeds life).daemon = life.daemon := by
  unfold act
  split_ifs <;> rfl

theorem step_life_daemon {life next : Life} {event : Event}
    (stepped : stepLife build cli env succeeds life event = some next) :
    step (settings build cli) life.daemon event = some next.daemon := by
  obtain ⟨-, daemon, moved, rfl⟩ := step_life_cases stepped
  rw [moved]
  split_ifs
  · rw [act_daemon]
  · rfl

theorem accounts_step {life next : Life} {event : Event}
    (accounts : Accounts cli env succeeds life)
    (stepped : stepLife build cli env succeeds life event = some next) :
    Accounts cli env succeeds next := by
  obtain ⟨running, daemon, moved, rfl⟩ := step_life_cases stepped
  have recorded := decision_recorded moved
  cases decides : decision (settings build cli) life.daemon event with
  | true =>
      rw [if_pos rfl]
      exact accounts_act accounts running (recorded.mpr (Or.inr decides))
        (decision_evaluated moved decides).1
  | false =>
      rw [decides] at recorded
      rw [if_neg Bool.false_ne_true]
      exact accounts_of_same accounts running (by simpa using recorded)

variable {tracker : StatusTracker} {events : List Event} {life : Life}

theorem accounts_live (lived : live build cli env succeeds tracker events = some life) :
    Accounts cli env succeeds life := by
  apply events_invariant (fun _ => Accounts cli env succeeds) (accounts_begin tracker) _ lived
  intro events event before next accounts stepped
  exact accounts_step accounts stepped

theorem panic_exit_iff (daemon : State) :
    panicExit daemon = some 101 ↔ daemon.monitor = .crashed := by
  unfold panicExit
  cases daemon.monitor with
  | crashed => exact iff_of_true rfl rfl
  | _ => simp

theorem panic_exit_cases (daemon : State) :
    panicExit daemon = none ∨ panicExit daemon = some 101 := by
  unfold panicExit
  split
  · exact Or.inr rfl
  · exact Or.inl rfl

theorem exit_cases (lived : live build cli env succeeds tracker events = some life) :
    (life.exited = some 0 ∧ Exits cli env life ∧ life.daemon.monitor ≠ .crashed) ∨
      (life.exited = some 101 ∧ ¬Exits cli env life ∧ life.daemon.monitor = .crashed) ∨
      (life.exited = none ∧ ¬Exits cli env life ∧ life.daemon.monitor ≠ .crashed) := by
  have accounts := accounts_live lived
  have panics := panic_exit_iff life.daemon
  by_cases ends : Exits cli env life
  · obtain ⟨zero, alive⟩ := accounts.ended ends
    refine Or.inl ⟨zero, ends, fun crashed => ?_⟩
    rw [alive] at panics
    cases panics.mpr crashed
  · have exited := accounts.running ends
    rw [exited]
    cases panic_exit_cases life.daemon with
    | inl alive =>
        rw [alive] at panics ⊢
        exact Or.inr (Or.inr ⟨rfl, ends, fun crashed => by cases panics.mpr crashed⟩)
    | inr panicked => exact Or.inr (Or.inl ⟨panicked, ends, panics.mp panicked⟩)

theorem run_of_live (lived : live build cli env succeeds tracker events = some life) :
    runFrom (settings build cli) tracker events = some life.daemon := by
  apply events_invariant (fun events life =>
    runFrom (settings build cli) tracker events = some life.daemon) rfl _ lived
  intro events event before next ran stepped
  unfold runFrom at ran ⊢
  rw [List.foldlM_append, ran]
  have moved := step_life_daemon stepped
  simpa using moved

end Accounts

section Started

variable {build : Build} {cli : Cli} {env : Environment} {succeeds : ℕ → Bool}
  {tracker : StatusTracker} {events : List Event} {life : Life}

theorem started_issue (started : startUp build cli env = .started tracker) {key : String}
    {issue : StatusLevel × String} (found : tracker.issue key = some issue) :
    issue.1 = .warning ∧ startsWith key "sysrq" = true := by
  have left := validate_sysrq_ok ((start_up_started_iff build).mp started).2.2.2
  have mutates : Mutates SysrqCall StatusTracker.new tracker := by
    rw [left]
    split_ifs
    · exact mutates_refl _
    · exact check_kernel_setting_mutates _ _ _
  cases mutates_recorded mutates found with
  | inl fresh =>
      rw [StatusTracker.issue_new] at fresh
      cases fresh
  | inr made =>
      rcases issue with ⟨level, message⟩
      cases made with
      | warn key message own => exact ⟨rfl, own⟩

theorem started_calm (started : startUp build cli env = .started tracker) (key message : String) :
    tracker.issue key ≠ some (.critical, message) := by
  intro found
  have warning := (started_issue started found).1
  cases warning

theorem started_max_failures (started : startUp build cli env = .started tracker) :
    0 < cli.maxFailures.toNat := by
  have admissible := ((start_up_started_iff build).mp started).2.2.1
  rw [Nat.pos_iff_ne_zero]
  exact fun zero => admissible.failures (UInt64.toNat_inj.mp zero)

section Polls

variable {state : State} {settings : Settings}

theorem calls_of_evaluated {evaluated : List Evaluated} {index : ℕ} {poll : Evaluated}
    (found : evaluated[index]? = some poll) : callsOf evaluated index = poll.call := by
  rw [callsOf, found]
  rfl

theorem failures_of_fence (consistent : Consistent settings events state) {index : ℕ}
    {poll : Evaluated} (found : state.evaluated[index]? = some poll) (fence : poll.fence = true) :
    settings.maxFailures.toNat ≤ index + 1 ∧
      ∀ earlier, earlier ≤ index → index < earlier + settings.maxFailures.toNat →
        FailsAt settings.maxFailures settings.targetWwids (callsOf state.evaluated) earlier := by
  rw [consistent.decisions index poll found, fences_at_iff_fails] at fence
  have long : settings.maxFailures.toNat ≤ streak (FailsAt settings.maxFailures
      settings.targetWwids (callsOf state.evaluated)) (index + 1) := by
    rw [streak, if_pos fence.1]
    exact fence.2
  rw [le_streak_iff] at long
  exact ⟨long.1, fun earlier within recent => long.2 earlier (by omega) (by omega)⟩

theorem monitors_of_fence (consistent : Consistent settings events state) {index : ℕ}
    {poll : Evaluated} (found : state.evaluated[index]? = some poll) (fence : poll.fence = true) :
    monitors settings poll = true := by
  rw [consistent.decisions index poll found, fences_at_iff_fails, fails_at_iff_lun_failed] at fence
  have some := fence.1.1
  rw [monitoredAt, calls_of_evaluated found] at some
  simpa [monitors] using some

end Polls

/-- Whatever the loops do and in whatever order: SysRq is written exactly if a
poll reached a decision outside test mode and dry run, by one sequence that
tries the configured characters in order and a `b`, and that decision had at
least `max_failures` failing polls in a row behind it, at least one. -/
theorem sysrq_writes_justified (started : startUp build cli env = .started tracker)
    (lived : live build cli env succeeds tracker events = some life) :
    (life.attempts ≠ [] ↔ Writes cli env life) ∧
      (life.attempts ≠ [] → ActsOn cli.sysrqChar life.attempts ∧
        ∃ index poll, life.daemon.evaluated[index]? = some poll ∧ poll.fence = true ∧
          0 < cli.maxFailures.toNat ∧ cli.maxFailures.toNat ≤ index + 1 ∧
            ∀ earlier, earlier ≤ index → index < earlier + cli.maxFailures.toNat →
              FailsAt cli.maxFailures cli.targetWwids.toFinset
                (callsOf life.daemon.evaluated) earlier) := by
  have accounts := accounts_live lived
  have consistent := consistent_run_from (run_of_live lived)
  have acts : ActsOn cli.sysrqChar (sequence cli succeeds) :=
    trigger_fencing_acts succeeds cli.sysrqChar Process.start rfl
  have some : sequence cli succeeds ≠ [] := by
    intro none
    obtain ⟨made, member, -⟩ := acts.2
    rw [none] at member
    cases member
  have exact_writes : life.attempts ≠ [] ↔ Writes cli env life := by
    constructor
    · intro made
      by_contra silent
      exact made (accounts.idle silent).2
    · intro writes
      rw [(accounts.written writes).2]
      exact some
  refine ⟨exact_writes, fun made => ?_⟩
  have writes := exact_writes.mp made
  rw [(accounts.written writes).2]
  refine ⟨acts, ?_⟩
  obtain ⟨poll, member, fence⟩ := writes.2.2
  obtain ⟨index, found⟩ := List.mem_iff_getElem?.mp member
  obtain ⟨enough, failing⟩ := failures_of_fence consistent found fence
  exact ⟨index, poll, found, fence, started_max_failures started, enough, failing⟩

theorem dry_run_decides (lived : live build cli env succeeds tracker events = some life)
    (ends : Exits cli env life) : ∃ before event middle, events = before ++ [event] ∧
      live build cli env succeeds tracker before = some middle ∧
      step (settings build cli) middle.daemon event = some life.daemon ∧
      ¬Decided middle.daemon ∧ decision (settings build cli) middle.daemon event = true := by
  rcases List.eq_nil_or_concat events with rfl | ⟨before, event, rfl⟩
  · have exited := ((accounts_live lived).ended ends).1
    cases lived
    cases exited
  · rw [List.concat_eq_append] at lived ⊢
    obtain ⟨middle, earlier, stepped⟩ := run_snoc lived
    have undecided : ¬Decided middle.daemon := by
      intro decided
      obtain ⟨running, -⟩ := step_life_cases stepped
      rw [((accounts_live earlier).ended ⟨ends.1, ends.2.1, decided⟩).1] at running
      cases running
    have moved := step_life_daemon stepped
    have decides := ((decision_recorded moved).mp ends.2.2).resolve_left undecided
    exact ⟨before, event, middle, rfl, earlier, moved, undecided, decides⟩

theorem dry_run_first (lived : live build cli env succeeds tracker events = some life)
    (ends : Exits cli env life) : life.attempts = [] ∧
      ∃ before poll, life.daemon.evaluated = before ++ [poll] ∧ poll.fence = true ∧
        ∀ earlier ∈ before, earlier.fence = false := by
  have silent : ¬Writes cli env life := by simp [Writes, ends.2.1]
  obtain ⟨-, event, middle, -, -, moved, undecided, decides⟩ := dry_run_decides lived ends
  obtain ⟨-, poll, evaluated, fence⟩ := decision_evaluated moved decides
  refine ⟨((accounts_live lived).idle silent).2, middle.daemon.evaluated, poll, evaluated, fence,
    ?_⟩
  intro other member
  rw [Bool.eq_false_iff]
  exact fun fenced => undecided ⟨other, member, fenced⟩

theorem decided_last_of_fence {settings : Settings} {state : State} {before : List Evaluated}
    {poll : Evaluated} (consistent : Consistent settings events state)
    (evaluated : state.evaluated = before ++ [poll]) (fence : poll.fence = true) :
    DecidedLast settings state.evaluated := by
  have found : state.evaluated[before.length]? = some poll := by simp [evaluated]
  rw [evaluated, decided_last_snoc, if_pos (monitors_of_fence consistent found fence)]
  exact fence

/-- Where the kernel would not obey the configured characters at the start,
the status is never fine afterwards. -/
theorem sysrq_warning_stays (started : startUp build cli env = .started tracker)
    (real : env.dryRun = false)
    (refuses : KernelRefuses (sysrqChars cli.sysrqChar) env.kernelSetting)
    (lived : live build cli env succeeds tracker events = some life) (path : String) :
    (readStatus path (.ok (mapContent life.daemon.tracker))).2 ≠ 0 := by
  have left := validate_sysrq_ok ((start_up_started_iff build).mp started).2.2.2
  rw [real, if_neg Bool.false_ne_true] at left
  rcases check_kernel_setting_cases (sysrqChars cli.sysrqChar) StatusTracker.new
    env.kernelSetting with ⟨-, key, own, held⟩ | ⟨obeys, -⟩
  · rw [← left] at held
    obtain ⟨⟨level, message⟩, found⟩ := Option.ne_none_iff_exists'.mp held
    obtain rfl : level = .warning := (started_issue started found).1
    apply exit_code_of_warning path
    rw [issue_kept_run (fun _ _ => sysrq_key_silent own) (run_of_live lived)]
    exact found
  · exact absurd refuses obeys

end Started

section Witness

theorem failures_started (dryRun : Bool) (kernelSetting : String) {maxFailures : UInt64}
    (positive : maxFailures ≠ 0) :
    startUp plain { oneFailure with maxFailures := maxFailures } (host dryRun kernelSetting) =
      .started (if dryRun then StatusTracker.new
        else checkKernelSetting (sysrqChars "s,b") StatusTracker.new (.ok kernelSetting)) := by
  rw [start_up_started_iff]
  have chars : (sysrqChars "s,b").isEmpty = false := by decide +kernel
  have known : ((sysrqChars "s,b").find? fun c => (sysrqCharToBit c).isNone) = none := by
    decide +kernel
  refine ⟨?_, rfl, ?_, ?_⟩
  · exact one_failure_placed dryRun kernelSetting maxFailures false
  · have once : Admissible oneFailure (host dryRun kernelSetting) :=
      ⟨by simp [host], by decide, by decide, by decide, by decide, by decide, by decide, rfl⟩
    exact { once with failures := positive }
  · have configured : oneFailure.sysrqChar = "s,b" := rfl
    simp only [validateSysrq, host, configured, chars, known, Bool.false_eq_true, if_false]
    cases dryRun <;> rfl

theorem one_failure_started (dryRun : Bool) (kernelSetting : String) :
    startUp plain oneFailure (host dryRun kernelSetting) =
      .started (if dryRun then StatusTracker.new
        else checkKernelSetting (sysrqChars "s,b") StatusTracker.new (.ok kernelSetting)) :=
  failures_started dryRun kernelSetting (show oneFailure.maxFailures ≠ 0 by decide)

theorem obedient_started (dryRun : Bool) :
    startUp plain oneFailure (host dryRun "1\n") = .started StatusTracker.new := by
  rw [one_failure_started]
  cases dryRun <;> rfl

theorem outage_lived (dryRun : Bool) : ∃ life,
    live plain oneFailure (host dryRun "1\n") (fun _ => false) StatusTracker.new outage =
        some life ∧ life.exited = (if dryRun then some 0 else none) ∧
      life.attempts.length = if dryRun then 0 else 3 := by
  have seen : (live plain oneFailure (host dryRun "1\n") (fun _ => false) StatusTracker.new
      outage).map (fun life => (life.exited, life.attempts.length)) =
        some (if dryRun then some 0 else none, if dryRun then 0 else 3) := by
    cases dryRun <;> decide +kernel
  obtain ⟨life, lived, both⟩ := Option.map_eq_some_iff.mp seen
  rw [Prod.mk.injEq] at both
  exact ⟨life, lived, both.1, both.2⟩

theorem sysrq_writes_justified_outage : ∃ life,
    live plain oneFailure (host false "1\n") (fun _ => false) StatusTracker.new outage =
        some life ∧ life.attempts ≠ [] ∧ ActsOn "s,b" life.attempts := by
  obtain ⟨life, lived, -, three⟩ := outage_lived false
  have made : life.attempts ≠ [] := by
    intro none
    rw [none] at three
    cases three
  have justified := sysrq_writes_justified (obedient_started false) lived
  exact ⟨life, lived, made, (justified.2 made).1⟩

theorem sysrq_warning_stays_switched_off : ∃ life,
    live plain oneFailure (host false "0\n") (fun _ => false)
        (checkKernelSetting (sysrqChars "s,b") StatusTracker.new (.ok "0\n"))
        [.discovery (.found {"mpatha"}), .readLuns, .checkStale] = some life ∧
      (readStatus "status" (.ok (mapContent life.daemon.tracker))).2 ≠ 0 := by
  have lived : (live plain oneFailure (host false "0\n") (fun _ => false)
      (checkKernelSetting (sysrqChars "s,b") StatusTracker.new (.ok "0\n"))
      [.discovery (.found {"mpatha"}), .readLuns, .checkStale]).isSome = true := by
    decide +kernel
  obtain ⟨life, found⟩ := Option.isSome_iff_exists.mp lived
  have refuses : KernelRefuses (sysrqChars "s,b") (.ok "0\n") := Or.inl rfl
  exact ⟨life, found,
    sysrq_warning_stays (one_failure_started false "0\n") rfl refuses found "status"⟩

end Witness

end PveSanFenced.Lifecycle
