import PveSanFenced.DaemonCalls
import PveSanFenced.StatusProgress

/-!
# The two loops as threads

A run takes an event for one indivisible action. In the process its calls on
the tracker are made one by one, between calls of the other loop, and each call
goes through the locks and a writer thread. No order in which the threads
advance shows in the end: each issue belongs to one of the loops, so the map
and the status file come out as the run of the events has them. Log lines of
the debug mode are left out; they share issues with the fencer.
-/

namespace PveSanFenced.DaemonThreads

open PveSanFenced.Daemon
open PveSanFenced.DaemonCalls
open PveSanFenced.DaemonSafety
open PveSanFenced.DaemonStatus
open PveSanFenced.Library.Settling
open PveSanFenced.Library.Text
open PveSanFenced.Status
open PveSanFenced.StatusCalls
open PveSanFenced.StatusFile
open PveSanFenced.StatusProgress
open PveSanFenced.StatusWriter

set_option autoImplicit false

section Model

inductive Loop where
  | discovery
  | monitoring
  deriving DecidableEq, Repr

instance : Fintype Loop where
  elems := {.discovery, .monitoring}
  complete loop := by cases loop <;> decide

def loopOf : Event → Option Loop
  | .elapse _ => none
  | .discovery _ => some .discovery
  | .readLuns => some .monitoring
  | .checkStale => some .monitoring
  | .queryMaps _ => some .monitoring
  | .queryConfig _ => some .monitoring

/-- The calls that one of the loops makes in a run, in its own order. -/
def program (settings : Settings) (loop : Loop) : Daemon.State → List Event → List Call
  | _, [] => []
  | state, event :: rest =>
      (if loopOf event = some loop then eventCalls settings state event else []) ++
        match step settings state event with
        | some next => program settings loop next rest
        | none => []

/-- The calls each loop has still to make, and the tracker with its threads. -/
structure Threads where
  todo : Loop → List Call
  status : StatusWriter.State Loop

/-- A loop makes its next call once the one before has returned; everything
else is left to the calls under way. Only a host about to be fenced flushes. -/
inductive Advance (path : Option String) : Threads → Threads → Prop
  | call {threads : Threads} {loop : Loop} {call : Call} {rest : List Call}
      (next : threads.todo loop = call :: rest) (idle : threads.status.place loop = .idle)
      (unread : call = .touch ∨ ∀ other, (threads.status.place other).status? = none) :
      Advance path threads
        ⟨Function.update threads.todo loop rest, threads.status.afterCall loop call⟩
  | work {threads : Threads} {status : StatusWriter.State Loop}
      (works : Works path threads.status status) :
      Advance path threads { threads with status := status }

def Finished (threads : Threads) : Prop :=
  (∀ loop, threads.todo loop = []) ∧ Settled threads.status

end Model

section Keys

def owner (key : String) : Loop :=
  if key = "discovery_failure" ∨ key = "discovery_backoff" then .discovery else .monitoring

theorem owner_missing {key : String} (missing : startsWith key "missing_" = true) :
    owner key = .monitoring := by
  apply if_neg
  intro own
  cases own with
  | inl same => rw [same] at missing; exact absurd missing (by decide)
  | inr same => rw [same] at missing; exact absurd missing (by decide)

theorem fencer_call_owner {call : Call} {key : String} (made : FencerCall call)
    (speaks : SpeaksOf call key) : owner key = .monitoring := by
  cases plain : startsWith key "missing_" with
  | true => exact owner_missing plain
  | false =>
      by_cases fencing : key = "fencing"
      · rw [fencing]
        decide
      · exact absurd speaks (fencer_silent plain fencing call made)

theorem daemon_call_owner {event : Event} {call : Call} {key : String}
    (made : DaemonCall event call) (speaks : SpeaksOf call key) :
    loopOf event = some (owner key) := by
  have own {loop : Loop} {other : String} (same : key = other) (owned : owner other = loop)
      (runs : loopOf event = some loop) : loopOf event = some (owner key) := by
    rw [same, owned, runs]
  cases made with
  | fencer response call made => rw [fencer_call_owner made speaks]; rfl
  | config response call made =>
      cases made
      all_goals exact own speaks (by decide) rfl
  | _ => exact own speaks (by decide) rfl

theorem event_calls_owner {settings : Settings} {state : Daemon.State} {event : Event}
    {call : Call} (member : call ∈ eventCalls settings state event) {key : String}
    (speaks : SpeaksOf call key) : loopOf event = some (owner key) := by
  cases (event_calls_kind event call member).1 with
  | inl made => exact daemon_call_owner made speaks
  | inr touch =>
      rw [touch] at speaks
      cases speaks

end Keys

section Programs

variable {settings : Settings}

theorem program_alike {events : List Event} {state other last : Daemon.State}
    (alike : Alike state other)
    (ran : events.foldlM (step settings) state = some last) (loop : Loop) :
    program settings loop state events = program settings loop other events := by
  induction events generalizing state other with
  | nil => rfl
  | cons event rest ih =>
      rw [List.foldlM_cons, Option.bind_eq_bind, Option.bind_eq_some_iff] at ran
      obtain ⟨next, stepped, later⟩ := ran
      obtain ⟨⟨next', stepped', alike'⟩, calls⟩ := step_alike alike stepped
      rw [program, program, stepped, stepped', calls]
      dsimp only
      rw [ih alike' later]

theorem program_owner (loop : Loop) {events : List Event} {state : Daemon.State} {call : Call}
    (member : call ∈ program settings loop state events) {key : String}
    (speaks : SpeaksOf call key) : owner key = loop := by
  induction events generalizing state with
  | nil => cases member
  | cons event rest ih =>
      rw [program, List.mem_append] at member
      cases member with
      | inl here =>
          split_ifs at here with own
          · exact Option.some.inj ((event_calls_owner here speaks).symm.trans own)
          · cases here
      | inr later =>
          cases stepped : step settings state event with
          | none =>
              rw [stepped] at later
              cases later
          | some next =>
              rw [stepped] at later
              exact ih later

theorem program_issue {events : List Event} {state last : Daemon.State}
    (ran : events.foldlM (step settings) state = some last) (key : String)
    {tracker : StatusTracker} (same : tracker.issue key = state.tracker.issue key) :
    ((program settings (owner key) state events).foldl mutate tracker).issue key =
      last.tracker.issue key := by
  induction events generalizing state tracker with
  | nil =>
      obtain rfl : state = last := Option.some.inj ran
      exact same
  | cons event rest ih =>
      rw [List.foldlM_cons, Option.bind_eq_bind, Option.bind_eq_some_iff] at ran
      obtain ⟨next, stepped, later⟩ := ran
      rw [program, stepped, List.foldl_append]
      apply ih later
      rw [← event_calls_tracker stepped]
      by_cases own : loopOf event = some (owner key)
      · rw [if_pos own]
        exact calls_issue_congr same _
      · rw [if_neg own, calls_silent fun call member speaks =>
          own (event_calls_owner member speaks)]
        exact same

end Programs

section Orders

variable {path earlier : Option String} {goal : StatusTracker} {threads threads' : Threads}

/-- In the middle of any order: the calls that are left take every issue to
where the run has it, and they leave the issues of the other loop alone. -/
structure Destined (path earlier : Option String) (goal : StatusTracker) (threads : Threads) :
    Prop where
  reached : Reachable path earlier threads.status
  owned : ∀ loop call key, call ∈ threads.todo loop → SpeaksOf call key → owner key = loop
  issues : ∀ key, ((threads.todo (owner key)).foldl mutate threads.status.tracker).issue key =
    goal.issue key

theorem destined_call (destined : Destined path earlier goal threads) {loop : Loop}
    {call : Call} {rest : List Call} (next : threads.todo loop = call :: rest)
    (idle : threads.status.place loop = .idle)
    (unread : call = .touch ∨ ∀ other, (threads.status.place other).status? = none) :
    Destined path earlier goal
      ⟨Function.update threads.todo loop rest, threads.status.afterCall loop call⟩ := by
  constructor
  · exact destined.reached.tail (Step.call idle unread)
  · intro other later key member speaks
    apply destined.owned other later key _ speaks
    dsimp only at member
    by_cases here : other = loop
    · rw [here] at member ⊢
      rw [Function.update_self] at member
      rw [next]
      exact List.mem_cons_of_mem call member
    · rw [Function.update_of_ne here] at member
      exact member
  · intro key
    have before := destined.issues key
    dsimp only
    by_cases own : owner key = loop
    · rw [own, next] at before
      rw [own, Function.update_self]
      exact before
    · have silent : ¬SpeaksOf call key := by
        intro speaks
        apply own
        apply destined.owned loop call key _ speaks
        rw [next]
        exact List.mem_cons_self
      rw [Function.update_of_ne own, ← before]
      exact calls_issue_congr (mutate_other_issue silent _) _

theorem destined_advance (destined : Destined path earlier goal threads)
    (advance : Advance path threads threads') : Destined path earlier goal threads' := by
  cases advance with
  | call next idle unread => exact destined_call destined next idle unread
  | work works =>
      constructor
      · exact destined.reached.tail (step_of_works works)
      · exact destined.owned
      · rw [tracker_of_works works]
        exact destined.issues

theorem destined_finished (destined : Destined path earlier goal threads)
    (made : ∀ loop, threads.todo loop = []) : threads.status.tracker = goal := by
  apply tracker_ext
  intro key
  have issue := destined.issues key
  rw [made (owner key)] at issue
  exact issue

/-- How many steps of threads are left at most. A call leads to six more. -/
def threadsLeft (threads : Threads) : ℕ :=
  7 * (∑ loop, (threads.todo loop).length) + workLeft threads.status

theorem threads_left_lt (destined : Destined path earlier goal threads)
    (advance : Advance path threads threads') : threadsLeft threads' < threadsLeft threads := by
  cases advance with
  | @call loop call rest next idle unread =>
      have calls := sum_update List.length (Finset.mem_univ loop) threads.todo rest
      have work := work_left_call call idle
      rw [next, List.length_cons] at calls
      rw [threadsLeft, threadsLeft]
      dsimp only
      omega
  | work works =>
      exact Nat.add_lt_add_left (work_left_lt (inv_of_reachable destined.reached).locks works) _

theorem advance_of_unfinished (destined : Destined path earlier goal threads)
    (unfinished : ¬Finished threads) : ∃ next, Advance path threads next := by
  by_cases settled : Settled threads.status
  · have left : ∃ loop, threads.todo loop ≠ [] := by
      by_contra none
      exact unfinished ⟨fun loop => by_contra fun some => none ⟨loop, some⟩, settled⟩
    obtain ⟨loop, some⟩ := left
    obtain ⟨call, rest, next⟩ := List.exists_cons_of_ne_nil some
    have unread (other : Loop) : (threads.status.place other).status? = none := by
      rw [settled.1 other]
      rfl
    exact ⟨_, Advance.call next (settled.1 loop) (Or.inr unread)⟩
  · obtain ⟨status, works⟩ := works_of_unsettled (inv_of_reachable destined.reached).contents
      (handles_of_reachable destined.reached) settled
    exact ⟨_, Advance.work works⟩

end Orders

section Runs

variable {settings : Settings} {events : List Event} {state : Daemon.State}
  {earlier : Option String} {begun : StatusWriter.State Loop}

/-- The loops before their first call. The startup may have writes under way;
what it recorded makes no difference to the calls. -/
def beginThreads (settings : Settings) (begun : StatusWriter.State Loop) (events : List Event) :
    Threads where
  todo := fun loop => program settings loop (initial settings) events
  status := begun

theorem destined_begin {path : Option String} (reached : Reachable path earlier begun)
    (ran : runFrom settings begun.tracker events = some state) :
    Destined path earlier state.tracker (beginThreads settings begun events) := by
  have alike : Alike (startWith settings begun.tracker) (initial settings) :=
    ⟨_, _, rfl, rfl⟩
  have unread := program_alike alike ran
  constructor
  · exact reached
  · intro loop _ _ member speaks
    exact program_owner loop member speaks
  · intro key
    dsimp only [beginThreads]
    rw [← unread]
    exact program_issue ran key rfl

/-- However the loops, their calls and the writer threads interleave, no order
goes on for ever and none blocks; at its end the map is the one of the run of
whole events, and the file shows that map. -/
theorem threads_agree_with_run (path : String) (reached : Reachable (some path) earlier begun)
    (ran : runFrom settings begun.tracker events = some state) (count : ℕ) (last : Threads)
    (steps : Steps (Advance (some path)) count (beginThreads settings begun events) last) :
    count ≤ threadsLeft (beginThreads settings begun events) ∧
      ((∃ next, Advance (some path) last next) ∨
        (Finished last ∧ last.status.tracker = state.tracker ∧
          (last.status.statusFile = some (mapContent state.tracker) ∨
            (last.status.spawned = 0 ∧ state.tracker = StatusTracker.new)))) := by
  have preserved : ∀ before after : Threads, Destined (some path) earlier state.tracker before →
      Advance (some path) before after → Destined (some path) earlier state.tracker after :=
    fun _ _ => destined_advance
  have initially := destined_begin reached ran
  have bound := steps_bounded preserved (fun _ _ => threads_left_lt) initially steps
  have destined := steps_invariant preserved initially steps
  refine ⟨by omega, ?_⟩
  by_cases finished : Finished last
  · have final := destined_finished destined finished.1
    refine Or.inr ⟨finished, final, ?_⟩
    rw [← final]
    exact underway_settled finished.2 ((inv_of_reachable destined.reached).underway rfl)
  · exact Or.inl (advance_of_unfinished destined finished)

theorem threads_agree_with_run_failed : ∃ state, runFrom oneShot StatusTracker.new
      [.discovery (.failed "timeout"), .readLuns] = some state ∧
    state.tracker.issue "discovery_failure" ≠ none ∧
    ∀ count last, Steps (Advance (some "status")) count (beginThreads oneShot
        (StatusWriter.State.start none) [.discovery (.failed "timeout"), .readLuns]) last →
      count ≤ 14 ∧ ((∃ next, Advance (some "status") last next) ∨
        (Finished last ∧ last.status.tracker = state.tracker ∧
          (last.status.statusFile = some (mapContent state.tracker) ∨
            (last.status.spawned = 0 ∧ state.tracker = StatusTracker.new)))) := by
  refine ⟨_, rfl, by decide, fun count last steps => ?_⟩
  have agree := threads_agree_with_run "status" Relation.ReflTransGen.refl rfl count last steps
  have left : threadsLeft (beginThreads oneShot (StatusWriter.State.start none)
      [.discovery (.failed "timeout"), .readLuns]) = 14 := by decide +kernel
  rw [left] at agree
  exact agree

end Runs

end PveSanFenced.DaemonThreads
