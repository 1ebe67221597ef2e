import PveSanFenced.Daemon

/-!
# Safety of the daemon under any interleaving

The invariant ties a state to the events that led to it: the shared set is the
one of the most recent successful discovery, a poll in progress holds a set
that was the most recent one when it was read, and the fencer is the one that
the evaluated polls alone would have produced.
-/

namespace PveSanFenced.DaemonSafety

open PveSanFenced.Daemon
open PveSanFenced.FencerHistory
open PveSanFenced.FencerModel
open PveSanFenced.Library.Fixed
open PveSanFenced.Library.Runs
open PveSanFenced.Multipath
open PveSanFenced.Status

set_option autoImplicit false

section Trace

def clock : List Event → ℕ
  | [] => 0
  | .elapse nanos :: rest => nanos + clock rest
  | .discovery _ :: rest => clock rest
  | .readLuns :: rest => clock rest
  | .checkStale :: rest => clock rest
  | .queryMaps _ :: rest => clock rest
  | .queryConfig _ :: rest => clock rest

def IsFound (event : Event) : Prop := ∃ mpaths, event = .discovery (.found mpaths)

/-- The data of the most recent successful discovery, or the initial empty set
if there was none. -/
def MostRecent (events : List Event) (data : ActiveLunsWithTimestamp) : Prop :=
  (∃ before mpaths after, events = before ++ .discovery (.found mpaths) :: after ∧
      (∀ event ∈ after, ¬IsFound event) ∧
      data = { luns := mpaths, discoveredAt := clock before }) ∨
    ((∀ event ∈ events, ¬IsFound event) ∧ data = { luns := ∅, discoveredAt := 0 })

def ReadIn (events : List Event) (data : ActiveLunsWithTimestamp) : Prop :=
  ∃ before after, events = before ++ .readLuns :: after ∧ Event.readLuns ∉ after ∧
    MostRecent before data

/-- The poll in progress read this data and found it to be at most twice the
discovery interval old. -/
def CheckedIn (settings : Settings) (events : List Event) (data : ActiveLunsWithTimestamp) :
    Prop :=
  ∃ before between after,
    events = before ++ .readLuns :: (between ++ .checkStale :: after) ∧
      Event.readLuns ∉ between ∧ Event.readLuns ∉ after ∧ MostRecent before data ∧
      clock (before ++ .readLuns :: between) ≤
        data.discoveredAt + 2 * settings.discoveryInterval.toNat * secondNanos

@[simp] theorem clock_append (before after : List Event) :
    clock (before ++ after) = clock before + clock after := by
  induction before with
  | nil => simp [clock]
  | cons event before ih => cases event <;> simp [clock, ih, Nat.add_assoc]

theorem most_recent_snoc {events : List Event} {data : ActiveLunsWithTimestamp} {event : Event}
    (recent : MostRecent events data) (other : ¬IsFound event) :
    MostRecent (events ++ [event]) data := by
  cases recent with
  | inl found =>
      obtain ⟨before, mpaths, after, rfl, later, same⟩ := found
      refine Or.inl ⟨before, mpaths, after ++ [event], by simp, ?_, same⟩
      intro entry member
      cases List.mem_append.mp member with
      | inl earlier => exact later entry earlier
      | inr last => exact List.mem_singleton.mp last ▸ other
  | inr none =>
      refine Or.inr ⟨?_, none.2⟩
      intro entry member
      cases List.mem_append.mp member with
      | inl earlier => exact none.1 entry earlier
      | inr last => exact List.mem_singleton.mp last ▸ other

theorem most_recent_found (events : List Event) (mpaths : Finset String) :
    MostRecent (events ++ [.discovery (.found mpaths)])
      { luns := mpaths, discoveredAt := clock events } :=
  Or.inl ⟨events, mpaths, [], rfl, by simp, rfl⟩

theorem read_in_snoc {events : List Event} {data : ActiveLunsWithTimestamp} {event : Event}
    (reading : ReadIn events data) (other : event ≠ .readLuns) :
    ReadIn (events ++ [event]) data := by
  obtain ⟨before, after, rfl, none, recent⟩ := reading
  refine ⟨before, after ++ [event], by simp, ?_, recent⟩
  simp [none, Ne.symm other]

theorem checked_in_snoc {settings : Settings} {events : List Event}
    {data : ActiveLunsWithTimestamp} {event : Event} (checked : CheckedIn settings events data)
    (other : event ≠ .readLuns) : CheckedIn settings (events ++ [event]) data := by
  obtain ⟨before, between, after, rfl, first, second, recent, young⟩ := checked
  refine ⟨before, between, after ++ [event], by simp, first, ?_, recent, young⟩
  simp [second, Ne.symm other]

theorem checked_in_of_read {settings : Settings} {events : List Event}
    {data : ActiveLunsWithTimestamp} (reading : ReadIn events data)
    (young : clock events ≤
      data.discoveredAt + 2 * settings.discoveryInterval.toNat * secondNanos) :
    CheckedIn settings (events ++ [.checkStale]) data := by
  obtain ⟨before, after, rfl, none, recent⟩ := reading
  exact ⟨before, after, [], by simp, none, by simp, recent, young⟩

end Trace

section Polls

def callsOf (evaluated : List Evaluated) (index : ℕ) : Call :=
  ((evaluated[index]?).map Evaluated.call).getD
    { tracker := StatusTracker.new, maps := [], activeLuns := ∅ }

theorem calls_of_append {evaluated : List Evaluated} (poll : Evaluated) {index : ℕ}
    (before : index < evaluated.length) :
    callsOf (evaluated ++ [poll]) index = callsOf evaluated index := by
  rw [callsOf, callsOf, List.getElem?_append_left before]

@[simp] theorem calls_of_last (evaluated : List Evaluated) (poll : Evaluated) :
    callsOf (evaluated ++ [poll]) evaluated.length = poll.call := by
  simp [callsOf]

variable (maxFailures : UInt64) (targetWwids : Finset String)

theorem fencer_at_append (evaluated : List Evaluated) (poll : Evaluated) {count : ℕ}
    (within : count ≤ evaluated.length) :
    fencerAt maxFailures targetWwids (callsOf (evaluated ++ [poll])) count =
      fencerAt maxFailures targetWwids (callsOf evaluated) count :=
  Machine.state_at_congr _ fun index before => calls_of_append poll (by omega)

theorem fences_at_append (evaluated : List Evaluated) (poll : Evaluated) {index : ℕ}
    (before : index < evaluated.length) :
    fencesAt maxFailures targetWwids (callsOf (evaluated ++ [poll])) index =
      fencesAt maxFailures targetWwids (callsOf evaluated) index := by
  have state := fencer_at_append maxFailures targetWwids evaluated poll before.le
  unfold fencerAt at state
  rw [fencesAt, fencesAt, Machine.outputAt, Machine.outputAt, state,
    calls_of_append poll before]

end Polls

section Frames

variable (settings : Settings) (state : State)

theorem after_failure_frame (message : String) :
    (afterFailure settings state message).now = state.now ∧
      (afterFailure settings state message).shared = state.shared ∧
      (afterFailure settings state message).monitor = state.monitor ∧
      (afterFailure settings state message).fencer = state.fencer ∧
      (afterFailure settings state message).evaluated = state.evaluated := by
  unfold afterFailure
  dsimp only
  cases addWord settings.overflow state.discoveryFailures 1 with
  | none => exact ⟨rfl, rfl, rfl, rfl, rfl⟩
  | some consecutiveFailures =>
      dsimp only
      split_ifs with retry
      · cases backoffSeconds settings consecutiveFailures with
        | none => exact ⟨rfl, rfl, rfl, rfl, rfl⟩
        | some seconds => exact ⟨rfl, rfl, rfl, rfl, rfl⟩
      · exact ⟨rfl, rfl, rfl, rfl, rfl⟩

theorem finish_discovery_frame (outcome : Discovery) :
    (finishDiscovery settings state outcome).now = state.now ∧
      (finishDiscovery settings state outcome).monitor = state.monitor ∧
      (finishDiscovery settings state outcome).fencer = state.fencer ∧
      (finishDiscovery settings state outcome).evaluated = state.evaluated := by
  cases outcome with
  | found mpaths => exact ⟨rfl, rfl, rfl, rfl⟩
  | failed error =>
      obtain ⟨now, -, rest⟩ := after_failure_frame settings state
        ("Error discovering active multipath devices: " ++ error)
      exact ⟨now, rest⟩
  | panicked message =>
      obtain ⟨now, -, rest⟩ := after_failure_frame settings state
        ("Panic in discovery thread: " ++ message.getD "Unknown panic error")
      exact ⟨now, rest⟩
  | cancelled =>
      obtain ⟨now, -, rest⟩ := after_failure_frame settings state
        "Panic in discovery thread: Discovery task was cancelled"
      exact ⟨now, rest⟩

theorem finish_discovery_shared {outcome : Discovery}
    (unsuccessful : ∀ mpaths, outcome ≠ .found mpaths) :
    (finishDiscovery settings state outcome).shared = state.shared := by
  cases outcome with
  | found mpaths => exact absurd rfl (unsuccessful mpaths)
  | failed error => exact (after_failure_frame settings state _).2.1
  | panicked message => exact (after_failure_frame settings state _).2.1
  | cancelled => exact (after_failure_frame settings state _).2.1

theorem check_stale_frame (activeData : ActiveLunsWithTimestamp) :
    (checkStale settings state activeData).now = state.now ∧
      (checkStale settings state activeData).shared = state.shared ∧
      (checkStale settings state activeData).fencer = state.fencer ∧
      (checkStale settings state activeData).evaluated = state.evaluated := by
  unfold checkStale
  split <;> exact ⟨rfl, rfl, rfl, rfl⟩

theorem check_stale_monitor (activeData : ActiveLunsWithTimestamp) :
    (checkStale settings state activeData).monitor = .crashed ∨
      (checkStale settings state activeData).monitor = .waiting ∨
      ((checkStale settings state activeData).monitor = .fresh activeData ∧
        state.now ≤ activeData.discoveredAt +
          2 * settings.discoveryInterval.toNat * secondNanos) := by
  unfold checkStale
  cases stale : activeData.isStale settings.discoveryInterval state.now with
  | none => exact Or.inl rfl
  | some old =>
      cases old with
      | true => exact Or.inr (Or.inl rfl)
      | false =>
          refine Or.inr (Or.inr ⟨rfl, ?_⟩)
          simp only [ActiveLunsWithTimestamp.isStale, Option.ite_none_right_eq_some,
            Option.some.injEq, decide_eq_false_iff_not] at stale
          rw [Nat.mul_comm 2]
          omega

theorem query_maps_frame (activeData : ActiveLunsWithTimestamp)
    (response : Except String String) :
    (queryMaps settings state activeData response).now = state.now ∧
      (queryMaps settings state activeData response).shared = state.shared ∧
      (queryMaps settings state activeData response).fencer = state.fencer ∧
      (queryMaps settings state activeData response).evaluated = state.evaluated := by
  cases response with
  | error e => exact ⟨rfl, rfl, rfl, rfl⟩
  | ok reply =>
      unfold queryMaps
      dsimp only
      split <;> exact ⟨rfl, rfl, rfl, rfl⟩

theorem query_maps_monitor (activeData : ActiveLunsWithTimestamp)
    (response : Except String String) :
    (queryMaps settings state activeData response).monitor = .waiting ∨
      ∃ maps, (queryMaps settings state activeData response).monitor = .parsed activeData maps := by
  cases response with
  | error e => exact Or.inl rfl
  | ok reply =>
      unfold queryMaps
      dsimp only
      split
      · exact Or.inl rfl
      · exact Or.inr ⟨_, rfl⟩

/-- A poll that reaches its last part is evaluated, or the loop crashes in the
configuration check. -/
theorem evaluate_cases (activeData : ActiveLunsWithTimestamp) (maps : List MultipathMap)
    (config : Except String String) :
    evaluate settings state activeData maps config = { state with
        tracker := state.tracker.clearIssue "config_query_error"
        monitor := .crashed } ∨
      ∃ tracker, evaluate settings state activeData maps config =
        { state with
          tracker := (updateWithMaps state.fencer tracker maps activeData.luns).tracker
          monitor := .waiting
          fencer := (updateWithMaps state.fencer tracker maps activeData.luns).fencer
          evaluated := state.evaluated ++ [{
            call := { tracker := tracker, maps := maps, activeLuns := activeData.luns }
            fence := (updateWithMaps state.fencer tracker maps activeData.luns).fence }] } := by
  unfold evaluate
  cases checkConfig settings state activeData maps config with
  | none => exact Or.inl rfl
  | some tracker => exact Or.inr ⟨tracker, rfl⟩

variable {settings state}

theorem step_cases {event : Event} {next : State}
    (stepped : step settings state event = some next) :
    (∃ nanos, event = .elapse nanos ∧ next = { state with now := state.now + nanos }) ∨
    (∃ outcome, event = .discovery outcome ∧ next = finishDiscovery settings state outcome) ∨
    (event = .readLuns ∧ next = { state with monitor := .read state.shared }) ∨
    (∃ activeData, event = .checkStale ∧ state.monitor = .read activeData ∧
      next = checkStale settings state activeData) ∨
    (∃ activeData response, event = .queryMaps response ∧ state.monitor = .fresh activeData ∧
      next = queryMaps settings state activeData response) ∨
    ∃ activeData maps response, event = .queryConfig response ∧
      state.monitor = .parsed activeData maps ∧
      next = evaluate settings state activeData maps response := by
  cases event with
  | elapse nanos =>
      cases stepped
      exact Or.inl ⟨nanos, rfl, rfl⟩
  | discovery outcome =>
      simp only [step, Option.ite_none_right_eq_some, Option.some.injEq] at stepped
      exact Or.inr (Or.inl ⟨outcome, rfl, stepped.2.symm⟩)
  | readLuns =>
      cases place : state.monitor <;> simp only [step, place] at stepped <;> cases stepped
      exact Or.inr (Or.inr (Or.inl ⟨rfl, rfl⟩))
  | checkStale =>
      cases place : state.monitor <;> simp only [step, place] at stepped <;> cases stepped
      exact Or.inr (Or.inr (Or.inr (Or.inl ⟨_, rfl, rfl, rfl⟩)))
  | queryMaps response =>
      cases place : state.monitor <;> simp only [step, place] at stepped <;> cases stepped
      exact Or.inr (Or.inr (Or.inr (Or.inr (Or.inl ⟨_, response, rfl, rfl, rfl⟩))))
  | queryConfig response =>
      cases place : state.monitor <;> simp only [step, place] at stepped <;> cases stepped
      exact Or.inr (Or.inr (Or.inr (Or.inr (Or.inr ⟨_, _, response, rfl, rfl, rfl⟩))))

end Frames

section Invariant

variable (settings : Settings)

def Holds (events : List Event) : Monitor → Prop
  | .waiting => True
  | .read activeData => ReadIn events activeData
  | .fresh activeData => CheckedIn settings events activeData
  | .parsed activeData _ => CheckedIn settings events activeData
  | .crashed => True

structure Consistent (events : List Event) (state : State) : Prop where
  now : state.now = clock events
  shared : MostRecent events state.shared
  monitor : Holds settings events state.monitor
  fencer : state.fencer = fencerAt settings.maxFailures settings.targetWwids
    (callsOf state.evaluated) state.evaluated.length
  decisions : ∀ index poll, state.evaluated[index]? = some poll →
    poll.fence = fencesAt settings.maxFailures settings.targetWwids
      (callsOf state.evaluated) index

theorem consistent_initial : Consistent settings [] (initial settings) where
  now := rfl
  shared := Or.inr ⟨by simp, rfl⟩
  monitor := trivial
  fencer := rfl
  decisions index poll found := by simp [initial] at found

theorem holds_snoc {events : List Event} {event : Event} {monitor : Monitor}
    (holds : Holds settings events monitor) (other : event ≠ .readLuns) :
    Holds settings (events ++ [event]) monitor := by
  cases monitor with
  | waiting => trivial
  | read activeData => exact read_in_snoc holds other
  | fresh activeData => exact checked_in_snoc holds other
  | parsed activeData maps => exact checked_in_snoc holds other
  | crashed => trivial

theorem consistent_of_frame {events : List Event} {event : Event} {state next : State}
    (consistent : Consistent settings events state)
    (now : next.now = clock (events ++ [event]))
    (shared : MostRecent (events ++ [event]) next.shared)
    (monitor : Holds settings (events ++ [event]) next.monitor)
    (fencer : next.fencer = state.fencer) (evaluated : next.evaluated = state.evaluated) :
    Consistent settings (events ++ [event]) next where
  now := now
  shared := shared
  monitor := monitor
  fencer := by rw [fencer, evaluated, consistent.fencer]
  decisions := by
    rw [evaluated]
    exact consistent.decisions

/-- The invariant survives an evaluated poll: the fencer has seen one more
call, and what it did on the earlier ones is as before. -/
theorem consistent_evaluated {events : List Event} {event : Event} {state : State}
    (consistent : Consistent settings events state) (tracker : StatusTracker)
    (maps : List MultipathMap) (luns : Finset String)
    (now : state.now = clock (events ++ [event]))
    (shared : MostRecent (events ++ [event]) state.shared) :
    Consistent settings (events ++ [event])
      { state with
        tracker := (updateWithMaps state.fencer tracker maps luns).tracker
        monitor := .waiting
        fencer := (updateWithMaps state.fencer tracker maps luns).fencer
        evaluated := state.evaluated ++ [{
          call := { tracker := tracker, maps := maps, activeLuns := luns }
          fence := (updateWithMaps state.fencer tracker maps luns).fence }] } where
  now := now
  shared := shared
  monitor := trivial
  fencer := by
    dsimp only
    rw [List.length_append, List.length_singleton, fencer_at_succ, calls_of_last,
      fencer_at_append _ _ _ _ (Nat.le_refl _), ← consistent.fencer]
  decisions := by
    intro index poll found
    dsimp only at found ⊢
    rcases Nat.lt_or_ge index state.evaluated.length with before | after
    · rw [List.getElem?_append_left before] at found
      rw [fences_at_append _ _ _ _ before]
      exact consistent.decisions index poll found
    · have last : index = state.evaluated.length := by
        have bound := (List.getElem?_eq_some_iff.mp found).1
        rw [List.length_append, List.length_singleton] at bound
        omega
      subst last
      rw [List.getElem?_append_right (Nat.le_refl _), Nat.sub_self,
        List.getElem?_cons_zero, Option.some.injEq] at found
      subst found
      have before := fencer_at_append settings.maxFailures settings.targetWwids state.evaluated
        { call := { tracker := tracker, maps := maps, activeLuns := luns }
          fence := (updateWithMaps state.fencer tracker maps luns).fence } (Nat.le_refl _)
      rw [← consistent.fencer, fencerAt] at before
      rw [fencesAt, Machine.outputAt, before, calls_of_last]
      rfl

section Events

variable {settings} {events : List Event} {state : State}
  (consistent : Consistent settings events state)
include consistent

theorem consistent_now {event : Event} (notTime : ∀ nanos, event ≠ .elapse nanos) :
    state.now = clock (events ++ [event]) := by
  rw [clock_append, consistent.now]
  cases event with
  | elapse nanos => exact absurd rfl (notTime nanos)
  | _ => simp [clock]

theorem consistent_elapse (nanos : ℕ) :
    Consistent settings (events ++ [.elapse nanos])
      { state with now := state.now + nanos } := by
  apply consistent_of_frame settings consistent
  · simp [consistent.now, clock]
  · exact most_recent_snoc consistent.shared (by simp [IsFound])
  · exact holds_snoc settings consistent.monitor (by simp)
  · rfl
  · rfl

theorem consistent_discovery (outcome : Discovery) :
    Consistent settings (events ++ [.discovery outcome])
      (finishDiscovery settings state outcome) := by
  obtain ⟨now, monitor, fencer, evaluated⟩ := finish_discovery_frame settings state outcome
  apply consistent_of_frame settings consistent
  · rw [now]
    exact consistent_now consistent (by simp)
  · cases outcome with
    | found mpaths =>
        have recent := most_recent_found events mpaths
        rw [← consistent.now] at recent
        exact recent
    | _ =>
        rw [finish_discovery_shared settings state (by simp)]
        exact most_recent_snoc consistent.shared (by simp [IsFound])
  · rw [monitor]
    exact holds_snoc settings consistent.monitor (by simp)
  · exact fencer
  · exact evaluated

theorem consistent_read_luns :
    Consistent settings (events ++ [.readLuns])
      { state with monitor := .read state.shared } := by
  apply consistent_of_frame settings consistent
  · exact consistent_now consistent (by simp)
  · exact most_recent_snoc consistent.shared (by simp [IsFound])
  · exact ⟨events, [], rfl, by simp, consistent.shared⟩
  · rfl
  · rfl

theorem consistent_check_stale {activeData : ActiveLunsWithTimestamp}
    (place : state.monitor = .read activeData) :
    Consistent settings (events ++ [.checkStale]) (checkStale settings state activeData) := by
  obtain ⟨now, shared, fencer, evaluated⟩ := check_stale_frame settings state activeData
  have holding := consistent.monitor
  rw [place] at holding
  apply consistent_of_frame settings consistent
  · rw [now]
    exact consistent_now consistent (by simp)
  · rw [shared]
    exact most_recent_snoc consistent.shared (by simp [IsFound])
  · cases check_stale_monitor settings state activeData with
    | inl crashed =>
        rw [crashed]
        trivial
    | inr goesOn =>
        cases goesOn with
        | inl waiting =>
            rw [waiting]
            trivial
        | inr fresh =>
            rw [fresh.1]
            apply checked_in_of_read holding
            rw [← consistent.now]
            exact fresh.2
  · exact fencer
  · exact evaluated

theorem consistent_query_maps {activeData : ActiveLunsWithTimestamp}
    (place : state.monitor = .fresh activeData) (response : Except String String) :
    Consistent settings (events ++ [.queryMaps response])
      (queryMaps settings state activeData response) := by
  obtain ⟨now, shared, fencer, evaluated⟩ :=
    query_maps_frame settings state activeData response
  have holding := consistent.monitor
  rw [place] at holding
  apply consistent_of_frame settings consistent
  · rw [now]
    exact consistent_now consistent (by simp)
  · rw [shared]
    exact most_recent_snoc consistent.shared (by simp [IsFound])
  · cases query_maps_monitor settings state activeData response with
    | inl waiting =>
        rw [waiting]
        trivial
    | inr goesOn =>
        obtain ⟨maps, parsed⟩ := goesOn
        rw [parsed]
        exact checked_in_snoc holding (by simp)
  · exact fencer
  · exact evaluated

theorem consistent_evaluate (activeData : ActiveLunsWithTimestamp) (maps : List MultipathMap)
    (response : Except String String) :
    Consistent settings (events ++ [.queryConfig response])
      (evaluate settings state activeData maps response) := by
  have now : state.now = clock (events ++ [.queryConfig response]) :=
    consistent_now consistent (by simp)
  have shared : MostRecent (events ++ [.queryConfig response]) state.shared :=
    most_recent_snoc consistent.shared (by simp [IsFound])
  cases evaluate_cases settings state activeData maps response with
  | inl crashed =>
      rw [crashed]
      exact consistent_of_frame settings consistent now shared trivial rfl rfl
  | inr done =>
      obtain ⟨tracker, evaluated⟩ := done
      rw [evaluated]
      exact consistent_evaluated settings consistent tracker maps activeData.luns now shared

theorem consistent_step {event : Event} {next : State}
    (stepped : step settings state event = some next) :
    Consistent settings (events ++ [event]) next := by
  rcases step_cases stepped with ⟨nanos, rfl, rfl⟩ | ⟨outcome, rfl, rfl⟩ | ⟨rfl, rfl⟩ |
    ⟨activeData, rfl, place, rfl⟩ | ⟨activeData, response, rfl, place, rfl⟩ |
    ⟨activeData, maps, response, rfl, place, rfl⟩
  · exact consistent_elapse consistent nanos
  · exact consistent_discovery consistent outcome
  · exact consistent_read_luns consistent
  · exact consistent_check_stale consistent place
  · exact consistent_query_maps consistent place response
  · exact consistent_evaluate consistent activeData maps response

end Events

theorem consistent_run {events : List Event} {state : State}
    (ran : run settings events = some state) : Consistent settings events state := by
  apply events_invariant (Consistent settings) (consistent_initial settings) _ ran
  intro events event before next consistent stepped
  exact consistent_step consistent stepped

theorem step_evaluates {events : List Event} {state next : State} {event : Event}
    (consistent : Consistent settings events state)
    (stepped : step settings state event = some next) :
    (next.evaluated = state.evaluated ∧ next.fencer = state.fencer) ∨
      ∃ response activeData maps poll, event = .queryConfig response ∧
        state.monitor = .parsed activeData maps ∧ CheckedIn settings events activeData ∧
        next.evaluated = state.evaluated ++ [poll] ∧ poll.call.maps = maps ∧
        poll.call.activeLuns = activeData.luns := by
  have holding := consistent.monitor
  rcases step_cases stepped with ⟨nanos, rfl, rfl⟩ | ⟨outcome, rfl, rfl⟩ | ⟨rfl, rfl⟩ |
    ⟨activeData, rfl, place, rfl⟩ | ⟨activeData, response, rfl, place, rfl⟩ |
    ⟨activeData, maps, response, rfl, place, rfl⟩
  · exact Or.inl ⟨rfl, rfl⟩
  · exact Or.inl (finish_discovery_frame settings state outcome).2.2.symm
  · exact Or.inl ⟨rfl, rfl⟩
  · exact Or.inl (check_stale_frame settings state activeData).2.2.symm
  · exact Or.inl (query_maps_frame settings state activeData response).2.2.symm
  · rw [place] at holding
    cases evaluate_cases settings state activeData maps response with
    | inl crashed =>
        rw [crashed]
        exact Or.inl ⟨rfl, rfl⟩
    | inr done =>
        obtain ⟨tracker, evaluated⟩ := done
        rw [evaluated]
        exact Or.inr ⟨response, activeData, maps, _, rfl, place, holding, rfl, rfl, rfl⟩

end Invariant

section Outage

/-- One poll is enough to decide; multipathd reports one dead map. -/
def oneShot : Settings where
  pollInterval := 5
  discoveryInterval := 60
  maxFailures := 1
  targetWwids := ∅
  discoveryMaxRetries := 5
  discoveryBackoffBase := 1
  discoveryBackoffMax := 30
  overflow := .wraps
  fromStr := fun _ => some {
    majorVersion := none
    minorVersion := none
    maps := some [⟨"mpatha", "36001", some [⟨some "active", some [⟨some "failed"⟩]⟩], none,
      none⟩] }
  maxResponseSize := none
  regexNew := fun _ => none

/-- A successful discovery, a failed one between two parts of a poll, and the
decision at the end of the poll. -/
def outage : List Event :=
  [.discovery (.found {"mpatha"}), .elapse 1000, .readLuns, .checkStale,
    .discovery (.failed "timeout"), .queryMaps (.ok "maps"), .queryConfig (.error "no reply")]

end Outage

end PveSanFenced.DaemonSafety
