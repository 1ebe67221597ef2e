import PveSanFenced.DaemonSafety

/-!
# An outage while discovery fails

When storage is gone, discovery may fail or hang along with it. The polls then
go on with the set that was discovered last, but only while it is at most
twice the discovery interval old: the guard against stale data skips every
later poll. Whether the decision is still reached is a race between two
settings that do not know of each other.
-/

namespace PveSanFenced.Outage

open PveSanFenced.Daemon
open PveSanFenced.DaemonSafety
open PveSanFenced.FencerCycle
open PveSanFenced.FencerHistory
open PveSanFenced.FencerModel
open PveSanFenced.Library.Fixed
open PveSanFenced.Library.Runs
open PveSanFenced.Multipath
open PveSanFenced.Status

set_option autoImplicit false

section Model

/-- The answer reports every LUN in use, under a map the daemon watches, and
every map in use as dead. -/
structure ReportsDead (targetWwids luns : Finset String) (maps : List MultipathMap) : Prop where
  inUse : luns.Nonempty
  reported : ∀ lun ∈ luns, ∃ map ∈ monitoredMaps targetWwids maps luns, lunNames lun map = true
  dead : ∀ map ∈ maps, isActive luns map = true → mapDead map

/-- While these events happen no discovery succeeds, and multipathd answers
each query with the dead maps. -/
structure StaysDead (settings : Settings) (luns : Finset String) (events : List Event) : Prop where
  discovery : ∀ mpaths, Event.discovery (.found mpaths) ∉ events
  answers : ∀ response, Event.queryMaps response ∈ events → ∃ text maps, response = .ok text ∧
    parseMultipathdResponse settings.fromStr settings.maxResponseSize text = some maps ∧
      ReportsDead settings.targetWwids luns maps

def checkInstants (now : ℕ) : List Event → List ℕ
  | [] => []
  | .elapse nanos :: rest => checkInstants (now + nanos) rest
  | .checkStale :: rest => now :: checkInstants now rest
  | .discovery _ :: rest => checkInstants now rest
  | .readLuns :: rest => checkInstants now rest
  | .queryMaps _ :: rest => checkInstants now rest
  | .queryConfig _ :: rest => checkInstants now rest

/-- The last instant at which data of this age passes the check. -/
def freshUntil (settings : Settings) (discoveredAt : ℕ) : ℕ :=
  discoveredAt + settings.discoveryInterval.toNat * 2 * secondNanos

/-- As many polls as the threshold asks for were evaluated, none skipped, and
the last of them decided to fence. -/
structure Decided (settings : Settings) (start state : State) : Prop where
  evaluated : state.evaluated.length = start.evaluated.length + settings.maxFailures.toNat
  fence : ∃ poll, state.evaluated.getLast? = some poll ∧ poll.fence = true

/-- The first check comes at most one poll interval after the outage, and each
further one a poll interval later. -/
def OnSchedule (settings : Settings) (outageAt : ℕ) (instants : List ℕ) : Prop :=
  ∀ index instant, instants[index]? = some instant →
    instant ≤ outageAt + (index + 1) * (settings.pollInterval.toNat * secondNanos)

end Model

section Instants

theorem check_instants_snoc (now : ℕ) (events : List Event) (event : Event) :
    checkInstants now (events ++ [event]) = checkInstants now events ++
      match event with
      | .checkStale => [now + clock events]
      | _ => [] := by
  induction events generalizing now with
  | nil => cases event <;> rfl
  | cons first events ih =>
      cases first <;>
        simp only [List.cons_append, checkInstants, ih, clock, Nat.add_assoc]

theorem check_instants_after (now : ℕ) (events : List Event) :
    ∀ instant ∈ checkInstants now events, instant ≤ now + clock events := by
  induction events using List.reverseRecOn with
  | nil => simp [checkInstants]
  | append_singleton events event ih =>
      intro instant member
      rw [check_instants_snoc, List.mem_append] at member
      rw [clock_append]
      cases member with
      | inl earlier =>
          have bound := ih instant earlier
          omega
      | inr last =>
          cases event with
          | checkStale =>
              rw [List.mem_singleton.mp last]
              omega
          | _ => cases last

theorem check_instants_sorted (now : ℕ) (events : List Event) :
    (checkInstants now events).Pairwise (· ≤ ·) := by
  induction events using List.reverseRecOn with
  | nil => exact List.Pairwise.nil
  | append_singleton events event ih =>
      rw [check_instants_snoc, List.pairwise_append]
      refine ⟨ih, ?_, ?_⟩
      · cases event <;> simp
      · intro earlier member last inLast
        have bound := check_instants_after now events earlier member
        cases event with
        | checkStale =>
            rw [List.mem_singleton.mp inLast]
            exact bound
        | _ => cases inLast

end Instants

section Cycle

theorem cycle_fails_of_reports {fencer : Fencer} {luns : Finset String}
    {maps : List MultipathMap} (reports : ReportsDead fencer.targetWwids luns maps) :
    CycleFails fencer maps luns := by
  have monitoredDead : ∀ map ∈ monitoredMaps fencer.targetWwids maps luns, mapDead map := by
    intro map member
    obtain ⟨listed, active, -⟩ := (mem_monitored_maps _ _ _ _).mp member
    exact reports.dead map listed (decide_eq_true active)
  constructor
  · intro none
    obtain ⟨lun, member⟩ := reports.inUse
    obtain ⟨map, monitored, -⟩ := reports.reported lun member
    rw [none] at monitored
    cases monitored
  · apply Or.inr
    intro lun member
    obtain ⟨map, monitored, names⟩ := reports.reported lun member
    obtain ⟨part, partMember, answers⟩ := (lun_names_iff lun map).mp names
    have some : ((monitoredMaps fencer.targetWwids maps luns).find? (answersTo part)).isSome := by
      rw [List.find?_isSome]
      exact ⟨map, monitored, answers⟩
    obtain ⟨first, found⟩ := Option.isSome_iff_exists.mp some
    have firstMember := List.mem_of_find?_eq_some found
    have named : (lastNamed (monitoredMaps fencer.targetWwids maps luns) first.name).isSome := by
      rw [lastNamed, List.find?_isSome]
      exact ⟨first, List.mem_reverse.mpr firstMember, beq_self_eq_true _⟩
    obtain ⟨last, lastFound⟩ := Option.isSome_iff_exists.mp named
    have lastMember := List.mem_reverse.mp (List.mem_of_find?_eq_some lastFound)
    exact ⟨part, partMember, first, found, last, lastFound, Or.inl (monitoredDead last lastMember)⟩

end Cycle

section Invariant

variable {settings : Settings} {start state next : State} {events : List Event} {event : Event}

/-- The data the loop holds in its hands are the ones from before the outage. -/
def InHand (settings : Settings) (data : ActiveLunsWithTimestamp) : Monitor → Prop
  | .waiting => True
  | .read activeData => activeData = data
  | .fresh activeData => activeData = data
  | .parsed activeData maps =>
      activeData = data ∧ ReportsDead settings.targetWwids data.luns maps
  | .crashed => True

def passed : Monitor → ℕ
  | .fresh _ => 1
  | .parsed _ _ => 1
  | _ => 0

def skipped (settings : Settings) (start : State) (events : List Event) : ℕ :=
  ((checkInstants start.now events).filter fun instant =>
    decide (freshUntil settings start.shared.discoveredAt < instant)).length

structure Counted (settings : Settings) (start state : State) : Prop where
  settled : state.fencer.targetWwids = settings.targetWwids ∧
    state.fencer.maxFailures = settings.maxFailures
  longer : start.evaluated.length ≤ state.evaluated.length
  counter : min (state.evaluated.length - start.evaluated.length) maxWord ≤
    state.fencer.consecutiveFailures.toNat
  last : start.evaluated.length < state.evaluated.length →
    ∃ poll, state.evaluated.getLast? = some poll ∧
      (settings.maxFailures ≤ state.fencer.consecutiveFailures → poll.fence = true)

structure During (settings : Settings) (start : State) (events : List Event) (state : State) :
    Prop where
  now : state.now = start.now + clock events
  shared : state.shared = start.shared
  hand : InHand settings start.shared state.monitor
  counted : Counted settings start state
  polls : state.monitor ≠ .crashed →
    state.evaluated.length + passed state.monitor + skipped settings start events =
      start.evaluated.length + (checkInstants start.now events).length

theorem skipped_snoc (settings : Settings) (start : State) (events : List Event) (event : Event) :
    skipped settings start (events ++ [event]) = skipped settings start events +
      match event with
      | .checkStale =>
          if freshUntil settings start.shared.discoveredAt < start.now + clock events then 1 else 0
      | _ => 0 := by
  rw [skipped, check_instants_snoc, List.filter_append, List.length_append, skipped]
  cases event with
  | checkStale =>
      rw [List.filter_singleton]
      split_ifs with late <;> simp [late]
  | _ => rfl

theorem counted_evaluate {tracker : StatusTracker} {maps : List MultipathMap}
    (counted : Counted settings start state)
    (reports : ReportsDead settings.targetWwids start.shared.luns maps) :
    Counted settings start { state with
      tracker := (updateWithMaps state.fencer tracker maps start.shared.luns).tracker
      monitor := .waiting
      fencer := (updateWithMaps state.fencer tracker maps start.shared.luns).fencer
      evaluated := state.evaluated ++ [{
        call := { tracker := tracker, maps := maps, activeLuns := start.shared.luns }
        fence := (updateWithMaps state.fencer tracker maps start.shared.luns).fence }] } := by
  obtain ⟨targets, threshold⟩ := counted.settled
  have fails : CycleFails state.fencer maps start.shared.luns :=
    cycle_fails_of_reports (targets.symm ▸ reports)
  have counter := update_with_maps_consecutive_failures state.fencer tracker maps
    start.shared.luns
  rw [if_pos fails] at counter
  have longer := counted.longer
  constructor
  · exact ⟨(update_with_maps_target_wwids _ _ _ _).trans targets,
      (update_with_maps_max_failures _ _ _ _).trans threshold⟩
  · rw [List.length_append, List.length_singleton]
    omega
  · have before := counted.counter
    dsimp only
    rw [counter, saturating_add_to_nat, UInt64.toNat_one, List.length_append,
      List.length_singleton]
    omega
  · intro more
    refine ⟨_, List.getLast?_concat, ?_⟩
    dsimp only
    rw [counter]
    intro reached
    apply (update_with_maps_fence state.fencer tracker maps start.shared.luns).mpr
    exact ⟨fails, threshold ▸ reached⟩

theorem counted_of_frame (counted : Counted settings start state)
    (fencer : next.fencer = state.fencer) (evaluated : next.evaluated = state.evaluated) :
    Counted settings start next := by
  constructor
  · rw [fencer]
    exact counted.settled
  · rw [evaluated]
    exact counted.longer
  · rw [fencer, evaluated]
    exact counted.counter
  · rw [fencer, evaluated]
    exact counted.last

theorem polls_snoc (settings : Settings) (start : State) (events : List Event)
    (other : event ≠ .checkStale) :
    (checkInstants start.now (events ++ [event])).length =
        (checkInstants start.now events).length ∧
      skipped settings start (events ++ [event]) = skipped settings start events := by
  rw [check_instants_snoc, skipped_snoc]
  cases event with
  | checkStale => exact absurd rfl other
  | _ => exact ⟨by rw [List.append_nil], rfl⟩

theorem during_of_frame (during : During settings start events state)
    (other : event ≠ .checkStale) (now : next.now = state.now + clock [event])
    (shared : next.shared = state.shared) (hand : InHand settings start.shared next.monitor)
    (counted : Counted settings start next)
    (polls : next.monitor ≠ .crashed → state.monitor ≠ .crashed ∧
      next.evaluated.length + passed next.monitor =
        state.evaluated.length + passed state.monitor) :
    During settings start (events ++ [event]) next := by
  obtain ⟨same, sameSkipped⟩ := polls_snoc settings start events other
  constructor
  · rw [now, during.now, clock_append, Nat.add_assoc]
  · exact shared.trans during.shared
  · exact hand
  · exact counted
  · intro alive
    obtain ⟨before, moved⟩ := polls alive
    rw [same, sameSkipped, moved]
    exact during.polls before

theorem is_stale_eq_some {old : Bool}
    (now : state.now = start.now + clock events)
    (checked : start.shared.isStale settings.discoveryInterval state.now = some old) :
    old = true ↔ freshUntil settings start.shared.discoveredAt < start.now + clock events := by
  rw [ActiveLunsWithTimestamp.isStale, Option.ite_none_right_eq_some, Option.some.injEq,
    now] at checked
  rw [← checked.2, decide_eq_true_eq, freshUntil]
  omega

theorem during_check_stale (during : During settings start events state)
    (place : state.monitor = .read start.shared) :
    During settings start (events ++ [.checkStale])
      (checkStale settings state start.shared) := by
  obtain ⟨now, shared, fencer, evaluated⟩ := check_stale_frame settings state start.shared
  have before := during.polls (by rw [place]; nofun)
  rw [place] at before
  simp only [passed] at before
  have counted : (checkInstants start.now (events ++ [.checkStale])).length =
      (checkInstants start.now events).length + 1 := by
    rw [check_instants_snoc, List.length_append]
    rfl
  have lates := skipped_snoc settings start events .checkStale
  dsimp only at lates
  constructor
  · rw [now, during.now, clock_append]
    rfl
  · exact shared.trans during.shared
  · unfold checkStale
    split
    · trivial
    · trivial
    · rfl
  · exact counted_of_frame during.counted fencer evaluated
  · rw [evaluated, counted, lates]
    unfold checkStale
    cases checked : start.shared.isStale settings.discoveryInterval state.now with
    | none => exact fun alive => absurd rfl alive
    | some old =>
        have late := is_stale_eq_some during.now checked
        intro alive
        cases old with
        | true =>
            rw [if_pos (late.mp rfl)]
            simp only [passed]
            omega
        | false =>
            rw [if_neg (fun tooLate => Bool.false_ne_true (late.mpr tooLate))]
            simp only [passed]
            omega

theorem during_query_maps (during : During settings start events state)
    (place : state.monitor = .fresh start.shared) {text : String} {maps : List MultipathMap}
    (parsed : parseMultipathdResponse settings.fromStr settings.maxResponseSize text = some maps)
    (reports : ReportsDead settings.targetWwids start.shared.luns maps) :
    During settings start (events ++ [.queryMaps (.ok text)])
      (queryMaps settings state start.shared (.ok text)) := by
  obtain ⟨now, shared, fencer, evaluated⟩ :=
    query_maps_frame settings state start.shared (.ok text)
  have monitor : (queryMaps settings state start.shared (.ok text)).monitor =
      .parsed start.shared maps := by
    rw [queryMaps, parsed]
  apply during_of_frame during
  · nofun
  · exact now
  · exact shared
  · rw [monitor]
    exact ⟨rfl, reports⟩
  · exact counted_of_frame during.counted fencer evaluated
  · intro alive
    rw [evaluated, monitor, place]
    exact ⟨by nofun, rfl⟩

theorem during_evaluate (during : During settings start events state)
    {maps : List MultipathMap} (place : state.monitor = .parsed start.shared maps)
    (config : Except String String) :
    During settings start (events ++ [.queryConfig config])
      (evaluate settings state start.shared maps config) := by
  have hand := during.hand
  rw [place] at hand
  cases evaluate_cases settings state start.shared maps config with
  | inl crashed =>
      rw [crashed]
      apply during_of_frame during
      · nofun
      · rfl
      · rfl
      · trivial
      · exact counted_of_frame during.counted rfl rfl
      · exact fun alive => absurd rfl alive
  | inr done =>
      obtain ⟨tracker, evaluated⟩ := done
      rw [evaluated]
      apply during_of_frame during
      · nofun
      · rfl
      · rfl
      · trivial
      · exact counted_evaluate during.counted hand.2
      · intro alive
        rw [place, List.length_append]
        exact ⟨by nofun, rfl⟩

theorem during_elapse (during : During settings start events state) (nanos : ℕ) :
    During settings start (events ++ [.elapse nanos]) { state with now := state.now + nanos } := by
  apply during_of_frame during
  · simp
  · rfl
  · rfl
  · exact during.hand
  · exact counted_of_frame during.counted rfl rfl
  · exact fun alive => ⟨alive, rfl⟩

theorem during_discovery (during : During settings start events state)
    {outcome : Discovery} (unsuccessful : ∀ mpaths, outcome ≠ .found mpaths) :
    During settings start (events ++ [.discovery outcome])
      (finishDiscovery settings state outcome) := by
  obtain ⟨now, monitor, fencer, evaluated⟩ := finish_discovery_frame settings state outcome
  apply during_of_frame during
  · simp
  · exact now
  · exact finish_discovery_shared settings state unsuccessful
  · rw [monitor]
    exact during.hand
  · exact counted_of_frame during.counted fencer evaluated
  · rw [monitor, evaluated]
    exact fun alive => ⟨alive, rfl⟩

theorem during_read_luns (during : During settings start events state)
    (place : state.monitor = .waiting) :
    During settings start (events ++ [.readLuns])
      { state with monitor := .read state.shared } := by
  apply during_of_frame during
  · simp
  · rfl
  · rfl
  · exact during.shared
  · exact counted_of_frame during.counted rfl rfl
  · intro alive
    rw [place]
    exact ⟨by simp, rfl⟩

theorem during_step (during : During settings start events state)
    (dead : StaysDead settings start.shared.luns (events ++ [event]))
    (stepped : step settings state event = some next) :
    During settings start (events ++ [event]) next := by
  have last : event ∈ events ++ [event] := List.mem_append_right _ (List.mem_singleton_self event)
  have hand := during.hand
  cases event with
  | elapse nanos =>
      cases stepped
      exact during_elapse during nanos
  | discovery outcome =>
      rw [step, Option.ite_none_right_eq_some, Option.some.injEq] at stepped
      obtain ⟨-, rfl⟩ := stepped
      apply during_discovery during
      intro mpaths found
      exact dead.discovery mpaths (found ▸ last)
  | readLuns =>
      cases place : state.monitor <;> simp only [step, place] at stepped <;> cases stepped
      exact during_read_luns during place
  | checkStale =>
      cases place : state.monitor <;> simp only [step, place] at stepped <;> cases stepped
      rw [place] at hand
      obtain rfl : _ = start.shared := hand
      exact during_check_stale during place
  | queryMaps response =>
      cases place : state.monitor <;> simp only [step, place] at stepped <;> cases stepped
      rw [place] at hand
      obtain rfl : _ = start.shared := hand
      obtain ⟨text, maps, rfl, parsed, reports⟩ := dead.answers response last
      exact during_query_maps during place parsed reports
  | queryConfig response =>
      cases place : state.monitor <;> simp only [step, place] at stepped <;> cases stepped
      rw [place] at hand
      obtain ⟨rfl, -⟩ := hand
      exact during_evaluate during place response

theorem stays_dead_init {luns : Finset String}
    (dead : StaysDead settings luns (events ++ [event])) : StaysDead settings luns events where
  discovery mpaths member := dead.discovery mpaths (List.mem_append_left _ member)
  answers response member := dead.answers response (List.mem_append_left _ member)

theorem counted_start {before : List Event} (ran : run settings before = some start) :
    Counted settings start start := by
  constructor
  · rw [(consistent_run settings ran).fencer]
    exact (fencer_at_settings _ _ _ _).symm
  · exact Nat.le_refl _
  · rw [Nat.sub_self, Nat.zero_min]
    exact Nat.zero_le _
  · exact fun more => absurd more (Nat.lt_irrefl _)

theorem during_start {before : List Event} (ran : run settings before = some start)
    (idle : start.monitor = .waiting) : During settings start [] start := by
  constructor
  · rfl
  · rfl
  · rw [idle]
    trivial
  · exact counted_start ran
  · rw [idle]
    exact fun _ => rfl

theorem during_run {before : List Event} (ran : run settings before = some start)
    (idle : start.monitor = .waiting) (dead : StaysDead settings start.shared.luns events)
    (went : events.foldlM (step settings) start = some state) :
    During settings start events state := by
  apply events_invariant (fun events state => StaysDead settings start.shared.luns events →
    During settings start events state) _ _ went dead
  · exact fun _ => during_start ran idle
  · intro events event before next during stepped dead
    exact during_step (during (stays_dead_init dead)) dead stepped

end Invariant

section Race

variable {settings : Settings} {start state : State} {before events : List Event}

theorem skipped_eq_zero_iff (settings : Settings) (start : State) (events : List Event) :
    skipped settings start events = 0 ↔ ∀ instant ∈ checkInstants start.now events,
      instant ≤ freshUntil settings start.shared.discoveredAt := by
  simp [skipped, List.filter_eq_nil_iff]

theorem all_fresh_iff_last (now limit : ℕ) (events : List Event) :
    (∀ instant ∈ checkInstants now events, instant ≤ limit) ↔
      ∀ last, (checkInstants now events).getLast? = some last → last ≤ limit := by
  have sorted := check_instants_sorted now events
  constructor
  · intro all last found
    exact all last (List.mem_of_getLast? found)
  · intro ends instant member
    have some : checkInstants now events ≠ [] := List.ne_nil_of_mem member
    calc instant
        ≤ (checkInstants now events).getLast some := sorted.rel_getLast member
      _ ≤ limit := ends _ (List.getLast?_eq_some_getLast some)

theorem decided_iff_no_skip (positive : settings.maxFailures ≠ 0)
    (during : During settings start events state) (done : state.monitor = .waiting)
    (polls : (checkInstants start.now events).length = settings.maxFailures.toNat) :
    Decided settings start state ↔ skipped settings start events = 0 := by
  have count := during.polls (by rw [done]; nofun)
  rw [done, polls] at count
  simp only [passed] at count
  constructor
  · intro decided
    have evaluated := decided.evaluated
    omega
  · intro none
    have evaluated : state.evaluated.length =
        start.evaluated.length + settings.maxFailures.toNat := by omega
    have one : 0 < settings.maxFailures.toNat := by
      rw [Nat.pos_iff_ne_zero]
      exact fun zero => positive (UInt64.toNat_inj.mp zero)
    obtain ⟨poll, last, fence⟩ := during.counted.last (by omega)
    refine ⟨evaluated, poll, last, fence ?_⟩
    have counter := during.counted.counter
    have bound := word_le_max settings.maxFailures
    rw [UInt64.le_iff_toNat_le]
    omega

/-- In an outage with as many polls as the threshold asks for, all of them run
to their end, none is skipped and the last one decides, exactly if that one
still finds its data fresh. On schedule it does if the polls fit into one
discovery interval. -/
theorem outage_decided_iff (positive : settings.maxFailures ≠ 0)
    (ran : run settings before = some start) (idle : start.monitor = .waiting)
    (dead : StaysDead settings start.shared.luns events)
    (went : events.foldlM (step settings) start = some state) (done : state.monitor = .waiting)
    (polls : (checkInstants start.now events).length = settings.maxFailures.toNat) :
    (Decided settings start state ↔
      ∀ last, (checkInstants start.now events).getLast? = some last →
        last ≤ freshUntil settings start.shared.discoveredAt) ∧
    ∀ outageAt,
      outageAt ≤ start.shared.discoveredAt + settings.discoveryInterval.toNat * secondNanos →
      OnSchedule settings outageAt (checkInstants start.now events) →
      settings.maxFailures.toNat * settings.pollInterval.toNat ≤
        settings.discoveryInterval.toNat →
      Decided settings start state := by
  have during := during_run ran idle dead went
  have decided := decided_iff_no_skip positive during done polls
  constructor
  · rw [decided, skipped_eq_zero_iff]
    exact all_fresh_iff_last _ _ _
  · intro outageAt recent schedule fits
    rw [decided, skipped_eq_zero_iff]
    intro instant member
    obtain ⟨index, within, found⟩ := List.mem_iff_getElem.mp member
    have kept := schedule index instant (List.getElem?_eq_some_iff.mpr ⟨within, found⟩)
    rw [polls] at within
    have spent : (index + 1) * (settings.pollInterval.toNat * secondNanos) ≤
        settings.discoveryInterval.toNat * secondNanos :=
      calc (index + 1) * (settings.pollInterval.toNat * secondNanos)
          ≤ settings.maxFailures.toNat * (settings.pollInterval.toNat * secondNanos) :=
            Nat.mul_le_mul_right _ within
        _ = settings.maxFailures.toNat * settings.pollInterval.toNat * secondNanos :=
            (Nat.mul_assoc ..).symm
        _ ≤ settings.discoveryInterval.toNat * secondNanos := Nat.mul_le_mul_right _ fits
    have doubled : settings.discoveryInterval.toNat * 2 * secondNanos =
        settings.discoveryInterval.toNat * secondNanos +
          settings.discoveryInterval.toNat * secondNanos := by
      rw [Nat.mul_two, Nat.add_mul]
    unfold freshUntil
    omega

end Race

section Intervals

def secondPoll (discoveryInterval : UInt64) : Settings :=
  { oneShot with discoveryInterval := discoveryInterval, maxFailures := 2 }

def found : List Event := [.discovery (.found {"mpatha"})]

/-- Two polls on schedule, with a failed discovery between them. -/
def twoPolls : List Event :=
  [.elapse (5 * secondNanos), .readLuns, .checkStale, .queryMaps (.ok "maps"),
    .queryConfig (.error "no reply"), .discovery (.failed "timeout"), .elapse (5 * secondNanos),
    .readLuns, .checkStale, .queryMaps (.ok "maps"), .queryConfig (.error "no reply")]

/-- As far as they go: the second poll is skipped. -/
def secondSkipped : List Event := twoPolls.take 9

theorem mpatha_reported_dead : ReportsDead ∅ {"mpatha"}
    [⟨"mpatha", "36001", some [⟨some "active", some [⟨some "failed"⟩]⟩], none, none⟩] := by
  refine ⟨⟨"mpatha", by decide⟩, ?_, ?_⟩
  · intro lun member
    rw [Finset.mem_singleton.mp member]
    decide
  · intro map member active
    rw [List.mem_singleton.mp member]
    decide

theorem two_polls_stay_dead (discoveryInterval : UInt64) :
    StaysDead (secondPoll discoveryInterval) {"mpatha"} twoPolls := by
  constructor
  · intro mpaths member
    simp [twoPolls] at member
  · intro response member
    have same : response = .ok "maps" := by simpa [twoPolls] using member
    exact ⟨"maps", _, same, rfl, mpatha_reported_dead⟩

theorem two_polls_on_schedule (discoveryInterval : UInt64) :
    OnSchedule (secondPoll discoveryInterval) 0 (checkInstants 0 twoPolls) := by
  intro index instant found
  match index with
  | 0 =>
      cases found
      change 0 + 5 * secondNanos ≤ 0 + (0 + 1) * ((5 : UInt64).toNat * secondNanos)
      decide
  | 1 =>
      cases found
      change 0 + 5 * secondNanos + 5 * secondNanos ≤
        0 + (1 + 1) * ((5 : UInt64).toNat * secondNanos)
      decide
  | index + 2 => cases found

theorem outage_decided_iff_minute : ∃ start state, run (secondPoll 60) found = some start ∧
    twoPolls.foldlM (step (secondPoll 60)) start = some state ∧
      Decided (secondPoll 60) start state := by
  refine ⟨_, _, rfl, rfl, ?_⟩
  have ran : run (secondPoll 60) found = some _ := rfl
  have dead := two_polls_stay_dead 60
  have race := outage_decided_iff (by decide) ran rfl dead rfl rfl rfl
  exact race.2 0 (Nat.zero_le _) (two_polls_on_schedule 60) (by decide)

/-- With one of 4 seconds the second poll finds its data 10 seconds old, and
there is no decision. -/
theorem second_poll_skipped : ∃ start state, run (secondPoll 4) found = some start ∧
    start.monitor = .waiting ∧ start.now ≤ start.shared.discoveredAt + 4 * secondNanos ∧
    secondSkipped.foldlM (step (secondPoll 4)) start = some state ∧
    state.monitor = .waiting ∧ StaysDead (secondPoll 4) start.shared.luns secondSkipped ∧
    OnSchedule (secondPoll 4) start.now (checkInstants start.now secondSkipped) ∧
    (checkInstants start.now secondSkipped).length = 2 ∧ state.evaluated.length = 1 ∧
    ∀ poll ∈ state.evaluated, poll.fence = false := by
  refine ⟨_, _, rfl, rfl, by decide, rfl, rfl, ?_, two_polls_on_schedule 4, rfl, rfl, ?_⟩
  · have whole := two_polls_stay_dead 4
    constructor
    · intro mpaths member
      exact whole.discovery mpaths (List.mem_of_mem_take member)
    · intro response member
      exact whole.answers response (List.mem_of_mem_take member)
  · decide +kernel

end Intervals

end PveSanFenced.Outage
