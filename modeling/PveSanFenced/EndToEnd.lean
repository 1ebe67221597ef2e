import PveSanFenced.DiscoveryComplete
import PveSanFenced.Lifecycle

/-!
# From a virtual machine to the decision

Every set that the discovery thread shares comes from one attempt of
`discover_in_use_mpaths` on the node. So a decision of the monitoring loop can
be traced back through the loops and through discovery: to a running machine,
to one of its disks and to a dead multipath map under that disk.
-/

namespace PveSanFenced.EndToEnd

open PveSanFenced.Daemon
open PveSanFenced.DaemonPanics
open PveSanFenced.DaemonSafety
open PveSanFenced.DaemonStatus
open PveSanFenced.Discovery
open PveSanFenced.DiscoveryComplete
open PveSanFenced.Disks
open PveSanFenced.FencerCycle
open PveSanFenced.FencerHistory
open PveSanFenced.FencerModel
open PveSanFenced.Library.Collections
open PveSanFenced.Library.Latest
open PveSanFenced.Library.Paths
open PveSanFenced.Library.Runs
open PveSanFenced.Library.Text
open PveSanFenced.Lifecycle
open PveSanFenced.Multipath
open PveSanFenced.Pvesh
open PveSanFenced.Startup
open PveSanFenced.Status
open PveSanFenced.Sysrq

set_option autoImplicit false

section Carried

variable (settings : Settings) (Seen : Finset String → Prop) (Told : List MultipathMap → Prop)

variable {settings Seen Told} {count : ℕ} {state next : State} {event : Event}

end Carried

section Polled

variable (settings : Settings) (tracker : StatusTracker)

/-- The poll of this number is about to be evaluated, with this data. -/
def PolledAfter (index : ℕ) (prior : List Event) (data : ActiveLunsWithTimestamp) : Prop :=
  ∃ state maps, runFrom settings tracker prior = some state ∧ state.evaluated.length = index ∧
    state.monitor = .parsed data maps

/-- The poll of this number was evaluated with what the discovery after
`before` had found: that was the most recent success when the poll read the
shared set. -/
def UsesDiscovery (events : List Event) (index : ℕ) (before : List Event)
    (mpaths : Finset String) : Prop :=
  ∃ prior between rest data, prior <+: events ∧ PolledAfter settings tracker index prior data ∧
    prior = before ++ .discovery (.found mpaths) :: (between ++ .readLuns :: rest) ∧
    (∀ event ∈ between, ¬IsFound event) ∧ Event.readLuns ∉ rest

variable {settings tracker} {events : List Event} {state : State} {index : ℕ} {poll : Evaluated}

theorem polled_of_evaluated (ran : runFrom settings tracker events = some state)
    (found : state.evaluated[index]? = some poll) : ∃ prior data, prior <+: events ∧
      PolledAfter settings tracker index prior data ∧ poll.call.activeLuns = data.luns := by
  induction events using List.reverseRecOn generalizing state with
  | nil =>
      rw [← Option.some.inj ran] at found
      cases found
  | append_singleton events event ih =>
      obtain ⟨near, earlier, stepped⟩ := run_snoc ran
      have before {prior : List Event} (inside : prior <+: events) : prior <+: events ++ [event] :=
        inside.trans (List.prefix_append _ _)
      have earlierPoll (listed : near.evaluated[index]? = some poll) := ih earlier listed
      rcases step_evaluates settings (consistent_run_from earlier) stepped with
        ⟨same, -⟩ | ⟨response, data, maps, last, -, place, -, appended, -, luns⟩
      · rw [same] at found
        obtain ⟨prior, data, inside, polled⟩ := earlierPoll found
        exact ⟨prior, data, before inside, polled⟩
      · rw [appended] at found
        rcases Nat.lt_or_ge index near.evaluated.length with old | new
        · rw [List.getElem?_append_left old] at found
          obtain ⟨prior, data, inside, polled⟩ := earlierPoll found
          exact ⟨prior, data, before inside, polled⟩
        · have within := (List.getElem?_eq_some_iff.mp found).1
          rw [List.length_append, List.length_singleton] at within
          have here : near.evaluated.length = index := by omega
          rw [← here, List.getElem?_concat_length, Option.some.injEq] at found
          rw [← found]
          exact ⟨events, data, List.prefix_append _ _, ⟨near, maps, earlier, here, place⟩, luns⟩

theorem uses_discovery (ran : runFrom settings tracker events = some state)
    (found : state.evaluated[index]? = some poll) {lun : String}
    (active : lun ∈ poll.call.activeLuns) :
    ∃ before, UsesDiscovery settings tracker events index before poll.call.activeLuns := by
  obtain ⟨prior, data, inside, polled, luns⟩ := polled_of_evaluated ran found
  obtain ⟨near, maps, earlier, count, place⟩ := polled
  have holds := (consistent_run_from earlier).monitor
  rw [place] at holds
  obtain ⟨first, between, after, split, quiet, quiet', recent, -⟩ := holds
  rw [luns] at active ⊢
  rcases recent with ⟨before, mpaths, later, rfl, last, rfl⟩ | ⟨-, rfl⟩
  · refine ⟨before, prior, later, between ++ .checkStale :: after, _, inside,
      ⟨near, maps, earlier, count, place⟩, ?_, last, ?_⟩
    · rw [split]
      simp
    · simp [quiet, quiet']
  · exact absurd active (Finset.notMem_empty lun)

end Polled

section Trace

variable {events : List Event} {hosts : ℕ → PveHost}

/-- Every set the thread shares comes from an attempt on this node, which found
the host as it was at that event. -/
def Sourced (hosts : ℕ → PveHost) (node pveshCommand : String) (events : List Event) : Prop :=
  ∀ before mpaths after, events = before ++ .discovery (.found mpaths) :: after →
    discoverInUseMpaths (hosts before.length) node pveshCommand = .ok mpaths

/-- The machine, its disk and the multipath devices behind an active key. -/
def InUse (host : PveHost) (client : PveSanConfig) (lun : String) : Prop :=
  ∃ vmid configMap disks disk mpaths, ReportedAs host client vmid "running" ∧
    getVmConfig host client vmid = .ok configMap ∧ extractDisks configMap = .ok disks ∧
      disk ∈ disks ∧ matchedMpaths (mpathMapOf host) disk.storage = some mpaths ∧
        lunKey (deviceMapperName mpaths) = some lun

theorem discovered_in_use {host : PveHost} {node pveshCommand : String} {active : Finset String}
    (discovered : discoverInUseMpaths host node pveshCommand = .ok active) :
    ∃ client, withNodeAndPvesh node pveshCommand = .ok client ∧
      ∀ lun, lun ∈ active ↔ InUse host client lun := by
  cases accepted : withNodeAndPvesh node pveshCommand with
  | error refused =>
      rw [discoverInUseMpaths, accepted] at discovered
      cases discovered
  | ok client =>
      cases listing : listRunningVms host client with
      | error failed =>
          rw [discoverInUseMpaths, accepted] at discovered
          dsimp only [bind, Except.bind] at discovered
          rw [getSanStorageInfo, listing] at discovered
          cases discovered
      | ok vms =>
          cases again : host.blockDevicesAgain with
          | error message =>
              obtain ⟨infos, devices, collected, -⟩ :=
                collect_vms_ok host client (mpathMapOf host) vms [] ∅
              rw [discoverInUseMpaths, accepted] at discovered
              dsimp only [bind, Except.bind] at discovered
              rw [getSanStorageInfo, listing] at discovered
              dsimp only [bind, Except.bind] at discovered
              rw [collected] at discovered
              dsimp only at discovered
              rw [again] at discovered
              cases discovered
          | ok devices =>
              obtain ⟨active', found, keys⟩ := discover_ok accepted listing again
              rw [found, Except.ok.injEq] at discovered
              subst discovered
              exact ⟨client, rfl, keys⟩

/-- A failing poll fails for some LUN in use that a monitored map answers to
and that counts as dead. -/
theorem failed_lun_of_fails {maxFailures : UInt64} {targetWwids : Finset String}
    {calls : ℕ → FencerHistory.Call} {index : ℕ}
    (fails : FailsAt maxFailures targetWwids calls index) :
    ∃ lun ∈ (calls index).activeLuns, ∃ part ∈ lunParts lun,
      ∃ map ∈ monitoredAt targetWwids calls index, answersTo part map = true ∧
        ∃ last, lastNamed (monitoredAt targetWwids calls index) map.name = some last ∧
          (mapDead last ∨ Latched targetWwids calls map.name (index + 1)) := by
  obtain ⟨filled, failing⟩ := (fails_at_iff_lun_failed ..).mp fails
  have failed : ∃ lun ∈ (calls index).activeLuns,
      LunFailed (fencerAt maxFailures targetWwids calls index)
        (monitoredAt targetWwids calls index) lun := by
    cases failing with
    | inl spanned =>
        obtain ⟨lun, active, -, failed⟩ := spanned
        exact ⟨lun, active, failed⟩
    | inr all =>
        -- a monitored map belongs to some LUN in use, and all of those failed
        obtain ⟨map, member⟩ := List.exists_mem_of_ne_nil _ filled
        obtain ⟨-, ⟨lun, active, -⟩, -⟩ := (mem_monitored_maps _ _ _ map).mp member
        exact ⟨lun, active, all lun active⟩
  obtain ⟨lun, active, part, inside, map, found, dead⟩ := failed
  refine ⟨lun, active, part, inside, map, List.mem_of_find?_eq_some found,
    by simpa using List.find?_some found, ?_⟩
  exact (counted_dead_at_iff maxFailures targetWwids calls map.name index).mp dead

theorem fails_of_fence {build : Build} {cli : Cli} {env : Environment} {succeeds : ℕ → Bool}
    {tracker : StatusTracker} {life : Life}
    (lived : live build cli env succeeds tracker events = some life) {index : ℕ}
    {poll : Evaluated} (found : life.daemon.evaluated[index]? = some poll)
    (fence : poll.fence = true) :
    FailsAt cli.maxFailures cli.targetWwids.toFinset (callsOf life.daemon.evaluated) index := by
  have consistent := consistent_run_from (run_of_live lived)
  rw [consistent.decisions index poll found, fences_at_iff_fails] at fence
  exact fence.1

/-- The startup looks at neither of the values that the client refuses, except
that the node's directory has to be there: with an empty name that is the base
directory itself. -/
theorem start_up_unaffected {build : Build} {cli : Cli} {env : Environment}
    {tracker : StatusTracker} (started : startUp build cli env = .started tracker) :
    (∀ command, startUp build { cli with pveshCommand := command } env = .started tracker) ∧
      (env.isDir (join (baseDir env) "") = true →
        startUp build { cli with nodeName := "" } env = .started tracker) := by
  obtain ⟨placed, daemon, admissible, validated⟩ := (start_up_started_iff build).mp started
  refine ⟨fun command => ?_, fun directory => ?_⟩
  · rw [start_up_started_iff]
    exact ⟨placed, daemon, { admissible with }, validated⟩
  · rw [start_up_started_iff]
    refine ⟨placed, daemon, ?_, validated⟩
    exact { admissible with
      slash := by simp
      backslash := by simp
      dots := by simp
      directory := directory }

/-- An empty node name, or a command that the client refuses, does not keep the
daemon from starting. No attempt of discovery succeeds then, nothing is ever
decided or written, and the process ends by a panic only. -/
theorem refused_client_never_fences {build : Build} {cli : Cli} {env : Environment}
    {succeeds : ℕ → Bool} {tracker : StatusTracker} {life : Life} {refused : PveSanError}
    (started : startUp build cli env = .started tracker)
    (refusal : withNodeAndPvesh cli.nodeName cli.pveshCommand = .error refused)
    (sourced : Sourced hosts cli.nodeName cli.pveshCommand events)
    (lived : live build cli env succeeds tracker events = some life) :
    ((∀ command, startUp build { cli with pveshCommand := command } env = .started tracker) ∧
      (env.isDir (join (baseDir env) "") = true →
        startUp build { cli with nodeName := "" } env = .started tracker)) ∧
      (∀ mpaths, Event.discovery (.found mpaths) ∉ events) ∧
      (∀ poll ∈ life.daemon.evaluated, poll.fence = false) ∧ life.attempts = [] ∧
      ∀ code, life.exited = some code → code = 101 ∧ Occurred (step (settings build cli))
        (Panics (settings build cli)) (startWith (settings build cli) tracker) events := by
  have none : ∀ mpaths, Event.discovery (.found mpaths) ∉ events := by
    intro mpaths member
    obtain ⟨before, after, rfl⟩ := List.append_of_mem member
    obtain ⟨client, accepted, -⟩ := discovered_in_use (sourced before mpaths after rfl)
    rw [refusal] at accepted
    cases accepted
  have undecided : ∀ poll ∈ life.daemon.evaluated, poll.fence = false := by
    intro poll member
    rw [Bool.eq_false_iff]
    intro fence
    obtain ⟨index, found⟩ := List.mem_iff_getElem?.mp member
    obtain ⟨lun, active, -⟩ := failed_lun_of_fails (fails_of_fence lived found fence)
    rw [calls_of_evaluated found] at active
    obtain ⟨before, prior, between, rest, data, ⟨suffix, rfl⟩, -, rfl, -⟩ :=
      uses_discovery (run_of_live lived) found active
    exact none poll.call.activeLuns (by simp)
  have never : ¬Decided life.daemon := by
    intro decided
    obtain ⟨poll, member, fence⟩ := decided
    rw [undecided poll member] at fence
    cases fence
  refine ⟨start_up_unaffected started, none, undecided,
    ((accounts_live lived).idle fun writes => never writes.2.2).2, fun code exited => ?_⟩
  rcases exit_cases lived with ⟨-, ends, -⟩ | ⟨panicked, -, crashed⟩ | ⟨running, -⟩
  · exact absurd ends.2.2 never
  · rw [panicked, Option.some.injEq] at exited
    exact ⟨exited.symm, (monitor_crashed_iff (run_of_live lived)).mp crashed⟩
  · rw [running] at exited
    cases exited

/-- The defaults of both values are accepted, whatever the host name is. -/
theorem default_client_accepted (hostname : Except String String) :
    ∃ client, withNodeAndPvesh (getDefaultNodeName hostname) "pvesh" = .ok client := by
  have valid : validCommand "pvesh" = true := by decide
  refine ⟨⟨_, "pvesh", default_node_name_filled hostname, valid⟩, ?_⟩
  rw [withNodeAndPvesh, dif_neg (default_node_name_filled hostname), dif_pos valid]

end Trace

section Spanned

def unnamedEvents : List Event :=
  [.discovery (.failed "no node"), .readLuns, .checkStale, .queryMaps (.ok "maps"),
    .queryConfig (.error "no reply")]

theorem refused_client_never_fences_unnamed : ∃ life,
    live plain { oneFailure with nodeName := "" } (host false "1\n") (fun _ => true)
        StatusTracker.new unnamedEvents = some life ∧ life.attempts = [] := by
  have lived : (live plain { oneFailure with nodeName := "" } (host false "1\n") (fun _ => true)
      StatusTracker.new unnamedEvents).isSome = true := by
    decide +kernel
  obtain ⟨life, found⟩ := Option.isSome_iff_exists.mp lived
  have sourced : Sourced (fun _ => spannedHost "mpatha") "" "pvesh" unnamedEvents := by
    intro before mpaths after split
    have member : Event.discovery (.found mpaths) ∈ unnamedEvents := by
      rw [split]
      simp
    simp [unnamedEvents] at member
  have refused : withNodeAndPvesh "" "pvesh" = .error .noNodeError := rfl
  have started := (start_up_unaffected (obedient_started false)).2 rfl
  exact ⟨life, found, (refused_client_never_fences started refused sourced found).2.2.2.1⟩

end Spanned

end PveSanFenced.EndToEnd
