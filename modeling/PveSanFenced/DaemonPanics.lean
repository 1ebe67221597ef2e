import PveSanFenced.DaemonStatus

/-!
# Where the loops panic

The arithmetic of both loops is bare in places: a product of two durations, a
sum of a duration and a constant, a power of two. A build with overflow checks
panics where the exact result does not fit; doubling the discovery interval
panics in every build. Nothing else that a step computes makes a loop panic.
-/

namespace PveSanFenced.DaemonPanics

open PveSanFenced.Backoff
open PveSanFenced.Config
open PveSanFenced.ConfigCheck
open PveSanFenced.Daemon
open PveSanFenced.DaemonSafety
open PveSanFenced.DaemonStatus
open PveSanFenced.Library.Fixed
open PveSanFenced.Library.Latest
open PveSanFenced.Library.Runs
open PveSanFenced.Library.Text
open PveSanFenced.Multipath
open PveSanFenced.Status

set_option autoImplicit false

section Check

def RetryOverflows (merged : DeviceConfig) : Prop :=
  ∃ val num, merged.noPathRetry = some val ∧ parseU64 val = some num ∧
    maxWord < num.toNat * (merged.pollingInterval.getD 5).toNat

theorem retry_warnings_none_iff (mode : Overflow) (merged : DeviceConfig)
    (minQueueTime : UInt64) :
    noPathRetryWarnings mode merged.noPathRetry (merged.pollingInterval.getD 5) minQueueTime =
        none ↔ mode = .panics ∧ RetryOverflows merged := by
  have word (text : String) (plain : parseU64 text = none)
      (other : merged.noPathRetry = some text) : ¬RetryOverflows merged := by
    intro overflows
    obtain ⟨val, num, listed, parsed, -⟩ := overflows
    rw [other] at listed
    rw [← Option.some.inj listed, plain] at parsed
    cases parsed
  unfold noPathRetryWarnings
  cases listed : merged.noPathRetry with
  | none =>
      apply iff_of_false (Option.some_ne_none _)
      intro overflows
      obtain ⟨val, num, found, -⟩ := overflows.2
      rw [listed] at found
      cases found
  | some val =>
      dsimp only
      by_cases queue : val = "queue"
      · rw [if_pos queue]
        apply iff_of_false (Option.some_ne_none _)
        rw [queue] at listed
        exact fun overflows => word "queue" (by decide) listed overflows.2
      · rw [if_neg queue]
        cases parsed : parseU64 val with
        | none =>
            dsimp only
            apply iff_of_false
            · by_cases fail : val = "fail"
              · rw [if_pos fail]
                exact Option.some_ne_none _
              · rw [if_neg fail]
                exact Option.some_ne_none _
            · exact fun overflows => word val parsed listed overflows.2
        | some num =>
            have exact_product : RetryOverflows merged ↔
                maxWord < num.toNat * (merged.pollingInterval.getD 5).toNat := by
              constructor
              · intro overflows
                obtain ⟨other, num', found, parsed', beyond⟩ := overflows
                rw [listed, Option.some.injEq] at found
                rw [← found, parsed, Option.some.injEq] at parsed'
                rw [parsed']
                exact beyond
              · exact fun beyond => ⟨val, num, listed, parsed, beyond⟩
            dsimp only
            by_cases zero : num = 0
            · rw [if_pos zero]
              apply iff_of_false (Option.some_ne_none _)
              rw [exact_product, zero, UInt64.toNat_zero, Nat.zero_mul]
              exact fun overflows => Nat.not_lt_zero _ overflows.2
            · rw [if_neg zero, exact_product, ← exact_word_eq_none]
              change (mulWord mode num _).bind _ = none ↔ mulWord mode num _ = none
              cases mulWord mode num (merged.pollingInterval.getD 5) with
              | none => simp
              | some qt =>
                  dsimp only [Option.bind_some]
                  split_ifs <;> simp

theorem validate_none_iff (mode : Overflow) (merged : DeviceConfig) (fencingTimeSec : UInt64) :
    validateMergedDeviceConfig mode merged fencingTimeSec = none ↔
      mode = .panics ∧ (maxWord < fencingTimeSec.toNat + 60 ∨ RetryOverflows merged) := by
  have queue : addWord mode fencingTimeSec 15 = none ↔
      mode = .panics ∧ maxWord < fencingTimeSec.toNat + 15 := exact_word_eq_none
  have loss : addWord mode fencingTimeSec 60 = none ↔
      mode = .panics ∧ maxWord < fencingTimeSec.toNat + 60 := exact_word_eq_none
  rw [validateMergedDeviceConfig]
  cases first : addWord mode fencingTimeSec 15 with
  | none =>
      have beyond := queue.mp first
      exact iff_of_true rfl ⟨beyond.1, Or.inl (by omega)⟩
  | some minQueueTime =>
      have retry := retry_warnings_none_iff mode merged minQueueTime
      cases second : noPathRetryWarnings mode merged.noPathRetry
          (merged.pollingInterval.getD 5) minQueueTime with
      | none =>
          have beyond := retry.mp second
          simp only [Option.bind_eq_bind, Option.bind_some, second, Option.bind_none, true_iff]
          exact ⟨beyond.1, Or.inr beyond.2⟩
      | some warnings =>
          have fits : ¬(mode = .panics ∧ RetryOverflows merged) := by
            rw [← retry, second]
            exact Option.some_ne_none _
          rw [and_or_left, or_iff_left fits, ← loss]
          simp only [Option.bind_eq_bind, Option.bind_some, second]
          cases addWord mode fencingTimeSec 60 <;> simp

variable (mode : Overflow) (regexNew : String → Option (String → Bool))

theorem collect_none_iff (config : MultipathConfig) (fencingTimeSec : UInt64)
    (maps : List MultipathMap) :
    collectWarnings mode regexNew config fencingTimeSec maps = none ↔ mode = .panics ∧
      ∃ map ∈ maps, maxWord < fencingTimeSec.toNat + 60 ∨
        RetryOverflows (mergedSettings regexNew config map) := by
  induction maps with
  | nil => simp [collectWarnings]
  | cons map rest ih =>
      have first := validate_none_iff mode (mergedSettings regexNew config map) fencingTimeSec
      rw [List.exists_mem_cons_iff, and_or_left, ← first, ← ih, collectWarnings]
      cases validateMergedDeviceConfig mode (mergedSettings regexNew config map)
          fencingTimeSec with
      | none => simp
      | some warnings =>
          simp only [Option.bind_eq_bind, Option.bind_some]
          cases collectWarnings mode regexNew config fencingTimeSec rest with
          | none => simp
          | some others =>
              simp only [Option.bind_some]
              split_ifs <;> simp

/-- A quantity of the check does not fit: the time until fencing, that time
with its margin, or a queue time. Without a monitored map only the first is
computed. -/
def CheckOverflows (settings : Settings) (maps : List MultipathMap) (activeLuns : Finset String)
    (reply : String) : Prop :=
  maxWord < settings.maxFailures.toNat * settings.pollInterval.toNat ∨
    ∃ map ∈ configMonitoredMaps maps activeLuns,
      maxWord < settings.maxFailures.toNat * settings.pollInterval.toNat + 60 ∨
        RetryOverflows (mergedSettings settings.regexNew (parseMultipathConfig reply) map)

theorem check_config_none_iff (settings : Settings) (state : State)
    (activeData : ActiveLunsWithTimestamp) (maps : List MultipathMap)
    (response : Except String String) :
    checkConfig settings state activeData maps response = none ↔ settings.overflow = .panics ∧
      ∃ reply, response = .ok reply ∧ CheckOverflows settings maps activeData.luns reply := by
  cases response with
  | error e => simp [checkConfig]
  | ok reply =>
      have product : mulWord settings.overflow settings.maxFailures settings.pollInterval = none ↔
          settings.overflow = .panics ∧
            maxWord < settings.maxFailures.toNat * settings.pollInterval.toNat :=
        exact_word_eq_none
      simp only [Except.ok.injEq, exists_eq_left']
      rw [checkConfig, checkConfigResponse]
      cases computed : mulWord settings.overflow settings.maxFailures settings.pollInterval with
      | none =>
          have beyond := product.mp computed
          exact iff_of_true rfl ⟨beyond.1, Or.inl beyond.2⟩
      | some fencingTimeSec =>
          have fits : ¬(settings.overflow = .panics ∧
              maxWord < settings.maxFailures.toNat * settings.pollInterval.toNat) := by
            rw [← product, computed]
            exact Option.some_ne_none _
          have exact_time (panics : settings.overflow = .panics) : fencingTimeSec.toNat =
              settings.maxFailures.toNat * settings.pollInterval.toNat := by
            rw [eq_of_exact_word computed]
            exact of_nat_to_nat (Nat.not_lt.mp fun beyond => fits ⟨panics, beyond⟩)
          have collected := collect_none_iff settings.overflow settings.regexNew
            (parseMultipathConfig reply) fencingTimeSec (configMonitoredMaps maps activeData.luns)
          have checked : checkMapsConfig settings.overflow settings.regexNew maps activeData.luns
              reply fencingTimeSec (state.tracker.clearIssue "config_query_error") = none ↔
                collectWarnings settings.overflow settings.regexNew (parseMultipathConfig reply)
                  fencingTimeSec (configMonitoredMaps maps activeData.luns) = none := by
            rw [checkMapsConfig]
            cases collectWarnings settings.overflow settings.regexNew (parseMultipathConfig reply)
                fencingTimeSec (configMonitoredMaps maps activeData.luns) with
            | none => simp
            | some warnings =>
                simp only [Option.bind_eq_bind, Option.bind_some]
                split_ifs <;> simp
          simp only [Option.bind_eq_bind, Option.bind_some]
          rw [checked, collected, CheckOverflows, and_or_left, or_iff_right fits]
          apply and_congr_right
          intro panics
          rw [exact_time panics]

end Check

section Runs

variable {settings : Settings} {state next : State}

/-- The events that make the monitoring loop panic. -/
def Panics (settings : Settings) (state : State) : Event → Prop
  | .checkStale => maxWord < settings.discoveryInterval.toNat * 2
  | .queryConfig (.ok reply) => settings.overflow = .panics ∧ ∃ activeData maps,
      state.monitor = .parsed activeData maps ∧
        CheckOverflows settings maps activeData.luns reply
  | _ => False

theorem check_stale_crashed_iff (activeData : ActiveLunsWithTimestamp) :
    (checkStale settings state activeData).monitor = .crashed ↔
      maxWord < settings.discoveryInterval.toNat * 2 := by
  rw [checkStale, ActiveLunsWithTimestamp.isStale]
  by_cases fits : settings.discoveryInterval.toNat * 2 ≤ maxWord
  · rw [if_pos fits]
    apply iff_of_false
    · by_cases old : settings.discoveryInterval.toNat * 2 * secondNanos <
          state.now - activeData.discoveredAt
      · simp [old]
      · simp [old]
    · exact Nat.not_lt.mpr fits
  · rw [if_neg fits]
    exact iff_of_true rfl (Nat.not_le.mp fits)

theorem query_maps_not_crashed (activeData : ActiveLunsWithTimestamp)
    (response : Except String String) :
    (queryMaps settings state activeData response).monitor ≠ .crashed := by
  rcases query_maps_monitor settings state activeData response with waiting | ⟨maps, parsed⟩
  · simp [waiting]
  · simp [parsed]

theorem evaluate_crashed_iff (activeData : ActiveLunsWithTimestamp) (maps : List MultipathMap)
    (response : Except String String) :
    (evaluate settings state activeData maps response).monitor = .crashed ↔
      settings.overflow = .panics ∧ ∃ reply, response = .ok reply ∧
        CheckOverflows settings maps activeData.luns reply := by
  rw [← check_config_none_iff settings state, evaluate]
  cases checkConfig settings state activeData maps response with
  | none => exact iff_of_true rfl rfl
  | some tracker => simp

theorem crashed_step {event : Event} (stepped : step settings state event = some next) :
    next.monitor = .crashed ↔ state.monitor = .crashed ∨ Panics settings state event := by
  cases event with
  | elapse nanos =>
      obtain rfl := Option.some.inj stepped
      simp [Panics]
  | discovery outcome =>
      rw [← (discovery_step stepped).2, (finish_discovery_frame settings state outcome).2.1]
      simp [Panics]
  | readLuns =>
      cases place : state.monitor <;> simp only [step, place] at stepped
      all_goals cases stepped
      simp [Panics]
  | checkStale =>
      cases place : state.monitor <;> simp only [step, place] at stepped
      all_goals cases stepped
      rw [check_stale_crashed_iff]
      simp [Panics]
  | queryMaps response =>
      cases place : state.monitor <;> simp only [step, place] at stepped
      all_goals cases stepped
      simp [query_maps_not_crashed, Panics]
  | queryConfig response =>
      cases place : state.monitor <;> simp only [step, place] at stepped
      all_goals cases stepped
      rw [evaluate_crashed_iff]
      cases response <;> simp [Panics, place]

variable {tracker : StatusTracker} {events : List Event}

theorem monitor_crashed_iff (ran : runFrom settings tracker events = some state) :
    state.monitor = .crashed ↔
      Occurred (step settings) (Panics settings) (startWith settings tracker) events :=
  flag_iff_occurred (by simp [startWith, initial]) (fun _ _ _ stepped => crashed_step stepped) ran

/-- The discovery thread counts its failures past the point where the count or
the power of two no longer fits. -/
def TooManyFailures (settings : Settings) (failures : ℕ) : Prop :=
  settings.overflow = .panics ∧ (maxWord < failures ∨ (0 < settings.discoveryMaxRetries ∧
    settings.discoveryMaxRetries.toNat + 64 ≤ failures))

/-- A thread that has ended had been backing off, or lost count. -/
def EndedBackingOff (settings : Settings) (failures : ℕ) (state : State) : Prop :=
  state.discoveryAlive = false → maxWord < failures ∨ 0 < settings.discoveryMaxRetries

theorem after_failure_ended {failures : ℕ} (counts : Counts settings failures state)
    (alive : state.discoveryAlive = true) (message : String) :
    EndedBackingOff settings (failures + 1) (afterFailure settings state message) := by
  unfold afterFailure
  cases added : addWord settings.overflow state.discoveryFailures 1 with
  | none =>
      intro _
      obtain ⟨panics, beyond⟩ := exact_word_eq_none.mp added
      rw [counts.counter alive, of_nat_to_nat (counts.fits alive panics).1] at beyond
      exact Or.inl beyond
  | some counter =>
      have lives (dead : state.discoveryAlive = false) :
          maxWord < failures + 1 ∨ 0 < settings.discoveryMaxRetries := by
        rw [alive] at dead
        cases dead
      dsimp only
      split_ifs with retried
      · cases backoffSeconds settings counter with
        | none => exact fun _ => Or.inr retried.2.1
        | some seconds => exact lives
      · exact lives

theorem ended_step {events : List Event} {event : Event}
    (counts : Counts settings (failuresSince events) state)
    (ended : EndedBackingOff settings (failuresSince events) state)
    (stepped : step settings state event = some next) :
    EndedBackingOff settings (failuresSince (events ++ [event])) next := by
  rw [failures_since_snoc]
  cases event with
  | discovery outcome =>
      obtain ⟨alive, rfl⟩ := discovery_step stepped
      cases outcome with
      | found mpaths =>
          intro dead
          rw [show (finishDiscovery settings state (.found mpaths)).discoveryAlive = _ from alive]
            at dead
          cases dead
      | failed error => exact after_failure_ended counts alive _
      | panicked message => exact after_failure_ended counts alive _
      | cancelled => exact after_failure_ended counts alive _
  | _ =>
      intro dead
      rw [(discovery_frame stepped (by simp)).2] at dead
      exact ended dead

theorem discovery_ended_iff (ran : runFrom settings tracker events = some state) :
    state.discoveryAlive = false ↔ TooManyFailures settings (failuresSince events) := by
  have start : EndedBackingOff settings 0 (startWith settings tracker) := by
    intro dead
    cases dead
  have held : Counts settings (failuresSince events) state ∧
      EndedBackingOff settings (failuresSince events) state := by
    apply events_invariant (fun events state => Counts settings (failuresSince events) state ∧
      EndedBackingOff settings (failuresSince events) state) ⟨counts_start, start⟩ _ ran
    intro events event before next both stepped
    exact ⟨counts_step both.1 stepped, ended_step both.1 both.2 stepped⟩
  obtain ⟨counts, ended⟩ := held
  constructor
  · intro dead
    obtain ⟨panics, beyond⟩ := counts.ended dead
    refine ⟨panics, ?_⟩
    cases ended dead with
    | inl lost => exact Or.inl lost
    | inr positive => exact beyond.imp_right fun many => ⟨positive, many⟩
  · intro many
    obtain ⟨panics, beyond⟩ := many
    by_contra lives
    have fits := counts.fits (Bool.eq_true_of_not_eq_false lives) panics
    cases beyond with
    | inl lost => omega
    | inr reached =>
        have below := fits.2 reached.1
        omega

/-- Every end of a loop in exact integers, over every run: the monitoring loop
has panicked exactly if a staleness check doubled an interval too long for it
or a checked build met a quantity of the configuration check that does not fit;
the discovery thread exactly if a checked build has counted too many failures. -/
theorem loops_panic_iff (ran : runFrom settings tracker events = some state) :
    (state.monitor = .crashed ↔
      Occurred (step settings) (Panics settings) (startWith settings tracker) events) ∧
    (state.discoveryAlive = false ↔ TooManyFailures settings (failuresSince events)) :=
  ⟨monitor_crashed_iff ran, discovery_ended_iff ran⟩

theorem loops_panic_iff_interval :
    ∃ state, runFrom { oneShot with discoveryInterval := 9223372036854775808 } StatusTracker.new
        [.readLuns, .checkStale] = some state ∧
      Occurred (step { oneShot with discoveryInterval := 9223372036854775808 })
        (Panics { oneShot with discoveryInterval := 9223372036854775808 })
        (startWith { oneShot with discoveryInterval := 9223372036854775808 } StatusTracker.new)
        [.readLuns, .checkStale] :=
  ⟨_, rfl, (loops_panic_iff rfl).1.mp rfl⟩

theorem release_build_lives (release : settings.overflow = .wraps)
    (fits : settings.discoveryInterval.toNat * 2 ≤ maxWord)
    (ran : runFrom settings tracker events = some state) :
    state.monitor ≠ .crashed ∧ state.discoveryAlive = true := by
  have checked : settings.overflow ≠ .panics := by simp [release]
  constructor
  · rw [ne_eq, monitor_crashed_iff ran]
    intro occurred
    obtain ⟨before, event, after, middle, -, -, panics⟩ := occurred
    cases event with
    | checkStale => exact absurd fits (Nat.not_le.mpr panics)
    | queryConfig response =>
        cases response with
        | error e => exact panics
        | ok reply => exact checked panics.1
    | _ => exact panics
  · rw [← Bool.not_eq_false, discovery_ended_iff ran]
    exact fun many => checked many.1

end Runs

end PveSanFenced.DaemonPanics
