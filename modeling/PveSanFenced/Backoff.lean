import PveSanFenced.DaemonSafety

/-!
# The backoff of the discovery thread

The documented delay doubles with every failure beyond the retries, up to a
bound. The code computes it in words: the counter has 64 bits, the exponent is
cut to 32 bits, and the power of two is a bare operation, so what comes out
beyond 63 doublings depends on the build.
-/

namespace PveSanFenced.Backoff

open PveSanFenced.Daemon
open PveSanFenced.DaemonSafety
open PveSanFenced.Library.Fixed
open PveSanFenced.Library.Runs

set_option autoImplicit false

section Model

variable (settings : Settings)

def discoveryDelay (consecutiveFailures : UInt64) : Option UInt64 :=
  if 0 < consecutiveFailures ∧ 0 < settings.discoveryMaxRetries then
    if settings.discoveryMaxRetries ≤ consecutiveFailures then
      backoffSeconds settings consecutiveFailures
    else some settings.discoveryInterval
  else some settings.discoveryInterval

/-- What the thread sleeps after its last round, unless that round ended it. -/
def slept (state : State) : Option UInt64 :=
  if state.discoveryAlive then discoveryDelay settings state.discoveryFailures else none

/-- The failed and panicked attempts since the last success, counted exactly. -/
def failuresSince (events : List Event) : ℕ :=
  events.foldl (fun failures event =>
    match event with
    | .discovery (.found _) => 0
    | .discovery _ => failures + 1
    | _ => failures) 0

/-- The formula of the manual. -/
def documentedDelay (failures : ℕ) : ℕ :=
  min (settings.discoveryBackoffBase.toNat *
    2 ^ (failures - settings.discoveryMaxRetries.toNat)) settings.discoveryBackoffMax.toNat

/-- Fewer than 64 doublings are computed exactly. Beyond them a build that
wraps still gets the bound right where the remaining exponent reaches it. The
last case is a counter that has wrapped below the retries. -/
def DelayExact (failures : ℕ) : Prop :=
  let exponent := failures - settings.discoveryMaxRetries.toNat
  if settings.discoveryMaxRetries.toNat ≤ failures % 2 ^ 64 then
    exponent < 64 ∨ (settings.overflow = .wraps ∧
      (settings.discoveryBackoffBase = 0 ∨ settings.discoveryBackoffMax = 0 ∨
        (exponent % 2 ^ 32 < 64 ∧ settings.discoveryBackoffMax.toNat ≤
          settings.discoveryBackoffBase.toNat * 2 ^ (exponent % 2 ^ 32))))
  else settings.overflow = .wraps ∧
    settings.discoveryInterval.toNat = documentedDelay settings failures

end Model

section Words

theorem power_to_nat (exponent : ℕ) : (UInt64.ofNat (2 ^ exponent)).toNat =
    if exponent < 64 then 2 ^ exponent else 0 := by
  rw [UInt64.toNat_ofNat']
  split_ifs with small
  · exact Nat.mod_eq_of_lt (Nat.pow_lt_pow_right (by decide) small)
  · exact Nat.mod_eq_zero_of_dvd (Nat.pow_dvd_pow 2 (by omega))

theorem power_fits_iff (exponent : ℕ) : 2 ^ exponent ≤ maxWord ↔ exponent < 64 := by
  have strict : 2 ^ exponent ≤ maxWord ↔ 2 ^ exponent < 2 ^ 64 := by
    simp only [maxWord]
    omega
  rw [strict]
  exact Nat.pow_lt_pow_iff_right (by decide)

theorem min_doubled {base exponent : ℕ} (bound : UInt64) (positive : 0 < base)
    (large : 64 ≤ exponent) : min (base * 2 ^ exponent) bound.toNat = bound.toNat := by
  apply Nat.min_eq_right
  calc bound.toNat ≤ 2 ^ 64 := bound.toNat_lt.le
    _ ≤ 2 ^ exponent := Nat.pow_le_pow_right (by decide) large
    _ ≤ base * 2 ^ exponent := Nat.le_mul_of_pos_left _ positive

theorem truncated_delay_iff (base bound : UInt64) {exponent : ℕ} (large : 64 ≤ exponent)
    (rest : ℕ) :
    min (base.toNat * (UInt64.ofNat (2 ^ rest)).toNat) bound.toNat =
        min (base.toNat * 2 ^ exponent) bound.toNat ↔
      base = 0 ∨ bound = 0 ∨ (rest < 64 ∧ bound.toNat ≤ base.toNat * 2 ^ rest) := by
  have zero : ∀ word : UInt64, word = 0 ↔ word.toNat = 0 := fun word => UInt64.toNat_inj.symm
  rw [zero base, zero bound, power_to_nat]
  by_cases noBase : base.toNat = 0
  · simp [noBase]
  · rw [min_doubled bound (Nat.pos_of_ne_zero noBase) large]
    split_ifs with small
    · rw [min_eq_right_iff]
      simp only [noBase, small, true_and, false_or]
      omega
    · simp only [noBase, small, Nat.mul_zero, Nat.zero_min, false_and, false_or, or_false]
      exact eq_comm

end Words

section Counter

structure Counts (settings : Settings) (failures : ℕ) (state : State) : Prop where
  counter : state.discoveryAlive = true → state.discoveryFailures = UInt64.ofNat failures
  fits : state.discoveryAlive = true → settings.overflow = .panics → failures ≤ maxWord ∧
    (0 < settings.discoveryMaxRetries → failures < settings.discoveryMaxRetries.toNat + 64)
  ended : state.discoveryAlive = false → settings.overflow = .panics ∧ (maxWord < failures ∨
    settings.discoveryMaxRetries.toNat + 64 ≤ failures)

variable {settings : Settings} {failures : ℕ} {state : State}

theorem backoff_seconds_eq (counter : UInt64) :
    backoffSeconds settings counter =
      (exactWord settings.overflow
        (2 ^ ((counter.toNat - settings.discoveryMaxRetries.toNat) % 2 ^ 32))).map fun power =>
          min (saturatingMul settings.discoveryBackoffBase power) settings.discoveryBackoffMax := by
  rw [backoffSeconds, ← saturating_sub_to_nat]
  cases exactWord settings.overflow
    (2 ^ ((saturatingSub counter settings.discoveryMaxRetries).toNat % 2 ^ 32)) with
  | none => rfl
  | some power => rfl

theorem backoff_seconds_eq_none {counter : UInt64} :
    backoffSeconds settings counter = none ↔ settings.overflow = .panics ∧
      64 ≤ (counter.toNat - settings.discoveryMaxRetries.toNat) % 2 ^ 32 := by
  rw [backoff_seconds_eq, Option.map_eq_none_iff, exact_word_eq_none, ← Nat.not_le,
    power_fits_iff, Nat.not_lt]

theorem counts_alive {next : State} (counter : next.discoveryFailures = UInt64.ofNat failures)
    (alive : next.discoveryAlive = true)
    (fits : settings.overflow = .panics → failures ≤ maxWord ∧
      (0 < settings.discoveryMaxRetries → failures < settings.discoveryMaxRetries.toNat + 64)) :
    Counts settings failures next := by
  constructor
  · exact fun _ => counter
  · exact fun _ => fits
  · intro dead
    rw [alive] at dead
    cases dead

theorem counts_ended {next : State} (dead : next.discoveryAlive = false)
    (panics : settings.overflow = .panics) (beyond : maxWord < failures ∨
      settings.discoveryMaxRetries.toNat + 64 ≤ failures) : Counts settings failures next := by
  constructor
  · intro alive
    rw [dead] at alive
    cases alive
  · intro alive
    rw [dead] at alive
    cases alive
  · exact fun _ => ⟨panics, beyond⟩

theorem counter_of_added (counts : Counts settings failures state)
    (alive : state.discoveryAlive = true) {counter : UInt64}
    (added : addWord settings.overflow state.discoveryFailures 1 = some counter) :
    counter = UInt64.ofNat (failures + 1) ∧ (settings.overflow = .panics →
      counter.toNat = failures + 1 ∧ failures + 1 ≤ maxWord) := by
  have same : counter = UInt64.ofNat (failures + 1) := by
    rw [eq_of_exact_word added, counts.counter alive]
    apply UInt64.toNat_inj.mp
    simp only [UInt64.toNat_ofNat', UInt64.toNat_one]
    omega
  refine ⟨same, fun panics => ?_⟩
  have small := of_nat_to_nat (counts.fits alive panics).1
  rw [addWord, counts.counter alive, small, panics, UInt64.toNat_one] at added
  have fits := (exact_word_panics_iff _).mp (Option.isSome_of_eq_some added)
  exact ⟨by rw [same, of_nat_to_nat fits], fits⟩

theorem after_failure_counts (counts : Counts settings failures state)
    (alive : state.discoveryAlive = true) (message : String) :
    Counts settings (failures + 1) (afterFailure settings state message) := by
  unfold afterFailure
  cases added : addWord settings.overflow state.discoveryFailures 1 with
  | none =>
      obtain ⟨panics, beyond⟩ := exact_word_eq_none.mp added
      rw [counts.counter alive, of_nat_to_nat (counts.fits alive panics).1] at beyond
      exact counts_ended rfl panics (Or.inl beyond)
  | some counter =>
      obtain ⟨same, within⟩ := counter_of_added counts alive added
      dsimp only
      split_ifs with retried
      · cases delay : backoffSeconds settings counter with
        | none =>
            obtain ⟨panics, large⟩ := backoff_seconds_eq_none.mp delay
            have bound := Nat.mod_le (counter.toNat - settings.discoveryMaxRetries.toNat) (2 ^ 32)
            rw [(within panics).1] at large bound
            exact counts_ended rfl panics (Or.inr (by omega))
        | some seconds =>
            apply counts_alive
            · exact same
            · exact alive
            · intro panics
              refine ⟨(within panics).2, fun positive => ?_⟩
              have before := (counts.fits alive panics).2 positive
              by_contra reached
              have none : backoffSeconds settings counter = none := by
                rw [backoff_seconds_eq_none, (within panics).1]
                exact ⟨panics, by omega⟩
              rw [none] at delay
              cases delay
      · apply counts_alive
        · exact same
        · exact alive
        · intro panics
          refine ⟨(within panics).2, fun positive => ?_⟩
          have counted := (within panics).1
          by_contra reached
          apply retried
          refine ⟨?_, positive, ?_⟩
          · rw [UInt64.lt_iff_toNat_lt, counted]
            exact Nat.succ_pos failures
          · rw [UInt64.le_iff_toNat_le, counted]
            omega

theorem counts_initial : Counts settings 0 (initial settings) where
  counter alive := rfl
  fits alive panics := ⟨Nat.zero_le _, fun _ => by omega⟩
  ended dead := by cases dead

theorem finish_discovery_counts (counts : Counts settings failures state)
    (alive : state.discoveryAlive = true) (outcome : Discovery) :
    Counts settings (match outcome with
      | .found _ => 0
      | _ => failures + 1) (finishDiscovery settings state outcome) := by
  cases outcome with
  | found mpaths =>
      apply counts_alive
      · rfl
      · exact alive
      · exact fun _ => ⟨Nat.zero_le _, fun _ => Nat.succ_pos _⟩
  | failed error => exact after_failure_counts counts alive _
  | panicked message => exact after_failure_counts counts alive _
  | cancelled => exact after_failure_counts counts alive _

theorem discovery_frame {event : Event} {next : State}
    (stepped : step settings state event = some next)
    (other : ∀ outcome, event ≠ .discovery outcome) :
    next.discoveryFailures = state.discoveryFailures ∧
      next.discoveryAlive = state.discoveryAlive := by
  rcases step_cases stepped with ⟨nanos, rfl, rfl⟩ | ⟨outcome, rfl, rfl⟩ | ⟨rfl, rfl⟩ |
    ⟨activeData, rfl, place, rfl⟩ | ⟨activeData, response, rfl, place, rfl⟩ |
    ⟨activeData, maps, response, rfl, place, rfl⟩
  · exact ⟨rfl, rfl⟩
  · exact absurd rfl (other outcome)
  · exact ⟨rfl, rfl⟩
  · unfold checkStale
    split <;> exact ⟨rfl, rfl⟩
  · cases response with
    | error e => exact ⟨rfl, rfl⟩
    | ok reply =>
        unfold queryMaps
        dsimp only
        split <;> exact ⟨rfl, rfl⟩
  · cases evaluate_cases settings state activeData maps response with
    | inl crashed =>
        rw [crashed]
        exact ⟨rfl, rfl⟩
    | inr done =>
        obtain ⟨tracker, evaluated⟩ := done
        rw [evaluated]
        exact ⟨rfl, rfl⟩

theorem counts_of_frame {next : State} (counts : Counts settings failures state)
    (same : next.discoveryFailures = state.discoveryFailures ∧
      next.discoveryAlive = state.discoveryAlive) : Counts settings failures next := by
  obtain ⟨counter, alive⟩ := same
  exact ⟨by rw [counter, alive]; exact counts.counter, by rw [alive]; exact counts.fits,
    by rw [alive]; exact counts.ended⟩

theorem failures_since_snoc (events : List Event) (event : Event) :
    failuresSince (events ++ [event]) = match event with
      | .discovery (.found _) => 0
      | .discovery _ => failuresSince events + 1
      | _ => failuresSince events := by
  rw [failuresSince, List.foldl_append]
  rfl

theorem counts_step {events : List Event} {event : Event} {next : State}
    (counts : Counts settings (failuresSince events) state)
    (stepped : step settings state event = some next) :
    Counts settings (failuresSince (events ++ [event])) next := by
  rw [failures_since_snoc]
  cases event with
  | discovery outcome =>
      rw [step, Option.ite_none_right_eq_some, Option.some.injEq] at stepped
      obtain ⟨alive, rfl⟩ := stepped
      have after := finish_discovery_counts counts alive outcome
      cases outcome <;> exact after
  | elapse nanos => exact counts_of_frame counts (discovery_frame stepped (by simp))
  | readLuns => exact counts_of_frame counts (discovery_frame stepped (by simp))
  | checkStale => exact counts_of_frame counts (discovery_frame stepped (by simp))
  | queryMaps response => exact counts_of_frame counts (discovery_frame stepped (by simp))
  | queryConfig response => exact counts_of_frame counts (discovery_frame stepped (by simp))

theorem counts_run {events : List Event} (ran : run settings events = some state) :
    Counts settings (failuresSince events) state := by
  apply events_invariant (fun events => Counts settings (failuresSince events)) counts_initial _ ran
  intro events event before next counts stepped
  exact counts_step counts stepped

end Counter

section Documented

variable {settings : Settings} {failures : ℕ} {state : State}

/-- The delay of the formula never shrinks, stays at the bound and is never
zero, if base and bound are not. -/
theorem documented_delay_grows (base : 0 < settings.discoveryBackoffBase.toNat)
    {later : ℕ} (ordered : failures ≤ later) :
    documentedDelay settings failures ≤ documentedDelay settings later ∧
      (documentedDelay settings failures = settings.discoveryBackoffMax.toNat →
        documentedDelay settings later = settings.discoveryBackoffMax.toNat) ∧
      (0 < settings.discoveryBackoffMax.toNat → 0 < documentedDelay settings failures) := by
  have doubled : settings.discoveryBackoffBase.toNat *
      2 ^ (failures - settings.discoveryMaxRetries.toNat) ≤
        settings.discoveryBackoffBase.toNat *
          2 ^ (later - settings.discoveryMaxRetries.toNat) :=
    Nat.mul_le_mul_left _ (Nat.pow_le_pow_right (by decide) (by omega))
  have positive : 0 < settings.discoveryBackoffBase.toNat *
      2 ^ (failures - settings.discoveryMaxRetries.toNat) :=
    Nat.mul_pos base (Nat.two_pow_pos _)
  unfold documentedDelay
  omega

theorem discovery_delay_eq (counter : UInt64) (retries : 0 < settings.discoveryMaxRetries) :
    discoveryDelay settings counter =
      if settings.discoveryMaxRetries.toNat ≤ counter.toNat then backoffSeconds settings counter
      else some settings.discoveryInterval := by
  unfold discoveryDelay
  by_cases reached : settings.discoveryMaxRetries ≤ counter
  · have positive : 0 < counter := UInt64.lt_of_lt_of_le retries reached
    rw [if_pos ⟨positive, retries⟩, if_pos reached, if_pos (UInt64.le_iff_toNat_le.mp reached)]
  · rw [if_neg reached, ite_self, if_neg (fun fits => reached (UInt64.le_iff_toNat_le.mpr fits))]

theorem backoff_seconds_exact_iff {counter : UInt64}
    (rest : (counter.toNat - settings.discoveryMaxRetries.toNat) % 2 ^ 32 =
      (failures - settings.discoveryMaxRetries.toNat) % 2 ^ 32)
    (small : settings.overflow = .panics → failures - settings.discoveryMaxRetries.toNat < 64) :
    (backoffSeconds settings counter).map UInt64.toNat = some (documentedDelay settings failures) ↔
      failures - settings.discoveryMaxRetries.toNat < 64 ∨ (settings.overflow = .wraps ∧
        (settings.discoveryBackoffBase = 0 ∨ settings.discoveryBackoffMax = 0 ∨
          ((failures - settings.discoveryMaxRetries.toNat) % 2 ^ 32 < 64 ∧
            settings.discoveryBackoffMax.toNat ≤ settings.discoveryBackoffBase.toNat *
              2 ^ ((failures - settings.discoveryMaxRetries.toNat) % 2 ^ 32)))) := by
  rw [backoff_seconds_eq, rest, documentedDelay]
  generalize failures - settings.discoveryMaxRetries.toNat = exponent at small ⊢
  cases computed : exactWord settings.overflow (2 ^ (exponent % 2 ^ 32)) with
  | none =>
      obtain ⟨panics, beyond⟩ := exact_word_eq_none.mp computed
      have large := mt (power_fits_iff _).mpr (Nat.not_le.mpr beyond)
      have few := small panics
      omega
  | some power =>
      rw [Option.map_some, Option.map_some, Option.some.injEq, min_saturating_mul,
        eq_of_exact_word computed]
      by_cases few : exponent < 64
      · have whole : exponent % 2 ^ 32 = exponent := by omega
        rw [whole, power_to_nat, if_pos few]
        exact iff_of_true rfl (Or.inl few)
      · have mode : settings.overflow = .wraps := by
          cases mode : settings.overflow with
          | panics => exact absurd (small mode) few
          | wraps => rfl
        rw [truncated_delay_iff _ _ (Nat.not_lt.mp few)]
        simp only [few, mode, true_and, false_or]

theorem alive_slept_iff (counts : Counts settings failures state)
    (alive : state.discoveryAlive = true) (retries : 0 < settings.discoveryMaxRetries)
    (many : settings.discoveryMaxRetries.toNat ≤ failures) :
    (discoveryDelay settings state.discoveryFailures).map UInt64.toNat =
        some (documentedDelay settings failures) ↔ DelayExact settings failures := by
  have counter : state.discoveryFailures.toNat = failures % 2 ^ 64 := by
    rw [counts.counter alive, UInt64.toNat_ofNat']
  rw [discovery_delay_eq _ retries, counter, DelayExact]
  split_ifs with reached
  · apply backoff_seconds_exact_iff
    · omega
    · intro panics
      have bound := (counts.fits alive panics).2 retries
      omega
  · have mode : settings.overflow = .wraps := by
      cases mode : settings.overflow with
      | wraps => rfl
      | panics =>
          have bound := (counts.fits alive mode).1
          simp only [maxWord] at bound
          omega
    simp only [Option.map_some, Option.some.injEq, mode, true_and]

theorem slept_iff (counts : Counts settings failures state)
    (retries : 0 < settings.discoveryMaxRetries)
    (many : settings.discoveryMaxRetries.toNat ≤ failures) :
    (slept settings state).map UInt64.toNat = some (documentedDelay settings failures) ↔
      DelayExact settings failures := by
  rw [slept]
  by_cases alive : state.discoveryAlive = true
  · rw [if_pos alive]
    exact alive_slept_iff counts alive retries many
  · rw [if_neg alive, Option.map_none]
    obtain ⟨panics, beyond⟩ := counts.ended (Bool.eq_false_iff.mpr alive)
    apply iff_of_false
    · intro impossible
      cases impossible
    · intro exact
      unfold DelayExact at exact
      dsimp only at exact
      rw [panics] at exact
      split_ifs at exact with reached
      · cases exact with
        | inl few =>
            simp only [maxWord] at beyond
            omega
        | inr wraps => cases wraps.1
      · cases exact.1

/-- The sleep after every run in which at least as many attempts in a row have
failed as there are retries is the documented one exactly under this condition
on the settings and the number of failures; where it is, it behaves as the
formula does. -/
theorem documented_backoff_iff (settings : Settings)
    (retries : 0 < settings.discoveryMaxRetries) :
    (∀ events state, run settings events = some state →
      settings.discoveryMaxRetries.toNat ≤ failuresSince events →
        ((slept settings state).map UInt64.toNat =
            some (documentedDelay settings (failuresSince events)) ↔
          DelayExact settings (failuresSince events))) ∧
    (0 < settings.discoveryBackoffBase.toNat → ∀ failures later, failures ≤ later →
      documentedDelay settings failures ≤ documentedDelay settings later ∧
        (documentedDelay settings failures = settings.discoveryBackoffMax.toNat →
          documentedDelay settings later = settings.discoveryBackoffMax.toNat) ∧
        (0 < settings.discoveryBackoffMax.toNat → 0 < documentedDelay settings failures)) := by
  constructor
  · intro events state ran many
    exact slept_iff (counts_run ran) retries many
  · intro base failures later ordered
    exact documented_delay_grows base ordered

end Documented

section Defaults

def defaults (overflow : Overflow) : Settings where
  pollInterval := 5
  discoveryInterval := 60
  maxFailures := 6
  targetWwids := ∅
  discoveryMaxRetries := 5
  discoveryBackoffBase := 1
  discoveryBackoffMax := 30
  overflow := overflow
  fromStr := fun _ => none
  maxResponseSize := none
  regexNew := fun _ => none

def failing (count : ℕ) : List Event := List.replicate count (.discovery (.failed "timeout"))

theorem documented_backoff_iff_doubling : ∃ state,
    run (defaults .panics) (failing 7) = some state ∧
      (slept (defaults .panics) state).map UInt64.toNat = some 4 := by
  refine ⟨_, rfl, ?_⟩
  apply ((documented_backoff_iff (defaults .panics) (by decide)).1 (failing 7) _ rfl
    (by decide)).mpr
  exact Or.inl (by decide)

/-- With the 64th doubling the sleep drops to nothing, or the thread ends. -/
theorem backoff_collapses :
    (∃ state, run (defaults .wraps) (failing 69) = some state ∧
      slept (defaults .wraps) state = some 0) ∧
    (∃ state, run (defaults .panics) (failing 69) = some state ∧
      slept (defaults .panics) state = none) ∧
    ∀ overflow, documentedDelay (defaults overflow) (failuresSince (failing 69)) = 30 := by
  refine ⟨⟨_, rfl, by decide +kernel⟩, ⟨_, rfl, by decide +kernel⟩, ?_⟩
  intro overflow
  cases overflow <;> decide +kernel

end Defaults

end PveSanFenced.Backoff
