import Mathlib.Algebra.Order.Ring.Nat
import Mathlib.Data.List.Induction
import Mathlib.Order.Lattice
import Mathlib.Tactic.Tauto

/-!
# Runs of a deterministic machine and their past

A machine reads one input per step, changes its state and answers. A finite
run of any length is a prefix of an input stream, so every statement below is
indexed by the number of steps done and speaks of all finite runs at once.
`Since` and `streak` are the two past-time notions a machine can keep in its
state with one bit, respectively one counter. A machine that may refuse an
event is a partial step, and its runs are lists of events.
-/

namespace PveSanFenced.Library.Runs

set_option autoImplicit false

structure Machine (State Input Output : Type*) where
  step : State → Input → State × Output

namespace Machine

variable {State Input Output : Type*} (machine : Machine State Input Output)

def stateAt (start : State) (inputs : ℕ → Input) : ℕ → State
  | 0 => start
  | count + 1 => (machine.step (stateAt start inputs count) (inputs count)).1

def outputAt (start : State) (inputs : ℕ → Input) (index : ℕ) : Output :=
  (machine.step (machine.stateAt start inputs index) (inputs index)).2

@[simp] theorem state_at_zero (start : State) (inputs : ℕ → Input) :
    machine.stateAt start inputs 0 = start := rfl

theorem state_at_succ (start : State) (inputs : ℕ → Input) (count : ℕ) :
    machine.stateAt start inputs (count + 1) =
      (machine.step (machine.stateAt start inputs count) (inputs count)).1 := rfl

theorem state_at_congr {start : State} {inputs inputs' : ℕ → Input} {count : ℕ}
    (same : ∀ index, index < count → inputs index = inputs' index) :
    machine.stateAt start inputs count = machine.stateAt start inputs' count := by
  induction count with
  | zero => rfl
  | succ count ih =>
      rw [state_at_succ, state_at_succ, ih fun index before => same index (by omega),
        same count (by omega)]

theorem run_invariant (Inv : ℕ → State → Prop) {start : State} {inputs : ℕ → Input}
    (initial : Inv 0 start)
    (preserved : ∀ count state, Inv count state →
      Inv (count + 1) (machine.step state (inputs count)).1) (count : ℕ) :
    Inv count (machine.stateAt start inputs count) := by
  induction count with
  | zero => exact initial
  | succ count ih => exact preserved count _ ih

end Machine

section Events

variable {State Event : Type*} {step : State → Event → Option State}

theorem run_snoc {start state : State} {events : List Event} {event : Event}
    (ran : (events ++ [event]).foldlM step start = some state) :
    ∃ middle, events.foldlM step start = some middle ∧ step middle event = some state := by
  rw [List.foldlM_append, Option.bind_eq_bind, Option.bind_eq_some_iff] at ran
  obtain ⟨middle, earlier, last⟩ := ran
  exact ⟨middle, earlier, by simpa using last⟩

/-- The invariant may speak of the events so far. -/
theorem events_invariant (Inv : List Event → State → Prop) {start : State} (initial : Inv [] start)
    (preserved : ∀ events event state next, Inv events state → step state event = some next →
      Inv (events ++ [event]) next)
    {events : List Event} {state : State} (ran : events.foldlM step start = some state) :
    Inv events state := by
  induction events using List.reverseRecOn generalizing state with
  | nil =>
      cases ran
      exact initial
  | append_singleton events event ih =>
      obtain ⟨middle, earlier, last⟩ := run_snoc ran
      exact preserved events event middle state (ih earlier) last

end Events

section Since

variable {Kept Began : ℕ → Prop}

/-- `Began` held at some step before `count` and `Kept` has held from that
step on. Both are read at step numbers below `count`. -/
def Since (Kept Began : ℕ → Prop) (count : ℕ) : Prop :=
  ∃ start, start < count ∧ Began start ∧ ∀ step, start ≤ step → step < count → Kept step

@[simp] theorem since_zero : ¬Since Kept Began 0 := by
  rintro ⟨start, before, -⟩
  exact Nat.not_lt_zero _ before

/-- The one-bit recurrence: this is how a state that forgets the past can
still decide a statement about all of it. -/
theorem since_succ (count : ℕ) :
    Since Kept Began (count + 1) ↔ Kept count ∧ (Began count ∨ Since Kept Began count) := by
  constructor
  · rintro ⟨start, before, began, kept⟩
    refine ⟨kept count (by omega) (by omega), ?_⟩
    rcases Nat.lt_succ_iff_lt_or_eq.mp before with earlier | rfl
    · exact Or.inr ⟨start, earlier, began, fun step lower upper => kept step lower (by omega)⟩
    · exact Or.inl began
  · rintro ⟨now, began | ⟨start, before, began, kept⟩⟩
    · refine ⟨count, by omega, began, fun step lower upper => ?_⟩
      obtain rfl : step = count := by omega
      exact now
    · refine ⟨start, by omega, began, fun step lower upper => ?_⟩
      rcases Nat.lt_succ_iff_lt_or_eq.mp upper with earlier | rfl
      · exact kept step lower earlier
      · exact now

theorem since_mono {Kept' Began' : ℕ → Prop} {count : ℕ}
    (kept : ∀ step, step < count → Kept step → Kept' step)
    (began : ∀ step, step < count → Began step → Began' step)
    (holds : Since Kept Began count) : Since Kept' Began' count := by
  obtain ⟨start, before, atStart, later⟩ := holds
  exact ⟨start, before, began start before atStart, fun step lower upper =>
    kept step upper (later step lower upper)⟩

theorem since_persists {first last : ℕ} (holds : Since Kept Began first)
    (kept : ∀ step, first ≤ step → step < last → Kept step) (ordered : first ≤ last) :
    Since Kept Began last := by
  obtain ⟨start, before, began, earlier⟩ := holds
  refine ⟨start, by omega, began, fun step lower upper => ?_⟩
  rcases Nat.lt_or_ge step first with inside | outside
  · exact earlier step lower inside
  · exact kept step outside upper

end Since

section Streak

variable (Fails : ℕ → Prop) [DecidablePred Fails]

/-- The number of steps, counted back from `count`, on which `Fails` held
without interruption. -/
def streak : ℕ → ℕ
  | 0 => 0
  | count + 1 => if Fails count then streak count + 1 else 0

theorem streak_mono {Fails' : ℕ → Prop} [DecidablePred Fails'] {count : ℕ}
    (weaker : ∀ step, step < count → Fails step → Fails' step) :
    streak Fails count ≤ streak Fails' count := by
  induction count with
  | zero => exact Nat.le_refl 0
  | succ count ih =>
      have shorter := ih fun step before => weaker step (by omega)
      simp only [streak]
      by_cases failed : Fails count
      · rw [if_pos failed, if_pos (weaker count (by omega) failed)]
        omega
      · rw [if_neg failed]
        exact Nat.zero_le _

theorem le_streak_iff (count length : ℕ) :
    length ≤ streak Fails count ↔
      length ≤ count ∧ ∀ step, step < count → count ≤ step + length → Fails step := by
  induction count generalizing length with
  | zero =>
      simp only [streak, Nat.not_lt_zero, false_implies, implies_true, and_true]
  | succ count ih =>
      simp only [streak]
      by_cases failed : Fails count
      · rw [if_pos failed]
        rcases length with _ | length
        · simp only [Nat.zero_le, true_and, true_iff]
          intro step upper lower
          omega
        · rw [Nat.add_le_add_iff_right, Nat.add_le_add_iff_right, ih length]
          refine and_congr_right fun fits => ⟨fun earlier step upper lower => ?_,
            fun all step upper lower => all step (by omega) (by omega)⟩
          rcases Nat.lt_succ_iff_lt_or_eq.mp upper with inside | rfl
          · exact earlier step inside (by omega)
          · exact failed
      · rw [if_neg failed]
        constructor
        · intro none
          obtain rfl : length = 0 := by omega
          exact ⟨Nat.zero_le _, fun step upper lower => by omega⟩
        · rintro ⟨-, all⟩
          by_contra positive
          exact failed (all count (by omega) (by omega))

theorem capped_counter_eq_streak (cap : ℕ) (counter : ℕ → ℕ) (initial : counter 0 = 0)
    (next : ∀ count, counter (count + 1) =
      if Fails count then min (counter count + 1) cap else 0) (count : ℕ) :
    counter count = min (streak Fails count) cap := by
  induction count with
  | zero => simp [initial, streak]
  | succ count ih =>
      rw [next, streak, ih]
      split_ifs <;> omega

end Streak

end PveSanFenced.Library.Runs
