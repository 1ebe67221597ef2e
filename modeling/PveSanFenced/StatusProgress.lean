import PveSanFenced.StatusWriter
import PveSanFenced.Library.Settling
import Mathlib.Data.Fintype.Basic

/-!
# The status file comes to rest

Callers wait for each other at the mutex and for the writer thread at its
`join`, and a `join` happens while the mutex and a read guard are held. None
of this can block for good: in every reachable state someone who has work left
can do it, and what is left is bounded. When the work is done the file shows
the latest map.
-/

namespace PveSanFenced.StatusProgress

open PveSanFenced.Library.Settling
open PveSanFenced.Status
open PveSanFenced.StatusFile
open PveSanFenced.StatusWriter

set_option autoImplicit false

section Model

variable {Caller : Type*} [DecidableEq Caller]

/-- The steps of calls that are under way and of the threads they spawned: all
steps but the beginning of a call or of a flush. -/
inductive Works (path : Option String) : State Caller → State Caller → Prop
  | noPath {state : State Caller} {caller : Caller} (unset : path = none)
      (pending : state.place caller = .pending) : Works path state (state.move caller .idle)
  | read {state : State Caller} {caller : Caller} {issues : List Issue}
      (set : path.isSome = true) (pending : state.place caller = .pending)
      (iterates : Iterates issues state.tracker) :
      Works path state (state.move caller (.snapshot (aggregate issues)))
  | lock {state : State Caller} {caller : Caller} {status : StatusLevel × String}
      (read : state.place caller = .snapshot status)
      (free : ∀ other, (state.place other).locked = false) :
      Works path state { state.move caller (.handing status state.lastWriteThread) with
        lastWriteThread := none }
  | handOver {state : State Caller} {caller : Caller} {status : StatusLevel × String}
      {previous : Option ℕ} (handing : state.place caller = .handing status previous)
      (joined : state.Joined previous) : Works path state (state.afterHandOver caller status)
  | number {state : State Caller} {id : ℕ} {status : StatusLevel × String}
      (spawned : state.writer id = .spawned status) :
      Works path state { state.advance id (.numbered status state.counter) with
        counter := state.counter + 1 }
  | write {state : State Caller} {id : ℕ} {status : StatusLevel × String} {temp : UInt64}
      (numbered : state.writer id = .numbered status temp) :
      Works path state { state.advance id (.written temp) with
        tempFile := Function.update state.tempFile temp (some (fileLine status)) }
  | rename {state : State Caller} {id : ℕ} {temp : UInt64} {text : String}
      (written : state.writer id = .written temp) (found : state.tempFile temp = some text) :
      Works path state (state.afterRename id temp text)
  | flushReturns {state state' : State Caller} {caller : Caller}
      (returns : FlushReturns state caller state') : Works path state state'

variable {path : Option String} {state state' : State Caller}

theorem step_of_works (works : Works path state state') : Step path state state' := by
  cases works with
  | noPath unset pending => exact Step.noPath unset pending
  | read set pending iterates => exact Step.read set pending iterates
  | lock read free => exact Step.lock read free
  | handOver handing joined => exact Step.handOver handing joined
  | number spawned => exact Step.number spawned
  | write numbered => exact Step.write numbered
  | rename written found => exact Step.rename written found
  | flushReturns returns => exact Step.flushReturns returns

/-- No call is under way and no writer runs. -/
def Settled (state : State Caller) : Prop :=
  (∀ caller, state.place caller = .idle) ∧ ∀ id, (state.writer id).runs = false

def placeWeight : Place → ℕ
  | .idle => 0
  | .flushing _ => 1
  | .handing _ _ => 4
  | .snapshot _ => 5
  | .pending => 6

def writerWeight : Writer → ℕ
  | .spawned _ => 3
  | .numbered _ _ => 2
  | .written _ => 1
  | .absent => 0
  | .done => 0

def workLeft [Fintype Caller] (state : State Caller) : ℕ :=
  (∑ caller, placeWeight (state.place caller)) +
    ∑ id ∈ Finset.range state.spawned, writerWeight (state.writer id)

end Model

section Bounded

variable {Caller : Type*} [DecidableEq Caller] [Fintype Caller] {path : Option String}
  {state state' : State Caller}

theorem place_weight_move {caller : Caller} {next : Place}
    (lighter : placeWeight next < placeWeight (state.place caller)) :
    (∑ other, placeWeight (Function.update state.place caller next other)) <
      ∑ other, placeWeight (state.place other) := by
  have change := sum_update placeWeight (Finset.mem_univ caller) state.place next
  omega

omit [DecidableEq Caller] [Fintype Caller] in
theorem writer_weight_advance
    (locks : Locks state.place state.lastWriteThread state.writer state.spawned) {id : ℕ}
    {next : Writer} (lighter : writerWeight next < writerWeight (state.writer id)) :
    (∑ other ∈ Finset.range state.spawned,
        writerWeight (Function.update state.writer id next other)) <
      ∑ other ∈ Finset.range state.spawned, writerWeight (state.writer other) := by
  have inside : id ∈ Finset.range state.spawned := by
    rw [Finset.mem_range]
    by_contra beyond
    rw [locks.absent id (Nat.not_lt.mp beyond)] at lighter
    exact Nat.not_lt_zero _ lighter
  have change := sum_update writerWeight inside state.writer next
  omega

theorem work_left_lt
    (locks : Locks state.place state.lastWriteThread state.writer state.spawned)
    (works : Works path state state') : workLeft state' < workLeft state := by
  cases works with
  | @noPath caller unset pending =>
      exact Nat.add_lt_add_right (place_weight_move (by simp [placeWeight, pending])) _
  | @read caller issues set pending iterates =>
      exact Nat.add_lt_add_right (place_weight_move (by simp [placeWeight, pending])) _
  | @lock caller status read free =>
      exact Nat.add_lt_add_right (place_weight_move (by simp [placeWeight, read])) _
  | @handOver caller status previous handing joined =>
      have places := sum_update placeWeight (Finset.mem_univ caller) state.place .idle
      have others := sum_update_outside writerWeight (Finset.notMem_range_self
        (n := state.spawned)) state.writer (.spawned status)
      rw [handing] at places
      have range : ∑ id ∈ Finset.range (state.spawned + 1), writerWeight
          (Function.update state.writer state.spawned (.spawned status) id) =
            (∑ id ∈ Finset.range state.spawned, writerWeight (state.writer id)) + 3 := by
        rw [Finset.sum_range_succ, others, Function.update_self]
        rfl
      change (∑ other, placeWeight (Function.update state.place caller .idle other)) +
        ∑ id ∈ Finset.range (state.spawned + 1), writerWeight
          (Function.update state.writer state.spawned (.spawned status) id) < workLeft state
      have hand : placeWeight (.handing status previous) = 4 := rfl
      have none : placeWeight .idle = 0 := rfl
      rw [range]
      rw [hand, none] at places
      simp only [workLeft]
      omega
  | @number id status spawned =>
      exact Nat.add_lt_add_left (writer_weight_advance locks (by simp [writerWeight, spawned])) _
  | @write id status temp numbered =>
      exact Nat.add_lt_add_left (writer_weight_advance locks (by simp [writerWeight, numbered])) _
  | @rename id temp text written found =>
      exact Nat.add_lt_add_left (writer_weight_advance locks (by simp [writerWeight, written])) _
  | flushReturns returns =>
      obtain ⟨previous, flushing, joined, rfl⟩ := returns
      exact Nat.add_lt_add_right (place_weight_move (by simp [placeWeight, flushing])) _

theorem work_left_call {caller : Caller} (call : Call) (idle : state.place caller = .idle) :
    workLeft (state.afterCall caller call) ≤ workLeft state + 6 := by
  have due := sum_update placeWeight (Finset.mem_univ caller) state.place
    (if writes state.tracker call then .pending else .idle)
  have most : placeWeight (if writes state.tracker call then .pending else .idle) ≤ 6 := by
    split_ifs <;> decide
  have none : placeWeight .idle = 0 := rfl
  rw [idle] at due
  rw [workLeft, workLeft]
  change (∑ other, placeWeight (Function.update state.place caller
    (if writes state.tracker call then .pending else .idle) other)) +
      ∑ id ∈ Finset.range state.spawned, writerWeight (state.writer id) ≤ _
  omega

end Bounded

section Handles

variable {Caller : Type*} {path earlier : Option String} {state state' : State Caller}

/-- Every handle around is one of a thread that was spawned, and every thread
that was spawned has begun. -/
structure Handles (state : State Caller) : Prop where
  slot : ∀ id, state.lastWriteThread = some id → id < state.spawned
  hand : ∀ caller id, (state.place caller).previous = some id → id < state.spawned
  begun : ∀ id, id < state.spawned → state.writer id ≠ .absent

theorem handles_start : Handles (State.start earlier : State Caller) where
  slot id held := by cases held
  hand caller id held := by cases held
  begun id before := absurd before (Nat.not_lt_zero id)

variable [DecidableEq Caller]

theorem hand_move (handles : Handles state) {caller : Caller} {next : Place}
    (fresh : ∀ id, next.previous = some id → id < state.spawned) (other : Caller) (id : ℕ)
    (held : (Function.update state.place caller next other).previous = some id) :
    id < state.spawned := by
  by_cases here : other = caller
  · rw [here, Function.update_self] at held
    exact fresh id held
  · rw [Function.update_of_ne here] at held
    exact handles.hand other id held

theorem hand_leave (handles : Handles state) {caller : Caller} {next : Place}
    (free : next.previous = none) (other : Caller) (id : ℕ)
    (held : (Function.update state.place caller next other).previous = some id) :
    id < state.spawned := by
  refine hand_move handles (fun id held => ?_) other id held
  rw [free] at held
  cases held

omit [DecidableEq Caller] in
theorem begun_advance (handles : Handles state) {id : ℕ} {next : Writer} (some : next ≠ .absent)
    (other : ℕ) (before : other < state.spawned) :
    Function.update state.writer id next other ≠ .absent := by
  by_cases here : other = id
  · rw [here, Function.update_self]
    exact some
  · rw [Function.update_of_ne here]
    exact handles.begun other before

theorem handles_step (handles : Handles state) (step : Step path state state') :
    Handles state' := by
  cases step with
  | @call caller call idle unread =>
      refine ⟨handles.slot, hand_leave handles ?_, handles.begun⟩
      split <;> rfl
  | noPath unset pending => exact ⟨handles.slot, hand_leave handles rfl, handles.begun⟩
  | read set pending iterates => exact ⟨handles.slot, hand_leave handles rfl, handles.begun⟩
  | lock read free =>
      refine ⟨fun id held => ?_, hand_move handles handles.slot, handles.begun⟩
      cases held
  | @handOver caller status previous handing joined =>
      refine ⟨fun id held => ?_, fun other id held => ?_, fun id before => ?_⟩
      · rw [← Option.some.inj held]
        exact Nat.lt_succ_self _
      · exact Nat.lt_succ_of_lt (hand_leave handles rfl other id held)
      · change Function.update state.writer state.spawned (.spawned status) id ≠ .absent
        by_cases here : id = state.spawned
        · rw [here, Function.update_self]
          simp
        · rw [Function.update_of_ne here]
          exact handles.begun id (by
            have bound : id < state.spawned + 1 := before
            omega)
  | number spawned => exact ⟨handles.slot, handles.hand, begun_advance handles (by simp)⟩
  | write numbered => exact ⟨handles.slot, handles.hand, begun_advance handles (by simp)⟩
  | rename written found => exact ⟨handles.slot, handles.hand, begun_advance handles (by simp)⟩
  | flush idle free =>
      refine ⟨fun id held => ?_, hand_move handles handles.slot, handles.begun⟩
      cases held
  | flushReturns returns =>
      obtain ⟨previous, flushing, joined, rfl⟩ := returns
      exact ⟨handles.slot, hand_leave handles rfl, handles.begun⟩

theorem handles_of_reachable (reached : Reachable path earlier state) : Handles state := by
  induction reached with
  | refl => exact handles_start
  | tail before step ih => exact handles_step ih step

end Handles

section Progress

variable {Caller : Type*} [DecidableEq Caller] {path earlier : Option String}
  {state state' : State Caller}

theorem writer_goes_on (contents : ∃ versions, Contents earlier versions state) {id : ℕ}
    (runs : (state.writer id).runs = true) : ∃ next, Works path state next := by
  cases stands : state.writer id with
  | absent =>
      rw [stands] at runs
      cases runs
  | done =>
      rw [stands] at runs
      cases runs
  | spawned status => exact ⟨_, Works.number stands⟩
  | numbered status temp => exact ⟨_, Works.write stands⟩
  | written temp =>
      obtain ⟨versions, contents⟩ := contents
      obtain ⟨text, version, carries, -⟩ := contents.carried id runs
      rw [stands] at carries
      exact ⟨_, Works.rename stands carries⟩

omit [DecidableEq Caller] in
theorem joined_of_quiet (handles : Handles state) {previous : Option ℕ}
    (spawned : ∀ id, previous = some id → id < state.spawned)
    (quiet : ∀ id, (state.writer id).runs = false) : state.Joined previous := by
  intro id held
  have ended := quiet id
  have begun := handles.begun id (spawned id held)
  cases stands : state.writer id with
  | done => rfl
  | absent => exact absurd stands begun
  | _ =>
      rw [stands] at ended
      cases ended

/-- No deadlock: whoever has work left, someone can do some. -/
theorem works_of_unsettled (contents : ∃ versions, Contents earlier versions state)
    (handles : Handles state) (unsettled : ¬Settled state) : ∃ next, Works path state next := by
  by_cases quiet : ∀ id, (state.writer id).runs = false
  · by_cases held : ∃ caller, (state.place caller).locked = true
    · -- the holder of the mutex can join, since no writer runs
      obtain ⟨caller, locked⟩ := held
      have spawned := handles.hand caller
      cases stands : state.place caller with
      | handing status previous =>
          rw [stands] at spawned
          exact ⟨_, Works.handOver stands (joined_of_quiet handles spawned quiet)⟩
      | flushing previous =>
          rw [stands] at spawned
          exact ⟨_, Works.flushReturns
            ⟨previous, stands, joined_of_quiet handles spawned quiet, rfl⟩⟩
      | _ =>
          rw [stands] at locked
          cases locked
    · have free : ∀ caller, (state.place caller).locked = false := by
        intro caller
        rw [Bool.eq_false_iff]
        exact fun locked => held ⟨caller, locked⟩
      have busy : ∃ caller, state.place caller ≠ .idle := by
        by_contra none
        exact unsettled ⟨fun caller => by_contra fun some => none ⟨caller, some⟩, quiet⟩
      obtain ⟨caller, some⟩ := busy
      have unlocked := free caller
      cases stands : state.place caller with
      | idle => exact absurd stands some
      | pending =>
          cases path with
          | none => exact ⟨_, Works.noPath rfl stands⟩
          | some path =>
              obtain ⟨issues, iterates⟩ := exists_iteration state.tracker
              exact ⟨_, Works.read rfl stands iterates⟩
      | snapshot status => exact ⟨_, Works.lock stands free⟩
      | _ =>
          rw [stands] at unlocked
          cases unlocked
  · obtain ⟨id, runs⟩ := not_forall.mp quiet
    exact writer_goes_on contents (Bool.not_eq_false _ ▸ runs)

end Progress

section Rest

variable {Caller : Type*} [DecidableEq Caller] {path earlier : Option String}
  {state last : State Caller} {count : ℕ}

theorem tracker_of_works {state' : State Caller} (works : Works path state state') :
    state'.tracker = state.tracker := by
  cases works with
  | flushReturns returns =>
      obtain ⟨previous, flushing, joined, rfl⟩ := returns
      rfl
  | _ => rfl

theorem reachable_of_works (reached : Reachable path earlier state)
    (steps : Steps (Works path) count state last) : Reachable path earlier last :=
  steps_invariant (fun _ _ before works => before.tail (step_of_works works)) reached steps

theorem tracker_of_steps (steps : Steps (Works path) count state last) :
    last.tracker = state.tracker := by
  induction steps with
  | none state => rfl
  | next steps works ih => rw [tracker_of_works works, ih]

omit [DecidableEq Caller] in
theorem underway_settled (settled : Settled state) (underway : Underway state) :
    state.statusFile = some (mapContent state.tracker) ∨
      (state.spawned = 0 ∧ state.tracker = StatusTracker.new) := by
  obtain ⟨idle, quiet⟩ := settled
  cases underway with
  | inl some =>
      obtain ⟨caller, due⟩ := some
      rw [idle caller] at due
      cases due
  | inr latest =>
      rcases latest with ⟨id, carries⟩ | ⟨-, shown⟩ | initial
      · have runs := runs_of_carries carries
        rw [quiet id] at runs
        cases runs
      · exact Or.inl shown
      · exact Or.inr initial

/-- From every reachable state the calls under way come to rest, in whatever
order their threads run: no order is longer than the work left, none stops
before all have returned and all writers are done, and the file then shows the
map of the outset. -/
theorem calls_come_to_rest [Fintype Caller] (reached : Reachable path earlier state) :
    (∀ count last, Steps (Works path) count state last → count ≤ workLeft state) ∧
      (∃ count last, Steps (Works path) count state last ∧ Settled last) ∧
      ∀ count last, Steps (Works path) count state last → (∀ next, ¬Works path last next) →
        Settled last ∧ (path.isSome = true →
          last.statusFile = some (mapContent state.tracker) ∨
            (last.spawned = 0 ∧ state.tracker = StatusTracker.new)) := by
  have preserved : ∀ before after : State Caller, Reachable path earlier before →
      Works path before after → Reachable path earlier after :=
    fun _ _ before works => before.tail (step_of_works works)
  have lighter : ∀ before after : State Caller, Reachable path earlier before →
      Works path before after → workLeft after < workLeft before :=
    fun _ _ before works => work_left_lt (inv_of_reachable before).locks works
  have goesOn : ∀ before : State Caller, Reachable path earlier before → ¬Settled before →
      ∃ after, Works path before after :=
    fun _ before =>
      works_of_unsettled (inv_of_reachable before).contents (handles_of_reachable before)
  refine ⟨fun count last steps => ?_, exists_settled preserved lighter goesOn reached,
    fun count last steps stuck => ?_⟩
  · have bound := steps_bounded preserved lighter reached steps
    omega
  · have reachedLast := reachable_of_works reached steps
    have settled : Settled last := by
      by_contra unsettled
      obtain ⟨next, works⟩ := goesOn last reachedLast unsettled
      exact stuck next works
    refine ⟨settled, fun set => ?_⟩
    rw [← tracker_of_steps steps]
    exact underway_settled settled ((inv_of_reachable reachedLast).underway set)

theorem calls_come_to_rest_flushed :
    workLeft flushing = 1 ∧ ∃ count last, count ≤ 1 ∧
      Steps (Works (some "status")) count flushing last ∧ Settled last := by
  have left : workLeft flushing = 1 := by decide +kernel
  obtain ⟨bounded, ⟨count, last, steps, settled⟩, -⟩ := calls_come_to_rest flushing_reachable
  exact ⟨left, count, last, left ▸ bounded count last steps, steps, settled⟩

end Rest

end PveSanFenced.StatusProgress
