import PveSanFenced.StatusProgress

/-!
# The status file when writing fails

A disk may be full and a rename may be refused. The thread logs that and ends,
and nobody is told. The file still shows nothing but whole lines, in the order
of the maps, nobody waits for the thread that gave up, and what a failure
leaves behind is made good by the next line that gets through.
-/

namespace PveSanFenced.StatusFaults

open PveSanFenced.Status
open PveSanFenced.StatusFile
open PveSanFenced.StatusWriter
open PveSanFenced.StatusProgress

set_option autoImplicit false

section Model

/-- A state and the threads that gave up so far; no step reads these. -/
structure Faulted (Caller : Type*) where
  state : State Caller
  failed : List ℕ

variable {Caller : Type*}

/-- The thread ends without the file; `left` is what the temporary file holds
now. -/
def Faulted.giveUp (before : Faulted Caller) (id : ℕ) (temp : UInt64) (left : Option String) :
    Faulted Caller where
  state := { before.state.advance id .done with
    tempFile := Function.update before.state.tempFile temp left }
  failed := before.failed ++ [id]

variable [DecidableEq Caller]

inductive FaultStep (path : Option String) : Faulted Caller → Faulted Caller → Prop
  | step {before : Faulted Caller} {state : State Caller} (step : Step path before.state state) :
      FaultStep path before ⟨state, before.failed⟩
  -- a write that fails may have written a part
  | writeFails {before : Faulted Caller} {id : ℕ} {status : StatusLevel × String} {temp : UInt64}
      (numbered : before.state.writer id = .numbered status temp) (left : Option String) :
      FaultStep path before (before.giveUp id temp left)
  -- the result of `remove_file` is ignored
  | renameFails {before : Faulted Caller} {id : ℕ} {temp : UInt64} {left : Option String}
      (written : before.state.writer id = .written temp)
      (removed : left = none ∨ left = before.state.tempFile temp) :
      FaultStep path before (before.giveUp id temp left)

/-- The states that some interleaving with any failures reaches. -/
def ReachableDespite (path earlier : Option String) (run : Faulted Caller) : Prop :=
  Relation.ReflTransGen (FaultStep path) ⟨State.start earlier, []⟩ run

end Model

section GivingUp

variable {Caller : Type*} {path earlier : Option String} {run : Faulted Caller} {id : ℕ}
  {temp : UInt64} {left : Option String}

def LastFailed (run : Faulted Caller) : Prop :=
  ∃ last, run.state.spawned = last + 1 ∧ last ∈ run.failed

def NewestRuns (state : State Caller) : Prop :=
  ∀ id, (state.writer id).runs = true → state.spawned = id + 1

theorem newest_runs_advance {state : State Caller} (newest : NewestRuns state)
    (runs : (state.writer id).runs = true) (next : Writer) (other : ℕ)
    (runs' : (Function.update state.writer id next other).runs = true) :
    state.spawned = other + 1 := by
  by_cases here : other = id
  · rw [here]
    exact newest id runs
  · rw [Function.update_of_ne here] at runs'
    exact newest other runs'

theorem contents_give_up {versions : List ℕ} (contents : Contents earlier versions run.state)
    (locks : Locks run.state.place run.state.lastWriteThread run.state.writer run.state.spawned)
    (runs : (run.state.writer id).runs = true) :
    Contents earlier versions (run.giveUp id temp left).state := by
  refine { contents with carried := ?_ }
  intro other runs'
  change (Function.update run.state.writer id .done other).runs = true at runs'
  by_cases here : other = id
  · rw [here, Function.update_self] at runs'
    cases runs'
  · rw [Function.update_of_ne here] at runs'
    exact absurd (one_writer locks runs other runs') here

theorem handles_give_up (handles : Handles run.state) :
    Handles (run.giveUp id temp left).state :=
  ⟨handles.slot, handles.hand, begun_advance handles (by simp)⟩

theorem last_failed_give_up (newest : NewestRuns run.state)
    (runs : (run.state.writer id).runs = true) : LastFailed (run.giveUp id temp left) :=
  ⟨id, newest id runs, List.mem_append_right _ (List.mem_singleton_self id)⟩

end GivingUp

section Steps

variable {Caller : Type*} [DecidableEq Caller] {path earlier : Option String}
  {state state' : State Caller}

theorem newest_runs_step
    (locks : Locks state.place state.lastWriteThread state.writer state.spawned)
    (newest : NewestRuns state) (step : Step path state state') : NewestRuns state' := by
  cases step with
  | call idle unread => exact newest
  | noPath unset pending => exact newest
  | read set pending iterates => exact newest
  | lock read free => exact newest
  | @handOver caller status previous handing joined =>
      obtain ⟨locked, ended⟩ := holder_joined handing rfl joined
      intro id runs
      change (Function.update state.writer state.spawned (.spawned status) id).runs = true at runs
      change state.spawned + 1 = id + 1
      by_cases here : id = state.spawned
      · rw [here]
      · rw [Function.update_of_ne here, no_writer_of_joined locks locked ended id] at runs
        cases runs
  | number spawned => exact newest_runs_advance newest (by rw [spawned]; rfl) _
  | write numbered => exact newest_runs_advance newest (by rw [numbered]; rfl) _
  | rename written found => exact newest_runs_advance newest (by rw [written]; rfl) _
  | flush idle free => exact newest
  | flushReturns returns =>
      obtain ⟨previous, flushing, joined, rfl⟩ := returns
      exact newest

theorem underway_after_hand_over {versions : List ℕ} (contents : Contents earlier versions state)
    {caller : Caller} {status : StatusLevel × String} {previous : Option ℕ}
    (handing : state.place caller = .handing status previous) :
    Underway (state.afterHandOver caller status) := by
  refine Or.inr (Or.inl ⟨state.spawned, ?_⟩)
  change Carries state.tempFile _ (Function.update state.writer state.spawned _ state.spawned)
  rw [Function.update_self]
  refine (contents.snapshot caller status ?_).symm
  rw [handing]
  rfl

theorem behind_step {versions : List ℕ} {failed : List ℕ} (set : path.isSome = true)
    (locks : Locks state.place state.lastWriteThread state.writer state.spawned)
    (contents : Contents earlier versions state)
    (behind : Underway state ∨ LastFailed ⟨state, failed⟩) (step : Step path state state') :
    Underway state' ∨ LastFailed ⟨state', failed⟩ := by
  cases behind with
  | inl underway => exact Or.inl (underway_step set locks contents underway step)
  | inr last =>
      cases step with
      | handOver handing joined => exact Or.inl (underway_after_hand_over contents handing)
      | flushReturns returns =>
          obtain ⟨previous, flushing, joined, rfl⟩ := returns
          exact Or.inr last
      | _ => exact Or.inr last

end Steps

section Survival

variable {Caller : Type*} [DecidableEq Caller] {path earlier : Option String}
  {run run' : Faulted Caller}

structure Sound (path earlier : Option String) (run : Faulted Caller) : Prop where
  locks : Locks run.state.place run.state.lastWriteThread run.state.writer run.state.spawned
  contents : ∃ versions, Contents earlier versions run.state
  handles : Handles run.state
  newest : NewestRuns run.state
  behind : path.isSome = true → Underway run.state ∨ LastFailed run

omit [DecidableEq Caller] in
theorem sound_start : Sound path earlier (⟨State.start earlier, []⟩ : Faulted Caller) where
  locks := locks_start
  contents := ⟨[], contents_start earlier⟩
  handles := handles_start
  newest id runs := by cases runs
  behind set := Or.inl (Or.inr (Or.inr (Or.inr ⟨rfl, rfl⟩)))

omit [DecidableEq Caller] in
theorem sound_give_up (sound : Sound path earlier run) {id : ℕ}
    (runs : (run.state.writer id).runs = true) (temp : UInt64) (left : Option String) :
    Sound path earlier (run.giveUp id temp left) := by
  obtain ⟨versions, contents⟩ := sound.contents
  exact ⟨locks_advance sound.locks .done runs,
    ⟨versions, contents_give_up contents sound.locks runs⟩, handles_give_up sound.handles,
    newest_runs_advance sound.newest runs .done,
    fun _ => Or.inr (last_failed_give_up sound.newest runs)⟩

theorem sound_step (sound : Sound path earlier run) (step : FaultStep path run run') :
    Sound path earlier run' := by
  cases step with
  | step step =>
      obtain ⟨versions, contents⟩ := sound.contents
      exact ⟨locks_step sound.locks step, contents_step sound.locks contents step,
        handles_step sound.handles step, newest_runs_step sound.locks sound.newest step,
        fun set => behind_step set sound.locks contents (sound.behind set) step⟩
  | writeFails numbered left => exact sound_give_up sound (by rw [numbered]; rfl) _ left
  | @renameFails id temp left written removed =>
      exact sound_give_up sound (by rw [written]; rfl) temp left

theorem sound_of_reachable (reached : ReachableDespite path earlier run) :
    Sound path earlier run := by
  induction reached with
  | refl => exact sound_start
  | tail before step sound => exact sound_step sound step

/-- Whatever fails, the file has shown whole lines in the order of the maps,
nobody is blocked, and at rest the file shows the latest map unless the very
last writer failed. -/
theorem status_file_survives_faults (reached : ReachableDespite path earlier run) :
    InOrder earlier run.state ∧
      (¬Settled run.state → ∃ next, Works path run.state next) ∧
      (path.isSome = true → Settled run.state →
        run.state.statusFile = some (mapContent run.state.tracker) ∨
          (run.state.spawned = 0 ∧ run.state.tracker = StatusTracker.new) ∨ LastFailed run) := by
  have sound := sound_of_reachable reached
  refine ⟨?_, works_of_unsettled sound.contents sound.handles, fun set settled => ?_⟩
  · obtain ⟨versions, contents⟩ := sound.contents
    exact ⟨contents.current, contents.file, versions, contents.ordered, contents.shown⟩
  · cases sound.behind set with
    | inl underway =>
        cases underway_settled settled underway with
        | inl shown => exact Or.inl shown
        | inr initial => exact Or.inr (Or.inl initial)
    | inr last => exact Or.inr (Or.inr last)

end Survival

section Spoiled

private def pending : State Unit :=
  (State.start none).afterCall () (.setIssue "key" .warning "message")

private def handing : State Unit :=
  { (pending.move () (.snapshot (.warning, "message"))).move ()
      (.handing (.warning, "message") none) with lastWriteThread := none }

private def handedOver : State Unit := handing.afterHandOver () (.warning, "message")

private def counted : State Unit :=
  { handedOver.advance 0 (.numbered (.warning, "message") 0) with counter := 1 }

def spoiled : Faulted Unit := Faulted.giveUp ⟨counted, []⟩ 0 0 (some "")

theorem spoiled_reachable : ReachableDespite (some "status") none spoiled := by
  have call : Step (some "status") (State.start none) pending :=
    Step.call rfl (Or.inr fun _ => rfl)
  have read : Step (some "status") pending (pending.move () (.snapshot (.warning, "message"))) :=
    Step.read rfl rfl (show Iterates [⟨"key", .warning, "message"⟩] pending.tracker from rfl)
  have lock : Step (some "status") (pending.move () (.snapshot (.warning, "message"))) handing :=
    Step.lock rfl (by decide)
  have handOver : Step (some "status") handing handedOver :=
    Step.handOver rfl fun id impossible => by cases impossible
  have number : Step (some "status") handedOver counted := Step.number rfl
  have gaveUp : FaultStep (some "status") ⟨counted, []⟩ spoiled :=
    @FaultStep.writeFails _ _ _ ⟨counted, []⟩ 0 (.warning, "message") 0 rfl (some "")
  exact (((((Relation.ReflTransGen.single (FaultStep.step call)).tail (FaultStep.step read)).tail
    (FaultStep.step lock)).tail (FaultStep.step handOver)).tail (FaultStep.step number)).tail gaveUp

theorem status_file_survives_faults_spoiled :
    InOrder none spoiled.state ∧ spoiled.state.statusFile = none ∧ LastFailed spoiled := by
  obtain ⟨inOrder, -, rest⟩ := status_file_survives_faults spoiled_reachable
  have settled : Settled spoiled.state := by
    refine ⟨fun caller => rfl, fun id => ?_⟩
    cases id <;> rfl
  refine ⟨inOrder, rfl, ?_⟩
  rcases rest rfl settled with shown | initial | last
  · cases shown
  · exact absurd initial.1 (by decide)
  · exact last

end Spoiled

end PveSanFenced.StatusFaults
