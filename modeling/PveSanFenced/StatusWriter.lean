import PveSanFenced.StatusFile
import Mathlib.Logic.Function.Basic
import Mathlib.Logic.Relation

/-!
# The status file under concurrent callers

A call mutates the issue map in one critical section and writes the file in
another, and the writing itself is left to a detached thread. Any number of
callers interleave here in any order, and so do the threads they spawn. What
keeps the file in order is that the read guard of the map is held until the
line is handed over, and that the previous thread is joined before the next
one starts.
-/

namespace PveSanFenced.StatusWriter

open PveSanFenced.Status
open PveSanFenced.StatusFile

set_option autoImplicit false

section Model

/-- Where a caller stands. A `snapshot` holds the read guard of the issue map,
`handing` and `flushing` hold the mutex of `last_write_thread` and the handle
taken from it. -/
inductive Place where
  | idle
  | pending
  | snapshot (status : StatusLevel × String)
  | handing (status : StatusLevel × String) (previous : Option ℕ)
  | flushing (previous : Option ℕ)

inductive Writer where
  | absent
  | spawned (status : StatusLevel × String)
  | numbered (status : StatusLevel × String) (id : UInt64)
  | written (id : UInt64)
  | done

/-- The status the caller has read while it keeps the read guard. -/
def Place.status? : Place → Option (StatusLevel × String)
  | .snapshot status => some status
  | .handing status _ => some status
  | _ => none

def Place.locked : Place → Bool
  | .handing _ _ => true
  | .flushing _ => true
  | _ => false

/-- The handle the caller has to join. -/
def Place.previous : Place → Option ℕ
  | .handing _ previous => previous
  | .flushing previous => previous
  | _ => none

def Place.due : Place → Bool
  | .pending => true
  | .snapshot _ => true
  | .handing _ _ => true
  | _ => false

def Writer.runs : Writer → Bool
  | .spawned _ => true
  | .numbered _ _ => true
  | .written _ => true
  | _ => false

variable (Caller : Type*)

/-- A thread handle is the number of the thread. `held` and `shown` are the
maps and the contents so far; no step reads them. -/
structure State where
  tracker : StatusTracker
  lastWriteThread : Option ℕ
  place : Caller → Place
  writer : ℕ → Writer
  spawned : ℕ
  counter : UInt64
  tempFile : UInt64 → Option String
  statusFile : Option String
  held : List StatusTracker
  shown : List String

variable {Caller}

/-- Nothing called yet; the file may be there from an earlier start. -/
def State.start (earlier : Option String) : State Caller where
  tracker := StatusTracker.new
  lastWriteThread := none
  place := fun _ => .idle
  writer := fun _ => .absent
  spawned := 0
  counter := 0
  tempFile := fun _ => none
  statusFile := earlier
  held := [StatusTracker.new]
  shown := []

def State.Joined (state : State Caller) (previous : Option ℕ) : Prop :=
  ∀ id, previous = some id → state.writer id = .done

variable [DecidableEq Caller]

def State.move (state : State Caller) (caller : Caller) (place : Place) : State Caller :=
  { state with place := Function.update state.place caller place }

def State.advance (state : State Caller) (id : ℕ) (writer : Writer) : State Caller :=
  { state with writer := Function.update state.writer id writer }

def State.afterCall (state : State Caller) (caller : Caller) (call : Call) : State Caller :=
  { state.move caller (if writes state.tracker call then .pending else .idle) with
    tracker := mutate state.tracker call
    held := state.held ++ [mutate state.tracker call] }

def State.afterHandOver (state : State Caller) (caller : Caller)
    (status : StatusLevel × String) : State Caller :=
  { (state.move caller .idle).advance state.spawned (.spawned status) with
    spawned := state.spawned + 1
    lastWriteThread := some state.spawned }

def State.afterRename (state : State Caller) (id : ℕ) (temp : UInt64) (text : String) :
    State Caller :=
  { state.advance id .done with
    tempFile := Function.update state.tempFile temp none
    statusFile := some text
    shown := state.shown ++ [text] }

def FlushReturns (state : State Caller) (caller : Caller) (state' : State Caller) : Prop :=
  ∃ previous, state.place caller = .flushing previous ∧ state.Joined previous ∧
    state' = state.move caller .idle

/-- One step of one thread. A mutation waits for all read guards, except that
`touch` takes no write lock. -/
inductive Step (path : Option String) : State Caller → State Caller → Prop
  | call {state : State Caller} {caller : Caller} {call : Call}
      (idle : state.place caller = .idle)
      (unread : call = .touch ∨ ∀ other, (state.place other).status? = none) :
      Step path state (state.afterCall caller call)
  | noPath {state : State Caller} {caller : Caller} (unset : path = none)
      (pending : state.place caller = .pending) : Step path state (state.move caller .idle)
  | read {state : State Caller} {caller : Caller} {issues : List Issue}
      (set : path.isSome = true) (pending : state.place caller = .pending)
      (iterates : Iterates issues state.tracker) :
      Step path state (state.move caller (.snapshot (aggregate issues)))
  | lock {state : State Caller} {caller : Caller} {status : StatusLevel × String}
      (read : state.place caller = .snapshot status)
      (free : ∀ other, (state.place other).locked = false) :
      Step path state { state.move caller (.handing status state.lastWriteThread) with
        lastWriteThread := none }
  | handOver {state : State Caller} {caller : Caller} {status : StatusLevel × String}
      {previous : Option ℕ} (handing : state.place caller = .handing status previous)
      (joined : state.Joined previous) : Step path state (state.afterHandOver caller status)
  | number {state : State Caller} {id : ℕ} {status : StatusLevel × String}
      (spawned : state.writer id = .spawned status) :
      Step path state { state.advance id (.numbered status state.counter) with
        counter := state.counter + 1 }
  | write {state : State Caller} {id : ℕ} {status : StatusLevel × String} {temp : UInt64}
      (numbered : state.writer id = .numbered status temp) :
      Step path state { state.advance id (.written temp) with
        tempFile := Function.update state.tempFile temp (some (fileLine status)) }
  | rename {state : State Caller} {id : ℕ} {temp : UInt64} {text : String}
      (written : state.writer id = .written temp) (found : state.tempFile temp = some text) :
      Step path state (state.afterRename id temp text)
  | flush {state : State Caller} {caller : Caller} (idle : state.place caller = .idle)
      (free : ∀ other, (state.place other).locked = false) :
      Step path state { state.move caller (.flushing state.lastWriteThread) with
        lastWriteThread := none }
  | flushReturns {state state' : State Caller} {caller : Caller}
      (returns : FlushReturns state caller state') : Step path state state'

/-- The states that some interleaving reaches. -/
def Reachable (path earlier : Option String) (state : State Caller) : Prop :=
  Relation.ReflTransGen (Step path) (State.start earlier) state

end Model

section Locks

variable {Caller : Type*} {place : Caller → Place} {slot : Option ℕ}
  {writer : ℕ → Writer} {spawned : ℕ}

/-- The mutex is held once at most, its holder has the handle, and a running
writer is the one whose handle is in the slot or in the holder's hand. -/
structure Locks (place : Caller → Place) (slot : Option ℕ) (writer : ℕ → Writer) (spawned : ℕ) :
    Prop where
  exclusive : ∀ caller other, (place caller).locked = true → (place other).locked = true →
    caller = other
  taken : ∀ caller, (place caller).locked = true → slot = none
  handle : ∀ id, (writer id).runs = true →
    slot = some id ∨ ∃ caller, (place caller).locked = true ∧ (place caller).previous = some id
  absent : ∀ id, spawned ≤ id → writer id = .absent

theorem one_writer (locks : Locks place slot writer spawned) {id : ℕ}
    (runs : (writer id).runs = true) (other : ℕ) (runs' : (writer other).runs = true) :
    other = id := by
  cases locks.handle id runs with
  | inl inSlot =>
      cases locks.handle other runs' with
      | inl inSlot' => exact Option.some.inj (inSlot'.symm.trans inSlot)
      | inr inHand =>
          obtain ⟨caller, locked, -⟩ := inHand
          rw [locks.taken caller locked] at inSlot
          cases inSlot
  | inr inHand =>
      obtain ⟨caller, locked, taken⟩ := inHand
      cases locks.handle other runs' with
      | inl inSlot =>
          rw [locks.taken caller locked] at inSlot
          cases inSlot
      | inr inHand' =>
          obtain ⟨caller', locked', taken'⟩ := inHand'
          rw [locks.exclusive caller' caller locked' locked] at taken'
          exact Option.some.inj (taken'.symm.trans taken)

theorem no_writer_of_joined (locks : Locks place slot writer spawned) {caller : Caller}
    (locked : (place caller).locked = true)
    (joined : ∀ id, (place caller).previous = some id → writer id = .done) (id : ℕ) :
    (writer id).runs = false := by
  rw [Bool.eq_false_iff]
  intro runs
  cases locks.handle id runs with
  | inl inSlot =>
      rw [locks.taken caller locked] at inSlot
      cases inSlot
  | inr inHand =>
      obtain ⟨other, locked', taken⟩ := inHand
      rw [locks.exclusive other caller locked' locked] at taken
      rw [joined id taken] at runs
      cases runs

theorem holder_joined {state : State Caller} {caller : Caller} {here : Place}
    (stands : state.place caller = here) (locked : here.locked = true)
    (joined : state.Joined here.previous) :
    (state.place caller).locked = true ∧
      ∀ id, (state.place caller).previous = some id → state.writer id = .done := by
  rw [stands]
  exact ⟨locked, joined⟩

theorem locks_start : Locks (fun _ : Caller => Place.idle) none (fun _ => Writer.absent) 0 where
  exclusive caller other locked := by cases locked
  taken caller locked := by cases locked
  handle id runs := by cases runs
  absent id bound := rfl

theorem locks_spawn (locks : Locks place slot writer spawned)
    (free : ∀ caller, (place caller).locked = false) (quiet : ∀ id, (writer id).runs = false)
    (status : StatusLevel × String) :
    Locks place (some spawned) (Function.update writer spawned (.spawned status))
      (spawned + 1) := by
  constructor
  · exact locks.exclusive
  · intro caller locked
    rw [free caller] at locked
    cases locked
  · intro id runs
    by_cases here : id = spawned
    · rw [here]
      exact Or.inl rfl
    · rw [Function.update_of_ne here, quiet id] at runs
      cases runs
  · intro id bound
    rw [Function.update_of_ne (by omega)]
    exact locks.absent id (by omega)

theorem locks_advance (locks : Locks place slot writer spawned) {id : ℕ} (next : Writer)
    (runs : (writer id).runs = true) :
    Locks place slot (Function.update writer id next) spawned := by
  constructor
  · exact locks.exclusive
  · exact locks.taken
  · intro other runs'
    by_cases here : other = id
    · rw [here]
      exact locks.handle id runs
    · rw [Function.update_of_ne here] at runs'
      exact locks.handle other runs'
  · intro other bound
    by_cases here : other = id
    · rw [← here, locks.absent other bound] at runs
      cases runs
    · rw [Function.update_of_ne here]
      exact locks.absent other bound

variable [DecidableEq Caller]

theorem locks_move (locks : Locks place slot writer spawned) {caller : Caller} {next : Place}
    (before : (place caller).locked = false) (after : next.locked = false) :
    Locks (Function.update place caller next) slot writer spawned := by
  have same : ∀ other, (Function.update place caller next other).locked = (place other).locked := by
    intro other
    by_cases here : other = caller
    · rw [here, Function.update_self, before, after]
    · rw [Function.update_of_ne here]
  constructor
  · intro first second locked locked'
    exact locks.exclusive first second ((same first).symm.trans locked)
      ((same second).symm.trans locked')
  · intro other locked
    exact locks.taken other ((same other).symm.trans locked)
  · intro id runs
    cases locks.handle id runs with
    | inl inSlot => exact Or.inl inSlot
    | inr inHand =>
        obtain ⟨other, locked, taken⟩ := inHand
        have different : other ≠ caller := by
          intro here
          rw [here, before] at locked
          cases locked
        exact Or.inr ⟨other, by rw [same, locked], by rw [Function.update_of_ne different, taken]⟩
  · exact locks.absent

theorem locks_acquire (locks : Locks place slot writer spawned) {caller : Caller} {next : Place}
    (free : ∀ other, (place other).locked = false) (after : next.locked = true)
    (taken : next.previous = slot) :
    Locks (Function.update place caller next) none writer spawned := by
  have only : ∀ other, (Function.update place caller next other).locked = true →
      other = caller := by
    intro other locked
    by_contra different
    rw [Function.update_of_ne different, free other] at locked
    cases locked
  constructor
  · intro first second locked locked'
    rw [only first locked, only second locked']
  · intro other locked
    rfl
  · intro id runs
    cases locks.handle id runs with
    | inl inSlot =>
        refine Or.inr ⟨caller, ?_, ?_⟩
        · rw [Function.update_self, after]
        · rw [Function.update_self, taken, inSlot]
    | inr inHand =>
        obtain ⟨other, locked, -⟩ := inHand
        rw [free other] at locked
        cases locked
  · exact locks.absent

theorem locks_release (locks : Locks place slot writer spawned) {caller : Caller} (next : Place)
    (before : (place caller).locked = true) (after : next.locked = false)
    (joined : ∀ id, (place caller).previous = some id → writer id = .done) :
    Locks (Function.update place caller next) slot writer spawned ∧
      ∀ other, (Function.update place caller next other).locked = false := by
  have free : ∀ other, (Function.update place caller next other).locked = false := by
    intro other
    by_cases here : other = caller
    · rw [here, Function.update_self, after]
    · rw [Function.update_of_ne here, Bool.eq_false_iff]
      intro locked
      exact here (locks.exclusive other caller locked before)
  refine ⟨⟨?_, ?_, ?_, locks.absent⟩, free⟩
  · intro first second locked
    rw [free first] at locked
    cases locked
  · intro other locked
    rw [free other] at locked
    cases locked
  · intro id runs
    rw [no_writer_of_joined locks before joined id] at runs
    cases runs

end Locks

section Invariant

variable {Caller : Type*}

def Shows (held : List StatusTracker) (version : ℕ) (text : String) : Prop :=
  ∃ tracker, held[version]? = some tracker ∧ text = mapContent tracker

def Carries (tempFile : UInt64 → Option String) (text : String) : Writer → Prop
  | .spawned status => text = fileLine status
  | .numbered status _ => text = fileLine status
  | .written id => tempFile id = some text
  | _ => False

theorem shows_append {held : List StatusTracker} {version : ℕ} {text : String}
    (shows : Shows held version text) (more : List StatusTracker) :
    Shows (held ++ more) version text := by
  obtain ⟨tracker, listed, rendered⟩ := shows
  have within := (List.getElem?_eq_some_iff.mp listed).1
  exact ⟨tracker, (List.getElem?_append_left within).trans listed, rendered⟩

theorem runs_of_carries {tempFile : UInt64 → Option String} {text : String} {writer : Writer}
    (carries : Carries tempFile text writer) : writer.runs = true := by
  cases writer with
  | absent => exact carries.elim
  | done => exact carries.elim
  | spawned status => rfl
  | numbered status id => rfl
  | written id => rfl

theorem carries_number {tempFile : UInt64 → Option String} {writer : Writer}
    {status : StatusLevel × String} (spawned : writer = .spawned status) (id : UInt64)
    (text : String) (carries : Carries tempFile text writer) :
    Carries tempFile text (.numbered status id) := by
  rw [spawned] at carries
  exact carries

theorem carries_write {tempFile : UInt64 → Option String} {writer : Writer}
    {status : StatusLevel × String} {id : UInt64} (numbered : writer = .numbered status id)
    (text : String) (carries : Carries tempFile text writer) :
    Carries (Function.update tempFile id (some (fileLine status))) text (.written id) := by
  rw [numbered] at carries
  exact (Function.update_self ..).trans (congrArg some carries.symm)

/-- What the readers and the writers know, and what the file shows. `versions`
are the versions of the map that the contents so far have rendered. -/
structure Contents (earlier : Option String) (versions : List ℕ) (state : State Caller) :
    Prop where
  current : state.held.getLast? = some state.tracker
  snapshot : ∀ caller status, (state.place caller).status? = some status →
    fileLine status = mapContent state.tracker
  ordered : versions.Pairwise (· ≤ ·)
  shown : List.Forall₂ (Shows state.held) versions state.shown
  file : state.statusFile = state.shown.getLast?.or earlier
  carried : ∀ id, (state.writer id).runs = true → ∃ text version,
    Carries state.tempFile text (state.writer id) ∧ Shows state.held version text ∧
      ∀ older ∈ versions, older ≤ version

variable {earlier : Option String} {versions : List ℕ} {state : State Caller}

theorem version_lt (contents : Contents earlier versions state) :
    ∀ version ∈ versions, version < state.held.length := by
  have shown := contents.shown
  clear contents
  generalize state.shown = texts at shown
  induction shown with
  | nil => simp
  | cons atHead rest ih =>
      intro version member
      cases List.mem_cons.mp member with
      | inl same =>
          obtain ⟨tracker, listed, -⟩ := atHead
          rw [same]
          exact (List.getElem?_eq_some_iff.mp listed).1
      | inr later => exact ih version later

theorem shows_current (contents : Contents earlier versions state) :
    Shows state.held (state.held.length - 1) (mapContent state.tracker) := by
  have current := contents.current
  rw [List.getLast?_eq_getElem?] at current
  exact ⟨state.tracker, current, rfl⟩

theorem contents_start (earlier : Option String) :
    Contents earlier [] (State.start earlier : State Caller) where
  current := rfl
  snapshot caller status read := by cases read
  ordered := List.Pairwise.nil
  shown := List.Forall₂.nil
  file := rfl
  carried id runs := by cases runs

theorem carried_advance (contents : Contents earlier versions state) {id : ℕ} {next : Writer}
    {tempFile : UInt64 → Option String}
    (only : ∀ other, (state.writer other).runs = true → other = id)
    (runs : (state.writer id).runs = true)
    (carried : ∀ text, Carries state.tempFile text (state.writer id) →
      Carries tempFile text next) :
    ∀ other, (Function.update state.writer id next other).runs = true → ∃ text version,
      Carries tempFile text (Function.update state.writer id next other) ∧
        Shows state.held version text ∧ ∀ older ∈ versions, older ≤ version := by
  intro other runs'
  by_cases here : other = id
  · obtain ⟨text, version, carries, shows, newest⟩ := contents.carried id runs
    refine ⟨text, version, ?_, shows, newest⟩
    rw [here, Function.update_self]
    exact carried text carries
  · rw [Function.update_of_ne here] at runs'
    exact absurd (only other runs') here

theorem contents_after_rename (contents : Contents earlier versions state) {id : ℕ}
    {temp : UInt64} {text : String}
    (only : ∀ other, (state.writer other).runs = true → other = id)
    (written : state.writer id = .written temp) (found : state.tempFile temp = some text) :
    ∃ version, Contents earlier (versions ++ [version]) (state.afterRename id temp text) := by
  obtain ⟨text', version, carries, shows, newest⟩ := contents.carried id (by rw [written]; rfl)
  rw [written] at carries
  obtain rfl : text' = text := Option.some.inj (carries.symm.trans found)
  refine ⟨version, contents.current, contents.snapshot, ?_, ?_, ?_, ?_⟩
  · rw [List.pairwise_append]
    refine ⟨contents.ordered, List.pairwise_singleton _ _, ?_⟩
    intro older member last inLast
    rw [List.mem_singleton.mp inLast]
    exact newest older member
  · exact List.rel_append contents.shown (List.Forall₂.cons shows List.Forall₂.nil)
  · rw [State.afterRename, List.getLast?_concat]
    rfl
  · intro other runs
    change (Function.update state.writer id .done other).runs = true at runs
    by_cases here : other = id
    · rw [here, Function.update_self] at runs
      cases runs
    · rw [Function.update_of_ne here] at runs
      exact absurd (only other runs) here

variable [DecidableEq Caller]

theorem status_update {place : Caller → Place} {caller other : Caller} {next : Place}
    {status : StatusLevel × String}
    (read : (Function.update place caller next other).status? = some status) :
    next.status? = some status ∨ (place other).status? = some status := by
  by_cases here : other = caller
  · rw [here, Function.update_self] at read
    exact Or.inl read
  · rw [Function.update_of_ne here] at read
    exact Or.inr read

theorem snapshot_move (contents : Contents earlier versions state) {caller : Caller} {next : Place}
    (fresh : ∀ status, next.status? = some status → fileLine status = mapContent state.tracker) :
    ∀ other status, (Function.update state.place caller next other).status? = some status →
      fileLine status = mapContent state.tracker := by
  intro other status read
  cases status_update read with
  | inl now => exact fresh status now
  | inr before => exact contents.snapshot other status before

theorem snapshot_leave (contents : Contents earlier versions state) {caller : Caller}
    {next : Place} (silent : next.status? = none) :
    ∀ other status, (Function.update state.place caller next other).status? = some status →
      fileLine status = mapContent state.tracker := by
  apply snapshot_move contents
  intro status read
  rw [silent] at read
  cases read

theorem contents_after_call (contents : Contents earlier versions state) (caller : Caller)
    {call : Call} (unread : call = .touch ∨ ∀ other, (state.place other).status? = none) :
    Contents earlier versions (state.afterCall caller call) := by
  have silent : (if writes state.tracker call then Place.pending else .idle).status? = none := by
    split <;> rfl
  constructor
  · exact List.getLast?_concat
  · cases unread with
    | inl touch =>
        subst touch
        exact snapshot_leave contents silent
    | inr unread =>
        intro other status read
        cases status_update read with
        | inl now =>
            rw [silent] at now
            cases now
        | inr before =>
            rw [unread other] at before
            cases before
  · exact contents.ordered
  · exact contents.shown.imp fun version text shows => shows_append shows _
  · exact contents.file
  · intro id runs
    obtain ⟨text, version, carries, shows, newest⟩ := contents.carried id runs
    exact ⟨text, version, carries, shows_append shows _, newest⟩

theorem contents_after_hand_over (contents : Contents earlier versions state) {caller : Caller}
    {status : StatusLevel × String} (read : (state.place caller).status? = some status) :
    Contents earlier versions (state.afterHandOver caller status) := by
  refine ⟨contents.current, snapshot_leave contents rfl, contents.ordered, contents.shown,
    contents.file, ?_⟩
  intro id runs
  change (Function.update state.writer state.spawned (.spawned status) id).runs = true at runs
  change ∃ text version, Carries state.tempFile text
    (Function.update state.writer state.spawned (.spawned status) id) ∧
      Shows state.held version text ∧ ∀ older ∈ versions, older ≤ version
  by_cases here : id = state.spawned
  · refine ⟨mapContent state.tracker, state.held.length - 1, ?_, shows_current contents, ?_⟩
    · rw [here, Function.update_self]
      exact (contents.snapshot caller status read).symm
    · intro older member
      exact Nat.le_sub_one_of_lt (version_lt contents older member)
  · rw [Function.update_of_ne here] at runs ⊢
    exact contents.carried id runs

theorem locks_step {path : Option String} {state' : State Caller}
    (locks : Locks state.place state.lastWriteThread state.writer state.spawned)
    (step : Step path state state') :
    Locks state'.place state'.lastWriteThread state'.writer state'.spawned := by
  cases step with
  | @call caller call idle unread =>
      exact locks_move locks (by rw [idle]; rfl) (by split <;> rfl)
  | noPath unset pending => exact locks_move locks (by rw [pending]; rfl) rfl
  | read set pending iterates => exact locks_move locks (by rw [pending]; rfl) rfl
  | lock read free => exact locks_acquire locks free rfl rfl
  | @handOver caller status previous handing joined =>
      obtain ⟨locked, ended⟩ := holder_joined handing rfl joined
      obtain ⟨released, free⟩ := locks_release locks .idle locked rfl ended
      exact locks_spawn released free (no_writer_of_joined locks locked ended) status
  | number spawned => exact locks_advance locks _ (by rw [spawned]; rfl)
  | write numbered => exact locks_advance locks _ (by rw [numbered]; rfl)
  | rename written found => exact locks_advance locks _ (by rw [written]; rfl)
  | flush idle free => exact locks_acquire locks free rfl rfl
  | flushReturns returns =>
      obtain ⟨previous, flushing, joined, rfl⟩ := returns
      obtain ⟨locked, ended⟩ := holder_joined flushing rfl joined
      exact (locks_release locks .idle locked rfl ended).1

theorem contents_step {path : Option String} {state' : State Caller}
    (locks : Locks state.place state.lastWriteThread state.writer state.spawned)
    (contents : Contents earlier versions state) (step : Step path state state') :
    ∃ versions', Contents earlier versions' state' := by
  cases step with
  | @call caller call idle unread => exact ⟨versions, contents_after_call contents caller unread⟩
  | @noPath caller unset pending =>
      exact ⟨versions, { contents with snapshot := snapshot_leave contents rfl }⟩
  | @read caller issues set pending iterates =>
      refine ⟨versions, { contents with snapshot := snapshot_move contents ?_ }⟩
      intro status read
      rw [← Option.some.inj read]
      exact content_of_iterates iterates
  | @lock caller status read free =>
      refine ⟨versions, { contents with snapshot := snapshot_move contents ?_ }⟩
      intro status' kept
      apply contents.snapshot caller
      rw [read]
      exact kept
  | @handOver caller status previous handing joined =>
      have read : (state.place caller).status? = some status := by
        rw [handing]
        rfl
      exact ⟨versions, contents_after_hand_over contents read⟩
  | @number id status spawned =>
      have runs : (state.writer id).runs = true := by
        rw [spawned]
        rfl
      have alone := one_writer locks runs
      exact ⟨versions, { contents with
        carried := carried_advance contents alone runs (carries_number spawned _) }⟩
  | @write id status temp numbered =>
      have runs : (state.writer id).runs = true := by
        rw [numbered]
        rfl
      have alone := one_writer locks runs
      exact ⟨versions, { contents with
        carried := carried_advance contents alone runs (carries_write numbered) }⟩
  | @rename id temp text written found =>
      have runs : (state.writer id).runs = true := by
        rw [written]
        rfl
      have alone := one_writer locks runs
      obtain ⟨version, after⟩ := contents_after_rename contents alone written found
      exact ⟨_, after⟩
  | @flush caller idle free =>
      exact ⟨versions, { contents with snapshot := snapshot_leave contents rfl }⟩
  | @flushReturns state' caller returns =>
      obtain ⟨previous, flushing, joined, rfl⟩ := returns
      exact ⟨versions, { contents with snapshot := snapshot_leave contents rfl }⟩

end Invariant

section Settle

variable {Caller : Type*} {path earlier : Option String} {versions : List ℕ}
  {state state' : State Caller}

/-- The current map is on its way into the file or there already, or no line
was ever handed over. -/
def Latest (state : State Caller) : Prop :=
  (∃ id, Carries state.tempFile (mapContent state.tracker) (state.writer id)) ∨
    ((∀ id, (state.writer id).runs = false) ∧
      state.statusFile = some (mapContent state.tracker)) ∨
    (state.spawned = 0 ∧ state.tracker = StatusTracker.new)

def Underway (state : State Caller) : Prop :=
  (∃ caller, (state.place caller).due = true) ∨ Latest state

theorem underway_advance {id : ℕ} {next : Writer} {tempFile : UInt64 → Option String}
    {counter : UInt64}
    (only : ∀ other, (state.writer other).runs = true → other = id)
    (runs : (state.writer id).runs = true)
    (carried : ∀ text, Carries state.tempFile text (state.writer id) → Carries tempFile text next)
    (underway : Underway state) :
    Underway { state.advance id next with counter := counter, tempFile := tempFile } := by
  cases underway with
  | inl due => exact Or.inl due
  | inr latest =>
      rcases latest with ⟨other, carries⟩ | ⟨quiet, shown⟩ | initial
      · have here := only other (runs_of_carries carries)
        rw [here] at carries
        refine Or.inr (Or.inl ⟨id, ?_⟩)
        change Carries tempFile _ (Function.update state.writer id next id)
        rw [Function.update_self]
        exact carried _ carries
      · rw [quiet id] at runs
        cases runs
      · exact Or.inr (Or.inr (Or.inr initial))

theorem underway_after_rename
    (locks : Locks state.place state.lastWriteThread state.writer state.spawned)
    {id : ℕ} {temp : UInt64} {text : String} (written : state.writer id = .written temp)
    (found : state.tempFile temp = some text) (underway : Underway state) :
    Underway (state.afterRename id temp text) := by
  have runs : (state.writer id).runs = true := by
    rw [written]
    rfl
  cases underway with
  | inl due => exact Or.inl due
  | inr latest =>
      rcases latest with ⟨other, carries⟩ | ⟨quiet, shown⟩ | initial
      · have here := one_writer locks runs other (runs_of_carries carries)
        rw [here, written] at carries
        refine Or.inr (Or.inr (Or.inl ⟨?_, found.symm.trans carries⟩))
        intro third
        change (Function.update state.writer id .done third).runs = false
        by_cases same : third = id
        · rw [same, Function.update_self]
          rfl
        · rw [Function.update_of_ne same, Bool.eq_false_iff]
          exact fun runs' => same (one_writer locks runs third runs')
      · rw [quiet id] at runs
        cases runs
      · rw [locks.absent id (by omega)] at runs
        cases runs

variable [DecidableEq Caller]

theorem underway_move {caller : Caller} {next : Place}
    (kept : (state.place caller).due = true → next.due = true) (underway : Underway state) :
    (∃ other, (Function.update state.place caller next other).due = true) ∨ Latest state := by
  cases underway with
  | inr latest => exact Or.inr latest
  | inl some =>
      obtain ⟨other, due⟩ := some
      refine Or.inl ⟨other, ?_⟩
      by_cases here : other = caller
      · rw [here, Function.update_self]
        exact kept (here ▸ due)
      · rw [Function.update_of_ne here]
        exact due

theorem underway_step (set : path.isSome = true)
    (locks : Locks state.place state.lastWriteThread state.writer state.spawned)
    (contents : Contents earlier versions state) (underway : Underway state)
    (step : Step path state state') : Underway state' := by
  cases step with
  | @call caller call idle unread =>
      by_cases wrote : writes state.tracker call = true
      · refine Or.inl ⟨caller, ?_⟩
        change (Function.update state.place caller _ caller).due = true
        rw [Function.update_self, if_pos wrote]
        rfl
      · have silent := mutate_of_silent (Bool.eq_false_iff.mpr wrote)
        have moved : (∃ other, (Function.update state.place caller .idle other).due = true) ∨
            Latest state := underway_move (by rw [idle]; exact id) underway
        rw [State.afterCall, silent, if_neg wrote]
        exact moved
  | noPath unset pending =>
      rw [unset] at set
      cases set
  | @read caller issues set pending iterates => exact underway_move (fun _ => rfl) underway
  | @lock caller status read free => exact underway_move (fun _ => rfl) underway
  | @handOver caller status previous handing joined =>
      refine Or.inr (Or.inl ⟨state.spawned, ?_⟩)
      change Carries state.tempFile _ (Function.update state.writer state.spawned _ state.spawned)
      rw [Function.update_self]
      refine (contents.snapshot caller status ?_).symm
      rw [handing]
      rfl
  | @number id status spawned =>
      have runs : (state.writer id).runs = true := by
        rw [spawned]
        rfl
      exact underway_advance (one_writer locks runs) runs (carries_number spawned _) underway
  | @write id status temp numbered =>
      have runs : (state.writer id).runs = true := by
        rw [numbered]
        rfl
      exact underway_advance (one_writer locks runs) runs (carries_write numbered) underway
  | rename written found => exact underway_after_rename locks written found underway
  | flush idle free => exact underway_move (by rw [idle]; exact id) underway
  | flushReturns returns =>
      obtain ⟨previous, flushing, joined, rfl⟩ := returns
      exact underway_move (by rw [flushing]; exact id) underway

structure Inv (path earlier : Option String) (state : State Caller) : Prop where
  locks : Locks state.place state.lastWriteThread state.writer state.spawned
  contents : ∃ versions, Contents earlier versions state
  underway : path.isSome = true → Underway state

theorem inv_of_reachable (reached : Reachable path earlier state) : Inv path earlier state := by
  induction reached with
  | refl =>
      exact ⟨locks_start, ⟨[], contents_start earlier⟩,
        fun _ => Or.inr (Or.inr (Or.inr ⟨rfl, rfl⟩))⟩
  | tail before step inv =>
      obtain ⟨versions, contents⟩ := inv.contents
      exact ⟨locks_step inv.locks step, contents_step inv.locks contents step,
        fun set => underway_step set inv.locks contents (inv.underway set) step⟩

/-- What the file has shown so far are maps the tracker has held, each as old
as the one before or younger. -/
structure InOrder (earlier : Option String) (state : State Caller) : Prop where
  current : state.held.getLast? = some state.tracker
  file : state.statusFile = state.shown.getLast?.or earlier
  shown : ∃ versions : List ℕ, versions.Pairwise (· ≤ ·) ∧
    List.Forall₂ (Shows state.held) versions state.shown

/-- The file is in order in every reachable state; a flush that returns when
all other calls have returned leaves it at the latest map, unless no line was
ever handed over. -/
theorem status_file_in_order (path : String) (reached : Reachable (some path) earlier state) :
    InOrder earlier state ∧ ∀ caller state', FlushReturns state caller state' →
      (∀ other, state'.place other = .idle) →
        state'.statusFile = some (mapContent state'.tracker) ∨
          (state'.spawned = 0 ∧ state'.tracker = StatusTracker.new) := by
  have inv := inv_of_reachable reached
  constructor
  · obtain ⟨versions, contents⟩ := inv.contents
    exact ⟨contents.current, contents.file, versions, contents.ordered, contents.shown⟩
  · intro caller state' returns idle
    have inv' := inv_of_reachable (reached.tail (Step.flushReturns returns))
    obtain ⟨previous, flushing, joined, rfl⟩ := returns
    obtain ⟨locked, ended⟩ := holder_joined flushing rfl joined
    have quiet := no_writer_of_joined inv.locks locked ended
    cases inv'.underway rfl with
    | inl some =>
        obtain ⟨other, due⟩ := some
        rw [idle other] at due
        cases due
    | inr latest =>
        rcases latest with ⟨id, carries⟩ | ⟨-, shown⟩ | initial
        · have runs : (state.writer id).runs = true := runs_of_carries carries
          rw [quiet id] at runs
          cases runs
        · exact Or.inl shown
        · exact Or.inr initial

end Settle

section Flushed

private def called : State Bool :=
  (State.start none).afterCall true (.setIssue "key" .warning "message")

private def status : StatusLevel × String := (.warning, "message")

private def locked : State Bool :=
  { (called.move true (.snapshot status)).move true (.handing status none) with
    lastWriteThread := none }

private def handed : State Bool := locked.afterHandOver true status

private def numbered : State Bool :=
  { handed.advance 0 (.numbered status 0) with counter := 1 }

private def written : State Bool :=
  { numbered.advance 0 (.written 0) with
    tempFile := Function.update numbered.tempFile 0 (some (fileLine status)) }

private def renamed : State Bool := written.afterRename 0 0 (fileLine status)

def flushing : State Bool :=
  { renamed.move false (.flushing (some 0)) with lastWriteThread := none }

theorem flushing_reachable : Reachable (some "status") none flushing := by
  have call : Step (some "status") (State.start none) called := Step.call rfl (Or.inr fun _ => rfl)
  have read : Step (some "status") called (called.move true (.snapshot status)) :=
    Step.read rfl rfl (show Iterates [⟨"key", .warning, "message"⟩] called.tracker from rfl)
  have lock : Step (some "status") (called.move true (.snapshot status)) locked :=
    Step.lock rfl (by decide)
  have handOver : Step (some "status") locked handed :=
    Step.handOver rfl fun id impossible => by cases impossible
  have number : Step (some "status") handed numbered := Step.number rfl
  have write : Step (some "status") numbered written := Step.write rfl
  have rename : Step (some "status") written renamed := Step.rename rfl rfl
  have flush : Step (some "status") renamed flushing := Step.flush rfl (by decide)
  exact (((((((Relation.ReflTransGen.single call).tail read).tail lock).tail handOver).tail
    number).tail write).tail rename).tail flush

theorem status_file_in_order_flushed : InOrder none flushing ∧
    (flushing.move false .idle).statusFile =
      some (mapContent (flushing.move false .idle).tracker) := by
  obtain ⟨inOrder, final⟩ := status_file_in_order "status" flushing_reachable
  refine ⟨inOrder, ?_⟩
  have returns : FlushReturns flushing false (flushing.move false .idle) :=
    ⟨some 0, rfl, fun id same => by cases same; rfl, rfl⟩
  have idle : ∀ other, (flushing.move false .idle).place other = .idle := by
    intro other
    cases other <;> rfl
  cases final false _ returns idle with
  | inl shown => exact shown
  | inr unwritten => exact absurd unwritten.1 (by decide)

end Flushed

end PveSanFenced.StatusWriter
