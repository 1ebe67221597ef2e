import PveSanFenced.DaemonThreads
import PveSanFenced.Lifecycle

/-!
# How the process ends

Where the process ends on purpose the main thread flushes the tracker first,
so that the file shows what it has recorded last: after a flawed configuration,
and at the decision of a dry run, while the discovery thread may still be
making calls. Only a panic of the main thread ends the process otherwise.
-/

namespace PveSanFenced.ProcessEnd

open PveSanFenced.Daemon
open PveSanFenced.DaemonCalls
open PveSanFenced.DaemonPanics
open PveSanFenced.DaemonSafety
open PveSanFenced.DaemonStatus
open PveSanFenced.DaemonThreads
open PveSanFenced.FencerCycle
open PveSanFenced.FencerModel
open PveSanFenced.Library.Fixed
open PveSanFenced.Library.Latest
open PveSanFenced.Library.Runs
open PveSanFenced.Library.Settling
open PveSanFenced.Library.Text
open PveSanFenced.Lifecycle
open PveSanFenced.Multipath
open PveSanFenced.Startup
open PveSanFenced.Status
open PveSanFenced.StatusCalls
open PveSanFenced.StatusFile
open PveSanFenced.StatusProgress
open PveSanFenced.StatusWriter

set_option autoImplicit false

section Model

/-- Where the main thread stands. -/
inductive Stage where
  | running
  | flushing
  | exited (code : ℕ)

def Stage.alive : Stage → Bool
  | .exited _ => false
  | _ => true

variable {Caller : Type*} [DecidableEq Caller]

/-- The calls each thread has still to make, and the tracker with its writers. -/
structure Leaving (Caller : Type*) where
  todo : Caller → List Call
  stage : Stage
  status : StatusWriter.State Caller

/-- Steps of the threads while the main thread is on its way out: it makes its
calls, flushes, and exits with the code. No thread outlives the process. -/
inductive Leave (path : Option String) (main : Caller) (code : ℕ) :
    Leaving Caller → Leaving Caller → Prop
  | call {leaving : Leaving Caller} {caller : Caller} {call : Call} {rest : List Call}
      (alive : leaving.stage.alive = true) (next : leaving.todo caller = call :: rest)
      (idle : leaving.status.place caller = .idle)
      (unread : call = .touch ∨ ∀ other, (leaving.status.place other).status? = none) :
      Leave path main code leaving { leaving with
        todo := Function.update leaving.todo caller rest
        status := leaving.status.afterCall caller call }
  | work {leaving : Leaving Caller} {status : StatusWriter.State Caller}
      (alive : leaving.stage.alive = true) (works : Works path leaving.status status) :
      Leave path main code leaving { leaving with status := status }
  | flush {leaving : Leaving Caller} (running : leaving.stage = .running)
      (made : leaving.todo main = []) (idle : leaving.status.place main = .idle)
      (free : ∀ other, (leaving.status.place other).locked = false) :
      Leave path main code leaving { leaving with
        stage := .flushing
        status := { leaving.status.move main (.flushing leaving.status.lastWriteThread) with
          lastWriteThread := none } }
  | exit {leaving : Leaving Caller} (flushing : leaving.stage = .flushing)
      (idle : leaving.status.place main = .idle) :
      Leave path main code leaving { leaving with stage := .exited code }

end Model

section Secured

variable {Caller : Type*} (Good : StatusTracker → Prop) (status : StatusWriter.State Caller)

/-- The line of a map that will do. -/
def Tells (text : String) : Prop := ∃ tracker, Good tracker ∧ text = mapContent tracker

/-- Whatever is about to be written will do. -/
def CarriesGood : Prop := ∀ id, (status.writer id).runs = true → ∃ text,
  Tells Good text ∧ Carries status.tempFile text (status.writer id)

def FileGood : Prop := ∃ text, Tells Good text ∧ status.statusFile = some text

/-- Such a line is in the file, or on its way there. -/
structure Secured : Prop where
  carries : CarriesGood Good status
  arrives : FileGood Good status ∨ ∃ id, (status.writer id).runs = true

variable {Good status} {path earlier : Option String} {versions : List ℕ}
  {next : StatusWriter.State Caller}

theorem file_good_of_quiet (secured : Secured Good status)
    (quiet : ∀ id, (status.writer id).runs = false) : FileGood Good status := by
  apply secured.arrives.resolve_right
  intro some
  obtain ⟨id, runs⟩ := some
  rw [quiet id] at runs
  cases runs

theorem carries_good_advance {tempFile : UInt64 → Option String} {counter : UInt64} {id : ℕ}
    {writer : Writer} (only : ∀ other, (status.writer other).runs = true → other = id)
    (runs : (status.writer id).runs = true)
    (carried : ∀ text, Carries status.tempFile text (status.writer id) →
      Carries tempFile text writer) (carries : CarriesGood Good status) :
    CarriesGood Good
      { status.advance id writer with counter := counter, tempFile := tempFile } := by
  intro other runs'
  change (Function.update status.writer id writer other).runs = true at runs'
  change ∃ text, Tells Good text ∧
    Carries tempFile text (Function.update status.writer id writer other)
  by_cases here : other = id
  · obtain ⟨text, tells, carriesText⟩ := carries id runs
    rw [here, Function.update_self]
    exact ⟨text, tells, carried text carriesText⟩
  · rw [Function.update_of_ne here] at runs'
    exact absurd (only other runs') here

theorem runs_advance (id : ℕ) {writer : Writer} (runs : writer.runs = true) :
    ∃ other, (Function.update status.writer id writer other).runs = true :=
  ⟨id, by rw [Function.update_self]; exact runs⟩

variable [DecidableEq Caller]

theorem secured_hand_over
    (locks : Locks status.place status.lastWriteThread status.writer status.spawned)
    (contents : Contents earlier versions status) (good : Good status.tracker) {caller : Caller}
    {line : StatusLevel × String} {previous : Option ℕ}
    (handing : status.place caller = .handing line previous) (joined : status.Joined previous) :
    Secured Good (status.afterHandOver caller line) := by
  have rendered : fileLine line = mapContent status.tracker :=
    contents.snapshot caller line (by rw [handing]; rfl)
  obtain ⟨locked, ended⟩ := holder_joined handing rfl joined
  have quiet := no_writer_of_joined locks locked ended
  refine ⟨fun id runs => ?_, Or.inr (runs_advance status.spawned rfl)⟩
  change (Function.update status.writer status.spawned (.spawned line) id).runs = true at runs
  change ∃ text, Tells Good text ∧
    Carries status.tempFile text (Function.update status.writer status.spawned (.spawned line) id)
  by_cases here : id = status.spawned
  · rw [here, Function.update_self]
    exact ⟨fileLine line, ⟨_, good, rendered⟩, rfl⟩
  · rw [Function.update_of_ne here, quiet id] at runs
    cases runs

/-- Nothing but such a line gets into the file. -/
theorem secured_works (set : path.isSome = true)
    (locks : Locks status.place status.lastWriteThread status.writer status.spawned)
    (contents : Contents earlier versions status) (good : Good status.tracker)
    (works : Works path status next) (secured : Secured Good status) :
    Secured Good next ∧ (FileGood Good status → FileGood Good next) := by
  have carries := secured.carries
  cases works with
  | noPath unset pending =>
      rw [unset] at set
      cases set
  | read set pending iterates => exact ⟨⟨carries, secured.arrives⟩, id⟩
  | lock read free => exact ⟨⟨carries, secured.arrives⟩, id⟩
  | handOver handing joined => exact ⟨secured_hand_over locks contents good handing joined, id⟩
  | @number id line spawned =>
      have runs : (status.writer id).runs = true := by
        rw [spawned]
        rfl
      refine ⟨⟨?_, Or.inr (runs_advance id rfl)⟩, fun file => file⟩
      exact carries_good_advance (one_writer locks runs) runs (carries_number spawned _) carries
  | @write id line temp numbered =>
      have runs : (status.writer id).runs = true := by
        rw [numbered]
        rfl
      refine ⟨⟨?_, Or.inr (runs_advance id rfl)⟩, fun file => file⟩
      exact carries_good_advance (one_writer locks runs) runs (carries_write numbered) carries
  | @rename id temp text written found =>
      have runs : (status.writer id).runs = true := by
        rw [written]
        rfl
      obtain ⟨line, tells, carriesLine⟩ := carries id runs
      rw [written] at carriesLine
      obtain rfl : line = text := Option.some.inj (carriesLine.symm.trans found)
      have file : FileGood Good (status.afterRename id temp line) := ⟨line, tells, rfl⟩
      refine ⟨⟨fun other runs' => ?_, Or.inl file⟩, fun _ => file⟩
      change (Function.update status.writer id .done other).runs = true at runs'
      by_cases here : other = id
      · rw [here, Function.update_self] at runs'
        cases runs'
      · rw [Function.update_of_ne here] at runs'
        exact absurd (one_writer locks runs other runs') here
  | flushReturns returns =>
      obtain ⟨previous, flushing, joined, rfl⟩ := returns
      exact ⟨⟨carries, secured.arrives⟩, id⟩

end Secured

section Orders

variable {Caller : Type*} [DecidableEq Caller] {path earlier : Option String} {main : Caller}
  {code : ℕ} {Good : StatusTracker → Prop} {leaving next : Leaving Caller}

/-- The calls of the others leave the issues alone that the main thread is
going to record. -/
def Spares (Good : StatusTracker → Prop) (call : Call) : Prop :=
  ∀ (calls : List Call) (tracker : StatusTracker), Good (calls.foldl mutate tracker) →
    Good (calls.foldl mutate (mutate tracker call))

/-- In the middle of any order: the calls of the main thread lead to a map that
will do, the last of them writes it, and once the flush has returned such a map
is in the file and stays there. -/
structure Held (path earlier : Option String) (main : Caller) (Good : StatusTracker → Prop)
    (leaving : Leaving Caller) : Prop where
  reached : Reachable path earlier leaving.status
  aims : Good ((leaving.todo main).foldl mutate leaving.status.tracker)
  spares : ∀ other, other ≠ main → ∀ call ∈ leaving.todo other, Spares Good call
  writes : leaving.todo main = [] ∨ ∃ key level message,
    (leaving.todo main).getLast? = some (.setIssue key level message)
  made : leaving.stage ≠ .running → leaving.todo main = []
  secured : leaving.todo main = [] →
    (leaving.status.place main).due = true ∨ Secured Good leaving.status
  flushed : leaving.stage ≠ .running →
    (leaving.stage = .flushing ∧ ∃ previous, leaving.status.place main = .flushing previous) ∨
      (leaving.status.place main = .idle ∧ FileGood Good leaving.status)

theorem good_of_made (held : Held path earlier main Good leaving)
    (made : leaving.todo main = []) : Good leaving.status.tracker := by
  have aims := held.aims
  rw [made] at aims
  exact aims

theorem held_own_call (held : Held path earlier main Good leaving) {call : Call}
    {rest : List Call} (next : leaving.todo main = call :: rest)
    (idle : leaving.status.place main = .idle)
    (unread : call = .touch ∨ ∀ other, (leaving.status.place other).status? = none) :
    Held path earlier main Good { leaving with
      todo := Function.update leaving.todo main rest
      status := leaving.status.afterCall main call } := by
  have running : leaving.stage = .running := by
    by_contra stopped
    rw [held.made stopped] at next
    cases next
  have own : Function.update leaving.todo main rest main = rest := Function.update_self ..
  have aims := held.aims
  rw [next] at aims
  have last : ∃ key level message,
      (call :: rest).getLast? = some (.setIssue key level message) := by
    rw [← next]
    apply held.writes.resolve_left
    rw [next]
    exact List.cons_ne_nil call rest
  constructor
  · exact held.reached.tail (Step.call idle unread)
  · dsimp only
    rw [own]
    exact aims
  · intro other different
    dsimp only
    rw [Function.update_of_ne different]
    exact held.spares other different
  · dsimp only
    rw [own]
    cases rest with
    | nil => exact Or.inl rfl
    | cons second rest =>
        rw [List.getLast?_cons_cons] at last
        exact Or.inr last
  · exact fun stopped => absurd running stopped
  · dsimp only
    rw [own]
    intro none
    obtain ⟨key, level, message, last⟩ := last
    rw [none, List.getLast?_singleton, Option.some.injEq] at last
    rw [last]
    apply Or.inl
    change (Function.update leaving.status.place main .pending main).due = true
    rw [Function.update_self]
    rfl
  · exact fun stopped => absurd running stopped

theorem held_other_call (held : Held path earlier main Good leaving) {caller : Caller}
    {call : Call} {rest : List Call} (other : caller ≠ main)
    (next : leaving.todo caller = call :: rest) (idle : leaving.status.place caller = .idle)
    (unread : call = .touch ∨ ∀ other, (leaving.status.place other).status? = none) :
    Held path earlier main Good { leaving with
      todo := Function.update leaving.todo caller rest
      status := leaving.status.afterCall caller call } := by
  have todo : Function.update leaving.todo caller rest main = leaving.todo main :=
    Function.update_of_ne (Ne.symm other) _ _
  have place : (leaving.status.afterCall caller call).place main = leaving.status.place main :=
    Function.update_of_ne (Ne.symm other) _ _
  constructor
  · exact held.reached.tail (Step.call idle unread)
  · dsimp only
    rw [todo]
    apply held.spares caller other call _ _ _ held.aims
    rw [next]
    exact List.mem_cons_self
  · intro third notMain later member
    apply held.spares third notMain
    dsimp only at member
    by_cases here : third = caller
    · rw [here, Function.update_self] at member
      rw [here, next]
      exact List.mem_cons_of_mem call member
    · rw [Function.update_of_ne here] at member
      exact member
  · dsimp only
    rw [todo]
    exact held.writes
  · dsimp only
    rw [todo]
    exact held.made
  · dsimp only
    rw [todo, place]
    exact fun made => (held.secured made).imp_right
      fun secured => ⟨secured.carries, secured.arrives⟩
  · dsimp only
    rw [place]
    exact held.flushed

theorem works_main (main : Caller) {status : StatusWriter.State Caller}
    (contents : ∃ versions, Contents earlier versions leaving.status)
    (locks : Locks leaving.status.place leaving.status.lastWriteThread leaving.status.writer
      leaving.status.spawned) (set : path.isSome = true) (good : Good leaving.status.tracker)
    (works : Works path leaving.status status) :
    status.place main = leaving.status.place main ∨
      ((leaving.status.place main).due = true ∧
        ((status.place main).due = true ∨ Secured Good status)) ∨
      ((∃ previous, leaving.status.place main = .flushing previous) ∧
        status.place main = .idle ∧ ∀ id, (leaving.status.writer id).runs = false) := by
  have moved {caller : Caller} {place : Place} (other : caller ≠ main) :
      Function.update leaving.status.place caller place main = leaving.status.place main :=
    Function.update_of_ne (Ne.symm other) _ _
  cases works with
  | noPath unset pending =>
      rw [unset] at set
      cases set
  | @read caller issues set pending iterates =>
      by_cases own : caller = main
      · subst own
        refine Or.inr (Or.inl ⟨by rw [pending]; rfl, Or.inl ?_⟩)
        change (Function.update leaving.status.place caller _ caller).due = true
        rw [Function.update_self]
        rfl
      · exact Or.inl (moved own)
  | @lock caller line read free =>
      by_cases own : caller = main
      · subst own
        refine Or.inr (Or.inl ⟨by rw [read]; rfl, Or.inl ?_⟩)
        change (Function.update leaving.status.place caller _ caller).due = true
        rw [Function.update_self]
        rfl
      · exact Or.inl (moved own)
  | @handOver caller line previous handing joined =>
      by_cases own : caller = main
      · subst own
        obtain ⟨versions, contents⟩ := contents
        exact Or.inr (Or.inl ⟨by rw [handing]; rfl,
          Or.inr (secured_hand_over locks contents good handing joined)⟩)
      · exact Or.inl (moved own)
  | number spawned => exact Or.inl rfl
  | write numbered => exact Or.inl rfl
  | rename written found => exact Or.inl rfl
  | @flushReturns status caller returns =>
      obtain ⟨previous, flushing, joined, rfl⟩ := returns
      by_cases own : caller = main
      · subst own
        obtain ⟨locked, ended⟩ := holder_joined flushing rfl joined
        exact Or.inr (Or.inr ⟨⟨previous, flushing⟩, Function.update_self ..,
          no_writer_of_joined locks locked ended⟩)
      · exact Or.inl (moved own)

theorem held_work (set : path.isSome = true) (held : Held path earlier main Good leaving)
    {status : StatusWriter.State Caller} (works : Works path leaving.status status) :
    Held path earlier main Good { leaving with status := status } := by
  have inv := inv_of_reachable held.reached
  have aims := held.aims
  rw [← tracker_of_works works] at aims
  have kept (made : leaving.todo main = []) (secured : Secured Good leaving.status) :
      Secured Good status ∧ (FileGood Good leaving.status → FileGood Good status) := by
    obtain ⟨versions, contents⟩ := inv.contents
    exact secured_works set inv.locks contents (good_of_made held made) works secured
  have main_moves (made : leaving.todo main = []) :=
    works_main main inv.contents inv.locks set (good_of_made held made) works
  refine ⟨held.reached.tail (step_of_works works), aims, held.spares, held.writes, held.made,
    fun made => ?_, fun stopped => ?_⟩
  · have before := held.secured made
    rcases main_moves made with same | ⟨-, after⟩ | ⟨⟨previous, flushing⟩, -⟩
    · dsimp only
      rw [same]
      exact before.imp_right fun secured => (kept made secured).1
    · exact after
    · rw [flushing] at before
      exact Or.inr (kept made (before.resolve_left (by simp [Place.due]))).1
  · have made := held.made stopped
    have before := held.secured made
    rcases main_moves made with same | ⟨due, -⟩ | ⟨⟨previous, flushing⟩, idle, quiet⟩
    · dsimp only
      rw [same]
      apply (held.flushed stopped).imp_right
      intro returned
      rw [returned.1] at before
      exact ⟨returned.1, (kept made (before.resolve_left (by simp [Place.due]))).2 returned.2⟩
    · rcases held.flushed stopped with ⟨-, previous, flushing⟩ | ⟨idle, -⟩
      · rw [flushing] at due
        cases due
      · rw [idle] at due
        cases due
    · -- the flush has joined the last writer, so the line has arrived
      rw [flushing] at before
      have secured := before.resolve_left (by simp [Place.due])
      exact Or.inr ⟨idle, (kept made secured).2 (file_good_of_quiet secured quiet)⟩

theorem held_leave (set : path.isSome = true) (held : Held path earlier main Good leaving)
    (leave : Leave path main code leaving next) : Held path earlier main Good next := by
  cases leave with
  | @call caller call rest alive next idle unread =>
      by_cases own : caller = main
      · subst own
        exact held_own_call held next idle unread
      · exact held_other_call held own next idle unread
  | work alive works => exact held_work set held works
  | flush running made idle free =>
      have secured := (held.secured made).resolve_left (by rw [idle]; simp [Place.due])
      refine ⟨held.reached.tail (Step.flush idle free), held.aims, held.spares, held.writes,
        fun _ => made, fun _ => Or.inr ⟨secured.carries, secured.arrives⟩, fun _ => Or.inl ?_⟩
      exact ⟨rfl, _, Function.update_self ..⟩
  | exit flushing idle =>
      have stopped : leaving.stage ≠ .running := by simp [flushing]
      have returned := (held.flushed stopped).resolve_left (by simp [idle])
      exact ⟨held.reached, held.aims, held.spares, held.writes, fun _ => held.made stopped,
        held.secured, fun _ => Or.inr returned⟩

variable [Fintype Caller]

def stageWeight : Stage → ℕ
  | .running => 3
  | .flushing => 1
  | .exited _ => 0

def leavingLeft (leaving : Leaving Caller) : ℕ :=
  7 * (∑ caller, (leaving.todo caller).length) + workLeft leaving.status +
    stageWeight leaving.stage

theorem leaving_left_lt (held : Held path earlier main Good leaving)
    (leave : Leave path main code leaving next) : leavingLeft next < leavingLeft leaving := by
  cases leave with
  | @call caller call rest alive next idle unread =>
      have calls := sum_update List.length (Finset.mem_univ caller) leaving.todo rest
      have work := work_left_call call idle
      rw [next, List.length_cons] at calls
      rw [leavingLeft, leavingLeft]
      dsimp only
      omega
  | work alive works =>
      have less := work_left_lt (inv_of_reachable held.reached).locks works
      rw [leavingLeft, leavingLeft]
      dsimp only
      omega
  | flush running made idle free =>
      have places := sum_update placeWeight (Finset.mem_univ main) leaving.status.place
        (.flushing leaving.status.lastWriteThread)
      have hand : placeWeight (.flushing leaving.status.lastWriteThread) = 1 := rfl
      have none : placeWeight .idle = 0 := rfl
      rw [idle, hand, none] at places
      have work : workLeft
          { leaving.status.move main (.flushing leaving.status.lastWriteThread) with
            lastWriteThread := Option.none } = workLeft leaving.status + 1 := by
        change (∑ other, placeWeight (Function.update leaving.status.place main _ other)) +
          ∑ id ∈ Finset.range leaving.status.spawned, writerWeight (leaving.status.writer id) = _
        rw [workLeft]
        omega
      rw [leavingLeft, leavingLeft, running]
      dsimp only
      rw [work]
      simp only [stageWeight]
      omega
  | exit flushing idle =>
      rw [leavingLeft, leavingLeft, flushing]
      simp only [stageWeight]
      omega

omit [Fintype Caller] in
theorem leave_of_alive (held : Held path earlier main Good leaving)
    (alive : leaving.stage.alive = true) : ∃ next, Leave path main code leaving next := by
  by_cases settled : Settled leaving.status
  · by_cases left : ∃ caller, leaving.todo caller ≠ []
    · obtain ⟨caller, some⟩ := left
      obtain ⟨call, rest, next⟩ := List.exists_cons_of_ne_nil some
      have unread (other : Caller) : (leaving.status.place other).status? = none := by
        rw [settled.1 other]
        rfl
      exact ⟨_, Leave.call alive next (settled.1 caller) (Or.inr unread)⟩
    · have made : leaving.todo main = [] := by
        by_contra some
        exact left ⟨main, some⟩
      have free (other : Caller) : (leaving.status.place other).locked = false := by
        rw [settled.1 other]
        rfl
      cases stands : leaving.stage with
      | running => exact ⟨_, Leave.flush stands made (settled.1 main) free⟩
      | flushing => exact ⟨_, Leave.exit stands (settled.1 main)⟩
      | exited code =>
          rw [stands] at alive
          cases alive
  · obtain ⟨status, works⟩ := works_of_unsettled (inv_of_reachable held.reached).contents
      (handles_of_reachable held.reached) settled
    exact ⟨_, Leave.work alive works⟩

omit [Fintype Caller] in
theorem stage_leave (leave : Leave path main code leaving next) :
    next.stage.alive = true ∨ next.stage = .exited code := by
  cases leave with
  | call alive next idle unread => exact Or.inl alive
  | work alive works => exact Or.inl alive
  | flush running made idle free => exact Or.inl rfl
  | exit flushing idle => exact Or.inr rfl

/-- In every order of the threads the process comes to its end after a bounded
number of steps, and the end is as told. -/
def Ends (path : Option String) (main : Caller) (code : ℕ) (leaving : Leaving Caller)
    (told : StatusWriter.State Caller → Prop) : Prop :=
  ∃ limit, ∀ count last, Steps (Leave path main code) count leaving last →
    count ≤ limit ∧ ((∃ next, Leave path main code last next) ∨
      (last.stage = .exited code ∧ told last.status))

omit [Fintype Caller] in
theorem exited_of_ends {told : StatusWriter.State Caller → Prop}
    (ends : Ends path main code leaving told) : ∃ count last,
      Steps (Leave path main code) count leaving last ∧ last.stage = .exited code ∧
        told last.status := by
  obtain ⟨limit, orders⟩ := ends
  by_contra none
  have longer (count : ℕ) : ∃ last, Steps (Leave path main code) count leaving last := by
    induction count with
    | zero => exact ⟨leaving, Steps.none leaving⟩
    | succ count ih =>
        obtain ⟨last, steps⟩ := ih
        cases (orders count last steps).2 with
        | inl goesOn =>
            obtain ⟨next, leave⟩ := goesOn
            exact ⟨next, Steps.next steps leave⟩
        | inr ended => exact absurd ⟨count, last, steps, ended⟩ none
  obtain ⟨last, steps⟩ := longer (limit + 1)
  exact Nat.not_succ_le_self limit (orders _ last steps).1

/-- However the threads interleave, the process ends, and the file then shows
a map that will do. -/
theorem ends_good (set : path.isSome = true) (held : Held path earlier main Good leaving)
    (running : leaving.stage = .running) : Ends path main code leaving (FileGood Good) := by
  have preserved : ∀ before after : Leaving Caller,
      (Held path earlier main Good before ∧
        (before.stage.alive = true ∨ before.stage = .exited code)) →
      Leave path main code before after → Held path earlier main Good after ∧
        (after.stage.alive = true ∨ after.stage = .exited code) :=
    fun _ _ before leave => ⟨held_leave set before.1 leave, stage_leave leave⟩
  have initially : Held path earlier main Good leaving ∧
      (leaving.stage.alive = true ∨ leaving.stage = .exited code) := by
    rw [running]
    exact ⟨held, Or.inl rfl⟩
  refine ⟨leavingLeft leaving, fun count last steps => ?_⟩
  have bound := steps_bounded preserved (fun _ _ before => leaving_left_lt before.1) initially steps
  obtain ⟨heldLast, stage⟩ := steps_invariant preserved initially steps
  refine ⟨by omega, ?_⟩
  cases stage with
  | inl alive => exact Or.inl (leave_of_alive heldLast alive)
  | inr exited =>
      have returned := (heldLast.flushed (by simp [exited])).resolve_left (by simp [exited])
      exact Or.inr ⟨exited, returned.2⟩

omit [Fintype Caller] in
theorem ends_mono {told told' : StatusWriter.State Caller → Prop}
    (ends : Ends path main code leaving told) (weaker : ∀ status, told status → told' status) :
    Ends path main code leaving told' := by
  obtain ⟨limit, orders⟩ := ends
  refine ⟨limit, fun count last steps => ⟨(orders count last steps).1, ?_⟩⟩
  exact (orders count last steps).2.imp_right fun ended => ⟨ended.1, weaker _ ended.2⟩

end Orders

section Flawed

variable {cli : Cli} {env : Environment}

/-- The end of a rejected start, on a file that may be there from an earlier
one. No other thread makes a call yet. -/
def rejection (earlier : Option String) (message : String) : Leaving Unit where
  todo := fun _ => [.setIssue "config_error" .critical message]
  stage := .running
  status := StatusWriter.State.start earlier

theorem held_rejection (path earlier : Option String) (message : String) :
    Held path earlier () (· = StatusTracker.new.setIssue "config_error" .critical message)
      (rejection earlier message) where
  reached := Relation.ReflTransGen.refl
  aims := rfl
  spares other different := absurd rfl different
  writes := Or.inr ⟨_, _, _, rfl⟩
  made stopped := absurd rfl stopped
  secured made := by cases made
  flushed stopped := absurd rfl stopped

/-- A flawed configuration ends the process with exit code 1, in whatever order
its threads run. Its first flaw is in the status file by then, and asking for
the status later tells that flaw as critical. -/
theorem flawed_start_reported (build : Build) (placed : refusal cli env = none)
    (daemon : cli.status = false) (flawed : ¬Startable cli env) (earlier : Option String) :
    ∃ message tracker, checkConfiguration cli env StatusTracker.new = .error message ∧
      startUp build cli env = .rejected tracker ∧
      Ends (some cli.statusFile) () 1 (rejection earlier message) fun status =>
        status.statusFile = some (mapContent tracker) ∧
          ∀ (query : Cli) (later : Environment), refusal query later = none →
            query.status = true → later.statusFile.content = .ok (mapContent tracker) →
            Fresh build.overflow query.pollInterval later.statusFile →
              startUp build query later =
                .reported (some (trim ("CRITICAL" ++ " - " ++ message), 2)) := by
  cases checked : checkConfiguration cli env StatusTracker.new with
  | ok after => exact absurd (check_configuration_iff.mp ⟨after, checked⟩) flawed
  | error message =>
      refine ⟨message, StatusTracker.new.setIssue "config_error" .critical message, rfl, ?_, ?_⟩
      · simp [startUp, placed, daemon, checked]
      · apply ends_mono (ends_good rfl (held_rejection _ earlier message) rfl)
        intro status shows
        obtain ⟨text, ⟨tracker, rfl, rfl⟩, file⟩ := shows
        refine ⟨file, fun query later queryPlaced asks written fresh => ?_⟩
        have line := read_status_line query.statusFile .critical message
        rw [map_content_single] at written
        simp only [startUp, queryPlaced, asks, if_pos]
        rw [status_branch_fresh fresh, written]
        exact congrArg (fun answer => Outcome.reported (some answer)) line

theorem flawed_start_reported_no_failures : ∃ message tracker,
    startUp plain { oneFailure with maxFailures := 0 } (host false "1") = .rejected tracker ∧
      startUp plain { oneFailure with status := true }
          { host false "1" with statusFile := ⟨some 2, .ok (mapContent tracker)⟩ } =
        .reported (some (trim ("CRITICAL" ++ " - " ++ message), 2)) := by
  have flawed : ¬Startable { oneFailure with maxFailures := 0 } (host false "1") :=
    fun startable => startable.failures rfl
  obtain ⟨message, tracker, -, rejected, ends⟩ :=
    flawed_start_reported plain (one_failure_placed false "1" 0 false) rfl flawed none
  obtain ⟨-, last, -, -, -, told⟩ := exited_of_ends ends
  refine ⟨message, tracker, rejected, told _ _ (one_failure_placed false "1" 1 true) rfl rfl ?_⟩
  intro elapsed known
  obtain rfl : 2 = elapsed := Option.some.inj known
  exact ⟨30, rfl, by decide⟩

end Flawed

section Decision

theorem update_calls_decided {fencer : Fencer} {tracker : StatusTracker}
    {maps : List MultipathMap} {activeLuns : Finset String}
    (fence : (updateWithMaps fencer tracker maps activeLuns).fence = true) :
    ∃ calls message, updateCalls fencer tracker maps activeLuns =
      calls ++ [.setIssue "fencing" .critical message] := by
  rw [updateWithMaps] at fence
  unfold updateCalls
  unfold judgeCycle at fence
  unfold judgeCalls
  dsimp only at fence ⊢
  split_ifs at fence ⊢ with none failing reached
  rw [← List.cons_append]
  exact ⟨_, _, rfl⟩

variable {settings : Settings} {state middle : Daemon.State}

theorem evaluate_calls_decided {activeData : ActiveLunsWithTimestamp} {maps : List MultipathMap}
    {response : Except String String} (place : state.monitor = .parsed activeData maps)
    (decides : decision settings state (.queryConfig response) = true) :
    ∃ calls message, eventCalls settings state (.queryConfig response) =
      calls ++ [.setIssue "fencing" .critical message] := by
  have made := @check_config_calls_tracker settings state activeData maps response
  simp only [decision, place] at decides
  simp only [eventCalls, place, evaluateCalls]
  cases listed : checkConfigCalls settings activeData maps response with
  | none =>
      rw [listed, Option.map_none] at made
      rw [← made] at decides
      cases decides
  | some calls =>
      rw [listed, Option.map_some] at made
      rw [← made] at decides
      obtain ⟨rest, message, ends⟩ := update_calls_decided decides
      refine ⟨calls ++ rest, message, ?_⟩
      dsimp only
      rw [ends, List.append_assoc]

theorem program_append {events more : List Event} (loop : Loop)
    (ran : events.foldlM (step settings) state = some middle) :
    program settings loop state (events ++ more) =
      program settings loop state events ++ program settings loop middle more := by
  induction events generalizing state with
  | nil =>
      obtain rfl : state = middle := Option.some.inj ran
      rfl
  | cons event rest ih =>
      rw [List.foldlM_cons, Option.bind_eq_bind, Option.bind_eq_some_iff] at ran
      obtain ⟨next, stepped, later⟩ := ran
      rw [List.cons_append, program, program, stepped]
      dsimp only
      rw [ih later, List.append_assoc]

theorem program_none {loop : Loop} {events : List Event}
    (others : ∀ event ∈ events, loopOf event ≠ some loop) :
    program settings loop state events = [] := by
  induction events generalizing state with
  | nil => rfl
  | cons event rest ih =>
      rw [List.forall_mem_cons] at others
      rw [program, if_neg others.1, List.nil_append]
      cases step settings state event with
      | none => rfl
      | some next => exact ih others.2

end Decision

section DryRun

/-- A fresh file with this text tells a critical status. -/
def ReadsCritical (text : String) : Prop :=
  ∀ (mode : Overflow) (pollInterval : UInt64) (path : String) (file : ReadFile),
    file.content = .ok text → Fresh mode pollInterval file →
      ∃ line, statusBranch mode pollInterval path file = some (line, 2)

theorem reads_critical {tracker : StatusTracker} {key message : String}
    (critical : tracker.issue key = some (.critical, message)) :
    ReadsCritical (mapContent tracker) := by
  intro mode pollInterval path file holds fresh
  rw [status_branch_fresh fresh, holds, line_told_iff, exit_code_critical_iff]
  exact ⟨key, message, critical⟩

/-- Both loops with the calls of these events before them. -/
def departure (settings : Settings) (begun : StatusWriter.State Loop) (events : List Event) :
    Leaving Loop where
  todo := fun loop => program settings loop (startWith settings begun.tracker) events
  stage := .running
  status := begun

def FencingCritical (tracker : StatusTracker) : Prop :=
  ∃ message, tracker.issue "fencing" = some (.critical, message)

variable {build : Build} {cli : Cli} {env : Environment} {succeeds : ℕ → Bool}
  {events more : List Event} {life : Life} {path earlier : Option String}
  {begun : StatusWriter.State Loop}

theorem program_decided
    (lived : live build cli env succeeds begun.tracker events = some life)
    (ends : Exits cli env life) : ∃ message,
      (program (settings build cli) .monitoring
        (startWith (settings build cli) begun.tracker) events).getLast? =
          some (.setIssue "fencing" .critical message) := by
  obtain ⟨before, event, middle, rfl, earlier, moved, -, decides⟩ := dry_run_decides lived ends
  have ran : before.foldlM (step (settings build cli))
      (startWith (settings build cli) begun.tracker) = some middle.daemon := run_of_live earlier
  rw [program_append .monitoring ran, program, moved]
  cases event with
  | queryConfig response =>
      cases place : middle.daemon.monitor with
      | parsed activeData maps =>
          obtain ⟨calls, message, made⟩ := evaluate_calls_decided place decides
          have own : loopOf (.queryConfig response) = some .monitoring := rfl
          refine ⟨message, ?_⟩
          rw [if_pos own, made]
          simp [program]
      | _ =>
          rw [decision, place] at decides
          cases decides
  | _ => cases decides

theorem held_departure (started : startUp build cli env = .started begun.tracker)
    (lived : live build cli env succeeds begun.tracker events = some life)
    (ends : Exits cli env life) (reached : Reachable path earlier begun)
    (others : ∀ event ∈ more, loopOf event ≠ some .monitoring) :
    Held path earlier .monitoring FencingCritical
      (departure (settings build cli) begun (events ++ more)) := by
  have ran := run_of_live lived
  obtain ⟨-, before, poll, evaluated, fence, -⟩ := dry_run_first lived ends
  have shown := critical_shown_run (started_calm started) ran
  have decided := decided_last_of_fence (consistent_run_from ran) evaluated fence
  obtain ⟨text, last⟩ := program_decided lived ends
  have own : program (settings build cli) .monitoring
      (startWith (settings build cli) begun.tracker) (events ++ more) =
        program (settings build cli) .monitoring
          (startWith (settings build cli) begun.tracker) events := by
    rw [program_append .monitoring ran, program_none others, List.append_nil]
  have some : (departure (settings build cli) begun (events ++ more)).todo .monitoring ≠ [] := by
    intro none
    dsimp only [departure] at none
    rw [own] at none
    rw [none] at last
    cases last
  constructor
  · exact reached
  · obtain ⟨message, critical⟩ := shown.decided.mpr decided
    refine ⟨message, ?_⟩
    dsimp only [departure]
    rw [own, ← critical]
    exact program_issue ran "fencing" rfl
  · intro loop different call member calls tracker critical
    obtain ⟨message, critical⟩ := critical
    have silent : ¬SpeaksOf call "fencing" := by
      intro speaks
      exact different (program_owner loop member speaks).symm
    refine ⟨message, ?_⟩
    rw [calls_issue_congr (mutate_other_issue silent tracker)]
    exact critical
  · refine Or.inr ⟨"fencing", .critical, text, ?_⟩
    dsimp only [departure]
    rw [own]
    exact last
  · exact fun stopped => absurd rfl stopped
  · exact fun made => absurd made some
  · exact fun stopped => absurd rfl stopped

/-- The process ends by itself in two ways. Its exit code is 0 exactly where a
dry run has reached its first decision, before anything was written; in every
order of the threads, with the discovery thread going on meanwhile, it then
leaves a critical status. The code is 101 exactly where the monitoring loop has
panicked. -/
theorem process_ends (started : startUp build cli env = .started begun.tracker)
    (lived : live build cli env succeeds begun.tracker events = some life)
    (reached : Reachable (some cli.statusFile) earlier begun) :
    (life.exited = some 0 ↔ Exits cli env life) ∧
      (life.exited = some 101 ↔ Occurred (step (settings build cli))
        (Panics (settings build cli)) (startWith (settings build cli) begun.tracker) events) ∧
      (∀ code, life.exited = some code → code = 0 ∨ code = 101) ∧
      (life.exited = some 0 → life.attempts = [] ∧
        (∃ before poll, life.daemon.evaluated = before ++ [poll] ∧ poll.fence = true ∧
          ∀ earlier ∈ before, earlier.fence = false) ∧
        ∀ more, (∀ event ∈ more, loopOf event ≠ some .monitoring) →
          Ends (some cli.statusFile) .monitoring 0
            (departure (settings build cli) begun (events ++ more)) fun status =>
              ∃ text, status.statusFile = some text ∧ ReadsCritical text) := by
  have crashed := monitor_crashed_iff (run_of_live lived)
  have zero : life.exited = some 0 ↔ Exits cli env life := by
    rcases exit_cases lived with ⟨exited, ends, -⟩ | ⟨exited, stays, -⟩ | ⟨exited, stays, -⟩
    · exact iff_of_true exited ends
    · exact iff_of_false (by simp [exited]) stays
    · exact iff_of_false (by simp [exited]) stays
  refine ⟨zero, ?_, ?_, fun exited => ?_⟩
  · rw [← crashed]
    rcases exit_cases lived with ⟨exited, -, alive⟩ | ⟨exited, -, panicked⟩ | ⟨exited, -, alive⟩
    · exact iff_of_false (by simp [exited]) alive
    · exact iff_of_true exited panicked
    · exact iff_of_false (by simp [exited]) alive
  · intro code exited
    rcases exit_cases lived with ⟨same, -⟩ | ⟨same, -⟩ | ⟨same, -⟩
    all_goals
      rw [same] at exited
      cases exited
    · exact Or.inl rfl
    · exact Or.inr rfl
  · have ends := zero.mp exited
    obtain ⟨nothing, first⟩ := dry_run_first lived ends
    refine ⟨nothing, first, fun more others => ?_⟩
    apply ends_mono (ends_good rfl (held_departure started lived ends reached others) rfl)
    intro status shows
    obtain ⟨text, ⟨tracker, ⟨message, critical⟩, rfl⟩, file⟩ := shows
    exact ⟨_, file, reads_critical critical⟩

/-- A dry run meets an outage, and discovery finds a new set before the exit. -/
theorem process_ends_outage : ∃ status : StatusWriter.State Loop, ∃ text,
    status.statusFile = some text ∧ ReadsCritical text := by
  obtain ⟨life, lived, exited, -⟩ := outage_lived true
  obtain ⟨-, -, -, dry⟩ := @process_ends plain oneFailure (host true "1\n") _ _ _ none
    (StatusWriter.State.start none) (obedient_started true) lived Relation.ReflTransGen.refl
  obtain ⟨-, -, left⟩ := dry exited
  obtain ⟨-, last, -, -, text, shown, critical⟩ :=
    exited_of_ends (left [.discovery (.found ∅)] (by decide))
  exact ⟨last.status, text, shown, critical⟩

end DryRun

end PveSanFenced.ProcessEnd
