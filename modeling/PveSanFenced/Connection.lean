import PveSanFenced.Wire
import Mathlib.Data.List.Forall2

/-!
# Commands and replies on one connection

Nothing on the wire says which command a reply belongs to: a call takes the
next frame there is for its own. The server answers the commands in order, but
a call may give up at any moment of the delivery, and what comes later stays
in the stream.
-/

namespace PveSanFenced.Connection

open PveSanFenced.Library.Bytes
open PveSanFenced.Wire

set_option autoImplicit false

section Model

/-- The read timeout of the socket. -/
def timeout : Ending := .failed ⟨.wouldBlock, "Resource temporarily unavailable (os error 11)"⟩

/-- One call, the server's answer to its command, and the sizes of the pieces
that arrive before the call would give up. -/
structure Call where
  command : String
  answer : String
  sizes : List ℕ

/-- The pieces that have arrived and not been read, and the bytes that are
still on their way. -/
structure State where
  unread : List (List UInt8)
  inFlight : List UInt8

def opened : State where
  unread := []
  inFlight := []

def deliver : List ℕ → List UInt8 → List (List UInt8) × List UInt8
  | [], bytes => ([], bytes)
  | size :: sizes, bytes =>
      let (pieces, left) := deliver sizes (bytes.drop size)
      (bytes.take size :: pieces, left)

/-- `send_command`. A command that is not sent is not answered. -/
def sendCommand (state : State) (call : Call) : State × Except IoError String :=
  let answered := match (sendCommandStream call.command).2 with
    | .ok _ => frame call.answer
    | .error _ => []
  let (pieces, inFlight) := deliver call.sizes (state.inFlight ++ answered)
  let (_, result, stream) := sendCommandOnStream call.command
    { pieces := state.unread ++ pieces, ending := timeout }
  ({ unread := stream.pieces, inFlight := inFlight }, result)

def stateAfter (state : State) (calls : List Call) : State :=
  calls.foldl (fun state call => (sendCommand state call).1) state

structure WellFormed (answer : String) : Prop where
  free : '\x00' ∉ answer.toList
  short : (utf8 answer).length + 1 ≤ maxReplyLen

/-- The whole reply arrives before the call gives up; a command with a NUL has
none. -/
def Timely (call : Call) : Prop :=
  '\x00' ∈ call.command.toList ∨ (frame call.answer).length ≤ call.sizes.sum

end Model

section Runs

theorem deliver_eq (sizes : List ℕ) (bytes : List UInt8) :
    (deliver sizes bytes).1.flatten = bytes.take sizes.sum ∧
      (deliver sizes bytes).2 = bytes.drop sizes.sum := by
  induction sizes generalizing bytes with
  | nil => exact ⟨rfl, rfl⟩
  | cons size sizes ih =>
      obtain ⟨pieces, left⟩ := ih (bytes.drop size)
      rw [List.sum_cons]
      constructor
      · rw [deliver, List.flatten_cons, pieces, List.take_add]
      · rw [deliver, left, List.drop_drop]

structure InStep (state : State) : Prop where
  unread : state.unread.flatten = []
  inFlight : state.inFlight = []

theorem opened_in_step : InStep opened := ⟨rfl, rfl⟩

theorem receive_cut_frame {stream : Stream Ending} {text : String} {count : ℕ}
    (fits : (utf8 text).length + 1 < 256 ^ 8) (cut : count < (frame text).length)
    (bytes : stream.bytes = (frame text).take count) (reply : String) :
    (receiveReplyStream stream).1 ≠ .ok reply := by
  intro received
  have framed := (receive_reply_ok_iff stream reply).mp received
  have header := framed.header
  have whole := framed.whole
  rw [bytes, List.length_take] at header whole
  have start : ((frame text).take count).take 8 = toLeBytes 8 ((utf8 text).length + 1) := by
    rw [List.take_take, Nat.min_eq_left (by omega)]
    have taken := take_frame text []
    rw [List.append_nil] at taken
    exact taken
  rw [start, from_le_bytes_to_le_bytes fits] at whole
  rw [frame_length] at cut whole
  omega

def arrived (state : State) (call : Call) (answered : List UInt8) : Stream Ending where
  pieces := state.unread ++ (deliver call.sizes (state.inFlight ++ answered)).1
  ending := timeout

theorem send_command_sent (state : State) {call : Call} (free : '\x00' ∉ call.command.toList) :
    sendCommand state call =
      ({ unread := (receiveReplyStream (arrived state call (frame call.answer))).2.pieces
         inFlight := (deliver call.sizes (state.inFlight ++ frame call.answer)).2 },
        (receiveReplyStream (arrived state call (frame call.answer))).1) := by
  unfold sendCommand sendCommandOnStream
  rw [send_command_eq free]
  rfl

theorem send_command_refused (state : State) {call : Call}
    (nul : '\x00' ∈ call.command.toList) :
    ∃ error, sendCommand state call =
      ({ unread := (arrived state call []).pieces
         inFlight := (deliver call.sizes (state.inFlight ++ [])).2 }, .error error) := by
  have refused : ∃ error, sendCommandStream call.command = ([], .error error) := by
    rw [← zero_mem_utf8_iff] at nul
    rw [sendCommandStream, if_pos nul]
    exact ⟨_, rfl⟩
  obtain ⟨error, refused⟩ := refused
  unfold sendCommand sendCommandOnStream
  rw [refused]
  exact ⟨error, rfl⟩

theorem arrived_bytes {state : State} (inStep : InStep state) (call : Call)
    (answered : List UInt8) :
    (arrived state call answered).bytes = answered.take call.sizes.sum := by
  rw [Stream.bytes, arrived, List.flatten_append, inStep.unread, (deliver_eq _ _).1,
    inStep.inFlight, List.nil_append, List.nil_append]

theorem receive_whole_answer {state : State} (inStep : InStep state) {call : Call}
    (wellFormed : WellFormed call.answer)
    (whole : (frame call.answer).length ≤ call.sizes.sum) :
    ∃ left : Stream Ending, receiveReplyStream (arrived state call (frame call.answer)) =
      (.ok call.answer, left) ∧ left.bytes = [] := by
  have bytes := arrived_bytes inStep call (frame call.answer)
  rw [List.take_of_length_le whole, ← List.append_nil (frame call.answer)] at bytes
  obtain ⟨left, received, after, -⟩ :=
    receive_reply_frame wellFormed.free wellFormed.short bytes
  rw [List.append_nil] at received
  exact ⟨left, received, after⟩

theorem send_command_result {state : State} (inStep : InStep state) {call : Call}
    (wellFormed : WellFormed call.answer) {reply : String}
    (returned : (sendCommand state call).2 = .ok reply) : reply = call.answer := by
  by_cases nul : '\x00' ∈ call.command.toList
  · obtain ⟨error, refused⟩ := send_command_refused state nul
    rw [refused] at returned
    cases returned
  · rw [send_command_sent state nul] at returned
    by_cases cut : call.sizes.sum < (frame call.answer).length
    · have bytes := arrived_bytes inStep call (frame call.answer)
      have fits := Nat.lt_of_le_of_lt wellFormed.short (show maxReplyLen < 256 ^ 8 by decide)
      exact absurd returned (receive_cut_frame fits cut bytes reply)
    · obtain ⟨left, received, -⟩ :=
        receive_whole_answer inStep wellFormed (Nat.le_of_not_lt cut)
      rw [received] at returned
      exact (Except.ok.inj returned).symm

theorem send_command_in_step {state : State} (inStep : InStep state) {call : Call}
    (wellFormed : WellFormed call.answer) (timely : Timely call) :
    InStep (sendCommand state call).1 := by
  by_cases nul : '\x00' ∈ call.command.toList
  · obtain ⟨error, refused⟩ := send_command_refused state nul
    have bytes := arrived_bytes inStep call []
    rw [refused]
    constructor
    · rw [← Stream.bytes, bytes, List.take_nil]
    · rw [(deliver_eq _ _).2, inStep.inFlight, List.append_nil, List.drop_nil]
  · have whole : (frame call.answer).length ≤ call.sizes.sum := timely.resolve_left nul
    obtain ⟨left, received, after⟩ := receive_whole_answer inStep wellFormed whole
    rw [send_command_sent state nul]
    constructor
    · rw [received, ← Stream.bytes, after]
    · rw [(deliver_eq _ _).2, inStep.inFlight, List.nil_append, List.drop_of_length_le whole]

theorem state_after_in_step {state : State} (inStep : InStep state) {calls : List Call}
    (wellFormed : ∀ call ∈ calls, WellFormed call.answer) (timely : ∀ call ∈ calls, Timely call) :
    InStep (stateAfter state calls) := by
  induction calls generalizing state with
  | nil => exact inStep
  | cons call calls ih =>
      have first := send_command_in_step inStep (wellFormed call (List.mem_cons_self ..))
        (timely call (List.mem_cons_self ..))
      exact ih first (fun later member => wellFormed later (List.mem_cons_of_mem _ member))
        (fun later member => timely later (List.mem_cons_of_mem _ member))

theorem send_command_answered {state : State} (inStep : InStep state) {call : Call}
    (wellFormed : WellFormed call.answer) (free : '\x00' ∉ call.command.toList)
    (whole : (frame call.answer).length ≤ call.sizes.sum) :
    (sendCommand state call).2 = .ok call.answer := by
  obtain ⟨left, received, -⟩ := receive_whole_answer inStep wellFormed whole
  rw [send_command_sent state free, received]

/-- A call that gives up before its reply arrives leaves that reply to the next
call, whatever that one asks for. -/
theorem late_reply_taken {first second : Call} (free : '\x00' ∉ first.command.toList)
    (free' : '\x00' ∉ second.command.toList) (wellFormed : WellFormed first.answer)
    (nothing : first.sizes.sum = 0) (late : (frame first.answer).length ≤ second.sizes.sum) :
    (sendCommand opened first).2 = .error ⟨.timedOut, "Timeout waiting for reply"⟩ ∧
      (sendCommand (stateAfter opened [first]) second).2 = .ok first.answer := by
  have empty := arrived_bytes opened_in_step first (frame first.answer)
  rw [nothing, List.take_zero] at empty
  have gaveUp : receiveReplyStream (arrived opened first (frame first.answer)) =
      (.error ⟨.timedOut, "Timeout waiting for reply"⟩,
        { arrived opened first (frame first.answer) with pieces := [] }) := by
    unfold receiveReplyStream
    rw [read_exact_short (by rw [empty]; decide)]
    rfl
  have left : stateAfter opened [first] = { unread := [], inFlight := frame first.answer } := by
    rw [stateAfter, List.foldl_cons, List.foldl_nil, send_command_sent opened free, gaveUp,
      (deliver_eq _ _).2, nothing, List.drop_zero]
    rfl
  refine ⟨by rw [send_command_sent opened free, gaveUp], ?_⟩
  have bytes : (arrived (stateAfter opened [first]) second (frame second.answer)).bytes =
      frame first.answer ++
        (frame second.answer).take (second.sizes.sum - (frame first.answer).length) := by
    rw [Stream.bytes, arrived, left, List.nil_append, (deliver_eq _ _).1, List.take_append,
      List.take_of_length_le late]
  obtain ⟨rest, received, -⟩ := receive_reply_frame wellFormed.free wellFormed.short bytes
  rw [send_command_sent _ free', received]

/-- In every sequence of calls, a reply that a call returns is the answer to
its own command if each call before it has got its whole reply in time. -/
theorem reply_belongs_to_command (before : List Call) (call : Call) (reply : String)
    (wellFormed : ∀ other ∈ before ++ [call], WellFormed other.answer)
    (timely : ∀ other ∈ before, Timely other)
    (returned : (sendCommand (stateAfter opened before) call).2 = .ok reply) :
    reply = call.answer := by
  have inStep := state_after_in_step opened_in_step
    (fun other member => wellFormed other (List.mem_append_left _ member)) timely
  exact send_command_result inStep
    (wellFormed call (List.mem_append_right _ (List.mem_singleton_self call))) returned

end Runs

section Desynchronised

/-- Two queries that the crate allows on one connection. The daemon opens a new
one for each. -/
def showMaps (sizes : List ℕ) : Call := ⟨"show maps json", "maps", sizes⟩

def showConfig (sizes : List ℕ) : Call := ⟨"show config local", "config", sizes⟩

theorem maps_well_formed : WellFormed "maps" := ⟨by decide, by decide⟩

theorem config_well_formed : WellFormed "config" := ⟨by decide, by decide⟩

theorem late_maps_taken_for_config :
    (sendCommand opened (showMaps [])).2 = .error ⟨.timedOut, "Timeout waiting for reply"⟩ ∧
      (sendCommand (stateAfter opened [showMaps []]) (showConfig [13, 15])).2 = .ok "maps" ∧
        (showConfig [13, 15]).answer = "config" := by
  have free : '\x00' ∉ (showMaps []).command.toList := by decide
  have free' : '\x00' ∉ (showConfig [13, 15]).command.toList := by decide
  have late : (frame (showMaps []).answer).length ≤ (showConfig [13, 15]).sizes.sum := by decide
  have taken := late_reply_taken free free' maps_well_formed rfl late
  exact ⟨taken.1, taken.2, rfl⟩

theorem reply_belongs_to_command_pieces : ∃ reply,
    (sendCommand (stateAfter opened [showMaps [2, 0, 11]]) (showConfig [9, 6])).2 = .ok reply ∧
      reply = "config" := by
  have wellFormed : ∀ other ∈ [showMaps [2, 0, 11]] ++ [showConfig [9, 6]],
      WellFormed other.answer := by
    intro other member
    simp only [List.cons_append, List.nil_append, List.mem_cons, List.not_mem_nil,
      or_false] at member
    cases member with
    | inl same => exact same ▸ maps_well_formed
    | inr same => exact same ▸ config_well_formed
  have timely : ∀ other ∈ [showMaps [2, 0, 11]], Timely other := by
    intro other member
    rw [List.mem_singleton.mp member]
    exact Or.inr (by decide)
  have inStep := state_after_in_step opened_in_step
    (fun other member => wellFormed other (List.mem_append_left _ member)) timely
  have free : '\x00' ∉ (showConfig [9, 6]).command.toList := by decide
  have returned := send_command_answered inStep config_well_formed free (by decide)
  exact ⟨"config", returned, reply_belongs_to_command _ _ _ wellFormed timely returned⟩

end Desynchronised

end PveSanFenced.Connection
