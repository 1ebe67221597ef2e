import PveSanFenced.Library.Bytes
import PveSanFenced.Library.Collections
import Mathlib.Data.List.TakeWhile

/-!
# The wire format, written on both sides

A frame is the length of its payload in eight bytes, the payload, and a NUL
that the length counts. The client and the mock server build and take apart
frames independently, each with its own limit.
-/

namespace PveSanFenced.Wire

open PveSanFenced.Library.Bytes
open PveSanFenced.Library.Collections

set_option autoImplicit false

inductive ErrorKind where
  | wouldBlock
  | timedOut
  | unexpectedEof
  | connectionReset
  | invalidData
  | invalidInput
  | other
  deriving DecidableEq, Repr

structure IoError where
  kind : ErrorKind
  message : String
  deriving DecidableEq, Repr

/-- What a read reports when nothing is left. -/
inductive Ending where
  | closed
  | failed (error : IoError)

/-- The error of `read_exact`. -/
def Ending.error : Ending → IoError
  | .closed => ⟨.unexpectedEof, "failed to fill whole buffer"⟩
  | .failed error => error

section Client

def maxReplyLen : ℕ := 32 * 1024 * 1024

/-- What is written, and how the call ends. -/
def sendCommandStream (command : String) : List UInt8 × Except IoError Unit :=
  let bytes := utf8 command
  if 0 ∈ bytes then
    ([], .error ⟨.invalidInput,
      "nul byte found in provided data at position: " ++ toString (bytes.idxOf 0)⟩)
  else
    let cmdBytes := bytes ++ [0]
    (toLeBytes 8 cmdBytes.length ++ cmdBytes, .ok ())

def readFailure (timeout closed : String) (error : IoError) : IoError :=
  match error.kind with
  | .wouldBlock => ⟨.timedOut, timeout⟩
  | .timedOut => ⟨.timedOut, timeout⟩
  | .unexpectedEof => ⟨.connectionReset, closed⟩
  | _ => error

/-- The last byte is made a NUL, whatever it was, and the first NUL ends the
text. -/
def replyText (replyBuf : List UInt8) : List UInt8 :=
  let terminated := if replyBuf.isEmpty then replyBuf else replyBuf.dropLast ++ [0]
  terminated.takeWhile (· ≠ 0)

def decodeReply (replyBuf : List UInt8) : Except IoError String :=
  match fromUtf8 replyBuf with
  | some reply => .ok reply
  | none => .error ⟨.invalidData, "Invalid UTF-8: " ++ utf8Error replyBuf⟩

def receiveReplyStream (stream : Stream Ending) : Except IoError String × Stream Ending :=
  match stream.readExact 8 with
  | (.error ending, stream) =>
      (.error (readFailure "Timeout waiting for reply" "Connection closed while reading length"
        ending.error), stream)
  | (.ok lenBytes, stream) =>
      let replyLen := fromLeBytes lenBytes
      if replyLen = 0 ∨ maxReplyLen < replyLen then
        (.error ⟨.invalidData, "Invalid reply length: " ++ toString replyLen⟩, stream)
      else
        match stream.readExact replyLen with
        | (.error ending, stream) =>
            (.error (readFailure "Timeout waiting for reply data"
              "Connection closed while reading data" ending.error), stream)
        | (.ok replyBuf, stream) => (decodeReply (replyText replyBuf), stream)

/-- What is written, what is returned, and what is left to read. -/
def sendCommandOnStream (command : String) (stream : Stream Ending) :
    List UInt8 × Except IoError String × Stream Ending :=
  match sendCommandStream command with
  | (written, .error e) => (written, .error e, stream)
  | (written, .ok _) => (written, receiveReplyStream stream)

end Client

section Server

structure Mockd where
  commandResponses : HashMap String (List String)
  indices : HashMap String ℕ

/-- `next_index`; an empty list makes the remainder panic. -/
def nextIndex (indices : HashMap String ℕ) (command : String) (max : ℕ) :
    Option (ℕ × HashMap String ℕ) :=
  let current := (indices.lookup command).getD 0
  if max = 0 then none else some (current, indices.insert command ((current + 1) % max))

def pick (server : Mockd) (command : String) (fileList : List String) :
    Option (String × Mockd) :=
  match fileList with
  | [file] => some (file, server)
  | _ => do
      let (index, indices) ← nextIndex server.indices command fileList.length
      let file ← fileList[index]?
      some (file, { server with indices := indices })

/-- The response to a command, unless looking it up panics. -/
def respond (server : Mockd) (command : String) : Option (String × Mockd) :=
  match server.commandResponses.lookup command with
  | some fileList => pick server command fileList
  | none =>
      match server.commandResponses.lookup "show maps json" with
      | some fileList => pick server "show maps json" fileList
      | none => some ("\x7b\"error\": \"unknown command\"\x7d", server)

def maxCmdLen : ℕ := 1024 * 1024

/-- The command that was read, what was written back, and the counters. -/
structure Handled where
  command : Option String
  written : List UInt8
  server : Mockd

def handleConnection (server : Mockd) (hang : Bool) (stream : Stream Ending) : Handled :=
  match stream.readExact 8 with
  | (.error _, _) => ⟨none, [], server⟩
  | (.ok lenBytes, stream) =>
      let cmdLen := fromLeBytes lenBytes
      if maxCmdLen < cmdLen then ⟨none, [], server⟩
      else
        match stream.readExact cmdLen with
        | (.error _, _) => ⟨none, [], server⟩
        | (.ok commandBuf, _) =>
            let command := fromUtf8Lossy (commandBuf.takeWhile (· ≠ 0))
            match respond server command with
            | none => ⟨some command, [], server⟩
            | some (response, server) =>
                let respWithNull := utf8 response ++ [0]
                let lenBytes := toLeBytes 8 respWithNull.length
                if hang then ⟨some command, lenBytes ++ respWithNull.take 10, server⟩
                else ⟨some command, lenBytes ++ respWithNull, server⟩

end Server

section Format

/-- The bytes begin with a whole frame of the text. Whatever is in the place
of the last payload byte is not looked at. -/
structure Framed (bytes : List UInt8) (text : String) : Prop where
  header : 8 ≤ bytes.length
  positive : 1 ≤ fromLeBytes (bytes.take 8)
  bounded : fromLeBytes (bytes.take 8) ≤ maxReplyLen
  whole : 8 + fromLeBytes (bytes.take 8) ≤ bytes.length
  payload : utf8 text =
    ((bytes.drop 8).take (fromLeBytes (bytes.take 8) - 1)).takeWhile (· ≠ 0)

theorem take_while_terminated (bytes : List UInt8) :
    (bytes ++ [0]).takeWhile (· ≠ 0) = bytes.takeWhile (· ≠ 0) := by
  induction bytes with
  | nil => rfl
  | cons byte bytes ih => rw [List.cons_append, List.takeWhile_cons, List.takeWhile_cons, ih]

theorem reply_text_eq {replyBuf : List UInt8} (some : replyBuf ≠ []) :
    replyText replyBuf = replyBuf.dropLast.takeWhile (· ≠ 0) := by
  rw [replyText, if_neg (by simpa using some)]
  exact take_while_terminated _

theorem reply_text_take {bytes : List UInt8} {length : ℕ} (positive : 1 ≤ length)
    (whole : length ≤ bytes.length) :
    replyText (bytes.take length) = (bytes.take (length - 1)).takeWhile (· ≠ 0) := by
  have some : bytes.take length ≠ [] := by
    rw [ne_eq, ← List.length_eq_zero_iff, List.length_take]
    omega
  have shorter : min ((bytes.take length).length - 1) length = length - 1 := by
    rw [List.length_take]
    omega
  rw [reply_text_eq some, List.dropLast_eq_take, List.take_take, shorter]

theorem decode_reply_ok_iff {replyBuf : List UInt8} {text : String} :
    decodeReply replyBuf = .ok text ↔ utf8 text = replyBuf := by
  rw [eq_comm (a := utf8 text), ← from_utf8_eq_some, decodeReply]
  cases fromUtf8 replyBuf with
  | none =>
      apply iff_of_false
      · intro impossible
        cases impossible
      · intro impossible
        cases impossible
  | some reply => rw [Except.ok.injEq, Option.some.injEq]

theorem receive_reply_whole {stream : Stream Ending} {length : ℕ}
    (counted : fromLeBytes (stream.bytes.take 8) = length) (positive : 1 ≤ length)
    (bounded : length ≤ maxReplyLen) (whole : 8 + length ≤ stream.bytes.length) :
    ∃ rest : Stream Ending, receiveReplyStream stream =
        (decodeReply (((stream.bytes.drop 8).take (length - 1)).takeWhile (· ≠ 0)), rest) ∧
      rest.bytes = stream.bytes.drop (8 + length) ∧ rest.ending = stream.ending := by
  obtain ⟨middle, read, left, ending⟩ := read_exact_enough (show 8 ≤ stream.bytes.length by omega)
  have fits : length ≤ middle.bytes.length := by
    rw [left, List.length_drop]
    omega
  obtain ⟨rest, read', left', ending'⟩ := read_exact_enough fits
  have legal : ¬(length = 0 ∨ maxReplyLen < length) := by omega
  refine ⟨rest, ?_, by rw [left', left, List.drop_drop], ending'.trans ending⟩
  unfold receiveReplyStream
  rw [read]
  dsimp only
  rw [counted, if_neg legal, read']
  dsimp only
  rw [reply_text_take positive fits, left]

theorem receive_reply_unsound {stream : Stream Ending} {length : ℕ}
    (counted : fromLeBytes (stream.bytes.take 8) = length)
    (unsound : ¬(1 ≤ length ∧ length ≤ maxReplyLen ∧ 8 + length ≤ stream.bytes.length)) :
    ∃ error, (receiveReplyStream stream).1 = .error error := by
  unfold receiveReplyStream
  by_cases header : 8 ≤ stream.bytes.length
  · obtain ⟨middle, read, left, -⟩ := read_exact_enough header
    rw [read]
    dsimp only
    rw [counted]
    by_cases illegal : length = 0 ∨ maxReplyLen < length
    · rw [if_pos illegal]
      exact ⟨_, rfl⟩
    · have short : middle.bytes.length < length := by
        rw [left, List.length_drop]
        omega
      rw [if_neg illegal, read_exact_short short]
      exact ⟨_, rfl⟩
  · rw [read_exact_short (Nat.not_le.mp header)]
    exact ⟨_, rfl⟩

/-- The reply is read exactly where the stream begins with a frame of it, in
whatever pieces it comes and however it ends. -/
theorem receive_reply_ok_iff (stream : Stream Ending) (text : String) :
    (receiveReplyStream stream).1 = .ok text ↔ Framed stream.bytes text := by
  generalize counted : fromLeBytes (stream.bytes.take 8) = length
  by_cases sound : 1 ≤ length ∧ length ≤ maxReplyLen ∧ 8 + length ≤ stream.bytes.length
  · obtain ⟨positive, bounded, whole⟩ := sound
    obtain ⟨rest, received, -⟩ := receive_reply_whole counted positive bounded whole
    rw [received, decode_reply_ok_iff]
    constructor
    · intro payload
      refine ⟨by omega, ?_, ?_, ?_, ?_⟩ <;> rw [counted]
      · exact positive
      · exact bounded
      · exact whole
      · exact payload
    · intro framed
      have payload := framed.payload
      rw [counted] at payload
      exact payload
  · apply iff_of_false
    · obtain ⟨error, failed⟩ := receive_reply_unsound counted sound
      rw [failed]
      intro impossible
      cases impossible
    · intro framed
      apply sound
      rw [← counted]
      exact ⟨framed.positive, framed.bounded, framed.whole⟩

end Format

section Exchange

/-- The bytes in which either side sends a text. -/
def frame (text : String) : List UInt8 :=
  toLeBytes 8 ((utf8 text).length + 1) ++ (utf8 text ++ [0])

theorem frame_length (text : String) : (frame text).length = 8 + ((utf8 text).length + 1) := by
  rw [frame, List.length_append, to_le_bytes_length, List.length_append, List.length_singleton]

theorem take_frame (text : String) (rest : List UInt8) :
    (frame text ++ rest).take 8 = toLeBytes 8 ((utf8 text).length + 1) := by
  rw [frame, List.append_assoc]
  exact List.take_left' (to_le_bytes_length _ _)

theorem drop_frame (text : String) (rest : List UInt8) :
    (frame text ++ rest).drop 8 = utf8 text ++ 0 :: rest := by
  rw [frame, List.append_assoc, List.drop_left' (to_le_bytes_length _ _), List.append_assoc]
  rfl

theorem send_command_eq {command : String} (free : '\x00' ∉ command.toList) :
    sendCommandStream command = (frame command, .ok ()) := by
  rw [← zero_mem_utf8_iff] at free
  rw [sendCommandStream, if_neg free]
  dsimp only
  rw [List.length_append, List.length_singleton, frame]

theorem take_while_free {text : String} (free : '\x00' ∉ text.toList) :
    (utf8 text).takeWhile (· ≠ 0) = utf8 text := by
  rw [← zero_mem_utf8_iff] at free
  rw [List.takeWhile_eq_self_iff]
  intro byte member
  exact decide_eq_true fun zero => free (zero ▸ member)

theorem receive_reply_frame {stream : Stream Ending} {text : String} {rest : List UInt8}
    (free : '\x00' ∉ text.toList) (short : (utf8 text).length + 1 ≤ maxReplyLen)
    (whole : stream.bytes = frame text ++ rest) :
    ∃ left : Stream Ending, receiveReplyStream stream = (.ok text, left) ∧
      left.bytes = rest ∧ left.ending = stream.ending := by
  have fits : (utf8 text).length + 1 < 256 ^ 8 := Nat.lt_of_le_of_lt short (by decide)
  have counted : fromLeBytes (stream.bytes.take 8) = (utf8 text).length + 1 := by
    rw [whole, take_frame, from_le_bytes_to_le_bytes fits]
  have enough : 8 + ((utf8 text).length + 1) ≤ stream.bytes.length := by
    rw [whole, List.length_append, frame_length]
    exact Nat.le_add_right _ _
  obtain ⟨left, received, after, ending⟩ :=
    receive_reply_whole counted (Nat.succ_pos _) short enough
  refine ⟨left, ?_, ?_, ending⟩
  · rw [received, whole, drop_frame, Nat.add_sub_cancel, List.take_left, take_while_free free,
      decode_reply_ok_iff.mpr rfl]
  · rw [after, whole]
    exact List.drop_left' (frame_length text)

/-- What the client makes of a text that comes in a frame. -/
def taken (text : String) : Except IoError String :=
  if maxReplyLen < (utf8 text).length + 1 then
    .error ⟨.invalidData, "Invalid reply length: " ++ toString ((utf8 text).length + 1)⟩
  else .ok (beforeNul text)

theorem receive_frame {stream : Stream Ending} {text : String}
    (fits : (utf8 text).length + 1 < 256 ^ 8) (whole : stream.bytes = frame text) :
    (receiveReplyStream stream).1 = taken text := by
  have shown := take_frame text []
  have behind := drop_frame text []
  rw [List.append_nil, ← whole] at shown behind
  have counted : fromLeBytes (stream.bytes.take 8) = (utf8 text).length + 1 := by
    rw [shown, from_le_bytes_to_le_bytes fits]
  have enough : 8 + ((utf8 text).length + 1) ≤ stream.bytes.length := by
    rw [whole, frame_length]
  by_cases long : maxReplyLen < (utf8 text).length + 1
  · obtain ⟨middle, read, -⟩ := read_exact_enough (show 8 ≤ stream.bytes.length by omega)
    rw [receiveReplyStream, read]
    dsimp only
    rw [counted, if_pos (Or.inr long), taken, if_pos long]
  · obtain ⟨left, received, -⟩ :=
      receive_reply_whole counted (Nat.succ_pos _) (Nat.le_of_not_lt long) enough
    rw [received, behind, Nat.add_sub_cancel, List.take_left, taken, if_neg long,
      decode_reply_ok_iff.mpr (utf8_before_nul text)]

theorem handle_connection_frame {server server' : Mockd} {stream : Stream Ending}
    {command response : String} {rest : List UInt8} (free : '\x00' ∉ command.toList)
    (short : (utf8 command).length + 1 ≤ maxCmdLen) (whole : stream.bytes = frame command ++ rest)
    (responds : respond server command = some (response, server')) :
    handleConnection server false stream = ⟨some command, frame response, server'⟩ := by
  have fits : (utf8 command).length + 1 < 256 ^ 8 := Nat.lt_of_le_of_lt short (by decide)
  have header : 8 ≤ stream.bytes.length := by
    rw [whole, List.length_append, frame_length]
    omega
  obtain ⟨middle, read, left, -⟩ := read_exact_enough header
  rw [whole, drop_frame] at left
  have enough : (utf8 command).length + 1 ≤ middle.bytes.length := by
    rw [left, List.length_append, List.length_cons]
    omega
  obtain ⟨last, read', -⟩ := read_exact_enough enough
  have buffer : middle.bytes.take ((utf8 command).length + 1) = utf8 command ++ [0] := by
    rw [left, List.take_append]
    simp
  have cut : (utf8 command ++ [0]).takeWhile (· ≠ 0) = utf8 command := by
    rw [take_while_terminated, take_while_free free]
  rw [handleConnection, read, whole, take_frame]
  dsimp only
  rw [from_le_bytes_to_le_bytes fits, if_neg (by omega), read', buffer]
  dsimp only
  rw [cut, from_utf8_lossy_utf8, responds]
  dsimp only
  rw [if_neg Bool.false_ne_true, List.length_append, List.length_singleton]
  rfl

/-- The exchange loses nothing: the server gets the command and the client its
response, in whatever pieces the bytes arrive and whatever follows them. A
command with a NUL is refused before anything is written, and the client takes
for a reply exactly what begins with a frame. -/
theorem wire_exchange_lossless :
    (∀ (server server' : Mockd) (command response : String) (request reply : Stream Ending),
      '\x00' ∉ command.toList → (utf8 command).length + 1 ≤ maxCmdLen →
      '\x00' ∉ response.toList → (utf8 response).length + 1 ≤ maxReplyLen →
      respond server command = some (response, server') →
      request.bytes = (sendCommandOnStream command reply).1 →
      reply.bytes = (handleConnection server false request).written →
        (handleConnection server false request).command = some command ∧
          (sendCommandOnStream command reply).2.1 = .ok response) ∧
    (∀ (command : String) (stream : Stream Ending), '\x00' ∈ command.toList →
      ∃ error, sendCommandOnStream command stream = ([], .error error, stream)) ∧
    ∀ stream : Stream Ending,
      (∀ text, (receiveReplyStream stream).1 = .ok text ↔ Framed stream.bytes text) ∧
        ((¬∃ text, Framed stream.bytes text) →
          ∃ error, (receiveReplyStream stream).1 = .error error) := by
  refine ⟨?_, ?_, ?_⟩
  · intro server server' command response request reply free short free' short' responds sent
      answered
    have written : (sendCommandOnStream command reply).1 = frame command := by
      rw [sendCommandOnStream, send_command_eq free]
    have handled := handle_connection_frame free short
      (sent.trans (written.trans (List.append_nil _).symm)) responds
    rw [handled] at answered ⊢
    obtain ⟨left, received, -⟩ := receive_reply_frame free' short'
      (answered.trans (List.append_nil _).symm)
    refine ⟨rfl, ?_⟩
    rw [sendCommandOnStream, send_command_eq free]
    dsimp only
    rw [received]
  · intro command stream nul
    rw [← zero_mem_utf8_iff] at nul
    rw [sendCommandOnStream, sendCommandStream, if_pos nul]
    exact ⟨_, rfl⟩
  · intro stream
    refine ⟨receive_reply_ok_iff stream, ?_⟩
    intro unframed
    cases received : (receiveReplyStream stream).1 with
    | error error => exact ⟨error, rfl⟩
    | ok text => exact absurd ⟨text, (receive_reply_ok_iff stream text).mp received⟩ unframed

def oneResponse (response : String) : Mockd where
  commandResponses := (∅ : HashMap String (List String)).insert "show maps json" [response]
  indices := ∅

/-- A frame in two pieces with an interrupted read between them. -/
def pieces (text : String) : Stream Ending where
  pieces := [(frame text).take 3, [], (frame text).drop 3]
  ending := .closed

theorem pieces_bytes (text : String) : (pieces text).bytes = frame text := by
  rw [Stream.bytes, pieces, List.flatten_cons, List.flatten_cons, List.flatten_singleton,
    List.nil_append, List.take_append_drop]

theorem wire_exchange_lossless_split :
    (handleConnection (oneResponse "maps") false (pieces "show maps json")).command =
        some "show maps json" ∧
      (sendCommandOnStream "show maps json" (pieces "maps")).2.1 = .ok "maps" := by
  have free : '\x00' ∉ "show maps json".toList := by decide
  have responds : respond (oneResponse "maps") "show maps json" =
      some ("maps", oneResponse "maps") := by rfl
  have sent : (pieces "show maps json").bytes =
      (sendCommandOnStream "show maps json" (pieces "maps")).1 := by
    rw [pieces_bytes, sendCommandOnStream, send_command_eq free]
  have handled := handle_connection_frame free (by decide)
    ((pieces_bytes "show maps json").trans (List.append_nil _).symm) responds
  apply wire_exchange_lossless.1 (oneResponse "maps") (oneResponse "maps") "show maps json" "maps"
    (pieces "show maps json") (pieces "maps") free (by decide) (by decide) (by decide) responds sent
  rw [pieces_bytes, handled]

end Exchange

end PveSanFenced.Wire
