import PveSanFenced.Connection
import PveSanFenced.Library.Paths

/-!
# The mock server from its arguments to its replies

The server loads a list of replies for each command it knows and hands them
out in turn. Connections come in any number and may carry anything; the turns
only count the commands that were read.
-/

namespace PveSanFenced.MockServer

open PveSanFenced.Connection (receive_cut_frame)
open PveSanFenced.Library.Bytes
open PveSanFenced.Library.Collections
open PveSanFenced.Library.Paths
open PveSanFenced.Library.Text
open PveSanFenced.Wire

set_option autoImplicit false

section Model

/-- What the server reads: a file that is text, and the names in a directory,
each with whether it is a file. A text has at most `isize::MAX` bytes. -/
structure Disk where
  readToString : String → Option String
  readDir : String → Option (List (String × Bool))
  sized : ∀ path text, readToString path = some text → (utf8 text).length < 2 ^ 63

structure Cli where
  testDataDir : String
  fileMap : List String
  hang : Bool
  unresponsive : Bool

def commandToSubdir : String → String
  | "show maps json" => "show_maps_json"
  | "show topology" => "show_topology"
  | "list maps" => "list_maps"
  | "show status" => "show_status"
  | "show config" => "show_config"
  | "show config local" => "show_config_local"
  | _ => ""

def defaultFilenameForCommand : String → String
  | "show maps json" => "all_active_running.json"
  | "show topology" => "show_topology.txt"
  | "list maps" => "list_maps.txt"
  | "show status" => "show_status.txt"
  | "show config" => "show_config.txt"
  | "show config local" => "ok.txt"
  | _ => ""

def knownCommands : List String :=
  ["show maps json", "show topology", "list maps", "show status", "show config",
    "show config local"]

/-- One `--file-map`, unless it is ignored with a warning. -/
def parseMapping (mapping : String) : Option (String × List String) :=
  (splitOnce '=' mapping).map fun pair =>
    (trim pair.1, (splitChar ',' pair.2).map trim)

def customMappings (cli : Cli) : HashMap String (List String) :=
  insertAll (cli.fileMap.filterMap parseMapping) ∅

/-- The default file, and behind it the other files of the directory in the
order of their names. -/
def subdirContents (disk : Disk) (directory defaultFile : String) : List String :=
  let files := ((disk.readDir directory).getD []).filter fun entry => entry.2
  let sorted := (files.map fun entry => entry.1).insertionSort (· ≤ ·)
  let others := sorted.filter (· ≠ defaultFile)
  (disk.readToString (join directory defaultFile)).toList ++
    others.filterMap fun filename => disk.readToString (join directory filename)

def loadCommand (disk : Disk) (cli : Cli) (command : String) : Option (List String) :=
  match (customMappings cli).lookup command with
  | some fileList =>
      let fileContents := fileList.filterMap fun filename =>
        disk.readToString (join cli.testDataDir filename)
      if fileContents.isEmpty then none else some fileContents
  | none =>
      let subdir := commandToSubdir command
      if subdir = "" then none
      else
        let defaultFile := defaultFilenameForCommand command
        let fileContents := subdirContents disk (join cli.testDataDir subdir) defaultFile
        if fileContents.isEmpty then
          (disk.readToString (join cli.testDataDir defaultFile)).map ([·])
        else some fileContents

def noMaps : String := "\x7b\"major_version\": 0, \"minor_version\": 1, \"maps\": []\x7d"

def loaded (disk : Disk) (cli : Cli) : HashMap String (List String) :=
  insertAll (knownCommands.filterMap fun command =>
    (loadCommand disk cli command).map fun contents => (command, contents)) ∅

def commandResponses (disk : Disk) (cli : Cli) : HashMap String (List String) :=
  if ((loaded disk cli).lookup "show maps json").isSome then loaded disk cli
  else (loaded disk cli).insert "show maps json" [noMaps]

def start (disk : Disk) (cli : Cli) : Mockd where
  commandResponses := commandResponses disk cli
  indices := ∅

/-- A client that connects. An unresponsive server never accepts it. -/
def incoming (cli : Cli) (server : Mockd) (request : Stream Ending) : Handled :=
  if cli.unresponsive then ⟨none, [], server⟩ else handleConnection server cli.hang request

/-- The states after some connections, and the commands read from them. The
connections stand in the order in which they take their turn. -/
inductive Served (disk : Disk) (cli : Cli) : Mockd → List String → Prop
  | started : Served disk cli (start disk cli) []
  | connection {server : Mockd} {commands : List String}
      (served : Served disk cli server commands) (request : Stream Ending) :
      Served disk cli (incoming cli server request).server
        (commands ++ (incoming cli server request).command.toList)

end Model

section Loading

variable {disk : Disk} {cli : Cli} {command : String} {files : List String}

theorem load_command_filled (loads : loadCommand disk cli command = some files) : files ≠ [] := by
  rw [loadCommand] at loads
  split at loads
  · dsimp only at loads
    split_ifs at loads with empty
    rw [← Option.some.inj loads]
    exact fun none => empty (List.isEmpty_iff.mpr none)
  · dsimp only at loads
    split_ifs at loads with unknown empty
    · obtain ⟨text, -, single⟩ := Option.map_eq_some_iff.mp loads
      rw [← single]
      exact List.cons_ne_nil _ _
    · rw [← Option.some.inj loads]
      exact fun none => empty (List.isEmpty_iff.mpr none)

theorem load_command_read (loads : loadCommand disk cli command = some files) {text : String}
    (member : text ∈ files) : ∃ path, disk.readToString path = some text := by
  rw [loadCommand] at loads
  split at loads
  · dsimp only at loads
    split_ifs at loads with empty
    rw [← Option.some.inj loads] at member
    obtain ⟨filename, -, read⟩ := List.mem_filterMap.mp member
    exact ⟨_, read⟩
  · dsimp only at loads
    split_ifs at loads with unknown empty
    · obtain ⟨only, read, single⟩ := Option.map_eq_some_iff.mp loads
      rw [← single, List.mem_singleton] at member
      rw [member]
      exact ⟨_, read⟩
    · rw [← Option.some.inj loads, subdirContents, List.mem_append] at member
      cases member with
      | inl first => exact ⟨_, Option.mem_toList.mp first⟩
      | inr other =>
          obtain ⟨filename, -, read⟩ := List.mem_filterMap.mp other
          exact ⟨_, read⟩

theorem of_lookup_loaded (found : (loaded disk cli).lookup command = some files) :
    loadCommand disk cli command = some files := by
  cases of_lookup_insert_all found with
  | inl member =>
      obtain ⟨known, -, loads⟩ := List.mem_filterMap.mp member
      obtain ⟨contents, loads, same⟩ := Option.map_eq_some_iff.mp loads
      rw [Prod.mk.injEq] at same
      rw [← same.1, ← same.2, loads]
  | inr empty => simp at empty

theorem of_lookup_responses (found : (commandResponses disk cli).lookup command = some files) :
    loadCommand disk cli command = some files ∨ files = [noMaps] := by
  rw [commandResponses] at found
  split_ifs at found with maps
  · exact Or.inl (of_lookup_loaded found)
  · by_cases here : command = "show maps json"
    · rw [here, Finmap.lookup_insert] at found
      exact Or.inr (Option.some.inj found).symm
    · rw [Finmap.lookup_insert_of_ne _ here] at found
      exact Or.inl (of_lookup_loaded found)

structure Filled (responses : HashMap String (List String)) : Prop where
  filled : ∀ command files, responses.lookup command = some files → files ≠ []
  maps : (responses.lookup "show maps json").isSome = true

theorem filled_responses : Filled (commandResponses disk cli) where
  filled command files found := by
    cases of_lookup_responses found with
    | inl loads => exact load_command_filled loads
    | inr single =>
        rw [single]
        exact List.cons_ne_nil _ _
  maps := by
    rw [commandResponses]
    split_ifs with maps
    · exact maps
    · rw [Finmap.lookup_insert]
      rfl

theorem responses_fit (found : (commandResponses disk cli).lookup command = some files)
    {text : String} (member : text ∈ files) : (utf8 text).length + 1 < 256 ^ 8 := by
  cases of_lookup_responses found with
  | inl loads =>
      obtain ⟨path, read⟩ := load_command_read loads member
      have sized := disk.sized path text read
      omega
  | inr single =>
      rw [single, List.mem_singleton] at member
      rw [member]
      decide

end Loading

section Turns

variable {server : Mockd} {hang : Bool}

/-- The command whose replies a command gets. -/
def answeredAs (responses : HashMap String (List String)) (command : String) : String :=
  if (responses.lookup command).isSome then command else "show maps json"

/-- The counters after the turns taken so far. A list of one reply has none. -/
structure Turns (responses : HashMap String (List String)) (taken : List String)
    (server : Mockd) : Prop where
  same : server.commandResponses = responses
  count : ∀ key files, responses.lookup key = some files → files.length ≠ 1 →
    (server.indices.lookup key).getD 0 = taken.count key % files.length

theorem turns_start (responses : HashMap String (List String)) :
    Turns responses [] ⟨responses, ∅⟩ where
  same := rfl
  count key files found several := by simp

theorem pick_several (server : Mockd) (key : String) {files : List String}
    (several : files.length ≠ 1) : pick server key files =
      (nextIndex server.indices key files.length).bind fun next =>
        files[next.1]?.map fun file => (file, { server with indices := next.2 }) := by
  unfold pick
  split
  · exact absurd rfl several
  · cases nextIndex server.indices key files.length with
    | none => rfl
    | some next =>
        change (files[next.1]?.bind fun file => some (file, _)) = _
        rw [Option.bind_some]
        cases files[next.1]? <;> rfl

variable {responses : HashMap String (List String)} {taken : List String}

theorem turns_other {key : String} {files : List String} (found : responses.lookup key = some files)
    (single : files.length = 1) (turns : Turns responses taken server) :
    Turns responses (taken ++ [key]) server where
  same := turns.same
  count key' files' found' several := by
    have different : key' ≠ key := by
      intro here
      rw [here, found] at found'
      exact several (Option.some.inj found' ▸ single)
    rw [turns.count key' files' found' several, List.count_append, List.count_singleton,
      if_neg (by simpa using different.symm), Nat.add_zero]

theorem turns_advance {key : String} {files : List String}
    (found : responses.lookup key = some files) (turns : Turns responses taken server) :
    Turns responses (taken ++ [key]) { server with
      indices := server.indices.insert key ((taken.count key % files.length + 1) % files.length) }
    where
  same := turns.same
  count key' files' found' several' := by
    rw [List.count_append, List.count_singleton]
    by_cases here : key' = key
    · rw [here, found, Option.some.injEq] at found'
      rw [here, ← found', Finmap.lookup_insert, Option.getD_some, if_pos (by simp),
        Nat.mod_add_mod]
    · rw [Finmap.lookup_insert_of_ne _ here, turns.count key' files' found' several',
        if_neg (by simpa using Ne.symm here), Nat.add_zero]

theorem pick_turn (turns : Turns responses taken server) {key : String} {files : List String}
    (found : responses.lookup key = some files) (filled : files ≠ []) :
    ∃ response server', pick server key files = some (response, server') ∧
      files[taken.count key % files.length]? = some response ∧
      Turns responses (taken ++ [key]) server' := by
  by_cases single : files.length = 1
  · obtain ⟨file, rfl⟩ := List.length_eq_one_iff.mp single
    refine ⟨file, server, rfl, ?_, turns_other found single turns⟩
    rw [single, Nat.mod_one]
    rfl
  · have positive : 0 < files.length := List.length_pos_iff.mpr filled
    have inside : taken.count key % files.length < files.length := Nat.mod_lt _ positive
    have next : nextIndex server.indices key files.length =
        some (taken.count key % files.length, server.indices.insert key
          ((taken.count key % files.length + 1) % files.length)) := by
      rw [nextIndex, turns.count key files found single, if_neg (Nat.ne_of_gt positive)]
    refine ⟨files[taken.count key % files.length], _, ?_, List.getElem?_eq_getElem inside,
      turns_advance found turns⟩
    rw [pick_several server key single, next, Option.bind_some, List.getElem?_eq_getElem inside,
      Option.map_some]

theorem respond_turn (filled : Filled responses) (turns : Turns responses taken server)
    (command : String) : ∃ files response server',
      responses.lookup (answeredAs responses command) = some files ∧
      respond server command = some (response, server') ∧
      files[taken.count (answeredAs responses command) % files.length]? = some response ∧
      Turns responses (taken ++ [answeredAs responses command]) server' := by
  rw [respond, turns.same]
  cases known : responses.lookup command with
  | some files =>
      have itself : answeredAs responses command = command := by
        rw [answeredAs, known]
        rfl
      obtain ⟨response, server', picked, reply, after⟩ :=
        pick_turn turns known (filled.filled command files known)
      rw [itself]
      exact ⟨files, response, server', known, picked, reply, after⟩
  | none =>
      have fallback : answeredAs responses command = "show maps json" := by
        rw [answeredAs, known]
        rfl
      obtain ⟨files, maps⟩ := Option.isSome_iff_exists.mp filled.maps
      obtain ⟨response, server', picked, reply, after⟩ :=
        pick_turn turns maps (filled.filled _ files maps)
      rw [fallback]
      refine ⟨files, response, server', maps, ?_, reply, after⟩
      dsimp only
      rw [maps]
      exact picked

theorem take_header (length : ℕ) (payload : List UInt8) :
    (toLeBytes 8 length ++ payload).take 18 = toLeBytes 8 length ++ payload.take 10 := by
  rw [List.take_append, to_le_bytes_length, List.take_of_length_le]
  rw [to_le_bytes_length]
  omega

/-- What becomes of a command once it is read. A hanging server stops after the
header and ten bytes. -/
def answerCommand (server : Mockd) (hang : Bool) (command : String) : Handled :=
  match respond server command with
  | none => ⟨some command, [], server⟩
  | some (response, server') =>
      ⟨some command, if hang then (frame response).take 18 else frame response, server'⟩

theorem handle_connection_cases (request : Stream Ending) :
    (∀ server hang, handleConnection server hang request = ⟨none, [], server⟩) ∨
      ∃ command, ∀ server hang,
        handleConnection server hang request = answerCommand server hang command := by
  unfold handleConnection
  cases request.readExact 8 with
  | mk header stream =>
      cases header with
      | error ending => exact Or.inl fun server hang => rfl
      | ok lenBytes =>
          dsimp only
          by_cases long : maxCmdLen < fromLeBytes lenBytes
          · exact Or.inl fun server hang => if_pos long
          · simp only [if_neg long]
            cases stream.readExact (fromLeBytes lenBytes) with
            | mk body rest =>
                cases body with
                | error ending => exact Or.inl fun server hang => rfl
                | ok commandBuf =>
                    dsimp only
                    generalize fromUtf8Lossy (commandBuf.takeWhile (· ≠ 0)) = command
                    refine Or.inr ⟨command, fun server hang => ?_⟩
                    rw [answerCommand]
                    cases respond server command with
                    | none => rfl
                    | some answered =>
                        cases hang with
                        | false => exact congrArg (Handled.mk _ · _) (by simp [frame])
                        | true =>
                            apply congrArg (Handled.mk _ · _)
                            rw [if_pos rfl, frame, take_header]
                            simp

theorem handle_connection_turn (filled : Filled responses) (turns : Turns responses taken server)
    (request : Stream Ending) : Turns responses
      (taken ++ (handleConnection server hang request).command.toList.map (answeredAs responses))
      (handleConnection server hang request).server := by
  cases handle_connection_cases request with
  | inl silent =>
      rw [silent]
      simpa using turns
  | inr read =>
      obtain ⟨command, answers⟩ := read
      obtain ⟨files, response, server', -, responds, -, after⟩ := respond_turn filled turns command
      rw [answers, answerCommand, responds]
      exact after

theorem incoming_turn {cli : Cli} (filled : Filled responses) (turns : Turns responses taken server)
    (request : Stream Ending) : Turns responses
      (taken ++ (incoming cli server request).command.toList.map (answeredAs responses))
      (incoming cli server request).server := by
  unfold incoming
  split_ifs with unresponsive
  · simpa using turns
  · exact handle_connection_turn filled turns request

theorem served_turns {disk : Disk} {cli : Cli} {commands : List String}
    (served : Served disk cli server commands) : Turns (commandResponses disk cli)
      (commands.map (answeredAs (commandResponses disk cli))) server := by
  induction served with
  | started => exact turns_start _
  | connection served request ih =>
      rw [List.map_append]
      exact incoming_turn filled_responses ih request

end Turns

section Replies

variable {disk : Disk} {cli : Cli} {server server' : Mockd} {commands : List String}
  {command response : String} {request reply : Stream Ending}

/-- What both ends of a connection see of each other. -/
structure Connected (cli : Cli) (server : Mockd) (command : String)
    (request reply : Stream Ending) : Prop where
  sent : request.bytes = (sendCommandOnStream command reply).1
  answered : reply.bytes = (incoming cli server request).written

/-- The text whose turn it is for a command, after the commands before. -/
def InTurn (responses : HashMap String (List String)) (commands : List String)
    (command text : String) : Prop :=
  ∃ files, responses.lookup (answeredAs responses command) = some files ∧
    files[(commands.map (answeredAs responses)).count (answeredAs responses command) %
      files.length]? = some text

theorem responds_in_turn (served : Served disk cli server commands) (command : String) :
    ∃ response server', respond server command = some (response, server') ∧
      InTurn (commandResponses disk cli) commands command response ∧
        (utf8 response).length + 1 < 256 ^ 8 := by
  obtain ⟨files, response, server', found, responds, turn, -⟩ :=
    respond_turn filled_responses (served_turns served) command
  exact ⟨response, server', responds, ⟨files, found, turn⟩,
    responses_fit found (List.mem_of_getElem? turn)⟩

theorem written_hanging (server : Mockd) (request : Stream Ending) :
    (handleConnection server true request).written =
      (handleConnection server false request).written.take 18 := by
  cases handle_connection_cases request with
  | inl silent =>
      rw [silent, silent]
      rfl
  | inr read =>
      obtain ⟨command, answers⟩ := read
      rw [answers, answers, answerCommand, answerCommand]
      cases respond server command with
      | none => rfl
      | some answered => rfl

theorem written_frame (free : '\x00' ∉ command.toList)
    (short : (utf8 command).length + 1 ≤ maxCmdLen)
    (responds : respond server command = some (response, server'))
    (sent : request.bytes = (sendCommandOnStream command reply).1) :
    (handleConnection server false request).written = frame response := by
  have written : (sendCommandOnStream command reply).1 = frame command := by
    rw [sendCommandOnStream, send_command_eq free]
  rw [handle_connection_frame free short
    (sent.trans (written.trans (List.append_nil _).symm)) responds]

theorem received_eq (free : '\x00' ∉ command.toList) :
    (sendCommandOnStream command reply).2.1 = (receiveReplyStream reply).1 := by
  rw [sendCommandOnStream, send_command_eq free]

/-- Whatever the connections before have carried, a client gets the reply
whose turn it is in the list of its command, or of the maps when there is none,
up to its first NUL. Only a reply that is too long for the client is refused. -/
theorem mock_replies_in_turn (served : Served disk cli server commands)
    (responsive : cli.unresponsive = false) (running : cli.hang = false)
    (free : '\x00' ∉ command.toList) (short : (utf8 command).length + 1 ≤ maxCmdLen)
    (connected : Connected cli server command request reply) :
    ∃ text, InTurn (commandResponses disk cli) commands command text ∧
      (sendCommandOnStream command reply).2.1 = taken text := by
  obtain ⟨response, server', responds, turn, fits⟩ := responds_in_turn served command
  have answered := connected.answered
  rw [incoming, responsive, if_neg Bool.false_ne_true, running,
    written_frame free short responds connected.sent] at answered
  exact ⟨response, turn, (received_eq free).trans (receive_frame fits answered)⟩

def twoFiles : Disk where
  readToString path :=
    if path = "data/a" then some "first\x00" else if path = "data/b" then some "second" else none
  readDir _ := none
  sized path text read := by
    split_ifs at read
    · rw [← Option.some.inj read]
      decide
    · rw [← Option.some.inj read]
      decide

def mapped (hang : Bool) : Cli := ⟨"data", ["show maps json = a, b"], hang, false⟩

theorem responses_mapped (hang : Bool) :
    (commandResponses twoFiles (mapped hang)).lookup "show maps json" =
      some ["first\x00", "second"] ∧
    answeredAs (commandResponses twoFiles (mapped hang)) "show topology" = "show maps json" := by
  cases hang <;> decide +kernel

def asked : Handled :=
  incoming (mapped false) (start twoFiles (mapped false)) (pieces "show topology")

def answer (hang : Bool) (server : Mockd) : Stream Ending where
  pieces := [(incoming (mapped hang) server (pieces "show maps json")).written]
  ending := .closed

theorem asked_command : asked.command = some "show topology" := by
  obtain ⟨response, server', responds, -⟩ :=
    responds_in_turn (@Served.started twoFiles (mapped false)) "show topology"
  have handled := handle_connection_frame (by decide) (by decide)
    ((pieces_bytes "show topology").trans (List.append_nil _).symm) responds
  have accepted : asked =
    handleConnection (start twoFiles (mapped false)) false (pieces "show topology") := rfl
  rw [accepted, handled]

theorem answer_connected (hang : Bool) (server : Mockd) :
    Connected (mapped hang) server "show maps json" (pieces "show maps json")
      (answer hang server) where
  sent := by
    rw [pieces_bytes, sendCommandOnStream, send_command_eq (by decide)]
  answered := by
    rw [Stream.bytes, answer, List.flatten_singleton]

theorem mapped_in_turn {hang : Bool} {commands : List String} {text : String}
    (turn : InTurn (commandResponses twoFiles (mapped hang)) commands "show maps json" text) :
    ["first\x00", "second"][(commands.map
      (answeredAs (commandResponses twoFiles (mapped hang)))).count "show maps json" % 2]? =
        some text := by
  obtain ⟨files, found, turn⟩ := turn
  have itself : answeredAs (commandResponses twoFiles (mapped hang)) "show maps json" =
      "show maps json" := by
    rw [answeredAs, (responses_mapped hang).1]
    rfl
  rw [itself, (responses_mapped hang).1] at found
  rw [← Option.some.inj found, itself] at turn
  exact turn

theorem mock_replies_in_turn_second :
    (sendCommandOnStream "show maps json" (answer false asked.server)).2.1 = .ok "second" := by
  obtain ⟨text, turn, received⟩ := mock_replies_in_turn
    (Served.connection Served.started (pieces "show topology")) rfl rfl (by decide) (by decide)
    (answer_connected false asked.server)
  have second := mapped_in_turn turn
  change [_, _][(([] ++ asked.command.toList).map _).count _ % 2]? = _ at second
  rw [asked_command, Option.toList_some, List.nil_append, List.map_singleton,
    (responses_mapped false).2] at second
  rw [received, ← Option.some.inj second]
  decide

theorem nothing_received (nothing : reply.bytes = []) (received : String) :
    (receiveReplyStream reply).1 ≠ .ok received := by
  intro got
  have framed := (receive_reply_ok_iff reply received).mp got
  have header := framed.header
  rw [nothing] at header
  exact absurd header (by decide)

/-- A hanging server keeps its turns too, but a client gets the reply only if it
has nine bytes at most, and nothing ever from an unresponsive one. -/
theorem hanging_mock_replies (served : Served disk cli server commands)
    (stuck : cli.hang = true ∨ cli.unresponsive = true)
    (free : '\x00' ∉ command.toList) (short : (utf8 command).length + 1 ≤ maxCmdLen)
    (connected : Connected cli server command request reply) :
    ∃ text, InTurn (commandResponses disk cli) commands command text ∧
      ∀ received, (sendCommandOnStream command reply).2.1 = .ok received ↔
        received = beforeNul text ∧ (utf8 text).length ≤ 9 ∧ cli.unresponsive = false := by
  obtain ⟨response, server', responds, turn, fits⟩ := responds_in_turn served command
  refine ⟨response, turn, fun received => ?_⟩
  have answered := connected.answered
  rw [received_eq free]
  cases unresponsive : cli.unresponsive with
  | true =>
      rw [incoming, unresponsive, if_pos rfl] at answered
      exact iff_of_false (nothing_received answered received) (by simp)
  | false =>
      have hangs := stuck.resolve_right (by simp [unresponsive])
      rw [incoming, unresponsive, if_neg Bool.false_ne_true, hangs, written_hanging,
        written_frame free short responds connected.sent] at answered
      by_cases brief : (utf8 response).length ≤ 9
      · have whole : (frame response).take 18 = frame response := by
          rw [List.take_of_length_le]
          rw [frame_length]
          omega
        have bounded : ¬maxReplyLen < (utf8 response).length + 1 := by
          rw [maxReplyLen]
          omega
        rw [receive_frame fits (answered.trans whole), taken, if_neg bounded, Except.ok.injEq]
        exact ⟨fun same => ⟨same.symm, brief, rfl⟩, fun got => got.1.symm⟩
      · have cut : 18 < (frame response).length := by
          rw [frame_length]
          omega
        exact iff_of_false (receive_cut_frame fits cut answered received) fun got => brief got.2.1

theorem hanging_mock_replies_first :
    (sendCommandOnStream "show maps json" (answer true (start twoFiles (mapped true)))).2.1 =
      .ok "first" := by
  obtain ⟨text, turn, received⟩ := hanging_mock_replies Served.started (Or.inl rfl)
    (by decide) (by decide) (answer_connected true (start twoFiles (mapped true)))
  have first := Option.some.inj (mapped_in_turn turn)
  rw [received, ← first]
  decide

end Replies

end PveSanFenced.MockServer
