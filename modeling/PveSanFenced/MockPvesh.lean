import PveSanFenced.LocalFiles
import PveSanFenced.Lsblk

/-!
# Discovery against recorded answers

`pvesh-mock` stands in for `pvesh`: it takes the path of a query apart and
answers from the files of a directory. The variable that names the directory
changes the client too, which then takes the multipath map from a recorded
lsblk forest. Discovery on a recording of a node finds what discovery on that
node finds, although the two fail with different messages.
-/

namespace PveSanFenced.MockPvesh

open PveSanFenced.Discovery
open PveSanFenced.Disks
open PveSanFenced.Library.Collections
open PveSanFenced.Library.Paths
open PveSanFenced.Library.Text
open PveSanFenced.LocalFiles
open PveSanFenced.Lsblk
open PveSanFenced.Pvesh
open PveSanFenced.Sysfs

set_option autoImplicit false

section Model

inductive CommandType where
  | ls
  | get
  deriving DecidableEq, Repr

/-- The derived `Debug` form. -/
def CommandType.debug : CommandType → String
  | .ls => "Ls"
  | .get => "Get"

structure Cli where
  command : CommandType
  path : String
  outputFormat : String
  error : Bool

/-- The machine of a test. `testDataVar` is `PVE_SAN_TEST_DATA_DIR`, which the
client hands down to the mock; `PVE_SAN_SYS_PATH` is unset. `workspace` is three
levels above the mock, `toStringPretty` prints JSON again where it parses, and
`lsblkOutput` are the devices of an output of lsblk. -/
structure Bench where
  testDataVar : Option String
  workspace : String
  readToString : String → Option String
  pathExists : String → Bool
  toStringPretty : String → Option String
  lsblkOutput : String → Option (Option (List LsblkDevice))
  blockDevices : Except String (List String)
  blockDevicesAgain : Except String (List String)
  sys : SysBlock

variable (bench : Bench)

def Bench.testDataDir : String :=
  bench.testDataVar.getD (join bench.workspace "test-data/pvesh")

def Bench.handleLsNodesQemu (node : String) : Option String :=
  bench.readToString (join bench.testDataDir ("get_nodes/" ++ node ++ "_qemu.json")) <|>
    bench.readToString (join bench.testDataDir "get_nodes/pve001_qemu.json")

def Bench.handleGetVmConfig (vmid : String) : Option String :=
  bench.readToString (join (join (join bench.testDataDir "get_nodes") "config") (vmid ++ ".json"))

/-- The response to a path, `none` where the path is not supported. -/
def Bench.response : CommandType → List String → Option (Option String)
  | .ls, ["nodes", node, "qemu"] => some (bench.handleLsNodesQemu node)
  | .get, ["nodes", node, "qemu"] => some (bench.handleLsNodesQemu node)
  | .get, ["nodes", _, "qemu", vmid, "config"] => some (bench.handleGetVmConfig vmid)
  | _, _ => none

/-- What the mock prints, or what it says when it leaves with an error. -/
def Bench.answer (cli : Cli) : Except String String :=
  if cli.error then .error "pvesh-mock: simulated pvesh error\n"
  else
    let pathParts := splitChar '/' (trimMatches '/' cli.path)
    match bench.response cli.command pathParts with
    | none => .error ("Error: Unsupported path for command: " ++ cli.command.debug ++ "/" ++
        debugStr cli.path ++ " (" ++ debugList pathParts ++ ")\n")
    | some response =>
        if cli.outputFormat = "json" ∨ cli.outputFormat = "json-pretty" then
          match response with
          | none => .error ("Error: No test data found for " ++ cli.command.debug ++ "/" ++
              cli.path ++ "\n")
          | some json =>
              .ok (if cli.outputFormat = "json-pretty" then (bench.toStringPretty json).getD json
                else json)
        else .error ("Error: Unsupported output format: " ++ cli.outputFormat ++ "\n")

/-- What the client makes of an exit. The mock takes the one command line that
the client gives it; clap refuses the others. -/
def Bench.pvesh : List String → Except PveSanError String
  | [_, command, path, option, format] =>
      if command = "get" ∧ option = "--output-format" ∧ format = "json" then
        (bench.answer ⟨.get, path, "json", false⟩).mapError fun stderr =>
          .pveshError ("pvesh command failed with status exit status: 1: " ++ stderr)
      else .error (.pveshError "pvesh command failed with status exit status: 2: ")
  | _ => .error (.pveshError "pvesh command failed with status exit status: 2: ")

/-- The file that is read in the place of one under `/etc/pve`: the one of
this name beside the test data, if there is one. -/
def Bench.localPath (production : String) : String :=
  match bench.testDataVar.bind parent with
  | none => production
  | some above =>
      let path := join (join above "pve/local/qemu-server") ((splitChar '/' production).getLastD "")
      if bench.pathExists path then path else production

/-- What the client meets there, with the JSON parser of `host`. -/
def mocked (host : PveHost) : PveHost :=
  { host with
    pvesh := bench.pvesh
    configFile := fun path => bench.readToString (bench.localPath path)
    blockDevices := bench.blockDevices
    blockDevicesAgain := bench.blockDevicesAgain
    sys := bench.sys }

def Bench.mpathMap (host : PveHost) : HashMap String (Finset String) :=
  match bench.testDataVar with
  | some dir =>
      match (bench.readToString (join dir "lsblk.json")).bind bench.lsblkOutput with
      | some (some devices) => buildMpathMap devices
      | _ => ∅
  | none => mpathMapOf (mocked bench host)

/-- `get_san_storage_info` with both sources of its multipath map. -/
def Bench.getSanStorageInfo (host : PveHost) (client : PveSanConfig) :
    Except PveSanError SanStorageInfo := do
  let vms ← listRunningVms (mocked bench host) client
  let (vmInfos, multipathDevices) ←
    collectVms (mocked bench host) client (bench.mpathMap host) vms [] ∅
  match bench.blockDevicesAgain with
  | .error message => .error (.lsblkError message)
  | .ok _ => .ok ⟨client.node, vmInfos, multipathDevices⟩

/-- Without the variable the query is the daemon's. -/
theorem get_san_storage_info_unset (host : PveHost) (client : PveSanConfig)
    (unset : bench.testDataVar = none) :
    bench.getSanStorageInfo host client = getSanStorageInfo (mocked bench host) client := by
  have sysfs : bench.mpathMap host = mpathMapOf (mocked bench host) := by
    rw [Bench.mpathMap, unset]
  rw [Bench.getSanStorageInfo, sysfs]
  rfl

end Model

section Paths

theorem vmid_plain (vmid : UInt64) : '/' ∉ (toString vmid).toList := by
  intro member
  exact absurd (to_string_digits vmid '/' member) (by decide)

theorem trim_nodes (inner : List Char) (last : Char) (closing : last ≠ '/') :
    trimMatches '/' ("/nodes/" ++ String.ofList (inner ++ [last])) =
      "nodes/" ++ String.ofList (inner ++ [last]) := by
  have outer : "/nodes/" ++ String.ofList (inner ++ [last]) =
      String.ofList ('/' :: 'n' :: ("odes/".toList ++ inner ++ [last])) := by
    apply String.ext
    simp
  rw [outer, trim_matches_cons (by decide) closing]
  apply String.ext
  simp

theorem split_nodes (node : String) (rest : List Char) :
    splitChar '/' ("nodes/" ++ String.ofList (node.toList ++ '/' :: rest)) =
      "nodes" :: (splitChar '/' node ++ splitChar '/' (String.ofList rest)) := by
  have text : "nodes/" ++ String.ofList (node.toList ++ '/' :: rest) =
      "nodes" ++ String.singleton '/' ++ String.ofList (node.toList ++ '/' :: rest) := by
    apply String.ext
    simp
  rw [text, split_char_append _ (by decide), split_char_slash, String.ofList_toList]

theorem path_parts_list (node : String) :
    splitChar '/' (trimMatches '/' ("/nodes/" ++ node ++ "/qemu")) =
      "nodes" :: (splitChar '/' node ++ ["qemu"]) := by
  have text : "/nodes/" ++ node ++ "/qemu" =
      "/nodes/" ++ String.ofList (node.toList ++ '/' :: "qem".toList ++ ['u']) := by
    apply String.ext
    simp
  rw [text, trim_nodes _ _ (by decide), List.append_assoc]
  exact split_nodes node "qemu".toList

theorem path_parts_config (node : String) (vmid : UInt64) :
    splitChar '/' (trimMatches '/' ("/nodes/" ++ node ++ "/qemu/" ++ toString vmid ++ "/config")) =
      "nodes" :: (splitChar '/' node ++ ["qemu", toString vmid, "config"]) := by
  have text : "/nodes/" ++ node ++ "/qemu/" ++ toString vmid ++ "/config" = "/nodes/" ++
      String.ofList (node.toList ++ '/' :: ("qemu/".toList ++ (toString vmid).toList ++
        "/confi".toList) ++ ['g']) := by
    apply String.ext
    simp
  have inner : String.ofList ("qemu/".toList ++ (toString vmid).toList ++ "/config".toList) =
      "qemu" ++ String.singleton '/' ++ (toString vmid ++ String.singleton '/' ++ "config") := by
    apply String.ext
    simp
  have split : splitChar '/' "config" = ["config"] := by decide
  rw [text, trim_nodes _ _ (by decide), List.append_assoc, List.cons_append, List.append_assoc]
  rw [split_nodes, show "/confi".toList ++ ['g'] = "/config".toList from rfl, inner,
    split_char_append _ (by decide), split_char_append _ (vmid_plain vmid), split]

end Paths

section Answers

variable {bench : Bench} {host : PveHost} {client : PveSanConfig}

theorem response_get_iff (parts : List String) (response : Option String) :
    bench.response .get parts = some response ↔
      (∃ node, parts = ["nodes", node, "qemu"] ∧ response = bench.handleLsNodesQemu node) ∨
        ∃ node vmid, parts = ["nodes", node, "qemu", vmid, "config"] ∧
          response = bench.handleGetVmConfig vmid := by
  constructor
  · intro found
    unfold Bench.response at found
    split at found
    · contradiction
    · exact Or.inl ⟨_, rfl, (Option.some.inj found).symm⟩
    · exact Or.inr ⟨_, _, rfl, (Option.some.inj found).symm⟩
    · cases found
  · intro kinds
    rcases kinds with ⟨node, rfl, rfl⟩ | ⟨node, vmid, rfl, rfl⟩
    · rfl
    · rfl

/-- A node's name with a slash adds parts to the path that the mock does not
expect. -/
theorem response_slash {node : String} (slash : '/' ∈ node.toList) {last : List String}
    (ends : last = ["qemu"] ∨ ∃ vmid, last = ["qemu", vmid, "config"]) :
    bench.response .get ("nodes" :: (splitChar '/' node ++ last)) = none := by
  have several := (two_le_split_char_iff '/' node).mpr slash
  cases found : bench.response .get ("nodes" :: (splitChar '/' node ++ last)) with
  | none => rfl
  | some response =>
      exfalso
      rw [response_get_iff] at found
      rcases found with ⟨other, parts, -⟩ | ⟨other, vmid, parts, -⟩
      · have count := congrArg List.length parts
        rcases ends with rfl | ⟨vmid, rfl⟩
        · simp only [List.length_cons, List.length_append, List.length_nil] at count
          omega
        · simp only [List.length_cons, List.length_append, List.length_nil] at count
          omega
      · have count := congrArg List.length parts
        rcases ends with rfl | ⟨vmid', rfl⟩
        · have final := congrArg List.getLast? parts
          simp [List.getLast?_cons] at final
        · simp only [List.length_cons, List.length_append, List.length_nil] at count
          omega

theorem split_plain {node : String} (plain : '/' ∉ node.toList) : splitChar '/' node = [node] :=
  split_char_of_not_mem plain

theorem run_mocked (path : String) : runPveshGet (mocked bench host) client path =
    (bench.answer ⟨.get, path, "json", false⟩).mapError fun stderr =>
      .pveshError ("pvesh command failed with status exit status: 1: " ++ stderr) := by
  unfold runPveshGet mocked Bench.pvesh
  dsimp only
  rw [if_pos ⟨rfl, rfl, rfl⟩]

theorem run_mocked_iff (path json : String) :
    runPveshGet (mocked bench host) client path = .ok json ↔
      bench.response .get (splitChar '/' (trimMatches '/' path)) = some (some json) := by
  have answered : bench.answer ⟨.get, path, "json", false⟩ = .ok json ↔
      bench.response .get (splitChar '/' (trimMatches '/' path)) = some (some json) := by
    rw [Bench.answer, if_neg (by simp)]
    dsimp only
    cases bench.response .get (splitChar '/' (trimMatches '/' path)) with
    | none => simp
    | some response =>
        dsimp only
        rw [if_pos (Or.inl rfl)]
        cases response with
        | none => simp
        | some found => simp
  rw [← answered, run_mocked]
  generalize bench.answer ⟨.get, path, "json", false⟩ = answer
  cases answer with
  | ok stdout => simp [Except.mapError]
  | error stderr => simp [Except.mapError]

theorem mocked_list_iff (json : String) :
    runPveshGet (mocked bench host) client ("/nodes/" ++ client.node ++ "/qemu") = .ok json ↔
      '/' ∉ client.node.toList ∧ bench.handleLsNodesQemu client.node = some json := by
  rw [run_mocked_iff, path_parts_list]
  by_cases slash : '/' ∈ client.node.toList
  · rw [response_slash slash (Or.inl rfl)]
    simp [slash]
  · rw [split_plain slash]
    change some (bench.handleLsNodesQemu client.node) = some (some json) ↔ _
    simp [slash]

/-- The text of a configuration: a file of its own, or the mock's answer. -/
def Bench.configText (bench : Bench) (vmid : UInt64) : Option String :=
  bench.readToString
      (bench.localPath ("/etc/pve/local/qemu-server/" ++ toString vmid ++ ".conf")) <|>
    bench.handleGetVmConfig (toString vmid)

theorem mocked_config (plain : '/' ∉ client.node.toList) (vmid : UInt64) :
    (getVmConfig (mocked bench host) client vmid).toOption =
      (bench.configText vmid).map (parseVmConfig host) := by
  have gets (json : String) := @run_mocked_iff bench host client
    ("/nodes/" ++ client.node ++ "/qemu/" ++ toString vmid ++ "/config") json
  rw [path_parts_config, split_plain plain] at gets
  change ∀ json, _ ↔ some (bench.handleGetVmConfig (toString vmid)) = some (some json) at gets
  have read : (mocked bench host).configFile
      ("/etc/pve/local/qemu-server/" ++ toString vmid ++ ".conf") = bench.readToString
        (bench.localPath ("/etc/pve/local/qemu-server/" ++ toString vmid ++ ".conf")) := rfl
  rw [getVmConfig, read, Bench.configText]
  cases bench.readToString
      (bench.localPath ("/etc/pve/local/qemu-server/" ++ toString vmid ++ ".conf")) with
  | some configText => rfl
  | none =>
      dsimp only
      cases answered : runPveshGet (mocked bench host) client
          ("/nodes/" ++ client.node ++ "/qemu/" ++ toString vmid ++ "/config") with
      | ok json =>
          rw [Option.some.inj ((gets json).mp answered)]
          rfl
      | error failed =>
          cases found : bench.handleGetVmConfig (toString vmid) with
          | none => rfl
          | some json =>
              have impossible := (gets json).mpr (congrArg some found)
              rw [answered] at impossible
              cases impossible

theorem local_path_config (vmid : UInt64) {dir above : String}
    (set : bench.testDataVar = some dir) (inside : parent dir = some above)
    (present : bench.pathExists (join (join above "pve/local/qemu-server")
      (toString vmid ++ ".conf")) = true) :
    bench.localPath ("/etc/pve/local/qemu-server/" ++ toString vmid ++ ".conf") =
      join (join above "pve/local/qemu-server") (toString vmid ++ ".conf") := by
  have free : '/' ∉ (toString vmid ++ ".conf").toList := by
    simp [vmid_plain vmid]
  have text : "/etc/pve/local/qemu-server/" ++ toString vmid ++ ".conf" = String.ofList
      ("/etc/pve/local/qemu-server".toList ++ '/' :: (toString vmid ++ ".conf").toList) := by
    apply String.ext
    simp
  have last : (splitChar '/' ("/etc/pve/local/qemu-server/" ++ toString vmid ++
      ".conf")).getLastD "" = toString vmid ++ ".conf" := by
    rw [text, split_char_slash, String.ofList_toList, String.ofList_toList, split_plain free,
      List.getLastD_concat]
  rw [Bench.localPath, set, Option.bind_some, inside]
  dsimp only
  rw [last, if_pos present]

end Answers

section Replay

/-- The test data were recorded from a node: its list of machines, for every
running machine a text that reads as its configuration, or none where none is
to be had, and for its disks the multipath devices of the node. -/
structure Recorded (bench : Bench) (host : PveHost) (client : PveSanConfig) : Prop where
  plain : '/' ∉ client.node.toList
  listing : ∃ jsonOutput, runPveshGet host client ("/nodes/" ++ client.node ++ "/qemu") =
    .ok jsonOutput ∧ bench.handleLsNodesQemu client.node = some jsonOutput
  configs : ∀ vmid, ReportedAs host client vmid "running" →
    (bench.configText vmid).map (parseVmConfig host) = (getVmConfig host client vmid).toOption
  multipaths : ∀ vmid configMap disks, ReportedAs host client vmid "running" →
    getVmConfig host client vmid = .ok configMap → extractDisks configMap = .ok disks →
      ∀ disk ∈ disks, matchedMpaths (bench.mpathMap host) disk.storage =
        matchedMpaths (mpathMapOf host) disk.storage

variable {bench : Bench} {host : PveHost} {client : PveSanConfig}

theorem recorded_list (recorded : Recorded bench host client) :
    listRunningVms (mocked bench host) client = listRunningVms host client := by
  obtain ⟨jsonOutput, listed, kept⟩ := recorded.listing
  have replayed := (@mocked_list_iff bench host client jsonOutput).mpr ⟨recorded.plain, kept⟩
  rw [listRunningVms, listRunningVms, listed, replayed]
  rfl

section Congruence

variable {mpathMap mpathMap' : HashMap String (Finset String)}

theorem vm_mpaths_congr {disks : List VmDisk} (same : ∀ disk ∈ disks,
    matchedMpaths mpathMap' disk.storage = matchedMpaths mpathMap disk.storage) :
    vmMpaths mpathMap' disks = vmMpaths mpathMap disks := by
  rw [vmMpaths, vmMpaths, List.filterMap_congr same]

theorem vm_info_congr (vmid : UInt64) (status : String) (configMap : HashMap String String)
    {disks : List VmDisk} (same : ∀ disk ∈ disks,
      matchedMpaths mpathMap' disk.storage = matchedMpaths mpathMap disk.storage) :
    vmInfoOf mpathMap' vmid status configMap disks =
      vmInfoOf mpathMap vmid status configMap disks := by
  have attributed : disks.map (attributeMpaths mpathMap') =
      disks.map (attributeMpaths mpathMap) := by
    apply List.map_congr_left
    intro disk member
    rw [attributeMpaths, attributeMpaths, same disk member]
  rw [vmInfoOf, vmInfoOf, attributed]

/-- The loop over the machines asks for their configurations and for the
multipath devices of their disks, and for nothing else. -/
theorem collect_vms_congr {host' : PveHost} (vms : List (UInt64 × String))
    (reads : ∀ vm ∈ vms, (getVmConfig host' client vm.1).toOption =
      (getVmConfig host client vm.1).toOption)
    (same : ∀ vm ∈ vms, ∀ configMap disks, getVmConfig host client vm.1 = .ok configMap →
      extractDisks configMap = .ok disks → ∀ disk ∈ disks,
        matchedMpaths mpathMap' disk.storage = matchedMpaths mpathMap disk.storage) :
    ∀ vmInfos multipathDevices, collectVms host' client mpathMap' vms vmInfos multipathDevices =
      collectVms host client mpathMap vms vmInfos multipathDevices := by
  induction vms with
  | nil => exact fun _ _ => rfl
  | cons vm rest ih =>
      intro vmInfos multipathDevices
      obtain ⟨vmid, status⟩ := vm
      rw [List.forall_mem_cons] at reads same
      have later := ih reads.2 same.2
      have read := reads.1
      unfold collectVms
      cases here : getVmConfig host client vmid with
      | error failed =>
          cases there : getVmConfig host' client vmid with
          | error failed' => exact later vmInfos multipathDevices
          | ok configMap =>
              rw [here, there] at read
              cases read
      | ok configMap =>
          cases there : getVmConfig host' client vmid with
          | error failed' =>
              rw [here, there] at read
              cases read
          | ok configMap' =>
              rw [here, there] at read
              obtain rfl : configMap' = configMap := Option.some.inj read
              obtain ⟨disks, extracted, -⟩ := extract_disks_ok configMap'
              have matched := same.1 configMap' disks here extracted
              dsimp only
              rw [extracted]
              dsimp only [bind, Except.bind]
              rw [vm_mpaths_congr matched, vm_info_congr vmid status configMap' matched, later]

end Congruence

/-- Discovery on a recording finds what discovery on the node finds, if lsblk
answers on both machines. -/
theorem replayed_discovery (recorded : Recorded bench host client)
    (onBench : ∃ devices, bench.blockDevicesAgain = .ok devices)
    (onNode : ∃ devices, host.blockDevicesAgain = .ok devices) :
    bench.getSanStorageInfo host client = getSanStorageInfo host client := by
  obtain ⟨devices, answered⟩ := onBench
  obtain ⟨devices', answered'⟩ := onNode
  rw [Bench.getSanStorageInfo, getSanStorageInfo, recorded_list recorded, answered, answered']
  cases listing : listRunningVms host client with
  | error failed => rfl
  | ok vms =>
      have reported : ∀ vm ∈ vms, ReportedAs host client vm.1 "running" := by
        intro vm member
        have said := (mem_list_running_vms host client listing vm.1 vm.2).mp member
        rw [← said.2]
        exact said.1
      have reads : ∀ vm ∈ vms, (getVmConfig (mocked bench host) client vm.1).toOption =
          (getVmConfig host client vm.1).toOption := by
        intro vm member
        rw [mocked_config recorded.plain]
        exact recorded.configs vm.1 (reported vm member)
      have same := fun vm member configMap disks =>
        recorded.multipaths vm.1 configMap disks (reported vm member)
      dsimp only [bind, Except.bind]
      rw [collect_vms_congr vms reads same]

def recording : Bench where
  testDataVar := some "test-data/pvesh"
  workspace := "/"
  readToString := fun path =>
    if path = "test-data/pvesh/get_nodes/pve01_qemu.json" then some ""
    else if path = "test-data/pvesh/get_nodes/config/104.json" then
      some "scsi0: san:vm-104-disk-0\n"
    else if path = "test-data/pvesh/lsblk.json" then some "lsblk"
    else none
  pathExists := fun _ => false
  toStringPretty := fun _ => none
  lsblkOutput := fun text => if text = "lsblk" then
      some (some [.mk "sda" "disk" (some [.mk "mpatha" "mpath"
        (some [.mk "san-vm--104--disk--0" "lvm" none])])])
    else none
  blockDevices := .ok []
  blockDevicesAgain := .ok ["sda"]
  sys := ∅

theorem replayed_discovery_recording :
    recording.getSanStorageInfo twoVmHost pve01 = getSanStorageInfo twoVmHost pve01 := by
  have listing : listRunningVms twoVmHost pve01 = .ok [(104, "running")] := rfl
  have only : ∀ vmid, ReportedAs twoVmHost pve01 vmid "running" → vmid = 104 := by
    intro vmid reported
    have member := (mem_list_running_vms twoVmHost pve01 listing vmid "running").mpr ⟨reported, rfl⟩
    exact (Prod.mk.inj (List.mem_singleton.mp member)).1
  apply replayed_discovery ?_ ⟨_, rfl⟩ ⟨_, rfl⟩
  constructor
  · decide
  · exact ⟨"", rfl, by decide⟩
  · intro vmid reported
    rw [only vmid reported]
    decide
  · intro vmid configMap disks reported read extracted disk member
    have stored : (getVmConfig twoVmHost pve01 104).toOption.bind (fun configMap =>
        (extractDisks configMap).toOption.map (·.map VmDisk.storage)) =
          some ["san:vm-104-disk-0"] := by decide
    rw [← only vmid reported, read] at stored
    dsimp only [Except.toOption, Option.bind_some] at stored
    rw [extracted] at stored
    have names : disk.storage ∈ ["san:vm-104-disk-0"] := by
      rw [← Option.some.inj stored]
      exact List.mem_map_of_mem member
    rw [List.mem_singleton.mp names]
    decide

/-- A list that `pvesh-mock` prints for any node. -/
example : ({ recording with readToString := fun path =>
    if path = "test-data/pvesh/get_nodes/pve001_qemu.json" then some "[]" else none }).answer
      ⟨.ls, "/nodes/pve02/qemu/", "json", false⟩ = .ok "[]" := by decide

theorem list_running_vms_ok_iff (host : PveHost) :
    (∃ vms, listRunningVms host client = .ok vms) ↔
      ∃ jsonOutput data, runPveshGet host client ("/nodes/" ++ client.node ++ "/qemu") =
        .ok jsonOutput ∧ host.jsonValues jsonOutput = .ok data := by
  rw [listRunningVms]
  cases output : runPveshGet host client ("/nodes/" ++ client.node ++ "/qemu") with
  | error failed =>
      apply iff_of_false
      · intro found
        cases found.choose_spec
      · intro found
        obtain ⟨jsonOutput, data, impossible, -⟩ := found
        cases impossible
  | ok jsonOutput =>
      dsimp only [bind, Except.bind]
      simp only [Except.ok.injEq, exists_and_left, exists_eq_left']
      cases host.jsonValues jsonOutput <;> simp

theorem storage_info_on_bench_iff :
    (∃ info, bench.getSanStorageInfo host client = .ok info) ↔
      (∃ vms, listRunningVms (mocked bench host) client = .ok vms) ∧
        ∃ devices, bench.blockDevicesAgain = .ok devices := by
  rw [Bench.getSanStorageInfo]
  cases listRunningVms (mocked bench host) client with
  | error failed =>
      apply iff_of_false
      · intro found
        cases found.choose_spec
      · intro needed
        cases needed.1.choose_spec
  | ok vms =>
      obtain ⟨vmInfos, multipathDevices, collected, -⟩ :=
        collect_vms_ok (mocked bench host) client (bench.mpathMap host) vms [] ∅
      dsimp only [bind, Except.bind]
      rw [collected]
      cases bench.blockDevicesAgain with
      | error message =>
          exact iff_of_false (by intro found; cases found.choose_spec) (by simp)
      | ok devices => exact iff_of_true ⟨_, rfl⟩ ⟨⟨vms, rfl⟩, devices, rfl⟩

/-- Discovery on any test data succeeds if the node's name has no slash, the
list of machines is there and can be parsed, and lsblk answers: no contents of
a configuration, no missing configuration and no recorded forest can fail it. -/
theorem mocked_discovery_iff :
    (∃ info, bench.getSanStorageInfo host client = .ok info) ↔
      '/' ∉ client.node.toList ∧
        (∃ jsonOutput data, bench.handleLsNodesQemu client.node = some jsonOutput ∧
          host.jsonValues jsonOutput = .ok data) ∧
        ∃ devices, bench.blockDevicesAgain = .ok devices := by
  have listable := @list_running_vms_ok_iff client (mocked bench host)
  have values : (mocked bench host).jsonValues = host.jsonValues := rfl
  simp only [mocked_list_iff, values, and_assoc, exists_and_left] at listable
  rw [storage_info_on_bench_iff, listable, and_assoc]
  simp only [exists_and_left]

end Replay

end PveSanFenced.MockPvesh
