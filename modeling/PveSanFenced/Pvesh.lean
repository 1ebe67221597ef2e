import PveSanFenced.Library.Collections
import PveSanFenced.Library.Text
import PveSanFenced.Sysfs

/-!
# Virtual machines as `pvesh` and pmxcfs report them

The client runs in `Pvesh` mode, the only one the daemon asks for. The command,
the configuration files, the JSON parser and the lsblk crate are parameters;
what the client does with their answers is here.
-/

namespace PveSanFenced.Pvesh

open PveSanFenced.Library.Collections
open PveSanFenced.Library.Text
open PveSanFenced.Sysfs

set_option autoImplicit false

inductive PveSanError where
  | pveshError (message : String)
  | listVmError (message : String)
  | vmConfigError (vmid : UInt64) (message : String)
  | configParseError (message : String)
  | jsonParseError (message : String)
  | lsblkError (message : String)
  | noNodeError
  | runtimeError (message : String)
  | pveshNotFound
  deriving DecidableEq, Repr

/-- `serde_json::Value`. A number keeps what the client asks of it: its value
as `u64`, and its text. -/
inductive Json where
  | null
  | bool (value : Bool)
  | number (asU64 : Option UInt64) (text : String)
  | string (value : String)
  | array (items : List Json)
  | object (members : List (String × Json))

namespace Json

/-- `value[key]`: anything but an object has no members. -/
def index (value : Json) (key : String) : Json :=
  match value with
  | object members => ((members.find? (·.1 = key)).map Prod.snd).getD null
  | _ => null

def asU64 (value : Json) : Option UInt64 :=
  match value with
  | number asU64 _ => asU64
  | _ => none

def asStr (value : Json) : Option String :=
  match value with
  | string text => some text
  | _ => none

end Json

/-- What the client meets on one node. `blockDevices` and `blockDevicesAgain`
are the two listings of the lsblk crate, by device name. -/
structure PveHost where
  pvesh : List String → Except PveSanError String
  configFile : String → Option String
  jsonValues : String → Except String (List Json)
  jsonValue : String → Option Json
  jsonText : Json → String
  blockDevices : Except String (List String)
  blockDevicesAgain : Except String (List String)
  sys : SysBlock

def validCommand (pveshCommand : String) : Bool :=
  pveshCommand ≠ "" && pveshCommand.toList.all fun c =>
    c.isAlphanum || c == '/' || c == '-' || c == '_'

structure PveSanConfig where
  node : String
  pveshCommand : String
  node_nonempty : node ≠ ""
  command_valid : validCommand pveshCommand = true

def withNodeAndPvesh (node pveshCommand : String) : Except PveSanError PveSanConfig :=
  if unnamed : node = "" then .error .noNodeError
  else if valid : validCommand pveshCommand = true then .ok ⟨node, pveshCommand, unnamed, valid⟩
  else .error (.pveshError ("Invalid pvesh command path: " ++ pveshCommand))

variable (host : PveHost) (client : PveSanConfig)

def runPveshGet (path : String) : Except PveSanError String :=
  host.pvesh [client.pveshCommand, "get", path, "--output-format", "json"]

section ListVms

/-- The four places a VMID is looked for, in order. -/
def vmidOf (item : Json) : Option UInt64 :=
  (item.index "vmid").asU64 <|> (item.index "vmid").asStr.bind parseU64 <|>
    (item.index "subdir").asU64 <|> (item.index "subdir").asStr.bind parseU64

def statusOf (item : Json) : String := (item.index "status").asStr.getD "unknown"

def runningVm (item : Json) : Option (UInt64 × String) :=
  match vmidOf item with
  | none => none
  | some vmid => if statusOf item = "running" then some (vmid, statusOf item) else none

def listRunningVms : Except PveSanError (List (UInt64 × String)) := do
  let jsonOutput ← runPveshGet host client ("/nodes/" ++ client.node ++ "/qemu")
  match host.jsonValues jsonOutput with
  | .error message => .error (.jsonParseError message)
  | .ok data => .ok (data.filterMap runningVm)

def ReportedAs (vmid : UInt64) (status : String) : Prop :=
  ∃ jsonOutput data item, runPveshGet host client ("/nodes/" ++ client.node ++ "/qemu") =
    .ok jsonOutput ∧ host.jsonValues jsonOutput = .ok data ∧ item ∈ data ∧
      vmidOf item = some vmid ∧ statusOf item = status

theorem running_vm_eq_some_iff (item : Json) (vmid : UInt64) (status : String) :
    runningVm item = some (vmid, status) ↔
      vmidOf item = some vmid ∧ statusOf item = status ∧ status = "running" := by
  unfold runningVm
  cases vmidOf item with
  | none => simp
  | some other =>
      dsimp only
      split_ifs with running
      · simp only [Option.some.injEq, Prod.mk.injEq, running]
        constructor
        · intro same
          exact ⟨same.1, same.2, same.2.symm⟩
        · intro same
          exact ⟨same.1, same.2.1⟩
      · simp only [false_iff]
        intro same
        exact running (same.2.1.trans same.2.2)

theorem mem_list_running_vms {vms : List (UInt64 × String)}
    (listing : listRunningVms host client = .ok vms) (vmid : UInt64) (status : String) :
    (vmid, status) ∈ vms ↔ ReportedAs host client vmid status ∧ status = "running" := by
  unfold listRunningVms at listing
  cases output : runPveshGet host client ("/nodes/" ++ client.node ++ "/qemu") with
  | error failed => rw [output] at listing; cases listing
  | ok jsonOutput =>
      rw [output] at listing
      dsimp only [bind, Except.bind] at listing
      cases parsed : host.jsonValues jsonOutput with
      | error message => rw [parsed] at listing; cases listing
      | ok data =>
          rw [parsed] at listing
          cases listing
          rw [List.mem_filterMap]
          constructor
          · intro found
            obtain ⟨item, member, running⟩ := found
            have known := running_vm_eq_some_iff item vmid status
            obtain ⟨identified, reported, same⟩ := known.mp running
            exact ⟨⟨jsonOutput, data, item, output, parsed, member, identified, reported⟩, same⟩
          · intro reported
            obtain ⟨⟨jsonOutput', data', item, output', parsed', member, identified, status'⟩,
              same⟩ := reported
            rw [output, Except.ok.injEq] at output'
            subst output'
            rw [parsed, Except.ok.injEq] at parsed'
            subst parsed'
            exact ⟨item, member, (running_vm_eq_some_iff item vmid status).mpr
              ⟨identified, status', same⟩⟩

end ListVms

section VmConfig

def valueText (value : Json) : String :=
  match value with
  | .null => ""
  | .bool true => "true"
  | .bool false => "false"
  | .number _ text => text
  | .string text => text
  | value => host.jsonText value

/-- One line of a configuration file: `none` for a section header, which ends
the current configuration. -/
def lineEntry (line : String) : Option (List (String × String)) :=
  let line := trim line
  if line = "" ∨ startsWith line "#" = true then some []
  else if startsWith line "[" = true then none
  else match splitOnce ':' line with
    | some (key, value) => some [(trim key, trim value)]
    | none => some []

def lineEntries : List String → List (String × String)
  | [] => []
  | line :: rest =>
      match lineEntry line with
      | none => []
      | some entries => entries ++ lineEntries rest

/-- `parse_vm_config`: a JSON object, or else `key: value` lines. It never
fails. -/
def parseVmConfig (configText : String) : HashMap String String :=
  match host.jsonValue configText with
  | some (.object members) =>
      insertAll (members.map fun member => (member.1, valueText host member.2)) ∅
  | _ => insertAll (lineEntries (lines configText)) ∅

/-- `get_vm_config`: the file of the local node, or else `pvesh`. -/
def getVmConfig (vmid : UInt64) : Except PveSanError (HashMap String String) :=
  match host.configFile ("/etc/pve/local/qemu-server/" ++ toString vmid ++ ".conf") with
  | some configText => .ok (parseVmConfig host configText)
  | none => do
      let configText ← runPveshGet host client
        ("/nodes/" ++ client.node ++ "/qemu/" ++ toString vmid ++ "/config")
      .ok (parseVmConfig host configText)

end VmConfig

end PveSanFenced.Pvesh
