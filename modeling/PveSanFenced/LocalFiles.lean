import Mathlib.Data.List.Sort
import PveSanFenced.Discovery
import PveSanFenced.Library.Paths

/-!
# The query by local files

`pve-san-query` takes the machines from the configuration directory where the
daemon asks `pvesh`: every numbered file is a machine, and it counts as
running. From the list of machines on, both modes are one piece of code, so
the modes are compared by their lists.
-/

namespace PveSanFenced.LocalFiles

open PveSanFenced.Discovery
open PveSanFenced.Disks
open PveSanFenced.Library.Collections
open PveSanFenced.Library.Paths
open PveSanFenced.Library.Text
open PveSanFenced.Pvesh
open PveSanFenced.Sysfs

set_option autoImplicit false

section Model

inductive PveMode where
  | pvesh
  | localFiles
  deriving DecidableEq, Repr

structure DirEntry where
  name : String
  isFile : Bool
  deriving DecidableEq, Repr

/-- `read_dir` on the configuration directory, `none` where there is no such
directory. -/
abbrev ConfigDir := Option (Except String (List (Except String DirEntry)))

def entryVm (entry : DirEntry) : Option (UInt64 × String) :=
  if entry.isFile ∧ (stemExtension entry.name).2 = some "conf" then
    (parseU64 (stemExtension entry.name).1).map fun vmid => (vmid, "running")
  else none

def readEntry : Except String DirEntry → Except PveSanError DirEntry
  | .ok entry => .ok entry
  | .error e => .error (.listVmError ("Failed to read directory entry: " ++ e))

def sortByVmid (vms : List (UInt64 × String)) : List (UInt64 × String) :=
  vms.insertionSort fun left right => left.1 ≤ right.1

def listLocalVms : ConfigDir → Except PveSanError (List (UInt64 × String))
  | none => .ok []
  | some (.error e) => .error (.listVmError
      ("Failed to read config directory '/etc/pve/local/qemu-server': " ++ e))
  | some (.ok entries) => do
      let found ← entries.mapM readEntry
      .ok (sortByVmid (found.filterMap entryVm))

variable (host : PveHost) (client : PveSanConfig) (configDir : ConfigDir)

def listVms : PveMode → Except PveSanError (List (UInt64 × String))
  | .pvesh => listRunningVms host client
  | .localFiles => listLocalVms configDir

def getSanStorageInfoIn (mode : PveMode) : Except PveSanError SanStorageInfo := do
  let vms ← listVms host client configDir mode
  let (vmInfos, multipathDevices) ← collectVms host client (mpathMapOf host) vms [] ∅
  match host.blockDevicesAgain with
  | .error message => .error (.lsblkError message)
  | .ok _ => .ok ⟨client.node, vmInfos, multipathDevices⟩

/-- The daemon's query is the one in `Pvesh` mode. -/
theorem pvesh_mode : getSanStorageInfoIn host client configDir .pvesh =
    getSanStorageInfo host client := rfl

/-- `runtime` is what building a runtime gives. -/
def getSanStorageInfoSyncWithMode (runtime : Except String Unit) (node : String)
    (mode : PveMode) : Except PveSanError SanStorageInfo := do
  let client ← withNodeAndPvesh node "pvesh"
  match runtime with
  | .error e => .error (.runtimeError e)
  | .ok () => getSanStorageInfoIn host client configDir mode

/-- The node that `pve-san-query` asks about. Without one it leaves in `pvesh`
mode, and takes the hostname in the other. -/
def queriedNode (node hostname : Option String) : PveMode → Option String
  | .pvesh => node
  | .localFiles => some (node.getD ((hostname.map trim).getD "localhost"))

def queryStorage (runtime : Except String Unit) (node hostname : Option String)
    (mode : PveMode) : Option (Except PveSanError SanStorageInfo) :=
  (queriedNode node hostname mode).map fun asked =>
    getSanStorageInfoSyncWithMode host configDir runtime asked mode

end Model

section Listing

theorem read_entry_ok_iff (entry : Except String DirEntry) (found : DirEntry) :
    readEntry entry = .ok found ↔ entry = .ok found := by
  cases entry with
  | ok entry => rw [readEntry, Except.ok.injEq, Except.ok.injEq]
  | error e => exact iff_of_false (by intro impossible; cases impossible) (by simp)

theorem read_entries_ok_iff (entries : List (Except String DirEntry)) (found : List DirEntry) :
    entries.mapM readEntry = .ok found ↔ entries = found.map Except.ok := by
  rw [map_m_ok_iff]
  simp only [read_entry_ok_iff]
  rw [← List.forall₂_map_right_iff (R := Eq), List.forall₂_eq_eq_eq]

theorem list_local_vms_of_entries (entries : List DirEntry) :
    listLocalVms (some (.ok (entries.map Except.ok))) =
      .ok (sortByVmid (entries.filterMap entryVm)) := by
  have read := (read_entries_ok_iff (entries.map Except.ok) entries).mpr rfl
  rw [listLocalVms, read]
  rfl

theorem parse_u64_empty : parseU64 "" = none := by decide

/-- The files that are machines: those named by a number and `.conf`. -/
theorem entry_vm_eq_some_iff (entry : DirEntry) (vmid : UInt64) (status : String) :
    entryVm entry = some (vmid, status) ↔ entry.isFile = true ∧ status = "running" ∧
      ∃ stem, entry.name = stem ++ "." ++ "conf" ∧ parseU64 stem = some vmid := by
  unfold entryVm
  constructor
  · intro found
    split_ifs at found with counted
    obtain ⟨number, parsed, same⟩ := Option.map_eq_some_iff.mp found
    obtain ⟨rfl, rfl⟩ := Prod.mk.inj same
    have divided : stemExtension entry.name = ((stemExtension entry.name).1, some "conf") :=
      Prod.ext rfl counted.2
    exact ⟨counted.1, rfl, _, of_stem_extension divided, parsed⟩
  · intro counted
    obtain ⟨file, rfl, stem, named, parsed⟩ := counted
    have filled : stem ≠ "" := by
      intro empty
      rw [empty, parse_u64_empty] at parsed
      cases parsed
    have long : stem ++ "." ++ "conf" ≠ ".." := by
      intro same
      have counts := congrArg String.length same
      simp only [String.length_append] at counts
      exact absurd counts (by rw [show "conf".length = 4 from rfl, show ".".length = 1 from rfl,
        show "..".length = 2 from rfl]; omega)
    have divided := stem_extension_append filled (by decide) long
    rw [named, divided, if_pos ⟨file, rfl⟩, parsed]
    rfl

theorem mem_sort_by_vmid (vms : List (UInt64 × String)) (vm : UInt64 × String) :
    vm ∈ sortByVmid vms ↔ vm ∈ vms :=
  List.mem_insertionSort _

/-- Machines that differ in their numbers only are sorted the same from any
order. -/
theorem sort_by_vmid_perm {vms vms' : List (UInt64 × String)} (same : vms.Perm vms')
    (running : ∀ vm ∈ vms, vm.2 = "running") : sortByVmid vms = sortByVmid vms' := by
  have placed := List.perm_insertionSort (fun left right => left.1 ≤ right.1) vms
  have placed' := List.perm_insertionSort (fun left right => left.1 ≤ right.1) vms'
  refine List.Perm.eq_of_pairwise ?_ (List.pairwise_insertionSort _ vms)
    (List.pairwise_insertionSort _ vms') (placed.trans (same.trans placed'.symm))
  intro first second member member' below above
  have running₁ := running first ((mem_sort_by_vmid vms first).mp member)
  have running₂ := running second (same.mem_iff.mpr ((mem_sort_by_vmid vms' second).mp member'))
  exact Prod.ext (UInt64.le_antisymm below above) (running₁.trans running₂.symm)

theorem entries_running (entries : List DirEntry) :
    ∀ vm ∈ entries.filterMap entryVm, vm.2 = "running" := by
  intro vm member
  obtain ⟨entry, -, found⟩ := List.mem_filterMap.mp member
  exact ((entry_vm_eq_some_iff entry vm.1 vm.2).mp found).2.1

end Listing

section Storage

variable (host : PveHost) (client : PveSanConfig)

/-- What the loop over the machines adds for one of them: its description, and
its entry in the map of multipath devices. -/
def infoOf (vm : UInt64 × String) : Option VmInfo :=
  match getVmConfig host client vm.1 with
  | .error _ => none
  | .ok configMap =>
      (extractDisks configMap).toOption.map (vmInfoOf (mpathMapOf host) vm.1 vm.2 configMap)

def recordOf (vm : UInt64 × String) : Option (String × List String) :=
  match getVmConfig host client vm.1 with
  | .error _ => none
  | .ok configMap =>
      let mpaths := vmMpaths (mpathMapOf host) ((extractDisks configMap).toOption.getD [])
      if mpaths = ∅ then none else some (toString vm.1, sorted mpaths)

def storageOf (vms : List (UInt64 × String)) : SanStorageInfo where
  node := client.node
  vms := vms.filterMap (infoOf host client)
  multipathDevices := insertAll (vms.filterMap (recordOf host client)) ∅

theorem collect_vms_eq (vms : List (UInt64 × String)) (vmInfos : List VmInfo)
    (multipathDevices : HashMap String (List String)) :
    collectVms host client (mpathMapOf host) vms vmInfos multipathDevices =
      .ok (vmInfos ++ vms.filterMap (infoOf host client),
        insertAll (vms.filterMap (recordOf host client)) multipathDevices) := by
  induction vms generalizing vmInfos multipathDevices with
  | nil => rw [List.filterMap_nil, List.append_nil]; rfl
  | cons vm rest ih =>
      obtain ⟨vmid, status⟩ := vm
      unfold collectVms
      cases read : getVmConfig host client vmid with
      | error failed =>
          have skipped : infoOf host client (vmid, status) = none := by rw [infoOf, read]
          have unrecorded : recordOf host client (vmid, status) = none := by rw [recordOf, read]
          rw [List.filterMap_cons_none skipped, List.filterMap_cons_none unrecorded]
          exact ih vmInfos multipathDevices
      | ok configMap =>
          obtain ⟨disks, extracted, -⟩ := extract_disks_ok configMap
          have described : infoOf host client (vmid, status) =
              some (vmInfoOf (mpathMapOf host) vmid status configMap disks) := by
            rw [infoOf, read]
            dsimp only
            rw [extracted]
            rfl
          have recorded : recordOf host client (vmid, status) =
              if vmMpaths (mpathMapOf host) disks = ∅ then none
                else some (toString vmid, sorted (vmMpaths (mpathMapOf host) disks)) := by
            rw [recordOf, read]
            dsimp only
            rw [extracted]
            rfl
          dsimp only
          rw [extracted]
          change collectVms host client (mpathMapOf host) rest _ _ = _
          rw [ih, List.filterMap_cons_some described, List.append_assoc]
          by_cases none : vmMpaths (mpathMapOf host) disks = ∅
          · rw [if_pos none] at recorded
            rw [if_pos none, List.filterMap_cons_none recorded]
            rfl
          · rw [if_neg none] at recorded
            rw [if_neg none, List.filterMap_cons_some recorded]
            rfl

variable {host client} {configDir : ConfigDir}

theorem storage_info_of_list {mode : PveMode} {vms : List (UInt64 × String)}
    (listing : listVms host client configDir mode = .ok vms) :
    getSanStorageInfoIn host client configDir mode =
      match host.blockDevicesAgain with
      | .error message => .error (.lsblkError message)
      | .ok _ => .ok (storageOf host client vms) := by
  rw [getSanStorageInfoIn, listing]
  dsimp only [bind, Except.bind]
  rw [collect_vms_eq]
  rfl

theorem pvesh_storage_info {vms : List (UInt64 × String)}
    (listing : listRunningVms host client = .ok vms) {devices : List String}
    (again : host.blockDevicesAgain = .ok devices) :
    getSanStorageInfoIn host client configDir .pvesh = .ok (storageOf host client vms) := by
  have listed : listVms host client configDir .pvesh = .ok vms := listing
  rw [storage_info_of_list listed, again]

theorem local_storage_info (host : PveHost) (client : PveSanConfig) (entries : List DirEntry) :
    getSanStorageInfoIn host client (some (.ok (entries.map Except.ok))) .localFiles =
      match host.blockDevicesAgain with
      | .error message => .error (.lsblkError message)
      | .ok _ => .ok (storageOf host client (sortByVmid (entries.filterMap entryVm))) := by
  have listed : listVms host client (some (.ok (entries.map Except.ok))) .localFiles =
      .ok (sortByVmid (entries.filterMap entryVm)) := list_local_vms_of_entries entries
  rw [storage_info_of_list listed]

theorem info_of_read (vm : UInt64 × String) : infoOf host client vm =
    (getVmConfig host client vm.1).toOption.bind fun configMap =>
      (extractDisks configMap).toOption.map
        (vmInfoOf (mpathMapOf host) vm.1 vm.2 configMap) := by
  rw [infoOf]
  cases getVmConfig host client vm.1 <;> rfl

theorem record_of_read (vm : UInt64 × String) : recordOf host client vm =
    (getVmConfig host client vm.1).toOption.bind fun configMap =>
      let mpaths := vmMpaths (mpathMapOf host) ((extractDisks configMap).toOption.getD [])
      if mpaths = ∅ then none else some (toString vm.1, sorted mpaths) := by
  rw [recordOf]
  cases getVmConfig host client vm.1 <;> rfl

theorem storage_of_congr {host' : PveHost} {client' : PveSanConfig}
    {vms : List (UInt64 × String)} (node : client'.node = client.node) (sys : host'.sys = host.sys)
    (listed : host'.blockDevices = host.blockDevices)
    (reads : ∀ vm ∈ vms, (getVmConfig host' client' vm.1).toOption =
      (getVmConfig host client vm.1).toOption) :
    storageOf host' client' vms = storageOf host client vms := by
  have mpathMap : mpathMapOf host' = mpathMapOf host := by
    rw [mpathMapOf, mpathMapOf, listedDevices, listedDevices, sys, listed]
  have infos : vms.filterMap (infoOf host' client') = vms.filterMap (infoOf host client) := by
    apply List.filterMap_congr
    intro vm member
    rw [info_of_read, info_of_read, reads vm member, mpathMap]
  have records : vms.filterMap (recordOf host' client') = vms.filterMap (recordOf host client) := by
    apply List.filterMap_congr
    intro vm member
    rw [record_of_read, record_of_read, reads vm member, mpathMap]
  rw [storageOf, storageOf, node, infos, records]

theorem mem_storage_vms (vms : List (UInt64 × String)) (info : VmInfo) :
    info ∈ (storageOf host client vms).vms ↔ ∃ vm ∈ vms, infoOf host client vm = some info :=
  List.mem_filterMap

theorem info_of_vmid {vm : UInt64 × String} {info : VmInfo}
    (described : infoOf host client vm = some info) :
    info.vmid = vm.1 ∧ info.status = vm.2 := by
  unfold infoOf at described
  cases read : getVmConfig host client vm.1 with
  | error failed => rw [read] at described; cases described
  | ok configMap =>
      rw [read] at described
      obtain ⟨disks, -, rfl⟩ := Option.map_eq_some_iff.mp described
      exact ⟨rfl, rfl⟩

theorem record_keyed {vm : UInt64 × String} {record : String × List String}
    (recorded : recordOf host client vm = some record) : record.1 = toString vm.1 := by
  unfold recordOf at recorded
  cases read : getVmConfig host client vm.1 with
  | error failed => rw [read] at recorded; cases recorded
  | ok configMap =>
      rw [read] at recorded
      dsimp only at recorded
      split_ifs at recorded with none
      rw [← Option.some.inj recorded]

theorem record_of_key {vm vm' : UInt64 × String} {key : String} {mpaths mpaths' : List String}
    (recorded : recordOf host client vm = some (key, mpaths))
    (recorded' : recordOf host client vm' = some (key, mpaths')) : mpaths = mpaths' := by
  have number : vm.1 = vm'.1 := by
    have shown : key = toString vm.1 := record_keyed recorded
    have shown' : key = toString vm'.1 := record_keyed recorded'
    have parsed := congrArg parseU64 (shown.symm.trans shown')
    rw [parse_u64_to_string, parse_u64_to_string] at parsed
    exact Option.some.inj parsed
  have same : recordOf host client vm = recordOf host client vm' := by
    rw [recordOf, recordOf, number]
  rw [same, recorded', Option.some.injEq, Prod.mk.injEq] at recorded
  exact recorded.2.symm

theorem lookup_storage_devices (vms : List (UInt64 × String)) (key : String)
    (mpaths : List String) :
    (storageOf host client vms).multipathDevices.lookup key = some mpaths ↔
      ∃ vm ∈ vms, recordOf host client vm = some (key, mpaths) := by
  rw [storageOf]
  dsimp only
  constructor
  · intro found
    cases of_lookup_insert_all found with
    | inl member => exact List.mem_filterMap.mp member
    | inr before => simp at before
  · intro made
    obtain ⟨vm, member, recorded⟩ := made
    apply lookup_insert_all ∅ (List.mem_filterMap.mpr ⟨vm, member, recorded⟩)
    intro other later
    obtain ⟨vm', -, recorded'⟩ := List.mem_filterMap.mp later
    exact record_of_key recorded' recorded

end Storage

section Query

/-- What a directory can be for its list to be taken: absent, or read to its
end. -/
def Listable (configDir : ConfigDir) : Prop :=
  configDir = none ∨ ∃ entries : List DirEntry, configDir = some (.ok (entries.map Except.ok))

theorem list_local_vms_ok_iff (configDir : ConfigDir) :
    (∃ vms, listLocalVms configDir = .ok vms) ↔ Listable configDir := by
  constructor
  · intro listing
    obtain ⟨vms, listed⟩ := listing
    cases configDir with
    | none => exact Or.inl rfl
    | some read =>
        cases read with
        | error e => cases listed
        | ok results =>
            cases found : results.mapM readEntry with
            | error failed =>
                rw [listLocalVms, found] at listed
                cases listed
            | ok entries =>
                exact Or.inr ⟨entries, by rw [(read_entries_ok_iff results entries).mp found]⟩
  · intro listable
    cases listable with
    | inl absent => exact ⟨[], by rw [absent, listLocalVms]⟩
    | inr read =>
        obtain ⟨entries, rfl⟩ := read
        exact ⟨_, list_local_vms_of_entries entries⟩

theorem with_node_of_named {node : String} (named : node ≠ "") :
    ∃ client, withNodeAndPvesh node "pvesh" = .ok client := by
  have valid : validCommand "pvesh" = true := by decide
  refine ⟨⟨node, "pvesh", named, valid⟩, ?_⟩
  rw [withNodeAndPvesh, dif_neg named, dif_pos valid]

/-- A query fails in its list or in its last step, and nowhere between. -/
theorem storage_info_iff (host : PveHost) (client : PveSanConfig) (configDir : ConfigDir)
    (mode : PveMode) : (∃ info, getSanStorageInfoIn host client configDir mode = .ok info) ↔
      (∃ vms, listVms host client configDir mode = .ok vms) ∧
        ∃ devices, host.blockDevicesAgain = .ok devices := by
  cases listed : listVms host client configDir mode with
  | error failed =>
      apply iff_of_false
      · intro found
        obtain ⟨info, made⟩ := found
        rw [getSanStorageInfoIn, listed] at made
        cases made
      · intro found
        obtain ⟨⟨vms, impossible⟩, -⟩ := found
        cases impossible
  | ok vms =>
      rw [storage_info_of_list listed]
      cases host.blockDevicesAgain with
      | error message => exact iff_of_false (by intro found; cases found.choose_spec) (by simp)
      | ok devices => exact iff_of_true ⟨_, rfl⟩ ⟨⟨vms, rfl⟩, devices, rfl⟩

theorem query_of_node_ok_iff (host : PveHost) (configDir : ConfigDir)
    (runtime : Except String Unit) (node : String) :
    (∃ info, getSanStorageInfoSyncWithMode host configDir runtime node .localFiles = .ok info) ↔
      node ≠ "" ∧ runtime = .ok () ∧ Listable configDir ∧
        ∃ devices, host.blockDevicesAgain = .ok devices := by
  by_cases named : node = ""
  · apply iff_of_false
    · intro found
      obtain ⟨info, made⟩ := found
      rw [named] at made
      cases made
    · exact fun needed => needed.1 named
  · obtain ⟨client, accepted⟩ := with_node_of_named named
    rw [getSanStorageInfoSyncWithMode, accepted]
    cases runtime with
    | error e =>
        apply iff_of_false
        · intro found
          cases found.choose_spec
        · intro needed
          cases needed.2.1
    | ok built =>
        change (∃ info, getSanStorageInfoIn host client configDir .localFiles = .ok info) ↔ _
        rw [storage_info_iff, listVms, list_local_vms_ok_iff]
        exact ⟨fun needed => ⟨named, rfl, needed⟩, fun needed => needed.2.2⟩

/-- The default query succeeds unless the node's name is empty, no runtime can
be built, the directory cannot be read to its end, or lsblk fails. Nothing that
a configuration says, no missing configuration and no `pvesh` can fail it. -/
theorem local_query_succeeds_iff (host : PveHost) (configDir : ConfigDir)
    (runtime : Except String Unit) (node hostname : Option String) :
    (∃ info, queryStorage host configDir runtime node hostname .localFiles = some (.ok info)) ↔
      node ≠ some "" ∧ (node = none → hostname.map trim ≠ some "") ∧ runtime = .ok () ∧
        Listable configDir ∧ ∃ devices, host.blockDevicesAgain = .ok devices := by
  have named : node.getD ((hostname.map trim).getD "localhost") ≠ "" ↔
      node ≠ some "" ∧ (node = none → hostname.map trim ≠ some "") := by
    cases node with
    | some given => simp
    | none =>
        cases hostname with
        | none => simp
        | some name => simp
  rw [← and_assoc, ← named, ← query_of_node_ok_iff]
  simp only [queryStorage, queriedNode, Option.map_some, Option.some.injEq]

end Query

section Example

/-- A running machine and one that is switched off, each with a disk on a
multipath device. -/
def twoVmHost : PveHost where
  pvesh := fun _ => .ok ""
  configFile := fun path =>
    if path = "/etc/pve/local/qemu-server/104.conf" then some "scsi0: san:vm-104-disk-0\n"
    else if path = "/etc/pve/local/qemu-server/99.conf" then some "scsi0: san:vm-99-disk-0\n"
    else none
  jsonValues := fun _ => .ok [.object [("vmid", .number (some 104) "104"),
    ("status", .string "running")], .object [("vmid", .number (some 99) "99"),
    ("status", .string "stopped")]]
  jsonValue := fun _ => none
  jsonText := fun _ => ""
  blockDevices := .ok ["dm-0", "dm-1", "dm-2", "dm-3"]
  blockDevicesAgain := .ok ["dm-0", "dm-1", "dm-2", "dm-3"]
  sys := insertAll [("dm-0", ⟨some "mpatha\n", some ["sda"]⟩),
    ("dm-1", ⟨some "mpathb\n", some ["sdb"]⟩),
    ("dm-2", ⟨some "san-vm--104--disk--0\n", some ["dm-0"]⟩),
    ("dm-3", ⟨some "san-vm--99--disk--0\n", some ["dm-1"]⟩)] ∅

def twoVmEntries : List DirEntry :=
  [⟨"104.conf", true⟩, ⟨"104.conf.tmp", true⟩, ⟨"99.conf", true⟩, ⟨"notes", false⟩]

def pve01 : PveSanConfig := ⟨"pve01", "pvesh", by decide, by decide⟩

/-- The machine that is switched off is found by its file. -/
example : (getSanStorageInfoIn twoVmHost pve01 (some (.ok (twoVmEntries.map Except.ok)))
    .localFiles).toOption.map (fun info => (info.vms.map (·.vmid), activeMpaths info.vms)) =
      some ([99, 104], {"mpatha", "mpathb"}) := by decide +kernel

end Example

section Modes

variable {host : PveHost} {client : PveSanConfig} {entries : List DirEntry}

theorem mem_local_list (vmid : UInt64) (status : String) :
    (vmid, status) ∈ sortByVmid (entries.filterMap entryVm) ↔ status = "running" ∧
      ∃ stem, ⟨stem ++ "." ++ "conf", true⟩ ∈ entries ∧ parseU64 stem = some vmid := by
  rw [mem_sort_by_vmid, List.mem_filterMap]
  constructor
  · intro found
    obtain ⟨entry, member, counted⟩ := found
    obtain ⟨file, running, stem, named, parsed⟩ :=
      (entry_vm_eq_some_iff entry vmid status).mp counted
    have same : entry = ⟨stem ++ "." ++ "conf", true⟩ := by
      cases entry
      cases file
      cases named
      rfl
    exact ⟨running, stem, same ▸ member, parsed⟩
  · intro listed
    obtain ⟨running, stem, member, parsed⟩ := listed
    exact ⟨_, member, (entry_vm_eq_some_iff _ vmid status).mpr ⟨rfl, running, stem, rfl, parsed⟩⟩

/-- Where every machine that `pvesh` reports as running has its file, the query
by local files finds what the query by `pvesh` finds: the same machines with
the same disks, their multipath devices and their LUNs. What it finds beyond
that belongs to machines that are not running. -/
theorem local_mode_covers_pvesh_mode {vms : List (UInt64 × String)}
    (listing : listRunningVms host client = .ok vms) {devices : List String}
    (again : host.blockDevicesAgain = .ok devices)
    (configured : ∀ vmid, ReportedAs host client vmid "running" →
      ⟨toString vmid ++ "." ++ "conf", true⟩ ∈ entries) :
    let configDir : ConfigDir := some (.ok (entries.map Except.ok))
    ∃ remote here, getSanStorageInfoIn host client configDir .pvesh = .ok remote ∧
      getSanStorageInfoIn host client configDir .localFiles = .ok here ∧
        remote.vms ⊆ here.vms ∧
        (∀ key mpaths, remote.multipathDevices.lookup key = some mpaths →
          here.multipathDevices.lookup key = some mpaths) ∧
        activeMpaths remote.vms ⊆ activeMpaths here.vms ∧
        ∀ info ∈ here.vms, info ∈ remote.vms ↔ ReportedAs host client info.vmid "running" := by
  intro configDir
  have remote : getSanStorageInfoIn host client configDir .pvesh =
      .ok (storageOf host client vms) := pvesh_storage_info listing again
  have here : getSanStorageInfoIn host client configDir .localFiles =
      .ok (storageOf host client (sortByVmid (entries.filterMap entryVm))) := by
    rw [local_storage_info, again]
  have reported := mem_list_running_vms host client listing
  have kept : ∀ vm ∈ vms, vm ∈ sortByVmid (entries.filterMap entryVm) := by
    intro vm member
    obtain ⟨vmid, status⟩ := vm
    obtain ⟨said, running⟩ := (reported vmid status).mp member
    rw [running] at said
    rw [mem_local_list]
    exact ⟨running, toString vmid, configured vmid said, parse_u64_to_string vmid⟩
  have covered : (storageOf host client vms).vms ⊆
      (storageOf host client (sortByVmid (entries.filterMap entryVm))).vms := by
    intro info member
    obtain ⟨vm, isListed, described⟩ := (mem_storage_vms vms info).mp member
    exact (mem_storage_vms _ info).mpr ⟨vm, kept vm isListed, described⟩
  refine ⟨_, _, remote, here, covered, ?_, ?_, ?_⟩
  · intro key mpaths found
    obtain ⟨vm, isListed, recorded⟩ := (lookup_storage_devices vms key mpaths).mp found
    exact (lookup_storage_devices _ key mpaths).mpr ⟨vm, kept vm isListed, recorded⟩
  · intro key member
    obtain ⟨info, isFound, rest⟩ := (mem_active_mpaths _ key).mp member
    exact (mem_active_mpaths _ key).mpr ⟨info, covered isFound, rest⟩
  · intro info member
    obtain ⟨⟨vmid, status⟩, isListed, described⟩ := (mem_storage_vms _ info).mp member
    obtain ⟨running, -⟩ := (mem_local_list vmid status).mp isListed
    obtain ⟨number, -⟩ := info_of_vmid described
    rw [number]
    constructor
    · intro isRemote
      obtain ⟨⟨vmid', status'⟩, isReported, described'⟩ := (mem_storage_vms vms info).mp isRemote
      obtain ⟨said, running'⟩ := (reported vmid' status').mp isReported
      obtain ⟨number', -⟩ := info_of_vmid described'
      rw [running'] at said
      exact (number.symm.trans number') ▸ said
    · intro said
      apply (mem_storage_vms vms info).mpr
      refine ⟨(vmid, status), (reported vmid status).mpr ⟨?_, running⟩, described⟩
      rw [running]
      exact said

theorem local_mode_covers_pvesh_mode_two_vms :
    ∃ remote here : SanStorageInfo, remote.vms ⊆ here.vms ∧
      activeMpaths remote.vms ⊆ activeMpaths here.vms ∧
        ∀ info ∈ here.vms,
          info ∈ remote.vms ↔ ReportedAs twoVmHost pve01 info.vmid "running" := by
  have listing : listRunningVms twoVmHost pve01 = .ok [(104, "running")] := rfl
  have configured : ∀ vmid, ReportedAs twoVmHost pve01 vmid "running" →
      (⟨toString vmid ++ "." ++ "conf", true⟩ : DirEntry) ∈ twoVmEntries := by
    intro vmid reported
    have member := (mem_list_running_vms twoVmHost pve01 listing vmid "running").mpr ⟨reported, rfl⟩
    obtain ⟨rfl, -⟩ := Prod.mk.inj (List.mem_singleton.mp member)
    decide
  obtain ⟨remote, here, -, -, covered, -, active, running⟩ := @local_mode_covers_pvesh_mode
    twoVmHost pve01 twoVmEntries [(104, "running")] listing ["dm-0", "dm-1", "dm-2", "dm-3"] rfl
    configured
  exact ⟨remote, here, covered, active, running⟩

/-- The hosts differ at most in `pvesh` and in how its list of machines is
parsed. -/
structure SameFiles (host host' : PveHost) : Prop where
  configFile : host'.configFile = host.configFile
  jsonValue : host'.jsonValue = host.jsonValue
  jsonText : host'.jsonText = host.jsonText
  blockDevices : host'.blockDevices = host.blockDevices
  blockDevicesAgain : host'.blockDevicesAgain = host.blockDevicesAgain
  sys : host'.sys = host.sys

def Readable (host : PveHost) (entries : List DirEntry) : Prop :=
  ∀ entry ∈ entries, ∀ vm, entryVm entry = some vm →
    (host.configFile ("/etc/pve/local/qemu-server/" ++ toString vm.1 ++ ".conf")).isSome

theorem parse_same_files {host' : PveHost} (files : SameFiles host host') (configText : String) :
    parseVmConfig host' configText = parseVmConfig host configText := by
  have values : valueText host' = valueText host := by
    funext value
    unfold valueText
    rw [files.jsonText]
  unfold parseVmConfig
  rw [files.jsonValue, values]

theorem config_same_files {host' : PveHost} (files : SameFiles host host')
    (client' : PveSanConfig) {vmid : UInt64}
    (file : (host.configFile
      ("/etc/pve/local/qemu-server/" ++ toString vmid ++ ".conf")).isSome) :
    getVmConfig host' client' vmid = getVmConfig host client vmid := by
  obtain ⟨configText, read⟩ := Option.isSome_iff_exists.mp file
  rw [getVmConfig, getVmConfig, files.configFile, read]
  exact congrArg Except.ok (parse_same_files files configText)

/-- The query by local files depends on the files only: neither on the order
in which the directory is read nor, as long as every numbered file can be read,
on `pvesh`. -/
theorem local_mode_reads_files_only {host' : PveHost} (files : SameFiles host host')
    {client' : PveSanConfig} (node : client'.node = client.node)
    {entries' : List DirEntry} (same : entries.Perm entries') (readable : Readable host entries) :
    getSanStorageInfoIn host' client' (some (.ok (entries'.map Except.ok))) .localFiles =
      getSanStorageInfoIn host client (some (.ok (entries.map Except.ok))) .localFiles := by
  have order := sort_by_vmid_perm (same.filterMap entryVm) (entries_running entries)
  have reads : ∀ vm ∈ sortByVmid (entries.filterMap entryVm),
      (getVmConfig host' client' vm.1).toOption = (getVmConfig host client vm.1).toOption := by
    intro vm member
    obtain ⟨entry, isListed, counted⟩ :=
      List.mem_filterMap.mp ((mem_sort_by_vmid _ vm).mp member)
    rw [config_same_files files client' (readable entry isListed vm counted)]
  have storage := storage_of_congr node files.sys files.blockDevices reads
  rw [local_storage_info, local_storage_info, files.blockDevicesAgain, ← order, storage]

theorem local_mode_reads_files_only_reversed :
    getSanStorageInfoIn { twoVmHost with pvesh := fun _ => .error .pveshNotFound } pve01
        (some (.ok (twoVmEntries.reverse.map Except.ok))) .localFiles =
      getSanStorageInfoIn twoVmHost pve01 (some (.ok (twoVmEntries.map Except.ok)))
        .localFiles := by
  have files : SameFiles twoVmHost { twoVmHost with pvesh := fun _ => .error .pveshNotFound } :=
    ⟨rfl, rfl, rfl, rfl, rfl, rfl⟩
  have readable : Readable twoVmHost twoVmEntries := by
    intro entry member vm counted
    have numbered : ∀ entry ∈ twoVmEntries, entryVm entry = none ∨
        entryVm entry = some (104, "running") ∨ entryVm entry = some (99, "running") := by decide
    rcases numbered entry member with none | running | stopped
    · rw [none] at counted
      cases counted
    · rw [running] at counted
      cases counted
      rfl
    · rw [stopped] at counted
      cases counted
      rfl
  exact local_mode_reads_files_only files rfl (List.reverse_perm twoVmEntries).symm readable

end Modes


end PveSanFenced.LocalFiles
