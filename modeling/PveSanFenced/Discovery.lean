import PveSanFenced.Disks

/-!
# Discovery of the LUNs in use

`get_san_storage_info` attributes multipath devices to the disks of the running
virtual machines, and `discover_in_use_mpaths` turns them into the keys of the
active LUN set. Its future never yields, so the time limit around it cannot cut
it short.
-/

namespace PveSanFenced.Discovery

open PveSanFenced.Disks
open PveSanFenced.Library.Collections
open PveSanFenced.Library.Text
open PveSanFenced.Pvesh
open PveSanFenced.Sysfs

set_option autoImplicit false

structure VmInfo where
  vmid : UInt64
  name : String
  status : String
  disks : List VmDisk

/-- The block devices, which the daemon does not read, are left out. -/
structure SanStorageInfo where
  node : String
  vms : List VmInfo
  multipathDevices : HashMap String (List String)

variable (host : PveHost) (client : PveSanConfig)

/-- The devices of the first listing; a failure counts as none. -/
def listedDevices : List String := host.blockDevices.toOption.getD []

def mpathMapOf : HashMap String (Finset String) := sysfsMpathMap host.sys (listedDevices host)

section Collect

variable (mpathMap : HashMap String (Finset String))

def vmMpaths (disks : List VmDisk) : Finset String :=
  (disks.filterMap fun disk => matchedMpaths mpathMap disk.storage).foldl (· ∪ ·) ∅

def vmInfoOf (vmid : UInt64) (status : String) (configMap : HashMap String String)
    (disks : List VmDisk) : VmInfo where
  vmid := vmid
  name := (configMap.lookup "name").getD ("vm-" ++ toString vmid)
  status := status
  disks := disks.map (attributeMpaths mpathMap)

/-- The loop over the running machines. One whose configuration cannot be read
is passed over. -/
def collectVms : List (UInt64 × String) → List VmInfo → HashMap String (List String) →
    Except PveSanError (List VmInfo × HashMap String (List String))
  | [], vmInfos, multipathDevices => .ok (vmInfos, multipathDevices)
  | (vmid, status) :: rest, vmInfos, multipathDevices =>
      match getVmConfig host client vmid with
      | .error _ => collectVms rest vmInfos multipathDevices
      | .ok configMap => do
          let disks ← extractDisks configMap
          let mpaths := vmMpaths mpathMap disks
          collectVms rest (vmInfos ++ [vmInfoOf mpathMap vmid status configMap disks])
            (if mpaths = ∅ then multipathDevices
              else multipathDevices.insert (toString vmid) (sorted mpaths))

def Collected (vmid : UInt64) (status : String) (info : VmInfo) : Prop :=
  ∃ configMap disks, getVmConfig host client vmid = .ok configMap ∧
    extractDisks configMap = .ok disks ∧ info = vmInfoOf mpathMap vmid status configMap disks

theorem collect_vms_ok (vms : List (UInt64 × String)) : ∀ vmInfos multipathDevices,
    ∃ infos devices, collectVms host client mpathMap vms vmInfos multipathDevices =
      .ok (infos, devices) ∧ ∀ info, info ∈ infos ↔ info ∈ vmInfos ∨
        ∃ vm ∈ vms, Collected host client mpathMap vm.1 vm.2 info := by
  induction vms with
  | nil => exact fun vmInfos multipathDevices => ⟨vmInfos, multipathDevices, rfl, by simp⟩
  | cons vm rest ih =>
      intro vmInfos multipathDevices
      obtain ⟨vmid, status⟩ := vm
      unfold collectVms
      cases read : getVmConfig host client vmid with
      | error failed =>
          obtain ⟨infos, devices, collected, listed⟩ := ih vmInfos multipathDevices
          refine ⟨infos, devices, collected, ?_⟩
          intro info
          rw [listed, List.exists_mem_cons_iff]
          have skipped : ¬Collected host client mpathMap vmid status info := by
            intro made
            obtain ⟨configMap, -, read', -⟩ := made
            rw [read] at read'
            cases read'
          simp [skipped]
      | ok configMap =>
          obtain ⟨disks, extracted, -⟩ := extract_disks_ok configMap
          obtain ⟨infos, devices, collected, listed⟩ :=
            ih (vmInfos ++ [vmInfoOf mpathMap vmid status configMap disks]) _
          refine ⟨infos, devices, ?_, ?_⟩
          · dsimp only
            rw [extracted]
            exact collected
          · intro info
            have here : Collected host client mpathMap vmid status info ↔
                info = vmInfoOf mpathMap vmid status configMap disks := by
              constructor
              · intro made
                obtain ⟨configMap', disks', read', extracted', same⟩ := made
                rw [read, Except.ok.injEq] at read'
                subst read'
                rw [extracted, Except.ok.injEq] at extracted'
                exact extracted' ▸ same
              · intro same
                exact ⟨configMap, disks, read, extracted, same⟩
            rw [listed, List.mem_append, List.mem_singleton, List.exists_mem_cons_iff, here,
              or_assoc]

end Collect

def getSanStorageInfo : Except PveSanError SanStorageInfo := do
  let vms ← listRunningVms host client
  let (vmInfos, multipathDevices) ← collectVms host client (mpathMapOf host) vms [] ∅
  match host.blockDevicesAgain with
  | .error message => .error (.lsblkError message)
  | .ok _ => .ok ⟨client.node, vmInfos, multipathDevices⟩

section Keys

/-- The key that `discover_in_use_mpaths` inserts for a device-mapper name. -/
def lunKey (dmName : String) : Option String :=
  let mpaths := splitStr " / " dmName
  if 1 < mpaths.length then some ("+".intercalate (mpaths.insertionSort (· ≤ ·)))
  else mpaths.head?

def activeMpaths (vms : List VmInfo) : Finset String :=
  ((vms.filter (·.status = "running")).flatMap fun vm =>
    vm.disks.filterMap fun disk => disk.deviceMapperName.bind lunKey).toFinset

def discoverInUseMpaths (node pveshCommand : String) : Except PveSanError (Finset String) := do
  let client ← withNodeAndPvesh node pveshCommand
  let storageInfo ← getSanStorageInfo host client
  .ok (activeMpaths storageInfo.vms)

/-- The key of a set of multipath devices: the name, or the names in sorted
order joined by `+`. -/
def keyOf (mpaths : Finset String) : String := "+".intercalate (sorted mpaths)

theorem sorted_ne_nil {mpaths : Finset String} (some : mpaths.Nonempty) : sorted mpaths ≠ [] := by
  obtain ⟨name, member⟩ := some
  exact List.ne_nil_of_mem ((mem_sorted mpaths name).mpr member)

/-- Names that the separator does not break come out of the text as they went
in, so the key is the key of the set. -/
theorem lun_key_device_mapper_name {mpaths : Finset String} (some : mpaths.Nonempty)
    (unbroken : ∀ name ∈ mpaths, Unbroken " / ".toList name.toList) :
    lunKey (deviceMapperName mpaths) = Option.some (keyOf mpaths) := by
  have split : splitStr " / " (deviceMapperName mpaths) = sorted mpaths :=
    split_str_intercalate (by decide) (sorted_ne_nil some) fun name member =>
      unbroken name ((mem_sorted mpaths name).mp member)
  have ordered := (sorted_pairwise mpaths).insertionSort_eq
  rw [lunKey, split, ordered, keyOf]
  cases names : sorted mpaths with
  | nil => exact absurd names (sorted_ne_nil some)
  | cons name rest =>
      cases rest with
      | nil => simp
      | cons next rest => simp

end Keys

section Complete

variable {host client}

theorem mem_active_mpaths (vms : List VmInfo) (key : String) :
    key ∈ activeMpaths vms ↔ ∃ vm ∈ vms, vm.status = "running" ∧
      ∃ disk ∈ vm.disks, disk.deviceMapperName.bind lunKey = some key := by
  rw [activeMpaths, List.mem_toFinset, List.mem_flatMap]
  simp only [List.mem_filter, decide_eq_true_eq, List.mem_filterMap, and_assoc]

theorem attributed_key_iff {mpathMap : HashMap String (Finset String)}
    {configMap : HashMap String String} {disks : List VmDisk}
    (extracted : extractDisks configMap = .ok disks) {disk : VmDisk} (inside : disk ∈ disks)
    (key : String) :
    (attributeMpaths mpathMap disk).deviceMapperName.bind lunKey = some key ↔
      ∃ mpaths, matchedMpaths mpathMap disk.storage = some mpaths ∧
        lunKey (deviceMapperName mpaths) = some key := by
  rw [attribute_mpaths_name (extracted_bare extracted inside)]
  cases matchedMpaths mpathMap disk.storage with
  | none => simp
  | some mpaths => simp

theorem get_san_storage_info_ok {vms : List (UInt64 × String)}
    (listing : listRunningVms host client = .ok vms) {devices : List String}
    (again : host.blockDevicesAgain = .ok devices) :
    ∃ infos byVmid, getSanStorageInfo host client = .ok ⟨client.node, infos, byVmid⟩ ∧
      ∀ info, info ∈ infos ↔
        ∃ vm ∈ vms, Collected host client (mpathMapOf host) vm.1 vm.2 info := by
  obtain ⟨infos, byVmid, collected, listed⟩ :=
    collect_vms_ok host client (mpathMapOf host) vms [] ∅
  refine ⟨infos, byVmid, ?_, ?_⟩
  · rw [getSanStorageInfo, listing]
    dsimp only [bind, Except.bind]
    rw [collected]
    dsimp only
    rw [again]
  · intro info
    rw [listed]
    simp

/-- Once the machines and the block devices have been listed, discovery
returns, and its keys are those of the disks of the running machines. -/
theorem discover_ok {node pveshCommand : String}
    (accepted : withNodeAndPvesh node pveshCommand = .ok client) {vms : List (UInt64 × String)}
    (listing : listRunningVms host client = .ok vms) {devices : List String}
    (again : host.blockDevicesAgain = .ok devices) :
    ∃ active, discoverInUseMpaths host node pveshCommand = .ok active ∧ ∀ key, key ∈ active ↔
      ∃ vmid configMap disks disk mpaths, ReportedAs host client vmid "running" ∧
        getVmConfig host client vmid = .ok configMap ∧ extractDisks configMap = .ok disks ∧
          disk ∈ disks ∧ matchedMpaths (mpathMapOf host) disk.storage = some mpaths ∧
            lunKey (deviceMapperName mpaths) = some key := by
  obtain ⟨infos, byVmid, info, listed⟩ := get_san_storage_info_ok listing again
  refine ⟨activeMpaths infos, ?_, ?_⟩
  · rw [discoverInUseMpaths, accepted]
    dsimp only [bind, Except.bind]
    rw [info]
  · intro key
    rw [mem_active_mpaths]
    constructor
    · intro found
      obtain ⟨vmInfo, member, running, disk', diskMember, keyed⟩ := found
      obtain ⟨⟨vmid, status⟩, vmMember, configMap, disks, read, extracted, rfl⟩ :=
        (listed vmInfo).mp member
      obtain ⟨disk, inside, rfl⟩ := List.mem_map.mp diskMember
      obtain ⟨mpaths, matched, named⟩ := (attributed_key_iff extracted inside key).mp keyed
      have reported := ((mem_list_running_vms host client listing vmid status).mp vmMember).1
      rw [show status = "running" from running] at reported
      exact ⟨vmid, configMap, disks, disk, mpaths, reported, read, extracted, inside, matched,
        named⟩
    · intro source
      obtain ⟨vmid, configMap, disks, disk, mpaths, reported, read, extracted, inside, matched,
        named⟩ := source
      have vmMember := (mem_list_running_vms host client listing vmid "running").mpr ⟨reported, rfl⟩
      refine ⟨vmInfoOf (mpathMapOf host) vmid "running" configMap disks, ?_, rfl,
        attributeMpaths (mpathMapOf host) disk, List.mem_map_of_mem inside, ?_⟩
      · exact (listed _).mpr ⟨(vmid, "running"), vmMember, configMap, disks, read, extracted, rfl⟩
      · exact (attributed_key_iff extracted inside key).mpr ⟨mpaths, matched, named⟩

end Complete

end PveSanFenced.Discovery
