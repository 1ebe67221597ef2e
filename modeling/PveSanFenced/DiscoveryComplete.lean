import PveSanFenced.Discovery

/-!
# Discovery is complete

No LUN behind a disk of a running machine is dropped on the way from the slave
links to the active LUN set, and nothing else gets into it.
-/

namespace PveSanFenced.DiscoveryComplete

open PveSanFenced.Discovery
open PveSanFenced.Disks
open PveSanFenced.Library.Collections
open PveSanFenced.Library.Reach
open PveSanFenced.Library.Text
open PveSanFenced.Pvesh
open PveSanFenced.Sysfs

set_option autoImplicit false

/-- What discovery relies on: the lsblk crate lists every device-mapper
device, mapped names are distinct and free of ` / `, and that of a multipath
does not end in ` /`. -/
structure KernelNames (sys : SysBlock) (listed : List String) : Prop extends
    DistinctNames sys listed where
  complete : ∀ device ∈ sys.keys, startsWith device "dm-" = true → device ∈ listed
  free : ∀ device ∈ listed, ∀ mapped ∈ mappedName sys device,
    ¬" / ".toList <:+: mapped.toList
  ending : ∀ device ∈ listed, ∀ mapped ∈ multipathName sys device,
    ¬" /".toList <:+ mapped.toList

/-- The entry gives the storage, with or without options behind it. -/
def EntryNames (value storage : String) : Prop :=
  value = storage ∨ ∃ options, value = storage ++ "," ++ options

theorem entry_names_first {value : String} {vg lv : LvmName}
    (names : EntryNames value (volumeId vg lv)) :
    (splitChar ',' value).head? = some (volumeId vg lv) := by
  have free : ',' ∉ (volumeId vg lv).toList := by
    have inVg := vg.not_mem (show isLvmChar ',' = false by decide)
    have inLv := lv.not_mem (show isLvmChar ',' = false by decide)
    simp [volumeId, inVg, inLv]
  cases names with
  | inl same => rw [same, split_char_of_not_mem free, List.head?_cons]
  | inr followed =>
      obtain ⟨options, same⟩ := followed
      have split := split_char_append options free
      rw [same]
      rw [show (",": String) = String.singleton ',' from rfl, split, List.head?_cons]

variable {host : PveHost} {client : PveSanConfig}

theorem mapped_in_keys {sys : SysBlock} {device mapped : String}
    (read : mappedName sys device = some mapped) : device ∈ sys.keys := by
  rw [Finmap.mem_keys, Finmap.mem_iff]
  by_contra absent
  rw [not_exists] at absent
  have missing : sys.lookup device = none := Option.eq_none_iff_forall_ne_some.mpr absent
  simp [mappedName, missing] at read

theorem path_dm {sys : SysBlock} {device other : String} (dm : startsWith device "dm-" = true)
    (path : Relation.ReflTransGen (Passes (multipathName sys) (dmSlaves sys)) device other) :
    startsWith other "dm-" = true := by
  cases Relation.ReflTransGen.cases_tail path with
  | inl same => exact same ▸ dm
  | inr stepped =>
      obtain ⟨before, -, passes⟩ := stepped
      exact (List.mem_filter.mp passes.2).2

theorem found_unbroken (kernel : KernelNames host.sys (listedDevices host)) {device mpath : String}
    (dm : startsWith device "dm-" = true)
    (finds : Finds (multipathName host.sys) (dmSlaves host.sys) device mpath) :
    Unbroken " / ".toList mpath.toList := by
  obtain ⟨other, path, named⟩ := finds
  have read := (Option.filter_eq_some_iff.mp named).1
  have isListed := kernel.complete other (mapped_in_keys read) (path_dm dm path)
  exact unbroken_of_no_slash (kernel.free other isListed mpath read)
    (kernel.ending other isListed mpath named)

theorem matched_key (kernel : KernelNames host.sys (listedDevices host)) {storage : String}
    {mpaths : Finset String} (matched : matchedMpaths (mpathMapOf host) storage = some mpaths) :
    mpaths.Nonempty ∧ lunKey (deviceMapperName mpaths) = some (keyOf mpaths) := by
  obtain ⟨name, found⟩ := lookup_of_matched matched
  obtain ⟨device, -, dm, same, nonempty, -⟩ := of_lookup_sysfs_mpath_map host.sys found
  have some' := Finset.nonempty_iff_ne_empty.mpr nonempty
  refine ⟨some', lun_key_device_mapper_name some' ?_⟩
  intro mpath member
  rw [same, mem_find_multipaths] at member
  exact found_unbroken kernel dm member

theorem matched_volume (kernel : KernelNames host.sys (listedDevices host)) {vg lv : LvmName}
    {device : String} (dm : startsWith device "dm-" = true)
    (mapped : mappedName host.sys device = some (lvmDmName vg lv)) {mpaths : Finset String}
    (nonempty : mpaths.Nonempty) (found : ∀ mpath, mpath ∈ mpaths ↔
      Finds (multipathName host.sys) (dmSlaves host.sys) device mpath) :
    matchedMpaths (mpathMapOf host) (volumeId vg lv) = some mpaths := by
  have same : findMultipaths host.sys device = mpaths := by
    ext mpath
    rw [mem_find_multipaths, found]
  have isListed := kernel.complete device (mapped_in_keys mapped) dm
  apply matched_of_dm_name
  rw [storage_to_dm_name_volume, mpathMapOf,
    lookup_sysfs_mpath_map kernel.toDistinctNames isListed dm mapped, same,
    if_neg nonempty.ne_empty]

/-- Whatever the slave links are, the active set holds the key of the
multipath devices behind every disk of a running machine, and every key in it
is that of such a disk. -/
theorem discovery_complete {node pveshCommand : String}
    (accepted : withNodeAndPvesh node pveshCommand = .ok client) {vms : List (UInt64 × String)}
    (listing : listRunningVms host client = .ok vms) {devices : List String}
    (again : host.blockDevicesAgain = .ok devices)
    (kernel : KernelNames host.sys (listedDevices host)) :
    ∃ active, discoverInUseMpaths host node pveshCommand = .ok active ∧
      (∀ vmid configMap key value vg lv device (mpaths : Finset String),
        ReportedAs host client vmid "running" → getVmConfig host client vmid = .ok configMap →
          configMap.lookup key = some value → IsDiskKey key →
            EntryNames value (volumeId vg lv) → startsWith device "dm-" = true →
              mappedName host.sys device = some (lvmDmName vg lv) → mpaths.Nonempty →
                (∀ mpath, mpath ∈ mpaths ↔
                  Finds (multipathName host.sys) (dmSlaves host.sys) device mpath) →
                    keyOf mpaths ∈ active) ∧
      ∀ key ∈ active, ∃ vmid configMap disks disk mpaths,
        ReportedAs host client vmid "running" ∧ getVmConfig host client vmid = .ok configMap ∧
          extractDisks configMap = .ok disks ∧ disk ∈ disks ∧
            matchedMpaths (mpathMapOf host) disk.storage = some mpaths ∧ mpaths.Nonempty ∧
              key = keyOf mpaths := by
  obtain ⟨active, discovered, keys⟩ := discover_ok accepted listing again
  refine ⟨active, discovered, ?_, ?_⟩
  · intro vmid configMap key value vg lv device mpaths reported read entry diskKey names dm mapped
      nonempty found
    obtain ⟨disks, extracted, -⟩ := extract_disks_ok configMap
    obtain ⟨disk, member, storage⟩ :=
      extracts_entry extracted entry diskKey (entry_names_first names)
    have matched := matched_volume kernel dm mapped nonempty found
    rw [← storage] at matched
    exact (keys _).mpr ⟨vmid, configMap, disks, disk, mpaths, reported, read, extracted, member,
      matched, (matched_key kernel matched).2⟩
  · intro key member
    obtain ⟨vmid, configMap, disks, disk, mpaths, reported, read, extracted, inside, matched,
      keyed⟩ := (keys key).mp member
    obtain ⟨nonempty, made⟩ := matched_key kernel matched
    rw [made, Option.some.injEq] at keyed
    exact ⟨vmid, configMap, disks, disk, mpaths, reported, read, extracted, inside, matched,
      nonempty, keyed.symm⟩

section Spanned

def spannedHost (first : String) : PveHost where
  pvesh := fun _ => .ok ""
  configFile := fun _ => some "scsi0: san:vm-104-disk-0,size=32G\n"
  jsonValues := fun _ => .ok [.object [("vmid", .number (some 104) "104"),
    ("status", .string "running")]]
  jsonValue := fun _ => none
  jsonText := fun _ => ""
  blockDevices := .ok ["dm-0", "dm-1", "dm-2"]
  blockDevicesAgain := .ok ["dm-0", "dm-1", "dm-2"]
  sys := insertAll [("dm-0", ⟨some (first ++ "\n"), some ["sda"]⟩),
    ("dm-1", ⟨some "mpathb\n", some ["sdb"]⟩),
    ("dm-2", ⟨some "san-vm--104--disk--0\n", some ["dm-0", "dm-1"]⟩)] ∅

theorem discovery_complete_spanned :
    ∃ active, discoverInUseMpaths (spannedHost "mpatha") "pve01" "pvesh" = .ok active ∧
      "mpatha+mpathb" ∈ active := by
  have kernel : KernelNames (spannedHost "mpatha").sys (listedDevices (spannedHost "mpatha")) :=
    ⟨⟨by decide, by decide⟩, by decide, by decide, by decide⟩
  obtain ⟨active, discovered, covers, -⟩ := @discovery_complete (spannedHost "mpatha")
    ⟨"pve01", "pvesh", by decide, by decide⟩ "pve01" "pvesh" rfl [(104, "running")] rfl
    ["dm-0", "dm-1", "dm-2"] rfl kernel
  refine ⟨active, discovered, ?_⟩
  exact covers 104 _ "scsi0" "san:vm-104-disk-0,size=32G"
    ⟨"san", by decide, by decide, by decide⟩ ⟨"vm-104-disk-0", by decide, by decide, by decide⟩
    "dm-2" (findMultipaths (spannedHost "mpatha").sys "dm-2")
    ⟨"", _, _, rfl, rfl, List.mem_singleton_self _, rfl, rfl⟩ rfl (by decide)
    ⟨"scsi", by decide, "0", 0, by decide, by decide, by decide⟩
    (Or.inr ⟨"size=32G", by decide⟩) (by decide) (by decide) (by decide)
    (mem_find_multipaths _ _)

/-- Distinct names without ` / ` are not enough: where the first one ends in
` /`, the key in the active set names neither device. -/
theorem slash_ending_misread :
    DistinctNames (spannedHost "mpatha /").sys (listedDevices (spannedHost "mpatha /")) ∧
      (spannedHost "mpatha /").sys.keys = (listedDevices (spannedHost "mpatha /")).toFinset ∧
      (∀ device ∈ listedDevices (spannedHost "mpatha /"),
        ∀ mapped ∈ mappedName (spannedHost "mpatha /").sys device,
          ¬" / ".toList <:+: mapped.toList) ∧
      findMultipaths (spannedHost "mpatha /").sys "dm-2" = {"mpatha /", "mpathb"} ∧
      discoverInUseMpaths (spannedHost "mpatha /") "pve01" "pvesh" = .ok {"/ mpathb+mpatha"} ∧
      keyOf {"mpatha /", "mpathb"} ∉ ({"/ mpathb+mpatha"} : Finset String) :=
  ⟨⟨by decide, by decide⟩, by decide, by decide, by decide, rfl, by decide⟩

end Spanned

end PveSanFenced.DiscoveryComplete
