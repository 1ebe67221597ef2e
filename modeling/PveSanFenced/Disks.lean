import PveSanFenced.Pvesh

/-!
# The disks of a virtual machine and their multipath devices

A disk entry names a volume as `vg:lv`; the device-mapper name of that volume
is looked up in the map of multipath devices.
-/

namespace PveSanFenced.Disks

open PveSanFenced.Library.Collections
open PveSanFenced.Library.Text
open PveSanFenced.Pvesh

set_option autoImplicit false

/-- A disk, with what is known of its multipath devices. The size, which the
daemon does not read, is left out. -/
structure VmDisk where
  deviceId : String
  storage : String
  devicePath : Option String
  deviceMapperName : Option String
  metadata : Option (HashMap String String)

section Extract

def diskPrefixes : List String := ["scsi", "virtio", "sata", "ide", "efidisk"]

def metadataEntries (parts : List String) : List (String × String) :=
  parts.filterMap fun part => splitOnce '=' part

def parseDiskValue (value : String) : Except PveSanError (String × HashMap String String) :=
  match splitChar ',' value with
  | [] => .error (.configParseError "Empty disk value")
  | storagePart :: parts =>
      let storage := match splitOnce ':' storagePart with
        | some (storageName, volume) => storageName ++ ":" ++ volume
        | none => storagePart
      .ok (storage, insertAll (metadataEntries parts) ∅)

def diskOf (key value diskPrefix : String) : Except PveSanError (Option VmDisk) :=
  match stripPrefix diskPrefix key with
  | none => .ok none
  | some indexStr =>
      if indexStr = "" then .ok none
      else match parseU32 indexStr with
        | none => .ok none
        | some index =>
            if 99 < index then .ok none
            else do
              let (storage, metadata) ← parseDiskValue value
              .ok (some ⟨diskPrefix ++ toString index, storage, none, none, some metadata⟩)

theorem parse_disk_value_ok (value : String) : ∃ storage metadata,
    parseDiskValue value = .ok (storage, metadata) ∧
      (splitChar ',' value).head? = some storage := by
  unfold parseDiskValue
  cases pieces : splitChar ',' value with
  | nil => exact absurd pieces (split_char_ne_nil ',' value)
  | cons storagePart parts =>
      refine ⟨storagePart, insertAll (metadataEntries parts) ∅, ?_, rfl⟩
      dsimp only
      cases found : splitOnce ':' storagePart with
      | none => rfl
      | some halves =>
          obtain ⟨storageName, volume⟩ := halves
          rw [← of_split_once found]
          rfl

theorem disk_of_ok (key value diskPrefix : String) : ∃ found,
    diskOf key value diskPrefix = .ok found ∧ ∀ disk ∈ found, disk.deviceMapperName = none := by
  unfold diskOf
  cases stripPrefix diskPrefix key with
  | none => exact ⟨none, rfl, by simp⟩
  | some indexStr =>
      dsimp only
      split_ifs with bare
      · exact ⟨none, rfl, by simp⟩
      · cases parseU32 indexStr with
        | none => exact ⟨none, rfl, by simp⟩
        | some index =>
            dsimp only
            split_ifs with beyond
            · exact ⟨none, rfl, by simp⟩
            · obtain ⟨storage, metadata, parsed, -⟩ := parse_disk_value_ok value
              rw [parsed]
              exact ⟨_, rfl, by simp⟩

/-- `extract_disks`: the disks in the order of their identifiers. -/
def extractDisks (configMap : HashMap String String) : Except PveSanError (List VmDisk) := do
  let tried ← (sorted configMap.keys).mapM fun key =>
    diskPrefixes.mapM (diskOf key ((configMap.lookup key).getD ""))
  .ok ((tried.flatten.filterMap id).insertionSort fun a b => a.deviceId ≤ b.deviceId)

/-- A key that names a disk: a prefix and an index of at most 99. -/
def IsDiskKey (key : String) : Prop :=
  ∃ diskPrefix ∈ diskPrefixes, ∃ indexStr index, key = diskPrefix ++ indexStr ∧
    parseU32 indexStr = some index ∧ index ≤ 99

/-- No configuration makes the extraction fail, and the disks are those its
keys and prefixes yield. -/
theorem extract_disks_ok (configMap : HashMap String String) :
    ∃ disks, extractDisks configMap = .ok disks ∧ ∀ disk, disk ∈ disks ↔
      ∃ key ∈ configMap.keys, ∃ diskPrefix ∈ diskPrefixes,
        diskOf key ((configMap.lookup key).getD "") diskPrefix = .ok (some disk) := by
  have tries : ∀ key, ∃ found, (diskPrefixes.mapM
      (diskOf key ((configMap.lookup key).getD ""))) = .ok found ∧ ∀ disk, some disk ∈ found ↔
        ∃ diskPrefix ∈ diskPrefixes,
          diskOf key ((configMap.lookup key).getD "") diskPrefix = .ok (some disk) := by
    intro key
    obtain ⟨found, made, listed⟩ := map_m_ok diskPrefixes fun diskPrefix => by
      obtain ⟨found, made, -⟩ := disk_of_ok key ((configMap.lookup key).getD "") diskPrefix
      exact ⟨found, made⟩
    exact ⟨found, made, fun disk => listed (some disk)⟩
  obtain ⟨tried, made, listed⟩ := map_m_ok (sorted configMap.keys) fun key => by
    obtain ⟨found, made, -⟩ := tries key
    exact ⟨found, made⟩
  refine ⟨_, by rw [extractDisks, made]; rfl, ?_⟩
  intro disk
  rw [List.mem_insertionSort, List.mem_filterMap]
  simp only [id_eq, exists_eq_right, List.mem_flatten]
  constructor
  · intro member
    obtain ⟨found, foundMember, inside⟩ := member
    obtain ⟨key, keyMember, tried'⟩ := (listed found).mp foundMember
    obtain ⟨found', made', listed'⟩ := tries key
    rw [tried', Except.ok.injEq] at made'
    subst made'
    exact ⟨key, (mem_sorted _ key).mp keyMember, (listed' disk).mp inside⟩
  · intro yielded
    obtain ⟨key, keyMember, yields⟩ := yielded
    obtain ⟨found, made', listed'⟩ := tries key
    exact ⟨found, (listed found).mpr ⟨key, (mem_sorted _ key).mpr keyMember, made'⟩,
      (listed' disk).mpr yields⟩

theorem extracted_bare {configMap : HashMap String String} {disks : List VmDisk}
    (extracted : extractDisks configMap = .ok disks) {disk : VmDisk} (member : disk ∈ disks) :
    disk.deviceMapperName = none := by
  obtain ⟨disks', extracted', listed⟩ := extract_disks_ok configMap
  rw [extracted, Except.ok.injEq] at extracted'
  subst extracted'
  obtain ⟨key, -, diskPrefix, -, yields⟩ := (listed disk).mp member
  obtain ⟨found, made, bare⟩ := disk_of_ok key ((configMap.lookup key).getD "") diskPrefix
  rw [yields, Except.ok.injEq] at made
  exact bare disk (made ▸ rfl)

theorem extracts_entry {configMap : HashMap String String} {disks : List VmDisk}
    (extracted : extractDisks configMap = .ok disks) {key value storage : String}
    (entry : configMap.lookup key = some value) (diskKey : IsDiskKey key)
    (first : (splitChar ',' value).head? = some storage) :
    ∃ disk ∈ disks, disk.storage = storage := by
  obtain ⟨disks', extracted', listed⟩ := extract_disks_ok configMap
  rw [extracted, Except.ok.injEq] at extracted'
  subst extracted'
  obtain ⟨diskPrefix, known, indexStr, index, rfl, parsedIndex, within⟩ := diskKey
  obtain ⟨storage', metadata, parsed, first'⟩ := parse_disk_value_ok value
  rw [first, Option.some.injEq] at first'
  subst first'
  have suffixed : indexStr ≠ "" := by
    intro bare
    rw [bare] at parsedIndex
    cases parsedIndex
  refine ⟨⟨diskPrefix ++ toString index, storage, none, none, some metadata⟩, ?_, rfl⟩
  rw [listed]
  refine ⟨diskPrefix ++ indexStr, Finmap.mem_keys.mpr (Finmap.mem_of_lookup_eq_some entry),
    diskPrefix, known, ?_⟩
  rw [entry, Option.getD_some, diskOf, strip_prefix_append]
  simp only [if_neg suffixed, parsedIndex, if_neg (UInt32.not_lt.mpr within), parsed]
  rfl

end Extract

section Lvm

def isLvmChar (c : Char) : Bool := c.isAlphanum || c == '+' || c == '_' || c == '.' || c == '-'

structure LvmName where
  text : String
  nonempty : text ≠ ""
  chars : text.toList.all isLvmChar = true
  noLeadingHyphen : text.toList.head? ≠ some '-'

theorem LvmName.not_mem (name : LvmName) {c : Char} (foreign : isLvmChar c = false) :
    c ∉ name.text.toList := by
  intro member
  have legal := List.all_eq_true.mp name.chars c member
  rw [foreign] at legal
  cases legal

def doubleHyphens : List Char → List Char
  | [] => []
  | '-' :: rest => '-' :: '-' :: doubleHyphens rest
  | c :: rest => c :: doubleHyphens rest

/-- The device-mapper name of a volume: hyphens are doubled in both parts, and
a single one joins them. -/
def lvmDmName (vg lv : LvmName) : String :=
  String.ofList (doubleHyphens vg.text.toList ++ '-' :: doubleHyphens lv.text.toList)

def volumeId (vg lv : LvmName) : String := vg.text ++ ":" ++ lv.text

end Lvm

section Lookup

def storageToDmName (storage : String) : String :=
  match splitOnce ':' storage with
  | some (vg, lv) => replaceChar '-' "--" vg ++ "-" ++ replaceChar '-' "--" lv
  | none => storage

def storageToDmNameLegacy (storage : String) : String :=
  match splitOnce ':' storage with
  | some (vg, lv) => vg ++ "-" ++ replaceChar '-' "--" lv
  | none => storage

/-- The five lookups, of which the first that succeeds decides. -/
def matchedMpaths (mpathMap : HashMap String (Finset String)) (storage : String) :
    Option (Finset String) :=
  let dmName := storageToDmName storage
  let dmNameLegacy := storageToDmNameLegacy storage
  mpathMap.lookup dmName <|> mpathMap.lookup dmNameLegacy <|> mpathMap.lookup storage <|>
    (stripPrefix "/dev/mapper/" dmName).bind mpathMap.lookup <|>
    (stripPrefix "/dev/mapper/" dmNameLegacy).bind mpathMap.lookup

def deviceMapperName (mpaths : Finset String) : String := " / ".intercalate (sorted mpaths)

def devicePathName (mpaths : Finset String) : String :=
  " / ".intercalate ((sorted mpaths).map ("/dev/mapper/" ++ ·))

theorem replace_hyphen_eq (text : String) :
    (replaceChar '-' "--" text).toList = doubleHyphens text.toList := by
  rw [replaceChar, String.toList_ofList]
  induction text.toList with
  | nil => rfl
  | cons c chars ih =>
      rw [List.flatMap_cons, ih]
      by_cases hyphen : c = '-'
      · subst hyphen
        rfl
      · rw [if_neg hyphen, List.singleton_append]
        rw [doubleHyphens]
        exact fun same => hyphen same

/-- For the names LVM accepts, the primary lookup is under the name LVM gives
the volume. -/
theorem storage_to_dm_name_volume (vg lv : LvmName) :
    storageToDmName (volumeId vg lv) = lvmDmName vg lv := by
  have split : splitOnce ':' (volumeId vg lv) = some (vg.text, lv.text) :=
    split_once_append lv.text (vg.not_mem (by decide))
  rw [storageToDmName, split]
  apply String.toList_inj.mp
  simp only [String.toList_append, replace_hyphen_eq, lvmDmName, String.toList_ofList]
  rw [List.append_assoc]
  rfl

theorem matched_of_dm_name {mpathMap : HashMap String (Finset String)} {storage : String}
    {mpaths : Finset String} (found : mpathMap.lookup (storageToDmName storage) = some mpaths) :
    matchedMpaths mpathMap storage = some mpaths := by
  simp [matchedMpaths, found]

private theorem of_or_else {Value : Type*} {first second : Option Value} {value : Value}
    (found : (first <|> second) = some value) : first = some value ∨ second = some value := by
  cases first with
  | none => exact Or.inr found
  | some _ => exact Or.inl found

theorem lookup_of_matched {mpathMap : HashMap String (Finset String)} {storage : String}
    {mpaths : Finset String} (matched : matchedMpaths mpathMap storage = some mpaths) :
    ∃ name, mpathMap.lookup name = some mpaths := by
  unfold matchedMpaths at matched
  cases of_or_else matched with
  | inl found => exact ⟨_, found⟩
  | inr matched =>
  cases of_or_else matched with
  | inl found => exact ⟨_, found⟩
  | inr matched =>
  cases of_or_else matched with
  | inl found => exact ⟨_, found⟩
  | inr matched =>
  cases of_or_else matched with
  | inl stripped =>
      obtain ⟨name, -, found⟩ := Option.bind_eq_some_iff.mp stripped
      exact ⟨name, found⟩
  | inr stripped =>
      obtain ⟨name, -, found⟩ := Option.bind_eq_some_iff.mp stripped
      exact ⟨name, found⟩

def attributeMpaths (mpathMap : HashMap String (Finset String)) (disk : VmDisk) : VmDisk :=
  match matchedMpaths mpathMap disk.storage with
  | some mpaths => { disk with
      deviceMapperName := some (deviceMapperName mpaths)
      devicePath := some (devicePathName mpaths) }
  | none => disk

theorem attribute_mpaths_name {mpathMap : HashMap String (Finset String)} {disk : VmDisk}
    (bare : disk.deviceMapperName = none) :
    (attributeMpaths mpathMap disk).deviceMapperName =
      (matchedMpaths mpathMap disk.storage).map deviceMapperName := by
  unfold attributeMpaths
  cases matchedMpaths mpathMap disk.storage with
  | none => exact bare
  | some mpaths => rfl

end Lookup

end PveSanFenced.Disks
