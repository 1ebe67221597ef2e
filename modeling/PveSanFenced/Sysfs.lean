import Mathlib.Data.Finset.Union
import PveSanFenced.Library.Collections
import PveSanFenced.Library.Reach
import PveSanFenced.Library.Text

/-!
# The device-mapper tree below `/sys/block`

`find_multipaths_for_dm` and the loop that runs it for every device-mapper
device the lsblk crate lists. Failing reads are part of the tree: a file or a
directory that cannot be read is absent from it.
-/

namespace PveSanFenced.Sysfs

open PveSanFenced.Library.Collections
open PveSanFenced.Library.Reach
open PveSanFenced.Library.Text

set_option autoImplicit false

/-- One directory of `/sys/block`: the contents of `dm/name` and the entries
of `slaves`. -/
structure BlockDirectory where
  nameFile : Option String
  slaves : Option (List String)

abbrev SysBlock := HashMap String BlockDirectory

variable (sys : SysBlock)

def mappedName (dmName : String) : Option String :=
  ((sys.lookup dmName).bind BlockDirectory.nameFile).map trim

def dmSlaves (dmName : String) : List String :=
  (((sys.lookup dmName).bind BlockDirectory.slaves).getD []).filter (startsWith · "dm-")

/-- The name of a device that the documented rule takes for a multipath. -/
def multipathName (dmName : String) : Option String :=
  (mappedName sys dmName).filter (startsWith · "mpath")

/-- `find_multipaths_for_dm`, with a bound on the depth of its recursion. -/
def findMultipathsForDm : ℕ → String → Finset String → Option (Finset String × Finset String)
  | 0, _, _ => none
  | depth + 1, dmName, visited =>
      if dmName ∈ visited then some (∅, visited)
      else match multipathName sys dmName with
        | some mapped => some ({mapped}, insert dmName visited)
        | none => searchEach (findMultipathsForDm depth) (dmSlaves sys dmName)
            (∅, insert dmName visited)

theorem find_multipaths_eq_search (depth : ℕ) :
    findMultipathsForDm sys depth = search (multipathName sys) (dmSlaves sys) depth := by
  induction depth with
  | zero => rfl
  | succ depth ih =>
      funext dmName visited
      rw [findMultipathsForDm, search, ih]
      cases multipathName sys dmName with
      | none => rfl
      | some mapped => rfl

def devicesBelow (dmName : String) : Finset String :=
  insert dmName (sys.keys.biUnion fun device => (dmSlaves sys device).toFinset)

theorem dm_slaves_below (dmName : String) {device slave : String}
    (member : slave ∈ dmSlaves sys device) : slave ∈ devicesBelow sys dmName := by
  apply Finset.mem_insert_of_mem
  rw [Finset.mem_biUnion]
  refine ⟨device, ?_, List.mem_toFinset.mpr member⟩
  by_contra absent
  rw [Finmap.mem_keys, Finmap.mem_iff, not_exists] at absent
  have missing : sys.lookup device = none := Option.eq_none_iff_forall_ne_some.mpr absent
  simp [dmSlaves, missing] at member

theorem find_multipaths_ends (dmName : String) : ∃ after,
    findMultipathsForDm sys ((devicesBelow sys dmName).card + 1) dmName ∅ = some after := by
  rw [find_multipaths_eq_search]
  have closed : ∀ device ∈ devicesBelow sys dmName, ∀ slave,
      Passes (multipathName sys) (dmSlaves sys) device slave → slave ∈ devicesBelow sys dmName :=
    fun device _ slave passes => dm_slaves_below sys dmName passes.2
  apply search_ends closed
  · exact Finset.mem_insert_self dmName _
  · rw [Finset.sdiff_empty]
    exact Nat.lt_succ_self _

/-- The call as the loop below makes it, on an empty visited set. -/
def findMultipaths (dmName : String) : Finset String :=
  ((findMultipathsForDm sys ((devicesBelow sys dmName).card + 1) dmName ∅).map Prod.fst).getD ∅

/-- The multipaths found are the first ones on the paths of device-mapper
slaves, whatever the traversal had visited before it came to them. -/
theorem mem_find_multipaths (dmName mpath : String) :
    mpath ∈ findMultipaths sys dmName ↔
      Finds (multipathName sys) (dmSlaves sys) dmName mpath := by
  obtain ⟨after, ended⟩ := find_multipaths_ends sys dmName
  have found : findMultipaths sys dmName = after.1 := by
    rw [findMultipaths, ended]
    rfl
  rw [find_multipaths_eq_search] at ended
  rw [found]
  exact search_exact ended mpath

section Map

/-- One turn of the loop over the listed devices. -/
def recordDevice (mpathMap : HashMap String (Finset String)) (devName : String) :
    HashMap String (Finset String) :=
  match mappedName sys devName with
  | none => mpathMap
  | some mapped =>
      let mpaths := findMultipaths sys devName
      if mpaths = ∅ then mpathMap
      else (mpathMap.insert mapped mpaths).insert devName mpaths

/-- The multipaths of every device, under its mapped and its kernel name. -/
def sysfsMpathMap (listed : List String) : HashMap String (Finset String) :=
  (listed.filter (startsWith · "dm-")).foldl (recordDevice sys) ∅

def recordsOf (devName : String) : List (String × Finset String) :=
  match mappedName sys devName with
  | none => []
  | some mapped =>
      if findMultipaths sys devName = ∅ then []
      else [(mapped, findMultipaths sys devName), (devName, findMultipaths sys devName)]

theorem record_device_eq_insert_all (mpathMap : HashMap String (Finset String))
    (devName : String) : recordDevice sys mpathMap devName =
      insertAll (recordsOf sys devName) mpathMap := by
  unfold recordDevice recordsOf
  cases mappedName sys devName with
  | none => rfl
  | some mapped =>
      dsimp only
      split_ifs with empty
      · rfl
      · rfl

theorem sysfs_mpath_map_eq_insert_all (listed : List String) :
    sysfsMpathMap sys listed =
      insertAll ((listed.filter (startsWith · "dm-")).flatMap (recordsOf sys)) ∅ := by
  rw [← insert_all_flat_map, sysfsMpathMap]
  congr 1
  funext mpathMap devName
  exact record_device_eq_insert_all sys mpathMap devName

theorem mem_records_of (devName key : String) (mpaths : Finset String) :
    (key, mpaths) ∈ recordsOf sys devName ↔
      mpaths = findMultipaths sys devName ∧ mpaths ≠ ∅ ∧
        ∃ mapped, mappedName sys devName = some mapped ∧ (key = mapped ∨ key = devName) := by
  unfold recordsOf
  cases mappedName sys devName with
  | none => simp
  | some mapped =>
      dsimp only
      split_ifs with empty
      · constructor
        · intro member
          cases member
        · intro recorded
          exact absurd (recorded.1.trans empty) recorded.2.1
      · constructor
        · intro member
          simp only [List.mem_cons, Prod.mk.injEq, List.not_mem_nil, or_false] at member
          cases member with
          | inl first => exact ⟨first.2, first.2 ▸ empty, mapped, rfl, Or.inl first.1⟩
          | inr second => exact ⟨second.2, second.2 ▸ empty, mapped, rfl, Or.inr second.1⟩
        · intro recorded
          obtain ⟨same, -, mapped', read, keyed⟩ := recorded
          cases read
          cases keyed with
          | inl first => simp [same, first]
          | inr second => simp [same, second]

theorem of_lookup_sysfs_mpath_map {listed : List String} {key : String} {mpaths : Finset String}
    (found : (sysfsMpathMap sys listed).lookup key = some mpaths) :
    ∃ devName ∈ listed, startsWith devName "dm-" = true ∧
      mpaths = findMultipaths sys devName ∧ mpaths ≠ ∅ ∧
        ∃ mapped, mappedName sys devName = some mapped ∧ (key = mapped ∨ key = devName) := by
  rw [sysfs_mpath_map_eq_insert_all] at found
  cases of_lookup_insert_all found with
  | inr before => simp at before
  | inl member =>
      obtain ⟨devName, kept, recorded⟩ := List.mem_flatMap.mp member
      obtain ⟨isListed, dm⟩ := List.mem_filter.mp kept
      exact ⟨devName, isListed, dm, (mem_records_of sys devName key mpaths).mp recorded⟩

/-- Mapped names belong to one device-mapper device each, and none of them is
the kernel name of one. -/
structure DistinctNames (listed : List String) : Prop where
  unique : ∀ device ∈ listed, ∀ device' ∈ listed, startsWith device "dm-" = true →
    startsWith device' "dm-" = true → ∀ mapped ∈ mappedName sys device,
      mapped ∈ mappedName sys device' → device = device'
  notKernelName : ∀ device ∈ listed, startsWith device "dm-" = true →
    ∀ device' ∈ listed, startsWith device' "dm-" = true → mappedName sys device ≠ some device'

variable {sys}

theorem lookup_sysfs_mpath_map {listed : List String} (distinct : DistinctNames sys listed)
    {devName mapped : String} (isListed : devName ∈ listed) (dm : startsWith devName "dm-" = true)
    (read : mappedName sys devName = some mapped) :
    (sysfsMpathMap sys listed).lookup mapped =
      if findMultipaths sys devName = ∅ then none else some (findMultipaths sys devName) := by
  have only : ∀ mpaths,
      (mapped, mpaths) ∈ (listed.filter (startsWith · "dm-")).flatMap (recordsOf sys) →
        mpaths = findMultipaths sys devName ∧ mpaths ≠ ∅ := by
    intro mpaths member
    obtain ⟨device, kept, recorded⟩ := List.mem_flatMap.mp member
    obtain ⟨deviceListed, deviceDm⟩ := List.mem_filter.mp kept
    obtain ⟨same, nonempty, mapped', read', keyed⟩ :=
      (mem_records_of sys device mapped mpaths).mp recorded
    cases keyed with
    | inr kernelName =>
        exact absurd (kernelName ▸ read) (distinct.notKernelName devName isListed dm device
          deviceListed deviceDm)
    | inl mappedKey =>
        have here := distinct.unique device deviceListed devName isListed deviceDm dm mapped
          (mappedKey ▸ read') read
        exact ⟨here ▸ same, nonempty⟩
  rw [sysfs_mpath_map_eq_insert_all]
  split_ifs with empty
  · rw [← Option.not_isSome_iff_eq_none]
    intro present
    obtain ⟨mpaths, found⟩ := Option.isSome_iff_exists.mp present
    cases of_lookup_insert_all found with
    | inr before => simp at before
    | inl member => exact (only mpaths member).2 ((only mpaths member).1.trans empty)
  · apply lookup_insert_all
    · rw [List.mem_flatMap]
      refine ⟨devName, List.mem_filter.mpr ⟨isListed, dm⟩, ?_⟩
      rw [mem_records_of]
      exact ⟨rfl, empty, mapped, read, Or.inl rfl⟩
    · exact fun other member => (only other member).1

end Map

section Reached

def SlaveLink (device slave : String) : Prop :=
  ∃ directory entries, sys.lookup device = some directory ∧ directory.slaves = some entries ∧
    slave ∈ entries ∧ startsWith slave "dm-" = true

def MpathNamed (device name : String) : Prop :=
  ∃ directory text, sys.lookup device = some directory ∧ directory.nameFile = some text ∧
    trim text = name ∧ startsWith name "mpath" = true

/-- The devices that links lead to without passing a multipath. -/
inductive Reached (start : String) : String → Prop
  | start : Reached start start
  | link {device slave : String} (reached : Reached start device)
      (passed : ∀ name, ¬MpathNamed sys device name) (linked : SlaveLink sys device slave) :
      Reached start slave

/-- The same devices and links, with directories listed in another order. -/
def Relisted (sys' : SysBlock) : Prop :=
  ∀ device, Option.Rel (fun directory directory' =>
    directory.nameFile = directory'.nameFile ∧
      Option.Rel List.Perm directory.slaves directory'.slaves)
    (sys.lookup device) (sys'.lookup device)

theorem multipath_name_eq_some_iff (device name : String) :
    multipathName sys device = some name ↔ MpathNamed sys device name := by
  simp only [multipathName, mappedName, MpathNamed, Option.filter_eq_some_iff,
    Option.map_eq_some_iff, Option.bind_eq_some_iff]
  constructor
  · rintro ⟨⟨text, ⟨directory, listed, read⟩, trimmed⟩, mpath⟩
    exact ⟨directory, text, listed, read, trimmed, mpath⟩
  · rintro ⟨directory, text, listed, read, trimmed, mpath⟩
    exact ⟨⟨text, ⟨directory, listed, read⟩, trimmed⟩, mpath⟩

theorem mem_dm_slaves (device slave : String) :
    slave ∈ dmSlaves sys device ↔ SlaveLink sys device slave := by
  unfold dmSlaves SlaveLink
  cases sys.lookup device with
  | none => simp
  | some directory =>
      cases listed : directory.slaves with
      | none => simp [listed]
      | some entries => simp [listed]

theorem passes_iff (device slave : String) :
    Passes (multipathName sys) (dmSlaves sys) device slave ↔
      (∀ name, ¬MpathNamed sys device name) ∧ SlaveLink sys device slave := by
  rw [Passes, mem_dm_slaves, Option.eq_none_iff_forall_ne_some]
  simp only [ne_eq, multipath_name_eq_some_iff]

theorem reached_iff (start device : String) :
    Reached sys start device ↔
      Relation.ReflTransGen (Passes (multipathName sys) (dmSlaves sys)) start device := by
  constructor
  · intro reached
    induction reached with
    | start => exact Relation.ReflTransGen.refl
    | link reached passed linked ih =>
        exact Relation.ReflTransGen.tail ih ((passes_iff sys _ _).mpr ⟨passed, linked⟩)
  · intro path
    induction path with
    | refl => exact Reached.start
    | tail path step ih =>
        have passes := (passes_iff sys _ _).mp step
        exact Reached.link ih passes.1 passes.2

theorem mem_find_multipaths_iff_reached (start name : String) :
    name ∈ findMultipaths sys start ↔
      ∃ device, Reached sys start device ∧ MpathNamed sys device name := by
  rw [mem_find_multipaths, Finds]
  simp only [reached_iff, multipath_name_eq_some_iff]

theorem find_multipaths_any_depth (start : String) : ∃ visited, ∀ depth,
    (devicesBelow sys start).card < depth →
      findMultipathsForDm sys depth start ∅ = some (findMultipaths sys start, visited) := by
  obtain ⟨after, ended⟩ := find_multipaths_ends sys start
  refine ⟨after.2, ?_⟩
  intro depth enough
  obtain ⟨more, rfl⟩ := Nat.exists_eq_add_of_le (Nat.succ_le_of_lt enough)
  have found : findMultipaths sys start = after.1 := by
    rw [findMultipaths, ended]
    rfl
  rw [found, find_multipaths_eq_search]
  rw [find_multipaths_eq_search] at ended
  exact search_deeper _ more start ∅ after ended

variable {sys} {sys' : SysBlock}

theorem relisted_named (relisted : Relisted sys sys') (device name : String) :
    MpathNamed sys device name ↔ MpathNamed sys' device name := by
  have here := relisted device
  unfold MpathNamed
  generalize sys.lookup device = directory at here
  generalize sys'.lookup device = directory' at here
  cases here with
  | none => rfl
  | some same => simp [same.1]

theorem relisted_link (relisted : Relisted sys sys') (device slave : String) :
    SlaveLink sys device slave ↔ SlaveLink sys' device slave := by
  have here := relisted device
  unfold SlaveLink
  generalize sys.lookup device = directory at here
  generalize sys'.lookup device = directory' at here
  cases here with
  | none => rfl
  | @some directory directory' same =>
      have entries := same.2
      simp only [Option.some.injEq, exists_and_left, exists_eq_left']
      generalize directory.slaves = slaves at entries
      generalize directory'.slaves = slaves' at entries
      cases entries with
      | none => simp
      | some permuted => simp [permuted.mem_iff]

theorem relisted_find_multipaths (relisted : Relisted sys sys') (start : String) :
    findMultipaths sys' start = findMultipaths sys start := by
  have reached : ∀ device, Reached sys start device ↔ Reached sys' start device := by
    have passes : Passes (multipathName sys) (dmSlaves sys) =
        Passes (multipathName sys') (dmSlaves sys') := by
      funext device slave
      simp only [passes_iff, relisted_named relisted, relisted_link relisted]
    intro device
    rw [reached_iff, reached_iff, passes]
  ext name
  simp only [mem_find_multipaths_iff_reached, reached, relisted_named relisted]

variable (sys)

/-- From any device of any tree the traversal ends, and it returns exactly the
multipaths that the links reach, however the directories are listed. -/
theorem find_multipaths_exact_reach (start : String) :
    ∃ mpaths,
      (∃ visited, ∀ depth, (devicesBelow sys start).card < depth →
        findMultipathsForDm sys depth start ∅ = some (mpaths, visited)) ∧
      (∀ name, name ∈ mpaths ↔
        ∃ device, Reached sys start device ∧ MpathNamed sys device name) ∧
      ∀ sys', Relisted sys sys' →
        ∃ visited', ∀ depth, (devicesBelow sys' start).card < depth →
          findMultipathsForDm sys' depth start ∅ = some (mpaths, visited') := by
  refine ⟨findMultipaths sys start, find_multipaths_any_depth sys start,
    mem_find_multipaths_iff_reached sys start, ?_⟩
  intro sys' relisted
  rw [← relisted_find_multipaths relisted start]
  exact find_multipaths_any_depth sys' start

end Reached

end PveSanFenced.Sysfs
