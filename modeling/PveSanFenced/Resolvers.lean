import Mathlib.Order.Lattice.Nat
import PveSanFenced.Lsblk
import PveSanFenced.Sysfs

/-!
# Block devices as lsblk and sysfs show them

One acyclic graph of block devices and its two views: the forest of lsblk,
which lists a device under each of its slaves, and the directories of
`/sys/block`. The two multipath resolvers are compared on them.
-/

namespace PveSanFenced.Resolvers

open PveSanFenced.Library.Collections
open PveSanFenced.Library.Reach
open PveSanFenced.Library.Text
open PveSanFenced.Lsblk
open PveSanFenced.Sysfs

set_option autoImplicit false

/-- Block devices by kernel name. The rank witnesses that the slave links form
no cycle; mapped names are given as they are read. -/
structure BlockGraph where
  devices : List String
  slaves : String → List String
  deviceType : String → String
  mapped : String → Option String
  rank : String → ℕ
  slaves_listed : ∀ device ∈ devices, ∀ slave ∈ slaves device, slave ∈ devices
  slaves_rank : ∀ device ∈ devices, ∀ slave ∈ slaves device, rank slave < rank device
  mapped_iff_dm : ∀ device ∈ devices,
    (mapped device).isSome = true ↔ startsWith device "dm-" = true
  mapped_trimmed : ∀ device ∈ devices, ∀ name ∈ mapped device, trim name = name
  mapped_unique : ∀ device ∈ devices, ∀ other ∈ devices, ∀ name ∈ mapped device,
    name ∈ mapped other → device = other
  mapped_not_kernel : ∀ device ∈ devices, ∀ other ∈ devices, startsWith other "dm-" = true →
    mapped device ≠ some other
  maps_named : ∀ device ∈ devices, deviceType device = "mpath" →
    ∃ name ∈ mapped device, startsWith name "mpath" = true

namespace BlockGraph

variable (graph : BlockGraph)

def listedName (device : String) : String := (graph.mapped device).getD device

def mapLabel (device : String) : Option String :=
  if graph.deviceType device = "mpath" then some (graph.listedName device) else none

def dmSlaves (device : String) : List String :=
  (graph.slaves device).filter (startsWith · "dm-")

variable {graph} in
theorem path_listed {label : String → Option String} {next : String → List String}
    (links : ∀ device, next device ⊆ graph.slaves device) {device other : String}
    (member : device ∈ graph.devices)
    (path : Relation.ReflTransGen (Passes label next) device other) : other ∈ graph.devices := by
  induction path with
  | refl => exact member
  | tail _ step ih => exact graph.slaves_listed _ ih _ (links _ step.2)

theorem dm_slaves_subset (device : String) : graph.dmSlaves device ⊆ graph.slaves device :=
  List.filter_subset_self _

section Views

def holders (device : String) : List String :=
  graph.devices.filter fun other => device ∈ graph.slaves other

/-- A device with everything stacked on it, down to the given depth of the
tree. -/
def unfolding : ℕ → String → LsblkDevice
  | 0, device => .mk (graph.listedName device) (graph.deviceType device) none
  | depth + 1, device => .mk (graph.listedName device) (graph.deviceType device)
      (if graph.holders device = [] then none
        else some ((graph.holders device).map (unfolding depth)))

def height : ℕ := graph.devices.toFinset.sup graph.rank + 1

/-- The lsblk forest: the unfoldings of the devices without slaves. -/
def forest : List LsblkDevice :=
  (graph.devices.filter fun device => graph.slaves device = []).map
    (graph.unfolding graph.height)

def sysBlock : SysBlock :=
  insertAll (graph.devices.map fun device =>
    (device, ⟨(graph.mapped device).map (· ++ "\n"), some (graph.slaves device)⟩)) ∅

end Views

section Sysfs

theorem lookup_sys_block {device : String} (member : device ∈ graph.devices) :
    graph.sysBlock.lookup device =
      some ⟨(graph.mapped device).map (· ++ "\n"), some (graph.slaves device)⟩ := by
  apply lookup_insert_all
  · exact List.mem_map.mpr ⟨device, member, rfl⟩
  · intro other listed
    obtain ⟨device', -, same⟩ := List.mem_map.mp listed
    rw [Prod.mk.injEq] at same
    rw [← same.2, same.1]

theorem mapped_name_eq {device : String} (member : device ∈ graph.devices) :
    mappedName graph.sysBlock device = graph.mapped device := by
  rw [mappedName, graph.lookup_sys_block member]
  cases name : graph.mapped device with
  | none => rfl
  | some name' =>
      have trimmed := graph.mapped_trimmed device member name' name
      simp [trim_append_newline, trimmed]

theorem dm_slaves_eq {device : String} (member : device ∈ graph.devices) :
    Sysfs.dmSlaves graph.sysBlock device = graph.dmSlaves device := by
  rw [Sysfs.dmSlaves, graph.lookup_sys_block member]
  rfl

theorem distinct_names : DistinctNames graph.sysBlock graph.devices where
  unique := by
    intro device member other member' _ _ name named named'
    rw [graph.mapped_name_eq member] at named
    rw [graph.mapped_name_eq member'] at named'
    exact graph.mapped_unique device member other member' name named named'
  notKernelName := by
    intro device member _ other member' dm
    rw [graph.mapped_name_eq member]
    exact graph.mapped_not_kernel device member other member' dm

theorem no_empty_sysfs : NoEmptySet (sysfsMpathMap graph.sysBlock graph.devices) := by
  intro key mpaths found
  obtain ⟨-, -, -, -, nonempty, -⟩ := of_lookup_sysfs_mpath_map graph.sysBlock found
  exact Finset.nonempty_iff_ne_empty.mpr nonempty

theorem holds_sysfs_iff {device name : String} (member : device ∈ graph.devices)
    (named : graph.mapped device = some name) (mpath : String) :
    Holds (sysfsMpathMap graph.sysBlock graph.devices) name mpath ↔
      Finds (multipathName graph.sysBlock) (Sysfs.dmSlaves graph.sysBlock) device mpath := by
  have dm : startsWith device "dm-" = true :=
    (graph.mapped_iff_dm device member).mp (by rw [named]; rfl)
  have read : mappedName graph.sysBlock device = some name :=
    (graph.mapped_name_eq member).trans named
  have entry := lookup_sysfs_mpath_map graph.distinct_names member dm read
  rw [← mem_find_multipaths]
  split_ifs at entry with empty
  · rw [empty]
    constructor
    · intro holds
      obtain ⟨mpaths, found, -⟩ := holds
      rw [entry] at found
      cases found
    · exact fun none => absurd none (Finset.notMem_empty mpath)
  · exact holds_of_lookup entry mpath

end Sysfs

section Forest

theorem rank_lt_height {device : String} (member : device ∈ graph.devices) :
    graph.rank device < graph.height :=
  Nat.lt_succ_of_le (Finset.le_sup (List.mem_toFinset.mpr member))

theorem mem_holders (device other : String) :
    other ∈ graph.holders device ↔ other ∈ graph.devices ∧ device ∈ graph.slaves other := by
  simp [holders]

theorem next_mpath_eq (device : String) (current : Option String) :
    nextMpath (graph.listedName device) (graph.deviceType device) current =
      (graph.mapLabel device).or current := by
  unfold nextMpath mapLabel
  split_ifs with map
  · rfl
  · rfl

theorem mem_unfolding_records (depth : ℕ) (device : String) (current : Option String)
    (key mpath : String) :
    (key, mpath) ∈ deviceRecords current (graph.unfolding (depth + 1) device) ↔
      (key = graph.listedName device ∧ (graph.mapLabel device).or current = some mpath) ∨
        ∃ other ∈ graph.holders device,
          (key, mpath) ∈ deviceRecords ((graph.mapLabel device).or current)
            (graph.unfolding depth other) := by
  rw [unfolding, deviceRecords, List.mem_append, next_mpath_eq]
  apply or_congr
  · rw [List.mem_map]
    simp [and_comm, eq_comm]
  · split_ifs with none
    · simp [childrenRecords, none]
    · rw [childrenRecords, mem_forest_records]
      simp

theorem mem_leaf_records (device : String) (current : Option String) (key mpath : String) :
    (key, mpath) ∈ deviceRecords current (graph.unfolding 0 device) ↔
      key = graph.listedName device ∧ (graph.mapLabel device).or current = some mpath := by
  rw [unfolding, deviceRecords, next_mpath_eq]
  simp [childrenRecords, and_comm, eq_comm]

/-- Every record of an unfolding is that of a device on top: with the first
map on a path down to the root, or with what the root inherits. -/
theorem of_mem_unfolding_records (depth : ℕ) : ∀ device current key mpath,
    device ∈ graph.devices → (key, mpath) ∈ deviceRecords current (graph.unfolding depth device) →
      ∃ other ∈ graph.devices, key = graph.listedName other ∧
        (Finds graph.mapLabel graph.slaves other mpath ∨ (current = some mpath ∧
          graph.mapLabel device = none ∧
            Relation.ReflTransGen (Passes graph.mapLabel graph.slaves) other device)) := by
  have own : ∀ device current key mpath, device ∈ graph.devices →
      key = graph.listedName device ∧ (graph.mapLabel device).or current = some mpath →
      ∃ other ∈ graph.devices, key = graph.listedName other ∧
        (Finds graph.mapLabel graph.slaves other mpath ∨ (current = some mpath ∧
          graph.mapLabel device = none ∧
            Relation.ReflTransGen (Passes graph.mapLabel graph.slaves) other device)) := by
    intro device current key mpath member recorded
    refine ⟨device, member, recorded.1, ?_⟩
    cases label : graph.mapLabel device with
    | none =>
        rw [label, Option.none_or] at recorded
        exact Or.inr ⟨recorded.2, rfl, Relation.ReflTransGen.refl⟩
    | some name =>
        rw [label, Option.some_or] at recorded
        exact Or.inl (finds_self (label.trans recorded.2))
  induction depth with
  | zero =>
      intro device current key mpath member recorded
      exact own device current key mpath member
        ((graph.mem_leaf_records device current key mpath).mp recorded)
  | succ depth ih =>
      intro device current key mpath member recorded
      cases (graph.mem_unfolding_records depth device current key mpath).mp recorded with
      | inl here => exact own device current key mpath member here
      | inr above =>
          obtain ⟨holder, held, recorded'⟩ := above
          obtain ⟨holderMember, slave⟩ := (graph.mem_holders device holder).mp held
          obtain ⟨other, otherMember, named, found⟩ := ih holder _ key mpath holderMember recorded'
          refine ⟨other, otherMember, named, ?_⟩
          cases found with
          | inl finds => exact Or.inl finds
          | inr inherits =>
              obtain ⟨handed, bare, path⟩ := inherits
              have path' := Relation.ReflTransGen.tail path ⟨bare, slave⟩
              cases label : graph.mapLabel device with
              | none =>
                  rw [label, Option.none_or] at handed
                  exact Or.inr ⟨handed, rfl, path'⟩
              | some name =>
                  rw [label, Option.some_or] at handed
                  exact Or.inl ⟨device, path', label.trans handed⟩

/-- A device handed down to along a path of devices without label is recorded
with what the root of the unfolding has or inherits. -/
theorem mem_records_of_path {other device : String} (otherMember : other ∈ graph.devices)
    (path : Relation.ReflTransGen (Passes graph.mapLabel graph.slaves) other device) :
    ∀ depth current mpath, graph.height ≤ depth + graph.rank device →
      (graph.mapLabel device).or current = some mpath →
        (graph.listedName other, mpath) ∈ deviceRecords current (graph.unfolding depth device) := by
  induction path with
  | refl =>
      intro depth current mpath _ handed
      cases depth with
      | zero => exact (graph.mem_leaf_records other current _ mpath).mpr ⟨rfl, handed⟩
      | succ depth =>
          exact (graph.mem_unfolding_records depth other current _ mpath).mpr (Or.inl ⟨rfl, handed⟩)
  | @tail holder device path' step ih =>
      intro depth current mpath enough handed
      have holderMember := path_listed (fun _ => List.Subset.refl _) otherMember path'
      have lower := graph.slaves_rank holder holderMember device step.2
      have below := graph.rank_lt_height holderMember
      cases depth with
      | zero => omega
      | succ depth =>
          rw [graph.mem_unfolding_records depth device current _ mpath]
          refine Or.inr ⟨holder, (graph.mem_holders device holder).mpr ⟨holderMember, step.2⟩, ?_⟩
          apply ih depth _ mpath
          · omega
          · rw [step.1, Option.none_or, handed]

/-- What every deep enough unfolding of a device records is recorded in the
forest, since the device lies above one without slaves. -/
theorem mem_forest_of_unfolding (entry : String × String) (bound : ℕ) : ∀ device ∈ graph.devices,
    graph.rank device < bound → (∀ depth current, graph.height ≤ depth + graph.rank device →
      entry ∈ deviceRecords current (graph.unfolding depth device)) →
        entry ∈ forestRecords none graph.forest := by
  induction bound with
  | zero => exact fun _ _ below => absurd below (Nat.not_lt_zero _)
  | succ bound ih =>
      intro device member below recorded
      cases slaves : graph.slaves device with
      | nil =>
          rw [mem_forest_records]
          refine ⟨_, List.mem_map_of_mem (List.mem_filter.mpr ⟨member, by simpa using slaves⟩), ?_⟩
          exact recorded graph.height none (Nat.le_add_right _ _)
      | cons slave rest =>
          have slaveMember : slave ∈ graph.slaves device := by simp [slaves]
          have lower := graph.slaves_rank device member slave slaveMember
          apply ih slave (graph.slaves_listed device member slave slaveMember) (by omega)
          intro depth current enough
          have below' := graph.rank_lt_height member
          obtain ⟨key, mpath⟩ := entry
          cases depth with
          | zero => omega
          | succ depth =>
              rw [graph.mem_unfolding_records depth slave current key mpath]
              refine Or.inr ⟨device, (graph.mem_holders slave device).mpr ⟨member, slaveMember⟩, ?_⟩
              exact recorded depth _ (by omega)

theorem holds_lsblk_iff (key mpath : String) :
    Holds (buildMpathMap graph.forest) key mpath ↔ ∃ other ∈ graph.devices,
      graph.listedName other = key ∧ Finds graph.mapLabel graph.slaves other mpath := by
  rw [(build_mpath_map_exact graph.forest).2]
  constructor
  · intro recorded
    obtain ⟨tree, listed, recorded'⟩ := (mem_forest_records none graph.forest _).mp recorded
    obtain ⟨device, kept, rfl⟩ := List.mem_map.mp listed
    obtain ⟨other, member, named, found⟩ := graph.of_mem_unfolding_records graph.height device none
      key mpath (List.mem_filter.mp kept).1 recorded'
    cases found with
    | inl finds => exact ⟨other, member, named.symm, finds⟩
    | inr inherits => cases inherits.1
  · intro source
    obtain ⟨other, member, rfl, map, path, label⟩ := source
    have mapMember := path_listed (fun _ => List.Subset.refl _) member path
    apply graph.mem_forest_of_unfolding _ _ map mapMember (Nat.lt_succ_self _)
    intro depth current enough
    apply graph.mem_records_of_path member path depth current mpath enough
    rw [label, Option.some_or]

end Forest

section Agree

/-- On the paths of device-mapper slaves down to the first maps, no other
device has a name that begins with `mpath`. -/
def NoFalseMultipath (device : String) : Prop :=
  ∀ other, Relation.ReflTransGen (Passes graph.mapLabel graph.dmSlaves) device other →
    graph.mapLabel other = none → ∀ name ∈ graph.mapped other, startsWith name "mpath" = false

/-- Every first map below a device of this name is also the first one on a
path of device-mapper slaves. -/
def ReachedByDm (device name : String) : Prop :=
  ∀ other ∈ graph.devices, graph.listedName other = name → ∀ mpath,
    Finds graph.mapLabel graph.slaves other mpath → Finds graph.mapLabel graph.dmSlaves device mpath

theorem multipath_name_of_map {device : String} (member : device ∈ graph.devices) {name : String}
    (label : graph.mapLabel device = some name) :
    multipathName graph.sysBlock device = some name ∧ graph.mapped device = some name := by
  unfold mapLabel at label
  split_ifs at label with map
  obtain ⟨name', named, start⟩ := graph.maps_named device member map
  have named' : graph.mapped device = some name' := named
  rw [Option.some.injEq, listedName, named', Option.getD_some] at label
  subst label
  rw [multipathName, graph.mapped_name_eq member, named']
  simp [Option.filter, start]

theorem multipath_name_eq {device : String} (member : device ∈ graph.devices)
    (honest : graph.mapLabel device = none → ∀ name ∈ graph.mapped device,
      startsWith name "mpath" = false) :
    graph.mapLabel device = multipathName graph.sysBlock device := by
  cases label : graph.mapLabel device with
  | some name => exact (graph.multipath_name_of_map member label).1.symm
  | none =>
      have other := honest label
      rw [multipathName, graph.mapped_name_eq member]
      cases named : graph.mapped device with
      | none => rfl
      | some name => simp [Option.filter, other name named]

theorem path_of_traversal {device other : String} (member : device ∈ graph.devices)
    (path : Relation.ReflTransGen
      (Passes (multipathName graph.sysBlock) (Sysfs.dmSlaves graph.sysBlock)) device other) :
    Relation.ReflTransGen (Passes graph.mapLabel graph.dmSlaves) device other := by
  induction path with
  | refl => exact Relation.ReflTransGen.refl
  | @tail before after _ step ih =>
      have beforeMember := path_listed graph.dm_slaves_subset member ih
      apply Relation.ReflTransGen.tail ih
      constructor
      · cases label : graph.mapLabel before with
        | none => rfl
        | some name =>
            have read := (graph.multipath_name_of_map beforeMember label).1
            rw [step.1] at read
            cases read
      · rw [← graph.dm_slaves_eq beforeMember]
        exact step.2

theorem traversal_finds_iff {device : String} (member : device ∈ graph.devices)
    (honest : graph.NoFalseMultipath device) (mpath : String) :
    Finds (multipathName graph.sysBlock) (Sysfs.dmSlaves graph.sysBlock) device mpath ↔
      Finds graph.mapLabel graph.dmSlaves device mpath := by
  constructor
  · apply finds_of_agree
    intro other traversed
    have path := graph.path_of_traversal member traversed
    have otherMember := path_listed graph.dm_slaves_subset member path
    rw [graph.multipath_name_eq otherMember (honest other path), graph.dm_slaves_eq otherMember]
    exact ⟨rfl, fun _ _ listed => listed⟩
  · apply finds_of_agree
    intro other path
    have otherMember := path_listed graph.dm_slaves_subset member path
    rw [graph.multipath_name_eq otherMember (honest other path), graph.dm_slaves_eq otherMember]
    exact ⟨rfl, fun _ _ listed => listed⟩

theorem traversal_finds_false {device other : String} (member : device ∈ graph.devices)
    (path : Relation.ReflTransGen (Passes graph.mapLabel graph.dmSlaves) device other)
    (bare : graph.mapLabel other = none) {name : String} (named : graph.mapped other = some name)
    (start : startsWith name "mpath" = true) :
    ∃ stop found, stop ∈ graph.devices ∧ graph.mapLabel stop = none ∧
      graph.mapped stop = some found ∧
        Finds (multipathName graph.sysBlock) (Sysfs.dmSlaves graph.sysBlock) device found := by
  have otherMember := path_listed graph.dm_slaves_subset member path
  have marked : multipathName graph.sysBlock other ≠ none := by
    rw [multipathName, graph.mapped_name_eq otherMember, named]
    simp [Option.filter, start]
  obtain ⟨stop, found, path', bare', read, finds⟩ := finds_first path bare marked
  have stopMember := path_listed graph.dm_slaves_subset member path'
  have mapped : graph.mapped stop = some found := by
    rw [← graph.mapped_name_eq stopMember]
    exact (Option.filter_eq_some_iff.mp read).1
  refine ⟨stop, found, stopMember, bare', mapped, finds_of_agree ?_ finds⟩
  intro between path''
  have betweenMember := path_listed graph.dm_slaves_subset member path''
  rw [graph.dm_slaves_eq betweenMember]
  exact ⟨rfl, fun _ _ listed => listed⟩

theorem map_of_finds {next : String → List String}
    (links : ∀ device, next device ⊆ graph.slaves device) {device mpath : String}
    (member : device ∈ graph.devices) (finds : Finds graph.mapLabel next device mpath) :
    ∃ map ∈ graph.devices, graph.mapLabel map = some mpath ∧ graph.mapped map = some mpath := by
  obtain ⟨map, path, label⟩ := finds
  have mapMember := path_listed links member path
  exact ⟨map, mapMember, label, (graph.multipath_name_of_map mapMember label).2⟩

/-- The two resolvers give a device-mapper device the same multipath devices
exactly when no other device on its device-mapper paths is named like a map
and its maps are all reached on such paths. -/
theorem resolvers_agree_iff {device name : String} (member : device ∈ graph.devices)
    (named : graph.mapped device = some name) :
    (buildMpathMap graph.forest).lookup name =
        (sysfsMpathMap graph.sysBlock graph.devices).lookup name ↔
      graph.NoFalseMultipath device ∧ graph.ReachedByDm device name := by
  rw [lookup_eq_lookup_iff (build_mpath_map_exact graph.forest).1 graph.no_empty_sysfs]
  simp only [graph.holds_lsblk_iff, graph.holds_sysfs_iff member named]
  constructor
  · intro agree
    have honest : graph.NoFalseMultipath device := by
      intro other path bare name' named'
      rw [Bool.eq_false_iff]
      intro start
      obtain ⟨stop, found, stopMember, bare', mapped, finds⟩ :=
        graph.traversal_finds_false member path bare named' start
      obtain ⟨top, topMember, -, finds'⟩ := (agree found).mpr finds
      obtain ⟨map, mapMember, label, mapped'⟩ :=
        graph.map_of_finds (fun _ => List.Subset.refl _) topMember finds'
      rw [graph.mapped_unique stop stopMember map mapMember found mapped mapped', label] at bare'
      cases bare'
    refine ⟨honest, ?_⟩
    intro other otherMember listed mpath finds
    rw [← graph.traversal_finds_iff member honest]
    exact (agree mpath).mp ⟨other, otherMember, listed, finds⟩
  · intro conditions
    obtain ⟨honest, reached⟩ := conditions
    intro mpath
    rw [graph.traversal_finds_iff member honest]
    constructor
    · intro source
      obtain ⟨other, otherMember, listed, finds⟩ := source
      exact reached other otherMember listed mpath finds
    · intro finds
      refine ⟨device, member, by rw [listedName, named]; rfl, finds_of_agree ?_ finds⟩
      exact fun other _ => ⟨rfl, fun _ child listed => graph.dm_slaves_subset other listed⟩

end Agree

section Stacked

/-- A multipath map with a volume on it, one on a partition of it and one on a
software RAID on it. -/
def stackedGraph : BlockGraph where
  devices := ["sda", "dm-0", "dm-1", "dm-2", "md0", "dm-3", "dm-4"]
  slaves := fun device => match device with
    | "dm-0" => ["sda"]
    | "dm-1" => ["dm-0"]
    | "dm-2" => ["dm-1"]
    | "md0" => ["dm-0"]
    | "dm-3" => ["md0"]
    | "dm-4" => ["dm-0"]
    | _ => []
  deviceType := fun device => match device with
    | "sda" => "disk"
    | "dm-0" => "mpath"
    | "dm-1" => "part"
    | "md0" => "raid1"
    | _ => "lvm"
  mapped := fun device => match device with
    | "dm-0" => some "mpatha"
    | "dm-1" => some "mpatha-part1"
    | "dm-2" => some "san-root"
    | "dm-3" => some "san-data"
    | "dm-4" => some "san-home"
    | _ => none
  rank := fun device => match device with
    | "sda" => 0
    | "dm-0" => 1
    | "dm-1" => 2
    | "md0" => 2
    | "dm-4" => 2
    | _ => 3
  slaves_listed := by decide
  slaves_rank := by decide
  mapped_iff_dm := by decide
  mapped_trimmed := by decide
  mapped_unique := by decide
  mapped_not_kernel := by decide
  maps_named := by decide

theorem resolvers_agree_iff_plain :
    stackedGraph.NoFalseMultipath "dm-4" ∧ stackedGraph.ReachedByDm "dm-4" "san-home" :=
  (stackedGraph.resolvers_agree_iff (by decide) (by decide)).mp (by decide)

/-- On the partition, sysfs names the partition instead of the map; on the
RAID it finds nothing. -/
theorem partition_and_raid_disagree :
    ((buildMpathMap stackedGraph.forest).lookup "san-root" = some {"mpatha"} ∧
      (sysfsMpathMap stackedGraph.sysBlock stackedGraph.devices).lookup "san-root" =
        some {"mpatha-part1"}) ∧
    (buildMpathMap stackedGraph.forest).lookup "san-data" = some {"mpatha"} ∧
      (sysfsMpathMap stackedGraph.sysBlock stackedGraph.devices).lookup "san-data" = none :=
  ⟨⟨by decide, by decide⟩, by decide, by decide⟩

end Stacked

end BlockGraph

end PveSanFenced.Resolvers
