import PveSanFenced.Library.Collections

/-!
# The multipath map of the lsblk forest

`build_mpath_map` walks the forest with a stack of pending sibling lists. A
device is recorded under its name with the nearest `mpath` device at or above
it.
-/

namespace PveSanFenced.Lsblk

open PveSanFenced.Library.Collections

set_option autoImplicit false

inductive LsblkDevice where
  | mk (name deviceType : String) (children : Option (List LsblkDevice))

/-- The multipath a device hands to its children, from the one it inherits. -/
def nextMpath (name deviceType : String) (currentMpath : Option String) : Option String :=
  if deviceType = "mpath" then some name else currentMpath

section Loop

abbrev Pending := List (List LsblkDevice × Option String)

/-- The body of the inner loop: records the device and pushes its children. -/
def visitDevice (currentMpath : Option String)
    (state : HashMap String (Finset String) × Pending) :
    LsblkDevice → HashMap String (Finset String) × Pending
  | .mk name deviceType children =>
      let next := nextMpath name deviceType currentMpath
      (match next with
        | some mpath => addTo state.1 name mpath
        | none => state.1,
      match children with
        | some children => (children, next) :: state.2
        | none => state.2)

/-- The outer loop, with a bound on the number of its turns. -/
def buildLoop : ℕ → Pending → HashMap String (Finset String) →
    Option (HashMap String (Finset String))
  | _, [], map => some map
  | 0, _ :: _, _ => none
  | turns + 1, (devices, currentMpath) :: stack, map =>
      let (map, stack) := devices.foldl (visitDevice currentMpath) (map, stack)
      buildLoop turns stack map

mutual

/-- The sibling lists below a device. -/
def deviceSlices : LsblkDevice → ℕ
  | .mk _ _ children => childrenSlices children

def childrenSlices : Option (List LsblkDevice) → ℕ
  | none => 0
  | some devices => forestSlices devices + 1

def forestSlices : List LsblkDevice → ℕ
  | [] => 0
  | device :: rest => deviceSlices device + forestSlices rest

end

def buildMpathMap (devices : List LsblkDevice) : HashMap String (Finset String) :=
  (buildLoop (forestSlices devices + 1) [(devices, none)] ∅).getD ∅

end Loop

section Records

mutual

/-- By recursion over the tree, every name with its nearest multipath. -/
def deviceRecords (currentMpath : Option String) : LsblkDevice → List (String × String)
  | .mk name deviceType children =>
      (nextMpath name deviceType currentMpath).toList.map (name, ·) ++
        childrenRecords (nextMpath name deviceType currentMpath) children

def childrenRecords (currentMpath : Option String) :
    Option (List LsblkDevice) → List (String × String)
  | none => []
  | some devices => forestRecords currentMpath devices

def forestRecords (currentMpath : Option String) : List LsblkDevice → List (String × String)
  | [] => []
  | device :: rest => deviceRecords currentMpath device ++ forestRecords currentMpath rest

end

theorem mem_forest_records (currentMpath : Option String) (devices : List LsblkDevice)
    (entry : String × String) : entry ∈ forestRecords currentMpath devices ↔
      ∃ device ∈ devices, entry ∈ deviceRecords currentMpath device := by
  induction devices with
  | nil => simp [forestRecords]
  | cons device rest ih => simp [forestRecords, ih]

def pendingRecords (stack : Pending) : List (String × String) :=
  stack.flatMap fun pending => forestRecords pending.2 pending.1

def pendingTurns (stack : Pending) : ℕ :=
  (stack.map fun pending => forestSlices pending.1 + 1).sum

def Accounted (state : HashMap String (Finset String) × Pending) (entry : String × String) :
    Prop :=
  Holds state.1 entry.1 entry.2 ∨ entry ∈ pendingRecords state.2

theorem visit_device_accounted (currentMpath : Option String)
    (state : HashMap String (Finset String) × Pending) (device : LsblkDevice)
    (entry : String × String) :
    Accounted (visitDevice currentMpath state device) entry ↔
      Accounted state entry ∨ entry ∈ deviceRecords currentMpath device := by
  obtain ⟨name, deviceType, children⟩ := device
  obtain ⟨map, stack⟩ := state
  obtain ⟨key, mpath⟩ := entry
  have recorded : Holds (match nextMpath name deviceType currentMpath with
      | some mpath => addTo map name mpath
      | none => map) key mpath ↔ Holds map key mpath ∨
        (key, mpath) ∈ (nextMpath name deviceType currentMpath).toList.map (name, ·) := by
    cases nextMpath name deviceType currentMpath with
    | none => simp
    | some next =>
        rw [holds_add_to]
        simp [eq_comm, or_comm]
  have pushed : (key, mpath) ∈ pendingRecords (match children with
      | some children => (children, nextMpath name deviceType currentMpath) :: stack
      | none => stack) ↔ (key, mpath) ∈ pendingRecords stack ∨
        (key, mpath) ∈ childrenRecords (nextMpath name deviceType currentMpath) children := by
    cases children with
    | none => simp [childrenRecords]
    | some children => simp [pendingRecords, childrenRecords, or_comm]
  unfold visitDevice Accounted deviceRecords
  rw [List.mem_append]
  exact (or_congr recorded pushed).trans or_or_or_comm

theorem visit_devices_accounted (currentMpath : Option String) (devices : List LsblkDevice)
    (entry : String × String) : ∀ state,
    Accounted (devices.foldl (visitDevice currentMpath) state) entry ↔
      Accounted state entry ∨ entry ∈ forestRecords currentMpath devices := by
  induction devices with
  | nil => simp [forestRecords]
  | cons device rest ih =>
      intro state
      rw [List.foldl_cons, ih, visit_device_accounted, forestRecords, List.mem_append, or_assoc]

theorem visit_devices_no_empty (currentMpath : Option String) (devices : List LsblkDevice) :
    ∀ state, NoEmptySet state.1 →
      NoEmptySet (devices.foldl (visitDevice currentMpath) state).1 := by
  induction devices with
  | nil => exact fun _ noEmpty => noEmpty
  | cons device rest ih =>
      intro state noEmpty
      apply ih
      obtain ⟨name, deviceType, children⟩ := device
      unfold visitDevice
      dsimp only
      cases nextMpath name deviceType currentMpath with
      | none => exact noEmpty
      | some next => exact no_empty_add_to noEmpty name next

theorem visit_devices_turns (currentMpath : Option String) (devices : List LsblkDevice) :
    ∀ state, pendingTurns (devices.foldl (visitDevice currentMpath) state).2 =
      forestSlices devices + pendingTurns state.2 := by
  induction devices with
  | nil => simp [forestSlices]
  | cons device rest ih =>
      intro state
      rw [List.foldl_cons, ih, forestSlices]
      obtain ⟨name, deviceType, children⟩ := device
      cases children with
      | none => simp [visitDevice, deviceSlices, childrenSlices]
      | some children =>
          simp only [visitDevice, deviceSlices, childrenSlices, pendingTurns, List.map_cons,
            List.sum_cons]
          omega

/-- Whatever is pending, the loop ends after as many turns as there are
sibling lists, and has then recorded all of it. -/
theorem build_loop_exact (turns : ℕ) : ∀ stack map, pendingTurns stack ≤ turns →
    NoEmptySet map → ∃ built, buildLoop turns stack map = some built ∧ NoEmptySet built ∧
      ∀ key mpath, Holds built key mpath ↔ Accounted (map, stack) (key, mpath) := by
  induction turns with
  | zero =>
      intro stack map enough noEmpty
      cases stack with
      | nil => exact ⟨map, rfl, noEmpty, by simp [Accounted, pendingRecords]⟩
      | cons pending stack => simp [pendingTurns] at enough
  | succ turns ih =>
      intro stack map enough noEmpty
      cases stack with
      | nil => exact ⟨map, rfl, noEmpty, by simp [Accounted, pendingRecords]⟩
      | cons pending stack =>
          obtain ⟨devices, currentMpath⟩ := pending
          have visited := visit_devices_turns currentMpath devices (map, stack)
          have left : pendingTurns (devices.foldl (visitDevice currentMpath) (map, stack)).2 ≤
              turns := by
            simp only [pendingTurns, List.map_cons, List.sum_cons] at enough visited ⊢
            omega
          obtain ⟨built, done, noEmpty', exact'⟩ :=
            ih _ _ left (visit_devices_no_empty currentMpath devices (map, stack) noEmpty)
          refine ⟨built, done, noEmpty', ?_⟩
          intro key mpath
          rw [exact', visit_devices_accounted]
          simp only [Accounted, pendingRecords, List.flatMap_cons, List.mem_append]
          rw [or_assoc, or_comm (a := (key, mpath) ∈ _)]

/-- The traversal with its stack gives every name the multipaths that the
recursion over the forest gives it, over all occurrences of the name. -/
theorem build_mpath_map_exact (devices : List LsblkDevice) :
    NoEmptySet (buildMpathMap devices) ∧ ∀ key mpath,
      Holds (buildMpathMap devices) key mpath ↔ (key, mpath) ∈ forestRecords none devices := by
  have enough : pendingTurns [(devices, none)] ≤ forestSlices devices + 1 := by
    simp [pendingTurns]
  have empty : NoEmptySet (∅ : HashMap String (Finset String)) := by
    intro key values found
    simp at found
  obtain ⟨built, done, noEmpty, exact'⟩ := build_loop_exact _ _ _ enough empty
  rw [buildMpathMap, done, Option.getD_some]
  refine ⟨noEmpty, ?_⟩
  intro key mpath
  rw [exact']
  simp [Accounted, Holds, pendingRecords]

end Records

section Occurrences

def LsblkDevice.name : LsblkDevice → String
  | .mk name _ _ => name

def LsblkDevice.deviceType : LsblkDevice → String
  | .mk _ deviceType _ => deviceType

def LsblkDevice.children : LsblkDevice → Option (List LsblkDevice)
  | .mk _ _ children => children

/-- A place in the forest where the device stands, with the devices above it
from the root down. -/
inductive Occurs : List LsblkDevice → LsblkDevice → List LsblkDevice → Prop
  | root {forest : List LsblkDevice} {device : LsblkDevice} (member : device ∈ forest) :
      Occurs forest device []
  | under {forest children above : List LsblkDevice} {parent device : LsblkDevice}
      (member : parent ∈ forest) (listed : parent.children = some children)
      (occurs : Occurs children device above) : Occurs forest device (parent :: above)

def firstMpath (line : List LsblkDevice) : Option String :=
  (line.find? fun device => device.deviceType = "mpath").map LsblkDevice.name

/-- The nearest multipath at or above an occurrence. -/
def nearestMpath (device : LsblkDevice) (above : List LsblkDevice) : Option String :=
  firstMpath (device :: above.reverse)

/-- The name occurs with this nearest multipath, where `inherited` stands above
the roots. -/
def Shown (inherited : Option String) (forest : List LsblkDevice) (entry : String × String) :
    Prop :=
  ∃ device above, Occurs forest device above ∧ device.name = entry.1 ∧
    (nearestMpath device above).or inherited = some entry.2

theorem first_mpath_append (line : List LsblkDevice) (parent : LsblkDevice)
    (inherited : Option String) :
    (firstMpath (line ++ [parent])).or inherited =
      (firstMpath line).or (nextMpath parent.name parent.deviceType inherited) := by
  unfold firstMpath nextMpath
  rw [List.find?_append]
  cases line.find? fun device => device.deviceType = "mpath" with
  | some device => rfl
  | none =>
      by_cases mpath : parent.deviceType = "mpath"
      · simp [mpath]
      · simp [mpath]

theorem shown_nil (inherited : Option String) (entry : String × String) :
    ¬Shown inherited [] entry := by
  rintro ⟨device, above, occurs, -⟩
  cases occurs with
  | root member => cases member
  | under member => cases member

theorem shown_cons (inherited : Option String) (device : LsblkDevice)
    (rest : List LsblkDevice) (entry : String × String) :
    Shown inherited (device :: rest) entry ↔
      Shown inherited [device] entry ∨ Shown inherited rest entry := by
  constructor
  · rintro ⟨target, above, occurs, named, nearest⟩
    cases occurs with
    | root member =>
        cases List.mem_cons.mp member with
        | inl same => exact Or.inl ⟨target, [], .root (by simp [same]), named, nearest⟩
        | inr later => exact Or.inr ⟨target, [], .root later, named, nearest⟩
    | under member listed occurs =>
        cases List.mem_cons.mp member with
        | inl same =>
            exact Or.inl ⟨target, _, .under (by simp [same]) listed occurs, named, nearest⟩
        | inr later => exact Or.inr ⟨target, _, .under later listed occurs, named, nearest⟩
  · have wider : ∀ part ⊆ device :: rest, Shown inherited part entry →
        Shown inherited (device :: rest) entry := by
      rintro part within ⟨target, above, occurs, named, nearest⟩
      refine ⟨target, above, ?_, named, nearest⟩
      cases occurs with
      | root member => exact .root (within member)
      | under member listed occurs => exact .under (within member) listed occurs
    intro shown
    cases shown with
    | inl here => exact wider [device] (by simp) here
    | inr later => exact wider rest (List.subset_cons_self device rest) later

theorem shown_device (inherited : Option String) (device : LsblkDevice)
    (entry : String × String) :
    Shown inherited [device] entry ↔
      (device.name = entry.1 ∧
        nextMpath device.name device.deviceType inherited = some entry.2) ∨
      ∃ children, device.children = some children ∧
        Shown (nextMpath device.name device.deviceType inherited) children entry := by
  constructor
  · rintro ⟨target, above, occurs, named, nearest⟩
    cases occurs with
    | root member =>
        cases List.mem_singleton.mp member
        left
        rw [nearestMpath, List.reverse_nil, ← List.nil_append [device],
          first_mpath_append] at nearest
        exact ⟨named, nearest⟩
    | under member listed occurs =>
        cases List.mem_singleton.mp member
        right
        rw [nearestMpath, List.reverse_cons, ← List.cons_append, first_mpath_append] at nearest
        exact ⟨_, listed, target, _, occurs, named, nearest⟩
  · intro shown
    cases shown with
    | inl here =>
        refine ⟨device, [], .root (List.mem_singleton_self device), here.1, ?_⟩
        rw [nearestMpath, List.reverse_nil, ← List.nil_append [device], first_mpath_append]
        exact here.2
    | inr later =>
        obtain ⟨children, listed, target, above, occurs, named, nearest⟩ := later
        refine ⟨target, device :: above,
          .under (List.mem_singleton_self device) listed occurs, named, ?_⟩
        rw [nearestMpath, List.reverse_cons, ← List.cons_append, first_mpath_append]
        exact nearest

mutual

theorem mem_device_records_iff_shown (inherited : Option String) (entry : String × String) :
    ∀ device, entry ∈ deviceRecords inherited device ↔ Shown inherited [device] entry
  | .mk name deviceType children => by
      have below := mem_children_records_iff_shown (nextMpath name deviceType inherited) entry
        children
      rw [shown_device, deviceRecords, List.mem_append, below]
      simp [Prod.ext_iff, LsblkDevice.name, LsblkDevice.deviceType, LsblkDevice.children, and_comm,
        eq_comm]

theorem mem_children_records_iff_shown (inherited : Option String) (entry : String × String) :
    ∀ children, entry ∈ childrenRecords inherited children ↔
      ∃ devices, children = some devices ∧ Shown inherited devices entry
  | none => by simp [childrenRecords]
  | some devices => by
      simp [childrenRecords, mem_forest_records_iff_shown inherited entry devices]

theorem mem_forest_records_iff_shown (inherited : Option String) (entry : String × String) :
    ∀ devices, entry ∈ forestRecords inherited devices ↔ Shown inherited devices entry
  | [] => by simp [forestRecords, shown_nil]
  | device :: rest => by
      rw [forestRecords, List.mem_append, shown_cons,
        mem_device_records_iff_shown inherited entry device,
        mem_forest_records_iff_shown inherited entry rest]

end

theorem holds_build_mpath_map_iff (forest : List LsblkDevice) (name mpath : String) :
    Holds (buildMpathMap forest) name mpath ↔
      ∃ device above, Occurs forest device above ∧ device.name = name ∧
        nearestMpath device above = some mpath := by
  rw [(build_mpath_map_exact forest).2, mem_forest_records_iff_shown]
  simp [Shown]

end Occurrences

section AnyOrder

abbrev LoopState := HashMap String (Finset String) × Pending

def initialState (forest : List LsblkDevice) : LoopState := (∅, [(forest, none)])

/-- One turn of the outer loop, on any of the pending sibling lists. -/
inductive Turn : LoopState → LoopState → Prop
  | pop (map : HashMap String (Finset String)) (before after : Pending)
      (devices : List LsblkDevice) (currentMpath : Option String) :
      Turn (map, before ++ (devices, currentMpath) :: after)
        (devices.foldl (visitDevice currentMpath) (map, before ++ after))

inductive Turns (start : LoopState) : ℕ → LoopState → Prop
  | none : Turns start 0 start
  | more {count : ℕ} {state next : LoopState} (turns : Turns start count state)
      (turn : Turn state next) : Turns start (count + 1) next

theorem turn_pending {state next : LoopState} (turn : Turn state next) :
    pendingTurns next.2 + 1 = pendingTurns state.2 := by
  cases turn with
  | pop map before after devices currentMpath =>
      rw [visit_devices_turns]
      simp only [pendingTurns, List.map_append, List.map_cons, List.sum_append, List.sum_cons]
      omega

theorem turn_accounted {state next : LoopState} (turn : Turn state next)
    (entry : String × String) : Accounted next entry ↔ Accounted state entry := by
  cases turn with
  | pop map before after devices currentMpath =>
      rw [visit_devices_accounted]
      simp only [Accounted, pendingRecords, List.flatMap_append, List.flatMap_cons,
        List.mem_append]
      tauto

theorem turn_no_empty {state next : LoopState} (turn : Turn state next)
    (noEmpty : NoEmptySet state.1) : NoEmptySet next.1 := by
  cases turn with
  | pop map before after devices currentMpath =>
      exact visit_devices_no_empty currentMpath devices (map, before ++ after) noEmpty

theorem turns_pending {start state : LoopState} {count : ℕ} (turns : Turns start count state) :
    pendingTurns state.2 + count = pendingTurns start.2 := by
  induction turns with
  | none => rfl
  | more turns turn ih =>
      have fewer := turn_pending turn
      omega

theorem turns_accounted {start state : LoopState} {count : ℕ} (turns : Turns start count state)
    (entry : String × String) : Accounted state entry ↔ Accounted start entry := by
  induction turns with
  | none => rfl
  | more turns turn ih => exact (turn_accounted turn entry).trans ih

theorem turns_no_empty {start state : LoopState} {count : ℕ} (turns : Turns start count state)
    (noEmpty : NoEmptySet start.1) : NoEmptySet state.1 := by
  induction turns with
  | none => exact noEmpty
  | more turns turn ih => exact turn_no_empty turn ih

theorem no_empty_initial (forest : List LsblkDevice) : NoEmptySet (initialState forest).1 := by
  intro key values found
  simp [initialState] at found

theorem accounted_initial (forest : List LsblkDevice) (name mpath : String) :
    Accounted (initialState forest) (name, mpath) ↔ Holds (buildMpathMap forest) name mpath := by
  rw [(build_mpath_map_exact forest).2]
  simp [initialState, Accounted, Holds, pendingRecords]

theorem eq_build_mpath_map {forest : List LsblkDevice} {map : HashMap String (Finset String)}
    (noEmpty : NoEmptySet map)
    (holds : ∀ name mpath, Holds map name mpath ↔
      Accounted (initialState forest) (name, mpath)) : map = buildMpathMap forest := by
  apply Finmap.ext_lookup
  intro name
  rw [lookup_eq_lookup_iff noEmpty (build_mpath_map_exact forest).1]
  intro mpath
  rw [holds, accounted_initial]

theorem build_loop_any_turns (forest : List LsblkDevice) {turns : ℕ}
    (enough : forestSlices forest + 1 ≤ turns) :
    buildLoop turns [(forest, none)] ∅ = some (buildMpathMap forest) := by
  have within : pendingTurns (initialState forest).2 ≤ turns := by
    simpa [initialState, pendingTurns] using enough
  obtain ⟨built, done, noEmpty, exact'⟩ :=
    build_loop_exact turns _ _ within (no_empty_initial forest)
  rw [← eq_build_mpath_map noEmpty exact']
  exact done

theorem turns_end_in_map {forest : List LsblkDevice} {count : ℕ} {state : LoopState}
    (turns : Turns (initialState forest) count state) (ended : state.2 = []) :
    state.1 = buildMpathMap forest := by
  apply eq_build_mpath_map (turns_no_empty turns (no_empty_initial forest))
  intro name mpath
  rw [← turns_accounted turns]
  simp [Accounted, ended, pendingRecords]

theorem turn_of_pending {state : LoopState} (pending : state.2 ≠ []) :
    ∃ next, Turn state next := by
  obtain ⟨map, stack⟩ := state
  cases stack with
  | nil => exact absurd rfl pending
  | cons first rest => exact ⟨_, Turn.pop map [] rest first.1 first.2⟩

theorem lookup_build_mpath_map_iff (forest : List LsblkDevice) (name : String)
    (mpaths : Finset String) :
    (buildMpathMap forest).lookup name = some mpaths ↔ mpaths.Nonempty ∧
      ∀ mpath, mpath ∈ mpaths ↔ Holds (buildMpathMap forest) name mpath := by
  have noEmpty := (build_mpath_map_exact forest).1
  constructor
  · intro found
    refine ⟨noEmpty name mpaths found, ?_⟩
    intro mpath
    rw [holds_of_lookup found]
  · rintro ⟨⟨mpath, member⟩, exact'⟩
    obtain ⟨values, found, -⟩ := (exact' mpath).mp member
    rw [found]
    congr 1
    ext other
    rw [exact', holds_of_lookup found]

/-- The traversal ends, the map it ends with has for each name the nearest
multipaths of all its occurrences, and no order of the turns changes it. -/
theorem build_mpath_map_nearest (forest : List LsblkDevice) :
    ∃ map,
      (∀ turns, forestSlices forest + 1 ≤ turns →
        buildLoop turns [(forest, none)] ∅ = some map) ∧
      (∀ name mpaths, map.lookup name = some mpaths ↔ mpaths.Nonempty ∧
        ∀ mpath, mpath ∈ mpaths ↔ ∃ device above, Occurs forest device above ∧
          device.name = name ∧ nearestMpath device above = some mpath) ∧
      (∀ name, map.lookup name = none ↔
        ∀ device above, Occurs forest device above → device.name = name →
          nearestMpath device above = none) ∧
      ∀ count state, Turns (∅, [(forest, none)]) count state →
        count ≤ forestSlices forest + 1 ∧
          (state.2 ≠ [] → ∃ next, Turn state next) ∧ (state.2 = [] → state.1 = map) := by
  refine ⟨buildMpathMap forest, fun turns enough => build_loop_any_turns forest enough, ?_, ?_, ?_⟩
  · intro name mpaths
    simp only [lookup_build_mpath_map_iff, holds_build_mpath_map_iff]
  · intro name
    rw [lookup_eq_none_iff (build_mpath_map_exact forest).1]
    simp only [holds_build_mpath_map_iff, Option.eq_none_iff_forall_ne_some]
    constructor
    · intro nothing device above occurs named mpath nearest
      exact nothing mpath ⟨device, above, occurs, named, nearest⟩
    · rintro nothing mpath ⟨device, above, occurs, named, nearest⟩
      exact nothing device above occurs named mpath nearest
  · intro count state turns
    have counted := turns_pending turns
    refine ⟨?_, turn_of_pending, turns_end_in_map turns⟩
    simp only [pendingTurns, List.map_cons, List.map_nil, List.sum_cons, List.sum_nil] at counted
    omega

end AnyOrder

end PveSanFenced.Lsblk
