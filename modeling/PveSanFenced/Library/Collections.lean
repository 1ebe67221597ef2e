import Mathlib.Algebra.Order.Ring.Nat
import Mathlib.Data.Finmap
import Mathlib.Data.List.Forall2
import Mathlib.Data.List.Sort
import Mathlib.Data.Finset.Image

/-!
# Hash containers read extensionally

A hash set is a `Finset` and a hash map a `Finmap`: neither shows an iteration
order. What a program may still do with one is filter it by key and sort its
elements, and both are given here so that they evaluate.
-/

namespace PveSanFenced.Library.Collections

set_option autoImplicit false

/-- A hash map whose value type does not depend on the key. -/
abbrev HashMap (Key Value : Type*) := Finmap fun _ : Key => Value

section Retain

variable {Key Value : Type*} [DecidableEq Key]

def retain (keep : Key → Bool) (map : HashMap Key Value) : HashMap Key Value where
  entries := map.entries.filter fun entry => keep entry.1
  nodupKeys := by
    rcases map with ⟨entries, nodup⟩
    induction entries using Quotient.inductionOn with
    | _ entries =>
        exact List.NodupKeys.sublist List.filter_sublist nodup

private theorem dlookup_filter (keep : Key → Bool) (entries : List (Sigma fun _ : Key => Value))
    (key : Key) :
    (entries.filter fun entry => keep entry.1).dlookup key =
      if keep key then entries.dlookup key else none := by
  induction entries with
  | nil => simp
  | cons entry entries ih =>
      rcases entry with ⟨other, value⟩
      by_cases same : key = other
      · subst same
        by_cases kept : keep key
        · simp [kept]
        · simp [kept, ih]
      · by_cases kept : keep other
        · rw [List.filter_cons_of_pos (by simpa using kept), List.dlookup_cons_ne _ _ same,
            List.dlookup_cons_ne _ _ same, ih]
        · rw [List.filter_cons_of_neg (by simpa using kept), List.dlookup_cons_ne _ _ same, ih]

@[simp] theorem lookup_retain (keep : Key → Bool) (map : HashMap Key Value) (key : Key) :
    (retain keep map).lookup key = if keep key then map.lookup key else none := by
  induction map using Finmap.induction_on with
  | H map =>
      have listed : retain keep map.toFinmap =
          (AList.mk (map.entries.filter fun entry => keep entry.1)
            (List.NodupKeys.sublist List.filter_sublist map.nodupKeys)).toFinmap := by
        apply Finmap.ext
        simp [retain, AList.toFinmap]
      rw [listed, Finmap.lookup_toFinmap, Finmap.lookup_toFinmap]
      exact dlookup_filter keep map.entries key

theorem mem_entries_iff (map : HashMap Key Value) (key : Key) (value : Value) :
    (⟨key, value⟩ : Sigma fun _ : Key => Value) ∈ map.entries ↔ map.lookup key = some value := by
  induction map using Finmap.induction_on with
  | H map =>
      rw [Finmap.lookup_toFinmap, AList.toFinmap_entries, Multiset.mem_coe]
      exact AList.mem_lookup_iff.symm

end Retain

section Build

variable {Key Value : Type*} [DecidableEq Key]

/-- One `insert` after the other: a later pair replaces an earlier one. -/
def insertAll (pairs : List (Key × Value)) (map : HashMap Key Value) : HashMap Key Value :=
  pairs.foldl (fun map pair => map.insert pair.1 pair.2) map

theorem insert_all_append (front back : List (Key × Value)) (map : HashMap Key Value) :
    insertAll (front ++ back) map = insertAll back (insertAll front map) :=
  List.foldl_append

theorem insert_all_flat_map {Item : Type*} (pairsOf : Item → List (Key × Value))
    (items : List Item) (map : HashMap Key Value) :
    items.foldl (fun map item => insertAll (pairsOf item) map) map =
      insertAll (items.flatMap pairsOf) map := by
  induction items generalizing map with
  | nil => rfl
  | cons item items ih => rw [List.foldl_cons, ih, List.flatMap_cons, insert_all_append]

theorem of_lookup_insert_all {pairs : List (Key × Value)} {map : HashMap Key Value} {key : Key}
    {value : Value} (found : (insertAll pairs map).lookup key = some value) :
    (key, value) ∈ pairs ∨ map.lookup key = some value := by
  induction pairs generalizing map with
  | nil => exact Or.inr found
  | cons pair pairs ih =>
      cases ih found with
      | inl later => exact Or.inl (List.mem_cons_of_mem pair later)
      | inr first =>
          by_cases same : key = pair.1
          · rw [same, Finmap.lookup_insert, Option.some.injEq] at first
            exact Or.inl (by rw [same, ← first]; exact List.mem_cons_self ..)
          · rw [Finmap.lookup_insert_of_ne _ same] at first
            exact Or.inr first

theorem lookup_insert_all_kept {pairs : List (Key × Value)} {map : HashMap Key Value} {key : Key}
    {value : Value} (before : map.lookup key = some value)
    (same : ∀ other, (key, other) ∈ pairs → other = value) :
    (insertAll pairs map).lookup key = some value := by
  induction pairs generalizing map with
  | nil => exact before
  | cons pair pairs ih =>
      apply ih
      · by_cases here : key = pair.1
        · rw [here, Finmap.lookup_insert]
          exact congrArg some (same pair.2 (by rw [here]; exact List.mem_cons_self ..))
        · rw [Finmap.lookup_insert_of_ne _ here, before]
      · exact fun other member => same other (List.mem_cons_of_mem pair member)

theorem lookup_insert_all {pairs : List (Key × Value)} {key : Key} {value : Value}
    (map : HashMap Key Value) (member : (key, value) ∈ pairs)
    (same : ∀ other, (key, other) ∈ pairs → other = value) :
    (insertAll pairs map).lookup key = some value := by
  obtain ⟨front, back, rfl⟩ := List.append_of_mem member
  rw [insert_all_append]
  have placed : ((insertAll front map).insert key value).lookup key = some value :=
    Finmap.lookup_insert _
  have kept : (insertAll back ((insertAll front map).insert key value)).lookup key = some value :=
    lookup_insert_all_kept placed fun other later =>
      same other (List.mem_append_right front (List.mem_cons_of_mem (key, value) later))
  exact kept

end Build

section Sets

variable {Key Value : Type*} [DecidableEq Key]

def Holds (map : HashMap Key (Finset Value)) (key : Key) (value : Value) : Prop :=
  ∃ values, map.lookup key = some values ∧ value ∈ values

def NoEmptySet (map : HashMap Key (Finset Value)) : Prop :=
  ∀ key values, map.lookup key = some values → values.Nonempty

theorem holds_of_lookup {map : HashMap Key (Finset Value)} {key : Key} {values : Finset Value}
    (found : map.lookup key = some values) (value : Value) :
    Holds map key value ↔ value ∈ values := by
  constructor
  · intro holds
    obtain ⟨values', found', member⟩ := holds
    rw [found, Option.some.injEq] at found'
    exact found' ▸ member
  · exact fun member => ⟨values, found, member⟩

theorem lookup_eq_none_iff {map : HashMap Key (Finset Value)} (noEmpty : NoEmptySet map)
    (key : Key) : map.lookup key = none ↔ ∀ value, ¬Holds map key value := by
  constructor
  · intro absent value holds
    obtain ⟨values, found, -⟩ := holds
    rw [absent] at found
    cases found
  · intro nothing
    cases found : map.lookup key with
    | none => rfl
    | some values =>
        obtain ⟨value, member⟩ := noEmpty key values found
        exact absurd ⟨values, found, member⟩ (nothing value)

theorem lookup_eq_lookup_iff {left right : HashMap Key (Finset Value)} (noEmpty : NoEmptySet left)
    (noEmpty' : NoEmptySet right) (key : Key) :
    left.lookup key = right.lookup key ↔ ∀ value, Holds left key value ↔ Holds right key value := by
  constructor
  · intro same value
    rw [Holds, same]
    rfl
  · intro same
    cases found : right.lookup key with
    | none =>
        rw [lookup_eq_none_iff noEmpty]
        intro value holds
        exact (lookup_eq_none_iff noEmpty' key).mp found value ((same value).mp holds)
    | some values =>
        cases found' : left.lookup key with
        | none =>
            obtain ⟨value, member⟩ := noEmpty' key values found
            have holds := (same value).mpr ⟨values, found, member⟩
            exact absurd holds ((lookup_eq_none_iff noEmpty key).mp found' value)
        | some values' =>
            congr 1
            ext value
            rw [← holds_of_lookup found', same, holds_of_lookup found]

variable [DecidableEq Value]

/-- `entry(key).or_default().insert(value)`. -/
def addTo (map : HashMap Key (Finset Value)) (key : Key) (value : Value) :
    HashMap Key (Finset Value) :=
  map.insert key (insert value ((map.lookup key).getD ∅))

theorem holds_add_to (map : HashMap Key (Finset Value)) (key other : Key) (value item : Value) :
    Holds (addTo map key value) other item ↔ (other = key ∧ item = value) ∨
      Holds map other item := by
  by_cases same : other = key
  · subst same
    rw [addTo, holds_of_lookup (Finmap.lookup_insert map), Finset.mem_insert]
    cases found : map.lookup other with
    | none => simp [Holds, found]
    | some values => simp [holds_of_lookup found]
  · rw [Holds, addTo, Finmap.lookup_insert_of_ne _ same]
    simp [same, Holds]

theorem no_empty_add_to {map : HashMap Key (Finset Value)} (noEmpty : NoEmptySet map) (key : Key)
    (value : Value) : NoEmptySet (addTo map key value) := by
  intro other values found
  by_cases same : other = key
  · rw [same, addTo, Finmap.lookup_insert, Option.some.injEq] at found
    exact found ▸ Finset.insert_nonempty _ _
  · rw [addTo, Finmap.lookup_insert_of_ne _ same] at found
    exact noEmpty other values found

end Sets

section Related

variable {Left Right : Type*} {Related : Left → Right → Prop}

theorem related_option {left : Option Left} {right : Option Right}
    (related : Option.Rel Related left right) :
    (left = none ∧ right = none) ∨
      ∃ item item', left = some item ∧ right = some item' ∧ Related item item' := by
  cases related with
  | none => exact Or.inl ⟨rfl, rfl⟩
  | some pair => exact Or.inr ⟨_, _, rfl, rfl, pair⟩

theorem related_option_imp {Weaker : Left → Right → Prop} {left : Option Left}
    {right : Option Right} (related : Option.Rel Related left right)
    (weaker : ∀ item item', Related item item' → Weaker item item') :
    Option.Rel Weaker left right := by
  cases related with
  | none => exact Option.Rel.none
  | some pair => exact Option.Rel.some (weaker _ _ pair)

theorem related_split {left : List Left} {before after : List Right} {right : Right}
    (related : List.Forall₂ Related left (before ++ right :: after)) :
    ∃ before' item after', left = before' ++ item :: after' ∧
      List.Forall₂ Related before' before ∧ Related item right ∧
        List.Forall₂ Related after' after := by
  have front := List.forall₂_take_append left before (right :: after) related
  have back := List.forall₂_drop_append left before (right :: after) related
  obtain ⟨item, after', atItem, rest, dropped⟩ := List.forall₂_cons_right_iff.mp back
  refine ⟨left.take before.length, item, after', ?_, front, atItem, rest⟩
  rw [← dropped, List.take_append_drop]

theorem related_mem {left : List Left} {right : List Right}
    (related : List.Forall₂ Related left right) {item : Right} (member : item ∈ right) :
    ∃ other ∈ left, Related other item := by
  obtain ⟨before, after, rfl⟩ := List.append_of_mem member
  obtain ⟨before', other, after', rfl, -, atItem, -⟩ := related_split related
  exact ⟨other, by simp, atItem⟩

theorem related_find {left : List Left} {right : List Right}
    (related : List.Forall₂ Related left right) {test : Left → Bool} {test' : Right → Bool}
    (agree : ∀ item item', Related item item' → test item = test' item') {found : Right}
    (first : right.find? test' = some found) :
    ∃ item, left.find? test = some item ∧ Related item found := by
  induction related with
  | nil => simp at first
  | @cons item item' left right atItem rest ih =>
      rw [List.find?_cons] at first ⊢
      rw [agree item item' atItem]
      rcases passes : test' item' with _ | _
      · rw [passes] at first
        exact ih first
      · rw [passes, Option.some.injEq] at first
        subst first
        exact ⟨item, rfl, atItem⟩

end Related

section Attempts

variable {Item Result Failure : Type*}

theorem map_m_ok {attempt : Item → Except Failure Result} (items : List Item)
    (succeeds : ∀ item, ∃ result, attempt item = .ok result) :
    ∃ results, items.mapM attempt = .ok results ∧
      ∀ result, result ∈ results ↔ ∃ item ∈ items, attempt item = .ok result := by
  induction items with
  | nil => exact ⟨[], rfl, by simp⟩
  | cons item items ih =>
      obtain ⟨first, done⟩ := succeeds item
      obtain ⟨results, later, listed⟩ := ih
      refine ⟨first :: results, ?_, ?_⟩
      · rw [List.mapM_cons, done, later]
        rfl
      · intro result
        rw [List.mem_cons, listed]
        constructor
        · intro found
          cases found with
          | inl same => exact ⟨item, List.mem_cons_self .., same ▸ done⟩
          | inr rest =>
              obtain ⟨other, member, made⟩ := rest
              exact ⟨other, List.mem_cons_of_mem item member, made⟩
        · intro found
          obtain ⟨other, member, made⟩ := found
          cases List.mem_cons.mp member with
          | inl same =>
              rw [same, done, Except.ok.injEq] at made
              exact Or.inl made.symm
          | inr rest => exact Or.inr ⟨other, rest, made⟩

theorem map_m_ok_iff (attempt : Item → Except Failure Result) (items : List Item)
    (results : List Result) : items.mapM attempt = .ok results ↔
      List.Forall₂ (fun item result => attempt item = .ok result) items results := by
  induction items generalizing results with
  | nil =>
      rw [List.mapM_nil, List.forall₂_nil_left_iff]
      exact ⟨fun made => (Except.ok.inj made).symm, fun none => congrArg Except.ok none.symm⟩
  | cons item items ih =>
      rw [List.mapM_cons, List.forall₂_cons_left_iff]
      cases first : attempt item with
      | error failed =>
          apply iff_of_false
          · intro impossible
            cases impossible
          · intro found
            obtain ⟨result, rest, made, -⟩ := found
            cases made
      | ok result =>
          cases later : items.mapM attempt with
          | error failed =>
              apply iff_of_false
              · intro impossible
                cases impossible
              · intro found
                obtain ⟨-, rest, -, others, -⟩ := found
                rw [(ih rest).mpr others] at later
                cases later
          | ok rest =>
              have others := (ih rest).mp later
              constructor
              · intro made
                exact ⟨result, rest, rfl, others, (Except.ok.inj made).symm⟩
              · intro found
                obtain ⟨result', rest', same, others', rfl⟩ := found
                rw [(ih rest').mpr others', Except.ok.injEq] at later
                rw [Except.ok.inj same, later]
                rfl

end Attempts

section Sorted

variable {Item : Type*} [LinearOrder Item]

/-- The elements of a set in ascending order, by a sort the kernel can run. -/
def sorted (set : Finset Item) : List Item :=
  Quot.liftOn set.1 (List.insertionSort (· ≤ ·)) fun left right permuted =>
    List.Perm.eq_of_pairwise' (List.pairwise_insertionSort _ left)
      (List.pairwise_insertionSort _ right)
      ((List.perm_insertionSort _ left).trans
        (permuted.trans (List.perm_insertionSort _ right).symm))

@[simp] theorem mem_sorted (set : Finset Item) (item : Item) :
    item ∈ sorted set ↔ item ∈ set := by
  rcases set with ⟨elements, nodup⟩
  induction elements using Quotient.inductionOn with
  | _ elements => exact List.mem_insertionSort _

theorem sorted_pairwise (set : Finset Item) : (sorted set).Pairwise (· ≤ ·) := by
  rcases set with ⟨elements, nodup⟩
  induction elements using Quotient.inductionOn with
  | _ elements => exact List.pairwise_insertionSort _ elements

theorem sorted_length (set : Finset Item) : (sorted set).length = set.card := by
  rcases set with ⟨elements, nodup⟩
  induction elements using Quotient.inductionOn with
  | _ elements => exact List.length_insertionSort _ elements

end Sorted

end PveSanFenced.Library.Collections
