import PveSanFenced.Disks

/-!
# Volume names and the entries they find

LVM names a volume by its group and its own name, with the hyphens of both
doubled. No two volumes share such a name. The lookup of a disk also tries a
legacy name, in which the group's hyphens are left alone, and that name can be
another volume's.
-/

namespace PveSanFenced.VolumeNames

open PveSanFenced.Disks
open PveSanFenced.Library.Collections
open PveSanFenced.Library.Text

set_option autoImplicit false

section Mangling

theorem double_hyphens_cons (c : Char) (chars : List Char) :
    doubleHyphens (c :: chars) =
      (if c = '-' then ['-', '-'] else [c]) ++ doubleHyphens chars := by
  by_cases hyphen : c = '-'
  · subst hyphen
    rfl
  · rw [if_neg hyphen, List.singleton_append, doubleHyphens]
    exact fun same => hyphen same

theorem double_hyphens_head (chars : List Char) :
    (doubleHyphens chars).head? = chars.head? := by
  cases chars with
  | nil => rfl
  | cons c chars =>
      rw [double_hyphens_cons]
      split_ifs with hyphen
      · rw [hyphen]
        rfl
      · rfl

theorem count_double_hyphens (chars : List Char) :
    (doubleHyphens chars).count '-' = 2 * chars.count '-' := by
  induction chars with
  | nil => rfl
  | cons c chars ih =>
      rw [double_hyphens_cons, List.count_append, ih, List.count_cons]
      split_ifs with hyphen hyphen' hyphen'
      · simp only [List.count_cons_self, List.count_nil]
        omega
      · simp [hyphen] at hyphen'
      · simp [hyphen] at hyphen'
      · simp [hyphen]

theorem double_hyphens_of_not_mem {chars : List Char} (free : '-' ∉ chars) :
    doubleHyphens chars = chars := by
  induction chars with
  | nil => rfl
  | cons c chars ih =>
      rw [List.mem_cons, not_or] at free
      rw [double_hyphens_cons, if_neg (Ne.symm free.1), ih free.2, List.singleton_append]

theorem double_hyphens_append_cons {c d : Char} {front front' back back' : List Char}
    (same : doubleHyphens (c :: front) ++ back = doubleHyphens (d :: front') ++ back') :
    c = d ∧ doubleHyphens front ++ back = doubleHyphens front' ++ back' := by
  have heads : c = d := by
    have first := congrArg List.head? same
    rw [List.head?_append, List.head?_append, double_hyphens_head, double_hyphens_head] at first
    simpa using first
  refine ⟨heads, ?_⟩
  subst heads
  rw [double_hyphens_cons, double_hyphens_cons, List.append_assoc, List.append_assoc] at same
  exact List.append_cancel_left same

theorem double_hyphens_injective {chars chars' : List Char}
    (same : doubleHyphens chars = doubleHyphens chars') : chars = chars' := by
  induction chars generalizing chars' with
  | nil =>
      have first := congrArg List.head? same
      rw [double_hyphens_head, double_hyphens_head, List.head?_nil] at first
      exact (List.head?_eq_none_iff.mp first.symm).symm
  | cons c chars ih =>
      cases chars' with
      | nil =>
          have first := congrArg List.head? same
          rw [double_hyphens_head, double_hyphens_head] at first
          cases first
      | cons d chars' =>
          rw [← List.append_nil (doubleHyphens (c :: chars)),
            ← List.append_nil (doubleHyphens (d :: chars'))] at same
          obtain ⟨heads, tails⟩ := double_hyphens_append_cons same
          rw [List.append_nil, List.append_nil] at tails
          rw [heads, ih tails]

/-- The joining hyphen is found again: where one group ends, the other would
have to go on with a hyphen, which the volume's name cannot start with. -/
theorem mangled_injective {vg vg' lv lv' : List Char} (noHyphen : lv.head? ≠ some '-')
    (noHyphen' : lv'.head? ≠ some '-')
    (same : doubleHyphens vg ++ '-' :: doubleHyphens lv =
      doubleHyphens vg' ++ '-' :: doubleHyphens lv') : vg = vg' ∧ lv = lv' := by
  have ended : ∀ {c : Char} {group name name' : List Char}, name.head? ≠ some '-' →
      '-' :: doubleHyphens name ≠ doubleHyphens (c :: group) ++ '-' :: doubleHyphens name' := by
    intro c group name name' free clash
    rw [double_hyphens_cons] at clash
    split_ifs at clash with hyphen
    · have second := congrArg (fun chars => chars.tail.head?) clash
      simp only [List.tail_cons, List.cons_append, List.head?_cons, double_hyphens_head] at second
      exact free second
    · rw [List.singleton_append, List.cons_append, List.cons.injEq] at clash
      exact hyphen clash.1.symm
  induction vg generalizing vg' with
  | nil =>
      cases vg' with
      | nil =>
          simp only [doubleHyphens, List.nil_append, List.cons.injEq, true_and] at same
          exact ⟨rfl, double_hyphens_injective same⟩
      | cons d vg' => exact absurd same (ended noHyphen)
  | cons c vg ih =>
      cases vg' with
      | nil => exact absurd same.symm (ended noHyphen')
      | cons d vg' =>
          obtain ⟨heads, tails⟩ := double_hyphens_append_cons same
          obtain ⟨groups, names⟩ := ih tails
          exact ⟨by rw [heads, groups], names⟩

theorem lvm_name_eq {name name' : LvmName} (same : name.text.toList = name'.text.toList) :
    name = name' := by
  cases name
  cases name'
  congr 1
  exact String.toList_inj.mp same

theorem lvm_dm_name_injective {vg vg' lv lv' : LvmName}
    (same : lvmDmName vg lv = lvmDmName vg' lv') : vg = vg' ∧ lv = lv' := by
  rw [lvmDmName, lvmDmName, String.ofList_inj] at same
  obtain ⟨groups, names⟩ := mangled_injective lv.noLeadingHyphen lv'.noLeadingHyphen same
  exact ⟨lvm_name_eq groups, lvm_name_eq names⟩

theorem storage_to_dm_name_injective (v1 l1 v2 l2 : LvmName)
    (same : storageToDmName (v1.text ++ ":" ++ l1.text) =
      storageToDmName (v2.text ++ ":" ++ l2.text)) : v1 = v2 ∧ l1 = l2 := by
  apply lvm_dm_name_injective
  rw [← storage_to_dm_name_volume, ← storage_to_dm_name_volume]
  exact same

def hyphenated : LvmName := ⟨"vm--1-", by decide, by decide, by decide⟩

theorem storage_to_dm_name_injective_hyphenated :
    hyphenated = hyphenated ∧ hyphenated = hyphenated :=
  storage_to_dm_name_injective hyphenated hyphenated hyphenated hyphenated rfl

end Mangling

section Attribution

/-- A logical volume: its names, the minor number of its device, and the
multipaths below it if there are any. -/
structure Volume where
  vg : LvmName
  lv : LvmName
  minor : ℕ
  mpaths : Option (Finset String)

namespace Volume

def storage (volume : Volume) : String := volumeId volume.vg volume.lv

def dmName (volume : Volume) : String := lvmDmName volume.vg volume.lv

def kernelName (volume : Volume) : String := "dm-" ++ toString volume.minor

def legacyName (volume : Volume) : String := storageToDmNameLegacy volume.storage

end Volume

def DistinctVolumes (volumes : List Volume) : Prop :=
  ∀ volume ∈ volumes, ∀ other ∈ volumes, volume.vg = other.vg → volume.lv = other.lv →
    volume = other

/-- The map has the entries of the volumes with multipaths, each under its
mangled and its kernel name, and no others. -/
structure MapOf (volumes : List Volume) (mpathMap : HashMap String (Finset String)) : Prop where
  entered : ∀ volume ∈ volumes, ∀ mpaths, volume.mpaths = some mpaths →
    mpathMap.lookup volume.dmName = some mpaths ∧ mpathMap.lookup volume.kernelName = some mpaths
  only : ∀ key mpaths, mpathMap.lookup key = some mpaths →
    ∃ volume ∈ volumes, volume.mpaths = some mpaths ∧
      (volume.dmName = key ∨ volume.kernelName = key)

theorem minor_digits (minor : ℕ) {c : Char} (member : c ∈ (toString minor).toList) :
    c.isDigit = true := by
  have digits : (toString minor).toList = Nat.toDigits 10 minor := by
    change (String.ofList (Nat.toDigits 10 minor)).toList = _
    rw [String.toList_ofList]
  rw [digits] at member
  exact Nat.isDigit_of_mem_toDigits (by decide) (by decide) member

theorem hyphen_not_mem_minor (minor : ℕ) : '-' ∉ (toString minor).toList :=
  fun member => absurd (minor_digits minor member) (by decide)

theorem mem_double_hyphens {c : Char} {chars : List Char} :
    c ∈ doubleHyphens chars ↔ c ∈ chars := by
  induction chars with
  | nil => rfl
  | cons d chars ih =>
      rw [double_hyphens_cons, List.mem_append, ih, List.mem_cons]
      split_ifs with hyphen
      · simp [hyphen]
      · simp

theorem not_mem_joined {c : Char} (foreign : isLvmChar c = false) {front : List Char}
    (free : c ∉ front) (name : LvmName) :
    c ∉ front ++ '-' :: doubleHyphens name.text.toList := by
  rw [List.mem_append, List.mem_cons, mem_double_hyphens]
  rintro (inFront | rfl | inName)
  · exact free inFront
  · cases foreign
  · exact name.not_mem foreign inName

theorem dm_name_chars (volume : Volume) :
    volume.dmName.toList =
      doubleHyphens volume.vg.text.toList ++ '-' :: doubleHyphens volume.lv.text.toList := by
  rw [Volume.dmName, lvmDmName, String.toList_ofList]

theorem not_mem_dm_name {c : Char} (foreign : isLvmChar c = false) (volume : Volume) :
    c ∉ volume.dmName.toList := by
  have inGroup := volume.vg.not_mem foreign
  rw [← mem_double_hyphens] at inGroup
  rw [dm_name_chars]
  exact not_mem_joined foreign inGroup volume.lv

theorem key_chars {volumes : List Volume} {mpathMap : HashMap String (Finset String)}
    (mapOf : MapOf volumes mpathMap) {key : String} {mpaths : Finset String}
    (found : mpathMap.lookup key = some mpaths) {c : Char} (foreign : isLvmChar c = false) :
    c ∉ key.toList := by
  obtain ⟨volume, -, -, named⟩ := mapOf.only key mpaths found
  cases named with
  | inl dmName =>
      rw [← dmName]
      exact not_mem_dm_name foreign volume
  | inr kernelName =>
      rw [← kernelName, Volume.kernelName, String.toList_append, List.mem_append]
      rintro (inPrefix | inMinor)
      · have legal : ∀ c ∈ "dm-".toList, isLvmChar c = true := by simp; decide
        rw [legal c inPrefix] at foreign
        cases foreign
      · have digit := minor_digits volume.minor inMinor
        rw [isLvmChar, Char.isAlphanum, digit] at foreign
        simp at foreign

theorem legacy_name_chars (volume : Volume) :
    volume.legacyName.toList =
      volume.vg.text.toList ++ '-' :: doubleHyphens volume.lv.text.toList := by
  have split : splitOnce ':' (volumeId volume.vg volume.lv) =
      some (volume.vg.text, volume.lv.text) :=
    split_once_append volume.lv.text (volume.vg.not_mem (by decide))
  rw [Volume.legacyName, Volume.storage, storageToDmNameLegacy, split]
  simp only [String.toList_append, replace_hyphen_eq, List.append_assoc]
  rfl

theorem kernel_name_chars (volume : Volume) :
    volume.kernelName.toList = ['d', 'm'] ++ '-' :: (toString volume.minor).toList := by
  rw [Volume.kernelName, String.toList_append]
  rfl

theorem legacy_name_eq_dm_name {volume : Volume} (free : '-' ∉ volume.vg.text.toList) :
    volume.legacyName = volume.dmName := by
  apply String.toList_inj.mp
  rw [legacy_name_chars, dm_name_chars, double_hyphens_of_not_mem free]

/-- A kernel name has a single hyphen, so a mangled name that equals one has
none in its group. -/
theorem no_hyphen_of_kernel_name {volume other : Volume}
    (same : other.kernelName = volume.dmName) : '-' ∉ volume.vg.text.toList := by
  have counted := congrArg (fun name => name.toList.count '-') same
  simp only [kernel_name_chars, dm_name_chars, List.count_append, List.count_cons_self,
    count_double_hyphens, List.count_eq_zero_of_not_mem (hyphen_not_mem_minor other.minor)]
    at counted
  have single : ['d', 'm'].count '-' = 0 := by decide
  apply List.count_eq_zero.mp
  omega

/-- Only a group named `dm` leads from a name without group hyphens to a kernel
name. -/
theorem group_of_kernel_name {volume other : Volume} (free : '-' ∉ volume.vg.text.toList)
    (same : other.kernelName = volume.legacyName) : volume.vg.text = "dm" := by
  have fronts := congrArg (fun name => name.toList.takeWhile (· ≠ '-')) same
  have passed : ∀ c ∈ volume.vg.text.toList, decide (c ≠ '-') = true := fun c member =>
    decide_eq_true fun hyphen => free (hyphen ▸ member)
  simp only [kernel_name_chars, legacy_name_chars,
    List.takeWhile_append_of_pos passed] at fronts
  apply String.toList_inj.mp
  simpa using fronts.symm

section Lookup

variable {volumes : List Volume} {mpathMap : HashMap String (Finset String)} {volume : Volume}

theorem lookup_foreign (mapOf : MapOf volumes mpathMap) {key : String} {c : Char}
    (foreign : isLvmChar c = false) (member : c ∈ key.toList) : mpathMap.lookup key = none := by
  rw [Option.eq_none_iff_forall_ne_some]
  intro mpaths found
  exact key_chars mapOf found foreign member

theorem strip_prefix_foreign {start text : String} {c : Char} (member : c ∈ start.toList)
    (free : c ∉ text.toList) : stripPrefix start text = none := by
  rw [stripPrefix, Option.map_eq_none_iff]
  cases stripped : start.toList.isPrefixOf? text.toList with
  | none => rfl
  | some rest =>
      have parts := List.isPrefixOf?_eq_some_iff_append_eq.mp stripped
      exact absurd (parts ▸ List.mem_append_left rest member) free

theorem not_mem_legacy_name {c : Char} (foreign : isLvmChar c = false) (volume : Volume) :
    c ∉ volume.legacyName.toList := by
  rw [legacy_name_chars]
  exact not_mem_joined foreign (volume.vg.not_mem foreign) volume.lv

/-- The last three lookups never find anything: a storage holds a colon, and no
name starts with a slash. -/
theorem matched_mpaths_eq (mapOf : MapOf volumes mpathMap) (volume : Volume) :
    matchedMpaths mpathMap volume.storage =
      (mpathMap.lookup volume.dmName <|> mpathMap.lookup volume.legacyName) := by
  have colon : ':' ∈ volume.storage.toList := by simp [Volume.storage, volumeId]
  have slash : '/' ∈ "/dev/mapper/".toList := by simp
  have mangled : storageToDmName volume.storage = volume.dmName :=
    storage_to_dm_name_volume volume.vg volume.lv
  have legacy : storageToDmNameLegacy volume.storage = volume.legacyName := rfl
  have noStorage := lookup_foreign mapOf (by decide) colon
  have noMapper := strip_prefix_foreign slash (not_mem_dm_name (by decide) volume)
  have noLegacyMapper := strip_prefix_foreign slash (not_mem_legacy_name (by decide) volume)
  rw [matchedMpaths, mangled, legacy, noStorage, noMapper, noLegacyMapper]
  simp

theorem matched_backed (mapOf : MapOf volumes mpathMap) (member : volume ∈ volumes)
    {mpaths : Finset String} (backed : volume.mpaths = some mpaths) :
    matchedMpaths mpathMap volume.storage = some mpaths := by
  rw [matched_mpaths_eq mapOf, (mapOf.entered volume member mpaths backed).1]
  rfl

theorem eq_of_dm_name (distinct : DistinctVolumes volumes) {other : Volume}
    (member : volume ∈ volumes) (otherMember : other ∈ volumes)
    (mangled : other.dmName = volume.dmName) : other = volume := by
  obtain ⟨groups, names⟩ := lvm_dm_name_injective mangled
  exact distinct other otherMember volume member groups names

theorem matched_unbacked (distinct : DistinctVolumes volumes) (mapOf : MapOf volumes mpathMap)
    (member : volume ∈ volumes) (unbacked : volume.mpaths = none) :
    matchedMpaths mpathMap volume.storage = mpathMap.lookup volume.legacyName := by
  rw [matched_mpaths_eq mapOf]
  cases found : mpathMap.lookup volume.dmName with
  | none => simp
  | some mpaths =>
      obtain ⟨other, otherMember, backed, named⟩ := mapOf.only _ mpaths found
      cases named with
      | inl mangled =>
          rw [eq_of_dm_name distinct member otherMember mangled, unbacked] at backed
          cases backed
      | inr kernelName =>
          rw [legacy_name_eq_dm_name (no_hyphen_of_kernel_name kernelName), found]
          rfl

theorem lookup_legacy_iff (mapOf : MapOf volumes mpathMap) (name : String)
    (mpaths : Finset String) :
    mpathMap.lookup name = some mpaths ↔ ∃ other ∈ volumes, other.mpaths = some mpaths ∧
      (other.dmName = name ∨ other.kernelName = name) := by
  constructor
  · exact mapOf.only name mpaths
  · rintro ⟨other, member, backed, named⟩
    have entered := mapOf.entered other member mpaths backed
    cases named with
    | inl dmName => exact dmName ▸ entered.1
    | inr kernelName => exact kernelName ▸ entered.2

/-- No volume with multipaths is known under the legacy name. -/
def LegacyFree (volumes : List Volume) (volume : Volume) : Prop :=
  ∀ other ∈ volumes, other.mpaths ≠ none →
    other.dmName ≠ volume.legacyName ∧ other.kernelName ≠ volume.legacyName

theorem matched_own_iff (distinct : DistinctVolumes volumes) (mapOf : MapOf volumes mpathMap)
    (member : volume ∈ volumes) : matchedMpaths mpathMap volume.storage = volume.mpaths ↔
      (volume.mpaths = none → LegacyFree volumes volume) := by
  cases has : volume.mpaths with
  | some mpaths =>
      apply iff_of_true (matched_backed mapOf member has)
      exact fun none => absurd none (Option.some_ne_none mpaths)
  | none =>
      rw [matched_unbacked distinct mapOf member has, imp_iff_right rfl,
        Option.eq_none_iff_forall_ne_some]
      constructor
      · intro nothing other otherMember backed
        obtain ⟨mpaths, some⟩ := Option.ne_none_iff_exists'.mp backed
        have missed := mt (lookup_legacy_iff mapOf volume.legacyName mpaths).mpr (nothing mpaths)
        exact ⟨fun mangled => missed ⟨other, otherMember, some, Or.inl mangled⟩,
          fun kernel => missed ⟨other, otherMember, some, Or.inr kernel⟩⟩
      · intro free mpaths found
        obtain ⟨other, otherMember, backed, named⟩ := mapOf.only _ mpaths found
        have apart := free other otherMember (by simp [backed])
        exact named.elim apart.1 apart.2

/-- A volume is attributed what it has, and nothing else, exactly if it has
multipaths or its legacy name is free. One with multipaths is attributed them.
One without is attributed those of a volume that its legacy name is a name of;
for a group other than `dm` that takes a hyphen in the group's name. -/
theorem matched_mpaths_own_or_legacy (volumes : List Volume)
    (mpathMap : HashMap String (Finset String)) (distinct : DistinctVolumes volumes)
    (mapOf : MapOf volumes mpathMap) (volume : Volume) (member : volume ∈ volumes) :
    (matchedMpaths mpathMap volume.storage = volume.mpaths ↔
      (volume.mpaths = none → LegacyFree volumes volume)) ∧
    (∀ mpaths, volume.mpaths = some mpaths →
      matchedMpaths mpathMap volume.storage = some mpaths) ∧
    (volume.mpaths = none →
      (∀ mpaths, matchedMpaths mpathMap volume.storage = some mpaths ↔
        ∃ other ∈ volumes, other.mpaths = some mpaths ∧
          (other.dmName = volume.legacyName ∨ other.kernelName = volume.legacyName)) ∧
      ('-' ∉ volume.vg.text.toList → volume.vg.text ≠ "dm" →
        matchedMpaths mpathMap volume.storage = none)) := by
  refine ⟨matched_own_iff distinct mapOf member, ?_, ?_⟩
  · intro mpaths backed
    exact matched_backed mapOf member backed
  · intro unbacked
    rw [matched_unbacked distinct mapOf member unbacked]
    refine ⟨lookup_legacy_iff mapOf volume.legacyName, ?_⟩
    intro free notDm
    rw [Option.eq_none_iff_forall_ne_some]
    intro mpaths found
    obtain ⟨other, otherMember, backed, named⟩ := mapOf.only _ mpaths found
    cases named with
    | inl mangled =>
        rw [legacy_name_eq_dm_name free] at mangled
        rw [eq_of_dm_name distinct member otherMember mangled, unbacked] at backed
        cases backed
    | inr kernelName => exact notDm (group_of_kernel_name free kernelName)

end Lookup

section Examples

def localVolume : Volume where
  vg := ⟨"a--b", by decide, by decide, by decide⟩
  lv := ⟨"c", by decide, by decide, by decide⟩
  minor := 1
  mpaths := none

def sanVolume : Volume where
  vg := ⟨"a-b", by decide, by decide, by decide⟩
  lv := ⟨"c", by decide, by decide, by decide⟩
  minor := 2
  mpaths := some {"mpatha"}

def sanMap : HashMap String (Finset String) :=
  ((∅ : HashMap String (Finset String)).insert "a--b-c" {"mpatha"}).insert "dm-2" {"mpatha"}

theorem distinct_local_san : DistinctVolumes [localVolume, sanVolume] := by
  intro volume member other member' groups _
  have texts : volume.vg.text = other.vg.text := by rw [groups]
  simp only [List.mem_cons, List.not_mem_nil, or_false] at member member'
  rcases member with rfl | rfl <;> rcases member' with rfl | rfl
  · rfl
  · simp [localVolume, sanVolume] at texts
  · simp [localVolume, sanVolume] at texts
  · rfl

theorem map_of_local_san : MapOf [localVolume, sanVolume] sanMap where
  entered := by
    intro volume member mpaths backed
    simp only [List.mem_cons, List.not_mem_nil, or_false] at member
    rcases member with rfl | rfl
    · cases backed
    · cases backed
      exact ⟨by decide, by decide⟩
  only := by
    intro key mpaths found
    refine ⟨sanVolume, by simp, ?_⟩
    by_cases kernel : key = "dm-2"
    · subst kernel
      rw [sanMap, Finmap.lookup_insert] at found
      exact ⟨found, Or.inr (by decide)⟩
    · rw [sanMap, Finmap.lookup_insert_of_ne _ kernel] at found
      by_cases mangled : key = "a--b-c"
      · subst mangled
        rw [Finmap.lookup_insert] at found
        exact ⟨found, Or.inl (by decide)⟩
      · rw [Finmap.lookup_insert_of_ne _ mangled] at found
        simp at found

/-- The volume on the SAN has its own multipaths; the local one is attributed
the same. -/
theorem matched_mpaths_other_volume :
    ¬∀ (volumes : List Volume) (mpathMap : HashMap String (Finset String)),
      DistinctVolumes volumes → MapOf volumes mpathMap → ∀ volume ∈ volumes,
        matchedMpaths mpathMap volume.storage = volume.mpaths := by
  intro attributed
  have nothing := attributed _ _ distinct_local_san map_of_local_san localVolume (by simp)
  revert nothing
  decide

theorem matched_mpaths_own_or_legacy_both :
    matchedMpaths sanMap sanVolume.storage = some {"mpatha"} ∧
      ¬LegacyFree [localVolume, sanVolume] localVolume ∧
      ∃ other ∈ [localVolume, sanVolume], other.mpaths = some {"mpatha"} ∧
        (other.dmName = localVolume.legacyName ∨ other.kernelName = localVolume.legacyName) := by
  have own := (matched_mpaths_own_or_legacy _ _ distinct_local_san map_of_local_san sanVolume
    (by simp)).2.1
  obtain ⟨exactly, -, legacy⟩ := matched_mpaths_own_or_legacy _ _ distinct_local_san
    map_of_local_san localVolume (by simp)
  refine ⟨own {"mpatha"} rfl, fun free => ?_, ((legacy rfl).1 {"mpatha"}).mp (by decide)⟩
  have nothing := exactly.mpr fun _ => free
  revert nothing
  decide

end Examples

end Attribution

end PveSanFenced.VolumeNames
