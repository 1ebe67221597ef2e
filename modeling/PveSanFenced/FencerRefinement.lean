import PveSanFenced.FencerHistory

/-!
# The fencer refines a history-based specification

The specification speaks of calls only: which maps a cycle monitors, which of
them are dead in view of all earlier cycles, and when a cycle fails. It has no
state. multipathd never reports two maps that could be taken for each other,
and under that assumption each of the fencer's four pieces of state is read
off the history.
-/

namespace PveSanFenced.FencerRefinement

open PveSanFenced.FencerCycle
open PveSanFenced.FencerHistory
open PveSanFenced.FencerModel
open PveSanFenced.Library.Fixed
open PveSanFenced.Library.Runs
open PveSanFenced.Library.Text
open PveSanFenced.Multipath
open PveSanFenced.Status

set_option autoImplicit false

section OneAnswer

/-- No name or uuid of one map is the name or uuid of the other. -/
def Unconfusable (left right : MultipathMap) : Prop :=
  left.name ≠ right.name ∧ left.uuid ≠ right.uuid ∧
    left.name ≠ right.uuid ∧ left.uuid ≠ right.name

/-- What multipathd guarantees of one answer. -/
def WellFormed (maps : List MultipathMap) : Prop := maps.Pairwise Unconfusable

instance (maps : List MultipathMap) : Decidable (WellFormed maps) :=
  inferInstanceAs (Decidable (List.Pairwise
    (fun left right : MultipathMap => left.name ≠ right.name ∧ left.uuid ≠ right.uuid ∧
      left.name ≠ right.uuid ∧ left.uuid ≠ right.name) maps))

instance : Std.Symm Unconfusable where
  symm := by
    rintro left right ⟨names, uuids, nameUuid, uuidName⟩
    exact ⟨names.symm, uuids.symm, uuidName.symm, nameUuid.symm⟩

theorem unique_answer {maps : List MultipathMap} (wellFormed : WellFormed maps) {part : String}
    {left right : MultipathMap} (leftMember : left ∈ maps) (rightMember : right ∈ maps)
    (leftAnswers : answersTo part left = true) (rightAnswers : answersTo part right = true) :
    left = right := by
  by_contra different
  obtain ⟨names, uuids, nameUuid, uuidName⟩ :=
    wellFormed.forall leftMember rightMember different
  simp only [answersTo, Bool.or_eq_true, beq_iff_eq] at leftAnswers rightAnswers
  rcases leftAnswers with rfl | rfl <;> rcases rightAnswers with same | same
  · exact names same.symm
  · exact nameUuid same.symm
  · exact uuidName same.symm
  · exact uuids same.symm

theorem unique_name {maps : List MultipathMap} (wellFormed : WellFormed maps)
    {left right : MultipathMap} (leftMember : left ∈ maps) (rightMember : right ∈ maps)
    (same : left.name = right.name) : left = right := by
  have leftAnswers : answersTo right.name left = true := by simp [answersTo, same]
  have rightAnswers : answersTo right.name right = true := by simp [answersTo]
  exact unique_answer wellFormed leftMember rightMember leftAnswers rightAnswers

private theorem find_unique {maps : List MultipathMap} {test : MultipathMap → Bool}
    {map : MultipathMap} (member : map ∈ maps) (passes : test map = true)
    (unique : ∀ other ∈ maps, test other = true → other = map) :
    maps.find? test = some map := by
  rcases found : maps.find? test with _ | other
  · exact absurd passes (List.find?_eq_none.mp found map member)
  · rw [unique other (List.mem_of_find?_eq_some found) (List.find?_some found)]

theorem find_answer_iff {maps : List MultipathMap} (wellFormed : WellFormed maps)
    (part : String) (map : MultipathMap) :
    maps.find? (answersTo part) = some map ↔ map ∈ maps ∧ answersTo part map = true := by
  constructor
  · intro found
    exact ⟨List.mem_of_find?_eq_some found, List.find?_some found⟩
  · rintro ⟨member, answers⟩
    exact find_unique member answers fun other otherMember otherAnswers =>
      unique_answer wellFormed otherMember member otherAnswers answers

theorem last_named_of_mem {maps : List MultipathMap} (wellFormed : WellFormed maps)
    {map : MultipathMap} (member : map ∈ maps) : lastNamed maps map.name = some map := by
  apply find_unique (List.mem_reverse.mpr member) (beq_self_eq_true map.name)
  intro other otherMember same
  exact unique_name wellFormed (List.mem_reverse.mp otherMember) member (beq_iff_eq.mp same)

theorem loses_paths_iff {maps : List MultipathMap} (wellFormed : WellFormed maps)
    (seen : Prop) (name : String) :
    LosesPaths seen maps name ↔ seen ∧ ∃ map ∈ maps, map.name = name ∧ totalPaths map = 0 := by
  constructor
  · rintro ⟨before, map, after, rfl, named, empty, shown | ⟨earlier, member, sameName, -⟩⟩
    · exact ⟨shown, map, by simp, named, empty⟩
    · have apart := (List.pairwise_append.mp wellFormed).2.2 earlier member map (by simp)
      exact absurd (sameName.trans named.symm) apart.1
  · rintro ⟨shown, map, member, named, empty⟩
    obtain ⟨before, after, split⟩ := List.append_of_mem member
    exact ⟨before, map, after, split, named, empty, Or.inl shown⟩

end OneAnswer

section Specification

variable (targetWwids : Finset String) (calls : ℕ → Call)

def Names (lun : String) (map : MultipathMap) : Prop :=
  ('+' ∉ lun.toList ∧ (lun = map.name ∨ lun = map.uuid)) ∨
    ('+' ∈ lun.toList ∧ ∃ part ∈ splitChar '+' lun, part = map.name ∨ part = map.uuid)

def Monitored (index : ℕ) (map : MultipathMap) : Prop :=
  map ∈ (calls index).maps ∧ (∃ lun ∈ (calls index).activeLuns, Names lun map) ∧
    (targetWwids = ∅ ∨ map.name ∈ targetWwids ∨ map.uuid ∈ targetWwids)

/-- A map of this name was monitored without a gap from a cycle in which it
listed a path, through a later one in which it listed none, to this one. -/
def LatchedIn (index : ℕ) (name : String) : Prop :=
  ∃ first second, first < second ∧ second ≤ index ∧
    (∀ step, first ≤ step → step ≤ index →
      ∃ map, Monitored targetWwids calls step map ∧ map.name = name) ∧
    (∃ map, Monitored targetWwids calls first map ∧ map.name = name ∧ 0 < totalPaths map) ∧
    (∃ map, Monitored targetWwids calls second map ∧ map.name = name ∧ totalPaths map = 0)

def DeadIn (index : ℕ) (map : MultipathMap) : Prop :=
  (isMapDead map (calls index).tracker).1 = true ∨ LatchedIn targetWwids calls index map.name

def Fails (index : ℕ) : Prop :=
  (∃ map, Monitored targetWwids calls index map) ∧
    ((∃ lun ∈ (calls index).activeLuns, '+' ∈ lun.toList ∧
        ∃ map, Monitored targetWwids calls index map ∧ Names lun map ∧
          DeadIn targetWwids calls index map) ∨
      ∀ lun ∈ (calls index).activeLuns,
        ∃ map, Monitored targetWwids calls index map ∧ Names lun map ∧
          DeadIn targetWwids calls index map)

/-- A path of this name was listed in an earlier cycle or this one, and the
name has been monitored since. -/
def SeenIn (index : ℕ) (name : String) : Prop :=
  ∃ first, first ≤ index ∧
    (∀ step, first ≤ step → step ≤ index →
      ∃ map, Monitored targetWwids calls step map ∧ map.name = name) ∧
    ∃ map, Monitored targetWwids calls first map ∧ map.name = name ∧ 0 < totalPaths map

def LastFail (index length : ℕ) : Prop :=
  length ≤ index + 1 ∧
    ∀ step, step ≤ index → index < step + length → Fails targetWwids calls step

/-- Exactly the last `length` cycles failed: the one before them did not, or
there was none. -/
def TrailingFailures (index length : ℕ) : Prop :=
  LastFail targetWwids calls index length ∧
    (length ≤ index → ¬Fails targetWwids calls (index - length))

theorem names_iff (lun : String) (map : MultipathMap) :
    lunNames lun map = true ↔ Names lun map := by
  unfold lunNames Names
  by_cases spanned : '+' ∈ lun.toList
  · rw [if_pos ((contains_char_iff _ _).mpr spanned)]
    simp only [spanned, not_true_eq_false, false_and, false_or, true_and, Bool.or_eq_true,
      List.elem_eq_mem, decide_eq_true_eq]
    constructor
    · rintro (named | identified)
      · exact ⟨map.name, named, Or.inl rfl⟩
      · exact ⟨map.uuid, identified, Or.inr rfl⟩
    · rintro ⟨part, member, rfl | rfl⟩
      · exact Or.inl member
      · exact Or.inr member
  · rw [if_neg (mt (contains_char_iff _ _).mp spanned)]
    simp [spanned]

theorem mem_monitored_at_iff (index : ℕ) (map : MultipathMap) :
    map ∈ monitoredAt targetWwids calls index ↔ Monitored targetWwids calls index map := by
  rw [monitoredAt, mem_monitored_maps, Monitored]
  simp only [names_iff]
  apply and_congr_right
  intro _
  apply and_congr_right
  intro _
  unfold isTargeted
  by_cases all : targetWwids = ∅
  · simp [all]
  · simp [all, or_comm]

theorem monitors_at_iff (name : String) (index : ℕ) :
    MonitorsAt targetWwids calls name index ↔
      ∃ map, Monitored targetWwids calls index map ∧ map.name = name := by
  simp only [← mem_monitored_at_iff]
  rfl

end Specification

section Refinement

variable {targetWwids : Finset String} {calls : ℕ → Call}

theorem monitored_well_formed {index : ℕ} (wellFormed : WellFormed (calls index).maps) :
    WellFormed (monitoredAt targetWwids calls index) :=
  wellFormed.sublist List.filter_sublist

theorem latched_iff {index : ℕ} (wellFormed : ∀ step, step ≤ index → WellFormed (calls step).maps)
    (name : String) :
    Latched targetWwids calls name (index + 1) ↔ LatchedIn targetWwids calls index name := by
  constructor
  · rintro ⟨second, before, loses, kept⟩
    obtain ⟨⟨first, earlier, ⟨shown, shownMember, shownNamed, lists⟩, between⟩,
      empty, emptyMember, emptyNamed, none⟩ :=
      (loses_paths_iff (monitored_well_formed (wellFormed second (by omega))) _ _).mp loses
    refine ⟨first, second, earlier, by omega, fun step lower upper => ?_,
      ⟨shown, (mem_monitored_at_iff ..).mp shownMember, shownNamed, lists⟩,
      ⟨empty, (mem_monitored_at_iff ..).mp emptyMember, emptyNamed, none⟩⟩
    rw [← monitors_at_iff]
    rcases Nat.lt_or_ge step second with inside | outside
    · exact between step lower inside
    · exact kept step outside (by omega)
  · rintro ⟨first, second, earlier, within, kept, ⟨shown, shownMonitored, shownNamed, lists⟩,
      ⟨empty, emptyMonitored, emptyNamed, none⟩⟩
    refine ⟨second, by omega, ?_, fun step lower upper =>
      (monitors_at_iff ..).mpr (kept step (by omega) (by omega))⟩
    refine (loses_paths_iff (monitored_well_formed (wellFormed second within)) _ _).mpr
      ⟨⟨first, earlier, ⟨shown, (mem_monitored_at_iff ..).mpr shownMonitored, shownNamed,
        lists⟩, fun step lower upper => (monitors_at_iff ..).mpr (kept step lower (by omega))⟩,
        empty, (mem_monitored_at_iff ..).mpr emptyMonitored, emptyNamed, none⟩

variable (maxFailures : UInt64) (targetWwids) {index : ℕ}

theorem counted_dead_iff_dead_in
    (wellFormed : ∀ step, step ≤ index → WellFormed (calls step).maps) {map : MultipathMap}
    (monitored : Monitored targetWwids calls index map) :
    CountedDead (fencerAt maxFailures targetWwids calls index)
        (monitoredAt targetWwids calls index) map.name ↔ DeadIn targetWwids calls index map := by
  have distinct : WellFormed (monitoredAt targetWwids calls index) :=
    monitored_well_formed (wellFormed index (Nat.le_refl index))
  have found := last_named_of_mem distinct ((mem_monitored_at_iff ..).mpr monitored)
  rw [counted_dead_at_iff, found, latched_iff wellFormed, DeadIn, is_map_dead_iff]
  simp

theorem lun_failed_iff (wellFormed : ∀ step, step ≤ index → WellFormed (calls step).maps)
    (lun : String) :
    LunFailed (fencerAt maxFailures targetWwids calls index)
        (monitoredAt targetWwids calls index) lun ↔
      ∃ map, Monitored targetWwids calls index map ∧ Names lun map ∧
        DeadIn targetWwids calls index map := by
  have distinct : WellFormed (monitoredAt targetWwids calls index) :=
    monitored_well_formed (wellFormed index (Nat.le_refl index))
  simp only [LunFailed, find_answer_iff distinct, mem_monitored_at_iff, ← names_iff,
    lun_names_iff]
  constructor
  · rintro ⟨part, member, map, ⟨monitored, answers⟩, dead⟩
    exact ⟨map, monitored, ⟨part, member, answers⟩,
      (counted_dead_iff_dead_in targetWwids maxFailures wellFormed monitored).mp dead⟩
  · rintro ⟨map, monitored, ⟨part, member, answers⟩, dead⟩
    exact ⟨part, member, map, ⟨monitored, answers⟩,
      (counted_dead_iff_dead_in targetWwids maxFailures wellFormed monitored).mpr dead⟩

theorem fails_at_iff (wellFormed : ∀ step, step ≤ index → WellFormed (calls step).maps) :
    FailsAt maxFailures targetWwids calls index ↔ Fails targetWwids calls index := by
  have failed := lun_failed_iff targetWwids maxFailures wellFormed
  rw [fails_at_iff_lun_failed, Fails]
  simp only [contains_char_iff, failed]
  apply and_congr_left
  intro _
  simp only [← mem_monitored_at_iff]
  constructor
  · exact List.exists_mem_of_ne_nil _
  · intro monitored
    obtain ⟨map, member⟩ := monitored
    exact List.ne_nil_of_mem member

theorem le_streak_iff_last_fail
    (wellFormed : ∀ step, step ≤ index → WellFormed (calls step).maps) (length : ℕ) :
    length ≤ streak (FailsAt maxFailures targetWwids calls) (index + 1) ↔
      LastFail targetWwids calls index length := by
  rw [le_streak_iff, LastFail]
  apply and_congr_right
  intro fits
  apply forall_congr'
  intro step
  rw [Nat.lt_succ_iff, Nat.add_one_le_iff]
  apply forall_congr'
  intro within
  apply forall_congr'
  intro recent
  exact fails_at_iff targetWwids maxFailures fun earlier before => wellFormed earlier (by omega)

theorem trailing_failures_streak
    (wellFormed : ∀ step, step ≤ index → WellFormed (calls step).maps) :
    TrailingFailures targetWwids calls index
      (streak (FailsAt maxFailures targetWwids calls) (index + 1)) := by
  have attained := (le_streak_iff_last_fail targetWwids maxFailures wellFormed _).mp (Nat.le_refl _)
  refine ⟨attained, fun shorter fails => ?_⟩
  have extended : LastFail targetWwids calls index
      (streak (FailsAt maxFailures targetWwids calls) (index + 1) + 1) := by
    refine ⟨by omega, fun step within recent => ?_⟩
    rcases Nat.lt_or_ge index
      (step + streak (FailsAt maxFailures targetWwids calls) (index + 1)) with inside | outside
    · exact attained.2 step within inside
    · obtain rfl : step =
        index - streak (FailsAt maxFailures targetWwids calls) (index + 1) := by omega
      exact fails
  have longer := (le_streak_iff_last_fail targetWwids maxFailures wellFormed _).mpr extended
  omega

theorem shown_iff_seen_in (name : String) :
    Shown targetWwids calls name (index + 1) ↔ SeenIn targetWwids calls index name := by
  simp only [Shown, Since, SeenIn, monitors_at_iff, ListsPaths, mem_monitored_at_iff,
    Nat.lt_succ_iff]
  exact exists_congr fun first => and_congr_right fun _ => and_comm

theorem previous_state_iff (wellFormed : ∀ step, step ≤ index → WellFormed (calls step).maps)
    (name : String) (dead : Bool) :
    (fencerAt maxFailures targetWwids calls (index + 1)).previousMapStates.lookup name =
        some dead ↔
      ∃ map, Monitored targetWwids calls index map ∧ map.name = name ∧
        (dead = true ↔ DeadIn targetWwids calls index map) := by
  have kept := previous_states_kept maxFailures targetWwids calls name index
  rw [monitors_at_iff] at kept
  have counted : ∀ map, Monitored targetWwids calls index map → map.name = name →
      ((fencerAt maxFailures targetWwids calls (index + 1)).previousMapStates.lookup name =
        some true ↔ DeadIn targetWwids calls index map) := by
    intro map monitored named
    rw [previous_states_at, ← named,
      counted_dead_iff_dead_in targetWwids maxFailures wellFormed monitored]
  constructor
  · intro found
    obtain ⟨map, monitored, named⟩ := kept.mp (by rw [found]; rfl)
    refine ⟨map, monitored, named, ?_⟩
    rw [← counted map monitored named, found, Option.some.injEq]
  · intro shown
    obtain ⟨map, monitored, named, same⟩ := shown
    obtain ⟨state, found⟩ := Option.isSome_iff_exists.mp (kept.mpr ⟨map, monitored, named⟩)
    have agree := counted map monitored named
    rw [found, Option.some.injEq, ← same, Bool.eq_iff_iff.symm] at agree
    rw [found, agree]

/-- The fencer decides by the history alone: after any calls, its answer, its
counter, both of its sets and the states it keeps are what the specification
reads off the calls. -/
theorem fencer_refines_history (maxFailures : UInt64) (targetWwids : Finset String)
    (calls : ℕ → Call) (index : ℕ) (positive : maxFailures ≠ 0)
    (wellFormed : ∀ step, step ≤ index → WellFormed (calls step).maps) :
    (fencesAt maxFailures targetWwids calls index = true ↔
        LastFail targetWwids calls index maxFailures.toNat) ∧
      (∃ length, TrailingFailures targetWwids calls index length ∧
        (fencerAt maxFailures targetWwids calls (index + 1)).consecutiveFailures.toNat =
          min length maxWord) ∧
      (∀ name, name ∈ (fencerAt maxFailures targetWwids calls (index + 1)).hadWorkingPaths ↔
        SeenIn targetWwids calls index name) ∧
      (∀ name,
        name ∈ (fencerAt maxFailures targetWwids calls (index + 1)).permanentlyBrokenLuns ↔
          LatchedIn targetWwids calls index name) ∧
      ∀ name dead,
        (fencerAt maxFailures targetWwids calls (index + 1)).previousMapStates.lookup name =
            some dead ↔
          ∃ map, Monitored targetWwids calls index map ∧ map.name = name ∧
            (dead = true ↔ DeadIn targetWwids calls index map) := by
  refine ⟨?_, ⟨_, trailing_failures_streak targetWwids maxFailures wellFormed,
    consecutive_failures_at maxFailures targetWwids calls (index + 1)⟩, fun name => ?_,
    fun name => ?_, previous_state_iff targetWwids maxFailures wellFormed⟩
  · rw [fences_at_iff maxFailures targetWwids calls positive,
      le_streak_iff_last_fail targetWwids maxFailures wellFormed]
  · rw [had_working_paths_at, shown_iff_seen_in]
  · rw [permanently_broken_luns_at, latched_iff wellFormed]

end Refinement

section DisappearingPaths

def disappearing : ℕ → Call
  | 0 => {
      tracker := StatusTracker.new
      maps := [⟨"mpatha", "36001", some [⟨some "active", some [⟨some "active"⟩]⟩], none, none⟩]
      activeLuns := {"mpatha"} }
  | _ => {
      tracker := StatusTracker.new
      maps := [⟨"mpatha", "36001", some [], none, none⟩]
      activeLuns := {"mpatha"} }

/-- The run meets the assumptions and ends in a decision after two cycles
without paths. -/
theorem fencer_refines_history_disappearing :
    LastFail ∅ disappearing 2 2 ∧ LatchedIn ∅ disappearing 2 "mpatha" := by
  have wellFormed : ∀ step, step ≤ 2 → WellFormed (disappearing step).maps := by decide
  have refines := fencer_refines_history 2 ∅ disappearing 2 (by decide) wellFormed
  exact ⟨refines.1.mp (by decide +kernel),
    (refines.2.2.2.1 "mpatha").mp (by decide +kernel)⟩

end DisappearingPaths

end PveSanFenced.FencerRefinement
