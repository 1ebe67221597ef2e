import PveSanFenced.Status
import PveSanFenced.Library.Fixed
import Mathlib.Data.Multiset.Filter
import Mathlib.Order.Lattice

/-!
# The status file, written and read

`write_status_file` condenses the issue map to one line, walking the map in
whatever order it iterates; `--status` reads that line back and turns it into
an exit code. What the file says is a function of the map alone, so it does
not matter how the map came about.
-/

namespace PveSanFenced.StatusFile

open PveSanFenced.Library.Collections
open PveSanFenced.Library.Fixed
open PveSanFenced.Library.Text
open PveSanFenced.Status

set_option autoImplicit false

section Levels

def severity : StatusLevel → ℕ
  | .ok => 0
  | .warning => 1
  | .critical => 2

theorem severity_injective : Function.Injective severity := by
  intro level other same
  cases level <;> cases other <;> first | rfl | cases same

instance : LinearOrder StatusLevel := LinearOrder.lift' severity severity_injective

/-- The `Display` form of a level. -/
def display : StatusLevel → String
  | .ok => "OK"
  | .warning => "WARNING"
  | .critical => "CRITICAL"

def exitCode : StatusLevel → ℕ
  | .ok => 0
  | .warning => 1
  | .critical => 2

end Levels

section Write

abbrev Issue := Sigma fun _ : String => StatusLevel × String

def issueLevel (issue : Issue) : StatusLevel := issue.2.1

def issueMessage (issue : Issue) : String := issue.2.2

/-- The line of the whole map, for one order of its iteration. -/
def aggregate (issues : List Issue) : StatusLevel × String :=
  if issues.isEmpty then (.ok, "Daemon is running normally")
  else
    let maxLevel := (issues.map issueLevel).max?.getD .ok
    let msgs := ((issues.filter fun issue => issueLevel issue = maxLevel).map
      issueMessage).insertionSort (· ≤ ·)
    (maxLevel, "; ".intercalate msgs)

/-- What the writer thread puts into the file. -/
def fileLine (status : StatusLevel × String) : String :=
  display status.1 ++ " - " ++ status.2 ++ "\n"

def content (issues : List Issue) : String := fileLine (aggregate issues)

theorem max_level_perm {issues issues' : List Issue} (permuted : issues.Perm issues') :
    (issues.map issueLevel).max? = (issues'.map issueLevel).max? := by
  have levels := permuted.map issueLevel
  cases found : (issues.map issueLevel).max? with
  | none =>
      rw [List.max?_eq_none_iff] at found
      rw [found] at levels
      rw [List.nil_perm.mp levels]
      rfl
  | some top =>
      rw [List.max?_eq_some_iff] at found
      symm
      rw [List.max?_eq_some_iff]
      constructor
      · exact levels.mem_iff.mp found.1
      · intro level member
        exact found.2 level (levels.mem_iff.mpr member)

theorem aggregate_perm {issues issues' : List Issue} (permuted : issues.Perm issues') :
    aggregate issues = aggregate issues' := by
  have empty : issues.isEmpty = issues'.isEmpty := by
    rw [Bool.eq_iff_iff, List.isEmpty_iff, List.isEmpty_iff, ← List.length_eq_zero_iff,
      permuted.length_eq, List.length_eq_zero_iff]
  have sameMessages : ∀ level, ((issues.filter fun issue => issueLevel issue = level).map
      issueMessage).insertionSort (· ≤ ·) =
        ((issues'.filter fun issue => issueLevel issue = level).map
          issueMessage).insertionSort (· ≤ ·) := by
    intro level
    have messages := (permuted.filter fun issue => issueLevel issue = level).map issueMessage
    apply List.Perm.eq_of_pairwise' (List.pairwise_insertionSort _ _)
      (List.pairwise_insertionSort _ _)
    exact (List.perm_insertionSort _ _).trans (messages.trans (List.perm_insertionSort _ _).symm)
  rw [aggregate, aggregate, empty, max_level_perm permuted]
  simp only [sameMessages]

/-- The content for a map: any order of its iteration gives it. -/
def mapContent (tracker : StatusTracker) : String :=
  Quotient.liftOn tracker.activeIssues.entries content fun issues issues' permuted => by
    rw [content, content, aggregate_perm permuted]

def Iterates (issues : List Issue) (tracker : StatusTracker) : Prop :=
  (issues : Multiset Issue) = tracker.activeIssues.entries

theorem content_of_iterates {issues : List Issue} {tracker : StatusTracker}
    (iterates : Iterates issues tracker) : content issues = mapContent tracker := by
  unfold mapContent
  rw [← iterates]
  rfl

theorem mem_of_iterates {issues : List Issue} {tracker : StatusTracker}
    (iterates : Iterates issues tracker) (key : String) (level : StatusLevel) (message : String) :
    (⟨key, level, message⟩ : Issue) ∈ issues ↔ tracker.issue key = some (level, message) := by
  rw [StatusTracker.issue, ← mem_entries_iff, ← iterates, Multiset.mem_coe]

/-- The highest level of the current issues; `ok` when there are none. -/
structure Highest (tracker : StatusTracker) (level : StatusLevel) : Prop where
  bound : ∀ key other message, tracker.issue key = some (other, message) → other ≤ level
  reached : level = .ok ∨ ∃ key message, tracker.issue key = some (level, message)

/-- The messages of the issues at one level, each as often as it is recorded. -/
def messagesAt (tracker : StatusTracker) (level : StatusLevel) : Multiset String :=
  (tracker.activeIssues.entries.filter fun issue => issueLevel issue = level).map issueMessage

/-- The text behind the level: the sorted messages at that level, or a fixed
sentence when nothing is recorded. -/
def Describes (tracker : StatusTracker) (level : StatusLevel) (text : String) : Prop :=
  (tracker.activeIssues = ∅ ∧ text = "Daemon is running normally") ∨
    (tracker.activeIssues ≠ ∅ ∧ ∃ messages : List String,
      (messages : Multiset String) = messagesAt tracker level ∧ messages.Pairwise (· ≤ ·) ∧
        text = "; ".intercalate messages)

theorem iterates_nil_iff {issues : List Issue} {tracker : StatusTracker}
    (iterates : Iterates issues tracker) : issues = [] ↔ tracker.activeIssues = ∅ := by
  have empty : (∅ : Finmap fun _ : String => StatusLevel × String).entries = 0 := rfl
  rw [← Finmap.ext_iff', ← iterates, empty, Multiset.coe_eq_zero]

theorem aggregate_filled {issues : List Issue} (some : issues ≠ []) :
    ∃ top, top ∈ issues.map issueLevel ∧ (∀ level ∈ issues.map issueLevel, level ≤ top) ∧
      aggregate issues = (top, "; ".intercalate (((issues.filter fun issue =>
        issueLevel issue = top).map issueMessage).insertionSort (· ≤ ·))) := by
  cases found : (issues.map issueLevel).max? with
  | none =>
      rw [List.max?_eq_none_iff, List.map_eq_nil_iff] at found
      exact absurd found some
  | some top =>
      obtain ⟨member, bound⟩ := List.max?_eq_some_iff.mp found
      refine ⟨top, member, bound, ?_⟩
      rw [aggregate, if_neg (by simpa using some), found]
      rfl

theorem aggregate_highest {issues : List Issue} {tracker : StatusTracker}
    (iterates : Iterates issues tracker) : Highest tracker (aggregate issues).1 := by
  by_cases empty : issues = []
  · subst empty
    refine ⟨?_, Or.inl rfl⟩
    intro key level message recorded
    exact absurd ((mem_of_iterates iterates key level message).mpr recorded) (by simp)
  · obtain ⟨top, member, bound, whole⟩ := aggregate_filled empty
    rw [whole]
    constructor
    · intro key level message recorded
      exact bound level (List.mem_map_of_mem
        ((mem_of_iterates iterates key level message).mpr recorded))
    · obtain ⟨⟨key, level, message⟩, issueMember, rfl⟩ := List.mem_map.mp member
      exact Or.inr ⟨key, message, (mem_of_iterates iterates key level message).mp issueMember⟩

theorem aggregate_describes {issues : List Issue} {tracker : StatusTracker}
    (iterates : Iterates issues tracker) :
    Describes tracker (aggregate issues).1 (aggregate issues).2 := by
  have none := iterates_nil_iff iterates
  by_cases empty : issues = []
  · exact Or.inl ⟨none.mp empty, by rw [empty]; rfl⟩
  · obtain ⟨top, -, -, whole⟩ := aggregate_filled empty
    rw [whole]
    refine Or.inr ⟨fun absent => empty (none.mpr absent), _, ?_,
      List.pairwise_insertionSort _ _, rfl⟩
    rw [messagesAt, ← iterates, Multiset.filter_coe, Multiset.map_coe, Multiset.coe_eq_coe]
    exact List.perm_insertionSort _ _

end Write

section Read

/-- What the file system answers about the status file: the seconds since its
modification where they can be told, and what reading it gives. -/
structure ReadFile where
  elapsedSecs : Option ℕ
  content : Except String String

/-- The age from which on the file counts as outdated. -/
def threshold (mode : Overflow) (pollInterval : UInt64) : Option ℕ :=
  (mulWord mode 3 pollInterval).map fun word => max 30 word.toNat

/-- The branch on the trimmed content. -/
def readLine (trimmed : String) : String × ℕ :=
  if trimmed.isEmpty then ("UNKNOWN - Status file is empty", 3)
  else if startsWith trimmed "OK -" then (trimmed, 0)
  else if startsWith trimmed "WARNING -" then (trimmed, 1)
  else if startsWith trimmed "CRITICAL -" then (trimmed, 2)
  else ("UNKNOWN - Badly formatted status file: " ++ trimmed, 3)

def readStatus (path : String) : Except String String → String × ℕ
  | .ok content => readLine (trim content)
  | .error e => ("UNKNOWN - Failed to read status file '" ++ path ++ "': " ++ e, 3)

/-- `--status`: the line printed and the exit code, or a panic. -/
def statusBranch (mode : Overflow) (pollInterval : UInt64) (path : String) (file : ReadFile) :
    Option (String × ℕ) :=
  match file.elapsedSecs with
  | some elapsed => do
      let limit ← threshold mode pollInterval
      if limit < elapsed then
        some ("UNKNOWN - Status file is outdated (last modified " ++ toString elapsed ++
          " seconds ago)", 3)
      else some (readStatus path file.content)
  | none => some (readStatus path file.content)

/-- The file is fresh enough to be read. -/
def Fresh (mode : Overflow) (pollInterval : UInt64) (file : ReadFile) : Prop :=
  ∀ elapsed, file.elapsedSecs = some elapsed →
    ∃ limit, threshold mode pollInterval = some limit ∧ elapsed ≤ limit

theorem status_branch_fresh {mode : Overflow} {pollInterval : UInt64} {file : ReadFile}
    (fresh : Fresh mode pollInterval file) (path : String) :
    statusBranch mode pollInterval path file = some (readStatus path file.content) := by
  unfold statusBranch
  cases known : file.elapsedSecs with
  | none => rfl
  | some elapsed =>
      obtain ⟨limit, computed, young⟩ := fresh elapsed known
      simp only [computed, Option.bind_eq_bind, Option.bind_some]
      rw [if_neg (Nat.not_lt.mpr young)]

/-- Some line comes with a code where the answer has that code. -/
theorem line_told_iff (answer : String × ℕ) (code : ℕ) :
    (∃ line, some answer = some (line, code)) ↔ answer.2 = code := by
  constructor
  · intro told
    obtain ⟨line, same⟩ := told
    rw [Option.some.inj same]
  · intro same
    exact ⟨answer.1, congrArg some (Prod.ext rfl same)⟩

theorem level_word_kept (level : StatusLevel) (text : String) :
    startsWith (trim (display level ++ " - " ++ text)) (display level ++ " -") = true := by
  have split : display level ++ " - " ++ text = display level ++ " -" ++ (" " ++ text) := by
    have hyphen : (" - " : String) = " -" ++ " " := rfl
    rw [hyphen, String.append_assoc, String.append_assoc, String.append_assoc]
  rw [split]
  cases level with
  | ok => exact starts_with_trim 'O' '-' ['K', ' '] _ rfl rfl
  | warning => exact starts_with_trim 'W' '-' ['A', 'R', 'N', 'I', 'N', 'G', ' '] _ rfl rfl
  | critical => exact starts_with_trim 'C' '-' ['R', 'I', 'T', 'I', 'C', 'A', 'L', ' '] _ rfl rfl

theorem read_line_of_level_word {level : StatusLevel} {line : String}
    (kept : startsWith line (display level ++ " -") = true) :
    readLine line = (line, exitCode level) := by
  have filled : line.isEmpty = false := is_empty_of_starts_with kept (by cases level <;> decide)
  have other : ∀ word, startsWith (display level ++ " -") word = false →
      word.toList.length ≤ (display level ++ " -").toList.length →
        startsWith line word = false := by
    intro word apart shorter
    rw [Bool.eq_false_iff]
    intro starts
    rw [starts_with_of_starts_with kept starts shorter] at apart
    cases apart
  rw [readLine, filled, if_neg Bool.false_ne_true]
  cases level with
  | ok =>
      have word : startsWith line "OK -" = true := kept
      rw [word, if_pos rfl]
      rfl
  | warning =>
      have word : startsWith line "WARNING -" = true := kept
      rw [other "OK -" (by decide) (by decide), word, if_neg Bool.false_ne_true, if_pos rfl]
      rfl
  | critical =>
      have word : startsWith line "CRITICAL -" = true := kept
      rw [other "OK -" (by decide) (by decide), other "WARNING -" (by decide) (by decide), word,
        if_neg Bool.false_ne_true, if_neg Bool.false_ne_true, if_pos rfl]
      rfl

theorem read_status_line (path : String) (level : StatusLevel) (text : String) :
    readStatus path (.ok (display level ++ " - " ++ text ++ "\n")) =
      (trim (display level ++ " - " ++ text), exitCode level) :=
  calc readStatus path (.ok (display level ++ " - " ++ text ++ "\n"))
      = readLine (trim (display level ++ " - " ++ text ++ "\n")) := rfl
    _ = readLine (trim (display level ++ " - " ++ text)) :=
      congrArg readLine (trim_append_newline _)
    _ = (trim (display level ++ " - " ++ text), exitCode level) :=
      read_line_of_level_word (level_word_kept level text)

end Read

section Calls

/-- The public calls that may write the file. -/
inductive Call where
  | setIssue (key : String) (level : StatusLevel) (message : String)
  | clearIssue (key : String)
  | clearIssuesWithPrefix (start : String)
  | touch

/-- The mutation a call makes under the write lock. -/
def mutate (tracker : StatusTracker) : Call → StatusTracker
  | .setIssue key level message => tracker.setIssue key level message
  | .clearIssue key => tracker.clearIssue key
  | .clearIssuesWithPrefix start => tracker.clearIssuesWithPrefix start
  | .touch => tracker

/-- Whether the call goes on to write the file. -/
def writes (tracker : StatusTracker) : Call → Bool
  | .setIssue _ _ _ => true
  | .clearIssue key => (tracker.issue key).isSome
  | .clearIssuesWithPrefix start =>
      (tracker.clearIssuesWithPrefix start).activeIssues.entries.card ≠
        tracker.activeIssues.entries.card
  | .touch => true

theorem mutate_of_silent {tracker : StatusTracker} {call : Call}
    (silent : writes tracker call = false) : mutate tracker call = tracker := by
  cases call with
  | setIssue key level message => cases silent
  | touch => rfl
  | clearIssue key =>
      rw [writes, Option.isSome_eq_false_iff, Option.isNone_iff_eq_none] at silent
      apply congrArg StatusTracker.mk
      apply Finmap.ext_lookup
      intro other
      by_cases same : other = key
      · rw [same, Finmap.lookup_erase]
        exact silent.symm
      · exact Finmap.lookup_erase_ne same
  | clearIssuesWithPrefix start =>
      simp only [writes, ne_eq, decide_not, Bool.not_eq_false', decide_eq_true_eq] at silent
      apply congrArg StatusTracker.mk
      apply Finmap.ext
      exact Multiset.eq_of_le_of_card_le (Multiset.filter_le _ _) silent.ge

/-- Calls made one after the other, with the file as the last write left it.
A write may iterate over the map in any order. -/
inductive Written : List Call → StatusTracker → Option String → Prop
  | start : Written [] StatusTracker.new none
  | write {calls : List Call} {tracker : StatusTracker} {file : Option String} {call : Call}
      {issues : List Issue} : Written calls tracker file → writes tracker call = true →
        Iterates issues (mutate tracker call) →
          Written (calls ++ [call]) (mutate tracker call) (some (content issues))
  | silent {calls : List Call} {tracker : StatusTracker} {file : Option String} {call : Call} :
      Written calls tracker file → writes tracker call = false →
        Written (calls ++ [call]) (mutate tracker call) file

theorem written_tracker {calls : List Call} {tracker : StatusTracker} {file : Option String}
    (written : Written calls tracker file) : tracker = calls.foldl mutate StatusTracker.new := by
  induction written with
  | start => rfl
  | write before wrote iterates ih => rw [List.foldl_append, ← ih, List.foldl_cons, List.foldl_nil]
  | silent before kept ih => rw [List.foldl_append, ← ih, List.foldl_cons, List.foldl_nil]

theorem written_content {calls : List Call} {tracker : StatusTracker} {file : Option String}
    (written : Written calls tracker file) {text : String} (shown : file = some text) :
    text = mapContent tracker := by
  induction written with
  | start => cases shown
  | write before wrote iterates ih =>
      rw [← Option.some.inj shown, content_of_iterates iterates]
  | silent before kept ih =>
      rw [mutate_of_silent kept]
      exact ih shown

theorem exists_iteration (tracker : StatusTracker) : ∃ issues, Iterates issues tracker := by
  rcases tracker with ⟨entries, nodup⟩
  induction entries using Quotient.inductionOn with
  | _ issues => exact ⟨issues, rfl⟩

/-- What the daemon writes after any calls is what `--status` reports: the
highest level as the exit code and, behind the level word, the messages at
that level. How the map came about leaves no trace. -/
theorem written_status_read_back {calls : List Call} {tracker : StatusTracker} {text : String}
    (written : Written calls tracker (some text)) {mode : Overflow} {pollInterval : UInt64}
    {file : ReadFile} (fresh : Fresh mode pollInterval file) (holds : file.content = .ok text)
    (path : String) :
    (∀ calls' text', Written calls' tracker (some text') → text' = text) ∧
      ∃ level message, Highest tracker level ∧ Describes tracker level message ∧
        statusBranch mode pollInterval path file =
          some (trim (display level ++ " - " ++ message), exitCode level) := by
  have shown := written_content written rfl
  obtain ⟨issues, iterates⟩ := exists_iteration tracker
  constructor
  · intro calls' text' written'
    rw [written_content written' rfl, shown]
  · refine ⟨(aggregate issues).1, (aggregate issues).2, aggregate_highest iterates,
      aggregate_describes iterates, ?_⟩
    rw [status_branch_fresh fresh, holds, shown, ← content_of_iterates iterates]
    exact congrArg some (read_status_line path _ _)

private theorem written_once (key : String) (level : StatusLevel) (message : String) :
    Written [.setIssue key level message] (StatusTracker.new.setIssue key level message)
      (some (content [⟨key, level, message⟩])) := by
  apply Written.write Written.start rfl
  rfl

theorem written_status_read_back_awkward :
    ∃ level message,
      Highest (StatusTracker.new.setIssue "key" .critical " \nOK - fine") level ∧
        Describes (StatusTracker.new.setIssue "key" .critical " \nOK - fine") level message ∧
          statusBranch .panics 5 "status"
              ⟨some 7, .ok (content [⟨"key", .critical, " \nOK - fine"⟩])⟩ =
            some (trim (display level ++ " - " ++ message), exitCode level) := by
  have fresh : Fresh .panics 5 ⟨some 7, .ok (content [⟨"key", .critical, " \nOK - fine"⟩])⟩ := by
    intro elapsed known
    cases known
    exact ⟨30, rfl, by decide⟩
  exact (written_status_read_back (written_once "key" .critical " \nOK - fine") fresh rfl
    "status").2

/-- With no issue left the line is none of the messages. -/
theorem normal_line_is_no_message :
    Written [.setIssue "key" .warning "message", .clearIssue "key"] StatusTracker.new
        (some (content [])) ∧
      statusBranch .panics 5 "status" ⟨some 7, .ok (content [])⟩ =
        some ("OK - Daemon is running normally", 0) ∧
      ∀ messages : List String, (messages : Multiset String) = messagesAt StatusTracker.new .ok →
        trim (display .ok ++ " - " ++ "; ".intercalate messages) ≠
          "OK - Daemon is running normally" := by
  refine ⟨?_, by decide, ?_⟩
  · have cleared : mutate (StatusTracker.new.setIssue "key" .warning "message")
        (.clearIssue "key") = StatusTracker.new := by
      apply congrArg StatusTracker.mk
      apply Finmap.ext_lookup
      intro other
      by_cases same : other = "key"
      · rw [same]
        exact Finmap.lookup_erase _ _
      · exact (Finmap.lookup_erase_ne same).trans (Finmap.lookup_insert_of_ne _ same)
    have written := Written.write (written_once "key" .warning "message")
      (show writes _ (.clearIssue "key") = true from rfl) (show Iterates [] _ from rfl)
    rw [cleared] at written
    exact written
  · intro messages listed
    have none : messages = [] := (Multiset.coe_eq_zero messages).mp listed
    rw [none]
    decide

end Calls

end PveSanFenced.StatusFile
