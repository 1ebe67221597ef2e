import PveSanFenced.DaemonStatus
import PveSanFenced.Sysrq
import PveSanFenced.Library.Paths

/-!
# From the command line to the loops

`main` checks the path of the status file, answers `--status`, checks the
configuration and only then starts the two loops. A path that cannot work is
reported on the terminal alone; every later rejection is recorded as one
critical issue and written to the status file before the process exits.
-/

namespace PveSanFenced.Startup

open PveSanFenced.Daemon
open PveSanFenced.DaemonStatus
open PveSanFenced.Library.Fixed
open PveSanFenced.Library.Paths
open PveSanFenced.Library.Text
open PveSanFenced.Multipath
open PveSanFenced.Status
open PveSanFenced.StatusCalls
open PveSanFenced.StatusFile
open PveSanFenced.Sysrq

set_option autoImplicit false

section Model

structure Cli where
  pollInterval : UInt64
  discoveryInterval : UInt64
  maxFailures : UInt64
  targetWwids : List String
  socket : String
  nodeName : String
  pveshCommand : String
  testMode : Bool
  sysrqChar : String
  status : Bool
  statusFile : String
  debug : Bool
  discoveryMaxRetries : UInt64
  discoveryBackoffBase : UInt64
  discoveryBackoffMax : UInt64

/-- What the process finds: which variables are set, the directories, the
kernel's SysRq setting and an earlier status file. -/
structure Environment where
  testDataDir : Bool
  dryRun : Bool
  sysNodesDir : Option String
  isDir : String → Bool
  kernelSetting : Except String String
  statusFile : ReadFile

/-- The build and the two parsers that are not ours. -/
structure Build where
  overflow : Overflow
  fromStr : String → Option MultipathOutput
  maxResponseSize : Option ℕ
  regexNew : String → Option (String → Bool)

/-- The name when the command line gives none: the kernel's host name. -/
def getDefaultNodeName : Except String String → String
  | .ok s => if (trim s).isEmpty then "localhost" else trim s
  | .error _ => "localhost"

theorem default_node_name_filled (hostname : Except String String) :
    getDefaultNodeName hostname ≠ "" := by
  cases hostname with
  | error e => simp [getDefaultNodeName]
  | ok s =>
      rw [getDefaultNodeName]
      split_ifs with empty
      · decide
      · simpa using empty

inductive Outcome where
  /-- A message on the terminal and exit code 1, before anything is recorded. -/
  | refused (stderr : String)
  /-- The answer to `--status`, or a panic. -/
  | reported (answer : Option (String × ℕ))
  /-- Exit code 1, after the tracker with its one issue was flushed. -/
  | rejected (tracker : StatusTracker)
  | started (tracker : StatusTracker)

variable (build : Build) (cli : Cli) (env : Environment)

def settings : Settings where
  pollInterval := cli.pollInterval
  discoveryInterval := cli.discoveryInterval
  maxFailures := cli.maxFailures
  targetWwids := cli.targetWwids.toFinset
  discoveryMaxRetries := cli.discoveryMaxRetries
  discoveryBackoffBase := cli.discoveryBackoffBase
  discoveryBackoffMax := cli.discoveryBackoffMax
  overflow := build.overflow
  fromStr := build.fromStr
  maxResponseSize := build.maxResponseSize
  regexNew := build.regexNew

def refusal : Option String :=
  if !isAbsolute cli.statusFile then
    some ("Error: Status file path must be absolute: " ++ cli.statusFile)
  else
    match parent cli.statusFile with
    | some directory =>
        if env.isDir directory then none
        else some ("Error: Parent directory of status file does not exist: " ++ directory)
    | none => some ("Error: Invalid status file path: " ++ cli.statusFile)

/-- `str::contains("..")`. -/
def holdsDots (text : String) : Bool := decide (['.', '.'] <:+: text.toList)

def baseDir : String := env.sysNodesDir.getD "/etc/pve/nodes"

/-- The checks of the configuration in the order of `main`: the message of the
first that fails, or the issues that a passed check recorded. -/
def checkConfiguration (tracker : StatusTracker) : Except String StatusTracker :=
  if env.testDataDir && !cli.testMode && !env.dryRun then
    .error "PVE_SAN_TEST_DATA_DIR is set but daemon is not running in test/dry-run mode"
  else if cli.pollInterval = 0 then .error "poll-interval cannot be 0"
  else if cli.maxFailures = 0 then .error "max-failures cannot be 0"
  else if cli.discoveryInterval = 0 then .error "discovery-interval cannot be 0"
  else if containsChar cli.nodeName '/' || containsChar cli.nodeName '\\' ||
      holdsDots cli.nodeName then
    .error ("Invalid node name: " ++ cli.nodeName)
  else if !env.isDir (join (baseDir env) cli.nodeName) then
    .error ("Node directory '" ++ join (baseDir env) cli.nodeName ++ "' does not exist under " ++
      baseDir env)
  else
    match validateSysrq env.dryRun env.kernelSetting cli.sysrqChar tracker with
    | .error e => .error ("Configuration error: " ++ e)
    | .ok tracker => .ok tracker

def startUp : Outcome :=
  match refusal cli env with
  | some stderr => .refused stderr
  | none =>
      if cli.status then
        .reported (statusBranch build.overflow cli.pollInterval cli.statusFile env.statusFile)
      else
        match checkConfiguration cli env StatusTracker.new with
        | .error message => .rejected (StatusTracker.new.setIssue "config_error" .critical message)
        | .ok tracker => .started tracker

end Model

section Rejected

variable {cli : Cli} {env : Environment} {tracker : StatusTracker}

/-- What the checks before the SysRq validation ask for. -/
structure Admissible (cli : Cli) (env : Environment) : Prop where
  data : env.testDataDir = true → cli.testMode = true ∨ env.dryRun = true
  poll : cli.pollInterval ≠ 0
  failures : cli.maxFailures ≠ 0
  discovery : cli.discoveryInterval ≠ 0
  slash : '/' ∉ cli.nodeName.toList
  backslash : '\\' ∉ cli.nodeName.toList
  dots : ¬['.', '.'] <:+: cli.nodeName.toList
  directory : env.isDir (join (baseDir env) cli.nodeName) = true

/-- The command lines that may start the loops in an environment. -/
structure Startable (cli : Cli) (env : Environment) : Prop extends Admissible cli env where
  some : sysrqChars cli.sysrqChar ≠ []
  known : ∀ c ∈ sysrqChars cli.sysrqChar, sysrqCharToBit c ≠ none

theorem check_configuration_ok_iff {after : StatusTracker} :
    checkConfiguration cli env tracker = .ok after ↔ Admissible cli env ∧
      validateSysrq env.dryRun env.kernelSetting cli.sysrqChar tracker = .ok after := by
  unfold checkConfiguration
  split_ifs with data poll failures discovery name directory
  · apply iff_of_false (by simp)
    intro both
    simp only [Bool.and_eq_true, Bool.not_eq_true'] at data
    have allowed := both.1.data data.1.1
    simp [data] at allowed
  · exact iff_of_false (by simp) fun both => both.1.poll poll
  · exact iff_of_false (by simp) fun both => both.1.failures failures
  · exact iff_of_false (by simp) fun both => both.1.discovery discovery
  · apply iff_of_false (by simp)
    intro both
    simp only [Bool.or_eq_true, contains_char_iff, holdsDots, decide_eq_true_eq] at name
    rcases name with (slash | backslash) | dots
    · exact both.1.slash slash
    · exact both.1.backslash backslash
    · exact both.1.dots dots
  · apply iff_of_false (by simp)
    intro both
    rw [both.1.directory] at directory
    cases directory
  · have admissible : Admissible cli env := by
      simp only [Bool.or_eq_true, contains_char_iff, holdsDots, decide_eq_true_eq, not_or] at name
      refine ⟨?_, poll, failures, discovery, name.1.1, name.1.2, name.2, by simpa using directory⟩
      intro set
      simp only [set, Bool.true_and, Bool.and_eq_true, Bool.not_eq_true', not_and_or,
        Bool.not_eq_false] at data
      exact data
    rw [and_iff_right admissible]
    cases validateSysrq env.dryRun env.kernelSetting cli.sysrqChar tracker with
    | error e => simp
    | ok recorded => simp

theorem check_configuration_iff :
    (∃ after, checkConfiguration cli env tracker = .ok after) ↔ Startable cli env := by
  have accepts := validate_sysrq_accepts_iff env.dryRun env.kernelSetting cli.sysrqChar tracker
  constructor
  · intro passed
    obtain ⟨after, checked⟩ := passed
    obtain ⟨admissible, validated⟩ := check_configuration_ok_iff.mp checked
    rw [validated] at accepts
    obtain ⟨some, known⟩ := accepts.mp rfl
    exact ⟨admissible, some, known⟩
  · intro startable
    have accepted := accepts.mpr ⟨startable.some, startable.known⟩
    cases validated : validateSysrq env.dryRun env.kernelSetting cli.sysrqChar tracker with
    | error e =>
        rw [validated] at accepted
        cases accepted
    | ok after => exact ⟨after, check_configuration_ok_iff.mpr ⟨startable.toAdmissible, validated⟩⟩

theorem map_content_single (key message : String) :
    mapContent (StatusTracker.new.setIssue key .critical message) =
      "CRITICAL" ++ " - " ++ message ++ "\n" := by
  have iterates : Iterates [⟨key, .critical, message⟩]
      (StatusTracker.new.setIssue key .critical message) := rfl
  rw [← content_of_iterates iterates]
  rfl

theorem start_up_started_iff (build : Build) :
    startUp build cli env = .started tracker ↔ refusal cli env = none ∧ cli.status = false ∧
      Admissible cli env ∧ validateSysrq env.dryRun env.kernelSetting cli.sysrqChar
        StatusTracker.new = .ok tracker := by
  rw [← check_configuration_ok_iff]
  unfold startUp
  cases refusal cli env with
  | some stderr => simp
  | none =>
      cases cli.status with
      | true => simp
      | false =>
          cases checkConfiguration cli env StatusTracker.new with
          | error message => simp
          | ok after => simp

end Rejected

section Sample

def plain : Build where
  overflow := .wraps
  fromStr := DaemonSafety.oneShot.fromStr
  maxResponseSize := none
  regexNew := fun _ => none

def oneFailure : Cli where
  pollInterval := 5
  discoveryInterval := 60
  maxFailures := 1
  targetWwids := []
  socket := "@/org/kernel/linux/storage/multipathd"
  nodeName := "pve001"
  pveshCommand := "pvesh"
  testMode := false
  sysrqChar := "s,b"
  status := false
  statusFile := "/run/pve-san-fenced/status"
  debug := false
  discoveryMaxRetries := 5
  discoveryBackoffBase := 1
  discoveryBackoffMax := 30

def host (dryRun : Bool) (kernelSetting : String) : Environment where
  testDataDir := false
  dryRun := dryRun
  sysNodesDir := none
  isDir := fun _ => true
  kernelSetting := .ok kernelSetting
  statusFile := ⟨none, .error "No such file or directory"⟩

theorem one_failure_placed (dryRun : Bool) (kernelSetting : String) (maxFailures : UInt64)
    (status : Bool) :
    refusal { oneFailure with maxFailures := maxFailures, status := status }
      (host dryRun kernelSetting) = none := by
  have placed : parent oneFailure.statusFile = some "/run/pve-san-fenced" := by decide +kernel
  have absolute : isAbsolute oneFailure.statusFile = true := by decide
  simp [refusal, absolute, placed, host]

end Sample

section Kernel

inductive SysrqCall : Call → Prop
  | warn (key message : String) (own : startsWith key "sysrq" = true) :
      SysrqCall (.setIssue key .warning message)

/-- The kernel would not obey all the characters, or may not for all we know. -/
def KernelRefuses (chars : List Char) : Except String String → Prop
  | .error _ => True
  | .ok content =>
      match parseI32 (trim content) with
      | none => True
      | some val => val = 0 ∨ (val ≠ 1 ∧
          ∃ c ∈ chars, ∃ bit, sysrqCharToBit c = some bit ∧ val &&& bit = 0)

theorem warn_disabled_mutates (val : Int32) (valStr : String) (chars : List Char)
    (tracker : StatusTracker) :
    Mutates SysrqCall tracker (warnDisabled val valStr chars tracker) := by
  induction chars generalizing tracker with
  | nil => exact mutates_refl tracker
  | cons c rest ih =>
      unfold warnDisabled
      cases sysrqCharToBit c with
      | none => exact ih tracker
      | some bit =>
          dsimp only
          split_ifs
          · have own : startsWith ("sysrq_" ++ c.toString) "sysrq" = true :=
              starts_with_append _ (by decide)
            exact mutates_trans (mutates_call (SysrqCall.warn _ _ own) tracker) (ih _)
          · exact ih tracker

theorem check_kernel_setting_mutates (chars : List Char) (tracker : StatusTracker)
    (setting : Except String String) :
    Mutates SysrqCall tracker (checkKernelSetting chars tracker setting) := by
  unfold checkKernelSetting
  cases setting with
  | error e => exact mutates_call (SysrqCall.warn _ _ (by decide)) tracker
  | ok content =>
      dsimp only
      cases parseI32 (trim content) with
      | none => exact mutates_call (SysrqCall.warn _ _ (by decide)) tracker
      | some val =>
          dsimp only
          split_ifs
          · exact mutates_call (SysrqCall.warn _ _ (by decide)) tracker
          · exact warn_disabled_mutates val _ chars tracker
          · exact mutates_refl tracker

theorem warn_disabled_keeps (val : Int32) (valStr : String) (chars : List Char)
    {tracker : StatusTracker} {key : String} (held : tracker.issue key ≠ none) :
    (warnDisabled val valStr chars tracker).issue key ≠ none := by
  induction chars generalizing tracker with
  | nil => exact held
  | cons c rest ih =>
      unfold warnDisabled
      cases sysrqCharToBit c with
      | none => exact ih held
      | some bit =>
          dsimp only
          split_ifs
          · apply ih
            by_cases same : key = "sysrq_" ++ c.toString
            · rw [same, StatusTracker.issue_set_issue]
              exact Option.some_ne_none _
            · rw [StatusTracker.issue_set_issue_of_ne _ _ _ same]
              exact held
          · exact ih held

theorem warn_disabled_records {val : Int32} (valStr : String) {chars : List Char}
    (tracker : StatusTracker)
    (refused : ∃ c ∈ chars, ∃ bit, sysrqCharToBit c = some bit ∧ val &&& bit = 0) :
    ∃ key, startsWith key "sysrq" = true ∧
      (warnDisabled val valStr chars tracker).issue key ≠ none := by
  obtain ⟨c, member, bit, known, disabled⟩ := refused
  induction chars generalizing tracker with
  | nil => cases member
  | cons other rest ih =>
      unfold warnDisabled
      rcases List.mem_cons.mp member with rfl | later
      · rw [known]
        dsimp only
        rw [if_pos disabled]
        refine ⟨"sysrq_" ++ c.toString, starts_with_append _ (by decide), ?_⟩
        apply warn_disabled_keeps
        rw [StatusTracker.issue_set_issue]
        exact Option.some_ne_none _
      · cases sysrqCharToBit other with
        | none => exact ih tracker later
        | some otherBit =>
            dsimp only
            split_ifs
            · exact ih _ later
            · exact ih tracker later

theorem warn_disabled_silent {val : Int32} (valStr : String) {chars : List Char}
    (obeyed : ¬∃ c ∈ chars, ∃ bit, sysrqCharToBit c = some bit ∧ val &&& bit = 0)
    (tracker : StatusTracker) : warnDisabled val valStr chars tracker = tracker := by
  induction chars with
  | nil => rfl
  | cons c rest ih =>
      have others : ¬∃ c ∈ rest, ∃ bit, sysrqCharToBit c = some bit ∧ val &&& bit = 0 := by
        intro refused
        obtain ⟨other, member, found⟩ := refused
        exact obeyed ⟨other, List.mem_cons_of_mem _ member, found⟩
      unfold warnDisabled
      cases known : sysrqCharToBit c with
      | none => exact ih others
      | some bit =>
          have enabled : ¬val &&& bit = 0 := fun disabled =>
            obeyed ⟨c, List.mem_cons_self .., bit, known, disabled⟩
          dsimp only
          rw [if_neg enabled]
          exact ih others

theorem check_kernel_setting_cases (chars : List Char) (tracker : StatusTracker)
    (setting : Except String String) :
    (KernelRefuses chars setting ∧ ∃ key, startsWith key "sysrq" = true ∧
        (checkKernelSetting chars tracker setting).issue key ≠ none) ∨
      (¬KernelRefuses chars setting ∧ checkKernelSetting chars tracker setting = tracker) := by
  have recorded (key message : String) :
      (tracker.setIssue key .warning message).issue key ≠ none := by
    rw [StatusTracker.issue_set_issue]
    exact Option.some_ne_none _
  unfold checkKernelSetting KernelRefuses
  cases setting with
  | error e => exact Or.inl ⟨trivial, "sysrq_read", by decide, recorded _ _⟩
  | ok content =>
      dsimp only
      cases parseI32 (trim content) with
      | none => exact Or.inl ⟨trivial, "sysrq_parse", by decide, recorded _ _⟩
      | some val =>
          dsimp only
          split_ifs with zero other
          · exact Or.inl ⟨Or.inl zero, "sysrq", by decide, recorded _ _⟩
          · by_cases refused : ∃ c ∈ chars, ∃ bit, sysrqCharToBit c = some bit ∧ val &&& bit = 0
            · exact Or.inl ⟨Or.inr ⟨other, refused⟩, warn_disabled_records _ tracker refused⟩
            · refine Or.inr ⟨?_, warn_disabled_silent _ refused tracker⟩
              intro refuses
              exact refuses.elim zero fun found => refused found.2
          · refine Or.inr ⟨?_, rfl⟩
            intro refuses
            exact refuses.elim zero fun found => other found.1

theorem validate_sysrq_ok {dryRun : Bool} {setting : Except String String} {configured : String}
    {before after : StatusTracker}
    (validated : validateSysrq dryRun setting configured before = .ok after) :
    after = if dryRun then before
      else checkKernelSetting (sysrqChars configured) before setting := by
  unfold validateSysrq at validated
  dsimp only at validated
  by_cases empty : (sysrqChars configured).isEmpty = true
  · rw [if_pos empty] at validated
    cases validated
  · rw [if_neg empty] at validated
    cases invalid : (sysrqChars configured).find? fun c => (sysrqCharToBit c).isNone with
    | some c =>
        rw [invalid] at validated
        cases validated
    | none =>
        rw [invalid] at validated
        cases dryRun with
        | true => exact (Except.ok.inj validated).symm
        | false => exact (Except.ok.inj validated).symm

end Kernel

end PveSanFenced.Startup
