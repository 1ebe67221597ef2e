import PveSanFenced.Library.Runs
import PveSanFenced.Status

/-!
# Acting on a fencing decision

`validate_sysrq` accepts the configured characters at startup and
`trigger_fencing` writes them to the SysRq trigger. Whether a write succeeds
is up to the kernel, so an oracle answers for every write of the process by
its number. Each attempt records why it was made.
-/

namespace PveSanFenced.Sysrq

open PveSanFenced.Library.Runs
open PveSanFenced.Library.Text
open PveSanFenced.Status

set_option autoImplicit false

/-- The characters of a configuration: pieces between commas, trimmed. -/
def sysrqChars (sysrqChar : String) : List Char :=
  ((((splitChar ',' sysrqChar).map trim).filter fun s => !s.toList.isEmpty).map
    String.toList).flatten

def sysrqCharToBit (c : Char) : Option Int32 :=
  if c = 's' then some 16
  else if c = 'b' ∨ c = 'o' then some 128
  else if c = 'c' then some 2
  else if c = 'u' then some 32
  else if c = 'r' then some 4
  else if c = 'e' ∨ c = 'i' ∨ c = 'f' then some 64
  else if c = 't' ∨ c = 'p' ∨ c = 'm' ∨ c = 'w' then some 8
  else none

section Validate

def sysrqPath : String := "/proc/sys/kernel/sysrq"

/-- The loop over the characters that a bitmask may disable. -/
def warnDisabled (val : Int32) (valStr : String) :
    List Char → StatusTracker → StatusTracker
  | [], tracker => tracker
  | c :: rest, tracker =>
      match sysrqCharToBit c with
      | some bit =>
          if val &&& bit = 0 then
            warnDisabled val valStr rest (tracker.setIssue ("sysrq_" ++ c.toString) .warning
              ("Configured SysRq char '" ++ c.toString ++ "' is disabled by " ++ sysrqPath ++
                " bitmask (" ++ valStr ++ ")!"))
          else warnDisabled val valStr rest tracker
      | none => warnDisabled val valStr rest tracker

/-- The issues `validate_sysrq` records after reading the kernel's setting. -/
def checkKernelSetting (chars : List Char) (tracker : StatusTracker) :
    Except String String → StatusTracker
  | .error e => tracker.setIssue "sysrq_read" .warning
      ("Failed to read " ++ sysrqPath ++ ": " ++ e ++ ". Unable to verify SysRq state.")
  | .ok content =>
      let valStr := trim content
      match parseI32 valStr with
      | none => tracker.setIssue "sysrq_parse" .warning
          ("Could not parse " ++ sysrqPath ++ " value: " ++ valStr)
      | some val =>
          if val = 0 then
            tracker.setIssue "sysrq" .warning ("SysRq is disabled (value is 0) in " ++
              sysrqPath ++ ". Fencing operations will fail!")
          else if val ≠ 1 then warnDisabled val valStr chars tracker
          else tracker

/-- `validate_sysrq`. The kernel's setting is what reading its file gives. -/
def validateSysrq (dryRun : Bool) (kernelSetting : Except String String) (configured : String)
    (tracker : StatusTracker) : Except String StatusTracker :=
  let chars := sysrqChars configured
  if chars.isEmpty then .error "sysrq-char configuration cannot be empty"
  else
    match chars.find? fun c => (sysrqCharToBit c).isNone with
    | some c => .error
        ("Invalid SysRq character '" ++ c.toString ++ "' specified in configuration")
    | none => if dryRun then .ok tracker else .ok (checkKernelSetting chars tracker kernelSetting)

theorem validate_sysrq_accepts_iff (dryRun : Bool) (kernelSetting : Except String String)
    (configured : String) (tracker : StatusTracker) :
    (validateSysrq dryRun kernelSetting configured tracker).isOk = true ↔
      sysrqChars configured ≠ [] ∧ ∀ c ∈ sysrqChars configured, sysrqCharToBit c ≠ none := by
  unfold validateSysrq
  dsimp only
  by_cases empty : sysrqChars configured = []
  · simp [empty, Except.isOk, Except.toBool]
  · rw [if_neg (by simpa using empty)]
    cases invalid : (sysrqChars configured).find? fun c => (sysrqCharToBit c).isNone with
    | some c =>
        have member := List.mem_of_find?_eq_some invalid
        have unknown : sysrqCharToBit c = none := by simpa using List.find?_some invalid
        apply iff_of_false (by simp [Except.isOk, Except.toBool])
        intro accepted
        exact accepted.2 c member unknown
    | none =>
        have known : ∀ c ∈ sysrqChars configured, sysrqCharToBit c ≠ none := by
          simpa using List.find?_eq_none.mp invalid
        apply iff_of_true _ ⟨empty, known⟩
        cases dryRun <;> rfl

end Validate

section Trigger

inductive Purpose where
  | configured
  | again
  | fallback
  deriving DecidableEq, Repr

structure Attempt where
  char : Char
  purpose : Purpose
  succeeded : Bool
  deriving DecidableEq, Repr

/-- The process-wide flag, and the number of writes made so far. -/
structure Process where
  fencingInProgress : Bool
  writes : ℕ

def Process.start : Process where
  fencingInProgress := false
  writes := 0

variable (succeeds : ℕ → Bool)

def attempt (writes : ℕ) (c : Char) (purpose : Purpose) : Attempt where
  char := c
  purpose := purpose
  succeeded := succeeds writes

/-- The loop over the configured characters: its writes, and whether a `b`
went through. -/
def sendChars : List Char → ℕ → Bool → List Attempt × Bool
  | [], _, sentReboot => ([], sentReboot)
  | c :: rest, writes, sentReboot =>
      let first := attempt succeeds writes c .configured
      if first.succeeded = true ∧ c = 'b' then
        let again := attempt succeeds (writes + 1) 'b' .again
        let (others, sent) := sendChars rest (writes + 2) true
        (first :: again :: others, sent)
      else
        let (others, sent) := sendChars rest (writes + 1) sentReboot
        (first :: others, sent)

structure Triggered where
  process : Process
  attempts : List Attempt
  exits : Bool

def triggerFencing (dryRun : Bool) (sysrqChar : String) (process : Process) : Triggered :=
  if dryRun then { process := process, attempts := [], exits := true }
  else if process.fencingInProgress then
    -- the flag is set for good by the first call, nothing resets it
    { process := process, attempts := [], exits := false }
  else
    let (sent, sentReboot) := sendChars succeeds (sysrqChars sysrqChar) process.writes false
    let attempts :=
      if sentReboot then sent
      else sent ++ [attempt succeeds (process.writes + sent.length) 'b' .fallback]
    { process := { fencingInProgress := true, writes := process.writes + attempts.length }
      attempts := attempts
      exits := false }

/-- The decisions of one daemon lifetime, each handled before the next. -/
def decisionMachine (sysrqChar : String) : Machine Process Unit (List Attempt) where
  step process _ :=
    let triggered := triggerFencing succeeds false sysrqChar process
    (triggered.process, triggered.attempts)

def attemptsFor (sysrqChar : String) (index : ℕ) : List Attempt :=
  (decisionMachine succeeds sysrqChar).outputAt Process.start (fun _ => ()) index

/-- The configured characters are attempted once each, in order, and some
write is a `b`. -/
def ActsOn (sysrqChar : String) (attempts : List Attempt) : Prop :=
  (attempts.filter fun made => made.purpose = .configured).map Attempt.char =
      sysrqChars sysrqChar ∧
    ∃ made ∈ attempts, made.char = 'b'

instance (sysrqChar : String) (attempts : List Attempt) :
    Decidable (ActsOn sysrqChar attempts) :=
  inferInstanceAs (Decidable (_ ∧ _))

theorem send_chars_configured (chars : List Char) (writes : ℕ) (sentReboot : Bool) :
    ((sendChars succeeds chars writes sentReboot).1.filter fun made =>
      made.purpose = .configured).map Attempt.char = chars := by
  induction chars generalizing writes sentReboot with
  | nil => rfl
  | cons c rest ih =>
      unfold sendChars
      dsimp only
      split_ifs with reboot
      · simp [attempt, ih]
      · simp [attempt, ih]

theorem send_chars_reboot (chars : List Char) (writes : ℕ) (sentReboot : Bool)
    (sent : (sendChars succeeds chars writes sentReboot).2 = true) :
    sentReboot = true ∨ ∃ made ∈ (sendChars succeeds chars writes sentReboot).1,
      made.char = 'b' := by
  induction chars generalizing writes sentReboot with
  | nil => exact Or.inl sent
  | cons c rest ih =>
      unfold sendChars at sent ⊢
      dsimp only at sent ⊢
      split_ifs at sent ⊢ with reboot
      · exact Or.inr ⟨_, List.mem_cons_self .., reboot.2⟩
      · cases ih (writes + 1) sentReboot sent with
        | inl before => exact Or.inl before
        | inr later =>
            obtain ⟨made, member, isB⟩ := later
            exact Or.inr ⟨made, List.mem_cons_of_mem _ member, isB⟩

theorem trigger_fencing_acts (sysrqChar : String) (process : Process)
    (idle : process.fencingInProgress = false) :
    ActsOn sysrqChar (triggerFencing succeeds false sysrqChar process).attempts := by
  have configured := send_chars_configured succeeds (sysrqChars sysrqChar) process.writes false
  have reboot := send_chars_reboot succeeds (sysrqChars sysrqChar) process.writes false
  simp only [triggerFencing, idle, Bool.false_eq_true, if_false]
  split_ifs with sent
  · refine ⟨configured, ?_⟩
    cases reboot sent with
    | inl never => cases never
    | inr found => exact found
  · refine ⟨?_, _, List.mem_append_right _ (List.mem_singleton_self _), rfl⟩
    rw [List.filter_append, List.map_append, configured]
    simp [attempt]

theorem trigger_fencing_sets_flag (sysrqChar : String) (process : Process) :
    (triggerFencing succeeds false sysrqChar process).process.fencingInProgress = true := by
  unfold triggerFencing
  cases busy : process.fencingInProgress with
  | true => exact busy
  | false => rfl

theorem flag_at (sysrqChar : String) (index : ℕ) :
    ((decisionMachine succeeds sysrqChar).stateAt Process.start (fun _ => ())
      index).fencingInProgress = decide (0 < index) := by
  cases index with
  | zero => rfl
  | succ index =>
      rw [Machine.state_at_succ]
      exact trigger_fencing_sets_flag succeeds sysrqChar _

/-- For every configuration and every pattern of failing writes, the first
decision of a lifetime is acted on and no later one is. -/
theorem decision_acted_on_iff (sysrqChar : String) (index : ℕ) :
    ActsOn sysrqChar (attemptsFor succeeds sysrqChar index) ↔ index = 0 := by
  have flag := flag_at succeeds sysrqChar index
  unfold attemptsFor Machine.outputAt
  generalize (decisionMachine succeeds sysrqChar).stateAt Process.start (fun _ => ()) index =
    process at flag
  cases index with
  | zero => exact iff_of_true (trigger_fencing_acts succeeds sysrqChar process flag) rfl
  | succ index =>
      have busy : process.fencingInProgress = true := flag
      apply iff_of_false _ (Nat.succ_ne_zero index)
      simp [decisionMachine, triggerFencing, busy, ActsOn]

end Trigger

/-- The default configuration is accepted and every write succeeds, and the
second decision writes nothing. -/
theorem second_decision_ignored :
    (validateSysrq false (.ok "1") "s,b" StatusTracker.new).isOk = true ∧
      ¬ActsOn "s,b" (attemptsFor (fun _ => true) "s,b" 1) :=
  ⟨by decide +kernel, by decide +kernel⟩

end PveSanFenced.Sysrq
