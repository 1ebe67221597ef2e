import PveSanFenced.ConfigLayout

/-!
# Which blocks the section parser reads

The two loops of `parse_multipath_config` read a sequence of blocks, and the
configuration only collects them. A block whose braces are balanced ends at its
own closing brace, whatever stands in it, so that the blocks around it are read
as if it were not there.
-/

namespace PveSanFenced.ConfigSections

open PveSanFenced.Config
open PveSanFenced.ConfigLayout

set_option autoImplicit false

section Balance

/-- Every brace in the sequence has its partner in it. -/
inductive Balanced : List Token → Prop
  | nil : Balanced []
  | word (text : String) {rest : List Token} (balanced : Balanced rest) :
      Balanced (.word text :: rest)
  | nested {inner rest : List Token} (inside : Balanced inner) (behind : Balanced rest) :
      Balanced (.openBrace :: (inner ++ .closeBrace :: rest))

theorem skip_block_balanced {body : List Token} (balanced : Balanced body) (depth : ℕ)
    (rest : List Token) :
    skipBlock (body ++ .closeBrace :: rest) (depth + 1) =
      skipBlock (.closeBrace :: rest) (depth + 1) := by
  induction balanced generalizing depth rest with
  | nil => rfl
  | word text balanced ih => exact ih depth rest
  | @nested inner behind inside _ ihInside ihBehind =>
      rw [List.cons_append, List.append_assoc, List.cons_append, skipBlock, ihInside, skipBlock,
        if_neg (by omega), Nat.add_sub_cancel, ihBehind]

theorem skip_block_exact {body : List Token} (balanced : Balanced body) (rest : List Token) :
    skipBlock (body ++ .closeBrace :: rest) 1 = rest := by
  rw [skip_block_balanced balanced 0]
  rfl

theorem parse_block_nested_word (text : String) (tokens : List Token) (depth : ℕ)
    (block : DeviceConfig) :
    parseBlock (.word text :: tokens) (depth + 2) block = parseBlock tokens (depth + 2) block := by
  have deeper : ¬depth + 2 = 1 := by omega
  cases tokens with
  | nil => rfl
  | cons token tokens =>
      cases token with
      | word val => rw [parseBlock, if_neg (fun first => deeper first.1)]
      | openBrace => rfl
      | closeBrace => rfl

theorem parse_block_nested {body : List Token} (balanced : Balanced body) (depth : ℕ)
    (rest : List Token) (block : DeviceConfig) :
    parseBlock (body ++ .closeBrace :: rest) (depth + 2) block =
      parseBlock rest (depth + 1) block := by
  induction balanced generalizing depth rest with
  | nil => rw [List.nil_append, parseBlock, if_neg (by omega), Nat.add_sub_assoc (by omega)]
  | word text balanced ih =>
      rw [List.cons_append, parse_block_nested_word, ih]
  | nested inside behind ihInside ihBehind =>
      rw [List.cons_append, List.append_assoc, List.cons_append, parseBlock, ihInside (depth + 1),
        ihBehind]

theorem parse_block_skips_nested {inner : List Token} (balanced : Balanced inner)
    (rest : List Token) (block : DeviceConfig) :
    parseBlock (.openBrace :: (inner ++ .closeBrace :: rest)) 1 block =
      parseBlock rest 1 block := by
  rw [parseBlock, parse_block_nested balanced 0]

theorem parse_block_dangling (text : String) {token : Token} (brace : ∀ val, token ≠ .word val)
    (tokens : List Token) (depth : ℕ) (block : DeviceConfig) :
    parseBlock (.word text :: token :: tokens) depth block =
      parseBlock (token :: tokens) depth block := by
  cases token with
  | word val => exact absurd rfl (brace val)
  | openBrace => rfl
  | closeBrace => rfl

/-- A balanced body is left at its own closing brace, with settings that no
token behind it has a part in. -/
theorem parse_block_exact {body : List Token} (balanced : Balanced body) (block : DeviceConfig) :
    ∃ parsed, ∀ rest, parseBlock (body ++ .closeBrace :: rest) 1 block = (parsed, rest) := by
  -- by the length of the body, since a pair of words is taken in one turn
  induction count : body.length using Nat.strong_induction_on generalizing body block with
  | h length ih =>
      cases balanced with
      | nil => exact ⟨block, fun rest => rfl⟩
      | nested inside behind =>
          obtain ⟨parsed, exact'⟩ := ih _ (by simp at count; omega) behind block rfl
          refine ⟨parsed, ?_⟩
          intro rest
          rw [List.cons_append, List.append_assoc, List.cons_append,
            parse_block_skips_nested inside, exact']
      | @word key tail balanced =>
          rw [List.length_cons] at count
          cases balanced with
          | nil => exact ⟨block, fun rest => rfl⟩
          | nested inside behind =>
              obtain ⟨parsed, exact'⟩ := ih _ (by omega)
                (Balanced.nested inside behind) block rfl
              refine ⟨parsed, ?_⟩
              intro rest
              rw [List.cons_append, List.cons_append, parse_block_dangling key (by simp)]
              exact exact' rest
          | @word val tail balanced =>
              rw [List.length_cons] at count
              by_cases value : isKnownKey val = false
              · obtain ⟨parsed, exact'⟩ := ih _ (by omega) balanced (assign block key val) rfl
                refine ⟨parsed, ?_⟩
                intro rest
                rw [List.cons_append, List.cons_append, parseBlock, if_pos ⟨rfl, value⟩, exact']
              · obtain ⟨parsed, exact'⟩ := ih _ (by simp; omega) (Balanced.word val balanced)
                  block rfl
                refine ⟨parsed, ?_⟩
                intro rest
                rw [List.cons_append, List.cons_append, parseBlock,
                  if_neg (fun pair => value pair.2)]
                exact exact' rest

def bodyOf (body : List Token) : DeviceConfig :=
  (parseBlock (body ++ [.closeBrace]) 1 DeviceConfig.default).1

theorem parse_block_body {body : List Token} (balanced : Balanced body) (rest : List Token) :
    parseBlock (body ++ .closeBrace :: rest) 1 DeviceConfig.default = (bodyOf body, rest) := by
  obtain ⟨parsed, exact'⟩ := parse_block_exact balanced DeviceConfig.default
  rw [bodyOf, exact', exact']

end Balance

section Reading

inductive BlockKind where
  | defaults
  | device
  | overrides
  deriving DecidableEq, Repr

structure BlockRead where
  kind : BlockKind
  block : DeviceConfig
  deriving DecidableEq, Repr

/-- The loop over the sections and the one inside `devices`. -/
inductive Loop where
  | sections
  | devices
  deriving DecidableEq, Repr

def BlockKind.keyword : BlockKind → String
  | .defaults => "defaults"
  | .device => "device"
  | .overrides => "overrides"

def BlockKind.loop : BlockKind → Loop
  | .defaults => .sections
  | .device => .devices
  | .overrides => .sections

/-- What becomes of the configuration when a block has been read. -/
def record (config : MultipathConfig) (read : BlockRead) : MultipathConfig :=
  match read.kind with
  | .defaults => { config with defaults := read.block }
  | .device => { config with devices := config.devices ++ [read.block] }
  | .overrides => { config with overrides := read.block }

/-- The blocks in the order in which the two loops read them, from the loop
that is running on. -/
def readBlocks : Loop → List Token → List BlockRead
  | _, [] => []
  | loop, .openBrace :: rest => readBlocks loop rest
  | _, .closeBrace :: rest => readBlocks .sections rest
  | .sections, .word w :: rest =>
      let body := (nextIsOpenBrace rest).2
      if (nextIsOpenBrace rest).1 then
        if w = "devices" then readBlocks .devices body
        else if w = "defaults" then
          ⟨.defaults, (parseBlock body 1 DeviceConfig.default).1⟩ ::
            readBlocks .sections (parseBlock body 1 DeviceConfig.default).2
        else if w = "overrides" then
          ⟨.overrides, (parseBlock body 1 DeviceConfig.default).1⟩ ::
            readBlocks .sections (parseBlock body 1 DeviceConfig.default).2
        else readBlocks .sections (skipBlock body 1)
      else readBlocks .sections body
  | .devices, .word w :: rest =>
      let body := (nextIsOpenBrace rest).2
      if w = "device" then
        if (nextIsOpenBrace rest).1 then
          ⟨.device, (parseBlock body 1 DeviceConfig.default).1⟩ ::
            readBlocks .devices (parseBlock body 1 DeviceConfig.default).2
        else readBlocks .devices body
      else readBlocks .devices rest
termination_by _ tokens => tokens.length
decreasing_by
  all_goals
    first
      | exact Nat.lt_succ_self _
      | exact Nat.lt_succ_of_le (next_is_open_brace_length rest)
      | exact Nat.lt_succ_of_le ((parse_block_length _ 1 _).trans (next_is_open_brace_length rest))
      | exact Nat.lt_succ_of_le ((skip_block_length _ 1).trans (next_is_open_brace_length rest))

theorem parse_devices_reads (rounds : ℕ) : ∀ (tokens : List Token) (config : MultipathConfig),
    tokens.length ≤ rounds →
      (readBlocks .devices tokens).foldl record config =
        (readBlocks .sections (parseDevices rounds tokens config.devices).2).foldl record
          { config with devices := (parseDevices rounds tokens config.devices).1 } := by
  induction rounds with
  | zero =>
      intro tokens config enough
      obtain rfl : tokens = [] := List.length_eq_zero_iff.mp (Nat.le_zero.mp enough)
      simp only [readBlocks, parseDevices]
  | succ rounds ih =>
      intro tokens config enough
      cases tokens with
      | nil => simp only [readBlocks, parseDevices]
      | cons token rest =>
          have shorter : rest.length ≤ rounds := Nat.le_of_succ_le_succ enough
          cases token with
          | openBrace =>
              rw [readBlocks, parseDevices]
              exact ih rest config shorter
          | closeBrace => simp only [readBlocks, parseDevices]
          | word w =>
              have brace := next_is_open_brace_length rest
              rw [readBlocks, parseDevices]
              dsimp only
              rcases opened : nextIsOpenBrace rest with ⟨_ | _, body⟩ <;> rw [opened] at brace
              · simp only [Bool.false_eq_true, if_false]
                split_ifs
                · exact ih body config (brace.trans shorter)
                · exact ih rest config shorter
              · simp only [if_true]
                split_ifs
                · have block := parse_block_length body 1 DeviceConfig.default
                  rw [List.foldl_cons]
                  exact ih _ (record config ⟨.device, _⟩) (block.trans (brace.trans shorter))
                · exact ih rest config shorter

theorem parse_sections_reads (rounds : ℕ) : ∀ (tokens : List Token) (config : MultipathConfig),
    tokens.length ≤ rounds →
      parseSections rounds tokens config = (readBlocks .sections tokens).foldl record config := by
  induction rounds with
  | zero =>
      intro tokens config enough
      obtain rfl : tokens = [] := List.length_eq_zero_iff.mp (Nat.le_zero.mp enough)
      simp only [readBlocks, parseSections, List.foldl_nil]
  | succ rounds ih =>
      intro tokens config enough
      cases tokens with
      | nil => simp only [readBlocks, parseSections, List.foldl_nil]
      | cons token rest =>
          have shorter : rest.length ≤ rounds := Nat.le_of_succ_le_succ enough
          cases token with
          | openBrace =>
              rw [readBlocks, parseSections]
              exact ih rest config shorter
          | closeBrace =>
              rw [readBlocks, parseSections]
              exact ih rest config shorter
          | word w =>
              have brace := next_is_open_brace_length rest
              rw [readBlocks, parseSections]
              rcases opened : nextIsOpenBrace rest with ⟨_ | _, body⟩ <;> rw [opened] at brace
              · exact ih body config (brace.trans shorter)
              · have within := brace.trans shorter
                have block := parse_block_length body 1 DeviceConfig.default
                have devices := parse_devices_length body.length body config.devices
                have skipped := skip_block_length body 1
                simp only [if_true]
                by_cases isDevices : w = "devices"
                · subst isDevices
                  rw [if_neg (by decide), if_pos rfl, if_pos rfl,
                    ih _ _ (devices.trans within),
                    parse_devices_reads body.length body config (Nat.le_refl _)]
                · rw [if_neg isDevices, if_neg isDevices]
                  split_ifs
                  · rw [List.foldl_cons]
                    exact ih _ _ (block.trans within)
                  · rw [List.foldl_cons]
                    exact ih _ _ (block.trans within)
                  · exact ih _ _ (skipped.trans within)

theorem parse_multipath_config_reads (text : String) :
    parseMultipathConfig text =
      (readBlocks .sections (tokenize text)).foldl record MultipathConfig.default :=
  parse_sections_reads _ _ _ (Nat.le_refl _)

end Reading

section Places

def namedBlock (name : String) (body : List Token) : List Token :=
  .word name :: .openBrace :: (body ++ [.closeBrace])

theorem named_block_append (name : String) (body rest : List Token) :
    namedBlock name body ++ rest = .word name :: .openBrace :: (body ++ .closeBrace :: rest) := by
  simp [namedBlock]

/-- The reader takes the segment in one piece, whatever stands behind it. -/
def Passes (loop : Loop) (segment : List Token) (reads : List BlockRead) (loop' : Loop) : Prop :=
  ∀ rest, readBlocks loop (segment ++ rest) = reads ++ readBlocks loop' rest

theorem passes_nil (loop : Loop) : Passes loop [] [] loop := fun _ => rfl

theorem passes_append {loop middle loop' : Loop} {segment segment' : List Token}
    {reads reads' : List BlockRead} (first : Passes loop segment reads middle)
    (second : Passes middle segment' reads' loop') :
    Passes loop (segment ++ segment') (reads ++ reads') loop' := by
  intro rest
  rw [List.append_assoc, first, second, List.append_assoc]

theorem passes_open_brace (loop : Loop) : Passes loop [.openBrace] [] loop := by
  intro rest
  rw [List.cons_append, List.nil_append, readBlocks]
  rfl

theorem passes_close_brace (loop : Loop) : Passes loop [.closeBrace] [] .sections := by
  intro rest
  rw [List.cons_append, List.nil_append, readBlocks]
  rfl

theorem next_is_open_brace_other {token : Token} (other : token ≠ .openBrace)
    (rest : List Token) : nextIsOpenBrace (token :: rest) = (false, rest) := by
  have notBrace : (token == Token.openBrace) = false := by simpa using other
  rw [nextIsOpenBrace, notBrace]

theorem passes_section_word (text : String) {token : Token} (other : token ≠ .openBrace) :
    Passes .sections [.word text, token] [] .sections := by
  intro rest
  rw [List.cons_append, List.cons_append, List.nil_append, readBlocks]
  simp [next_is_open_brace_other other]

theorem passes_other_word {text : String} (other : text ≠ "device") :
    Passes .devices [.word text] [] .devices := by
  intro rest
  rw [List.cons_append, List.nil_append, readBlocks]
  simp [other]

theorem passes_device_word {token : Token} (other : token ≠ .openBrace) :
    Passes .devices [.word "device", token] [] .devices := by
  intro rest
  rw [List.cons_append, List.cons_append, List.nil_append, readBlocks]
  simp [next_is_open_brace_other other]

theorem passes_devices_open :
    Passes .sections [.word "devices", .openBrace] [] .devices := by
  intro rest
  rw [List.cons_append, List.cons_append, List.nil_append, readBlocks]
  simp [nextIsOpenBrace]

theorem passes_block (kind : BlockKind) {body : List Token} (balanced : Balanced body) :
    Passes kind.loop (namedBlock kind.keyword body) [⟨kind, bodyOf body⟩] kind.loop := by
  intro rest
  have parsed := parse_block_body balanced rest
  rw [named_block_append]
  cases kind with
  | defaults =>
      rw [BlockKind.loop, BlockKind.keyword, readBlocks]
      simp [nextIsOpenBrace, parsed]
  | device =>
      rw [BlockKind.loop, BlockKind.keyword, readBlocks]
      simp [nextIsOpenBrace, parsed]
  | overrides =>
      rw [BlockKind.loop, BlockKind.keyword, readBlocks]
      simp [nextIsOpenBrace, parsed]

theorem passes_unknown_section {name : String} (notDefaults : name ≠ "defaults")
    (notDevices : name ≠ "devices") (notOverrides : name ≠ "overrides") {body : List Token}
    (balanced : Balanced body) :
    Passes .sections (namedBlock name body) [] .sections := by
  intro rest
  have skipped := skip_block_exact balanced rest
  rw [named_block_append, readBlocks]
  simp [nextIsOpenBrace, notDefaults, notDevices, notOverrides, skipped]

/-- The places between two rounds of a loop: what it has taken before, and
which loop is running. -/
inductive Arrives : List Token → Loop → Prop
  | start : Arrives [] .sections
  | openBrace {before : List Token} {loop : Loop} (arrives : Arrives before loop) :
      Arrives (before ++ [.openBrace]) loop
  | closeBrace {before : List Token} {loop : Loop} (arrives : Arrives before loop) :
      Arrives (before ++ [.closeBrace]) .sections
  | sectionWord {before : List Token} (arrives : Arrives before .sections) (text : String)
      {token : Token} (other : token ≠ .openBrace) :
      Arrives (before ++ [.word text, token]) .sections
  | devicesSection {before : List Token} (arrives : Arrives before .sections) :
      Arrives (before ++ [.word "devices", .openBrace]) .devices
  | unknownSection {before body : List Token} (arrives : Arrives before .sections)
      {name : String} (notDefaults : name ≠ "defaults") (notDevices : name ≠ "devices")
      (notOverrides : name ≠ "overrides") (balanced : Balanced body) :
      Arrives (before ++ namedBlock name body) .sections
  | otherWord {before : List Token} (arrives : Arrives before .devices) {text : String}
      (other : text ≠ "device") : Arrives (before ++ [.word text]) .devices
  | deviceWord {before : List Token} (arrives : Arrives before .devices) {token : Token}
      (other : token ≠ .openBrace) : Arrives (before ++ [.word "device", token]) .devices
  | block {before body : List Token} (kind : BlockKind) (arrives : Arrives before kind.loop)
      (balanced : Balanced body) : Arrives (before ++ namedBlock kind.keyword body) kind.loop

theorem arrives_passes {before : List Token} {loop : Loop} (arrives : Arrives before loop) :
    ∃ reads, Passes .sections before reads loop := by
  induction arrives with
  | start => exact ⟨_, passes_nil _⟩
  | openBrace arrives ih =>
      obtain ⟨reads, passes⟩ := ih
      exact ⟨_, passes_append passes (passes_open_brace _)⟩
  | closeBrace arrives ih =>
      obtain ⟨reads, passes⟩ := ih
      exact ⟨_, passes_append passes (passes_close_brace _)⟩
  | sectionWord arrives text other ih =>
      obtain ⟨reads, passes⟩ := ih
      exact ⟨_, passes_append passes (passes_section_word text other)⟩
  | devicesSection arrives ih =>
      obtain ⟨reads, passes⟩ := ih
      exact ⟨_, passes_append passes passes_devices_open⟩
  | unknownSection arrives notDefaults notDevices notOverrides balanced ih =>
      obtain ⟨reads, passes⟩ := ih
      exact ⟨_, passes_append passes
        (passes_unknown_section notDefaults notDevices notOverrides balanced)⟩
  | otherWord arrives other ih =>
      obtain ⟨reads, passes⟩ := ih
      exact ⟨_, passes_append passes (passes_other_word other)⟩
  | deviceWord arrives other ih =>
      obtain ⟨reads, passes⟩ := ih
      exact ⟨_, passes_append passes (passes_device_word other)⟩
  | block kind arrives balanced ih =>
      obtain ⟨reads, passes⟩ := ih
      exact ⟨_, passes_append passes (passes_block kind balanced)⟩

/-- The input ends before what is open is closed. -/
inductive Unclosed : List Token → Prop
  | nil : Unclosed []
  | word (text : String) {rest : List Token} (unclosed : Unclosed rest) :
      Unclosed (.word text :: rest)
  | openBrace {rest : List Token} (unclosed : Unclosed rest) : Unclosed (.openBrace :: rest)
  | nested {inner rest : List Token} (inside : Balanced inner) (unclosed : Unclosed rest) :
      Unclosed (.openBrace :: (inner ++ .closeBrace :: rest))

theorem closed_or_unclosed (tokens : List Token) :
    (∃ body rest, Balanced body ∧ tokens = body ++ .closeBrace :: rest) ∨ Unclosed tokens := by
  induction count : tokens.length using Nat.strong_induction_on generalizing tokens with
  | h length ih =>
      cases tokens with
      | nil => exact Or.inr Unclosed.nil
      | cons token tokens =>
          rw [List.length_cons] at count
          have behind := ih _ (by omega) tokens rfl
          cases token with
          | closeBrace => exact Or.inl ⟨[], tokens, Balanced.nil, rfl⟩
          | word text =>
              cases behind with
              | inl closed =>
                  obtain ⟨body, rest, balanced, rfl⟩ := closed
                  exact Or.inl ⟨_, rest, Balanced.word text balanced, rfl⟩
              | inr unclosed => exact Or.inr (Unclosed.word text unclosed)
          | openBrace =>
              cases behind with
              | inr unclosed => exact Or.inr (Unclosed.openBrace unclosed)
              | inl closed =>
                  obtain ⟨inner, tokens, inside, rfl⟩ := closed
                  rw [List.length_append, List.length_cons] at count
                  cases ih _ (by omega) tokens rfl with
                  | inl closed =>
                      obtain ⟨body, rest, balanced, rfl⟩ := closed
                      exact Or.inl ⟨_, rest, Balanced.nested inside balanced, by simp⟩
                  | inr unclosed => exact Or.inr (Unclosed.nested inside unclosed)

theorem skip_block_unclosed {tokens : List Token} (unclosed : Unclosed tokens) (depth : ℕ) :
    skipBlock tokens (depth + 1) = [] := by
  induction unclosed generalizing depth with
  | nil => rfl
  | word text unclosed ih => exact ih depth
  | openBrace unclosed ih => exact ih (depth + 1)
  | nested inside unclosed ih =>
      rw [skipBlock, skip_block_balanced inside, skipBlock, if_neg (by omega)]
      exact ih depth

theorem parse_block_unclosed {tokens : List Token} (unclosed : Unclosed tokens) (depth : ℕ)
    (block : DeviceConfig) : (parseBlock tokens (depth + 1) block).2 = [] := by
  -- by the length, since a pair of words is taken in one turn
  induction count : tokens.length using Nat.strong_induction_on
    generalizing tokens depth block with
  | h length ih =>
      cases unclosed with
      | nil => rfl
      | openBrace unclosed => exact ih _ (by simp at count; omega) unclosed (depth + 1) block rfl
      | nested inside unclosed =>
          rw [parseBlock, parse_block_nested inside]
          exact ih _ (by simp at count; omega) unclosed depth block rfl
      | @word text rest unclosed =>
          rw [List.length_cons] at count
          have behind : (parseBlock rest (depth + 1) block).2 = [] :=
            ih _ (by omega) unclosed depth block rfl
          cases unclosed with
          | nil => rfl
          | openBrace unclosed =>
              rw [parse_block_dangling text (by simp)]
              exact behind
          | nested inside unclosed =>
              rw [parse_block_dangling text (by simp)]
              exact behind
          | word val unclosed =>
              rw [List.length_cons] at count
              rw [parseBlock]
              split_ifs
              · exact ih _ (by omega) unclosed depth _ rfl
              · exact behind

/-- Where the reader is, with the input before and behind it, it has a block
still to read. -/
def StillReads (input : List Token) (kind : BlockKind) (block : DeviceConfig) : Prop :=
  ∃ before rest, input = before ++ .word kind.keyword :: .openBrace :: rest ∧
    Arrives before kind.loop ∧ block = (parseBlock rest 1 DeviceConfig.default).1

/-- A block that is read at a place is the one that stands there, or a later
one behind its closing brace. -/
theorem reads_at_place {before rest : List Token} {kind kind' : BlockKind}
    {block : DeviceConfig} (arrives : Arrives before kind.loop)
    (read : ⟨kind', block⟩ ∈ (⟨kind, (parseBlock rest 1 DeviceConfig.default).1⟩ : BlockRead) ::
      readBlocks kind.loop (parseBlock rest 1 DeviceConfig.default).2)
    (behind : ∀ body left, Balanced body → rest = body ++ .closeBrace :: left →
      ⟨kind', block⟩ ∈ readBlocks kind.loop left →
        StillReads ((before ++ namedBlock kind.keyword body) ++ left) kind' block) :
    StillReads (before ++ .word kind.keyword :: .openBrace :: rest) kind' block := by
  cases List.mem_cons.mp read with
  | inl here =>
      cases here
      exact ⟨before, rest, rfl, arrives, rfl⟩
  | inr later =>
      cases closed_or_unclosed rest with
      | inl closed =>
          obtain ⟨body, left, balanced, rfl⟩ := closed
          rw [parse_block_body balanced] at later
          have still := behind body left balanced rfl later
          rw [List.append_assoc, named_block_append] at still
          exact still
      | inr unclosed =>
          rw [parse_block_unclosed unclosed 0, readBlocks] at later
          cases later

/-- What is known of the shorter inputs that the reader goes on with. -/
def GoesOn (before tokens : List Token) (kind : BlockKind) (block : DeviceConfig) : Prop :=
  ∀ segment left loop, tokens = segment ++ left → segment ≠ [] →
    Arrives (before ++ segment) loop → ⟨kind, block⟩ ∈ readBlocks loop left →
      StillReads (before ++ tokens) kind block

theorem known_word_place (kind' : BlockKind) {before tokens : List Token} {kind : BlockKind}
    {block : DeviceConfig} (arrives : Arrives before kind'.loop)
    (goesOn : GoesOn before (.word kind'.keyword :: .openBrace :: tokens) kind block)
    (read : ⟨kind, block⟩ ∈ (⟨kind', (parseBlock tokens 1 DeviceConfig.default).1⟩ : BlockRead) ::
      readBlocks kind'.loop (parseBlock tokens 1 DeviceConfig.default).2) :
    StillReads (before ++ .word kind'.keyword :: .openBrace :: tokens) kind block := by
  apply reads_at_place arrives read
  intro body left balanced split read'
  subst split
  rw [← named_block_append] at goesOn
  rw [List.append_assoc]
  exact goesOn _ left _ rfl (List.cons_ne_nil _ _) (.block kind' arrives balanced) read'

theorem section_word_place {before tokens : List Token} {kind : BlockKind}
    {block : DeviceConfig} {text : String} (arrives : Arrives before .sections)
    (goesOn : GoesOn before (.word text :: tokens) kind block)
    (read : ⟨kind, block⟩ ∈ readBlocks .sections (.word text :: tokens)) :
    StillReads (before ++ .word text :: tokens) kind block := by
  rw [readBlocks] at read
  cases tokens with
  | nil => simp [nextIsOpenBrace, readBlocks] at read
  | cons follower tokens =>
      by_cases brace : follower = .openBrace
      · subst brace
        simp only [nextIsOpenBrace, beq_self_eq_true, if_true] at read
        split_ifs at read with isDevices isDefaults isOverrides
        · subst isDevices
          exact goesOn [.word "devices", .openBrace] tokens _ rfl (List.cons_ne_nil _ _)
            (.devicesSection arrives) read
        · subst isDefaults
          exact known_word_place .defaults arrives goesOn read
        · subst isOverrides
          exact known_word_place .overrides arrives goesOn read
        · cases closed_or_unclosed tokens with
          | inl closed =>
              obtain ⟨body, left, balanced, rfl⟩ := closed
              rw [skip_block_exact balanced] at read
              rw [← named_block_append] at goesOn ⊢
              exact goesOn _ left _ rfl (List.cons_ne_nil _ _)
                (.unknownSection arrives isDefaults isDevices isOverrides balanced) read
          | inr unclosed =>
              rw [skip_block_unclosed unclosed 0, readBlocks] at read
              cases read
      · simp only [next_is_open_brace_other brace, Bool.false_eq_true, if_false] at read
        exact goesOn [.word text, follower] tokens _ rfl (List.cons_ne_nil _ _)
          (.sectionWord arrives text brace) read

theorem device_word_place {before tokens : List Token} {kind : BlockKind}
    {block : DeviceConfig} {text : String} (arrives : Arrives before .devices)
    (goesOn : GoesOn before (.word text :: tokens) kind block)
    (read : ⟨kind, block⟩ ∈ readBlocks .devices (.word text :: tokens)) :
    StillReads (before ++ .word text :: tokens) kind block := by
  rw [readBlocks] at read
  by_cases isDevice : text = "device"
  · subst isDevice
    rw [if_pos rfl] at read
    cases tokens with
    | nil => simp [nextIsOpenBrace, readBlocks] at read
    | cons follower tokens =>
        by_cases brace : follower = .openBrace
        · subst brace
          simp only [nextIsOpenBrace, beq_self_eq_true, if_true] at read
          exact known_word_place .device arrives goesOn read
        · simp only [next_is_open_brace_other brace, Bool.false_eq_true, if_false] at read
          exact goesOn [.word "device", follower] tokens _ rfl (List.cons_ne_nil _ _)
            (.deviceWord arrives brace) read
  · rw [if_neg isDevice] at read
    exact goesOn [.word text] tokens _ rfl (List.cons_ne_nil _ _) (.otherWord arrives isDevice) read

/-- Every block that is read stands at a place of one of the loops. -/
theorem read_block_place {before tokens : List Token} {loop : Loop}
    (arrives : Arrives before loop) {kind : BlockKind} {block : DeviceConfig}
    (read : ⟨kind, block⟩ ∈ readBlocks loop tokens) :
    StillReads (before ++ tokens) kind block := by
  induction count : tokens.length using Nat.strong_induction_on
    generalizing before tokens loop with
  | h length ih =>
      have goesOn : GoesOn before tokens kind block := by
        intro segment left loop' split taken arrives' read'
        have shorter : left.length < length := by
          have filled := List.length_pos_iff.mpr taken
          rw [← count, split, List.length_append]
          omega
        have still := ih _ shorter arrives' read' rfl
        rwa [List.append_assoc, ← split] at still
      cases tokens with
      | nil =>
          rw [readBlocks] at read
          cases read
      | cons token tokens =>
          cases token with
          | openBrace =>
              rw [readBlocks] at read
              exact goesOn [.openBrace] tokens _ rfl (List.cons_ne_nil _ _) (.openBrace arrives)
                read
          | closeBrace =>
              rw [readBlocks] at read
              exact goesOn [.closeBrace] tokens _ rfl (List.cons_ne_nil _ _) (.closeBrace arrives)
                read
          | word text =>
              cases loop with
              | sections => exact section_word_place arrives goesOn read
              | devices => exact device_word_place arrives goesOn read

theorem read_blocks_around {before : List Token} {kind : BlockKind}
    (arrives : Arrives before kind.loop) (rest : List Token) :
    ∃ earlier later, ∀ body, Balanced body →
      readBlocks .sections (before ++ (namedBlock kind.keyword body ++ rest)) =
        earlier ++ ⟨kind, bodyOf body⟩ :: later := by
  obtain ⟨earlier, passes⟩ := arrives_passes arrives
  refine ⟨earlier, readBlocks kind.loop rest, ?_⟩
  intro body balanced
  rw [passes, passes_block kind balanced]
  rfl

end Places

section Confinement

/-- The configurations differ at most in what became of one block. A later
section of the same name may have replaced it in both. -/
def ChangesOnly (kind : BlockKind) (block block' : DeviceConfig)
    (config config' : MultipathConfig) : Prop :=
  match kind with
  | .defaults => config.devices = config'.devices ∧ config.overrides = config'.overrides ∧
      (config.defaults = config'.defaults ∨ config.defaults = block ∧ config'.defaults = block')
  | .device => config.defaults = config'.defaults ∧ config.overrides = config'.overrides ∧
      ∃ front back, config.devices = front ++ block :: back ∧
        config'.devices = front ++ block' :: back
  | .overrides => config.defaults = config'.defaults ∧ config.devices = config'.devices ∧
      (config.overrides = config'.overrides ∨
        config.overrides = block ∧ config'.overrides = block')

theorem changes_only_record {kind : BlockKind} {block block' : DeviceConfig}
    {config config' : MultipathConfig} (changes : ChangesOnly kind block block' config config')
    (read : BlockRead) :
    ChangesOnly kind block block' (record config read) (record config' read) := by
  obtain ⟨kind', next⟩ := read
  cases kind with
  | defaults =>
      obtain ⟨devices, overrides, defaults⟩ := changes
      cases kind' with
      | defaults => exact ⟨devices, overrides, Or.inl rfl⟩
      | device => exact ⟨congrArg (· ++ [next]) devices, overrides, defaults⟩
      | overrides => exact ⟨devices, rfl, defaults⟩
  | device =>
      obtain ⟨defaults, overrides, front, back, listed, listed'⟩ := changes
      cases kind' with
      | defaults => exact ⟨rfl, overrides, front, back, listed, listed'⟩
      | device =>
          refine ⟨defaults, overrides, front, back ++ [next], ?_, ?_⟩
          · simp [record, listed]
          · simp [record, listed']
      | overrides => exact ⟨defaults, rfl, front, back, listed, listed'⟩
  | overrides =>
      obtain ⟨defaults, devices, overrides⟩ := changes
      cases kind' with
      | defaults => exact ⟨rfl, devices, overrides⟩
      | device => exact ⟨defaults, congrArg (· ++ [next]) devices, overrides⟩
      | overrides => exact ⟨defaults, devices, Or.inl rfl⟩

theorem changes_only_here (kind : BlockKind) (block block' : DeviceConfig)
    (config : MultipathConfig) :
    ChangesOnly kind block block' (record config ⟨kind, block⟩)
      (record config ⟨kind, block'⟩) := by
  cases kind with
  | defaults => exact ⟨rfl, rfl, Or.inr ⟨rfl, rfl⟩⟩
  | device => exact ⟨rfl, rfl, config.devices, [], rfl, rfl⟩
  | overrides => exact ⟨rfl, rfl, Or.inr ⟨rfl, rfl⟩⟩

theorem changes_only_collected (kind : BlockKind) (block block' : DeviceConfig)
    (config : MultipathConfig) (earlier later : List BlockRead) :
    ChangesOnly kind block block' ((earlier ++ ⟨kind, block⟩ :: later).foldl record config)
      ((earlier ++ ⟨kind, block'⟩ :: later).foldl record config) := by
  rw [List.foldl_append, List.foldl_append, List.foldl_cons, List.foldl_cons]
  generalize first : record (earlier.foldl record config) ⟨kind, block⟩ = one
  generalize second : record (earlier.foldl record config) ⟨kind, block'⟩ = other
  have changes : ChangesOnly kind block block' one other :=
    first ▸ second ▸ changes_only_here kind block block' _
  clear first second
  induction later generalizing one other with
  | nil => exact changes
  | cons read later ih => exact ih _ _ (changes_only_record changes read)

/-- A balanced body is consumed up to its closing brace and no further, and
another body in its place changes nothing but the block's own settings. -/
theorem malformed_block_confined :
    (∀ body, Balanced body → ∃ block, ∀ rest,
      parseBlock (body ++ .closeBrace :: rest) 1 DeviceConfig.default = (block, rest)) ∧
    ∀ (text text' : String) (kind : BlockKind) (before body body' rest : List Token),
      Arrives before kind.loop → Balanced body → Balanced body' →
      tokenize text = before ++ (namedBlock kind.keyword body ++ rest) →
      tokenize text' = before ++ (namedBlock kind.keyword body' ++ rest) →
        ChangesOnly kind (bodyOf body) (bodyOf body') (parseMultipathConfig text)
          (parseMultipathConfig text') := by
  constructor
  · intro body balanced
    exact ⟨bodyOf body, parse_block_body balanced⟩
  · intro text text' kind before body body' rest arrives balanced balanced' shown shown'
    obtain ⟨earlier, later, around⟩ := read_blocks_around arrives rest
    rw [parse_multipath_config_reads, parse_multipath_config_reads, shown, shown',
      around body balanced, around body' balanced']
    exact changes_only_collected kind (bodyOf body) (bodyOf body') _ earlier later

theorem malformed_block_confined_device :
    ChangesOnly .device (bodyOf [.word "vendor", .word "product"])
      (bodyOf [.word "vendor", .word "X"])
      (parseMultipathConfig
        "devices \x7b device \x7b vendor product \x7d \x7d overrides \x7b prio a \x7d")
      (parseMultipathConfig
        "devices \x7b device \x7b vendor X \x7d \x7d overrides \x7b prio a \x7d") := by
  apply malformed_block_confined.2 _ _ .device [.word "devices", .openBrace] _ _
    (.closeBrace :: namedBlock "overrides" [.word "prio", .word "a"])
  · exact Arrives.devicesSection Arrives.start
  · exact Balanced.word _ (Balanced.word _ Balanced.nil)
  · exact Balanced.word _ (Balanced.word _ Balanced.nil)
  · decide
  · decide

end Confinement

end PveSanFenced.ConfigSections
