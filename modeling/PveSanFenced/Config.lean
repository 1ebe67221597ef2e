import PveSanFenced.Library.Text

/-!
# Reading multipath.conf

`tokenize` and the section parser over its tokens. The source walks one
iterator through nested loops; here each loop is a function that returns the
tokens it leaves. The three kinds of scanning (a bare word, a quoted word, a
comment up to its line break) are the state of one recursion over characters.
-/

namespace PveSanFenced.Config

open PveSanFenced.Library.Text

set_option autoImplicit false

inductive Token where
  | word (text : String)
  | openBrace
  | closeBrace
  deriving DecidableEq, Repr

inductive Scan where
  | plain
  | quoted
  | comment
  deriving DecidableEq, Repr

def flushWord (currentWord : List Char) : List Token :=
  if currentWord.isEmpty then [] else [.word (String.ofList currentWord)]

def tokenizeChars : List Char → List Char → Scan → List Token
  | [], currentWord, _ => flushWord currentWord
  | c :: rest, currentWord, .quoted =>
      if c == '"' then
        match rest with
        | '"' :: rest => tokenizeChars rest (currentWord ++ ['"']) .quoted
        | rest => .word (String.ofList currentWord) :: tokenizeChars rest [] .plain
      else tokenizeChars rest (currentWord ++ [c]) .quoted
  | c :: rest, currentWord, .comment =>
      -- the line break that ends a comment is whitespace after an empty word
      if c == '\n' || c == '\r' then tokenizeChars rest currentWord .plain
      else tokenizeChars rest currentWord .comment
  | c :: rest, currentWord, .plain =>
      if isWhitespace c then flushWord currentWord ++ tokenizeChars rest [] .plain
      else if c == '#' || c == '!' then
        flushWord currentWord ++ tokenizeChars rest [] .comment
      else if c == '{' then
        flushWord currentWord ++ .openBrace :: tokenizeChars rest [] .plain
      else if c == '}' then
        flushWord currentWord ++ .closeBrace :: tokenizeChars rest [] .plain
      else if c == '"' then flushWord currentWord ++ tokenizeChars rest [] .quoted
      else tokenizeChars rest (currentWord ++ [c]) .plain

def tokenize (config : String) : List Token := tokenizeChars config.toList [] .plain

structure DeviceConfig where
  vendor : Option String
  product : Option String
  devLossTmo : Option String
  noPathRetry : Option String
  pollingInterval : Option UInt64
  deriving DecidableEq, Repr

def DeviceConfig.default : DeviceConfig where
  vendor := none
  product := none
  devLossTmo := none
  noPathRetry := none
  pollingInterval := none

structure MultipathConfig where
  defaults : DeviceConfig
  devices : List DeviceConfig
  overrides : DeviceConfig
  deriving DecidableEq, Repr

def MultipathConfig.default : MultipathConfig where
  defaults := DeviceConfig.default
  devices := []
  overrides := DeviceConfig.default

def isKnownKey (s : String) : Bool :=
  ["vendor", "product", "dev_loss_tmo", "no_path_retry", "defaults", "devices", "device",
    "overrides", "path_grouping_policy", "path_selector", "path_checker", "features", "prio",
    "failback", "rr_weight", "rr_min_io", "rr_min_io_rq", "fast_io_fail_tmo",
    "polling_interval"].elem s

/-- The assignment for one key and value; an unparsable polling interval
unsets the field. -/
def assign (block : DeviceConfig) (key val : String) : DeviceConfig :=
  if key = "vendor" then { block with vendor := some val }
  else if key = "product" then { block with product := some val }
  else if key = "dev_loss_tmo" then { block with devLossTmo := some val }
  else if key = "no_path_retry" then { block with noPathRetry := some val }
  else if key = "polling_interval" then { block with pollingInterval := parseU64 val }
  else block

/-- `parse_block` after its opening brace: the settings and the tokens left.
Keys count at depth one only. -/
def parseBlock : List Token → ℕ → DeviceConfig → DeviceConfig × List Token
  | [], _, block => (block, [])
  | .openBrace :: rest, depth, block => parseBlock rest (depth + 1) block
  | .closeBrace :: rest, depth, block =>
      if depth - 1 = 0 then (block, rest) else parseBlock rest (depth - 1) block
  | .word key :: .word val :: rest, depth, block =>
      if depth = 1 ∧ isKnownKey val = false then parseBlock rest depth (assign block key val)
      else parseBlock (.word val :: rest) depth block
  | .word _ :: rest, depth, block => parseBlock rest depth block

def skipBlock : List Token → ℕ → List Token
  | [], _ => []
  | .openBrace :: rest, depth => skipBlock rest (depth + 1)
  | .closeBrace :: rest, depth => if depth - 1 = 0 then rest else skipBlock rest (depth - 1)
  | .word _ :: rest, depth => skipBlock rest depth

/-- `if let Some(Token::OpenBrace) = iter.next()`: the next token is consumed
whatever it is. -/
def nextIsOpenBrace : List Token → Bool × List Token
  | [] => (false, [])
  | token :: rest => (token == .openBrace, rest)

/-- The loop inside `devices`. Every round consumes a token. -/
def parseDevices : ℕ → List Token → List DeviceConfig → List DeviceConfig × List Token
  | 0, tokens, devices => (devices, tokens)
  | _ + 1, [], devices => (devices, [])
  | _ + 1, .closeBrace :: rest, devices => (devices, rest)
  | rounds + 1, .openBrace :: rest, devices => parseDevices rounds rest devices
  | rounds + 1, .word w :: rest, devices =>
      if w = "device" then
        match nextIsOpenBrace rest with
        | (true, rest) =>
            let (block, rest) := parseBlock rest 1 DeviceConfig.default
            parseDevices rounds rest (devices ++ [block])
        | (false, rest) => parseDevices rounds rest devices
      else parseDevices rounds rest devices

/-- The loop over the sections. Every round consumes a token. -/
def parseSections : ℕ → List Token → MultipathConfig → MultipathConfig
  | 0, _, config => config
  | _ + 1, [], config => config
  | rounds + 1, .openBrace :: rest, config => parseSections rounds rest config
  | rounds + 1, .closeBrace :: rest, config => parseSections rounds rest config
  | rounds + 1, .word w :: rest, config =>
      match nextIsOpenBrace rest with
      | (false, rest) => parseSections rounds rest config
      | (true, rest) =>
          if w = "defaults" then
            let (block, rest) := parseBlock rest 1 DeviceConfig.default
            parseSections rounds rest { config with defaults := block }
          else if w = "devices" then
            let (devices, rest) := parseDevices rest.length rest config.devices
            parseSections rounds rest { config with devices := devices }
          else if w = "overrides" then
            let (block, rest) := parseBlock rest 1 DeviceConfig.default
            parseSections rounds rest { config with overrides := block }
          else parseSections rounds (skipBlock rest 1) config

def parseMultipathConfig (configStr : String) : MultipathConfig :=
  let tokens := tokenize configStr
  parseSections tokens.length tokens MultipathConfig.default

section Rounds

theorem parse_block_length (tokens : List Token) (depth : ℕ) (block : DeviceConfig) :
    (parseBlock tokens depth block).2.length ≤ tokens.length := by
  fun_induction parseBlock tokens depth block with
  | case1 => simp
  | case2 rest depth block ih => exact ih.trans (Nat.le_succ _)
  | case3 rest depth block last => exact Nat.le_succ _
  | case4 rest depth block more ih => exact ih.trans (Nat.le_succ _)
  | case5 key val rest depth block value ih =>
      simp only [List.length_cons]
      omega
  | case6 key val rest depth block noValue ih => exact ih.trans (Nat.le_succ _)
  | case7 key rest depth block last ih => exact ih.trans (Nat.le_succ _)

theorem skip_block_length (tokens : List Token) (depth : ℕ) :
    (skipBlock tokens depth).length ≤ tokens.length := by
  fun_induction skipBlock tokens depth with
  | case1 => exact Nat.le_refl _
  | case2 rest depth ih => exact ih.trans (Nat.le_succ _)
  | case3 rest depth last => exact Nat.le_succ _
  | case4 rest depth more ih => exact ih.trans (Nat.le_succ _)
  | case5 text rest depth ih => exact ih.trans (Nat.le_succ _)

theorem next_is_open_brace_length (tokens : List Token) :
    (nextIsOpenBrace tokens).2.length ≤ tokens.length := by
  cases tokens with
  | nil => exact Nat.le_refl _
  | cons token rest => exact Nat.le_succ _

theorem parse_devices_length (rounds : ℕ) (tokens : List Token) (devices : List DeviceConfig) :
    (parseDevices rounds tokens devices).2.length ≤ tokens.length := by
  fun_induction parseDevices rounds tokens devices with
  | case1 => exact Nat.le_refl _
  | case2 => exact Nat.le_refl _
  | case3 => exact Nat.le_succ _
  | case4 rounds rest devices ih => exact ih.trans (Nat.le_succ _)
  | case5 rounds rest devices body opened block left parsed ih =>
      have brace := next_is_open_brace_length rest
      have inner := parse_block_length body 1 DeviceConfig.default
      rw [opened] at brace
      rw [parsed] at inner
      exact ih.trans (inner.trans (brace.trans (Nat.le_succ _)))
  | case6 rounds rest devices left opened ih =>
      have brace := next_is_open_brace_length rest
      rw [opened] at brace
      exact ih.trans (brace.trans (Nat.le_succ _))
  | case7 rounds w rest devices other ih => exact ih.trans (Nat.le_succ _)

/-- The rounds of the inner loop never run out: any number from the number of
tokens on gives the same result. -/
theorem parse_devices_rounds (more rounds : ℕ) (tokens : List Token)
    (devices : List DeviceConfig) (enough : tokens.length ≤ rounds) :
    parseDevices (rounds + more) tokens devices = parseDevices rounds tokens devices := by
  induction rounds generalizing tokens devices with
  | zero =>
      have none : tokens = [] := List.length_eq_zero_iff.mp (Nat.le_zero.mp enough)
      subst none
      cases more with
      | zero => rfl
      | succ more => simp only [parseDevices]
  | succ rounds ih =>
      rw [Nat.succ_add]
      cases tokens with
      | nil => rfl
      | cons token rest =>
          have shorter : rest.length ≤ rounds := Nat.le_of_succ_le_succ enough
          cases token with
          | openBrace => exact ih rest devices shorter
          | closeBrace => rfl
          | word w =>
              have brace := next_is_open_brace_length rest
              simp only [parseDevices]
              rcases opened : nextIsOpenBrace rest with ⟨_ | _, body⟩ <;> rw [opened] at brace
              · simp only [ih body devices (brace.trans shorter), ih rest devices shorter]
              · have inner := parse_block_length body 1 DeviceConfig.default
                simp only [ih rest devices shorter,
                  ih _ _ (inner.trans (brace.trans shorter))]

theorem parse_sections_rounds (more rounds : ℕ) (tokens : List Token)
    (config : MultipathConfig) (enough : tokens.length ≤ rounds) :
    parseSections (rounds + more) tokens config = parseSections rounds tokens config := by
  induction rounds generalizing tokens config with
  | zero =>
      have none : tokens = [] := List.length_eq_zero_iff.mp (Nat.le_zero.mp enough)
      subst none
      cases more with
      | zero => rfl
      | succ more => simp only [parseSections]
  | succ rounds ih =>
      rw [Nat.succ_add]
      cases tokens with
      | nil => rfl
      | cons token rest =>
          have shorter : rest.length ≤ rounds := Nat.le_of_succ_le_succ enough
          cases token with
          | openBrace => exact ih rest config shorter
          | closeBrace => exact ih rest config shorter
          | word w =>
              have brace := next_is_open_brace_length rest
              simp only [parseSections]
              rcases opened : nextIsOpenBrace rest with ⟨_ | _, body⟩ <;> rw [opened] at brace
              · exact ih body config (brace.trans shorter)
              · have block := parse_block_length body 1 DeviceConfig.default
                have devices := parse_devices_length body.length body config.devices
                have skipped := skip_block_length body 1
                have within := brace.trans shorter
                simp only [ih _ _ (block.trans within), ih _ _ (devices.trans within),
                  ih _ _ (skipped.trans within)]

end Rounds

end PveSanFenced.Config
