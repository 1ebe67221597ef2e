import PveSanFenced.Config
import PveSanFenced.Library.Collections
import Mathlib.Data.List.Nodup
import Mathlib.Data.List.Perm.Basic

/-!
# Printing multipath.conf and reading it back

A configuration is printed as a sequence of lexemes, and any layout may stand
between two of them. The settings of a block may come in any order. The
tokenizer drops the layout and the quotes, the section parser then rebuilds
the configuration block by block.
-/

namespace PveSanFenced.ConfigRoundTrip

open PveSanFenced.Config
open PveSanFenced.Library.Collections
open PveSanFenced.Library.Text

set_option autoImplicit false

section Layout

/-- One whitespace character, or a comment with the line break that ends it. -/
inductive Blank where
  | space (c : Char) (white : isWhitespace c = true)
  | comment (mark : Char) (text : List Char) (ending : Char)
      (marks : mark = '#' ∨ mark = '!') (oneLine : ∀ c ∈ text, c ≠ '\n' ∧ c ≠ '\r')
      (ends : ending = '\n' ∨ ending = '\r')

def Blank.chars : Blank → List Char
  | .space c _ => [c]
  | .comment mark text ending _ _ _ => mark :: (text ++ [ending])

def layoutChars (layout : List Blank) : List Char := layout.flatMap Blank.chars

theorem tokenize_comment_text {text : List Char} (oneLine : ∀ c ∈ text, c ≠ '\n' ∧ c ≠ '\r')
    {ending : Char} (ends : ending = '\n' ∨ ending = '\r') (rest : List Char) :
    tokenizeChars (text ++ ending :: rest) [] .comment = tokenizeChars rest [] .plain := by
  induction text with
  | nil => rcases ends with rfl | rfl <;> simp [tokenizeChars]
  | cons c text ih =>
      have inside := oneLine c (List.mem_cons_self ..)
      simp only [List.cons_append, tokenizeChars]
      rw [if_neg (by simpa using inside)]
      exact ih fun d member => oneLine d (List.mem_cons_of_mem c member)

theorem tokenize_blank (blank : Blank) (currentWord rest : List Char) :
    tokenizeChars (blank.chars ++ rest) currentWord .plain =
      flushWord currentWord ++ tokenizeChars rest [] .plain := by
  cases blank with
  | space c white => simp [Blank.chars, tokenizeChars, white]
  | comment mark text ending marks oneLine ends =>
      have opened : isWhitespace mark = false ∧ (mark == '#' || mark == '!') = true := by
        rcases marks with rfl | rfl <;> decide
      simp only [Blank.chars, List.cons_append, List.append_assoc, List.nil_append,
        tokenizeChars, opened, Bool.false_eq_true, if_false, if_true]
      rw [tokenize_comment_text oneLine ends]

theorem tokenize_layout (layout : List Blank) (rest : List Char) :
    tokenizeChars (layoutChars layout ++ rest) [] .plain = tokenizeChars rest [] .plain := by
  induction layout with
  | nil => rfl
  | cons blank layout ih =>
      rw [layoutChars, List.flatMap_cons, List.append_assoc, tokenize_blank]
      exact ih

theorem tokenize_gap {layout : List Blank} (some : layout ≠ []) (currentWord rest : List Char) :
    tokenizeChars (layoutChars layout ++ rest) currentWord .plain =
      flushWord currentWord ++ tokenizeChars rest [] .plain := by
  cases layout with
  | nil => exact absurd rfl some
  | cons blank layout =>
      rw [layoutChars, List.flatMap_cons, List.append_assoc, tokenize_blank]
      exact congrArg _ (tokenize_layout layout rest)

theorem blank_not_quote (blank : Blank) : blank.chars.head? ≠ some '"' := by
  cases blank with
  | space c white =>
      intro quote
      obtain rfl : c = '"' := Option.some.inj quote
      exact absurd white (by decide)
  | comment mark text ending marks oneLine ends =>
      intro quote
      obtain rfl : mark = '"' := Option.some.inj quote
      exact absurd marks (by decide)

end Layout

section Lexemes

inductive Lexeme where
  | bare (key : String)
  | quoted (value : String)
  | openBrace
  | closeBrace
  deriving DecidableEq, Repr

/-- A quoted value; a quote inside is doubled. -/
def quote (value : String) : List Char :=
  '"' :: ((value.toList.flatMap fun c => if c = '"' then ['"', '"'] else [c]) ++ ['"'])

def Lexeme.chars : Lexeme → List Char
  | .bare key => key.toList
  | .quoted value => quote value
  | .openBrace => ['\x7b']
  | .closeBrace => ['\x7d']

def Lexeme.token : Lexeme → Token
  | .bare key => .word key
  | .quoted value => .word value
  | .openBrace => .openBrace
  | .closeBrace => .closeBrace

def isPlain (c : Char) : Bool :=
  !isWhitespace c && !(c == '#' || c == '!') && !(c == '\x7b') && !(c == '\x7d') && !(c == '"')

def Lexeme.WellFormed : Lexeme → Prop
  | .bare key => key ≠ "" ∧ ∀ c ∈ key.toList, isPlain c = true
  | .quoted _ => True
  | .openBrace => True
  | .closeBrace => True

def isBareWord (key : String) : Bool :=
  key != "" && key.toList.all isPlain

theorem bare_well_formed {key : String} (shown : isBareWord key = true) :
    (Lexeme.bare key).WellFormed := by
  rw [isBareWord, Bool.and_eq_true, bne_iff_ne, List.all_eq_true] at shown
  exact shown

theorem tokenize_bare {word : List Char} (plain : ∀ c ∈ word, isPlain c = true)
    (currentWord rest : List Char) :
    tokenizeChars (word ++ rest) currentWord .plain =
      tokenizeChars rest (currentWord ++ word) .plain := by
  induction word generalizing currentWord with
  | nil => rw [List.nil_append, List.append_nil]
  | cons c word ih =>
      have first := plain c (List.mem_cons_self ..)
      simp only [isPlain, Bool.and_eq_true, Bool.not_eq_true'] at first
      obtain ⟨⟨⟨⟨white, mark⟩, opened⟩, closed⟩, quoted⟩ := first
      simp only [List.cons_append, tokenizeChars, white, mark, opened, closed, quoted,
        Bool.false_eq_true, if_false]
      rw [ih fun d member => plain d (List.mem_cons_of_mem c member), List.append_assoc,
        List.singleton_append]

theorem tokenize_quoted_char {c : Char} (other : c ≠ '"') (currentWord rest : List Char) :
    tokenizeChars (c :: rest) currentWord .quoted =
      tokenizeChars rest (currentWord ++ [c]) .quoted := by
  rw [tokenizeChars.eq_def]
  simp [other]

theorem tokenize_doubled_quote (currentWord rest : List Char) :
    tokenizeChars ('"' :: '"' :: rest) currentWord .quoted =
      tokenizeChars rest (currentWord ++ ['"']) .quoted := by
  rw [tokenizeChars]
  simp

/-- The closing quote is the one that no other quote follows. -/
theorem tokenize_closing_quote (currentWord : List Char) {rest : List Char}
    (next : rest.head? ≠ some '"') :
    tokenizeChars ('"' :: rest) currentWord .quoted =
      .word (String.ofList currentWord) :: tokenizeChars rest [] .plain := by
  rw [tokenizeChars.eq_def]
  dsimp only
  rw [if_pos (beq_self_eq_true '"')]
  split
  · exact absurd rfl next
  · rfl

theorem tokenize_quoted (value currentWord : List Char) {rest : List Char}
    (next : rest.head? ≠ some '"') :
    tokenizeChars ((value.flatMap fun c => if c = '"' then ['"', '"'] else [c]) ++ '"' :: rest)
        currentWord .quoted =
      .word (String.ofList (currentWord ++ value)) :: tokenizeChars rest [] .plain := by
  induction value generalizing currentWord with
  | nil => rw [List.flatMap_nil, List.nil_append, List.append_nil, tokenize_closing_quote _ next]
  | cons c value ih =>
      rw [List.flatMap_cons]
      by_cases isQuote : c = '"'
      · subst isQuote
        rw [if_pos rfl, List.append_assoc, List.cons_append, List.singleton_append,
          tokenize_doubled_quote, ih, List.append_assoc, List.singleton_append]
      · rw [if_neg isQuote, List.append_assoc, List.singleton_append,
          tokenize_quoted_char isQuote, ih, List.append_assoc, List.singleton_append]

theorem after_lexeme_not_quote {gap : List Blank} {rest : List Char}
    (separated : gap ≠ [] ∨ rest = []) : (layoutChars gap ++ rest).head? ≠ some '"' := by
  cases gap with
  | nil =>
      obtain rfl : rest = [] := separated.resolve_left (fun some => some rfl)
      simp [layoutChars]
  | cons blank gap =>
      rw [layoutChars, List.flatMap_cons, List.append_assoc, List.head?_append]
      cases shown : blank.chars.head? with
      | none => cases blank <;> simp [Blank.chars] at shown
      | some c => simpa [shown] using blank_not_quote blank

theorem tokenize_after_word {gap : List Blank} {rest : List Char}
    (separated : gap ≠ [] ∨ rest = []) (word : List Char) :
    tokenizeChars (layoutChars gap ++ rest) word .plain =
      flushWord word ++ tokenizeChars rest [] .plain := by
  cases gap with
  | nil =>
      obtain rfl : rest = [] := separated.resolve_left (fun some => some rfl)
      simp only [layoutChars, List.flatMap_nil, List.append_nil, tokenizeChars]
      exact (List.append_nil _).symm
  | cons blank gap => exact tokenize_gap (List.cons_ne_nil blank gap) word rest

theorem tokenize_lexeme {lexeme : Lexeme} (wellFormed : lexeme.WellFormed) {gap : List Blank}
    {rest : List Char} (separated : gap ≠ [] ∨ rest = []) :
    tokenizeChars (lexeme.chars ++ (layoutChars gap ++ rest)) [] .plain =
      lexeme.token :: tokenizeChars rest [] .plain := by
  cases lexeme with
  | bare key =>
      obtain ⟨nonempty, plain⟩ := wellFormed
      have flushed : flushWord key.toList = [.word key] := by
        have filled : key.toList.isEmpty = false := by simpa using nonempty
        rw [flushWord, filled, if_neg Bool.false_ne_true, String.ofList_toList]
      rw [Lexeme.chars, tokenize_bare plain, List.nil_append, tokenize_after_word separated,
        flushed]
      rfl
  | quoted value =>
      have opening : isWhitespace '"' = false ∧ ('"' == '#' || '"' == '!') = false ∧
          ('"' == '\x7b') = false ∧ ('"' == '\x7d') = false := by decide
      simp only [Lexeme.chars, quote, List.cons_append, List.append_assoc, List.nil_append,
        tokenizeChars, opening, beq_self_eq_true, Bool.false_eq_true, if_false, if_true]
      rw [tokenize_quoted value.toList [] (after_lexeme_not_quote separated), List.nil_append,
        String.ofList_toList, tokenize_layout]
      rfl
  | openBrace =>
      have brace : isWhitespace '\x7b' = false ∧ ('\x7b' == '#' || '\x7b' == '!') = false := by
        decide
      simp only [Lexeme.chars, List.cons_append, List.nil_append, tokenizeChars, brace,
        beq_self_eq_true, Bool.false_eq_true, if_false, if_true]
      rw [tokenize_layout]
      rfl
  | closeBrace =>
      have brace : isWhitespace '\x7d' = false ∧ ('\x7d' == '#' || '\x7d' == '!') = false ∧
          ('\x7d' == '\x7b') = false := by decide
      simp only [Lexeme.chars, List.cons_append, List.nil_append, tokenizeChars, brace,
        beq_self_eq_true, Bool.false_eq_true, if_false, if_true]
      rw [tokenize_layout]
      rfl

/-- Lexemes, each with the layout behind it. -/
def spreadChars (spread : List (Lexeme × List Blank)) : List Char :=
  spread.flatMap fun entry => entry.1.chars ++ layoutChars entry.2

/-- The text shows these lexemes: layout may lead and end it, and between two
lexemes there is some. -/
def Shows (lexemes : List Lexeme) (text : List Char) : Prop :=
  ∃ (lead : List Blank) (spread : List (Lexeme × List Blank)),
    spread.map Prod.fst = lexemes ∧ (∀ entry ∈ spread.dropLast, entry.2 ≠ []) ∧
      text = layoutChars lead ++ spreadChars spread

theorem tokenize_spread {spread : List (Lexeme × List Blank)}
    (wellFormed : ∀ entry ∈ spread, entry.1.WellFormed)
    (separated : ∀ entry ∈ spread.dropLast, entry.2 ≠ []) :
    tokenizeChars (spreadChars spread) [] .plain =
      (spread.map Prod.fst).map Lexeme.token := by
  induction spread with
  | nil => rfl
  | cons entry spread ih =>
      have later := ih (fun other member => wellFormed other (List.mem_cons_of_mem entry member))
        (fun other member => by
          cases spread with
          | nil => simp at member
          | cons next rest =>
              exact separated other (by
                rw [List.dropLast_cons_of_ne_nil (List.cons_ne_nil next rest)]
                exact List.mem_cons_of_mem entry member))
      have apart : entry.2 ≠ [] ∨ spreadChars spread = [] := by
        cases spread with
        | nil => exact Or.inr rfl
        | cons next rest =>
            apply Or.inl
            apply separated
            rw [List.dropLast_cons_of_ne_nil (List.cons_ne_nil next rest)]
            exact List.mem_cons_self ..
      have first := tokenize_lexeme (wellFormed entry (List.mem_cons_self ..)) apart
      have split : spreadChars (entry :: spread) =
          entry.1.chars ++ (layoutChars entry.2 ++ spreadChars spread) := by
        rw [spreadChars, List.flatMap_cons, List.append_assoc, spreadChars]
      rw [split, first, later]
      rfl

theorem tokenize_shows {lexemes : List Lexeme} {text : String}
    (wellFormed : ∀ lexeme ∈ lexemes, lexeme.WellFormed) (shows : Shows lexemes text.toList) :
    tokenize text = lexemes.map Lexeme.token := by
  obtain ⟨lead, spread, rfl, separated, shown⟩ := shows
  rw [tokenize, shown, tokenize_layout]
  exact tokenize_spread (fun entry member => wellFormed entry.1 (List.mem_map_of_mem member))
    separated

end Lexemes

section Settings

def setting (key : String) (value : Option String) : List (String × String) :=
  value.toList.map fun value => (key, value)

def settings (block : DeviceConfig) : List (String × String) :=
  setting "vendor" block.vendor ++ setting "product" block.product ++
    setting "dev_loss_tmo" block.devLossTmo ++ setting "no_path_retry" block.noPathRetry ++
    setting "polling_interval" (block.pollingInterval.map toString)

def assignAll (block : DeviceConfig) (entries : List (String × String)) : DeviceConfig :=
  entries.foldl (fun block entry => assign block entry.1 entry.2) block

def settingKeys : List String :=
  ["vendor", "product", "dev_loss_tmo", "no_path_retry", "polling_interval"]

theorem settings_keys (block : DeviceConfig) :
    List.Sublist ((settings block).map Prod.fst) settingKeys := by
  have one : ∀ (key : String) (value : Option String),
      List.Sublist ((setting key value).map Prod.fst) [key] := by
    intro key value
    cases value with
    | none => exact List.nil_sublist _
    | some value => exact List.Sublist.refl _
  simp only [settings, List.map_append]
  exact ((((one "vendor" _).append (one "product" _)).append (one "dev_loss_tmo" _)).append
    (one "no_path_retry" _)).append (one "polling_interval" _)

theorem assign_all_settings (block : DeviceConfig) :
    assignAll DeviceConfig.default (settings block) = block := by
  rcases block with ⟨_ | vendor, _ | product, _ | devLossTmo, _ | noPathRetry, _ | interval⟩ <;>
    simp [assignAll, settings, setting, assign, DeviceConfig.default, parse_u64_to_string]

theorem assign_comm (block : DeviceConfig) {key other : String} (member : key ∈ settingKeys)
    (otherMember : other ∈ settingKeys) (different : key ≠ other) (val val' : String) :
    assign (assign block key val) other val' = assign (assign block other val') key val := by
  simp only [settingKeys, List.mem_cons, List.not_mem_nil, or_false] at member otherMember
  rcases member with rfl | rfl | rfl | rfl | rfl <;>
    rcases otherMember with rfl | rfl | rfl | rfl | rfl <;>
      first | rfl | exact absurd rfl different

/-- Every key stands at most once, so the order of the settings is free. -/
theorem assign_all_perm {block : DeviceConfig} {entries : List (String × String)}
    (listed : entries.Perm (settings block)) :
    assignAll DeviceConfig.default entries = block := by
  have keys := listed.map Prod.fst
  have distinct : (entries.map Prod.fst).Nodup :=
    keys.nodup_iff.mpr ((settings_keys block).nodup (by decide))
  have known : ∀ entry ∈ entries, entry.1 ∈ settingKeys := fun entry member =>
    (settings_keys block).subset (keys.subset (List.mem_map_of_mem member))
  have ordered : assignAll DeviceConfig.default entries =
      assignAll DeviceConfig.default (settings block) := by
    apply listed.foldl_eq'
    intro entry member other otherMember block
    by_cases same : entry.1 = other.1
    · rw [List.inj_on_of_nodup_map distinct member otherMember same]
    · exact assign_comm block (known entry member) (known other otherMember) same entry.2 other.2
  rw [ordered, assign_all_settings]

/-- A printed number is none of the keywords: the keywords are no numbers. -/
theorem number_not_known_key (word : UInt64) : isKnownKey (toString word) = false := by
  have noNumber : ∀ key ∈ ["vendor", "product", "dev_loss_tmo", "no_path_retry", "defaults",
      "devices", "device", "overrides", "path_grouping_policy", "path_selector", "path_checker",
      "features", "prio", "failback", "rr_weight", "rr_min_io", "rr_min_io_rq",
      "fast_io_fail_tmo", "polling_interval"], parseU64 key = none := by decide
  rw [Bool.eq_false_iff, isKnownKey, ne_eq, List.elem_eq_mem, decide_eq_true_eq]
  intro member
  have absent := noNumber _ member
  rw [parse_u64_to_string] at absent
  cases absent

def stringValues (block : DeviceConfig) : List String :=
  block.vendor.toList ++ block.product.toList ++ block.devLossTmo.toList ++
    block.noPathRetry.toList

theorem settings_free {block : DeviceConfig}
    (free : ∀ value ∈ stringValues block, isKnownKey value = false) :
    ∀ entry ∈ settings block, isKnownKey entry.2 = false := by
  have one : ∀ (key : String) (value : Option String),
      (∀ text ∈ value.toList, isKnownKey text = false) →
        ∀ entry ∈ setting key value, isKnownKey entry.2 = false := by
    intro key value free entry member
    obtain ⟨text, shown, rfl⟩ := List.mem_map.mp member
    exact free text shown
  have number : ∀ text ∈ (block.pollingInterval.map toString).toList,
      isKnownKey text = false := by
    intro text member
    obtain ⟨word, -, rfl⟩ := Option.map_eq_some_iff.mp (Option.mem_toList.mp member)
    exact number_not_known_key word
  simp only [stringValues, List.forall_mem_append] at free
  simp only [settings, List.forall_mem_append]
  exact ⟨⟨⟨⟨one _ _ free.1.1.1, one _ _ free.1.1.2⟩, one _ _ free.1.2⟩, one _ _ free.2⟩,
    one _ _ number⟩

end Settings

section Sections

def entryLexemes (entry : String × String) : List Lexeme := [.bare entry.1, .quoted entry.2]

def blockLexemes (name : String) (entries : List (String × String)) : List Lexeme :=
  .bare name :: .openBrace :: (entries.flatMap entryLexemes ++ [.closeBrace])

def devicesLexemes (devices : List (List (String × String))) : List Lexeme :=
  .bare "devices" :: .openBrace :: (devices.flatMap (blockLexemes "device") ++ [.closeBrace])

def configLexemes (defaults : List (String × String)) (devices : List (List (String × String)))
    (overrides : List (String × String)) : List Lexeme :=
  blockLexemes "defaults" defaults ++ (devicesLexemes devices ++
    blockLexemes "overrides" overrides)

def Prints (config : MultipathConfig) (text : String) : Prop :=
  ∃ defaults devices overrides, defaults.Perm (settings config.defaults) ∧
    List.Forall₂ (fun entries device => entries.Perm (settings device)) devices config.devices ∧
    overrides.Perm (settings config.overrides) ∧
    Shows (configLexemes defaults devices overrides) text.toList

/-- No string value is a word that the parser takes for the next key. -/
def FreeOfKnownKeys (config : MultipathConfig) : Prop :=
  ∀ block ∈ config.defaults :: config.overrides :: config.devices,
    ∀ value ∈ stringValues block, isKnownKey value = false

instance (config : MultipathConfig) : Decidable (FreeOfKnownKeys config) :=
  inferInstanceAs (Decidable (∀ block ∈ _, ∀ value ∈ stringValues block, _))

def blockTokens (name : String) (entries : List (String × String)) : List Token :=
  .word name :: .openBrace ::
    (entries.flatMap (fun entry => [.word entry.1, .word entry.2]) ++ [.closeBrace])

theorem block_tokens (name : String) (entries : List (String × String)) :
    (blockLexemes name entries).map Lexeme.token = blockTokens name entries := by
  simp [blockLexemes, blockTokens, Lexeme.token, entryLexemes, List.map_flatMap]

theorem parse_block_entries {entries : List (String × String)}
    (free : ∀ entry ∈ entries, isKnownKey entry.2 = false) (block : DeviceConfig)
    (rest : List Token) :
    parseBlock (entries.flatMap (fun entry => [.word entry.1, .word entry.2]) ++
        .closeBrace :: rest) 1 block = (assignAll block entries, rest) := by
  induction entries generalizing block with
  | nil => rfl
  | cons entry entries ih =>
      have value := free entry (List.mem_cons_self ..)
      simp only [List.flatMap_cons, List.cons_append, List.nil_append, parseBlock, value,
        and_self, if_true]
      rw [ih fun other member => free other (List.mem_cons_of_mem entry member)]
      rfl

theorem parse_block_printed {block : DeviceConfig} {entries : List (String × String)}
    (listed : entries.Perm (settings block))
    (free : ∀ value ∈ stringValues block, isKnownKey value = false) (rest : List Token) :
    parseBlock (entries.flatMap (fun entry => [.word entry.1, .word entry.2]) ++
        .closeBrace :: rest) 1 DeviceConfig.default = (block, rest) := by
  rw [parse_block_entries, assign_all_perm listed]
  intro entry member
  exact settings_free free entry (listed.mem_iff.mp member)

theorem parse_devices_printed {printed : List (List (String × String))}
    {devices : List DeviceConfig}
    (listed : List.Forall₂ (fun entries device => entries.Perm (settings device)) printed devices)
    (free : ∀ device ∈ devices, ∀ value ∈ stringValues device, isKnownKey value = false)
    {rounds : ℕ} (enough : devices.length < rounds) (before : List DeviceConfig)
    (rest : List Token) :
    parseDevices rounds (printed.flatMap (blockTokens "device") ++ .closeBrace :: rest) before =
      (before ++ devices, rest) := by
  induction listed generalizing rounds before with
  | nil =>
      obtain ⟨rounds, rfl⟩ := Nat.exists_eq_succ_of_ne_zero (Nat.ne_of_gt enough)
      rw [List.flatMap_nil, List.nil_append, List.append_nil, parseDevices]
  | cons first others ih =>
      rename_i entries device printed devices
      obtain ⟨rounds, rfl⟩ := Nat.exists_eq_succ_of_ne_zero
        (Nat.ne_of_gt ((Nat.zero_le _).trans_lt enough))
      have block := parse_block_printed first (free device (List.mem_cons_self ..))
        (printed.flatMap (blockTokens "device") ++ .closeBrace :: rest)
      have later := ih (fun other member => free other (List.mem_cons_of_mem device member))
        (Nat.lt_of_succ_lt_succ enough) (before ++ [device])
      simp only [List.flatMap_cons, blockTokens, List.cons_append, List.append_assoc,
        List.nil_append, parseDevices, if_true, nextIsOpenBrace, beq_self_eq_true]
      rw [block]
      dsimp only
      rw [later, List.append_assoc, List.singleton_append]

theorem parse_defaults_printed {block : DeviceConfig} {entries : List (String × String)}
    (listed : entries.Perm (settings block))
    (free : ∀ value ∈ stringValues block, isKnownKey value = false) (rounds : ℕ)
    (rest : List Token) (config : MultipathConfig) :
    parseSections (rounds + 1) (blockTokens "defaults" entries ++ rest) config =
      parseSections rounds rest { config with defaults := block } := by
  have read := parse_block_printed listed free rest
  simp only [blockTokens, List.cons_append, List.append_assoc, List.nil_append, parseSections,
    nextIsOpenBrace, beq_self_eq_true, if_true, read]

theorem parse_overrides_printed {block : DeviceConfig} {entries : List (String × String)}
    (listed : entries.Perm (settings block))
    (free : ∀ value ∈ stringValues block, isKnownKey value = false) (rounds : ℕ)
    (rest : List Token) (config : MultipathConfig) :
    parseSections (rounds + 1) (blockTokens "overrides" entries ++ rest) config =
      parseSections rounds rest { config with overrides := block } := by
  have read := parse_block_printed listed free rest
  have names : ("overrides" = "defaults") = False ∧ ("overrides" = "devices") = False := by
    simp
  simp only [blockTokens, List.cons_append, List.append_assoc, List.nil_append, parseSections,
    nextIsOpenBrace, beq_self_eq_true, if_true, names, if_false, read]

def devicesTokens (devices : List (List (String × String))) : List Token :=
  .word "devices" :: .openBrace ::
    (devices.flatMap (blockTokens "device") ++ [.closeBrace])

theorem parse_device_section_printed {devices : List DeviceConfig}
    {printed : List (List (String × String))}
    (listed : List.Forall₂ (fun entries device => entries.Perm (settings device)) printed devices)
    (free : ∀ device ∈ devices, ∀ value ∈ stringValues device, isKnownKey value = false)
    (rounds : ℕ) (rest : List Token) (config : MultipathConfig) :
    parseSections (rounds + 1) (devicesTokens printed ++ rest) config =
      parseSections rounds rest { config with devices := config.devices ++ devices } := by
  have blocks : printed.length ≤ (printed.flatMap (blockTokens "device")).length := by
    clear listed
    induction printed with
    | nil => exact Nat.le_refl _
    | cons entries printed ih =>
        rw [List.flatMap_cons, List.length_append, blockTokens]
        simp only [List.length_cons]
        omega
  have enough : devices.length <
      (printed.flatMap (blockTokens "device") ++ .closeBrace :: rest).length := by
    have same := listed.length_eq
    simp only [List.length_append, List.length_cons]
    omega
  have read := parse_devices_printed listed free enough config.devices rest
  have name : ("devices" = "defaults") = False := by simp
  simp only [devicesTokens, List.cons_append, List.append_assoc, List.nil_append, parseSections,
    nextIsOpenBrace, beq_self_eq_true, if_true, name, if_false, read]

theorem config_tokens (defaults : List (String × String))
    (devices : List (List (String × String))) (overrides : List (String × String)) :
    (configLexemes defaults devices overrides).map Lexeme.token =
      blockTokens "defaults" defaults ++ (devicesTokens devices ++
        (blockTokens "overrides" overrides ++ [])) := by
  have device : ∀ entries : List (String × String),
      (blockLexemes "device" entries).map Lexeme.token = blockTokens "device" entries :=
    block_tokens "device"
  simp [configLexemes, devicesLexemes, devicesTokens, block_tokens, List.map_flatMap, device,
    Lexeme.token]

theorem parse_sections_printed {config : MultipathConfig} (free : FreeOfKnownKeys config)
    {defaults overrides : List (String × String)} {devices : List (List (String × String))}
    (first : defaults.Perm (settings config.defaults))
    (listed : List.Forall₂ (fun entries device => entries.Perm (settings device)) devices
      config.devices)
    (last : overrides.Perm (settings config.overrides)) (rounds : ℕ) :
    parseSections (rounds + 3) ((configLexemes defaults devices overrides).map Lexeme.token)
      MultipathConfig.default = config := by
  have freeDefaults := free config.defaults (by simp)
  have freeOverrides := free config.overrides (by simp)
  have freeDevices : ∀ device ∈ config.devices, ∀ value ∈ stringValues device,
      isKnownKey value = false := fun device member => free device (by simp [member])
  rw [config_tokens, parse_defaults_printed first freeDefaults,
    parse_device_section_printed listed freeDevices, parse_overrides_printed last freeOverrides]
  cases rounds <;> rfl

theorem block_well_formed {name : String} (bare : (Lexeme.bare name).WellFormed)
    {block : DeviceConfig} {entries : List (String × String)}
    (listed : entries.Perm (settings block)) :
    ∀ lexeme ∈ blockLexemes name entries, lexeme.WellFormed := by
  have plain : ∀ key ∈ settingKeys, (Lexeme.bare key).WellFormed := by
    intro key member
    have shown : settingKeys.all isBareWord = true := by decide
    exact bare_well_formed (List.all_eq_true.mp shown key member)
  simp only [blockLexemes, List.forall_mem_cons, List.forall_mem_append, List.mem_flatMap]
  refine ⟨bare, trivial, ?_, trivial, by simp⟩
  intro lexeme member
  obtain ⟨entry, entryMember, shown⟩ := member
  have known : entry.1 ∈ settingKeys :=
    (settings_keys block).subset ((listed.map Prod.fst).subset (List.mem_map_of_mem entryMember))
  simp only [entryLexemes, List.mem_cons, List.not_mem_nil, or_false] at shown
  rcases shown with rfl | rfl
  · exact plain entry.1 known
  · trivial

theorem config_well_formed {config : MultipathConfig}
    {defaults overrides : List (String × String)} {devices : List (List (String × String))}
    (first : defaults.Perm (settings config.defaults))
    (listed : List.Forall₂ (fun entries device => entries.Perm (settings device)) devices
      config.devices)
    (last : overrides.Perm (settings config.overrides)) :
    ∀ lexeme ∈ configLexemes defaults devices overrides, lexeme.WellFormed := by
  have defaultsName : (Lexeme.bare "defaults").WellFormed := bare_well_formed (by decide)
  have devicesName : (Lexeme.bare "devices").WellFormed := bare_well_formed (by decide)
  have deviceName : (Lexeme.bare "device").WellFormed := bare_well_formed (by decide)
  have overridesName : (Lexeme.bare "overrides").WellFormed := bare_well_formed (by decide)
  simp only [configLexemes, devicesLexemes, List.forall_mem_append, List.forall_mem_cons,
    List.mem_flatMap]
  refine ⟨block_well_formed defaultsName first, ⟨devicesName, trivial, ?_, trivial, by simp⟩,
    block_well_formed overridesName last⟩
  intro lexeme member
  obtain ⟨entries, entriesMember, shown⟩ := member
  obtain ⟨device, -, pair⟩ := related_mem listed.flip entriesMember
  exact block_well_formed deviceName pair lexeme shown

/-- Parsing undoes printing. -/
theorem parse_multipath_config_printed (config : MultipathConfig)
    (free : FreeOfKnownKeys config) (text : String) (prints : Prints config text) :
    parseMultipathConfig text = config := by
  obtain ⟨defaults, devices, overrides, first, listed, last, shows⟩ := prints
  have tokens := tokenize_shows (config_well_formed first listed last) shows
  have count : ∃ rounds,
      ((configLexemes defaults devices overrides).map Lexeme.token).length = rounds + 3 := by
    rw [config_tokens]
    simp only [blockTokens, List.length_append, List.length_cons]
    exact ⟨_, rfl⟩
  obtain ⟨rounds, enough⟩ := count
  rw [parseMultipathConfig, tokens, enough]
  exact parse_sections_printed free first listed last rounds

end Sections

section Witness

private def awkward : MultipathConfig where
  defaults := { DeviceConfig.default with pollingInterval := some 18446744073709551615 }
  devices := [{ DeviceConfig.default with
    vendor := some "\"\x7b#\n\x7d"
    product := some ""
    noPathRetry := some "! queue" }]
  overrides := DeviceConfig.default

private def commentGap : List Blank :=
  [.comment '!' ['"', '\x7b'] '\r' (by decide) (by simp) (by decide),
    .space '\t' (by decide)]

private def commented : List (Lexeme × List Blank) :=
  (configLexemes (settings awkward.defaults) (awkward.devices.map settings)
    (settings awkward.overrides)).map fun lexeme => (lexeme, commentGap)

/-- Quotes, braces, marks, a line break and nothing at all as values, with a
comment in every gap. -/
theorem parse_multipath_config_printed_awkward :
    parseMultipathConfig (String.ofList (spreadChars commented)) = awkward := by
  apply parse_multipath_config_printed awkward (by decide)
  refine ⟨settings awkward.defaults, awkward.devices.map settings, settings awkward.overrides,
    List.Perm.refl _, List.Forall₂.cons (List.Perm.refl _) List.Forall₂.nil, List.Perm.refl _,
    [], commented, ?_, ?_, String.toList_ofList⟩
  · rw [commented, List.map_map]
    exact List.map_id _
  · intro entry member
    obtain ⟨lexeme, -, rfl⟩ := List.mem_map.mp (List.mem_of_mem_dropLast member)
    exact List.cons_ne_nil _ _

end Witness

end PveSanFenced.ConfigRoundTrip
