import PveSanFenced.ConfigSections

/-!
# Inserting an unknown block

A block of a name that no loop knows can be put between two sections, or between
two settings of a block, without a trace: the loops there count braces. The loop
inside `devices` does not. It takes the closing brace of an inserted block for
its own, and the device entries behind it are lost.
-/

namespace PveSanFenced.ConfigInsertion

open PveSanFenced.Config
open PveSanFenced.ConfigLayout
open PveSanFenced.ConfigRoundTrip
open PveSanFenced.ConfigSections

set_option autoImplicit false

section Files

/-- A section of a well-formed file, with its settings as keys and values. -/
inductive FileSection where
  | defaults (entries : List (String × String))
  | devices (devices : List (List (String × String)))
  | overrides (entries : List (String × String))

def entryTokens (entries : List (String × String)) : List Token :=
  entries.flatMap fun entry => [.word entry.1, .word entry.2]

def deviceTokens (devices : List (List (String × String))) : List Token :=
  devices.flatMap fun entries => namedBlock "device" (entryTokens entries)

def sectionTokens : FileSection → List Token
  | .defaults entries => namedBlock "defaults" (entryTokens entries)
  | .devices devices => namedBlock "devices" (deviceTokens devices)
  | .overrides entries => namedBlock "overrides" (entryTokens entries)

def fileTokens (file : List FileSection) : List Token := file.flatMap sectionTokens

def blocksOf : FileSection → List (List (String × String))
  | .defaults entries => [entries]
  | .devices devices => devices
  | .overrides entries => [entries]

/-- No value is a word that the parser takes for the next key. -/
def WellFormed (file : List FileSection) : Prop :=
  ∀ part ∈ file, ∀ entries ∈ blocksOf part, ∀ entry ∈ entries, isKnownKey entry.2 = false

inductive PlaceKind where
  | betweenSections
  | insideBlock
  | betweenDevices
  deriving DecidableEq, Repr

/-- The places between two entries of a file, with the tokens before and behind
them. -/
inductive Place : List FileSection → PlaceKind → List Token → List Token → Prop
  | sections (front back : List FileSection) :
      Place (front ++ back) .betweenSections (fileTokens front) (fileTokens back)
  | defaults (front back : List FileSection) (entries entries' : List (String × String)) :
      Place (front ++ .defaults (entries ++ entries') :: back) .insideBlock
        (fileTokens front ++ .word "defaults" :: .openBrace :: entryTokens entries)
        (entryTokens entries' ++ .closeBrace :: fileTokens back)
  | overrides (front back : List FileSection) (entries entries' : List (String × String)) :
      Place (front ++ .overrides (entries ++ entries') :: back) .insideBlock
        (fileTokens front ++ .word "overrides" :: .openBrace :: entryTokens entries)
        (entryTokens entries' ++ .closeBrace :: fileTokens back)
  | device (front back : List FileSection) (devices devices' : List (List (String × String)))
      (entries entries' : List (String × String)) :
      Place (front ++ .devices (devices ++ (entries ++ entries') :: devices') :: back) .insideBlock
        (fileTokens front ++ .word "devices" :: .openBrace ::
          (deviceTokens devices ++ .word "device" :: .openBrace :: entryTokens entries))
        (entryTokens entries' ++ .closeBrace ::
          (deviceTokens devices' ++ .closeBrace :: fileTokens back))
  | devices (front back : List FileSection) (devices devices' : List (List (String × String))) :
      Place (front ++ .devices (devices ++ devices') :: back) .betweenDevices
        (fileTokens front ++ .word "devices" :: .openBrace :: deviceTokens devices)
        (deviceTokens devices' ++ .closeBrace :: fileTokens back)

def sectionKeywords : List String := ["defaults", "devices", "device", "overrides"]

theorem not_section_keyword_iff {name : String} : name ∉ sectionKeywords ↔
    name ≠ "defaults" ∧ name ≠ "devices" ∧ name ≠ "device" ∧ name ≠ "overrides" := by
  simp [sectionKeywords]

/-- Whatever unknown block is put between the tokens, the file is read the
same. -/
def Transparent (before after : List Token) : Prop :=
  ∀ (name : String) (body : List Token), name ∉ sectionKeywords → Balanced body →
    ∀ text text', tokenize text = before ++ after →
      tokenize text' = before ++ (namedBlock name body ++ after) →
        parseMultipathConfig text' = parseMultipathConfig text

theorem balanced_append {front back : List Token} (first : Balanced front)
    (second : Balanced back) : Balanced (front ++ back) := by
  induction first with
  | nil => exact second
  | word text balanced ih => exact Balanced.word text ih
  | nested inside behind ihInside ihBehind =>
      rw [List.cons_append, List.append_assoc, List.cons_append]
      exact Balanced.nested inside ihBehind

theorem balanced_named_block (name : String) {body : List Token} (balanced : Balanced body) :
    Balanced (namedBlock name body) :=
  Balanced.word name (Balanced.nested balanced Balanced.nil)

theorem balanced_entries (entries : List (String × String)) : Balanced (entryTokens entries) := by
  induction entries with
  | nil => exact Balanced.nil
  | cons entry entries ih => exact Balanced.word entry.1 (Balanced.word entry.2 ih)

theorem place_tokens {file : List FileSection} {kind : PlaceKind} {before after : List Token}
    (place : Place file kind before after) : before ++ after = fileTokens file := by
  cases place <;>
    simp [fileTokens, sectionTokens, namedBlock, deviceTokens, entryTokens]

theorem arrives_devices {before : List Token} (arrives : Arrives before .devices)
    (devices : List (List (String × String))) :
    Arrives (before ++ deviceTokens devices) .devices := by
  induction devices generalizing before with
  | nil =>
      rw [deviceTokens, List.flatMap_nil, List.append_nil]
      exact arrives
  | cons entries devices ih =>
      rw [deviceTokens, List.flatMap_cons, ← List.append_assoc]
      exact ih (Arrives.block .device arrives (balanced_entries entries))

theorem arrives_section {before : List Token} (arrives : Arrives before .sections)
    (part : FileSection) : Arrives (before ++ sectionTokens part) .sections := by
  cases part with
  | defaults entries => exact Arrives.block .defaults arrives (balanced_entries entries)
  | overrides entries => exact Arrives.block .overrides arrives (balanced_entries entries)
  | devices devices =>
      have opened := arrives_devices (Arrives.devicesSection arrives) devices
      have closed := Arrives.closeBrace opened
      have split : before ++ sectionTokens (.devices devices) =
          before ++ [.word "devices", .openBrace] ++ deviceTokens devices ++ [.closeBrace] := by
        simp [sectionTokens, namedBlock]
      rw [split]
      exact closed

theorem arrives_file {before : List Token} (arrives : Arrives before .sections)
    (file : List FileSection) : Arrives (before ++ fileTokens file) .sections := by
  induction file generalizing before with
  | nil =>
      rw [fileTokens, List.flatMap_nil, List.append_nil]
      exact arrives
  | cons part file ih =>
      rw [fileTokens, List.flatMap_cons, ← List.append_assoc]
      exact ih (arrives_section arrives part)

end Files

section Counted

theorem parse_block_entries_append {entries : List (String × String)}
    (free : ∀ entry ∈ entries, isKnownKey entry.2 = false) (block : DeviceConfig)
    (rest : List Token) :
    parseBlock (entryTokens entries ++ rest) 1 block =
      parseBlock rest 1 (assignAll block entries) := by
  induction entries generalizing block with
  | nil => rfl
  | cons entry entries ih =>
      have value := free entry (List.mem_cons_self ..)
      rw [entryTokens, List.flatMap_cons, List.append_assoc, List.cons_append, List.cons_append,
        parseBlock, if_pos ⟨rfl, value⟩]
      exact ih (fun other member => free other (List.mem_cons_of_mem entry member)) _

theorem parse_block_inserted (name : String) {body : List Token} (balanced : Balanced body)
    (rest : List Token) (block : DeviceConfig) :
    parseBlock (namedBlock name body ++ rest) 1 block = parseBlock rest 1 block := by
  rw [named_block_append, parse_block_dangling name (by simp), parse_block_skips_nested balanced]

theorem body_of_inserted {entries entries' : List (String × String)}
    (free : ∀ entry ∈ entries, isKnownKey entry.2 = false) (name : String) {body : List Token}
    (balanced : Balanced body) :
    bodyOf (entryTokens entries ++ (namedBlock name body ++ entryTokens entries')) =
      bodyOf (entryTokens entries ++ entryTokens entries') := by
  unfold bodyOf
  rw [List.append_assoc, List.append_assoc, List.append_assoc, parse_block_entries_append free,
    parse_block_entries_append free, parse_block_inserted name balanced]

theorem parse_eq_of_reads {tokens tokens' : List Token} {text text' : String}
    (shown : tokenize text = tokens) (shown' : tokenize text' = tokens')
    (same : readBlocks .sections tokens' = readBlocks .sections tokens) :
    parseMultipathConfig text' = parseMultipathConfig text := by
  rw [parse_multipath_config_reads, parse_multipath_config_reads, shown, shown', same]

theorem transparent_between_sections {before after : List Token}
    (arrives : Arrives before .sections) : Transparent before after := by
  intro name body unknown balanced text text' shown shown'
  rw [not_section_keyword_iff] at unknown
  obtain ⟨notDefaults, notDevices, -, notOverrides⟩ := unknown
  obtain ⟨reads, passes⟩ := arrives_passes arrives
  have skipped := passes_unknown_section notDefaults notDevices notOverrides balanced
  apply parse_eq_of_reads shown shown'
  rw [passes, passes, skipped, List.nil_append]

theorem transparent_inside_block (kind : BlockKind) {before : List Token}
    (arrives : Arrives before kind.loop) {entries : List (String × String)}
    (free : ∀ entry ∈ entries, isKnownKey entry.2 = false)
    (entries' : List (String × String)) (rest : List Token) :
    Transparent (before ++ .word kind.keyword :: .openBrace :: entryTokens entries)
      (entryTokens entries' ++ .closeBrace :: rest) := by
  intro name body _ balanced text text' shown shown'
  have settings := balanced_entries entries
  have settings' := balanced_entries entries'
  obtain ⟨earlier, later, around⟩ := read_blocks_around arrives rest
  have plain := around _ (balanced_append settings settings')
  have inserted := around _ (balanced_append settings
    (balanced_append (balanced_named_block name balanced) settings'))
  rw [body_of_inserted free name balanced, ← plain] at inserted
  apply parse_eq_of_reads shown shown'
  simpa [namedBlock] using inserted

theorem transparent_at_place {file : List FileSection} (wellFormed : WellFormed file)
    {kind : PlaceKind} {before after : List Token} (place : Place file kind before after)
    (counted : kind ≠ .betweenDevices) : Transparent before after := by
  have arrives : ∀ front : List FileSection, Arrives (fileTokens front) .sections :=
    fun front => arrives_file Arrives.start front
  have free : ∀ {front back : List FileSection} {part : FileSection}
      {entries entries' : List (String × String)}, file = front ++ part :: back →
      entries ++ entries' ∈ blocksOf part → ∀ entry ∈ entries, isKnownKey entry.2 = false := by
    intro front back part entries entries' split listed entry member
    exact wellFormed part (split ▸ by simp) _ listed entry (List.mem_append_left _ member)
  cases place with
  | sections front back => exact transparent_between_sections (arrives front)
  | defaults front back entries entries' =>
      exact transparent_inside_block .defaults (arrives front)
        (free rfl (List.mem_singleton_self _)) entries' _
  | overrides front back entries entries' =>
      exact transparent_inside_block .overrides (arrives front)
        (free rfl (List.mem_singleton_self _)) entries' _
  | device front back devices devices' entries entries' =>
      have inside := arrives_devices (Arrives.devicesSection (arrives front)) devices
      have values : ∀ entry ∈ entries, isKnownKey entry.2 = false :=
        @free front back _ entries entries' rfl (by simp [blocksOf])
      have transparent := transparent_inside_block .device inside values entries'
        (deviceTokens devices' ++ .closeBrace :: fileTokens back)
      simpa [BlockKind.keyword] using transparent
  | devices front back devices devices' => exact absurd rfl counted

end Counted

section Uncounted

def KeywordFree (body : List Token) : Prop :=
  ∀ text, Token.word text ∈ body → text ∉ sectionKeywords

theorem keyword_free_nested {inner rest : List Token}
    (free : KeywordFree (.openBrace :: (inner ++ .closeBrace :: rest))) :
    KeywordFree inner ∧ KeywordFree rest := by
  constructor
  · intro text member
    exact free text (by simp [member])
  · intro text member
    exact free text (by simp [member])

theorem keyword_free_tail {token : Token} {rest : List Token}
    (free : KeywordFree (token :: rest)) : KeywordFree rest :=
  fun text member => free text (List.mem_cons_of_mem token member)

theorem passes_unread_sections {body : List Token} (balanced : Balanced body)
    (free : KeywordFree body) : Passes .sections (body ++ [.closeBrace]) [] .sections := by
  induction count : body.length using Nat.strong_induction_on generalizing body with
  | h length ih =>
      cases balanced with
      | nil => exact passes_close_brace .sections
      | @nested inner behind inside outside =>
          simp only [List.length_cons, List.length_append] at count
          obtain ⟨freeInside, freeBehind⟩ := keyword_free_nested free
          have first := ih _ (by omega) inside freeInside rfl
          have second := ih _ (by omega) outside freeBehind rfl
          have passes := passes_append (passes_open_brace .sections) (passes_append first second)
          simpa using passes
      | @word name tail balanced =>
          rw [List.length_cons] at count
          obtain ⟨notDefaults, notDevices, -, notOverrides⟩ :=
            not_section_keyword_iff.mp (free name (List.mem_cons_self ..))
          cases balanced with
          | nil => exact passes_section_word name (by simp)
          | @word text rest balanced =>
              rw [List.length_cons] at count
              have freeBehind := keyword_free_tail (keyword_free_tail free)
              have later := ih _ (by omega) balanced freeBehind rfl
              exact passes_append (passes_section_word name (by simp)) later
          | @nested inner rest inside behind =>
              simp only [List.length_cons, List.length_append] at count
              have freeBehind := (keyword_free_nested (keyword_free_tail free)).2
              have later := ih _ (by omega) behind freeBehind rfl
              have passes := passes_append (passes_unknown_section notDefaults notDevices
                notOverrides inside) later
              simpa [namedBlock] using passes

theorem passes_unread_devices {body : List Token} (balanced : Balanced body)
    (free : KeywordFree body) : Passes .devices (body ++ [.closeBrace]) [] .sections := by
  induction balanced with
  | nil => exact passes_close_brace .devices
  | word text balanced ih =>
      obtain ⟨-, -, notDevice, -⟩ := not_section_keyword_iff.mp (free text (List.mem_cons_self ..))
      exact passes_append (passes_other_word notDevice) (ih (keyword_free_tail free))
  | nested inside behind ihInside ihBehind =>
      obtain ⟨freeInside, freeBehind⟩ := keyword_free_nested free
      have passes := passes_append (passes_open_brace .devices)
        (passes_append (ihInside freeInside) (passes_unread_sections behind freeBehind))
      simpa using passes

/-- Outside `devices` a device entry is a section nobody knows. -/
theorem passes_lost_devices (devices : List (List (String × String))) :
    Passes .sections (deviceTokens devices) [] .sections := by
  induction devices with
  | nil => exact passes_nil .sections
  | cons entries devices ih =>
      rw [deviceTokens, List.flatMap_cons]
      exact passes_append (passes_unknown_section (by decide) (by decide) (by decide)
        (balanced_entries entries)) ih

theorem passes_device_entries (devices : List (List (String × String))) :
    Passes .devices (deviceTokens devices)
      (devices.map fun entries => ⟨.device, bodyOf (entryTokens entries)⟩) .devices := by
  induction devices with
  | nil => exact passes_nil .devices
  | cons entries devices ih =>
      rw [deviceTokens, List.flatMap_cons, List.map_cons]
      exact passes_append (passes_block .device (balanced_entries entries)) ih

theorem collected_devices (reads : List BlockRead) (config : MultipathConfig) :
    (reads.foldl record config).devices =
      config.devices ++ (reads.filter (·.kind = .device)).map BlockRead.block := by
  induction reads generalizing config with
  | nil => simp
  | cons read reads ih =>
      obtain ⟨kind, block⟩ := read
      rw [List.foldl_cons, ih, List.filter_cons]
      cases kind with
      | defaults => simp [record]
      | device => simp [record]
      | overrides => simp [record]

section Lost

variable (devices' : List (List (String × String))) (back : List FileSection)

theorem read_remaining_devices :
    readBlocks .devices (deviceTokens devices' ++ .closeBrace :: fileTokens back) =
      (devices'.map fun entries => ⟨.device, bodyOf (entryTokens entries)⟩) ++
        readBlocks .sections (fileTokens back) := by
  have passes := passes_append (passes_device_entries devices') (passes_close_brace .devices)
    (fileTokens back)
  simpa using passes

theorem read_lost_devices :
    readBlocks .sections (deviceTokens devices' ++ .closeBrace :: fileTokens back) =
      readBlocks .sections (fileTokens back) := by
  have passes := passes_append (passes_lost_devices devices') (passes_close_brace .sections)
    (fileTokens back)
  simpa using passes

theorem passes_inserted_devices {name : String} (unknown : name ∉ sectionKeywords)
    {body : List Token} (balanced : Balanced body) (free : KeywordFree body) :
    Passes .devices (namedBlock name body) [] .sections := by
  obtain ⟨-, -, notDevice, -⟩ := not_section_keyword_iff.mp unknown
  exact passes_append (passes_other_word notDevice)
    (passes_append (passes_open_brace .devices) (passes_unread_devices balanced free))

/-- Behind a block without keywords the loop inside `devices` has ended, and the
device entries that follow are lost. -/
theorem devices_kept_iff {before : List Token} (arrives : Arrives before .devices) {name : String}
    (unknown : name ∉ sectionKeywords) {body : List Token} (balanced : Balanced body)
    (free : KeywordFree body) {text text' : String}
    (shown : tokenize text = before ++ (deviceTokens devices' ++ .closeBrace :: fileTokens back))
    (shown' : tokenize text' = before ++
      (namedBlock name body ++ (deviceTokens devices' ++ .closeBrace :: fileTokens back))) :
    parseMultipathConfig text' = parseMultipathConfig text ↔ devices' = [] := by
  obtain ⟨earlier, passes⟩ := arrives_passes arrives
  have plain : readBlocks .sections (tokenize text) = earlier ++
      ((devices'.map fun entries => ⟨.device, bodyOf (entryTokens entries)⟩) ++
        readBlocks .sections (fileTokens back)) := by
    rw [shown, passes, read_remaining_devices]
  have inserted : readBlocks .sections (tokenize text') =
      earlier ++ readBlocks .sections (fileTokens back) := by
    rw [shown', passes, passes_inserted_devices unknown balanced free, List.nil_append,
      read_lost_devices]
  constructor
  · intro same
    have counts := congrArg (fun config => config.devices.length) same
    simp only [parse_multipath_config_reads, plain, inserted, collected_devices,
      List.filter_append, List.map_append, List.length_append, List.filter_map, List.length_map,
      Function.comp_def, decide_true, List.filter_true] at counts
    apply List.length_eq_zero_iff.mp
    omega
  · intro none
    subst none
    rw [parse_multipath_config_reads, parse_multipath_config_reads, plain, inserted]
    rfl

/-- The block that makes the difference: an empty one where a device follows,
one with a device of its own where none does. -/
theorem not_transparent_between_devices {before : List Token} (arrives : Arrives before .devices) :
    ¬Transparent before (deviceTokens devices' ++ .closeBrace :: fileTokens back) := by
  intro transparent
  have unknown : "foo" ∉ sectionKeywords := by decide
  cases devices' with
  | cons entries devices' =>
      obtain ⟨text, shown⟩ := exists_tokenize
        (before ++ (deviceTokens (entries :: devices') ++ .closeBrace :: fileTokens back))
      obtain ⟨text', shown'⟩ := exists_tokenize (before ++ (namedBlock "foo" [] ++
        (deviceTokens (entries :: devices') ++ .closeBrace :: fileTokens back)))
      have same := transparent "foo" [] unknown Balanced.nil text text' shown shown'
      have free : KeywordFree [] := fun text member => absurd member (List.not_mem_nil)
      have lost := (devices_kept_iff _ back arrives unknown Balanced.nil free shown shown').mp same
      cases lost
  | nil =>
      have balanced : Balanced (namedBlock "device" []) :=
        balanced_named_block "device" Balanced.nil
      obtain ⟨text, shown⟩ := exists_tokenize
        (before ++ (deviceTokens [] ++ .closeBrace :: fileTokens back))
      obtain ⟨text', shown'⟩ := exists_tokenize (before ++
        (namedBlock "foo" (namedBlock "device" []) ++
          (deviceTokens [] ++ .closeBrace :: fileTokens back)))
      have same := transparent "foo" _ unknown balanced text text' shown shown'
      obtain ⟨earlier, passes⟩ := arrives_passes arrives
      have device : Passes .devices (namedBlock "foo" (namedBlock "device" []))
          [⟨.device, bodyOf []⟩] .sections := by
        have other : "foo" ≠ "device" := by decide
        have read := passes_append (passes_other_word other)
          (passes_append (passes_open_brace .devices)
            (passes_append (passes_block .device Balanced.nil) (passes_close_brace .devices)))
        exact read
      have counts := congrArg (fun config => config.devices.length) same
      simp only [parse_multipath_config_reads, shown, shown', passes (_ ++ _), device (_ ++ _),
        read_remaining_devices, read_lost_devices, collected_devices, List.filter_append,
        List.map_append, List.length_append, List.map_nil, List.filter_nil, List.length_nil]
        at counts
      simp at counts

end Lost

theorem closing_brace_follows (devices' : List (List (String × String)))
    (rest : List Token) :
    (deviceTokens devices' ++ .closeBrace :: rest).head? = some .closeBrace ↔ devices' = [] := by
  cases devices' with
  | nil => simp [deviceTokens]
  | cons entries devices' => simp [deviceTokens, namedBlock]

/-- Unknown blocks leave no trace at exactly the places that are not directly
inside a `devices` section. One without keywords does harm there exactly if a
device entry follows. -/
theorem inserted_block_transparent (file : List FileSection) (wellFormed : WellFormed file)
    (kind : PlaceKind) (before after : List Token) (place : Place file kind before after) :
    (Transparent before after ↔ kind ≠ .betweenDevices) ∧
    ∀ (name : String) (body : List Token), name ∉ sectionKeywords → Balanced body →
      KeywordFree body → ∀ text text', tokenize text = before ++ after →
        tokenize text' = before ++ (namedBlock name body ++ after) →
          (parseMultipathConfig text' = parseMultipathConfig text ↔
            kind ≠ .betweenDevices ∨ after.head? = some .closeBrace) := by
  by_cases counted : kind ≠ .betweenDevices
  · have transparent := transparent_at_place wellFormed place counted
    refine ⟨⟨fun _ => counted, fun _ => transparent⟩, ?_⟩
    intro name body unknown balanced free text text' shown shown'
    have same := transparent name body unknown balanced text text' shown shown'
    exact ⟨fun _ => Or.inl counted, fun _ => same⟩
  · cases place with
    | sections => exact absurd (by decide) counted
    | defaults => exact absurd (by decide) counted
    | overrides => exact absurd (by decide) counted
    | device => exact absurd (by decide) counted
    | devices front back devices devices' =>
        have inside : Arrives (fileTokens front ++ .word "devices" :: .openBrace ::
            deviceTokens devices) .devices := by
          have opened := Arrives.devicesSection (arrives_file Arrives.start front)
          have read := arrives_devices opened devices
          simpa using read
        constructor
        · constructor
          · intro transparent
            exact absurd transparent (not_transparent_between_devices devices' back inside)
          · exact fun elsewhere => absurd rfl elsewhere
        · intro name body unknown balanced free text text' shown shown'
          rw [devices_kept_iff devices' back inside unknown balanced free shown shown',
            closing_brace_follows]
          simp

theorem inserted_block_transparent_defaults :
    parseMultipathConfig "defaults \x7b prio a foo \x7b x \x7b \x7d \x7d failback b \x7d" =
      parseMultipathConfig "defaults \x7b prio a failback b \x7d" := by
  have wellFormed : WellFormed [.defaults ([("prio", "a")] ++ [("failback", "b")])] := by
    intro part member entries listed entry inside
    simp only [List.mem_singleton] at member
    subst member
    simp only [blocksOf, List.mem_singleton] at listed
    subst listed
    simp only [List.cons_append, List.nil_append, List.mem_cons, List.not_mem_nil, or_false]
      at inside
    rcases inside with rfl | rfl <;> decide
  have place := Place.defaults [] [] [("prio", "a")] [("failback", "b")]
  have transparent := (inserted_block_transparent _ wellFormed _ _ _ place).1.mpr (by decide)
  exact transparent "foo" [.word "x", .openBrace, .closeBrace] (by decide)
    (Balanced.word "x" (Balanced.nested Balanced.nil Balanced.nil)) _ _ (by decide) (by decide)

/-- An empty unknown block between the opening of `devices` and its only device
entry: the entry is lost. -/
theorem inserted_block_loses_device :
    ¬∀ file, WellFormed file → ∀ kind before after, Place file kind before after →
      Transparent before after := by
  intro transparent
  have wellFormed : WellFormed [.devices [[("vendor", "X")]]] := by
    intro part member entries listed entry inside
    simp only [List.mem_singleton] at member
    subst member
    simp only [blocksOf, List.mem_singleton] at listed
    subst listed
    simp only [List.mem_singleton] at inside
    subst inside
    decide
  have place := Place.devices [] [] [] [[("vendor", "X")]]
  have same := transparent _ wellFormed _ _ _ place "foo" [] (by decide) Balanced.nil
    "devices \x7b device \x7b vendor X \x7d \x7d"
    "devices \x7b foo \x7b \x7d device \x7b vendor X \x7d \x7d" (by decide) (by decide)
  revert same
  decide

end Uncounted

end PveSanFenced.ConfigInsertion
