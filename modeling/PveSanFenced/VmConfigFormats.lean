import PveSanFenced.Disks

/-!
# The two formats of a VM configuration

The file on pmxcfs has `key: value` lines, `pvesh` answers with a JSON object.
`parse_vm_config` tells them apart by trying JSON first. For the same options
both give the same map.
-/

namespace PveSanFenced.VmConfigFormats

open PveSanFenced.Disks
open PveSanFenced.Library.Collections
open PveSanFenced.Library.Text
open PveSanFenced.Pvesh

set_option autoImplicit false

section Options

def isOptionChar (c : Char) : Bool :=
  ('a' ≤ c && c ≤ 'z') || ('0' ≤ c && c ≤ '9') || c == '_'

def OptionName (key : String) : Prop :=
  key ≠ "" ∧ ∀ c ∈ key.toList, isOptionChar c = true

/-- A single line without surrounding whitespace. -/
def OptionValue (value : String) : Prop := '\n' ∉ value.toList ∧ trim value = value

def ValidOptions (options : HashMap String String) : Prop :=
  ∀ key value, options.lookup key = some value → OptionName key ∧ OptionValue value

/-- The entries of the map, each once, in any order. -/
def Lists (entries : List (String × String)) (options : HashMap String String) : Prop :=
  (entries.map Prod.fst).Nodup ∧
    ∀ key value, (key, value) ∈ entries ↔ options.lookup key = some value

inductive ConfigLine where
  | option (key value : String)
  | blank (white : String)
  | comment (indent text : String)

namespace ConfigLine

def text : ConfigLine → String
  | option key value => key ++ ": " ++ value
  | blank white => white
  | comment indent text => indent ++ "#" ++ text

def Plain : ConfigLine → Prop
  | option _ _ => True
  | blank white => ∀ c ∈ white.toList, isWhitespace c = true ∧ c ≠ '\n'
  | comment indent text => (∀ c ∈ indent.toList, isWhitespace c = true ∧ c ≠ '\n') ∧
      '\n' ∉ text.toList

def Valid : ConfigLine → Prop
  | option key value => OptionName key ∧ OptionValue value
  | line => line.Plain

def entry : ConfigLine → List (String × String)
  | option key value => [(key, value)]
  | blank _ => []
  | comment _ _ => []

end ConfigLine

/-- A file with these lines. A section header may follow them, with any text
behind it. -/
inductive FileText : List ConfigLine → String → Prop
  | ended : FileText [] ""
  | header (rest : String) : FileText [] ("[" ++ rest)
  | last (line : ConfigLine) : FileText [line] line.text
  | line (line : ConfigLine) {lines : List ConfigLine} {text : String}
      (behind : FileText lines text) : FileText (line :: lines) (line.text ++ "\n" ++ text)

def ShownAsFile (options : HashMap String String) (text : String) : Prop :=
  ∃ lines, FileText lines text ∧ (∀ line ∈ lines, line.Plain) ∧
    Lists (lines.flatMap ConfigLine.entry) options

/-- An option in a JSON object: a string, or an integer where the value is its
decimal. -/
inductive Written where
  | string (value : String)
  | integer (number : ℤ)

namespace Written

def value : Written → String
  | string value => value
  | integer number => toString number

def Fits : Written → Prop
  | string _ => True
  | integer number => -2 ^ 63 ≤ number ∧ number < 2 ^ 64

end Written

/-- How the JSON parser reads such an option. Without arbitrary precision an
integer that does not fit becomes a double, and prints as one. -/
inductive Reads : Written → Json → Prop
  | string (value : String) : Reads (.string value) (.string value)
  | word {number : ℤ} (fits : (Written.integer number).Fits) : Reads (.integer number)
      (.number (if 0 ≤ number then some (UInt64.ofNat number.toNat) else none) (toString number))
  | double {number : ℤ} (large : ¬(Written.integer number).Fits) (text : String) :
      Reads (.integer number) (.number none text)

/-- The text is a JSON object with these members, as the parser reads it. -/
def ShownAsJson (jsonValue : String → Option Json) (written : List (String × Written))
    (text : String) : Prop :=
  ∃ members, jsonValue text = some (.object members) ∧
    List.Forall₂ (fun member entry => member.1 = entry.1 ∧ Reads entry.2 member.2) members written

def WritesAll (written : List (String × Written)) (options : HashMap String String) : Prop :=
  Lists (written.map fun entry => (entry.1, entry.2.value)) options

def firstInk (text : String) : Option Char := (text.toList.dropWhile isWhitespace).head?

/-- By the grammar of JSON an object opens with a brace. -/
def ObjectsOpen (jsonValue : String → Option Json) : Prop :=
  ∀ text members, jsonValue text = some (.object members) → firstInk text = some '\x7b'

end Options

section Lines

theorem option_char_ink {c : Char} (option : isOptionChar c = true) : isWhitespace c = false := by
  simp only [isOptionChar, Bool.or_eq_true, Bool.and_eq_true, decide_eq_true_eq, beq_iff_eq,
    Char.le_def, UInt32.le_iff_toNat_le] at option
  have code : c.toNat = c.val.toNat := rfl
  rcases option with (⟨above, below⟩ | ⟨above, below⟩) | underscore
  · have above' : 97 ≤ c.val.toNat := above
    have below' : c.val.toNat ≤ 122 := below
    exact ink_of_code (by omega) (by omega)
  · have above' : 48 ≤ c.val.toNat := above
    have below' : c.val.toNat ≤ 57 := below
    exact ink_of_code (by omega) (by omega)
  · rw [underscore]
    decide

theorem option_char_ne {c other : Char} (option : isOptionChar c = true)
    (foreign : isOptionChar other = false) : c ≠ other := by
  intro same
  rw [same, foreign] at option
  cases option

theorem not_mem_name {key : String} (name : OptionName key) {c : Char}
    (foreign : isOptionChar c = false) : c ∉ key.toList := by
  intro member
  exact option_char_ne (name.2 c member) foreign rfl

theorem name_chars {key : String} (name : OptionName key) :
    ∃ first rest, key.toList = first :: rest ∧ isOptionChar first = true := by
  obtain ⟨nonempty, chars⟩ := name
  cases listed : key.toList with
  | nil =>
      have empty : key = "" := String.toList_inj.mp listed
      exact absurd empty nonempty
  | cons first rest =>
      exact ⟨first, rest, rfl, chars first (by rw [listed]; exact List.mem_cons_self ..)⟩

theorem trim_name {key : String} (name : OptionName key) : trim key = key := by
  have ink : ∀ c ∈ key.toList, isWhitespace c = false := fun c member =>
    option_char_ink (name.2 c member)
  have opening : key.toList.dropWhile isWhitespace = key.toList := by
    rw [List.dropWhile_eq_self_iff]
    intro filled
    simpa using ink _ (List.getElem_mem filled)
  have closing : key.toList.rdropWhile isWhitespace = key.toList := by
    rw [List.rdropWhile_eq_self_iff]
    intro filled
    simpa using ink _ (List.getLast_mem filled)
  rw [trim, opening, closing, String.ofList_toList]

theorem trim_after_colon {value : String} (valid : OptionValue value) :
    trim (String.ofList ((' ' :: value.toList).rdropWhile isWhitespace)) = value := by
  obtain ⟨opening, closing⟩ := of_trim_eq valid.2
  rw [rdrop_while_cons, closing]
  split_ifs with empty
  · have none : value = "" := String.toList_inj.mp empty
    rw [none]
    decide
  · rw [trim, String.toList_ofList, List.dropWhile_cons_of_pos (by decide), opening, closing,
      String.ofList_toList]

theorem line_entry_option {key value : String} (name : OptionName key)
    (valid : OptionValue value) : lineEntry (key ++ ": " ++ value) = some [(key, value)] := by
  obtain ⟨first, rest, chars, option⟩ := name_chars name
  have ink := option_char_ink option
  have notHash : first ≠ '#' := option_char_ne option (by decide)
  have notBracket : first ≠ '[' := option_char_ne option (by decide)
  have shown : key ++ ": " ++ value =
      String.ofList ([] ++ first :: (rest ++ ':' :: ' ' :: value.toList)) := by
    apply String.toList_inj.mp
    simp [chars]
  have colon : isWhitespace ':' = false := by decide
  have trimmed : trim (key ++ ": " ++ value) =
      key ++ ":" ++ String.ofList ((' ' :: value.toList).rdropWhile isWhitespace) := by
    rw [shown, trim_from (by simp) ink, rdrop_while_append_cons colon]
    apply String.toList_inj.mp
    simp [chars]
  have begins : ∀ {c : Char}, first ≠ c → ∀ back : String,
      startsWith (key ++ ":" ++ back) (String.singleton c) = false := by
    intro c other back
    have apart : (c == first) = false := by simpa using Ne.symm other
    simp [startsWith, chars, List.isPrefixOf, apart]
  have split : splitOnce ':'
      (key ++ ":" ++ String.ofList ((' ' :: value.toList).rdropWhile isWhitespace)) =
        some (key, String.ofList ((' ' :: value.toList).rdropWhile isWhitespace)) :=
    split_once_append _ (not_mem_name name (by decide))
  have filled : ∀ back : String, key ++ ":" ++ back ≠ "" := by
    intro back empty
    have none := congrArg String.toList empty
    simp [chars] at none
  have noComment : startsWith (key ++ ":" ++
      String.ofList ((' ' :: value.toList).rdropWhile isWhitespace)) "#" = false :=
    begins notHash _
  have noHeader : startsWith (key ++ ":" ++
      String.ofList ((' ' :: value.toList).rdropWhile isWhitespace)) "[" = false :=
    begins notBracket _
  rw [lineEntry, trimmed]
  simp only [filled, noComment, noHeader, split, trim_name name, trim_after_colon valid,
    Bool.false_eq_true, or_self, if_false]

theorem line_entry_header (text : List Char) : lineEntry (String.ofList ('[' :: text)) = none := by
  have none : ∀ c ∈ ([] : List Char), isWhitespace c = true := by simp
  have trimmed := trim_from none (c := '[') (by decide) text
  rw [List.nil_append] at trimmed
  rw [lineEntry, trimmed]
  simp [startsWith, List.isPrefixOf]

theorem line_entry_comment {indent : String}
    (white : ∀ c ∈ indent.toList, isWhitespace c = true) (text : String) :
    lineEntry (indent ++ "#" ++ text) = some [] := by
  have shown : indent ++ "#" ++ text = String.ofList (indent.toList ++ '#' :: text.toList) := by
    apply String.toList_inj.mp
    simp
  rw [lineEntry, shown, trim_from white (by decide)]
  simp [startsWith, List.isPrefixOf]

theorem line_entry_blank {white : String}
    (blank : ∀ c ∈ white.toList, isWhitespace c = true) : lineEntry white = some [] := by
  have trimmed := trim_white blank
  rw [String.ofList_toList] at trimmed
  rw [lineEntry, trimmed]
  simp

theorem line_entry_text {line : ConfigLine} (valid : line.Valid) :
    lineEntry line.text = some line.entry := by
  cases line with
  | option key value => exact line_entry_option valid.1 valid.2
  | blank white => exact line_entry_blank fun c member => (valid c member).1
  | comment indent text => exact line_entry_comment (fun c member => (valid.1 c member).1) text

theorem line_text_single {line : ConfigLine} (valid : line.Valid) : '\n' ∉ line.text.toList := by
  cases line with
  | option key value =>
      have inName := not_mem_name valid.1 (c := '\n') (by decide)
      simp [ConfigLine.text, inName, valid.2.1]
  | blank white =>
      intro member
      exact (valid _ member).2 rfl
  | comment indent text =>
      have inIndent : '\n' ∉ indent.toList := fun member => (valid.1 _ member).2 rfl
      simp [ConfigLine.text, inIndent, valid.2]

end Lines

section Files

theorem line_entry_congr {line other : String} (same : trim line = trim other) :
    lineEntry line = lineEntry other := by
  rw [lineEntry, lineEntry, same]

theorem line_entries_congr {front front' : List String}
    (same : front.map lineEntry = front'.map lineEntry) :
    lineEntries front = lineEntries front' := by
  induction front generalizing front' with
  | nil =>
      cases front' with
      | nil => rfl
      | cons line' rest' => cases same
  | cons line rest ih =>
      cases front' with
      | nil => cases same
      | cons line' rest' =>
          rw [List.map_cons, List.map_cons, List.cons.injEq] at same
          rw [lineEntries, lineEntries, same.1, ih same.2]

theorem line_entries_append_blank (front : List String) {line : String}
    (blank : lineEntry line = some []) : lineEntries (front ++ [line]) = lineEntries front := by
  induction front with
  | nil => simp [lineEntries, blank]
  | cons first rest ih => rw [List.cons_append, lineEntries, lineEntries, ih]

theorem line_entry_carriage_return (line : String) :
    lineEntry (if line.toList.getLast? = some '\r' then String.ofList line.toList.dropLast
      else line) = lineEntry line := by
  split_ifs with ended
  · apply line_entry_congr
    have parts := List.dropLast_append_getLast? '\r' ended
    rw [← trim_append_white (c := '\r') (by decide), parts, String.ofList_toList]
  · rfl

/-- The line ends that `lines` takes off are whitespace to `trim`. -/
theorem line_entries_lines (text : String) :
    lineEntries (lines text) = lineEntries (splitChar '\n' text) := by
  unfold lines
  generalize pieces_eq : splitChar '\n' text = pieces
  have filled : pieces ≠ [] := pieces_eq ▸ split_char_ne_nil '\n' text
  obtain ⟨front, last, rfl⟩ := (List.eq_nil_or_concat' pieces).resolve_left filled
  have stripped : (front.map fun line =>
      if line.toList.getLast? = some '\r' then String.ofList line.toList.dropLast
        else line).map lineEntry = front.map lineEntry := by
    rw [List.map_map]
    apply List.map_congr_left
    intro line _
    rw [Function.comp_apply, line_entry_carriage_return]
  simp only [List.dropLast_concat, List.getLast?_concat, Option.toList_some]
  by_cases empty : last = ""
  · subst empty
    rw [line_entries_append_blank front (by decide), List.filter_cons_of_neg (by simp),
      List.filter_nil, List.append_nil]
    exact line_entries_congr stripped
  · rw [List.filter_cons_of_pos (by simpa using empty), List.filter_nil]
    apply line_entries_congr
    rw [List.map_append, List.map_append, stripped]

theorem line_entries_header (rest : String) :
    lineEntries (splitChar '\n' ("[" ++ rest)) = [] := by
  have opening : ∀ front : String, lineEntry ("[" ++ front) = none := by
    intro front
    have shown : "[" ++ front = String.ofList ('[' :: front.toList) := by
      apply String.toList_inj.mp
      simp
    rw [shown, line_entry_header]
  by_cases several : '\n' ∈ rest.toList
  · obtain ⟨front, back, split, free⟩ := List.eq_append_cons_of_mem several
    have shown : "[" ++ rest =
        "[" ++ String.ofList front ++ String.singleton '\n' ++ String.ofList back := by
      apply String.toList_inj.mp
      simp [split]
    have single : '\n' ∉ ("[" ++ String.ofList front).toList := by simpa using free
    rw [shown, split_char_append _ single, lineEntries, opening]
  · have single : '\n' ∉ ("[" ++ rest).toList := by simpa using several
    rw [split_char_of_not_mem single, lineEntries, opening]

theorem line_entries_file {lines : List ConfigLine} {text : String}
    (file : FileText lines text) (valid : ∀ line ∈ lines, line.Valid) :
    lineEntries (splitChar '\n' text) = lines.flatMap ConfigLine.entry := by
  induction file with
  | ended => decide
  | header rest => exact line_entries_header rest
  | last line =>
      have here := valid line (List.mem_singleton_self line)
      rw [split_char_of_not_mem (line_text_single here), lineEntries, line_entry_text here]
      simp [lineEntries]
  | @line line lines text behind ih =>
      have here := valid line (List.mem_cons_self ..)
      have later := ih fun other member => valid other (List.mem_cons_of_mem line member)
      rw [List.flatMap_cons, ← later]
      have split : splitChar '\n' (line.text ++ "\n" ++ text) =
          line.text :: splitChar '\n' text :=
        split_char_append text (line_text_single here)
      rw [split, lineEntries, line_entry_text here]

theorem ink_from {indent : List Char} (white : ∀ c ∈ indent, isWhitespace c = true) {c : Char}
    (ink : isWhitespace c = false) (rest : List Char) :
    firstInk (String.ofList (indent ++ c :: rest)) = some c := by
  rw [firstInk, String.toList_ofList, List.dropWhile_append_of_pos white,
    List.dropWhile_cons_of_neg (by simp [ink]), List.head?_cons]

theorem line_no_object {line : ConfigLine} (valid : line.Valid) {rest : String}
    (behind : firstInk rest ≠ some '\x7b') : firstInk (line.text ++ rest) ≠ some '\x7b' := by
  cases line with
  | option key value =>
      obtain ⟨first, tail, chars, option⟩ := name_chars valid.1
      have ink := option_char_ink option
      have none : ∀ c ∈ ([] : List Char), isWhitespace c = true := by simp
      have shown : (ConfigLine.option key value).text ++ rest =
          String.ofList ([] ++ first :: (tail ++ (": " ++ value ++ rest).toList)) := by
        apply String.toList_inj.mp
        simp [ConfigLine.text, chars]
      rw [shown, ink_from none ink]
      intro brace
      exact option_char_ne option (by decide) (Option.some.inj brace)
  | blank white =>
      have blank : ∀ c ∈ white.toList, isWhitespace c = true := fun c member => (valid c member).1
      rw [ConfigLine.text, firstInk, String.toList_append, List.dropWhile_append_of_pos blank]
      exact behind
  | comment indent text =>
      have white : ∀ c ∈ indent.toList, isWhitespace c = true := fun c member =>
        (valid.1 c member).1
      have shown : (ConfigLine.comment indent text).text ++ rest =
          String.ofList (indent.toList ++ '#' :: (text ++ rest).toList) := by
        apply String.toList_inj.mp
        simp [ConfigLine.text]
      rw [shown, ink_from white (by decide)]
      decide

theorem file_no_object {lines : List ConfigLine} {text : String} (file : FileText lines text)
    (valid : ∀ line ∈ lines, line.Valid) : firstInk text ≠ some '\x7b' := by
  induction file with
  | ended => decide
  | header rest =>
      have none : ∀ c ∈ ([] : List Char), isWhitespace c = true := by simp
      have shown : "[" ++ rest = String.ofList ([] ++ '[' :: rest.toList) := by
        apply String.toList_inj.mp
        simp
      rw [shown, ink_from none (by decide)]
      decide
  | last line =>
      have ended : firstInk "" ≠ some '\x7b' := by decide
      have alone := line_no_object (valid line (List.mem_singleton_self line)) ended
      rwa [String.append_empty] at alone
  | @line line lines text behind ih =>
      have later := ih fun other member => valid other (List.mem_cons_of_mem line member)
      rw [String.append_assoc]
      apply line_no_object (valid line (List.mem_cons_self ..))
      have shown : "\n" ++ text = String.ofList ('\n' :: text.toList) := by
        apply String.toList_inj.mp
        simp
      rw [shown, firstInk, String.toList_ofList, List.dropWhile_cons_of_pos (by decide)]
      exact later

end Files

section Agreement

theorem insert_all_listed {entries : List (String × String)} {options : HashMap String String}
    (listed : Lists entries options) : insertAll entries ∅ = options := by
  obtain ⟨distinct, complete⟩ := listed
  apply Finmap.ext_lookup
  intro key
  cases found : options.lookup key with
  | some value =>
      have member := (complete key value).mpr found
      apply lookup_insert_all ∅ member
      intro other again
      have found' := (complete key other).mp again
      rw [found, Option.some.injEq] at found'
      exact found'.symm
  | none =>
      rw [Option.eq_none_iff_forall_ne_some]
      intro value entered
      cases of_lookup_insert_all entered with
      | inl member =>
          rw [(complete key value).mp member] at found
          cases found
      | inr before => simp at before

variable (host : PveHost)

theorem value_text_reads {written : Written} {read : Json} (fits : written.Fits)
    (reads : Reads written read) : valueText host read = written.value := by
  cases reads with
  | string value => rfl
  | word fits => rfl
  | double large text => exact absurd fits large

omit host in
theorem valid_lines {options : HashMap String String} (valid : ValidOptions options)
    {lines : List ConfigLine} (listed : Lists (lines.flatMap ConfigLine.entry) options)
    (plain : ∀ line ∈ lines, line.Plain) : ∀ line ∈ lines, line.Valid := by
  intro line member
  cases line with
  | option key value =>
      apply valid key value
      rw [← listed.2, List.mem_flatMap]
      exact ⟨_, member, List.mem_singleton_self _⟩
  | blank white => exact plain _ member
  | comment indent text => exact plain _ member

theorem parse_shown_file {options : HashMap String String} {text : String}
    (opens : ObjectsOpen host.jsonValue) (validOptions : ValidOptions options)
    (shown : ShownAsFile options text) : parseVmConfig host text = options := by
  obtain ⟨lines, file, plain, listed⟩ := shown
  have valid := valid_lines validOptions listed plain
  have noObject := file_no_object file valid
  have read : parseVmConfig host text = insertAll (lineEntries (Library.Text.lines text)) ∅ := by
    unfold parseVmConfig
    split
    · rename_i members object
      exact absurd (opens text members object) noObject
    · rfl
  rw [read, line_entries_lines, line_entries_file file valid, insert_all_listed listed]

theorem parse_shown_json {options : HashMap String String} {written : List (String × Written)}
    {text : String} (shown : ShownAsJson host.jsonValue written text)
    (writes : WritesAll written options) (fits : ∀ entry ∈ written, entry.2.Fits) :
    parseVmConfig host text = options := by
  obtain ⟨members, object, pairs⟩ := shown
  have texts : (members.map fun member => (member.1, valueText host member.2)) =
      written.map fun entry => (entry.1, entry.2.value) := by
    clear object writes
    induction pairs with
    | nil => rfl
    | cons pair pairs ih =>
        rw [List.forall_mem_cons] at fits
        rw [List.map_cons, List.map_cons, ih fits.2, pair.1, value_text_reads host fits.1 pair.2]
  rw [parseVmConfig, object]
  dsimp only
  rw [texts, insert_all_listed writes]

/-- Both formats of the same options give these options, so the same disks,
whichever of the two the client comes to read, if the JSON object has no
integer that is too large for a machine word. -/
theorem vm_config_formats_agree (client : PveSanConfig) (opens : ObjectsOpen host.jsonValue)
    (options : HashMap String String) (valid : ValidOptions options) (fileText jsonText : String)
    (shown : ShownAsFile options fileText) (written : List (String × Written))
    (writes : WritesAll written options) (shown' : ShownAsJson host.jsonValue written jsonText)
    (fits : ∀ entry ∈ written, entry.2.Fits) :
    parseVmConfig host fileText = options ∧ parseVmConfig host jsonText = options ∧
    extractDisks (parseVmConfig host fileText) = extractDisks (parseVmConfig host jsonText) ∧
    ∀ vmid,
      (host.configFile ("/etc/pve/local/qemu-server/" ++ toString vmid ++ ".conf") =
          some fileText → getVmConfig host client vmid = .ok options) ∧
      (host.configFile ("/etc/pve/local/qemu-server/" ++ toString vmid ++ ".conf") = none →
        runPveshGet host client ("/nodes/" ++ client.node ++ "/qemu/" ++ toString vmid ++
          "/config") = .ok jsonText → getVmConfig host client vmid = .ok options) := by
  have file := parse_shown_file host opens valid shown
  have json := parse_shown_json host shown' writes fits
  refine ⟨file, json, by rw [file, json], ?_⟩
  intro vmid
  constructor
  · intro local'
    rw [getVmConfig, local']
    exact congrArg Except.ok file
  · intro absent answered
    rw [getVmConfig, absent, answered]
    exact congrArg Except.ok json

def exampleOptions : HashMap String String :=
  ((∅ : HashMap String String).insert "memory" "4096").insert "name" "vm:1"

def exampleJson : String := "\x7b\"memory\":4096,\"name\":\"vm:1\"\x7d"

def exampleHost : PveHost where
  pvesh := fun _ => .ok exampleJson
  configFile := fun _ => none
  jsonValues := fun _ => .error "expected an array"
  jsonValue := fun text =>
    if text = exampleJson then
      some (.object [("memory", .number (some 4096) "4096"), ("name", .string "vm:1")])
    else none
  jsonText := fun _ => ""
  blockDevices := .ok []
  blockDevicesAgain := .ok []
  sys := ∅

theorem lookup_example_options (key value : String) :
    exampleOptions.lookup key = some value ↔
      (key = "name" ∧ value = "vm:1") ∨ (key = "memory" ∧ value = "4096") := by
  unfold exampleOptions
  by_cases isName : key = "name"
  · subst isName
    rw [Finmap.lookup_insert]
    simp [eq_comm]
  · rw [Finmap.lookup_insert_of_ne _ isName]
    by_cases isMemory : key = "memory"
    · subst isMemory
      rw [Finmap.lookup_insert]
      simp [eq_comm]
    · rw [Finmap.lookup_insert_of_ne _ isMemory]
      simp [isName, isMemory]

theorem valid_example_options : ValidOptions exampleOptions := by
  intro key value entry
  cases (lookup_example_options key value).mp entry with
  | inl name =>
      rw [name.1, name.2]
      exact ⟨⟨by decide, by simp; decide⟩, by decide, by decide⟩
  | inr memory =>
      rw [memory.1, memory.2]
      exact ⟨⟨by decide, by simp; decide⟩, by decide, by decide⟩

/-- A comment, a value with a colon, a blank line, and a section that repeats a
key. -/
theorem vm_config_formats_agree_pending :
    extractDisks (parseVmConfig exampleHost
        "#note\nname: vm:1\n \nmemory: 4096\n[PENDING]\nname: other") =
      extractDisks (parseVmConfig exampleHost exampleJson) := by
  have client : PveSanConfig := ⟨"node", "pvesh", by decide, by decide⟩
  have opens : ObjectsOpen exampleHost.jsonValue := by
    intro text members read
    have shown : text = exampleJson := by
      by_contra other
      simp [exampleHost, other] at read
    rw [shown]
    decide
  have file : ShownAsFile exampleOptions
      "#note\nname: vm:1\n \nmemory: 4096\n[PENDING]\nname: other" := by
    refine ⟨[.comment "" "note", .option "name" "vm:1", .blank " ", .option "memory" "4096"],
      ?_, ?_, ?_⟩
    · exact FileText.line (.comment "" "note") (FileText.line (.option "name" "vm:1")
        (FileText.line (.blank " ") (FileText.line (.option "memory" "4096")
          (FileText.header "PENDING]\nname: other"))))
    · intro line member
      simp only [List.mem_cons, List.not_mem_nil, or_false] at member
      rcases member with rfl | rfl | rfl | rfl <;> simp [ConfigLine.Plain, isWhitespace]
    · refine ⟨by decide, ?_⟩
      intro key value
      rw [lookup_example_options]
      simp [ConfigLine.entry]
  have json : ShownAsJson exampleHost.jsonValue
      [("memory", .integer 4096), ("name", .string "vm:1")] exampleJson := by
    refine ⟨[("memory", .number (some 4096) "4096"), ("name", .string "vm:1")],
      by simp [exampleHost], ?_⟩
    have fits : (Written.integer 4096).Fits := ⟨by decide, by decide⟩
    exact List.Forall₂.cons ⟨rfl, Reads.word fits⟩
      (List.Forall₂.cons ⟨rfl, Reads.string "vm:1"⟩ List.Forall₂.nil)
  have writes : WritesAll [("memory", .integer 4096), ("name", .string "vm:1")]
      exampleOptions := by
    refine ⟨by decide, ?_⟩
    intro key value
    rw [lookup_example_options]
    have decimal : (Written.integer 4096).value = "4096" := by decide
    have text : (Written.string "vm:1").value = "vm:1" := rfl
    simp [decimal, text, or_comm]
  exact (vm_config_formats_agree exampleHost client opens exampleOptions valid_example_options _ _
    file _ writes json (by simp [Written.Fits])).2.2.1

/-- The parser on a generation ID that is too large by one. -/
def largeHost : PveHost := { exampleHost with
  jsonValue := fun text =>
    if text = "\x7b\"vmgenid\":18446744073709551616\x7d" then
      some (.object [("vmgenid", .number none "1.8446744073709552e19")])
    else none }

/-- The file keeps such a number, and the JSON object does not. -/
theorem large_integer_disagrees :
    ¬∀ (host : PveHost) (options : HashMap String String) (fileText jsonText : String)
      (written : List (String × Written)), ObjectsOpen host.jsonValue → ValidOptions options →
        ShownAsFile options fileText → WritesAll written options →
        ShownAsJson host.jsonValue written jsonText →
          parseVmConfig host fileText = parseVmConfig host jsonText := by
  intro agree
  have opens : ObjectsOpen largeHost.jsonValue := by
    intro text members read
    have shown : text = "\x7b\"vmgenid\":18446744073709551616\x7d" := by
      by_contra other
      simp [largeHost, other] at read
    rw [shown]
    decide
  have entry (key value : String) :
      ((∅ : HashMap String String).insert "vmgenid" "18446744073709551616").lookup key =
        some value ↔ key = "vmgenid" ∧ value = "18446744073709551616" := by
    by_cases same : key = "vmgenid"
    · subst same
      rw [Finmap.lookup_insert]
      simp [eq_comm]
    · rw [Finmap.lookup_insert_of_ne _ same]
      simp [same]
  have valid : ValidOptions ((∅ : HashMap String String).insert "vmgenid"
      "18446744073709551616") := by
    intro key value found
    obtain ⟨rfl, rfl⟩ := (entry key value).mp found
    exact ⟨⟨by decide, by simp; decide⟩, by decide, by decide⟩
  have file : ShownAsFile ((∅ : HashMap String String).insert "vmgenid" "18446744073709551616")
      "vmgenid: 18446744073709551616" := by
    refine ⟨[.option "vmgenid" "18446744073709551616"], FileText.last _, by simp [ConfigLine.Plain],
      by decide, ?_⟩
    intro key value
    rw [entry]
    simp [ConfigLine.entry]
  have writes : WritesAll [("vmgenid", .integer 18446744073709551616)]
      ((∅ : HashMap String String).insert "vmgenid" "18446744073709551616") := by
    refine ⟨by decide, ?_⟩
    intro key value
    rw [entry]
    have decimal : (Written.integer 18446744073709551616).value = "18446744073709551616" := by
      decide
    simp [decimal]
  have json : ShownAsJson largeHost.jsonValue [("vmgenid", .integer 18446744073709551616)]
      "\x7b\"vmgenid\":18446744073709551616\x7d" := by
    refine ⟨[("vmgenid", .number none "1.8446744073709552e19")], by simp [largeHost], ?_⟩
    have large : ¬(Written.integer 18446744073709551616).Fits := fun fits =>
      absurd fits.2 (by decide)
    exact List.Forall₂.cons ⟨rfl, Reads.double large _⟩ List.Forall₂.nil
  have same := agree largeHost _ _ _ _ opens valid file writes json
  have parts := congrArg (Finmap.lookup "vmgenid") same
  revert parts
  decide

end Agreement

end PveSanFenced.VmConfigFormats
