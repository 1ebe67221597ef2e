import Mathlib.Algebra.Order.Ring.Nat
import Mathlib.Data.List.DropRight
import Mathlib.Data.String.Basic

/-!
# Rust text operations on Lean strings

Both languages read a string as a sequence of Unicode scalar values, so each
operation is written on the list of characters. Whitespace is the Unicode
`White_Space` property, not the ASCII set of `Char.isWhitespace`.
-/

namespace PveSanFenced.Library.Text

set_option autoImplicit false

def isWhitespace (c : Char) : Bool :=
  let code := c.toNat
  (0x09 ≤ code && code ≤ 0x0D) || code == 0x20 || code == 0x85 || code == 0xA0 ||
    code == 0x1680 || (0x2000 ≤ code && code ≤ 0x200A) || code == 0x2028 ||
    code == 0x2029 || code == 0x202F || code == 0x205F || code == 0x3000

def containsChar (text : String) (c : Char) : Bool := text.toList.elem c

/-- `str::split(char)`: the pieces between the separators, empty ones included. -/
def splitChar (separator : Char) (text : String) : List String :=
  (text.toList.splitOn separator).map String.ofList

def trim (text : String) : String :=
  String.ofList ((text.toList.dropWhile isWhitespace).rdropWhile isWhitespace)

/-- `str::trim_matches` of one character. -/
def trimMatches (c : Char) (text : String) : String :=
  String.ofList ((text.toList.dropWhile (· = c)).rdropWhile (· = c))

def startsWith (text start : String) : Bool := start.toList.isPrefixOf text.toList

def stripPrefix (start text : String) : Option String :=
  (start.toList.isPrefixOf? text.toList).map String.ofList

/-- `str::split_once(char)`: the texts before and after the first separator. -/
def splitOnce (separator : Char) (text : String) : Option (String × String) :=
  if containsChar text separator then
    some (String.ofList (text.toList.takeWhile (· ≠ separator)),
      String.ofList (text.toList.dropWhile (· ≠ separator)).tail)
  else none

/-- `str::replace` of one character. -/
def replaceChar (old : Char) (new : String) (text : String) : String :=
  String.ofList (text.toList.flatMap fun c => if c = old then new.toList else [c])

/-- `str::lines`: a line break ends a line, with the carriage return before
it; what follows the last line break is a line if it is not empty. -/
def lines (text : String) : List String :=
  let pieces := splitChar '\n' text
  let ended := pieces.dropLast.map fun line =>
    if line.toList.getLast? = some '\r' then String.ofList line.toList.dropLast else line
  ended ++ pieces.getLast?.toList.filter (· ≠ "")

@[simp] theorem contains_char_iff (text : String) (c : Char) :
    containsChar text c = true ↔ c ∈ text.toList := by
  simp [containsChar]

theorem ink_of_code {c : Char} (above : 0x20 < c.toNat) (below : c.toNat < 0x85) :
    isWhitespace c = false := by
  simp only [isWhitespace, Bool.or_eq_false_iff, Bool.and_eq_false_iff, decide_eq_false_iff_not,
    beq_eq_false_iff_ne]
  omega

theorem rdrop_while_cons {Item : Type*} (p : Item → Bool) (first : Item) (rest : List Item) :
    (first :: rest).rdropWhile p =
      if rest.rdropWhile p = [] then [first].rdropWhile p else first :: rest.rdropWhile p := by
  induction rest using List.reverseRecOn with
  | nil => rfl
  | append_singleton rest last ih =>
      rw [← List.cons_append]
      cases dropped : p last with
      | true =>
          rw [List.rdropWhile_concat_pos _ _ _ dropped, List.rdropWhile_concat_pos _ _ _ dropped,
            ih]
      | false =>
          have kept : ¬p last = true := by simp [dropped]
          rw [List.rdropWhile_concat_neg _ _ _ kept, List.rdropWhile_concat_neg _ _ _ kept]
          simp

theorem rdrop_while_append_cons {Item : Type*} {p : Item → Bool} {kept : Item}
    (stays : p kept = false) (front back : List Item) :
    (front ++ kept :: back).rdropWhile p = front ++ kept :: back.rdropWhile p := by
  induction front with
  | nil =>
      rw [List.nil_append, List.nil_append, rdrop_while_cons]
      split_ifs with none
      · rw [none, List.rdropWhile_singleton, if_neg (by simp [stays])]
      · rfl
  | cons first front ih =>
      rw [List.cons_append, rdrop_while_cons, ih, if_neg (by simp), List.cons_append]

theorem trim_from {indent : List Char} (white : ∀ c ∈ indent, isWhitespace c = true) {c : Char}
    (ink : isWhitespace c = false) (rest : List Char) :
    trim (String.ofList (indent ++ c :: rest)) =
      String.ofList (c :: rest.rdropWhile isWhitespace) := by
  rw [trim, String.toList_ofList, List.dropWhile_append_of_pos white,
    List.dropWhile_cons_of_neg (by simp [ink])]
  congr 1
  exact rdrop_while_append_cons ink [] rest

theorem trim_white {white : List Char} (blank : ∀ c ∈ white, isWhitespace c = true) :
    trim (String.ofList white) = "" := by
  rw [trim, String.toList_ofList, List.dropWhile_eq_nil_iff.mpr blank]
  rfl

theorem of_trim_eq {text : String} (trimmed : trim text = text) :
    text.toList.dropWhile isWhitespace = text.toList ∧
      text.toList.rdropWhile isWhitespace = text.toList := by
  have chars := congrArg String.toList trimmed
  rw [trim, String.toList_ofList] at chars
  have whole : text.toList.dropWhile isWhitespace = text.toList := by
    apply (List.dropWhile_suffix isWhitespace).eq_of_length
    have shorter := (List.dropWhile_suffix isWhitespace (l := text.toList)).length_le
    have longer := (List.rdropWhile_prefix isWhitespace
      (text.toList.dropWhile isWhitespace)).length_le
    rw [chars] at longer
    exact le_antisymm shorter longer
  rw [whole] at chars
  exact ⟨whole, chars⟩

theorem trim_append_white {c : Char} (white : isWhitespace c = true) (text : List Char) :
    trim (String.ofList (text ++ [c])) = trim (String.ofList text) := by
  unfold trim
  rw [String.toList_ofList, String.toList_ofList]
  congr 1
  by_cases blank : ∀ d ∈ text, isWhitespace d = true
  · rw [List.dropWhile_append_of_pos blank, List.dropWhile_eq_nil_iff.mpr blank,
      List.dropWhile_cons_of_pos white]
    rfl
  · have some : text.dropWhile isWhitespace ≠ [] := fun none =>
      blank (List.dropWhile_eq_nil_iff.mp none)
    rw [List.dropWhile_append, if_neg (by simpa using some), List.rdropWhile_concat_pos _ _ _ white]

theorem trim_append_newline (text : String) : trim (text ++ "\n") = trim text := by
  have chars : text ++ "\n" = String.ofList (text.toList ++ ['\n']) := by
    apply String.toList_inj.mp
    simp
  rw [chars, trim_append_white (by decide), String.ofList_toList]

theorem trim_matches_cons {c first last : Char} (opening : first ≠ c) (closing : last ≠ c)
    (middle : List Char) : trimMatches c (String.ofList (c :: first :: (middle ++ [last]))) =
      String.ofList (first :: (middle ++ [last])) := by
  rw [trimMatches, String.toList_ofList, List.dropWhile_cons_of_pos (by simp),
    List.dropWhile_cons_of_neg (by simp [opening]), ← List.cons_append,
    rdrop_while_append_cons (by simp [closing]) _ [], List.rdropWhile_nil]

theorem starts_with_append {start other : String} (rest : String)
    (starts : startsWith start other = true) : startsWith (start ++ rest) other = true := by
  have chars : (start ++ rest).toList = start.toList ++ rest.toList := String.toList_append
  rw [startsWith, List.isPrefixOf_iff_prefix] at starts
  rw [startsWith, chars, List.isPrefixOf_iff_prefix]
  exact starts.trans (List.prefix_append _ _)

theorem not_starts_with_append {start other : String} (rest : String)
    (shorter : other.toList.length ≤ start.toList.length)
    (apart : startsWith start other = false) : startsWith (start ++ rest) other = false := by
  have chars : (start ++ rest).toList = start.toList ++ rest.toList := String.toList_append
  rw [Bool.eq_false_iff, ne_eq, startsWith, chars, List.isPrefixOf_iff_prefix]
  intro found
  have within := List.prefix_of_prefix_length_le found (List.prefix_append _ rest.toList) shorter
  rw [startsWith, List.isPrefixOf_iff_prefix.mpr within] at apart
  cases apart

theorem starts_with_of_starts_with {text start other : String}
    (starts : startsWith text start = true) (starts' : startsWith text other = true)
    (shorter : other.toList.length ≤ start.toList.length) : startsWith start other = true := by
  rw [startsWith, List.isPrefixOf_iff_prefix] at starts starts' ⊢
  exact List.prefix_of_prefix_length_le starts' starts shorter

theorem starts_with_trim (first last : Char) (middle : List Char) (rest : String)
    (opening : isWhitespace first = false) (closing : isWhitespace last = false) :
    startsWith (trim (String.ofList (first :: (middle ++ [last])) ++ rest))
      (String.ofList (first :: (middle ++ [last]))) = true := by
  have chars : (String.ofList (first :: (middle ++ [last])) ++ rest).toList =
      first :: (middle ++ [last]) ++ rest.toList := by
    rw [String.toList_append, String.toList_ofList]
  rw [startsWith, trim, chars, String.toList_ofList, String.toList_ofList,
    List.isPrefixOf_iff_prefix, List.cons_append, List.dropWhile_cons_of_neg (by simp [opening])]
  have whole : first :: (middle ++ [last] ++ rest.toList) =
      (first :: (middle ++ [last])) ++ rest.toList := rfl
  have kept : (first :: (middle ++ [last])).reverse.dropWhile isWhitespace =
      (first :: (middle ++ [last])).reverse := by
    rw [List.reverse_cons, List.reverse_append, List.reverse_singleton, List.singleton_append,
      List.cons_append, List.dropWhile_cons_of_neg (by simp [closing])]
  rw [whole, List.rdropWhile, List.reverse_append, List.dropWhile_append]
  split
  · simp only [kept, List.reverse_reverse]
    exact List.prefix_refl _
  · rw [List.reverse_append, List.reverse_reverse]
    exact List.prefix_append _ _

theorem is_empty_of_starts_with {text start : String} (starts : startsWith text start = true)
    (filled : start.toList ≠ []) : text.isEmpty = false := by
  rw [Bool.eq_false_iff, ne_eq, String.isEmpty_iff]
  intro empty
  rw [startsWith, List.isPrefixOf_iff_prefix, empty] at starts
  exact filled (List.prefix_nil.mp starts)

theorem strip_prefix_append (start rest : String) :
    stripPrefix start (start ++ rest) = some rest := by
  have stripped : ∀ (front back : List Char), front.isPrefixOf? (front ++ back) = some back := by
    intro front back
    induction front with
    | nil => rfl
    | cons c front ih => simp [List.isPrefixOf?, ih]
  rw [stripPrefix, String.toList_append, stripped, Option.map_some, String.ofList_toList]

theorem split_once_append {separator : Char} {front : String} (back : String)
    (free : separator ∉ front.toList) :
    splitOnce separator (front ++ String.singleton separator ++ back) = some (front, back) := by
  have chars : (front ++ String.singleton separator ++ back).toList =
      front.toList ++ separator :: back.toList := by
    simp
  have passed : ∀ c ∈ front.toList, decide (c ≠ separator) = true := fun c member =>
    decide_eq_true fun same => free (same ▸ member)
  rw [splitOnce, containsChar, chars, if_pos (by simp),
    List.takeWhile_append_of_pos passed, List.dropWhile_append_of_pos passed]
  simp

theorem of_split_once {separator : Char} {text front back : String}
    (found : splitOnce separator text = some (front, back)) :
    front ++ String.singleton separator ++ back = text := by
  unfold splitOnce at found
  by_cases present : containsChar text separator = true
  · rw [if_pos present, Option.some.injEq, Prod.mk.injEq] at found
    obtain ⟨rfl, rfl⟩ := found
    apply String.toList_inj.mp
    have whole := List.takeWhile_append_dropWhile (p := (· ≠ separator)) (l := text.toList)
    have reached : text.toList.dropWhile (· ≠ separator) ≠ [] := by
      rw [ne_eq, List.dropWhile_eq_nil_iff]
      intro all
      exact absurd (all separator ((contains_char_iff text separator).mp present)) (by simp)
    have head : (text.toList.dropWhile (· ≠ separator)).head reached = separator := by
      simpa using List.head_dropWhile_not (· ≠ separator) reached
    rw [String.toList_append, String.toList_append, String.toList_ofList, String.toList_ofList,
      String.toList_singleton]
    conv_rhs => rw [← whole, ← List.cons_head_tail reached, head]
    simp
  · rw [if_neg present] at found
    cases found

private theorem not_mem_split_on {Item : Type*} [DecidableEq Item] (separator : Item)
    (items : List Item) : ∀ piece ∈ items.splitOn separator, separator ∉ piece := by
  induction items with
  | nil => simp
  | cons item items ih =>
      rw [List.splitOn_cons_eq_if_modifyHead]
      intro piece member
      by_cases same : item = separator
      · rw [if_pos (by simpa using same)] at member
        rcases List.mem_cons.mp member with rfl | later
        · simp
        · exact ih piece later
      · rw [if_neg (by simpa using same)] at member
        cases found : items.splitOn separator with
        | nil => exact absurd found (List.splitOn_ne_nil _ _)
        | cons first rest =>
            rw [found, List.modifyHead_cons] at member
            rw [found] at ih
            rcases List.mem_cons.mp member with rfl | later
            · rw [List.mem_cons, not_or]
              exact ⟨fun equal => same equal.symm, ih first (List.mem_cons_self ..)⟩
            · exact ih piece (List.mem_cons_of_mem _ later)

theorem not_mem_split_char {separator : Char} {text piece : String}
    (member : piece ∈ splitChar separator text) : separator ∉ piece.toList := by
  obtain ⟨chars, found, rfl⟩ := List.mem_map.mp member
  rw [String.toList_ofList]
  exact not_mem_split_on separator _ chars found

theorem split_char_ne_nil (separator : Char) (text : String) : splitChar separator text ≠ [] := by
  rw [splitChar, ne_eq, List.map_eq_nil_iff]
  exact List.splitOn_ne_nil _ _

theorem split_char_of_not_mem {separator : Char} {text : String}
    (absent : separator ∉ text.toList) : splitChar separator text = [text] := by
  rw [splitChar, List.splitOn_eq_singleton (by simpa using absent)]
  simp

theorem split_char_append {separator : Char} {front : String} (back : String)
    (free : separator ∉ front.toList) :
    splitChar separator (front ++ String.singleton separator ++ back) =
      front :: splitChar separator back := by
  have chars : (front ++ String.singleton separator ++ back).toList =
      front.toList ++ separator :: back.toList := by
    simp
  rw [splitChar, chars, List.splitOn_append_cons_self_of_not_mem free, List.map_cons,
    String.ofList_toList, splitChar]

theorem two_le_split_char_iff (separator : Char) (text : String) :
    2 ≤ (splitChar separator text).length ↔ separator ∈ text.toList := by
  constructor
  · intro several
    by_contra absent
    rw [split_char_of_not_mem absent, List.length_singleton] at several
    omega
  · intro present
    by_contra few
    rw [splitChar, List.length_map, Nat.not_le, Nat.lt_succ_iff] at few
    have whole : [separator].intercalate (text.toList.splitOn separator) = text.toList :=
      List.intercalate_splitOn separator
    cases pieces : text.toList.splitOn separator with
    | nil => exact absurd pieces (List.splitOn_ne_nil _ _)
    | cons piece rest =>
        cases rest with
        | cons next rest => simp [pieces] at few
        | nil =>
            rw [pieces, List.intercalate_singleton] at whole
            have free := not_mem_split_on separator text.toList piece (by simp [pieces])
            rw [whole] at free
            exact free present

/-- Joining pieces that do not hold the separator and splitting again gives
the pieces back. -/
theorem split_char_intercalate {separator : Char} {pieces : List String} (some : pieces ≠ [])
    (free : ∀ piece ∈ pieces, separator ∉ piece.toList) :
    splitChar separator ((String.singleton separator).intercalate pieces) = pieces := by
  rw [splitChar, String.toList_intercalate, String.toList_singleton, List.splitOn_intercalate]
  · rw [List.map_map]
    conv_rhs => rw [← List.map_id pieces]
    exact List.map_congr_left fun piece _ => String.ofList_toList
  · simpa using free
  · simpa using some

section SplitStr

/-- `str::split(&str)` for a pattern that is not empty: matches are taken from
the left and do not overlap. The number counts the pattern characters still to
be skipped, the last list is the piece being read. -/
def splitChars (pattern : List Char) : List Char → ℕ → List Char → List (List Char)
  | [], _, piece => [piece]
  | _ :: rest, skip + 1, piece => splitChars pattern rest skip piece
  | c :: rest, 0, piece =>
      if pattern.isPrefixOf (c :: rest) then
        piece :: splitChars pattern rest (pattern.length - 1) []
      else splitChars pattern rest 0 (piece ++ [c])

def splitStr (pattern text : String) : List String :=
  (splitChars pattern.toList text.toList 0 []).map String.ofList

/-- Followed by the pattern, the piece is what comes before its first match. -/
def Unbroken (pattern piece : List Char) : Prop :=
  ∀ index, index < piece.length → ¬pattern <+: (piece ++ pattern).drop index

instance (pattern piece : List Char) : Decidable (Unbroken pattern piece) :=
  inferInstanceAs (Decidable (∀ index, index < piece.length →
    ¬pattern <+: (piece ++ pattern).drop index))

variable {pattern : List Char}

theorem unbroken_tail {c : Char} {piece : List Char} (unbroken : Unbroken pattern (c :: piece)) :
    Unbroken pattern piece := by
  intro index within
  exact unbroken (index + 1) (Nat.succ_lt_succ within)

/-- A match at the front of an unbroken piece would be one before its end. -/
theorem not_prefix_of_unbroken {c : Char} {piece : List Char}
    (unbroken : Unbroken pattern (c :: piece)) (tail : List Char) :
    ¬pattern <+: c :: (piece ++ pattern ++ tail) := by
  intro found
  apply unbroken 0 (Nat.succ_pos _)
  have longer : pattern.length ≤ (c :: (piece ++ pattern)).length := by
    simp only [List.length_cons, List.length_append]
    omega
  exact List.prefix_of_prefix_length_le found (List.prefix_append (c :: (piece ++ pattern)) tail)
    longer

private theorem split_chars_skip (skipped tail piece : List Char) :
    splitChars pattern (skipped ++ tail) skipped.length piece =
      splitChars pattern tail 0 piece := by
  induction skipped with
  | nil => rfl
  | cons c skipped ih => exact ih

theorem split_chars_unbroken (some : pattern ≠ []) {piece : List Char}
    (unbroken : Unbroken pattern piece) (tail read : List Char) :
    splitChars pattern (piece ++ pattern ++ tail) 0 read =
      (read ++ piece) :: splitChars pattern tail 0 [] := by
  induction piece generalizing read with
  | nil =>
      cases pattern with
      | nil => exact absurd rfl some
      | cons c pattern =>
          have found : (c :: pattern).isPrefixOf (c :: (pattern ++ tail)) = true :=
            List.isPrefixOf_iff_prefix.mpr (List.prefix_append (c :: pattern) tail)
          simp only [List.nil_append, List.cons_append, splitChars, found, if_true,
            List.append_nil]
          exact congrArg (read :: ·) (split_chars_skip pattern tail [])
  | cons c piece ih =>
      have absent : pattern.isPrefixOf (c :: (piece ++ pattern ++ tail)) = false := by
        rw [Bool.eq_false_iff, ne_eq, List.isPrefixOf_iff_prefix]
        exact not_prefix_of_unbroken unbroken tail
      simp only [List.cons_append, splitChars, absent, Bool.false_eq_true, if_false]
      rw [ih (unbroken_tail unbroken), List.append_assoc, List.singleton_append]

theorem split_chars_last {piece : List Char} (unbroken : Unbroken pattern piece)
    (read : List Char) : splitChars pattern piece 0 read = [read ++ piece] := by
  induction piece generalizing read with
  | nil => simp [splitChars]
  | cons c piece ih =>
      have absent : pattern.isPrefixOf (c :: piece) = false := by
        rw [Bool.eq_false_iff, ne_eq, List.isPrefixOf_iff_prefix]
        intro found
        apply unbroken 0 (Nat.succ_pos _)
        exact found.trans (List.prefix_append (c :: piece) pattern)
      simp only [splitChars, absent, Bool.false_eq_true, if_false]
      rw [ih (unbroken_tail unbroken), List.append_assoc, List.singleton_append]

theorem split_chars_intercalate (some : pattern ≠ []) {pieces : List (List Char)}
    (nonempty : pieces ≠ []) (unbroken : ∀ piece ∈ pieces, Unbroken pattern piece) :
    splitChars pattern (pattern.intercalate pieces) 0 [] = pieces := by
  induction pieces with
  | nil => exact absurd rfl nonempty
  | cons piece rest ih =>
      have first := unbroken piece (List.mem_cons_self ..)
      cases rest with
      | nil =>
          rw [List.intercalate_singleton, split_chars_last first, List.nil_append]
      | cons next rest =>
          have others := ih (List.cons_ne_nil _ _) fun piece member =>
            unbroken piece (List.mem_cons_of_mem _ member)
          rw [List.intercalate_cons_cons, split_chars_unbroken some first, List.nil_append,
            others]

theorem unbroken_of_no_slash {piece : List Char} (free : ¬[' ', '/', ' '] <:+: piece)
    (ending : ¬[' ', '/'] <:+ piece) : Unbroken [' ', '/', ' '] piece := by
  intro index within found
  have rest : piece.drop index <:+ piece := List.drop_suffix index piece
  rw [List.drop_append_of_le_length within.le] at found
  obtain ⟨tail, whole⟩ := found
  -- how much of the separator still lies in the piece
  match left : piece.drop index with
  | [] => exact absurd (List.drop_eq_nil_iff.mp left) (Nat.not_le.mpr within)
  | [first] => simp [left] at whole
  | [first, second] =>
      rw [left] at whole rest
      simp only [List.cons_append, List.nil_append, List.cons.injEq] at whole
      rw [← whole.1, ← whole.2.1] at rest
      exact ending rest
  | first :: second :: third :: later =>
      rw [left] at whole rest
      simp only [List.cons_append, List.nil_append, List.cons.injEq] at whole
      rw [← whole.1, ← whole.2.1, ← whole.2.2.1] at rest
      apply free
      exact (List.prefix_append [' ', '/', ' '] later).isInfix.trans rest.isInfix

theorem unbroken_slash {piece : List Char} (free : '/' ∉ piece) :
    Unbroken [' ', '/', ' '] piece := by
  apply unbroken_of_no_slash
  · exact fun inside => free (inside.subset (by simp))
  · exact fun ending => free (ending.subset (by simp))

/-- The round trip of joining and splitting, for pieces the pattern does not
break. -/
theorem split_str_intercalate {separator : String} (some : separator ≠ "")
    {pieces : List String} (nonempty : pieces ≠ [])
    (unbroken : ∀ piece ∈ pieces, Unbroken separator.toList piece.toList) :
    splitStr separator (separator.intercalate pieces) = pieces := by
  rw [splitStr, String.toList_intercalate, split_chars_intercalate]
  · rw [List.map_map]
    conv_rhs => rw [← List.map_id pieces]
    exact List.map_congr_left fun piece _ => String.ofList_toList
  · simpa using some
  · simpa using nonempty
  · simpa using unbroken

end SplitStr

def digitValue (c : Char) : Option ℕ :=
  if '0' ≤ c ∧ c ≤ '9' then some (c.toNat - '0'.toNat) else none

/-- Reads digits as long as the number stays within the bound. -/
def parseDigits (bound : ℕ) : List Char → ℕ → Option ℕ
  | [], value => some value
  | c :: rest, value => do
      let digit ← digitValue c
      if value * 10 + digit ≤ bound then parseDigits bound rest (value * 10 + digit) else none

/-- `str::parse` at an unsigned type: an optional `+` and at least one digit. -/
def parseUnsigned (bound : ℕ) (text : String) : Option ℕ :=
  match text.toList with
  | [] => none
  | '+' :: c :: rest => parseDigits bound (c :: rest) 0
  | chars => parseDigits bound chars 0

def parseU64 (text : String) : Option UInt64 :=
  (parseUnsigned (2 ^ 64 - 1) text).map UInt64.ofNat

def parseU32 (text : String) : Option UInt32 :=
  (parseUnsigned (2 ^ 32 - 1) text).map UInt32.ofNat

def parseI32 (text : String) : Option Int32 :=
  match text.toList with
  | '-' :: c :: rest => (parseDigits (2 ^ 31) (c :: rest) 0).map fun value => -Int32.ofNat value
  | _ => (parseUnsigned (2 ^ 31 - 1) text).map Int32.ofNat

theorem digit_value_of_is_digit {c : Char} (digit : c.isDigit = true) :
    digitValue c = some (c.toNat - '0'.toNat) := by
  have bounds : '0' ≤ c ∧ c ≤ '9' := by
    simpa only [Char.isDigit, Bool.and_eq_true, decide_eq_true_eq, ge_iff_le, Char.le_def]
      using digit
  rw [digitValue, if_pos bounds]

theorem le_of_digit_chars (chars : List Char) (value : ℕ) :
    value ≤ Nat.ofDigitChars 10 chars value := by
  induction chars generalizing value with
  | nil => simp
  | cons c chars ih =>
      rw [Nat.ofDigitChars_cons]
      have later := ih (10 * value + (c.toNat - '0'.toNat))
      omega

theorem parse_digits_eq {bound : ℕ} {chars : List Char}
    (digits : ∀ c ∈ chars, c.isDigit = true) {value : ℕ}
    (fits : Nat.ofDigitChars 10 chars value ≤ bound) :
    parseDigits bound chars value = some (Nat.ofDigitChars 10 chars value) := by
  induction chars generalizing value with
  | nil => simp [parseDigits]
  | cons c chars ih =>
      rw [Nat.ofDigitChars_cons] at fits ⊢
      have small := (le_of_digit_chars chars _).trans fits
      have digit := digit_value_of_is_digit (digits c (List.mem_cons_self ..))
      rw [Nat.mul_comm] at small fits ⊢
      simp only [parseDigits, digit, Option.bind_eq_bind, Option.bind_some, if_pos small]
      exact ih (fun c member => digits c (List.mem_cons_of_mem _ member)) fits

theorem to_string_digits (word : UInt64) : ∀ c ∈ (toString word).toList, c.isDigit = true := by
  intro c member
  have shown : (toString word).toList = Nat.toDigits 10 word.toNat := Nat.toList_repr
  rw [shown] at member
  exact Nat.isDigit_of_mem_toDigits (by decide) (by decide) member

theorem parse_u64_to_string (word : UInt64) : parseU64 (toString word) = some word := by
  have shown : (toString word).toList = Nat.toDigits 10 word.toNat := Nat.toList_repr
  have digits : ∀ c ∈ Nat.toDigits 10 word.toNat, c.isDigit = true := fun c member =>
    Nat.isDigit_of_mem_toDigits (by decide) (by decide) member
  have fits : Nat.ofDigitChars 10 (Nat.toDigits 10 word.toNat) 0 ≤ 2 ^ 64 - 1 := by
    have bound := word.toNat_lt
    rw [Nat.ofDigitChars_ten_toDigits]
    omega
  have value := parse_digits_eq digits fits
  rw [Nat.ofDigitChars_ten_toDigits] at value
  have parsed : parseUnsigned (2 ^ 64 - 1) (toString word) = some word.toNat := by
    unfold parseUnsigned
    rw [shown]
    split
    · exact absurd ‹_› Nat.toDigits_ne_nil
    · rename_i c rest signed
      rw [signed] at digits
      exact absurd (digits '+' (List.mem_cons_self ..)) (by decide)
    · exact value
  rw [parseU64, parsed, Option.map_some, UInt64.ofNat_toNat]

/-- The escapes of `char::escape_debug` inside a quoted string, for the ASCII
range. Other characters are kept: which of them print depends on the Unicode
tables of the toolchain, and no result here reads a rendered text. -/
def escapeDebug (c : Char) : String :=
  if c == '"' then "\\\""
  else if c == '\\' then "\\\\"
  else if c == '\n' then "\\n"
  else if c == '\r' then "\\r"
  else if c == '\t' then "\\t"
  else if c.toNat == 0 then "\\0"
  else if c.toNat < 0x20 || c.toNat == 0x7F then
    "\\u\x7b" ++ String.ofList (Nat.toDigits 16 c.toNat) ++ "\x7d"
  else c.toString

/-- The `Debug` form of a string. -/
def debugStr (text : String) : String :=
  "\"" ++ String.join (text.toList.map escapeDebug) ++ "\""

def debugList (items : List String) : String :=
  "[" ++ ", ".intercalate (items.map debugStr) ++ "]"

/-- The `Debug` form of a `HashSet<String>` in one iteration order. -/
def debugSet (items : List String) : String :=
  "\x7b" ++ ", ".intercalate (items.map debugStr) ++ "\x7d"

end PveSanFenced.Library.Text
