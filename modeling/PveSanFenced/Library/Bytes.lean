import Mathlib.Algebra.Order.Ring.Nat
import Mathlib.Data.List.Basic
import Mathlib.Data.String.Basic

/-!
# Bytes, UTF-8 and streams read in pieces

A stream is the list of pieces in which successive reads deliver it, and how
it ends. An exact read takes what it needs from the front, in whatever pieces
it comes: nothing read this way depends on the pieces.
-/

namespace PveSanFenced.Library.Bytes

set_option autoImplicit false

section LittleEndian

/-- `to_le_bytes` of a word of so many bytes. -/
def toLeBytes : ℕ → ℕ → List UInt8
  | 0, _ => []
  | count + 1, value => UInt8.ofNat value :: toLeBytes count (value / 256)

def fromLeBytes : List UInt8 → ℕ
  | [] => 0
  | byte :: bytes => byte.toNat + 256 * fromLeBytes bytes

@[simp] theorem to_le_bytes_length (count value : ℕ) : (toLeBytes count value).length = count := by
  induction count generalizing value with
  | zero => rfl
  | succ count ih => rw [toLeBytes, List.length_cons, ih]

theorem from_le_bytes_to_le_bytes {count value : ℕ} (fits : value < 256 ^ count) :
    fromLeBytes (toLeBytes count value) = value := by
  induction count generalizing value with
  | zero =>
      rw [Nat.pow_zero, Nat.lt_one_iff] at fits
      rw [fits]
      rfl
  | succ count ih =>
      have smaller : value / 256 < 256 ^ count := by
        rw [Nat.div_lt_iff_lt_mul (by decide), ← Nat.pow_succ]
        exact fits
      rw [toLeBytes, fromLeBytes, ih smaller, UInt8.toNat_ofNat']
      exact Nat.mod_add_div value 256

end LittleEndian

section Utf8

def utf8 (text : String) : List UInt8 := text.toByteArray.data.toList

/-- `String::from_utf8`, without the error. -/
def fromUtf8 (bytes : List UInt8) : Option String := String.fromUTF8? ⟨bytes.toArray⟩

theorem from_utf8_eq_some {bytes : List UInt8} {text : String} :
    fromUtf8 bytes = some text ↔ bytes = utf8 text := by
  unfold fromUtf8 utf8 String.fromUTF8?
  constructor
  · intro decoded
    split at decoded
    · rw [← Option.some.inj decoded]
      rfl
    · cases decoded
  · intro same
    have whole : (⟨bytes.toArray⟩ : ByteArray) = text.toByteArray := by
      rw [same, Array.toArray_toList]
    rw [dif_pos (by rw [whole]; exact text.isValidUTF8), Option.some.injEq]
    exact String.toByteArray_inj.mp whole

theorem from_utf8_utf8 (text : String) : fromUtf8 (utf8 text) = some text :=
  from_utf8_eq_some.mpr rfl

theorem utf8_eq_flat_map (text : String) :
    utf8 text = text.toList.flatMap String.utf8EncodeChar := by
  rw [utf8, ← String.utf8Encode_toList, List.utf8Encode, List.data_toByteArray,
    List.toList_toArray]

theorem zero_mem_encode_iff (c : Char) : 0 ∈ String.utf8EncodeChar c ↔ c = '\x00' := by
  have zero : ∀ code : ℕ, (0 : UInt8) = UInt8.ofNat code ↔ code % 256 = 0 := by
    intro code
    rw [eq_comm, ← UInt8.toNat_inj, UInt8.toNat_ofNat']
    rfl
  have nul : c = '\x00' ↔ c.val.toNat = 0 := by
    rw [← Char.toNat_inj]
    rfl
  rw [nul]
  unfold String.utf8EncodeChar
  dsimp only
  split_ifs with one two three <;>
    simp only [List.mem_cons, List.not_mem_nil, or_false, zero] <;> omega

theorem zero_mem_utf8_iff (text : String) : 0 ∈ utf8 text ↔ '\x00' ∈ text.toList := by
  rw [utf8_eq_flat_map, List.mem_flatMap]
  constructor
  · intro found
    obtain ⟨c, member, zero⟩ := found
    rw [← (zero_mem_encode_iff c).mp zero]
    exact member
  · intro member
    exact ⟨'\x00', member, (zero_mem_encode_iff _).mpr rfl⟩

def beforeNul (text : String) : String := String.ofList (text.toList.takeWhile (· ≠ '\x00'))

theorem encode_take_while (chars : List Char) :
    (chars.flatMap String.utf8EncodeChar).takeWhile (· ≠ 0) =
      (chars.takeWhile (· ≠ '\x00')).flatMap String.utf8EncodeChar := by
  induction chars with
  | nil => rfl
  | cons c chars ih =>
      rw [List.flatMap_cons]
      by_cases nul : c = '\x00'
      · rw [nul, List.takeWhile_cons_of_neg (by decide)]
        rfl
      · have free : ∀ byte ∈ String.utf8EncodeChar c, decide (byte ≠ 0) = true := by
          intro byte member
          exact decide_eq_true fun zero => nul ((zero_mem_encode_iff c).mp (zero ▸ member))
        rw [List.takeWhile_append_of_pos free, ih, List.takeWhile_cons_of_pos (by simpa using nul),
          List.flatMap_cons]

theorem utf8_before_nul (text : String) :
    utf8 (beforeNul text) = (utf8 text).takeWhile (· ≠ 0) := by
  rw [utf8_eq_flat_map, utf8_eq_flat_map, beforeNul, String.toList_ofList, encode_take_while]

end Utf8

section Malformed

/-- The ranges in which the bytes after a lead byte must lie, none if no
sequence begins with it. -/
def continuations (lead : UInt8) : Option (List (UInt8 × UInt8)) :=
  if lead < 0x80 then some []
  else if lead < 0xC2 then none
  else if lead < 0xE0 then some [(0x80, 0xBF)]
  else if lead = 0xE0 then some [(0xA0, 0xBF), (0x80, 0xBF)]
  else if lead = 0xED then some [(0x80, 0x9F), (0x80, 0xBF)]
  else if lead < 0xF0 then some [(0x80, 0xBF), (0x80, 0xBF)]
  else if lead = 0xF0 then some [(0x90, 0xBF), (0x80, 0xBF), (0x80, 0xBF)]
  else if lead < 0xF4 then some [(0x80, 0xBF), (0x80, 0xBF), (0x80, 0xBF)]
  else if lead = 0xF4 then some [(0x80, 0x8F), (0x80, 0xBF), (0x80, 0xBF)]
  else none

def following : List (UInt8 × UInt8) → List UInt8 → ℕ
  | range :: ranges, byte :: bytes =>
      if range.1 ≤ byte ∧ byte ≤ range.2 then following ranges bytes + 1 else 0
  | _, _ => 0

/-- The place of the first malformed sequence and its length, which is unknown
when the input ends within it. The second number counts the bytes to skip. -/
def malformedFrom : List UInt8 → ℕ → ℕ → Option (ℕ × Option ℕ)
  | [], _, _ => none
  | _ :: bytes, skip + 1, index => malformedFrom bytes skip (index + 1)
  | lead :: bytes, 0, index =>
      match continuations lead with
      | none => some (index, some 1)
      | some ranges =>
          let found := following ranges bytes
          if found = ranges.length then malformedFrom bytes found (index + 1)
          else if found = bytes.length then some (index, none)
          else some (index, some (found + 1))

/-- The `Display` form of the error of `String::from_utf8`. -/
def utf8Error (bytes : List UInt8) : String :=
  match malformedFrom bytes 0 0 with
  | some (index, some length) =>
      "invalid utf-8 sequence of " ++ toString length ++ " bytes from index " ++ toString index
  | some (index, none) => "incomplete utf-8 byte sequence from index " ++ toString index
  | none => ""

/-- Each malformed sequence becomes one replacement character. -/
def replaceMalformed : List UInt8 → ℕ → List String
  | [], _ => []
  | _ :: bytes, skip + 1 => replaceMalformed bytes skip
  | lead :: bytes, 0 =>
      match continuations lead with
      | none => "\uFFFD" :: replaceMalformed bytes 0
      | some ranges =>
          let found := following ranges bytes
          (if found = ranges.length then (fromUtf8 (lead :: bytes.take found)).getD "\uFFFD"
            else "\uFFFD") :: replaceMalformed bytes found

def fromUtf8Lossy (bytes : List UInt8) : String :=
  (fromUtf8 bytes).getD (String.join (replaceMalformed bytes 0))

theorem from_utf8_lossy_utf8 (text : String) : fromUtf8Lossy (utf8 text) = text := by
  rw [fromUtf8Lossy, from_utf8_utf8, Option.getD_some]

end Malformed

section Streams

variable {End : Type*}

/-- The pieces that successive reads deliver and what the read after them
reports. An empty piece is an interrupted read, which is made again. -/
structure Stream (End : Type*) where
  pieces : List (List UInt8)
  ending : End

def Stream.bytes (stream : Stream End) : List UInt8 := stream.pieces.flatten

/-- Fill a buffer of this size, or use up all there is. -/
def readPieces : List (List UInt8) → ℕ → Option (List UInt8 × List (List UInt8))
  | [], need => if need = 0 then some ([], []) else none
  | piece :: pieces, need =>
      if need ≤ piece.length then some (piece.take need, piece.drop need :: pieces)
      else (readPieces pieces (need - piece.length)).map fun read => (piece ++ read.1, read.2)

/-- `read_exact`. A failed one has used up what was there. -/
def Stream.readExact (stream : Stream End) (need : ℕ) :
    Except End (List UInt8) × Stream End :=
  match readPieces stream.pieces need with
  | some (front, rest) => (.ok front, { stream with pieces := rest })
  | none => (.error stream.ending, { stream with pieces := [] })

theorem read_pieces_enough {pieces : List (List UInt8)} {need : ℕ}
    (enough : need ≤ pieces.flatten.length) :
    ∃ rest, readPieces pieces need = some (pieces.flatten.take need, rest) ∧
      rest.flatten = pieces.flatten.drop need := by
  induction pieces generalizing need with
  | nil =>
      have zero : need = 0 := Nat.le_zero.mp enough
      subst zero
      exact ⟨[], rfl, rfl⟩
  | cons piece pieces ih =>
      rw [List.flatten_cons] at enough ⊢
      rw [readPieces]
      by_cases first : need ≤ piece.length
      · refine ⟨piece.drop need :: pieces, ?_, ?_⟩
        · rw [if_pos first, List.take_append_of_le_length first]
        · rw [List.flatten_cons, List.drop_append_of_le_length first]
      · rw [List.length_append] at enough
        have whole : piece.length ≤ need := Nat.le_of_not_le first
        obtain ⟨rest, read, left⟩ := ih (show need - piece.length ≤ _ by omega)
        refine ⟨rest, ?_, ?_⟩
        · rw [if_neg first, read, Option.map_some, List.take_append, List.take_of_length_le whole]
        · rw [left, List.drop_append, List.drop_of_length_le whole, List.nil_append]

theorem read_pieces_short {pieces : List (List UInt8)} {need : ℕ}
    (short : pieces.flatten.length < need) : readPieces pieces need = none := by
  induction pieces generalizing need with
  | nil => exact if_neg (Nat.ne_of_gt short)
  | cons piece pieces ih =>
      rw [List.flatten_cons, List.length_append] at short
      rw [readPieces, if_neg (by omega), ih (by omega), Option.map_none]

/-- The pieces do not show in what an exact read gives. -/
theorem read_exact_enough {stream : Stream End} {need : ℕ} (enough : need ≤ stream.bytes.length) :
    ∃ rest : Stream End, stream.readExact need = (.ok (stream.bytes.take need), rest) ∧
      rest.bytes = stream.bytes.drop need ∧ rest.ending = stream.ending := by
  obtain ⟨rest, read, left⟩ := read_pieces_enough enough
  refine ⟨{ stream with pieces := rest }, ?_, left, rfl⟩
  rw [Stream.readExact, read]
  rfl

theorem read_exact_short {stream : Stream End} {need : ℕ} (short : stream.bytes.length < need) :
    stream.readExact need = (.error stream.ending, { stream with pieces := [] }) := by
  rw [Stream.readExact, read_pieces_short short]

end Streams

end PveSanFenced.Library.Bytes
