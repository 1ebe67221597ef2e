import PveSanFenced.ConfigRoundTrip

/-!
# Every layout of a token sequence

A word may be written bare or quoted, and whitespace and comments may stand
between any two tokens. The tokenizer gives back the tokens, whatever they are.
-/

namespace PveSanFenced.ConfigLayout

open PveSanFenced.Config
open PveSanFenced.ConfigRoundTrip
open PveSanFenced.Library.Text

set_option autoImplicit false

inductive Written : Token → List Char → Prop
  | quoted (word : String) : Written (.word word) (quote word)
  | bare (word : String) (nonempty : word ≠ "")
      (plain : ∀ c ∈ word.toList, isWhitespace c = false ∧
        c ∉ ['"', '\x7b', '\x7d', '#', '!']) : Written (.word word) word.toList
  | openBrace : Written .openBrace ['\x7b']
  | closeBrace : Written .closeBrace ['\x7d']

/-- The ways to write a sequence of tokens, with layout between any two. -/
inductive Rendering : List Token → List Char → Prop
  | nil : Rendering [] []
  | last {token : Token} {text : List Char} (written : Written token text) :
      Rendering [token] text
  | cons {token next : Token} {tokens : List Token} {text rest : List Char}
      {layout : List Blank} (written : Written token text) (separated : layout ≠ [])
      (rendering : Rendering (next :: tokens) rest) :
      Rendering (token :: next :: tokens) (text ++ (layoutChars layout ++ rest))

/-- A whole file: layout may also lead and end it. -/
def Laid (tokens : List Token) (text : String) : Prop :=
  ∃ lead trail body, Rendering tokens body ∧
    text.toList = layoutChars lead ++ (body ++ layoutChars trail)

theorem written_lexeme {token : Token} {text : List Char} (written : Written token text) :
    ∃ lexeme : Lexeme, lexeme.WellFormed ∧ lexeme.chars = text ∧ lexeme.token = token := by
  cases written with
  | quoted word => exact ⟨.quoted word, trivial, rfl, rfl⟩
  | bare word nonempty plain =>
      refine ⟨.bare word, ⟨nonempty, ?_⟩, rfl, rfl⟩
      intro c member
      obtain ⟨white, special⟩ := plain c member
      simp only [List.mem_cons, List.not_mem_nil, or_false, not_or] at special
      simp [isPlain, white, special]
  | openBrace => exact ⟨.openBrace, trivial, rfl, rfl⟩
  | closeBrace => exact ⟨.closeBrace, trivial, rfl, rfl⟩

theorem tokenize_written {token : Token} {text : List Char} (written : Written token text)
    (gap : List Blank) {rest : List Char} (separated : gap ≠ [] ∨ rest = []) :
    tokenizeChars (text ++ (layoutChars gap ++ rest)) [] .plain =
      token :: tokenizeChars rest [] .plain := by
  obtain ⟨lexeme, wellFormed, rfl, rfl⟩ := written_lexeme written
  exact tokenize_lexeme wellFormed separated

theorem tokenize_rendering {tokens : List Token} {body : List Char}
    (rendering : Rendering tokens body) (trail : List Blank) :
    tokenizeChars (body ++ layoutChars trail) [] .plain = tokens := by
  have ended : tokenizeChars [] [] .plain = [] := rfl
  induction rendering with
  | nil =>
      have skipped := tokenize_layout trail []
      rw [List.append_nil] at skipped
      rw [List.nil_append, skipped, ended]
  | last written =>
      have read := tokenize_written written trail (Or.inr rfl)
      rw [List.append_nil] at read
      rw [read, ended]
  | cons written separated rendering ih =>
      rw [List.append_assoc, List.append_assoc, tokenize_written written _ (Or.inl separated), ih]

/-- Every layout of a token sequence is read as that sequence. -/
theorem tokenize_laid (tokens : List Token) (text : String) (laid : Laid tokens text) :
    tokenize text = tokens := by
  obtain ⟨lead, trail, body, rendering, shown⟩ := laid
  rw [tokenize, shown, tokenize_layout]
  exact tokenize_rendering rendering trail

/-- A doubled quote, an empty word, and a comment with a quote and a brace. -/
theorem tokenize_laid_comment :
    tokenize "\"a\"\"b\" #\"\x7b\n\x7b \"\"\tc" =
      [.word "a\"b", .openBrace, .word "", .word "c"] := by
  have rendering := Rendering.cons (Written.quoted "a\"b")
    (List.cons_ne_nil (Blank.space ' ' (by decide))
      [Blank.comment '#' ['"', '\x7b'] '\n' (by simp) (by simp) (by simp)])
    (Rendering.cons Written.openBrace (List.cons_ne_nil (Blank.space ' ' (by decide)) [])
      (Rendering.cons (Written.quoted "") (List.cons_ne_nil (Blank.space '\t' (by decide)) [])
        (Rendering.last (Written.bare "c" (by decide) (by simp [isWhitespace])))))
  exact tokenize_laid _ _ ⟨[], [], _, rendering, by decide⟩

theorem exists_rendering (tokens : List Token) : ∃ body, Rendering tokens body := by
  have writes : ∀ token, ∃ text, Written token text := by
    intro token
    cases token with
    | word word => exact ⟨_, Written.quoted word⟩
    | openBrace => exact ⟨_, Written.openBrace⟩
    | closeBrace => exact ⟨_, Written.closeBrace⟩
  induction tokens with
  | nil => exact ⟨[], Rendering.nil⟩
  | cons token tokens ih =>
      obtain ⟨text, written⟩ := writes token
      cases tokens with
      | nil => exact ⟨text, Rendering.last written⟩
      | cons next tokens =>
          obtain ⟨rest, rendering⟩ := ih
          have separated : [Blank.space ' ' (by decide)] ≠ [] := List.cons_ne_nil _ _
          exact ⟨_, Rendering.cons written separated rendering⟩

theorem exists_tokenize (tokens : List Token) : ∃ text, tokenize text = tokens := by
  obtain ⟨body, rendering⟩ := exists_rendering tokens
  refine ⟨String.ofList body, ?_⟩
  have read := tokenize_rendering rendering []
  rw [layoutChars, List.flatMap_nil, List.append_nil] at read
  rw [tokenize, String.toList_ofList, read]

end PveSanFenced.ConfigLayout
