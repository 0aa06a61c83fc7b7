import BigQueryEmulator.Text.Search

/-! Text made of quoted strings and of plain text between them. In a string, quotes and
backslashes stand only in escapes, so that a quote after any other character is a boundary:
a search for a quoted word can only end where a string ends. -/
namespace BigQueryEmulator.Text
open List hiding tail

/-- The inside of a string. -/
inductive Escaped : List Char → Prop where
  | nil : Escaped []
  | plain {c : Char} {rest : List Char} (notQuote : c ≠ '"') (notBackslash : c ≠ '\\')
      (inner : Escaped rest) : Escaped (c :: rest)
  | pair {c : Char} {rest : List Char} (inner : Escaped rest) : Escaped ('\\' :: c :: rest)

/-- A word that stands in a string as it is. -/
def Simple (word : List Char) : Prop := ∀ c ∈ word, c ≠ '"' ∧ c ≠ '\\'
deriving Decidable

inductive Piece where
  | quoted (content : List Char)
  | plain (text : List Char)

namespace Piece

def text : Piece → List Char
  | .quoted content => '"' :: (content ++ ['"'])
  | .plain text => text

/-- Strings are escaped, and the text between them holds no quote and no character of `alien`. -/
def Proper (alien : Char) : Piece → Prop
  | .quoted content => Escaped content
  | .plain text => '"' ∉ text ∧ alien ∉ text

end Piece

def join (pieces : List Piece) : List Char := pieces.flatMap Piece.text

@[simp] theorem join_nil : join [] = [] := rfl

@[simp] theorem join_cons (piece : Piece) (pieces : List Piece) :
    join (piece :: pieces) = piece.text ++ join pieces := rfl

@[simp] theorem join_append (left right : List Piece) : join (left ++ right) = join left ++ join right := by
  simp [join]

theorem Escaped.append (first : Escaped left) (second : Escaped right) :
    Escaped (left ++ right) := by
  induction first with
  | nil => exact second
  | plain notQuote notBackslash _ ih => exact .plain notQuote notBackslash ih
  | pair _ ih => exact .pair ih

section
variable {word rest after content : List Char} {alien : Char}

theorem Simple.escaped (simple : Simple word) : Escaped word := by
  induction word with
  | nil => exact .nil
  | cons c word ih =>
    obtain ⟨first, others⟩ := forall_mem_cons.mp simple
    exact .plain first.1 first.2 (ih others)

/-- A simple word that ends at a quote is the whole string. -/
theorem Escaped.word_ends (escaped : Escaped content) (simple : Simple word)
    (same : word ++ '"' :: rest = content ++ '"' :: after) : word = content ∧ rest = after := by
  induction escaped generalizing word with
  | nil =>
    cases word with
    | nil => simpa using same
    | cons c word => exact absurd (cons.inj same).1 (simple c (.head _)).1
  | plain notQuote _ _ ih =>
    cases word with
    | nil => exact absurd (cons.inj same).1.symm notQuote
    | cons c word =>
      obtain ⟨rfl, tails⟩ := cons.inj same
      obtain ⟨rfl, rfl⟩ := ih (forall_mem_cons.mp simple).2 tails
      exact ⟨rfl, rfl⟩
  | pair _ _ =>
    cases word with
    | nil => exact absurd (cons.inj same).1 (by decide)
    | cons c word => exact absurd (cons.inj same).1 (simple c (.head _)).2

/-- A quote in or after a string is one of an escape, the string's end, or a later one. -/
theorem Escaped.quote_cases (escaped : Escaped content)
    (suffix : '"' :: rest <:+ content ++ '"' :: after) :
    (∃ inner, inner <:+ content ∧ Escaped inner ∧ rest = inner ++ '"' :: after) ∨ rest = after ∨
      '"' :: rest <:+ after := by
  induction escaped with
  | nil =>
    rcases suffix_cons_iff.mp suffix with same | deeper
    · exact .inr (.inl (cons.inj same).2)
    · exact .inr (.inr deeper)
  | @plain c inner notQuote _ _ ih =>
    rcases suffix_cons_iff.mp suffix with same | deeper
    · exact absurd (cons.inj same).1.symm notQuote
    · rcases ih deeper with ⟨tail, ends, escaped, same⟩ | later
      · exact .inl ⟨tail, ends.trans (suffix_cons c inner), escaped, same⟩
      · exact .inr later
  | @pair c inner escaped ih =>
    have longer : inner <:+ '\\' :: c :: inner := ⟨['\\', c], rfl⟩
    rcases suffix_cons_iff.mp suffix with same | deeper
    · exact absurd (cons.inj same).1 (by decide)
    rcases suffix_cons_iff.mp deeper with same | deeper
    · exact .inl ⟨inner, longer, escaped, (cons.inj same).2⟩
    · rcases ih deeper with ⟨tail, ends, escaped, same⟩ | later
      · exact .inl ⟨tail, ends.trans longer, escaped, same⟩
      · exact .inr later

end

section
variable {word rest : List Char} {alien : Char} {pieces : List Piece}

theorem not_mem_of_before_quote (proper : ∀ piece ∈ pieces, piece.Proper alien)
    (noQuote : '"' ∉ word) (same : word ++ '"' :: rest = join pieces) : alien ∉ word := by
  induction pieces generalizing word with
  | nil => simp at same
  | cons piece pieces ih =>
    cases piece with
    | quoted content =>
      cases word with
      | nil => exact not_mem_nil
      | cons c word =>
        have head : c = '"' := (cons.inj same).1
        exact absurd (head ▸ (.head _)) noQuote
    | plain text =>
      obtain ⟨textNoQuote, textNoAlien⟩ := proper _ (.head _)
      rw [join_cons, Piece.text, append_eq_append_iff] at same
      rcases same with ⟨middle, cut, left⟩ | ⟨middle, rfl, left⟩
      · -- the text of the piece cannot reach beyond the quote
        cases middle with
        | nil =>
          rw [append_nil] at cut
          rwa [← cut]
        | cons c middle =>
          have head : c = '"' := (cons.inj left).1.symm
          exact absurd (by simp [cut, head]) textNoQuote
      · rw [mem_append, not_or] at noQuote ⊢
        exact ⟨textNoAlien, ih (forall_mem_cons.mp proper).2 noQuote.2
          left.symm⟩

theorem quote_suffix_of_plain (noQuote : '"' ∉ text) (suffix : '"' :: rest <:+ text ++ later) :
    '"' :: rest <:+ later := by
  induction text with
  | nil => exact suffix
  | cons c text ih =>
    rw [mem_cons, not_or] at noQuote
    rcases suffix_cons_iff.mp suffix with same | deeper
    · exact absurd (cons.inj same).1 noQuote.1
    · exact ih noQuote.2 deeper

/-- A quoted word with a character that plain text does not have stands in a text only as
the end of a string. -/
theorem quoted_word_ends (proper : ∀ piece ∈ pieces, piece.Proper alien) (within : alien ∈ word)
    (simple : Simple word) (suffix : '"' :: (word ++ '"' :: rest) <:+ join pieces) :
    ∃ before content after, pieces = before ++ .quoted content :: after ∧ word <:+ content ∧
      rest = join after := by
  induction pieces with
  | nil => simp at suffix
  | cons piece pieces ih =>
    have others := fun other (mem : other ∈ pieces) => proper other (.tail _ mem)
    have later (deeper : '"' :: (word ++ '"' :: rest) <:+ join pieces) :
        ∃ before content after, piece :: pieces = before ++ .quoted content :: after ∧
          word <:+ content ∧ rest = join after := by
      obtain ⟨before, content, after, rfl, ends, same⟩ := ih others deeper
      exact ⟨piece :: before, content, after, rfl, ends, same⟩
    rw [join_cons] at suffix
    cases piece with
    | plain text => exact later (quote_suffix_of_plain (proper _ (.head _)).1 suffix)
    | quoted content =>
      have escaped : Escaped content := proper _ (.head _)
      rw [Piece.text, cons_append, append_assoc, singleton_append] at suffix
      -- the word begins at the string's first quote, at an escaped one, at its last, or later
      rcases suffix_cons_iff.mp suffix with same | deeper
      · obtain ⟨rfl, rfl⟩ := escaped.word_ends simple (cons.inj same).2
        exact ⟨[], _, pieces, rfl, suffix_refl _, rfl⟩
      · rcases escaped.quote_cases deeper with ⟨inner, ends, escaped, same⟩ | same | deeper
        · obtain ⟨rfl, rfl⟩ := escaped.word_ends simple same
          exact ⟨[], content, pieces, rfl, ends, rfl⟩
        · exact absurd within (not_mem_of_before_quote others (simple _ · |>.1 rfl) same)
        · exact later deeper

/-- A search for a string's text finds the string, or an earlier string that ends in it. -/
theorem find_quoted_word (proper : ∀ piece ∈ front ++ .quoted word :: tail, piece.Proper alien)
    (within : alien ∈ word) (simple : Simple word) :
    ∃ between, find ('"' :: (word ++ ['"'])) (join (front ++ .quoted word :: tail)) =
        some ('"' :: (word ++ '"' :: (join between ++ join tail))) ∧
      (between = [] ∨ ∃ before content after, front = before ++ .quoted content :: after ∧
        word <:+ content ∧ between = after ++ [.quoted word]) := by
  have stands : '"' :: (word ++ '"' :: join tail) <:+ join (front ++ .quoted word :: tail) :=
    ⟨join front, by simp [Piece.text]⟩
  have starts : '"' :: (word ++ ['"']) <+: '"' :: (word ++ '"' :: join tail) := ⟨join tail, by simp⟩
  obtain ⟨found, answer, earlier⟩ := find_first stands starts
  obtain ⟨suffix, rest, rfl⟩ := find_some answer
  have shape : '"' :: (word ++ ['"']) ++ rest = '"' :: (word ++ '"' :: rest) := by simp
  rw [shape] at answer suffix earlier
  obtain ⟨before, content, after, cut, ends, rfl⟩ :=
    quoted_word_ends proper within simple suffix
  rw [answer]
  rcases append_eq_append_iff.mp cut with ⟨middle, rfl, same⟩ | ⟨middle, rfl, same⟩
  · -- the match ends at this string or at a later one
    cases middle with
    | nil =>
      obtain ⟨_, rfl⟩ := cons.inj same
      exact ⟨[], by simp, .inl rfl⟩
    | cons piece middle =>
      obtain ⟨_, rfl⟩ := cons.inj same
      have short := earlier.length_le
      simp [Piece.text] at short
      omega
  · cases middle with
    | nil =>
      obtain ⟨_, rfl⟩ := cons.inj same
      exact ⟨[], by simp, .inl rfl⟩
    | cons piece middle =>
      obtain ⟨rfl, rfl⟩ := cons.inj same
      exact ⟨middle ++ [.quoted word], by simp, .inr ⟨before, content, middle, rfl, ends, rfl⟩⟩

end
end BigQueryEmulator.Text
