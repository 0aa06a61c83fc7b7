import Mathlib

/-! Searching in texts. A position in a text is the rest of the text from there on, so that
a search answers with a suffix. -/
namespace BigQueryEmulator.Text
open List

-- The characters of a text are tried one by one, not all characters there are.
instance (priority := 2000) decidableText (p : Char → Prop) [DecidablePred p] (text : List Char) :
    Decidable (∀ c ∈ text, p c) :=
  decidableBAll p text

instance (priority := 2000) decidableChar (p : Char → Prop) [DecidablePred p] (c? : Option Char) :
    Decidable (∀ c ∈ c?, p c) :=
  Option.decidableForallMem c?

variable {α : Type} [DecidableEq α]

/-- The text from the first place where the needle stands. -/
def find (needle : List α) : List α → Option (List α)
  | [] => if needle = [] then some [] else none
  | c :: rest => if needle.isPrefixOf (c :: rest) then some (c :: rest) else find needle rest

/-- The text up to the first mark, with the mark. -/
def takeThrough (mark : α) : List α → Option (List α)
  | [] => none
  | c :: rest => if c = mark then some [c] else (takeThrough mark rest).map (c :: ·)

section
variable {needle text found : List α}

theorem find_prefix (starts : needle <+: text) : find needle text = some text := by
  cases text with
  | nil => rw [prefix_nil.mp starts]; rfl
  | cons c rest => rw [find, if_pos (List.isPrefixOf_iff_prefix.mpr starts)]

theorem find_some (ok : find needle text = some found) : found <:+ text ∧ needle <+: found := by
  induction text with
  | nil =>
    rw [find] at ok
    split at ok
    · rename_i empty
      cases ok
      rw [empty]
      exact ⟨suffix_refl _, prefix_refl _⟩
    · cases ok
  | cons c rest ih =>
    rw [find] at ok
    split at ok
    · rename_i starts
      cases ok
      exact ⟨suffix_refl _, isPrefixOf_iff_prefix.mp starts⟩
    · obtain ⟨suffix, starts⟩ := ih ok
      exact ⟨suffix.trans (suffix_cons c rest), starts⟩

theorem find_first (suffix : later <:+ text) (starts : needle <+: later) :
    ∃ found, find needle text = some found ∧ later <:+ found := by
  induction text with
  | nil =>
    have empty := suffix_nil.mp suffix
    subst empty
    exact ⟨[], find_prefix starts, suffix_refl _⟩
  | cons c rest ih =>
    rw [find]
    split
    · exact ⟨c :: rest, rfl, suffix⟩
    · rename_i other
      rcases suffix_cons_iff.mp suffix with rfl | deeper
      · exact absurd (List.isPrefixOf_iff_prefix.mpr starts) other
      · exact ih deeper

theorem find_none_of_not_infix (absent : ¬ needle <:+: text) : find needle text = none := by
  cases answer : find needle text with
  | none => rfl
  | some found =>
    obtain ⟨⟨before, cut⟩, ⟨after, starts⟩⟩ := find_some answer
    exact absurd ⟨before, after, by rw [append_assoc, starts, cut]⟩ absent

theorem find_char_append (absent : mark ∉ before) (text : List α) :
    find [mark] (before ++ mark :: text) = some (mark :: text) := by
  induction before with
  | nil => exact find_prefix ⟨text, rfl⟩
  | cons c rest ih =>
    rw [mem_cons, not_or] at absent
    rw [cons_append, find, if_neg]
    · exact ih absent.2
    · simpa using absent.1

end

section
variable {mark : α} {before text : List α}

theorem takeThrough_append (absent : mark ∉ before) (text : List α) :
    takeThrough mark (before ++ mark :: text) = some (before ++ [mark]) := by
  induction before with
  | nil => simp [takeThrough]
  | cons c rest ih =>
    rw [mem_cons, not_or] at absent
    rw [cons_append, takeThrough, if_neg (Ne.symm absent.1), ih absent.2]
    rfl

/-- The first mark comes no later than any other. -/
theorem takeThrough_of_mem (within : mark ∈ before) (text : List α) :
    ∃ taken, takeThrough mark (before ++ text) = some taken ∧ taken <+: before := by
  induction before with
  | nil => cases within
  | cons c rest ih =>
    rw [cons_append, takeThrough]
    split
    · exact ⟨[c], rfl, rest, rfl⟩
    rename_i other
    rcases mem_cons.mp within with same | deeper
    · exact absurd same.symm other
    · obtain ⟨taken, answered, front⟩ := ih deeper
      exact ⟨c :: taken, by rw [answered]; rfl, cons_prefix_cons.mpr ⟨rfl, front⟩⟩

end
end BigQueryEmulator.Text
