import BigQueryEmulator.Text.Search

/-! Trimming blanks at both ends of a text, and cutting it where a word first stands. -/
namespace BigQueryEmulator.Text
open List hiding tail
variable {α : Type} {blank : α → Bool}

def trim (blank : α → Bool) (text : List α) : List α := (text.dropWhile blank).rdropWhile blank

/-- Text whose ends are no blanks. -/
structure Solid (blank : α → Bool) (text : List α) : Prop where
  nonempty : text ≠ []
  front : ∀ c ∈ text.head?, blank c = false
  back : ∀ c ∈ text.getLast?, blank c = false

variable {text : List α}

theorem dropWhile_eq_self (front : ∀ c ∈ text.head?, blank c = false) :
    text.dropWhile blank = text := by
  cases text with
  | nil => rfl
  | cons c rest => rw [dropWhile_cons_of_neg (by simp [front c rfl])]

theorem rdropWhile_eq_self (back : ∀ c ∈ text.getLast?, blank c = false) :
    text.rdropWhile blank = text := by
  rw [rdropWhile_eq_self_iff]
  intro nonempty
  simp [back _ (getLast?_eq_some_getLast nonempty)]

theorem rdropWhile_append (text : List α) (solid : ∀ c ∈ front.getLast?, blank c = false) :
    (front ++ text).rdropWhile blank = front ++ text.rdropWhile blank := by
  induction text using reverseRecOn with
  | nil => rw [append_nil, rdropWhile_nil, append_nil, rdropWhile_eq_self solid]
  | append_singleton text c ih =>
    rw [← append_assoc]
    by_cases white : blank c = true
    · rw [rdropWhile_concat_pos _ _ _ white, rdropWhile_concat_pos _ _ _ white, ih]
    · rw [rdropWhile_concat_neg _ _ _ white, rdropWhile_concat_neg _ _ _ white,
        append_assoc]

theorem Solid.trim (solid : Solid blank text) : Text.trim blank text = text := by
  rw [Text.trim, dropWhile_eq_self solid.front, rdropWhile_eq_self solid.back]

@[simp] theorem trim_nil : trim blank [] = [] := by simp [trim]

theorem trim_cons (white : blank c = true) (text : List α) :
    trim blank (c :: text) = trim blank text := by
  rw [trim, trim, dropWhile_cons_of_pos white]

theorem dropWhile_rdropWhile (text : List α) :
    (text.rdropWhile blank).dropWhile blank = trim blank text := by
  rw [trim]
  induction text using reverseRecOn with
  | nil => simp
  | append_singleton text c ih =>
    by_cases white : blank c = true
    · rw [rdropWhile_concat_pos _ _ _ white, ih, dropWhile_append]
      split
      next empty =>
        rw [isEmpty_iff.mp empty, dropWhile_cons_of_pos white, dropWhile_nil]
      next => rw [rdropWhile_concat_pos _ _ _ white]
    · rw [rdropWhile_concat_neg _ _ _ white, dropWhile_append,
        dropWhile_cons_of_neg white]
      split
      next => rw [rdropWhile_eq_self (by simpa using white)]
      next => rw [rdropWhile_concat_neg _ _ _ white]

theorem trim_rdropWhile (text : List α) : trim blank (text.rdropWhile blank) = trim blank text := by
  rw [trim, dropWhile_rdropWhile, trim, rdropWhile_idempotent]

@[simp] theorem trim_trim (text : List α) : trim blank (trim blank text) = trim blank text := by
  rw [← dropWhile_rdropWhile text, trim, dropWhile_idempotent, ← trim, trim_rdropWhile,
    dropWhile_rdropWhile]

theorem trim_append (text : List α) (solid : Solid blank front) :
    trim blank (front ++ text) = front ++ text.rdropWhile blank := by
  have starts : ∀ c ∈ (front ++ text).head?, blank c = false := by
    intro c first
    rw [head?_append_of_ne_nil _ solid.nonempty] at first
    exact solid.front c first
  rw [trim, dropWhile_eq_self starts, rdropWhile_append _ solid.back]

theorem trim_cons_solid (solid : blank c = false) (text : List α) :
    trim blank (c :: text) = c :: text.rdropWhile blank := by
  rw [← singleton_append, trim_append _ ⟨cons_ne_nil _ _, by simpa using solid,
    by simpa using solid⟩]
  rfl

theorem solid_of_trim_eq (nonempty : text ≠ []) (same : trim blank text = text) :
    Solid blank text := by
  have dropped : text.dropWhile blank = text := by
    refine (dropWhile_suffix blank).eq_of_length_le ?_
    calc text.length = (trim blank text).length := by rw [same]
      _ ≤ (text.dropWhile blank).length := (List.rdropWhile_prefix _ _).length_le
  have ended : text.rdropWhile blank = text := by rwa [trim, dropped] at same
  refine ⟨nonempty, ?_, ?_⟩
  · intro c first
    obtain ⟨rest, rfl⟩ := head?_eq_some_iff.mp first
    by_contra white
    rw [dropWhile_cons_of_pos (by simpa using white)] at dropped
    exact absurd (congrArg length dropped)
      ((dropWhile_suffix blank).length_le.trans_lt (Nat.lt_succ_self _)).ne
  · intro c last
    have back := rdropWhile_eq_self_iff.mp ended nonempty
    rw [getLast?_eq_some_getLast nonempty] at last
    cases last
    simpa using back

/-- The last character that is no blank. -/
def lastSolid (blank : α → Bool) (text : List α) : Option α := (text.filter fun c => !blank c).getLast?

theorem lastSolid_append (front text : List α) :
    lastSolid blank (front ++ text) = (lastSolid blank text).or (lastSolid blank front) := by
  rw [lastSolid, filter_append, getLast?_append]
  rfl

theorem getLast?_rdropWhile (text : List α) :
    (text.rdropWhile blank).getLast? = lastSolid blank text := by
  induction text using reverseRecOn with
  | nil => simp [lastSolid]
  | append_singleton text c ih =>
    by_cases white : blank c = true
    · rw [rdropWhile_concat_pos _ _ _ white, ih]
      simp [lastSolid, white]
    · simp [lastSolid, white]

theorem length_trim_le (text : List α) : (trim blank text).length ≤ text.length :=
  (List.rdropWhile_prefix _ _).length_le.trans (dropWhile_suffix _).length_le

section
variable [DecidableEq α] {needle before text : List α}

/-- The text before the first place where the needle stands, and the text from there on. -/
def cutAt (needle : List α) : List α → List α × Option (List α)
  | [] => ([], none)
  | c :: rest =>
    if needle.isPrefixOf (c :: rest) then ([], some (c :: rest))
    else ((c :: (cutAt needle rest).1), (cutAt needle rest).2)

theorem cutAt_suffix (cut : (cutAt needle text).2 = some found) : found <:+ text := by
  induction text with
  | nil => cases cut
  | cons c rest ih =>
    rw [cutAt] at cut
    split at cut
    · cases cut
      exact suffix_refl _
    · exact (ih cut).trans (suffix_cons c rest)

theorem drop_cutAt_le (needle : List α) (n : Nat) (text : List α) :
    (((cutAt needle text).2.map (drop n)).getD []).length ≤ text.length := by
  cases cut : (cutAt needle text).2 with
  | none => exact Nat.zero_le _
  | some found =>
    have within := (cutAt_suffix cut).length_le
    simp only [Option.map_some, Option.getD_some, length_drop]
    omega

theorem drop_cutAt_lt (positive : 0 < n) :
    (((cutAt needle (c :: rest)).2.map (drop n)).getD []).length < (c :: rest).length := by
  cases cut : (cutAt needle (c :: rest)).2 with
  | none => exact Nat.succ_pos _
  | some found =>
    have within := (cutAt_suffix cut).length_le
    rw [length_cons] at within
    simp only [Option.map_some, Option.getD_some, length_drop, length_cons]
    omega

omit [DecidableEq α] in
theorem absent_of_cons (absent : ¬ needle <:+: c :: text) : ¬ needle <:+: text :=
  fun inside => absent (infix_cons_iff.mpr (.inr inside))

omit [DecidableEq α] in
theorem absent_append (other : c ∉ before) (short : text.length ≤ tail.length) :
    ¬ c :: tail <:+: before ++ text := by
  induction before with
  | nil =>
    intro inside
    have long := inside.length_le
    rw [nil_append, length_cons] at long
    omega
  | cons d rest ih =>
    rw [mem_cons, not_or] at other
    rw [cons_append, infix_cons_iff, not_or]
    exact ⟨fun starts => other.1 (cons_prefix_cons.mp starts).1, ih other.2⟩

theorem cutAt_absent (absent : ¬ needle <:+: text) : cutAt needle text = (text, none) := by
  induction text with
  | nil => rfl
  | cons c rest ih =>
    rw [cutAt, if_neg, ih (absent_of_cons absent)]
    exact fun starts => absent (List.isPrefixOf_iff_prefix.mp starts).isInfix

/-- A needle whose first character does not recur is not met across the border to one of its
places. -/
theorem cutAt_append (once : c ∉ tail) (absent : ¬ c :: tail <:+: before) (text : List α) :
    cutAt (c :: tail) (before ++ c :: tail ++ text) = (before, some (c :: tail ++ text)) := by
  induction before with
  | nil =>
    have starts : (c :: tail).isPrefixOf (c :: (tail ++ text)) = true :=
      List.isPrefixOf_iff_prefix.mpr ⟨text, rfl⟩
    rw [nil_append, cons_append, cutAt, if_pos starts]
  | cons d rest ih =>
    rw [cons_append, cons_append, cutAt, if_neg, ih (absent_of_cons absent)]
    intro starts
    obtain ⟨after, same⟩ := List.isPrefixOf_iff_prefix.mp starts
    rw [append_assoc, ← cons_append (a := d)] at same
    rcases append_eq_append_iff.mp same with ⟨inside, fits, -⟩ | ⟨inside, fits, past⟩
    · exact absent ⟨[], inside, by simpa using fits.symm⟩
    cases inside with
    | nil => exact absent ⟨[], [], by simpa using fits⟩
    | cons x inside =>
      -- the needle would go on in its own next place
      have first : x = c := (cons.inj past).1.symm
      have repeats := (cons.inj fits).2
      exact once (repeats ▸ first ▸ mem_append_right _ (.head _))

end
end BigQueryEmulator.Text
