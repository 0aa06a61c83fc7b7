import Mathlib

/-! Replacing every occurrence of a word in a text, from the left, without another look at
what was put in. Where the word begins with a mark and the replacement does not, texts are
ordered: at the first difference the earlier text has the mark. -/
namespace BigQueryEmulator.Text
open List
variable {α : Type*}

section
variable [DecidableEq α]

/-- The first `skip` letters belong to an occurrence that was replaced already. -/
def replaceFrom (word new : List α) : Nat → List α → List α
  | _, [] => []
  | skip + 1, _ :: rest => replaceFrom word new skip rest
  | 0, c :: rest =>
    if word.isPrefixOf (c :: rest) then new ++ replaceFrom word new (word.length - 1) rest
    else c :: replaceFrom word new 0 rest

def replaceAll (word new text : List α) : List α := replaceFrom word new 0 text

variable {word new : List α}

theorem replaceFrom_eq (skip : Nat) (text : List α) :
    replaceFrom word new skip text = replaceAll word new (text.drop skip) := by
  induction text generalizing skip with
  | nil => cases skip <;> rfl
  | cons c rest ih =>
    cases skip with
    | zero => rfl
    | succ skip => exact ih skip

@[simp] theorem replaceAll_nil : replaceAll word new [] = [] := rfl

theorem replaceAll_hit (nonempty : word ≠ []) (rest : List α) :
    replaceAll word new (word ++ rest) = new ++ replaceAll word new rest := by
  cases word with
  | nil => exact absurd rfl nonempty
  | cons c word =>
    have starts : (c :: word).isPrefixOf (c :: (word ++ rest)) = true := by simp
    rw [cons_append, replaceAll, replaceFrom, if_pos starts, replaceFrom_eq]
    simp

theorem replaceAll_miss (misses : ¬ word <+: c :: rest) :
    replaceAll word new (c :: rest) = c :: replaceAll word new rest := by
  rw [← isPrefixOf_iff_prefix] at misses
  rw [replaceAll, replaceFrom, if_neg misses]
  rfl

theorem replaceAll_cases {motive : List α → Prop} (nonempty : word ≠ []) (nil : motive [])
    (hit : ∀ rest, motive rest → motive (word ++ rest))
    (miss : ∀ c rest, ¬ word <+: c :: rest → motive rest → motive (c :: rest)) (text : List α) :
    motive text := by
  induction length : text.length using Nat.strong_induction_on generalizing text with
  | _ n ih =>
    cases text with
    | nil => exact nil
    | cons c rest =>
      by_cases starts : word <+: c :: rest
      · obtain ⟨tail, same⟩ := starts
        have shorter : tail.length < n := by
          have positive := length_pos_of_ne_nil nonempty
          have sizes := congrArg List.length same
          simp only [length_append] at sizes
          omega
        rw [← same]
        exact hit tail (ih tail.length shorter tail rfl)
      · refine miss c rest starts (ih rest.length ?_ rest rfl)
        simp only [length_cons] at length
        omega

theorem replaceAll_of_absent {text : List α} (nonempty : word ≠ []) (absent : ¬ word <:+: text) :
    replaceAll word new text = text := by
  induction text using replaceAll_cases nonempty with
  | nil => rfl
  | hit rest ih => exact absurd ⟨[], rest, rfl⟩ absent
  | miss c rest misses ih =>
    rw [replaceAll_miss misses, ih fun within => absent (within.trans (suffix_cons c rest).isInfix)]

/-- Two texts are replaced one by one if no occurrence reaches from the first into the second. -/
theorem replaceAll_append {first second : List α} (nonempty : word ≠ [])
    (apart : ∀ tail, tail <:+ first → tail ≠ [] → word <+: tail ++ second → word <+: tail) :
    replaceAll word new (first ++ second) = replaceAll word new first ++ replaceAll word new second := by
  induction first using replaceAll_cases nonempty with
  | nil => rfl
  | hit rest ih =>
    rw [append_assoc, replaceAll_hit nonempty, replaceAll_hit nonempty, append_assoc, ih]
    exact fun tail suffix => apart tail (suffix.trans (suffix_append word rest))
  | miss c rest misses ih =>
    have still : ¬ word <+: c :: (rest ++ second) := fun starts =>
      misses (apart (c :: rest) (suffix_refl _) (cons_ne_nil c rest) starts)
    rw [cons_append, replaceAll_miss still, replaceAll_miss misses, cons_append, ih]
    exact fun tail suffix => apart tail (suffix.trans (suffix_cons c rest))

/-- Letters that the word does not have stay. -/
theorem mem_replaceAll (nonempty : word ≠ []) (foreign : c ∉ word)
    (within : c ∈ text) : c ∈ replaceAll word new text := by
  induction text using replaceAll_cases nonempty with
  | nil => cases within
  | hit rest ih =>
    rw [replaceAll_hit nonempty]
    exact mem_append_right _ (ih ((mem_append.mp within).resolve_left foreign))
  | miss d rest misses ih =>
    rw [replaceAll_miss misses]
    rcases mem_cons.mp within with rfl | later
    · exact .head _
    · exact .tail _ (ih later)

end

section
variable {mark : α}

/-- At the first difference the first text has the mark. -/
def Falls (mark : α) : List α → List α → Prop
  | [], second => second = []
  | _ :: _, [] => False
  | c :: first, d :: second => (c = d ∧ Falls mark first second) ∨ (c ≠ d ∧ c = mark)

theorem Falls.refl (text : List α) : Falls mark text text := by
  induction text with
  | nil => rfl
  | cons c text ih => exact .inl ⟨rfl, ih⟩

theorem Falls.trans (down : Falls mark first second) (further : Falls mark second third) :
    Falls mark first third := by
  induction first generalizing second third with
  | nil =>
    cases (show second = [] from down)
    exact further
  | cons c first ih =>
    cases second with
    | nil => cases down
    | cons d second =>
      cases third with
      | nil => cases further
      | cons e third =>
        rcases down with ⟨rfl, down⟩ | ⟨differ, rfl⟩
        · rcases further with ⟨rfl, further⟩ | differ
          · exact .inl ⟨rfl, ih down further⟩
          · exact .inr differ
        · rcases further with ⟨rfl, _⟩ | ⟨_, rfl⟩
          · exact .inr ⟨differ, rfl⟩
          · exact absurd rfl differ

theorem Falls.antisymm (down : Falls mark first second) (up : Falls mark second first) :
    first = second := by
  induction first generalizing second with
  | nil => exact (show second = [] from down).symm
  | cons c first ih =>
    cases second with
    | nil => cases down
    | cons d second =>
      rcases down with ⟨rfl, down⟩ | ⟨differ, rfl⟩
      · rcases up with ⟨_, up⟩ | ⟨differ, _⟩
        · rw [ih down up]
        · exact absurd rfl differ
      · rcases up with ⟨rfl, _⟩ | ⟨_, rfl⟩ <;> exact absurd rfl differ

theorem Falls.parts_eq (front : Falls mark first left) (same : first ++ second = left ++ right) :
    first = left ∧ second = right := by
  induction first generalizing left with
  | nil =>
    cases (show left = [] from front)
    exact ⟨rfl, same⟩
  | cons c first ih =>
    cases left with
    | nil => cases front
    | cons d left =>
      obtain ⟨heads, tails⟩ := cons.inj same
      rcases front with ⟨_, front⟩ | ⟨differ, _⟩
      · obtain ⟨rfl, rfl⟩ := ih front tails
        exact ⟨by rw [heads], rfl⟩
      · exact absurd heads differ

theorem flatMap_eq_iff_of_falls {items : List ι}
    (falls : ∀ item ∈ items, Falls mark (first item) (second item)) :
    items.flatMap first = items.flatMap second ↔ ∀ item ∈ items, first item = second item := by
  refine ⟨fun same => ?_, flatMap_congr⟩
  induction items with
  | nil => exact fun _ within => by cases within
  | cons item items ih =>
    obtain ⟨here, later⟩ := (falls item (.head _)).parts_eq same
    exact forall_mem_cons.mpr ⟨here, ih (forall_mem_cons.mp falls).2 later⟩

variable [DecidableEq α] {word new : List α} {c : α}

theorem falls_replaceAll (differ : c ≠ mark) (text : List α) :
    Falls mark text (replaceAll (mark :: word) (c :: new) text) := by
  induction text using replaceAll_cases (cons_ne_nil mark word) with
  | nil => rfl
  | hit rest ih =>
    rw [replaceAll_hit (cons_ne_nil mark word)]
    exact .inr ⟨differ.symm, rfl⟩
  | miss d rest misses ih =>
    rw [replaceAll_miss misses]
    exact .inl ⟨rfl, ih⟩

/-- A replacement changes a text exactly if it has the word. -/
theorem replaceAll_eq_self_iff (differ : c ≠ mark) (text : List α) :
    replaceAll (mark :: word) (c :: new) text = text ↔ ¬ mark :: word <:+: text := by
  refine ⟨fun same => ?_, replaceAll_of_absent (cons_ne_nil mark word)⟩
  induction text using replaceAll_cases (cons_ne_nil mark word) with
  | nil =>
    intro within
    cases infix_nil.mp within
  | hit rest ih =>
    rw [replaceAll_hit (cons_ne_nil mark word)] at same
    exact absurd (cons.inj same).1 differ
  | miss d rest misses ih =>
    rw [replaceAll_miss misses] at same
    intro within
    rcases infix_cons_iff.mp within with starts | later
    · exact misses starts
    · exact ih (cons.inj same).2 later

end
end BigQueryEmulator.Text
