import BigQueryEmulator.Engine.Parameters
import BigQueryEmulator.Storage.JsonText

/-! When the passes of `SubstituteDuckdbParameters` put each parameter in its place. A pass
works on the tokens one by one, since no placeholder reaches over the end of a token. But it
also looks into string literals, quoted identifiers and the literals put in by the passes
before it. -/
namespace BigQueryEmulator.Engine
open Storage Text DuckDbExecutor
open List hiding format tail

theorem placeholder_eq (slot : Nat) : placeholder slot = '$' :: Nat.toDigits 10 slot := by
  rw [placeholder, Nat.toString_eq_repr, Nat.toList_repr]

theorem digit_of_placeholder (within : c ∈ placeholder slot) : c = '$' ∨ c.isDigit = true := by
  rw [placeholder_eq] at within
  rcases mem_cons.mp within with rfl | digit
  · exact .inl rfl
  · exact .inr (Nat.isDigit_of_mem_toDigits (by decide) (by decide) digit)

theorem length_toDigits_le (le : a ≤ b) :
    (Nat.toDigits 10 a).length ≤ (Nat.toDigits 10 b).length := by
  have positive : 0 < (Nat.toDigits 10 b).length := Nat.length_toDigits_pos
  rw [Nat.length_toDigits_le_iff (by decide) positive]
  exact le.trans_lt ((Nat.length_toDigits_le_iff (by decide) positive).mp le_rfl)

/-- A longer number does not begin with a larger one. -/
theorem eq_of_toDigits_starts (le : b ≤ a) (starts : Nat.toDigits 10 a <+: Nat.toDigits 10 b) :
    a = b := by
  have same := starts.eq_of_length_le (length_toDigits_le le)
  have value := congrArg (fun digits => Nat.ofDigitChars 10 digits 0) same
  simpa only [Nat.ofDigitChars_ten_toDigits] using value

/-- No placeholder can begin in the text and go on after it. -/
def Closed (text : List Char) : Prop :=
  ∀ rest, '$' :: rest <:+ text → ∃ c ∈ rest, c.isDigit = false ∧ c ≠ '$'

theorem Closed.of_no_dollar (absent : '$' ∉ text) : Closed text :=
  fun _ suffix => absurd (suffix.mem (.head _)) absent

theorem Closed.of_last (digit : c.isDigit = false) (dollar : c ≠ '$') : Closed (text ++ [c]) := by
  intro rest suffix
  refine ⟨c, ?_, digit, dollar⟩
  have last : ('$' :: rest).getLast? = some c := by
    obtain ⟨front, same⟩ := suffix
    have whole : (front ++ '$' :: rest).getLast? = some c := by
      rw [same]
      simp
    simpa [getLast?_append] using whole
  cases rest with
  | nil => exact absurd (Option.some.inj last).symm dollar
  | cons d rest =>
    exact mem_of_getLast? last

theorem Closed.tail (closed : Closed (c :: text)) : Closed text :=
  fun rest suffix => closed rest (suffix.trans (suffix_cons c text))

theorem Closed.append (left : Closed first) (right : Closed second) : Closed (first ++ second) := by
  induction first with
  | nil => exact right
  | cons c first ih =>
    intro rest suffix
    rcases suffix_cons_iff.mp suffix with same | later
    · obtain ⟨rfl, rfl⟩ := cons.inj same
      obtain ⟨d, within, other⟩ := left first (suffix_refl _)
      exact ⟨d, mem_append_left _ within, other⟩
    · exact ih left.tail rest later

theorem placeholder_ne_nil (slot : Nat) : placeholder slot ≠ [] := cons_ne_nil _ _

theorem Closed.replaceAll (closed : Closed text) (inner : Closed literal) :
    Closed (replaceAll (placeholder slot) literal text) := by
  induction text using replaceAll_cases (placeholder_ne_nil slot) with
  | nil => exact closed
  | hit rest ih =>
    rw [replaceAll_hit (placeholder_ne_nil slot)]
    refine inner.append (ih fun tail suffix => closed tail ?_)
    exact suffix.trans (suffix_append (placeholder slot) rest)
  | miss c rest misses ih =>
    rw [replaceAll_miss misses]
    intro tail suffix
    rcases suffix_cons_iff.mp suffix with same | later
    · -- a dollar that stays is still followed by a character that no placeholder has
      obtain ⟨rfl, rfl⟩ := cons.inj same
      obtain ⟨d, within, digit, dollar⟩ := closed rest (suffix_refl _)
      refine ⟨d, mem_replaceAll (placeholder_ne_nil slot) (fun among => ?_) within, digit, dollar⟩
      rcases digit_of_placeholder among with same | isDigit
      · exact dollar same
      · rw [digit] at isDigit
        cases isDigit
    · exact ih closed.tail tail later

section

inductive Stretch where
  | settled (text : List Char)
  | pending (slot : Nat)

namespace Stretch

def text : Stretch → List Char
  | settled text => text
  | pending slot => placeholder slot

def pass (slot : Nat) (literal : List Char) : Stretch → Stretch
  | settled text => settled (replaceAll (placeholder slot) literal text)
  | pending other => if other = slot then settled literal else pending other

def Within (slot : Nat) : Stretch → Prop
  | settled text => Closed text
  | pending other => 1 ≤ other ∧ other ≤ slot

end Stretch

def joined (stretches : List Stretch) : List Char := stretches.flatMap Stretch.text

@[simp] theorem joined_cons (stretch : Stretch) (stretches : List Stretch) :
    joined (stretch :: stretches) = stretch.text ++ joined stretches := rfl

/-- Whatever follows a placeholder does not prolong its number. -/
def Ended : List Stretch → Prop
  | [] => True
  | .pending _ :: rest => EndsNumber (joined rest) ∧ Ended rest
  | .settled _ :: rest => Ended rest

variable {slot : Nat} {literal : List Char}

theorem head_of_placeholder_prefix (nonempty : tail ≠ [])
    (starts : placeholder slot <+: tail ++ rest) : ∃ more, tail = '$' :: more := by
  cases tail with
  | nil => exact absurd rfl nonempty
  | cons c tail =>
    obtain ⟨rfl, _⟩ := cons_prefix_cons.mp starts
    exact ⟨tail, rfl⟩

/-- No occurrence of a placeholder reaches over the end of a closed text. -/
theorem prefix_of_closed (closed : Closed text) (suffix : tail <:+ text) (nonempty : tail ≠ [])
    (starts : placeholder slot <+: tail ++ rest) : placeholder slot <+: tail := by
  obtain ⟨more, rfl⟩ := head_of_placeholder_prefix nonempty starts
  rcases List.prefix_or_prefix_of_prefix starts (prefix_append _ rest) with whole | part
  · exact whole
  obtain ⟨c, within, digit, dollar⟩ := closed more suffix
  rcases digit_of_placeholder (part.mem (.tail _ within)) with same | isDigit
  · exact absurd same dollar
  · rw [digit] at isDigit
    cases isDigit

theorem suffix_of_placeholder (suffix : '$' :: more <:+ placeholder other) :
    '$' :: more = placeholder other := by
  rw [placeholder_eq] at suffix ⊢
  rcases suffix_cons_iff.mp suffix with same | later
  · exact same
  · have digit := Nat.isDigit_of_mem_toDigits (by decide) (by decide) (later.mem (.head _))
    cases digit

/-- Nor over the end of a placeholder for a slot up to its own. -/
theorem prefix_of_pending (ended : EndsNumber rest) (suffix : tail <:+ placeholder other)
    (nonempty : tail ≠ []) (starts : placeholder slot <+: tail ++ rest) :
    placeholder slot <+: tail := by
  obtain ⟨more, rfl⟩ := head_of_placeholder_prefix nonempty starts
  rcases List.prefix_or_prefix_of_prefix starts (prefix_append _ rest) with whole | part
  · exact whole
  -- a longer placeholder goes on with a digit
  obtain ⟨digits, longer⟩ := part
  rw [← longer, prefix_append_right_inj] at starts
  cases digits with
  | nil => rw [← longer, append_nil]
  | cons c digits =>
    obtain ⟨tail, rfl⟩ := starts
    obtain ⟨digit, dollar⟩ := ended c rfl
    have within : c ∈ placeholder slot := by simp [← longer]
    rcases digit_of_placeholder within with same | isDigit
    · exact absurd same dollar
    · rw [digit] at isDigit
      cases isDigit

theorem replaceAll_pending (le : other ≤ slot) :
    replaceAll (placeholder slot) literal (placeholder other) =
      if other = slot then literal else placeholder other := by
  split
  · rename_i same
    rw [same]
    calc replaceAll (placeholder slot) literal (placeholder slot)
        = replaceAll (placeholder slot) literal (placeholder slot ++ []) := by rw [append_nil]
      _ = literal := by
          rw [replaceAll_hit (placeholder_ne_nil slot), replaceAll_nil, append_nil]
  · rename_i differ
    refine replaceAll_of_absent (placeholder_ne_nil slot) fun within => differ ?_
    obtain ⟨tail, starts, suffix⟩ := infix_iff_prefix_suffix.mp within
    have nonempty : tail ≠ [] := by
      rintro rfl
      exact placeholder_ne_nil slot (prefix_nil.mp starts)
    obtain ⟨more, rfl⟩ := head_of_placeholder_prefix nonempty
      (starts.trans (prefix_append tail []))
    rw [suffix_of_placeholder suffix, placeholder_eq, placeholder_eq, cons_prefix_cons] at starts
    exact (eq_of_toDigits_starts le starts.2).symm

theorem EndsNumber.replaceAll (ended : EndsNumber rest) :
    EndsNumber (replaceAll (placeholder slot) literal rest) := by
  cases rest with
  | nil => exact ended
  | cons c rest =>
    have misses : ¬ placeholder slot <+: c :: rest := by
      intro starts
      exact (ended c rfl).2 (cons_prefix_cons.mp starts).1.symm
    rw [replaceAll_miss misses]
    exact ended

/-- A pass replaces stretch by stretch. -/
theorem replaceAll_joined (within : ∀ stretch ∈ stretches, stretch.Within slot)
    (ended : Ended stretches) :
    replaceAll (placeholder slot) literal (joined stretches) =
      joined (stretches.map (Stretch.pass slot literal)) := by
  induction stretches with
  | nil => rfl
  | cons stretch stretches ih =>
    have later := fun other (among : other ∈ stretches) => within other (.tail _ among)
    have first := within stretch (.head _)
    rw [joined_cons, map_cons, joined_cons]
    cases stretch with
    | settled text =>
      refine (replaceAll_append (placeholder_ne_nil slot) fun tail suffix nonempty starts =>
        prefix_of_closed first suffix nonempty starts).trans ?_
      rw [ih later ended]
      rfl
    | pending other =>
      refine (replaceAll_append (placeholder_ne_nil slot) fun tail suffix nonempty starts =>
        prefix_of_pending ended.1 suffix nonempty starts).trans ?_
      rw [ih later ended.2, replaceAll_pending first.2, Stretch.pass]
      split <;> rfl

theorem Ended.pass (within : ∀ stretch ∈ stretches, stretch.Within slot) (ended : Ended stretches) :
    Ended (stretches.map (Stretch.pass slot literal)) := by
  induction stretches with
  | nil => trivial
  | cons stretch stretches ih =>
    have later := fun other (among : other ∈ stretches) => within other (.tail _ among)
    cases stretch with
    | settled text => exact ih later ended
    | pending other =>
      rw [map_cons, Stretch.pass]
      split
      · exact ih later ended.2
      · refine ⟨?_, ih later ended.2⟩
        rw [← replaceAll_joined later ended.2]
        exact ended.1.replaceAll

theorem Stretch.Within.pass {stretch : Stretch} (within : stretch.Within (slot + 1))
    (closed : Closed literal) : (stretch.pass (slot + 1) literal).Within slot := by
  cases stretch with
  | settled text => exact Closed.replaceAll within closed
  | pending other =>
    obtain ⟨positive, most⟩ := within
    rw [Stretch.pass]
    split
    · exact closed
    · exact ⟨positive, by omega⟩

end

section

structure IsLiteral (literal : List Char) : Prop where
  begins : ∃ c rest, literal = c :: rest ∧ c ≠ '$'
  closed : Closed literal

variable {literals : List (List Char)}

def finalText (literals : List (List Char)) (slots : Nat) : Stretch → List Char
  | .settled text => substituteSlots literals slots text
  | .pending slot => substituteSlots literals (slot - 1) (literals.getD (slot - 1) [])

/-- All passes together work stretch by stretch. -/
theorem substituteSlots_joined (closed : ∀ slot, Closed (literals.getD slot []))
    (within : ∀ stretch ∈ stretches, stretch.Within slots) (ended : Ended stretches) :
    substituteSlots literals slots (joined stretches) = stretches.flatMap (finalText literals slots) := by
  induction slots generalizing stretches with
  | zero =>
    refine flatMap_congr fun stretch among => ?_
    cases stretch with
    | settled text => rfl
    | pending slot =>
      have least := within _ among
      exact absurd (least.1.trans least.2) (by decide)
  | succ slots ih =>
    have still : ∀ stretch ∈ stretches.map (Stretch.pass (slots + 1) (literals.getD slots [])),
        stretch.Within slots := by
      exact forall_mem_map.mpr fun old found => (within old found).pass (closed slots)
    rw [substituteSlots, replaceAll_joined within ended, ih still (ended.pass within),
      flatMap_map]
    refine flatMap_congr fun stretch _ => ?_
    cases stretch with
    | settled text => rfl
    | pending slot =>
      rw [Stretch.pass]
      split
      · rename_i same
        rw [same]
        rfl
      · rfl

theorem falls_pass (sound : ∀ slot < slots, IsLiteral (literals.getD slot []))
    (below : slot < slots) (text : List Char) :
    Falls '$' text (replaceAll (placeholder (slot + 1)) (literals.getD slot []) text) := by
  obtain ⟨c, rest, shape, differ⟩ := (sound slot below).begins
  rw [shape]
  exact falls_replaceAll differ text

theorem falls_substituteSlots (sound : ∀ slot < slots, IsLiteral (literals.getD slot []))
    (text : List Char) : Falls '$' text (substituteSlots literals slots text) := by
  induction slots generalizing text with
  | zero => exact Falls.refl text
  | succ slots ih =>
    refine (falls_pass sound (Nat.lt_succ_self slots) text).trans ?_
    exact ih (fun slot below => sound slot (below.trans (Nat.lt_succ_self slots))) _

/-- The passes leave a text alone exactly if it holds none of the placeholders. -/
theorem substituteSlots_eq_self_iff (sound : ∀ slot < slots, IsLiteral (literals.getD slot []))
    (text : List Char) :
    substituteSlots literals slots text = text ↔
      ∀ slot, 1 ≤ slot → slot ≤ slots → ¬ placeholder slot <:+: text := by
  induction slots generalizing text with
  | zero => simp [substituteSlots]; omega
  | succ slots ih =>
    have lower := fun slot (below : slot < slots) => sound slot (below.trans (Nat.lt_succ_self slots))
    obtain ⟨c, rest, shape, differ⟩ := (sound slots (Nat.lt_succ_self slots)).begins
    have unchanged : replaceAll (placeholder (slots + 1)) (literals.getD slots []) text = text ↔
        ¬ placeholder (slots + 1) <:+: text := by
      rw [shape]
      exact replaceAll_eq_self_iff differ text
    rw [substituteSlots]
    constructor
    · intro same
      -- the text falls from pass to pass, so that no pass can have changed it
      have kept : replaceAll (placeholder (slots + 1)) (literals.getD slots []) text = text := by
        refine Falls.antisymm ?_ (falls_pass sound (Nat.lt_succ_self slots) text)
        have later := falls_substituteSlots lower
          (replaceAll (placeholder (slots + 1)) (literals.getD slots []) text)
        rwa [same] at later
      rw [kept] at same
      intro slot positive most
      rcases Nat.lt_or_eq_of_le most with below | rfl
      · exact (ih lower text).mp same slot positive (Nat.lt_succ_iff.mp below)
      · exact unchanged.mp kept
    · intro absent
      rw [unchanged.mpr (absent (slots + 1) (Nat.succ_pos slots) le_rfl), ih lower]
      exact fun slot positive most => absent slot positive (most.trans (Nat.le_succ slots))

end

theorem IsLiteral.of_no_dollar (nonempty : literal ≠ []) (absent : '$' ∉ literal) :
    IsLiteral literal := by
  refine ⟨?_, .of_no_dollar absent⟩
  cases literal with
  | nil => exact absurd rfl nonempty
  | cons c rest =>
    refine ⟨c, rest, rfl, ?_⟩
    rintro rfl
    exact absent (.head _)

theorem isLiteral_quoted (frontFree : '$' ∉ front.toList) (backFree : '$' ∉ back.toList)
    (s : String) : IsLiteral (quotedLiteral front s back) := by
  constructor
  · unfold quotedLiteral
    cases shape : front.toList with
    | nil => exact ⟨'\'', _, rfl, by decide⟩
    | cons c rest =>
      refine ⟨c, _, rfl, ?_⟩
      rintro rfl
      exact frontFree (by simp [shape])
  · have shape : quotedLiteral front s back =
        (front.toList ++ '\'' :: escapeStringLiteralInner s.toList ++ ['\'']) ++ back.toList := by
      simp [quotedLiteral]
    rw [shape]
    exact (Closed.of_last (by decide) (by decide)).append (.of_no_dollar backFree)

theorem isLiteral_int (n : Int) : IsLiteral (toString n).toList := by
  refine .of_no_dollar ?_ fun within => ?_
  · exact toString_int_ne_nil n
  · rcases toString_int_chars n within with digit | sign
    · cases digit
    · cases sign

theorem isLiteral_float (number : (format bits).toList ≠ [] ∧ '$' ∉ (format bits).toList) :
    IsLiteral (renderFloatLiteral format bits) := by
  unfold renderFloatLiteral
  split
  · exact .of_no_dollar (by decide) (by decide)
  split
  · split <;> exact .of_no_dollar (by decide) (by decide)
  · exact .of_no_dollar number.1 number.2

theorem isLiteral_blob (bytes : List UInt8) : IsLiteral (renderBlobLiteral bytes) :=
  ⟨⟨'X', _, rfl, by decide⟩, .of_last (by decide) (by decide)⟩

theorem isLiteral_list (elements : List Value) : IsLiteral (renderListLiteral elements) := by
  refine ⟨⟨'[', _, rfl, by decide⟩, ?_⟩
  rw [renderListLiteral, ← cons_append]
  exact .of_last (by decide) (by decide)

theorem DuckDbExecutor.isLiteral (ok : renderSemanticParameterLiteral formats value = .ok literal) :
    IsLiteral literal := by
  cases value with
  | unsupported type => cases ok
  | null => cases ok; exact .of_no_dollar (by decide) (by decide)
  | bool value => cases ok; cases value <;> exact .of_no_dollar (by decide) (by decide)
  | int64 value => cases ok; exact isLiteral_int value
  | double bits => cases ok; exact isLiteral_float (formats.precise_number bits)
  | bytes value => cases ok; exact isLiteral_blob value
  | array elements => cases ok; exact isLiteral_list elements
  | _ => cases ok; exact isLiteral_quoted (by decide) (by decide) _

theorem ControlOpExecutor.isLiteral
    (ok : renderSemanticParameterLiteral formats value = .ok literal) : IsLiteral literal := by
  cases value with
  | unsupported type => cases ok
  | null => cases ok; exact .of_no_dollar (by decide) (by decide)
  | bool value => cases ok; cases value <;> exact .of_no_dollar (by decide) (by decide)
  | int64 value => cases ok; exact isLiteral_int value
  | double bits => cases ok; exact isLiteral_float (formats.short_number bits)
  | bytes value => cases ok; exact isLiteral_blob value
  | _ => cases ok; exact isLiteral_quoted (by decide) (by decide) _

theorem renderLiterals_ok (ok : renderLiterals missing literalOf parameters i order = .ok literals)
    (sound : ∀ parameter literal, literalOf parameter = .ok literal → IsLiteral literal) :
    literals.length = order.length ∧ ∀ literal ∈ literals, IsLiteral literal := by
  induction order generalizing i literals with
  | nil =>
    cases ok
    exact ⟨rfl, fun _ within => by cases within⟩
  | cons ref order ih =>
    rw [renderLiterals] at ok
    split at ok
    · cases ok
    obtain ⟨literal, rendered, ok⟩ := bind_ok ok
    obtain ⟨others, later, ok⟩ := bind_ok ok
    cases ok
    obtain ⟨length, all⟩ := ih later
    exact ⟨by simp [length], forall_mem_cons.mpr ⟨sound _ _ rendered, all⟩⟩

section
variable {slots : Nat}

/-- Neither a quoted part of the text nor a literal put into it holds a placeholder that a
later pass replaces. -/
structure Undisturbed (sql : EmittedSql slots) (literals : List (List Char)) : Prop where
  quoted : ∀ mark content, SqlToken.quoted mark content ∈ sql.tokens →
    ∀ slot, 1 ≤ slot → slot ≤ slots → ¬ placeholder slot <:+: content
  literal : ∀ slot, SqlToken.placeholder slot ∈ sql.tokens →
    ∀ earlier, 1 ≤ earlier → earlier < slot → ¬ placeholder earlier <:+: literals.getD (slot - 1) []

def stretchOf : SqlToken → Stretch
  | .placeholder slot => .pending slot
  | token => .settled token.chars

theorem text_stretchOf (token : SqlToken) : (stretchOf token).text = token.chars := by
  cases token <;> rfl

theorem joined_stretches (tokens : List SqlToken) :
    joined (tokens.map stretchOf) = tokens.flatMap SqlToken.chars := by
  rw [joined, flatMap_map]
  exact flatMap_congr fun token _ => text_stretchOf token

theorem ended_of_separated (separated : Separated tokens) : Ended (tokens.map stretchOf) := by
  induction tokens with
  | nil => trivial
  | cons token tokens ih =>
    cases token with
    | text | quoted => exact ih separated
    | placeholder slot =>
      refine ⟨?_, ih separated.2⟩
      rw [joined_stretches]
      exact separated.1

theorem within_of_valid (valid : token.Valid slots) : (stretchOf token).Within slots := by
  cases token with
  | text chars => exact Closed.of_no_dollar valid.1
  | placeholder slot => exact valid
  | quoted mark content =>
    change Closed (mark :: content ++ [mark])
    rcases valid.1 with rfl | rfl <;> exact .of_last (by decide) (by decide)

theorem infix_quoted_iff (dollar : mark ≠ '$') (digit : mark.isDigit = false) :
    placeholder slot <:+: mark :: (content ++ [mark]) ↔ placeholder slot <:+: content := by
  constructor
  · intro within
    rcases infix_cons_iff.mp within with starts | later
    · exact absurd (cons_prefix_cons.mp starts).1.symm dollar
    rcases infix_concat_iff.mp later with ends | inner
    · rcases suffix_concat_iff.mp ends with empty | ⟨front, shape, _⟩
      · exact absurd empty (placeholder_ne_nil slot)
      have last : mark ∈ placeholder slot := by simp [shape]
      rcases digit_of_placeholder last with same | isDigit
      · exact absurd same dollar
      · rw [digit] at isDigit
        cases isDigit
    · exact inner
  · intro within
    exact within.trans ⟨[mark], [mark], rfl⟩

theorem substituteSlots_exact_iff (sql : EmittedSql slots) (length : literals.length = slots)
    (sound : ∀ literal ∈ literals, IsLiteral literal) :
    substituteSlots literals slots sql.text = sql.substituted literals ↔ Undisturbed sql literals := by
  have within : ∀ slot < slots, IsLiteral (literals.getD slot []) := by
    intro slot below
    rw [getD_eq_getElem _ _ (length.symm ▸ below)]
    exact sound _ (getElem_mem _)
  have closed : ∀ slot, Closed (literals.getD slot []) := by
    intro slot
    by_cases below : slot < slots
    · exact (within slot below).closed
    · rw [getD_eq_default _ _ (by omega)]
      exact .of_no_dollar not_mem_nil
  have passes : substituteSlots literals slots sql.text =
      sql.tokens.flatMap fun token => finalText literals slots (stretchOf token) := by
    rw [EmittedSql.text, ← joined_stretches, substituteSlots_joined closed ?_
      (ended_of_separated sql.separated), flatMap_map]
    exact forall_mem_map.mpr fun token found => within_of_valid (sql.valid token found)
  have lower {slot : Nat} (most : slot ≤ slots) :
      ∀ other < slot - 1, IsLiteral (literals.getD other []) :=
    fun other below => within other (by omega)
  have falls : ∀ token ∈ sql.tokens, Falls '$' (token.substituted literals)
      (finalText literals slots (stretchOf token)) := by
    intro token among
    cases token with
    | text chars => exact falls_substituteSlots within chars
    | quoted mark content => exact falls_substituteSlots within _
    | placeholder slot => exact falls_substituteSlots (lower (sql.valid _ among).2) _
  rw [passes, eq_comm, EmittedSql.substituted, flatMap_eq_iff_of_falls falls]
  constructor
  · intro same
    constructor
    · intro mark content among slot positive most
      have marks : mark ≠ '$' ∧ mark.isDigit = false := by
        rcases (sql.valid _ among).1 with rfl | rfl <;> decide
      have kept := (substituteSlots_eq_self_iff within _).mp (same _ among).symm slot positive most
      rwa [SqlToken.chars, infix_quoted_iff marks.1 marks.2] at kept
    · intro slot among earlier positive before
      have most := (sql.valid _ among).2
      exact (substituteSlots_eq_self_iff (lower most) _).mp (same _ among).symm earlier positive
        (by omega)
  · intro undisturbed token among
    cases token with
    | text chars =>
      refine ((substituteSlots_eq_self_iff within chars).mpr fun slot _ _ found => ?_).symm
      exact (sql.valid _ among).1 (found.subset (.head _))
    | quoted mark content =>
      have marks : mark ≠ '$' ∧ mark.isDigit = false := by
        rcases (sql.valid _ among).1 with rfl | rfl <;> decide
      refine ((substituteSlots_eq_self_iff within _).mpr fun slot positive most found => ?_).symm
      exact undisturbed.quoted mark content among slot positive most
        ((infix_quoted_iff marks.1 marks.2).mp found)
    | placeholder slot =>
      have most := (sql.valid _ among).2
      refine ((substituteSlots_eq_self_iff (lower most) _).mpr fun earlier positive before => ?_).symm
      exact undisturbed.literal slot among earlier positive (by omega)

variable (formats : NumberFormats)
  (parseParameterValue : QueryParameter → Except Status ParameterValue)

theorem substituteParameters_exact_iff (sql : EmittedSql order.length)
    (ok : renderLiterals missing literalOf parameters 0 order = .ok literals)
    (sound : ∀ parameter literal, literalOf parameter = .ok literal → IsLiteral literal) :
    substituteParameters missing literalOf sql.text order parameters =
        .ok (sql.substituted literals) ↔ Undisturbed sql literals := by
  obtain ⟨length, all⟩ := renderLiterals_ok ok sound
  rw [← substituteSlots_exact_iff sql length all, substituteParameters]
  cases order with
  | nil => exact ⟨Except.ok.inj, congrArg Except.ok⟩
  | cons ref order =>
    rw [if_neg (by simp), ok]
    exact ⟨Except.ok.inj, congrArg Except.ok⟩

/-- Both copies put every parameter in its place, and change nothing else, exactly if no
placeholder stands in a quoted part of the text or in a literal that comes before it. -/
theorem substituteDuckdbParameters_exact_iff (parameters : List QueryParameter)
    (order : List ParameterRef) (sql : EmittedSql order.length) :
    (∀ literals, renderLiterals missingParameter
        (renderParameterLiteral formats parseParameterValue) parameters 0 order =
          .ok literals →
      (substituteDuckdbParameters formats parseParameterValue sql.text order
        parameters = .ok (sql.substituted literals) ↔ Undisturbed sql literals)) ∧
    (∀ literals, renderLiterals ControlOpExecutor.missingParameter
        (ControlOpExecutor.renderParameterLiteral formats parseParameterValue) parameters 0 order =
          .ok literals →
      (ControlOpExecutor.substituteDuckdbParameters formats parseParameterValue sql.text order
        parameters = .ok (sql.substituted literals) ↔ Undisturbed sql literals)) := by
  constructor
  · intro literals ok
    refine substituteParameters_exact_iff sql ok fun parameter literal rendered => ?_
    obtain ⟨value, _, rendered⟩ := bind_ok rendered
    exact isLiteral rendered
  · intro literals ok
    refine substituteParameters_exact_iff sql ok fun parameter literal rendered => ?_
    obtain ⟨value, _, rendered⟩ := bind_ok rendered
    exact ControlOpExecutor.isLiteral rendered

def plainFormats : NumberFormats where
  precise := fun _ => "0"
  short := fun _ => "0"
  precise_number := fun _ => by decide
  short_number := fun _ => by decide

def asString (parameter : QueryParameter) : Except Status ParameterValue :=
  .ok (.string parameter.valueJson)

/-- The text for `SELECT ? AS a, ? AS b`. -/
def twoParameters : EmittedSql 2 where
  tokens := [.text "SELECT ".toList, .placeholder 1, .text " AS ".toList, .quoted '"' ['a'],
    .text ", ".toList, .placeholder 2, .text " AS ".toList, .quoted '"' ['b'],
    .text " FROM (SELECT 1)".toList]
  valid := by
    simp only [forall_mem_cons, not_mem_nil, false_imp_iff, implies_true, and_true,
      SqlToken.Valid]
    refine ⟨by decide, by decide, by decide, ⟨.inr trivial, .plain (by decide) .nil⟩, by decide,
      by decide, by decide, ⟨.inr trivial, .plain (by decide) .nil⟩, by decide⟩
  separated := by
    refine ⟨?_, ?_, trivial⟩ <;> rintro c ⟨⟩ <;> decide

def positions : List ParameterRef := [{ position := 1 }, { position := 2 }]

theorem Undisturbed.of_no_dollar {sql : EmittedSql slots}
    (quoted : ∀ mark content, SqlToken.quoted mark content ∈ sql.tokens → '$' ∉ content)
    (free : ∀ slot, '$' ∉ literals.getD slot []) : Undisturbed sql literals where
  quoted := fun mark content among _ _ _ found =>
    quoted mark content among (found.subset (.head _))
  literal := fun slot _ _ _ _ found => free (slot - 1) (found.subset (.head _))

theorem plain_strings_substituted :
    substituteDuckdbParameters plainFormats asString twoParameters.text positions
        [{ valueJson := "it's" }, { valueJson := "y" }] =
      .ok "SELECT 'it''s' AS \"a\", 'y' AS \"b\" FROM (SELECT 1)".toList ∧
    ControlOpExecutor.substituteDuckdbParameters plainFormats asString twoParameters.text positions
        [{ valueJson := "it's" }, { valueJson := "y" }] =
      .ok "SELECT 'it''s' AS \"a\", 'y' AS \"b\" FROM (SELECT 1)".toList := by
  have undisturbed : Undisturbed twoParameters ["'it''s'".toList, "'y'".toList] := by
    refine .of_no_dollar (fun mark content among => ?_) fun slot => ?_
    · simp only [twoParameters, mem_cons, SqlToken.quoted.injEq, reduceCtorEq, false_or,
        not_mem_nil, or_false] at among
      rcases among with ⟨_, rfl⟩ | ⟨_, rfl⟩ <;> decide
    · rcases slot with _ | _ | slot
      · decide
      · decide
      · exact not_mem_nil
  obtain ⟨duckdb, control⟩ := substituteDuckdbParameters_exact_iff plainFormats asString
    [{ valueJson := "it's" }, { valueJson := "y" }] positions twoParameters
  exact ⟨(duckdb _ rfl).mpr undisturbed, (control _ rfl).mpr undisturbed⟩

def injected : List QueryParameter :=
  [{ valueJson := " || version() || " }, { valueJson := "$1" }]

/-- A second parameter `$1` is taken for the first placeholder, and the quotes of the two
literals pair up the wrong way: text of the first parameter is run as SQL. -/
theorem second_parameter_reread :
    renderLiterals missingParameter
        (renderParameterLiteral plainFormats asString) injected 0 positions =
      .ok ["' || version() || '".toList, "'$1'".toList] ∧
    twoParameters.substituted ["' || version() || '".toList, "'$1'".toList] =
      ("SELECT ' || version() || ' AS \"a\", '$1' AS \"b\"" ++ " FROM (SELECT 1)").toList ∧
    substituteDuckdbParameters plainFormats asString twoParameters.text positions
        injected =
      .ok ("SELECT ' || version() || ' AS \"a\", '' || version() || '' AS \"b\"" ++
        " FROM (SELECT 1)").toList ∧
    ControlOpExecutor.substituteDuckdbParameters plainFormats asString twoParameters.text positions
        injected =
      .ok ("SELECT ' || version() || ' AS \"a\", '' || version() || '' AS \"b\"" ++
        " FROM (SELECT 1)").toList :=
  ⟨rfl, rfl, rfl, rfl⟩
end
end BigQueryEmulator.Engine
