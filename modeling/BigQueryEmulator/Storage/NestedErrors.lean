import BigQueryEmulator.Storage.NestedFields

/-! Values whose end the parser of STRUCT cells misses. What it takes for the next field then
starts with no name, or has no colon after its name, so that reading the cell fails. -/
namespace BigQueryEmulator.Storage
open Text Fallible
open List hiding after tail

section
variable {assign : List Char → List Char → List Value → Except Status (List Value)}

theorem parseStructFields_rejected (present : trimAsciiSpace body ≠ [])
    (next : Rejected (parseNextStructField (trimAsciiSpace body))) (values : List Value) :
    Rejected (parseStructFields assign body values) := by
  rw [parseStructFields_eq]
  cases trimmed : trimAsciiSpace body with
  | nil => exact absurd trimmed present
  | cons c rest =>
    rw [trimmed] at next
    exact next.bind _

theorem rejected_of_head (solid : isBlank c = false) (other : c ≠ '\'') (rest : List Char)
    (values : List Value) : Rejected (parseStructFields assign (c :: rest) values) := by
  refine parseStructFields_rejected ?_ ?_ values <;> rw [trimAsciiSpace_cons solid]
  · exact cons_ne_nil _ _
  · have head : (c :: rest.rdropWhile isBlank).head? ≠ some '\'' := by simpa using other
    rw [parseNextStructField, if_pos head]
    exact .error _

theorem rejected_of_quote
    (follow : ∀ key after, parseQuotedBody (body.rdropWhile isBlank) = .ok (key, after) →
      ∃ c rest, after = c :: rest ∧ isBlank c = false ∧ c ≠ ':') (values : List Value) :
    Rejected (parseStructFields assign ('\'' :: body) values) := by
  refine parseStructFields_rejected ?_ ?_ values <;> rw [trimAsciiSpace_cons (by decide)]
  · exact cons_ne_nil _ _
  have head : ¬ ('\'' :: body.rdropWhile isBlank).head? ≠ some '\'' := fun other => other rfl
  rw [parseNextStructField, if_neg head]
  refine .of_next ?_
  rintro ⟨key, after⟩ read
  obtain ⟨c, rest, rfl, solid, colon⟩ := follow key after read
  dsimp only
  split
  next same =>
    rw [trimAsciiSpace_cons solid] at same
    exact absurd (cons.inj same).1 colon
  next => exact .error _

/-- Inside quotes, the parser runs on to the name of the next field. -/
theorem Tail.quotedBody (follows : Tail tail) (front : List Char) (free : '\'' ∉ front)
    (read : parseQuotedBody (front ++ tail) = .ok (key, after)) :
    ∃ c rest, after = c :: rest ∧ isBlank c = false ∧ c ∉ specialCharacters ∧ c ≠ ':' := by
  rcases follows with rfl | ⟨name, rest, plain, rfl⟩
  · rw [parseQuotedBody_append free] at read
    cases read
  cases shape : name.toList with
  | nil => exact absurd shape plain.1
  | cons c name' =>
    have char := plain.char (shape ▸ (.head _) : c ∈ name.toList)
    have split : front ++ (", ".toList ++ keyText name ++ rest) =
        (front ++ [',', ' ']) ++ '\'' :: (c :: (name' ++ "':".toList ++ rest)) := by
      simp [keyText, shape]
    have quoteFree : '\'' ∉ front ++ [',', ' '] := by
      rw [mem_append, not_or]
      exact ⟨free, by decide⟩
    have single : ∀ d ∈ (c :: (name' ++ "':".toList ++ rest)).head?, d ≠ '\'' := by
      rintro d ⟨⟩ rfl
      exact char.2.1 (by decide)
    rw [split, parseQuotedBody_free quoteFree single] at read
    cases read
    exact ⟨c, _, rfl, char⟩

theorem Tail.rejected (follows : Tail tail) (front : List Char) (free : '\'' ∉ front)
    (solid : ∀ c ∈ front.getLast?, isBlank c = false) (values : List Value) :
    Rejected (parseStructFields assign ('\'' :: (front ++ tail)) values) := by
  refine rejected_of_quote (fun key after read => ?_) values
  rw [rdropWhile_append _ solid] at read
  obtain ⟨c, rest, same, solid, -, colon⟩ := follows.rdropWhile.quotedBody front free read
  exact ⟨c, rest, same, solid, colon⟩

end

section
variable {assign : List Char → List Char → List Value → Except Status (List Value)}

theorem escape_head (c : Char) (text : List Char) :
    ∃ d rest, escape (c :: text) = d :: rest ∧ d ≠ '\'' ∧ (isBlank c = false → isBlank d = false) := by
  rw [escape_cons]
  split
  next => exact ⟨'\\', c :: escape text, rfl, by decide, fun _ => rfl⟩
  next plain => exact ⟨c, escape text, rfl, fun quote => plain (.inl quote), id⟩

theorem escape_blank (blank : isBlank c = true) (text : List Char) :
    escape (c :: text) = c :: escape text := by
  have plain : ¬ (c = '\'' ∨ c = '\\') := by
    rintro (rfl | rfl) <;> cases blank
  rw [escape_cons, if_neg plain]
  rfl

theorem trim_escape (text tail : List Char) :
    trimAsciiSpace (escape text ++ '\'' :: tail) =
      escape (text.dropWhile isBlank) ++ '\'' :: tail.rdropWhile isBlank := by
  induction text with
  | nil => exact trim_cons_solid (by decide) tail
  | cons c text ih =>
    cases blank : isBlank c with
    | true =>
      rw [escape_blank blank, dropWhile_cons_of_pos blank, cons_append, ← ih]
      exact trim_cons blank _
    | false =>
      obtain ⟨d, rest, starts, -, solid⟩ := escape_head c text
      have ends : Solid isBlank (escape (c :: text) ++ ['\'']) := by
        rw [starts]
        exact solid_of_ends (solid blank) rfl rest
      have split : ∀ tail, escape (c :: text) ++ '\'' :: tail =
          (escape (c :: text) ++ ['\'']) ++ tail := by simp
      rw [dropWhile_cons_of_neg (by simp [blank]), split tail,
        split (tail.rdropWhile isBlank)]
      exact trim_append tail ends

theorem rejected_after (text : List Char) (follows : Tail tail) (values : List Value) :
    Rejected (parseStructFields assign (escape text ++ '\'' :: tail) values) := by
  have trimmed := trim_escape text tail
  have same : trimAsciiSpace (escape text ++ '\'' :: tail) =
      trimAsciiSpace (escape (text.dropWhile isBlank) ++ '\'' :: tail.rdropWhile isBlank) := by
    rw [← trimmed, trimAsciiSpace_idem]
  rw [parseStructFields_congr same]
  cases shape : text.dropWhile isBlank with
  | nil => exact follows.rdropWhile.rejected [] (by simp) (by simp) values
  | cons c rest =>
    obtain ⟨d, rest', starts, quote, solid⟩ := escape_head c rest
    have first : isBlank c = false := by
      have dropped := head?_dropWhile_not isBlank text
      rw [shape] at dropped
      simpa using dropped
    rw [starts, cons_append]
    exact rejected_of_head (solid first) quote _ values

theorem skipComma_escape (text tail : List Char) :
    ∃ rest, skipComma (escape text ++ '\'' :: tail) = escape rest ++ '\'' :: tail := by
  cases text with
  | nil => exact ⟨[], rfl⟩
  | cons c text =>
    by_cases comma : c = ','
    · subst comma
      exact ⟨text, rfl⟩
    refine ⟨c :: text, ?_⟩
    obtain ⟨d, rest, starts, -, -⟩ := escape_head c text
    have other : d ≠ ',' := by
      rintro rfl
      rw [escape_cons] at starts
      split at starts
      · cases starts
      · exact comma (cons.inj starts).1
    rw [starts, cons_append, skipComma]
    simpa using other

/-- A quote in a quoted text: as the last character it makes a pair with the closing quote,
elsewhere it is taken for the closing one. -/
theorem parseQuotedBody_quote (free : '\'' ∉ front)
    (read : parseQuotedBody (escape (front ++ '\'' :: back) ++ '\'' :: tail) = .ok (out, after)) :
    (∃ rest, parseQuotedBody tail = .ok (rest, after) ∧
        out = (escape front ++ ['\\']) ++ '\'' :: rest ∧ back = []) ∨
      (out = escape front ++ ['\\'] ∧ after = escape back ++ '\'' :: tail) := by
  have escaped : '\'' ∉ escape front ++ ['\\'] := by
    rw [mem_append, not_or]
    exact ⟨quote_not_mem_escape free, by decide⟩
  have split : escape (front ++ '\'' :: back) ++ '\'' :: tail =
      (escape front ++ ['\\']) ++ '\'' :: (escape back ++ '\'' :: tail) := by
    rw [escape_append, escape_cons]
    simp
  rw [split, parseQuotedBody_append escaped] at read
  obtain ⟨⟨inner, _⟩, read, same⟩ := map_ok_iff.mp read
  cases same
  cases back with
  | nil =>
    obtain ⟨⟨rest, _⟩, read, same⟩ := map_ok_iff.mp read
    cases same
    exact .inl ⟨rest, read, rfl, rfl⟩
  | cons c back =>
    obtain ⟨d, rest, starts, quote, -⟩ := escape_head c back
    have single : ∀ e ∈ (escape (c :: back) ++ '\'' :: tail).head?, e ≠ '\'' := by
      rw [starts]
      rintro e ⟨⟩
      exact quote
    rw [parseQuotedBody_end single] at read
    cases read
    exact .inr ⟨append_nil _, rfl⟩

/-- A quoted string with a quote in it ends too early, or runs on into the next field. -/
theorem quoted_rejected (plain : PlainName name) (quote : '\'' ∈ text) (follows : Tail tail)
    (values : List Value) :
    Rejected (parseStructFields assign
      (keyText name ++ ' ' :: ('\'' :: (escape text ++ ['\''])) ++ tail) values) := by
  obtain ⟨front, back, rfl, free⟩ := eq_append_cons_of_mem quote
  have trimmed : trimAsciiSpace ('\'' :: (escape (front ++ '\'' :: back) ++ ['\'']) ++ tail) =
      '\'' :: (escape (front ++ '\'' :: back) ++ '\'' :: tail.rdropWhile isBlank) := by
    rw [trimAsciiSpace_append (solid_of_ends rfl rfl _)]
    simp
  rw [append_assoc, cons_append, parseStructFields_key plain, trimmed]
  refine .of_next fun (raw, after) read => .of_next fun values _ => ?_
  rcases parseQuotedBody_quote free read with ⟨rest, read, -, -⟩ | ⟨-, rfl⟩
  · obtain ⟨c, rest, rfl, solid, special, -⟩ :=
      follows.rdropWhile.quotedBody [] (by simp) read
    -- the next round starts in the middle of a name
    have unchanged : skipComma (c :: rest.rdropWhile isBlank) = c :: rest.rdropWhile isBlank := by
      rw [skipComma]
      intro rest comma
      exact special ((cons.inj comma).1 ▸ by decide)
    rw [trimAsciiSpace_cons solid, unchanged]
    refine rejected_of_head solid ?_ _ values
    rintro rfl
    exact special (by decide)
  · rw [trim_escape]
    obtain ⟨rest, same⟩ := skipComma_escape (back.dropWhile isBlank)
      ((tail.rdropWhile isBlank).rdropWhile isBlank)
    rw [same]
    exact rejected_after rest follows.rdropWhile.rdropWhile values

end

/-- The openings of structs inside each other, down to the first field of the innermost. -/
def spineText : List String → List Char → List Char
  | [], inner => inner
  | name :: names, inner => '\x7b' :: (keyText name ++ ' ' :: spineText names inner)

/-- The names of the first fields, from the outside in. -/
inductive Spine : Column → List String → Prop where
  | leaf (column : Column) : Spine column []
  | struct {name : String} {mode : ColumnMode} {field : Column} {fields : List Column}
      {names : List String} (plain : PlainName field.name) (inner : Spine field names) :
      Spine (.mk name .struct mode (field :: fields)) (field.name :: names)

/-- What follows the innermost first field: all closing braces, or some of them and the next
field. -/
inductive Closing (depth : Nat) : List Char → Prop where
  | all : Closing depth (replicate depth '\x7d')
  | next {closed : Nat} {name : String} (unclosed : closed < depth) (plain : PlainName name)
      (more : List Char) :
      Closing depth (replicate closed '\x7d' ++ (", ".toList ++ keyText name ++ more))

theorem spineText_append (names : List String) (inner rest : List Char) :
    spineText names (inner ++ rest) = spineText names inner ++ rest := by
  induction names with
  | nil => rfl
  | cons name names ih => simp [spineText, ih]

theorem Spine.noCut (spine : Spine column names) (noCut : NoCut body) :
    NoCut (spineText names body) := by
  induction spine with
  | leaf => exact noCut
  | @struct name mode field fields names plain _ ih =>
    have shape : spineText (field.name :: names) body =
        ('\x7b' :: keyText field.name ++ [' ']) ++ spineText names body := by
      simp [spineText]
    rw [shape]
    refine NoCut.append_left ?_ ih
    simp only [cons_append, mem_cons, mem_append, not_or]
    exact ⟨by decide, plain.no_comma, by decide, by simp⟩

theorem lastSolid_opening (ends : lastSolid isBlank body ≠ some '\x7d') (name : String) :
    lastSolid isBlank (keyText name ++ ' ' :: body) ≠ some '\x7d' := by
  have split : keyText name ++ ' ' :: body =
      ('\'' :: (name.toList ++ ['\''])) ++ ([':', ' '] ++ body) := by
    simp [keyText]
  have colon : lastSolid isBlank [':', ' '] = some ':' := by decide
  rw [split, lastSolid_append, lastSolid_append, colon]
  cases last : lastSolid isBlank body with
  | none => simp
  | some c => simpa [last] using ends

theorem lastSolid_spineText (ends : lastSolid isBlank body ≠ some '\x7d') (names : List String) :
    lastSolid isBlank (spineText names body) ≠ some '\x7d' := by
  induction names with
  | nil => exact ends
  | cons name names ih =>
    rw [spineText, ← singleton_append, lastSolid_append]
    cases last : lastSolid isBlank (keyText name ++ ' ' :: spineText names body) with
    | none => decide
    | some c => simpa [last] using lastSolid_opening ih name

theorem parseField_trim (field : Column) (raw : List Char) :
    parseStructFieldLiteral strtod field (trimAsciiSpace raw) =
      parseStructFieldLiteral strtod field raw := by
  cases field
  rw [parseStructFieldLiteral, parseStructFieldLiteral, fieldLiteral.eq_def, fieldLiteral.eq_def,
    trimAsciiSpace_idem]

theorem parseStructFields_first (plain : PlainName field.name) (fields : List Column)
    (noCut : NoCut text) (unquoted : (trimAsciiSpace text).head? ≠ some '\'')
    (rejected : Rejected (parseStructFieldLiteral strtod field text)) :
    Rejected (parseStructFields (assignStructFieldValue strtod (field :: fields))
      (keyText field.name ++ ' ' :: text) (replicate (field :: fields).length .null)) := by
  have within : trimAsciiSpace text <:+: text :=
    (List.rdropWhile_prefix _ _).isInfix.trans (dropWhile_suffix _).isInfix
  have absent : ¬ ", '".toList <:+: trimAsciiSpace text := fun inside => noCut (inside.trans within)
  have assigned : Rejected (assignStructFieldValue strtod (field :: fields) field.name.toList
      (trimAsciiSpace text) (replicate (field :: fields).length .null)) := by
    have slot := @assign_at strtod [] field fields (by simp) []
      (replicate fields.length .null) .null rfl (trimAsciiSpace text)
    rw [nil_append, nil_append, parseField_trim] at slot
    rw [length_cons, replicate_succ, slot]
    exact rejected.map _
  rw [parseStructFields_key plain, parseStructValueToken, if_neg unquoted, cutAt_absent absent]
  dsimp only
  rw [trimAsciiSpace_idem]
  exact assigned.bind _

theorem Spine.rejected (spine : Spine column names) {leaf : List Char} (noCut : NoCut leaf)
    (ends : lastSolid isBlank leaf ≠ some '\x7d') (unclosed : closed < names.length) :
    Rejected (parseStructFieldLiteral strtod column
      (spineText names (leaf ++ replicate closed '\x7d'))) := by
  induction spine generalizing closed with
  | leaf => cases unclosed
  | @struct name mode field fields names plain inner ih =>
    rw [spineText]
    cases closed with
    | zero =>
      rw [replicate_zero, append_nil]
      have unended := lastSolid_opening (lastSolid_spineText ends names) field.name
      generalize keyText field.name ++ ' ' :: spineText names leaf = body at unended ⊢
      have trimmed := trimAsciiSpace_cons (by decide : isBlank '\x7b' = false) body
      have again := trimAsciiSpace_idem ('\x7b' :: body)
      rw [trimmed] at again
      have last : ('\x7b' :: body.rdropWhile isBlank).getLast? ≠ some '\x7d' := by
        cases shape : body.rdropWhile isBlank with
        | nil => decide
        | cons c rest =>
          rw [getLast?_cons_cons, ← shape, getLast?_rdropWhile]
          exact unended
      have present := isNullToken_cons (by decide : '\x7b' ≠ 'N')
      rw [parseStructFieldLiteral, fieldLiteral, trimmed, present]
      rw [parseStructText, again, present]
      simp only [Bool.false_eq_true, if_false]
      rw [if_pos]
      · exact .error _
      · simp [last]
    | succ closed =>
      -- the last brace is taken for the one of this struct
      have fewer : closed < names.length := Nat.lt_of_succ_lt_succ unclosed
      have braces : NoCut (leaf ++ replicate closed '\x7d') :=
        noCut.append_right (by simp [mem_replicate])
      have starts : ∀ text, (trimAsciiSpace (spineText names text)).head? ≠ some '\'' := by
        intro text
        cases names with
        | nil => cases fewer
        | cons name names =>
          rw [spineText, trimAsciiSpace_cons (by decide), head?_cons]
          decide
      have split : keyText field.name ++ ' ' ::
          spineText names (leaf ++ replicate (closed + 1) '\x7d') =
            (keyText field.name ++ ' ' :: spineText names (leaf ++ replicate closed '\x7d')) ++
              ['\x7d'] := by
        rw [replicate_succ', ← append_assoc, spineText_append]
        simp
      rw [split, parseField_struct]
      exact (parseStructFields_first plain fields (inner.noCut braces) (starts _)
        (ih fewer)).map _

/-- The text of a value that is neither a struct nor a list. -/
inductive Leaf : List Char → Prop where
  | empty : Leaf []
  | bare {text : List Char} (bare : Bare text) : Leaf text
  | quoted (text : List Char) : Leaf ('\'' :: (escape text ++ ['\'']))

theorem Leaf.lastSolid_ne (isLeaf : Leaf leaf) : lastSolid isBlank leaf ≠ some '\x7d' := by
  cases isLeaf with
  | empty => decide
  | bare bare =>
    intro last
    have within : '\x7d' ∈ leaf := mem_of_mem_filter (mem_of_mem_getLast? last)
    exact bare.plain _ within (by decide)
  | quoted text =>
    rw [← cons_append, lastSolid_append]
    change (some '\'').or _ ≠ _
    simp

/-- A quote in an escaped text stands behind a backslash. -/
theorem escape_quote (found : escape text = front ++ '\'' :: back) :
    ∃ before, front = before ++ ['\\'] := by
  induction text generalizing front with
  | nil => simp [escape_nil] at found
  | cons c text ih =>
    rw [escape_cons] at found
    split at found
    next =>
      cases front with
      | nil => simp at found
      | cons d front =>
        obtain ⟨first, found⟩ := cons.inj found
        cases front with
        | nil => exact ⟨[], by rw [first]; rfl⟩
        | cons e front =>
          obtain ⟨before, rfl⟩ := ih (cons.inj found).2
          exact ⟨d :: e :: before, rfl⟩
    next plain =>
      cases front with
      | nil => exact absurd (.inl (cons.inj found).1) plain
      | cons d front =>
        obtain ⟨before, rfl⟩ := ih (cons.inj found).2
        exact ⟨d :: before, rfl⟩

theorem noCut_opened (text : List Char) : NoCut ('\'' :: escape text) := by
  rintro ⟨before, after, same⟩
  cases before with
  | nil => cases same
  | cons c before =>
    have found : escape text = (before ++ [',', ' ']) ++ '\'' :: after := by
      simpa using (cons.inj same).2.symm
    obtain ⟨front, split⟩ := escape_quote found
    have last : (before ++ [',', ' ']).getLast? = some '\\' := by
      rw [split]
      simp
    simp at last

theorem Leaf.cut (isLeaf : Leaf leaf) :
    NoCut leaf ∨ ∃ front, leaf = front ++ ", '".toList ∧ NoCut front := by
  cases isLeaf with
  | empty => exact .inl fun inside => absurd (infix_nil.mp inside) (by decide)
  | bare bare => exact .inl bare.uncut
  | quoted text =>
    have opened := noCut_opened text
    refine opened.closed.imp_right fun ⟨front, same⟩ => ⟨front, ?_, fun inside => ?_⟩
    · rw [← cons_append, same]
      simp
    · exact opened (same ▸ inside.trans (infix_append' [] front [',', ' ']))

section
variable {cast : VarcharCast} {strtod : List Char → Option UInt64}

/-- The values that the parser of STRUCT cells makes: no lists and no BYTES at any depth. -/
inductive Unlisted : Value → Prop where
  | null : Unlisted .null
  | bool (value : Bool) : Unlisted (.bool value)
  | int64 (value : Int) : Unlisted (.int64 value)
  | float64 (bits : UInt64) : Unlisted (.float64 bits)
  | string (value : String) : Unlisted (.string value)
  | struct {values : List Value} (each : ∀ value ∈ values, Unlisted value) :
      Unlisted (.struct values)

theorem leaf_word (documented : cast.Documented) (text : List Char) : Leaf (cast.word text) := by
  rw [VarcharCast.word]
  split
  next => exact .quoted text
  next unquoted =>
    rcases bare_unquoted documented (by simpa using unquoted) with rfl | bare
    · exact .empty
    · exact .bare bare

theorem Closing.around (closing : Closing depth rest) (follows : Tail tail) :
    Closing (depth + 1) (rest ++ (tail ++ ['\x7d'])) := by
  cases closing with
  | all =>
    rcases follows with rfl | ⟨name, more, plain, rfl⟩
    · rw [nil_append, ← replicate_succ']
      exact .all
    · rw [append_assoc]
      exact .next (Nat.lt_succ_self depth) plain (more ++ ['\x7d'])
  | @next closed name unclosed plain more =>
    rw [append_assoc, append_assoc]
    exact .next (unclosed.trans (Nat.lt_succ_self depth)) plain (more ++ (tail ++ ['\x7d']))

theorem Closing.tail (closing : Closing depth rest) {tail : List Char} (follows : Tail tail) :
    ∃ closed more, rest ++ tail = replicate closed '\x7d' ++ more ∧ Tail more := by
  cases closing with
  | all => exact ⟨depth, tail, rfl, follows⟩
  | @next closed name unclosed plain more =>
    refine ⟨closed, _, append_assoc _ _ _, .inr ⟨name, more ++ tail, plain, ?_⟩⟩
    rw [append_assoc _ more]

theorem text_spine (documented : cast.Documented) (unlisted : Unlisted value)
    (wellFormed : column.WellFormed) (fits : column.Fits cast strtod value) :
    ∃ names leaf rest, Spine column names ∧ Leaf leaf ∧ Closing names.length rest ∧
      column.text cast value = spineText names (leaf ++ rest) := by
  have single {column : Column} {value : Value} (isLeaf : Leaf (column.text cast value)) :
      ∃ names leaf rest, Spine column names ∧ Leaf leaf ∧ Closing names.length rest ∧
        column.text cast value = spineText names (leaf ++ rest) :=
    ⟨[], _, [], .leaf column, isLeaf, .all, (append_nil _).symm⟩
  induction unlisted generalizing column with
  | null => exact single (text_null column ▸ .bare bare_null)
  | bool value =>
    cases column
    exact single (.bare (bare_bool value))
  | int64 value =>
    cases column
    exact single (.bare (bare_int value))
  | float64 bits =>
    cases column
    exact single (.bare (bare_double documented bits))
  | string value => exact single (text_string column value ▸ leaf_word documented value.toList)
  | @struct values each ih =>
    obtain ⟨name, type, mode, fields⟩ := column
    obtain ⟨isStruct, fieldsFit⟩ := fits.element fun _ => Value.noConfusion
    cases isStruct
    obtain ⟨present, -, fieldsFormed⟩ := wellFormed
    cases fields with
    | nil => exact absurd rfl (present rfl)
    | cons field fields =>
      cases values with
      | nil => cases fieldsFit
      | cons value values =>
        obtain ⟨names, leaf, rest, spine, isLeaf, closing, same⟩ :=
          ih value (.head _) fieldsFormed.2.1 fieldsFit.1
        have follows := tail_followers cast fieldsFormed.2.2 values
        refine ⟨field.name :: names, leaf, _, .struct fieldsFormed.1 spine, isLeaf,
          closing.around follows, ?_⟩
        rw [text_struct, Column.fields, fieldTexts_cons, commaSeparated_cons, same, spineText,
          ← append_assoc leaf, spineText_append names (leaf ++ rest)]
        simp

/-- An unquoted value ends where the parser sees the start of another field. -/
theorem valueToken_cut (unquoted : (front ++ ", '".toList ++ rest).head? ≠ some '\'')
    (noCut : NoCut front) :
    parseStructValueToken (front ++ ", '".toList ++ rest) =
      .ok (trimAsciiSpace front, '\'' :: rest) := by
  have cut : cutAt ", '".toList (front ++ ", '".toList ++ rest) =
      (front, some (", '".toList ++ rest)) :=
    cutAt_append (by decide : ',' ∉ [' ', '\'']) noCut rest
  rw [parseStructValueToken, if_neg unquoted, cut]
  rfl

section
variable {assign : List Char → List Char → List Value → Except Status (List Value)}

theorem struct_rejected (documented : cast.Documented)
    (plain : PlainName field.name) (wellFormed : field.WellFormed)
    (unlisted : Unlisted (.struct values)) (fits : field.Fits cast strtod (.struct values))
    (cut : ¬ NoCut (field.text cast (.struct values)))
    (assigned : ∀ raw, Rejected (parseStructFieldLiteral strtod field raw) →
      Rejected (assign field.name.toList raw slots)) {tail : List Char} (follows : Tail tail) :
    Rejected (parseStructFields assign
      (keyText field.name ++ ' ' :: field.text cast (.struct values) ++ tail) slots) := by
  obtain ⟨names, leaf, rest, spine, isLeaf, closing, same⟩ :=
    text_spine documented unlisted wellFormed fits
  have brace : (field.text cast (.struct values) ++ tail.rdropWhile isBlank).head? ≠
      some '\'' := by
    rw [text_struct, cons_append, head?_cons]
    decide
  rw [append_assoc, cons_append, parseStructFields_key plain,
    trimAsciiSpace_append (solid_struct field values), same]
  rw [same] at brace cut
  rcases isLeaf.cut with noCut | ⟨front, rfl, noCut⟩
  · cases closing with
    | all =>
      -- without a further field there is no cut
      refine absurd (spine.noCut (noCut.append_right ?_)) cut
      simp [mem_replicate]
    | @next closed name unclosed plain more =>
      -- the cut comes before the next field, inside the braces
      have braces : NoCut (leaf ++ replicate closed '\x7d') :=
        noCut.append_right (by simp [mem_replicate])
      have split : spineText names (leaf ++ (replicate closed '\x7d' ++
          (", ".toList ++ keyText name ++ more))) =
          spineText names (leaf ++ replicate closed '\x7d') ++ ", '".toList ++
            (name.toList ++ "':".toList ++ more) := by
        rw [← append_assoc leaf, spineText_append]
        simp [keyText]
      rw [split, append_assoc _ _ (tail.rdropWhile isBlank)] at brace ⊢
      rw [valueToken_cut brace (spine.noCut braces)]
      refine (assigned _ ?_).bind _
      rw [parseField_trim]
      exact spine.rejected noCut isLeaf.lastSolid_ne unclosed
  · -- the cut comes at the closing quote of the first leaf
    have split : spineText names (front ++ ", '".toList ++ rest) =
        spineText names front ++ ", '".toList ++ rest := by
      rw [append_assoc, spineText_append, append_assoc]
    rw [split, append_assoc _ rest] at brace ⊢
    rw [valueToken_cut brace (spine.noCut noCut)]
    refine .of_next ?_
    rintro ⟨raw, after⟩ read
    refine .of_next fun slots _ => ?_
    cases read
    obtain ⟨closed, more, braces, follows⟩ := closing.tail follows.rdropWhile
    have quote : skipComma (trimAsciiSpace ('\'' :: (rest ++ tail.rdropWhile isBlank))) =
        trimAsciiSpace ('\'' :: (rest ++ tail.rdropWhile isBlank)) := by
      rw [trimAsciiSpace_cons (by decide)]
      rfl
    rw [quote, parseStructFields_congr (trimAsciiSpace_idem _), braces]
    refine follows.rejected _ (by simp [mem_replicate]) ?_ slots
    intro c last
    rw [(mem_replicate.mp (mem_of_mem_getLast? last)).2]
    rfl

end
end

end BigQueryEmulator.Storage
