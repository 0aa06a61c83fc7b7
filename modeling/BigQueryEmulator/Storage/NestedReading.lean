import BigQueryEmulator.Storage.NestedText
import BigQueryEmulator.Text.Numbers

/-! How the parser of nested cells moves over texts that DuckDB wrote: what it takes for the
raw text of one element or field, and where it goes on. -/
namespace BigQueryEmulator.Storage
open Text Fallible
open List hiding after tail

section

/-- The characters for which DuckDB puts a string in quotes. -/
def specialCharacters : List Char := ['\'', '\\', ',', '[', ']', '\x7b', '\x7d']

/-- What is known of DuckDB's texts. -/
structure VarcharCast.Documented (cast : VarcharCast) : Prop where
  special : ∀ text, ∀ c ∈ text, c ∈ specialCharacters → cast.quotes text = true
  null : cast.quotes "NULL".toList = true
  outer : ∀ text c, isBlank c = true → text.head? = some c ∨ text.getLast? = some c →
    cast.quotes text = true
  double : ∀ bits, cast.double bits ≠ [] ∧
    ∀ c ∈ cast.double bits, c.isDigit = true ∨ c.isLower = true ∨ c ∈ ['+', '-', '.']

variable (cast : VarcharCast) (strtod : List Char → Option UInt64)

/-- A value of a type that is no list. A double is one that its text names, as all are but
NaNs with a payload. -/
def elementFits (type : ColumnType) (fieldsFit : List Value → Prop) : Value → Prop
  | .null => True
  | .bool _ => type = .bool
  | .int64 value => type = .int64 ∧ -2 ^ 63 ≤ value ∧ value < 2 ^ 63
  | .float64 bits => type = .float64 ∧ strtod (cast.double bits) = some bits
  | .bytes _ => type = .bytes
  | .string _ => type.isText = true
  | .struct values => type = .struct ∧ fieldsFit values
  | .array _ => False

def modeFits (mode : ColumnMode) (elementFits : Value → Prop) (value : Value) : Prop :=
  if mode = .repeated then value = .null ∨ ∃ elements, value = .array elements ∧
    ∀ element ∈ elements, elementFits element
  else elementFits value

mutual

def Column.Fits : Column → Value → Prop
  | .mk _ type mode fields, value =>
    modeFits mode (elementFits cast strtod type (FieldsFit fields)) value

def FieldsFit : List Column → List Value → Prop
  | [], [] => True
  | field :: fields, value :: values => field.Fits value ∧ FieldsFit fields values
  | _, _ => False

end

end

/-- Text without blank ends and without special characters. -/
structure Bare (text : List Char) : Prop where
  solid : Solid isBlank text
  plain : ∀ c ∈ text, c ∉ specialCharacters

theorem bare_of_chars (nonempty : text ≠ [])
    (all : ∀ c ∈ text, isBlank c = false ∧ c ∉ specialCharacters) : Bare text where
  solid :=
    { nonempty := nonempty
      front := fun c first => (all c (mem_of_mem_head? first)).1
      back := fun c last => (all c (mem_of_mem_getLast? last)).1 }
  plain := fun c within => (all c within).2

theorem alphanum_bare (alphanum : c.isAlphanum = true) :
    isBlank c = false ∧ c ∉ specialCharacters := by
  constructor
  · by_contra blank
    simp only [isBlank, Bool.or_eq_false_iff, decide_eq_false_iff_not, not_and_or, not_not] at blank
    rcases blank with rfl | rfl <;> cases alphanum
  · intro special
    simp only [specialCharacters, mem_cons, not_mem_nil, or_false] at special
    rcases special with rfl | rfl | rfl | rfl | rfl | rfl | rfl <;> cases alphanum

theorem digit_bare (digit : c.isDigit = true) : isBlank c = false ∧ c ∉ specialCharacters :=
  alphanum_bare (by simp [Char.isAlphanum, digit])

theorem lower_bare (lower : c.isLower = true) : isBlank c = false ∧ c ∉ specialCharacters :=
  alphanum_bare (by simp [Char.isAlphanum, Char.isAlpha, lower])

theorem PlainName.char (plain : PlainName name) (within : c ∈ name.toList) :
    isBlank c = false ∧ c ∉ specialCharacters ∧ c ≠ ':' := by
  rcases plain.2 c within with alphanum | rfl
  · obtain ⟨solid, free⟩ := alphanum_bare alphanum
    refine ⟨solid, free, ?_⟩
    rintro rfl
    cases alphanum
  · decide

theorem bare_null : Bare "NULL".toList := bare_of_chars (by decide) (by decide)

theorem bare_bool (value : Bool) : Bare (if value then "true".toList else "false".toList) := by
  cases value
  · exact bare_of_chars (by decide) (by decide)
  · exact bare_of_chars (by decide) (by decide)

theorem bare_int (n : Int) : Bare (toString n).toList := by
  refine bare_of_chars (toString_int_ne_nil n) fun c within => ?_
  rcases toString_int_chars n within with digit | rfl
  · exact digit_bare digit
  · decide

theorem bare_double {cast : VarcharCast} (documented : cast.Documented) (bits : UInt64) :
    Bare (cast.double bits) := by
  obtain ⟨nonempty, chars⟩ := documented.double bits
  refine bare_of_chars nonempty fun c within => ?_
  rcases chars c within with digit | lower | sign
  · exact digit_bare digit
  · exact lower_bare lower
  · simp only [mem_cons, not_mem_nil, or_false] at sign
    rcases sign with rfl | rfl | rfl <;> decide

theorem bare_unquoted {cast : VarcharCast} (documented : cast.Documented)
    (unquoted : cast.quotes text = false) : text = [] ∨ Bare text := by
  by_cases empty : text = []
  · exact .inl empty
  refine .inr ⟨⟨empty, ?_, ?_⟩, ?_⟩
  · intro c first
    by_contra blank
    rw [documented.outer text c (by simpa using blank) (.inl first)] at unquoted
    cases unquoted
  · intro c last
    by_contra blank
    rw [documented.outer text c (by simpa using blank) (.inr last)] at unquoted
    cases unquoted
  · intro c within special
    rw [documented.special text c within special] at unquoted
    cases unquoted

theorem Bare.head_ne_quote (bare : Bare text) : text.head? ≠ some '\'' := by
  intro first
  exact bare.plain _ (mem_of_mem_head? first) (by decide)

theorem Bare.no_comma (bare : Bare text) : ',' ∉ text :=
  fun within => bare.plain _ within (by decide)

theorem Bare.uncut (bare : Bare text) : ¬ ", '".toList <:+: text := by
  intro inside
  exact bare.no_comma (inside.subset (by decide))

theorem parseQuotedBody_append (free : '\'' ∉ front) (text : List Char) :
    parseQuotedBody (front ++ text) =
      (parseQuotedBody text).map fun (out, after) => (front ++ out, after) := by
  induction front with
  | nil =>
    rw [nil_append]
    cases parseQuotedBody text <;> rfl
  | cons c rest ih =>
    rw [mem_cons, not_or] at free
    rw [cons_append, parseQuotedBody_char (Ne.symm free.1), ih free.2, except_map_map]
    rfl

theorem parseQuotedBody_free (free : '\'' ∉ text) (single : ∀ c ∈ after.head?, c ≠ '\'') :
    parseQuotedBody (text ++ '\'' :: after) = .ok (text, after) := by
  rw [parseQuotedBody_append free, parseQuotedBody_end single]
  simp only [Except.map, append_nil]

theorem escape_nil : escape [] = [] := rfl

theorem escape_cons (c : Char) (rest : List Char) :
    escape (c :: rest) = (if c = '\'' ∨ c = '\\' then ['\\', c] else [c]) ++ escape rest := rfl

theorem escape_append (front rest : List Char) : escape (front ++ rest) = escape front ++ escape rest := by
  simp [escape]

theorem quote_not_mem_escape (free : '\'' ∉ text) : '\'' ∉ escape text := by
  intro within
  obtain ⟨c, inside, found⟩ := mem_flatMap.mp within
  split at found
  next special =>
    simp only [mem_cons, not_mem_nil, or_false] at found
    rcases found with found | rfl
    · cases found
    · exact free inside
  next => exact free (mem_singleton.mp found ▸ inside)

theorem escape_eq_self (noQuote : '\'' ∉ text) (noBackslash : '\\' ∉ text) :
    escape text = text := by
  induction text with
  | nil => rfl
  | cons c rest ih =>
    rw [mem_cons, not_or] at noQuote noBackslash
    have plain : ¬ (c = '\'' ∨ c = '\\') :=
      fun special => special.elim (Ne.symm noQuote.1) (Ne.symm noBackslash.1)
    rw [escape_cons, if_neg plain, ih noQuote.2 noBackslash.2]
    rfl

def keyText (name : String) : List Char := '\'' :: (name.toList ++ "':".toList)

/-- What may follow the text of a field: nothing, or the next field. -/
def Tail (text : List Char) : Prop :=
  text = [] ∨ ∃ name rest, PlainName name ∧ text = ", ".toList ++ keyText name ++ rest

theorem PlainName.no_comma (plain : PlainName name) : ',' ∉ keyText name := by
  intro comma
  simp only [keyText, mem_cons, mem_append] at comma
  rcases comma with quote | named | rest
  · cases quote
  · exact (plain.char named).2.1 (by decide)
  · exact absurd rest (by decide)

theorem PlainName.no_quote (plain : PlainName name) : '\'' ∉ name.toList :=
  fun within => (plain.char within).2.1 (by decide)

theorem solid_of_ends (front : isBlank first = false) (back : isBlank last = false)
    (middle : List Char) :
    Solid isBlank (first :: (middle ++ [last])) where
  nonempty := cons_ne_nil _ _
  front := by simpa using front
  back := by
    intro c found
    rw [← cons_append, getLast?_concat] at found
    cases found
    exact back

theorem trimAsciiSpace_append (solid : Solid isBlank front) (text : List Char) :
    trimAsciiSpace (front ++ text) = front ++ text.rdropWhile isBlank :=
  trim_append text solid

theorem trimAsciiSpace_cons (solid : isBlank c = false) (text : List Char) :
    trimAsciiSpace (c :: text) = c :: text.rdropWhile isBlank :=
  trim_cons_solid solid text

theorem trimAsciiSpace_idem (text : List Char) :
    trimAsciiSpace (trimAsciiSpace text) = trimAsciiSpace text :=
  trim_trim text

theorem solid_keyText (name : String) : Solid isBlank (keyText name) := by
  have shape : keyText name = '\'' :: ((name.toList ++ ['\'']) ++ [':']) := by simp [keyText]
  rw [shape]
  exact solid_of_ends rfl rfl _

theorem solid_comma_keyText (name : String) : Solid isBlank (", ".toList ++ keyText name) := by
  have shape : ", ".toList ++ keyText name =
      ',' :: (([' ', '\''] ++ name.toList ++ ['\'']) ++ [':']) := by
    simp [keyText]
  rw [shape]
  exact solid_of_ends rfl rfl _

theorem Tail.rdropWhile (tail : Tail text) : Tail (text.rdropWhile isBlank) := by
  rcases tail with rfl | ⟨name, rest, plain, rfl⟩
  · exact .inl (rdropWhile_nil _)
  · exact .inr ⟨name, _, plain, rdropWhile_append _ (solid_comma_keyText name).back⟩

theorem Tail.drop_rdropWhile (tail : Tail text) :
    (text.rdropWhile isBlank).drop 2 = (text.drop 2).rdropWhile isBlank := by
  rcases tail with rfl | ⟨name, rest, plain, rfl⟩
  · simp
  · rw [rdropWhile_append _ (solid_comma_keyText name).back]
    exact (rdropWhile_append rest (solid_keyText name).back).symm

theorem Tail.head_ne_quote (tail : Tail text) : ∀ c ∈ text.head?, c ≠ '\'' := by
  rcases tail with rfl | ⟨name, rest, plain, rfl⟩
  · simp
  · intro c first
    cases first
    decide

theorem Tail.trim (tail : Tail text) : trimAsciiSpace text = text.rdropWhile isBlank := by
  rcases tail with rfl | ⟨name, rest, plain, rfl⟩
  · rfl
  · rw [trimAsciiSpace_append (solid_comma_keyText name),
      rdropWhile_append _ (solid_comma_keyText name).back]

section
variable {tail : List Char}

theorem valueToken_unquoted (solid : Solid isBlank text) (bare : text.head? ≠ some '\'')
    (absent : ¬ ", '".toList <:+: text) (follows : Tail tail) :
    parseStructValueToken (trimAsciiSpace (text ++ tail)) =
      .ok (text, (tail.drop 2).rdropWhile isBlank) := by
  have head : (text ++ tail.rdropWhile isBlank).head? ≠ some '\'' := by
    rwa [head?_append_of_ne_nil _ solid.nonempty]
  rw [trimAsciiSpace_append solid, parseStructValueToken, if_neg head,
    ← follows.drop_rdropWhile]
  rcases follows.rdropWhile with empty | ⟨name, rest, -, shape⟩
  · rw [empty, append_nil, cutAt_absent absent]
    dsimp only
    rw [trimAsciiSpace, solid.trim]
    rfl
  · have cut : cutAt ", '".toList (text ++ tail.rdropWhile isBlank) =
        (text, some (tail.rdropWhile isBlank)) := by
      have border := cutAt_append (by decide : ',' ∉ [' ', '\'']) absent
        (name.toList ++ "':".toList ++ rest)
      have same : tail.rdropWhile isBlank =
          [',', ' ', '\''] ++ (name.toList ++ "':".toList ++ rest) := by
        rw [shape]
        simp [keyText]
      rw [same, ← append_assoc]
      exact border
    rw [cut]
    dsimp only
    rw [trimAsciiSpace, solid.trim]
    rfl

theorem valueToken_empty (follows : Tail tail) :
    parseStructValueToken (trimAsciiSpace tail) = .ok ([], (tail.drop 2).rdropWhile isBlank) := by
  rw [follows.trim, ← follows.drop_rdropWhile]
  rcases follows.rdropWhile with empty | ⟨name, rest, -, shape⟩
  · rw [empty]
    rfl
  · rw [shape]
    rfl

end

section
variable {assign : List Char → List Char → List Value → Except Status (List Value)}

theorem parseStructFields_congr (same : trimAsciiSpace body = trimAsciiSpace other)
    (values : List Value) :
    parseStructFields assign body values = parseStructFields assign other values := by
  rw [parseStructFields_eq, same, ← parseStructFields_eq]

theorem next_round (follows : Tail tail)
    (left : after = tail.rdropWhile isBlank ∨ after = (tail.drop 2).rdropWhile isBlank)
    (values : List Value) :
    parseStructFields assign (skipComma (trimAsciiSpace after)) values =
      parseStructFields assign (tail.drop 2) values := by
  apply parseStructFields_congr
  rcases follows with rfl | ⟨name, rest, plain, rfl⟩
  · rcases left with rfl | rfl <;> rfl
  have dropped : (", ".toList ++ keyText name ++ rest).drop 2 = keyText name ++ rest := rfl
  rw [dropped] at left ⊢
  rcases left with rfl | rfl
  · have comma : trimAsciiSpace ((", ".toList ++ keyText name ++ rest).rdropWhile isBlank) =
        ',' :: ' ' :: (keyText name ++ rest).rdropWhile isBlank := by
      rw [trimAsciiSpace, trim_rdropWhile, trim_append _ (solid_comma_keyText name),
        rdropWhile_append _ (solid_keyText name).back]
      rfl
    rw [comma, skipComma, trimAsciiSpace, trim_cons (by decide), trim_rdropWhile]
    rfl
  · have quote : trimAsciiSpace ((keyText name ++ rest).rdropWhile isBlank) =
        keyText name ++ rest.rdropWhile isBlank := by
      rw [trimAsciiSpace, trim_rdropWhile, trim_append _ (solid_keyText name)]
    have starts : skipComma (keyText name ++ rest.rdropWhile isBlank) =
        keyText name ++ rest.rdropWhile isBlank := rfl
    rw [quote, starts, ← rdropWhile_append _ (solid_keyText name).back, trimAsciiSpace,
      trim_rdropWhile]
    rfl

theorem parseNextStructField_key (plain : PlainName name) (text : List Char) :
    parseNextStructField (keyText name ++ text.rdropWhile isBlank) =
      (parseStructValueToken (trimAsciiSpace text)).map fun (raw, after) =>
        (name.toList, raw, after) := by
  have named : parseQuotedStringToken (keyText name ++ text.rdropWhile isBlank) =
      .ok (name.toList, ':' :: text.rdropWhile isBlank) := by
    have shape : keyText name ++ text.rdropWhile isBlank =
        '\'' :: (name.toList ++ '\'' :: ':' :: text.rdropWhile isBlank) := by
      simp [keyText]
    rw [shape, parseQuotedStringToken]
    exact parseQuotedBody_free plain.no_quote (by simp)
  have colon : trimAsciiSpace (':' :: text.rdropWhile isBlank) = ':' :: text.rdropWhile isBlank := by
    have solid : Solid isBlank [':'] := ⟨by decide, by decide, by decide⟩
    rw [← singleton_append, trimAsciiSpace_append solid, rdropWhile_idempotent]
  have head : ¬ (keyText name ++ text.rdropWhile isBlank).head? ≠ some '\'' := fun other => other rfl
  rw [parseNextStructField, if_neg head, named]
  dsimp only [bind, Except.bind]
  rw [colon]
  change (parseStructValueToken (trimAsciiSpace (text.rdropWhile isBlank)) >>= fun (raw, body) =>
    pure (name.toList, raw, body)) = _
  rw [trimAsciiSpace, trim_rdropWhile, ← trimAsciiSpace]
  cases parseStructValueToken (trimAsciiSpace text) <;> rfl

theorem parseStructFields_key (plain : PlainName name) (text : List Char) (values : List Value) :
    parseStructFields assign (keyText name ++ ' ' :: text) values =
      parseStructValueToken (trimAsciiSpace text) >>= fun (raw, after) =>
        assign name.toList raw values >>=
          parseStructFields assign (skipComma (trimAsciiSpace after)) := by
  have trimmed : trimAsciiSpace (keyText name ++ ' ' :: text) =
      keyText name ++ (' ' :: text).rdropWhile isBlank := by
    rw [trimAsciiSpace_append (solid_keyText name)]
  have value : trimAsciiSpace (' ' :: text) = trimAsciiSpace text := trim_cons (by decide) text
  have next := parseNextStructField_key plain (' ' :: text)
  rw [value] at next
  rw [parseStructFields_eq, trimmed]
  change (parseNextStructField (keyText name ++ (' ' :: text).rdropWhile isBlank) >>=
    fun field => assign field.1 field.2.1 values >>=
      parseStructFields assign (skipComma (trimAsciiSpace field.2.2))) = _
  rw [next]
  cases parseStructValueToken (trimAsciiSpace text) <;> rfl

end

section
variable {cast : VarcharCast} {strtod : List Char → Option UInt64}

/-- The text that the parser takes a value for when it finds its end. -/
def rawText (cast : VarcharCast) (field : Column) : Value → List Char
  | .string value => if cast.quotes value.toList then escape value.toList else value.toList
  | value => field.text cast value

/-- The parser finds the end of the value. -/
def Aligned (cast : VarcharCast) (field : Column) : Value → Prop
  | .null | .bool _ | .int64 _ | .float64 _ => True
  | .string value => cast.quotes value.toList = true → '\'' ∉ value.toList
  | .struct values => ¬ ", '".toList <:+: field.text cast (.struct values)
  | .array _ | .bytes _ => False

theorem text_null (field : Column) : field.text cast .null = "NULL".toList := by
  cases field
  rfl

theorem text_string (field : Column) (value : String) :
    field.text cast (.string value) = cast.word value.toList := by
  cases field
  rfl

theorem text_struct (field : Column) (values : List Value) :
    field.text cast (.struct values) =
      '\x7b' :: (commaSeparated (fieldTexts cast field.fields values) ++ ['\x7d']) := by
  cases field
  rfl

theorem solid_struct (field : Column) (values : List Value) :
    Solid isBlank (field.text cast (.struct values)) := by
  rw [text_struct]
  exact solid_of_ends rfl rfl _

theorem Bare.token (bare : Bare text) (follows : Tail tail) :
    parseStructValueToken (trimAsciiSpace (text ++ tail)) =
      .ok (text, (tail.drop 2).rdropWhile isBlank) :=
  valueToken_unquoted bare.solid bare.head_ne_quote bare.uncut follows

theorem Aligned.token (documented : cast.Documented) {field : Column}
    (aligned : Aligned cast field value) (follows : Tail tail) :
    ∃ after, parseStructValueToken (trimAsciiSpace (field.text cast value ++ tail)) =
        .ok (rawText cast field value, after) ∧
      (after = tail.rdropWhile isBlank ∨ after = (tail.drop 2).rdropWhile isBlank) := by
  cases value with
  | null => exact ⟨_, (text_null field ▸ bare_null).token follows, .inr rfl⟩
  | bool value => exact ⟨_, Bare.token (by cases field; exact bare_bool value) follows, .inr rfl⟩
  | int64 value => exact ⟨_, Bare.token (by cases field; exact bare_int value) follows, .inr rfl⟩
  | float64 bits =>
    exact ⟨_, Bare.token (by cases field; exact bare_double documented bits) follows, .inr rfl⟩
  | string value =>
    rw [text_string, VarcharCast.word, rawText]
    cases quoted : cast.quotes value.toList with
    | true =>
      refine ⟨_, ?_, .inl rfl⟩
      rw [if_pos rfl, if_pos rfl, trimAsciiSpace_append (solid_of_ends rfl rfl _), cons_append,
        append_assoc]
      exact parseQuotedBody_free (quote_not_mem_escape (aligned quoted))
        follows.rdropWhile.head_ne_quote
    | false =>
      rcases bare_unquoted documented quoted with empty | bare
      · rw [empty]
        exact ⟨_, valueToken_empty follows, .inr rfl⟩
      · exact ⟨_, bare.token follows, .inr rfl⟩
  | struct values =>
    refine ⟨_, valueToken_unquoted (solid_struct field values) ?_ aligned follows, .inr rfl⟩
    rw [text_struct, head?_cons]
    decide
  | bytes _ | array _ => cases aligned

theorem assign_at (done : List Column) (field : Column) (rest : List Column)
    (fresh : field.name ∉ done.map Column.name) (before slots : List Value) (slot : Value)
    (long : before.length = done.length) (raw : List Char) :
    assignStructFieldValue strtod (done ++ field :: rest) field.name.toList raw
        (before ++ slot :: slots) =
      (parseStructFieldLiteral strtod field raw).map fun value => before ++ value :: slots := by
  induction done generalizing before with
  | nil =>
    cases eq_nil_of_length_eq_zero long
    rw [nil_append, nil_append, assignStructFieldValue, if_pos rfl]
    rfl
  | cons other done ih =>
    cases before with
    | nil => cases long
    | cons first before =>
      rw [map_cons, mem_cons, not_or] at fresh
      have different : ¬ other.name.toList = field.name.toList :=
        fun same => fresh.1 (String.toList_inj.mp same).symm
      rw [cons_append, cons_append, assignStructFieldValue, if_neg different,
        ih fresh.2 before (Nat.succ.inj long), except_map_map]
      rfl

def readFields (cast : VarcharCast) (strtod : List Char → Option UInt64) (fields : List Column)
    (values : List Value) : Except Status (List Value) :=
  (fields.zip values).mapM fun (field, value) =>
    parseStructFieldLiteral strtod field (rawText cast field value)

theorem readFields_cons (field : Column) (fields : List Column) (value : Value)
    (values : List Value) :
    readFields cast strtod (field :: fields) (value :: values) =
      parseStructFieldLiteral strtod field (rawText cast field value) >>= fun parsed =>
        (readFields cast strtod fields values).map (parsed :: ·) := by
  rw [readFields, zip_cons_cons, mapM_cons]
  rfl

theorem fieldTexts_cons (field : Column) (fields : List Column) (value : Value)
    (values : List Value) :
    fieldTexts cast (field :: fields) (value :: values) =
      (keyText field.name ++ ' ' :: field.text cast value) :: fieldTexts cast fields values := by
  rw [fieldTexts]
  simp [keyText]

def followers (texts : List (List Char)) : List Char := texts.flatMap (", ".toList ++ ·)

theorem commaSeparated_cons (text : List Char) (texts : List (List Char)) :
    commaSeparated (text :: texts) = text ++ followers texts := rfl

theorem tail_followers (cast : VarcharCast) (wellFormed : FieldsWellFormed fields)
    (values : List Value) : Tail (followers (fieldTexts cast fields values)) := by
  cases fields with
  | nil => exact .inl (by simp [fieldTexts, followers])
  | cons field fields =>
    cases values with
    | nil => exact .inl (by simp [fieldTexts, followers])
    | cons value values =>
      refine .inr ⟨field.name, ' ' :: field.text cast value ++
        followers (fieldTexts cast fields values), wellFormed.1, ?_⟩
      rw [fieldTexts_cons]
      simp [followers]

theorem fresh_name (names : ((done ++ field :: rest).map Column.name).Nodup) :
    field.name ∉ done.map Column.name := by
  rw [map_append, nodup_append] at names
  exact fun among => names.2.2 _ among _ (.head _) rfl

variable (strtod : List Char → Option UInt64)

theorem parseStructFields_field (documented : cast.Documented)
    (wellFormed : FieldsWellFormed (field :: fields)) (aligned : Aligned cast field value)
    (done : List Column) (names : ((done ++ field :: fields).map Column.name).Nodup)
    (before : List Value) (long : before.length = done.length) :
    parseStructFields (assignStructFieldValue strtod (done ++ field :: fields))
        (commaSeparated (fieldTexts cast (field :: fields) (value :: values)))
        (before ++ replicate (field :: fields).length .null) =
      parseStructFieldLiteral strtod field (rawText cast field value) >>= fun parsed =>
        parseStructFields (assignStructFieldValue strtod ((done ++ [field]) ++ fields))
          (commaSeparated (fieldTexts cast fields values))
          ((before ++ [parsed]) ++ replicate fields.length .null) := by
  have follows := tail_followers cast wellFormed.2.2 values
  obtain ⟨after, read, left⟩ := aligned.token documented follows
  rw [fieldTexts_cons, commaSeparated_cons, append_assoc, cons_append,
    parseStructFields_key wellFormed.1, read, length_cons, replicate_succ]
  change (assignStructFieldValue strtod _ _ _ _ >>= _) = _
  rw [funext (next_round follows left), assign_at done field fields (fresh_name names) _ _ _ long]
  simp only [append_assoc, singleton_append]
  cases parseStructFieldLiteral strtod field (rawText cast field value) <;>
    cases fieldTexts cast fields values <;> rfl

theorem parseStructFields_run (documented : cast.Documented)
    (wellFormed : FieldsWellFormed fields) (aligned : List.Forall₂ (Aligned cast) fields values)
    (done : List Column) (names : ((done ++ fields).map Column.name).Nodup) (before : List Value)
    (long : before.length = done.length) :
    parseStructFields (assignStructFieldValue strtod (done ++ fields))
        (commaSeparated (fieldTexts cast fields values))
        (before ++ replicate fields.length .null) =
      (readFields cast strtod fields values).map (before ++ ·) := by
  induction aligned generalizing done before with
  | nil =>
    rw [parseStructFields_eq]
    rfl
  | @cons field value fields values first _ ih =>
    rw [parseStructFields_field strtod documented wellFormed first done names before long,
      readFields_cons]
    cases parseStructFieldLiteral strtod field (rawText cast field value) with
    | error e => rfl
    | ok parsed =>
      refine (ih wellFormed.2.2 (done ++ [field]) (by simpa using names) (before ++ [parsed])
        (by simp [long])).trans ?_
      change _ = Except.map (before ++ ·) ((readFields cast strtod fields values).map (parsed :: ·))
      rw [except_map_map]
      simp only [append_assoc, singleton_append]

end

end BigQueryEmulator.Storage
