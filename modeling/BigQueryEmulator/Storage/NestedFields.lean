import BigQueryEmulator.Storage.NestedReading

/-! Which values are read back as fields of a STRUCT. -/
namespace BigQueryEmulator.Storage
open Text Fallible List

/-- The values that are read back as a field of a STRUCT. A string is read without its outer
blanks, and one that is empty or `NULL` then is no string; a struct ends at the first quote
after a comma, so that it has one field. -/
inductive FieldReads (cast : VarcharCast) : Column → Value → Prop where
  | null {field : Column} : FieldReads cast field .null
  | bool {field : Column} (value : Bool) : FieldReads cast field (.bool value)
  | int64 {field : Column} (value : Int) : FieldReads cast field (.int64 value)
  | float64 {field : Column} (bits : UInt64) : FieldReads cast field (.float64 bits)
  | string {field : Column} {value : String}
      (unescaped : cast.quotes value.toList = true →
        '\'' ∉ value.toList ∧ '\\' ∉ value.toList)
      (trimmed : trimAsciiSpace value.toList = value.toList)
      (present : isNullToken value.toList = false) : FieldReads cast field (.string value)
  | struct {name : String} {type : ColumnType} {mode : ColumnMode} {field : Column} {value : Value}
      (single : FieldReads cast field value) :
      FieldReads cast (.mk name type mode [field]) (.struct [value])

/-- The parser does not see the end of a value in the text. -/
def NoCut (text : List Char) : Prop := ¬ ", '".toList <:+: text

theorem NoCut.append_left (free : ',' ∉ front) (rest : NoCut text) : NoCut (front ++ text) := by
  intro inside
  rcases infix_append_iff.mp inside with first | second | ⟨left, right, split, ends, starts⟩
  · exact free (first.subset (by decide))
  · exact rest second
  cases left with
  | nil =>
    rw [nil_append] at split
    exact rest (split ▸ starts).isInfix
  | cons c left =>
    have first : c = ',' := (cons.inj split).1.symm
    exact free (first ▸ ends.subset (.head _))

theorem NoCut.append_right (rest : NoCut text) (free : '\'' ∉ back) : NoCut (text ++ back) := by
  intro inside
  rcases infix_append_iff.mp inside with first | second | ⟨left, right, split, ends, starts⟩
  · exact rest first
  · exact free (second.subset (by decide))
  by_cases empty : right = []
  · rw [empty, append_nil] at split
    exact rest (split ▸ ends).isInfix
  · have last : '\'' ∈ right := by
      have quote : (left ++ right).getLast? = some '\'' := split ▸ rfl
      rw [getLast?_append_of_ne_nil _ empty] at quote
      exact mem_of_mem_getLast? quote
    exact free (starts.subset last)

/-- A closing quote is the only place where it can cut a text. -/
theorem NoCut.closed (opened : NoCut body) :
    NoCut (body ++ ['\'']) ∨ ∃ front, body = front ++ [',', ' '] := by
  refine or_iff_not_imp_left.mpr fun cut => ?_
  obtain ⟨front, after, same⟩ := not_not.mp cut
  rcases eq_nil_or_concat after with rfl | ⟨rest, last, rfl⟩
  · exact ⟨front, (append_left_inj ['\'']).mp (by simpa using same.symm)⟩
  · rw [concat_eq_append, ← append_assoc] at same
    exact absurd ⟨front, rest, (append_inj' same rfl).1⟩ opened

theorem noCut_quoted (free : '\'' ∉ text) (back : ∀ c ∈ text.getLast?, isBlank c = false) :
    NoCut ('\'' :: (text ++ ['\''])) := by
  have opened : NoCut ('\'' :: text) := by
    intro inside
    rcases infix_cons_iff.mp inside with starts | within
    · exact absurd (cons_prefix_cons.mp starts).1 (by decide)
    · exact free (within.subset (by decide))
  refine opened.closed.resolve_right ?_
  rintro ⟨front, same⟩
  have last : ('\'' :: text).getLast? = some ' ' := by
    rw [same]
    simp
  cases text with
  | nil => cases last
  | cons c rest => exact absurd (back ' ' last) (by decide)

section
variable {strtod : List Char → Option UInt64}

theorem digit_not_space (digit : c.isDigit = true) : isSpace c = false := by
  by_contra space
  simp only [isSpace, Bool.not_eq_false, Bool.or_eq_true, decide_eq_true_eq] at space
  rcases space with ((((rfl | rfl) | rfl) | rfl) | rfl) | rfl <;> cases digit

theorem splitSign_digit (digit : c.isDigit = true) (rest : List Char) :
    splitSign (c :: rest) = (false, c :: rest) := by
  unfold splitSign
  split
  next same =>
    cases same
    cases digit
  next same =>
    cases same
    cases digit
  next => rfl

theorem strtoll_digits (m : Nat) (negative : Bool)
    (split : splitSign (text.dropWhile isSpace) = (negative, Nat.toDigits 10 m)) :
    strtoll text =
      some (max (-2 ^ 63) (min (2 ^ 63 - 1) (if negative then -(m : Int) else m))) := by
  have digits : ((Nat.toDigits 10 m).isEmpty || (Nat.toDigits 10 m).any fun c => !c.isDigit) = false := by
    rw [Bool.or_eq_false_iff, isEmpty_eq_false_iff, any_eq_false]
    refine ⟨Nat.toDigits_ne_nil, fun c within => ?_⟩
    simp [isDigit_of_mem_decimal within]
  rw [strtoll, split]
  dsimp only
  rw [digits, if_neg Bool.false_ne_true, Nat.ofDigitChars_ten_toDigits]

theorem strtoll_toString (low : -2 ^ 63 ≤ n) (high : n < 2 ^ 63) :
    strtoll (toString n).toList = some n := by
  rcases toString_int_cases n with ⟨m, rfl, text⟩ | ⟨m, rfl, text⟩
  · have split : splitSign ((Nat.toDigits 10 m).dropWhile isSpace) = (false, Nat.toDigits 10 m) := by
      cases shape : Nat.toDigits 10 m with
      | nil => exact absurd shape Nat.toDigits_ne_nil
      | cons c rest =>
        have digit : c.isDigit = true :=
          isDigit_of_mem_decimal (shape ▸ (.head _) : c ∈ Nat.toDigits 10 m)
        rw [dropWhile_cons_of_neg (by simp [digit_not_space digit]), splitSign_digit digit]
    rw [text, strtoll_digits m false split, Option.some.injEq, if_neg Bool.false_ne_true]
    omega
  · have split : splitSign (('-' :: Nat.toDigits 10 m).dropWhile isSpace) =
        (true, Nat.toDigits 10 m) := rfl
    rw [text, strtoll_digits m true split, Option.some.injEq, if_pos rfl]
    omega

theorem parseField_null (field : Column) (null : isNullToken (trimAsciiSpace raw) = true) :
    parseStructFieldLiteral strtod field raw = .ok .null := by
  cases field
  exact if_pos null

section
variable {name : String} {type : ColumnType} {mode : ColumnMode} {fields : List Column}
  {raw : List Char}

theorem parseField_text (text : type.isText = true) (trimmed : trimAsciiSpace raw = raw)
    (present : isNullToken raw = false) :
    parseStructFieldLiteral strtod (.mk name type mode fields) raw =
      .ok (.string (String.ofList raw)) := by
  rw [parseStructFieldLiteral, fieldLiteral.eq_def]
  simp only [trimmed, present, Bool.false_eq_true, if_false]
  cases type <;> first | rfl | cases text

theorem isNullToken_of_no_N (nonempty : text ≠ []) (free : 'N' ∉ text) :
    isNullToken text = false := by
  rw [isNullToken, Bool.or_eq_false_iff, isEmpty_eq_false_iff, decide_eq_false_iff_not]
  exact ⟨nonempty, fun null => free (null ▸ (.head _))⟩

theorem isNullToken_int (n : Int) : isNullToken (toString n).toList = false := by
  refine isNullToken_of_no_N (toString_int_ne_nil n) fun letter => ?_
  rcases toString_int_chars n letter with digit | sign
  · cases digit
  · cases sign

theorem parseField_int64 (low : -2 ^ 63 ≤ n) (high : n < 2 ^ 63) :
    parseStructFieldLiteral strtod (.mk name .int64 mode fields) (toString n).toList =
      .ok (.int64 n) := by
  rw [parseStructFieldLiteral, fieldLiteral, trimAsciiSpace, (bare_int n).solid.trim]
  simp only [isNullToken_int, Bool.false_eq_true, if_false, strtoll_toString low high, Option.map_some,
    Option.getD_some]

theorem isNullToken_double {cast : VarcharCast} (documented : cast.Documented) (bits : UInt64) :
    isNullToken (cast.double bits) = false := by
  refine isNullToken_of_no_N (documented.double bits).1 fun letter => ?_
  rcases (documented.double bits).2 _ letter with digit | lower | sign
  · cases digit
  · cases lower
  · exact absurd sign (by decide)

theorem parseField_float64 {cast : VarcharCast} (documented : cast.Documented)
    (exact : strtod (cast.double bits) = some bits) :
    parseStructFieldLiteral strtod (.mk name .float64 mode fields) (cast.double bits) =
      .ok (.float64 bits) := by
  rw [parseStructFieldLiteral, fieldLiteral, trimAsciiSpace,
    (bare_double documented bits).solid.trim]
  simp only [isNullToken_double documented, Bool.false_eq_true, if_false, exact, Option.map_some,
    Option.getD_some]

end

theorem isNullToken_cons (other : c ≠ 'N') (rest : List Char) : isNullToken (c :: rest) = false := by
  rw [isNullToken, Bool.or_eq_false_iff, decide_eq_false_iff_not]
  exact ⟨rfl, fun null => other (cons.inj null).1⟩

theorem enclosed (start stop : Char) (inner : List Char) :
    (decide ((start :: (inner ++ [stop])).length < 2) ||
      decide ((start :: (inner ++ [stop])).head? ≠ some start) ||
      decide ((start :: (inner ++ [stop])).getLast? ≠ some stop)) = false := by
  rw [← cons_append, getLast?_concat]
  simp

theorem parseStructText_braces
    (assign : List Char → List Char → List Value → Except Status (List Value)) (size : Nat)
    (inner : List Char) :
    parseStructText assign size ('\x7b' :: (inner ++ ['\x7d'])) =
      (parseStructFields assign inner (replicate size .null)).map .struct := by
  have solid : Solid isBlank ('\x7b' :: (inner ++ ['\x7d'])) := solid_of_ends rfl rfl inner
  have present := isNullToken_cons (by decide : '\x7b' ≠ 'N') (inner ++ ['\x7d'])
  rw [parseStructText, trimAsciiSpace, solid.trim]
  simp only [present, enclosed, Bool.false_eq_true, if_false]
  rw [drop_one, tail_cons, dropLast_concat, parseStructFields_congr (trimAsciiSpace_idem inner)]

end

section
variable {cast : VarcharCast} {strtod : List Char → Option UInt64}

theorem Column.Fits.element {field : Column} (fits : field.Fits cast strtod value)
    (single : ∀ elements, value ≠ .array elements) :
    elementFits cast strtod field.type (FieldsFit cast strtod field.fields) value := by
  obtain ⟨name, type, mode, fields⟩ := field
  rw [Column.Fits, modeFits] at fits
  split at fits
  · rcases fits with rfl | ⟨elements, rfl, -⟩
    · trivial
    · exact absurd rfl (single elements)
  · exact fits

theorem string_solid (trimmed : trimAsciiSpace text = text) (present : isNullToken text = false) :
    Solid isBlank text := by
  refine solid_of_trim_eq ?_ trimmed
  rintro rfl
  cases present

theorem parseField_struct (name : String) (mode : ColumnMode) (fields : List Column)
    (inner : List Char) :
    parseStructFieldLiteral strtod (.mk name .struct mode fields) ('\x7b' :: (inner ++ ['\x7d'])) =
      (parseStructFields (assignStructFieldValue strtod fields) inner
        (replicate fields.length .null)).map .struct := by
  rw [parseStructFieldLiteral, fieldLiteral, trimAsciiSpace, (solid_of_ends rfl rfl _).trim,
    isNullToken_cons (by decide : '\x7b' ≠ 'N')]
  exact parseStructText_braces _ _ _

theorem parseStructFields_all (documented : cast.Documented) (wellFormed : FieldsWellFormed fields)
    (names : (fields.map Column.name).Nodup) (aligned : List.Forall₂ (Aligned cast) fields values) :
    parseStructFields (assignStructFieldValue strtod fields)
        (commaSeparated (fieldTexts cast fields values)) (replicate fields.length .null) =
      readFields cast strtod fields values := by
  have run := parseStructFields_run strtod documented wellFormed aligned [] names [] rfl
  rw [nil_append, nil_append] at run
  rw [run]
  cases readFields cast strtod fields values <;> rfl

theorem commaSeparated_single (text : List Char) : commaSeparated [text] = text := by
  exact append_nil text

theorem noCut_single (plain : PlainName field.name) (inner : NoCut (field.text cast value))
    (column : Column) (only : column.fields = [field]) :
    NoCut (column.text cast (.struct [value])) := by
  have shape : column.text cast (.struct [value]) =
      ('\x7b' :: keyText field.name ++ [' ']) ++ (field.text cast value ++ ['\x7d']) := by
    rw [text_struct, only, fieldTexts_cons, fieldTexts, commaSeparated_single]
    · simp
    · simp
  rw [shape]
  refine NoCut.append_left ?_ (NoCut.append_right inner (by decide))
  intro comma
  rcases mem_append.mp comma with opening | blank
  · rcases mem_cons.mp opening with brace | key
    · cases brace
    · exact plain.no_comma key
  · exact absurd blank (by decide)

theorem FieldReads.reads (documented : cast.Documented) {field : Column}
    (reads : FieldReads cast field value) (wellFormed : field.WellFormed)
    (fits : field.Fits cast strtod value) :
    Aligned cast field value ∧ NoCut (field.text cast value) ∧
      parseStructFieldLiteral strtod field (rawText cast field value) = .ok value := by
  induction reads with
  | @null field =>
    refine ⟨trivial, text_null field ▸ bare_null.uncut, ?_⟩
    apply parseField_null
    rw [rawText, text_null]
    · rfl
    · exact fun _ => Value.noConfusion
  | @bool field value =>
    have type := fits.element fun _ => Value.noConfusion
    obtain ⟨name, _, mode, fields⟩ := field
    cases type
    exact ⟨trivial, (bare_bool value).uncut, by cases value <;> rfl⟩
  | @int64 field value =>
    have type := fits.element fun _ => Value.noConfusion
    obtain ⟨name, _, mode, fields⟩ := field
    obtain ⟨rfl, low, high⟩ := type
    exact ⟨trivial, (bare_int value).uncut, parseField_int64 low high⟩
  | @float64 field bits =>
    have type := fits.element fun _ => Value.noConfusion
    obtain ⟨name, _, mode, fields⟩ := field
    obtain ⟨rfl, same⟩ := type
    exact ⟨trivial, (bare_double documented bits).uncut, parseField_float64 documented same⟩
  | @string field value unescaped trimmed present =>
    have type := fits.element fun _ => Value.noConfusion
    have solid := string_solid trimmed present
    have raw : rawText cast field (.string value) = value.toList := by
      rw [rawText]
      split
      next quoted => exact escape_eq_self (unescaped quoted).1 (unescaped quoted).2
      next => rfl
    refine ⟨fun quoted => (unescaped quoted).1, ?_, ?_⟩
    · rw [text_string, VarcharCast.word]
      split
      next quoted =>
        rw [escape_eq_self (unescaped quoted).1 (unescaped quoted).2]
        exact noCut_quoted (unescaped quoted).1 solid.back
      next unquoted =>
        rcases bare_unquoted documented (by simpa using unquoted) with empty | bare
        · exact absurd empty solid.nonempty
        · exact bare.uncut
    · obtain ⟨name, type', mode, fields⟩ := field
      have isText : type'.isText = true := type
      rw [raw, parseField_text isText trimmed present, String.ofList_toList]
  | @struct name type mode field value single ih =>
    obtain ⟨isStruct, fieldsFit⟩ := fits.element fun _ => Value.noConfusion
    obtain ⟨-, names, named, inner, -⟩ := wellFormed
    obtain ⟨aligned, noCut, read⟩ := ih inner fieldsFit.1
    have whole := noCut_single named noCut (.mk name type mode [field]) rfl
    have wellFormed : FieldsWellFormed [field] := ⟨named, inner, trivial⟩
    refine ⟨whole, whole, ?_⟩
    cases isStruct
    change parseStructFieldLiteral strtod (.mk name .struct mode [field])
      ('\x7b' :: (commaSeparated (fieldTexts cast [field] [value]) ++ ['\x7d'])) = _
    rw [parseField_struct, parseStructFields_all documented wellFormed names
      (.cons aligned .nil), readFields_cons, read]
    rfl

end

end BigQueryEmulator.Storage
