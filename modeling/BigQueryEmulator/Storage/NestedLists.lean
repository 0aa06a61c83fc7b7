import BigQueryEmulator.Storage.NestedStructs

/-! Which lists are read back, and rows out of the texts of their STRUCT and REPEATED cells. The
parser of REPEATED cells knows no structs and no BYTES, and takes an empty text without quotes for
NULL or for nothing at all. -/
namespace BigQueryEmulator.Storage
open Text Fallible
open List hiding after tail

def ElementReads (cast : VarcharCast) : Value → Prop
  | .null | .bool _ | .int64 _ | .float64 _ => True
  | .string value =>
    if cast.quotes value.toList then '\'' ∉ value.toList ∧ '\\' ∉ value.toList
    else value.toList ≠ []
  | .bytes _ | .struct _ | .array _ => False

def Flat : Value → Prop
  | .null | .bool _ | .int64 _ | .float64 _ | .string _ => True
  | .bytes _ | .struct _ | .array _ => False

theorem ElementReads.flat {cast : VarcharCast}
    (reads : ElementReads cast element) : Flat element := by
  cases element <;> first | exact reads | trivial

section
variable {strtod : List Char → Option UInt64} {type : ColumnType}

theorem token_flat (ok : parseListElementToken strtod token type = .ok value) : Flat value := by
  unfold parseListElementToken at ok
  dsimp only at ok
  split at ok
  · cases ok
    trivial
  split at ok
  · obtain ⟨read, -, rfl⟩ := map_ok_iff.mp ok
    trivial
  split at ok
  · split at ok
    · cases ok
      trivial
    · split at ok
      · cases ok
        trivial
      · cases ok
  · split at ok
    · cases ok
      trivial
    · cases ok
  · split at ok
    · cases ok
      trivial
    · cases ok
  · cases ok
    trivial

theorem appendListElement_flat (ok : appendListElement strtod body type = .ok (value, after)) :
    Flat value := by
  unfold appendListElement at ok
  split at ok
  · obtain ⟨read, -, same⟩ := map_ok_iff.mp ok
    cases same
    trivial
  · obtain ⟨read, parsed, same⟩ := map_ok_iff.mp ok
    cases same
    exact token_flat parsed

theorem parseListElements_flat (ok : parseListElements strtod type body = .ok values) :
    ∀ value ∈ values, Flat value := by
  induction long : body.length using Nat.strong_induction_on generalizing body values with
  | h n ih =>
    rw [parseListElements_eq] at ok
    cases trimmed : trimAsciiSpace body with
    | nil =>
      rw [trimmed] at ok
      cases ok
      simp
    | cons c rest =>
      rw [trimmed] at ok
      obtain ⟨⟨value, after⟩, appended, ok⟩ := bind_ok ok
      obtain ⟨others, read, rfl⟩ := map_ok_iff.mp ok
      have shorter := appendListElement_shorter strtod appended
      have trims : (c :: rest).length ≤ body.length := trimmed ▸ length_trim_le body
      have smaller := ((next_body_le after).trans_lt shorter).trans_le trims
      exact forall_mem_cons.mpr
        ⟨appendListElement_flat appended, ih _ (long ▸ smaller) read rfl⟩

end

section
variable {strtod : List Char → Option UInt64} {type : ColumnType}

/-- What may follow the text of an element: nothing, or a comma and the other elements. -/
def After (tail rest : List Char) : Prop :=
  (tail = [] ∧ rest = []) ∨ tail = ", ".toList ++ rest

theorem parseListElements_congr (same : trimAsciiSpace body = trimAsciiSpace other) :
    parseListElements strtod type body = parseListElements strtod type other := by
  rw [parseListElements_eq, same, ← parseListElements_eq]

theorem parseListElements_nil : parseListElements strtod type [] = .ok [] := by
  rw [parseListElements_eq]
  rfl

theorem parseListElements_solid (solid : Solid isBlank text) (tail : List Char) :
    parseListElements strtod type (text ++ tail) =
      appendListElement strtod (text ++ tail.rdropWhile isBlank) type >>= fun (value, after) =>
        (parseListElements strtod type (skipComma (trimAsciiSpace after))).map (value :: ·) := by
  rw [parseListElements_eq, trimAsciiSpace_append solid]
  cases shape : text ++ tail.rdropWhile isBlank with
  | nil => exact absurd (append_eq_nil_iff.mp shape).1 solid.nonempty
  | cons => rfl

theorem comma_rdropWhile (rest : List Char) :
    ∃ blanks, (", ".toList ++ rest).rdropWhile isBlank = ',' :: blanks ∧
      trimAsciiSpace blanks = trimAsciiSpace rest := by
  refine ⟨(' ' :: rest).rdropWhile isBlank, ?_, ?_⟩
  · have comma : ∀ c ∈ [','].getLast?, isBlank c = false := by decide
    exact rdropWhile_append (' ' :: rest) comma
  · rw [trimAsciiSpace, trim_rdropWhile, trim_cons (by decide)]
    rfl

/-- A bare element: the comma after it is passed over, and so is one after that. -/
theorem parseListElements_bare (bare : Bare text) (follows : After tail rest) :
    parseListElements strtod type (text ++ tail) =
      parseListElementToken strtod text type >>= fun value =>
        (parseListElements strtod type (skipComma (trimAsciiSpace rest))).map (value :: ·) := by
  have unquoted : (text ++ tail.rdropWhile isBlank).head? ≠ some '\'' := by
    rw [head?_append_of_ne_nil _ bare.solid.nonempty]
    exact bare.head_ne_quote
  have absent : ¬ [','] <:+: text := fun inside => bare.no_comma (inside.subset (.head _))
  have token : trimAsciiSpace text = text := bare.solid.trim
  rw [parseListElements_solid bare.solid, appendListElement, if_neg unquoted,
    appendTokenListElement]
  rcases follows with ⟨rfl, rfl⟩ | rfl
  · rw [rdropWhile_nil, append_nil, cutAt_absent absent]
    dsimp only
    rw [token]
    cases parseListElementToken strtod text type <;> rfl
  · obtain ⟨blanks, shape, same⟩ := comma_rdropWhile rest
    have cut := cutAt_append (by simp : ',' ∉ []) absent blanks
    rw [append_assoc, singleton_append] at cut
    rw [shape, cut]
    dsimp only
    rw [token, ← same]
    cases parseListElementToken strtod text type <;> rfl

theorem parseListElements_open (text tail : List Char) :
    parseListElements strtod type ('\'' :: (escape text ++ ['\'']) ++ tail) =
      parseQuotedBody (escape text ++ '\'' :: tail.rdropWhile isBlank) >>= fun (out, after) =>
        (parseListElements strtod type (skipComma (trimAsciiSpace after))).map
          (.string (String.ofList out) :: ·) := by
  rw [parseListElements_solid (solid_of_ends rfl rfl _), cons_append, appendListElement,
    head?_cons, if_pos rfl, appendQuotedListElement, parseQuotedStringToken, append_assoc,
    singleton_append]
  cases parseQuotedBody (escape text ++ '\'' :: tail.rdropWhile isBlank) <;> rfl

theorem parseListElements_quoted (free : '\'' ∉ text) (follows : After tail rest) :
    parseListElements strtod type ('\'' :: (escape text ++ ['\'']) ++ tail) =
      (parseListElements strtod type rest).map (.string (String.ofList (escape text)) :: ·) := by
  have single : ∀ c ∈ (tail.rdropWhile isBlank).head?, c ≠ '\'' := by
    rcases follows with ⟨rfl, rfl⟩ | rfl
    · simp
    · obtain ⟨blanks, shape, -⟩ := comma_rdropWhile rest
      rw [shape]
      rintro c ⟨⟩
      decide
  have next : trimAsciiSpace (skipComma (trimAsciiSpace (tail.rdropWhile isBlank))) =
      trimAsciiSpace rest := by
    rcases follows with ⟨rfl, rfl⟩ | rfl
    · rfl
    obtain ⟨blanks, shape, same⟩ := comma_rdropWhile rest
    rw [shape, trimAsciiSpace_cons (by decide), skipComma, trimAsciiSpace, trim_rdropWhile]
    exact same
  rw [parseListElements_open, parseQuotedBody_free (quote_not_mem_escape free) single,
    ← parseListElements_congr next]
  rfl

/-- A quoted element with a quote in it is taken for another text. -/
theorem quoted_misread (quote : '\'' ∈ text)
    (ok : parseListElements strtod type ('\'' :: (escape text ++ ['\'']) ++ tail) =
      .ok (value :: values)) : value ≠ .string (String.ofList text) := by
  rw [parseListElements_open] at ok
  obtain ⟨⟨out, after⟩, read, ok⟩ := bind_ok ok
  obtain ⟨others, -, same⟩ := map_ok_iff.mp ok
  cases same
  intro same
  have kept : out = text := by
    have texts := congrArg String.toList (Value.string.inj same)
    rwa [String.toList_ofList, String.toList_ofList] at texts
  obtain ⟨front, back, rfl, free⟩ := eq_append_cons_of_mem quote
  rcases parseQuotedBody_quote free read with ⟨rest, -, longer, rfl⟩ | ⟨shorter, -⟩
  · have long := congrArg length (kept.symm.trans longer)
    have more := length_escape front
    simp only [length_append, length_cons, length_nil] at long
    omega
  · have within : '\'' ∈ escape front ++ ['\\'] :=
      (kept.symm.trans shorter) ▸ mem_append_right _ (.head _)
    rcases mem_append.mp within with escaped | backslash
    · exact quote_not_mem_escape free escaped
    · exact absurd backslash (by decide)

end

section
variable {cast : VarcharCast} {strtod : List Char → Option UInt64} {type : ColumnType}
  {fieldsFit : List Value → Prop} {fieldTexts : List Value → List (List Char)}

/-- The text of an element is read back by its token, or it is that of a string in quotes or of
an empty one. -/
theorem text_forms (documented : cast.Documented) (flat : Flat element)
    (fits : elementFits cast strtod type fieldsFit element) :
    (Bare (cast.elementText fieldTexts element) ∧
      parseListElementToken strtod (cast.elementText fieldTexts element) type = .ok element) ∨
    ∃ value, element = .string value ∧ (cast.quotes value.toList = true ∨
      cast.quotes value.toList = false ∧ value.toList = []) := by
  cases element with
  | null => exact .inl ⟨bare_null, rfl⟩
  | bool value =>
    cases fits
    refine .inl ⟨bare_bool value, ?_⟩
    cases value <;> rfl
  | int64 value =>
    obtain ⟨rfl, low, high⟩ := fits
    refine .inl ⟨bare_int value, ?_⟩
    rw [VarcharCast.elementText, parseListElementToken, trimAsciiSpace, (bare_int value).solid.trim]
    simp only [isNullToken_int, Bool.false_eq_true, if_false, (bare_int value).head_ne_quote,
      strtoll_toString low high]
  | float64 bits =>
    obtain ⟨rfl, same⟩ := fits
    have bare := bare_double documented bits
    refine .inl ⟨bare, ?_⟩
    rw [VarcharCast.elementText, parseListElementToken, trimAsciiSpace, bare.solid.trim]
    simp only [isNullToken_double documented, Bool.false_eq_true, if_false, bare.head_ne_quote,
      same]
  | string value =>
    cases quoted : cast.quotes value.toList with
    | true => exact .inr ⟨value, rfl, .inl quoted⟩
    | false =>
      rcases bare_unquoted documented quoted with empty | bare
      · exact .inr ⟨value, rfl, .inr ⟨quoted, empty⟩⟩
      have notNull : isNullToken value.toList = false := by
        rw [isNullToken, Bool.or_eq_false_iff, isEmpty_eq_false_iff, decide_eq_false_iff_not]
        refine ⟨bare.solid.nonempty, fun null => ?_⟩
        rw [null, documented.null] at quoted
        cases quoted
      rw [VarcharCast.elementText, VarcharCast.word, quoted, if_neg Bool.false_ne_true]
      refine .inl ⟨bare, ?_⟩
      rw [parseListElementToken.eq_def, trimAsciiSpace, bare.solid.trim]
      simp only [notNull, Bool.false_eq_true, if_false, bare.head_ne_quote, String.ofList_toList]
      have text : type.isText = true := fits
      cases type <;> first | rfl | cases text
  | bytes | struct | array => cases flat

/-- The body that the loop is left with for some elements: their texts, or, behind an element
without quotes, their texts without a comma that comes first. -/
def Left (rest body : List Char) : Prop :=
  trimAsciiSpace body = trimAsciiSpace rest ∨
    trimAsciiSpace body = trimAsciiSpace (skipComma (trimAsciiSpace rest))

theorem Left.eq (left : Left (text ++ tail) body) (solid : Solid isBlank text)
    (noComma : text.head? ≠ some ',') : trimAsciiSpace body = trimAsciiSpace (text ++ tail) := by
  rcases left with same | same
  · exact same
  have trimmed := trimAsciiSpace_append solid tail
  have unchanged : skipComma (text ++ tail.rdropWhile isBlank) =
      text ++ tail.rdropWhile isBlank := by
    cases text with
    | nil => exact absurd rfl solid.nonempty
    | cons c text =>
      rw [cons_append, skipComma]
      intro rest comma
      exact noComma (congrArg some (cons.inj comma).1)
  rw [same, trimmed, unchanged, ← trimmed, trimAsciiSpace_idem]

theorem after_followers (texts : List (List Char)) :
    After (followers texts) (commaSeparated texts) := by
  cases texts with
  | nil => exact .inl ⟨rfl, rfl⟩
  | cons text texts => exact .inr (by simp [followers, commaSeparated])

theorem ElementReads.step (documented : cast.Documented) (reads : ElementReads cast element)
    (fits : elementFits cast strtod type fieldsFit element)
    (left : Left (commaSeparated (cast.elementText fieldTexts element :: texts)) body) :
    ∃ next, Left (commaSeparated texts) next ∧ parseListElements strtod type body =
      (parseListElements strtod type next).map (element :: ·) := by
  have follows := after_followers texts
  rw [commaSeparated_cons] at left
  rcases text_forms documented reads.flat fits with ⟨bare, token⟩ | ⟨value, rfl, form⟩
  · refine ⟨skipComma (trimAsciiSpace (commaSeparated texts)), .inr rfl, ?_⟩
    have noComma := fun comma => bare.no_comma (mem_of_mem_head? comma)
    rw [parseListElements_congr (left.eq bare.solid noComma), parseListElements_bare bare follows,
      token]
    rfl
  rw [VarcharCast.elementText, VarcharCast.word] at left
  rw [ElementReads] at reads
  rcases form with quoted | ⟨unquoted, empty⟩
  · rw [quoted, if_pos rfl] at reads left
    have same := left.eq (solid_of_ends rfl rfl _) (by simp)
    refine ⟨commaSeparated texts, .inl rfl, ?_⟩
    rw [parseListElements_congr same, parseListElements_quoted reads.1 follows,
      escape_eq_self reads.1 reads.2, String.ofList_toList]
  · rw [unquoted, if_neg Bool.false_ne_true] at reads
    exact absurd empty reads

theorem skipComma_followers (texts : List (List Char)) :
    trimAsciiSpace (skipComma (trimAsciiSpace (followers texts))) =
        trimAsciiSpace (commaSeparated texts) := by
  cases texts with
  | nil => rfl
  | cons text texts =>
    have shape : followers (text :: texts) = ',' :: ' ' :: commaSeparated (text :: texts) := by
      simp [followers, commaSeparated]
    rw [shape, trimAsciiSpace_cons (by decide), skipComma, trimAsciiSpace, trim_rdropWhile,
      trim_cons (by decide)]
    rfl

/-- An empty text without quotes is no element, or NULL. -/
theorem parseListElements_empty
    (ok : parseListElements strtod type (followers texts) = .ok (value :: values)) :
    value = .null := by
  cases texts with
  | nil =>
    rw [followers, flatMap_nil, parseListElements_nil] at ok
    cases ok
  | cons text texts =>
    have shape : followers (text :: texts) = [','] ++ (' ' :: commaSeparated (text :: texts)) := by
      simp [followers, commaSeparated]
    have solid : Solid isBlank [','] := ⟨by decide, by decide, by decide⟩
    rw [shape, parseListElements_solid solid] at ok
    obtain ⟨⟨first, after⟩, appended, ok⟩ := bind_ok ok
    obtain ⟨others, -, same⟩ := map_ok_iff.mp ok
    cases same
    cases appended
    rfl

variable {elements : List Value} {values : List Value}

/-- Where an empty string is written without quotes, no element is read as one. -/
theorem first_ne_empty (documented : cast.Documented) (unquoted : cast.quotes [] = false)
    (flat : ∀ element ∈ elements, Flat element)
    (fits : ∀ element ∈ elements, elementFits cast strtod type fieldsFit element)
    (ok : parseListElements strtod type
        (commaSeparated (elements.map (cast.elementText fieldTexts))) = .ok (value :: values)) :
    value ≠ .string "" := by
  cases elements with
  | nil =>
    rw [map_nil, commaSeparated, parseListElements_nil] at ok
    cases ok
  | cons element elements =>
    rw [forall_mem_cons] at flat fits
    rw [map_cons, commaSeparated_cons] at ok
    rcases text_forms documented flat.1 fits.1 with ⟨bare, token⟩ | ⟨text, rfl, form⟩
    · rw [parseListElements_bare bare (after_followers _), token] at ok
      obtain ⟨others, -, same⟩ := map_ok_iff.mp ok
      cases same
      rintro rfl
      refine bare.solid.nonempty ?_
      rw [VarcharCast.elementText, VarcharCast.word]
      exact if_neg (by simp [unquoted])
    rw [VarcharCast.elementText, VarcharCast.word] at ok
    rcases form with quoted | ⟨absent, empty⟩
    · rw [quoted, if_pos rfl, parseListElements_open] at ok
      obtain ⟨⟨out, after⟩, read, ok⟩ := bind_ok ok
      obtain ⟨others, -, same⟩ := map_ok_iff.mp ok
      cases same
      cases shape : text.toList with
      | nil =>
        rw [shape, unquoted] at quoted
        cases quoted
      | cons c rest =>
        obtain ⟨d, rest', starts, quote, -⟩ := escape_head c rest
        rw [shape, starts, cons_append, parseQuotedBody_char quote] at read
        obtain ⟨⟨out', _⟩, -, same⟩ := map_ok_iff.mp read
        cases same
        intro same
        have texts := congrArg String.toList (Value.string.inj same)
        rw [String.toList_ofList] at texts
        cases texts
    · rw [absent, if_neg Bool.false_ne_true, empty, nil_append] at ok
      rw [parseListElements_empty ok]
      exact Value.noConfusion

/-- A string that is not read back is the first that is lost. -/
theorem string_reads (documented : cast.Documented) (flat : ∀ element ∈ elements, Flat element)
    (fits : ∀ element ∈ (.string text :: elements), elementFits cast strtod type fieldsFit element)
    (left : Left (commaSeparated ((.string text :: elements).map (cast.elementText fieldTexts))) body)
    (ok : parseListElements strtod type body = .ok (.string text :: values)) :
    ElementReads cast (.string text) := by
  rw [map_cons, commaSeparated_cons, VarcharCast.elementText, VarcharCast.word] at left
  rw [ElementReads]
  cases quoted : cast.quotes text.toList with
  | true =>
    rw [quoted, if_pos rfl] at left
    rw [parseListElements_congr (left.eq (solid_of_ends rfl rfl _) (by simp))] at ok
    by_cases quote : '\'' ∈ text.toList
    · exact absurd (by rw [String.ofList_toList]) (quoted_misread quote ok)
    rw [parseListElements_quoted quote (after_followers _)] at ok
    obtain ⟨others, -, same⟩ := map_ok_iff.mp ok
    have texts := congrArg String.toList (Value.string.inj (cons.inj same).1)
    rw [String.toList_ofList] at texts
    exact unescaped_of_eq texts
  | false =>
    intro empty
    have isEmpty : text = "" := String.toList_inj.mp empty
    subst isEmpty
    rw [quoted, if_neg Bool.false_ne_true, empty, nil_append] at left
    rcases left with same | same
    · rw [parseListElements_congr same] at ok
      cases parseListElements_empty ok
    · rw [skipComma_followers] at same
      rw [parseListElements_congr same] at ok
      exact first_ne_empty documented (empty ▸ quoted) flat
        (forall_mem_cons.mp fits).2 ok rfl

/-- A list is read back exactly when each of its elements is. -/
theorem parseListElements_ok_iff (documented : cast.Documented)
    (fits : ∀ element ∈ elements, elementFits cast strtod type fieldsFit element)
    (left : Left (commaSeparated (elements.map (cast.elementText fieldTexts))) body) :
    parseListElements strtod type body = .ok elements ↔
      ∀ element ∈ elements, ElementReads cast element := by
  induction elements generalizing body with
  | nil =>
    refine ⟨fun _ => by simp, fun _ => ?_⟩
    have empty : trimAsciiSpace body = trimAsciiSpace [] := by
      rcases left with same | same <;> exact same
    rw [parseListElements_congr empty, parseListElements_nil]
  | cons element elements ih =>
    have others := (forall_mem_cons.mp fits).2
    rw [forall_mem_cons]
    constructor
    · intro ok
      have flat := forall_mem_cons.mp (parseListElements_flat ok)
      have first : ElementReads cast element := by
        cases element with
        | string text => exact string_reads documented flat.2 fits left ok
        | null | bool | int64 | float64 => trivial
        | bytes | struct | array => exact flat.1
      obtain ⟨next, left, same⟩ := first.step documented (forall_mem_cons.mp fits).1 left
      rw [same] at ok
      obtain ⟨rest, ok, same⟩ := map_ok_iff.mp ok
      cases same
      exact ⟨first, (ih others left).mp ok⟩
    · rintro ⟨first, rest⟩
      obtain ⟨next, left, same⟩ := first.step documented (forall_mem_cons.mp fits).1 left
      rw [same, (ih others left).mpr rest]
      rfl

theorem parseDuckDBListVarchar_brackets (inner : List Char) :
    parseDuckDBListVarchar strtod ('[' :: (inner ++ [']'])) type =
      (parseListElements strtod type inner).map .array := by
  have solid : Solid isBlank ('[' :: (inner ++ [']'])) := solid_of_ends rfl rfl inner
  have present := isNullToken_cons (by decide : '[' ≠ 'N') (inner ++ [']'])
  rw [parseDuckDBListVarchar, trimAsciiSpace, solid.trim]
  simp only [present, enclosed, Bool.false_eq_true, if_false]
  rw [drop_one, tail_cons, dropLast_concat, parseListElements_congr (trimAsciiSpace_idem inner)]

end

def Column.Reads (cast : VarcharCast) (column : Column) : Value → Prop
  | .array elements => ∀ element ∈ elements, ElementReads cast element
  | .struct values => List.Forall₂ (FieldReads cast) column.fields values
  | _ => True

structure NestedTable (cast : VarcharCast) (strtod : List Char → Option UInt64) where
  columns : List Column
  rows : List Row
  formed : ∀ column ∈ columns, column.WellFormed
  fit : ∀ row ∈ rows, List.Forall₂ (Column.Fits cast strtod) columns row.cells

section
variable {cast : VarcharCast} {strtod : List Char → Option UInt64}

theorem decoded_ok_iff {parsed : Except Status Value} {refuse : Status → Status} :
    (match parsed with
      | .ok value => Except.ok value
      | .error e => .error (refuse e)) = .ok value ↔ parsed = .ok value := by
  cases parsed with
  | ok read => rfl
  | error e =>
    constructor <;> rintro ⟨⟩

variable {fields : List Column}

theorem readCell_scalar (single : mode ≠ .repeated) (scalar : type ≠ .struct)
    (fits : elementFits cast strtod type (FieldsFit cast strtod fields) value) :
    readCell strtod (.mk name type mode fields)
      (selectedCell cast (.mk name type mode fields) value) = .ok value := by
  cases mode with
  | repeated => exact absurd rfl single
  | nullable | required =>
    cases value with
    | null => rfl
    | array elements => exact fits.elim
    | struct values => exact absurd fits.1 scalar
    | bool value =>
      obtain rfl : type = .bool := fits
      rfl
    | int64 value =>
      obtain rfl : type = .int64 := fits.1
      rfl
    | float64 bits =>
      obtain rfl : type = .float64 := fits.1
      rfl
    | bytes value =>
      obtain rfl : type = .bytes := fits
      rfl
    | string value =>
      have read : ∀ text : List Char, String.ofList text = value →
          Except.ok (ε := Status) (Value.string (String.ofList text)) = .ok (.string value) :=
        fun _ same => by rw [same]
      have kept : String.ofList value.toList = value := String.ofList_toList
      have text : type.isText = true := fits
      cases type <;> first | exact read _ kept | cases text

theorem readCell_ok_iff (documented : cast.Documented) (formed : column.WellFormed)
    (fits : column.Fits cast strtod value) :
    readCell strtod column (selectedCell cast column value) = .ok value ↔
      column.Reads cast value := by
  obtain ⟨name, type, mode, fields⟩ := column
  by_cases repeated : mode = .repeated
  · subst repeated
    rcases fits with rfl | ⟨elements, rfl, each⟩
    · exact ⟨fun _ => trivial, fun _ => rfl⟩
    · refine decoded_ok_iff.trans ?_
      change parseDuckDBListVarchar strtod ('[' :: (commaSeparated
        (elements.map (cast.elementText (fieldTexts cast fields))) ++ [']'])) type = _ ↔
          ∀ element ∈ elements, ElementReads cast element
      rw [parseDuckDBListVarchar_brackets]
      simpa [map_ok_iff] using parseListElements_ok_iff documented each (.inl rfl)
  · by_cases isStruct : type = .struct
    · subst isStruct
      rw [Column.Fits, modeFits, if_neg repeated] at fits
      cases value with
      | struct values =>
        have read : readCell strtod (.mk name .struct mode fields)
            (selectedCell cast (.mk name .struct mode fields) (.struct values)) =
              readStructCell strtod (.mk name .struct mode fields) (.varchar
                ('\x7b' :: (commaSeparated (fieldTexts cast fields values) ++ ['\x7d']))) := by
          cases mode with
          | repeated => exact absurd rfl repeated
          | nullable | required => rfl
        change _ ↔ List.Forall₂ (FieldReads cast) fields values
        rw [← parseStructFields_ok_iff documented formed.2.2 formed.2.1 fits.2, read]
        refine decoded_ok_iff.trans ?_
        change parseStructText (assignStructFieldValue strtod fields) fields.length
            ('\x7b' :: (commaSeparated (fieldTexts cast fields values) ++ ['\x7d'])) = _ ↔ _
        rw [parseStructText_braces]
        simp [map_ok_iff]
      | null =>
        refine ⟨fun _ => trivial, fun _ => ?_⟩
        cases mode with
        | repeated => exact absurd rfl repeated
        | nullable | required => rfl
      | bool | bytes | array | string => cases fits
      | int64 | float64 => cases fits.1
    · rw [Column.Fits, modeFits, if_neg repeated] at fits
      refine ⟨fun _ => ?_, fun _ => readCell_scalar repeated isStruct fits⟩
      cases value with
      | array => exact fits.elim
      | struct => exact absurd fits.1 isStruct
      | null | bool | int64 | float64 | bytes | string => trivial

end

section
variable {cast : VarcharCast} {strtod : List Char → Option UInt64}

theorem readRow_ok_iff (documented : cast.Documented)
    (formed : ∀ column ∈ columns, column.WellFormed)
    (fit : List.Forall₂ (Column.Fits cast strtod) columns row.cells) :
    readRow strtod cast columns row = .ok row ↔
      List.Forall₂ (Column.Reads cast) columns row.cells := by
  obtain ⟨cells⟩ := row
  have cellwise : readRow strtod cast columns ⟨cells⟩ = .ok ⟨cells⟩ ↔
      (columns.zip cells).mapM (fun entry =>
        readCell strtod entry.1 (selectedCell cast entry.1 entry.2)) = .ok cells := by
    simp [readRow, map_ok_iff]
  rw [cellwise, mapM_ok_iff]
  change List.Forall₂ (Column.Fits cast strtod) columns cells at fit
  clear cellwise
  induction fit with
  | nil => exact ⟨fun _ => .nil, fun _ => .nil⟩
  | @cons column value columns cells first _ ih =>
    rw [List.forall_mem_cons] at formed
    rw [List.zip_cons_cons, List.forall₂_cons, List.forall₂_cons]
    exact and_congr (readCell_ok_iff documented formed.1 first) (ih formed.2)

/-- A scan answers the stored rows exactly when all their cells are read back. -/
theorem readRows_ok_iff (documented : cast.Documented) (table : NestedTable cast strtod) :
    readRows strtod cast table.columns table.rows = .ok table.rows ↔
      ∀ row ∈ table.rows, List.Forall₂ (Column.Reads cast) table.columns row.cells := by
  rw [readRows, mapM_ok_iff, List.forall₂_same]
  refine forall₂_congr fun row stored => ?_
  exact readRow_ok_iff documented table.formed (table.fit row stored)

end

end BigQueryEmulator.Storage
