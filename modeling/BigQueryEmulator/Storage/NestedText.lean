import BigQueryEmulator.Storage.Values
import BigQueryEmulator.Text.Trim

/-! STRUCT and REPEATED cells as DuckDB writes them and `ScanRows` reads them
(`duckdb_storage_sql_render.cc`, `duckdb_storage_list_literals.cc`, `duckdb_storage_rows.cc`).
The SELECT list casts such a column to VARCHAR, and a hand-written parser takes the text
apart again. -/
namespace BigQueryEmulator.Storage
open Text Fallible

/-- `schema::ColumnSchema` with the fields of a STRUCT. -/
inductive Column where
  | mk (name : String) (type : ColumnType) (mode : ColumnMode) (fields : List Column)

namespace Column

def name : Column → String
  | .mk name _ _ _ => name

def type : Column → ColumnType
  | .mk _ type _ _ => type

def mode : Column → ColumnMode
  | .mk _ _ mode _ => mode

def fields : Column → List Column
  | .mk _ _ _ fields => fields

end Column

/-- A field name: letters, digits and underscores. -/
def PlainName (name : String) : Prop :=
  name.toList ≠ [] ∧ ∀ c ∈ name.toList, c.isAlphanum ∨ c = '_'

mutual

/-- A STRUCT has fields, of different names. -/
def Column.WellFormed : Column → Prop
  | .mk _ type _ fields => (type = .struct → fields ≠ []) ∧
      (fields.map Column.name).Nodup ∧ FieldsWellFormed fields

def FieldsWellFormed : List Column → Prop
  | [] => True
  | field :: rest => PlainName field.name ∧ field.WellFormed ∧ FieldsWellFormed rest

end

def ColumnType.isText : ColumnType → Bool
  | .bool | .int64 | .float64 | .bytes | .array | .struct => false
  | _ => true

/-- DuckDB's text forms: whether a string inside a list or a struct is put in quotes, and the
texts of a DOUBLE and of a BLOB. -/
structure VarcharCast where
  quotes : List Char → Bool
  double : UInt64 → List Char
  blob : List UInt8 → List Char

/-- Inside quotes, quotes and backslashes are escaped by a backslash. -/
def escape (text : List Char) : List Char :=
  text.flatMap fun c => if c = '\'' ∨ c = '\\' then ['\\', c] else [c]

def VarcharCast.word (cast : VarcharCast) (text : List Char) : List Char :=
  if cast.quotes text then '\'' :: (escape text ++ ['\'']) else text

def commaSeparated : List (List Char) → List Char
  | [] => []
  | text :: rest => text ++ rest.flatMap (", ".toList ++ ·)

/-- A value that is no list, given the texts of the fields of a struct. -/
def VarcharCast.elementText (cast : VarcharCast) (fieldTexts : List Value → List (List Char)) :
    Value → List Char
  | .null => "NULL".toList
  | .bool value => if value then "true".toList else "false".toList
  | .int64 value => (toString value).toList
  | .float64 bits => cast.double bits
  | .string value => cast.word value.toList
  | .bytes value => cast.word (cast.blob value)
  | .struct fields => '\x7b' :: (commaSeparated (fieldTexts fields) ++ ['\x7d'])
  | .array _ => []

mutual

/-- `CAST(… AS VARCHAR)` inside a list or a struct. -/
def Column.text (cast : VarcharCast) : Column → Value → List Char
  | .mk _ _ _ fields, .array elements =>
    '[' :: (commaSeparated (elements.map (cast.elementText (fieldTexts cast fields))) ++ [']'])
  | .mk _ _ _ fields, value => cast.elementText (fieldTexts cast fields) value

def fieldTexts (cast : VarcharCast) : List Column → List Value → List (List Char)
  | field :: rest, value :: values =>
    ('\'' :: (field.name.toList ++ "': ".toList ++ field.text cast value)) ::
      fieldTexts cast rest values
  | _, _ => []

end

/-- A result cell: SQL NULL, a text, or a value of another type. -/
inductive Cell where
  | null
  | varchar (text : List Char)
  | typed (value : Value)

/-- What `RenderColumnSelectExpr` selects for a stored value. -/
def selectedCell (cast : VarcharCast) (column : Column) : Value → Cell
  | .null => .null
  | value =>
    if column.mode = .repeated || column.type = .struct then .varchar (column.text cast value)
    else
      match value with
      | .string text => .varchar text.toList
      | other => .typed other

section

def isBlank (c : Char) : Bool := c = ' ' || c = '\t'

def trimAsciiSpace (text : List Char) : List Char := trim isBlank text

/-- The token up to its closing quote, in which two quotes stand for one. -/
def parseQuotedBody : List Char → Except Status (List Char × List Char)
  | [] => .error ⟨.invalidArgument, "ParseQuotedStringToken: unterminated quoted string"⟩
  | c :: rest =>
    if c = '\'' then
      match rest with
      | '\'' :: rest => (parseQuotedBody rest).map fun (out, after) => ('\'' :: out, after)
      | _ => .ok ([], rest)
    else (parseQuotedBody rest).map fun (out, after) => (c :: out, after)

def parseQuotedStringToken : List Char → Except Status (List Char × List Char)
  | '\'' :: rest => parseQuotedBody rest
  | _ => .error ⟨.invalidArgument, "ParseQuotedStringToken: expected leading quote"⟩

/-- C's `isspace`. -/
def isSpace (c : Char) : Bool :=
  c = ' ' || c = '\t' || c = '\n' || c = '\x0b' || c = '\x0c' || c = '\r'

def splitSign : List Char → Bool × List Char
  | '-' :: rest => (true, rest)
  | '+' :: rest => (false, rest)
  | rest => (false, rest)

/-- The number when `std::strtoll` reads the whole text. -/
def strtoll (text : List Char) : Option Int :=
  let (negative, digits) := splitSign (text.dropWhile isSpace)
  if digits.isEmpty || digits.any fun c => !c.isDigit then none
  else
    let magnitude : Int := Nat.ofDigitChars 10 digits 0
    some (max (-2 ^ 63) (min (2 ^ 63 - 1) (if negative then -magnitude else magnitude)))

def isNullToken (token : List Char) : Bool := token.isEmpty || token = "NULL".toList

def skipComma : List Char → List Char
  | ',' :: rest => rest
  | rest => rest

-- the double when `std::strtod` reads the whole text
variable (strtod : List Char → Option UInt64)

theorem parseQuotedBody_end (single : ∀ c ∈ rest.head?, c ≠ '\'') :
    parseQuotedBody ('\'' :: rest) = .ok ([], rest) := by
  cases rest with
  | nil => rfl
  | cons c rest =>
    rw [parseQuotedBody.eq_def]
    simp only [if_true]
    split
    next same => exact absurd (List.cons.inj same).1 (single c rfl)
    next => rfl

theorem parseQuotedBody_char (other : c ≠ '\'') (rest : List Char) :
    parseQuotedBody (c :: rest) =
      (parseQuotedBody rest).map fun (out, after) => (c :: out, after) := by
  rw [parseQuotedBody.eq_def]
  simp only [if_neg other]

theorem parseQuotedBody_shorter (ok : parseQuotedBody text = .ok (out, after)) :
    after.length < text.length := by
  induction text using parseQuotedBody.induct generalizing out with
  | case1 => cases ok
  | case2 rest ih =>
    obtain ⟨answer, inner, same⟩ := map_ok_iff.mp ok
    cases same
    have shorter := ih inner
    simp only [List.length_cons]
    omega
  | case3 rest single =>
    rw [parseQuotedBody_end fun c first same => ?_] at ok
    · cases ok
      exact Nat.lt_succ_self _
    · obtain ⟨tail, starts⟩ := List.head?_eq_some_iff.mp (same ▸ first)
      exact single tail starts
  | case4 c rest other ih =>
    rw [parseQuotedBody_char other] at ok
    obtain ⟨answer, inner, same⟩ := map_ok_iff.mp ok
    cases same
    exact (ih inner).trans (Nat.lt_succ_self _)

theorem parseQuotedStringToken_shorter (ok : parseQuotedStringToken text = .ok (out, after)) :
    after.length < text.length := by
  unfold parseQuotedStringToken at ok
  split at ok
  · exact (parseQuotedBody_shorter ok).trans (Nat.lt_succ_self _)
  · cases ok

theorem length_skipComma_le (text : List Char) : (skipComma text).length ≤ text.length := by
  unfold skipComma
  split
  · exact Nat.le_succ _
  · exact le_rfl

theorem next_body_le (after : List Char) :
    (skipComma (trimAsciiSpace after)).length ≤ after.length :=
  (length_skipComma_le _).trans (length_trim_le _)

def parseListElementToken (token : List Char) (type : ColumnType) : Except Status Value :=
  let token := trimAsciiSpace token
  let cannotParse : Status :=
    ⟨.invalidArgument, "ParseListElementToken: cannot parse `" ++ String.ofList token ++ "`"⟩
  if isNullToken token then .ok .null
  else if token.head? = some '\'' then
    (parseQuotedStringToken token).map fun (text, _) => .string (String.ofList text)
  else
    match type with
    | .bool =>
      if token = "true".toList then .ok (.bool true)
      else if token = "false".toList then .ok (.bool false)
      else .error cannotParse
    | .int64 =>
      match strtoll token with
      | some value => .ok (.int64 value)
      | none => .error cannotParse
    | .float64 =>
      match strtod token with
      | some bits => .ok (.float64 bits)
      | none => .error cannotParse
    | _ => .ok (.string (String.ofList token))

def appendQuotedListElement (body : List Char) : Except Status (Value × List Char) :=
  (parseQuotedStringToken body).map fun (text, after) => (.string (String.ofList text), after)

def appendTokenListElement (body : List Char) (type : ColumnType) :
    Except Status (Value × List Char) :=
  let (token, comma) := cutAt [','] body
  let after := (comma.map (List.drop 1)).getD []
  (parseListElementToken strtod (trimAsciiSpace token) type).map fun value => (value, after)

def appendListElement (body : List Char) (type : ColumnType) : Except Status (Value × List Char) :=
  if body.head? = some '\'' then appendQuotedListElement body
  else appendTokenListElement strtod body type

theorem appendListElement_shorter
    (ok : appendListElement strtod (c :: rest) type = .ok (value, after)) :
    after.length < (c :: rest).length := by
  unfold appendListElement at ok
  split at ok
  · obtain ⟨answer, inner, same⟩ := map_ok_iff.mp ok
    cases same
    exact parseQuotedStringToken_shorter inner
  · obtain ⟨answer, -, same⟩ := map_ok_iff.mp ok
    cases same
    exact drop_cutAt_lt (by decide)

/-- The loop of `ParseDuckDBListVarchar`. -/
def parseListElements (type : ColumnType) (body : List Char) : Except Status (List Value) :=
  match _trimmed : trimAsciiSpace body with
  | [] => .ok []
  | c :: rest =>
    match _appended : appendListElement strtod (c :: rest) type with
    | .error e => .error e
    | .ok (value, after) =>
      (parseListElements type (skipComma (trimAsciiSpace after))).map (value :: ·)
termination_by body.length
decreasing_by
  have shorter := appendListElement_shorter strtod _appended
  have trims : (c :: rest).length ≤ body.length := _trimmed ▸ length_trim_le body
  exact ((next_body_le after).trans_lt shorter).trans_le trims

theorem parseListElements_eq (type : ColumnType) (body : List Char) :
    parseListElements strtod type body =
      match trimAsciiSpace body with
      | [] => .ok []
      | c :: rest =>
        appendListElement strtod (c :: rest) type >>= fun (value, after) =>
          (parseListElements strtod type (skipComma (trimAsciiSpace after))).map (value :: ·) := by
  rw [parseListElements.eq_def]
  split
  next empty => rw [empty]
  next c rest trimmed =>
    rw [trimmed]
    dsimp only
    split
    next e failed => rw [failed]; rfl
    next value after appended => rw [appended]; rfl

def parseDuckDBListVarchar (text : List Char) (type : ColumnType) : Except Status Value :=
  let body := trimAsciiSpace text
  if isNullToken body then .ok .null
  else if body.length < 2 || body.head? ≠ some '[' || body.getLast? ≠ some ']' then
    .error ⟨.invalidArgument, "ParseDuckDBListVarchar: expected `[...]` got `" ++
      String.ofList body ++ "`"⟩
  else (parseListElements strtod type (trimAsciiSpace (body.drop 1).dropLast)).map .array

/-- The value after a field name and the rest of the body: a quoted string, or what stands
before the next quote after a comma. -/
def parseStructValueToken (body : List Char) : Except Status (List Char × List Char) :=
  if body.head? = some '\'' then parseQuotedStringToken body
  else
    let (raw, next) := cutAt ", '".toList body
    .ok (trimAsciiSpace raw, (next.map (List.drop 2)).getD [])

/-- Key, raw value and the rest of the body. -/
def parseNextStructField (body : List Char) :
    Except Status (List Char × List Char × List Char) :=
  if body.head? ≠ some '\'' then
    .error ⟨.invalidArgument, "ParseDuckDBStructVarchar: expected quoted field name in `" ++
      String.ofList body ++ "`"⟩
  else do
    let (key, body) ← parseQuotedStringToken body
    match trimAsciiSpace body with
    | ':' :: body =>
      let (raw, body) ← parseStructValueToken (trimAsciiSpace body)
      return (key, raw, body)
    | _ => .error ⟨.invalidArgument, "ParseDuckDBStructVarchar: expected ':' after field name"⟩

theorem parseStructValueToken_le (ok : parseStructValueToken body = .ok (raw, after)) :
    after.length ≤ body.length := by
  unfold parseStructValueToken at ok
  split at ok
  · exact (parseQuotedStringToken_shorter ok).le
  · cases ok
    exact drop_cutAt_le _ _ _

theorem parseNextStructField_shorter (ok : parseNextStructField body = .ok (key, raw, after)) :
    after.length < body.length := by
  unfold parseNextStructField at ok
  split at ok
  · cases ok
  obtain ⟨⟨name, rest⟩, named, ok⟩ := bind_ok ok
  have shorter := parseQuotedStringToken_shorter named
  have trims : (trimAsciiSpace rest).length ≤ rest.length := length_trim_le rest
  dsimp only at ok
  split at ok
  next value colon =>
    rw [colon, List.length_cons] at trims
    have valueTrims : (trimAsciiSpace value).length ≤ value.length := length_trim_le value
    obtain ⟨⟨text, body⟩, read, ok⟩ := bind_ok ok
    cases ok
    have := parseStructValueToken_le read
    dsimp only
    omega
  next => cases ok

/-- The loop of `ParseDuckDBStructVarchar`, which assigns each value to its field. -/
def parseStructFields (assign : List Char → List Char → List Value → Except Status (List Value))
    (body : List Char) (values : List Value) : Except Status (List Value) :=
  match _trimmed : trimAsciiSpace body with
  | [] => .ok values
  | c :: rest =>
    match _next : parseNextStructField (c :: rest) with
    | .error e => .error e
    | .ok (key, raw, after) =>
      match assign key raw values with
      | .error e => .error e
      | .ok values => parseStructFields assign (skipComma (trimAsciiSpace after)) values
termination_by body.length
decreasing_by
  have shorter := parseNextStructField_shorter _next
  have trims : (c :: rest).length ≤ body.length := _trimmed ▸ length_trim_le body
  exact ((next_body_le after).trans_lt shorter).trans_le trims

theorem parseStructFields_eq
    (assign : List Char → List Char → List Value → Except Status (List Value))
    (body : List Char) (values : List Value) :
    parseStructFields assign body values =
      match trimAsciiSpace body with
      | [] => .ok values
      | c :: rest =>
        parseNextStructField (c :: rest) >>= fun (key, raw, after) =>
          assign key raw values >>= parseStructFields assign (skipComma (trimAsciiSpace after)) := by
  rw [parseStructFields.eq_def]
  split
  next empty => rw [empty]
  next c rest trimmed =>
    rw [trimmed]
    dsimp only
    split
    next e failed => rw [failed]; rfl
    next key raw after next =>
      rw [next]
      cases assigned : assign key raw values with
      | error | ok => simp only [bind, Except.bind, assigned]

/-- `ParseDuckDBStructVarchar` for a struct of the given number of fields. -/
def parseStructText
    (assign : List Char → List Char → List Value → Except Status (List Value)) (size : Nat)
    (text : List Char) : Except Status Value :=
  let body := trimAsciiSpace text
  if isNullToken body then .ok .null
  else if body.length < 2 || body.head? ≠ some '\x7b' || body.getLast? ≠ some '\x7d' then
    .error ⟨.invalidArgument, "ParseDuckDBStructVarchar: expected `\x7b...\x7d` got `" ++
      String.ofList body ++ "`"⟩
  else (parseStructFields assign (trimAsciiSpace (body.drop 1).dropLast)
    (List.replicate size .null)).map .struct

/-- The cases of `ParseStructFieldLiteral`; `nested` reads a struct. -/
def fieldLiteral (nested : List Char → Except Status Value) (type : ColumnType) (raw : List Char) :
    Except Status Value :=
  let trimmed := trimAsciiSpace raw
  let asString : Value := .string (String.ofList trimmed)
  if isNullToken trimmed then .ok .null
  else
    match type with
    | .bool =>
      if trimmed = "true".toList || trimmed = "TRUE".toList then .ok (.bool true)
      else if trimmed = "false".toList || trimmed = "FALSE".toList then .ok (.bool false)
      else .ok asString
    | .int64 => .ok (((strtoll trimmed).map .int64).getD asString)
    | .float64 => .ok (((strtod trimmed).map .float64).getD asString)
    | .struct => nested trimmed
    | _ => .ok asString

mutual

/-- The mode of the field is not looked at. -/
def parseStructFieldLiteral : Column → List Char → Except Status Value
  | .mk _ type _ fields, raw =>
    fieldLiteral strtod (parseStructText (assignStructFieldValue fields) fields.length) type raw

/-- The slot of the first field of the name gets the value; other names are passed over. -/
def assignStructFieldValue : List Column → List Char → List Char → List Value →
    Except Status (List Value)
  | field :: fields, key, raw, slot :: slots =>
    if field.name.toList = key then (parseStructFieldLiteral field raw).map (· :: slots)
    else (assignStructFieldValue fields key raw slots).map (slot :: ·)
  | _, _, _, slots => .ok slots

end

def parseDuckDBStructVarchar (text : List Char) (column : Column) : Except Status Value :=
  parseStructText (assignStructFieldValue strtod column.fields) column.fields.length text

/-- `duckdb_value_varchar`, empty for NULL. -/
def Cell.text : Cell → List Char
  | .varchar text => text
  | .null | .typed _ => []

def decodeError (kind name message : String) : Status :=
  ⟨.internal, "ReadCell: failed to decode " ++ kind ++ " column `" ++ name ++ "`: " ++ message⟩

variable (column : Column) (cell : Cell)

def readRepeatedCell : Except Status Value :=
  match parseDuckDBListVarchar strtod cell.text column.type with
  | .ok value => .ok value
  | .error e => .error (decodeError "REPEATED" column.name e.message)

def readStructCell : Except Status Value :=
  if cell.text.isEmpty then .ok .null
  else
    match parseDuckDBStructVarchar strtod cell.text column with
    | .ok value => .ok value
    | .error e => .error (decodeError "STRUCT" column.name e.message)

def readVarcharCell : Value := .string (String.ofList cell.text)

/-- The C API's accessors answer a zero of their type for a value of another. -/
def readScalarCell : Value :=
  match column.type, cell with
  | .bool, .typed (.bool value) => .bool value
  | .bool, _ => .bool false
  | .int64, .typed (.int64 value) => .int64 value
  | .int64, _ => .int64 0
  | .float64, .typed (.float64 bits) => .float64 bits
  | .float64, _ => .float64 0
  | .bytes, .typed (.bytes value) => .bytes value
  | .bytes, _ => .bytes []
  | _, _ => readVarcharCell cell

def readCell : Except Status Value :=
  if column.mode = .repeated then readRepeatedCell strtod column cell
  else
    match cell with
    | .null => .ok .null
    | cell =>
      if column.type = .struct then readStructCell strtod column cell
      else if column.type = .array then .ok (readVarcharCell cell)
      else .ok (readScalarCell column cell)

def readRow (cast : VarcharCast) (columns : List Column) (row : Row) : Except Status Row :=
  ((columns.zip row.cells).mapM fun (column, value) =>
    readCell strtod column (selectedCell cast column value)).map Row.mk

def readRows (cast : VarcharCast) (columns : List Column) (rows : List Row) :
    Except Status (List Row) :=
  rows.mapM (readRow strtod cast columns)
end
end BigQueryEmulator.Storage
