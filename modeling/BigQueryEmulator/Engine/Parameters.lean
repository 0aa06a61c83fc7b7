import BigQueryEmulator.Storage.Values
import BigQueryEmulator.Text.Replace

/-! Query parameters of the DuckDB route. The transpiler writes a placeholder `$k` for each
parameter; the executors put the parameters' literals into the text
(`duckdb_executor_literals.cc`, and a copy in `control_op_literals.cc`). Texts are lists of
characters. -/
namespace BigQueryEmulator.Engine
open Storage Text

structure QueryParameter where
  name : String := ""
  typeKind : String := ""
  valueJson : String := ""
  typeJson : String := ""
deriving DecidableEq

/-- `Transpiler::ParameterRef`: a named parameter, or the position of an unnamed one. -/
structure ParameterRef where
  name : String := ""
  position : Nat := 0
deriving DecidableEq

/-- What `ParseParameterValue` makes of a parameter. Dates, decimals and the like are given
by the text they have in storage. -/
inductive ParameterValue where
  | null
  | bool (value : Bool)
  | int64 (value : Int)
  | double (bits : UInt64)
  | string (value : String)
  | json (text : String)
  | geography (text : String)
  | bytes (value : List UInt8)
  | date (text : String)
  | timestamp (text : String)
  | numeric (text : String)
  | bignumeric (text : String)
  /-- TIME, DATETIME, INTERVAL, RANGE and UUID. -/
  | other (text : String)
  | array (elements : List Value)
  | struct (fields : List Value)
  | unsupported (type : String)

/-- How a finite double is printed: `%.17g`, and `absl::StrCat`. Neither prints an empty text
or a `$`. -/
structure NumberFormats where
  precise : UInt64 → String
  short : UInt64 → String
  precise_number : ∀ bits, (precise bits).toList ≠ [] ∧ '$' ∉ (precise bits).toList
  short_number : ∀ bits, (short bits).toList ≠ [] ∧ '$' ∉ (short bits).toList

def escapeStringLiteralInner (s : List Char) : List Char := replaceAll ['\''] ['\'', '\''] s

def quotedLiteral (front : String) (s : String) (back : String) : List Char :=
  front.toList ++ '\'' :: (escapeStringLiteralInner s.toList ++ '\'' :: back.toList)

def hexDigit (n : Nat) : Char := "0123456789abcdef".toList.getD n '0'

def renderBlobLiteral (bytes : List UInt8) : List Char :=
  "X'".toList ++ bytes.flatMap (fun b => [hexDigit (b.toNat / 16), hexDigit (b.toNat % 16)]) ++ ['\'']

def isNaN (bits : UInt64) : Bool := bits.toNat / 2 ^ 52 % 2 ^ 11 = 2047 && bits.toNat % 2 ^ 52 ≠ 0

def isInf (bits : UInt64) : Bool := bits.toNat / 2 ^ 52 % 2 ^ 11 = 2047 && bits.toNat % 2 ^ 52 = 0

def renderFloatLiteral (format : UInt64 → String) (bits : UInt64) : List Char :=
  if isNaN bits then "'NaN'::DOUBLE".toList
  else if isInf bits then
    if bits.toNat < 2 ^ 63 then "'Infinity'::DOUBLE".toList else "'-Infinity'::DOUBLE".toList
  else (format bits).toList

def stringValue : Value → String
  | .string s => s
  | .bytes bytes => String.ofList (bytes.map fun b => Char.ofNat b.toNat)
  | _ => ""

/-- `RenderCellLiteral` of an element, whose column is always taken for a STRING. -/
def renderElementLiteral : Value → List Char
  | .null => "NULL".toList
  | cell => quotedLiteral "" (stringValue cell) ""

def renderListLiteral (elements : List Value) : List Char :=
  '[' :: (", ".toList.intercalate (elements.map renderElementLiteral) ++ [']'])

def unsupportedValue (type : String) : Status :=
  ⟨.invalidArgument, "semantic: unsupported type for storage::Value lowering: " ++ type⟩

namespace DuckDbExecutor

def renderSemanticParameterLiteral (formats : NumberFormats) :
    ParameterValue → Except Status (List Char)
  | .null => .ok "NULL".toList
  | .bool value => .ok (if value then "TRUE" else "FALSE").toList
  | .int64 value => .ok (toString value).toList
  | .double bits => .ok (renderFloatLiteral formats.precise bits)
  | .string s | .json s | .geography s | .other s => .ok (quotedLiteral "" s "")
  | .bytes value => .ok (renderBlobLiteral value)
  | .date s => .ok (quotedLiteral "DATE " s "")
  | .timestamp s => .ok (quotedLiteral "TIMESTAMPTZ " s "")
  | .numeric s => .ok (quotedLiteral "CAST(" s " AS DECIMAL(38, 9))")
  | .bignumeric s => .ok (quotedLiteral "CAST(" s " AS VARCHAR)")
  | .array elements => .ok (renderListLiteral elements)
  | .struct _ => .ok (quotedLiteral "" "" "")
  | .unsupported type => .error (unsupportedValue type)

end DuckDbExecutor

namespace ControlOpExecutor

def renderSemanticParameterLiteral (formats : NumberFormats) :
    ParameterValue → Except Status (List Char)
  | .null => .ok "NULL".toList
  | .bool value => .ok (if value then "TRUE" else "FALSE").toList
  | .int64 value => .ok (toString value).toList
  | .double bits => .ok (renderFloatLiteral formats.short bits)
  | .string s | .json s | .geography s | .other s => .ok (quotedLiteral "" s "")
  | .bytes value => .ok (renderBlobLiteral value)
  | .date s => .ok (quotedLiteral "DATE " s "")
  | .timestamp s => .ok (quotedLiteral "TIMESTAMPTZ " s "")
  | .numeric s => .ok (quotedLiteral "CAST(" s " AS DECIMAL(38, 9))")
  | .bignumeric s => .ok (quotedLiteral "CAST(" s " AS DECIMAL(38, 38))")
  -- an array or a struct is taken for a STRING cell, and has no string value
  | .array _ | .struct _ => .ok (quotedLiteral "" "" "")
  | .unsupported type => .error (unsupportedValue type)

end ControlOpExecutor

section

def equalsIgnoreCase (a b : String) : Bool :=
  a.toList.map Char.toLower == b.toList.map Char.toLower

def lookupParameterForRef (ref : ParameterRef) (parameters : List QueryParameter) :
    Option QueryParameter :=
  if ref.name.isEmpty then
    if ref.position = 0 then none
    else (parameters.filter fun p => p.name.isEmpty)[ref.position - 1]?
  else parameters.find? fun p => equalsIgnoreCase p.name ref.name

def renderLiterals (missing : Nat → Status)
    (literalOf : QueryParameter → Except Status (List Char)) (parameters : List QueryParameter) :
    Nat → List ParameterRef → Except Status (List (List Char))
  | _, [] => .ok []
  | i, ref :: order =>
    match lookupParameterForRef ref parameters with
    | none => .error (missing (i + 1))
    | some parameter => do
      let literal ← literalOf parameter
      let others ← renderLiterals missing literalOf parameters (i + 1) order
      return literal :: others

def placeholder (slot : Nat) : List Char := '$' :: (toString slot).toList

def substituteSlots (literals : List (List Char)) : Nat → List Char → List Char
  | 0, sql => sql
  | slot + 1, sql =>
    substituteSlots literals slot (replaceAll (placeholder (slot + 1)) (literals.getD slot []) sql)

/-- Both copies, up to the literals and the text of the error. -/
def substituteParameters (missing : Nat → Status)
    (literalOf : QueryParameter → Except Status (List Char)) (sql : List Char)
    (order : List ParameterRef) (parameters : List QueryParameter) : Except Status (List Char) :=
  if order.isEmpty then .ok sql
  else do
    let literals ← renderLiterals missing literalOf parameters 0 order
    return substituteSlots literals order.length sql

variable (formats : NumberFormats)
  (parseParameterValue : QueryParameter → Except Status ParameterValue)

def DuckDbExecutor.missingParameter (slot : Nat) : Status :=
  ⟨.invalidArgument, "DuckDbExecutor: missing query parameter for DuckDB placeholder $" ++
    toString slot⟩

def DuckDbExecutor.renderParameterLiteral (parameter : QueryParameter) :
    Except Status (List Char) := do
  let value ← parseParameterValue parameter
  renderSemanticParameterLiteral formats value

def DuckDbExecutor.substituteDuckdbParameters (sql : List Char) (order : List ParameterRef)
    (parameters : List QueryParameter) : Except Status (List Char) :=
  substituteParameters missingParameter (renderParameterLiteral formats parseParameterValue) sql
    order parameters

def ControlOpExecutor.missingParameter (slot : Nat) : Status :=
  ⟨.invalidArgument, "ControlOpExecutor: missing query parameter for DuckDB placeholder $" ++
    toString slot⟩

def ControlOpExecutor.renderParameterLiteral (parameter : QueryParameter) :
    Except Status (List Char) := do
  let value ← parseParameterValue parameter
  renderSemanticParameterLiteral formats value

def ControlOpExecutor.substituteDuckdbParameters (sql : List Char) (order : List ParameterRef)
    (parameters : List QueryParameter) : Except Status (List Char) :=
  substituteParameters missingParameter (renderParameterLiteral formats parseParameterValue) sql
    order parameters

end

/-- The inside of a string literal or quoted identifier: its mark stands twice. -/
inductive Doubled (mark : Char) : List Char → Prop where
  | nil : Doubled mark []
  | plain {c : Char} {rest : List Char} (other : c ≠ mark) (inner : Doubled mark rest) :
      Doubled mark (c :: rest)
  | pair {rest : List Char} (inner : Doubled mark rest) : Doubled mark (mark :: mark :: rest)

/-- The tokens of emitted SQL: string literals and quoted identifiers, placeholders, and the
text between them. -/
inductive SqlToken where
  | text (chars : List Char)
  | quoted (mark : Char) (content : List Char)
  | placeholder (slot : Nat)

namespace SqlToken

def chars : SqlToken → List Char
  | text chars => chars
  | quoted mark content => mark :: (content ++ [mark])
  | placeholder slot => Engine.placeholder slot

def substituted (literals : List (List Char)) : SqlToken → List Char
  | placeholder slot => literals.getD (slot - 1) []
  | token => token.chars

def Valid (slots : Nat) : SqlToken → Prop
  | text chars => '$' ∉ chars ∧ '\'' ∉ chars ∧ '"' ∉ chars
  | quoted mark content => (mark = '\'' ∨ mark = '"') ∧ Doubled mark content
  | placeholder slot => 1 ≤ slot ∧ slot ≤ slots

end SqlToken

/-- The first character after a placeholder ends its number. -/
def EndsNumber (rest : List Char) : Prop := ∀ c ∈ rest.head?, c.isDigit = false ∧ c ≠ '$'

def Separated : List SqlToken → Prop
  | [] => True
  | .placeholder _ :: rest => EndsNumber (rest.flatMap SqlToken.chars) ∧ Separated rest
  | _ :: rest => Separated rest

/-- A text that the transpiler emits with the given number of slots: outside its literals and
quoted identifiers a `$` stands only in a placeholder. -/
structure EmittedSql (slots : Nat) where
  tokens : List SqlToken
  valid : ∀ token ∈ tokens, token.Valid slots
  separated : Separated tokens

namespace EmittedSql
variable {slots : Nat} (sql : EmittedSql slots)

def text : List Char := sql.tokens.flatMap SqlToken.chars

def substituted (literals : List (List Char)) : List Char :=
  sql.tokens.flatMap (SqlToken.substituted literals)

end EmittedSql
end BigQueryEmulator.Engine
