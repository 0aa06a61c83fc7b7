import BigQueryEmulator.Dml.Rows
import BigQueryEmulator.Effects
import BigQueryEmulator.Gateway.ScriptText
import BigQueryEmulator.Semantic.Timestamps

/-! What the gateway and the engine send each other (`emulator.proto`): schemas and rows of cells,
and how the gateway makes cells out of Go values (`seed/applier.go`); then the engine's catalog
service as the gateway calls it (`frontend/handlers/catalog.cc`), over tables in DuckDB
(`duckdb_storage_literals.cc`, `duckdb_storage_rows.cc`, `duckdb_storage_catalog.cc`). A call may
fail at any time, and a call that fails changes nothing. -/
namespace BigQueryEmulator.Gateway
open Storage (Status Value Row ColumnType ColumnMode TableId)
open Dml (equalsIgnoreCase)
open Effects Text

/-- `FieldSchema`, and `bqtypes.TableFieldSchema` as far as `SchemaToProto` keeps it. -/
inductive Field where
  | mk (name type mode description : String) (fields : List Field)

namespace Field

def name : Field → String
  | .mk name _ _ _ _ => name

def type : Field → String
  | .mk _ type _ _ _ => type

def mode : Field → String
  | .mk _ _ mode _ _ => mode

def description : Field → String
  | .mk _ _ _ description _ => description

def fields : Field → List Field
  | .mk _ _ _ _ fields => fields

def withMode (mode : String) : Field → Field
  | .mk name type _ description fields => .mk name type mode description fields

def withDescription (description : String) : Field → Field
  | .mk name type mode _ fields => .mk name type mode description fields

end Field

/-- The type names that the engine knows, the first one of each type being its own. -/
def typeNames : List (String × ColumnType) :=
  [("INT64", .int64), ("INTEGER", .int64), ("FLOAT64", .float64), ("FLOAT", .float64),
    ("BOOL", .bool), ("BOOLEAN", .bool), ("STRING", .string), ("BYTES", .bytes), ("DATE", .date),
    ("TIME", .time), ("DATETIME", .datetime), ("TIMESTAMP", .timestamp), ("NUMERIC", .numeric),
    ("BIGNUMERIC", .bignumeric), ("BIGDECIMAL", .bignumeric), ("JSON", .json),
    ("GEOGRAPHY", .geography), ("ARRAY", .array), ("STRUCT", .struct), ("RECORD", .struct)]

def parseColumnType (name : String) : ColumnType :=
  ((typeNames.find? fun entry => equalsIgnoreCase name entry.1).map Prod.snd).getD .unknown

def columnTypeName : ColumnType → String
  | .int64 => "INT64"
  | .float64 => "FLOAT64"
  | .bool => "BOOL"
  | .string => "STRING"
  | .bytes => "BYTES"
  | .date => "DATE"
  | .time => "TIME"
  | .datetime => "DATETIME"
  | .timestamp => "TIMESTAMP"
  | .numeric => "NUMERIC"
  | .bignumeric => "BIGNUMERIC"
  | .json => "JSON"
  | .geography => "GEOGRAPHY"
  | .array => "ARRAY"
  | .struct => "STRUCT"
  | .unknown => ""

def parseColumnMode (name : String) : ColumnMode :=
  if equalsIgnoreCase name "REQUIRED" then .required
  else if equalsIgnoreCase name "REPEATED" then .repeated
  else .nullable

def columnModeName : ColumnMode → String
  | .nullable => "NULLABLE"
  | .required => "REQUIRED"
  | .repeated => "REPEATED"

/-- The name of the type after `ColumnSchemaFromProto` and `ColumnSchemaToProto`; a type that the
engine does not know keeps its name. -/
def canonicalType (type : String) : String :=
  match parseColumnType type with
  | .unknown => type
  | known => columnTypeName known

def canonicalMode (mode : String) : String := columnModeName (parseColumnMode mode)

mutual

/-- A column in the form in which the engine describes it. -/
def Field.canonical : Field → Field
  | .mk name type mode description fields =>
    .mk name (canonicalType type) (canonicalMode mode) description (canonicalFields fields)

def canonicalFields : List Field → List Field
  | [] => []
  | field :: rest => field.canonical :: canonicalFields rest

end

mutual

/-- `ColumnSchemaFromProto`: every column has a name. -/
def columnSchemaFromProto : Field → Except Status Field
  | .mk name type mode description fields =>
    if name.isEmpty then
      .error ⟨.invalidArgument, "FieldSchema is missing the required `name` field"⟩
    else
      match columnSchemasFromProto fields with
      | .ok columns => .ok (.mk name (canonicalType type) (canonicalMode mode) description columns)
      | .error status => .error ⟨status.code, name ++ "." ++ status.message⟩

def columnSchemasFromProto : List Field → Except Status (List Field)
  | [] => .ok []
  | field :: rest => do
    let column ← columnSchemaFromProto field
    let columns ← columnSchemasFromProto rest
    return column :: columns

end

inductive Cell where
  | null
  | string (value : String)
  | array (elements : List Cell)
  | struct (fields : List Cell)

/-- A Go value of type `any`. The entries of a map are in the order in which a loop meets them. -/
inductive GoValue where
  | nil
  | bool (value : Bool)
  | number (text : String)
  | int64 (value : Int)
  | float64 (bits : UInt64)
  | string (value : String)
  | bytes (value : List UInt8)
  | list (elements : List GoValue)
  | map (entries : List (String × GoValue))
  | other (printed : String)

abbrev GoRow := List (String × GoValue)

/-- A cell of a query result in REST form: a text, the elements of an array, or a nested row. -/
inductive RestCell where
  | null
  | string (value : String)
  | list (elements : List RestCell)
  | row (cells : List RestCell)

/-- Go's own conversions. `printed` is `%v`; `parse` is `time.Parse` with a layout, as `Unix` and
`Nanosecond` of the time. -/
structure Go where
  float : UInt64 → String
  base64 : List UInt8 → String
  printed : RestCell → String
  parse : String → List Char → Option (Int × Nat)

mutual

/-- `seed.ValueToCell`. -/
def goValueToCell (go : Go) : GoValue → Cell
  | .nil => .null
  | .bool value => .string (if value then "true" else "false")
  | .number text => .string text
  | .int64 value => .string (toString value)
  | .float64 bits => .string (go.float bits)
  | .string value => .string value
  | .bytes value => .string (go.base64 value)
  | .list elements => .array (goValuesToCells go elements)
  | .map entries => .struct (goEntriesToCells go entries)
  | .other printed => .string printed

def goValuesToCells (go : Go) : List GoValue → List Cell
  | [] => []
  | value :: rest => goValueToCell go value :: goValuesToCells go rest

def goEntriesToCells (go : Go) : List (String × GoValue) → List Cell
  | [] => []
  | (_, value) :: rest => goValueToCell go value :: goEntriesToCells go rest

end

def isRepeatedFieldMode (mode : String) : Bool := isWord mode "REPEATED"

def isStructFieldType (type : String) : Bool := isWord type "STRUCT" || isWord type "RECORD"

/-- The elements of a repeated field are made one by one. -/
def repeatedCell (go : Go) (field : Field) (plain : GoValue → Cell) (value : GoValue) : Cell :=
  if isRepeatedFieldMode field.mode then
    match value with
    | .list elements => .array (elements.map plain)
    | other => goValueToCell go other
  else plain value

mutual

/-- `cellFromJSONForField` for a field that is not repeated. -/
def plainCell (go : Go) : Field → GoValue → Cell
  | .mk _ type _ _ fields, .map entries =>
    if isStructFieldType type then .struct (fieldCells go fields entries)
    else goValueToCell go (.map entries)
  | _, value => goValueToCell go value

/-- The cells of the fields by their names; what is missing is NULL. -/
def fieldCells (go : Go) : List Field → GoRow → List Cell
  | [], _ => []
  | field :: rest, row =>
    (match row.lookup field.name with
      | none => .null
      | some value => repeatedCell go field (fun element => plainCell go field element) value) ::
      fieldCells go rest row

end

def rowToProto (go : Go) (schema : List Field) (row : GoRow) : List Cell := fieldCells go schema row

/-- What DuckDB, GoogleSQL, absl and protobuf do. -/
structure DuckDb where
  /-- `absl::StrCat` of a double -/
  doubleText : UInt64 → String
  /-- bytes as the text of a protobuf `string`, if they are UTF-8 -/
  text : List UInt8 → Option String
  /-- the bytes of a text -/
  bytes : String → List UInt8
  /-- what a literal stores in a column of the type, as `ScanRows` reads it -/
  cast : ColumnType → String → Except Status Value
  /-- what a text in braces stores in a STRUCT column of the fields -/
  structText : List Field → String → Except Status Value
  /-- the calendar date of a packed date, in digits -/
  packedDate : String → Option String
  /-- the civil time of absl -/
  time : Semantic.TimeLibrary
  /-- whether a table of the columns can be made -/
  creates : List Field → Except Status Unit

namespace DuckDb
variable (db : DuckDb)

def boolValue : Value → Bool
  | .bool value => value
  | _ => false

def int64Value : Value → Int
  | .int64 value => value
  | _ => 0

def float64Value : Value → UInt64
  | .float64 bits => bits
  | _ => 0

def stringValue : Value → String
  | .string value => value
  | .bytes value => (db.text value).getD ""
  | _ => ""

def bytesValue : Value → List UInt8
  | .string value => db.bytes value
  | .bytes value => value
  | _ => []

def digitsOr (convert : String → Option String) (text : String) : String :=
  if text.isEmpty || text.toList.any fun c => !c.isDigit then text else (convert text).getD text

/-- `RenderScalarLiteral`, for a column that is no STRUCT. -/
def storeScalar (type : ColumnType) (value : Value) : Except Status Value :=
  match type, value with
  | .bool, .string text => db.cast .bool text
  | .bool, value => .ok (.bool (boolValue value))
  | .int64, .string text => db.cast .int64 text
  | .int64, value => .ok (.int64 (int64Value value))
  | .float64, .string text => db.cast .float64 text
  | .float64, value => .ok (.float64 (float64Value value))
  | .bytes, value => .ok (.bytes (db.bytesValue value))
  | .date, value => db.cast .date (digitsOr db.packedDate (db.stringValue value))
  | .timestamp, .int64 n =>
    db.cast .timestamp (String.ofList (Semantic.timestampLiteral db.time (.int64 n)))
  | .timestamp, value => db.cast .timestamp
    (String.ofList (Semantic.timestampLiteral db.time (.string (db.stringValue value).toList)))
  | type, value => db.cast type (db.stringValue value)

def isRepeated (field : Field) : Bool := parseColumnMode field.mode = .repeated

def expectsArray (name : String) : Status :=
  ⟨.invalidArgument, "AppendRows: REPEATED column '" ++ name ++ "' expects ARRAY"⟩

def expectsStruct (name : String) : Status :=
  ⟨.invalidArgument, "AppendRows: column '" ++ name ++
    "' expects STRUCT but row provided non-struct cell"⟩

def storeRepeated (field : Field) (plain : Value → Except Status Value) (value : Value) :
    Except Status Value :=
  if isRepeated field then
    match value with
    | .null => .ok .null
    | .array elements => (elements.mapM plain).map .array
    | _ => .error (expectsArray field.name)
  else plain value

mutual

/-- `RenderCellLiteral` for a column or an element of an array. -/
def storePlain : Field → Value → Except Status Value
  | _, .null => .ok .null
  | .mk name type _ _ fields, value =>
    if parseColumnType type = .struct then
      match value with
      | .struct values =>
        if values.length = fields.length then (storeFields fields values).map .struct
        else .error ⟨.invalidArgument, "AppendRows: STRUCT column '" ++ name ++ "' has " ++
          toString fields.length ++ " fields but row provided " ++ toString values.length⟩
      | .string text =>
        if (trim isAsciiSpace text.toList).head? = some '\x7b' then db.structText fields text
        else .error (expectsStruct name)
      | _ => .error (expectsStruct name)
    else db.storeScalar (parseColumnType type) value

def storeFields : List Field → List Value → Except Status (List Value)
  | field :: rest, value :: values => do
    let stored ← storeRepeated field (fun element => storePlain field element) value
    let others ← storeFields rest values
    return stored :: others
  | _, _ => .ok []

end

mutual

/-- `ValueToCell` of the catalog service. -/
def valueToCell : Value → Except Status Cell
  | .null => .ok .null
  | .bool value => .ok (.string (if value then "true" else "false"))
  | .int64 value => .ok (.string (toString value))
  | .float64 bits => .ok (.string (db.doubleText bits))
  | .string value => .ok (.string value)
  | .bytes value =>
    match db.text value with
    | some text => .ok (.string text)
    | none => .error ⟨.internal, "string field contains invalid UTF-8"⟩
  | .array elements => (valuesToCells elements).map .array
  | .struct fields => (valuesToCells fields).map .struct

def valuesToCells : List Value → Except Status (List Cell)
  | [] => .ok []
  | value :: rest => do
    let cell ← valueToCell value
    let cells ← valuesToCells rest
    return cell :: cells

end

end DuckDb

mutual

def cellToValue : Cell → Value
  | .null => .null
  | .string value => .string value
  | .array elements => .array (cellsToValues elements)
  | .struct fields => .struct (cellsToValues fields)

def cellsToValues : List Cell → List Value
  | [] => []
  | cell :: rest => cellToValue cell :: cellsToValues rest

end

section

structure Table where
  fields : List Field
  rows : List Row

structure Store where
  datasets : String → String → Bool
  tables : TableId → Option Table

namespace Store
variable (st : Store)

def put (id : TableId) (table : Option Table) : Store :=
  { st with tables := fun other => if other = id then table else st.tables other }

@[simp] theorem put_same (id : TableId) (table : Option Table) :
    (st.put id table).tables id = table := if_pos rfl

@[simp] theorem put_other {id other : TableId} (table : Option Table)
    (differ : other ≠ id) : (st.put id table).tables other = st.tables other := if_neg differ

end Store

def tableName (id : TableId) : String := id.projectId ++ "." ++ id.datasetId ++ "." ++ id.tableId

def validateTableRef (rpc : String) (id : TableId) : Except Status Unit :=
  if id.projectId.isEmpty then .error ⟨.invalidArgument, rpc ++ ": table.project_id is required"⟩
  else if id.datasetId.isEmpty then
    .error ⟨.invalidArgument, rpc ++ ": table.dataset_id is required"⟩
  else if id.tableId.isEmpty then .error ⟨.invalidArgument, rpc ++ ": table.table_id is required"⟩
  else .ok ()

variable (db : DuckDb)

def serveRegisterDataset (project dataset : String) (st : Store) : Except Status (Unit × Store) :=
  if project.isEmpty then
    .error ⟨.invalidArgument, "RegisterDataset: dataset.project_id is required"⟩
  else if dataset.isEmpty then
    .error ⟨.invalidArgument, "RegisterDataset: dataset.dataset_id is required"⟩
  else if st.datasets project dataset then
    .error ⟨.alreadyExists, "dataset already exists: " ++ project ++ "." ++ dataset⟩
  else
    .ok ((), { st with datasets := fun p d => p = project ∧ d = dataset ∨ st.datasets p d })

def findTable (id : TableId) (st : Store) : Except Status Table :=
  if st.datasets id.projectId id.datasetId then
    match st.tables id with
    | some table => .ok table
    | none => .error ⟨.notFound, "table not found: " ++ tableName id⟩
  else .error ⟨.notFound, "dataset not found: " ++ id.projectId ++ "." ++ id.datasetId⟩

/-- For a table without columns there is nothing to make. -/
def DuckDb.makeParquet (fields : List Field) : Except Status Unit :=
  if fields.isEmpty then .ok () else db.creates fields

def serveRegisterTable (id : TableId) (schema : List Field) (st : Store) :
    Except Status (Unit × Store) := do
  validateTableRef "RegisterTable" id
  let fields ← columnSchemasFromProto schema
  if st.datasets id.projectId id.datasetId then
    if (st.tables id).isSome then
      .error ⟨.alreadyExists, "table already exists: " ++ tableName id⟩
    else
      db.makeParquet fields
      return ((), st.put id (some ⟨fields, []⟩))
  else .error ⟨.notFound, "dataset not found: " ++ id.projectId ++ "." ++ id.datasetId⟩

def serveDropTable (id : TableId) (st : Store) : Except Status (Unit × Store) := do
  validateTableRef "DropTable" id
  let _ ← findTable id st
  return ((), st.put id none)

def serveDescribeTable (id : TableId) (st : Store) : Except Status (List Field × Store) := do
  validateTableRef "DescribeTable" id
  let table ← findTable id st
  return (table.fields, st)

def serveListRows (id : TableId) (start max : Nat) (st : Store) :
    Except Status ((List (List Cell) × Nat) × Store) := do
  validateTableRef "ListRows" id
  let table ← findTable id st
  let rest := table.rows.drop start
  let page := if max = 0 then rest else rest.take max
  let cells ← page.mapM fun row => db.valuesToCells row.cells
  return ((cells, table.rows.length), st)

/-- The columns are physical ones, so that `PhysicalRowFromLogicalSchema` keeps every cell. -/
def serveInsertRows (id : TableId) (rows : List (List Cell)) (st : Store) :
    Except Status (Unit × Store) := do
  validateTableRef "InsertRows" id
  let table ← findTable id st
  let values := rows.map fun cells => (⟨cellsToValues cells⟩ : Row)
  if values.isEmpty then return ((), st)
  else
    Storage.DuckDBStorage.validateRowsShape "AppendRows" id table.fields.length 0 values
    let stored ← values.mapM fun row => (db.storeFields table.fields row.cells).map Row.mk
    return ((), st.put id (some ⟨table.fields, table.rows ++ stored⟩))

end

section
variable {M α : Type}

/-- The tables, the REST metadata that the gateway keeps beside them, and how many calls the
engine has had. -/
structure World (M : Type) where
  store : Store
  metadata : TableId → Option M
  calls : Nat

inductive Call where
  | registerDataset | registerTable | dropTable | describeTable | listRows | insertRows
deriving DecidableEq

/-- `fails` gives the error of a call that fails, by the number of the call. -/
structure Env where
  db : DuckDb
  go : Go
  fails : Nat → Call → Option Status := fun _ _ => none

abbrev Client (M : Type) := Work (World M) Status

def rpc (env : Env) (call : Call) (serve : Store → Except Status (α × Store)) : Client M α := fun w =>
  match env.fails w.calls call with
  | some status => (.error status, { w with calls := w.calls + 1 })
  | none =>
    match serve w.store with
    | .ok (answer, st) => (.ok answer, { w with store := st, calls := w.calls + 1 })
    | .error status => (.error status, { w with calls := w.calls + 1 })

/-- `fmt.Errorf("…: %w", err)`. -/
def wrapped (what : String) (work : Client M α) : Client M α := fun w =>
  match work w with
  | (.ok answer, t) => (.ok answer, t)
  | (.error status, t) => (.error ⟨status.code, what ++ ": " ++ status.message⟩, t)

variable (env : Env)

def registerDataset (project dataset : String) : Client M Unit :=
  rpc env .registerDataset (serveRegisterDataset project dataset)

def registerTable (id : TableId) (schema : List Field) : Client M Unit :=
  rpc env .registerTable (serveRegisterTable env.db id schema)

def dropTable (id : TableId) : Client M Unit := rpc env .dropTable (serveDropTable id)

def describeTable (id : TableId) : Client M (List Field) := rpc env .describeTable (serveDescribeTable id)

def listRows (id : TableId) (start max : Nat) : Client M (List (List Cell) × Nat) :=
  rpc env .listRows (serveListRows env.db id start max)

/-- `catalogApplier.InsertRows`; without rows there is no call. -/
def insertRows (id : TableId) (schema : List Field) (rows : List GoRow) : Client M Nat :=
  if rows.isEmpty then pure 0
  else do
    wrapped ("InsertRows " ++ tableName id ++ " (" ++ toString rows.length ++ " rows)")
      (rpc env .insertRows (serveInsertRows env.db id (rows.map (rowToProto env.go schema))))
    return rows.length

def ensureDataset (project dataset : String) : Client M Unit := do
  match ← (registerDataset env project dataset).attempt with
  | .ok _ => return
  | .error status =>
    if status.code = .alreadyExists then return
    else throw ⟨status.code, "RegisterDataset " ++ project ++ "." ++ dataset ++ ": " ++
      status.message⟩

def tableExists (id : TableId) : Client M Bool := do
  match ← (describeTable env id).attempt with
  | .ok _ => return true
  | .error _ => return false

end

section
variable {M α : Type} {env : Env} {w t : World M} {id : TableId}

theorem rpc_ok_iff :
    Work.outcome (rpc env call serve) w = (.ok answer, t) ↔
      env.fails w.calls call = none ∧ ∃ st, serve w.store = .ok (answer, st) ∧
        t = { w with store := st, calls := w.calls + 1 } := by
  rw [Work.outcome, rpc]
  cases env.fails w.calls call with
  | some status =>
    constructor
    · rintro ⟨⟩
    · rintro ⟨⟨⟩, _⟩
  | none =>
    cases serve w.store with
    | error status =>
      constructor
      · rintro ⟨⟩
      · rintro ⟨-, st, ⟨⟩, _⟩
    | ok served =>
      constructor
      · rintro ⟨⟩
        exact ⟨rfl, served.2, rfl, rfl⟩
      · rintro ⟨-, st, ⟨⟩, rfl⟩
        rfl

theorem wrapped_ok_iff :
    Work.outcome (wrapped what work) w = (.ok answer, t) ↔
      Work.outcome work w = (.ok answer, t) := by
  rw [Work.outcome, Work.outcome, wrapped]
  rcases work w with ⟨answered, u⟩
  cases answered with
  | ok value => rfl
  | error status =>
    constructor <;> rintro ⟨⟩

theorem findTable_ok_iff :
    findTable id st = .ok table ↔
      st.datasets id.projectId id.datasetId = true ∧ st.tables id = some table := by
  rw [findTable]
  split
  next housed =>
    cases st.tables id with
    | none => simp
    | some stored => simp [housed]
  next missing => simp [missing]

end

end BigQueryEmulator.Gateway
