import BigQueryEmulator.Fallible

/-! The engine-agnostic data model of the row store: identifiers, cells, rows and
schemas (`backend/storage/storage.h`, `backend/schema/schema.h`), and the
status vocabulary shared by the storage layer and the gRPC handlers. -/
namespace BigQueryEmulator.Storage

structure TableId where
  projectId : String
  datasetId : String
  tableId : String
deriving DecidableEq, Repr

/-- The nonzero `absl::StatusCode` values, which gRPC numbers the same way. -/
inductive StatusCode where
  | cancelled | unknown | invalidArgument | deadlineExceeded | notFound | alreadyExists
  | permissionDenied | resourceExhausted | failedPrecondition | aborted | outOfRange
  | unimplemented | internal | unavailable | dataLoss | unauthenticated
deriving DecidableEq, Repr

structure Status where
  code : StatusCode
  message : String
deriving DecidableEq, Repr

/-- One cell. A FLOAT64 is carried as its IEEE bit pattern. -/
inductive Value where
  | null
  | bool (value : Bool)
  | int64 (value : Int)
  | float64 (bits : UInt64)
  | string (value : String)
  | bytes (value : List UInt8)
  | array (elements : List Value)
  | struct (fields : List Value)
deriving Repr

structure Row where
  cells : List Value
deriving Repr

inductive ColumnType where
  | unknown | int64 | float64 | bool | string | bytes | date | time | datetime | timestamp
  | numeric | bignumeric | json | geography | array | struct
deriving DecidableEq, Repr

inductive ColumnMode where
  | nullable | required | repeated
deriving DecidableEq, Repr

/-- A top-level column. `measure` records that `ParseMeasureColumnSpec` recognizes
the column, so that no parquet column is written for it. -/
structure ColumnSchema where
  name : String
  type : ColumnType := .unknown
  mode : ColumnMode := .nullable
  measure : Bool := false
deriving DecidableEq, Repr

structure TableSchema where
  columns : List ColumnSchema
deriving DecidableEq, Repr

/-- `ParquetStorageSchema`, which strips the measure columns. -/
def parquetStorageSchema (logical : TableSchema) : TableSchema :=
  ⟨logical.columns.filter (fun column => !column.measure)⟩

theorem bind_ok {α β : Type} {x : Except Status α} {f : α → Except Status β} {b : β}
    (ok : (x >>= f) = .ok b) : ∃ a, x = .ok a ∧ f a = .ok b :=
  Fallible.bind_ok_iff.mp ok

end BigQueryEmulator.Storage
