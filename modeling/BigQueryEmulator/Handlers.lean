import BigQueryEmulator.Storage.Values

/-! What the gRPC handlers share (`frontend/handlers/handler_common.cc`): status
translation, cells on the wire, and the resource path of a table. -/
namespace BigQueryEmulator
open Storage

/-- `AbslToGrpcStatus` on a non-OK status: codes without a case of their own
become INTERNAL, and the message is kept. -/
def abslToGrpcStatus (status : Status) : Status :=
  match status.code with
  | .notFound | .alreadyExists | .invalidArgument | .failedPrecondition | .unimplemented => status
  | _ => { status with code := .internal }

inductive Cell where
  | notSet
  | nullValue
  | stringValue (value : String)
  | array (elements : List Cell)
  | structValue (fields : List Cell)

mutual
def cellToValue : Cell → Value
  | .stringValue value => .string value
  | .nullValue | .notSet => .null
  | .array elements => .array (cellsToValues elements)
  | .structValue fields => .struct (cellsToValues fields)

def cellsToValues : List Cell → List Value
  | [] => []
  | cell :: rest => cellToValue cell :: cellsToValues rest
end

/-- What `absl::StrCat` prints for a double and how stored bytes read as text. -/
structure Rendering where
  float64 : UInt64 → String
  bytes : List UInt8 → String

mutual
def valueToCell (text : Rendering) : Value → Cell
  | .null => .nullValue
  | .bool value => .stringValue (if value then "true" else "false")
  | .int64 value => .stringValue (toString value)
  | .float64 bits => .stringValue (text.float64 bits)
  | .string value => .stringValue value
  | .bytes value => .stringValue (text.bytes value)
  | .array elements => .array (valuesToCells text elements)
  | .struct fields => .structValue (valuesToCells text fields)

def valuesToCells (text : Rendering) : List Value → List Cell
  | [] => []
  | value :: rest => valueToCell text value :: valuesToCells text rest
end

def splitTablePath (path : String) : Option TableId :=
  match (path.toList.splitOn '/').map String.ofList with
  | ["projects", project, "datasets", dataset, "tables", table] =>
    if project.isEmpty || dataset.isEmpty || table.isEmpty then none
    else some ⟨project, dataset, table⟩
  | _ => none

end BigQueryEmulator
