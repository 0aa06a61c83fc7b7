import BigQueryEmulator.Gateway.SchemaUpdate

/-! The way of a query result from the engine (`backend/schema/googlesql_to_bq.cc`) to its REST
form (`bqtypes/wire.go`). -/
namespace BigQueryEmulator.Gateway
open Storage (Status Value Row ColumnType TableId)

/-- The types of single values. A RANGE is held as a text. -/
inductive ScalarType where
  | bool | int64 | float64 | string | bytes | date | time | datetime | timestamp | numeric
  | bignumeric | json | geography
  | range (element : ScalarType)
deriving DecidableEq

namespace ScalarType

/-- `BqScalarName`. -/
def name : ScalarType → String
  | bool => "BOOL"
  | int64 => "INT64"
  | float64 => "FLOAT64"
  | string => "STRING"
  | bytes => "BYTES"
  | date => "DATE"
  | time => "TIME"
  | datetime => "DATETIME"
  | timestamp => "TIMESTAMP"
  | numeric => "NUMERIC"
  | bignumeric => "BIGNUMERIC"
  | json => "JSON"
  | geography => "GEOGRAPHY"
  | range _ => "RANGE"

def fields : ScalarType → List Field
  | range element => [.mk "range_element_type" element.name "" "" element.fields]
  | _ => []

end ScalarType

/-- A column of a result, or a field of a STRUCT; there are no arrays of arrays. -/
inductive ResultColumn where
  | scalar (name : String) (repeated : Bool) (type : ScalarType)
  | struct (name : String) (repeated : Bool) (fields : List ResultColumn)

namespace ResultColumn

def repeated : ResultColumn → Bool
  | scalar _ repeated _ | struct _ repeated _ => repeated

end ResultColumn

def resultMode (repeated : Bool) : String := if repeated then "REPEATED" else ""

mutual

def typeToFieldSchema : ResultColumn → Field
  | .scalar name repeated type => .mk name type.name (resultMode repeated) "" type.fields
  | .struct name repeated fields =>
    .mk name "STRUCT" (resultMode repeated) "" (outputColumnListToTableSchema fields)

def outputColumnListToTableSchema : List ResultColumn → List Field
  | [] => []
  | column :: rest => typeToFieldSchema column :: outputColumnListToTableSchema rest

end

mutual

/-- `bqtypes.ValueToCell`. -/
def restOfCell : Cell → RestCell
  | .null => .null
  | .string value => .string value
  | .array elements => .list (restOfCells elements)
  | .struct fields => .row (restOfCells fields)

def restOfCells : List Cell → List RestCell
  | [] => []
  | cell :: rest => restOfCell cell :: restOfCells rest

end

variable (text : List Char)

def isDecimalIntString : Bool :=
  !text.isEmpty && text.all fun c => c.isDigit

/-- `strings.Replace` of the first occurrence. -/
def replaceFirst (old new : String) : List Char :=
  match Text.cutAt old.toList text with
  | (_, none) => text
  | (before, some rest) => before ++ new.toList ++ rest.drop old.length

def timestampLayouts : List String :=
  ["2006-01-02 15:04:05.999999-07", "2006-01-02 15:04:05-07", "2006-01-02 15:04:05.999999",
    "2006-01-02 15:04:05"]

/-- `parseTimestampWireString`, the time by `Unix` and `Nanosecond`. -/
def parseWireTime (go : Go) : Option (Int × Nat) :=
  let spaced := replaceFirst (trimSpace text) "T" " "
  let short := replaceFirst (replaceFirst spaced "+00:00" "+00") "Z" "+00"
  timestampLayouts.findSome? fun layout => go.parse layout short

def timestampStringToMicros (go : Go) (text : String) : Option String :=
  let trimmed := trimSpace text.toList
  if trimmed.isEmpty then none
  else if isDecimalIntString trimmed then some (String.ofList trimmed)
  else (parseWireTime trimmed go).map fun (unix, nanosecond) =>
    toString (unix * 1000000 + (nanosecond / 1000 : Nat))

def encodeTimestamp (go : Go) (text : String) : RestCell :=
  if (trimSpace text.toList).isEmpty then .null
  else .string ((timestampStringToMicros go text).getD text)

def isArrayType (type : String) : Bool := hasPrefix type.toList "ARRAY<"

def arrayElementFieldSchema (field : Field) : Field :=
  .mk "" (String.ofList (trimSuffix (field.type.toList.drop 6) '>')) "" "" []

mutual

/-- `encodeCellForField`, without UseInt64Timestamp. -/
def encodeCellForField (go : Go) : RestCell → Option Field → RestCell
  | .null, _ => .null
  | .string text, some field =>
    if isArrayType field.type then .string text
    else if field.type = "TIMESTAMP" then encodeTimestamp go text
    else .string text
  | .list elements, some field =>
    if isArrayType field.type then .list (encodeElements go elements (arrayElementFieldSchema field))
    else .list elements
  | .row cells, some field =>
    if isArrayType field.type then .row cells
    else if field.type = "STRUCT" ∨ field.type = "RECORD" then
      .row (encodeFields go cells field.fields)
    else .row cells
  | cell, none => cell

def encodeElements (go : Go) : List RestCell → Field → List RestCell
  | [], _ => []
  | element :: rest, field =>
    encodeCellForField go element (some field) :: encodeElements go rest field

def encodeFields (go : Go) : List RestCell → List Field → List RestCell
  | [], _ => []
  | cell :: rest, [] => encodeCellForField go cell none :: encodeFields go rest []
  | cell :: rest, field :: fields =>
    encodeCellForField go cell (some field) :: encodeFields go rest fields

end

def cellsToRowForSchema (go : Go) (cells : List Cell) (schema : List Field) : List RestCell :=
  encodeFields go (restOfCells cells) schema

def atoi : Option Int :=
  let (negative, digits) := match text with
    | '-' :: digits => (true, digits)
    | '+' :: digits => (false, digits)
    | digits => (false, digits)
  if isDecimalIntString digits then
    let value := digits.foldl (fun value c => value * 10 + (c.toNat - '0'.toNat)) 0
    let signed : Int := if negative then -value else value
    if -2 ^ 63 ≤ signed ∧ signed < 2 ^ 63 then some signed else none
  else none

end BigQueryEmulator.Gateway
