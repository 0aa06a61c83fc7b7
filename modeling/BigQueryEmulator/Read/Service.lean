import BigQueryEmulator.Handlers
import BigQueryEmulator.Storage.ReadStream

/-! The Storage Read service (`storage_read.cc`, `storage_read_streams.cc`,
`storage_read_internal.cc`). A session fixes the row ranges of its streams when it is
created; reading and splitting look the ranges up under `mu_`. -/
namespace BigQueryEmulator.Read
open Storage

structure StreamPartition where
  name : String
  rowStart : Int := 0
  rowEnd : Int := -1
deriving DecidableEq, Repr

structure SessionState where
  table : TableId
  schema : TableSchema
  whereSql : Option String
  selectedFields : List String
  totalRows : Int := 0
  streams : String → Option StreamPartition := fun _ => none
  nextSplitId : Nat := 0

structure StorageReadService where
  nextSessionId : Nat := 1
  sessions : String → Option SessionState := fun _ => none

structure ReadOptions where
  selectedFields : List String := []
  rowRestriction : String := ""

structure CreateReadSessionRequest where
  parent : String
  table : String
  readOptions : Option ReadOptions := none
  maxStreamCount : Int := 0

structure ReadSession where
  name : String
  table : String
  schema : TableSchema
  readOptions : Option ReadOptions
  streams : List String

structure ReadRowsRequest where
  readStream : String
  offset : Int := 0

structure ReadRowsResponse where
  rows : List (List Cell)
  rowCount : Nat

/-- A double on the wire: its value when it is finite, and what `StrCat` prints. -/
structure Double where
  value : Option ℚ
  text : String

structure SplitReadStreamRequest where
  name : String
  fraction : Double

structure SplitReadStreamResponse where
  primaryStream : String
  remainderStream : String
deriving DecidableEq, Repr

/-- The libraries under the service: DuckDB, the analyzer and transpiler of row
restrictions, and `absl`'s formatting and `ParseTime` (in Unix microseconds). -/
structure Engine where
  duckdb : DuckDB
  transpile : DuckDBStorage → TableId → String → Except Status String
  text : Rendering
  parseTime : String → String → Option Int

def kMaxStreamCount : Int := 1000
def kPublicDataProject : String := "bigquery-public-data"
def kReadRowsBatchSize : Nat := 100

/-- `std::map::emplace`: an entry that is already there stays. -/
def emplace {α : Type} (map : String → Option α) (name : String) (entry : α) : String → Option α :=
  if (map name).isSome then map else fun other => if other = name then some entry else map other

def StorageReadService.setSession (svc : StorageReadService) (name : String)
    (session : SessionState) : StorageReadService :=
  { svc with sessions := fun other => if other = name then some session else svc.sessions other }

def parseParent (parent : String) : Except Status String :=
  if parent.isEmpty then
    .error ⟨.invalidArgument, "StorageRead.CreateReadSession: parent is required (expected " ++
      "form projects/\x7bproject_id\x7d)"⟩
  else
    let malformed : Except Status String :=
      .error ⟨.invalidArgument, "StorageRead.CreateReadSession: malformed parent " ++
        "(expected form projects/\x7bproject_id\x7d): " ++ parent⟩
    match (parent.toList.splitOn '/').map String.ofList with
    | ["projects", project] => if project.isEmpty then malformed else .ok project
    | _ => malformed

def parseTablePath (tablePath : String) : Except Status TableId :=
  if tablePath.isEmpty then
    .error ⟨.invalidArgument, "StorageRead.CreateReadSession: read_session.table is required " ++
      "(expected form projects/\x7bproject_id\x7d/datasets/\x7bdataset_id\x7d/tables/" ++
      "\x7btable_id\x7d)"⟩
  else
    match splitTablePath tablePath with
    | some table => .ok table
    | none => .error ⟨.invalidArgument, "StorageRead.CreateReadSession: malformed " ++
        "read_session.table (expected form projects/\x7bproject_id\x7d/datasets/" ++
        "\x7bdataset_id\x7d/tables/\x7btable_id\x7d): " ++ tablePath⟩

def newSessionId (project : String) (id : Nat) : String :=
  "projects/" ++ project ++ "/locations/-/sessions/s" ++ toString id

variable (sessionName : String)

def streamName (key : String) : String := sessionName ++ "/streams/" ++ key

/-- The text before and after the last occurrence of a separator. -/
def breakOnLast (separator : List Char) : List Char → Option (List Char × List Char)
  | [] => none
  | c :: rest =>
    match breakOnLast separator rest with
    | some (before, after) => some (c :: before, after)
    | none =>
      if separator.isPrefixOf (c :: rest) then some ([], (c :: rest).drop separator.length)
      else none

/-- The session's name and the key after the last `/streams/`. -/
def parseReadStreamName (readStream : String) : Except Status (String × String) :=
  if readStream.isEmpty then .error ⟨.invalidArgument, "StorageRead: read_stream is required"⟩
  else
    let malformed : Except Status (String × String) :=
      .error ⟨.invalidArgument, "StorageRead: malformed read_stream (expected " ++
        "\x7bsession_name\x7d/streams/\x7bid\x7d): " ++ readStream⟩
    match breakOnLast "/streams/".toList readStream.toList with
    | none => malformed
    | some (session, key) =>
      if key.isEmpty then malformed else .ok (String.ofList session, String.ofList key)

section
variable (engine : Engine) (storage : DuckDBStorage)

def trim (text : String) : String :=
  let space (c : Char) : Bool := c = ' ' || (9 ≤ c.toNat && c.toNat ≤ 13)
  String.ofList (((text.toList.dropWhile space).reverse.dropWhile space).reverse)

/-- A restriction of blanks only leaves the WHERE body empty. -/
def transpileRowRestriction (restriction : String) (table : TableId) : Except Status String :=
  if (trim restriction).isEmpty then .ok ""
  else engine.transpile storage table (trim restriction)

def parseReadSessionWhereSql (options : Option ReadOptions) (table : TableId) :
    Except Status (Option String) :=
  match options with
  | none => .ok none
  | some options =>
    if options.rowRestriction.isEmpty then .ok none
    else (transpileRowRestriction engine storage options.rowRestriction table).map some

def checkSelectedField (schema : TableSchema) (name : String) : Except Status String :=
  if name.isEmpty then
    .error ⟨.invalidArgument, "StorageRead.CreateReadSession: read_options.selected_fields " ++
      "entries must be non-empty"⟩
  else if schema.columns.any (fun column => column.name == name) then .ok name
  else
    .error ⟨.invalidArgument, "StorageRead.CreateReadSession: read_options.selected_fields " ++
      "names unknown column \x60" ++ name ++
      "\x60 (table has no top-level column with that name)"⟩

def parseReadSessionSelectedFields (options : Option ReadOptions) (schema : TableSchema) :
    Except Status (List String) :=
  match options with
  | none => .ok []
  | some options => options.selectedFields.mapM (checkSelectedField schema)

/-- `ProjectSchemaForResponse`: names without a column are passed over. -/
def projectSchemaForResponse (schema : TableSchema) (names : List String) : TableSchema :=
  ⟨names.filterMap fun name => schema.columns.find? (fun column => column.name == name)⟩

def negotiateStreamCount (requested totalRows : Int) : Int :=
  if requested ≤ 0 then 1
  else if totalRows ≤ 0 then 1
  else min (min requested kMaxStreamCount) totalRows

/-- Two's complement 64-bit arithmetic. -/
def int64 (x : Int) : Int := Int.bmod x (2 ^ 64)

def buildPartitions (streamCount totalRows : Int) : List StreamPartition :=
  (List.range streamCount.toNat).map fun (i : Nat) =>
    { name := streamName sessionName (toString i)
      rowStart := (int64 (totalRows * i)).tdiv streamCount
      rowEnd := (int64 (totalRows * (i + 1))).tdiv streamCount }

structure CountedSession where
  project : String
  table : TableId
  schema : TableSchema
  whereSql : Option String
  selectedFields : List String
  totalRows : Int

/-- CreateReadSession up to and including CountRows. -/
def countSession (request : CreateReadSessionRequest) : Except Status CountedSession := do
  let project ← parseParent request.parent
  let table ← parseTablePath request.table
  if table.projectId ≠ project ∧ table.projectId ≠ kPublicDataProject then
    throw ⟨.invalidArgument, "StorageRead.CreateReadSession: parent project (" ++ project ++
      ") does not match read_session.table project (" ++ table.projectId ++ ")"⟩
  let schema ← (storage.getSchema table).mapError abslToGrpcStatus
  let whereSql ←
    (parseReadSessionWhereSql engine storage request.readOptions table).mapError abslToGrpcStatus
  let selectedFields ←
    (parseReadSessionSelectedFields request.readOptions schema).mapError abslToGrpcStatus
  let totalRows ← (storage.countRows table).mapError abslToGrpcStatus
  return ⟨project, table, schema, whereSql, selectedFields, totalRows⟩

/-- CreateReadSession from `mu_` on: the session is entered and answered. -/
def openSession (svc : StorageReadService) (request : CreateReadSessionRequest)
    (counted : CountedSession) : StorageReadService × ReadSession :=
  let streamCount := negotiateStreamCount request.maxStreamCount counted.totalRows
  let name := newSessionId counted.project svc.nextSessionId
  let partitions := buildPartitions name streamCount counted.totalRows
  let state : SessionState :=
    { table := counted.table
      schema := counted.schema
      whereSql := counted.whereSql
      selectedFields := counted.selectedFields
      totalRows := counted.totalRows
      streams := partitions.foldl (fun streams part => emplace streams part.name part) (fun _ => none) }
  let schema :=
    if counted.selectedFields.isEmpty then counted.schema
    else projectSchemaForResponse counted.schema counted.selectedFields
  ({ nextSessionId := svc.nextSessionId + 1, sessions := emplace svc.sessions name state },
    { name := name, table := request.table, schema := schema, readOptions := request.readOptions,
      streams := partitions.map StreamPartition.name })

def createReadSession (svc : StorageReadService) (request : CreateReadSessionRequest) :
    StorageReadService × Except Status ReadSession :=
  match countSession engine storage request with
  | .error e => (svc, .error e)
  | .ok counted =>
    let (svc, session) := openSession svc request counted
    (svc, .ok session)

end

section
variable (engine : Engine)

def normalizeTimestampOffsetSuffix (text : String) : String :=
  match text.toList.reverse with
  | d1 :: d0 :: sign :: _ =>
    if (sign = '+' ∨ sign = '-') ∧ d0.isDigit ∧ d1.isDigit then
      if ':' ∉ text.toList ∧ 'T' ∉ text.toList then text else text ++ ":00"
    else text
  | _ => text

def timestampFormats : List String :=
  ["%Y-%m-%d%ET%H:%M:%E*S%Ez", "%Y-%m-%d %H:%M:%E*S%Ez", "%Y-%m-%dT%H:%M:%E*S%Ez",
    "%Y-%m-%d %H:%M:%E*S", "%Y-%m-%dT%H:%M:%E*S", "%Y-%m-%d"]

/-- The first format that parses decides. -/
def parseTimestampWireString (body : String) : Except Status Int :=
  let text := if body.endsWith " UTC" then String.ofList (body.toList.dropLast.dropLast.dropLast.dropLast)
    else body
  let text := normalizeTimestampOffsetSuffix text
  match timestampFormats.findSome? (fun format => engine.parseTime format text) with
  | some micros => .ok micros
  | none => .error ⟨.invalidArgument, "StorageRead: invalid TIMESTAMP value '" ++ body ++ "'"⟩

def timestampValueToMicrosString : Value → Except Status String
  | .null => .error ⟨.invalidArgument, "StorageRead: TIMESTAMP cell is NULL"⟩
  | .int64 value => .ok (toString value)
  | .string text =>
    if !text.isEmpty && text.toList.all Char.isDigit then .ok text
    else (parseTimestampWireString engine text).map toString
  | _ => .error ⟨.invalidArgument, "StorageRead: TIMESTAMP cell has unsupported kind"⟩

/-- TIMESTAMP cells travel as epoch microseconds; one that does not parse, and any
other cell, travels as its stored text. -/
def valueToCellForStorageRead (value : Value) (type : ColumnType) : Cell :=
  if type = .timestamp then
    match value with
    | .null => valueToCell engine.text .null
    | value =>
      match timestampValueToMicrosString engine value with
      | .ok micros => .stringValue micros
      | .error _ => valueToCell engine.text value
  else valueToCell engine.text value

def encodeRow (rowSchema : TableSchema) (row : Row) : List Cell :=
  List.zipWith (fun value (column : ColumnSchema) => valueToCellForStorageRead engine value column.type)
    row.cells rowSchema.columns

end

section
variable (engine : Engine) (storage : DuckDBStorage)

/-- `StreamRowsToWriter` with `page` and the pages already written: `delivered k` is
whether the client still takes the k-th page. -/
def streamRowsToWriter (rowSchema : TableSchema) (batchSize : Nat) (delivered : Nat → Bool) :
    List Row → List (List Cell) → List ReadRowsResponse →
      List ReadRowsResponse × Except Status Unit
  | [], page, written =>
    if page.length > 0 then
      if delivered written.length then (written ++ [⟨page, page.length⟩], .ok ())
      else (written, .error ⟨.aborted, "StorageRead.ReadRows: client cancelled mid-stream"⟩)
    else (written, .ok ())
  | row :: rest, page, written =>
    if row.cells.length ≠ rowSchema.columns.length then
      (written, .error ⟨.internal, "StorageRead.ReadRows: row cell count " ++
        toString row.cells.length ++ " does not match schema column count " ++
        toString rowSchema.columns.length⟩)
    else
      let page := page ++ [encodeRow engine rowSchema row]
      if page.length ≥ batchSize then
        if delivered written.length then
          streamRowsToWriter rowSchema batchSize delivered rest [] (written ++ [⟨page, page.length⟩])
        else (written, .error ⟨.aborted, "StorageRead.ReadRows: client cancelled mid-stream"⟩)
      else streamRowsToWriter rowSchema batchSize delivered rest page written

def schemasEqualByShape (a b : TableSchema) : Bool :=
  a.columns.length = b.columns.length &&
    (a.columns.zip b.columns).all fun (x, y) =>
      x.name = y.name && x.type = y.type && x.mode = y.mode

/-- The lookup both ReadRows and SplitReadStream make under `mu_`. -/
def findStream (svc : StorageReadService) (tag missingSession readStream : String) :
    Except Status (String × SessionState × StreamPartition) := do
  let (sessionName, _) ← parseReadStreamName readStream
  match svc.sessions sessionName with
  | none => throw ⟨.notFound, tag ++ missingSession ++ sessionName⟩
  | some session =>
    match session.streams readStream with
    | none => throw ⟨.notFound, tag ++ "no such stream: " ++ readStream⟩
    | some partition => return (sessionName, session, partition)

structure OpenRead where
  table : TableId
  filter : ReadFilter
  rowSchema : TableSchema

/-- The filter a stream is read with, and the schema its rows are encoded by. -/
def SessionState.readOf (session : SessionState) (partition : StreamPartition) (offset : Int) :
    OpenRead where
  table := session.table
  filter :=
    { offset := offset
      selectedFields := session.selectedFields
      whereSql := session.whereSql
      rowStart := partition.rowStart
      rowEnd := partition.rowEnd }
  rowSchema :=
    if session.selectedFields.isEmpty then session.schema
    else projectSchemaForResponse session.schema session.selectedFields

def openRead (svc : StorageReadService) (request : ReadRowsRequest) : Except Status OpenRead := do
  let (_, session, partition) ← findStream svc "StorageRead.ReadRows: "
    "no such session (call CreateReadSession first): " request.readStream
  let liveSchema ← (storage.getSchema session.table).mapError abslToGrpcStatus
  if !schemasEqualByShape session.schema liveSchema then
    throw ⟨.failedPrecondition, "StorageRead.ReadRows: table schema for " ++
      session.table.projectId ++ "." ++ session.table.datasetId ++ "." ++ session.table.tableId ++
      " changed since CreateReadSession; open a new session"⟩
  return session.readOf partition request.offset

/-- What the environment decides about a read: an error of DuckDB's own and the
pages the client takes. -/
structure ReadEnv where
  failure : Option String := none
  delivered : Nat → Bool := fun _ => true

/-- ReadRows from CreateReadStream on: the pages written and the final status. -/
def fetchRows (read : OpenRead) (env : ReadEnv) : List ReadRowsResponse × Except Status Unit :=
  match storage.createReadStream engine.duckdb read.table read.filter env.failure with
  | .error e => ([], .error (abslToGrpcStatus e))
  | .ok rows => streamRowsToWriter engine read.rowSchema kReadRowsBatchSize env.delivered rows [] []

def readRows (svc : StorageReadService) (request : ReadRowsRequest) (env : ReadEnv) :
    List ReadRowsResponse × Except Status Unit :=
  match openRead storage svc request with
  | .error e => ([], .error e)
  | .ok read => fetchRows engine storage read env

end

/-- The integer nearest to a rational, ties to even. -/
def roundEven (x : ℚ) : Int :=
  let lower := ⌊x⌋
  if x - lower < 1 / 2 then lower
  else if 1 / 2 < x - lower then lower + 1
  else if lower % 2 = 0 then lower else lower + 1

/-- The binary exponent of a positive rational. -/
def exponent (x : ℚ) : Int :=
  let guess : Int := (Nat.log2 x.num.natAbs : Int) - Nat.log2 x.den
  if (2 : ℚ) ^ guess ≤ x then guess else guess - 1

/-- The double nearest to a positive rational in range, ties to even. -/
def nearestDouble (x : ℚ) : ℚ :=
  let ulp : ℚ := (2 : ℚ) ^ max (exponent x - 52) (-1074)
  roundEven (x / ulp) * ulp

def StreamPartition.rangeEnd (partition : StreamPartition) (totalRows : Int) : Int :=
  if partition.rowEnd < 0 then totalRows else partition.rowEnd

/-- `range_start + floor(double(span) * fraction)` in double arithmetic. -/
def splitPoint (rangeStart span : Int) (fraction : ℚ) : Int :=
  int64 (rangeStart + ⌊nearestDouble (nearestDouble span * fraction)⌋)

def checkFraction (fraction : Double) : Except Status ℚ :=
  let outside : Except Status ℚ :=
    .error ⟨.invalidArgument, "StorageRead.SplitReadStream: fraction must be in (0.0, 1.0); got " ++
      fraction.text⟩
  match fraction.value with
  | none => outside
  | some value => if 0 < value ∧ value < 1 then .ok value else outside

/-- Where the stream's range is cut, if it can be. -/
def splitAt (name : String) (session : SessionState) (original : StreamPartition) (fraction : ℚ) :
    Except Status Int :=
  let rangeEnd := original.rangeEnd session.totalRows
  let span := int64 (rangeEnd - original.rowStart)
  if span ≤ 1 then
    .error ⟨.failedPrecondition, "StorageRead.SplitReadStream: stream cannot be split " ++
      "(remaining range has " ++ toString span ++ " row(s)): " ++ name⟩
  else
    let cut := splitPoint original.rowStart span fraction
    if cut ≤ original.rowStart ∨ rangeEnd ≤ cut then
      .error ⟨.failedPrecondition, "StorageRead.SplitReadStream: split point leaves an empty child " ++
        "stream"⟩
    else .ok cut

variable (session : SessionState)

def primaryOf (original : StreamPartition)
    (cut : Int) : StreamPartition where
  name := streamName sessionName ("split" ++ toString session.nextSplitId ++ "p")
  rowStart := original.rowStart
  rowEnd := cut

def remainderOf (original : StreamPartition)
    (cut : Int) : StreamPartition where
  name := streamName sessionName ("split" ++ toString session.nextSplitId ++ "r")
  rowStart := cut
  rowEnd := original.rowEnd

def enterChildren (original : StreamPartition)
    (cut : Int) : SessionState × SplitReadStreamResponse :=
  let primary := primaryOf sessionName session original cut
  let remainder := remainderOf sessionName session original cut
  ({ session with
      nextSplitId := session.nextSplitId + 1
      streams := emplace (emplace session.streams primary.name primary) remainder.name remainder },
    ⟨primary.name, remainder.name⟩)

def splitReadStream (svc : StorageReadService) (request : SplitReadStreamRequest) :
    StorageReadService × Except Status SplitReadStreamResponse :=
  if request.name.isEmpty then
    (svc, .error ⟨.invalidArgument, "StorageRead.SplitReadStream: name is required"⟩)
  else
    match checkFraction request.fraction with
    | .error e => (svc, .error e)
    | .ok fraction =>
      match findStream svc "StorageRead.SplitReadStream: " "no such session: " request.name with
      | .error e => (svc, .error e)
      | .ok (sessionName, session, original) =>
        match splitAt request.name session original fraction with
        | .error e => (svc, .error e)
        | .ok cut =>
          let (session, response) := enterChildren sessionName session original cut
          (svc.setSession sessionName session, .ok response)
end BigQueryEmulator.Read
