import BigQueryEmulator.Gateway.QueryResults

/-! Copy jobs (`copy/executor.go`): by one SQL statement in the engine, by reading and inserting
the rows through the catalog, or by the second after the first has failed. -/
namespace BigQueryEmulator.Gateway
open Storage (Status Value Row TableId)
open Effects
variable {M : Type}

/-- `JobConfigurationCopy`. -/
structure CopyConfig where
  operationType : String := ""
  sourceTable : Option TableId := none
  sourceTables : List TableId := []
  destinationTable : Option TableId
  writeDisposition : String := ""
  createDisposition : String := ""

structure CopyResult where
  copiedRows : Nat
  copiedLogicalBytes : Nat

/-- What `Execute` makes of the configuration. -/
structure CopyJob where
  sources : List TableId
  destination : TableId
  writeDisposition : String
  createDisposition : String

def normalizeOperationType (op : String) : String :=
  let upper := String.ofList (toUpper (trimSpace op.toList))
  if upper = "" ∨ upper = "OPERATION_TYPE_UNSPECIFIED" then "COPY" else upper

def validateOperationType (op : String) : Except Status Unit :=
  if op ∈ ["COPY", "SNAPSHOT", "RESTORE", "CLONE"] then .ok ()
  else .error ⟨.unknown, "unsupported operationType \"" ++ op ++ "\""⟩

def withProject (defaultProject : String) (id : TableId) : TableId :=
  if id.projectId = "" then { id with projectId := defaultProject } else id

def sourceRefs (cfg : CopyConfig) (defaultProject : String) : List TableId :=
  if cfg.sourceTables.isEmpty then (cfg.sourceTable.map (withProject defaultProject)).toList
  else cfg.sourceTables.map (withProject defaultProject)

def defaultDisposition (sources : List TableId) : String :=
  if 1 < sources.length then "WRITE_APPEND" else "WRITE_EMPTY"

def copyJob (cfg : CopyConfig) (defaultProject : String) : Except Status CopyJob := do
  validateOperationType (normalizeOperationType cfg.operationType)
  match cfg.destinationTable with
  | none => .error ⟨.unknown, "destinationTable.tableId is required"⟩
  | some destination =>
    if destination.tableId = "" then
      .error ⟨.unknown, "destinationTable.tableId is required"⟩
    else if (sourceRefs cfg defaultProject).isEmpty then
      .error ⟨.unknown, "sourceTable or sourceTables is required"⟩
    else return {
      sources := sourceRefs cfg defaultProject
      destination := withProject defaultProject destination
      writeDisposition :=
        if cfg.writeDisposition = "" then defaultDisposition (sourceRefs cfg defaultProject)
        else cfg.writeDisposition
      createDisposition := cfg.createDisposition }

/-- The text before and after the last `@`. -/
def cutLast (text : List Char) : Option (List Char × List Char) :=
  (cut text.reverse '@').map fun (after, before) => (before.reverse, after.reverse)

/-- `ParseDecorator`, at the time `now`; an id without a decorator has none. -/
def parseDecorator (now : Int) (tableId : String) : Option (String × Int) :=
  match cutLast tableId.toList with
  | none => none
  | some (base, raw) =>
    if base.isEmpty ∨ raw.isEmpty then none
    else (atoi raw).map fun n =>
      (String.ofList base, if raw.head? = some '-' then now + n else n)

section

/-- The environment of a copy job. Besides the catalog there may be a query client, whose one
statement fails before it is executed, or after it, where `starts` or `ends` say so. -/
structure CopyEnv extends Env where
  hasQuery : Bool := true
  starts : Option Status := none
  ends : Option Status := none
  /-- the columns of a UNION ALL of tables with the columns -/
  unionColumns : List (List Field) → Except Status (List Field)
  /-- a row of the first columns, with its values coerced to the second -/
  coerce : List Field → List Field → Row → Row
  /-- why a result cannot be inserted into a table of the columns -/
  refuses : List Field → Table → Option Status
  /-- what a table held at a time in milliseconds; no call asks for it -/
  asOf : TableId → Int → Option Table
  /-- the deleted tables of the snapshot store (`ResolveAtEpoch`), of which it has kept the listed
  rows -/
  snapshots : TableId → Int → Option Table := fun _ _ => none
  now : Int := 0

inductive CopyKind where
  | createOrReplace | create | insert
deriving DecidableEq

/-- The statement that `buildCopySQL` writes: the tables of its selects have a dataset and a name,
and no project. -/
structure CopySql where
  kind : CopyKind
  dataset : String
  table : String
  selects : List (String × String × Option Int)

variable (env : CopyEnv)

def selectOf (source : TableId) : String × String × Option Int :=
  match parseDecorator env.now source.tableId with
  | none => (source.datasetId, source.tableId, none)
  | some (base, epoch) => (source.datasetId, base, some epoch)

def buildCopySql (job : CopyJob) : Except Status CopySql :=
  let statement (kind : CopyKind) : Except Status CopySql :=
    .ok ⟨kind, job.destination.datasetId, job.destination.tableId,
      job.sources.map (selectOf env)⟩
  if job.writeDisposition = "WRITE_TRUNCATE" then statement .createOrReplace
  else if job.writeDisposition = "WRITE_EMPTY" then statement .create
  else if job.writeDisposition = "WRITE_APPEND" then statement .insert
  else .error ⟨.unknown, "unsupported writeDisposition \"" ++ job.writeDisposition ++ "\""⟩

/-- CREATE TABLE AS and INSERT attach the tables of their query as they are: FOR SYSTEM_TIME AS OF
is not looked at. -/
def resolveSelect (project : String) (st : Store) (select : String × String × Option Int) :
    Except Status Table :=
  findTable ⟨project, select.1, select.2.1⟩ st

/-- `SELECT * FROM … UNION ALL SELECT * FROM …` -/
def unionAll (tables : List Table) : Except Status Table := do
  let columns ← env.unionColumns (tables.map Table.fields)
  return ⟨columns, tables.flatMap fun table => table.rows.map (env.coerce table.fields columns)⟩

def serveCopySql (project : String) (sql : CopySql) (st : Store) : Except Status Store := do
  let tables ← sql.selects.mapM (resolveSelect project st)
  let united ← unionAll env tables
  let id : TableId := ⟨project, sql.dataset, sql.table⟩
  match sql.kind with
  | .insert =>
    let table ← findTable id st
    match env.refuses table.fields united with
    | some status => .error status
    | none => return st.put id (some ⟨table.fields,
        table.rows ++ united.rows.map (env.coerce united.fields table.fields)⟩)
  | kind =>
    if st.datasets project sql.dataset then
      if kind = .create ∧ (st.tables id).isSome then
        .error ⟨.alreadyExists, "table already exists: " ++ tableName id⟩
      else
        env.db.makeParquet united.fields
        return st.put id (some united)
    else .error ⟨.notFound, "dataset not found: " ++ project ++ "." ++ sql.dataset⟩

/-- `ExecuteQuery`, and the loop that reads its stream to the end. -/
def executeQuery (project : String) (sql : CopySql) : Client M Unit := fun w =>
  match env.starts with
  | some status => (.error status, w)
  | none =>
    match serveCopySql env project sql w.store, env.ends with
    | .error status, _ => (.error status, w)
    | .ok st, some status => (.error status, { w with store := st })
    | .ok st, none => (.ok (), { w with store := st })

end

section
variable (env : CopyEnv)

def copyTableName (id : TableId) : String := id.projectId ++ ":" ++ id.datasetId ++ "." ++ id.tableId

variable (job : CopyJob)

def checkCreateDisposition : Client M Unit := do
  if job.createDisposition = "CREATE_NEVER" then
    if ← tableExists env.toEnv job.destination then return
    else throw ⟨.notFound, "Not found: Table " ++ copyTableName job.destination⟩
  else return

/-- The loop of `shouldUseSQLCopy`. -/
def anyLiveDecorated : List TableId → Client M Bool
  | [] => return false
  | source :: rest => do
    match parseDecorator env.now source.tableId with
    | none => anyLiveDecorated rest
    | some (base, epoch) =>
      if (env.snapshots { source with tableId := base } epoch).isSome then anyLiveDecorated rest
      else if ← tableExists env.toEnv { source with tableId := base } then return true
      else anyLiveDecorated rest

def shouldUseSqlCopy : Client M Bool :=
  if env.hasQuery then anyLiveDecorated env job.sources else return false

def hasSnapshotSource : Bool :=
  job.sources.any fun source => (parseDecorator env.now source.tableId).isSome

def countDestinationRows (id : TableId) : Client M CopyResult := do
  let (_, total) ← listRows env.toEnv id 0 0
  return ⟨total, total⟩

def executeSqlCopy : Client M CopyResult := do
  checkCreateDisposition env job
  let sql ← Work.step (buildCopySql env job)
  executeQuery env job.destination.projectId sql
  countDestinationRows env job.destination

/-- The pages from `start` on, as in `listPages`. -/
def copyPages (id : TableId) : (rounds start : Nat) → Client M (List (List Cell))
  | 0, _ => pure []
  | rounds + 1, start => do
    let (rows, total) ← listRows env.toEnv id start 10000
    if rows.isEmpty then return []
    else if total ≤ start + rows.length then return rows
    else
      let others ← copyPages id rounds (start + rows.length)
      return rows ++ others

def readSource (source : TableId) : Client M (List Field × List (List Cell)) := do
  match parseDecorator env.now source.tableId with
  | some (base, epoch) =>
    match env.snapshots { source with tableId := base } epoch with
    | some table =>
      let rows ← Work.step (table.rows.mapM fun row => env.db.valuesToCells row.cells)
      return (table.fields, rows)
    | none =>
      throw ⟨.unknown, "not found: Table " ++
        copyTableName { source with tableId := base } ++ "@" ++ toString epoch⟩
  | none =>
    let fields ← wrapped ("source table " ++ tableName source) (describeTable env.toEnv source)
    let rounds ← Work.look fun w => .ok (rowCount w.store source + 1)
    let rows ← copyPages env source rounds 0
    return (fields, rows)

def schemasCompatible (first second : List Field) : Bool :=
  first.map (fun field => (field.name, field.type, field.mode)) =
    second.map fun field => (field.name, field.type, field.mode)

def cellText : Cell → String
  | .string value => value
  | _ => ""

def estimateRowBytes (rows : List (List Cell)) : Nat :=
  (rows.map fun cells => (cells.map fun cell => (cellText cell).utf8ByteSize).sum).sum

/-- The loop of `executeCatalogCopy`: the schema of the first source, the rows of all, and the size
of their texts. -/
def readSources : List TableId → List Field → List (List Cell) → Nat →
    Client M (List Field × List (List Cell) × Nat)
  | [], schema, rows, bytes => return (schema, rows, bytes)
  | source :: rest, schema, rows, bytes => do
    let (fields, more) ← readSource env source
    if schemasCompatible schema fields then
      readSources rest schema (rows ++ more) (bytes + estimateRowBytes more)
    else
      throw ⟨.unknown, "source tables must have identical schemas for multi-source copy"⟩

def readAll : List TableId → Client M (List Field × List (List Cell) × Nat)
  | [] => throw ⟨.unknown, "could not resolve source table schema"⟩
  | source :: rest => do
    let (fields, rows) ← readSource env source
    readSources env rest fields rows (estimateRowBytes rows)

/-- `protoRowsToMaps`. -/
def copyRowToMap (schema : List Field) (cells : List Cell) : GoRow :=
  goMap ((schema.zip cells).map fun (field, cell) => (field.name, protoCellToAny cell))

/-- `applyWriteDisposition` of the package. -/
def copyDisposition (schema : List Field) : Client M Unit := do
  let there ← tableExists env.toEnv job.destination
  if job.writeDisposition = "WRITE_TRUNCATE" then
    if there then
      wrapped "WRITE_TRUNCATE drop" (dropTable env.toEnv job.destination)
      registerTable env.toEnv job.destination schema
    else registerTable env.toEnv job.destination schema
  else if job.writeDisposition = "WRITE_EMPTY" then
    if there then
      throw ⟨.alreadyExists, "Already Exists: Table " ++ copyTableName job.destination⟩
    else registerTable env.toEnv job.destination schema
  else if there then return
  else
    match ← (registerTable env.toEnv job.destination schema).attempt with
    | .ok _ => return
    | .error status => if status.code = .alreadyExists then return else throw status

def executeCatalogCopy : Client M CopyResult := do
  let (schema, rows, bytes) ← readAll env job.sources
  ensureDataset env.toEnv job.destination.projectId job.destination.datasetId
  copyDisposition env job schema
  let inserted ← insertRows env.toEnv job.destination schema (rows.map (copyRowToMap schema))
  return ⟨inserted, bytes⟩

inductive CopyRoute where
  | sql | catalog | sqlThenCatalog
deriving DecidableEq

def chooseRoute : Client M CopyRoute := do
  checkCreateDisposition env job
  if ← shouldUseSqlCopy env job then return .sql
  else if hasSnapshotSource env job then return .catalog
  else if env.hasQuery then return .sqlThenCatalog
  else return .catalog

def followRoute : CopyRoute → Client M CopyResult
  | .sql => executeSqlCopy env job
  | .catalog => executeCatalogCopy env job
  | .sqlThenCatalog => do
    match ← (executeSqlCopy env job).attempt with
    | .ok result => return result
    | .error _ => executeCatalogCopy env job

/-- `Execute`. -/
def executeCopy (cfg : CopyConfig) (defaultProject : String) : Client M CopyResult := do
  let job ← Work.step (copyJob cfg defaultProject)
  let route ← chooseRoute env job
  followRoute env job route

end
end BigQueryEmulator.Gateway
