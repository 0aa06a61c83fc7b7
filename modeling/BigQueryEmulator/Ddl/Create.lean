import BigQueryEmulator.Ddl.AlterTable
import BigQueryEmulator.Storage.ReadStream

/-! The statements that create a table (`control_op_ddl.cc`, `control_op_time_travel.cc`,
`control_op_materialized_view.cc`). What a query selects is computed by an in-memory DuckDB on
copies of the scanned tables; its rows are then written through the storage interface. -/
namespace BigQueryEmulator.Ddl
open Storage Effects Fallible

inductive CreateMode where
  | default
  | orReplace
  | ifNotExists
  deriving DecidableEq

def columnDefinitionListToTableSchema (definitions : List ColumnDefinition) :
    Except Status TableSchema :=
  (definitions.mapM ColumnDefinition.schema).map TableSchema.mk

/-- IF NOT EXISTS swallows ALREADY_EXISTS; the other modes pass it on. -/
def applyCreateMode (mode : CreateMode) : Except Status Unit → Except Status Unit
  | .ok () => .ok ()
  | .error e => if mode = .ifNotExists ∧ e.code = .alreadyExists then .ok () else .error e

variable (target : TableId)

/-- `DropTable`, where a missing table is no error. -/
def dropExisting (fault : Fault) : Command Unit := do
  match ← (dropTable target fault).attempt with
  | .ok () => return
  | .error e => if e.code = .notFound then return else throw e

def dropForReplace (mode : CreateMode) (target : TableId) (fault : Fault) : Command Unit :=
  if mode = .orReplace then dropExisting target fault else pure ()

def createInMode (schema : TableSchema) (mode : CreateMode) (fault : Fault) :
    Command Unit := do
  Work.step (applyCreateMode mode (← (createTable target schema fault).attempt))

/-- The tables of the in-memory database with their rows, in the order they were attached. -/
abbrev Relations := List (String × List Row)

/-- What storage and DuckDB do while a statement runs. `duckdb` is the table that a CREATE TABLE
text makes of the attached relations, or the text of its error; `snapshotAt` is the version of a
table that FOR SYSTEM_TIME AS OF reads; `localPath` is the file behind the URI of a LOAD. -/
structure DdlEnv extends StorageFaults where
  visit : Fault := none
  session : Fault := none
  targetSchema : Fault := none
  attach : TableId → Fault := fun _ => none
  snapshotAt : Store → TableId → Int → Except Breakdown (List Row) := fun _ _ _ => .ok []
  duckdb : String → Relations → Except String (List Row)
  drain : Fault := none
  dropTemp : Fault := none
  localPath : String → Except Breakdown String := .ok

def raised {α : Type} : Except Breakdown α → Except Status α
  | .ok value => .ok value
  | .error breakdown => .error breakdown.status

/-- The rows are copied when the table is attached. -/
def attachStorageTableAt (env : DdlEnv) (st : Store) (id : TableId) (asOfMs : Option Int) :
    Except Status (List Row) :=
  match asOfMs with
  | none => perform ((st.find id).map Table.rows) (env.attach id)
  | some ms => perform (raised (env.snapshotAt st id ms)) (env.attach id)

structure CreateTableStmt where
  namePath : List String
  createMode : CreateMode := .default
  columns : List ColumnDefinition

def runCreateTable (request : QueryRequest) (stmt : CreateTableStmt) (env : DdlEnv) :
    Command Unit := do
  let target ← Work.step
    (namePathToTableId stmt.namePath request.projectId request.defaultDatasetId)
  ensureDatasetExists target env.createDataset
  let schema ← Work.step (columnDefinitionListToTableSchema stmt.columns)
  dropForReplace stmt.createMode target env.drop
  createInMode target schema stmt.createMode env.create

inductive Source where
  | stored (name : String) (id : TableId)
  | other (name : String)

/-- CREATE TABLE AS SELECT and CREATE MATERIALIZED VIEW. `selectSql` is what the transpiler and
the substitution of the parameters make of the query, empty if the transpiler does not cover
it. -/
structure AsSelectStmt where
  namePath : List String
  createMode : CreateMode := .default
  columns : List ColumnDefinition
  sources : List Source
  selectSql : Except Breakdown String

structure AsSelectTexts where
  notStorage : String → String
  notTranspiled : String
  rejected : String

/-- Temporariness is read off the text of the request. -/
def isTemp (sql : String) : Bool :=
  decide ("CREATE TEMP".toList <:+: sql.toList) || decide ("create temp".toList <:+: sql.toList)

variable (texts : AsSelectTexts)

def attachSource (env : DdlEnv) (st : Store) :
    Source → Except Status (String × List Row)
  | .stored name id => (attachStorageTableAt env st id none).map (quoteIdent name, ·)
  | .other name => .error ⟨.failedPrecondition, texts.notStorage name⟩

/-- The in-memory database before the query runs. -/
def attachSources (env : DdlEnv) (temp : Bool) (sources : List Source)
    (st : Store) : Except Status Relations := do
  fallible env.visit
  fallible env.session
  fallible (if temp then none else env.targetSchema)
  sources.mapM (attachSource texts env st)

def buildSql (temp : Bool) (selectSql : String) : String :=
  let name :=
    if temp then quoteIdent target.tableId
    else quoteIdent target.datasetId ++ "." ++ quoteIdent target.tableId
  "CREATE " ++ (if temp then "OR REPLACE TEMP " else "") ++ "TABLE " ++ name ++ " AS " ++ selectSql

def transpiled (selectSql : Except Breakdown String) :
    Except Status String := do
  let select ← raised selectSql
  if select.isEmpty then .error ⟨.unimplemented, texts.notTranspiled⟩ else .ok select

def selectRows (env : DdlEnv) (target : TableId) (temp : Bool)
    (selectSql : Except Breakdown String) (relations : Relations) : Except Status (List Row) := do
  let select ← transpiled texts selectSql
  let sql := buildSql target temp select
  match env.duckdb sql relations with
  | .error detail =>
    .error ⟨.invalidArgument, texts.rejected ++ detail ++ " (sql=" ++ sql ++ ")"⟩
  | .ok rows => perform (.ok rows) env.drain

/-- The answer of this drop is not looked at. -/
def dropTempTarget (temp : Bool) (fault : Fault) : Command Unit :=
  if temp then (dropTable target fault).attempt >>= fun _ => pure () else pure ()

def writeRows (schema : TableSchema) (mode : CreateMode) (temp : Bool)
    (rows : List Row) (env : DdlEnv) : Command Unit := do
  dropTempTarget target temp env.dropTemp
  createInMode target schema mode env.create
  if rows.isEmpty then return
  appendRows target rows env.append

def materializeSelect (request : QueryRequest) (stmt : AsSelectStmt)
    (env : DdlEnv) : Command Unit := do
  let target ← Work.step
    (namePathToTableId stmt.namePath request.projectId request.defaultDatasetId)
  ensureDatasetExists target env.createDataset
  let schema ← Work.step (columnDefinitionListToTableSchema stmt.columns)
  let relations ← Work.look (attachSources texts env (isTemp request.sql) stmt.sources)
  dropForReplace stmt.createMode target env.drop
  let rows ← Work.step
    (selectRows texts env target (isTemp request.sql) stmt.selectSql relations)
  writeRows target schema stmt.createMode (isTemp request.sql) rows env

def tableTexts : AsSelectTexts where
  notStorage := fun name => "ControlOpExecutor::ExecuteDdl: cannot attach non-StorageTable '" ++
    name ++ "' for CTAS; rebuild against a GoogleSqlCatalog-backed analyzer"
  notTranspiled := "control op executor: CTAS query scan did not transpile to DuckDB SQL"
  rejected := "ControlOpExecutor: DuckDB rejected CTAS: "

def runCreateTableAsSelect : QueryRequest → AsSelectStmt → DdlEnv → Command Unit :=
  materializeSelect tableTexts

def viewTexts : AsSelectTexts where
  notStorage := fun name => "control op executor: cannot attach non-StorageTable '" ++ name ++
    "' for CREATE MATERIALIZED VIEW"
  notTranspiled := "control op executor: CREATE MATERIALIZED VIEW query did not transpile " ++
    "to DuckDB SQL"
  rejected := "control op executor: DuckDB rejected materialized view: "

def runCreateMaterializedView : QueryRequest → AsSelectStmt → DdlEnv → Command Unit :=
  materializeSelect viewTexts

inductive CloneSource where
  | notTableScan
  | notStorage (name : String)
  | stored (id : TableId)

/-- `asOfMs` is the answer of `EvaluateForSystemTimeAsOfMs`, none without FOR SYSTEM_TIME. -/
structure CloneStmt where
  namePath : List String
  createMode : CreateMode := .default
  source : CloneSource
  asOfMs : Except Breakdown (Option Int) := .ok none

def storageTableFromScan : CloneSource → Except Status TableId
  | .notTableScan =>
    .error ⟨.invalidArgument, "control op executor: clone source must be a base table scan"⟩
  | .notStorage name =>
    .error ⟨.failedPrecondition, "control op executor: clone source '" ++ name ++
      "' is not a storage-backed table"⟩
  | .stored id => .ok id

def cloneRows (env : DdlEnv) (source : TableId) (asOfMs : Option Int) (st : Store) :
    Except Status (List Row) := do
  fallible env.session
  let rows ← attachStorageTableAt env st source asOfMs
  perform (.ok rows) env.drain

def materializeCloneIntoTarget (source : TableId) (asOfMs : Option Int)
    (mode : CreateMode) (env : DdlEnv) : Command Unit := do
  let schema ← getSchema source env.getSchema
  dropForReplace mode target env.drop
  createInMode target schema mode env.create
  let rows ← Work.look (cloneRows env source asOfMs)
  if rows.isEmpty then return
  overwriteRows target rows env.overwrite

def runClone (request : QueryRequest) (stmt : CloneStmt) (env : DdlEnv) : Command Unit := do
  let target ← Work.step
    (namePathToTableId stmt.namePath request.projectId request.defaultDatasetId)
  ensureDatasetExists target env.createDataset
  let source ← Work.step (storageTableFromScan stmt.source)
  let asOfMs ← Work.step (raised stmt.asOfMs)
  materializeCloneIntoTarget target source asOfMs stmt.createMode env

def runCreateTableClone : QueryRequest → CloneStmt → DdlEnv → Command Unit := runClone

def runCreateSnapshotTable : QueryRequest → CloneStmt → DdlEnv → Command Unit := runClone

inductive CreateStmt where
  | table (stmt : CreateTableStmt)
  | tableClone (stmt : CloneStmt)
  | tableAsSelect (stmt : AsSelectStmt)
  | snapshotTable (stmt : CloneStmt)
  | materializedView (stmt : AsSelectStmt)

namespace CreateStmt

def namePath : CreateStmt → List String
  | .table stmt => stmt.namePath
  | .tableClone stmt | .snapshotTable stmt => stmt.namePath
  | .tableAsSelect stmt | .materializedView stmt => stmt.namePath

def createMode : CreateStmt → CreateMode
  | .table stmt => stmt.createMode
  | .tableClone stmt | .snapshotTable stmt => stmt.createMode
  | .tableAsSelect stmt | .materializedView stmt => stmt.createMode

def run (request : QueryRequest) (env : DdlEnv) : CreateStmt → Command Unit
  | .table stmt => runCreateTable request stmt env
  | .tableClone stmt => runCreateTableClone request stmt env
  | .tableAsSelect stmt => runCreateTableAsSelect request stmt env
  | .snapshotTable stmt => runCreateSnapshotTable request stmt env
  | .materializedView stmt => runCreateMaterializedView request stmt env

end CreateStmt

end BigQueryEmulator.Ddl
