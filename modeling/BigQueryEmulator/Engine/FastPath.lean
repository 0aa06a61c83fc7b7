import BigQueryEmulator.Storage.ReadStream

/-! SELECT on the DuckDB fast path (`googlesql_catalog.cc`, `duckdb_executor_query.cc`,
`duckdb_executor_internal.h`, `duckdb_executor_attach{,_helpers}.cc`,
`transpiler_emit_query.cc`, `transpiler_emit_with.cc`). A resolved scan holds a pointer to a table
of the catalog. The scanned tables are loaded into an in-memory database under their names
(`Table::Name()`), and the emitted SQL reads them by name. -/
namespace BigQueryEmulator.Engine
open Storage

/-- The address of a catalog table, which orders a `std::set` of such pointers. -/
abbrev Pointer := Nat

/-- Where a table's rows come from. A wildcard table unites the tables of a pattern, all or
those of the given suffixes; a virtual table is computed, as INFORMATION_SCHEMA is. -/
inductive TableSource where
  | storage (id : TableId)
  | wildcard (rows : DuckDBStorage → Option (List String) → Except Status (List Row))
  | virtualTable (rows : DuckDBStorage → Except Status (List Row))
  | other

structure CatalogTable where
  name : String
  columns : List String
  source : TableSource
  /-- A storage table is named by its bare table id, without project and dataset. -/
  named : ∀ id, source = .storage id → name = id.tableId

/-- `cached` are the catalog's `keys_` with their `tables_`. -/
structure GoogleSqlCatalog where
  cached : List (String × Pointer) := []
  heap : Pointer → Option CatalogTable := fun _ => none

namespace GoogleSqlCatalog

def cacheKey (id : TableId) : String :=
  id.projectId ++ "\x1f" ++ id.datasetId ++ "\x1f" ++ id.tableId

def storageTable (id : TableId) (schema : TableSchema) : CatalogTable where
  name := id.tableId
  columns := (parquetStorageSchema schema).columns.map ColumnSchema.name
  source := .storage id
  named := by rintro _ ⟨⟩; rfl

/-- A table not seen before is allocated at `fresh`. `typed` is what `ToGoogleSqlType`
answers for a column. -/
def materializeTablePhysical (catalog : GoogleSqlCatalog) (st : DuckDBStorage)
    (registeredView : TableId → Bool) (typed : ColumnSchema → Except Status Unit) (id : TableId)
    (fresh : Pointer) : Except Status (Pointer × GoogleSqlCatalog) :=
  match catalog.cached.lookup (cacheKey id) with
  | some table =>
    match (catalog.heap table).map CatalogTable.source with
    | some (.storage _) => .ok (table, catalog)
    | _ => .error ⟨.internal, "GoogleSqlCatalog: cached table is not a StorageTable: " ++
        cacheKey id⟩
  | none =>
    match st.getSchema id with
    | .error e =>
      if registeredView id then
        .error ⟨.notFound, "MaterializeTablePhysical called for registered view"⟩
      else .error e
    | .ok schema => do
      (parquetStorageSchema schema).columns.forM typed
      return (fresh, {
        cached := catalog.cached ++ [(cacheKey id, fresh)]
        heap := fun other =>
          if other = fresh then some (storageTable id schema) else catalog.heap other })

def storageId (catalog : GoogleSqlCatalog) (table : Pointer) : Option TableId :=
  match (catalog.heap table).map CatalogTable.source with
  | some (.storage id) => some id
  | _ => none

theorem storageId_heap {catalog : GoogleSqlCatalog} {id : TableId}
    (stored : catalog.storageId table = some id) :
    ∃ found, catalog.heap table = some found ∧ found.source = .storage id ∧
      found.name = id.tableId := by
  unfold storageId at stored
  cases held : catalog.heap table with
  | none => simp [held] at stored
  | some found =>
    cases source : found.source with
    | storage other =>
      simp only [held, Option.map_some, source, Option.some.injEq] at stored
      subst other
      exact ⟨found, rfl, source, found.named id source⟩
    | wildcard _ | virtualTable _ | other => simp [held, source] at stored

end GoogleSqlCatalog

/-- `columns` are the column indexes read with their output names; `asOf` is the answer of
`EvaluateForSystemTimeAsOfMs`, or none without FOR SYSTEM_TIME AS OF. -/
structure TableScan where
  table : Pointer
  columns : List (Nat × String) := []
  asOf : Except Status (Option Int) := .ok none

/-- A resolved scan tree. `compound` is any other operator over what the visitor meets in
it, subqueries included, and `covered` tells whether the transpiler lowers it. A WITH of
several entries is one `withScan` inside another. -/
inductive Scan where
  | tableScan (scan : TableScan)
  | filterScan (suffixAllowList : Option (List String)) (input condition : Scan)
  | withScan (name : String) (recursive : Bool) (subquery body : Scan)
  | withRefScan (name : String)
  | singleRowScan
  | compound (kind : String) (covered : Bool) (first second : Scan)

namespace Scan

def nodeKindString : Scan → String
  | .tableScan _ => "TableScan"
  | .filterScan _ _ _ => "FilterScan"
  | .withScan _ _ _ _ => "WithScan"
  | .withRefScan _ => "WithRefScan"
  | .singleRowScan => "SingleRowScan"
  | .compound kind _ _ _ => kind

def tableScans : Scan → List TableScan
  | .tableScan scan => [scan]
  | .filterScan _ first second | .withScan _ _ first second | .compound _ _ first second =>
    first.tableScans ++ second.tableScans
  | .withRefScan _ | .singleRowScan => []

end Scan

structure TableScanCollector where
  tables : List Pointer := []
  systemTimeAsOfMs : Pointer → Option Int := fun _ => none
  wildcardSuffixAllowlists : Pointer → Option (List String) := fun _ => none
  rowAccessFilterSql : Pointer → Option String := fun _ => none

namespace TableScanCollector

def insertTable (tables : List Pointer) (table : Pointer) : List Pointer :=
  if table ∈ tables then tables else tables.orderedInsert (fun a b => a ≤ b) table

def visitResolvedTableScan (collector : TableScanCollector) (scan : TableScan) :
    Except Status TableScanCollector :=
  let collector := { collector with tables := insertTable collector.tables scan.table }
  match scan.asOf with
  | .error e => .error e
  | .ok none => .ok collector
  | .ok (some ms) =>
    -- one entry for each table: a later scan of it replaces the time
    .ok { collector with systemTimeAsOfMs := fun table =>
      if table = scan.table then some ms else collector.systemTimeAsOfMs table }

def allowSuffixes (collector : TableScanCollector) (suffixes : Option (List String)) :
    Scan → TableScanCollector
  | .tableScan scan =>
    match suffixes with
    | none => collector
    | some allowed => { collector with wildcardSuffixAllowlists := fun table =>
        if table = scan.table then some allowed else collector.wildcardSuffixAllowlists table }
  | _ => collector

def visit : Scan → TableScanCollector → Except Status TableScanCollector
  | .tableScan scan, collector => collector.visitResolvedTableScan scan
  | .filterScan suffixes input condition, collector => do
    let collector ← visit input (collector.allowSuffixes suffixes input)
    visit condition collector
  | .withScan _ _ first second, collector | .compound _ _ first second, collector => do
    let collector ← visit first collector
    visit second collector
  | .withRefScan _, collector | .singleRowScan, collector => .ok collector

end TableScanCollector

/-- What a query meets when it runs. `rowAccessFilter` is the filter of a table's row
access policies for the caller, empty without one. -/
structure Surroundings where
  storage : DuckDBStorage
  rowAccessFilter : TableId → Except Status String := fun _ => .ok ""
  nowMs : Int
  clockMs : Int := nowMs

/-- DuckDB: the relation a quoted identifier denotes, and the value of a filter for a row,
none for NULL. -/
structure InMemoryDuckdb where
  identifier : String → String
  satisfies : String → Row → Option Bool := fun _ _ => some true

abbrev Connection := String → Option (List Row)

namespace InMemoryDuckdb
variable (db : InMemoryDuckdb) (conn : Connection) (quoted : String)

def put (rows : List Row) : Connection :=
  fun relation => if relation = db.identifier quoted then some rows else conn relation

def createOrReplaceTable : Connection :=
  db.put conn quoted []

def insertInto (rows : List Row) : Connection :=
  db.put conn quoted ((conn (db.identifier quoted)).getD [] ++ rows)

/-- A WHERE clause keeps the rows for which it is TRUE. -/
def visible (filter : String) (rows : List Row) : List Row :=
  if filter.isEmpty then rows else rows.filter fun row => db.satisfies filter row = some true

variable (env : Surroundings)

def attachParquetTableAt (id : TableId) (quoted : String)
    (path : SnapshotPath) (filter : String) (conn : Connection) : Except Status Connection :=
  let conn := db.createOrReplaceTable conn quoted
  match env.storage.readSnapshot id path with
  | none => .error ⟨.internal, "IO Error: No files found that match the pattern"⟩
  | some rows => .ok (db.insertInto conn quoted (db.visible filter rows))

def insertScannedRowsAt (table : CatalogTable) (quoted : String) (rows : List Row)
    (conn : Connection) : Except Status Connection :=
  match rows.findIdx? fun row => row.cells.length ≠ table.columns.length with
  | some r => .error ⟨.invalidArgument, "DuckDBEngine: row[" ++ toString r ++ "] has " ++
      toString (rows.getD r ⟨[]⟩).cells.length ++ " cells but table '" ++ table.name ++
      "' has " ++ toString table.columns.length ++ " columns"⟩
  | none => .ok (db.insertInto conn quoted rows)

/-- `DELETE … WHERE NOT (filter)`, which also keeps the rows for which it is NULL. -/
def applyRowAccessFilterDelete (filter : String) (conn : Connection) :
    Connection :=
  if filter.isEmpty then conn
  else db.put conn quoted (((conn (db.identifier quoted)).getD []).filter fun row =>
    db.satisfies filter row ≠ some false)

def resolveParquetSnapshotPath (id : TableId) (asOf : Option Int) :
    Except Status (Option SnapshotPath) :=
  match asOf with
  | some ms => env.storage.parquetSnapshotPathAt id ms env.nowMs env.clockMs
  | none => .ok (env.storage.parquetSnapshotPath id)

/-- The fallback of `AttachStorageTableAt`, once the rows are scanned. -/
def attachScannedRowsAt (table : CatalogTable) (quoted : String) (rows : List Row)
    (filter : String) (conn : Connection) : Except Status Connection := do
  let conn := db.createOrReplaceTable conn quoted
  if rows.isEmpty then return db.applyRowAccessFilterDelete quoted filter conn
  let conn ← db.insertScannedRowsAt table quoted rows conn
  return db.applyRowAccessFilterDelete quoted filter conn

def attachStorageTable (table : CatalogTable) (id : TableId)
    (asOf : Option Int) (filter : String) (conn : Connection) : Except Status Connection := do
  let quoted := quoteIdent table.name
  match ← resolveParquetSnapshotPath env id asOf with
  | some path => db.attachParquetTableAt env id quoted path filter conn
  | none =>
    let rows ← env.storage.scanRows id
    db.attachScannedRowsAt table quoted rows filter conn

def attachTable (catalog : GoogleSqlCatalog) (env : Surroundings)
    (collector : TableScanCollector) (conn : Connection) (pointer : Pointer) :
    Except Status Connection :=
  match catalog.heap pointer with
  | none => .error ⟨.failedPrecondition, "duckdb engine: null table reference in query scan"⟩
  | some table =>
    match table.source with
    | .wildcard rows =>
      (rows env.storage (collector.wildcardSuffixAllowlists pointer)).map
        (db.put conn (quoteIdent table.name))
    | .virtualTable rows => (rows env.storage).map (db.put conn (quoteIdent table.name))
    | .storage id =>
      db.attachStorageTable env table id (collector.systemTimeAsOfMs pointer)
        ((collector.rowAccessFilterSql pointer).getD "") conn
    | .other => .error ⟨.unimplemented, "duckdb engine: cannot attach non-StorageTable '" ++
        table.name ++ "'; rebuild against a GoogleSqlCatalog-backed analyzer"⟩

/-- The tables in address order; a relation of the same name is replaced. -/
def attachCollectedQueryTables (catalog : GoogleSqlCatalog) (env : Surroundings)
    (collector : TableScanCollector) (conn : Connection) : Except Status Connection :=
  collector.tables.foldlM (db.attachTable catalog env collector) conn

end InMemoryDuckdb

def setRowAccessFilter (catalog : GoogleSqlCatalog) (env : Surroundings)
    (collector : TableScanCollector) (pointer : Pointer) : Except Status TableScanCollector :=
  match catalog.storageId pointer with
  | none => .ok collector
  | some id => do
    let filter ← env.rowAccessFilter id
    if filter.isEmpty then return collector
    return { collector with rowAccessFilterSql := fun table =>
      if table = pointer then some filter else collector.rowAccessFilterSql table }

def applyGovernanceToCollector (catalog : GoogleSqlCatalog) (env : Surroundings)
    (collector : TableScanCollector) : Except Status TableScanCollector :=
  collector.tables.foldlM (setRowAccessFilter catalog env) collector

/-- Emitted SQL, down to its FROM names: the relations are all that is read from it. -/
inductive Sql where
  | selectFrom (selectList quoted : String)
  | withEntry (quoted : String) (recursive : Bool) (definition body : Sql)
  | withRef (quoted : String)
  | singleRow
  | derived (first second : Sql)

def emitProjection (table : CatalogTable) : Nat × String → Option String
  | (idx, out) => (table.columns[idx]?).map fun source =>
      if source = out then quoteIdent source else quoteIdent source ++ " AS " ++ quoteIdent out

def emitTableScan (catalog : GoogleSqlCatalog) (scan : TableScan) : Option Sql := do
  let table ← catalog.heap scan.table
  let projections ← scan.columns.mapM (emitProjection table)
  let selectList := if projections.isEmpty then "*" else ", ".intercalate projections
  return .selectFrom selectList (quoteIdent table.name)

/-- None is the empty string of the source: the transpiler does not cover the scan. -/
def emitScan (catalog : GoogleSqlCatalog) : Scan → Option Sql
  | .tableScan scan => emitTableScan catalog scan
  | .filterScan _ input condition => do
    let input ← emitScan catalog input
    let condition ← emitScan catalog condition
    return .derived input condition
  | .withScan name recursive subquery body => do
    let subquery ← emitScan catalog subquery
    let body ← emitScan catalog body
    if name.isEmpty then none else return .withEntry (quoteIdent name) recursive subquery body
  | .withRefScan name => if name.isEmpty then none else some (.withRef (quoteIdent name))
  | .singleRowScan => some .singleRow
  | .compound _ covered first second => do
    let first ← emitScan catalog first
    let second ← emitScan catalog second
    if covered then return .derived first second else none

/-- What each `SELECT … FROM` of a table reads, in order. A WITH entry in scope hides the
relation of its name, so that no relation is read there. An entry is in scope in the later
entries and the body, and in its own definition when it is recursive. -/
def Sql.reads (db : InMemoryDuckdb) (conn : Connection) :
    Sql → List String → List (Option (List Row))
  | .selectFrom _ quoted, scope =>
    [if db.identifier quoted ∈ scope then none else conn (db.identifier quoted)]
  | .withEntry quoted recursive definition body, scope =>
    let inner := db.identifier quoted :: scope
    definition.reads db conn (if recursive then inner else scope) ++ body.reads db conn inner
  | .withRef _, _ | .singleRow, _ => []
  | .derived first second, scope => first.reads db conn scope ++ second.reads db conn scope

def executeQuery (db : InMemoryDuckdb) (catalog : GoogleSqlCatalog) (env : Surroundings)
    (query : Scan) : Except Status (List (Option (List Row))) := do
  match emitScan catalog query with
  | none => throw ⟨.unimplemented, "duckdb engine: transpiler does not yet cover this query shape " ++
      "(family: node:" ++ query.nodeKindString ++
      ", route: duckdb_native); see docs/ENGINE_POLICY.md"⟩
  | some sql =>
    let collector ← TableScanCollector.visit query {}
    let collector ← applyGovernanceToCollector catalog env collector
    let conn ← db.attachCollectedQueryTables catalog env collector fun _ => none
    return sql.reads db conn []

end BigQueryEmulator.Engine
