import BigQueryEmulator.Storage.Values

/-! `DuckDBStorage`: the tables of the persistent store and the operations the handlers and
executors call, each atomic under the store's mutex (`duckdb_storage_rows.cc`,
`duckdb_storage_catalog.cc`). What the environment decides about a mutation, its clock readings and
the errors of DuckDB and of the file system, is an explicit argument. The mutations of a table that
exists make a machine. Behind FOR SYSTEM_TIME AS OF a table has a version log
(`duckdb_storage_version_log.cc`): the `{table}.versions.json` index, which is kept as data, and
the archived snapshots in `{table}.versions/`. -/
namespace BigQueryEmulator.Storage

/-- `kTimeTravelWindowMs`: seven days. -/
def timeTravelWindowMs : Int := 7 * 24 * 60 * 60 * 1000

structure VersionEntry where
  validFromMs : Int
  file : String
deriving DecidableEq, Repr

structure VersionIndex where
  createdTsMs : Int
  currentTsMs : Int
  versions : List VersionEntry := []
deriving DecidableEq, Repr

/-- The snapshots under `{table}.versions/`, by file name. -/
abbrev Archive := String → Option (List Row)

structure TableFiles where
  schema : TableSchema
  parquet : Option (List Row)
  index : Option VersionIndex
  archive : Archive := fun _ => none

section
variable (files : TableFiles)

/-- A table without an index starts one at the current time. -/
def loadVersionIndexOrInit (clockMs : Int) : VersionIndex :=
  files.index.getD { createdTsMs := clockMs, currentTsMs := clockMs }

def earliestReadableMs (index : VersionIndex) : Int :=
  match index.versions with
  | [] => index.createdTsMs
  | first :: _ => min index.createdTsMs first.validFromMs

def archiveName (timestampMs : Int) : String := toString timestampMs ++ ".parquet"

/-- `PruneOldVersions` drops the entries whose version began before the window,
together with their files, and moves the creation time up to the cutoff. -/
def pruneOldVersions (index : VersionIndex) (archive : Archive) (nowMs : Int) :
    VersionIndex × Archive :=
  let cutoff := nowMs - timeTravelWindowMs
  let expired := index.versions.filter (fun v => v.validFromMs < cutoff)
  ({ index with
      versions := index.versions.filter (fun v => !decide (v.validFromMs < cutoff))
      createdTsMs := if index.createdTsMs < cutoff then cutoff else index.createdTsMs },
    fun file => if expired.any (fun v => v.file == file) then none else archive file)

/-- `std::sort` by `valid_from_ms`. Entries of one timestamp also share their file
name, so the instability of the source's sort cannot be observed. -/
def sortVersions (versions : List VersionEntry) : List VersionEntry :=
  versions.insertionSort (fun a b => a.validFromMs ≤ b.validFromMs)

def archiveParquetBeforeReplace (mutationTsMs clockMs : Int) : TableFiles :=
  let index := loadVersionIndexOrInit files clockMs
  match files.parquet with
  | none =>
    let pruned := pruneOldVersions { index with currentTsMs := mutationTsMs }
      files.archive mutationTsMs
    { files with index := some pruned.1, archive := pruned.2 }
  | some live =>
    let name := archiveName index.currentTsMs
    -- `copy_file` with `overwrite_existing`: one name holds one snapshot
    let copied : Archive := fun file => if file = name then some live else files.archive file
    let entries := sortVersions (index.versions ++ [⟨index.currentTsMs, name⟩])
    let pruned := pruneOldVersions
      { index with versions := entries, currentTsMs := mutationTsMs } copied mutationTsMs
    { files with index := some pruned.1, archive := pruned.2 }

/-- The path `ResolveParquetSnapshotAt` answers with. -/
inductive SnapshotPath where
  | live
  | version (file : String)
deriving DecidableEq, Repr

def contentAt : SnapshotPath → Option (List Row)
  | .live => files.parquet
  | .version file => files.archive file

def qualifiedName (id : TableId) : String :=
  id.projectId ++ "." ++ id.datasetId ++ "." ++ id.tableId

def invalidSnapshotTimeError (id : TableId) (asOfMs earliestMs : Int) : Status :=
  ⟨.invalidArgument, "Invalid snapshot time " ++ toString asOfMs ++ " for table " ++
    id.projectId ++ ":" ++ id.datasetId ++ "." ++ id.tableId ++ "@" ++ toString asOfMs ++
    ". Cannot read before " ++ toString earliestMs ++ "."⟩

/-- The loop over the index keeps the last entry that began at or before `asOfMs`. -/
def latestVersionAt (versions : List VersionEntry) (asOfMs : Int) : Option VersionEntry :=
  versions.foldl (fun best v => if v.validFromMs ≤ asOfMs then some v else best) none

def resolveParquetSnapshotAt (id : TableId) (files : TableFiles) (asOfMs nowMs clockMs : Int) :
    Except Status SnapshotPath :=
  let index := loadVersionIndexOrInit files clockMs
  if asOfMs > nowMs then
    .error (invalidSnapshotTimeError id asOfMs index.createdTsMs)
  else if asOfMs < nowMs - timeTravelWindowMs then
    .error (invalidSnapshotTimeError id asOfMs
      (max (earliestReadableMs index) (nowMs - timeTravelWindowMs)))
  else if files.index.isNone && index.versions.isEmpty && files.parquet.isSome then
    .ok .live
  else if asOfMs < index.createdTsMs then
    .error (invalidSnapshotTimeError id asOfMs index.createdTsMs)
  else if index.currentTsMs ≤ asOfMs then
    if files.parquet.isSome then .ok .live
    else .error ⟨.notFound, "table parquet missing: " ++ qualifiedName id⟩
  else
    match latestVersionAt index.versions asOfMs with
    | none => .error (invalidSnapshotTimeError id asOfMs index.createdTsMs)
    | some best =>
      if (files.archive best.file).isSome then .ok (.version best.file)
      else .error (invalidSnapshotTimeError id asOfMs index.createdTsMs)

end

structure DuckDBStorage where
  datasetExists : String → String → Bool
  tables : TableId → Option TableFiles

/-- One mutation's environment. `staging` is an error met before anything is
archived; `replacing` is a failed COPY or rename of the staged rows. -/
structure MutationEnv where
  nowMs : Int
  clockMs : Int := nowMs
  staging : Option Status := none
  replacing : Option Status := none

namespace DuckDBStorage
variable (st : DuckDBStorage) (id : TableId) (files : TableFiles)

def setTable : DuckDBStorage :=
  { st with tables := fun other => if other = id then some files else st.tables other }

def ensureTableMetaExists : Except Status TableFiles :=
  if st.datasetExists id.projectId id.datasetId then
    match st.tables id with
    | some files => .ok files
    | none => .error ⟨.notFound, "table not found: " ++ qualifiedName id⟩
  else
    .error ⟨.notFound, "dataset not found: " ++ id.projectId ++ "." ++ id.datasetId⟩

def validateRowsShape (tag : String) (id : TableId) (ncols : Nat) :
    Nat → List Row → Except Status Unit
  | _, [] => .ok ()
  | i, row :: rest =>
    if row.cells.length ≠ ncols then
      .error ⟨.invalidArgument, tag ++ ": row[" ++ toString i ++ "] has " ++
        toString row.cells.length ++ " cell(s) but table " ++ qualifiedName id ++ " has " ++
        toString ncols ++ " column(s)"⟩
    else validateRowsShape tag id ncols (i + 1) rest

theorem validateRowsShape_ok_iff {id : TableId} {rows : List Row} :
    validateRowsShape tag id ncols start rows = .ok () ↔
      ∀ row ∈ rows, row.cells.length = ncols := by
  induction rows generalizing start with
  | nil => simp [validateRowsShape]
  | cons row rest ih =>
    rw [validateRowsShape, List.forall_mem_cons, ← @ih (start + 1)]
    split
    next differ => exact iff_of_false nofun fun fits => differ fits.1
    next same => exact (and_iff_right (not_not.mp same)).symm

/-- Staging creates a temporary table, which DuckDB refuses without columns. -/
def stagingError (physical : TableSchema) (env : MutationEnv) : Option Status :=
  if physical.columns.isEmpty then
    some ⟨.internal, "Parser Error: Table must have at least one column!"⟩
  else env.staging

/-- The common tail of AppendRows and OverwriteRows: stage, archive the live
snapshot, then replace it. An error of the last step comes after archiving. -/
def replaceParquet
    (content : List Row) (env : MutationEnv) : DuckDBStorage × Except Status Unit :=
  match stagingError (parquetStorageSchema files.schema) env with
  | some e => (st, .error e)
  | none =>
    let archived := archiveParquetBeforeReplace files env.nowMs env.clockMs
    match env.replacing with
    | some e => (st.setTable id archived, .error e)
    | none => (st.setTable id { archived with parquet := some content }, .ok ())

def appendRows (rows : List Row) (env : MutationEnv) :
    DuckDBStorage × Except Status Unit :=
  match st.ensureTableMetaExists id with
  | .error e => (st, .error e)
  | .ok files =>
    if rows.isEmpty then (st, .ok ())
    else
      match validateRowsShape "AppendRows" id (parquetStorageSchema files.schema).columns.length
          0 rows with
      | .error e => (st, .error e)
      | .ok () => st.replaceParquet id files (files.parquet.getD [] ++ rows) env

def overwriteRows (rows : List Row) (env : MutationEnv) :
    DuckDBStorage × Except Status Unit :=
  match st.ensureTableMetaExists id with
  | .error e => (st, .error e)
  | .ok files =>
    match validateRowsShape "OverwriteRows" id (parquetStorageSchema files.schema).columns.length
        0 rows with
    | .error e => (st, .error e)
    | .ok () => st.replaceParquet id files rows env

/-- CreateTable. A schema without physical columns gets no parquet and no index. -/
def createTable (schema : TableSchema) (env : MutationEnv) :
    DuckDBStorage × Except Status Unit :=
  if id.tableId.isEmpty then
    (st, .error ⟨.invalidArgument, "CreateTable: table_id must be non-empty"⟩)
  else if !st.datasetExists id.projectId id.datasetId then
    (st, .error ⟨.notFound, "dataset not found: " ++ id.projectId ++ "." ++ id.datasetId⟩)
  else if (st.tables id).isSome then
    (st, .error ⟨.alreadyExists, "table already exists: " ++ qualifiedName id⟩)
  else if (parquetStorageSchema schema).columns.isEmpty then
    (st.setTable id { schema := schema, parquet := none, index := none }, .ok ())
  else
    match env.staging with
    | some e => (st, .error e)
    | none =>
      let index : VersionIndex := { createdTsMs := env.nowMs, currentTsMs := env.nowMs }
      (st.setTable id { schema := schema, parquet := some [], index := some index }, .ok ())

def getSchema : Except Status TableSchema :=
  (st.ensureTableMetaExists id).map TableFiles.schema

def scanRows : Except Status (List Row) :=
  (st.ensureTableMetaExists id).map (fun files => files.parquet.getD [])

def countRows : Except Status Nat :=
  (st.ensureTableMetaExists id).map (fun files => (files.parquet.getD []).length)

def parquetSnapshotPath : Option SnapshotPath :=
  match st.ensureTableMetaExists id with
  | .error _ => none
  | .ok files => if files.parquet.isSome then some .live else none

def parquetSnapshotPathAt (asOfMs nowMs clockMs : Int) :
    Except Status (Option SnapshotPath) :=
  match st.ensureTableMetaExists id with
  | .error _ => .ok none
  | .ok files => (resolveParquetSnapshotAt id files asOfMs nowMs clockMs).map some

/-- What `read_parquet` finds at a path of the table. -/
def readSnapshot (path : SnapshotPath) : Option (List Row) :=
  (st.tables id).bind (fun files => contentAt files path)

/-- The rows a scan would read now; a missing table has none. -/
def liveRows : List Row :=
  match st.tables id with
  | some files => files.parquet.getD []
  | none => []

@[simp] theorem setTable_same :
    (st.setTable id files).tables id = some files := by
  simp [setTable]

theorem setTable_other {id other : TableId} (files : TableFiles) (different : other ≠ id) :
    (st.setTable id files).tables other = st.tables other := by
  simp [setTable, different]

end DuckDBStorage

open DuckDBStorage

inductive Operation where
  | createTable (schema : TableSchema) (env : MutationEnv)
  | appendRows (rows : List Row) (env : MutationEnv)
  | overwriteRows (rows : List Row) (env : MutationEnv)

namespace Operation

def env : Operation → MutationEnv
  | .createTable _ env | .appendRows _ env | .overwriteRows _ env => env

def run (id : TableId) (st : DuckDBStorage) : Operation → DuckDBStorage
  | .createTable schema env => (st.createTable id schema env).1
  | .appendRows rows env => (st.appendRows id rows env).1
  | .overwriteRows rows env => (st.overwriteRows id rows env).1

/-- Whether the call reaches the archiving step, which starts a new version: the
rows have the table's width, an append has some, and staging succeeds. -/
def replaces (id : TableId) (schema : TableSchema) : Operation → Bool
  | .createTable _ _ => false
  | .appendRows rows env =>
    !rows.isEmpty &&
      (validateRowsShape "AppendRows" id
        (parquetStorageSchema schema).columns.length 0 rows).isOk &&
      (stagingError (parquetStorageSchema schema) env).isNone
  | .overwriteRows rows env =>
    (validateRowsShape "OverwriteRows" id
        (parquetStorageSchema schema).columns.length 0 rows).isOk &&
      (stagingError (parquetStorageSchema schema) env).isNone

/-- The content of the version a replacing call starts. A failed COPY or rename
leaves the old rows in place. -/
def content (live : List Row) (op : Operation) : List Row :=
  match op.env.replacing, op with
  | none, .appendRows rows _ => live ++ rows
  | none, .overwriteRows rows _ => rows
  | _, _ => live

end Operation

@[simp] theorem archiveParquetBeforeReplace_parquet (files : TableFiles) (mutationTsMs clockMs : Int) :
    (archiveParquetBeforeReplace files mutationTsMs clockMs).parquet = files.parquet := by
  unfold archiveParquetBeforeReplace
  cases files.parquet <;> rfl

theorem archived_schema (files : TableFiles) (mutationTsMs clockMs : Int) :
    (archiveParquetBeforeReplace files mutationTsMs clockMs).schema = files.schema := by
  unfold archiveParquetBeforeReplace
  cases files.parquet <;> rfl

theorem replaceParquet_state {st : DuckDBStorage}
    (id : TableId) (stored : files.parquet = some live) (content : List Row) (env : MutationEnv) :
    (st.replaceParquet id files content env).1 =
      if (stagingError (parquetStorageSchema files.schema) env).isNone then
        st.setTable id { archiveParquetBeforeReplace files env.nowMs env.clockMs with
          parquet := some (if env.replacing.isNone then content else live) }
      else st := by
  unfold replaceParquet
  cases stagingError (parquetStorageSchema files.schema) env with
  | some e => rfl
  | none =>
    cases env.replacing with
    | none => rfl
    | some e =>
      have kept := archiveParquetBeforeReplace_parquet files env.nowMs env.clockMs
      rw [stored] at kept
      simp only [Option.isNone_none, if_true, Option.isNone_some, Bool.false_eq_true, if_false,
        ← kept]

theorem Operation.run_eq {id : TableId}
    (dataset : st.datasetExists id.projectId id.datasetId = true)
    (found : st.tables id = some files) (stored : files.parquet = some live) (op : Operation) :
    op.run id st =
      if op.replaces id files.schema then
        st.setTable id { archiveParquetBeforeReplace files op.env.nowMs op.env.clockMs with
          parquet := some (op.content live) }
      else st := by
  have present : st.ensureTableMetaExists id = .ok files := by
    simp only [ensureTableMetaExists, dataset, found, if_true]
  cases op with
  | createTable schema env =>
    simp only [run, replaces, DuckDBStorage.createTable, dataset, found]
    split <;> rfl
  | appendRows rows env =>
    cases shape : DuckDBStorage.validateRowsShape "AppendRows" id
        (parquetStorageSchema files.schema).columns.length 0 rows with
    | error e =>
      by_cases empty : rows = [] <;>
        simp [run, replaces, DuckDBStorage.appendRows, present, shape, empty, Except.isOk,
          Except.toBool]
    | ok _ =>
      by_cases empty : rows = [] <;> cases failed : env.replacing <;>
        simp [run, replaces, DuckDBStorage.appendRows, present, shape, empty, Except.isOk,
          Except.toBool, replaceParquet_state id stored, content, Operation.env, failed, stored]
  | overwriteRows rows env =>
    cases shape : DuckDBStorage.validateRowsShape "OverwriteRows" id
        (parquetStorageSchema files.schema).columns.length 0 rows with
    | error e =>
      simp [run, replaces, DuckDBStorage.overwriteRows, present, shape, Except.isOk,
        Except.toBool]
    | ok _ =>
      cases failed : env.replacing <;>
        simp [run, replaces, DuckDBStorage.overwriteRows, present, shape, Except.isOk,
          Except.toBool, replaceParquet_state id stored, content, Operation.env, failed]

end BigQueryEmulator.Storage
