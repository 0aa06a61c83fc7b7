import BigQueryEmulator.Storage.Governance
import BigQueryEmulator.Storage.Tables

/-! Dropping a dataset into a tombstone and restoring it (`duckdb_storage_catalog.cc`,
`duckdb_storage_version_log_tombstone.cc`, `duckdb_storage_tombstone_registry.cc`,
`duckdb_storage_views.cc`). Files are kept by what is in them: a sidecar by its fields, a
table's other files as in the version log. The texts that the tombstone adds, the manifest
and the registry snapshots, are written and read as texts. -/
namespace BigQueryEmulator.Storage
open Text List

/-- `{table}.meta.json`. A table has no type there; a view has the type VIEW. -/
structure Sidecar where
  tableType : String := ""
  viewQuery : String := ""
  ddlSql : String := ""
  schema : TableSchema

structure StoredTable where
  sidecar : Sidecar
  parquet : Option (List Row) := none
  index : Option VersionIndex := none
  archive : Archive := fun _ => none

def StoredTable.files (stored : StoredTable) : TableFiles :=
  ⟨stored.sidecar.schema, stored.parquet, stored.index, stored.archive⟩

/-- A dataset's directory: its sidecar and the files of its tables, by table id. -/
structure DatasetDir where
  metaJson : String
  tables : List (String × StoredTable) := []
  distinct : (tables.map Prod.fst).Nodup := by decide

inductive RoutineKind where
  | scalarFunction | aggregateFunction | tableValuedFunction | procedure
deriving DecidableEq, Repr

structure RoutineRecord where
  dataset : DatasetId
  routineId : String
  kind : RoutineKind
  language : String
  ddlSql : String
  isTemp : Bool := false
  signatureJson : String := ""
deriving DecidableEq

/-- A row of `__bqemu_views`, whose primary key is the view's full name. -/
structure ViewRow where
  dataset : DatasetId
  viewId : String
  ddlSql : String
deriving DecidableEq

def ViewRow.key (row : ViewRow) : DatasetId × String := (row.dataset, row.viewId)

structure ViewTable where
  rows : List ViewRow := []
  keyed : (rows.map ViewRow.key).Nodup := by decide

namespace ViewTable

def select (table : ViewTable) (keep : ViewRow → Bool) : ViewTable where
  rows := table.rows.filter keep
  keyed := (filter_sublist.map ViewRow.key).nodup table.keyed

/-- INSERT with ON CONFLICT DO UPDATE. -/
def upsert (table : ViewTable) (row : ViewRow) : ViewTable where
  rows := (table.select fun other => other.key ≠ row.key).rows ++ [row]
  keyed := by
    rw [map_append, nodup_append]
    refine ⟨(table.select _).keyed, by simp, ?_⟩
    rintro key within _ same rfl
    obtain ⟨other, kept, rfl⟩ := mem_map.mp within
    simp only [map_cons, map_nil, mem_singleton] at same
    simpa [same] using (mem_filter.mp kept).2

end ViewTable

structure DatasetTombstone where
  metaJson : String
  tablesJson : List Char
  viewsJson : List Char
  routinesJson : List Char
  governanceJson : List Char

/-- The data directory with the registry tables. Tombstones are kept under the text
`project.dataset` and the time of the drop. -/
structure DataDir where
  path : String := ""
  datasets : DatasetId → Option DatasetDir
  tableTombstones : String → String → Int → Option StoredTable := fun _ _ _ => none
  datasetTombstones : String → List (Int × DatasetTombstone) := fun _ => []
  views : ViewTable := {}
  routines : List RoutineRecord := []
  governance : GovernanceTables := {}

def datasetTombstoneKey (ds : DatasetId) : String := ds.projectId ++ "." ++ ds.datasetId

/-- Table ids are not escaped. -/
def renderTablesManifestJson (tableIds : List String) : List Char :=
  '[' :: ([','].intercalate (tableIds.map fun id => '"' :: (id.toList ++ ['"'])) ++ [']'])

variable (json : List Char)

def parseTablesManifestJson : List String := parseQuotedJsonStringArray json

def renderViewRecordJson (row : ViewRow) : List Piece :=
  jsonObject [
    jsonField "view_id" [jsonString row.viewId],
    jsonField "ddl_sql" [jsonString row.ddlSql]]

def parseViewRecordJson (ds : DatasetId) : Except Status ViewRow := do
  let viewId ← parseJsonStringField json "view_id"
  let ddlSql ← parseJsonStringField json "ddl_sql"
  return ⟨ds, viewId, ddlSql⟩

def routineKindToString : RoutineKind → String
  | .scalarFunction => "scalar_function"
  | .aggregateFunction => "aggregate_function"
  | .tableValuedFunction => "table_valued_function"
  | .procedure => "procedure"

def routineKindFromString (s : String) : Except Status RoutineKind :=
  let lower := s.toList.map Char.toLower
  if lower = "scalar_function".toList then .ok .scalarFunction
  else if lower = "aggregate_function".toList then .ok .aggregateFunction
  else if lower = "table_valued_function".toList then .ok .tableValuedFunction
  else if lower = "procedure".toList then .ok .procedure
  else .error ⟨.invalidArgument, "unknown routine kind: " ++ s⟩

def renderRoutineRecordJson (rec : RoutineRecord) : List Piece :=
  jsonObject [
    jsonField "routine_id" [jsonString rec.routineId],
    jsonField "kind" [jsonKey (routineKindToString rec.kind)],
    jsonField "language" [jsonString rec.language],
    jsonField "ddl_sql" [jsonString rec.ddlSql],
    jsonField "is_temp" [jsonPlain (if rec.isTemp then "true" else "false")],
    jsonField "signature_json"
      [if rec.signatureJson.isEmpty then jsonPlain "null" else jsonString rec.signatureJson]]

def parseRoutineRecordJson (ds : DatasetId) : Except Status RoutineRecord := do
  let routineId ← parseJsonStringField json "routine_id"
  let kind ← parseJsonStringField json "kind"
  let language ← parseJsonStringField json "language"
  let ddlSql ← parseJsonStringField json "ddl_sql"
  let kind ← routineKindFromString kind
  let signatureJson :=
    if (find (numberField "signature_json" ++ "null".toList) json).isSome then ""
    else match parseJsonStringField json "signature_json" with
      | .ok signature => signature
      | .error _ => ""
  return { dataset := ds, routineId, kind, language, ddlSql
           isTemp := parseJsonBoolField json "is_temp", signatureJson }

namespace DatasetDir
variable (dir : DatasetDir)

def lookup (id : String) : Option StoredTable := dir.tables.lookup id

/-- The tables in the order of their ids. A bare `.meta.json` is not taken for a sidecar. -/
def listed : List (String × StoredTable) :=
  (dir.tables.filter fun table => table.1 ≠ "").insertionSort fun a b => a.1 ≤ b.1

def tableIds : List String := dir.listed.map Prod.fst

def add (id : String) (stored : StoredTable)
    (fresh : id ∉ dir.tables.map Prod.fst) : DatasetDir where
  metaJson := dir.metaJson
  tables := dir.tables ++ [(id, stored)]
  distinct := by
    rw [map_append, nodup_append]
    refine ⟨dir.distinct, by simp, ?_⟩
    rintro name within _ same rfl
    simp only [map_cons, map_nil, mem_singleton] at same
    exact fresh (same ▸ within)

/-- A sidecar written over the old one, or as the first file of its id. -/
def writeSidecar (id : String) (sidecar : Sidecar) : DatasetDir :=
  if present : id ∈ dir.tables.map Prod.fst then
    { metaJson := dir.metaJson
      tables := dir.tables.map fun (name, stored) =>
        (name, if name = id then { stored with sidecar } else stored)
      distinct := by
        rw [map_map]
        exact dir.distinct }
  else dir.add id { sidecar } present

end DatasetDir

namespace DataDir
variable (st : DataDir)

def setDataset (ds : DatasetId) (dir : Option DatasetDir) : DataDir :=
  { st with datasets := fun other => if other = ds then dir else st.datasets other }

def notFoundDataset (ds : DatasetId) : Status :=
  ⟨.notFound, "dataset not found: " ++ ds.projectId ++ "." ++ ds.datasetId⟩

def listTables (ds : DatasetId) : Except Status (List String) :=
  if ds.projectId.isEmpty || ds.datasetId.isEmpty then
    .error ⟨.invalidArgument, "ListTables: project_id and dataset_id must be non-empty"⟩
  else match st.datasets ds with
    | none => .error (notFoundDataset ds)
    | some dir => .ok dir.tableIds

def storedTable (ds : DatasetId) (id : String) : Except Status StoredTable :=
  match st.datasets ds with
  | none => .error (notFoundDataset ds)
  | some dir =>
    match dir.lookup id with
    | none => .error ⟨.notFound, "table not found: " ++ qualifiedName (ds.table id)⟩
    | some stored => .ok stored

structure TableResourceInfo where
  tableType : String
  viewQuery : String
  ddlSql : String
deriving DecidableEq

def readSidecar (ds : DatasetId) (id : String) : Except Status Sidecar :=
  match (st.datasets ds).bind fun dir => dir.lookup id with
  | none => .error ⟨.notFound, "file not found: " ++ st.path ++ "/" ++ ds.projectId ++ "/" ++
      ds.datasetId ++ "/" ++ id ++ ".meta.json"⟩
  | some stored => .ok stored.sidecar

def getTableResourceInfo (ds : DatasetId) (id : String) :
    Except Status TableResourceInfo :=
  (st.readSidecar ds id).map fun sidecar => ⟨sidecar.tableType, sidecar.viewQuery, sidecar.ddlSql⟩

/-- The schema of the sidecar (`ParseTableMetaJson`), which a view has as well. -/
def sidecarSchema (ds : DatasetId) (id : String) : Except Status TableSchema :=
  (st.readSidecar ds id).map fun sidecar => sidecar.schema

def isView (sidecar : Sidecar) : Bool :=
  sidecar.tableType.toList.map Char.toLower = "view".toList

def getSchema (ds : DatasetId) (id : String) : Except Status TableSchema := do
  let stored ← st.storedTable ds id
  if isView stored.sidecar then
    .error ⟨.notFound, "logical view has no physical schema: " ++ qualifiedName (ds.table id)⟩
  else .ok stored.sidecar.schema

def scanRows (ds : DatasetId) (id : String) : Except Status (List Row) :=
  (st.storedTable ds id).map fun stored => stored.parquet.getD []

/-- FOR SYSTEM_TIME AS OF: the rows of the snapshot that the version log resolves. -/
def scanRowsAt (ds : DatasetId) (id : String) (asOfMs nowMs clockMs : Int) :
    Except Status (Option (List Row)) := do
  let stored ← st.storedTable ds id
  let path ← resolveParquetSnapshotAt (ds.table id) stored.files asOfMs nowMs clockMs
  return contentAt stored.files path

/-- Files of a tombstone of the same table and millisecond are replaced one by one. -/
def StoredTable.over (stored : StoredTable) (old : Option StoredTable) : StoredTable where
  sidecar := stored.sidecar
  parquet := stored.parquet.or (old.bind fun old => old.parquet)
  index := stored.index.or (old.bind fun old => old.index)
  archive := fun file => (stored.archive file).or (old.bind fun old => old.archive file)

def moveTableToTombstone (ds : DatasetId) (deletedMs : Int)
    (table : String × StoredTable) : DataDir :=
  let key := datasetTombstoneKey ds
  { st with tableTombstones := fun key' id ms =>
      if key' = key ∧ id = table.1 ∧ ms = deletedMs then
        some (StoredTable.over table.2 (st.tableTombstones key table.1 deletedMs))
      else st.tableTombstones key' id ms }

def datasetViews (ds : DatasetId) : List ViewRow :=
  (st.views.select fun row => row.dataset = ds).rows.insertionSort fun a b => a.viewId ≤ b.viewId

def datasetRoutines (ds : DatasetId) : List RoutineRecord :=
  (st.routines.filter fun row => row.dataset = ds).insertionSort fun a b =>
    a.routineId ≤ b.routineId

def datasetGovernance (ds : DatasetId) (dir : DatasetDir) :
    List (TableId × TableGovernance) :=
  (dir.tableIds.map fun id => (ds.table id, st.governance.loadTableGovernance (ds.table id))).filter
    fun (_, gov) => !(gov.rowAccessPolicies.isEmpty && gov.columns.isEmpty)

/-- `SnapshotDatasetRegistryForTombstoneLocked` and the manifest. -/
def snapshot (ds : DatasetId) (dir : DatasetDir) : DatasetTombstone where
  metaJson := dir.metaJson
  tablesJson := renderTablesManifestJson dir.tableIds
  viewsJson := join (jsonArray ((st.datasetViews ds).map renderViewRecordJson))
  routinesJson := join (jsonArray ((st.datasetRoutines ds).map renderRoutineRecordJson))
  governanceJson := renderGovernanceSnapshotJson (st.datasetGovernance ds dir)

def purgeDatasetRegistryRows (ds : DatasetId) : DataDir :=
  { st with
    views := st.views.select fun row => row.dataset ≠ ds
    routines := st.routines.filter fun row => row.dataset ≠ ds
    governance := st.governance.purge ds }

def putTombstone (ds : DatasetId) (ms : Int) (tombstone : DatasetTombstone) : DataDir :=
  let key := datasetTombstoneKey ds
  { st with datasetTombstones := fun key' =>
      if key' = key then
        (ms, tombstone) :: (st.datasetTombstones key).filter fun entry => entry.1 ≠ ms
      else st.datasetTombstones key' }

/-- DropDataset with `delete_contents`, at the given time. -/
def dropDataset (ds : DatasetId) (deletedMs : Int) : DataDir × Except Status Unit :=
  match st.datasets ds with
  | none => (st, .error (notFoundDataset ds))
  | some dir =>
    let marked := st.putTombstone ds deletedMs (st.snapshot ds dir)
    let moved := dir.listed.foldl (fun st table => st.moveTableToTombstone ds deletedMs table) marked
    ((moved.purgeDatasetRegistryRows ds).setDataset ds none, .ok ())

/-- The latest time among the tombstones that are still in the window. -/
def latestDatasetTombstoneMs (ds : DatasetId) (nowMs : Int) : Except Status Int :=
  let kept := ((st.datasetTombstones (datasetTombstoneKey ds)).map Prod.fst).filter fun ms =>
    nowMs - timeTravelWindowMs ≤ ms
  match kept with
  | [] => .error ⟨.notFound, "no tombstones for dataset " ++ ds.projectId ++ "." ++ ds.datasetId⟩
  | first :: rest => .ok (rest.foldl max first)

def tombstoneRetentionOk (deletedMs nowMs : Int) : Except Status Unit :=
  if deletedMs + timeTravelWindowMs < nowMs then
    .error ⟨.notFound, "tombstone is past the retention window"⟩
  else .ok ()

def removeTableTombstone (ds : DatasetId) (id : String) (ms : Int) : DataDir :=
  { st with tableTombstones := fun key' id' ms' =>
      if key' = datasetTombstoneKey ds ∧ id' = id ∧ ms' = ms then none
      else st.tableTombstones key' id' ms' }

def restoreTableFromTombstone (ds : DatasetId) (dir : DatasetDir) (chosen : Int)
    (id : String) : DataDir × Except Status DatasetDir :=
  if present : id ∈ dir.tables.map Prod.fst then
    (st, .error ⟨.alreadyExists, "table already exists: " ++ qualifiedName (ds.table id)⟩)
  else match st.tableTombstones (datasetTombstoneKey ds) id chosen with
    | none => (st, .error ⟨.notFound, "tombstone not found for table " ++
        qualifiedName (ds.table id) ++ " at " ++ toString chosen⟩)
    | some stored => (st.removeTableTombstone ds id chosen, .ok (dir.add id stored present))

def restoreTables (ds : DatasetId) (chosen : Int) : DataDir → DatasetDir → List String →
    DataDir × Except Status Unit
  | st, dir, [] => (st.setDataset ds (some dir), .ok ())
  | st, dir, id :: rest =>
    match st.restoreTableFromTombstone ds dir chosen id with
    | (after, .error e) => (after.setDataset ds (some dir), .error e)
    | (after, .ok dir) => restoreTables ds chosen after dir rest

/-- The sidecar for a record as `views.json` has it, without a query and a schema: the DDL
text stands in for the query. -/
def viewSidecar (row : ViewRow) : Sidecar where
  tableType := "VIEW"
  viewQuery := row.ddlSql
  ddlSql := row.ddlSql
  schema := ⟨[]⟩

/-- `UpsertViewLocked`, for such a record. -/
def upsertView (row : ViewRow) : DataDir :=
  let written := match st.datasets row.dataset with
    | none => st
    | some dir => st.setDataset row.dataset (some (dir.writeSidecar row.viewId (viewSidecar row)))
  { written with views := st.views.upsert row }

def upsertRoutine (rec : RoutineRecord) : DataDir :=
  { st with routines :=
      (st.routines.filter fun other =>
        !(other.dataset = rec.dataset && other.routineId = rec.routineId)) ++ [rec] }

/-- Entries are read and stored one after another. -/
def restoreRegistry {record : Type} (parse : List Char → Except Status record)
    (upsert : DataDir → record → DataDir) : DataDir → List (List Char) → DataDir × Except Status Unit
  | st, [] => (st, .ok ())
  | st, entry :: rest =>
    match parse entry with
    | .error e => (st, .error e)
    | .ok record => restoreRegistry parse upsert (upsert st record) rest

def restoreDatasetRegistryFromTombstone (ds : DatasetId)
    (tombstone : DatasetTombstone) : DataDir × Except Status Unit :=
  match restoreRegistry (fun json => parseViewRecordJson json ds) upsertView st
      (splitTopLevelJsonObjects tombstone.viewsJson) with
  | (after, .error e) => (after, .error e)
  | (after, .ok ()) =>
    match restoreRegistry (fun json => parseRoutineRecordJson json ds) upsertRoutine after
        (splitTopLevelJsonObjects tombstone.routinesJson) with
    | (after, .error e) => (after, .error e)
    | (after, .ok ()) =>
      let restored := restoreGovernanceFromSnapshot after.governance ds tombstone.governanceJson
      ({ after with governance := restored.1 }, restored.2)

def removeTombstone (ds : DatasetId) (ms : Int) : DataDir :=
  { st with datasetTombstones := fun key =>
      if key = datasetTombstoneKey ds then
        (st.datasetTombstones key).filter fun entry => entry.1 ≠ ms
      else st.datasetTombstones key }

/-- RestoreDataset of the latest tombstone, at the given time. -/
def restoreDataset (ds : DatasetId) (nowMs : Int) : DataDir × Except Status Unit :=
  if (st.datasets ds).isSome then
    (st, .error ⟨.alreadyExists, "dataset already exists: " ++ ds.projectId ++ "." ++ ds.datasetId⟩)
  else match st.latestDatasetTombstoneMs ds nowMs with
    | .error e => (st, .error e)
    | .ok chosen =>
      match tombstoneRetentionOk chosen nowMs with
      | .error e => (st, .error e)
      | .ok () =>
        match (st.datasetTombstones (datasetTombstoneKey ds)).lookup chosen with
        | none => (st, .error ⟨.notFound, "tombstone not found for dataset " ++ ds.projectId ++
            "." ++ ds.datasetId ++ " at " ++ toString chosen⟩)
        | some tombstone =>
          match restoreTables ds chosen st { metaJson := tombstone.metaJson }
              (parseTablesManifestJson tombstone.tablesJson) with
          | (after, .error e) => (after, .error e)
          | (after, .ok ()) =>
            match after.restoreDatasetRegistryFromTombstone ds tombstone with
            | (after, .error e) => (after, .error e)
            | (after, .ok ()) => (after.removeTombstone ds chosen, .ok ())
end DataDir
end BigQueryEmulator.Storage
