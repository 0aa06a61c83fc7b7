import BigQueryEmulator.Ddl.Create
import BigQueryEmulator.Engine.Parameters
import BigQueryEmulator.Lookup

/-! LOAD DATA (`control_op_load_data.cc`): a file is read into a staging table of the in-memory
DuckDB, and its rows are appended to the target or take the place of the old ones. The rows of the
file go into the columns by position. -/
namespace BigQueryEmulator.Ddl
open Storage Effects List Engine

inductive InsertionMode where
  | append
  | overwrite
  deriving DecidableEq

/-- An option of FROM FILES, with what `OptionStringValue` and `ExtractStringArrayLiteral` make
of its value. -/
structure FileOption where
  name : String
  text : Except Breakdown String
  texts : Except Breakdown (List String)

structure LoadDataStmt where
  namePath : List String
  insertionMode : InsertionMode
  columns : List ColumnDefinition := []
  fromFilesOptions : List FileOption

def escapePathLiteral (path : String) : String :=
  String.ofList (escapeStringLiteralInner path.toList)

def buildReadSql (path format : String) : Except Status String :=
  let upper := format.map Char.toUpper
  let escaped := escapePathLiteral path
  if upper = "CSV" ∨ upper.isEmpty then
    .ok ("SELECT * FROM read_csv_auto('" ++ escaped ++ "', header = true)")
  else if upper = "JSON" ∨ upper = "NEWLINE_DELIMITED_JSON" then
    .ok ("SELECT * FROM read_json_auto('" ++ escaped ++ "')")
  else if upper = "PARQUET" then .ok ("SELECT * FROM read_parquet('" ++ escaped ++ "')")
  else
    .error ⟨.invalidArgument, "control op executor: LOAD DATA unsupported format '" ++ format ++
      "'"⟩

def resolveLoadSchema (target : TableId) (columns : List ColumnDefinition) (fault : Fault)
    (st : Store) : Except Status TableSchema :=
  if columns.isEmpty then
    match perform ((st.find target).map Table.schema) fault with
    | .ok schema => .ok schema
    | .error _ =>
      .error ⟨.invalidArgument, "control op executor: LOAD DATA requires an explicit column " ++
        "list or an existing destination table schema"⟩
  else columnDefinitionListToTableSchema columns

def parseFileOption (options : String × List String) (opt : FileOption) :
    Except Status (String × List String) :=
  if equalsIgnoreCase opt.name "format" then (raised opt.text).map fun format => (format, options.2)
  else if equalsIgnoreCase opt.name "uris" then (raised opt.texts).map fun uris => (options.1, uris)
  else .ok options

def parseLoadDataFileOptions (options : List FileOption) : Except Status (String × String) := do
  let (format, uris) ← options.foldlM parseFileOption ("CSV", [])
  match uris with
  | [] =>
    .error ⟨.invalidArgument, "control op executor: LOAD DATA requires FROM FILES " ++
      "(uris = [...])"⟩
  | [uri] => .ok (format, uri)
  | _ =>
    .error ⟨.unimplemented, "control op executor: LOAD DATA multi-file uris are not " ++
      "implemented yet"⟩

def loadRowsFromUri (env : DdlEnv) (uri format : String) : Except Status (List Row) := do
  let path ← raised (env.localPath uri)
  fallible env.session
  let readSql ← buildReadSql path format
  let sql := "CREATE OR REPLACE TEMP TABLE " ++ quoteIdent "__bqemu_load_staging" ++ " AS " ++ readSql
  match env.duckdb sql [] with
  | .error detail => .error ⟨.internal, "ControlOpExecutor: query failed: " ++ sql ++ ": " ++ detail⟩
  | .ok rows => perform (.ok rows) env.drain

def ensureTargetTableForLoadMode (target : TableId) (schema : TableSchema) (mode : InsertionMode)
    (faults : StorageFaults) : Command Unit :=
  match mode with
  | .overwrite => do
    dropExisting target faults.drop
    createTable target schema faults.create
  | .append => do
    match ← (getSchema target faults.getSchema).attempt with
    | .error _ => createTable target schema faults.create
    | .ok _ => return

def runLoadData (request : QueryRequest) (stmt : LoadDataStmt) (env : DdlEnv) : Command Unit := do
  let target ← Work.step
    (namePathToTableId stmt.namePath request.projectId request.defaultDatasetId)
  ensureDatasetExists target env.createDataset
  let (format, uri) ← Work.step (parseLoadDataFileOptions stmt.fromFilesOptions)
  let schema ← Work.look (resolveLoadSchema target stmt.columns env.getSchema)
  let rows ← Work.step (loadRowsFromUri env uri format)
  ensureTargetTableForLoadMode target schema stmt.insertionMode env.toStorageFaults
  if rows.isEmpty then return
  appendRows target rows env.append

variable {request : QueryRequest} {stmt : LoadDataStmt} {st : Store} {target : TableId}
  {table : Table} {localPath : String → Except Breakdown String} {columns : List String}
  {rows : List Row}

def foldedName (name : String) : List Char := name.toList.map Char.toLower

/-- The value that a row of the file has in a column; a column that the file does not have is
NULL. -/
def fileValue (columns : List String) (row : Row) (name : String) : Value :=
  (((columns.map foldedName).zip row.cells).lookup (foldedName name)).getD .null

def namedRow (columns : List String) (schema : TableSchema) (row : Row) : Row :=
  ⟨schema.columns.map fun column => fileValue columns row column.name⟩

/-- Storage and DuckDB without errors. DuckDB lists the columns of a file in the order of the
file. -/
def fileEnv (localPath : String → Except Breakdown String) (rows : List Row) : DdlEnv where
  duckdb := fun _ _ => .ok rows
  localPath := localPath

def LoadDataStmt.Readable (stmt : LoadDataStmt) (localPath : String → Except Breakdown String)
    (st : Store) (target : TableId) : Prop :=
  ∃ format uri path sql schema, parseLoadDataFileOptions stmt.fromFilesOptions = .ok (format, uri) ∧
    localPath uri = .ok path ∧ buildReadSql path format = .ok sql ∧
    resolveLoadSchema target stmt.columns none st = .ok schema

section
variable
  (named : Names request stmt.namePath target)
  (appends : stmt.insertionMode = .append) (stored : st.tables target = some table)
  (readable : stmt.Readable localPath st target)
include named appends stored readable

theorem runLoadData_run :
    (runLoadData request stmt (fileEnv localPath rows)).outcome st =
      if rows.isEmpty then (.ok (), st) else (appendRows target rows none).outcome st := by
  obtain ⟨format, uri, path, sql, schema, options, found, reads, resolved⟩ := readable
  have loaded : loadRowsFromUri (fileEnv localPath rows) uri format = .ok rows := by
    change (raised (localPath uri) >>= _) = _
    rw [found]
    change (buildReadSql path format >>= _) = _
    rw [reads]
    rfl
  unfold runLoadData
  rw [Work.outcome_bind, Work.outcome_step, named]
  dsimp only
  rw [Work.outcome_bind_ok (ensureDatasetExists_stored stored), Work.outcome_bind,
    Work.outcome_step, options]
  dsimp only
  rw [Work.outcome_bind, Work.outcome_look]
  have resolved : resolveLoadSchema target stmt.columns (fileEnv localPath rows).getSchema st =
      .ok schema := resolved
  rw [resolved]
  dsimp only
  rw [Work.outcome_bind, Work.outcome_step, loaded]
  dsimp only
  have there : (ensureTargetTableForLoadMode target schema .append
      (fileEnv localPath rows).toStorageFaults).outcome st = (.ok (), st) := by
    unfold ensureTargetTableForLoadMode
    rw [Work.outcome_bind, Work.outcome_attempt, getSchema_stored stored]
    rfl
  rw [appends, Work.outcome_bind_ok there]
  split <;> rfl

/-- The rows come into the table as they are if they have one cell per column, and else the
statement fails. -/
theorem runLoadData_adds_iff :
    (∃ t after, (runLoadData request stmt (fileEnv localPath rows)).outcome st = (.ok (), t) ∧
        t.tables target = some after ∧ after.schema = table.schema ∧
          after.rows = table.rows ++ new) ↔
      new = rows ∧ ∀ row ∈ rows, row.cells.length = table.schema.columns.length := by
  rw [runLoadData_run named appends stored readable]
  split
  next empty =>
    rw [isEmpty_iff.mp empty]
    constructor
    · rintro ⟨t, after, ran, there, -, added⟩
      cases ran
      cases Option.some.inj (stored.symm.trans there)
      exact ⟨self_eq_append_right.mp added, by simp⟩
    · rintro ⟨rfl, -⟩
      exact ⟨st, table, rfl, stored, rfl, by rw [append_nil]⟩
  next =>
    constructor
    · rintro ⟨t, after, ran, there, -, added⟩
      obtain ⟨-, found, shaped, home, same, rfl⟩ := writeChecked_ok ran
      cases Option.some.inj (stored.symm.trans same)
      rw [Store.put_same] at there
      cases there
      exact ⟨(append_cancel_left added).symm, shaped⟩
    · rintro ⟨rfl, shaped⟩
      exact ⟨_, _, writeChecked_fits stored shaped, Store.put_same, rfl, rfl⟩

end

section
variable {holds : String → Value → Prop}

theorem fileValue_single (other : columns[i]?.map foldedName ≠ some (foldedName name)) :
    fileValue columns ⟨(columns.map fun _ => .null).set i value⟩ name = .null := by
  unfold fileValue
  cases found : ((columns.map foldedName).zip ((columns.map fun _ => Value.null).set i value)).lookup
      (foldedName name) with
  | none => rfl
  | some cell =>
    obtain ⟨before, after, at_cell, -⟩ := lookup_eq_some_iff.mp found
    have among : (foldedName name, cell) ∈
        (columns.map foldedName).zip ((columns.map fun _ => Value.null).set i value) := by
      rw [at_cell]
      simp
    obtain ⟨j, within, here⟩ := mem_iff_getElem.mp among
    rw [getElem_zip, Prod.mk.injEq, getElem_map, getElem_set] at here
    obtain ⟨here, content⟩ := here
    by_cases at_i : i = j
    · subst at_i
      have there : i < columns.length := by simpa using within
      exact absurd (by rw [getElem?_eq_getElem there, Option.map_some, here]) other
    · rw [if_neg at_i, getElem_map] at content
      rw [← content]
      rfl

theorem namedRow_same
    (names : columns.map foldedName = table.schema.columns.map fun column => foldedName column.name)
    (distinct : (table.schema.columns.map fun column => foldedName column.name).Nodup)
    (shaped : row.cells.length = columns.length) : namedRow columns table.schema row = row := by
  have width : columns.length = table.schema.columns.length := by
    simpa using congrArg length names
  cases row with
  | mk cells =>
    unfold namedRow
    congr 1
    refine ext_getElem (by rw [length_map]; exact (shaped.trans width).symm) ?_
    intro i there here
    have at_i : i < columns.length := shaped ▸ here
    have same : foldedName columns[i] = foldedName (table.schema.columns.get ⟨i, width ▸ at_i⟩).name := by
      have both := congrArg (fun list => list[i]?) names
      simpa [at_i, width ▸ at_i] using both
    have keys : ((columns.map foldedName).zip cells).map Prod.fst = columns.map foldedName :=
      map_fst_zip (by simpa using shaped.ge)
    have among : (foldedName columns[i], cells[i]) ∈ (columns.map foldedName).zip cells := by
      refine mem_iff_getElem.mpr ⟨i, by simp [at_i, shaped], ?_⟩
      simp
    have found := (Lookup.lookup_eq_some_iff_mem (by rw [keys, names]; exact distinct)).mpr among
    rw [getElem_map]
    rw [same] at found
    exact congrArg (fun cell => cell.getD Value.null) found

/-- LOAD DATA INTO loads files of every content by name exactly if the file has the columns of the
table in the order of the table. -/
theorem runLoadData_by_name_iff (named : Names request stmt.namePath target)
    (appends : stmt.insertionMode = .append) (stored : st.tables target = some table)
    (readable : stmt.Readable localPath st target)
    (distinct : (table.schema.columns.map fun column => foldedName column.name).Nodup)
    (null : ∀ column ∈ columns, holds column .null)
    (given : ∀ column ∈ columns, ∃ value, value ≠ Value.null ∧ holds column value) :
    (∀ rows : List Row, (∀ row ∈ rows, List.Forall₂ holds columns row.cells) →
        ∃ t after, (runLoadData request stmt (fileEnv localPath rows)).outcome st = (.ok (), t) ∧
          t.tables target = some after ∧ after.schema = table.schema ∧
            after.rows = table.rows ++ rows.map (namedRow columns table.schema)) ↔
      columns.map foldedName = table.schema.columns.map fun column => foldedName column.name := by
  simp only [runLoadData_adds_iff named appends stored readable]
  constructor
  · intro by_name
    have width : columns.length = table.schema.columns.length := by
      have nulls : List.Forall₂ holds columns (columns.map fun _ => Value.null) := by
        rw [forall₂_map_right_iff]
        exact forall₂_same.mpr null
      have shaped := (by_name [⟨columns.map fun _ => .null⟩] (by simpa using nulls)).2
      simpa using shaped
    refine ext_getElem (by simpa using width) fun i here there => ?_
    rw [length_map] at here there
    rw [getElem_map, getElem_map]
    by_contra differ
    obtain ⟨value, real, held⟩ := given columns[i] (getElem_mem here)
    let row : Row := ⟨(columns.map fun _ => .null).set i value⟩
    have fits : List.Forall₂ holds columns row.cells := by
      refine forall₂_iff_get.mpr ⟨by simp [row], fun j first second => ?_⟩
      change holds columns[j] ((columns.map fun _ => Value.null).set i value)[j]
      rw [getElem_set]
      split
      next same =>
        subst same
        exact held
      next =>
        rw [getElem_map]
        exact null _ (getElem_mem first)
    have same := (by_name [row] (by simpa using fits)).1
    have cells : namedRow columns table.schema row = row := by simpa using same
    have at_i := congrArg (fun row : Row => row.cells[i]?) cells
    have left : (namedRow columns table.schema row).cells[i]? = some .null := by
      have other : columns[i]?.map foldedName ≠
          some (foldedName (table.schema.columns.get ⟨i, there⟩).name) := by
        rw [getElem?_eq_getElem here, Option.map_some]
        exact fun same => differ (Option.some.inj same)
      change (table.schema.columns.map fun column => fileValue columns row column.name)[i]? = _
      rw [getElem?_map, getElem?_eq_getElem there, Option.map_some]
      exact congrArg some (fileValue_single other)
    have right : row.cells[i]? = some value := by
      rw [getElem?_set_self (by simpa using here)]
    rw [left, right] at at_i
    exact real (Option.some.inj at_i).symm
  · intro names rows fits
    have width : columns.length = table.schema.columns.length := by
      simpa using congrArg length names
    refine ⟨?_, fun row among => (fits row among).length_eq.symm.trans width⟩
    refine (map_congr_left fun row among => ?_).trans (map_id rows)
    exact namedRow_same names distinct (fits row among).length_eq.symm

end

end BigQueryEmulator.Ddl
