import BigQueryEmulator.Ddl.Store

/-! The targets of DDL statements (`control_op_ddl.cc`) and ALTER TABLE
(`control_op_alter_table.cc`). The actions are applied to the list of columns; the rows are copied
once for all of them, by position if a column was added and by name if none was. -/
namespace BigQueryEmulator.Ddl
open Storage Effects Store Fallible

structure QueryRequest where
  sql : String
  projectId : String
  defaultDatasetId : String

/-- One-segment paths use the default dataset, two-segment paths the default project; a single
segment with dots in it is taken apart first. -/
def namePathToTableId (namePath : List String) (defaultProjectId defaultDatasetId : String) :
    Except Status TableId :=
  let segments :=
    match namePath with
    | [segment] => segment.splitOn "."
    | segments => segments
  match segments with
  | [table] =>
    if defaultDatasetId.isEmpty then
      .error ⟨.invalidArgument, "control op executor: DDL target name must be " ++
        "<dataset>.<table> or <project>.<dataset>.<table>; got 1 segment (" ++ table ++
        ") with no defaultDataset in the query request"⟩
    else .ok ⟨defaultProjectId, defaultDatasetId, table⟩
  | [dataset, table] => .ok ⟨defaultProjectId, dataset, table⟩
  | [project, dataset, table] => .ok ⟨project, dataset, table⟩
  | _ =>
    .error ⟨.invalidArgument, "control op executor: DDL target name must be " ++
      "<dataset>.<table> or <project>.<dataset>.<table>; got " ++ toString segments.length ++
      " segments"⟩

abbrev Names (request : QueryRequest) (namePath : List String) (target : TableId) : Prop :=
  namePathToTableId namePath request.projectId request.defaultDatasetId = .ok target

def Store.addDataset (st : Store) (projectId datasetId : String)
    (names : projectId.isEmpty = false ∧ datasetId.isEmpty = false) : Store where
  datasets := fun project dataset =>
    (project == projectId && dataset == datasetId) || st.datasets project dataset
  tables := st.tables
  named := by
    intro project dataset present
    rcases Bool.or_eq_true_iff.mp present with new | old
    · obtain ⟨rfl, rfl⟩ : project = projectId ∧ dataset = datasetId := by simpa using new
      exact names
    · exact st.named project dataset old
  housed := by
    intro id stored
    obtain ⟨home, name⟩ := st.housed id stored
    exact ⟨by rw [home, Bool.or_true], name⟩

/-- `CreateDataset`, where an existing dataset is no error. -/
def ensureDatasetExists (target : TableId) (fault : Fault) : Command Unit :=
  .change fun st =>
    if target.datasetId.isEmpty then
      .error ⟨.invalidArgument, "EnsureDatasetExists: dataset_id must be non-empty"⟩
    else if names : target.projectId.isEmpty = false ∧ target.datasetId.isEmpty = false then
      if st.datasets target.projectId target.datasetId then .ok st
      else perform (.ok (st.addDataset target.projectId target.datasetId names)) fault
    else
      .error ⟨.invalidArgument, "CreateDataset: project_id and dataset_id must be non-empty"⟩

def Store.Admits (st : Store) (target : TableId) (fault : Fault) : Prop :=
  (target.projectId.isEmpty = false ∧ target.datasetId.isEmpty = false) ∧
    (st.datasets target.projectId target.datasetId = true ∨ fault = none)

def Store.ensured (st : Store) (target : TableId) : Store :=
  if names : target.projectId.isEmpty = false ∧ target.datasetId.isEmpty = false then
    if st.datasets target.projectId target.datasetId then st
    else st.addDataset target.projectId target.datasetId names
  else st

section
variable {target : TableId} {fault : Fault} {st : Store}

@[simp] theorem Store.ensured_tables : (st.ensured target).tables = st.tables := by
  unfold ensured
  split
  · split <;> rfl
  · rfl

theorem Store.Admits.home (admits : st.Admits target fault) :
    (st.ensured target).datasets target.projectId target.datasetId = true := by
  rw [ensured, dif_pos admits.1]
  split
  next present => exact present
  next => simp [addDataset]

theorem ensureDatasetExists_admitted (admits : st.Admits target fault) :
    (ensureDatasetExists target fault).outcome st = (.ok (), st.ensured target) := by
  obtain ⟨names, present | calm⟩ := admits
  · rw [ensureDatasetExists, Work.change_ok_iff, if_neg (by simp [names.2]), dif_pos names,
      if_pos present, ensured, dif_pos names, if_pos present]
  · rw [ensureDatasetExists, Work.change_ok_iff, if_neg (by simp [names.2]), dif_pos names,
      ensured, dif_pos names, calm]
    split <;> rfl

theorem ensureDatasetExists_refused (refused : ¬ st.Admits target fault) :
    ∃ e, (ensureDatasetExists target fault).outcome st = (.error e, st) := by
  simp only [ensureDatasetExists, Work.change_error_iff, and_true]
  by_cases names : target.projectId.isEmpty = false ∧ target.datasetId.isEmpty = false
  · rw [if_neg (by simp [names.2]), dif_pos names]
    have absent : ¬ st.datasets target.projectId target.datasetId = true :=
      fun present => refused ⟨names, .inl present⟩
    cases fault with
    | none => exact absurd ⟨names, .inr rfl⟩ refused
    | some breakdown => exact ⟨breakdown.status, by rw [if_neg absent]; rfl⟩
  · split <;> exact ⟨_, rfl⟩

theorem ensureDatasetExists_stored (stored : st.tables target = some table) :
    (ensureDatasetExists target fault).outcome st = (.ok (), st) := by
  have home := (houses_of_stored stored).1
  have names := st.named _ _ home
  rw [ensureDatasetExists_admitted ⟨names, .inl home⟩, ensured, dif_pos names, if_pos home]

end

/-- A column definition; `converted` is what `TypeToFieldSchema`, `ApplyAnnotations` and
`ColumnSchemaFromProto` make of its type. -/
structure ColumnDefinition where
  name : String
  converted : Except Breakdown (ColumnType × ColumnMode)

def ColumnDefinition.schema (definition : ColumnDefinition) : Except Status ColumnSchema :=
  match definition.converted with
  | .error breakdown => .error breakdown.status
  | .ok (type, mode) => .ok { name := definition.name, type, mode }

inductive AlterAction where
  | addColumn (definition : ColumnDefinition) (ifNotExists : Bool)
  | dropColumn (name : String) (ifExists : Bool)
  | renameColumn (name newName : String) (ifExists : Bool)
  | setOptions
  | unsupported (kind : String)

structure Alteration where
  columns : List ColumnSchema
  added : List ColumnSchema := []
  changed : Bool := false

def hasName (name : String) (column : ColumnSchema) : Bool := column.name == name

def updateFirst {α : Type} (matched : α → Bool) (update : α → α) : List α → List α
  | [] => []
  | x :: rest => if matched x then update x :: rest else x :: updateFirst matched update rest

def processAddColumnAction (definition : ColumnDefinition) (ifNotExists : Bool)
    (columns : List ColumnSchema) (target : TableId) : Except Status (Option ColumnSchema) :=
  if columns.any (hasName definition.name) then
    if ifNotExists then .ok none
    else
      .error ⟨.alreadyExists, "control op executor: ALTER TABLE ADD COLUMN: column '" ++
        definition.name ++ "' already exists on table " ++ qualifiedTable target⟩
  else definition.schema.map some

def applyDropColumnAction (name : String) (ifExists : Bool) (columns : List ColumnSchema)
    (target : TableId) : Except Status (List ColumnSchema) :=
  if columns.any (hasName name) then .ok (columns.eraseP (hasName name))
  else if ifExists then .ok columns
  else
    .error ⟨.notFound, "control op executor: ALTER TABLE DROP COLUMN: column '" ++ name ++
      "' not found on table " ++ qualifiedTable target⟩

def applyRenameColumnAction (name newName : String) (ifExists : Bool)
    (columns : List ColumnSchema) (target : TableId) : Except Status (List ColumnSchema) :=
  if columns.any (hasName name) then
    .ok (updateFirst (hasName name) (fun column => { column with name := newName }) columns)
  else if ifExists then .ok columns
  else
    .error ⟨.notFound, "control op executor: ALTER TABLE RENAME COLUMN: column '" ++ name ++
      "' not found on table " ++ qualifiedTable target⟩

variable (target : TableId)

def applyAlterAction (alteration : Alteration) :
    AlterAction → Except Status Alteration
  | .addColumn definition ifNotExists => do
    match ← processAddColumnAction definition ifNotExists alteration.columns target with
    | none => return alteration
    | some column =>
      return ⟨alteration.columns ++ [column], alteration.added ++ [column], true⟩
  | .dropColumn name ifExists =>
    (applyDropColumnAction name ifExists alteration.columns target).map fun columns =>
      { alteration with columns, changed := true }
  | .renameColumn name newName ifExists =>
    (applyRenameColumnAction name newName ifExists alteration.columns target).map fun columns =>
      { alteration with columns, changed := true }
  | .setOptions => .ok alteration
  | .unsupported kind =>
    .error ⟨.unimplemented, "control op executor: ALTER TABLE action " ++ kind ++
      " is not implemented"⟩

def copyRowsForAlter (added : List ColumnSchema) (fault : Fault) :
    Command (List Row) := do
  let rows ← scanRows target fault
  return rows.map fun row => ⟨row.cells ++ added.map fun _ => .null⟩

def cellNamed (old : List ColumnSchema) (row : Row) (name : String) : Value :=
  match old.findIdx? (hasName name) with
  | some idx => row.cells.getD idx .null
  | none => .null

def projectRow (old new : List ColumnSchema) (row : Row) : Except Status Row :=
  if row.cells.length ≠ old.length then
    .error ⟨.internal, "control op executor: ALTER TABLE row shape mismatch"⟩
  else .ok ⟨new.map fun column => cellNamed old row column.name⟩

def copyRowsWithSchema (old new : List ColumnSchema) (fault : Fault) :
    Command (List Row) := do
  let rows ← scanRows target fault
  Work.step (rows.mapM (projectRow old new))

def rebuildTableWithColumns (schema : TableSchema) (rows : List Row)
    (faults : StorageFaults) : Command Unit := do
  dropTable target faults.drop
  createTable target schema faults.create
  if rows.isEmpty then return
  appendRows target rows faults.append

structure AlterTableStmt where
  namePath : List String
  ifExists : Bool := false
  actions : List AlterAction

/-- The part of `RunAlterTable` after the table was found. -/
def alterTable (existing : List ColumnSchema) (actions : List AlterAction)
    (faults : StorageFaults) : Command Unit := do
  let alteration ← Work.step (actions.foldlM (applyAlterAction target) ⟨existing, [], false⟩)
  if !alteration.changed then return
  let rows ←
    if alteration.added.isEmpty then copyRowsWithSchema target existing alteration.columns faults.scan
    else copyRowsForAlter target alteration.added faults.scan
  rebuildTableWithColumns target ⟨alteration.columns⟩ rows faults

def runAlterTable (request : QueryRequest) (stmt : AlterTableStmt) (faults : StorageFaults) :
    Command Unit := do
  let target ← Work.step
    (namePathToTableId stmt.namePath request.projectId request.defaultDatasetId)
  match ← (getSchema target faults.getSchema).attempt with
  | .error e => if e.code = .notFound && stmt.ifExists then return else throw e
  | .ok existing => alterTable target existing.columns stmt.actions faults

def copiedRows (table : Table) (alteration : Alteration) : List Row :=
  if alteration.added.isEmpty then
    table.rows.map fun row =>
      ⟨alteration.columns.map fun column => cellNamed table.schema.columns row column.name⟩
  else table.rows.map fun row => ⟨row.cells ++ alteration.added.map fun _ => .null⟩

section
variable {target : TableId} {table : Table} {st : Store}

theorem copied_outcome (alteration : Alteration) (faults : StorageFaults)
    (stored : st.tables target = some table) :
    (if alteration.added.isEmpty then do
        let rows ← copyRowsWithSchema target table.schema.columns alteration.columns faults.scan
        rebuildTableWithColumns target ⟨alteration.columns⟩ rows faults
      else do
        let rows ← copyRowsForAlter target alteration.added faults.scan
        rebuildTableWithColumns target ⟨alteration.columns⟩ rows faults : Command Unit).outcome st =
      (Work.step (perform (.ok (copiedRows table alteration)) faults.scan) >>= fun rows =>
        rebuildTableWithColumns target ⟨alteration.columns⟩ rows faults).outcome st := by
  have scanned := @scanRows_stored target faults.scan st table stored
  rw [copiedRows]
  generalize faults.scan = fault at scanned ⊢
  cases fault with
  | some breakdown =>
    split <;> exact Work.outcome_bind_error (Work.outcome_bind_error scanned)
  | none =>
    split
    · refine (Work.outcome_bind_ok ((Work.outcome_bind_ok scanned).trans ?_)).trans rfl
      refine congrArg (·, st) (mapM_same fun row stored => ?_)
      exact if_neg (not_not.mpr (table.shaped row stored))
    · exact Work.outcome_bind_ok (Work.outcome_bind_ok scanned)

end

end BigQueryEmulator.Ddl
