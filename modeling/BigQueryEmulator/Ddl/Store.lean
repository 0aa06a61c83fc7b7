import BigQueryEmulator.Effects
import BigQueryEmulator.Storage.Tables

/-! The calls of `storage::Storage` that the control-op executor makes, as `storage.h`
describes them. Errors of the disk and of DuckDB are faults of the call; a call that fails
changes nothing. -/
namespace BigQueryEmulator.Ddl
open Storage Effects DuckDBStorage

/-- A table as the callers of the interface see it. Every row has one cell per column. -/
@[ext]
structure Table where
  schema : TableSchema
  rows : List Row
  shaped : ∀ row ∈ rows, row.cells.length = schema.columns.length

/-- Datasets and tables. Names are not empty, and a table is in a dataset. -/
@[ext]
structure Store where
  datasets : String → String → Bool
  tables : TableId → Option Table
  named : ∀ project dataset, datasets project dataset = true →
    project.isEmpty = false ∧ dataset.isEmpty = false
  housed : ∀ id, (tables id).isSome →
    datasets id.projectId id.datasetId = true ∧ id.tableId.isEmpty = false

/-- An error of the disk or of DuckDB. What is missing or there already, the calls say
themselves. -/
structure Breakdown where
  status : Status
  found : status.code ≠ .notFound
  fresh : status.code ≠ .alreadyExists

abbrev Fault := Option Breakdown

structure StorageFaults where
  createDataset : Fault := none
  getSchema : Fault := none
  scan : Fault := none
  drop : Fault := none
  create : Fault := none
  append : Fault := none
  overwrite : Fault := none

abbrev Command := Work Store Status

def qualifiedTable (id : TableId) : String := id.projectId ++ "." ++ id.datasetId ++ "." ++ id.tableId

def datasetNotFound (id : TableId) : Status :=
  ⟨.notFound, "dataset not found: " ++ id.projectId ++ "." ++ id.datasetId⟩

def tableNotFound (id : TableId) : Status := ⟨.notFound, "table not found: " ++ qualifiedTable id⟩

def tableExists (id : TableId) : Status :=
  ⟨.alreadyExists, "table already exists: " ++ qualifiedTable id⟩

variable {rows : List Row}

namespace Table

def empty (schema : TableSchema) : Table := ⟨schema, [], by simp⟩

def append (table : Table) (rows : List Row)
    (shaped : ∀ row ∈ rows, row.cells.length = table.schema.columns.length) : Table where
  schema := table.schema
  rows := table.rows ++ rows
  shaped := by
    intro row among
    rcases List.mem_append.mp among with stored | new
    · exact table.shaped row stored
    · exact shaped row new

end Table

namespace Store

/-- The store has a place for the table. -/
def Houses (st : Store) (id : TableId) : Prop :=
  st.datasets id.projectId id.datasetId = true ∧ id.tableId.isEmpty = false

def remove (st : Store) (id : TableId) : Store where
  datasets := st.datasets
  tables := fun other => if other = id then none else st.tables other
  named := st.named
  housed := by
    intro other stored
    split at stored
    · cases stored
    · exact st.housed other stored

def put (st : Store) (id : TableId) (home : st.Houses id) (table : Table) : Store where
  datasets := st.datasets
  tables := fun other => if other = id then some table else st.tables other
  named := st.named
  housed := by
    intro other stored
    split at stored
    next same =>
      rw [same]
      exact home
    next => exact st.housed other stored

def single (id : TableId) (names : id.projectId.isEmpty = false ∧ id.datasetId.isEmpty = false ∧
    id.tableId.isEmpty = false) (table : Table) : Store where
  datasets := fun project dataset => project == id.projectId && dataset == id.datasetId
  tables := fun other => if other = id then some table else none
  named := by
    intro project dataset present
    obtain ⟨rfl, rfl⟩ : project = id.projectId ∧ dataset = id.datasetId := by simpa using present
    exact ⟨names.1, names.2.1⟩
  housed := by
    intro other stored
    split at stored
    next same =>
      rw [same]
      exact ⟨by simp, names.2.2⟩
    next => cases stored

def find (st : Store) (id : TableId) : Except Status Table :=
  if st.datasets id.projectId id.datasetId then
    match st.tables id with
    | some table => .ok table
    | none => .error (tableNotFound id)
  else .error (datasetNotFound id)

section
variable {st : Store} {id : TableId} {table : Table}

@[simp] theorem remove_same : (st.remove id).tables id = none := if_pos rfl

@[simp] theorem put_same : (st.put id home table).tables id = some table :=
  if_pos rfl

theorem remove_absent (absent : st.tables id = none) : st.remove id = st := by
  refine Store.ext rfl (funext fun other => ?_)
  change (if other = id then none else st.tables other) = _
  split
  next same => rw [same, absent]
  next => rfl

theorem houses_of_stored (stored : st.tables id = some table) : st.Houses id :=
  st.housed id (by rw [stored]; rfl)

theorem find_ok (ok : st.find id = .ok table) : st.tables id = some table := by
  unfold find at ok
  split at ok
  next =>
    split at ok
    next found =>
      cases ok
      exact found
    next => cases ok
  next => cases ok

theorem find_stored (stored : st.tables id = some table) : st.find id = .ok table := by
  rw [find, if_pos (houses_of_stored stored).1, stored]

theorem find_absent (absent : st.tables id = none) :
    ∃ e, st.find id = .error e ∧ e.code = .notFound := by
  unfold find
  split
  · exact ⟨_, by rw [absent], rfl⟩
  · exact ⟨_, rfl, rfl⟩

end

def update (id : TableId) (change : Table → Except Status Table) (st : Store) :
    Except Status Store :=
  match found : st.find id with
  | .error e => .error e
  | .ok table => (change table).map (st.put id (houses_of_stored (find_ok found)))

def dropTable (id : TableId) (st : Store) : Except Status Store :=
  (st.find id).map fun _ => st.remove id

def createTable (id : TableId) (schema : TableSchema) (st : Store) : Except Status Store :=
  if unnamed : id.tableId.isEmpty = true then
    .error ⟨.invalidArgument, "CreateTable: table_id must be non-empty"⟩
  else if home : st.datasets id.projectId id.datasetId = true then
    if (st.tables id).isSome then .error (tableExists id)
    else .ok (st.put id ⟨home, by simpa using unnamed⟩ (.empty schema))
  else .error (datasetNotFound id)

def appendRows (id : TableId) (rows : List Row) : Store → Except Status Store :=
  update id fun table =>
    match shaped : validateRowsShape "AppendRows" id table.schema.columns.length 0
        rows with
    | .error e => .error e
    | .ok () => .ok (table.append rows (validateRowsShape_ok_iff.mp shaped))

def overwriteRows (id : TableId) (rows : List Row) : Store → Except Status Store :=
  update id fun table =>
    match shaped : validateRowsShape "OverwriteRows" id table.schema.columns.length
        0 rows with
    | .error e => .error e
    | .ok () => .ok ⟨table.schema, rows, validateRowsShape_ok_iff.mp shaped⟩

end Store

section
variable {α : Type}

def fallible (fault : Fault) : Except Status Unit :=
  match fault with
  | some breakdown => .error breakdown.status
  | none => .ok ()

/-- A call checks what it is asked for before it touches the disk. -/
def perform (work : Except Status α) (fault : Fault) : Except Status α := do
  let value ← work
  fallible fault
  return value

def getSchema (id : TableId) (fault : Fault) : Command TableSchema :=
  .look fun st => perform ((st.find id).map Table.schema) fault

def scanRows (id : TableId) (fault : Fault) : Command (List Row) :=
  .look fun st => perform ((st.find id).map Table.rows) fault

def dropTable (id : TableId) (fault : Fault) : Command Unit :=
  .change fun st => perform (st.dropTable id) fault

def createTable (id : TableId) (schema : TableSchema) (fault : Fault) : Command Unit :=
  .change fun st => perform (st.createTable id schema) fault

def appendRows (id : TableId) (rows : List Row) (fault : Fault) : Command Unit :=
  .change fun st => perform (st.appendRows id rows) fault

def overwriteRows (id : TableId) (rows : List Row) (fault : Fault) : Command Unit :=
  .change fun st => perform (st.overwriteRows id rows) fault

end

section
variable {id : TableId} {fault : Fault} {st after : Store} {done : Unit} {table : Table}

theorem perform_ok (ok : perform work fault = .ok value) : work = .ok value ∧ fault = none := by
  obtain ⟨found, worked, ok⟩ := bind_ok ok
  obtain ⟨_, calm, ok⟩ := bind_ok ok
  cases ok
  cases fault with
  | none => exact ⟨worked, rfl⟩
  | some breakdown => cases calm

theorem getSchema_stored (stored : st.tables id = some table) :
    (getSchema id fault).outcome st = (perform (.ok table.schema) fault, st) := by
  rw [getSchema, Work.outcome_look, Store.find_stored stored]
  rfl

theorem observed_ok_iff : perform ((st.find id).map view) fault = .ok value ↔
    ∃ table, st.tables id = some table ∧ fault = none ∧ view table = value := by
  constructor
  · intro answered
    obtain ⟨found, calm⟩ := perform_ok answered
    obtain ⟨table, found, same⟩ := Fallible.map_ok_iff.mp found
    exact ⟨table, Store.find_ok found, calm, same⟩
  · rintro ⟨table, stored, rfl, rfl⟩
    rw [Store.find_stored stored]
    rfl

theorem look_ok (ok : (Work.look fun st => perform ((Store.find st id).map view) fault).outcome st =
      (.ok value, after)) : after = st ∧ ∃ table, st.tables id = some table ∧ view table = value := by
  obtain ⟨answer, rfl⟩ := Prod.mk.inj ok
  obtain ⟨table, stored, -, same⟩ := observed_ok_iff.mp answer
  exact ⟨rfl, table, stored, same⟩

theorem scanRows_stored (stored : st.tables id = some table) :
    (scanRows id fault).outcome st = (perform (.ok table.rows) fault, st) := by
  rw [scanRows, Work.outcome_look, Store.find_stored stored]
  rfl

theorem dropTable_stored (stored : st.tables id = some table) :
    (dropTable id none).outcome st = (.ok (), st.remove id) := by
  rw [dropTable, Work.change_ok_iff, Store.dropTable, Store.find_stored stored]
  rfl

theorem dropTable_broken (stored : st.tables id = some table) (breakdown : Breakdown) :
    (dropTable id (some breakdown)).outcome st = (.error breakdown.status, st) := by
  rw [dropTable, Work.change_error_iff, Store.dropTable, Store.find_stored stored]
  exact ⟨rfl, rfl⟩

theorem dropTable_absent (absent : st.tables id = none) (fault : Fault) :
    ∃ e, (dropTable id fault).outcome st = (.error e, st) ∧ e.code = .notFound := by
  obtain ⟨e, missing, code⟩ := Store.find_absent absent
  refine ⟨e, ?_, code⟩
  rw [dropTable, Work.change_error_iff, Store.dropTable, missing]
  exact ⟨rfl, rfl⟩

theorem createTable_stored (stored : st.tables id = some table) :
    (createTable id schema fault).outcome st = (.error (tableExists id), st) := by
  obtain ⟨home, named⟩ := Store.houses_of_stored stored
  rw [createTable, Work.change_error_iff, Store.createTable, dif_neg (by simp [named]),
    dif_pos home, if_pos (by rw [stored]; rfl)]
  exact ⟨rfl, rfl⟩

theorem createTable_named (absent : st.tables id = none) (home : st.Houses id) :
    st.createTable id schema = .ok (st.put id home (.empty schema)) := by
  rw [Store.createTable, dif_neg (by simp [home.2]), dif_pos home.1, if_neg (by rw [absent]; simp)]

theorem createTable_new (home : st.Houses id) (absent : st.tables id = none) :
    (createTable id schema none).outcome st = (.ok (), st.put id home (.empty schema)) := by
  rw [createTable, Work.change_ok_iff, createTable_named absent home]
  rfl

theorem createTable_broken (home : st.Houses id) (absent : st.tables id = none) :
    (createTable id schema (some breakdown)).outcome st = (.error breakdown.status, st) := by
  rw [createTable, Work.change_error_iff, createTable_named absent home]
  exact ⟨rfl, rfl⟩

theorem Store.createTable_ok (ok : st.createTable id schema = .ok after) :
    st.tables id = none ∧ ∃ home, after = st.put id home (.empty schema) := by
  unfold createTable at ok
  split at ok
  · cases ok
  next named =>
    split at ok
    next home =>
      split at ok
      · cases ok
      next absent =>
        cases ok
        exact ⟨by simpa using absent, _, rfl⟩
    next => cases ok

theorem createTable_ok (ok : (createTable id schema fault).outcome st = (.ok done, after)) :
    st.tables id = none ∧ fault = none ∧ ∃ home, after = st.put id home (.empty schema) := by
  rw [createTable, Work.change_ok_iff] at ok
  obtain ⟨created, calm⟩ := perform_ok ok
  obtain ⟨absent, home, same⟩ := Store.createTable_ok created
  exact ⟨absent, calm, home, same⟩

variable (stored : st.tables id = some table)

theorem Store.update_stored :
    st.update id change = (change table).map (st.put id (houses_of_stored stored)) := by
  unfold update
  split
  next missing =>
    rw [find_stored stored] at missing
    cases missing
  next found =>
    rw [find_stored stored] at found
    cases found
    rfl

theorem Store.update_ok (ok : st.update id change = .ok after) :
    ∃ table changed home, st.tables id = some table ∧ change table = .ok changed ∧
      after = st.put id home changed := by
  unfold update at ok
  split at ok
  · cases ok
  next table found =>
    obtain ⟨changed, applied, rfl⟩ := Fallible.map_ok_iff.mp ok
    exact ⟨table, changed, _, find_ok found, applied, rfl⟩

/-- Rows are written once they have passed the check; `make` is what becomes of the table. -/
def writeChecked (tag : String) (id : TableId) (rows : List Row) (make : (table : Table) →
      (∀ row ∈ rows, row.cells.length = table.schema.columns.length) → Table) (fault : Fault) :
    Command Unit :=
  .change fun st => perform (st.update id fun table =>
    match shaped : validateRowsShape tag id table.schema.columns.length 0 rows with
    | .error e => .error e
    | .ok () => .ok (make table (validateRowsShape_ok_iff.mp shaped))) fault

theorem appendRows_eq : appendRows id rows =
    writeChecked "AppendRows" id rows fun table shaped => table.append rows shaped := rfl

theorem overwriteRows_eq : overwriteRows id rows =
    writeChecked "OverwriteRows" id rows fun table shaped => ⟨table.schema, rows, shaped⟩ := rfl

theorem writeChecked_ok (ok : (writeChecked tag id rows make fault).outcome st = (.ok done, after)) :
    fault = none ∧ ∃ table shaped home, st.tables id = some table ∧
      after = st.put id home (make table shaped) := by
  rw [writeChecked, Work.change_ok_iff] at ok
  obtain ⟨written, calm⟩ := perform_ok ok
  obtain ⟨table, changed, home, found, checked, same⟩ := Store.update_ok written
  split at checked
  · cases checked
  next shaped =>
    cases checked
    exact ⟨calm, table, validateRowsShape_ok_iff.mp shaped, home, found, same⟩

theorem writeChecked_fits (shaped : ∀ row ∈ rows, row.cells.length = table.schema.columns.length) :
    (writeChecked tag id rows make none).outcome st =
      (.ok (), st.put id (Store.houses_of_stored stored) (make table shaped)) := by
  rw [writeChecked, Work.change_ok_iff, Store.update_stored stored]
  split
  next refused =>
    rw [validateRowsShape_ok_iff.mpr shaped] at refused
    cases refused
  next => rfl

end

end BigQueryEmulator.Ddl
