import BigQueryEmulator.Ddl.Existing
import BigQueryEmulator.Ddl.LoadedFiles

/-! Statements that put a new table in the place of an old one. All of them drop the old table
first; what fails after that leaves no table, or an empty one. -/
namespace BigQueryEmulator.Ddl
open Storage Effects Fallible Work Store

inductive ReplaceStmt where
  | create (stmt : CreateStmt) (replaces : stmt.createMode = .orReplace)
  | alter (stmt : AlterTableStmt)
  | load (stmt : LoadDataStmt) (overwrites : stmt.insertionMode = .overwrite)

namespace ReplaceStmt

def namePath : ReplaceStmt → List String
  | .create stmt _ => stmt.namePath
  | .alter stmt => stmt.namePath
  | .load stmt _ => stmt.namePath

def run (request : QueryRequest) (env : DdlEnv) : ReplaceStmt → Command Unit
  | .create stmt _ => stmt.run request env
  | .alter stmt => runAlterTable request stmt env.toStorageFaults
  | .load stmt _ => runLoadData request stmt env

end ReplaceStmt

/-- An error leaves the target as it was before, and success as it is wanted. -/
def Safe (target : TableId) (before : Option Table) (wanted : Option Table → Prop)
    (ran : Except Status Unit × Store) : Prop :=
  match ran.1 with
  | .error _ => ran.2.tables target = before
  | .ok _ => wanted (ran.2.tables target)

/-- A clone of the target itself has the rows that were there. -/
def CloneStmt.Wanted (env : DdlEnv) (st : Store) (target : TableId) (stmt : CloneStmt)
    (table : Option Table) : Prop :=
  ∀ asOfMs old, stmt.source = .stored target → stmt.asOfMs = .ok asOfMs →
    cloneRows env target asOfMs st = .ok old → table.map Table.rows = some old

/-- The table has the rows that the query selects from what was there, the target itself not
excepted. -/
def AsSelectStmt.Wanted (texts : AsSelectTexts) (sql : String) (env : DdlEnv) (st : Store)
    (target : TableId) (stmt : AsSelectStmt) (table : Option Table) : Prop :=
  ∀ relations rows, attachSources texts env (isTemp sql) stmt.sources (st.ensured target) =
    .ok relations → selectRows texts env target (isTemp sql) stmt.selectSql relations = .ok rows →
      table.map Table.rows = some rows

def ReplaceStmt.Wanted (request : QueryRequest) (env : DdlEnv) (st : Store) (target : TableId) :
    ReplaceStmt → Option Table → Prop
  | .create (.tableClone stmt) _ | .create (.snapshotTable stmt) _ => stmt.Wanted env st target
  | .create (.tableAsSelect stmt) _ => stmt.Wanted tableTexts request.sql env st target
  | .create (.materializedView stmt) _ => stmt.Wanted viewTexts request.sql env st target
  | _ => fun _ => True

def Writable (schema : TableSchema) (rows : List Row) (fault : Fault) : Prop :=
  rows = [] ∨ fault = none ∧ ∀ row ∈ rows, row.cells.length = schema.columns.length

/-- The drop breaks, or nothing fails after it, or what fails leaves what there was: no table,
or an empty one with the new schema. -/
def ReplaceKeeps (faults : StorageFaults) (target : TableId) (before : Option Table)
    (schema : TableSchema) (rows : Except Status (List Row)) : Prop :=
  (before.isSome ∧ faults.drop.isSome) ∨
    match rows with
    | .error _ => before = none
    | .ok rows =>
      if target.tableId.isEmpty = false ∧ faults.create = none then
        Writable schema rows faults.append ∨ before = some (.empty schema)
      else before = none

section
variable {α : Type} {target : TableId} {before : Option Table} {wanted : Option Table → Prop}
  {now : Store}

variable {answer : Except Status α}

theorem safe_step_iff :
    Safe target before wanted ((step answer >>= next).outcome now) ↔
      match answer with
      | .error _ => now.tables target = before
      | .ok value => Safe target before wanted ((next value).outcome now) := by
  cases answer with
  | error e =>
    rfl
  | ok value => rw [outcome_bind_ok (outcome_step _ now)]

theorem safe_look_iff {next : α → Command Unit} (same : now.tables target = before) :
    Safe target before wanted ((look observe >>= next).outcome now) ↔
      ∀ value, observe now = .ok value →
        Safe target before wanted ((next value).outcome now) := by
  change Safe target before wanted ((step (observe now) >>= next).outcome now) ↔ _
  rw [safe_step_iff]
  cases observe now with
  | error e => simp [same]
  | ok value => simp

theorem safe_before_iff {next : α → Command Unit} (same : now.tables target = before) :
    Safe target before wanted ((step answer >>= next).outcome now) ↔
      ∀ value, answer = .ok value → Safe target before wanted ((next value).outcome now) :=
  @safe_look_iff α target before wanted now (fun _ => answer) next same

theorem safe_ensure_iff (same : st.tables target = before) :
    Safe target before wanted ((ensureDatasetExists target fault >>= next).outcome st) ↔
      (st.Admits target fault →
        Safe target before wanted ((next ()).outcome (st.ensured target))) := by
  by_cases admits : st.Admits target fault
  · rw [outcome_bind_ok (ensureDatasetExists_admitted admits)]
    exact ⟨fun safe _ => safe, fun safe => safe admits⟩
  · obtain ⟨e, refused⟩ := ensureDatasetExists_refused admits
    rw [outcome_bind_error refused]
    exact iff_of_true same fun admitted => absurd admitted admits

theorem safe_dropTable_iff (stored : now.tables target = some table) :
    Safe target (some table) wanted ((dropTable target fault >>= next).outcome now) ↔
      fault.isSome ∨ Safe target (some table) wanted ((next ()).outcome (now.remove target)) := by
  cases fault with
  | none =>
    rw [outcome_bind_ok (dropTable_stored stored)]
    simp
  | some breakdown =>
    rw [outcome_bind_error (dropTable_broken stored breakdown)]
    exact iff_of_true stored (.inl rfl)

theorem dropExisting_stored (stored : now.tables target = some table) (fault : Fault) :
    (dropExisting target fault).outcome now = (dropTable target fault).outcome now := by
  cases fault with
  | none =>
    rw [dropExisting, outcome_bind_ok (by rw [outcome_attempt, dropTable_stored stored]),
      dropTable_stored stored]
    rfl
  | some breakdown =>
    rw [dropExisting, outcome_bind_ok (by rw [outcome_attempt, dropTable_broken stored]),
      dropTable_broken stored]
    simp [breakdown.found]

theorem safe_drop_iff (same : now.tables target = before) :
    Safe target before wanted ((dropExisting target fault >>= next).outcome now) ↔
      (before.isSome ∧ fault.isSome) ∨
        Safe target before wanted ((next ()).outcome (now.remove target)) := by
  cases before with
  | none =>
    obtain ⟨e, missing, code⟩ := dropTable_absent same fault
    have dropped : (dropExisting target fault).outcome now = (.ok (), now) := by
      rw [dropExisting, outcome_bind_ok (by rw [outcome_attempt, missing])]
      simp [code]
    rw [outcome_bind_ok dropped, remove_absent same]
    simp
  | some table =>
    rw [outcome_bind, dropExisting_stored same, ← outcome_bind, safe_dropTable_iff same]
    simp

theorem safe_create_iff (absent : now.tables target = none) :
    Safe target before wanted ((createTable target schema fault >>= next).outcome now) ↔
      match now.createTable target schema with
      | .error _ => before = none
      | .ok fresh =>
        if fault = none then Safe target before wanted ((next ()).outcome fresh)
        else before = none := by
  cases created : now.createTable target schema with
  | error e =>
    have failed : (createTable target schema fault).outcome now = (.error e, now) := by
      rw [createTable, change_error_iff, created]
      exact ⟨rfl, rfl⟩
    rw [outcome_bind_error failed]
    exact eq_comm.trans (by rw [absent])
  | ok fresh =>
    cases fault with
    | none =>
      have made : (createTable target schema none).outcome now = (.ok (), fresh) := by
        rw [createTable, change_ok_iff, created]
        rfl
      rw [outcome_bind_ok made]
      simp
    | some breakdown =>
      have failed : (createTable target schema (some breakdown)).outcome now =
          (.error breakdown.status, now) := by
        rw [createTable, change_error_iff, created]
        exact ⟨rfl, rfl⟩
      rw [outcome_bind_error failed]
      exact eq_comm.trans (by simp [absent])

end

section
variable {target : TableId} {before : Option Table} {wanted : Option Table → Prop} {now : Store}
  {schema : TableSchema} {rows : List Row} {fault : Fault}

theorem safe_write_iff (empty : now.tables target = some (.empty schema))
    (matched : ∀ table, table.map Table.rows = some rows → (wanted table ↔ expected))
    (only : ∀ shaped, (make (.empty schema) shaped).rows = rows) :
    Safe target before wanted ((if rows.isEmpty then pure ()
        else writeChecked tag target rows make fault : Command Unit).outcome now) ↔
      Writable schema rows fault ∧ expected ∨
        ¬ Writable schema rows fault ∧ before = some (.empty schema) := by
  split
  next none =>
    cases List.isEmpty_iff.mp none
    have writable : Writable schema [] fault := .inl rfl
    change wanted (now.tables target) ↔ _
    rw [matched _ (by rw [empty]; rfl)]
    simp [writable]
  next some =>
    rcases ran : (writeChecked tag target rows make fault).outcome now with ⟨answer, after⟩
    cases answer with
    | ok done =>
      obtain ⟨calm, table, shaped, home, stored, rfl⟩ := writeChecked_ok ran
      cases empty.symm.trans stored
      have writable : Writable schema rows fault := .inr ⟨calm, shaped⟩
      change wanted (Store.tables _ target) ↔ _
      rw [matched _ (by rw [put_same, Option.map_some, only])]
      simp [writable]
    | error e =>
      have refused : ¬ Writable schema rows fault := by
        rintro (none | ⟨calm, shaped⟩)
        · exact some (List.isEmpty_iff.mpr none)
        · rw [calm, writeChecked_fits empty shaped] at ran
          cases ran
      have clean : after = now := by
        rw [writeChecked, change_error_iff] at ran
        exact ran.2
      change after.tables target = before ↔ _
      rw [clean, empty]
      simp [refused, eq_comm]

theorem safe_rebuild_iff (absent : now.tables target = none)
    (home : now.datasets target.projectId target.datasetId = true)
    (matched : ∀ table, table.map Table.rows = some rows → wanted table) :
    Safe target before wanted
        ((createTable target schema create >>= fun _ =>
          if rows.isEmpty then pure () else appendRows target rows fault).outcome now) ↔
      if target.tableId.isEmpty = false ∧ create = none then
        Writable schema rows fault ∨ before = some (.empty schema)
      else before = none := by
  rw [safe_create_iff absent]
  by_cases named : target.tableId.isEmpty = false
  · have housed : now.Houses target := ⟨home, named⟩
    have filled : Safe target before wanted
        ((if rows.isEmpty then pure () else appendRows target rows fault : Command Unit).outcome
          (now.put target housed (.empty schema))) ↔
        Writable schema rows fault ∨ before = some (.empty schema) := by
      rw [appendRows_eq, safe_write_iff put_same (fun table held => iff_true_intro (matched table held))
        fun _ => rfl, and_true]
      tauto
    rw [createTable_named absent housed]
    cases create with
    | none => simpa [named] using filled
    | some breakdown => simp
  · rw [Store.createTable, dif_pos (by simpa using named)]
    simp [named]

end

section
variable {request : QueryRequest} {env : DdlEnv} {target : TableId} {st : Store}

def CreateTableStmt.ReplaceSafe (env : DdlEnv) (st : Store) (target : TableId)
    (stmt : CreateTableStmt) : Prop :=
  st.Admits target env.createDataset → ∀ schema,
    columnDefinitionListToTableSchema stmt.columns = .ok schema →
      ReplaceKeeps env.toStorageFaults target (st.tables target) schema (.ok [])

/-- CREATE OR REPLACE TABLE AS SELECT, and MATERIALIZED VIEW. -/
def AsSelectStmt.ReplaceSafe (texts : AsSelectTexts) (sql : String) (env : DdlEnv) (st : Store)
    (target : TableId) (stmt : AsSelectStmt) : Prop :=
  st.Admits target env.createDataset → ∀ schema,
    columnDefinitionListToTableSchema stmt.columns = .ok schema → ∀ relations,
      attachSources texts env (isTemp sql) stmt.sources (st.ensured target) = .ok relations →
        ReplaceKeeps env.toStorageFaults target (st.tables target) schema
          (selectRows texts env target (isTemp sql) stmt.selectSql relations)

/-- The rows that a clone finds when the new table is there: of the target itself the new table has
none, and at an earlier time it is asked for what was kept. -/
def foundRows (env : DdlEnv) (now : Store) (housed : now.Houses target) (source : TableId)
    (asOfMs : Option Int) (table : Table) : Except Status (List Row) :=
  match asOfMs with
  | none => do
    fallible env.session
    let rows ← perform (.ok (if source = target then [] else table.rows)) (env.attach source)
    perform (.ok rows) env.drain
  | some _ => cloneRows env source asOfMs (now.put target housed (.empty table.schema))

instance (now : Store) (target : TableId) : Decidable (now.Houses target) :=
  inferInstanceAs (Decidable (_ ∧ _))

/-- The drop breaks, or the clone goes well, or what fails leaves what there was. -/
def CloneKeeps (env : DdlEnv) (st now : Store) (target source : TableId) (asOfMs : Option Int)
    (table : Table) : Prop :=
  ((st.tables target).isSome ∧ env.drop.isSome) ∨
    if ready : now.Houses target ∧ env.create = none then
      match foundRows env now ready.1 source asOfMs table with
      | .error _ => st.tables target = some (.empty table.schema)
      | .ok rows =>
        Writable table.schema rows env.overwrite ∧
            (source = target → ∀ old, cloneRows env target asOfMs st = .ok old → rows = old) ∨
          ¬ Writable table.schema rows env.overwrite ∧ st.tables target = some (.empty table.schema)
    else st.tables target = none

def CloneStmt.ReplaceSafe (env : DdlEnv) (st : Store) (target : TableId) (stmt : CloneStmt) : Prop :=
  st.Admits target env.createDataset → ∀ source, storageTableFromScan stmt.source = .ok source →
    ∀ asOfMs, raised stmt.asOfMs = .ok asOfMs → ∀ table, st.tables source = some table →
      env.getSchema = none → CloneKeeps env st (st.ensured target) target source asOfMs table

def AlterTableStmt.ReplaceSafe (faults : StorageFaults) (st : Store) (target : TableId)
    (stmt : AlterTableStmt) : Prop :=
  ∀ table, st.tables target = some table → faults.getSchema = none → ∀ alteration,
    stmt.actions.foldlM (applyAlterAction target) ⟨table.schema.columns, [], false⟩ =
      .ok alteration → alteration.changed = true → faults.scan = none →
        ReplaceKeeps faults target (some table) ⟨alteration.columns⟩
          (.ok (copiedRows table alteration))

def LoadDataStmt.ReplaceSafe (env : DdlEnv) (st : Store) (target : TableId) (stmt : LoadDataStmt) :
    Prop :=
  st.Admits target env.createDataset → ∀ options,
    parseLoadDataFileOptions stmt.fromFilesOptions = .ok options → ∀ schema,
      resolveLoadSchema target stmt.columns env.getSchema (st.ensured target) = .ok schema →
        ∀ rows, loadRowsFromUri env options.2 options.1 = .ok rows →
          ReplaceKeeps env.toStorageFaults target (st.tables target) schema (.ok rows)

theorem createInMode_replace (target : TableId) (schema : TableSchema) (fault : Fault) :
    createInMode target schema .orReplace fault = createTable target schema fault := by
  refine ext fun now => ?_
  rw [createInMode, outcome_bind_ok (outcome_attempt _ now), outcome_step]
  rcases (createTable target schema fault).outcome now with ⟨answer, after⟩
  cases answer <;> rfl

theorem dropTempTarget_absent (absent : now.tables target = none) (temp : Bool) (fault : Fault) :
    (dropTempTarget target temp fault).outcome now = (.ok (), now) := by
  unfold dropTempTarget
  split
  · obtain ⟨e, missing, -⟩ := dropTable_absent absent fault
    rw [outcome_bind_ok (by rw [outcome_attempt, missing])]
    rfl
  · rfl

theorem runCreateTable_safe_iff (named : Names request stmt.namePath target)
    (replaces : stmt.createMode = .orReplace) :
    Safe target (st.tables target) (fun _ => True) ((runCreateTable request stmt env).outcome st) ↔
      stmt.ReplaceSafe env st target := by
  rw [runCreateTable, named, outcome_bind_ok (outcome_step _ st), safe_ensure_iff rfl,
    CreateTableStmt.ReplaceSafe]
  refine forall_congr' fun admits => ?_
  rw [safe_before_iff (by rw [ensured_tables])]
  refine forall₂_congr fun schema _ => ?_
  rw [replaces, createInMode_replace, dropForReplace, if_pos rfl,
    safe_drop_iff (by rw [ensured_tables])]
  have filled : createTable target schema env.create =
      createTable target schema env.create >>= fun _ =>
        if ([] : List Row).isEmpty then pure () else appendRows target [] env.append :=
    bind_pure_unit.symm
  rw [filled]
  exact or_congr_right (safe_rebuild_iff remove_same admits.home fun _ _ => trivial)

theorem materializeSelect_safe_iff
    (named : Names request stmt.namePath target) (replaces : stmt.createMode = .orReplace) :
    Safe target (st.tables target) (stmt.Wanted texts request.sql env st target)
        ((materializeSelect texts request stmt env).outcome st) ↔
      stmt.ReplaceSafe texts request.sql env st target := by
  rw [materializeSelect, named, outcome_bind_ok (outcome_step _ st), safe_ensure_iff rfl,
    AsSelectStmt.ReplaceSafe]
  refine forall_congr' fun admits => ?_
  rw [safe_before_iff (by rw [ensured_tables])]
  refine forall₂_congr fun schema _ => ?_
  rw [safe_look_iff (by rw [ensured_tables])]
  refine forall₂_congr fun relations attached => ?_
  rw [replaces, dropForReplace, if_pos rfl, safe_drop_iff (by rw [ensured_tables]),
    safe_step_iff]
  unfold ReplaceKeeps
  refine or_congr_right ?_
  cases selected : selectRows texts env target (isTemp request.sql) stmt.selectSql relations with
  | error e => simp [eq_comm]
  | ok rows =>
    dsimp only
    rw [writeRows, outcome_bind_ok (dropTempTarget_absent remove_same _ _),
      createInMode_replace]
    refine safe_rebuild_iff remove_same admits.home fun table held others more again chosen => ?_
    cases attached.symm.trans again
    cases selected.symm.trans chosen
    exact held

/-- The new table hides the old one, and nothing else. -/
theorem cloneRows_renewed (housed : now.Houses target) (same : now.tables = st.tables)
    (stored : st.tables source = some table)
    (home : (now.remove target).Houses target) :
    cloneRows env source asOfMs ((now.remove target).put target home (.empty table.schema)) =
      foundRows env now housed source asOfMs table := by
  have renewed : (now.remove target).put target home (.empty table.schema) =
      now.put target housed (.empty table.schema) := by
    refine Store.ext rfl (funext fun other => ?_)
    change (if other = target then _ else if other = target then none else now.tables other) =
      if other = target then _ else now.tables other
    split <;> rfl
  rw [renewed]
  cases asOfMs with
  | some ms => rfl
  | none =>
    have read : (now.put target housed (.empty table.schema)).find source =
        .ok (if source = target then .empty table.schema else table) := by
      refine find_stored ?_
      change (if source = target then _ else now.tables source) = _
      split
      · rfl
      · rw [same, stored]
    have rows : (if source = target then Table.empty table.schema else table).rows =
        if source = target then [] else table.rows := by
      split <;> rfl
    rw [cloneRows, foundRows, attachStorageTableAt, read, ← rows]
    rfl

theorem materializeClone_safe_iff (same : now.tables = st.tables)
    (home : now.datasets target.projectId target.datasetId = true)
    (matched : ∀ table rows, table.map Table.rows = some rows → (wanted table ↔
      (source = target → ∀ old, cloneRows env target asOfMs st = .ok old → rows = old))) :
    Safe target (st.tables target) wanted
        ((materializeCloneIntoTarget target source asOfMs .orReplace env).outcome now) ↔
      ∀ table, st.tables source = some table → env.getSchema = none →
        CloneKeeps env st now target source asOfMs table := by
  rw [materializeCloneIntoTarget, getSchema, safe_look_iff (by rw [same])]
  have rest (table : Table) (stored : st.tables source = some table) :
      Safe target (st.tables target) wanted
        ((do
          dropForReplace .orReplace target env.drop
          createInMode target table.schema .orReplace env.create
          let rows ← look (cloneRows env source asOfMs)
          if rows.isEmpty then return
          overwriteRows target rows env.overwrite : Command Unit).outcome now) ↔
      CloneKeeps env st now target source asOfMs table := by
    rw [dropForReplace, if_pos rfl, safe_drop_iff (by rw [same]), createInMode_replace,
      safe_create_iff remove_same]
    refine or_congr_right ?_
    by_cases named : target.tableId.isEmpty = false
    · have housed : now.Houses target := ⟨home, named⟩
      rw [createTable_named remove_same (show (now.remove target).Houses target from housed)]
      by_cases calm : env.create = none
      · simp only [if_pos calm, dif_pos (And.intro housed calm)]
        refine safe_step_iff.trans ?_
        rw [cloneRows_renewed housed same stored]
        cases foundRows env now housed source asOfMs table with
        | error e => rw [put_same, eq_comm]
        | ok rows => exact safe_write_iff put_same (fun table => matched table rows) fun _ => rfl
      · simp only [if_neg calm]
        rw [dif_neg fun ready => calm ready.2]
    · rw [Store.createTable, dif_pos (by simpa using named), dif_neg fun ready => named ready.1.2]
  simp only [observed_ok_iff, same]
  constructor
  · intro keeps table stored calm
    exact (rest table stored).mp (keeps table.schema ⟨table, stored, calm, rfl⟩)
  · rintro keeps _ ⟨table, stored, calm, rfl⟩
    exact (rest table stored).mpr (keeps table stored calm)

theorem runClone_safe_iff (named : Names request stmt.namePath target)
    (replaces : stmt.createMode = .orReplace) :
    Safe target (st.tables target) (stmt.Wanted env st target)
        ((runClone request stmt env).outcome st) ↔
      stmt.ReplaceSafe env st target := by
  rw [runClone, named, outcome_bind_ok (outcome_step _ st), safe_ensure_iff rfl,
    CloneStmt.ReplaceSafe]
  refine forall_congr' fun admits => ?_
  rw [safe_before_iff (by rw [ensured_tables])]
  refine forall₂_congr fun source scanned => ?_
  rw [safe_before_iff (by rw [ensured_tables])]
  refine forall₂_congr fun asOfMs timed => ?_
  rw [replaces]
  refine materializeClone_safe_iff ensured_tables admits.home fun table rows held => ?_
  have stored : stmt.source = .stored source := by
    cases kind : stmt.source with
    | notTableScan | notStorage => rw [kind] at scanned; cases scanned
    | stored id => rw [kind] at scanned; cases scanned; rfl
  have time : stmt.asOfMs = .ok asOfMs := by
    cases kind : stmt.asOfMs with
    | error breakdown => rw [kind] at timed; cases timed
    | ok ms => rw [kind] at timed; cases timed; rfl
  rw [CloneStmt.Wanted, stored, time, held]
  constructor
  · rintro wanted rfl old read
    exact Option.some.inj (wanted asOfMs old rfl rfl read)
  · rintro expected _ old ⟨⟩ ⟨⟩ read
    rw [expected rfl old read]

theorem alterTable_safe_iff (stored : st.tables target = some table) :
    Safe target (some table) (fun _ => True)
        ((alterTable target table.schema.columns actions faults).outcome st) ↔
      ∀ alteration, actions.foldlM (applyAlterAction target) ⟨table.schema.columns, [], false⟩ =
        .ok alteration → alteration.changed = true → faults.scan = none →
          ReplaceKeeps faults target (some table) ⟨alteration.columns⟩
            (.ok (copiedRows table alteration)) := by
  rw [alterTable, safe_before_iff stored]
  refine forall₂_congr fun alteration _ => ?_
  cases changed : alteration.changed with
  | false => simp [Safe]
  | true =>
    simp only [Bool.not_true, Bool.false_eq_true, if_false, forall_true_left]
    rw [copied_outcome alteration faults stored, safe_step_iff]
    cases faults.scan with
    | some breakdown => exact iff_of_true stored (by simp)
    | none =>
      have home := (houses_of_stored stored).1
      simp only [forall_true_left, ReplaceKeeps, Option.isSome_some, true_and]
      exact (safe_dropTable_iff stored).trans (or_congr_right (safe_rebuild_iff remove_same home
        fun _ _ => trivial))

theorem runAlterTable_safe_iff
    (named : namePathToTableId stmt.namePath request.projectId request.defaultDatasetId =
      .ok target) :
    Safe target (st.tables target) (fun _ => True) ((runAlterTable request stmt faults).outcome st) ↔
      stmt.ReplaceSafe faults st target := by
  rw [runAlterTable, named, outcome_bind_ok (outcome_step _ st), AlterTableStmt.ReplaceSafe,
    outcome_bind_ok (outcome_attempt _ st)]
  rcases answered : (getSchema target faults.getSchema).outcome st with ⟨answer, after⟩
  obtain ⟨observed, rfl⟩ := Prod.mk.inj answered
  cases answer with
  | error e =>
    refine iff_of_true ?_ ?_
    · dsimp only
      split
      · trivial
      · rfl
    · -- a table that is there is found
      intro table stored calm
      rw [getSchema_stored stored, calm] at answered
      cases answered
  | ok existing =>
    have calm := (perform_ok observed).2
    obtain ⟨-, table, stored, rfl⟩ := look_ok answered
    rw [stored, alterTable_safe_iff stored]
    constructor
    · rintro safe _ ⟨⟩ -
      exact safe
    · intro safe
      exact safe table rfl calm

theorem runLoadData_safe_iff (named : Names request stmt.namePath target)
    (overwrites : stmt.insertionMode = .overwrite) :
    Safe target (st.tables target) (fun _ => True) ((runLoadData request stmt env).outcome st) ↔
      stmt.ReplaceSafe env st target := by
  rw [runLoadData, named, outcome_bind_ok (outcome_step _ st), safe_ensure_iff rfl,
    LoadDataStmt.ReplaceSafe]
  refine forall_congr' fun admits => ?_
  rw [safe_before_iff (by rw [ensured_tables])]
  refine forall₂_congr fun options _ => ?_
  rw [safe_look_iff (by rw [ensured_tables])]
  refine forall₂_congr fun schema _ => ?_
  rw [safe_before_iff (by rw [ensured_tables])]
  refine forall₂_congr fun rows _ => ?_
  rw [overwrites, ensureTargetTableForLoadMode, bind_assoc, safe_drop_iff (by rw [ensured_tables])]
  exact or_congr_right (safe_rebuild_iff remove_same admits.home fun _ _ => trivial)

def ReplaceStmt.ReplaceSafe (request : QueryRequest) (env : DdlEnv) (st : Store) (target : TableId) :
    ReplaceStmt → Prop
  | .create (.table stmt) _ => stmt.ReplaceSafe env st target
  | .create (.tableClone stmt) _ | .create (.snapshotTable stmt) _ => stmt.ReplaceSafe env st target
  | .create (.tableAsSelect stmt) _ => stmt.ReplaceSafe tableTexts request.sql env st target
  | .create (.materializedView stmt) _ => stmt.ReplaceSafe viewTexts request.sql env st target
  | .alter stmt => stmt.ReplaceSafe env.toStorageFaults st target
  | .load stmt _ => stmt.ReplaceSafe env st target

/-- A statement that fails leaves its target as it was, a clone of itself keeps its rows, and a query
over itself has selected from them, exactly when the steps after the drop cannot harm it. -/
theorem replaced_table_safe_iff {stmt : ReplaceStmt}
    (named : namePathToTableId stmt.namePath request.projectId request.defaultDatasetId =
      .ok target) :
    Safe target (st.tables target) (stmt.Wanted request env st target)
        ((stmt.run request env).outcome st) ↔
      stmt.ReplaceSafe request env st target := by
  cases stmt with
  | create stmt replaces =>
    cases stmt with
    | table stmt => exact runCreateTable_safe_iff named replaces
    | tableClone | snapshotTable => exact runClone_safe_iff named replaces
    | tableAsSelect | materializedView => exact materializeSelect_safe_iff named replaces
  | alter stmt => exact runAlterTable_safe_iff named
  | load stmt overwrites => exact runLoadData_safe_iff named overwrites

/-- `ALTER TABLE bank.ledger DROP COLUMN n`, with other columns added before. -/
def reshapeLedger (added : List String) : ReplaceStmt :=
  .alter ⟨["bank", "ledger"], false,
    (added.map fun name => .addColumn ⟨name, .ok (.int64, .nullable)⟩ false) ++
      [.dropColumn "n" false]⟩

def noRequest : QueryRequest := ⟨"", "p", ""⟩

def diskFull : Breakdown := ⟨⟨.internal, "disk full"⟩, by decide, by decide⟩

def dropBreaks : DdlEnv := { duckdb := fun _ _ => .ok [], drop := some diskFull }

theorem drop_broken_keeps :
    Safe ledger (ledgerStore.tables ledger) (fun _ => True)
      (((reshapeLedger []).run noRequest dropBreaks).outcome ledgerStore) :=
  (@replaced_table_safe_iff noRequest dropBreaks ledger ledgerStore (reshapeLedger []) rfl).mpr
    fun _ _ _ _ _ _ _ => .inl ⟨rfl, rfl⟩

/-- `CREATE OR REPLACE TABLE bank.ledger CLONE bank.ledger` -/
def cloneLedger : ReplaceStmt :=
  .create (.tableClone ⟨["bank", "ledger"], .orReplace, .stored ledger, .ok none⟩) rfl

/-- A clone of itself returns OK and loses the rows; an ALTER TABLE that adds a column and drops
another fails and leaves an empty table. No storage call breaks down. -/
theorem ledger_lost :
    ((cloneLedger.run noRequest { duckdb := fun _ _ => .ok [] }).outcome ledgerStore).1 = .ok () ∧
    (((cloneLedger.run noRequest { duckdb := fun _ _ => .ok [] }).outcome
      ledgerStore).2.tables ledger).map Table.rows = some [] ∧
    (∃ e, (((reshapeLedger ["m"]).run noRequest { duckdb := fun _ _ => .ok [] }).outcome
      ledgerStore).1 = .error e) ∧
    ((((reshapeLedger ["m"]).run noRequest { duckdb := fun _ _ => .ok [] }).outcome
      ledgerStore).2.tables ledger).map Table.rows = some [] ∧
    (ledgerStore.tables ledger).map Table.rows = some [⟨[.int64 1]⟩, ⟨[.int64 2]⟩] :=
  ⟨rfl, rfl, ⟨_, rfl⟩, rfl, rfl⟩

end

end BigQueryEmulator.Ddl
