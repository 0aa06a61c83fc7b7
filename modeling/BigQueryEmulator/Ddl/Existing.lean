import BigQueryEmulator.Ddl.Create

/-! CREATE without OR REPLACE on a table that exists. The handlers go on after ALREADY_EXISTS
was swallowed, so that IF NOT EXISTS writes rows to the old table. -/
namespace BigQueryEmulator.Ddl
open Storage Effects Fallible Store
open List
open Work hiding change

/-- The old table is as it was, and the answer is OK with IF NOT EXISTS and ALREADY_EXISTS
without. -/
def Spared (mode : CreateMode) (target : TableId) (st : Store) (ran : Except Status Unit × Store) :
    Prop :=
  ran.2.tables target = st.tables target ∧
    if mode = .ifNotExists then ran.1 = .ok () else ∃ e, ran.1 = .error e ∧ e.code = .alreadyExists

/-- The query can be run. What it selects is nothing if its rows would be appended, and the old
content if the text makes the handler drop the table. -/
def AsSelectStmt.Harmless (texts : AsSelectTexts) (sql : String) (env : DdlEnv) (st : Store)
    (target : TableId) (table : Table) (stmt : AsSelectStmt) : Prop :=
  ∃ schema relations rows, columnDefinitionListToTableSchema stmt.columns = .ok schema ∧
    attachSources texts env (isTemp sql) stmt.sources st = .ok relations ∧
    selectRows texts env target (isTemp sql) stmt.selectSql relations = .ok rows ∧
    if isTemp sql = true ∧ env.dropTemp = none then
      stmt.createMode = .ifNotExists ∧ env.create = none ∧ table.schema = schema ∧
        table.rows = rows ∧ (rows = [] ∨ env.append = none)
    else stmt.createMode = .default ∨ rows = []

/-- The source is there. With IF NOT EXISTS its rows can be read, and are none or the old
ones. -/
def CloneStmt.Harmless (env : DdlEnv) (st : Store) (table : Table) (stmt : CloneStmt) : Prop :=
  ∃ source asOfMs, storageTableFromScan stmt.source = .ok source ∧
    raised stmt.asOfMs = .ok asOfMs ∧ (st.tables source).isSome ∧ env.getSchema = none ∧
    (stmt.createMode = .default ∨ ∃ rows, cloneRows env source asOfMs st = .ok rows ∧
      (rows = [] ∨ rows = table.rows ∧ env.overwrite = none))

def CreateStmt.Harmless (sql : String) (env : DdlEnv) (st : Store) (target : TableId)
    (table : Table) : CreateStmt → Prop
  | .table stmt => ∃ schema, columnDefinitionListToTableSchema stmt.columns = .ok schema
  | .tableClone stmt | .snapshotTable stmt => stmt.Harmless env st table
  | .tableAsSelect stmt => stmt.Harmless tableTexts sql env st target table
  | .materializedView stmt => stmt.Harmless viewTexts sql env st target table

section
variable {α β : Type}

def Fresh (work : Except Status α) : Prop := ∀ e, work = .error e → e.code ≠ .alreadyExists

theorem Fresh.ok (value : α) : Fresh (.ok value : Except Status α) := by
  rintro e ⟨⟩

theorem Fresh.error (code : e.code ≠ .alreadyExists) : Fresh (.error e : Except Status α) := by
  rintro e ⟨⟩
  exact code

theorem Fresh.bind (first : Fresh work) (rest : ∀ value, Fresh (onward value)) :
    Fresh (work >>= onward) := by
  cases work with
  | error e => exact .error (first e rfl)
  | ok value => exact rest value

theorem Fresh.map (f : α → β) (fresh : Fresh work) : Fresh (work.map f) := by
  cases work with
  | error e => exact .error (fresh e rfl)
  | ok value => exact .ok _

theorem Fresh.mapM (fresh : ∀ x, Fresh (f x)) (xs : List α) : Fresh (xs.mapM f) := by
  induction xs with
  | nil => exact .ok _
  | cons x rest ih =>
    rw [mapM_cons]
    exact (fresh x).bind fun _ => ih.bind fun _ => .ok _

theorem fallible_fresh (fault : Fault) : Fresh (fallible fault) := by
  cases fault with
  | none => exact .ok _
  | some breakdown => exact .error breakdown.fresh

theorem Fresh.perform (fresh : Fresh work) (fault : Fault) : Fresh (perform work fault) :=
  fresh.bind fun _ => (fallible_fresh fault).bind fun _ => .ok _

theorem raised_fresh (answer : Except Breakdown α) : Fresh (raised answer) := by
  cases answer with
  | ok value => exact .ok _
  | error breakdown => exact .error breakdown.fresh

theorem find_fresh (st : Store) (id : TableId) : Fresh (st.find id) := by
  cases stored : st.tables id with
  | some table =>
    rw [find_stored stored]
    exact .ok _
  | none =>
    obtain ⟨e, missing, code⟩ := find_absent stored
    rw [missing]
    exact .error (by rw [code]; decide)

theorem validateRowsShape_fresh {id : TableId}
    : Fresh (DuckDBStorage.validateRowsShape tag id ncols start rows) := by
  induction rows generalizing start with
  | nil => exact .ok _
  | cons row rest ih =>
    rw [DuckDBStorage.validateRowsShape]
    split
    · exact .error (by simp)
    · exact ih

theorem update_fresh (fresh : ∀ table, Fresh (change table)) (id : TableId) (st : Store) :
    Fresh (st.update id change) := by
  unfold update
  split
  next e missing => exact .error (find_fresh st id e missing)
  next => exact (fresh _).map _

theorem appendRows_fresh (id : TableId) (rows : List Row) (st : Store) :
    Fresh (st.appendRows id rows) := by
  refine update_fresh (fun table => ?_) id st
  split
  next e refused => exact .error (validateRowsShape_fresh e refused)
  next => exact .ok _

theorem columnDefinitionListToTableSchema_fresh (definitions : List ColumnDefinition) :
    Fresh (columnDefinitionListToTableSchema definitions) := by
  refine (Fresh.mapM (fun definition => ?_) definitions).map _
  unfold ColumnDefinition.schema
  split
  next breakdown _ => exact .error breakdown.fresh
  next => exact .ok _

theorem attachStorageTableAt_fresh (env : DdlEnv) (st : Store) (id : TableId)
    (asOfMs : Option Int) : Fresh (attachStorageTableAt env st id asOfMs) := by
  cases asOfMs with
  | none => exact ((find_fresh st id).map _).perform _
  | some ms => exact (raised_fresh _).perform _

theorem cloneRows_fresh (env : DdlEnv) (source : TableId) (asOfMs : Option Int) (st : Store) :
    Fresh (cloneRows env source asOfMs st) :=
  (fallible_fresh _).bind fun _ => (attachStorageTableAt_fresh env st source asOfMs).bind
    fun _ => (Fresh.ok _).perform _

theorem storageTableFromScan_fresh (source : CloneSource) : Fresh (storageTableFromScan source) := by
  cases source with
  | notTableScan | notStorage => exact .error (by simp)
  | stored id => exact .ok _

end

section
variable {α : Type} {mode : CreateMode} {target : TableId} {st now after : Store}
  {next : α → Command Unit}

theorem not_spared_of_error (code : e.code ≠ .alreadyExists) :
    ¬ Spared mode target st (.error e, after) := by
  rintro ⟨-, answer⟩
  split at answer
  · cases answer
  · obtain ⟨_, ⟨⟩, existing⟩ := answer
    exact code existing

/-- A step whose errors are not ALREADY_EXISTS has to succeed. -/
theorem spared_step_iff (fresh : Fresh answer) :
    Spared mode target st ((step answer >>= next).outcome now) ↔
      ∃ value, answer = .ok value ∧ Spared mode target st ((next value).outcome now) := by
  cases answer with
  | error e =>
    rw [outcome_bind_error (outcome_step _ now)]
    refine iff_of_false (not_spared_of_error (fresh e rfl)) ?_
    rintro ⟨_, ⟨⟩, _⟩
  | ok value =>
    rw [outcome_bind_ok (outcome_step _ now)]
    simp

theorem spared_look_iff (fresh : ∀ st, Fresh (observe st)) :
    Spared mode target st ((look observe >>= next).outcome now) ↔
      ∃ value, observe now = .ok value ∧ Spared mode target st ((next value).outcome now) :=
  spared_step_iff (fresh now)

end

section
variable {mode : CreateMode} {target : TableId} {st now : Store} {table : Table}
  {schema : TableSchema} {rows : List Row} {fault : Fault} {env : DdlEnv}

theorem fill_leaves_iff (empty : now.tables target = some (.empty schema)) :
    (∃ after, (if rows.isEmpty then pure () else appendRows target rows fault : Command Unit).outcome
        now = (.ok (), after) ∧ after.tables target = some table) ↔
      table.schema = schema ∧ table.rows = rows ∧ (rows = [] ∨ fault = none) := by
  split
  next none =>
    cases isEmpty_iff.mp none
    constructor
    · rintro ⟨after, ran, left⟩
      obtain ⟨-, rfl⟩ := Prod.mk.inj ran
      cases empty.symm.trans left
      exact ⟨rfl, rfl, .inl rfl⟩
    · rintro ⟨columns, content, -⟩
      exact ⟨now, rfl, empty.trans (congrArg some (Table.ext columns.symm content.symm))⟩
  next some =>
    constructor
    · rintro ⟨after, ran, left⟩
      obtain ⟨calm, found, shaped, home, present, rfl⟩ := writeChecked_ok ran
      cases empty.symm.trans present
      cases put_same.symm.trans left
      exact ⟨rfl, rfl, .inr calm⟩
    · rintro ⟨rfl, rfl, none | rfl⟩
      · exact absurd (isEmpty_iff.mpr none) some
      · refine ⟨_, writeChecked_fits empty table.shaped, put_same.trans ?_⟩
        exact congrArg Option.some (Table.ext rfl rfl)

theorem fill_fresh (now : Store) :
    Fresh ((if rows.isEmpty then pure () else appendRows target rows fault : Command Unit).outcome
      now).1 := by
  split
  · exact .ok _
  rcases ran : (appendRows target rows fault).outcome now with ⟨answer, after⟩
  cases answer with
  | ok done => exact .ok _
  | error e =>
    rw [appendRows, change_error_iff] at ran
    exact .error ((appendRows_fresh target rows now).perform fault e ran.1)

section
variable (stored : st.tables target = some table)
include stored

theorem createInMode_stored (schema : TableSchema) (mode : CreateMode) (fault : Fault) :
    (createInMode target schema mode fault).outcome st =
      (if mode = .ifNotExists then .ok () else .error (tableExists target), st) := by
  rw [createInMode, outcome_bind_ok (by rw [outcome_attempt, createTable_stored stored]),
    outcome_step, applyCreateMode]
  simp [tableExists]

theorem dropTempTarget_outcome :
    (dropTempTarget target temp fault).outcome st =
      (.ok (), if temp = true ∧ fault = none then st.remove target else st) := by
  unfold dropTempTarget
  cases temp with
  | false => rfl
  | true =>
    rw [if_pos rfl]
    cases fault with
    | none =>
      rw [outcome_bind_ok (by rw [outcome_attempt, dropTable_stored stored])]
      simp
    | some breakdown =>
      rw [outcome_bind_ok (by rw [outcome_attempt, dropTable_broken stored])]
      simp

theorem replaced_spared_iff (kept : mode ≠ .orReplace) :
    Spared mode target st
      ((createInMode target schema mode fault >>= fun _ =>
        if rows.isEmpty then pure () else appendRows target rows env.append).outcome
          (st.remove target)) ↔
      mode = .ifNotExists ∧ fault = none ∧ table.schema = schema ∧ table.rows = rows ∧
        (rows = [] ∨ env.append = none) := by
  have home : (st.remove target).Houses target := by
    obtain ⟨dataset, name⟩ := houses_of_stored stored
    exact ⟨dataset, name⟩
  cases fault with
  | some breakdown =>
    have created : (createInMode target schema mode (some breakdown)).outcome (st.remove target) =
        (.error breakdown.status, st.remove target) := by
      rw [createInMode, outcome_bind_ok (by
        rw [outcome_attempt, createTable_broken home remove_same]), outcome_step,
        applyCreateMode, if_neg fun existing => breakdown.fresh existing.2]
    rw [outcome_bind_error created]
    exact iff_of_false (not_spared_of_error breakdown.fresh) (by simp)
  | none =>
    have created : (createInMode target schema mode none).outcome (st.remove target) =
        (.ok (), (st.remove target).put target home (.empty schema)) := by
      rw [createInMode, outcome_bind_ok (by
        rw [outcome_attempt, createTable_new home remove_same])]
      rfl
    have empty : ((st.remove target).put target home (.empty schema)).tables target =
        some (.empty schema) := put_same
    rw [outcome_bind_ok created, ← fill_leaves_iff empty]
    cases mode with
    | orReplace => exact absurd rfl kept
    | default =>
      -- no step of the new table says ALREADY_EXISTS
      refine iff_of_false ?_ (by simp)
      rintro ⟨-, e, failed, existing⟩
      exact fill_fresh _ e failed existing
    | ifNotExists =>
      constructor
      · rintro ⟨same, answer⟩
        exact ⟨rfl, rfl, _, Prod.ext answer rfl, same.trans stored⟩
      · rintro ⟨-, -, after, ran, left⟩
        rw [ran]
        exact ⟨left.trans stored.symm, rfl⟩

end

end

section
variable {request : QueryRequest} {env : DdlEnv} {target : TableId} {st : Store} {table : Table}

theorem dropForReplace_kept (kept : mode ≠ .orReplace) (fault : Fault) :
    (dropForReplace mode target fault).outcome st = (.ok (), st) := by
  rw [dropForReplace, if_neg kept]
  rfl

theorem materializeSelect_spared_iff (named : Names request stmt.namePath target)
    (stored : st.tables target = some table) (kept : stmt.createMode ≠ .orReplace) :
    Spared stmt.createMode target st ((materializeSelect texts request stmt env).outcome st) ↔
      stmt.Harmless texts request.sql env st target table := by
  rw [materializeSelect, named, outcome_bind_ok (outcome_step _ st),
    outcome_bind_ok (ensureDatasetExists_stored stored),
    spared_step_iff (columnDefinitionListToTableSchema_fresh _), AsSelectStmt.Harmless]
  refine exists_congr fun schema => ?_
  have attached (st : Store) : Fresh (attachSources texts env (isTemp request.sql) stmt.sources st) := by
    refine (fallible_fresh _).bind fun _ => (fallible_fresh _).bind fun _ =>
      (fallible_fresh _).bind fun _ => .mapM (fun source => ?_) _
    cases source with
    | stored name id => exact (attachStorageTableAt_fresh env st id none).map _
    | other name => exact .error (by simp)
  rw [spared_look_iff attached, ← exists_and_left]
  refine exists_congr fun relations => ?_
  rw [outcome_bind_ok (dropForReplace_kept kept _), spared_step_iff ?fresh]
  case fresh =>
    refine Fresh.bind ((raised_fresh _).bind fun select => ?_) fun select => ?_
    · split
      · exact .error (by simp)
      · exact .ok _
    · dsimp only
      split
      · exact .error (by simp)
      · exact (Fresh.ok _).perform _
  simp only [← exists_and_left]
  refine exists_congr fun rows => ?_
  refine and_congr_right fun _ => and_congr_right fun _ => and_congr_right fun _ => ?_
  rw [writeRows, outcome_bind_ok (dropTempTarget_outcome stored)]
  by_cases dropped : isTemp request.sql = true ∧ env.dropTemp = none
  · rw [if_pos dropped, if_pos dropped]
    exact replaced_spared_iff stored kept
  · rw [if_neg dropped, if_neg dropped]
    have created := createInMode_stored stored schema stmt.createMode env.create
    cases mode : stmt.createMode with
    | orReplace => exact absurd mode kept
    | default =>
      rw [mode] at created
      rw [outcome_bind_error created]
      exact iff_of_true ⟨rfl, _, rfl, rfl⟩ (.inl rfl)
    | ifNotExists =>
      rw [mode] at created
      rw [outcome_bind_ok created]
      split
      next none => exact iff_of_true ⟨rfl, rfl⟩ (.inr (isEmpty_iff.mp none))
      next some =>
        refine iff_of_false ?_ (by simpa using some)
        rcases ran : (appendRows target rows env.append).outcome st with ⟨answered, after⟩
        rintro ⟨same, rfl⟩
        obtain ⟨-, found, shaped, home, present, rfl⟩ := writeChecked_ok ran
        cases stored.symm.trans present
        dsimp only at same
        rw [put_same, stored] at same
        have longer := congrArg (fun table : Option Table => (table.map Table.rows).getD []) same
        exact some (by simpa [Table.append] using longer)

/-- With IF NOT EXISTS the rows of the source replace those of the old table. -/
theorem overwrite_spared_iff (stored : st.tables target = some table) :
    Spared .ifNotExists target st
        ((if rows.isEmpty then pure () else overwriteRows target rows env.overwrite :
          Command Unit).outcome st) ↔
      rows = [] ∨ rows = table.rows ∧ env.overwrite = none := by
  split
  next none => exact iff_of_true ⟨rfl, rfl⟩ (.inl (isEmpty_iff.mp none))
  next some =>
    rw [or_iff_right (by simpa using some)]
    constructor
    · rcases ran : (overwriteRows target rows env.overwrite).outcome st with ⟨answered, after⟩
      rintro ⟨same, rfl⟩
      obtain ⟨calm, found, shaped, home, present, rfl⟩ := writeChecked_ok ran
      rw [put_same, stored] at same
      exact ⟨congrArg Table.rows (Option.some.inj same), calm⟩
    · rintro ⟨rfl, calm⟩
      rw [calm, overwriteRows_eq, writeChecked_fits stored table.shaped]
      refine ⟨?_, rfl⟩
      dsimp only
      rw [put_same, stored]

theorem getSchema_ok_iff {id : TableId} :
    (∃ schema, perform ((st.find id).map Table.schema) fault = .ok schema) ↔
      (st.tables id).isSome ∧ fault = none := by
  simp [observed_ok_iff, Option.isSome_iff_exists]

theorem materializeClone_spared_iff (stored : st.tables target = some table)
    (kept : mode ≠ .orReplace) :
    Spared mode target st ((materializeCloneIntoTarget target source asOfMs mode env).outcome st) ↔
      (st.tables source).isSome ∧ env.getSchema = none ∧
        (mode = .default ∨ ∃ rows, cloneRows env source asOfMs st = .ok rows ∧
          (rows = [] ∨ rows = table.rows ∧ env.overwrite = none)) := by
  rw [materializeCloneIntoTarget, getSchema,
    spared_look_iff fun st => ((find_fresh st source).map _).perform _]
  rw [← and_assoc, ← getSchema_ok_iff, ← exists_and_right]
  refine exists_congr fun schema => and_congr_right fun _ => ?_
  have created := createInMode_stored stored schema mode env.create
  rw [outcome_bind_ok (dropForReplace_kept kept _)]
  cases mode with
  | orReplace => exact absurd rfl kept
  | default =>
    rw [outcome_bind_error created]
    exact iff_of_true ⟨rfl, _, rfl, rfl⟩ (.inl rfl)
  | ifNotExists =>
    rw [outcome_bind_ok created, spared_look_iff (cloneRows_fresh env source asOfMs),
      or_iff_right (by decide)]
    exact exists_congr fun rows => and_congr_right fun _ => overwrite_spared_iff stored

theorem runClone_spared_iff (named : Names request stmt.namePath target)
    (stored : st.tables target = some table) (kept : stmt.createMode ≠ .orReplace) :
    Spared stmt.createMode target st ((runClone request stmt env).outcome st) ↔
      stmt.Harmless env st table := by
  rw [runClone, named, outcome_bind_ok (outcome_step _ st),
    outcome_bind_ok (ensureDatasetExists_stored stored),
    spared_step_iff (storageTableFromScan_fresh _), CloneStmt.Harmless]
  refine exists_congr fun source => ?_
  rw [spared_step_iff (raised_fresh _), ← exists_and_left]
  refine exists_congr fun asOfMs => ?_
  rw [materializeClone_spared_iff stored kept]

/-- CREATE leaves a table that exists alone, and says so, exactly when the statement is
harmless. -/
theorem existing_table_spared_iff {stmt : CreateStmt}
    (named : namePathToTableId stmt.namePath request.projectId request.defaultDatasetId = .ok target)
    (stored : st.tables target = some table) (kept : stmt.createMode ≠ .orReplace) :
    Spared stmt.createMode target st ((stmt.run request env).outcome st) ↔
      stmt.Harmless request.sql env st target table := by
  cases stmt with
  | table stmt =>
    change stmt.createMode ≠ .orReplace at kept
    change Spared stmt.createMode target st ((runCreateTable request stmt env).outcome st) ↔
      ∃ schema, columnDefinitionListToTableSchema stmt.columns = .ok schema
    rw [runCreateTable, show namePathToTableId stmt.namePath _ _ = _ from named,
      outcome_bind_ok (outcome_step _ st), outcome_bind_ok (ensureDatasetExists_stored stored),
      spared_step_iff (columnDefinitionListToTableSchema_fresh _)]
    refine exists_congr fun schema => and_iff_left ?_
    rw [outcome_bind_ok (dropForReplace_kept kept _), createInMode_stored stored]
    refine ⟨rfl, ?_⟩
    split
    · rfl
    · exact ⟨_, rfl, rfl⟩
  | tableClone | snapshotTable => exact runClone_spared_iff named stored kept
  | tableAsSelect | materializedView => exact materializeSelect_spared_iff named stored kept

def ledger : TableId := ⟨"p", "bank", "ledger"⟩

def numbers (values : List Int) : Table where
  schema := ⟨[{ name := "n", type := .int64 }]⟩
  rows := values.map fun value => ⟨[.int64 value]⟩
  shaped := by simp

def ledgerStore : Store := .single ledger (by decide) (numbers [1, 2])

/-- `CREATE TABLE bank.ledger AS SELECT 3 AS n`, in some mode. -/
def selectThree (mode : CreateMode) : AsSelectStmt where
  namePath := ["bank", "ledger"]
  createMode := mode
  columns := [⟨"n", .ok (.int64, .nullable)⟩]
  sources := []
  selectSql := .ok "SELECT 3 AS n"

def answersThree : DdlEnv where
  duckdb := fun _ _ => .ok [⟨[.int64 3]⟩]

def plainText : QueryRequest := ⟨"CREATE TABLE bank.ledger AS SELECT 3 AS n", "p", ""⟩

theorem plainText_lasting : isTemp plainText.sql = false := by decide +kernel

theorem selectThree_refused :
    Spared .default ledger ledgerStore
      (((CreateStmt.tableAsSelect (selectThree .default)).run plainText answersThree).outcome
        ledgerStore) := by
  refine (@existing_table_spared_iff plainText answersThree ledger ledgerStore (numbers [1, 2])
    (.tableAsSelect (selectThree .default)) rfl rfl (by decide)).mpr ?_
  simp only [CreateStmt.Harmless, AsSelectStmt.Harmless, plainText_lasting]
  exact ⟨_, _, _, rfl, rfl, rfl, .inl rfl⟩

def commentedText : QueryRequest :=
  ⟨"CREATE TABLE bank.ledger AS SELECT 3 AS n -- no CREATE TEMP", "p", ""⟩

theorem commentedText_temporary : isTemp commentedText.sql = true := by decide +kernel

def rowsAfter (stmt : CreateStmt) (request : QueryRequest) (env : DdlEnv) (st : Store)
    (id : TableId) : Option (List Row) :=
  (((stmt.run request env).outcome st).2.tables id).map Table.rows

/-- IF NOT EXISTS appends what the query selects, and a comment with the words CREATE TEMP
replaces the table. -/
theorem selectThree_written :
    rowsAfter (.tableAsSelect (selectThree .ifNotExists)) plainText answersThree ledgerStore
      ledger = some [⟨[.int64 1]⟩, ⟨[.int64 2]⟩, ⟨[.int64 3]⟩] ∧
    rowsAfter (.tableAsSelect (selectThree .default)) commentedText answersThree ledgerStore
      ledger = some [⟨[.int64 3]⟩] := by
  simp only [rowsAfter, CreateStmt.run, runCreateTableAsSelect, materializeSelect,
    plainText_lasting, commentedText_temporary]
  exact ⟨rfl, rfl⟩

end

end BigQueryEmulator.Ddl
