import BigQueryEmulator.Dml.Rows

/-! DML statements as transactions on storage (`dml_mutate.cc`, `dml_merge.cc`,
`dml_insert_helpers.cc`). A statement reads in separate storage calls, works on the rows in
memory, and writes them back in one call; nothing holds the store's mutex in between. On a store
that nothing changes meanwhile, its work is plain fallible computation. -/
namespace BigQueryEmulator.Dml
open Storage Serial

abbrev Execution := Transaction DuckDBStorage (Except Status DmlResult)

def scanAllRows (table : TableId) : Eval (List Row) :=
  ExceptT.mk (Query.ask fun st => st.scanRows table)

def readThen {α : Type} (work : Eval α) (next : α → Execution) : Execution :=
  Query.andThen work.run fun
    | .error e => .finish (.error e)
    | .ok value => next value

def writeThen (write : DuckDBStorage → DuckDBStorage × Except Status Unit)
    (answer : Eval DmlResult) : Execution :=
  .write fun st =>
    match write st with
    | (after, .error e) => (after, .error e)
    | (after, .ok ()) => (after, Query.run answer.run after)

def rejectUnsupportedDmlFeatures (generatedColumns : Nat) (kind : String) : Except Status Unit :=
  if generatedColumns > 0 then
    .error ⟨.unimplemented, "semantic/dml: " ++ kind ++
      " on tables with GENERATED columns is not yet supported"⟩
  else .ok ()

structure DeleteStmt where
  target : Target
  whereExpr : Option Expr := none
  assertRows : Option (Eval Value) := none
  returning : Option ReturningClause := none

def planDelete (del : DeleteStmt) : Eval Deletion := do
  let byId ← buildColumnIndexByColumnId del.target
  let rows ← scanAllRows del.target.table
  let deletion ← deleteRows del.target byId del.whereExpr rows
  checkAssertRowsModified del.assertRows deletion.deleted.length
  return deletion

def executeDelete (del : DeleteStmt) (env : MutationEnv) : Execution :=
  readThen (planDelete del) fun deletion =>
    let stats := { deletedRowCount := deletion.deleted.length }
    if deletion.deleted.isEmpty then .finish (.ok { stats })
    else writeThen (fun st => st.overwriteRows del.target.table deletion.kept env)
      (finalizeMutateWithReturning del.target del.returning "DELETE" deletion.deleted stats)

def planUpdate (upd : UpdateStmt) : Eval Rewriting := do
  rejectUnsupportedDmlFeatures upd.generatedColumns "UPDATE"
  if let some e := upd.rejected then throw e
  let byId ← buildColumnIndexByColumnId upd.target
  let rows ← scanAllRows upd.target.table
  let fromRows ← upd.fromScan.getD (return [])
  let rewriting ← updateRows upd byId fromRows rows
  checkAssertRowsModified upd.assertRows rewriting.updated
  return rewriting

def executeUpdate (upd : UpdateStmt) (env : MutationEnv) : Execution :=
  readThen (planUpdate upd) fun rewriting =>
    let stats := { updatedRowCount := rewriting.updated }
    if rewriting.updated = 0 then .finish (.ok { stats })
    else writeThen (fun st => st.overwriteRows upd.target.table rewriting.rewritten env)
      (finalizeMutateWithReturning upd.target upd.returning "UPDATE" rewriting.returning stats)

def planMerge (merge : MergeStmt) : Eval MergeProgress := do
  let byId ← buildColumnIndexByColumnId merge.target
  let rows ← scanAllRows merge.target.table
  let sources ← merge.fromScan
  mergeRows merge byId rows sources

/-- Unlike UPDATE and DELETE, MERGE writes even when no row changed. -/
def executeMerge (merge : MergeStmt) (env : MutationEnv) : Execution :=
  readThen (planMerge merge) fun progress =>
    writeThen (fun st => st.overwriteRows merge.target.table (buildMergeFinalRows progress) env)
      (return { stats := progress.stats })

inductive InsertSource where
  | values (rows : List (List Expr))
  | select (outputIds : List Int) (query : Eval (List ColumnBindings))

structure InsertStmt where
  target : Target
  orError : Bool := true
  onConflict : Bool := false
  generatedColumns : Nat := 0
  columns : List String
  source : InsertSource
  assertRows : Option (Eval Value) := none
  returning : Option ReturningClause := none

def checkInsert (ins : InsertStmt) : Except Status Unit := do
  if !ins.orError then
    throw ⟨.unimplemented, "semantic/dml: INSERT OR \x7bIGNORE,REPLACE,UPDATE\x7d requires " ++
      "primary-key conflict resolution that is not yet supported"⟩
  if ins.onConflict then
    throw ⟨.unimplemented, "semantic/dml: INSERT ... ON CONFLICT is not yet supported"⟩
  rejectUnsupportedDmlFeatures ins.generatedColumns "INSERT"

def insertRows (ins : InsertStmt) (columnIdx : List Nat) : Eval (List Row) :=
  match ins.source with
  | .values rows => rows.mapM fun values => buildInsertRow ins.target columnIdx values fun _ => none
  | .select outputIds query => do
    if outputIds.length ≠ ins.columns.length then
      throw ⟨.internal, "semantic/dml: INSERT column list size does not match SELECT " ++
        "output column list size"⟩
    let selected ← query
    (selected.mapM (buildSelectedRow ins.target columnIdx outputIds) : Except Status (List Row))

def returningIndex (ins : InsertStmt) : Except Status (Int → Option Nat) :=
  if ins.returning.isSome then buildColumnIndexByColumnId ins.target else .ok fun _ => none

/-- The rows to append and the answer. RETURNING is evaluated before the append. -/
def planInsert (ins : InsertStmt) : Eval (List Row × DmlResult) := do
  checkInsert ins
  let byId ← returningIndex ins
  let columnIdx ← buildInsertColumnIndexMapping ins.target.schema ins.columns
  let rows ← insertRows ins columnIdx
  checkAssertRowsModified ins.assertRows rows.length
  let stats := { insertedRowCount := rows.length }
  if ins.returning.isNone then return (rows, { stats })
  let contexts ← (rows.mapM (bindRow ins.target byId) : Except Status (List ColumnBindings))
  let result ← finalizeMutateWithReturning ins.target ins.returning "INSERT" contexts stats
  return (rows, result)

def executeInsert (ins : InsertStmt) (env : MutationEnv) : Execution :=
  readThen (planInsert ins) fun (rows, result) =>
    if rows.isEmpty then .finish (.ok result)
    else writeThen (fun st => st.appendRows ins.target.table rows env) (return result)

/-- What may write a table at the same time. `append` is a Storage Write or insertAll call,
`overwrite` any other statement that replaces the rows, such as TRUNCATE. -/
inductive Statement where
  | insert (stmt : InsertStmt)
  | update (stmt : UpdateStmt)
  | delete (stmt : DeleteStmt)
  | merge (stmt : MergeStmt)
  | append (table : TableId) (rows : List Row)
  | overwrite (table : TableId) (rows : Eval (List Row))

structure Request where
  statement : Statement
  env : MutationEnv

def Request.execution (request : Request) : Execution :=
  match request.statement with
  | .insert stmt => executeInsert stmt request.env
  | .update stmt => executeUpdate stmt request.env
  | .delete stmt => executeDelete stmt request.env
  | .merge stmt => executeMerge stmt request.env
  | .append table rows =>
    writeThen (fun st => st.appendRows table rows request.env) (return { stats := {} })
  | .overwrite table rows =>
    readThen rows fun rows =>
      writeThen (fun st => st.overwriteRows table rows request.env) (return { stats := {} })

section
variable {α β : Type}

/-- The answer of work that nothing interrupts. -/
def Eval.alone (work : Eval α) (st : DuckDBStorage) : Except Status α := Query.run work.run st

theorem alone_bind (work : Eval α) (next : α → Eval β) (st : DuckDBStorage) :
    Eval.alone (work >>= next) st = (Eval.alone work st >>= fun value => Eval.alone (next value) st) := by
  have sequenced : Eval.alone (work >>= next) st =
      Query.run (ExceptT.bindCont next (Query.run work.run st)) st := Query.run_bind _ _ st
  rw [sequenced, Eval.alone]
  cases Query.run work.run st <;> rfl

theorem alone_bind_ok (ok : Eval.alone (work >>= next) st = .ok result) :
    ∃ value, Eval.alone work st = .ok value ∧ Eval.alone (next value) st = .ok result := by
  rw [alone_bind] at ok
  exact bind_ok ok

theorem readThen_run (work : Eval α) (next : α → Execution) (st : DuckDBStorage) :
    (readThen work next).run st =
      match Eval.alone work st with
      | .error e => (st, .error e)
      | .ok value => (next value).run st := by
  rw [readThen, Query.andThen_run, ← Eval.alone]
  cases Eval.alone work st <;> rfl

theorem finalize_stats
    (ok : Eval.alone (finalizeMutateWithReturning target returning action contexts stats) st =
      .ok result) : result.stats = stats := by
  unfold finalizeMutateWithReturning at ok
  cases returning with
  | none => cases ok; rfl
  | some clause =>
    dsimp only at ok
    split at ok
    · cases ok
      rfl
    · obtain ⟨source, _, ended⟩ := alone_bind_ok ok
      cases ended
      rfl

theorem planInsert_count (ok : Eval.alone (planInsert ins) st = .ok (rows, result)) :
    result.stats.insertedRowCount = rows.length := by
  obtain ⟨_, _, ok⟩ := alone_bind_ok ok
  obtain ⟨byId, _, ok⟩ := alone_bind_ok ok
  obtain ⟨columnIdx, _, ok⟩ := alone_bind_ok ok
  obtain ⟨built, _, ok⟩ := alone_bind_ok ok
  obtain ⟨_, _, ok⟩ := alone_bind_ok ok
  split at ok
  · cases ok
    rfl
  · obtain ⟨contexts, _, ok⟩ := alone_bind_ok ok
    obtain ⟨answered, finalized, ok⟩ := alone_bind_ok ok
    cases ok
    rw [finalize_stats finalized]

variable {st : DuckDBStorage}

@[simp] theorem alone_pure (value : α) : Eval.alone (pure value) st = .ok value := rfl

@[simp] theorem alone_lift (result : Except Status α) :
    Eval.alone (liftM result : Eval α) st = result := rfl

theorem alone_foldlM (step : β → ι → Eval β) (xs : List ι) (init : β) :
    Eval.alone (xs.foldlM step init) st =
      xs.foldlM (fun sofar x => Eval.alone (step sofar x) st) init := by
  induction xs generalizing init with
  | nil => rfl
  | cons x rest ih =>
    rw [List.foldlM_cons, List.foldlM_cons, alone_bind]
    congr 1
    funext sofar
    exact ih sofar

theorem alone_mapM (f : α → Eval β) (xs : List α) :
    Eval.alone (xs.mapM f) st = xs.mapM fun x => Eval.alone (f x) st := by
  induction xs with
  | nil => rfl
  | cons x rest ih =>
    rw [List.mapM_cons, List.mapM_cons, alone_bind]
    congr 1
    funext value
    rw [alone_bind, ih]
    rfl

theorem alone_scanAllRows (table : TableId) :
    Eval.alone (scanAllRows table) st = st.scanRows table := rfl

end

end BigQueryEmulator.Dml
