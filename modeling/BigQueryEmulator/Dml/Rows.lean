import BigQueryEmulator.Serial
import BigQueryEmulator.Storage.RowEffects

/-! The row work of the semantic DML executor (`dml_executor_common.cc`,
`dml_mutate_helpers.cc`, `dml_update_helpers.cc`, `dml_insert_helpers.cc`,
`dml_merge_helpers.cc`, `dml_returning.cc`): binding rows to the columns of a scan, and the
loops that decide a statement's new rows. An expression is given by what `EvalExpr` does
for it; a subquery in it reads storage while the loop runs. -/
namespace BigQueryEmulator.Dml
open Storage Serial

abbrev Eval := ExceptT Status (Query DuckDBStorage)

abbrev ColumnBindings := Int → Option Value

abbrev Expr := ColumnBindings → Eval Value

structure ResolvedColumn where
  columnId : Int
  name : String

/-- The table a statement writes: its storage id, schema and scanned columns, and the
conversions between its cells and the values expressions see. -/
structure Target where
  table : TableId
  schema : TableSchema
  scan : List ResolvedColumn
  bindValue : Value → ColumnSchema → Except Status Value := fun value _ => .ok value
  storeValue : Value → Except Status Value := .ok

structure DmlStats where
  insertedRowCount : Nat := 0
  updatedRowCount : Nat := 0
  deletedRowCount : Nat := 0
deriving DecidableEq, Repr

def equalsIgnoreCase (a b : String) : Bool :=
  a.toList.map Char.toLower == b.toList.map Char.toLower

def indexOfColumn (schema : TableSchema) (name : String) : Option Nat :=
  schema.columns.findIdx? (fun column => equalsIgnoreCase column.name name)

def buildColumnIndexByColumnId (target : Target) : Except Status (Int → Option Nat) :=
  target.scan.foldlM (fun byId column =>
    match indexOfColumn target.schema column.name with
    | none => .error ⟨.internal, "semantic/dml: ResolvedTableScan column '" ++ column.name ++
        "' not found in storage table schema"⟩
    | some idx => .ok (fun id => if id = column.columnId then some idx else byId id))
    (fun _ => none)

def bindColumn (target : Target) (byId : Int → Option Nat) (row : Row)
    (bindings : ColumnBindings) (column : ResolvedColumn) : Except Status ColumnBindings :=
  match byId column.columnId with
  | none => .error ⟨.internal, "semantic/dml: column_id=" ++ toString column.columnId ++
      " missing from storage column-index map"⟩
  | some idx =>
    match row.cells[idx]?, target.schema.columns[idx]? with
    | some cell, some schema =>
      (target.bindValue cell schema).map fun value id =>
        if id = column.columnId then some value else bindings id
    | _, _ => .error ⟨.internal, "semantic/dml: column index " ++ toString idx ++
        " out of range for row with " ++ toString row.cells.length ++ " cells"⟩

def bindRow (target : Target) (byId : Int → Option Nat) (row : Row) : Except Status ColumnBindings :=
  target.scan.foldlM (bindColumn target byId row) (fun _ => none)

variable (whereExpr : Option Expr)

/-- Only a non-null TRUE selects; a missing WHERE selects everything. -/
def evalWherePredicate (bindings : ColumnBindings) : Eval Bool :=
  match whereExpr with
  | none => return true
  | some expr => do
    match ← expr bindings with
    | .bool true => return true
    | _ => return false

/-- `EvalBoolExpr`, for which an error counts as FALSE. -/
def evalBoolExpr (expr : Option Expr) (bindings : ColumnBindings) : Eval Bool :=
  tryCatch (evalWherePredicate expr bindings) fun _ => return false

/-- `assertRows` evaluates the count ASSERT_ROWS_MODIFIED asks for. -/
def checkAssertRowsModified (assertRows : Option (Eval Value)) (actual : Nat) : Eval Unit :=
  match assertRows with
  | none => return ()
  | some rows => do
    match ← rows with
    | .int64 expected =>
      if (actual : Int) ≠ expected then
        throw ⟨.invalidArgument, "DML statement modified " ++ toString actual ++
          " row(s), but " ++ toString expected ++ " row(s) were expected."⟩
    | _ => throw ⟨.internal, "semantic/dml: ASSERT_ROWS_MODIFIED rows must be a non-null INT64"⟩

def mergeColumnBindings (target source : ColumnBindings) : ColumnBindings :=
  fun id => (source id).or (target id)

/-- `THEN RETURN`. `exprs` are its computed columns, by column id. -/
structure ReturningClause where
  schema : Except Status TableSchema
  outputColumns : List ResolvedColumn
  exprs : Int → Option Expr := fun _ => none
  actionColumn : Option Int := none

structure RowSource where
  schema : TableSchema
  rows : List Row

structure DmlResult where
  stats : DmlStats
  returningRows : Option RowSource := none

def projectReturningColumn (target : Target) (returning : ReturningClause)
    (bindings : ColumnBindings) (action : String) (column : ResolvedColumn) : Eval Value := do
  if returning.actionColumn = some column.columnId then
    return ← target.storeValue (.string action)
  match returning.exprs column.columnId with
  | some expr => return ← target.storeValue (← expr bindings)
  | none =>
    match bindings column.columnId with
    | some value => return ← target.storeValue value
    | none => throw ⟨.internal, "semantic/dml: returning column '" ++ column.name ++
        "' has no binding for column_id=" ++ toString column.columnId⟩

def projectReturningRow (target : Target) (returning : ReturningClause) (action : String)
    (bindings : ColumnBindings) : Eval Row :=
  Row.mk <$> returning.outputColumns.mapM (projectReturningColumn target returning bindings action)

def buildReturningRowSource (target : Target) (returning : ReturningClause) (action : String)
    (contexts : List ColumnBindings) : Eval RowSource := do
  let schema ← returning.schema
  let rows ← contexts.mapM (projectReturningRow target returning action)
  return ⟨schema, rows⟩

/-- Without a clause, or without a changed row, there are no rows to return. -/
def finalizeMutateWithReturning (target : Target) (returning : Option ReturningClause)
    (action : String) (contexts : List ColumnBindings) (stats : DmlStats) : Eval DmlResult := do
  match returning with
  | none => return { stats }
  | some clause =>
    if contexts.isEmpty then return { stats }
    let source ← buildReturningRowSource target clause action contexts
    return { stats, returningRows := some source }

structure Deletion where
  kept : List Row := []
  deleted : List ColumnBindings := []

def deleteRow (target : Target) (byId : Int → Option Nat) (whereExpr : Option Expr)
    (sofar : Deletion) (row : Row) : Eval Deletion := do
  let bindings ← bindRow target byId row
  let matched ← evalWherePredicate whereExpr bindings
  if matched then return { sofar with deleted := sofar.deleted ++ [bindings] }
  else return { sofar with kept := sofar.kept ++ [row] }

def deleteRows (target : Target) (byId : Int → Option Nat) (whereExpr : Option Expr)
    (rows : List Row) : Eval Deletion :=
  rows.foldlM (deleteRow target byId whereExpr) {}

structure SetAssignment where
  columnIdx : Nat
  structFieldPath : List Nat := []
  setExpr : Expr

/-- `SET array = (DELETE array WHERE …)`, given by what it makes of the array. -/
structure NestedArrayDelete where
  columnIdx : Nat
  structFieldPath : List Nat := []
  rewrite : Value → ColumnBindings → Eval Value

def setNestedStructField : List Nat → Value → Value → Except Status Value
  | [], _, leaf => .ok leaf
  | _ :: _, .null, _ =>
    .error ⟨.invalidArgument, "semantic/dml: cannot SET a nested STRUCT field on NULL"⟩
  | idx :: rest, .struct fields, leaf =>
    match fields[idx]? with
    | none => .error ⟨.invalidArgument, "semantic/dml: SetNestedStructField index out of range"⟩
    | some field =>
      (setNestedStructField rest field leaf).map fun value => .struct (fields.set idx value)
  | _ :: _, _, _ =>
    .error ⟨.invalidArgument, "semantic/dml: SetNestedStructField base is not STRUCT"⟩

def setCell (row : Row) (idx : Nat) (cell : Value) : Row := ⟨row.cells.set idx cell⟩

def currentValue (target : Target) (row : Row) (idx : Nat) : Except Status Value :=
  target.bindValue (row.cells.getD idx .null) (target.schema.columns.getD idx { name := "" })

def applySet (target : Target) (bindings : ColumnBindings) (row : Row) (set : SetAssignment) :
    Eval Row := do
  let value ← set.setExpr bindings
  if set.structFieldPath.isEmpty then
    return setCell row set.columnIdx (← target.storeValue value)
  else
    let current ← currentValue target row set.columnIdx
    let rewritten ← setNestedStructField set.structFieldPath current value
    return setCell row set.columnIdx (← target.storeValue rewritten)

def applyNestedDelete (target : Target) (bindings : ColumnBindings) (row : Row)
    (nested : NestedArrayDelete) : Eval Row := do
  let current ← currentValue target row nested.columnIdx
  if !nested.structFieldPath.isEmpty then
    throw ⟨.unimplemented, "semantic/dml: nested DELETE on nested STRUCT arrays is deferred"⟩
  let rewritten ← nested.rewrite current bindings
  return setCell row nested.columnIdx (← target.storeValue rewritten)

def applyUpdateSets (target : Target) (sets : List SetAssignment)
    (nestedDeletes : List NestedArrayDelete) (bindings : ColumnBindings) (row : Row) :
    Eval Row := do
  let row ← sets.foldlM (applySet target bindings) row
  nestedDeletes.foldlM (applyNestedDelete target bindings) row

def fromScanMatches (targetBind : ColumnBindings)
    (fromRows : List ColumnBindings) : Eval (List ColumnBindings) :=
  fromRows.foldlM (fun found source => do
    let merged := mergeColumnBindings targetBind source
    if ← evalWherePredicate whereExpr merged then return found ++ [merged] else return found) []

def countFromScanMatches (targetBind : ColumnBindings)
    (fromRows : List ColumnBindings) : Eval (Option ColumnBindings) := do
  let found ← fromScanMatches whereExpr targetBind fromRows
  if found.length > 1 then
    throw ⟨.invalidArgument, "semantic/dml: UPDATE/MERGE must match at most one source row for " ++
      "each target row"⟩
  return found.getLast?

structure UpdateStmt where
  target : Target
  generatedColumns : Nat := 0
  /-- The error `ParseUpdateAssignments` answers with, if it does. -/
  rejected : Option Status := none
  whereExpr : Option Expr := none
  sets : List SetAssignment
  nestedDeletes : List NestedArrayDelete := []
  /-- What `MaterializeScan` answers for the FROM clause. -/
  fromScan : Option (Eval (List ColumnBindings)) := none
  assertRows : Option (Eval Value) := none
  returning : Option ReturningClause := none

structure Rewriting where
  rewritten : List Row := []
  updated : Nat := 0
  returning : List ColumnBindings := []

variable (upd : UpdateStmt)

def matchUpdateRow (fromRows : List ColumnBindings)
    (targetBind : ColumnBindings) : Eval (Option ColumnBindings) := do
  match upd.fromScan with
  | none => if ← evalWherePredicate upd.whereExpr targetBind then return targetBind else return none
  | some _ => countFromScanMatches upd.whereExpr targetBind fromRows

def processOneUpdateRow (byId : Int → Option Nat)
    (fromRows : List ColumnBindings) (sofar : Rewriting) (row : Row) : Eval Rewriting := do
  let targetBind ← bindRow upd.target byId row
  match ← matchUpdateRow upd fromRows targetBind with
  | none => return { sofar with rewritten := sofar.rewritten ++ [row] }
  | some bindings =>
    let mutated ← applyUpdateSets upd.target upd.sets upd.nestedDeletes bindings row
    let sofar := { sofar with
      rewritten := sofar.rewritten ++ [mutated], updated := sofar.updated + 1 }
    if upd.returning.isNone then return sofar
    let post ← bindRow upd.target byId mutated
    return { sofar with returning := sofar.returning ++ [post] }

def updateRows (byId : Int → Option Nat) (fromRows : List ColumnBindings)
    (rows : List Row) : Eval Rewriting :=
  rows.foldlM (processOneUpdateRow upd byId fromRows) {}

def insertColumnIndex (kind missing : String) (schema : TableSchema) (name : String) :
    Except Status Nat :=
  match indexOfColumn schema name with
  | some idx => .ok idx
  | none => .error ⟨.internal, "semantic/dml: " ++ kind ++ " column '" ++ name ++ missing⟩

def buildInsertColumnIndexMapping (schema : TableSchema) (columns : List String) :
    Except Status (List Nat) :=
  columns.mapM (insertColumnIndex "INSERT" "' not found in storage table schema" schema)

def mergeInsertColumnIndexMapping (schema : TableSchema) (columns : List String) :
    Except Status (List Nat) :=
  columns.mapM (insertColumnIndex "MERGE INSERT" "' not found in target schema" schema)

def emptyRow (schema : TableSchema) : Row := ⟨schema.columns.map fun _ => .null⟩

def buildInsertRow (target : Target) (columnIdx : List Nat) (values : List Expr)
    (bindings : ColumnBindings) : Eval Row := do
  if values.length ≠ columnIdx.length then
    throw ⟨.internal, "semantic/dml: INSERT row has " ++ toString values.length ++
      " values but the column list named " ++ toString columnIdx.length ++ " columns"⟩
  (columnIdx.zip values).foldlM (fun row (idx, expr) => do
    let value ← expr bindings
    return setCell row idx (← target.storeValue value)) (emptyRow target.schema)

def buildSelectedRow (target : Target) (columnIdx : List Nat) (sourceIds : List Int)
    (bindings : ColumnBindings) : Except Status Row :=
  (columnIdx.zip sourceIds).foldlM (fun row (idx, id) => do
    match bindings id with
    | none => throw ⟨.internal, "semantic/dml: INSERT ... SELECT row missing column_id=" ++
        toString id⟩
    | some value => return setCell row idx (← target.storeValue value)) (emptyRow target.schema)

/-- An UPDATE action carries what `ParseMergeUpdateItems` answers for its items. -/
inductive MergeAction where
  | update (sets : Except Status (List SetAssignment))
  | delete
  | insert (columns : List String) (values : List Expr)

inductive MatchType where
  | matched
  | notMatchedByTarget
  | notMatchedBySource
deriving DecidableEq, Repr

structure MergeWhen where
  matchType : MatchType
  matchExpr : Option Expr := none
  action : MergeAction

structure MergeStmt where
  target : Target
  fromScan : Eval (List ColumnBindings)
  mergeExpr : Option Expr
  whens : List MergeWhen

structure TargetMergeState where
  targetBind : ColumnBindings
  row : Row
  hasSourceMatch : Bool := false
  matchCount : Nat := 0
  matchedBind : ColumnBindings := fun _ => none
  acted : Bool := false
  deleted : Bool := false

structure SourceMergeState where
  sourceBind : ColumnBindings
  hasTargetMatch : Bool := false
  acted : Bool := false

structure MergeParticipants where
  targets : List TargetMergeState
  sources : List SourceMergeState

structure MergeProgress where
  participants : MergeParticipants
  stats : DmlStats := {}
  inserts : List Row := []

def loadMergeParticipants (target : Target) (byId : Int → Option Nat) (rows : List Row)
    (sources : List ColumnBindings) : Except Status MergeParticipants := do
  let targets ← rows.mapM fun row =>
    (bindRow target byId row).map fun targetBind => ({ targetBind, row } : TargetMergeState)
  return ⟨targets, sources.map fun sourceBind => { sourceBind }⟩

variable (mergeExpr : Option Expr)

/-- A target row against a source row, and whether they match. A later match replaces an
earlier one. -/
def correlatePair (source : SourceMergeState)
    (target : TargetMergeState) : Eval (TargetMergeState × Bool) := do
  let merged := mergeColumnBindings target.targetBind source.sourceBind
  if ← evalBoolExpr mergeExpr merged then
    return ({ target with
      hasSourceMatch := true
      matchCount := target.matchCount + 1
      matchedBind := merged }, true)
  else return (target, false)

def correlateSource (sofar : MergeParticipants)
    (source : SourceMergeState) : Eval MergeParticipants := do
  let pairs ← sofar.targets.mapM (correlatePair mergeExpr source)
  let hasTargetMatch := source.hasTargetMatch || pairs.any Prod.snd
  return ⟨pairs.map Prod.fst, sofar.sources ++ [{ source with hasTargetMatch }]⟩

def correlateMergeTargetsAndSources (participants : MergeParticipants) :
    Eval MergeParticipants :=
  participants.sources.foldlM (correlateSource mergeExpr) ⟨participants.targets, []⟩

def matchedMutates (clause : MergeWhen) : Bool :=
  clause.matchType = .matched &&
    match clause.action with
    | .update _ | .delete => true
    | .insert _ _ => false

def checkMatchedTargetMultiMatch (whens : List MergeWhen) (targets : List TargetMergeState) :
    Except Status Unit :=
  if whens.any matchedMutates && targets.any (fun target => target.matchCount > 1) then
    .error ⟨.invalidArgument, "semantic/dml: MERGE must match at most one source row for " ++
      "each target row"⟩
  else .ok ()

/-- The two clauses over target rows differ in which rows they take, under which bindings,
and in the text for an action they do not have. -/
def applyTargetMergeWhen (eligible : TargetMergeState → Bool)
    (bindings : TargetMergeState → ColumnBindings) (unexpected : String) (target : Target)
    (clause : MergeWhen) (stats : DmlStats) (state : TargetMergeState) :
    Eval (TargetMergeState × DmlStats) := do
  if !eligible state || state.acted || state.deleted then return (state, stats)
  if !(← evalBoolExpr clause.matchExpr (bindings state)) then return (state, stats)
  match clause.action with
  | .delete =>
    return ({ state with deleted := true, acted := true },
      { stats with deletedRowCount := stats.deletedRowCount + 1 })
  | .update (.error e) => throw e
  | .update (.ok sets) =>
    let row ← sets.foldlM (applySet target (bindings state)) state.row
    return ({ state with row, acted := true },
      { stats with updatedRowCount := stats.updatedRowCount + 1 })
  | .insert _ _ => throw ⟨.internal, unexpected⟩

def applyMatchedMergeWhen :=
  applyTargetMergeWhen (fun state => state.hasSourceMatch) (fun state => state.matchedBind)
    "semantic/dml: MATCHED MERGE clause has unexpected action"

def applyNotMatchedBySourceMergeWhen :=
  applyTargetMergeWhen (fun state => !state.hasSourceMatch) (fun state => state.targetBind)
    "semantic/dml: NOT MATCHED BY SOURCE has unexpected action"

def applyNotMatchedByTargetMergeWhen (target : Target) (clause : MergeWhen)
    (source : SourceMergeState) : Eval (SourceMergeState × Option Row) := do
  if source.hasTargetMatch || source.acted then return (source, none)
  if !(← evalBoolExpr clause.matchExpr source.sourceBind) then return (source, none)
  match clause.action with
  | .insert columns values =>
    if columns.isEmpty then
      throw ⟨.internal, "semantic/dml: MERGE INSERT clause missing row/columns"⟩
    let columnIdx ← mergeInsertColumnIndexMapping target.schema columns
    let row ← buildInsertRow target columnIdx values source.sourceBind
    return ({ source with acted := true }, some row)
  | _ => throw ⟨.internal, "semantic/dml: NOT MATCHED BY TARGET requires INSERT"⟩

def applyToTargets (apply : DmlStats → TargetMergeState → Eval (TargetMergeState × DmlStats))
    (progress : MergeProgress) : Eval MergeProgress := do
  let (targets, stats) ← progress.participants.targets.foldlM (fun (done, stats) state => do
    let (state, stats) ← apply stats state
    return (done ++ [state], stats)) (([] : List TargetMergeState), progress.stats)
  return { progress with participants := { progress.participants with targets }, stats }

def applyMergeWhen (target : Target) (progress : MergeProgress) (clause : MergeWhen) :
    Eval MergeProgress :=
  match clause.matchType with
  | .matched => applyToTargets (applyMatchedMergeWhen target clause) progress
  | .notMatchedBySource => applyToTargets (applyNotMatchedBySourceMergeWhen target clause) progress
  | .notMatchedByTarget => do
    let visited ← progress.participants.sources.mapM
      (applyNotMatchedByTargetMergeWhen target clause)
    let rows := visited.filterMap Prod.snd
    return {
      participants := { progress.participants with sources := visited.map Prod.fst }
      stats := { progress.stats with
        insertedRowCount := progress.stats.insertedRowCount + rows.length }
      inserts := progress.inserts ++ rows }

def applyMergeWhenClauses (target : Target) (whens : List MergeWhen)
    (participants : MergeParticipants) : Eval MergeProgress :=
  whens.foldlM (applyMergeWhen target) { participants }

def buildMergeFinalRows (progress : MergeProgress) : List Row :=
  (progress.participants.targets.filter fun state => !state.deleted).map (fun state => state.row) ++
    progress.inserts

def mergeRows (merge : MergeStmt) (byId : Int → Option Nat) (rows : List Row)
    (sources : List ColumnBindings) : Eval MergeProgress := do
  let loaded ← loadMergeParticipants merge.target byId rows sources
  let participants ← correlateMergeTargetsAndSources merge.mergeExpr loaded
  checkMatchedTargetMultiMatch merge.whens participants.targets
  applyMergeWhenClauses merge.target merge.whens participants
end BigQueryEmulator.Dml
