import BigQueryEmulator.Buckets
import BigQueryEmulator.Semantic.Exprs

/-! INNER and LEFT joins (`scan_eval_materialize.cc`, `scan_eval_materialize_helpers.cc`). An ON
condition with an equality between columns of the two sides takes the hash path, any other the
nested loop. -/
namespace BigQueryEmulator.Semantic
open Storage (Status StatusCode)

inductive JoinType where
  | inner | left | right | full
  deriving DecidableEq

/-- A join without LATERAL. `nullColumns` are the columns of the right scan under its barriers. -/
structure JoinScan where
  joinType : JoinType
  leftColumns : List Column
  rightColumns : List Column
  nullColumns : List Column
  joinExpr : Option Expr

def appendNullRightColumns (columns : List Column) (row : ColumnBindings) : ColumnBindings :=
  columns.foldl (fun row column => row.insertAll fun id =>
    if id = column.id then some (.null column.kind) else none) row

def includedPairs (included : ColumnBindings → Except Status Bool) (leftRow : ColumnBindings) :
    List ColumnBindings → Except Status (List ColumnBindings)
  | [] => .ok []
  | rightRow :: rest => do
    let merged := leftRow.insertAll rightRow
    if ← included merged then
      return merged :: (← includedPairs included leftRow rest)
    else includedPairs included leftRow rest

/-- A LEFT join keeps a left row that has no pair. -/
def JoinScan.outputOf (join : JoinScan) (leftRow : ColumnBindings) (pairs : List ColumnBindings) :
    List ColumnBindings :=
  if pairs.isEmpty && join.joinType = .left then [appendNullRightColumns join.nullColumns leftRow]
  else pairs

def shouldIncludeJoinRow (join : JoinScan) (ctx : ExprContext) (merged : ColumnBindings) :
    Except Status Bool :=
  match join.joinExpr with
  | none => .ok true
  | some expr => evalBoolExpr ctx merged expr

def materializeNestedLoopJoinRows (join : JoinScan) (ctx : ExprContext)
    (leftRows rightRows : List ColumnBindings) : Except Status (List ColumnBindings) := do
  let parts ← leftRows.mapM fun leftRow => do
    let pairs ← includedPairs (shouldIncludeJoinRow join ctx) leftRow rightRows
    return join.outputOf leftRow pairs
  return parts.flatten

def hashableJoinKeyType : TypeKind → Bool
  | .int32 | .int64 | .uint32 | .uint64 | .bool | .string | .bytes | .date | .timestamp | .time
  | .datetime | .numeric | .bignumeric => true
  | _ => false

/-- `left_key_ids[i]` of a left row is compared with `right_key_ids[i]` of a right row. -/
structure EquiJoinPlan where
  leftKeyIds : List Nat := []
  rightKeyIds : List Nat := []
  residual : List Expr := []

def hashableColumnRefId : Expr → Option Nat
  | .columnRef ref =>
    if ref.isCorrelated || !hashableJoinKeyType ref.column.kind then none else some ref.column.id
  | _ => none

def equalityIds : Expr → Option (Nat × Nat)
  | @Expr.call name 2 args =>
    if name = "$equal" then
      match hashableColumnRefId (args 0), hashableColumnRefId (args 1) with
      | some lhs, some rhs => some (lhs, rhs)
      | _, _ => none
    else none
  | _ => none

/-- The key columns of a conjunct, the left one first, if it compares the two sides. -/
def keyIds (join : JoinScan) (conjunct : Expr) : Option (Nat × Nat) :=
  let leftIds := join.leftColumns.map Column.id
  let rightIds := join.rightColumns.map Column.id
  match equalityIds conjunct with
  | some (lhs, rhs) =>
    if leftIds.contains lhs && rightIds.contains rhs then some (lhs, rhs)
    else if leftIds.contains rhs && rightIds.contains lhs then some (rhs, lhs)
    else none
  | none => none

def EquiJoinPlan.add (join : JoinScan) (plan : EquiJoinPlan) (conjunct : Expr) : EquiJoinPlan :=
  match keyIds join conjunct with
  | some (left, right) =>
    { plan with
      leftKeyIds := plan.leftKeyIds ++ [left], rightKeyIds := plan.rightKeyIds ++ [right] }
  | none => { plan with residual := plan.residual ++ [conjunct] }

def planEquiJoin (join : JoinScan) : Option EquiJoinPlan :=
  match join.joinExpr with
  | none => none
  | some expr =>
    if join.joinType = .inner ∨ join.joinType = .left then
      let plan := (flattenAndConjuncts expr).foldl (EquiJoinPlan.add join) {}
      if plan.leftKeyIds.isEmpty then none else some plan
    else none

/-- `print` is `Value::DebugString`. -/
def groupKeyFingerprint (print : Value → String) (keys : List Value) : String :=
  keys.foldl (fun fingerprint key => fingerprint ++ print key ++ "\x1e") ""

/-- The values of the key columns, unless one of them is NULL. -/
def joinKeys (row : ColumnBindings) : List Nat → Except Status (Option (List Value))
  | [] => .ok (some [])
  | id :: rest =>
    match row id with
    | none => .error ⟨.internal, "semantic: join key column_id=" ++ toString id ++
        " missing from materialized row"⟩
    | some value =>
      if value.isNull then .ok none else (joinKeys row rest).map (·.map (value :: ·))

def joinKeyFingerprint (print : Value → String) (row : ColumnBindings) (ids : List Nat) :
    Except Status (Option String) :=
  (joinKeys row ids).map (·.map (groupKeyFingerprint print))

/-- The right rows by their fingerprints; a row with a NULL key is in no bucket. -/
def buildRightIndex (print : Value → String) (ids : List Nat) (index : String → List ColumnBindings) :
    List ColumnBindings → Except Status (String → List ColumnBindings)
  | [] => .ok index
  | row :: rest => do
    match ← joinKeyFingerprint print row ids with
    | none => buildRightIndex print ids index rest
    | some fingerprint => buildRightIndex print ids (Buckets.add index fingerprint row) rest

def residualsHold (ctx : ExprContext) (merged : ColumnBindings) : List Expr → Except Status Bool
  | [] => .ok true
  | residual :: rest => do
    if ← evalBoolExpr ctx merged residual then residualsHold ctx merged rest else return false

def materializeHashEquiJoinRows (print : Value → String) (join : JoinScan) (plan : EquiJoinPlan)
    (ctx : ExprContext) (leftRows rightRows : List ColumnBindings) :
    Except Status (List ColumnBindings) := do
  let index ← buildRightIndex print plan.rightKeyIds (fun _ => []) rightRows
  let parts ← leftRows.mapM fun leftRow => do
    let fingerprint ← joinKeyFingerprint print leftRow plan.leftKeyIds
    let candidates := fingerprint.elim [] index
    let pairs ← includedPairs (fun merged => residualsHold ctx merged plan.residual) leftRow candidates
    return join.outputOf leftRow pairs
  return parts.flatten

/-- `left` and `right` are what the scans of the two sides give. -/
def materializeJoinScan (print : Value → String) (join : JoinScan) (ctx : ExprContext)
    (left right : Except Status (List ColumnBindings)) : Except Status (List ColumnBindings) :=
  if join.joinType = .right ∨ join.joinType = .full then
    .error (semanticError .unimplemented "RIGHT/FULL JOIN not yet implemented")
  else do
    let leftRows ← left
    let rightRows ← right
    match planEquiJoin join with
    | some plan => materializeHashEquiJoinRows print join plan ctx leftRows rightRows
    | none => materializeNestedLoopJoinRows join ctx leftRows rightRows

end BigQueryEmulator.Semantic
