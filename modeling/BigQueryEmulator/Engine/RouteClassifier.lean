import BigQueryEmulator.Dml.Rows
import BigQueryEmulator.Engine.Dispositions
import BigQueryEmulator.Tree

/-! The route classifier (`route_classifier.cc`, `route_classifier_visitor.cc`,
`route_classifier_functions.cc`, `route_classifier_analytic.cc`): one disposition for a whole
resolved statement. A resolved node is a tree whose parts are the nodes in its fields; the
classes whose own data the classifier reads are the constructors of `NodeClass`. -/
namespace BigQueryEmulator.Engine

inductive TypeKind where
  | int32 | int64 | uint32 | uint64 | bool | float | double | string | bytes
  | date | timestamp | time | datetime | interval | numeric | bignumeric
  /-- Every other kind: structs, arrays, JSON and so on. -/
  | other
deriving DecidableEq

inductive FunctionGroup where
  | sqlFunction
  | templatedSqlFunction
  | other (name : String)
deriving DecidableEq

/-- A catalog function: `Name()`, `FullName(/*include_group=*/false)` and `GetGroup()`. -/
structure FunctionRef where
  name : String
  fullName : String
  group : FunctionGroup
deriving DecidableEq

inductive ErrorMode where
  | default | safe
deriving DecidableEq

inductive SubqueryType where
  | scalar | array | exists | in | likeAny | likeAll | notLikeAny | notLikeAll
deriving DecidableEq

inductive FrameUnit where
  | rows | range
deriving DecidableEq

inductive BoundaryType where
  | unboundedPreceding | offsetPreceding | currentRow | offsetFollowing | unboundedFollowing
deriving DecidableEq

inductive DateTimestampPart where
  | microsecond | millisecond | second | minute | hour | day
  /-- A part without a fixed width. -/
  | other (name : String)
deriving DecidableEq

inductive LiteralValue where
  /-- An enum number, an int64 or a string that names a date part. -/
  | datePart (part : DateTimestampPart)
  | interval (months days micros nanoFractions : Int)
  | other
deriving DecidableEq

inductive ActionType where
  | insert | update | delete
deriving DecidableEq

/-- The classes that the classifier asks more of than their name. -/
def distinguishedClasses : List String :=
  ["FunctionCall", "AggregateFunctionCall", "AnalyticFunctionCall", "AnalyticScan",
   "WindowFrame", "WindowFrameExpr", "OrderByScan", "OrderByItem", "SampleScan", "QueryStmt",
   "JoinScan", "SubqueryExpr", "ArrayScan", "Cast", "Literal", "Constant", "InsertStmt",
   "UpdateStmt", "DeleteStmt", "MergeStmt", "MergeWhen", "TVFScan"]

structure PlainClass where
  kindString : String
  plain : kindString ∉ distinguishedClasses

inductive NodeClass where
  | functionCall (function : Option FunctionRef)
  | aggregateFunctionCall (function : Option FunctionRef) (errorMode : ErrorMode)
  | analyticFunctionCall (function : Option FunctionRef)
  | analyticScan
  | windowFrame (frameUnit : FrameUnit)
  | windowFrameExpr (boundaryType : BoundaryType)
  | orderByScan
  | orderByItem (hasCollation : Bool)
  | sampleScan
  | queryStmt (isValueTable : Bool)
  | joinScan (isLateral : Bool)
  | subqueryExpr (subqueryType : SubqueryType)
  | arrayScan (isOuter : Bool)
  | cast (hasTypeModifiers : Bool)
  | literal (value : LiteralValue)
  | constant (name : Option String)
  | insertStmt
  | updateStmt
  | deleteStmt
  | mergeStmt
  | mergeWhen (matchType : Dml.MatchType) (actionType : ActionType)
  | tvfScan (tvf : Option String)
  | plain (class_ : PlainClass)

def NodeClass.nodeKindString : NodeClass → String
  | functionCall _ => "FunctionCall"
  | aggregateFunctionCall _ _ => "AggregateFunctionCall"
  | analyticFunctionCall _ => "AnalyticFunctionCall"
  | analyticScan => "AnalyticScan"
  | windowFrame _ => "WindowFrame"
  | windowFrameExpr _ => "WindowFrameExpr"
  | orderByScan => "OrderByScan"
  | orderByItem _ => "OrderByItem"
  | sampleScan => "SampleScan"
  | queryStmt _ => "QueryStmt"
  | joinScan _ => "JoinScan"
  | subqueryExpr _ => "SubqueryExpr"
  | arrayScan _ => "ArrayScan"
  | cast _ => "Cast"
  | literal _ => "Literal"
  | constant _ => "Constant"
  | insertStmt => "InsertStmt"
  | updateStmt => "UpdateStmt"
  | deleteStmt => "DeleteStmt"
  | mergeStmt => "MergeStmt"
  | mergeWhen _ _ => "MergeWhen"
  | tvfScan _ => "TVFScan"
  | plain class_ => class_.kindString

/-- The fields that the classifier reads by name; `other` is any other field. -/
inductive Field where
  | argumentList | havingModifier | groupByList | groupByAggregateList | havingExpr
  | windowFrame | startExpr | endExpr | expression | inputScan | functionGroupList | orderBy
  | orderByItemList | analyticFunctionList | expr | columnRef | collationName | weightColumn
  | partitionByList | query | parameterList | subquery | arrayOffsetColumn | arrayZipMode
  | joinExpr | arrayExprList | format | timeZone | extendedCast | returning | tableScan
  | fromScan | whenClauseList | rowList
  | other (name : String)
deriving DecidableEq

structure NodeData where
  class_ : NodeClass
  typeKind : Option TypeKind := none

abbrev ResolvedNode := Tree Field NodeData

namespace ResolvedNode
variable (node : ResolvedNode)

def class_ : NodeClass := node.data.class_

def typeKind : Option TypeKind := node.data.typeKind

def nodeKindString : String := class_ node |>.nodeKindString

def className : String := "Resolved" ++ nodeKindString node

def hasPart (field : Field) : Bool := (node.part? field).isSome

def partIs (field : Field) (kind : String) : Bool :=
  (node.part? field).any fun part => nodeKindString part == kind

def function : Option FunctionRef :=
  match class_ node with
  | .functionCall function => function
  | .aggregateFunctionCall function _ => function
  | .analyticFunctionCall function => function
  | _ => none

end ResolvedNode

open ResolvedNode

/-! ### Property gates -/

variable (node : ResolvedNode)

def isScalarOnlySelect : Bool :=
  (node.part? .query).any fun query =>
    nodeKindString query == "ProjectScan" && partIs query .inputScan "SingleRowScan"

variable (expr : ResolvedNode)

def arrayExprReferencesNamedConstant : Bool :=
  match class_ expr with
  | .constant name => name.any fun name => name ≠ ""
  | .plain class_ => class_.kindString == "ArgumentRef"
  | _ => false

def isDateOrTimestampOrderType (item : ResolvedNode) : Bool :=
  (item.part? .columnRef).any fun ref =>
    typeKind ref == some .date || typeKind ref == some .timestamp

/-- The window frame of a computed column that is an analytic call over a `RANGE` frame. -/
def rangeAnalyticFrame (column : ResolvedNode) : Option ResolvedNode := do
  let call ← column.part? .expr
  let .analyticFunctionCall _ := class_ call | none
  let frame ← call.part? .windowFrame
  let .windowFrame .range := class_ frame | none
  return frame

def isNumericOffsetBoundary (boundary : ResolvedNode) : Bool :=
  match class_ boundary with
  | .windowFrameExpr .offsetPreceding | .windowFrameExpr .offsetFollowing =>
    (boundary.part? .expression).any fun expression =>
      (typeKind expression).any fun kind => kind ≠ .interval
  | _ => false

def groupHasNumericRangeFrame (group : ResolvedNode) : Bool :=
  (group.list .analyticFunctionList).any fun column =>
    (rangeAnalyticFrame column).any fun frame =>
      (frame.part? .startExpr).any isNumericOffsetBoundary ||
        (frame.part? .endExpr).any isNumericOffsetBoundary

def analyticScanHasDateTimestampNumericRangeFrame : Bool :=
  (node.list .functionGroupList).any fun group =>
    ((group.part? .orderBy).bind (·.part? .orderByItemList)).any isDateOrTimestampOrderType &&
      groupHasNumericRangeFrame group

def orderByItemHasCollation (item : ResolvedNode) : Bool :=
  hasPart item .collationName ||
    match class_ item with
    | .orderByItem hasCollation => hasCollation
    | _ => false

def mergeRequiresSemanticExecutor (merge : ResolvedNode) : Bool :=
  let clauses := (merge.list .whenClauseList).map class_
  let matching (type : Dml.MatchType) := clauses.countP fun
    | .mergeWhen matchType _ => matchType == type
    | _ => false
  let acting (type : ActionType) := clauses.countP fun
    | .mergeWhen _ actionType => actionType == type
    | _ => false
  matching .notMatchedBySource > 0 ||
    (matching .matched > 1 || matching .notMatchedByTarget > 1) ||
    (acting .update > 1 || acting .delete > 1 || acting .insert > 1)

variable (name : String)

def decimalArithmeticNeedsSemantic (type : Option TypeKind) : Bool :=
  match type with
  | none => false
  | some kind =>
    if name = "$divide" then kind == .numeric || kind == .bignumeric
    else if name = "$add" ∨ name = "$subtract" ∨ name = "$multiply" then kind == .bignumeric
    else false

def inListArgTypeIsDuckdbSafe : Option TypeKind → Bool
  | some .interval | some .numeric | some .bignumeric | some .other | none => false
  | some _ => true

variable (call : ResolvedNode)

def inListNeedsSemantic : Bool :=
  (call.list .argumentList).any fun arg => !inListArgTypeIsDuckdbSafe (typeKind arg)

/-- The first decimal argument of an `AVG`, by the name its gate reports. -/
def avgDecimalArgument : Option String :=
  (call.list .argumentList).findSome? fun arg =>
    match typeKind arg with
    | some .bignumeric => some "function:avg(bignumeric)"
    | some .numeric => some "function:avg(numeric)"
    | _ => none

def tryIntervalPartEnum : Option DateTimestampPart :=
  match class_ expr with
  | .literal (.datePart part) => some part
  | _ => none

def isFixedWidthTimestampPart : DateTimestampPart → Bool
  | .other _ => false
  | _ => true

def tryLiteralIntervalMicros : Option Int :=
  match class_ expr with
  | .literal (.interval months days micros nanoFractions) =>
    if months ≠ 0 ∨ nanoFractions ≠ 0 then none else some (days * 86400000000 + micros)
  | _ => none

/-- The date part of an `$interval` call; exactly one of its two arguments names a part. -/
def tryDecomposeIntervalArgs : Option DateTimestampPart := do
  let .functionCall (some function) := class_ call | none
  let [first, second] := call.list .argumentList | none
  if asciiStrToLower function.fullName ≠ "$interval" then none
  else match tryIntervalPartEnum first, tryIntervalPartEnum second with
    | some part, none => some part
    | none, some part => some part
    | _, _ => none

def canLowerTimestampAddSub : Bool :=
  match call.list .argumentList with
  | [_, _, part] => (tryIntervalPartEnum part).any isFixedWidthTimestampPart
  | [_, interval] =>
    (tryLiteralIntervalMicros interval).isSome ||
      (tryDecomposeIntervalArgs interval).any isFixedWidthTimestampPart
  | _ => false

def isAggregateCall : Bool :=
  match class_ node with
  | .aggregateFunctionCall _ _ => true
  | _ => false

def isFunctionCall : Bool :=
  match class_ node with
  | .functionCall _ => true
  | _ => false

def resultType : Option TypeKind :=
  if isFunctionCall node then typeKind node else none

def avgGate : Option String :=
  if asciiStrToLower name = "avg" ∧ isAggregateCall node then avgDecimalArgument node else none

def intervalShapeGate : Bool :=
  (asciiStrToLower name == "timestamp_add" || asciiStrToLower name == "timestamp_sub") &&
    isFunctionCall node && !canLowerTimestampAddSub node

def inListGate : Bool :=
  asciiStrToLower name == "$in" && isFunctionCall node && inListNeedsSemantic node

/-! ### The visitor -/

structure RouteClassifierVisitor where
  disposition : Disposition := .duckdbNative
  offendingNode : String := ""
deriving DecidableEq

namespace RouteClassifierVisitor
variable (v : RouteClassifierVisitor)

def maybePromote (d : Disposition) (name : String) :
    RouteClassifierVisitor :=
  if routeClassifierPriority d > routeClassifierPriority v.disposition then
    { disposition := d, offendingNode := name }
  else v

/-- A gate: the node needs the semantic executor when the condition holds. -/
def gate (condition : Bool) (name : String) :
    RouteClassifierVisitor :=
  if condition then v.maybePromote .semanticExecutor name else v

def checkNodeClass (node : ResolvedNode) : RouteClassifierVisitor :=
  match lookupNodeDisposition (className node) with
  | none => v
  | some entry => v.maybePromote entry.disposition (className node)

def checkFunction (node : ResolvedNode) : RouteClassifierVisitor :=
  match function node with
  | none => v
  | some fn =>
    if fn.group = .templatedSqlFunction ∨ fn.group = .sqlFunction then
      v.maybePromote .semanticExecutor ("sql_udf:" ++ fn.name)
    else
      let name := fn.fullName
      match lookupFunction name with
      | none => v
      | some entry =>
        if entry.planned then v
        else
          let lowerName := asciiStrToLower name
          match avgGate node name with
          | some reported => v.maybePromote .semanticExecutor reported
          | none =>
            if decimalArithmeticNeedsSemantic name (resultType node) then
              v.maybePromote .semanticExecutor ("function:" ++ name ++ "(decimal)")
            else if intervalShapeGate node name then
              v.maybePromote .semanticExecutor
                ("function:" ++ lowerName ++ "(interval_shape)")
            else if inListGate node name then
              v.maybePromote .semanticExecutor "function:$in(arg_types)"
            else v.maybePromote entry.disposition ("function:" ++ lowerName)

def checkTvf (tvf : Option String) : RouteClassifierVisitor :=
  match tvf with
  | none => v
  | some sqlName =>
    let name := asciiStrToLower sqlName
    match lookupFunction name with
    | none => v
    | some entry =>
      if entry.planned then v else v.maybePromote entry.disposition ("function:" ++ name)

end RouteClassifierVisitor

/-- In which order GoogleSQL's `ChildrenAccept` takes the parts of each node. -/
structure ChildOrder where
  arrange : ResolvedNode → {α : Type} → List α → List α
  perm : ∀ (node : ResolvedNode) {α : Type} (parts : List α), (arrange node parts).Perm parts

def ChildOrder.asListed : ChildOrder where
  arrange _ _ parts := parts
  perm _ _ parts := .refl parts

abbrev Visits := List (Field × (RouteClassifierVisitor → RouteClassifierVisitor))

namespace RouteClassifierVisitor
variable (v : RouteClassifierVisitor) (visits : Visits)

def run : RouteClassifierVisitor :=
  visits.foldl (fun v visit => visit.2 v) v

def runField (field : Field) :
    RouteClassifierVisitor :=
  v.run (visits.filter fun visit => visit.1 = field)

variable (order : ChildOrder)

def defaultVisit (node : ResolvedNode) (visits : Visits)
    (v : RouteClassifierVisitor) : RouteClassifierVisitor :=
  (v.checkNodeClass node).run (order.arrange node visits)

def visitResolvedAggregateFunctionCall (errorMode : ErrorMode) (node : ResolvedNode)
    (v : RouteClassifierVisitor) : RouteClassifierVisitor :=
  (((v.checkFunction node).gate (hasPart node .havingModifier)
      "ResolvedAggregateFunctionCall(having_modifier)").gate
      (hasPart node .groupByList || hasPart node .groupByAggregateList ||
        hasPart node .havingExpr)
      "ResolvedAggregateFunctionCall(multi_level_group_by)").gate
      (errorMode == .safe) "ResolvedAggregateFunctionCall(safe_agg)"

def visitResolvedAnalyticFunctionCall :
    RouteClassifierVisitor :=
  (v.checkFunction node).gate
    ((node.list .argumentList).any fun arg => nodeKindString arg == "AggregateFunctionCall")
    "ResolvedAnalyticFunctionCall(nested_aggregate)"

def visitResolvedAnalyticScan :
    RouteClassifierVisitor :=
  (v.gate (partIs node .inputScan "AggregateScan") "ResolvedAnalyticScan(aggregate_input)").gate
    (analyticScanHasDateTimestampNumericRangeFrame node)
    "ResolvedAnalyticScan(date_timestamp_range)"

def visitResolvedSampleScan :
    RouteClassifierVisitor :=
  v.gate (hasPart node .weightColumn || hasPart node .partitionByList)
    "ResolvedSampleScan(extended)"

def visitResolvedQueryStmt (isValueTable : Bool) (node : ResolvedNode)
    (v : RouteClassifierVisitor) : RouteClassifierVisitor :=
  if isValueTable then
    v.maybePromote .semanticExecutor "ResolvedQueryStmt(is_value_table=true)"
  else v.gate (isScalarOnlySelect node) "ResolvedQueryStmt(scalar-only SELECT)"

def visitResolvedJoinScan (isLateral : Bool) (v : RouteClassifierVisitor) :
    RouteClassifierVisitor :=
  v.gate isLateral "ResolvedJoinScan(is_lateral=true)"

def visitResolvedSubqueryExpr (subqueryType : SubqueryType) (node : ResolvedNode)
    (v : RouteClassifierVisitor) : RouteClassifierVisitor :=
  let v := v.gate (hasPart node .parameterList) "ResolvedSubqueryExpr(correlated)"
  let v := v.gate (subqueryType == .in && partIs node .subquery "ArrayScan")
    "ResolvedSubqueryExpr(IN_UNNEST)"
  match subqueryType with
  | .likeAny | .likeAll | .notLikeAny | .notLikeAll =>
    v.maybePromote .semanticExecutor "ResolvedSubqueryExpr(LIKE_ANY/ALL)"
  | _ => v

def visitResolvedArrayScan (isOuter : Bool) (node : ResolvedNode)
    (v : RouteClassifierVisitor) : RouteClassifierVisitor :=
  if hasPart node .arrayOffsetColumn then
    v.maybePromote .semanticExecutor "ResolvedArrayScan(array_offset_column)"
  else if isOuter then
    v.maybePromote .semanticExecutor "ResolvedArrayScan(is_outer=true)"
  else if hasPart node .arrayZipMode then
    v.maybePromote .semanticExecutor "ResolvedArrayScan(array_zip_mode)"
  else if hasPart node .joinExpr then
    v.maybePromote .semanticExecutor "ResolvedArrayScan(join_expr)"
  else v.gate ((node.part? .arrayExprList).any arrayExprReferencesNamedConstant)
    "ResolvedArrayScan(script_constant)"

def visitResolvedCast (hasTypeModifiers : Bool) (node : ResolvedNode)
    (v : RouteClassifierVisitor) : RouteClassifierVisitor :=
  v.gate (hasPart node .format || hasPart node .timeZone || hasPart node .extendedCast ||
    hasTypeModifiers) "ResolvedCast(extended)"

def visitResolvedOrderByScan :
    RouteClassifierVisitor :=
  v.gate ((node.list .orderByItemList).any orderByItemHasCollation)
    "ResolvedOrderByScan(collation)"

/-- `INSERT ... SELECT` whose query DuckDB can run takes the query's route; its own class is
then not looked up. -/
def visitResolvedInsertStmt
    (v : RouteClassifierVisitor) : RouteClassifierVisitor :=
  let v := v.gate (hasPart node .returning) "ResolvedInsertStmt(returning)"
  let inner := runField {} visits .query
  let duckdbInsertSelect := hasPart node .query && inner.disposition.onDuckdb
  let v :=
    if duckdbInsertSelect then v.maybePromote inner.disposition "ResolvedInsertStmt(SELECT)"
    else v.checkNodeClass node
  let v := v.runField visits .tableScan
  let v := if duckdbInsertSelect then v else v.runField visits .query
  v.runField visits .rowList

def visitResolvedUpdateStmt
    (v : RouteClassifierVisitor) : RouteClassifierVisitor :=
  let v := v.gate (hasPart node .returning) "ResolvedUpdateStmt(returning)"
  let v := v.gate (hasPart node .fromScan) "ResolvedUpdateStmt(from_scan)"
  ((v.checkNodeClass node).runField visits .tableScan).runField visits .fromScan

def visitResolvedDeleteStmt
    (v : RouteClassifierVisitor) : RouteClassifierVisitor :=
  let v := v.gate (hasPart node .returning) "ResolvedDeleteStmt(returning)"
  (v.checkNodeClass node).runField visits .tableScan

def visitResolvedMergeStmt
    (v : RouteClassifierVisitor) : RouteClassifierVisitor :=
  let v :=
    if mergeRequiresSemanticExecutor node then
      v.maybePromote .semanticExecutor "ResolvedMergeStmt(hard_matrix)"
    else v.checkNodeClass node
  (v.runField visits .tableScan).runField visits .fromScan

/-- The visitor's method for the node's class. Every method but the one for INSERT ends in
the base class's, which looks up the node's class and visits all its parts. -/
def visit (node : ResolvedNode) (visits : Visits)
    (v : RouteClassifierVisitor) : RouteClassifierVisitor :=
  match class_ node with
  | .insertStmt => visitResolvedInsertStmt node visits v
  | .functionCall _ => defaultVisit order node visits (v.checkFunction node)
  | .aggregateFunctionCall _ errorMode =>
    defaultVisit order node visits (visitResolvedAggregateFunctionCall errorMode node v)
  | .analyticFunctionCall _ =>
    defaultVisit order node visits (visitResolvedAnalyticFunctionCall node v)
  | .analyticScan => defaultVisit order node visits (visitResolvedAnalyticScan node v)
  | .sampleScan => defaultVisit order node visits (visitResolvedSampleScan node v)
  | .queryStmt isValueTable =>
    defaultVisit order node visits (visitResolvedQueryStmt isValueTable node v)
  | .joinScan isLateral => defaultVisit order node visits (visitResolvedJoinScan isLateral v)
  | .subqueryExpr subqueryType =>
    defaultVisit order node visits (visitResolvedSubqueryExpr subqueryType node v)
  | .arrayScan isOuter => defaultVisit order node visits (visitResolvedArrayScan isOuter node v)
  | .cast hasTypeModifiers =>
    defaultVisit order node visits (visitResolvedCast hasTypeModifiers node v)
  | .orderByScan => defaultVisit order node visits (visitResolvedOrderByScan node v)
  | .updateStmt => defaultVisit order node visits (visitResolvedUpdateStmt node visits v)
  | .deleteStmt => defaultVisit order node visits (visitResolvedDeleteStmt node visits v)
  | .tvfScan tvf => defaultVisit order node visits (v.checkTvf tvf)
  | .mergeStmt => defaultVisit order node visits (visitResolvedMergeStmt node visits v)
  | .windowFrame _ | .windowFrameExpr _ | .orderByItem _ | .literal _ | .constant _
  | .mergeWhen _ _ | .plain _ => defaultVisit order node visits v

def accept (node : ResolvedNode) :
    RouteClassifierVisitor → RouteClassifierVisitor :=
  node.fold (visit order)

end RouteClassifierVisitor

/-! ### The classifier -/

def routeClassifierReasonFor (d : Disposition) (rootClass offendingNode : String) : String :=
  match d with
  | .duckdbNative => ""
  | .duckdbRewrite => "query lowers via duckdb_rewrite (promoted by " ++ offendingNode ++ ")"
  | .duckdbUdf => "query lowers via duckdb_udf (promoted by " ++ offendingNode ++ ")"
  | .semanticExecutor =>
    "query requires the semantic executor (promoted by " ++ offendingNode ++ ")"
  | .controlOp => "statement " ++ rootClass ++ " routes to the control-op executor"
  | .localStub =>
    "query routes to the local-stub executor (specialized feature family promoted by " ++
      offendingNode ++ "); see docs/ENGINE_POLICY.md"
  | .unsupported => "query is unsupported (offending node: " ++ offendingNode ++ ")"

structure RouteDecision where
  disposition : Disposition := .duckdbNative
  reason : String
  offendingNode : String

def dmlRootNeedsClassifierWalk (rootClass : String) : Bool :=
  rootClass == "ResolvedInsertStmt" || rootClass == "ResolvedUpdateStmt" ||
    rootClass == "ResolvedDeleteStmt"

/-- The disposition that `Classify` returns for the root's class alone, before any walk. -/
def rootDisposition (rootClass : String) : Option Disposition :=
  match lookupNodeDisposition rootClass with
  | none => none
  | some entry =>
    if entry.planned then none
    else match entry.disposition with
      | .controlOp => some .controlOp
      | .localStub => some .localStub
      | .semanticExecutor =>
        if dmlRootNeedsClassifierWalk rootClass then none else some .semanticExecutor
      | .unsupported => some .unsupported
      | _ => none

def classify (order : ChildOrder) (stmt : ResolvedNode) : RouteDecision :=
  let rootClass := className stmt
  match rootDisposition rootClass with
  | some d =>
    { disposition := d
      reason := routeClassifierReasonFor d rootClass rootClass
      offendingNode := rootClass }
  | none =>
    let visitor := RouteClassifierVisitor.accept order stmt {}
    { disposition := visitor.disposition
      reason := routeClassifierReasonFor visitor.disposition rootClass visitor.offendingNode
      offendingNode := visitor.offendingNode }

end BigQueryEmulator.Engine
