import BigQueryEmulator.Engine.RouteClassifier

/-! The classifier's answer is the highest disposition found in the statement: in a row of the
node table, in a row of the function table, or in a property gate, at any node. -/
namespace BigQueryEmulator.Engine
open ResolvedNode RouteClassifierVisitor List DispositionEntry

/-! ### What the tables and gates say of a node -/

def DispositionEntry.ready : Option DispositionEntry → List Disposition
  | none => []
  | some entry => if entry.planned then [] else [entry.disposition]

def classEntries (node : ResolvedNode) : List Disposition :=
  ready (lookupNodeDisposition (className node))

def gateEntries (condition : Bool) : List Disposition :=
  if condition then [.semanticExecutor] else []

def functionGate (node : ResolvedNode) (name : String) : Bool :=
  (avgGate node name).isSome || decimalArithmeticNeedsSemantic name (resultType node) ||
    intervalShapeGate node name || inListGate node name

/-- A SQL function of the catalog runs on the semantic executor; any other has its row in the
function table. -/
def functionEntries (node : ResolvedNode) : List Disposition :=
  match function node with
  | none => []
  | some fn =>
    if fn.group = .templatedSqlFunction ∨ fn.group = .sqlFunction then [.semanticExecutor]
    else ready (lookupFunction fn.fullName) ++
      gateEntries (functionGate node fn.fullName)

def tvfEntries (node : ResolvedNode) : List Disposition :=
  match class_ node with
  | .tvfScan tvf => tvf.toList.flatMap fun name =>
      ready (lookupFunction (asciiStrToLower name))
  | _ => []

def propertyGate (node : ResolvedNode) : Bool :=
  match class_ node with
  | .aggregateFunctionCall _ errorMode =>
    hasPart node .havingModifier || (hasPart node .groupByList ||
      hasPart node .groupByAggregateList || hasPart node .havingExpr) || errorMode == .safe
  | .analyticFunctionCall _ =>
    (node.list .argumentList).any fun arg => nodeKindString arg == "AggregateFunctionCall"
  | .analyticScan =>
    partIs node .inputScan "AggregateScan" ||
      analyticScanHasDateTimestampNumericRangeFrame node
  | .sampleScan => hasPart node .weightColumn || hasPart node .partitionByList
  | .queryStmt isValueTable => isValueTable || isScalarOnlySelect node
  | .joinScan isLateral => isLateral
  | .subqueryExpr subqueryType =>
    hasPart node .parameterList || (subqueryType == .in && partIs node .subquery "ArrayScan") ||
      subqueryType ∈ [.likeAny, .likeAll, .notLikeAny, .notLikeAll]
  | .arrayScan isOuter =>
    hasPart node .arrayOffsetColumn || isOuter || hasPart node .arrayZipMode ||
      hasPart node .joinExpr ||
      (node.part? .arrayExprList).any arrayExprReferencesNamedConstant
  | .cast hasTypeModifiers =>
    hasPart node .format || hasPart node .timeZone || hasPart node .extendedCast ||
      hasTypeModifiers
  | .orderByScan => (node.list .orderByItemList).any orderByItemHasCollation
  | .insertStmt | .deleteStmt => hasPart node .returning
  | .updateStmt => hasPart node .returning || hasPart node .fromScan
  | .mergeStmt => mergeRequiresSemanticExecutor node
  | _ => false

def ownEntries (node : ResolvedNode) : List Disposition :=
  functionEntries node ++ tvfEntries node ++ gateEntries (propertyGate node)

def insertsOnDuckdb (node : ResolvedNode) (queryRoutes : List Disposition) : Bool :=
  match class_ node with
  | .insertStmt => hasPart node .query && queryRoutes.all Disposition.onDuckdb
  | _ => false

/-- What a node brings in, given what its query does: an INSERT that DuckDB runs does not count
its own class. -/
def entriesGiven (node : ResolvedNode) (queryRoutes : List Disposition) : List Disposition :=
  (if insertsOnDuckdb node queryRoutes then [] else classEntries node) ++ ownEntries node

def routes : ResolvedNode → List Disposition :=
  Tree.fold fun node results =>
    entriesGiven node ((results.filter fun result => result.1 = .query).flatMap (·.2)) ++
      results.flatMap (·.2)

def entries (node : ResolvedNode) : List Disposition :=
  entriesGiven node ((node.list .query).flatMap routes)

theorem routes_eq (node : ResolvedNode) :
    routes node = entries node ++ node.parts.flatMap fun part => routes part.2 := by
  rw [routes, Tree.fold_eq, entries, Tree.list]
  simp only [filter_map, flatMap_map]
  rfl

theorem mem_routes_iff (d : Disposition) (stmt : ResolvedNode) :
    d ∈ routes stmt ↔ ∃ node, Tree.Within node stmt ∧ d ∈ entries node := by
  rw [← not_iff_not]
  simp only [not_exists, not_and]
  induction stmt using Tree.induct with
  | step stmt ih =>
    rw [Tree.forall_within_iff, routes_eq, mem_append, mem_flatMap, not_or]
    simp only [not_exists, not_and]
    exact and_congr_right fun _ => forall₂_congr ih

/-! ### What the visitor does to the disposition -/

section

variable {v : RouteClassifierVisitor} {d x : Disposition} {name : String}

@[simp] theorem maybePromote_le_iff :
    (v.maybePromote d name).disposition ≤ x ↔ v.disposition ≤ x ∧ d ≤ x := by
  rw [maybePromote]
  split
  next higher =>
    have below : v.disposition ≤ d := Nat.le_of_lt higher
    exact ⟨fun bound => ⟨below.trans bound, bound⟩, And.right⟩
  next lower =>
    have below : d ≤ v.disposition := Nat.le_of_not_lt lower
    exact ⟨fun bound => ⟨bound, below.trans bound⟩, And.left⟩

@[simp] theorem forall_mem_gateEntries :
    (∀ d ∈ gateEntries condition, d ≤ x) ↔ (condition = true → .semanticExecutor ≤ x) := by
  cases condition <;> simp [gateEntries]

@[simp] theorem gate_le_iff :
    (v.gate condition name).disposition ≤ x ↔
      v.disposition ≤ x ∧ (condition = true → .semanticExecutor ≤ x) := by
  cases condition <;> simp [gate]

@[simp] theorem checkNodeClass_le_iff :
    (v.checkNodeClass node).disposition ≤ x ↔
      v.disposition ≤ x ∧ ∀ d ∈ classEntries node, d ≤ x := by
  unfold checkNodeClass classEntries
  cases found : lookupNodeDisposition (className node) with
  | none => simp [ready]
  | some entry => simp [ready, lookupNodeDisposition_not_planned found]

@[simp] theorem checkTvf_le_iff :
    (v.checkTvf tvf).disposition ≤ x ↔ v.disposition ≤ x ∧
      ∀ d ∈ tvf.toList.flatMap fun name =>
        ready (lookupFunction (asciiStrToLower name)), d ≤ x := by
  cases tvf with
  | none => simp [checkTvf]
  | some sqlName =>
    simp only [checkTvf, Option.toList_some, flatMap_cons, flatMap_nil,
      append_nil]
    cases lookupFunction (asciiStrToLower sqlName) with
    | none => simp [ready]
    | some entry => cases planned : entry.planned <;> simp [ready, planned]

theorem visitResolvedArrayScan_le_iff :
    (visitResolvedArrayScan isOuter node v).disposition ≤ x ↔ v.disposition ≤ x ∧
      ((hasPart node .arrayOffsetColumn || isOuter || hasPart node .arrayZipMode ||
        hasPart node .joinExpr ||
        (node.part? .arrayExprList).any arrayExprReferencesNamedConstant) = true →
          .semanticExecutor ≤ x) := by
  unfold visitResolvedArrayScan
  split_ifs <;> simp [*]

def gatedFunctions : List String :=
  ["avg", "$divide", "$add", "$subtract", "$multiply", "timestamp_add", "timestamp_sub", "$in"]

theorem mem_gatedFunctions (gated : functionGate node name = true) :
    asciiStrToLower name ∈ gatedFunctions := by
  simp only [functionGate, Bool.or_eq_true] at gated
  obtain ((average | decimal) | interval) | inList := gated
  · have same : asciiStrToLower name = "avg" := by
      rw [avgGate] at average
      split at average
      next both => exact both.1
      next => contradiction
    simp [same, gatedFunctions]
  · have arithmetic : name = "$divide" ∨ name = "$add" ∨ name = "$subtract" ∨
        name = "$multiply" := by
      unfold decimalArithmeticNeedsSemantic at decimal
      grind
    obtain rfl | rfl | rfl | rfl := arithmetic <;> decide
  · simp only [intervalShapeGate, Bool.and_eq_true, Bool.or_eq_true, beq_iff_eq] at interval
    obtain ⟨⟨same | same, -⟩, -⟩ := interval <;> simp [same, gatedFunctions]
  · simp only [inListGate, Bool.and_eq_true, beq_iff_eq] at inList
    simp [inList.1.1, gatedFunctions]

/-- A gated function has a row, and the row stays below the semantic executor: the gate's
early return loses nothing. -/
theorem lookupFunction_gated (gated : functionGate node name = true) :
    ∃ entry, lookupFunction name = some entry ∧ entry.planned = false ∧
      entry.disposition ≤ .semanticExecutor := by
  have rows : ∀ lower ∈ gatedFunctions, lookup functionDispositions lower ∈
      [some ⟨.duckdbNative, false⟩, some ⟨.duckdbUdf, false⟩] := by decide
  have row := rows _ (mem_gatedFunctions gated)
  rw [← lookupFunction] at row
  simp only [mem_cons, not_mem_nil, or_false] at row
  obtain found | found := row <;> exact ⟨_, found, rfl, by decide⟩

/-- Past its lookup, `CheckFunction` makes one promotion. -/
theorem checkFunction_ready (called : function node = some fn)
    (table : ¬(fn.group = .templatedSqlFunction ∨ fn.group = .sqlFunction))
    (found : lookupFunction fn.fullName = some entry) (ready : entry.planned = false) :
    ∃ reported, v.checkFunction node = v.maybePromote
      (if functionGate node fn.fullName then .semanticExecutor else entry.disposition)
      reported := by
  simp only [checkFunction, called, if_neg table, found, ready, Bool.false_eq_true, if_false]
  obtain average | ⟨reported, average⟩ := Option.eq_none_or_eq_some (avgGate node fn.fullName)
  · by_cases decimal : decimalArithmeticNeedsSemantic fn.fullName (resultType node) = true
    · exact ⟨_, by simp only [average, decimal, functionGate, Bool.or_true, Bool.true_or, if_true]; rfl⟩
    by_cases interval : intervalShapeGate node fn.fullName = true
    · exact ⟨_, by simp only [average, decimal, interval, functionGate, Bool.or_true, Bool.true_or,
        if_true, Bool.false_eq_true, if_false]; rfl⟩
    by_cases inList : inListGate node fn.fullName = true
    · exact ⟨_, by simp only [average, decimal, interval, inList, functionGate, Bool.or_true,
        if_true, Bool.false_eq_true, if_false]; rfl⟩
    · exact ⟨_, by simp only [average, decimal, interval, inList, functionGate,
        Option.isSome_none, Bool.or_false, Bool.false_eq_true, if_false]; rfl⟩
  · exact ⟨reported, by simp only [average, functionGate, Option.isSome_some, Bool.true_or, if_true]⟩

theorem checkFunction_le_iff :
    (v.checkFunction node).disposition ≤ x ↔
      v.disposition ≤ x ∧ ∀ d ∈ functionEntries node, d ≤ x := by
  rw [functionEntries]
  cases called : function node with
  | none => simp [checkFunction, called]
  | some fn =>
    by_cases table : fn.group = .templatedSqlFunction ∨ fn.group = .sqlFunction
    · simp [checkFunction, called, table]
    simp only [if_neg table]
    cases gated : functionGate node fn.fullName with
    | true =>
      obtain ⟨entry, found, planned, below⟩ := lookupFunction_gated gated
      obtain ⟨reported, promoted⟩ := checkFunction_ready called table found planned
      rw [promoted, maybePromote_le_iff, gated, found]
      simp only [gateEntries, ready, planned, if_true, Bool.false_eq_true, if_false, cons_append,
        nil_append, forall_mem_cons, not_mem_nil, false_implies, implies_true, and_true]
      exact and_congr_right fun _ => ⟨fun bound => ⟨below.trans bound, bound⟩, And.right⟩
    | false =>
      cases found : lookupFunction fn.fullName with
      | none => simp [checkFunction, called, table, found, gateEntries, ready]
      | some entry =>
        cases planned : entry.planned with
        | true => simp [checkFunction, called, table, found, gateEntries, ready, planned]
        | false =>
          obtain ⟨reported, promoted⟩ := checkFunction_ready called table found planned
          rw [promoted, maybePromote_le_iff, gated]
          simp [gateEntries, ready, planned]

end

/-! ### The walk -/

section

variable {v : RouteClassifierVisitor} {x : Disposition}

/-- A visit raises the disposition by those of a list, and by nothing else. -/
def Raises (visit : RouteClassifierVisitor → RouteClassifierVisitor)
    (ds : List Disposition) : Prop :=
  ∀ v x, (visit v).disposition ≤ x ↔ v.disposition ≤ x ∧ ∀ d ∈ ds, d ≤ x

/-- On a fresh visitor, the visit shows how far it raises any other. -/
theorem Raises.fresh_le_iff {visit : RouteClassifierVisitor → RouteClassifierVisitor}
    (raises : Raises visit ds) :
    (visit {}).disposition ≤ x ↔ ∀ d ∈ ds, d ≤ x := by
  rw [raises]
  exact and_iff_right (Disposition.native_le x)

theorem run_le_iff (raises : ∀ visit ∈ visits, ∃ ds, Raises visit.2 ds) :
    (v.run visits).disposition ≤ x ↔
      v.disposition ≤ x ∧ ∀ visit ∈ visits, (visit.2 {}).disposition ≤ x := by
  induction visits generalizing v with
  | nil => simp [run]
  | cons visit rest ih =>
    obtain ⟨ds, first⟩ := raises visit (.head _)
    have later := ih (v := visit.2 v) (forall_mem_cons.mp raises).2
    simp only [run, foldl_cons] at later ⊢
    rw [later, first, forall_mem_cons, first.fresh_le_iff, and_assoc]

def PartsRaise (order : ChildOrder) (node : ResolvedNode) : Prop :=
  ∀ part ∈ node.parts, Raises (accept order part.2) (routes part.2)

def visitsOf (order : ChildOrder) (node : ResolvedNode) : Visits :=
  node.parts.map fun part => (part.1, accept order part.2)

variable {order : ChildOrder} {node : ResolvedNode}

theorem PartsRaise.raises (parts : PartsRaise order node) :
    ∀ visit ∈ visitsOf order node, ∃ ds, Raises visit.2 ds := by
  exact forall_mem_map.mpr fun part inside => ⟨routes part.2, parts part inside⟩

theorem PartsRaise.runField_le_iff (parts : PartsRaise order node) (field : Field) :
    (v.runField (visitsOf order node) field).disposition ≤ x ↔ v.disposition ≤ x ∧
      ∀ part ∈ node.parts, part.1 = field → ∀ d ∈ routes part.2, d ≤ x := by
  rw [runField, run_le_iff fun visit member => parts.raises visit (mem_of_mem_filter member)]
  simp only [visitsOf, filter_map, forall_mem_map, mem_filter, Function.comp_apply,
    decide_eq_true_eq, and_imp]
  refine and_congr_right fun _ => forall₂_congr fun part inside => ?_
  rw [(parts part inside).fresh_le_iff]

theorem PartsRaise.defaultVisit_le_iff (parts : PartsRaise order node) :
    (defaultVisit order node (visitsOf order node) v).disposition ≤ x ↔
      v.disposition ≤ x ∧ (∀ d ∈ classEntries node, d ≤ x) ∧
        ∀ part ∈ node.parts, ∀ d ∈ routes part.2, d ≤ x := by
  have arranged := order.perm node (visitsOf order node)
  rw [defaultVisit, run_le_iff fun visit member => parts.raises visit (arranged.mem_iff.mp member),
    checkNodeClass_le_iff, and_assoc]
  simp only [arranged.mem_iff]
  simp only [visitsOf, forall_mem_map]
  refine and_congr_right fun _ => and_congr_right fun _ => forall₂_congr fun part inside => ?_
  rw [(parts part inside).fresh_le_iff]

theorem forall_mem_ownEntries :
    (∀ d ∈ ownEntries node, d ≤ x) ↔ (∀ d ∈ functionEntries node, d ≤ x) ∧
      (∀ d ∈ tvfEntries node, d ≤ x) ∧ (propertyGate node = true → .semanticExecutor ≤ x) := by
  rw [ownEntries, forall_mem_append, forall_mem_append, forall_mem_gateEntries, and_assoc]

/-- The base method visits all parts, and so these already. -/
theorem PartsRaise.skip_field (parts : PartsRaise order node) (field : Field) :
    (defaultVisit order node (visitsOf order node)
        (v.runField (visitsOf order node) field)).disposition ≤ x ↔
      (defaultVisit order node (visitsOf order node) v).disposition ≤ x := by
  rw [parts.defaultVisit_le_iff, parts.defaultVisit_le_iff, parts.runField_le_iff, and_assoc]
  refine and_congr_right fun _ => ⟨And.right, fun all => ⟨?_, all⟩⟩
  exact fun part member _ => all.2 part member

theorem PartsRaise.skip_class (parts : PartsRaise order node) :
    (defaultVisit order node (visitsOf order node) (v.checkNodeClass node)).disposition ≤ x ↔
      (defaultVisit order node (visitsOf order node) v).disposition ≤ x := by
  rw [parts.defaultVisit_le_iff, parts.defaultVisit_le_iff, checkNodeClass_le_iff, and_assoc]
  exact and_congr_right fun _ => ⟨And.right, fun all => ⟨all.1, all⟩⟩

attribute [local simp] functionEntries function tvfEntries propertyGate forall_mem_ownEntries
  visitResolvedArrayScan_le_iff visitResolvedSampleScan visitResolvedJoinScan visitResolvedCast
  visitResolvedOrderByScan

theorem PartsRaise.visit_le_iff (parts : PartsRaise order node)
    (notInsert : class_ node ≠ .insertStmt) :
    (visit order node (visitsOf order node) v).disposition ≤ x ↔
      v.disposition ≤ x ∧ (∀ d ∈ classEntries node, d ≤ x) ∧ (∀ d ∈ ownEntries node, d ≤ x) ∧
        ∀ part ∈ node.parts, ∀ d ∈ routes part.2, d ≤ x := by
  have checks (own : RouteClassifierVisitor) (same : own.disposition ≤ x ↔ v.disposition ≤ x ∧
      (∀ d ∈ functionEntries node, d ≤ x) ∧ (∀ d ∈ tvfEntries node, d ≤ x) ∧
        (propertyGate node = true → .semanticExecutor ≤ x)) :
      (defaultVisit order node (visitsOf order node) own).disposition ≤ x ↔ v.disposition ≤ x ∧
        (∀ d ∈ classEntries node, d ≤ x) ∧ (∀ d ∈ ownEntries node, d ≤ x) ∧
          ∀ part ∈ node.parts, ∀ d ∈ routes part.2, d ≤ x := by
    rw [parts.defaultVisit_le_iff, same, ← forall_mem_ownEntries, and_assoc]
    exact and_congr_right fun _ => and_left_comm
  rw [visit]
  cases cls : class_ node with
  | insertStmt => exact absurd cls notInsert
  | functionCall fn =>
    exact checks _ (by simp [cls, checkFunction_le_iff])
  | aggregateFunctionCall fn errorMode =>
    exact checks _ (by
      simp [cls, visitResolvedAggregateFunctionCall, checkFunction_le_iff, or_imp, and_assoc])
  | analyticFunctionCall fn =>
    exact checks _ (by
      simp [cls, visitResolvedAnalyticFunctionCall, checkFunction_le_iff, and_assoc])
  | updateStmt =>
    simp only [visitResolvedUpdateStmt, parts.skip_field, parts.skip_class]
    exact checks _ (by simp [cls, or_imp, and_assoc])
  | deleteStmt =>
    simp only [visitResolvedDeleteStmt, parts.skip_field, parts.skip_class]
    exact checks _ (by simp [cls])
  | mergeStmt =>
    simp only [visitResolvedMergeStmt, parts.skip_field]
    split
    next hard => exact checks _ (by simp [cls, hard])
    next easy =>
      rw [parts.skip_class]
      exact checks _ (by simp [cls, easy])
  | queryStmt isValueTable =>
    refine checks _ ?_
    cases isValueTable <;> simp [cls, visitResolvedQueryStmt]
  | subqueryExpr subqueryType =>
    refine checks _ ?_
    cases subqueryType <;> simp [cls, visitResolvedSubqueryExpr] <;> tauto
  | analyticScan =>
    refine checks _ ?_
    simp [cls, visitResolvedAnalyticScan, or_imp, and_assoc]
  | tvfScan | arrayScan | sampleScan | joinScan | cast | orderByScan | windowFrame
  | windowFrameExpr | orderByItem | literal | constant | mergeWhen | plain =>
    refine checks _ ?_
    simp [cls]

def insertVisitedFields : List Field := [.tableScan, .query, .rowList]

/-- The inner visitor of an INSERT finds DuckDB's routes exactly when all of the query's are. -/
theorem PartsRaise.inner_onDuckdb (parts : PartsRaise order node)
    (cls : class_ node = .insertStmt) :
    (hasPart node .query && (runField {} (visitsOf order node) .query).disposition.onDuckdb) =
      insertsOnDuckdb node ((node.list .query).flatMap routes) := by
  rw [insertsOnDuckdb, cls]
  refine congrArg (hasPart node .query && ·) (Bool.eq_iff_iff.mpr ?_)
  rw [Disposition.onDuckdb_iff, parts.runField_le_iff, all_eq_true]
  simp only [forall_mem_flatMap, Tree.list, forall_mem_map, mem_filter, decide_eq_true_eq, and_imp,
    Disposition.onDuckdb_iff]
  exact and_iff_right (Disposition.native_le _)

theorem PartsRaise.visitInsert_le_iff (parts : PartsRaise order node)
    (cls : class_ node = .insertStmt) :
    (visitResolvedInsertStmt node (visitsOf order node) v).disposition ≤ x ↔
      v.disposition ≤ x ∧ (∀ d ∈ entries node, d ≤ x) ∧
        ∀ part ∈ node.parts, part.1 ∈ insertVisitedFields → ∀ d ∈ routes part.2, d ≤ x := by
  have fields := fun v => parts.runField_le_iff (v := v) (x := x)
  have own : (∀ d ∈ ownEntries node, d ≤ x) ↔
      (hasPart node .returning = true → .semanticExecutor ≤ x) := by
    rw [forall_mem_ownEntries]
    simp only [functionEntries, function, tvfEntries, propertyGate, cls, not_mem_nil,
      false_implies, implies_true, true_and]
  simp only [insertVisitedFields, mem_cons, not_mem_nil, or_false, or_imp, forall_and]
  rw [entries, entriesGiven, forall_mem_append, own]
  simp only [visitResolvedInsertStmt, parts.inner_onDuckdb cls]
  cases insertsOnDuckdb node ((node.list .query).flatMap routes) with
  | true =>
    have native := Disposition.native_le x
    simp only [if_true, fields, maybePromote_le_iff, gate_le_iff, not_mem_nil,
      false_implies, implies_true, true_and]
    tauto
  | false =>
    simp only [Bool.false_eq_true, if_false, fields, checkNodeClass_le_iff, gate_le_iff]
    tauto

/-- What the INSERT visitor passes over (a RETURNING list, a generated column) reaches no higher
than the INSERT itself and what the visitor goes into. -/
def InsertCovered (node : ResolvedNode) : Prop :=
  class_ node = .insertStmt → ∀ part ∈ node.parts, part.1 ∉ insertVisitedFields →
    ∀ d ∈ routes part.2, d = .duckdbNative ∨ (∃ e ∈ entries node, d ≤ e) ∨
      ∃ seen ∈ node.parts, seen.1 ∈ insertVisitedFields ∧ ∃ e ∈ routes seen.2, d ≤ e

theorem accept_eq (order : ChildOrder) (node : ResolvedNode) :
    accept order node = visit order node (visitsOf order node) :=
  Tree.fold_eq (visit order) node

theorem entries_of_not_insert (notInsert : class_ node ≠ .insertStmt) :
    entries node = classEntries node ++ ownEntries node := by
  have other : ∀ ds, insertsOnDuckdb node ds = false := by
    intro ds
    rw [insertsOnDuckdb]
    split
    next cls => exact absurd cls notInsert
    next => rfl
  rw [entries, entriesGiven, other, if_neg Bool.false_ne_true]

/-- The walk raises the disposition by everything found in the tree. -/
theorem accept_raises (order : ChildOrder)
    (covered : ∀ inner, Tree.Within inner node → InsertCovered inner) :
    Raises (accept order node) (routes node) := by
  induction node using Tree.induct with
  | step node ih =>
    obtain ⟨here, below⟩ := (Tree.forall_within_iff node).mp covered
    have parts : PartsRaise order node := fun part member => ih part member (below part member)
    intro v x
    rw [accept_eq, routes_eq, forall_mem_append, forall_mem_flatMap]
    by_cases cls : class_ node = .insertStmt
    · have method : visit order node (visitsOf order node) v =
          visitResolvedInsertStmt node (visitsOf order node) v := by simp only [visit, cls]
      rw [method, parts.visitInsert_le_iff cls]
      refine and_congr_right fun _ => and_congr_right fun own =>
        ⟨fun visited part member d found => ?_, fun all part member _ => all part member⟩
      by_cases inside : part.1 ∈ insertVisitedFields
      · exact visited part member inside d found
      obtain rfl | ⟨e, there, less⟩ | ⟨seen, seenIn, seenField, e, there, less⟩ :=
        here cls part member inside d found
      · exact Disposition.native_le x
      · exact less.trans (own e there)
      · exact less.trans (visited seen seenIn seenField e there)
    · rw [parts.visit_le_iff cls, entries_of_not_insert cls, forall_mem_append, and_assoc]

end

/-! ### The decision -/

section

variable {order : ChildOrder} {stmt : ResolvedNode} {d : Disposition}

def isRowDml (stmt : ResolvedNode) : Bool :=
  match class_ stmt with
  | .insertStmt | .updateStmt | .deleteStmt => true
  | _ => false

/-- The statement's class alone settles its route: DDL, a stub, an unsupported statement, and a
statement of the semantic executor that is not an INSERT, UPDATE or DELETE. -/
def HandledWhole (stmt : ResolvedNode) (d : Disposition) : Prop :=
  d ∈ classEntries stmt ∧ (d = .controlOp ∨ d = .localStub ∨ d = .unsupported ∨
    d = .semanticExecutor ∧ isRowDml stmt = false)

theorem className_injective (same : "Resolved" ++ a = "Resolved" ++ b) : a = b := by
  have lists := congrArg String.toList same
  rw [String.toList_append, String.toList_append] at lists
  exact String.toList_injective (append_cancel_left lists)

theorem dmlRootNeedsClassifierWalk_eq (stmt : ResolvedNode) :
    dmlRootNeedsClassifierWalk (className stmt) = isRowDml stmt := by
  rw [className, nodeKindString, isRowDml]
  cases class_ stmt with
  | plain class_ =>
    have other : ∀ kind ∈ distinguishedClasses, ("Resolved" ++ class_.kindString ==
        "Resolved" ++ kind) = false := by
      intro kind listed
      refine beq_false_of_ne fun same => class_.plain ?_
      rwa [className_injective same]
    simp only [dmlRootNeedsClassifierWalk, NodeClass.nodeKindString, Bool.or_eq_false_iff]
    exact ⟨⟨other "InsertStmt" (by decide), other "UpdateStmt" (by decide)⟩,
      other "DeleteStmt" (by decide)⟩
  | _ => rfl

theorem rootDisposition_eq_some_iff :
    rootDisposition (className stmt) = some d ↔ HandledWhole stmt d := by
  rw [rootDisposition, HandledWhole, classEntries, dmlRootNeedsClassifierWalk_eq]
  cases found : lookupNodeDisposition (className stmt) with
  | none => simp [ready]
  | some entry =>
    have ready := lookupNodeDisposition_not_planned found
    obtain ⟨disposition, planned⟩ := entry
    subst ready
    cases disposition <;> cases d <;> cases isRowDml stmt <;> simp [ready]

/-- The least bound of a finite list is the least disposition or in the list. -/
theorem isGreatest_of_le_iff {ds : List Disposition}
    (bound : ∀ x, r ≤ x ↔ ∀ d ∈ ds, d ≤ x) : IsGreatest {d | d = .duckdbNative ∨ d ∈ ds} r := by
  have finite : {d | d = Disposition.duckdbNative ∨ d ∈ ds}.Finite :=
    (Set.finite_singleton _).union ds.finite_toSet
  obtain ⟨top, member, above⟩ := Set.exists_max_image _ id finite ⟨.duckdbNative, .inl rfl⟩
  have upper : ∀ d ∈ ds, d ≤ top := fun d found => above d (.inr found)
  have greatest : top ≤ r := by
    obtain rfl | found := member
    · exact Disposition.native_le r
    · exact (bound r).mp le_rfl top found
  rw [le_antisymm ((bound top).mpr upper) greatest]
  exact ⟨member, fun d found => above d found⟩

def found (stmt : ResolvedNode) : Set Disposition :=
  {d | d = .duckdbNative ∨ ∃ node, Tree.Within node stmt ∧ d ∈ entries node}

theorem walk_isGreatest (order : ChildOrder)
    (covered : ∀ node, Tree.Within node stmt → InsertCovered node) :
    IsGreatest (found stmt) (accept order stmt {}).disposition := by
  have greatest := isGreatest_of_le_iff fun x => (accept_raises order covered).fresh_le_iff (x := x)
  simpa only [mem_routes_iff, found] using greatest

theorem classify_of_handled (handled : HandledWhole stmt d) :
    (classify order stmt).disposition = d := by
  rw [classify, rootDisposition_eq_some_iff.mpr handled]

theorem classify_of_walked (walked : ∀ d, ¬HandledWhole stmt d) :
    (classify order stmt).disposition = (accept order stmt {}).disposition := by
  have none : rootDisposition (className stmt) = none := by
    rw [Option.eq_none_iff_forall_ne_some]
    exact fun d settled => walked d (rootDisposition_eq_some_iff.mp settled)
  rw [classify, none]

/-- A statement that its class does not settle alone takes the highest disposition found at any
of its nodes, in whatever order parts are visited. -/
theorem classify_highest (order : ChildOrder) (stmt : ResolvedNode)
    (covered : ∀ node, Tree.Within node stmt → InsertCovered node) :
    (∀ d, HandledWhole stmt d → (classify order stmt).disposition = d) ∧
    ((∀ d, ¬HandledWhole stmt d) →
      IsGreatest (found stmt) (classify order stmt).disposition ∧
      (.unsupported ∈ found stmt → (classify order stmt).disposition = .unsupported) ∧
      (.semanticExecutor ∈ found stmt → (classify order stmt).disposition.onDuckdb = false)) ∧
    ∀ other, (classify other stmt).disposition = (classify order stmt).disposition := by
  refine ⟨fun d => classify_of_handled, fun walked => ?_, fun other => ?_⟩
  · rw [classify_of_walked walked]
    have greatest := walk_isGreatest order covered
    refine ⟨greatest, fun inside => ?_, fun inside => ?_⟩
    · exact le_antisymm (Disposition.le_unsupported _) (greatest.2 inside)
    · have above := greatest.2 inside
      generalize (accept order stmt {}).disposition = route at above
      cases route <;> first | rfl | exact absurd above (by decide)
  · by_cases settled : ∃ d, HandledWhole stmt d
    · obtain ⟨d, handled⟩ := settled
      rw [classify_of_handled handled, classify_of_handled handled]
    · have walked := not_exists.mp settled
      rw [classify_of_walked walked, classify_of_walked walked]
      exact (walk_isGreatest other covered).unique (walk_isGreatest order covered)

def insertsOnlyVisited (node : ResolvedNode) : Bool :=
  match class_ node with
  | .insertStmt => node.parts.all fun part => part.1 ∈ insertVisitedFields
  | _ => true

theorem insertCovered_of_onlyVisited (only : insertsOnlyVisited node = true) :
    InsertCovered node := by
  intro cls part member outside
  rw [insertsOnlyVisited, cls] at only
  exact absurd (of_decide_eq_true (all_eq_true.mp only part member)) outside

def selectFrom (computed : List ResolvedNode) : ResolvedNode :=
  .node { class_ := .plain ⟨"ProjectScan", by decide⟩ }
    ((computed.map fun expr => (.expr, expr)) ++
      [(.inputScan, .node { class_ := .plain ⟨"TableScan", by decide⟩ } [])])

/-- `INSERT INTO t SELECT ... FROM s`. -/
def insertSelect : ResolvedNode :=
  .node { class_ := .insertStmt }
    [(.tableScan, .node { class_ := .plain ⟨"TableScan", by decide⟩ } []),
     (.query, selectFrom [])]

/-- DuckDB runs `INSERT INTO t SELECT ... FROM s`, though the row of INSERT is the semantic
executor's. -/
theorem insert_select_on_duckdb :
    (classify .asListed insertSelect).disposition = .duckdbNative ∧
      IsGreatest (found insertSelect) (classify .asListed insertSelect).disposition := by
  have covered : ∀ node, Tree.Within node insertSelect → InsertCovered node := by
    have only := (Tree.all_iff (p := insertsOnlyVisited) insertSelect).mp (by decide)
    exact fun node inside => insertCovered_of_onlyVisited (only node inside)
  have walked : ∀ d, ¬HandledWhole insertSelect d := by
    intro d handled
    have none : rootDisposition (className insertSelect) = none := by decide +kernel
    rw [rootDisposition_eq_some_iff.mpr handled] at none
    contradiction
  exact ⟨by decide +kernel, ((classify_highest .asListed insertSelect covered).2.1 walked).1⟩

/-- `CREATE TABLE t AS SELECT PI() FROM s`. -/
def createTableOfPi : ResolvedNode :=
  .node { class_ := .plain ⟨"CreateTableAsSelectStmt", by decide⟩ }
    [(.query, selectFrom [.node
      { class_ := .functionCall (some { name := "pi", fullName := "pi", group := .other "GoogleSQL" })
        typeKind := some .double } []])]

/-- The unsupported `PI` inside a CREATE TABLE does not reach the decision. -/
theorem create_table_hides_unsupported :
    .unsupported ∈ found createTableOfPi ∧
      (classify .asListed createTableOfPi).disposition = .controlOp ∧
      ¬IsGreatest (found createTableOfPi) (classify .asListed createTableOfPi).disposition := by
  have inside : Disposition.unsupported ∈ found createTableOfPi := by
    have listed : Disposition.unsupported ∈ routes createTableOfPi := by decide +kernel
    exact .inr ((mem_routes_iff _ _).mp listed)
  have decided : (classify .asListed createTableOfPi).disposition = .controlOp := by
    decide +kernel
  refine ⟨inside, decided, fun greatest => ?_⟩
  have above := greatest.2 inside
  rw [decided] at above
  exact absurd above (by decide)

end

end BigQueryEmulator.Engine
