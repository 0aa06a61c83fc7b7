import Mathlib

/-! The routes a statement can take, their promotion order, and the two tables that give a
route to each class of resolved node and to each function
(`node_dispositions.yaml`, `functions.yaml`). -/
namespace BigQueryEmulator.Engine

inductive Disposition where
  | duckdbNative
  | duckdbRewrite
  | duckdbUdf
  | semanticExecutor
  | controlOp
  | localStub
  | unsupported
deriving DecidableEq

def routeClassifierPriority : Disposition → Nat
  | .duckdbNative => 0
  | .duckdbRewrite => 1
  | .duckdbUdf => 2
  | .controlOp => 3
  | .semanticExecutor => 4
  | .localStub => 5
  | .unsupported => 6

/-- Dispositions are ordered as the classifier promotes them. -/
instance : LinearOrder Disposition :=
  LinearOrder.lift' routeClassifierPriority (by
    intro a b same
    cases a <;> cases b <;> first | rfl | cases same)

namespace Disposition
variable (d : Disposition)

theorem native_le : duckdbNative ≤ d := Nat.zero_le _

theorem le_unsupported : d ≤ unsupported := by
  cases d <;> decide

def onDuckdb : Disposition → Bool
  | duckdbNative | duckdbRewrite | duckdbUdf => true
  | _ => false

theorem onDuckdb_iff : d.onDuckdb = true ↔ d ≤ duckdbUdf := by
  cases d <;> decide

end Disposition

structure DispositionEntry where
  disposition : Disposition
  planned : Bool
deriving DecidableEq

structure DispositionRows where
  disposition : Disposition
  planned : Bool := false
  names : List String

def lookup (table : List DispositionRows) (name : String) : Option DispositionEntry :=
  (table.find? fun rows => name ∈ rows.names).map fun rows =>
    { disposition := rows.disposition, planned := rows.planned }

def nodeDispositions : List DispositionRows := [
  { disposition := .duckdbNative, names := [
      "ResolvedQueryStmt", "ResolvedTableScan", "ResolvedSingleRowScan", "ResolvedProjectScan",
      "ResolvedFilterScan", "ResolvedJoinScan", "ResolvedArrayScan", "ResolvedAggregateScan",
      "ResolvedSetOperationScan", "ResolvedOrderByScan", "ResolvedLimitOffsetScan",
      "ResolvedAnalyticScan", "ResolvedSampleScan", "ResolvedWithScan", "ResolvedWithRefScan",
      "ResolvedLiteral", "ResolvedParameter", "ResolvedColumnRef", "ResolvedFunctionCall",
      "ResolvedAggregateFunctionCall", "ResolvedAnalyticFunctionCall", "ResolvedCast",
      "ResolvedSubqueryExpr", "ResolvedWithExpr", "ResolvedConstant", "ResolvedOutputColumn",
      "ResolvedComputedColumn", "ResolvedDeferredComputedColumn", "ResolvedOrderByItem",
      "ResolvedWindowFrame", "ResolvedWindowFrameExpr", "ResolvedAnalyticFunctionGroup",
      "ResolvedSetOperationItem", "ResolvedFunctionArgument"] },
  { disposition := .duckdbRewrite, names := [
      "ResolvedRecursiveScan", "ResolvedRecursiveRefScan", "ResolvedPivotScan",
      "ResolvedUnpivotScan", "ResolvedMakeStruct", "ResolvedGetStructField", "ResolvedGetJsonField",
      "ResolvedGroupingSet", "ResolvedRollup", "ResolvedCube"] },
  { disposition := .semanticExecutor, names := [
      "ResolvedInsertStmt", "ResolvedUpdateStmt", "ResolvedDeleteStmt", "ResolvedMergeStmt",
      "ResolvedCallStmt", "ResolvedMultiStmt", "ResolvedCreateConstantStmt",
      "ResolvedAssignmentStmt", "ResolvedExecuteImmediateStmt", "ResolvedAssertStmt",
      "ResolvedMatchRecognizeScan", "ResolvedTVFScan", "ResolvedRelationArgumentScan",
      "ResolvedBarrierScan", "ResolvedPipeInsertScan", "ResolvedGetRowField",
      "ResolvedSystemVariable", "ResolvedArgumentRef", "ResolvedArgumentDef",
      "ResolvedExpressionColumn", "ResolvedColumnHolder", "ResolvedAggregateHavingModifier",
      "ResolvedReturningClause"] },
  { disposition := .controlOp, names := [
      "ResolvedCreateTableStmt", "ResolvedCreateTableAsSelectStmt", "ResolvedCreateViewStmt",
      "ResolvedCreateMaterializedViewStmt", "ResolvedCreateProcedureStmt",
      "ResolvedCreateFunctionStmt", "ResolvedCreateTableFunctionStmt", "ResolvedAlterTableStmt",
      "ResolvedDropStmt", "ResolvedDropFunctionStmt", "ResolvedTruncateStmt",
      "ResolvedAuxLoadDataStmt", "ResolvedExportDataStmt", "ResolvedCreateSnapshotTableStmt",
      "ResolvedCloneDataStmt", "ResolvedUndropStmt", "ResolvedDropSnapshotTableStmt"] },
  { disposition := .localStub, names := [
      "ResolvedCreateModelStmt", "ResolvedAnonymizedAggregateScan",
      "ResolvedDifferentialPrivacyAggregateScan", "ResolvedAggregationThresholdAggregateScan"] },
  { disposition := .unsupported, names := [
      "ResolvedExplainStmt", "ResolvedAnalyzeStmt", "ResolvedGroupRowsScan", "ResolvedPipeIfScan",
      "ResolvedPipeForkScan", "ResolvedPipeTeeScan", "ResolvedPipeExportDataScan",
      "ResolvedPipeCreateTableScan", "ResolvedGraphTableScan", "ResolvedGraphScan",
      "ResolvedGraphLinearScan", "ResolvedGraphRefScan", "ResolvedGraphCallScan",
      "ResolvedGraphElementScan", "ResolvedGraphNodeScan", "ResolvedGraphEdgeScan",
      "ResolvedGraphPathScan", "ResolvedMakeProto", "ResolvedGetProtoField",
      "ResolvedGetProtoOneof", "ResolvedReplaceField", "ResolvedFlatten", "ResolvedFlattenedArg",
      "ResolvedInlineLambda", "ResolvedFilterField", "ResolvedFilterFieldArg", "ResolvedSequence",
      "ResolvedCatalogColumnRef", "ResolvedUpdateConstructor"] }]

-- The tables are long: no proof may look into them by unfolding.
@[irreducible] def lookupNodeDisposition (nodeKind : String) : Option DispositionEntry :=
  lookup nodeDispositions nodeKind

def functionDispositions : List DispositionRows := [
  { disposition := .duckdbNative, names := [
      "$add", "$subtract", "$multiply", "$divide", "$unary_minus", "$equal", "$not_equal", "$less",
      "$less_or_equal", "$greater", "$greater_or_equal", "$and", "$or", "$not", "$is_null",
      "$is_not_null", "$with_side_effects", "$in", "$interval", "abs", "ceil", "ceiling", "floor",
      "round", "trunc", "sqrt", "exp", "sign", "greatest", "least", "ln", "log10", "pow", "power",
      "cbrt", "is_inf", "is_nan", "concat", "length", "char_length", "character_length",
      "byte_length", "lower", "upper", "substr", "substring", "replace", "trim", "ltrim", "rtrim",
      "lpad", "ascii", "chr", "starts_with", "ends_with", "to_hex", "from_hex", "repeat", "right",
      "farm_fingerprint", "rand", "current_timestamp", "current_date", "current_time",
      "current_datetime", "date", "timestamp", "ifnull", "coalesce", "nullif", "array_length",
      "array_concat", "array_reverse", "generate_array", "count", "sum", "avg", "min", "max",
      "stddev_samp", "variance", "var_samp", "any_value", "countif", "logical_and", "logical_or",
      "bit_and", "bit_or", "bit_xor", "row_number", "rank", "dense_rank", "percent_rank",
      "cume_dist", "ntile", "lag", "lead", "first_value", "last_value", "nth_value",
      "percentile_cont", "percentile_disc"] },
  { disposition := .duckdbRewrite, names := [
      "array_agg", "string_agg", "$subscript"] },
  { disposition := .duckdbUdf, names := [
      "log", "mod", "div", "split", "regexp_contains", "regexp_replace", "strpos", "date_add",
      "timestamp_add", "timestamp_sub", "extract", "unix_seconds", "unix_millis", "unix_micros",
      "unix_date", "if", "$extract"] },
  { disposition := .semanticExecutor, names := [
      "$like", "$between", "$is_true", "$is_not_true", "$is_false", "$is_not_false",
      "$is_distinct_from", "$is_not_distinct_from", "$bitwise_and", "$bitwise_or", "$bitwise_xor",
      "$bitwise_not", "$bitwise_left_shift", "$bitwise_right_shift", "justify_days",
      "justify_hours", "ieee_divide", "bit_count", "safe_divide", "safe_negate", "rpad", "reverse",
      "regexp_extract", "regexp_extract_all", "regexp_instr", "normalize", "to_code_points",
      "initcap", "translate", "generate_date_array", "generate_timestamp_array", "format",
      "contains_substr", "instr", "soundex", "date_sub", "date_diff", "date_trunc", "datetime_add",
      "datetime_sub", "datetime_diff", "timestamp_diff", "timestamp_trunc", "timestamp_bucket",
      "format_timestamp", "format_date", "format_datetime", "parse_date", "parse_timestamp",
      "parse_datetime", "array_to_string", "agg", "approx_quantiles", "approx_count_distinct",
      "approx_top_count", "approx_top_sum", "$array_at_offset", "hll_count.init", "hll_count.merge",
      "hll_count.merge_partial", "hll_count.extract", "kll_quantiles.init_int64",
      "kll_quantiles.init_float64", "kll_quantiles.merge_int64", "kll_quantiles.merge_float64",
      "kll_quantiles.merge_partial", "kll_quantiles.merge_point_int64",
      "kll_quantiles.merge_point_float64", "kll_quantiles.extract_int64",
      "kll_quantiles.extract_float64", "kll_quantiles.extract_point_int64",
      "kll_quantiles.extract_point_float64", "external_query", "net.ip_from_string",
      "net.safe_ip_from_string", "net.ip_to_string", "net.ip_net_mask", "net.ip_trunc",
      "net.ipv4_from_int64", "net.ipv4_to_int64", "net.host", "net.public_suffix", "net.reg_domain",
      "string", "normalize_and_casefold", "st_geogpoint", "st_geogfromtext", "st_geogfromwkb",
      "st_astext", "st_distance", "st_within", "st_contains", "st_intersects", "json_extract",
      "json_query", "json_value", "json_extract_scalar", "json_extract_array", "json_query_array",
      "json_value_array", "json_type", "json_extract_string_array", "parse_json", "range",
      "range_start", "range_end", "range_overlaps", "to_json", "to_json_string", "generate_uuid",
      "error"] },
  { disposition := .localStub, names := [
      "ml.predict", "ml.forecast", "ml.evaluate", "keys.new_keyset", "keys.keyset_length",
      "session_user"] },
  { disposition := .unsupported, names := [
      "pi", "array_transform", "array_filter"] }]

def asciiStrToLower (s : String) : String := String.ofList (s.toList.map Char.toLower)

@[irreducible] def lookupFunction (bqName : String) : Option DispositionEntry :=
  lookup functionDispositions (asciiStrToLower bqName)

theorem lookup_not_planned (ready : ∀ rows ∈ table, rows.planned = false)
    (found : lookup table name = some entry) : entry.planned = false := by
  obtain ⟨rows, foundRows, rfl⟩ := Option.map_eq_some_iff.mp found
  exact ready rows (List.mem_of_find?_eq_some foundRows)

/-- No row of the node table has `status=planned`. -/
theorem lookupNodeDisposition_not_planned (found : lookupNodeDisposition nodeKind = some entry) :
    entry.planned = false := by
  rw [lookupNodeDisposition] at found
  exact lookup_not_planned (by decide) found

example : lookupFunction "TIMESTAMP_ADD" = some ⟨.duckdbUdf, false⟩ := by decide +kernel

end BigQueryEmulator.Engine
