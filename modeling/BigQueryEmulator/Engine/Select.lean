import BigQueryEmulator.Engine.ScanNames
import BigQueryEmulator.Storage.Governance

/-! A SELECT on the DuckDB executor from its plan to its rows (`DuckDbExecutor::ExecuteQuery`,
`DuckDBRowSource::Next`): the scanned tables are loaded as far as the row access filters show
them (`catalog/table_governance.cc`), DuckDB evaluates the plan on the loaded relations, and the
masks are put on the output columns, found by their names (`duckdb_executor_security.cc`). What
DuckDB computes from the cells it is given is arbitrary. -/
namespace BigQueryEmulator.Engine
open Storage List

def granteeMatchesPrincipal (grantee principalEmail : String) : Bool :=
  if grantee.isEmpty then false
  else if "user:".toList.isPrefixOf grantee.toList then
    grantee.toList.drop 5 == principalEmail.toList
  else grantee == "allAuthenticatedUsers" || grantee == "allUsers"

def granteesIncludePrincipal (grantees : List String) (principalEmail : String) : Bool :=
  grantees.isEmpty || grantees.any fun grantee => granteeMatchesPrincipal grantee principalEmail

variable (policies : List RowAccessPolicyRecord)

def applicablePolicies (principalEmail : String) :
    List RowAccessPolicyRecord :=
  policies.filter fun policy => granteesIncludePrincipal policy.grantees principalEmail

def parenthesized (predicate : String) : String := "(" ++ predicate ++ ")"

def composeRowAccessFilterSql (principalEmail : String) :
    Except Status String :=
  if policies.isEmpty then .ok ""
  else if (applicablePolicies policies principalEmail).any fun policy =>
      policy.filterPredicate.isEmpty then
    .error ⟨.invalidArgument, "row access policy filter predicate must be non-empty"⟩
  else
    match (applicablePolicies policies principalEmail).map fun policy =>
        parenthesized policy.filterPredicate with
    | [] => .ok "(FALSE)"
    | [part] => .ok part
    | parts => .ok (parenthesized (" OR ".intercalate parts))

def effectiveColumnMask (column : ColumnGovernanceRecord) (columnType : ColumnType)
    (principalEmail : String) : DataMaskKind :=
  if column.policyTags.isEmpty && column.maskKind == .none then .none
  else if !column.maskGrantees.isEmpty &&
      granteesIncludePrincipal column.maskGrantees principalEmail then .none
  else if column.maskKind ≠ .none then column.maskKind
  else if !column.policyTags.isEmpty then
    match columnType with
    | .string | .bytes => .sha256
    | _ => .nullify
  else .none

def isAsciiSpace (c : Char) : Bool :=
  c == ' ' || c == '\t' || c == '\n' || c == '\x0b' || c == '\x0c' || c == '\r'

/-- `absl::SimpleAtoi` to an int64. -/
def simpleAtoi (text : String) : Option Int :=
  let stripped := ((text.toList.dropWhile isAsciiSpace).reverse.dropWhile isAsciiSpace).reverse
  let (negative, digits) := match stripped with
    | '-' :: rest => (true, rest)
    | '+' :: rest => (false, rest)
    | rest => (false, rest)
  if digits.isEmpty || digits.any fun c => !c.isDigit then none
  else
    let magnitude : Int := digits.foldl (fun n c => 10 * n + (c.toNat - '0'.toNat)) 0
    let value := if negative then -magnitude else magnitude
    if -(2 ^ 63) ≤ value && value < 2 ^ 63 then some value else none

variable (sha256Hex : Value → String)

/-- `sha256Hex` is the hexadecimal digest of a cell's `string_value()`. -/
def applyDataMask (mask : DataMaskKind)
    (column : ColumnGovernanceRecord) (columnType : ColumnType) (value : Value) :
    Except Status Value :=
  match mask with
  | .none => .ok value
  | .denied => .error ⟨.permissionDenied,
      "Access denied: caller lacks Fine-Grained Reader access to column"⟩
  | .nullify => .ok .null
  | .defaultValue =>
    match columnType with
    | .string | .bytes => .ok (.string column.defaultMaskValue)
    | .int64 =>
      if column.defaultMaskValue.isEmpty then .ok (.int64 0)
      else match simpleAtoi column.defaultMaskValue with
        | some v => .ok (.int64 v)
        | none => .error ⟨.invalidArgument, "default mask value is not a valid INT64"⟩
    | _ => .ok .null
  | .sha256 =>
    match value, columnType with
    | .null, _ => .ok .null
    | _, .string | _, .bytes => .ok (.string (sha256Hex value))
    | _, _ => .ok .null

variable (columns : List (String × ColumnGovernanceRecord))

def findColumnGovernance (name : String) :
    Option ColumnGovernanceRecord :=
  (columns.find? fun entry => entry.1 = name).map (·.2)

structure OutputColumnMask where
  mask : DataMaskKind := .none
  governance : ColumnGovernanceRecord := {}
  columnType : ColumnType := .unknown

def outputColumnMask (principalEmail : String)
    (column : ColumnSchema) : OutputColumnMask :=
  match findColumnGovernance columns column.name with
  | some governance =>
    { mask := effectiveColumnMask governance column.type principalEmail
      governance := governance, columnType := column.type }
  | none => { columnType := column.type }

def buildOutputColumnMasks (output : List ColumnSchema)
    (columns : List (String × ColumnGovernanceRecord)) (principalEmail : String) :
    List OutputColumnMask :=
  output.map (outputColumnMask columns principalEmail)

def applyOutputColumnMask (mask : OutputColumnMask) (cell : Value) :
    Except Status Value :=
  applyDataMask sha256Hex mask.mask mask.governance mask.columnType cell

def applyOutputColumnMasks (masks : List OutputColumnMask)
    (row : Row) : Except Status Row :=
  if masks.length ≠ row.cells.length then
    .error ⟨.invalidArgument, "ApplyOutputColumnMasks: mask/cell count mismatch"⟩
  else
    ((masks.zip row.cells).mapM fun (mask, cell) =>
      applyOutputColumnMask sha256Hex mask cell).map Row.mk

def mergedColumns (catalog : GoogleSqlCatalog) (governance : TableId → TableGovernance)
    (tables : List Pointer) : List (String × ColumnGovernanceRecord) :=
  tables.flatMap fun table =>
    match catalog.storageId table with
    | none => []
    | some id => (governance id).columns

/-- The cells of a row of an intermediate relation, NULL past its width. -/
abbrev Cells := Nat → Value

mutual

/-- Scalar expressions over a row. A subquery stands for itself: DuckDB is given no correlated
one. -/
inductive SqlExpr where
  | column (position : Nat)
  | call {k : Nat} (f : List Value → Except Status Value) (args : Fin k → SqlExpr)
  | subquery {k : Nat} (f : List Value → List (List Value) → Except Status Value)
      (args : Fin k → SqlExpr) (plan : Plan)

/-- Relational plans. `choose` takes rows of its input, by their positions, in any order: WHERE,
ORDER BY, LIMIT, DISTINCT, QUALIFY. `join` pairs rows of two inputs, none standing for the NULLs
of an outer join. `derive` makes new rows: GROUP BY, analytic functions, PIVOT. Each sees its
input through the values of its keys. `kind` is the node kind the source has for it. -/
inductive Plan where
  | tableScan (scan : TableScan)
  | withRef (name : String) (width : Nat)
  | withScan (name : String) (definition body : Plan)
  | project {n : Nat} (exprs : Fin n → SqlExpr) (input : Plan)
  | choose {k : Nat} (kind : String) (keys : Fin k → SqlExpr)
      (pick : List (List Value) → Except Status (List Nat)) (input : Plan)
  | join {k m : Nat} (leftKeys : Fin k → SqlExpr) (rightKeys : Fin m → SqlExpr)
      (pick : List (List Value) → List (List Value) →
        Except Status (List (Option Nat × Option Nat)))
      (left right : Plan)
  | derive {k : Nat} (kind : String) (width : Nat) (keys : Fin k → SqlExpr)
      (f : List (List Value) → Except Status (List (List Value))) (input : Plan)
  | unionAll (left right : Plan)

end

namespace Plan

def width : Plan → Nat
  | .tableScan scan => scan.columns.length
  | .withRef _ width | .derive _ width _ _ _ => width
  | .withScan _ _ body => body.width
  | .project (n := n) _ _ => n
  | .choose _ _ _ input => input.width
  | .join _ _ _ left right => left.width + right.width
  | .unionAll left _ => left.width

end Plan

def gather {k : Nat} (scans : Fin k → Scan) : Scan :=
  (ofFn scans).foldr (Scan.compound "Expr" true) .singleRowScan

mutual

def SqlExpr.scan : SqlExpr → Scan
  | .column _ => .singleRowScan
  | .call _ args => gather fun i => (args i).scan
  | .subquery _ args plan => .compound "SubqueryExpr" true (gather fun i => (args i).scan) plan.scan

def Plan.scan : Plan → Scan
  | .tableScan scan => .tableScan scan
  | .withRef name _ => .withRefScan name
  | .withScan name definition body => .withScan name false definition.scan body.scan
  | .project exprs input =>
    .compound "ProjectScan" true input.scan (gather fun i => (exprs i).scan)
  | .choose kind keys _ input => .compound kind true input.scan (gather fun i => (keys i).scan)
  | .join leftKeys rightKeys _ left right =>
    .compound "JoinScan" true
      (.compound "JoinScan" true left.scan (gather fun i => (leftKeys i).scan))
      (.compound "JoinScan" true right.scan (gather fun i => (rightKeys i).scan))
  | .derive kind _ keys _ input => .compound kind true input.scan (gather fun i => (keys i).scan)
  | .unionAll left right => .compound "SetOperationScan" true left.scan right.scan

end

section

abbrev WithEntries := String → Option (List Cells)

def WithEntries.bind (entries : WithEntries) (name : String) (rows : List Cells) : WithEntries :=
  fun other => if other = name then some rows else entries other

def listed (width : Nat) (cells : Cells) : List Value := (range width).map cells

def ofList (values : List Value) : Cells := fun i => values.getD i .null

def scannedCells (scan : TableScan) (row : Row) : Cells := fun i =>
  match scan.columns[i]? with
  | some (index, _) => row.cells.getD index .null
  | none => .null

def beside (width : Nat) (left right : Option Cells) : Cells := fun i =>
  if i < width then (left.getD fun _ => .null) i else (right.getD fun _ => .null) (i - width)

variable (db : InMemoryDuckdb) (catalog : GoogleSqlCatalog) (conn : Connection)

mutual

/-- `scope` holds the relation names that WITH entries have taken. -/
def SqlExpr.eval (scope : List String) (entries : WithEntries) :
    SqlExpr → Cells → Except Status Value
  | .column position, cells => .ok (cells position)
  | .call f args, cells => do
    f (← (ofFn fun i => (args i).eval scope entries cells).mapM id)
  | .subquery f args plan, cells => do
    let values ← (ofFn fun i => (args i).eval scope entries cells).mapM id
    let rows ← plan.eval scope entries
    f values (rows.map (listed plan.width))

def Plan.eval (scope : List String) (entries : WithEntries) : Plan → Except Status (List Cells)
  | .tableScan scan =>
    match readScan db catalog conn (scope, scan) with
    | some rows => .ok (rows.map (scannedCells scan))
    | none => .error ⟨.unimplemented, "duckdb engine: DuckDB rejected transpiled SQL"⟩
  | .withRef name _ =>
    match entries name with
    | some rows => .ok rows
    | none => .error ⟨.unimplemented, "duckdb engine: DuckDB rejected transpiled SQL"⟩
  | .withScan name definition body => do
    let rows ← definition.eval scope entries
    body.eval (db.identifier (quoteIdent name) :: scope) (entries.bind name rows)
  | .project exprs input => do
    let rows ← input.eval scope entries
    rows.mapM fun cells => do
      return ofList (← (ofFn fun i => (exprs i).eval scope entries cells).mapM id)
  | .choose _ keys pick input => do
    let rows ← input.eval scope entries
    let seen ← rows.mapM fun cells =>
      (ofFn fun i => (keys i).eval scope entries cells).mapM id
    return (← pick seen).filterMap fun position => rows[position]?
  | .join leftKeys rightKeys pick left right => do
    let leftRows ← left.eval scope entries
    let leftSeen ← leftRows.mapM fun cells =>
      (ofFn fun i => (leftKeys i).eval scope entries cells).mapM id
    let rightRows ← right.eval scope entries
    let rightSeen ← rightRows.mapM fun cells =>
      (ofFn fun i => (rightKeys i).eval scope entries cells).mapM id
    return (← pick leftSeen rightSeen).map fun (l, r) =>
      beside left.width (l.bind (leftRows[·]?)) (r.bind (rightRows[·]?))
  | .derive _ width keys f input => do
    let rows ← input.eval scope entries
    let seen ← rows.mapM fun cells =>
      (ofFn fun i => (keys i).eval scope entries cells).mapM id
    return (← f seen).map fun values => ofList (values.take width)
  | .unionAll left right => do
    let first ← left.eval scope entries
    let second ← right.eval scope entries
    return first ++ second

end

end

structure Select where
  plan : Plan
  output : List ColumnSchema
  shaped : output.length = plan.width

structure Governing where
  governance : TableId → TableGovernance
  principal : String
  sha256Hex : Value → String

def getTableGovernance (st : DuckDBStorage) (governing : Governing) (id : TableId) :
    Except Status TableGovernance := do
  let _ ← st.ensureTableMetaExists id
  return governing.governance id

def Governing.surroundings (governing : Governing) (st : DuckDBStorage) (nowMs clockMs : Int) :
    Surroundings where
  storage := st
  rowAccessFilter := fun id => do
    let governance ← getTableGovernance st governing id
    composeRowAccessFilterSql governance.rowAccessPolicies governing.principal
  nowMs := nowMs
  clockMs := clockMs

/-- The rows that `Next` hands out, each as its own answer. -/
def executeSelect (db : InMemoryDuckdb) (catalog : GoogleSqlCatalog) (governing : Governing)
    (st : DuckDBStorage) (nowMs clockMs : Int) (select : Select) :
    Except Status (List (Except Status Row)) :=
  let env := governing.surroundings st nowMs clockMs
  match emitScan catalog select.plan.scan with
  | none => .error ⟨.unimplemented, "duckdb engine: transpiler does not yet cover this query " ++
      "shape (family: node:" ++ select.plan.scan.nodeKindString ++
      ", route: duckdb_native); see docs/ENGINE_POLICY.md"⟩
  | some _ => do
    let collector ← TableScanCollector.visit select.plan.scan {}
    let governed ← applyGovernanceToCollector catalog env collector
    let masks := buildOutputColumnMasks select.output
      (mergedColumns catalog governing.governance collector.tables) governing.principal
    let conn ← db.attachCollectedQueryTables catalog env governed fun _ => none
    let rows ← select.plan.eval db catalog conn [] fun _ => none
    return rows.map fun cells =>
      applyOutputColumnMasks governing.sha256Hex masks ⟨listed select.plan.width cells⟩

end BigQueryEmulator.Engine
