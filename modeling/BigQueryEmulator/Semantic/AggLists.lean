import BigQueryEmulator.Semantic.JoinScan

/-! Aggregate scans with ARRAY_AGG and STRING_AGG (`scan_eval_aggregate.cc`,
`scan_eval_agg_having.cc`, `scan_eval_agg_list.cc`). The argument columns of a call hold one value
for each row of the group; the rows that go with them are all rows of the input. -/
namespace BigQueryEmulator.Semantic
open Storage (Status StatusCode)

inductive HavingKind where
  | max | min
  deriving DecidableEq

inductive ListFunction where
  | arrayAgg | stringAgg
  deriving DecidableEq

/-- A call of ARRAY_AGG or STRING_AGG. The limit is evaluated once, without a row. -/
structure ListCall where
  function : ListFunction
  value : Expr
  delimiter : Option Expr := none
  having : Option (HavingKind × Expr) := none
  ignoreNulls : Bool := false
  distinct : Bool := false
  orderBy : List OrderByItem := []
  limit : Option (Except Status Value) := none

/-- `status` is an error of the query; `outOfBounds` is a read past the end of a vector. -/
inductive ListFault where
  | status (status : Status)
  | outOfBounds
  deriving DecidableEq

/-- The result of a call; `nullString` is the NULL of STRING_AGG. -/
inductive ListValue where
  | array (elements : List Value)
  | string (value : String)
  | nullString
  deriving DecidableEq

/-- What the expressions of an aggregate are evaluated with: arguments see the names of the row's
columns, all others only those from outside. -/
structure AggregateContext where
  plain : ExprContext
  named : ColumnBindings → ExprContext
  print : Value → String

abbrev ListWork := Except ListFault

def query {α : Type} : Except Status α → ListWork α
  | .ok value => .ok value
  | .error e => .error (.status e)

def at? {α : Type} (rows : List α) (r : Nat) : ListWork α :=
  match rows[r]? with
  | some row => .ok row
  | none => .error .outOfBounds

def compareHavingValues (print : Value → String) (a b : Value) : Int :=
  if a.isNull && b.isNull then 0
  else if a.isNull then -1
  else if b.isNull then 1
  else if valueEqual a b then 0
  else if valueLess print a b then -1 else 1

def HavingKind.isBetter (kind : HavingKind) (print : Value → String) (value best : Value) : Bool :=
  match kind with
  | .max => compareHavingValues print value best > 0
  | .min => compareHavingValues print value best < 0

/-- The best value that is not NULL. -/
def HavingKind.best (kind : HavingKind) (print : Value → String) (values : List Value) : Option Value :=
  values.foldl (fun best value =>
    if value.isNull then best
    else
      match best with
      | none => some value
      | some best => some (if kind.isBetter print value best then value else best)) none

/-- A row with this value stays. -/
def havingKeeps (best : Option Value) (value : Value) : Bool :=
  match best with
  | none => false
  | some best => !value.isNull && valueEqual value best

def filterRowsByHavingModifier (ctx : AggregateContext) (call : ListCall)
    (inputRows : List ColumnBindings) (rowIndices : List Nat) : ListWork (List Nat) :=
  match call.having with
  | none => .ok rowIndices
  | some (kind, expr) => do
    let rows ← rowIndices.mapM fun r => do
      let row ← at? inputRows r
      return (r, ← query (evalExpr ctx.plain row expr))
    let best := kind.best ctx.print (rows.map Prod.snd)
    return (rows.filter fun row => havingKeeps best row.2).map Prod.fst

structure AggListRow where
  val : Value
  sortKeys : List Value
  deriving DecidableEq

/-- The loop of `CollectOrderedAggRows` from row `r` on: `values` is `input_column_values[0]`. -/
def collectOrderedAggRows (ctx : ExprContext) (call : ListCall) (values : List Value) :
    Nat → List ColumnBindings → ListWork (List AggListRow)
  | _, [] => .ok []
  | r, row :: rest => do
    let val ← at? values r
    if call.ignoreNulls && val.isNull then collectOrderedAggRows ctx call values (r + 1) rest
    else
      let sortKeys ← query (call.orderBy.mapM fun item => evalExpr ctx row (.columnRef item.ref))
      return ⟨val, sortKeys⟩ :: (← collectOrderedAggRows ctx call values (r + 1) rest)

def dedupAggRows (rows : List AggListRow) : List AggListRow :=
  rows.foldl (fun deduped row =>
    if deduped.any fun prior => valueEqual prior.val row.val then deduped else deduped ++ [row]) []

def compareArrayAggOrderKey (print : Value → String) (item : OrderByItem) (a b : Value) : Int :=
  if valueEqual a b then 0
  else if a.isNull || b.isNull then
    if a.isNull && b.isNull then 0
    else if a.isNull then if item.nullsFirst then -1 else 1
    else if item.nullsFirst then 1 else -1
  else if if item.isDescending then !valueLess print a b else valueLess print a b then -1
  else 1

def aggRowLess (print : Value → String) : List OrderByItem → List Value → List Value → Bool
  | item :: items, a :: as, b :: bs =>
    let order := compareArrayAggOrderKey print item a b
    if order = -1 then true else if order = 1 then false else aggRowLess print items as bs
  | _, _, _ => false

def sortAggRows (print : Value → String) (call : ListCall) (rows : List AggListRow) :
    List AggListRow :=
  if call.orderBy.isEmpty then rows
  else stableSort (fun a b => aggRowLess print call.orderBy a.sortKeys b.sortKeys) rows

def applyAggRowLimit (call : ListCall) (rows : List AggListRow) : Except Status (List AggListRow) :=
  match call.limit with
  | none => .ok rows
  | some limit => do
    match ← limit with
    | .null _ => throw (semanticError .invalidArgument "aggregate LIMIT must not be NULL")
    | .int64 limit =>
      if limit < 0 then
        throw (semanticError .invalidArgument "aggregate LIMIT must be non-negative")
      else return rows.take limit.toNat
    | _ => throw (semanticError .invalidArgument "aggregate LIMIT must be INT64")

/-- What both functions do with the collected rows: DISTINCT, ORDER BY, LIMIT. -/
def arrangeAggRows (print : Value → String) (call : ListCall) (rows : List AggListRow) :
    Except Status (List AggListRow) :=
  applyAggRowLimit call (sortAggRows print call (if call.distinct then dedupAggRows rows else rows))

/-- `delimiters` is `input_column_values[1]` if the call has a second argument. -/
def evalArrayAgg (ctx : AggregateContext) (call : ListCall) (values : List Value)
    (delimiters : Option (List Value)) (inputRows : List ColumnBindings) : ListWork ListValue :=
  if delimiters.isSome then
    .error (.status (semanticError .invalidArgument "ARRAY_AGG expects one argument"))
  else do
    let rows ← collectOrderedAggRows ctx.plain call values 0 inputRows
    query ((arrangeAggRows ctx.print call rows).map fun rows => .array (rows.map AggListRow.val))

/-- A byte is appended as the character of its number. -/
def stringifyAggValue (print : Value → String) : Value → String
  | .null _ => ""
  | .string value => value
  | .bytes value => String.ofList (value.map fun byte => Char.ofNat byte.toNat)
  | value => print value

/-- The delimiter, or the answer that comes before any row is looked at. -/
def stringAggDelimiter : Option (List Value) → Except (Except Status ListValue) String
  | none => .ok ","
  | some [] => .error (.error (semanticError .invalidArgument "STRING_AGG delimiter missing"))
  | some (.null _ :: _) => .error (.ok .nullString)
  | some (.string delimiter :: _) => .ok delimiter
  | some (_ :: _) =>
    .error (.error (semanticError .invalidArgument "STRING_AGG delimiter must be STRING"))

def joinAggRows (print : Value → String) (call : ListCall) (delimiter : String)
    (rows : List AggListRow) : ListValue :=
  let texts := (rows.filter fun row => !row.val.isNull).map fun row => stringifyAggValue print row.val
  if rows.isEmpty then if call.ignoreNulls then .nullString else .string ""
  else if texts.isEmpty then .nullString
  else .string (delimiter.intercalate texts)

def evalStringAgg (ctx : AggregateContext) (call : ListCall) (values : List Value)
    (delimiters : Option (List Value)) (inputRows : List ColumnBindings) : ListWork ListValue :=
  match stringAggDelimiter delimiters with
  | .error answer => query answer
  | .ok delimiter => do
    let rows ← collectOrderedAggRows ctx.plain call values 0 inputRows
    query ((arrangeAggRows ctx.print call rows).map (joinAggRows ctx.print call delimiter))

def finishAggregateFromArgColumns (ctx : AggregateContext) (call : ListCall) (values : List Value)
    (delimiters : Option (List Value)) (inputRows : List ColumnBindings) : ListWork ListValue :=
  match call.function with
  | .arrayAgg => evalArrayAgg ctx call values delimiters inputRows
  | .stringAgg => evalStringAgg ctx call values delimiters inputRows

def evalArguments (ctx : AggregateContext) (call : ListCall) (row : ColumnBindings) :
    Except Status (Value × Option Value) := do
  let value ← evalExpr (ctx.named row) row call.value
  match call.delimiter with
  | none => return (value, none)
  | some delimiter => return (value, some (← evalExpr (ctx.named row) row delimiter))

def evalAggregateForRows (ctx : AggregateContext) (call : ListCall)
    (inputRows : List ColumnBindings) (rowIndices : List Nat) : ListWork ListValue := do
  let effectiveRows ← filterRowsByHavingModifier ctx call inputRows rowIndices
  let arguments ← effectiveRows.mapM fun r => do
    let row ← at? inputRows r
    query (evalArguments ctx call row)
  let delimiters := call.delimiter.map fun _ => arguments.filterMap Prod.snd
  finishAggregateFromArgColumns ctx call (arguments.map Prod.fst) delimiters inputRows

structure Group where
  fingerprint : String
  keys : List Value
  rows : List Nat

/-- `groups` is a map ordered by the fingerprints. -/
def addToGroups (fingerprint : String) (keys : List Value) (r : Nat) : List Group → List Group
  | [] => [⟨fingerprint, keys, [r]⟩]
  | group :: rest =>
    if fingerprint = group.fingerprint then { group with rows := group.rows ++ [r] } :: rest
    else if (compare fingerprint group.fingerprint).isLT then
      ⟨fingerprint, keys, [r]⟩ :: group :: rest
    else group :: addToGroups fingerprint keys r rest

structure AggregateScan where
  groupBy : List (Column × Expr)
  aggregates : List (Column × ListCall)

def groupKeys (ctx : AggregateContext) (scan : AggregateScan) (row : ColumnBindings) :
    Except Status (List Value) := scan.groupBy.mapM fun key => evalExpr ctx.plain row key.2

def groupRows (ctx : AggregateContext) (scan : AggregateScan) (groups : List Group) :
    Nat → List ColumnBindings → Except Status (List Group)
  | _, [] => .ok groups
  | r, row :: rest => do
    let keys ← groupKeys ctx scan row
    groupRows ctx scan (addToGroups (groupKeyFingerprint ctx.print keys) keys r groups) (r + 1) rest

/-- Without GROUP BY there is one group, even of no rows. -/
def scanGroups (ctx : AggregateContext) (scan : AggregateScan) (inputRows : List ColumnBindings) :
    Except Status (List Group) :=
  if scan.groupBy.isEmpty then .ok [⟨"", [], List.range inputRows.length⟩]
  else groupRows ctx scan [] 0 inputRows

structure GroupRow where
  keys : List (Nat × Value)
  results : List (Nat × ListValue)

def materializeAggregateGroup (ctx : AggregateContext) (scan : AggregateScan)
    (inputRows : List ColumnBindings) (group : Group) : ListWork GroupRow := do
  let results ← scan.aggregates.mapM fun aggregate => do
    return (aggregate.1.id, ← evalAggregateForRows ctx aggregate.2 inputRows group.rows)
  return ⟨(scan.groupBy.map fun key => key.1.id).zip group.keys, results⟩

/-- `input` is what the input scan gives. -/
def materializeAggregateScan (ctx : AggregateContext) (scan : AggregateScan)
    (input : Except Status (List ColumnBindings)) : ListWork (List GroupRow) := do
  let inputRows ← query input
  let groups ← query (scanGroups ctx scan inputRows)
  groups.mapM (materializeAggregateGroup ctx scan inputRows)

end BigQueryEmulator.Semantic
