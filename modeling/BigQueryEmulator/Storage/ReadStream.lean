import BigQueryEmulator.Storage.RowEffects

/-! `CreateReadStream` (`duckdb_storage_read_stream.cc`): the SELECT a Storage Read
stream runs over the live parquet file, put together clause by clause as the source
puts together its text, and what DuckDB answers. -/
namespace BigQueryEmulator.Storage
open List hiding filter

structure ReadFilter where
  rowLimit : Int := 0
  offset : Int := 0
  selectedFields : List String := []
  whereSql : Option String := none
  rowStart : Int := 0
  rowEnd : Int := -1

/-- Where a table's parquet file lies, and which rows make a WHERE body true. -/
structure DuckDB where
  parquetPath : TableId → String
  satisfies : TableSchema → String → Row → Bool

def strReplaceAll (quote : Char) (text : String) : String :=
  String.ofList (text.toList.flatMap (fun c => if c = quote then [quote, quote] else [c]))

def quoteIdent (ident : String) : String :=
  "\"" ++ strReplaceAll (Char.ofNat 34) ident ++ "\""

def escapeStringLiteralInner (text : String) : String := strReplaceAll (Char.ofNat 39) text

/-- Repeated, temporal and struct columns are read through VARCHAR. -/
def renderColumnSelectExpr (column : ColumnSchema) : String :=
  let ident := quoteIdent column.name
  let cast := "CAST(" ++ ident ++ " AS VARCHAR) AS " ++ ident
  if column.mode = .repeated then cast
  else
    match column.type with
    | .date | .time | .datetime | .timestamp | .struct => cast
    | _ => ident

def renderColumnIdentList (schema : TableSchema) : String :=
  String.intercalate ", " (schema.columns.map renderColumnSelectExpr)

def projectSchema (schema : TableSchema) (names : List String) : Except Status TableSchema := do
  let columns ← names.mapM fun name =>
    match schema.columns.find? (fun column => column.name == name) with
    | some column => .ok column
    | none => .error ⟨.invalidArgument, "selected_fields: unknown column \x60" ++ name ++
        "\x60 (table has no top-level column with that name)"⟩
  return ⟨columns⟩

/-- The columns to read, with the text of the SELECT list. An empty `selected_fields`
asks for all of them. -/
def planReadStreamProjection (physical : TableSchema) (filter : ReadFilter) :
    Except Status (TableSchema × String) :=
  if filter.selectedFields.isEmpty then .ok (physical, renderColumnIdentList physical)
  else
    (projectSchema physical filter.selectedFields).map fun projected =>
      (projected, renderColumnIdentList projected)

inductive Condition where
  | restriction (sql : String)
  | atLeast (fileRowNumber : Int)
  | below (fileRowNumber : Int)

/-- ` WHERE c` or ` AND c`, as they are appended to the text. -/
inductive Clause where
  | filter (condition : Condition)
  | conjunct (condition : Condition)

namespace Clause

def condition : Clause → Condition
  | .filter condition | .conjunct condition => condition

def isFilter : Clause → Bool
  | .filter _ => true
  | .conjunct _ => false

end Clause

structure ReadStreamSql where
  head : String
  clauses : List Clause := []

def strContains (text fragment : String) : Bool :=
  text.toList.tails.any (fun rest => fragment.toList.isPrefixOf rest)

variable (sql : ReadStreamSql)

/-- `sql->find(" WHERE ")`, which also looks at the column list and at the path. -/
def ReadStreamSql.hasWhere : Bool :=
  sql.clauses.any Clause.isFilter || strContains sql.head " WHERE "

def rowBounds (filter : ReadFilter) : List Condition :=
  (if filter.rowStart > 0 then [.atLeast filter.rowStart] else []) ++
    (if filter.rowEnd ≥ 0 then [.below filter.rowEnd] else [])

def renderRowPartitionClause (filter : ReadFilter) : List Clause :=
  match rowBounds filter with
  | [] => []
  | bound :: rest => .filter bound :: rest.map .conjunct

def renderWhereSqlClause : Option String → List Clause
  | none => []
  | some sql => if sql.isEmpty then [] else [.filter (.restriction sql)]

def appendReadStreamFilters (filter : ReadFilter) (sql : ReadStreamSql) : ReadStreamSql :=
  let sql := { sql with clauses := sql.clauses ++ renderWhereSqlClause filter.whereSql }
  if sql.hasWhere then
    { sql with clauses := sql.clauses ++ (rowBounds filter).map .conjunct }
  else { sql with clauses := sql.clauses ++ renderRowPartitionClause filter }

def buildReadStreamSql (parquetPath selectCols : String) (filter : ReadFilter) : ReadStreamSql :=
  appendReadStreamFilters filter
    { head := "SELECT " ++ selectCols ++ " FROM read_parquet('" ++
        escapeStringLiteralInner parquetPath ++ "', file_row_number = true)" }

/-- One WHERE and then only ANDs. -/
def ReadStreamSql.parses : Bool :=
  match sql.clauses with
  | [] => true
  | first :: rest => first.isFilter && rest.all (fun clause => !clause.isFilter)

def Condition.holds (duckdb : DuckDB) (physical : TableSchema) (row : Row) (fileRowNumber : Nat) :
    Condition → Bool
  | .restriction sql => duckdb.satisfies physical sql row
  | .atLeast bound => bound ≤ fileRowNumber
  | .below bound => (fileRowNumber : Int) < bound

/-- The rows of a file without a column `file_row_number` of its own. -/
def ReadStreamSql.matching (duckdb : DuckDB) (physical : TableSchema)
    (live : List Row) : List Row :=
  (live.zipIdx.filter (fun (row, fileRowNumber) =>
    sql.clauses.all (fun clause => clause.condition.holds duckdb physical row fileRowNumber))).map
      Prod.fst

def projectRow (physical : TableSchema) (names : List String) (row : Row) : Row :=
  if names.isEmpty then row
  else ⟨names.map fun name =>
    row.cells.getD (physical.columns.findIdx (fun column => column.name == name)) .null⟩

/-- `LIMIT` and `OFFSET`, each left out when not positive. -/
def paginate (filter : ReadFilter) (rows : List Row) : List Row :=
  let rows := if filter.offset > 0 then rows.drop filter.offset.toNat else rows
  if filter.rowLimit > 0 then rows.take filter.rowLimit.toNat else rows

namespace DuckDBStorage

/-- `CreateReadStream`. `failure` is an error of DuckDB's own while it runs the query. -/
def createReadStream (st : DuckDBStorage) (duckdb : DuckDB) (id : TableId) (filter : ReadFilter)
    (failure : Option String) : Except Status (List Row) :=
  match st.ensureTableMetaExists id with
  | .error e => .error e
  | .ok files =>
    match files.parquet with
    | none => .ok []
    | some live =>
      let physical := parquetStorageSchema files.schema
      let path := duckdb.parquetPath id
      match planReadStreamProjection physical filter with
      | .error e => .error e
      | .ok (_, selectCols) =>
        let sql := buildReadStreamSql path selectCols filter
        let queryFailed (detail : String) : Except Status (List Row) :=
          .error ⟨.internal, "CreateReadStream: duckdb_query failed for " ++ path ++ ": " ++
            detail⟩
        if !sql.parses then
          queryFailed "Parser Error: syntax error at or near \"AND\""
        else if physical.columns.any fun column =>
            column.name.toList.map Char.toLower = "file_row_number".toList then
          queryFailed "Binder Error: Option file_row_number adds column \"file_row_number\""
        else
          match failure with
          | some detail => queryFailed detail
          | none =>
            .ok ((paginate filter (sql.matching duckdb physical live)).map
              (projectRow physical filter.selectedFields))

end DuckDBStorage

/-- The rows the filter's WHERE body lets through. -/
def ReadFilter.restricts (filter : ReadFilter) (duckdb : DuckDB) (physical : TableSchema)
    (row : Row) : Bool :=
  match filter.whereSql with
  | none => true
  | some sql => sql.isEmpty || duckdb.satisfies physical sql row

variable (duckdb : DuckDB)

theorem renderWhereSqlClause_holds (physical : TableSchema) (filter : ReadFilter)
    (row : Row) (i : Nat) :
    (renderWhereSqlClause filter.whereSql).all
      (fun clause => clause.condition.holds duckdb physical row i) =
        filter.restricts duckdb physical row := by
  unfold ReadFilter.restricts
  cases filter.whereSql with
  | none => rfl
  | some sql =>
    by_cases empty : sql.isEmpty = true
    · simp [renderWhereSqlClause, empty]
    · simp [renderWhereSqlClause, empty, Clause.condition, Condition.holds]

/-- Whichever branch appended the bounds, the clauses say the same about a row. -/
theorem buildReadStreamSql_holds (physical : TableSchema)
    (path selectCols : String) (filter : ReadFilter) (row : Row) (i : Nat) :
    (buildReadStreamSql path selectCols filter).clauses.all
      (fun clause => clause.condition.holds duckdb physical row i) =
        (filter.restricts duckdb physical row &&
          (rowBounds filter).all (fun bound => bound.holds duckdb physical row i)) := by
  unfold buildReadStreamSql appendReadStreamFilters
  simp only [nil_append]
  split
  · simp only [all_append, renderWhereSqlClause_holds, all_map]
    rfl
  · simp only [all_append, renderWhereSqlClause_holds, renderRowPartitionClause]
    cases rowBounds filter with
    | nil => rfl
    | cons bound rest =>
      simp only [all_cons, all_map]
      rfl

/-- A start that is not positive and an end below zero bound nothing. -/
def ReadFilter.inRange (filter : ReadFilter) (i : Nat) : Bool :=
  filter.rowStart ≤ i && (filter.rowEnd < 0 || i < filter.rowEnd)

theorem rowBounds_holds (physical : TableSchema) (filter : ReadFilter) (row : Row) (i : Nat) :
    (rowBounds filter).all (fun bound => bound.holds duckdb physical row i) =
      filter.inRange i := by
  unfold rowBounds ReadFilter.inRange
  rw [Bool.eq_iff_iff]
  split <;> split <;> simp [Condition.holds] <;> omega

/-- The page of the rows that the WHERE body lets through and the range holds, in row order. -/
def ReadFilter.rows (filter : ReadFilter) (duckdb : DuckDB) (physical : TableSchema)
    (live : List Row) : List Row :=
  paginate filter ((live.zipIdx.filter fun (row, i) =>
    filter.restricts duckdb physical row && filter.inRange i).map Prod.fst)

theorem appendReadStreamFilters_parses_iff (filter : ReadFilter) (head : String) :
    (appendReadStreamFilters filter { head }).parses = true ↔
      filter.rowStart ≤ 0 ∧ filter.rowEnd < 0 ∨ filter.whereSql.getD "" ≠ "" ∨
        strContains head " WHERE " = false := by
  have unbounded : rowBounds filter = [] ↔ filter.rowStart ≤ 0 ∧ filter.rowEnd < 0 := by
    simp [rowBounds]
  have restricted : renderWhereSqlClause filter.whereSql =
      if filter.whereSql.getD "" = "" then []
      else [.filter (.restriction (filter.whereSql.getD ""))] := by
    cases filter.whereSql <;> simp [renderWhereSqlClause]
  rw [← unbounded, appendReadStreamFilters]
  simp only [restricted, nil_append, ReadStreamSql.hasWhere, ReadStreamSql.parses]
  by_cases free : filter.whereSql.getD "" = ""
  · cases bounds : rowBounds filter <;> cases strContains head " WHERE " <;>
      simp [free, renderRowPartitionClause, bounds, Clause.isFilter]
  · simp [free, Clause.isFilter]

/-- The stream selects the rows asked for, unless its bounds follow an ` AND ` because a column or
the path holds the word. -/
theorem read_stream_selects_iff (projected physical : TableSchema) (path : String)
    (filter : ReadFilter) :
    ((buildReadStreamSql path (renderColumnIdentList projected) filter).parses = true ∧
        ∀ live, paginate filter ((buildReadStreamSql path (renderColumnIdentList projected)
          filter).matching duckdb physical live) = filter.rows duckdb physical live) ↔
      filter.rowStart ≤ 0 ∧ filter.rowEnd < 0 ∨ filter.whereSql.getD "" ≠ "" ∨
        strContains ("SELECT " ++ renderColumnIdentList projected ++ " FROM read_parquet('" ++
          escapeStringLiteralInner path ++ "', file_row_number = true)") " WHERE " = false := by
  rw [and_iff_left, buildReadStreamSql, appendReadStreamFilters_parses_iff]
  intro live
  unfold ReadStreamSql.matching ReadFilter.rows
  simp only [buildReadStreamSql_holds, rowBounds_holds]

theorem bounds_after_where_column :
    (buildReadStreamSql "t.parquet" (renderColumnIdentList ⟨[{ name := "a WHERE b" }]⟩)
      { rowStart := 1 }).parses = false := by
  decide

theorem zipIdx_slice (keep : α → Bool) (start stop : Nat) (rows : List α) (first : Nat) :
    (((rows.zipIdx first).filter (fun (row, i) =>
      keep row && (decide (start ≤ i) && decide (i < stop)))).map Prod.fst) =
        ((rows.take (stop - first)).drop (start - first)).filter keep := by
  induction rows generalizing first with
  | nil => simp
  | cons row rest ih =>
    have tail := ih (first + 1)
    by_cases below : first < stop
    · rw [show stop - first = (stop - (first + 1)) + 1 by omega, take_succ_cons]
      by_cases reached : start ≤ first
      · have none : start - first = 0 := by omega
        have later : start - (first + 1) = 0 := by omega
        rw [later, drop_zero] at tail
        cases kept : keep row <;> simp [below, reached, kept, tail]
      · rw [show start - first = (start - (first + 1)) + 1 by omega, drop_succ_cons]
        simp [reached, tail]
    · rw [show stop - first = 0 by omega]
      rw [show stop - (first + 1) = 0 by omega] at tail
      simp [below, tail]

namespace DuckDBStorage

theorem createReadStream_ok {st : DuckDBStorage} {duckdb : DuckDB} {id : TableId}
    {filter : ReadFilter} {failure : Option String}
    (found : st.getSchema id = .ok schema) (stop : 0 ≤ filter.rowEnd)
    (answered : st.createReadStream duckdb id filter failure = .ok rows) :
    rows = (paginate filter
      ((((st.liveRows id).take filter.rowEnd.toNat).drop filter.rowStart.toNat).filter
        (filter.restricts duckdb (parquetStorageSchema schema)))).map
          (projectRow (parquetStorageSchema schema) filter.selectedFields) := by
  obtain ⟨files, present, rfl⟩ := Fallible.map_ok_iff.mp found
  have live : st.liveRows id = files.parquet.getD [] := by
    rw [liveRows, ensureTableMetaExists_ok present]
  rw [createReadStream, present] at answered
  cases parquet : files.parquet with
  | none =>
    simp only [parquet] at answered
    cases answered
    simp [live, parquet, paginate]
  | some content =>
    simp only [parquet] at answered
    split at answered
    · cases answered
    split at answered
    · cases answered
    split at answered
    · cases answered
    split at answered
    · cases answered
    · cases answered
      have range (i : Nat) : filter.inRange i =
          (decide (filter.rowStart.toNat ≤ i) && decide (i < filter.rowEnd.toNat)) := by
        rw [ReadFilter.inRange, Bool.eq_iff_iff]
        simp
        omega
      unfold ReadStreamSql.matching
      simp only [buildReadStreamSql_holds, rowBounds_holds, range]
      rw [zipIdx_slice, live, parquet]
      rfl

end DuckDBStorage
end BigQueryEmulator.Storage
