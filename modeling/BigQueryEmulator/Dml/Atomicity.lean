import BigQueryEmulator.Dml.Executor

/-! What a failed statement leaves behind. Everything that can fail comes before the one
storage write, except the THEN RETURN of UPDATE and DELETE: it is evaluated on the table
after the write, and its error does not take the write back. INSERT evaluates it first. -/
namespace BigQueryEmulator.Dml
open Storage Serial

def Request.table (request : Request) : TableId :=
  match request.statement with
  | .insert stmt => stmt.target.table
  | .update stmt => stmt.target.table
  | .delete stmt => stmt.target.table
  | .merge stmt => stmt.target.table
  | .append table _ | .overwrite table _ => table

def StoredThenFails (written : DuckDBStorage × Except Status Unit) (work : Eval DmlResult) : Prop :=
  written.2 = .ok () ∧ ∃ e, Eval.alone work written.1 = .error e

/-- An UPDATE or DELETE that changes rows, whose new rows storage accepts and whose THEN
RETURN then fails. -/
def ReturningFails (request : Request) (st : DuckDBStorage) : Prop :=
  match request.statement with
  | .delete del => ∃ deletion, Eval.alone (planDelete del) st = .ok deletion ∧
      deletion.deleted ≠ [] ∧
      StoredThenFails (st.overwriteRows del.target.table deletion.kept request.env)
        (finalizeMutateWithReturning del.target del.returning "DELETE" deletion.deleted
          { deletedRowCount := deletion.deleted.length })
  | .update upd => ∃ rewriting, Eval.alone (planUpdate upd) st = .ok rewriting ∧
      rewriting.updated ≠ 0 ∧ rewriting.rewritten ≠ st.liveRows upd.target.table ∧
      StoredThenFails (st.overwriteRows upd.target.table rewriting.rewritten request.env)
        (finalizeMutateWithReturning upd.target upd.returning "UPDATE" rewriting.returning
          { updatedRowCount := rewriting.updated })
  | _ => False

section
variable {st : DuckDBStorage} {table : TableId} {rows : List Row} {env : MutationEnv}
  {work : Eval DmlResult} {e : Status}

theorem writeThen_run (write : DuckDBStorage → DuckDBStorage × Except Status Unit)
    (work : Eval DmlResult) (st : DuckDBStorage) :
    (writeThen write work).run st = ((write st).1,
      match (write st).2 with
      | .error e => .error e
      | .ok () => Eval.alone work (write st).1) := by
  simp only [writeThen, Transaction.run]
  rcases write st with ⟨after, written⟩
  cases written <;> rfl

variable (st table) in
/-- Where the statement fails, the table has the rows that it had. -/
def FailsClean (execution : Execution) : Prop :=
  ∀ e, (execution.run st).2 = .error e → (execution.run st).1.liveRows table = st.liveRows table

/-- A write that is refused, or that stores the rows of the table again, does no harm. -/
theorem writeThen_clean_iff (writes : DuckDBStorage.Writes st table rows (write st)) :
    FailsClean st table (writeThen write work) ↔
      rows = st.liveRows table ∨ ¬ StoredThenFails (write st) work := by
  unfold FailsClean StoredThenFails
  rw [writeThen_run]
  cases written : (write st).2 with
  | error refused =>
    exact iff_of_true (fun _ _ => writes.error refused written table) (.inr fun late => nomatch late.1)
  | ok _ =>
    have live := writes.ok written table
    rw [if_pos rfl] at live
    simp only [live, true_and]
    exact exists_imp.symm.trans imp_iff_or_not

theorem writeThen_answered (writes : DuckDBStorage.Writes st table rows (write st))
    (result : DmlResult) : FailsClean st table (writeThen write (pure result)) :=
  (writeThen_clean_iff writes).mpr (.inr fun late => nomatch late.2.choose_spec)

/-- An error before the write leaves storage as it was. -/
theorem readThen_clean_iff {read : Eval α} :
    FailsClean st table (readThen read next) ↔
      ∀ value, Eval.alone read st = .ok value → FailsClean st table (next value) := by
  unfold FailsClean
  rw [readThen_run]
  cases Eval.alone read st with
  | error refused => exact iff_of_true (fun _ _ => rfl) nofun
  | ok value => simp

end

section
variable {st : DuckDBStorage}

def sparedByDelete (target : Target) (byId : Int → Option Nat) (whereExpr : Option Expr)
    (st : DuckDBStorage) (row : Row) : Bool :=
  match Eval.alone (do
    let bindings ← bindRow target byId row
    evalWherePredicate whereExpr bindings) st with
  | .ok matched => !matched
  | .error _ => false

theorem deleteRow_ok (ok : Eval.alone (deleteRow target byId whereExpr sofar row) st = .ok made) :
    made.kept = sofar.kept ++ [row].filter (sparedByDelete target byId whereExpr st) ∧
      made.deleted.length = sofar.deleted.length +
        [row].countP (!sparedByDelete target byId whereExpr st ·) := by
  obtain ⟨bindings, bound, ok⟩ := alone_bind_ok ok
  obtain ⟨matched, decided, ok⟩ := alone_bind_ok ok
  have spared : sparedByDelete target byId whereExpr st row = !matched := by
    rw [sparedByDelete, alone_bind, bound]
    change (match Eval.alone (evalWherePredicate whereExpr bindings) st with
      | .ok matched => !matched
      | .error _ => false) = _
    rw [decided]
  cases matched with
  | true | false =>
    cases ok
    simp [spared]

theorem deleteRows_ok
    (ok : Eval.alone (deleteRows target byId whereExpr rows) st = .ok deletion) :
    deletion.kept = rows.filter (sparedByDelete target byId whereExpr st) ∧
      deletion.deleted.length = rows.countP (!sparedByDelete target byId whereExpr st ·) := by
  rw [deleteRows, alone_foldlM] at ok
  suffices collected : ∀ sofar : Deletion,
      rows.foldlM (fun sofar row => Eval.alone (deleteRow target byId whereExpr sofar row) st) sofar =
        .ok deletion →
      deletion.kept = sofar.kept ++ rows.filter (sparedByDelete target byId whereExpr st) ∧
        deletion.deleted.length = sofar.deleted.length +
          rows.countP (!sparedByDelete target byId whereExpr st ·) by
    simpa using collected {} ok
  clear ok
  induction rows with
  | nil =>
    rintro sofar ⟨⟩
    simp
  | cons row rest ih =>
    intro sofar ok
    obtain ⟨next, stepped, ok⟩ := bind_ok ok
    obtain ⟨kept, count⟩ := deleteRow_ok stepped
    rw [(ih next ok).1, (ih next ok).2, kept, count, List.append_assoc, ← List.filter_append,
      Nat.add_assoc, ← List.countP_append]
    exact ⟨rfl, rfl⟩

theorem scanRows_live (ok : st.scanRows table = .ok rows) : rows = st.liveRows table := by
  obtain ⟨files, found, rfl⟩ := Fallible.map_ok_iff.mp ok
  rw [DuckDBStorage.liveRows, DuckDBStorage.ensureTableMetaExists_ok found]

theorem planDelete_shrinks (planned : Eval.alone (planDelete del) st = .ok deletion)
    (some : deletion.deleted ≠ []) : deletion.kept ≠ st.liveRows del.target.table := by
  obtain ⟨byId, _, planned⟩ := alone_bind_ok planned
  obtain ⟨rows, scanned, planned⟩ := alone_bind_ok planned
  obtain ⟨found, deleted, planned⟩ := alone_bind_ok planned
  obtain ⟨_, _, planned⟩ := alone_bind_ok planned
  cases planned
  obtain ⟨kept, count⟩ := deleteRows_ok deleted
  rw [← scanRows_live scanned, kept]
  intro same
  have none : rows.countP (!sparedByDelete del.target byId del.whereExpr st ·) = 0 := by
    simpa [List.countP_eq_zero] using List.filter_eq_self.mp same
  exact some (List.length_eq_zero_iff.mp (count.trans none))

end

section
variable {st : DuckDBStorage} {env : MutationEnv} {e : Status}

theorem executeInsert_clean (ins : InsertStmt) :
    FailsClean st ins.target.table (executeInsert ins env) := by
  refine readThen_clean_iff.mpr ?_
  rintro ⟨rows, result⟩ -
  dsimp only
  split
  · exact nofun
  · exact writeThen_answered (st.appendRows_writes ..) result

theorem executeMerge_clean (merge : MergeStmt) :
    FailsClean st merge.target.table (executeMerge merge env) :=
  readThen_clean_iff.mpr fun _ _ => writeThen_answered (st.overwriteRows_writes ..) _

/-- A failed statement leaves its table's rows as they were, exactly unless a THEN RETURN
fails after an UPDATE or DELETE has stored what it changed. -/
theorem failed_statement_unchanged_iff (request : Request) (st : DuckDBStorage) :
    (∀ e, (request.execution.run st).2 = .error e →
      (request.execution.run st).1.liveRows request.table = st.liveRows request.table) ↔
    ¬ ReturningFails request st := by
  obtain ⟨statement, env⟩ := request
  cases statement with
  | insert ins => exact iff_of_true (executeInsert_clean ins) id
  | update upd =>
    refine readThen_clean_iff.trans (Iff.trans (forall_congr' fun rewriting => ?_) not_exists.symm)
    rw [not_and]
    refine imp_congr_right fun _ => ?_
    split
    next none => exact iff_of_true nofun fun late => late.1 none
    next some =>
      -- one that leaves every row as it was stores the same rows again
      rw [writeThen_clean_iff (st.overwriteRows_writes ..), and_iff_right some, not_and_or, not_not]
      rfl
  | delete del =>
    refine readThen_clean_iff.trans (Iff.trans (forall_congr' fun deletion => ?_) not_exists.symm)
    rw [not_and]
    refine imp_congr_right fun planned => ?_
    split
    next none => exact iff_of_true nofun fun late => late.1 (by simpa using none)
    next some =>
      have some : deletion.deleted ≠ [] := by simpa using some
      rw [writeThen_clean_iff (st.overwriteRows_writes ..), and_iff_right some]
      exact or_iff_right (planDelete_shrinks planned some)
  | merge merge => exact iff_of_true (executeMerge_clean merge) id
  | append table rows => exact iff_of_true (writeThen_answered (st.appendRows_writes ..) _) id
  | overwrite table rows =>
    refine iff_of_true (readThen_clean_iff.mpr fun rows _ => ?_) id
    exact writeThen_answered (st.overwriteRows_writes ..) _

def visits : TableId := ⟨"p", "d", "visits"⟩

def twoVisits : DuckDBStorage where
  datasetExists := fun _ _ => true
  tables := fun id =>
    if id = visits then
      some { schema := ⟨[{ name := "n" }]⟩, parquet := some [⟨[.int64 0]⟩, ⟨[.int64 1]⟩],
             index := none }
    else none

def zeroVisits : Expr := fun bindings =>
  match bindings 1 with
  | some (.int64 n) => return .bool (n == 0)
  | _ => return .null

/-- `DELETE FROM visits WHERE n = 0 THEN RETURN 1 / n`. -/
def deleteReturningQuotient : Request where
  statement := .delete {
    target := { table := visits, schema := ⟨[{ name := "n" }]⟩, scan := [⟨1, "n"⟩] }
    whereExpr := some zeroVisits
    returning := some {
      schema := .ok ⟨[{ name := "q" }]⟩
      outputColumns := [⟨2, "q"⟩]
      exprs := fun id => if id = 2 then some fun _ => throw ⟨.outOfRange, "division by zero: 1 / 0"⟩
        else none } }
  env := { nowMs := 1000 }

/-- The DELETE answers with the error of its THEN RETURN, and the row is gone. -/
theorem deleted_despite_error :
    (deleteReturningQuotient.execution.run twoVisits).2 =
        .error ⟨.outOfRange, "division by zero: 1 / 0"⟩ ∧
      twoVisits.liveRows visits = [⟨[.int64 0]⟩, ⟨[.int64 1]⟩] ∧
      (deleteReturningQuotient.execution.run twoVisits).1.liveRows visits = [⟨[.int64 1]⟩] :=
  ⟨rfl, rfl, rfl⟩

end
end BigQueryEmulator.Dml
