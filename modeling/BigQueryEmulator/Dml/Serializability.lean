import BigQueryEmulator.Dml.Executor

/-! Concurrent statements on one store. The mutex makes each storage call atomic, not a
statement: where nothing changes what a statement has read before it writes, a run equals
a serial one, and otherwise an overwrite discards what came in between. -/
namespace BigQueryEmulator.Dml
open Storage Serial Transition List

def idle (st : DuckDBStorage) : Pool DuckDBStorage (Except Status DmlResult) Request :=
  ⟨st, fun _ => none, []⟩

def runInOrder (st : DuckDBStorage) (requests : List Request) :
    DuckDBStorage × List (Except Status DmlResult) :=
  serial Request.execution st requests

theorem writeThen_append
    (acknowledged : ((writeThen (fun st => st.appendRows table rows env) work).run st).2 = .ok result)
    :
    ((writeThen (fun st => st.appendRows table rows env) work).run st).1.liveRows table =
        st.liveRows table ++ rows ∧
      ∃ after, Eval.alone work after = .ok result := by
  simp only [writeThen, Transaction.run] at acknowledged ⊢
  cases stored : st.appendRows table rows env with
  | mk after written =>
    cases written with
    | error e => simp only [stored] at acknowledged; cases acknowledged
    | ok _ =>
      have live := (st.appendRows_writes table rows env).ok (by rw [stored]) table
      simp only [stored] at acknowledged live ⊢
      exact ⟨live, after, acknowledged⟩

/-- What an acknowledged append has done: an append call adds its rows at the end of the
table, an INSERT as many rows as it answers. -/
def AddsRows (request : Request) (result : DmlResult) (before after : DuckDBStorage) : Prop :=
  match request.statement with
  | .append table rows => after.liveRows table = before.liveRows table ++ rows
  | .insert stmt => ∃ rows, after.liveRows stmt.target.table =
      before.liveRows stmt.target.table ++ rows ∧ rows.length = result.stats.insertedRowCount
  | _ => True

theorem acknowledged_addsRows (acknowledged : (request.execution.run st).2 = .ok result) :
    AddsRows request result st (request.execution.run st).1 := by
  obtain ⟨statement, env⟩ := request
  cases statement with
  | append table rows => exact (writeThen_append acknowledged).1
  | insert stmt =>
    simp only [Request.execution, executeInsert, readThen_run, AddsRows] at acknowledged ⊢
    cases planned : Eval.alone (planInsert stmt) st with
    | error e => simp only [planned] at acknowledged; cases acknowledged
    | ok plan =>
      obtain ⟨rows, answer⟩ := plan
      have count := planInsert_count planned
      simp only [planned] at acknowledged ⊢
      split at acknowledged
      · rename_i empty
        cases acknowledged
        rw [if_pos empty, count, isEmpty_iff.mp empty]
        exact ⟨[], (append_nil _).symm, rfl⟩
      · rename_i nonempty
        rw [if_neg nonempty]
        obtain ⟨live, after, answered⟩ := writeThen_append acknowledged
        cases answered
        exact ⟨rows, live, count.symm⟩
  | update _ | delete _ | merge _ | overwrite _ _ => trivial

/-- Every run in which no statement writes after something it has read was changed leaves
the rows of a serial run, with the same answers, and each acknowledged append adds its rows
at its place in that order. -/
theorem interleaving_serializes (st : DuckDBStorage) (steps : List (Step Request))
    (undisturbed : Admits Pool.Undisturbed (Pool.step Request.execution) (idle st) steps) :
    let last := execute (Pool.step Request.execution) (idle st) steps
    ∃ order : List (Request × Except Status DmlResult), order.Perm last.finished ∧
      runInOrder st (order.map Prod.fst) = (last.state, order.map Prod.snd) ∧
      ∀ before request result after, order = before ++ (request, .ok result) :: after →
        AddsRows request result (runInOrder st (before.map Prod.fst)).1
          (runInOrder st (before.map Prod.fst ++ [request])).1 := by
  have serialized := Pool.serializable undisturbed
  refine ⟨_, List.Perm.refl _, serialized.finished, ?_⟩
  intro before request result after split
  have answers := congrArg Prod.snd serialized.finished
  rw [idle] at split
  rw [split] at answers
  have appended : (runInOrder st (before.map Prod.fst ++ [request])).1 =
      (request.execution.run (runInOrder st (before.map Prod.fst)).1).1 := by
    rw [runInOrder, serial_append]
    rfl
  rw [appended]
  exact acknowledged_addsRows (serial_result answers)

def counters : TableId := ⟨"p", "d", "counters"⟩

def oneCounter : DuckDBStorage where
  datasetExists := fun _ _ => true
  tables := fun id =>
    if id = counters then
      some { schema := ⟨[{ name := "n" }]⟩, parquet := some [⟨[.int64 1]⟩], index := none }
    else none

/-- `UPDATE counters SET n = 10 WHERE TRUE`. -/
def setToTen : Request where
  statement := .update {
    target := { table := counters, schema := ⟨[{ name := "n" }]⟩, scan := [⟨1, "n"⟩] }
    sets := [⟨0, [], fun _ => return .int64 10⟩] }
  env := { nowMs := 1000 }

def appendTwo : Request where
  statement := .append counters [⟨[.int64 2]⟩]
  env := { nowMs := 2000 }

/-- The append arrives while the UPDATE is under way and is stored after it. -/
def appendAfterwards : List (Step Request) :=
  [.start 0 setToTen, .advance 0, .start 1 appendTwo, .advance 0, .advance 1]

theorem appendAfterwards_undisturbed :
    Admits Pool.Undisturbed (Pool.step Request.execution) (idle oneCounter) appendAfterwards := by
  refine ⟨trivial, ?_, trivial, ?_, ?_, trivial⟩
  · rintro entry ⟨⟩ read ⟨⟩
  · rintro entry ⟨⟩ read member
    rw [mem_singleton.mp member]
    rfl
  · rintro entry ⟨⟩ read ⟨⟩

theorem appendAfterwards_serializes :
    (execute (Pool.step Request.execution) (idle oneCounter) appendAfterwards).state.liveRows
        counters = [⟨[.int64 10]⟩, ⟨[.int64 2]⟩] ∧
      ∃ order : List (Request × Except Status DmlResult),
        order.Perm
          (execute (Pool.step Request.execution) (idle oneCounter) appendAfterwards).finished ∧
        runInOrder oneCounter (order.map Prod.fst) =
          ((execute (Pool.step Request.execution) (idle oneCounter) appendAfterwards).state,
            order.map Prod.snd) := by
  obtain ⟨order, same, serial, -⟩ :=
    interleaving_serializes oneCounter appendAfterwards appendAfterwards_undisturbed
  exact ⟨rfl, order, same, serial⟩

/-- The append is stored between the scan and the overwrite of the UPDATE. Both are
acknowledged, the appended row is gone, and neither order explains the single row left. -/
theorem append_lost_to_update :
    let last := execute (Pool.step Request.execution) (idle oneCounter)
      [.start 0 setToTen, .advance 0, .start 1 appendTwo, .advance 1, .advance 0]
    last.finished =
        [(appendTwo, .ok { stats := {} }), (setToTen, .ok { stats := { updatedRowCount := 1 } })] ∧
      last.state.liveRows counters = [⟨[.int64 10]⟩] ∧
      ∀ order : List Request, order.Perm [appendTwo, setToTen] →
        (runInOrder oneCounter order).1.liveRows counters ≠ last.state.liveRows counters := by
  refine ⟨rfl, rfl, ?_⟩
  intro order same equal
  have length := congrArg length equal
  rcases perm_pair.mp same with rfl | rfl <;> exact absurd length (by decide)

end BigQueryEmulator.Dml
