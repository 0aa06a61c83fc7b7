import BigQueryEmulator.Dml.Merging

/-! What a whole MERGE does. It has the effect of the reference, in which a condition that
fails counts as FALSE: an evaluation error of ON or of a WHEN condition is never reported,
whereas UPDATE and DELETE fail with the error of their WHERE. -/
namespace BigQueryEmulator.Dml
open Storage Serial Fallible List

section
variable {merge : MergeStmt} {st : DuckDBStorage}

theorem loadMergeParticipants_eq (target : Target) (byId : Int → Option Nat) (rows : List Row)
    (sources : List ColumnBindings) :
    loadMergeParticipants target byId rows sources =
      (bindTargets target byId rows).map fun targets =>
        ⟨targets.map fun target => { targetBind := target.1, row := target.2 },
          sources.map fun sourceBind => { sourceBind }⟩ := by
  have bound : (rows.mapM fun row => (bindRow target byId row).map fun targetBind =>
        ({ targetBind, row } : TargetMergeState)) =
      (bindTargets target byId rows).map fun targets =>
        targets.map fun target => { targetBind := target.1, row := target.2 } := by
    unfold bindTargets
    induction rows with
    | nil => rfl
    | cons row rest ih =>
      rw [mapM_cons, mapM_cons, ih]
      cases bindRow target byId row with
      | error e => rfl
      | ok bindings =>
        cases rest.mapM fun row => (bindRow target byId row).map fun bindings =>
            (bindings, row) with
        | error e => rfl
        | ok others => rfl
  unfold loadMergeParticipants
  rw [bound]
  cases bindTargets target byId rows <;> rfl

theorem correlate_loaded (input : MergeInput) :
    Eval.alone (correlateMergeTargetsAndSources merge.mergeExpr
        ⟨input.targets.map fun target => { targetBind := target.1, row := target.2 },
          input.sources.map fun sourceBind => { sourceBind }⟩) st = .ok
      ⟨input.targets.map (correlatedTarget merge st input.sources),
        input.sources.map (correlatedSource merge st input.targets)⟩ := by
  rw [correlate_alone, map_map, map_map]
  refine congrArg Except.ok (congrArg₂ MergeParticipants.mk ?_ ?_)
  · refine map_congr_left fun target _ => ?_
    rw [Function.comp_apply, foldl_map]
    exact foldl_meet merge input.sources target.1 target.2
  · refine map_congr_left fun source _ => ?_
    simp [markMatched, correlatedSource, unmatched, any_map, Function.comp_def,
      not_all_eq_any_not]

theorem planMerge_alone :
    Eval.alone (planMerge merge) st = (loadMerge merge st >>= fun input =>
      checkMatchedTargetMultiMatch merge.whens
        (input.targets.map (correlatedTarget merge st input.sources)) >>= fun _ =>
      (sweepAll merge st input).map fun after => .counted after.1 after.2.1 after.2.2) := by
  unfold planMerge loadMerge mergeRows
  simp only [alone_bind, alone_lift, alone_scanAllRows, loadMergeParticipants_eq]
  cases buildColumnIndexByColumnId merge.target with
  | error e => rfl
  | ok byId =>
    cases st.scanRows merge.target.table with
    | error e => rfl
    | ok rows =>
      cases Eval.alone merge.fromScan st with
      | error e => rfl
      | ok sources =>
        simp only [bind, Except.bind]
        cases bindTargets merge.target byId rows with
        | error e => rfl
        | ok targets =>
          dsimp only [Except.map]
          rw [correlate_loaded ⟨targets, sources⟩]
          dsimp only
          rw [applyMergeWhenClauses_alone (by simp [tallied, countP_map, correlatedTarget,
            TargetMergeState.isUpdated, Function.comp_def])]
          rfl

/-- Some target row has several matches and a clause would change it. -/
def TooManyMatches (merge : MergeStmt) (st : DuckDBStorage) (input : MergeInput) : Prop :=
  merge.whens.any matchedMutates ∧
    ∃ target ∈ input.targets, 1 < (matchesOf merge st input.sources target.1).length

theorem checkMatched_ok_iff :
    checkMatchedTargetMultiMatch merge.whens
        (input.targets.map (correlatedTarget merge st input.sources)) = .ok () ↔
      ¬ TooManyMatches merge st input := by
  have several : (input.targets.map (correlatedTarget merge st input.sources)).any
      (fun target => target.matchCount > 1) = true ↔
      ∃ target ∈ input.targets, 1 < (matchesOf merge st input.sources target.1).length := by
    rw [any_map, any_eq_true]
    exact exists_congr fun target => and_congr_right fun _ => decide_eq_true_iff
  rw [TooManyMatches, ← several, ← Bool.and_eq_true, checkMatchedTargetMultiMatch]
  split
  · rename_i both
    constructor
    · rintro ⟨⟩
    · exact fun none => absurd both none
  · rename_i none
    exact ⟨fun _ => none, fun _ => rfl⟩

theorem executeMerge_run (env : MutationEnv) (loaded : loadMerge merge st = .ok input)
    (single : ¬ TooManyMatches merge st input) :
    match mergeEffect merge st input with
    | .ok effect => (executeMerge merge env).run st =
        ((st.overwriteRows merge.target.table effect.rows env).1,
          (st.overwriteRows merge.target.table effect.rows env).2.map
            fun _ => { stats := effect.stats })
    | .error _ => ∃ e, (executeMerge merge env).run st = (st, .error e) := by
  have planned : Eval.alone (planMerge merge) st =
      (sweepAll merge st input).map fun after => .counted after.1 after.2.1 after.2.2 := by
    rw [planMerge_alone, loaded]
    simp only [bind, Except.bind, checkMatched_ok_iff.mpr single]
  rw [executeMerge, readThen_run, planned]
  cases swept : sweepAll merge st input with
  | ok after =>
    have reached : mergeEffect merge st input =
        .ok ⟨after.1.map TargetMergeState.fate, after.2.2⟩ :=
      sweepAll_outcome.mp ⟨after, swept, rfl, rfl⟩
    have outcome := counted_outcome after.1 after.2.1 after.2.2
    rw [reached]
    simp only [Except.map, writeThen_run, outcome.1, outcome.2]
    split <;> simp [*]
  | error e =>
    cases reference : mergeEffect merge st input with
    | error _ => exact ⟨e, rfl⟩
    | ok effect =>
      obtain ⟨after, ok, -⟩ := sweepAll_outcome.mpr reference
      cases swept.symm.trans ok

/-- A clause is tried for a row when it is of the row's kind and none before it applies. -/
def Tried (merge : MergeStmt) (st : DuckDBStorage) (kind : MatchType) (bindings : ColumnBindings)
    (clause : MergeWhen) : Prop :=
  clause.matchType = kind ∧ ∃ before after, merge.whens = before ++ clause :: after ∧
    ∀ earlier ∈ before, applies st kind bindings earlier = false

/-- ON fails on some pair of rows, or a WHEN condition on a row it is tried for. -/
def ConditionFails (merge : MergeStmt) (st : DuckDBStorage) (input : MergeInput) : Prop :=
  (∃ target ∈ input.targets, ∃ source ∈ input.sources,
    Errs st merge.mergeExpr (mergeColumnBindings target.1 source)) ∨
  (∃ target ∈ input.targets, ∃ clause,
    let (kind, bindings) := situationOf merge st input.sources target.1
    Tried merge st kind bindings clause ∧ Errs st clause.matchExpr bindings) ∨
  (∃ source ∈ input.sources, unmatched merge st input.targets source ∧ ∃ clause,
    Tried merge st .notMatchedByTarget source clause ∧ Errs st clause.matchExpr source)

/-- The statement has another reason to fail: several matches for a row to be changed, an
action of the reference that fails, or storage that does not take the new rows. -/
def FailsOtherwise (merge : MergeStmt) (env : MutationEnv) (st : DuckDBStorage)
    (input : MergeInput) : Prop :=
  TooManyMatches merge st input ∨
    match mergeEffect merge st input with
    | .error _ => True
    | .ok effect => ∃ e, (st.overwriteRows merge.target.table effect.rows env).2 = .error e

theorem executeMerge_error_iff (loaded : loadMerge merge st = .ok input) :
    (∃ e, ((executeMerge merge env).run st).2 = .error e) ↔ FailsOtherwise merge env st input := by
  unfold FailsOtherwise
  by_cases several : TooManyMatches merge st input
  · refine iff_of_true ?_ (.inl several)
    rw [executeMerge, readThen_run, planMerge_alone, loaded]
    cases checked : checkMatchedTargetMultiMatch merge.whens
        (input.targets.map (correlatedTarget merge st input.sources)) with
    | ok _ => exact absurd several (checkMatched_ok_iff.mp checked)
    | error e => exact ⟨e, by simp only [bind, Except.bind, checked]⟩
  · have ran := executeMerge_run env loaded several
    rw [or_iff_right several]
    cases reference : mergeEffect merge st input with
    | error e =>
      rw [reference] at ran
      obtain ⟨e', failed⟩ := ran
      exact iff_of_true ⟨e', by rw [failed]⟩ trivial
    | ok effect =>
      rw [reference] at ran
      rw [ran]
      dsimp only
      cases (st.overwriteRows merge.target.table effect.rows env).2 <;> simp [Except.map]

/-- An evaluation error of ON or of a WHEN condition is reported, with the table unchanged,
exactly if the statement fails for another reason. -/
theorem condition_error_reported_iff (merge : MergeStmt) (env : MutationEnv) (st : DuckDBStorage) :
    (∀ input, loadMerge merge st = .ok input → ConditionFails merge st input →
      (∃ e, ((executeMerge merge env).run st).2 = .error e) ∧
        ((executeMerge merge env).run st).1.liveRows merge.target.table =
          st.liveRows merge.target.table) ↔
    (∀ input, loadMerge merge st = .ok input → ConditionFails merge st input →
      FailsOtherwise merge env st input) := by
  refine forall_congr' fun input => forall_congr' fun loaded => forall_congr' fun fails => ?_
  rw [← executeMerge_error_iff loaded]
  constructor
  · exact fun reported => reported.1
  · rintro ⟨e, failed⟩
    exact ⟨⟨e, failed⟩, executeMerge_clean merge e failed⟩

end

def stock : TableId := ⟨"p", "d", "stock"⟩

def stockSchema : TableSchema := ⟨[{ name := "id" }, { name := "n" }]⟩

def threeItems : DuckDBStorage where
  datasetExists := fun _ _ => true
  tables := fun id =>
    if id = stock then
      some { schema := stockSchema, index := none
             parquet := some [⟨[.int64 1, .int64 10]⟩, ⟨[.int64 2, .int64 20]⟩, ⟨[.int64 3, .int64 30]⟩] }
    else none

def numberOf (bindings : ColumnBindings) (id : Int) : Option Int :=
  match bindings id with
  | some (.int64 n) => some n
  | _ => none

def column (id : Int) : Expr := fun bindings => return (bindings id).getD .null

def sameNumber (left right : Int) : Expr := fun bindings =>
  return .bool (numberOf bindings left == numberOf bindings right)

def isNumber (id : Int) (n : Int) : Expr := fun bindings =>
  return .bool (numberOf bindings id == some n)

def delivery (id n : Int) : ColumnBindings := fun columnId =>
  if columnId = 3 then some (.int64 id) else if columnId = 4 then some (.int64 n) else none

/-- Deliveries of (2, 5) and (4, 7): an item that is delivered gets the new number, a new item
is inserted, and of the items not delivered the one with id 1 is deleted. -/
def restock : MergeStmt where
  target := { table := stock, schema := stockSchema, scan := [⟨1, "id"⟩, ⟨2, "n"⟩] }
  fromScan := return [delivery 2 5, delivery 4 7]
  mergeExpr := some (sameNumber 1 3)
  whens := [
    { matchType := .matched, action := .update (.ok [{ columnIdx := 1, setExpr := column 4 }]) },
    { matchType := .notMatchedByTarget, action := .insert ["id", "n"] [column 3, column 4] },
    { matchType := .notMatchedBySource, matchExpr := some (isNumber 1 1), action := .delete }]

/-- `ON 10 / id = sid` on a row with id 0 and a source row. -/
def emptyShelf : DuckDBStorage where
  datasetExists := fun _ _ => true
  tables := fun id =>
    if id = stock then
      some { schema := stockSchema, index := none, parquet := some [⟨[.int64 0, .int64 10]⟩] }
    else none

def divideByItem : Expr := fun bindings =>
  match numberOf bindings 1 with
  | some 0 => throw ⟨.outOfRange, "division by zero: 10 / 0"⟩
  | _ => return .bool false

def restockByQuotient : MergeStmt where
  target := restock.target
  fromScan := return [delivery 4 7]
  mergeExpr := some divideByItem
  whens := [
    { matchType := .notMatchedByTarget, action := .insert ["id", "n"] [column 3, column 4] }]

/-- ON fails on the only pair of rows, and MERGE answers that it has inserted the source row. -/
theorem inserted_despite_error :
    (∃ input, loadMerge restockByQuotient emptyShelf = .ok input ∧
      ConditionFails restockByQuotient emptyShelf input) ∧
    ((executeMerge restockByQuotient { nowMs := 1000 }).run emptyShelf).2 =
      .ok { stats := ⟨1, 0, 0⟩ } ∧
    ((executeMerge restockByQuotient { nowMs := 1000 }).run emptyShelf).1.liveRows stock =
      [⟨[.int64 0, .int64 10]⟩, ⟨[.int64 4, .int64 7]⟩] := by
  refine ⟨⟨_, rfl, .inl ⟨_, .head _, _, .head _, ⟨.outOfRange, "division by zero: 10 / 0"⟩, rfl⟩⟩,
    rfl, rfl⟩

end BigQueryEmulator.Dml
