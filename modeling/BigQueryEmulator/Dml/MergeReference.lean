import BigQueryEmulator.Dml.Executor

/-! What MERGE is to do, row by row and without the executor's flags. Every target row and
every source row without a match meets the first WHEN clause of its kind whose condition is
TRUE; all expressions see the rows as they were before the statement. -/
namespace BigQueryEmulator.Dml
open Storage

def holds (st : DuckDBStorage) (condition : Option Expr) (bindings : ColumnBindings) : Bool :=
  match Eval.alone (evalWherePredicate condition bindings) st with
  | .ok value => value
  | .error _ => false

def Errs (st : DuckDBStorage) (condition : Option Expr) (bindings : ColumnBindings) : Prop :=
  ∃ e, Eval.alone (evalWherePredicate condition bindings) st = .error e

structure MergeInput where
  targets : List (ColumnBindings × Row)
  sources : List ColumnBindings

def bindTargets (target : Target) (byId : Int → Option Nat) (rows : List Row) :
    Except Status (List (ColumnBindings × Row)) :=
  rows.mapM fun row => (bindRow target byId row).map fun bindings => (bindings, row)

def loadMerge (merge : MergeStmt) (st : DuckDBStorage) : Except Status MergeInput := do
  let byId ← buildColumnIndexByColumnId merge.target
  let rows ← st.scanRows merge.target.table
  let sources ← Eval.alone merge.fromScan st
  let targets ← bindTargets merge.target byId rows
  return ⟨targets, sources⟩

inductive Fate where
  | kept (row : Row)
  | updated (row : Row)
  | deleted

structure MergeEffect where
  fates : List Fate
  inserts : List Row

namespace Fate

def row? : Fate → Option Row
  | .kept row | .updated row => some row
  | .deleted => none

def isUpdated : Fate → Bool
  | .updated _ => true
  | .kept _ | .deleted => false

def isDeleted : Fate → Bool
  | .deleted => true
  | .kept _ | .updated _ => false

end Fate

def MergeEffect.rows (effect : MergeEffect) : List Row :=
  effect.fates.filterMap Fate.row? ++ effect.inserts

def MergeEffect.stats (effect : MergeEffect) : DmlStats where
  insertedRowCount := effect.inserts.length
  updatedRowCount := effect.fates.countP Fate.isUpdated
  deletedRowCount := effect.fates.countP Fate.isDeleted

section
variable (merge : MergeStmt) (st : DuckDBStorage) (sources : List ColumnBindings)

/-- The target's row joined with each source row for which ON is TRUE. -/
def matchesOf (target : ColumnBindings) : List ColumnBindings :=
  (sources.map (mergeColumnBindings target)).filter (holds st merge.mergeExpr)

/-- The kind of clause a target row meets and the bindings its expressions see. -/
def situationOf (target : ColumnBindings) :
    MatchType × ColumnBindings :=
  match (matchesOf merge st sources target).getLast? with
  | some merged => (.matched, merged)
  | none => (.notMatchedBySource, target)

def applies (kind : MatchType) (bindings : ColumnBindings) (clause : MergeWhen) : Bool :=
  clause.matchType = kind && holds st clause.matchExpr bindings

def unexpectedAction : MatchType → String
  | .matched => "semantic/dml: MATCHED MERGE clause has unexpected action"
  | .notMatchedBySource => "semantic/dml: NOT MATCHED BY SOURCE has unexpected action"
  | .notMatchedByTarget => "semantic/dml: NOT MATCHED BY TARGET requires INSERT"

/-- What a clause does to a target row. A clause over target rows cannot insert. -/
def fateUnder (bindings : ColumnBindings) (row : Row) (clause : MergeWhen) : Except Status Fate :=
  match clause.action with
  | .delete => .ok .deleted
  | .update (.error e) => .error e
  | .update (.ok sets) =>
    (Eval.alone (sets.foldlM (applySet merge.target bindings) row) st).map .updated
  | .insert _ _ => .error ⟨.internal, unexpectedAction clause.matchType⟩

def fateOf (target : ColumnBindings × Row) : Except Status Fate :=
  let (kind, bindings) := situationOf merge st sources target.1
  match merge.whens.find? (applies st kind bindings) with
  | none => .ok (.kept target.2)
  | some clause => fateUnder merge st bindings target.2 clause

def unmatched (targets : List (ColumnBindings × Row)) (source : ColumnBindings) : Bool :=
  targets.all fun target => !holds st merge.mergeExpr (mergeColumnBindings target.1 source)

def insertedUnder (source : ColumnBindings) (clause : MergeWhen) : Except Status Row :=
  match clause.action with
  | .insert columns values =>
    if columns.isEmpty then
      .error ⟨.internal, "semantic/dml: MERGE INSERT clause missing row/columns"⟩
    else do
      let columnIdx ← mergeInsertColumnIndexMapping merge.target.schema columns
      Eval.alone (buildInsertRow merge.target columnIdx values source) st
  | _ => .error ⟨.internal, unexpectedAction .notMatchedByTarget⟩

/-- The first clause, by its place, that inserts for a source row without a match. -/
def clauseOf (source : ColumnBindings) : Option Nat :=
  merge.whens.findIdx? (applies st .notMatchedByTarget source)

variable (input : MergeInput)

def insertedAt (place : Nat × MergeWhen) : List (Except Status Row) :=
  (input.sources.filter fun source =>
    unmatched merge st input.targets source && clauseOf merge st source = some place.1).map
      fun source => insertedUnder merge st source place.2

def insertsOf : List (Except Status Row) :=
  (merge.whens.zipIdx.map Prod.swap).flatMap (insertedAt merge st input)

/-- An action that fails makes the whole statement fail. -/
def mergeEffect : Except Status MergeEffect := do
  let fates ← input.targets.mapM (fateOf merge st input.sources)
  let inserts ← (insertsOf merge st input).mapM id
  return ⟨fates, inserts⟩

end
end BigQueryEmulator.Dml
