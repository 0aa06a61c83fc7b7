import BigQueryEmulator.Semantic.JoinScan
import BigQueryEmulator.Text.Search

/-! The hash path of a join returns what the nested loop returns. -/
namespace BigQueryEmulator.Semantic
open Storage (Status)
open Fallible List

def JoinScan.onTrue (join : JoinScan) (ctx : ExprContext) (merged : ColumnBindings) : Bool :=
  match join.joinExpr with
  | none => true
  | some expr => decide (evalExpr ctx merged expr = .ok (.bool true))

/-- What a join is: the pairs for which ON is TRUE, in left-major right-minor order, with a
null-extended row for each left row of a LEFT join that has none. -/
def JoinScan.joined (join : JoinScan) (ctx : ExprContext) (leftRows rightRows : List ColumnBindings) :
    List ColumnBindings :=
  leftRows.flatMap fun leftRow =>
    join.outputOf leftRow ((rightRows.map leftRow.insertAll).filter (join.onTrue ctx))

/-- Rows of the two scans, with ids of their own, and a condition as the analyzer resolves it:
`=` compares columns of one type. -/
structure JoinScan.Resolved (join : JoinScan) (leftRows rightRows : List ColumnBindings) : Prop where
  leftBound : ∀ row ∈ leftRows, ∀ column ∈ join.leftColumns,
    ∃ value, row column.id = some value ∧ value.kind = column.kind
  rightBound : ∀ row ∈ rightRows, ∀ column ∈ join.rightColumns,
    ∃ value, row column.id = some value ∧ value.kind = column.kind
  apart : ∀ row ∈ leftRows, ∀ column ∈ join.rightColumns, row column.id = none
  named : ∀ expr ∈ join.joinExpr, ∀ args : Fin 2 → Expr,
    .call "$equal" args ∈ flattenAndConjuncts expr → ∀ lhs rhs, args 0 = .columnRef lhs →
      args 1 = .columnRef rhs → lhs.column.kind = rhs.column.kind ∧
        ∀ column ∈ join.leftColumns ++ join.rightColumns,
          (column.id = lhs.column.id → column = lhs.column) ∧
          (column.id = rhs.column.id → column = rhs.column)

def JoinScan.Evaluates (join : JoinScan) (ctx : ExprContext)
    (leftRows rightRows : List ColumnBindings) : Prop :=
  ∀ expr ∈ join.joinExpr, ∀ conjunct ∈ flattenAndConjuncts expr, ∀ leftRow ∈ leftRows,
    ∀ rightRow ∈ rightRows, ∃ truth,
      evalBoolExpr ctx (leftRow.insertAll rightRow) conjunct = .ok truth

/-- The values that can be join keys of some rows. -/
def HashKey (rows : List ColumnBindings) (value : Value) : Prop :=
  value.isNull = false ∧ hashableJoinKeyType value.kind = true ∧ ∃ row ∈ rows, ∃ id, row id = some value

/-- The printed form of a key determines it among the keys of its type, and does not hold the
separator. -/
structure Printing (print : Value → String) (keys : Value → Prop) : Prop where
  determines : ∀ a b, keys a → keys b → a.kind = b.kind → print a = print b → a = b
  separated : ∀ value, keys value → '\x1e' ∉ (print value).toList

section
variable {included : ColumnBindings → Except Status Bool} {truth : ColumnBindings → Bool}
variable {leftRow : ColumnBindings} {rows : List ColumnBindings}

theorem includedPairs_ok
    (evaluated : ∀ row ∈ rows, included (leftRow.insertAll row) = .ok (truth (leftRow.insertAll row))) :
    includedPairs included leftRow rows = .ok ((rows.map leftRow.insertAll).filter truth) := by
  induction rows with
  | nil => rfl
  | cons row rest ih =>
    have others := ih (forall_mem_cons.mp evaluated).2
    rw [includedPairs, evaluated row (.head _), others, map_cons]
    cases holds : truth (leftRow.insertAll row) with
    | false => rw [filter_cons_of_neg (by simp [holds])]; rfl
    | true => rw [filter_cons_of_pos holds]; rfl

theorem residualsHold_ok {merged : ColumnBindings}
    (evaluated : ∀ residual ∈ residuals, evalBoolExpr ctx merged residual = .ok (holds residual)) :
    residualsHold ctx merged residuals = .ok (residuals.all holds) := by
  induction residuals with
  | nil => rfl
  | cons residual rest ih =>
    have others := ih (forall_mem_cons.mp evaluated).2
    rw [residualsHold, evaluated residual (.head _), others, all_cons]
    cases holds residual <;> rfl

theorem parts_ok {join : JoinScan} {work : ColumnBindings → Except Status (List ColumnBindings)}
    {pairs : ColumnBindings → List ColumnBindings} {leftRows : List ColumnBindings}
    (each : ∀ leftRow ∈ leftRows, work leftRow = .ok (join.outputOf leftRow (pairs leftRow))) :
    (do
      let parts ← leftRows.mapM work
      return parts.flatten) =
      (.ok (leftRows.flatMap fun leftRow => join.outputOf leftRow (pairs leftRow)) :
        Except Status (List ColumnBindings)) := by
  refine bind_ok_iff.mpr ⟨leftRows.map fun leftRow => join.outputOf leftRow (pairs leftRow), ?_, ?_⟩
  · refine mapM_ok_iff.mpr (forall₂_map_right_iff.mpr (forall₂_same.mpr each))
  · rfl

theorem buildRightIndex_ok {ids : List Nat} (index : String → List ColumnBindings)
    (printed : ∀ row ∈ rows, joinKeyFingerprint print row ids = .ok (key row)) :
    buildRightIndex print ids index rows = .ok (Buckets.collect key index rows) := by
  induction rows generalizing index with
  | nil => rfl
  | cons row rest ih =>
    have others := fun index => ih index (forall_mem_cons.mp printed).2
    rw [buildRightIndex, Buckets.collect, printed row (.head _)]
    cases key row with
    | none => exact others index
    | some fingerprint => exact others _

end

section
variable {join : JoinScan}

theorem foldl_add (conjuncts : List Expr) (plan : EquiJoinPlan) :
    conjuncts.foldl (EquiJoinPlan.add join) plan =
      ⟨plan.leftKeyIds ++ (conjuncts.filterMap (keyIds join)).map Prod.fst,
       plan.rightKeyIds ++ (conjuncts.filterMap (keyIds join)).map Prod.snd,
       plan.residual ++ conjuncts.filter fun conjunct => (keyIds join conjunct).isNone⟩ := by
  induction conjuncts generalizing plan with
  | nil => simp
  | cons conjunct rest ih =>
    rw [foldl_cons, ih, EquiJoinPlan.add]
    cases found : keyIds join conjunct with
    | none => simp [found]
    | some ids => simp [found]

def JoinScan.keysOf (join : JoinScan) (expr : Expr) : List (Nat × Nat) :=
  (flattenAndConjuncts expr).filterMap (keyIds join)

def JoinScan.residualOf (join : JoinScan) (expr : Expr) : List Expr :=
  (flattenAndConjuncts expr).filter fun conjunct => (keyIds join conjunct).isNone

theorem planEquiJoin_some {plan : EquiJoinPlan} (planned : planEquiJoin join = some plan) :
    ∃ expr, join.joinExpr = some expr ∧
      plan = ⟨(join.keysOf expr).map Prod.fst, (join.keysOf expr).map Prod.snd,
        join.residualOf expr⟩ := by
  rw [planEquiJoin] at planned
  split at planned
  · cases planned
  next expr condition =>
    rw [foldl_add] at planned
    split at planned
    · dsimp only at planned
      split at planned
      · cases planned
      · cases planned
        exact ⟨expr, condition, rfl⟩
    · cases planned

theorem hashableColumnRefId_some {id : Nat} (found : hashableColumnRefId expr = some id) :
    ∃ ref, expr = .columnRef ref ∧ ref.column.id = id ∧ hashableJoinKeyType ref.column.kind = true := by
  cases expr with
  | columnRef ref =>
    rw [hashableColumnRefId] at found
    split at found
    · cases found
    next hashable =>
      rw [Bool.or_eq_true, not_or, Bool.not_eq_true', Bool.not_eq_false] at hashable
      exact ⟨ref, rfl, Option.some.inj found, hashable.2⟩
  | call name args => cases found
  | other eval => cases found

theorem equalityIds_some (found : equalityIds conjunct = some (lhs, rhs)) :
    ∃ args : Fin 2 → Expr, conjunct = .call "$equal" args ∧ hashableColumnRefId (args 0) = some lhs ∧
      hashableColumnRefId (args 1) = some rhs := by
  unfold equalityIds at found
  split at found
  next name args =>
    split at found
    next equality =>
      split at found
      next first second =>
        cases found
        exact ⟨args, by rw [equality], first, second⟩
      · cases found
    · cases found
  · cases found

/-- The columns of a key: one of each side, of the same hashable type. -/
structure JoinScan.IsKey (join : JoinScan) (ids : Nat × Nat) (left right : Column) : Prop where
  ofLeft : left ∈ join.leftColumns
  ofRight : right ∈ join.rightColumns
  leftId : left.id = ids.1
  rightId : right.id = ids.2
  kind : left.kind = right.kind
  hashable : hashableJoinKeyType left.kind = true

theorem keyIds_some (resolved : join.Resolved leftRows rightRows) (condition : expr ∈ join.joinExpr)
    (within : conjunct ∈ flattenAndConjuncts expr) (found : keyIds join conjunct = some ids) :
    ∃ (args : Fin 2 → Expr) (lhs rhs : ColumnRef), conjunct = .call "$equal" args ∧
      args 0 = .columnRef lhs ∧ args 1 = .columnRef rhs ∧
      (join.IsKey ids lhs.column rhs.column ∨ join.IsKey ids rhs.column lhs.column) := by
  unfold keyIds at found
  split at found
  next lhsId rhsId equality =>
    obtain ⟨args, rfl, first, second⟩ := equalityIds_some equality
    obtain ⟨lhs, lhsArg, rfl, lhsHashable⟩ := hashableColumnRefId_some first
    obtain ⟨rhs, rhsArg, rfl, rhsHashable⟩ := hashableColumnRefId_some second
    obtain ⟨sameKind, named⟩ := resolved.named expr condition args within lhs rhs lhsArg rhsArg
    refine ⟨args, lhs, rhs, rfl, lhsArg, rhsArg, ?_⟩
    dsimp only at found
    split at found
    next sides =>
      cases found
      simp only [Bool.and_eq_true, contains_iff_mem, mem_map] at sides
      obtain ⟨⟨left, ofLeft, leftId⟩, right, ofRight, rightId⟩ := sides
      obtain rfl := (named left (mem_append_left _ ofLeft)).1 leftId
      obtain rfl := (named right (mem_append_right _ ofRight)).2 rightId
      exact .inl ⟨ofLeft, ofRight, rfl, rfl, sameKind, lhsHashable⟩
    · split at found
      next sides =>
        cases found
        simp only [Bool.and_eq_true, contains_iff_mem, mem_map] at sides
        obtain ⟨⟨left, ofLeft, leftId⟩, right, ofRight, rightId⟩ := sides
        obtain rfl := (named left (mem_append_left _ ofLeft)).2 leftId
        obtain rfl := (named right (mem_append_right _ ofRight)).1 rightId
        exact .inr ⟨ofLeft, ofRight, rfl, rfl, sameKind.symm, rhsHashable⟩
      · cases found
  · cases found

end

section
variable {join : JoinScan} {leftRows rightRows : List ColumnBindings} {ctx : ExprContext}
variable {leftRow rightRow : ColumnBindings} {ids : Nat × Nat} {left right : Column}

/-- Two rows have the same value that is not NULL in the columns of a key. -/
def keyMatches (leftRow rightRow : ColumnBindings) (ids : Nat × Nat) : Bool :=
  match leftRow ids.1, rightRow ids.2 with
  | some a, some b => !a.isNull && !b.isNull && a = b
  | _, _ => false

theorem dispatchEqual_truth (hashable : hashableJoinKeyType a.kind = true) (b : Value) :
    ∃ answer, dispatchEqual [a, b] = .ok answer ∧
      boolOf answer = .ok (!a.isNull && !b.isNull && decide (a = b)) := by
  refine ⟨_, rfl, ?_⟩
  by_cases null : (a.isNull || b.isNull) = true
  · rcases (Bool.or_eq_true _ _).mp null with null | null <;> simp [null, boolOf]
  · rw [Bool.not_eq_true, Bool.or_eq_false_iff] at null
    rw [null.1, null.2]
    cases a with
    | null kind => cases null.1
    | double | interval => cases hashable
    | _ => rfl

theorem JoinScan.IsKey.bound (key : join.IsKey ids left right)
    (resolved : join.Resolved leftRows rightRows) (ofLeft : leftRow ∈ leftRows)
    (ofRight : rightRow ∈ rightRows) :
    ∃ a b, leftRow left.id = some a ∧ rightRow right.id = some b ∧ a.kind = left.kind ∧
      b.kind = left.kind ∧ leftRow.insertAll rightRow left.id = some a ∧
      leftRow.insertAll rightRow right.id = some b := by
  obtain ⟨a, boundLeft, leftKind⟩ := resolved.leftBound leftRow ofLeft left key.ofLeft
  obtain ⟨b, boundRight, rightKind⟩ := resolved.rightBound rightRow ofRight right key.ofRight
  have unbound := resolved.apart leftRow ofLeft right key.ofRight
  refine ⟨a, b, boundLeft, boundRight, leftKind, rightKind.trans key.kind.symm, ?_, ?_⟩
  · rw [ColumnBindings.insertAll, boundLeft, Option.some_or]
  · rw [ColumnBindings.insertAll, unbound, Option.none_or, boundRight]

theorem evalExpr_columnRef (bound : row ref.column.id = some value) :
    evalExpr ctx row (.columnRef ref) = .ok value := by
  rw [evalExpr, lookupColumnRef, bound]

theorem evalExpr_equal {args : Fin 2 → Expr}
    (first : evalExpr ctx row (args 0) = .ok a) (second : evalExpr ctx row (args 1) = .ok b) :
    evalExpr ctx row (.call "$equal" args) = dispatchEqual [a, b] := by
  have arguments : (ofFn fun i => evalExpr ctx row (args i)).mapM id = .ok [a, b] := by
    refine mapM_ok_iff.mpr ?_
    exact .cons first (.cons second .nil)
  rw [evalExpr, arguments]
  rfl

/-- A key conjunct of ON is TRUE exactly for the pairs that match on the key. -/
theorem evalBoolExpr_key {expr conjunct : Expr} (resolved : join.Resolved leftRows rightRows)
    (condition : expr ∈ join.joinExpr) (within : conjunct ∈ flattenAndConjuncts expr)
    (found : keyIds join conjunct = some ids) (ofLeft : leftRow ∈ leftRows)
    (ofRight : rightRow ∈ rightRows) :
    evalBoolExpr ctx (leftRow.insertAll rightRow) conjunct =
      .ok (keyMatches leftRow rightRow ids) := by
  obtain ⟨args, lhs, rhs, rfl, lhsArg, rhsArg, key | key⟩ :=
    keyIds_some resolved condition within found
  · obtain ⟨a, b, boundLeft, boundRight, leftKind, rightKind, first, second⟩ :=
      key.bound resolved ofLeft ofRight
    obtain ⟨answer, ran, truth⟩ := dispatchEqual_truth (leftKind ▸ key.hashable) b
    refine evalBoolExpr_ok_iff.mpr ⟨answer, ?_, ?_⟩
    · rw [evalExpr_equal (lhsArg ▸ evalExpr_columnRef first) (rhsArg ▸ evalExpr_columnRef second), ran]
    · rw [truth, keyMatches, ← key.leftId, ← key.rightId, boundLeft, boundRight]
  · obtain ⟨a, b, boundLeft, boundRight, leftKind, rightKind, first, second⟩ :=
      key.bound resolved ofLeft ofRight
    obtain ⟨answer, ran, truth⟩ := dispatchEqual_truth (rightKind ▸ key.hashable) a
    refine evalBoolExpr_ok_iff.mpr ⟨answer, ?_, ?_⟩
    · rw [evalExpr_equal (lhsArg ▸ evalExpr_columnRef second) (rhsArg ▸ evalExpr_columnRef first), ran]
    · rw [truth, keyMatches, ← key.leftId, ← key.rightId, boundLeft, boundRight]
      rw [Bool.and_comm (!b.isNull), decide_eq_decide.mpr eq_comm]

end

section
variable {print : Value → String}

theorem foldl_fingerprint (keys : List Value) (start : String) :
    keys.foldl (fun fingerprint key => fingerprint ++ print key ++ "\x1e") start =
      start ++ groupKeyFingerprint print keys := by
  induction keys generalizing start with
  | nil => exact (String.append_empty).symm
  | cons key rest ih =>
    rw [groupKeyFingerprint, foldl_cons, foldl_cons, ih, ih, String.empty_append,
      String.append_assoc, String.append_assoc, String.append_assoc]

theorem toList_fingerprint_cons (key : Value) (rest : List Value) :
    (groupKeyFingerprint print (key :: rest)).toList =
      (print key).toList ++ '\x1e' :: (groupKeyFingerprint print rest).toList := by
  rw [groupKeyFingerprint, foldl_cons, foldl_fingerprint, String.empty_append,
    String.append_assoc, String.toList_append, String.toList_append]
  rfl

/-- A fingerprint can be taken apart at its first separator. -/
theorem fingerprint_cons_inj (left : '\x1e' ∉ (print a).toList)
    (right : '\x1e' ∉ (print b).toList) :
    groupKeyFingerprint print (a :: as) = groupKeyFingerprint print (b :: bs) ↔
      print a = print b ∧ groupKeyFingerprint print as = groupKeyFingerprint print bs := by
  rw [← String.toList_inj, toList_fingerprint_cons, toList_fingerprint_cons]
  constructor
  · intro same
    have front := congrArg (Text.takeThrough '\x1e') same
    rw [Text.takeThrough_append left, Text.takeThrough_append right] at front
    have printed := append_cancel_right (Option.some.inj front)
    rw [printed] at same
    exact ⟨String.toList_inj.mp printed,
      String.toList_inj.mp (cons.inj (append_cancel_left same)).2⟩
  · rintro ⟨printed, rest⟩
    rw [printed, rest]

def SameFingerprint (print : Value → String) (left right : Option (List Value)) : Prop :=
  ∃ as bs, left = some as ∧ right = some bs ∧
    groupKeyFingerprint print as = groupKeyFingerprint print bs

theorem sameFingerprint_map {left right : Option (List Value)} :
    (∃ fingerprint, left.map (groupKeyFingerprint print) = some fingerprint ∧
      right.map (groupKeyFingerprint print) = some fingerprint) ↔ SameFingerprint print left right := by
  simp only [Option.map_eq_some_iff, SameFingerprint]
  constructor
  · rintro ⟨_, ⟨as, lefts, rfl⟩, bs, rights, same⟩
    exact ⟨as, bs, lefts, rights, same.symm⟩
  · rintro ⟨as, bs, lefts, rights, same⟩
    exact ⟨_, ⟨as, lefts, rfl⟩, bs, rights, same.symm⟩

variable {join : JoinScan} {leftRows rightRows : List ColumnBindings}
variable {leftRow rightRow : ColumnBindings} {row : ColumnBindings}

theorem joinKeys_null {id : Nat} (bound : row id = some value)
    (null : value.isNull = true) (rest : List Nat) : joinKeys row (id :: rest) = .ok none := by
  rw [joinKeys, bound]
  exact if_pos null

theorem joinKeys_value {id : Nat} (bound : row id = some value)
    (notNull : value.isNull = false) (rest : List Nat) :
    joinKeys row (id :: rest) = (joinKeys row rest).map (·.map (value :: ·)) := by
  rw [joinKeys, bound]
  exact if_neg (by rw [notNull]; exact Bool.false_ne_true)

theorem joinKeys_ok {ids : List Nat} (bound : ∀ id ∈ ids, ∃ value, row id = some value) :
    ∃ keys, joinKeys row ids = .ok keys := by
  induction ids with
  | nil => exact ⟨_, rfl⟩
  | cons id rest ih =>
    obtain ⟨keys, others⟩ := ih (forall_mem_cons.mp bound).2
    obtain ⟨value, bound⟩ := bound id (.head _)
    cases null : value.isNull with
    | true => exact ⟨none, joinKeys_null bound null rest⟩
    | false => exact ⟨_, by rw [joinKeys_value bound null, others]; rfl⟩

/-- Rows have the same fingerprint exactly if they match on every key. -/
theorem sameFingerprint_iff (printing : Printing print (HashKey (leftRows ++ rightRows)))
    (resolved : join.Resolved leftRows rightRows) (ofLeft : leftRow ∈ leftRows)
    (ofRight : rightRow ∈ rightRows) {keys : List (Nat × Nat)}
    (columns : ∀ ids ∈ keys, ∃ left right, join.IsKey ids left right) {ka kb : Option (List Value)}
    (lefts : joinKeys leftRow (keys.map Prod.fst) = .ok ka)
    (rights : joinKeys rightRow (keys.map Prod.snd) = .ok kb) :
    SameFingerprint print ka kb ↔ keys.all (keyMatches leftRow rightRow) = true := by
  induction keys generalizing ka kb with
  | nil =>
    cases lefts
    cases rights
    exact ⟨fun _ => rfl, fun _ => ⟨[], [], rfl, rfl, rfl⟩⟩
  | cons ids rest ih =>
    obtain ⟨left, right, key⟩ := columns ids (.head _)
    have others := (forall_mem_cons.mp columns).2
    obtain ⟨a, b, boundLeft, boundRight, leftKind, rightKind, -, -⟩ :=
      key.bound resolved ofLeft ofRight
    rw [key.leftId] at boundLeft
    rw [key.rightId] at boundRight
    have first : keyMatches leftRow rightRow ids = (!a.isNull && !b.isNull && decide (a = b)) := by
      rw [keyMatches, boundLeft, boundRight]
    rw [map_cons] at lefts rights
    rw [all_cons, first]
    cases nullLeft : a.isNull with
    | true =>
      rw [joinKeys_null boundLeft nullLeft] at lefts
      cases lefts
      exact ⟨fun ⟨_, _, absent, _⟩ => (nomatch absent), fun truth => nomatch truth⟩
    | false =>
    cases nullRight : b.isNull with
    | true =>
      rw [joinKeys_null boundRight nullRight] at rights
      cases rights
      exact ⟨fun ⟨_, _, _, absent, _⟩ => (nomatch absent), fun truth => nomatch truth⟩
    | false =>
      rw [joinKeys_value boundLeft nullLeft, map_ok_iff] at lefts
      rw [joinKeys_value boundRight nullRight, map_ok_iff] at rights
      obtain ⟨ka, lefts, rfl⟩ := lefts
      obtain ⟨kb, rights, rfl⟩ := rights
      have keyLeft : HashKey (leftRows ++ rightRows) a :=
        ⟨nullLeft, leftKind ▸ key.hashable, leftRow, mem_append_left _ ofLeft, _, boundLeft⟩
      have keyRight : HashKey (leftRows ++ rightRows) b :=
        ⟨nullRight, rightKind ▸ key.hashable, rightRow, mem_append_right _ ofRight, _,
          boundRight⟩
      have apart := fun as bs => @fingerprint_cons_inj print a b as bs
        (printing.separated a keyLeft) (printing.separated b keyRight)
      simp only [Bool.not_false, Bool.true_and, Bool.and_eq_true, decide_eq_true_eq,
        ← ih others lefts rights]
      constructor
      · rintro ⟨as, bs, lefts, rights, same⟩
        obtain ⟨as, rfl, rfl⟩ := Option.map_eq_some_iff.mp lefts
        obtain ⟨bs, rfl, rfl⟩ := Option.map_eq_some_iff.mp rights
        obtain ⟨printed, same⟩ := (apart as bs).mp same
        exact ⟨printing.determines a b keyLeft keyRight (leftKind.trans rightKind.symm) printed,
          as, bs, rfl, rfl, same⟩
      · rintro ⟨rfl, as, bs, rfl, rfl, same⟩
        exact ⟨a :: as, a :: bs, rfl, rfl, (apart as bs).mpr ⟨rfl, same⟩⟩

end

section
variable {join : JoinScan} {ctx : ExprContext} {leftRows rightRows : List ColumnBindings}
variable {leftRow rightRow : ColumnBindings}

def conjunctTrue (ctx : ExprContext) (merged : ColumnBindings) (conjunct : Expr) : Bool :=
  decide (evalExpr ctx merged conjunct = .ok (.bool true))

theorem evalBoolExpr_true {conjunct : Expr}
    (evaluated : evalBoolExpr ctx merged conjunct = .ok truth) :
    conjunctTrue ctx merged conjunct = truth := by
  obtain ⟨value, evaluated, holds⟩ := evalBoolExpr_ok_iff.mp evaluated
  rw [conjunctTrue, evaluated]
  rcases boolOf_ok holds with ⟨kind, rfl, rfl⟩ | rfl
  · exact decide_eq_false fun same => nomatch same
  · cases truth with
    | false => exact decide_eq_false fun same => nomatch same
    | true => exact decide_eq_true rfl

section
variable (condition : join.joinExpr = some expr) (evaluates : join.Evaluates ctx leftRows rightRows)
  (ofLeft : leftRow ∈ leftRows) (ofRight : rightRow ∈ rightRows)
include condition evaluates ofLeft ofRight

theorem evalBoolExpr_on :
    evalBoolExpr ctx (leftRow.insertAll rightRow) expr =
      .ok ((flattenAndConjuncts expr).all (conjunctTrue ctx (leftRow.insertAll rightRow))) := by
  refine evalBoolExpr_conjuncts _ expr fun conjunct within => ?_
  obtain ⟨truth, evaluated⟩ := evaluates expr condition conjunct within leftRow ofLeft rightRow ofRight
  rw [evaluated, evalBoolExpr_true evaluated]

theorem onTrue_eq :
    join.onTrue ctx (leftRow.insertAll rightRow) =
      (flattenAndConjuncts expr).all (conjunctTrue ctx (leftRow.insertAll rightRow)) := by
  rw [JoinScan.onTrue, condition]
  exact evalBoolExpr_true (evalBoolExpr_on condition evaluates ofLeft ofRight)

end

theorem nestedLoop_ok (evaluates : join.Evaluates ctx leftRows rightRows) :
    materializeNestedLoopJoinRows join ctx leftRows rightRows =
      .ok (join.joined ctx leftRows rightRows) := by
  refine parts_ok fun leftRow ofLeft => ?_
  rw [includedPairs_ok fun rightRow ofRight => ?_]
  · rfl
  cases condition : join.joinExpr with
  | none => rw [shouldIncludeJoinRow, JoinScan.onTrue, condition]
  | some expr =>
    rw [shouldIncludeJoinRow, onTrue_eq condition evaluates ofLeft ofRight, condition]
    exact evalBoolExpr_on condition evaluates ofLeft ofRight

theorem all_split {items : List α} (agree : ∀ x ∈ items, ∀ y, f x = some y → p x = q y) :
    items.all p = ((items.filterMap f).all q && (items.filter fun x => (f x).isNone).all p) := by
  induction items with
  | nil => rfl
  | cons x rest ih =>
    rw [all_cons, ih (forall_mem_cons.mp agree).2]
    cases found : f x with
    | none =>
      rw [filterMap_cons_none found, filter_cons_of_pos (by rw [found]; rfl),
        all_cons, Bool.and_left_comm]
    | some y =>
      rw [filterMap_cons_some found, filter_cons_of_neg (by simp [found]),
        all_cons, agree x (.head _) y found, Bool.and_assoc]

variable {print : Value → String} {plan : EquiJoinPlan} {expr : Expr}

theorem keysOf_isKey (resolved : join.Resolved leftRows rightRows)
    (condition : join.joinExpr = some expr) {ids : Nat × Nat} (within : ids ∈ join.keysOf expr) :
    ∃ left right, join.IsKey ids left right := by
  obtain ⟨conjunct, within, found⟩ := mem_filterMap.mp within
  obtain ⟨_, lhs, rhs, -, -, -, key | key⟩ := keyIds_some resolved condition within found <;>
    exact ⟨_, _, key⟩

theorem joinKeyFingerprint_ok {ids : List Nat} (bound : ∀ id ∈ ids, ∃ value, row id = some value) :
    ∃ keys, joinKeys row ids = .ok keys ∧
      joinKeyFingerprint print row ids = .ok (keys.map (groupKeyFingerprint print)) := by
  obtain ⟨keys, ok⟩ := joinKeys_ok bound
  exact ⟨keys, ok, by rw [joinKeyFingerprint, ok]; rfl⟩

theorem candidates_eq {ka : Option (List Value)} (same : ∀ rightRow ∈ rightRows, (∃ fingerprint,
      ka.map (groupKeyFingerprint print) = some fingerprint ∧ rightKey rightRow = some fingerprint) ↔
        (join.keysOf expr).all (keyMatches leftRow rightRow) = true) :
    (ka.map (groupKeyFingerprint print)).elim [] (Buckets.collect rightKey (fun _ => []) rightRows) =
      rightRows.filter fun rightRow => (join.keysOf expr).all (keyMatches leftRow rightRow) := by
  cases found : ka.map (groupKeyFingerprint print) with
  | none =>
    refine (filter_eq_nil_iff.mpr fun rightRow within => ?_).symm
    rw [← same rightRow within, found]
    rintro ⟨_, ⟨⟩, _⟩
  | some fingerprint =>
    rw [Option.elim_some, Buckets.collect_apply, nil_append]
    refine filter_congr fun rightRow within => ?_
    rw [Bool.eq_iff_iff, ← same rightRow within, found, decide_eq_true_eq]
    exact ⟨fun own => ⟨fingerprint, rfl, own⟩, by rintro ⟨_, ⟨⟩, own⟩; exact own⟩

section
variable (resolved : join.Resolved leftRows rightRows) (condition : join.joinExpr = some expr)
include resolved condition

theorem leftKey_bound (ofLeft : leftRow ∈ leftRows) {id : Nat}
    (among : id ∈ (join.keysOf expr).map Prod.fst) : ∃ value, leftRow id = some value := by
  obtain ⟨ids, within, rfl⟩ := mem_map.mp among
  obtain ⟨left, right, key⟩ := keysOf_isKey resolved condition within
  obtain ⟨value, bound, -⟩ := resolved.leftBound leftRow ofLeft left key.ofLeft
  exact ⟨value, key.leftId ▸ bound⟩

theorem rightKey_bound (ofRight : rightRow ∈ rightRows) {id : Nat}
    (among : id ∈ (join.keysOf expr).map Prod.snd) : ∃ value, rightRow id = some value := by
  obtain ⟨ids, within, rfl⟩ := mem_map.mp among
  obtain ⟨left, right, key⟩ := keysOf_isKey resolved condition within
  obtain ⟨value, bound, -⟩ := resolved.rightBound rightRow ofRight right key.ofRight
  exact ⟨value, key.rightId ▸ bound⟩

theorem filter_candidates (evaluates : join.Evaluates ctx leftRows rightRows)
    (ofLeft : leftRow ∈ leftRows) :
    ((rightRows.filter fun rightRow =>
        (join.keysOf expr).all (keyMatches leftRow rightRow)).map leftRow.insertAll).filter
      (fun merged => (join.residualOf expr).all (conjunctTrue ctx merged)) =
    (rightRows.map leftRow.insertAll).filter (join.onTrue ctx) := by
  rw [filter_map, filter_map, filter_filter]
  congr 1
  refine filter_congr fun rightRow ofRight => ?_
  rw [Function.comp_apply, Function.comp_apply, Bool.and_comm,
    onTrue_eq condition evaluates ofLeft ofRight]
  refine (all_split fun conjunct within ids found => ?_).symm
  exact evalBoolExpr_true (evalBoolExpr_key resolved condition within found ofLeft ofRight)

end

theorem hashJoin_ok (printing : Printing print (HashKey (leftRows ++ rightRows)))
    (resolved : join.Resolved leftRows rightRows) (evaluates : join.Evaluates ctx leftRows rightRows)
    (planned : planEquiJoin join = some plan) :
    materializeHashEquiJoinRows print join plan ctx leftRows rightRows =
      .ok (join.joined ctx leftRows rightRows) := by
  obtain ⟨expr, condition, rfl⟩ := planEquiJoin_some planned
  have rightPrinted := fun row (ofRight : row ∈ rightRows) =>
    @joinKeyFingerprint_ok print row _ fun id among => rightKey_bound resolved condition ofRight among
  choose! rightKeys rightRead rightPrinted using rightPrinted
  rw [materializeHashEquiJoinRows, buildRightIndex_ok (fun _ => []) rightPrinted]
  refine parts_ok fun leftRow ofLeft => ?_
  obtain ⟨leftKeys, leftRead, leftPrinted⟩ := @joinKeyFingerprint_ok print leftRow _ fun id among =>
    leftKey_bound resolved condition ofLeft among
  rw [leftPrinted]
  refine bind_ok_iff.mpr ⟨_, rfl, ?_⟩
  rw [candidates_eq fun rightRow ofRight => ?_]
  · dsimp only
    rw [includedPairs_ok fun rightRow within => ?_, filter_candidates resolved condition evaluates ofLeft]
    · rfl
    have ofRight := (mem_filter.mp within).1
    refine residualsHold_ok fun conjunct among => ?_
    obtain ⟨truth, evaluated⟩ := evaluates expr condition conjunct (mem_filter.mp among).1
      leftRow ofLeft rightRow ofRight
    rw [evaluated, evalBoolExpr_true evaluated]
  · exact sameFingerprint_map.trans (sameFingerprint_iff printing resolved ofLeft ofRight
      (fun ids within => keysOf_isKey resolved condition within) leftRead (rightRead rightRow ofRight))

/-- On rows of the two scans on which no conjunct raises an error, an INNER or LEFT join gives the
joined rows; the hash path, wherever it is planned, and the nested loop give the same rows in the
same order. -/
theorem join_paths_agree (print : Value → String) (join : JoinScan) (ctx : ExprContext)
    (leftRows rightRows : List ColumnBindings) (type : join.joinType = .inner ∨ join.joinType = .left)
    (printing : Printing print (HashKey (leftRows ++ rightRows)))
    (resolved : join.Resolved leftRows rightRows) (evaluates : join.Evaluates ctx leftRows rightRows) :
    materializeJoinScan print join ctx (.ok leftRows) (.ok rightRows) =
      .ok (join.joined ctx leftRows rightRows) ∧
    materializeNestedLoopJoinRows join ctx leftRows rightRows =
      .ok (join.joined ctx leftRows rightRows) ∧
    ∀ plan, planEquiJoin join = some plan →
      materializeHashEquiJoinRows print join plan ctx leftRows rightRows =
        .ok (join.joined ctx leftRows rightRows) := by
  have nested := @nestedLoop_ok join ctx leftRows rightRows evaluates
  have hashed := fun plan planned => @hashJoin_ok join ctx leftRows rightRows print plan printing
    resolved evaluates planned
  refine ⟨?_, nested, hashed⟩
  have supported : ¬ (join.joinType = .right ∨ join.joinType = .full) := by
    rcases type with type | type <;> simp [type]
  rw [materializeJoinScan, if_neg supported]
  refine bind_ok_iff.mpr ⟨leftRows, rfl, bind_ok_iff.mpr ⟨rightRows, rfl, ?_⟩⟩
  cases planned : planEquiJoin join with
  | none => exact nested
  | some plan => exact hashed plan planned

end

def orderId : Column := ⟨1, "id", .int64⟩
def itemOrder : Column := ⟨2, "id", .int64⟩
def itemSold : Column := ⟨3, "sold", .bool⟩

def sameOrder : Expr := .call "$equal" ![.columnRef ⟨orderId, false⟩, .columnRef ⟨itemOrder, false⟩]
def sold : Expr := .columnRef ⟨itemSold, false⟩

/-- `orders LEFT JOIN items ON orders.id = items.id AND items.sold`. -/
def ordersJoin : JoinScan where
  joinType := .left
  leftColumns := [orderId]
  rightColumns := [itemOrder, itemSold]
  nullColumns := [itemOrder, itemSold]
  joinExpr := some (.call "$and" ![sameOrder, sold])

def orderRow (value : Value) : ColumnBindings
  | 1 => some value
  | _ => none

def itemRow (order : Int) (sold : Bool) : ColumnBindings
  | 2 => some (.int64 order)
  | 3 => some (.bool sold)
  | _ => none

def orderRows : List ColumnBindings := [orderRow (.int64 5), orderRow (.null .int64)]
def itemRows : List ColumnBindings := [itemRow 5 true, itemRow 5 false]

theorem orders_key (key : HashKey (orderRows ++ itemRows) value) :
    value = .int64 5 ∨ ∃ sold, value = .bool sold := by
  obtain ⟨notNull, -, row, within, id, bound⟩ := key
  have cases : row = orderRow (.int64 5) ∨ row = orderRow (.null .int64) ∨ row = itemRow 5 true ∨
      row = itemRow 5 false := by simpa [orderRows, itemRows] using within
  rcases cases with rfl | rfl | rfl | rfl
  · unfold orderRow at bound
    split at bound
    · exact .inl (Option.some.inj bound).symm
    · cases bound
  · unfold orderRow at bound
    split at bound
    · cases bound
      cases notNull
    · cases bound
  all_goals
    unfold itemRow at bound
    split at bound
    · exact .inl (Option.some.inj bound).symm
    · exact .inr ⟨_, (Option.some.inj bound).symm⟩
    · cases bound

theorem plainPrint_orders : Printing plainPrint (HashKey (orderRows ++ itemRows)) where
  determines a b left right kind printed := by
    rcases orders_key left with rfl | ⟨first, rfl⟩ <;> rcases orders_key right with rfl | ⟨second, rfl⟩
    · rfl
    · cases kind
    · cases kind
    · clear left right kind
      revert first second
      decide
  separated value key := by
    rcases orders_key key with rfl | ⟨sold, rfl⟩
    · decide
    · clear key
      revert sold
      decide

theorem ordersJoin_conjuncts : flattenAndConjuncts (.call "$and" ![sameOrder, sold]) =
    [sameOrder, sold] := rfl

theorem ordersJoin_resolved : ordersJoin.Resolved orderRows itemRows where
  leftBound := by
    simp [ordersJoin, orderRows, orderRow, orderId, Value.kind]
  rightBound := by
    simp [ordersJoin, itemRows, itemRow, itemOrder, itemSold, Value.kind]
  apart := by
    simp [ordersJoin, orderRows, orderRow, itemOrder, itemSold]
  named expr condition args within lhs rhs first second := by
    cases condition
    rw [ordersJoin_conjuncts, mem_cons, mem_singleton] at within
    rcases within with same | same
    · cases same
      cases first
      cases second
      exact ⟨rfl, by decide⟩
    · cases same

theorem ordersJoin_evaluates : ordersJoin.Evaluates plainContext orderRows itemRows := by
  rintro expr ⟨⟩ conjunct within leftRow ofLeft rightRow ofRight
  rw [ordersJoin_conjuncts] at within
  simp only [orderRows, itemRows, mem_cons, not_mem_nil, or_false] at within ofLeft ofRight
  rcases ofLeft with rfl | rfl <;> rcases ofRight with rfl | rfl <;> rcases within with rfl | rfl <;>
    exact ⟨_, rfl⟩

theorem ordersJoin_rows :
    (planEquiJoin ordersJoin).isSome = true ∧
    (materializeJoinScan plainPrint ordersJoin plainContext (.ok orderRows) (.ok itemRows)).map
      (·.map fun row => (row 1, row 2, row 3)) =
      .ok [(some (.int64 5), some (.int64 5), some (.bool true)),
        (some (.null .int64), some (.null .int64), some (.null .bool))] := by
  refine ⟨by decide, ?_⟩
  rw [(join_paths_agree plainPrint ordersJoin plainContext orderRows itemRows (.inr rfl)
    plainPrint_orders ordersJoin_resolved ordersJoin_evaluates).1]
  decide

end BigQueryEmulator.Semantic
