import BigQueryEmulator.Semantic.Exprs

/-! IN and LIKE ANY/ALL subqueries (`scan_eval.cc`), beside the list form of IN
(`operator_in.cc`). -/
namespace BigQueryEmulator.Semantic
open Storage (Status StatusCode)
open Fallible List

/-- `likeMatch` is `SqlLikeMatch`. -/
def dispatchLike (likeMatch : String → String → Bool) (name : String) :
    List Value → Except Status Value
  | [a, b] =>
    if a.isNull || b.isNull then .ok (.null .bool)
    else match a, b with
      | .string text, .string pattern =>
        .ok (.bool (if name = "$not_like" then !likeMatch text pattern else likeMatch text pattern))
      | _, _ => .error (semanticError .invalidArgument "LIKE requires STRING arguments")
  | _ => .error (semanticError .invalidArgument "LIKE expects exactly two arguments")

def inList (negated : Bool) (lhs : Value) (sawNullRhs : Bool) : List Value → Value
  | [] => if sawNullRhs then .null .bool else .bool negated
  | rhs :: rest =>
    if rhs.isNull then inList negated lhs true rest
    else if lhs.equals rhs then .bool (!negated)
    else inList negated lhs sawNullRhs rest

def dispatchIn (name : String) : List Value → Except Status Value
  | lhs :: first :: rest =>
    .ok (if lhs.isNull then .null .bool
      else inList (name = "$not_in") lhs false (first :: rest))
  | _ => .error (semanticError .invalidArgument "IN expects at least two arguments")

inductive SubqueryType where
  | scalar | array | exists | in | likeAny | likeAll | notLikeAny | notLikeAll | other
  deriving DecidableEq

section
variable (value : ColumnBindings → Except Status Value) (lhs : Value)

def inRows : List ColumnBindings → Except Status Value
  | [] => .ok (.bool false)
  | row :: rows => do
    let rv ← value row
    if lhs.isNull || rv.isNull then inRows rows
    else if lhs.equals rv then .ok (.bool true)
    else inRows rows

/-- The loop of LIKE ANY/ALL over `any_match` and `all_match`. -/
def likeRows (likeMatch : String → String → Bool) :
    Bool × Bool → List ColumnBindings → Except Status (Bool × Bool)
  | found, [] => .ok found
  | (anyMatch, allMatch), row :: rows => do
    let pattern ← value row
    if pattern.isNull then likeRows likeMatch (anyMatch, false) rows
    else match ← dispatchLike likeMatch "$like" [lhs, pattern] with
      | .bool true => likeRows likeMatch (true, allMatch) rows
      | _ => likeRows likeMatch (anyMatch, false) rows

def evalInSubquery (inExpr : Option (Except Status Value)) (rows : List ColumnBindings) :
    Except Status Value :=
  match inExpr with
  | none => .error (semanticError .invalidArgument "IN subquery missing in_expr")
  | some evaluated => do
    let lhs ← evaluated
    if lhs.isNull then .ok (.null .bool) else inRows value lhs rows

def evalLikeAnyAllSubquery (likeMatch : String → String → Bool) (subqueryType : SubqueryType)
    (inExpr : Option (Except Status Value)) (rows : List ColumnBindings) : Except Status Value :=
  match inExpr with
  | none => .error (semanticError .invalidArgument "LIKE ANY/ALL subquery missing in_expr")
  | some evaluated => do
    let lhs ← evaluated
    if lhs.isNull then .ok (.null .bool)
    else match subqueryType, rows with
      | .likeAny, [] | .notLikeAll, [] => .ok (.bool false)
      | .likeAll, [] | .notLikeAny, [] => .ok (.bool true)
      | _, _ =>
        let (anyMatch, allMatch) ← likeRows value lhs likeMatch (false, true) rows
        match subqueryType with
        | .likeAny => .ok (.bool anyMatch)
        | .likeAll => .ok (.bool allMatch)
        | .notLikeAny => .ok (.bool (!anyMatch))
        | .notLikeAll => .ok (.bool (!allMatch))
        | _ => .error (semanticError .unimplemented "LIKE ANY/ALL subquery type")

end

/-- IN by SQL's three-valued logic. -/
def sqlIn (lhs : Value) (values : List Value) : Value :=
  if values = [] then .bool false
  else if lhs.isNull = false ∧ ∃ rhs ∈ values, lhs.equals rhs then .bool true
  else if lhs.isNull ∨ ∃ rhs ∈ values, rhs.isNull then .null .bool
  else .bool false

/-- The three-valued OR and AND of comparisons. -/
def anyOf (truths : List Value) : Value :=
  if .bool true ∈ truths then .bool true
  else if .null .bool ∈ truths then .null .bool else .bool false

def allOf (truths : List Value) : Value :=
  if .bool false ∈ truths then .bool false
  else if .null .bool ∈ truths then .null .bool else .bool true

section
variable {value : ColumnBindings → Except Status Value} {lhs : Value}
  {likeMatch : String → String → Bool}

theorem equals_null (present : lhs.isNull = false) (null : rhs.isNull) : lhs.equals rhs = false := by
  cases rhs with
  | null kind => cases lhs <;> first | rfl | cases present
  | _ => cases null

theorem inRows_ok (present : lhs.isNull = false) (read : rows.mapM value = .ok values) :
    inRows value lhs rows = .ok (.bool (values.any lhs.equals)) := by
  replace read := mapM_ok_iff.mp read
  induction read with
  | nil => rfl
  | @cons row rhs rows values first _ ih =>
    rw [inRows, bind_of_ok first, present, Bool.false_or, any_cons, ih]
    cases null : rhs.isNull with
    | true => rw [if_pos rfl, equals_null present null, Bool.false_or]
    | false => cases lhs.equals rhs <;> rfl

theorem inList_eq (present : lhs.isNull = false) :
    inList false lhs sawNull values = if values.any lhs.equals then .bool true
      else if sawNull || values.any Value.isNull then .null .bool else .bool false := by
  induction values generalizing sawNull with
  | nil => simp [inList]
  | cons rhs rest ih =>
    rw [inList, any_cons, any_cons]
    cases null : rhs.isNull with
    | true => simp [ih, equals_null present null]
    | false => cases equal : lhs.equals rhs <;> simp [ih]

theorem sqlIn_eq (present : lhs.isNull = false) :
    sqlIn lhs values = if values.any lhs.equals then .bool true
      else if values.any Value.isNull then .null .bool else .bool false := by
  rw [sqlIn]
  cases values <;> simp [present]

theorem dispatchIn_eq (lhs : Value) (nonempty : values ≠ []) :
    dispatchIn "$in" (lhs :: values) = .ok (sqlIn lhs values) := by
  obtain ⟨first, rest, rfl⟩ := exists_cons_of_ne_nil nonempty
  rw [dispatchIn]
  cases present : lhs.isNull with
  | true => simp [sqlIn, present]
  | false => simp [inList_eq present, sqlIn_eq present]

theorem dispatchLike_ok (ok : dispatchLike likeMatch name [lhs, pattern] = .ok truth) :
    truth = .null .bool ∨ truth = .bool true ∨ truth = .bool false := by
  simp only [dispatchLike] at ok
  split at ok
  · cases ok
    exact .inl rfl
  split at ok
  · cases ok
    exact .inr ((Bool.eq_false_or_eq_true _).imp (congrArg _) (congrArg _))
  cases ok

/-- What the loop has found after rows whose comparisons are `truths`. -/
theorem likeRows_ok (anyMatch allMatch : Bool) (read : rows.mapM value = .ok values)
    (compared : values.mapM (fun pattern => dispatchLike likeMatch "$like" [lhs, pattern]) =
      .ok truths) :
    likeRows value lhs likeMatch (anyMatch, allMatch) rows =
      .ok (anyMatch || decide (.bool true ∈ truths),
        allMatch && decide (.bool false ∉ truths ∧ .null .bool ∉ truths)) := by
  replace read := mapM_ok_iff.mp read
  replace compared := mapM_ok_iff.mp compared
  induction read generalizing truths anyMatch allMatch with
  | nil =>
    cases compared
    simp [likeRows]
  | @cons row pattern rows values first _ ih =>
    cases compared with
    | cons one compared =>
      rw [likeRows, bind_of_ok first]
      cases null : pattern.isNull with
      | true =>
        simp only [dispatchLike, null, Bool.or_true, if_true] at one
        cases one
        simp [ih _ _ compared]
      | false =>
        rw [if_neg Bool.false_ne_true, bind_of_ok one]
        rcases dispatchLike_ok one with rfl | rfl | rfl <;> simp [ih _ _ compared]

theorem evalLike_null (null : lhs.isNull) :
    evalLikeAnyAllSubquery value likeMatch kind (some (.ok lhs)) rows = .ok (.null .bool) := by
  rw [evalLikeAnyAllSubquery, bind_of_ok rfl, null, if_pos rfl]

/-- The subquery forms follow three-valued logic exactly where a NULL has no say: `lhs` is NULL
and there are rows, or it is not and the answer is there without the NULL rows. -/
theorem subquery_truth_iff (likeMatch : String → String → Bool)
    (read : rows.mapM value = .ok values) :
    (evalInSubquery value (some (.ok lhs)) rows = .ok (sqlIn lhs values) ↔
      if lhs.isNull then values ≠ []
      else (∃ rhs ∈ values, rhs.isNull) → ∃ rhs ∈ values, lhs.equals rhs) ∧
    (values ≠ [] →
      (evalInSubquery value (some (.ok lhs)) rows = dispatchIn "$in" (lhs :: values) ↔
        (lhs.isNull = false → (∃ rhs ∈ values, rhs.isNull) → ∃ rhs ∈ values, lhs.equals rhs))) ∧
    ∀ truths, values.mapM (fun pattern => dispatchLike likeMatch "$like" [lhs, pattern]) =
        .ok truths →
      (evalLikeAnyAllSubquery value likeMatch .likeAny (some (.ok lhs)) rows =
          .ok (anyOf truths) ↔
        if lhs.isNull then values ≠ [] else .null .bool ∈ truths → .bool true ∈ truths) ∧
      (evalLikeAnyAllSubquery value likeMatch .likeAll (some (.ok lhs)) rows =
          .ok (allOf truths) ↔
        if lhs.isNull then values ≠ [] else .null .bool ∈ truths → .bool false ∈ truths) := by
  cases present : lhs.isNull with
  | true =>
    have answer : evalInSubquery value (some (.ok lhs)) rows = .ok (.null .bool) := by
      rw [evalInSubquery, bind_of_ok rfl, present, if_pos rfl]
    refine ⟨?_, fun nonempty => ?_, fun truths compared => ?_⟩
    · rw [answer, sqlIn]
      by_cases empty : values = [] <;> simp [empty, present]
    · rw [answer, dispatchIn_eq lhs nonempty, sqlIn, if_neg nonempty]
      simp [present]
    · simp only [dispatchLike, present, Bool.true_or, if_true] at compared
      cases (mapM_pure (m := Except Status)).symm.trans compared
      rw [evalLike_null present, evalLike_null present]
      cases values <;> simp [anyOf, allOf]
  | false =>
    have answer : evalInSubquery value (some (.ok lhs)) rows =
        .ok (.bool (values.any lhs.equals)) := by
      rw [evalInSubquery, bind_of_ok rfl, present, if_neg Bool.false_ne_true, inRows_ok present read]
    simp only [← any_eq_true]
    refine ⟨?_, fun nonempty => ?_, fun truths compared => ?_⟩
    · rw [answer, sqlIn_eq present]
      cases values.any lhs.equals <;> cases values.any Value.isNull <;> simp
    · rw [answer, dispatchIn_eq lhs nonempty, sqlIn_eq present]
      cases values.any lhs.equals <;> cases values.any Value.isNull <;> simp
    · have found : evalLikeAnyAllSubquery value likeMatch .likeAny (some (.ok lhs)) rows =
            .ok (.bool (.bool true ∈ truths)) ∧
          evalLikeAnyAllSubquery value likeMatch .likeAll (some (.ok lhs)) rows =
            .ok (.bool (.bool false ∉ truths ∧ .null .bool ∉ truths)) := by
        rw [evalLikeAnyAllSubquery, evalLikeAnyAllSubquery, bind_of_ok rfl, bind_of_ok rfl, present]
        cases rows with
        | nil =>
          cases read
          cases compared
          exact ⟨rfl, rfl⟩
        | cons row rows => simp [likeRows_ok false true read compared, bind_of_ok]
      rw [found.1, found.2, anyOf, allOf]
      refine ⟨?_, ?_⟩
      · by_cases Value.bool true ∈ truths <;> by_cases Value.null .bool ∈ truths <;> simp [*]
      · by_cases Value.bool false ∈ truths <;> by_cases Value.null .bool ∈ truths <;> simp [*]

end

/-- The value that a row has in the first column. -/
def firstColumn (row : ColumnBindings) : Except Status Value :=
  .ok ((row 0).getD (.null .int64))

/-- `1 IN (NULL, 1)`, and `'a' LIKE ANY (NULL, 'a')`. -/
theorem one_row_truth :
    evalInSubquery firstColumn (some (.ok (.int64 1))) [fun _ => none, fun _ => some (.int64 1)] =
        .ok (.bool true) ∧
      dispatchIn "$in" [.int64 1, .null .int64, .int64 1] = .ok (.bool true) ∧
      evalLikeAnyAllSubquery firstColumn (· = ·) .likeAny (some (.ok (.string "a")))
          [fun _ => none, fun _ => some (.string "a")] = .ok (.bool true) := by
  have numbers := @subquery_truth_iff firstColumn (.int64 1)
    [fun _ => none, fun _ => some (.int64 1)] [.null .int64, .int64 1] (fun _ _ => true) rfl
  have texts := (@subquery_truth_iff firstColumn (.string "a")
    [fun _ => none, fun _ => some (.string "a")] [.null .int64, .string "a"] (· = ·) rfl).2.2
      [.null .bool, .bool true] rfl
  have one : ∃ rhs ∈ [Value.null .int64, .int64 1], (Value.int64 1).equals rhs :=
    ⟨.int64 1, by simp, rfl⟩
  have found := numbers.1.mpr fun _ => one
  refine ⟨found.trans ?_, ?_, (texts.1.mpr fun _ => by simp).trans rfl⟩
  · decide
  · rw [← (numbers.2.1 (by simp)).mpr fun _ _ => one, found]
    decide

/-- `1 IN (SELECT NULL)` is FALSE, so NOT IN keeps the row; the list form has NULL. -/
theorem null_row_false :
    evalInSubquery (fun _ => .ok (.null .int64)) (some (.ok (.int64 1))) [fun _ => none] =
        .ok (.bool false) ∧
      dispatchIn "$in" [.int64 1, .null .int64] = .ok (.null .bool) ∧
      sqlIn (.int64 1) [.null .int64] = .null .bool := ⟨rfl, rfl, by decide⟩

end BigQueryEmulator.Semantic
