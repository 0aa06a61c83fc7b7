import BigQueryEmulator.Storage.Values

/-! Values of the semantic executor (`googlesql::Value` as the executor uses it), the rows that
bind them to column ids, and the evaluation of scalar expressions (`eval_expr.cc`,
`eval_expr_calls.cc`, `eval_expr_dispatch.cc`), as far as the scans look into it: column
references, AND and `=`. The order of values (`ValueLess`, `ValueEqual`) is the one ORDER BY scans,
ordered aggregates and HAVING modifiers share. -/
namespace BigQueryEmulator.Semantic
open Storage (Status StatusCode)
open Fallible List

inductive TypeKind where
  | int32 | int64 | uint32 | uint64 | bool | float | double | string | bytes | date | timestamp
  | time | datetime | numeric | bignumeric | interval | json | geography | range | uuid | array
  | struct
  deriving DecidableEq, Repr

/-- A DOUBLE is its IEEE bit pattern. `scalar` is a value of one of the other ordered types, by
its number: days, microseconds, the digits of a NUMERIC, the bits of a UUID, or the place of a RANGE
among those of its type, by the lower and then the upper bound. -/
inductive Value where
  | null (kind : TypeKind)
  | bool (value : Bool)
  | int64 (value : Int)
  | double (bits : UInt64)
  | string (value : String)
  | bytes (value : List UInt8)
  | scalar (kind : TypeKind) (number : Int)
  | interval (months days nanos : Int)
  | other (kind : TypeKind) (text : String)
  deriving DecidableEq, Repr

namespace Value

def isNull : Value → Bool
  | .null _ => true
  | _ => false

def kind : Value → TypeKind
  | .null kind | .scalar kind _ | .other kind _ => kind
  | .bool _ => .bool
  | .int64 _ => .int64
  | .double _ => .double
  | .string _ => .string
  | .bytes _ => .bytes
  | .interval _ _ _ => .interval

def isNaN (bits : UInt64) : Bool := bits.toNat / 2 ^ 52 % 2 ^ 11 = 2047 && bits.toNat % 2 ^ 52 ≠ 0

/-- The place of a double that is a number among all of them; both zeros have the same. -/
def doubleRank (bits : UInt64) : Int :=
  if bits.toNat < 2 ^ 63 then bits.toNat else -(bits.toNat - 2 ^ 63 : Nat)

/-- Months of 30 days, in nanoseconds. -/
def intervalAmount (months days nanos : Int) : Int :=
  (months * 30 + days) * 86400000000000 + nanos

/-- `Value::Equals`: NaN equals NaN, and intervals are equal by their amounts. -/
def equals : Value → Value → Bool
  | .null k, .null l => k = l
  | .double a, .double b =>
    if isNaN a || isNaN b then isNaN a && isNaN b else doubleRank a = doubleRank b
  | .interval m d n, .interval m' d' n' => intervalAmount m d n = intervalAmount m' d' n'
  | a, b => a = b

/-- What two values have in common exactly if they are equal. -/
def canon : Value → Option Int × Value
  | .double bits => (if isNaN bits then none else some (doubleRank bits), .double 0)
  | .interval months days nanos => (some (intervalAmount months days nanos), .interval 0 0 0)
  | value => (none, value)

theorem equals_iff (a b : Value) : a.equals b = true ↔ a.canon = b.canon := by
  cases a with
  | double x =>
    cases b with
    | double y => cases left : isNaN x <;> cases right : isNaN y <;> simp [equals, canon, left, right]
    | _ => simp [equals, canon]
  | interval m d n =>
    cases b <;> simp [equals, canon]
  | _ => cases b <;> simp [equals, canon]

theorem equals_self (a : Value) : a.equals a = true := (equals_iff a a).mpr rfl

end Value

/-- A resolved column. Its id is what tells it from every other column of the query. -/
structure Column where
  id : Nat
  name : String
  kind : TypeKind
  deriving DecidableEq

/-- A row: the values of columns by their ids. -/
abbrev ColumnBindings := Nat → Option Value

namespace ColumnBindings

/-- `insert` of all bindings of another row, which keeps those that are there. -/
def insertAll (row other : ColumnBindings) : ColumnBindings := fun id => (row id).or (other id)

end ColumnBindings

def semanticError (code : StatusCode) (message : String) : Status := ⟨code, "semantic: " ++ message⟩

structure ColumnRef where
  column : Column
  isCorrelated : Bool := false

/-- `call` is a builtin whose arguments are all evaluated first; what is evaluated in any other
way is `other`. -/
inductive Expr where
  | columnRef (ref : ColumnRef)
  | call (name : String) {n : Nat} (args : Fin n → Expr)
  | other (eval : ColumnBindings → Except Status Value)

/-- What an evaluation has beside the row: the answer for a column that the row does not bind,
and the builtins. -/
structure ExprContext where
  unbound : ColumnRef → Except Status Value
  dispatch : String → List Value → Except Status Value

def dispatchEqual : List Value → Except Status Value
  | [a, b] => .ok (if a.isNull || b.isNull then .null .bool else .bool (a.equals b))
  | _ => .error (semanticError .invalidArgument "'=' expects exactly two arguments")

/-- Three-valued: FALSE as soon as one is FALSE, else NULL if one is NULL. -/
def dispatchAnd (seenNull : Bool) : List Value → Except Status Value
  | [] => .ok (if seenNull then .null .bool else .bool true)
  | .null _ :: rest => dispatchAnd true rest
  | .bool true :: rest => dispatchAnd seenNull rest
  | .bool false :: _ => .ok (.bool false)
  | _ :: _ => .error (semanticError .invalidArgument "AND argument is not BOOL")

def dispatchFunctionByName (ctx : ExprContext) (name : String) (args : List Value) :
    Except Status Value :=
  if name = "$equal" ∨ name = "equal" then dispatchEqual args
  else if name = "$and" ∨ name = "and" then dispatchAnd false args
  else ctx.dispatch name args

def lookupColumnRef (ctx : ExprContext) (row : ColumnBindings) (ref : ColumnRef) :
    Except Status Value :=
  match row ref.column.id with
  | some value => .ok value
  | none => ctx.unbound ref

def evalExpr (ctx : ExprContext) (row : ColumnBindings) : Expr → Except Status Value
  | .columnRef ref => lookupColumnRef ctx row ref
  | .call name args => do
    dispatchFunctionByName ctx name (← (ofFn fun i => evalExpr ctx row (args i)).mapM id)
  | .other eval => eval row

def boolOf : Value → Except Status Bool
  | .null _ => .ok false
  | .bool value => .ok value
  | _ => .error (semanticError .invalidArgument "expected BOOL in predicate")

def evalBoolExpr (ctx : ExprContext) (row : ColumnBindings) (expr : Expr) : Except Status Bool := do
  boolOf (← evalExpr ctx row expr)

def flattenAndConjuncts : Expr → List Expr
  | .call name args =>
    if name = "$and" then (ofFn fun i => flattenAndConjuncts (args i)).flatten
    else [.call name args]
  | expr => [expr]

section
variable {ctx : ExprContext} {row : ColumnBindings}

theorem evalBoolExpr_ok_iff :
    evalBoolExpr ctx row expr = .ok truth ↔
      ∃ value, evalExpr ctx row expr = .ok value ∧ boolOf value = .ok truth := bind_ok_iff

theorem boolOf_ok (ok : boolOf value = .ok truth) :
    (∃ kind, value = .null kind ∧ truth = false) ∨ value = .bool truth := by
  cases value with
  | null kind =>
    cases ok
    exact .inl ⟨kind, rfl, rfl⟩
  | bool value =>
    cases ok
    exact .inr rfl
  | _ => cases ok

theorem dispatchAnd_ok (seenNull : Bool)
    (conditions : List.Forall₂ (fun value truth => boolOf value = .ok truth) values truths) :
    ∃ value, dispatchAnd seenNull values = .ok value ∧
      boolOf value = .ok (!seenNull && truths.all id) := by
  induction conditions generalizing seenNull with
  | nil => cases seenNull with
    | false => exact ⟨_, rfl, rfl⟩
    | true => exact ⟨_, rfl, rfl⟩
  | @cons value truth values truths first _ ih =>
    rcases boolOf_ok first with ⟨kind, rfl, rfl⟩ | rfl
    · obtain ⟨value, ran, truth⟩ := ih true
      exact ⟨value, ran, by simpa using truth⟩
    · cases truth with
      | true =>
        obtain ⟨value, ran, truth⟩ := ih seenNull
        exact ⟨value, ran, by simpa using truth⟩
      | false => exact ⟨_, rfl, by simp [boolOf]⟩

theorem evalBoolExpr_conjuncts (truth : Expr → Bool) (expr : Expr)
    (evaluated : ∀ conjunct ∈ flattenAndConjuncts expr,
      evalBoolExpr ctx row conjunct = .ok (truth conjunct)) :
    evalBoolExpr ctx row expr = .ok ((flattenAndConjuncts expr).all truth) := by
  induction expr with
  | columnRef | other =>
    rw [evaluated _ (mem_singleton_self _)]
    simp [flattenAndConjuncts]
  | @call name n args ih =>
    by_cases conjunction : name = "$and"
    · subst conjunction
      have parts : flattenAndConjuncts (.call "$and" args) =
          (ofFn fun i => flattenAndConjuncts (args i)).flatten := by
        rw [flattenAndConjuncts, if_pos rfl]
      rw [parts] at evaluated ⊢
      have each : ∀ i, ∃ value, evalExpr ctx row (args i) = .ok value ∧
          boolOf value = .ok ((flattenAndConjuncts (args i)).all truth) := fun i =>
        evalBoolExpr_ok_iff.mp (ih i fun conjunct within =>
          evaluated conjunct (mem_flatten_of_mem (mem_ofFn.mpr ⟨i, rfl⟩) within))
      choose values evaluated truths using each
      obtain ⟨value, ran, holds⟩ := dispatchAnd_ok false (forall₂_ofFn truths)
      have arguments : (ofFn fun i => evalExpr ctx row (args i)).mapM id =
          .ok (ofFn values) := mapM_ok_iff.mpr (forall₂_ofFn evaluated)
      refine evalBoolExpr_ok_iff.mpr ⟨value, ?_, ?_⟩
      · rw [evalExpr, arguments]
        exact ran
      have mapped : (ofFn fun i => (flattenAndConjuncts (args i)).all truth) =
          (ofFn fun i => flattenAndConjuncts (args i)).map (·.all truth) := by
        rw [map_ofFn]
        rfl
      rw [holds, Bool.not_false, Bool.true_and, all_flatten, mapped, all_map]
      rfl
    · have single : flattenAndConjuncts (.call name args) = [.call name args] := by
        rw [flattenAndConjuncts, if_neg conjunction]
      rw [single] at evaluated ⊢
      rw [evaluated _ (mem_singleton_self _)]
      simp

end

def plainPrint : Value → String
  | .int64 value => toString value
  | .bool value => toString value
  | _ => ""

def plainContext : ExprContext where
  unbound ref := .error (semanticError .invalidArgument ("no row binding for column '" ++
    ref.column.name ++ "'"))
  dispatch name _ := .error (semanticError .unimplemented name)

/-- The number of a type in `type.proto`. -/
def TypeKind.number : TypeKind → Nat
  | .int32 => 1
  | .int64 => 2
  | .uint32 => 3
  | .uint64 => 4
  | .bool => 5
  | .float => 6
  | .double => 7
  | .string => 8
  | .bytes => 9
  | .date => 10
  | .array => 16
  | .struct => 17
  | .timestamp => 19
  | .time => 20
  | .datetime => 21
  | .geography => 22
  | .numeric => 23
  | .bignumeric => 24
  | .json => 26
  | .interval => 27
  | .range => 29
  | .uuid => 32

/-- `<` of two doubles: false if one of them is NaN. -/
def Value.doubleLess (a b : UInt64) : Bool :=
  !isNaN a && !isNaN b && (compare (doubleRank a) (doubleRank b)).isLT

/-- `print` is `Value::DebugString`: every type without a case of its own is compared by it. -/
def valueLess (print : Value → String) (a b : Value) : Bool :=
  if a.isNull && b.isNull then false
  else if a.isNull then true
  else if b.isNull then false
  else if a.kind ≠ b.kind then a.kind.number < b.kind.number
  else
    match a, b with
    | .bool x, .bool y => !x && y
    | .int64 x, .int64 y => (compare x y).isLT
    | .double x, .double y => Value.doubleLess x y
    | .string x, .string y => (compare x y).isLT
    | .bytes x, .bytes y => (compare x y).isLT
    | a, b => (compare (print a) (print b)).isLT

def valueEqual (a b : Value) : Bool :=
  if a.isNull && b.isNull then true
  else if a.isNull || b.isNull then false
  else a.equals b

inductive NullOrder where
  | unspecified | nullsFirst | nullsLast
  deriving DecidableEq

structure OrderByItem where
  ref : ColumnRef
  isDescending : Bool := false
  nullOrder : NullOrder := .unspecified
  collationName : Option String := none

/-- NULLs come first in ascending and last in descending order, unless the item says otherwise. -/
def OrderByItem.nullsFirst (item : OrderByItem) : Bool :=
  match item.nullOrder with
  | .nullsFirst => true
  | .nullsLast => false
  | .unspecified => !item.isDescending

/-- `std::stable_sort`. -/
def stableSort {α : Type} (less : α → α → Bool) (rows : List α) : List α :=
  rows.mergeSort fun a b => !less b a

theorem valueEqual_self (a : Value) : valueEqual a a = true := by
  rw [valueEqual]
  cases a.isNull with
  | true => rfl
  | false => exact a.equals_self

theorem valueEqual_comm (a b : Value) : valueEqual a b = valueEqual b a := by
  have symm : a.equals b = b.equals a := by
    rw [Bool.eq_iff_iff, Value.equals_iff, Value.equals_iff]
    exact eq_comm
  rw [valueEqual, valueEqual, symm, Bool.and_comm, Bool.or_comm]

theorem valueEqual_iff (left : a.isNull = false) (right : b.isNull = false) :
    valueEqual a b = true ↔ a.canon = b.canon := by
  rw [valueEqual, left, right, ← Value.equals_iff]
  rfl

end BigQueryEmulator.Semantic
