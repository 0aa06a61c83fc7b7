import BigQueryEmulator.Semantic.Exprs

/-! SUM and AVG of INT64 cells (`aggregate_sum_avg_helpers.cc`). SUM checks every partial sum and
AVG none of them. -/
namespace BigQueryEmulator.Semantic
open Storage (Status)
open Fallible
open List hiding count

def IsInt64 (n : Int) : Prop := -2 ^ 63 ≤ n ∧ n < 2 ^ 63
deriving Decidable

def overflow : Status := semanticError .invalidArgument "integer overflow"

def addChecked (total v : Int) : Except Status Int :=
  if IsInt64 (total + v) then .ok (total + v) else .error overflow

/-- `+=` of two int64, which wraps around. -/
def addWrapped (total v : Int) : Except Status Int := .ok ((total + v).bmod (2 ^ 64))

/-- The loop of both functions: the total, and how many cells are not NULL. -/
def int64Loop (name : String) (add : Int → Int → Except Status Int) :
    List Value → Int → Nat → Except Status (Int × Nat)
  | [], total, count => .ok (total, count)
  | .null _ :: cells, total, count => int64Loop name add cells total count
  | .int64 v :: cells, total, count => do
    int64Loop name add cells (← add total v) (count + 1)
  | _, _, _ => .error (semanticError .invalidArgument (name ++ " argument type mismatch"))

def nullOfAggregateType (type : Option TypeKind) : Value := .null (type.getD .int64)

def sumInt64Cells (returnType : Option TypeKind) (cells : List Value) : Except Status Value := do
  let (total, count) ← int64Loop "SUM" addChecked cells 0 0
  return if count = 0 then nullOfAggregateType returnType else .int64 total

/-- `divide` converts both numbers to doubles and divides them. -/
def avgInt64Cells (divide : Int → Nat → UInt64) (returnType : Option TypeKind)
    (cells : List Value) : Except Status Value := do
  let (total, count) ← int64Loop "AVG" addWrapped cells 0 0
  return if count = 0 then nullOfAggregateType returnType else .double (divide total count)

def int64Cell : Option Int → Value
  | some v => .int64 v
  | none => .null .int64

theorem int64Loop_eq (cells : List (Option Int)) :
    int64Loop name add (cells.map int64Cell) total count =
      (cells.reduceOption.foldlM add total).map (·, count + cells.reduceOption.length) := by
  induction cells generalizing total count with
  | nil => rfl
  | cons cell cells ih =>
    cases cell with
    | none => exact ih
    | some v =>
      rw [map_cons, int64Cell, int64Loop, reduceOption_cons_of_some, foldlM_cons]
      cases add total v with
      | error e => rfl
      | ok next => simp [bind, Except.bind, ih, Nat.add_assoc, Nat.add_comm 1]

variable {xs : List Int}

theorem foldlM_addWrapped (within : total.bmod (2 ^ 64) = total) :
    xs.foldlM addWrapped total = .ok ((total + xs.sum).bmod (2 ^ 64)) := by
  induction xs generalizing total with
  | nil => simpa [pure, Except.pure] using within.symm
  | cons x xs ih =>
    rw [foldlM_cons, addWrapped, bind_of_ok rfl, ih (by simp)]
    simp [Int.add_assoc]

theorem foldlM_addChecked_ok (ok : xs.foldlM addChecked total = .ok result)
    (within : IsInt64 total) : IsInt64 result ∧ result = total + xs.sum := by
  induction xs generalizing total with
  | nil =>
    cases ok
    simp [within]
  | cons x xs ih =>
    rw [foldlM_cons, addChecked] at ok
    split at ok
    next small =>
      obtain ⟨fits, same⟩ := ih ok small
      exact ⟨fits, by simp [same, Int.add_assoc]⟩
    next => cases ok

theorem signed_sums (ys : List Int) :
    0 ≤ (ys.filter (0 < ·)).sum ∧ (ys.filter (· < 0)).sum ≤ 0 := by
  induction ys with
  | nil => simp
  | cons y ys ih =>
    by_cases gain : 0 < y <;> by_cases loss : y < 0 <;> simp [gain, loss] <;> omega

/-- No partial sum leaves the range if the positive numbers alone do not, nor the negative. -/
theorem foldlM_addChecked_of_bounds (above : total + (xs.filter (0 < ·)).sum < 2 ^ 63)
    (below : -2 ^ 63 ≤ total + (xs.filter (· < 0)).sum) :
    xs.foldlM addChecked total = .ok (total + xs.sum) := by
  induction xs generalizing total with
  | nil => simp [pure, Except.pure]
  | cons x xs ih =>
    have := signed_sums xs
    simp only [filter_cons, decide_eq_true_eq] at above below
    have small : IsInt64 (total + x) := by
      unfold IsInt64
      split at above <;> split at below <;> simp at above below <;> omega
    rw [foldlM_cons, addChecked, if_pos small, bind_of_ok rfl, ih, sum_cons, Int.add_assoc]
    · split at above <;> simp at above <;> omega
    · split at below <;> simp at below <;> omega

/-- SUM is the exact sum or an overflow, AVG divides the exact sum, and the order of the cells
makes no difference. -/
structure SumsExactly (cells : List (Option Int)) : Prop where
  sum : ∀ type, sumInt64Cells type (cells.map int64Cell) =
    if cells.reduceOption = [] then .ok (nullOfAggregateType type)
    else if IsInt64 cells.reduceOption.sum then .ok (.int64 cells.reduceOption.sum)
    else .error overflow
  total : int64Loop "AVG" addWrapped (cells.map int64Cell) 0 0 =
    .ok (cells.reduceOption.sum, cells.reduceOption.length)
  order : ∀ other : List (Option Int), other.Perm cells → ∀ type divide,
    sumInt64Cells type (other.map int64Cell) = sumInt64Cells type (cells.map int64Cell) ∧
    avgInt64Cells divide type (other.map int64Cell) = avgInt64Cells divide type (cells.map int64Cell)

theorem reduceOption_filter (p : Int → Bool) (cells : List (Option Int)) :
    (cells.filter (·.any p)).reduceOption = cells.reduceOption.filter p := by
  simp only [reduceOption, filter_filterMap, filterMap_filter]
  congr
  funext cell
  cases cell <;> simp [Option.filter]

theorem sumsExactly_iff (cells : List (Option Int)) :
    SumsExactly cells ↔ (cells.reduceOption.filter (0 < ·)).sum < 2 ^ 63 ∧
      -2 ^ 63 ≤ (cells.reduceOption.filter (· < 0)).sum := by
  have zero : IsInt64 0 := by decide
  constructor
  · intro exact
    have small : IsInt64 cells.reduceOption.sum := by
      have total := exact.total
      rw [int64Loop_eq, foldlM_addWrapped (by decide)] at total
      have wrapped := (Prod.mk.inj (Except.ok.inj total)).1
      rw [← wrapped]
      exact ⟨Int.le_bmod (by decide), Int.bmod_lt (by decide)⟩
    -- the numbers of one sign may come first
    have within (p : Int → Bool) : IsInt64 (cells.reduceOption.filter p).sum := by
      have same := (exact.order _ (filter_append_perm (·.any p) cells) none fun _ _ => 0).1
      rw [exact.sum, sumInt64Cells, int64Loop_eq, reduceOption_append, reduceOption_filter,
        foldlM_append, if_pos small] at same
      cases front : (cells.reduceOption.filter p).foldlM addChecked 0 with
      | error e =>
        rw [front] at same
        split at same <;> cases same
      | ok t =>
        obtain ⟨fits, rfl⟩ := foldlM_addChecked_ok front zero
        simpa using fits
    exact ⟨(within _).2, (within _).1⟩
  · rintro ⟨above, below⟩
    have run {other : List (Option Int)} (perm : other.Perm cells) (name : String) :
        IsInt64 cells.reduceOption.sum ∧
        int64Loop name addChecked (other.map int64Cell) 0 0 =
          .ok (cells.reduceOption.sum, cells.reduceOption.length) ∧
        int64Loop name addWrapped (other.map int64Cell) 0 0 =
          .ok (cells.reduceOption.sum, cells.reduceOption.length) := by
      have values : other.reduceOption.Perm cells.reduceOption := perm.filterMap id
      have checked : other.reduceOption.foldlM addChecked 0 = .ok (0 + other.reduceOption.sum) :=
        foldlM_addChecked_of_bounds (by simpa [(values.filter _).sum_eq] using above)
          (by simpa [(values.filter _).sum_eq] using below)
      have small := (foldlM_addChecked_ok checked zero).1
      rw [int64Loop_eq, int64Loop_eq, checked, foldlM_addWrapped (by decide),
        Int.bmod_eq_of_le small.1 small.2, ← values.sum_eq, ← values.length_eq]
      simpa [Except.map] using small
    obtain ⟨small, -, averaged⟩ := run (.refl _) "AVG"
    refine ⟨fun type => ?_, averaged, fun other perm type divide => ?_⟩
    · rw [sumInt64Cells, (run (.refl _) _).2.1]
      by_cases none : cells.reduceOption = [] <;> simp [none, small, bind, Except.bind, pure, Except.pure]
    · simp only [sumInt64Cells, avgInt64Cells, run perm _, run (.refl _) _, and_self]

/-- The sum fits, a partial sum does not; and AVG divides a negative total of positive numbers. -/
theorem partial_sum_overflows :
    sumInt64Cells none ([some (2 ^ 63 - 1), some 1, some (-1)].map int64Cell) = .error overflow ∧
    sumInt64Cells none ([some 1, some (-1), some (2 ^ 63 - 1)].map int64Cell) =
      .ok (.int64 (2 ^ 63 - 1)) ∧
    int64Loop "AVG" addWrapped ([some (2 ^ 63 - 1), some 1].map int64Cell) 0 0 = .ok (-2 ^ 63, 2) := by
  decide

end BigQueryEmulator.Semantic
