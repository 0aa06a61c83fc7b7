import BigQueryEmulator.Semantic.Exprs

/-! DIV and MOD of the semantic executor (`operator_math_funcs.cc`). -/
namespace BigQueryEmulator.Semantic
open Storage (Status)

/-- Functions of GoogleSQL: `BigNumericValue::FromDouble`, `ToNumericValue`, `Mod` of both types on
their digits, which truncates, and the names of the types. -/
structure Numerics where
  fromDouble : UInt64 → Except Status Int
  toNumericValue : Int → Except Status Int
  mod : Int → Int → Int
  mod_eq : ∀ x y, y ≠ 0 → mod x y = x.tmod y
  typeName : TypeKind → String

variable (lib : Numerics) {x y : Int}

def cannotCoerce (v : Value) (target : String) : Except Status Int :=
  .error (semanticError .invalidArgument
    ("cannot coerce " ++ lib.typeName v.kind ++ " to " ++ target))

/-- A BIGNUMERIC has 38 digits after the point, a NUMERIC has 9. -/
def valueToBigNumeric : Value → Except Status Int
  | .scalar .bignumeric digits => .ok digits
  | .scalar .numeric digits => .ok (digits * 10 ^ 29)
  | .int64 n => .ok (n * 10 ^ 38)
  | .double bits => lib.fromDouble bits
  | v => cannotCoerce lib v "BIGNUMERIC"

def valueToNumeric : Value → Except Status Int
  | .scalar .numeric digits => .ok digits
  | .int64 n => .ok (n * 10 ^ 9)
  | .scalar .bignumeric digits => lib.toNumericValue digits
  | v => cannotCoerce lib v "NUMERIC"

def divisionByZero (name : String) : Status :=
  semanticError .invalidArgument ("division by zero: " ++ name)

/-- `ModBigNumericValues` and `ModNumericValues`. -/
def modDigits (kind : TypeKind) (convert : Value → Except Status Int) (lhs rhs : Value) :
    Except Status Value := do
  let lhs ← convert lhs
  let rhs ← convert rhs
  if rhs = 0 then throw (divisionByZero "MOD")
  return .scalar kind (lib.mod lhs rhs)

/-- What C++ leaves undefined of `/` and `%` on `int64_t` has no answer. -/
def int64Op (op : Int → Int → Int) (x y : Int) : Option Int :=
  if x = -2 ^ 63 ∧ y = -1 then none else some (op x y)

def div : List Value → Option (Except Status Value)
  | [a, b] =>
    if a.isNull || b.isNull then some (.ok (.null .int64))
    else match a, b with
      | .int64 dividend, .int64 divisor =>
        if divisor = 0 then some (.error (divisionByZero "DIV"))
        else (int64Op Int.tdiv dividend divisor).map fun quotient => .ok (.int64 quotient)
      | _, _ => some (.error (semanticError .invalidArgument "DIV requires INT64 operands"))
  | _ => some (.error (semanticError .invalidArgument "DIV expects exactly two arguments"))

def mod : List Value → Option (Except Status Value)
  | [a, b] =>
    if a.isNull || b.isNull then some (.ok (.null a.kind))
    else if a.kind = .bignumeric ∨ b.kind = .bignumeric then
      some (modDigits lib .bignumeric (valueToBigNumeric lib) a b)
    else if a.kind = .numeric ∨ b.kind = .numeric then
      some (modDigits lib .numeric (valueToNumeric lib) a b)
    else match a, b with
      | .int64 dividend, .int64 divisor =>
        if divisor = 0 then some (.error (divisionByZero "MOD"))
        else (int64Op Int.tmod dividend divisor).map fun remainder =>
          .ok (.int64 (if remainder < 0 ∧ 0 < divisor ∨ 0 < remainder ∧ divisor < 0 then
            remainder + divisor else remainder))
      | _, _ => some (.error (semanticError .invalidArgument "MOD requires numeric operands"))
  | _ => some (.error (semanticError .invalidArgument "MOD expects exactly two arguments"))

/-- Quotient and remainder are those of a division that truncates, and the remainder is that of
the same NUMERICs; the one quotient that is no INT64 is an error. -/
def Truncates (x y : Int) : Prop :=
  if x = -2 ^ 63 ∧ y = -1 then
    (∃ status, div [.int64 x, .int64 y] = some (.error status)) ∧
      mod lib [.int64 x, .int64 y] = some (.ok (.int64 0))
  else ∃ q r, div [.int64 x, .int64 y] = some (.ok (.int64 q)) ∧
    mod lib [.int64 x, .int64 y] = some (.ok (.int64 r)) ∧
    q * y + r = x ∧ r.natAbs < y.natAbs ∧ (r = 0 ∨ (0 < r ↔ 0 < x)) ∧
    mod lib [.scalar .numeric (10 ^ 9 * x), .scalar .numeric (10 ^ 9 * y)] =
      some (.ok (.scalar .numeric (10 ^ 9 * r)))

theorem tmod_sign (x y : Int) : x.tmod y = 0 ∨ (0 < x.tmod y ↔ 0 < x) := by
  rcases Int.le_total 0 x with positive | negative
  · have := Int.tmod_nonneg y positive
    by_cases zero : x = 0
    · rw [zero, Int.zero_tmod]
      exact .inl rfl
    · omega
  · have := Int.tmod_nonneg y (Int.neg_nonneg_of_nonpos negative)
    rw [Int.neg_tmod] at this
    omega

section
variable (nonzero : y ≠ 0)
include nonzero

theorem mod_numerics :
    mod lib [.scalar .numeric (10 ^ 9 * x), .scalar .numeric (10 ^ 9 * y)] =
      some (.ok (.scalar .numeric (10 ^ 9 * x.tmod y))) := by
  have scaled : 10 ^ 9 * y ≠ 0 := by omega
  rw [← Int.mul_tmod_mul_of_pos _ _ (by decide : (0 : Int) < 10 ^ 9), ← lib.mod_eq _ _ scaled]
  change some (if 10 ^ 9 * y = 0 then _ else _) = _
  rw [if_neg scaled]
  rfl

/-- MOD moves the remainder by the divisor where their signs differ. -/
theorem truncates_iff :
    Truncates lib x y ↔ ¬ (x = -2 ^ 63 ∧ y = -1) ∧ (y ∣ x ∨ (0 < x ↔ 0 < y)) := by
  by_cases extreme : x = -2 ^ 63 ∧ y = -1
  · obtain ⟨rfl, rfl⟩ := extreme
    simp [Truncates, div, Value.isNull, int64Op]
  have quotient : div [.int64 x, .int64 y] = some (.ok (.int64 (x.tdiv y))) := by
    change (if y = 0 then _ else _) = _
    rw [if_neg nonzero, int64Op, if_neg extreme]
    rfl
  have remainder : mod lib [.int64 x, .int64 y] = some (.ok (.int64
      (if x.tmod y < 0 ∧ 0 < y ∨ 0 < x.tmod y ∧ y < 0 then x.tmod y + y else x.tmod y))) := by
    change (if y = 0 then _ else _) = _
    rw [if_neg nonzero, int64Op, if_neg extreme]
    rfl
  have identity := Int.tdiv_mul_add_tmod x y
  have sign := tmod_sign x y
  rw [Truncates, if_neg extreme, quotient, remainder, mod_numerics lib nonzero,
    Int.dvd_iff_tmod_eq_zero]
  constructor
  · rintro ⟨q, r, ⟨⟩, ⟨⟩, sum, -⟩
    refine ⟨extreme, ?_⟩
    split at sum <;> omega
  · rintro ⟨-, alike⟩
    have small : (x.tmod y).natAbs < y.natAbs := by
      rw [Int.natAbs_tmod]
      exact Nat.mod_lt _ (by omega)
    refine ⟨_, x.tmod y, rfl, ?_, identity, small, sign, rfl⟩
    rw [if_neg (by omega)]

end

theorem negative_operands_truncate :
    Truncates ⟨fun _ => .ok 0, .ok, Int.tmod, fun _ _ _ => rfl, fun _ => ""⟩ (-7) (-2) :=
  (truncates_iff _ (by decide)).mpr ⟨by decide, .inr (by decide)⟩

/-- -7 is -3 times 2 and -1, but MOD answers 1. -/
theorem negative_mod : div [.int64 (-7), .int64 2] = some (.ok (.int64 (-3))) ∧
    ∀ lib, mod lib [.int64 (-7), .int64 2] = some (.ok (.int64 1)) := ⟨rfl, fun _ => rfl⟩

end BigQueryEmulator.Semantic
