import BigQueryEmulator.Engine.RouteClassifier

/-! The order of analytic functions (`transpiler_emit_analytic.cc`, `transpiler_scan_tree.cc`). The
functions of a window share one ORDER BY clause, which may end with the number of the input row to
break ties. -/
namespace BigQueryEmulator.Engine
open List

inductive Ranking where
  | rank | denseRank | percentRank | cumeDist

inductive AnalyticName where
  | ranking (function : Ranking)
  | rowNumber | ntile | lag | lead | firstValue | lastValue | nthValue | percentileDisc | other

structure AnalyticFunctionCall where
  name : AnalyticName
  respectNulls : Bool := false
  frameUnit : Option FrameUnit := none

namespace AnalyticFunctionCall

def isNavigation (call : AnalyticFunctionCall) : Bool :=
  match call.name with
  | .lag | .lead | .firstValue | .lastValue | .nthValue => true
  | _ => false

def isNumbering (call : AnalyticFunctionCall) : Bool :=
  match call.name with
  | .percentileDisc | .other => false
  | _ => true

end AnalyticFunctionCall

/-- A column with its direction and the place of its NULLs, or `__bq_input_rn`. -/
inductive OrderKey (Item : Type) where
  | item (item : Item)
  | inputRn

structure AnalyticFunctionGroup (Item : Type) where
  orderBy : Option (List Item)
  functions : List AnalyticFunctionCall

variable {Item : Type}

def buildOrderClause (orderBy : Option (List Item)) (appendInputRn : Bool) :
    List (OrderKey Item) :=
  match orderBy with
  | none => []
  | some items => items.map .item ++ if appendInputRn then [.inputRn] else []

namespace AnalyticFunctionGroup
variable (group : AnalyticFunctionGroup Item)

def analyticOrderNeedsInputRn : Bool := group.functions.any (·.isNavigation)

def analyticGroupNeedsInputRnForEmptyOrder : Bool :=
  group.orderBy.all (·.isEmpty) && group.functions.any (·.isNumbering)

def analyticGroupHasRangeFrame : Bool := group.functions.any (·.frameUnit = some .range)

/-- The order that `AppendAnalyticGroupProjections` gives to a function. -/
def effectiveOrder (call : AnalyticFunctionCall) : List (OrderKey Item) :=
  match call.name, call.respectNulls with
  | .percentileDisc, true => []
  | _, _ => buildOrderClause group.orderBy (!group.analyticGroupHasRangeFrame &&
      (group.analyticOrderNeedsInputRn || group.analyticGroupNeedsInputRnForEmptyOrder))

def ownKeys : List Item := group.orderBy.getD []

/-- Nothing asks for the number of the input row, or there is no ORDER BY or a RANGE frame. -/
def OrdersByOwnKeys : Prop :=
  group.orderBy = none ∨ group.analyticGroupHasRangeFrame = true ∨
    group.orderBy ≠ some [] ∧ ∀ other ∈ group.functions, other.isNavigation = false

end AnalyticFunctionGroup

/-- What DuckDB computes for a row, out of the sort keys of its partition and its own. -/
def Ranking.evaluate [LinearOrder κ] (partition : List κ) (row : κ) : Ranking → ℚ
  | .rank => partition.countP (· < row) + 1
  | .denseRank => partition.dedup.countP (· < row) + 1
  | .percentRank => partition.countP (· < row) / (partition.length - 1)
  | .cumeDist => partition.countP (· ≤ row) / partition.length

theorem Ranking.evaluate_ne [LinearOrder κ] {a b : κ} (less : a < b) (function : Ranking) :
    function.evaluate [a, b] a ≠ function.evaluate [a, b] b := by
  cases function <;>
    norm_num [evaluate, less, less.le, less.ne, less.not_gt, less.not_ge]

/-- Rows that agree in the items get the same result in every partition. A row is given by the
places of its cells in the order of each key. -/
def RanksAlike (items : List Item) (keys : List (OrderKey Item)) (function : Ranking) : Prop :=
  ∀ (rows : List (OrderKey Item → ℕ)), ∀ r ∈ rows, ∀ s ∈ rows,
    (∀ item ∈ items, r (.item item) = s (.item item)) →
      function.evaluate (rows.map (keys.map ·)) (keys.map r) =
        function.evaluate (rows.map (keys.map ·)) (keys.map s)

/-- A row whose cells all come first. -/
def numberedRow (n : ℕ) : OrderKey Item → ℕ
  | .item _ => 0
  | .inputRn => n

theorem ranksAlike_iff (orderBy : Option (List Item)) (appendInputRn : Bool)
    (function : Ranking) :
    RanksAlike (orderBy.getD []) (buildOrderClause orderBy appendInputRn) function ↔
      buildOrderClause orderBy appendInputRn = (orderBy.getD []).map .item := by
  constructor
  · intro alike
    cases orderBy with
    | none => rfl
    | some items =>
      cases appendInputRn with
      | false => exact append_nil _
      | true =>
        -- two rows that differ in their numbers only
        have keys (n : ℕ) : (buildOrderClause (some items) true).map (numberedRow n) =
            items.map (fun _ => 0) ++ [n] := by
          simp [buildOrderClause, Function.comp_def, numberedRow]
        have equal := alike [numberedRow 0, numberedRow 1] _ (.head _) _ (.tail _ (.head _))
          fun _ _ => rfl
        simp only [map_cons, map_nil, keys] at equal
        exact absurd equal (Ranking.evaluate_ne (append_left_lt (by decide)) function)
  · intro own rows r _ s _ same
    have keys : ((orderBy.getD []).map .item).map r = ((orderBy.getD []).map .item).map s := by
      simpa using same
    rw [own, keys]

/-- A ranking function may rank by more than the keys of its window, as if it were a navigation
function that shares it. -/
theorem ranking_order_iff (group : AnalyticFunctionGroup Item) (call : AnalyticFunctionCall)
    (member : call ∈ group.functions) (ranks : call.name = .ranking function) :
    (group.effectiveOrder call = group.ownKeys.map .item ↔ group.OrdersByOwnKeys) ∧
      (RanksAlike group.ownKeys (group.effectiveOrder call) function ↔ group.OrdersByOwnKeys) := by
  have numbering : group.functions.any (·.isNumbering) = true :=
    any_eq_true.mpr ⟨call, member, by rw [AnalyticFunctionCall.isNumbering, ranks]⟩
  rw [AnalyticFunctionGroup.effectiveOrder, ranks, AnalyticFunctionGroup.ownKeys, ranksAlike_iff,
    and_self, AnalyticFunctionGroup.analyticGroupNeedsInputRnForEmptyOrder, numbering,
    AnalyticFunctionGroup.OrdersByOwnKeys, AnalyticFunctionGroup.analyticOrderNeedsInputRn]
  rcases group.orderBy with _ | items
  · exact iff_of_true rfl (.inl rfl)
  · cases group.analyticGroupHasRangeFrame <;> simp [buildOrderClause, and_comm]

theorem rank_beside_row_number :
    RanksAlike [()] (AnalyticFunctionGroup.effectiveOrder
      ⟨some [()], [⟨.ranking .rank, false, none⟩, ⟨.rowNumber, false, none⟩]⟩
      ⟨.ranking .rank, false, none⟩) .rank :=
  (ranking_order_iff ⟨some [()], [⟨.ranking .rank, false, none⟩, ⟨.rowNumber, false, none⟩]⟩ _
    (.head _) rfl).2.mpr (.inr (.inr ⟨by decide, by decide⟩))

/-- Two rows with the same key have the ranks 1 and 2. -/
theorem rank_beside_lag :
    AnalyticFunctionGroup.effectiveOrder
        ⟨some [()], [⟨.ranking .rank, false, none⟩, ⟨.lag, false, none⟩]⟩
        ⟨.ranking .rank, false, none⟩ = [.item (), .inputRn] ∧
      Ranking.rank.evaluate [[0, 1], [0, 2]] [0, 1] = 1 ∧
      Ranking.rank.evaluate [[0, 1], [0, 2]] [0, 2] = 2 := by
  exact ⟨rfl, by decide +kernel, by decide +kernel⟩

end BigQueryEmulator.Engine
