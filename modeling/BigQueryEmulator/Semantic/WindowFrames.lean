import BigQueryEmulator.Semantic.Exprs

/-! The rows of a window frame (`scan_eval_analytic_aggregate.cc`). A partition is the list of its
rows' indices in order; the layout has numbered them from 1. -/
namespace BigQueryEmulator.Semantic
open Storage (Status)
open List

inductive FrameBound (Offset : Type) where
  | unboundedPreceding
  | preceding (offset : Offset)
  | currentRow
  | following (offset : Offset)
  | unboundedFollowing

variable (truncate : UInt64 → Int)

/-- `truncate` is the cast of a double to `int64_t`. -/
def evalFrameOffsetInt64 (offset : Except Status Value) :
    Except Status Int := do
  match ← offset with
  | .null _ => .error (semanticError .invalidArgument "frame offset must not be NULL")
  | .int64 n => .ok n
  | .double bits => .ok (truncate bits)
  | _ => .error (semanticError .invalidArgument "frame offset must be INT64")

/-- Sums and differences of `int64_t` go round. -/
def rowsBoundRn (currentRn maxRn : Int) :
    FrameBound (Except Status Value) → Except Status Int
  | .unboundedPreceding => .ok 1
  | .unboundedFollowing => .ok maxRn
  | .currentRow => .ok currentRn
  | .preceding offset => do
    let rn := Int.bmod (currentRn - (← evalFrameOffsetInt64 truncate offset)) (2 ^ 64)
    .ok (if rn < 1 then 1 else rn)
  | .following offset => do
    let rn := Int.bmod (currentRn + (← evalFrameOffsetInt64 truncate offset)) (2 ^ 64)
    .ok (if rn > maxRn then maxRn else rn)

/-- `current` is `ordered[cur_pos]`. -/
def resolveRowsFrame (start stop : FrameBound (Except Status Value))
    (rowNumbers : Nat → Int) (ordered : List Nat) (current : Nat) : Except Status (List Nat) := do
  let first ← rowsBoundRn truncate (rowNumbers current) ordered.length start
  let last ← rowsBoundRn truncate (rowNumbers current) ordered.length stop
  .ok (ordered.filter fun idx => first ≤ rowNumbers idx ∧ rowNumbers idx ≤ last)

namespace FrameBound

def literal : FrameBound Nat → FrameBound (Except Status Value)
  | .unboundedPreceding => .unboundedPreceding
  | .preceding n => .preceding (.ok (.int64 n))
  | .currentRow => .currentRow
  | .following n => .following (.ok (.int64 n))
  | .unboundedFollowing => .unboundedFollowing

/-- The position of the bound by the rule of SQL, which may lie outside of the partition. -/
def position (current size : Int) : FrameBound Nat → Int
  | .unboundedPreceding => 1
  | .preceding n => current - n
  | .currentRow => current
  | .following n => current + n
  | .unboundedFollowing => size

def IsInt64 : FrameBound Nat → Prop
  | .preceding n | .following n => n < 2 ^ 63
  | _ => True

/-- A bound outside of the partition is pulled back to its first or last row; one that overflows
comes before the first. -/
theorem rowsBoundRn_literal {bound : FrameBound Nat}
    (int64 : bound.IsInt64) (lower : 1 ≤ current) (upper : current ≤ size) (small : size < 2 ^ 63) :
    ∃ rn, rowsBoundRn truncate current size bound.literal = .ok rn ∧
      (2 ^ 63 ≤ bound.position current size ∧ rn < 1 ∨
        bound.position current size < 2 ^ 63 ∧ 1 ≤ rn ∧ rn ≤ size ∧
          (rn = bound.position current size ∨ bound.position current size < 1 ∧ rn = 1 ∨
            size < bound.position current size ∧ rn = size)) := by
  cases bound with
  | unboundedPreceding | currentRow | unboundedFollowing =>
    exact ⟨_, rfl, .inr ⟨by simp only [position]; omega, by omega, by omega, .inl rfl⟩⟩
  | preceding n =>
    refine ⟨_, rfl, ?_⟩
    simp only [IsInt64, position] at *
    have exact : Int.bmod (current - n) (2 ^ 64) = current - n := by rw [Int.bmod]; omega
    split <;> omega
  | following n =>
    refine ⟨_, rfl, ?_⟩
    simp only [IsInt64, position] at *
    have wrapped : Int.bmod (current + n) (2 ^ 64) =
        if 2 ^ 63 ≤ current + n then current + n - 2 ^ 64 else current + n := by
      rw [Int.bmod]
      omega
    rw [wrapped]
    split <;> split <;> omega

end FrameBound

/-- The layout numbers the rows of a partition by their positions. -/
def Numbered (rowNumbers : Nat → Int) (ordered : List Nat) : Prop :=
  ∀ (pos : Nat) idx, ordered[pos]? = some idx → rowNumbers idx = pos + 1

theorem Numbered.bounds (numbered : Numbered rowNumbers ordered) (within : idx ∈ ordered) :
    1 ≤ rowNumbers idx ∧ rowNumbers idx ≤ ordered.length := by
  obtain ⟨pos, found⟩ := mem_iff_getElem?.mp within
  have below := (List.getElem?_eq_some_iff.mp found).1
  rw [numbered pos idx found]
  omega

theorem Numbered.filter_eq_iff (numbered : Numbered rowNumbers ordered) (p q : Int → Prop)
    [DecidablePred p] [DecidablePred q] :
    (ordered.filter fun idx => p (rowNumbers idx)) = ordered.filter (fun idx => q (rowNumbers idx)) ↔
      ∀ rn : Int, 1 ≤ rn → rn ≤ ordered.length → (p rn ↔ q rn) := by
  constructor
  · intro same rn lower upper
    have below : (rn - 1).toNat < ordered.length := by omega
    obtain ⟨idx, found⟩ : ∃ idx, ordered[(rn - 1).toNat]? = some idx :=
      ⟨_, getElem?_eq_getElem below⟩
    have number : rowNumbers idx = rn := (numbered _ _ found).trans (by omega)
    have both := congrArg (idx ∈ ·) same
    simpa [number, mem_of_getElem? found] using both
  · intro same
    refine filter_congr fun idx within => decide_eq_decide.mpr ?_
    exact same _ (numbered.bounds within).1 (numbered.bounds within).2

/-- The frame has exactly the rows between its bounds unless a bound outside of the partition
was pulled back to a row that is then in the frame, or an offset is too large to be added. -/
theorem rows_frame_iff (truncate : UInt64 → Int) (start stop : FrameBound Nat)
    (numbered : Numbered rowNumbers ordered) (within : current ∈ ordered)
    (small : ordered.length < 2 ^ 63) (starts : start.IsInt64) (stops : stop.IsInt64) :
    let first := start.position (rowNumbers current) ordered.length
    let last := stop.position (rowNumbers current) ordered.length
    resolveRowsFrame truncate start.literal stop.literal rowNumbers ordered current =
        .ok (ordered.filter fun idx => first ≤ rowNumbers idx ∧ rowNumbers idx ≤ last) ↔
      (2 ^ 63 ≤ last → ordered.length < first) ∧
      (last < 2 ^ 63 → first < 2 ^ 63 ∧
        (ordered.length < first → last < ordered.length ∧ ordered.length ≠ 1) ∧
        (last < 1 → 1 < first ∧ ordered.length ≠ 1)) := by
  intro first last
  obtain ⟨lower, upper⟩ := numbered.bounds within
  obtain ⟨low, lowRan, lowIs⟩ := FrameBound.rowsBoundRn_literal truncate starts lower upper
    (by omega)
  obtain ⟨high, highRan, highIs⟩ := FrameBound.rowsBoundRn_literal truncate stops lower upper
    (by omega)
  have ran : resolveRowsFrame truncate start.literal stop.literal rowNumbers ordered current =
      .ok (ordered.filter fun idx => low ≤ rowNumbers idx ∧ rowNumbers idx ≤ high) := by
    rw [resolveRowsFrame, lowRan, highRan]
    rfl
  rw [ran, Except.ok.injEq, numbered.filter_eq_iff (fun rn => low ≤ rn ∧ rn ≤ high)
    (fun rn => first ≤ rn ∧ rn ≤ last)]
  constructor
  · intro same
    -- the first and the last row tell
    have atFirst := same 1 (by omega) (by omega)
    have atLast := same ordered.length (by omega) (by omega)
    omega
  · intro right rn above below
    omega

theorem neighbours_framed :
    resolveRowsFrame (fun _ => 0) (.preceding (.ok (.int64 1))) (.following (.ok (.int64 1)))
      (· + 1) (range 4) 1 = .ok [0, 1, 2] :=
  (rows_frame_iff _ (.preceding 1) (.following 1)
    (fun pos idx found => by rw [← (List.getElem?_eq_some_iff.mp found).2, List.getElem_range])
    (by decide) (by decide) (by decide : 1 < 2 ^ 63) (by decide : 1 < 2 ^ 63)).mpr (by decide)

/-- `ROWS BETWEEN 2 PRECEDING AND 1 PRECEDING` has the first row in its own frame. -/
theorem first_row_framed :
    resolveRowsFrame (fun _ => 0) (.preceding (.ok (.int64 2))) (.preceding (.ok (.int64 1)))
        (· + 1) [0, 1] 0 = .ok [0] ∧
      [0, 1].filter (fun idx : Nat => (0 + 1 - 2 : Int) ≤ idx + 1 ∧ (idx + 1 : Int) ≤ 0 + 1 - 1) = [] :=
  ⟨rfl, rfl⟩

end BigQueryEmulator.Semantic
