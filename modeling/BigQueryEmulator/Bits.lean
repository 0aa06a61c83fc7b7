import Mathlib

/-! The bits of machine words, the highest first, as lists: what is shifted into a word comes behind
what was there, and what overflows is lost at the front. -/
namespace BigQueryEmulator.Bits
open List

def low (x : BitVec w) (n : Nat) : List Bool := (range n).reverse.map x.getLsbD

@[simp] theorem length_low (x : BitVec w) (n : Nat) : (low x n).length = n := by simp [low]

theorem low_eq_iff {x : BitVec v} {y : BitVec w} :
    low x n = low y n ↔ ∀ i < n, x.getLsbD i = y.getLsbD i := by simp [low]

theorem low_injective {x y : BitVec w} (same : low x w = low y w) : x = y :=
  BitVec.eq_of_getLsbD_eq (low_eq_iff.mp same)

theorem low_add (x : BitVec w) (m n : Nat) : low x (m + n) = low (x >>> n) m ++ low x n := by
  simp [low, Nat.add_comm m n, range_add, Function.comp_def]

theorem low_setWidth (x : BitVec w) (fits : n ≤ v) : low (x.setWidth v) n = low x n :=
  low_eq_iff.mpr fun i below => by simp [Nat.lt_of_lt_of_le below fits]

theorem setWidth_mask (x : BitVec w) (k : Nat) :
    (x &&& BitVec.ofNat w (2 ^ k - 1)).setWidth k = x.setWidth k := by
  refine BitVec.eq_of_getLsbD_eq fun i below => ?_
  rw [BitVec.getLsbD_setWidth, BitVec.getLsbD_setWidth, BitVec.getLsbD_and, BitVec.getLsbD_ofNat,
    Nat.testBit_two_pow_sub_one]
  cases bit : x.getLsbD i with
  | false => rfl
  | true => simp [below, BitVec.lt_of_getLsbD bit]

theorem low_top (x : BitVec w) (fits : m + n ≤ w) :
    low x (m + n) = low ((x.sshiftRight n).setWidth m) m ++ low x n := by
  rw [low_add, low_setWidth _ (Nat.le_refl _)]
  refine congrArg (· ++ _) (low_eq_iff.mpr fun i below => ?_)
  rw [BitVec.getLsbD_sshiftRight, BitVec.getLsbD_ushiftRight, if_pos (by omega)]
  simp [show i < w by omega]

theorem low_shiftIn (x : BitVec w) (y : BitVec k) (fits : n + k ≤ w) :
    low (x <<< k ||| y.setWidth w) (n + k) = low x n ++ low y k := by
  rw [low_add]
  refine congrArg₂ _ (low_eq_iff.mpr fun i below => ?_) (low_eq_iff.mpr fun i below => ?_)
  · simp
    omega
  · simp [below]
    omega

theorem low_foldl_shiftIn (x : BitVec w) (ys : List (BitVec k)) (fits : n + k * ys.length ≤ w) :
    low (ys.foldl (fun x y => x <<< k ||| y.setWidth w) x) (n + k * ys.length) =
      low x n ++ ys.flatMap (low · k) := by
  induction ys generalizing x n with
  | nil => simp
  | cons y ys ih =>
    rw [length_cons, Nat.mul_succ] at fits ⊢
    rw [Nat.add_comm (k * _) k, ← Nat.add_assoc]  at fits ⊢
    rw [foldl_cons, ih _ fits, low_shiftIn x y (by omega), flatMap_cons, append_assoc]

theorem flatMap_low_shifted (x : BitVec w) (k m : Nat) :
    (range m).reverse.flatMap (fun i => low ((x >>> (k * i)).setWidth k) k) = low x (k * m) := by
  induction m with
  | zero => rfl
  | succ m ih =>
    rw [range_succ, reverse_append, flatMap_append, ih, Nat.mul_succ, Nat.add_comm, low_add,
      reverse_singleton, flatMap_singleton, low_setWidth _ (Nat.le_refl _)]

theorem flatMap_low_injective {xs ys : List (BitVec w)}
    (same : xs.flatMap (low · w) ++ rest = ys.flatMap (low · w) ++ more)
    (short : rest.length < w) (shorter : more.length < w) : xs = ys := by
  induction xs generalizing ys with
  | nil =>
    cases ys with
    | nil => rfl
    | cons y ys =>
      have := congrArg length same
      simp at this
      omega
  | cons x xs ih =>
    cases ys with
    | nil =>
      have := congrArg length same
      simp at this
      omega
    | cons y ys =>
      simp only [flatMap_cons, append_assoc] at same
      obtain ⟨first, others⟩ := append_inj same (by simp)
      rw [low_injective first, ih others]

end BigQueryEmulator.Bits
