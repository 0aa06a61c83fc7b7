import Mathlib

/-! Lists sorted into buckets by a key, in the order they come. -/
namespace BigQueryEmulator.Buckets
open List
variable {κ α : Type} [DecidableEq κ]

/-- One more item at the end of a bucket. -/
def add (buckets : κ → List α) (key : κ) (x : α) : κ → List α :=
  fun k => if k = key then buckets k ++ [x] else buckets k

/-- Every item that has a key is put into its bucket. -/
def collect (key : α → Option κ) (buckets : κ → List α) : List α → κ → List α
  | [] => buckets
  | x :: rest =>
    match key x with
    | some k => collect key (add buckets k x) rest
    | none => collect key buckets rest

/-- A bucket holds the items of its key, in order. -/
theorem collect_apply (key : α → Option κ) (buckets : κ → List α) (xs : List α) (k : κ) :
    collect key buckets xs k = buckets k ++ xs.filter fun x => key x = some k := by
  induction xs generalizing buckets with
  | nil => simp [collect]
  | cons x rest ih =>
    rw [collect]
    cases found : key x with
    | none =>
      dsimp only
      rw [ih, filter_cons_of_neg (by simp [found])]
    | some own =>
      dsimp only
      rw [ih, add]
      by_cases same : k = own
      · rw [if_pos same, filter_cons_of_pos (by simp [found, same]), append_assoc,
          singleton_append]
      · rw [if_neg same, filter_cons_of_neg (by simpa [found] using Ne.symm same)]

end BigQueryEmulator.Buckets
