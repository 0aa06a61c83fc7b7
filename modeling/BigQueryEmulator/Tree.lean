import Mathlib

/-! Finite trees whose parts stand under the name of the field they fill. A fold sees, at each
node, the whole tree there and the results for its parts. -/
namespace BigQueryEmulator

inductive Tree (φ α : Type) where
  | node (data : α) (parts : List (φ × Tree φ α))

namespace Tree

variable {φ α β : Type}

def data : Tree φ α → α
  | .node data _ => data

def parts : Tree φ α → List (φ × Tree φ α)
  | .node _ parts => parts

section

variable [DecidableEq φ]

/-- The trees in a field, in order. -/
def list (tree : Tree φ α) (field : φ) : List (Tree φ α) :=
  (tree.parts.filter fun part => part.1 = field).map (·.2)

/-- The tree in a field that holds at most one. -/
def part? (tree : Tree φ α) (field : φ) : Option (Tree φ α) := (tree.list field).head?

end

mutual

def fold (step : Tree φ α → List (φ × β) → β) : Tree φ α → β
  | .node data parts => step (.node data parts) (foldEach step parts)

def foldEach (step : Tree φ α → List (φ × β) → β) : List (φ × Tree φ α) → List (φ × β)
  | [] => []
  | (field, tree) :: rest => (field, fold step tree) :: foldEach step rest

end

variable (step : Tree φ α → List (φ × β) → β)

theorem foldEach_eq_map (parts : List (φ × Tree φ α)) :
    foldEach step parts = parts.map fun part => (part.1, fold step part.2) := by
  induction parts with
  | nil => rfl
  | cons part rest ih => rw [foldEach, ih, List.map_cons]

variable (tree : Tree φ α)

theorem fold_eq :
    fold step tree = step tree (tree.parts.map fun part => (part.1, fold step part.2)) := by
  cases tree with
  | node data parts => rw [fold, foldEach_eq_map, Tree.parts]

/-- What holds of a tree whenever it holds of its parts holds of every tree. -/
theorem induct {motive : Tree φ α → Prop}
    (step : ∀ tree, (∀ part ∈ tree.parts, motive part.2) → motive tree) (tree : Tree φ α) :
    motive tree := by
  match tree with
  | .node data parts =>
    apply step
    intro part member
    exact induct step part.2
termination_by tree
decreasing_by
  have smaller := List.sizeOf_lt_of_mem member
  obtain ⟨field, tree⟩ := part
  simp only [Prod.mk.sizeOf_spec, Tree.node.sizeOf_spec, Tree.parts] at smaller ⊢
  omega

/-- The tree itself, its parts, their parts and so on. -/
inductive Within : Tree φ α → Tree φ α → Prop where
  | self (tree : Tree φ α) : Within tree tree
  | part {inner tree : Tree φ α} {part : φ × Tree φ α} (member : part ∈ tree.parts)
      (inside : Within inner part.2) : Within inner tree

theorem forall_within_iff {p : Tree φ α → Prop} :
    (∀ inner, Within inner tree → p inner) ↔
      p tree ∧ ∀ part ∈ tree.parts, ∀ inner, Within inner part.2 → p inner := by
  constructor
  · intro all
    exact ⟨all tree (.self tree), fun part member inner inside => all inner (.part member inside)⟩
  · rintro ⟨here, below⟩ inner inside
    cases inside with
    | self => exact here
    | part member inside => exact below _ member inner inside

/-- A check made at every node of the tree. -/
def all (p : Tree φ α → Bool) : Tree φ α → Bool :=
  fold fun tree results => p tree && results.all (·.2)

theorem all_iff {p : Tree φ α → Bool} :
    tree.all p = true ↔ ∀ inner, Within inner tree → p inner = true := by
  induction tree using induct with
  | step tree ih =>
    rw [forall_within_iff, all, fold_eq]
    simp only [Bool.and_eq_true, List.all_map, List.all_eq_true, Function.comp_apply]
    exact and_congr_right fun _ => forall₂_congr ih

end Tree

end BigQueryEmulator
