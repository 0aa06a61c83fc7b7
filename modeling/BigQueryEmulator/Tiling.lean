import Mathlib

/-! Lists of cells that tile a whole: every point of it lies in exactly one cell. -/
namespace BigQueryEmulator.Tiling
variable {α : Type}

def Tiles (cells : List (Set α)) (whole : Set α) : Prop :=
  cells.Pairwise Disjoint ∧ ∀ x, x ∈ whole ↔ ∃ cell ∈ cells, x ∈ cell

theorem Tiles.nil : Tiles ([] : List (Set α)) ∅ := ⟨.nil, by simp⟩

theorem Tiles.perm (tiles : Tiles cells whole) (same : cells.Perm other) : Tiles other whole := by
  refine ⟨(same.pairwise_iff (fun apart => apart.symm)).mp tiles.1, ?_⟩
  intro x
  rw [tiles.2 x]
  exact exists_congr (fun cell => and_congr_left (fun _ => same.mem_iff))

theorem Tiles.append (tiles : Tiles cells whole) (outside : Disjoint whole cell) :
    Tiles (cells ++ [cell]) (whole ∪ cell) := by
  refine ⟨List.pairwise_append.mpr ⟨tiles.1, List.pairwise_singleton _ _, ?_⟩, ?_⟩
  · intro old member new single
    rw [List.mem_singleton.mp single]
    have inside : old ⊆ whole := fun x held => (tiles.2 x).mpr ⟨old, member, held⟩
    exact outside.mono_left inside
  · intro x
    simp only [Set.mem_union, tiles.2 x, List.mem_append, List.mem_singleton]
    constructor
    · rintro (⟨old, member, held⟩ | held)
      · exact ⟨old, .inl member, held⟩
      · exact ⟨cell, .inr rfl, held⟩
    · rintro ⟨old, member | rfl, held⟩
      · exact .inl ⟨old, member, held⟩
      · exact .inr held

theorem Tiles.split (tiles : Tiles ((first ∪ second) :: cells) whole)
    (apart : Disjoint first second) : Tiles (first :: second :: cells) whole := by
  obtain ⟨head, rest⟩ := List.pairwise_cons.mp tiles.1
  refine ⟨?_, ?_⟩
  · refine List.pairwise_cons.mpr ⟨?_, List.pairwise_cons.mpr ⟨?_, rest⟩⟩
    · refine List.forall_mem_cons.mpr ⟨apart, fun other member => ?_⟩
      exact (head other member).mono_left Set.subset_union_left
    · intro other member
      exact (head other member).mono_left Set.subset_union_right
  · intro x
    rw [tiles.2 x]
    simp [or_assoc]

theorem Tiles.disjoint {parts : List ι}
    (tiles : Tiles (parts.map range) whole) (first : a ∈ parts) (second : b ∈ parts)
    (different : a ≠ b) : Disjoint (range a) (range b) := by
  have symmetric : Std.Symm (fun a b => Disjoint (range a) (range b)) :=
    ⟨fun _ _ apart => apart.symm⟩
  exact (List.pairwise_map.mp tiles.1).forall first second different

section
variable [LinearOrder α] {cells : List (Set α)}

theorem Tiles.steps {bound : Nat → α} (monotone : Monotone bound) (count : Nat) :
    Tiles ((List.range count).map (fun i => Set.Ico (bound i) (bound (i + 1))))
      (Set.Ico (bound 0) (bound count)) := by
  induction count with
  | zero =>
    rw [Set.Ico_self]
    exact Tiles.nil
  | succ count ih =>
    rw [List.range_succ, List.map_append, ← Set.Ico_union_Ico_eq_Ico
      (monotone (Nat.zero_le count)) (monotone (Nat.le_succ count))]
    exact ih.append Set.Ico_disjoint_Ico_same

theorem Tiles.cut (tiles : Tiles (Set.Ico a c :: cells) whole) (lower : a ≤ b) (upper : b ≤ c) :
    Tiles (Set.Ico a b :: Set.Ico b c :: cells) whole := by
  rw [← Set.Ico_union_Ico_eq_Ico lower upper] at tiles
  exact tiles.split Set.Ico_disjoint_Ico_same

end
end BigQueryEmulator.Tiling
