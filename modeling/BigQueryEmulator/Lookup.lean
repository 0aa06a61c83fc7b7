import Mathlib

/-! Lists that are searched for the first item of a kind, after the first item of another kind
was taken out. -/
namespace BigQueryEmulator.Lookup
open List
variable {α : Type*} {p q : α → Bool} {xs : List α} {x : α}

theorem eraseP_of_eq (same : ∀ x ∈ xs, p x = q x) : xs.eraseP p = xs.eraseP q := by
  induction xs with
  | nil => rfl
  | cons x rest ih =>
    rw [eraseP_cons, eraseP_cons, same x (.head _),
      ih (forall_mem_cons.mp same).2]

theorem find?_eraseP_of_other (other : ∀ x ∈ xs.find? q, p x = false) :
    (xs.eraseP q).find? p = xs.find? p := by
  induction xs with
  | nil => rfl
  | cons x rest ih =>
    by_cases taken : q x
    · have unsearched : p x = false := other x (find?_cons_of_pos taken)
      rw [eraseP_cons_of_pos taken, find?_cons_of_neg (by rw [unsearched]; simp)]
    · rw [find?_cons_of_neg taken] at other
      rw [eraseP_cons_of_neg taken, find?_cons, find?_cons, ih other]

theorem find?_eraseP_of_hit (once : xs.Pairwise fun x y => ¬(p x ∧ p y))
    (hit : xs.find? q = some x) (searched : p x) : (xs.eraseP q).find? p = none := by
  induction xs with
  | nil => cases hit
  | cons y rest ih =>
    obtain ⟨first, once⟩ := pairwise_cons.mp once
    by_cases taken : q y
    · rw [find?_cons_of_pos taken] at hit
      cases hit
      rw [eraseP_cons_of_pos taken, find?_eq_none]
      exact fun z member found => first z member ⟨searched, found⟩
    · rw [find?_cons_of_neg taken] at hit
      have different : ¬ p y := fun found =>
        first x (mem_of_find?_eq_some hit) ⟨found, searched⟩
      rw [eraseP_cons_of_neg taken, find?_cons_of_neg different]
      exact ih once hit

theorem pairwise_concat (related : xs.Pairwise R) (last : ∀ y ∈ xs, R y x) :
    (xs ++ [x]).Pairwise R := by
  refine pairwise_append.mpr ⟨related, pairwise_singleton R x, fun y member z new => ?_⟩
  rw [mem_singleton] at new
  subst new
  exact last y member

theorem lookup_eq_some_iff_mem [BEq α] [LawfulBEq α] {entries : List (α × β)}
    (distinct : (entries.map Prod.fst).Nodup) :
    entries.lookup key = some value ↔ (key, value) ∈ entries := by
  rw [lookup_eq_some_iff]
  constructor
  · rintro ⟨before, rest, rfl, _⟩
    exact mem_append_right _ (.head _)
  · intro among
    obtain ⟨before, rest, rfl⟩ := append_of_mem among
    rw [map_append, nodup_append] at distinct
    refine ⟨before, rest, rfl, fun entry earlier => ?_⟩
    simpa using (distinct.2.2 _ (mem_map_of_mem earlier) key (.head _)).symm

end BigQueryEmulator.Lookup
