import Mathlib

/-! Stable sorting by a three-way comparison. -/
namespace BigQueryEmulator.Sorting
open Std List
variable {α : Type}

/-- A sorted rearrangement in which items that compare equal keep their order. -/
structure IsStableSort (cmp : α → α → Ordering) (input output : List α) : Prop where
  perm : output.Perm input
  sorted : output.Pairwise fun a b => (cmp a b).isLE = true
  stable : ∀ a, output.filter (fun b => decide (cmp a b = .eq)) =
    input.filter fun b => decide (cmp a b = .eq)

/-- A strict weak ordering of some items: what `std::stable_sort` asks of its comparison. -/
structure StrictWeakOn (less : α → α → Bool) (items : List α) : Prop where
  irrefl : ∀ a ∈ items, less a a = false
  asymm : ∀ a ∈ items, ∀ b ∈ items, less a b = true → less b a = false
  trans : ∀ a ∈ items, ∀ b ∈ items, ∀ c ∈ items, less a b = true → less b c = true → less a c = true
  ties : ∀ a ∈ items, ∀ b ∈ items, ∀ c ∈ items, less a b = false → less b a = false →
    less b c = false → less c b = false → less a c = false ∧ less c a = false

section
variable {cmp : α → α → Ordering} [TransCmp cmp]

theorem transCmp_on (f : β → α) : TransCmp fun a b => cmp (f a) (f b) where
  eq_swap := OrientedCmp.eq_swap
  isLE_trans := TransCmp.isLE_trans

/-- The sort by a lawful comparison is stable. -/
theorem mergeSort_isStableSort (input : List α) :
    IsStableSort cmp input (input.mergeSort fun a b => (cmp a b).isLE) := by
  have trans : ∀ a b c, (cmp a b).isLE = true → (cmp b c).isLE = true → (cmp a c).isLE = true :=
    fun _ _ _ => TransCmp.isLE_trans
  have total : ∀ a b, ((cmp a b).isLE || (cmp b a).isLE) = true := by
    intro a b
    rw [@OrientedCmp.eq_swap _ cmp _ b a]
    cases cmp a b <;> rfl
  refine ⟨mergeSort_perm _ _, pairwise_mergeSort trans total input, fun a => ?_⟩
  -- The items that tie with `a` are sorted as they stand, so they are a sublist of the result.
  have ties : (input.filter fun b => decide (cmp a b = .eq)).Pairwise
      fun b c => (cmp b c).isLE = true := by
    refine pairwise_iff_forall_sublist.mpr fun {b c} pair => ?_
    have left := of_decide_eq_true (mem_filter.mp (pair.subset (.head _))).2
    have right := of_decide_eq_true
      (mem_filter.mp (pair.subset (.tail _ (.head _)))).2
    rw [TransCmp.eq_trans (OrientedCmp.eq_symm left) right]
    rfl
  have kept := (sublist_mergeSort trans total ties filter_sublist).filter
    fun b => decide (cmp a b = .eq)
  rw [filter_filter] at kept
  simp only [Bool.and_self] at kept
  exact (kept.eq_of_length
    ((mergeSort_perm input _).filter _).length_eq.symm).symm

/-- A comparison that agrees with a lawful one on some items orders them strictly and weakly. -/
theorem strictWeakOn_of_agrees (agrees : ∀ a ∈ items, ∀ b ∈ items, less a b = (cmp a b).isLT) :
    StrictWeakOn less items where
  irrefl a within := by
    rw [agrees a within a within, show cmp a a = .eq from ReflCmp.compare_self]
    rfl
  asymm a first b second less := by
    rw [agrees a first b second, Ordering.isLT_iff_eq_lt] at less
    rw [agrees b second a first, OrientedCmp.gt_of_lt less]
    rfl
  trans a first b second c third left right := by
    rw [agrees a first b second, Ordering.isLT_iff_eq_lt] at left
    rw [agrees b second c third, Ordering.isLT_iff_eq_lt] at right
    rw [agrees a first c third, TransCmp.lt_trans left right]
    rfl
  ties a first b second c third ab ba bc cb := by
    have tie : ∀ x y, (cmp x y).isLT = false → (cmp y x).isLT = false → cmp x y = .eq := by
      intro x y left right
      rw [@OrientedCmp.eq_swap _ cmp _ y x] at right
      cases order : cmp x y with
      | lt => rw [order] at left; cases left
      | eq => rfl
      | gt => rw [order] at right; cases right
    rw [agrees a first b second] at ab
    rw [agrees b second a first] at ba
    rw [agrees b second c third] at bc
    rw [agrees c third b second] at cb
    have same := TransCmp.eq_trans (tie a b ab ba) (tie b c bc cb)
    rw [agrees a first c third, agrees c third a first, same, OrientedCmp.eq_symm same]
    exact ⟨rfl, rfl⟩

variable {less : α → α → Bool}

/-- Sorting by a strict comparison that agrees with a lawful one. -/
theorem isStableSort_of_agrees (agrees : ∀ a ∈ items, ∀ b ∈ items, less a b = (cmp a b).isLT) :
    IsStableSort cmp items (items.mergeSort fun a b => !less b a) := by
  have same : items.mergeSort (fun a b => !less b a) = items.mergeSort fun a b => (cmp a b).isLE := by
    have mapped := @List.map_mergeSort _ _ (fun a b => !less b a) (fun a b => (cmp a b).isLE) id items
      (by
        intro a first b second
        rw [agrees b second a first, @OrientedCmp.eq_swap _ cmp _ b a]
        cases order : cmp a b with
        | lt => simp [order]
        | eq => simp [order]
        | gt => simp [order])
    simpa using mapped
  rw [same]
  exact mergeSort_isStableSort items

theorem mergeSort_pair (less : α → α → Bool) (a b : α) :
    [a, b].mergeSort (fun a b => !less b a) = if less b a then [b, a] else [a, b] := by
  cases order : less b a <;> simp [mergeSort, order]

/-- Two items are enough to see where the comparison disagrees. -/
theorem agrees_of_sorted_pair (differ : a ≠ b)
    (sorted : IsStableSort cmp [a, b] ([a, b].mergeSort fun a b => !less b a)) :
    less b a = (cmp b a).isLT := by
  rw [mergeSort_pair] at sorted
  cases order : less b a with
  | true =>
    rw [order, if_pos rfl] at sorted
    have le := pairwise_cons.mp sorted.sorted |>.1 a (.head _)
    cases found : cmp b a with
    | lt => rfl
    | gt => rw [found] at le; cases le
    | eq =>
      have self : cmp a a = .eq := ReflCmp.compare_self
      have stable := sorted.stable a
      simp only [self, OrientedCmp.eq_symm found, decide_true, filter_cons_of_pos,
        filter_nil] at stable
      exact absurd (cons.inj stable).1.symm differ
  | false =>
    rw [order, if_neg Bool.false_ne_true] at sorted
    have le := pairwise_cons.mp sorted.sorted |>.1 b (.head _)
    rw [@OrientedCmp.eq_swap _ cmp _ b a]
    cases found : cmp a b with
    | lt => rfl
    | eq => rfl
    | gt => rw [found] at le; cases le

end

end BigQueryEmulator.Sorting
