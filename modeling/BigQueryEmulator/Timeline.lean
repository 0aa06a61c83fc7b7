import Mathlib

/-! Values installed at points of a linear order, oldest first. `entryAt history t`
is the entry in force at `t`: the last one installed at or before it, so that of
several entries of one instant the last one counts. -/
namespace BigQueryEmulator.Timeline
open List
variable {T C : Type} [LinearOrder T]

def Ordered (history : List (T × C)) : Prop := history.Pairwise (fun a b => a.1 ≤ b.1)

def entryAt (history : List (T × C)) (t : T) : Option (T × C) :=
  (history.filter (fun e => e.1 ≤ t)).getLast?

theorem entryAt_append_reached (history : List (T × C)) (reached : e.1 ≤ t) :
    entryAt (history ++ [e]) t = some e := by
  simp [entryAt, filter_append, reached]

theorem entryAt_append_later (history : List (T × C)) (later : t < e.1) :
    entryAt (history ++ [e]) t = entryAt history t := by
  simp [entryAt, filter_append, not_le.mpr later]

variable {history : List (T × C)} {e : T × C}

theorem entryAt_mem (found : entryAt history t = some e) :
    e ∈ history ∧ e.1 ≤ t := by
  have member := mem_of_getLast? found
  simpa only [mem_filter, decide_eq_true_eq] using member

theorem Ordered.append (ordered : Ordered history)
    (latest : ∀ a ∈ history, a.1 ≤ e.1) : Ordered (history ++ [e]) := by
  refine pairwise_append.mpr ⟨ordered, pairwise_singleton _ _, ?_⟩
  intro a member b single
  rw [mem_singleton.mp single]
  exact latest a member

theorem Ordered.of_append (ordered : Ordered (history ++ [e])) :
    Ordered history ∧ ∀ a ∈ history, a.1 ≤ e.1 := by
  obtain ⟨first, _, across⟩ := pairwise_append.mp ordered
  exact ⟨first, fun a member => across a member e (mem_singleton_self e)⟩

/-- The entry in force is the latest one: nothing installed since then has begun. -/
theorem entryAt_latest (ordered : Ordered history)
    (found : entryAt history t = some e) : ∀ a ∈ history, a.1 ≤ t → a.1 ≤ e.1 := by
  intro a member reached
  obtain ⟨before, same⟩ := getLast?_eq_some_iff.mp found
  have kept : a ∈ before ++ [e] := by
    rw [← same]
    simpa only [mem_filter, decide_eq_true_eq] using ⟨member, reached⟩
  have sorted : Ordered (before ++ [e]) := by
    rw [← same]
    exact List.Pairwise.filter _ ordered
  rcases mem_append.mp kept with early | last
  · exact sorted.of_append.2 a early
  · rw [mem_singleton.mp last]

/-- Looking at the instant an entry was installed finds that same entry. -/
theorem entryAt_begun (ordered : Ordered history)
    (found : entryAt history t = some e) : entryAt history e.1 = some e := by
  have same : history.filter (fun a => a.1 ≤ e.1) = history.filter (fun a => a.1 ≤ t) := by
    apply filter_congr
    intro a member
    have latest := entryAt_latest ordered found a member
    have begun := (entryAt_mem found).2
    simp only [decide_eq_decide]
    exact ⟨fun early => early.trans begun, latest⟩
  rw [entryAt, same]
  exact found

/-- Dropping entries before a cutoff keeps every answer that began after it. -/
theorem entryAt_filter_retained (found : entryAt history t = some e) (retained : cutoff ≤ e.1) :
    entryAt (history.filter (fun a => cutoff ≤ a.1)) t = some e := by
  obtain ⟨before, same⟩ := getLast?_eq_some_iff.mp found
  have split : (history.filter (fun a => cutoff ≤ a.1)).filter (fun a => a.1 ≤ t) =
      before.filter (fun a => cutoff ≤ a.1) ++ [e] := by
    rw [filter_comm, same, filter_append]
    simp [retained]
  rw [entryAt, split, getLast?_append]
  rfl

theorem entryAt_filter_expired
    (ordered : Ordered history) (found : entryAt history t = some e) (expired : e.1 < cutoff) :
    entryAt (history.filter (fun a => cutoff ≤ a.1)) t = none := by
  rw [entryAt, getLast?_eq_none_iff, filter_filter, filter_eq_nil_iff]
  intro a member both
  simp only [Bool.and_eq_true, decide_eq_true_eq] at both
  exact absurd (both.2.trans (entryAt_latest ordered found a member both.1)) (not_le.mpr expired)

end BigQueryEmulator.Timeline
