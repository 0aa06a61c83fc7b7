import Mathlib

/-! Loops of fallible steps over lists. A loop that goes over all items in rounds succeeds
exactly where every item passes all the rounds by itself, with the same results; only the
choice of the error that is met first differs. -/
namespace BigQueryEmulator.Fallible
open List
variable {ε α β γ : Type} {work : Except ε α} {next : α → Except ε β}

theorem bind_ok_iff :
    (work >>= next) = .ok result ↔ ∃ value, work = .ok value ∧ next value = .ok result := by
  constructor
  · intro ok
    cases work with
    | error e => cases ok
    | ok value => exact ⟨value, rfl, ok⟩
  · rintro ⟨value, rfl, ok⟩
    exact ok

theorem bind_of_ok (ok : work = .ok value) (next : α → Except ε β) :
    (work >>= next) = next value := by rw [ok]; rfl

theorem except_map_map (f : α → β) (g : β → γ) (work : Except ε α) :
    (work.map f).map g = work.map fun value => g (f value) := by
  cases work <;> rfl

theorem map_ok_iff :
    work.map f = .ok result ↔ ∃ value, work = .ok value ∧ f value = result := by
  cases work with
  | error e =>
    constructor
    · rintro ⟨⟩
    · rintro ⟨_, ⟨⟩, _⟩
  | ok value =>
    constructor
    · rintro ⟨⟩
      exact ⟨value, rfl, rfl⟩
    · rintro ⟨_, ⟨⟩, rfl⟩
      rfl

theorem mapM_cons_map (f : α → Except ε β) (g : List β → γ) (x : α) (xs : List α) :
    ((x :: xs).mapM f).map g = f x >>= fun y => (xs.mapM f).map fun ys => g (y :: ys) := by
  rw [mapM_cons]
  cases f x with
  | error e => rfl
  | ok y => cases xs.mapM f <;> rfl

variable {xs : List α}

theorem mapM_ok_iff {f : α → Except ε β} :
    xs.mapM f = .ok ys ↔ List.Forall₂ (fun x y => f x = .ok y) xs ys := by
  induction xs generalizing ys with
  | nil =>
    rw [mapM_nil, forall₂_nil_left_iff]
    exact ⟨fun ok => by cases ok; rfl, fun empty => by rw [empty]; rfl⟩
  | cons x rest ih =>
    rw [mapM_cons, bind_ok_iff, forall₂_cons_left_iff]
    constructor
    · rintro ⟨y, first, ok⟩
      obtain ⟨ys, others, ok⟩ := bind_ok_iff.mp ok
      cases ok
      exact ⟨y, ys, first, ih.mp others, rfl⟩
    · rintro ⟨y, ys, first, others, rfl⟩
      exact ⟨y, first, bind_ok_iff.mpr ⟨ys, ih.mpr others, rfl⟩⟩

theorem mapM_same {f : α → Except ε β} {g : α → β} (same : ∀ x ∈ xs, f x = .ok (g x)) :
    xs.mapM f = .ok (xs.map g) :=
  mapM_ok_iff.mpr (forall₂_map_right_iff.mpr (forall₂_same.mpr same))

theorem mapM_succeeds_iff {f : α → Except ε β} :
    (∃ ys, xs.mapM f = .ok ys) ↔ ∀ x ∈ xs, ∃ y, f x = .ok y := by
  induction xs with
  | nil => exact iff_of_true ⟨[], rfl⟩ fun x among => nomatch among
  | cons x rest ih =>
    rw [forall_mem_cons, ← ih]
    constructor
    · rintro ⟨ys, ok⟩
      obtain ⟨y, ys, first, others, rfl⟩ := forall₂_cons_left_iff.mp (mapM_ok_iff.mp ok)
      exact ⟨⟨y, first⟩, ys, mapM_ok_iff.mpr others⟩
    · rintro ⟨⟨y, first⟩, ys, others⟩
      exact ⟨y :: ys, mapM_ok_iff.mpr (.cons first (mapM_ok_iff.mp others))⟩

theorem forall₂_and (lefts : List.Forall₂ R xs ys) (rights : List.Forall₂ S xs ys) :
    List.Forall₂ (fun x y => R x y ∧ S x y) xs ys := by
  induction lefts with
  | nil => exact .nil
  | cons left _ ih =>
    cases rights with
    | cons right rights => exact .cons ⟨left, right⟩ (ih rights)

theorem forall₂_ofFn (all : ∀ i, R (f i) (g i)) : List.Forall₂ R (ofFn f) (ofFn g) := by
  refine forall₂_iff_get.mpr ⟨by rw [length_ofFn, length_ofFn], fun i _ _ => ?_⟩
  simpa using all _

theorem forall₂_compose :
    List.Forall₂ (fun x z => ∃ y, R x y ∧ S y z) xs zs ↔
      ∃ ys, List.Forall₂ R xs ys ∧ List.Forall₂ S ys zs := by
  constructor
  · intro both
    induction both with
    | nil => exact ⟨[], .nil, .nil⟩
    | cons first _ ih =>
      obtain ⟨y, left, right⟩ := first
      obtain ⟨ys, lefts, rights⟩ := ih
      exact ⟨y :: ys, .cons left lefts, .cons right rights⟩
  · rintro ⟨ys, lefts, rights⟩
    induction lefts generalizing zs with
    | nil => cases rights; exact .nil
    | cons left _ ih =>
      cases rights with
      | cons right rights => exact .cons ⟨_, left, right⟩ (ih rights)

/-- Rounds over all items, and each item through all rounds. -/
theorem rounds_ok_iff {ι : Type*} {step : ι → α → Except ε α} {rounds : List ι} :
    rounds.foldlM (fun items round => items.mapM (step round)) xs = .ok ys ↔
      List.Forall₂ (fun x y => rounds.foldlM (fun item round => step round item) x = .ok y) xs ys := by
  induction rounds generalizing xs with
  | nil =>
    simp only [foldlM_nil, pure, Except.pure, Except.ok.injEq]
    exact forall₂_eq_eq_eq ▸ Iff.rfl
  | cons round rest ih =>
    simp only [foldlM_cons, bind_ok_iff, forall₂_compose, mapM_ok_iff, ih]

theorem foldlM_both_ok_iff {g : β → ι → Except ε β} {rounds : List ι} {start : α × β} :
    rounds.foldlM (fun sofar round => do
        let left ← f sofar.1 round
        let right ← g sofar.2 round
        return (left, right)) start = .ok finish ↔
      rounds.foldlM f start.1 = .ok finish.1 ∧ rounds.foldlM g start.2 = .ok finish.2 := by
  induction rounds generalizing start with
  | nil =>
    simp only [foldlM_nil, pure, Except.pure, Except.ok.injEq]
    exact Prod.ext_iff
  | cons round rest ih =>
    simp only [foldlM_cons, bind_ok_iff]
    constructor
    · rintro ⟨next, ⟨left, stepped, right, stepped', ended⟩, ok⟩
      cases ended
      exact ⟨⟨left, stepped, (ih.mp ok).1⟩, ⟨right, stepped', (ih.mp ok).2⟩⟩
    · rintro ⟨⟨left, stepped, ok⟩, ⟨right, stepped', ok'⟩⟩
      exact ⟨(left, right), ⟨left, stepped, right, stepped', rfl⟩, ih.mpr ⟨ok, ok'⟩⟩

/-- The computation ends in an error. -/
def Rejected (work : Except ε α) : Prop := ∀ value, work ≠ .ok value

namespace Rejected

theorem error (e : ε) : Rejected (.error e : Except ε α) := fun _ same => by cases same

theorem bind (rejected : Rejected work) (next : α → Except ε β) :
    Rejected (work >>= next) := by
  intro value ok
  obtain ⟨middle, first, -⟩ := bind_ok_iff.mp ok
  exact rejected middle first

theorem of_next
    (rest : ∀ value, work = .ok value → Rejected (next value)) : Rejected (work >>= next) := by
  intro value ok
  obtain ⟨middle, first, ok⟩ := bind_ok_iff.mp ok
  exact rest middle first value ok

theorem map (rejected : Rejected work) (f : α → β) : Rejected (work.map f) := by
  intro value ok
  obtain ⟨middle, first, -⟩ := map_ok_iff.mp ok
  exact rejected middle first

end Rejected

/-- Two computations that end alike: with the same error, or with related results. -/
inductive Alike (R : α → β → Prop) : Except ε α → Except ε β → Prop where
  | ok {a : α} {b : β} (related : R a b) : Alike R (.ok a) (.ok b)
  | error (e : ε) : Alike R (.error e) (.error e)

namespace Alike
variable {δ : Type} {R : α → β → Prop} {S : γ → δ → Prop}

theorem refl (x : Except ε α) : Alike Eq x x := by
  cases x with
  | ok value => exact .ok rfl
  | error e => exact .error e

theorem of_eq (same : x = y) : Alike Eq x y := same ▸ .refl x

theorem imp (alike : Alike R x y) (weaken : ∀ a b, R a b → T a b) : Alike T x y := by
  cases alike with
  | ok related => exact .ok (weaken _ _ related)
  | error e => exact .error e

theorem bind_of_ok (alike : Alike R x y)
    (next : ∀ a b, x = .ok a → y = .ok b → R a b → Alike S (f a) (g b)) :
    Alike S (x >>= f) (y >>= g) := by
  cases alike with
  | ok related => exact next _ _ rfl rfl related
  | error e => exact .error e

theorem bind (alike : Alike R x y) (next : ∀ a b, R a b → Alike S (f a) (g b)) :
    Alike S (x >>= f) (y >>= g) :=
  alike.bind_of_ok fun a b _ _ => next a b

theorem map (alike : Alike R x y) (next : ∀ a b, R a b → S (f a) (g b)) :
    Alike S (x.map f) (y.map g) := by
  cases alike with
  | ok related => exact .ok (next _ _ related)
  | error e => exact .error e

theorem mapM (each : ∀ a b, R a b → Alike S (f a) (g b)) (related : List.Forall₂ R xs ys) :
    Alike (List.Forall₂ S) (xs.mapM f) (ys.mapM g) := by
  induction related with
  | nil => exact .ok .nil
  | cons first _ ih =>
    rw [mapM_cons, mapM_cons]
    refine (each _ _ first).bind fun c d head => ih.bind fun cs ds tail => ?_
    exact .ok (.cons head tail)

theorem foldlM {items : List ι}
    (step : ∀ item ∈ items, ∀ a b, R a b → Alike R (f a item) (g b item)) (start : R a b) :
    Alike R (items.foldlM f a) (items.foldlM g b) := by
  induction items generalizing a b with
  | nil => exact .ok start
  | cons item rest ih =>
    refine (step item (.head _) a b start).bind fun c d next => ?_
    exact ih (forall_mem_cons.mp step).2 next

theorem eq (alike : Alike Eq x y) : x = y := by
  cases alike with
  | ok same => rw [same]
  | error e => rfl

end Alike

end BigQueryEmulator.Fallible
