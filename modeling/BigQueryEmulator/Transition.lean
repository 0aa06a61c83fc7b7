import Mathlib

/-! Runs of a machine driven by a list of inputs. A guard restricts the inputs a
run may take, judged in the state each one is taken in, so that a conditional
safety property needs one step lemma and the induction rule below. -/
namespace BigQueryEmulator.Transition
variable {S A : Type*}

def execute (step : S → A → S) : S → List A → S
  | s, [] => s
  | s, a :: rest => execute step (step s a) rest

/-- Every input of the run meets the guard in the state it is taken in. -/
def Admits (guard : S → A → Prop) (step : S → A → S) : S → List A → Prop
  | _, [] => True
  | s, a :: rest => guard s a ∧ Admits guard step (step s a) rest

theorem execute_append (step : S → A → S) (s : S) (first second : List A) :
    execute step s (first ++ second) = execute step (execute step s first) second := by
  induction first generalizing s with
  | nil => rfl
  | cons a rest ih => exact ih (step s a)

/-- A property kept by every guarded step holds at the end of every guarded run.
A prefix of a guarded run is guarded, so this covers every state reached. -/
theorem guarded_invariant {P : S → Prop} {guard : S → A → Prop}
    (preserves : ∀ s a, P s → guard s a → P (step s a))
    (initial : P s) (admitted : Admits guard step s inputs) : P (execute step s inputs) := by
  induction inputs generalizing s with
  | nil => exact initial
  | cons a rest ih => exact ih (preserves s a initial admitted.1) admitted.2

theorem invariant {P : S → Prop} (preserves : ∀ s a, P s → P (step s a))
    (initial : P s) (inputs : List A) : P (execute step s inputs) := by
  induction inputs generalizing s with
  | nil => exact initial
  | cons a rest ih => exact ih (preserves s a initial)

end BigQueryEmulator.Transition
