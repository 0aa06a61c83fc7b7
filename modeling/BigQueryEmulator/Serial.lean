import BigQueryEmulator.Transition

/-! Interleaved transactions on one shared state. A transaction reads in any number of
steps and ends with at most one write. If nothing a transaction has read changes before
its later steps, the interleaving equals running the transactions one after another, in
the order in which they finished. -/
namespace BigQueryEmulator.Serial
open Transition
open List hiding after

/-- A transaction's remaining program. -/
inductive Transaction (S R : Type) : Type 1 where
  | finish (result : R)
  | read {O : Type} (observe : S → O) (next : O → Transaction S R)
  | write (apply : S → S × R)

/-- A computation that only reads, in any number of steps. -/
inductive Query (S : Type) (α : Type) : Type 1 where
  | done (value : α)
  | read {O : Type} (observe : S → O) (next : O → Query S α)

namespace Query
variable {S R α β : Type}

def bind : Query S α → (α → Query S β) → Query S β
  | .done value, k => k value
  | .read observe next, k => .read observe fun seen => (next seen).bind k

instance : Monad (Query S) where
  pure := .done
  bind := .bind

theorem bind_done (query : Query S α) : query.bind .done = query := by
  induction query with
  | done value => rfl
  | read observe next ih => exact congrArg (Query.read observe) (funext ih)

theorem bind_assoc (query : Query S α) (first : α → Query S β) (second : β → Query S γ) :
    (query.bind first).bind second = query.bind fun value => (first value).bind second := by
  induction query with
  | done value => rfl
  | read observe next ih => exact congrArg (Query.read observe) (funext ih)

instance : LawfulMonad (Query S) :=
  LawfulMonad.mk' (Query S) bind_done (fun _ _ => rfl) bind_assoc

def ask (observe : S → α) : Query S α := .read observe .done

/-- The answer where nothing changes between the reads. -/
def run : Query S α → S → α
  | .done value, _ => value
  | .read observe next, s => (next (observe s)).run s

/-- The reads first, then the rest of the transaction. -/
def andThen : Query S α → (α → Transaction S R) → Transaction S R
  | .done value, k => k value
  | .read observe next, k => .read observe fun seen => (next seen).andThen k

theorem run_bind (query : Query S α) (next : α → Query S β) (s : S) :
    (query >>= next).run s = (next (query.run s)).run s := by
  induction query with
  | done value => rfl
  | read observe rest ih => exact ih (observe s)

end Query

/-- A read that has been made, with what it returned. -/
structure Observation (S : Type) : Type 1 where
  {O : Type}
  observe : S → O
  value : O

variable {S R : Type} {L : Type*}

/-- The transaction without interruption. -/
def Transaction.run : Transaction S R → S → S × R
  | .finish result, s => (s, result)
  | .read observe next, s => (next (observe s)).run s
  | .write apply, s => apply s

theorem Query.andThen_run (query : Query S α) (next : α → Transaction S R) (s : S) :
    (query.andThen next).run s = (next (query.run s)).run s := by
  induction query with
  | done value => rfl
  | read observe rest ih => exact ih (observe s)

/-- The program that remains after the given reads. -/
inductive Replays (program : Transaction S R) : List (Observation S) → Transaction S R → Prop where
  | start : Replays program [] program
  | read {O : Type} {seen : List (Observation S)} {observe : S → O} {next : O → Transaction S R}
      (value : O) : Replays program seen (.read observe next) →
      Replays program (seen ++ [⟨observe, value⟩]) (next value)

def Unchanged (seen : List (Observation S)) (s : S) : Prop :=
  ∀ read ∈ seen, read.observe s = read.value

/-- Where all reads would return the same again, the rest does what the whole would. -/
theorem Replays.run_eq (replays : Replays program seen current) (unchanged : Unchanged seen s) :
    program.run s = current.run s := by
  induction replays with
  | start => rfl
  | @read O seen observe next value earlier ih =>
    have before := ih (forall_mem_append.mp unchanged).1
    have same : observe s = value :=
      unchanged ⟨observe, value⟩ (mem_append_right _ (mem_singleton_self _))
    rw [before, Transaction.run, same]

/-- A transaction under way: what it was started as, what it has read, what remains. -/
structure Entry (S R : Type) (L : Type*) where
  label : L
  seen : List (Observation S)
  current : Transaction S R

/-- `finished` lists the transactions that have ended, in that order, with their results. -/
structure Pool (S R : Type) (L : Type*) where
  state : S
  ongoing : Nat → Option (Entry S R L) := fun _ => none
  finished : List (L × R) := []

inductive Step (L : Type*) where
  | start (call : Nat) (label : L)
  | advance (call : Nat)

namespace Pool
variable (program : L → Transaction S R) (w : Pool S R L)

def setCall (call : Nat) (entry : Option (Entry S R L)) : Pool S R L :=
  { w with ongoing := fun other => if other = call then entry else w.ongoing other }

/-- A program with nothing left to read or write ends at once. -/
def settle (call : Nat) (entry : Entry S R L) : Pool S R L :=
  match entry.current with
  | .finish result =>
    setCall { w with finished := w.finished ++ [(entry.label, result)] } call none
  | _ => w.setCall call (some entry)

def advance (call : Nat) (entry : Entry S R L) : Pool S R L :=
  match entry.current with
  | .finish _ => w
  | .read observe next =>
    w.settle call ⟨entry.label, entry.seen ++ [⟨observe, observe w.state⟩], next (observe w.state)⟩
  | .write apply =>
    setCall { w with
      state := (apply w.state).1
      finished := w.finished ++ [(entry.label, (apply w.state).2)] } call none

def step : Step L → Pool S R L
  | .start call label =>
    if (w.ongoing call).isSome then w else w.settle call ⟨label, [], program label⟩
  | .advance call =>
    match w.ongoing call with
    | none => w
    | some entry => w.advance call entry

/-- What the stepping transaction has read is still what it would read. -/
def Undisturbed : Step L → Prop
  | .advance call => ∀ entry, w.ongoing call = some entry → Unchanged entry.seen w.state
  | .start _ _ => True

end Pool

/-- Running transactions one after another, with their results. -/
def serial (program : L → Transaction S R) : S → List L → S × List R
  | s, [] => (s, [])
  | s, label :: rest =>
    let (middle, result) := (program label).run s
    let (last, results) := serial program middle rest
    (last, result :: results)

theorem serial_append (program : L → Transaction S R) (s : S) (labels : List L) (label : L) :
    serial program s (labels ++ [label]) =
      (((program label).run (serial program s labels).1).1,
        (serial program s labels).2 ++ [((program label).run (serial program s labels).1).2]) := by
  induction labels generalizing s with
  | nil => rfl
  | cons first rest ih =>
    simp only [cons_append, serial, ih]

theorem serial_result
    (answers : (serial program s ((before ++ (label, result) :: after).map Prod.fst)).2 =
      (before ++ (label, result) :: after).map Prod.snd) :
    ((program label).run (serial program s (before.map Prod.fst)).1).2 = result := by
  induction before generalizing s with
  | nil => exact (List.cons.inj answers).1
  | cons first rest ih => exact ih (List.cons.inj answers).2

namespace Pool
variable {program : L → Transaction S R} {initial : S} {w : Pool S R L}

/-- The state and the results are those of the finished transactions run one by one. -/
structure Serialized (program : L → Transaction S R) (initial : S) (w : Pool S R L) : Prop where
  finished : serial program initial (w.finished.map Prod.fst) = (w.state, w.finished.map Prod.snd)
  ongoing : ∀ call entry, w.ongoing call = some entry →
    Replays (program entry.label) entry.seen entry.current

theorem Serialized.finish (serialized : Serialized program initial w)
    (run : (program label).run w.state = (s, result)) (call : Nat) :
    Serialized program initial
      (setCall { w with state := s, finished := w.finished ++ [(label, result)] } call none) := by
  refine ⟨?_, ?_⟩
  · simp only [setCall, map_append, map_cons, map_nil, serial_append,
      serialized.finished, run]
  · intro other entry held
    simp only [setCall] at held
    split at held
    · cases held
    · exact serialized.ongoing other entry held

theorem Serialized.settle (serialized : Serialized program initial w)
    (replays : Replays (program entry.label) entry.seen entry.current)
    (unchanged : Unchanged entry.seen w.state) (call : Nat) :
    Serialized program initial (w.settle call entry) := by
  unfold Pool.settle
  split
  · rename_i result ended
    refine serialized.finish ?_ call
    rw [replays.run_eq unchanged, ended]
    rfl
  · refine ⟨serialized.finished, ?_⟩
    intro other entry' held
    simp only [setCall] at held
    split at held
    · cases held
      exact replays
    · exact serialized.ongoing other entry' held

theorem Serialized.step (serialized : Serialized program initial w)
    (undisturbed : w.Undisturbed s) : Serialized program initial (w.step program s) := by
  cases s with
  | start call label =>
    simp only [Pool.step]
    split
    · exact serialized
    · exact serialized.settle .start (fun read member => by cases member) call
  | advance call =>
    simp only [Pool.step]
    split
    · exact serialized
    rename_i entry held
    have replays := serialized.ongoing call entry held
    have unchanged := undisturbed entry held
    unfold Pool.advance
    split
    · exact serialized
    · rename_i O observe next remaining
      rw [remaining] at replays
      refine serialized.settle (replays.read (observe w.state)) ?_ call
      intro read member
      rcases mem_append.mp member with old | new
      · exact unchanged read old
      · rw [mem_singleton.mp new]
    · rename_i apply remaining
      refine serialized.finish ?_ call
      rw [replays.run_eq unchanged, remaining]
      rfl

/-- Every undisturbed run equals a serial one. -/
theorem serializable
    (admitted : Admits Undisturbed (Pool.step program) ⟨initial, fun _ => none, []⟩ steps) :
    Serialized program initial
      (execute (Pool.step program) ⟨initial, fun _ => none, []⟩ steps) :=
  guarded_invariant (fun _ _ serialized undisturbed => serialized.step undisturbed)
    ⟨rfl, fun _ _ held => by cases held⟩ admitted

end Pool
end BigQueryEmulator.Serial
