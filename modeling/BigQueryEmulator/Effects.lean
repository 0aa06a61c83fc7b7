import BigQueryEmulator.Fallible

/-! Fallible work on a state. What was done before an error stays done. -/
namespace BigQueryEmulator.Effects
variable {σ ε α β : Type}

/-- Work on a state that may fail. -/
abbrev Work (σ ε : Type) := ExceptT ε (StateM σ)

namespace Work

/-- The answer of the work and the state that it leaves. -/
def outcome (work : Work σ ε α) (s : σ) : Except ε α × σ := work s

/-- Work that only looks at the state. -/
def look (observe : σ → Except ε α) : Work σ ε α := fun s => (observe s, s)

/-- One change of the state; an error leaves it as it is. -/
def change (update : σ → Except ε σ) : Work σ ε Unit := fun s =>
  match update s with
  | .ok t => (.ok (), t)
  | .error e => (.error e, s)

/-- A step outside the state. -/
def step (answer : Except ε α) : Work σ ε α := fun s => (answer, s)

/-- The answer of the work as a value, whether it failed or not. -/
def attempt (work : Work σ ε α) : Work σ ε (Except ε α) := fun s => (.ok (work s).1, (work s).2)

theorem ext (same : ∀ s, outcome work s = outcome other s) :
    work = other := funext same

@[simp] theorem outcome_pure (value : α) (s : σ) :
    outcome (pure value : Work σ ε α) s = (.ok value, s) := rfl

@[simp] theorem outcome_throw (e : ε) (s : σ) :
    outcome (throw e : Work σ ε α) s = (.error e, s) := rfl

@[simp] theorem outcome_look (observe : σ → Except ε α) (s : σ) :
    outcome (look observe) s = (observe s, s) := rfl

@[simp] theorem outcome_step (answer : Except ε α) (s : σ) :
    outcome (step answer : Work σ ε α) s = (answer, s) := rfl

@[simp] theorem outcome_attempt (work : Work σ ε α) (s : σ) :
    outcome work.attempt s = (.ok (outcome work s).1, (outcome work s).2) := rfl

theorem outcome_bind (work : Work σ ε α) (next : α → Work σ ε β) (s : σ) :
    outcome (work >>= next) s =
      match outcome work s with
      | (.ok value, t) => outcome (next value) t
      | (.error e, t) => (.error e, t) := by
  change (ExceptT.bindCont next (work s).1) (work s).2 = _
  rw [outcome]
  rcases work s with ⟨answer, t⟩
  cases answer <;> rfl

section
variable {work : Work σ ε α} {next : α → Work σ ε β} {s t : σ}

theorem outcome_bind_ok (ran : outcome work s = (.ok value, t)) :
    outcome (work >>= next) s = outcome (next value) t := by
  rw [outcome_bind, ran]

theorem outcome_bind_error (ran : outcome work s = (.error e, t)) :
    outcome (work >>= next) s = (.error e, t) := by
  rw [outcome_bind, ran]

theorem bind_ok_iff :
    outcome (work >>= next) s = (.ok value, t) ↔
      ∃ middle u, outcome work s = (.ok middle, u) ∧ outcome (next middle) u = (.ok value, t) := by
  rw [outcome_bind]
  rcases outcome work s with ⟨answer, u⟩
  cases answer with
  | ok middle =>
    constructor
    · exact fun ok => ⟨middle, u, rfl, ok⟩
    · rintro ⟨_, _, ⟨⟩, ok⟩
      exact ok
  | error e =>
    constructor
    · rintro ⟨⟩
    · rintro ⟨_, _, ⟨⟩, _⟩

theorem change_ok_iff : outcome (change update) s = (.ok done, t) ↔ update s = .ok t := by
  rw [outcome, change]
  cases update s with
  | ok u =>
    constructor
    · rintro ⟨⟩
      rfl
    · rintro ⟨⟩
      rfl
  | error e =>
    constructor <;> rintro ⟨⟩

theorem change_error_iff :
    outcome (change update) s = (.error e, t) ↔ update s = .error e ∧ t = s := by
  rw [outcome, change]
  cases update s with
  | ok u =>
    constructor
    · rintro ⟨⟩
    · rintro ⟨⟨⟩, _⟩
  | error e =>
    constructor
    · rintro ⟨⟩
      exact ⟨rfl, rfl⟩
    · rintro ⟨⟨⟩, rfl⟩
      rfl

end

/-- Work that ends with `good` if it succeeds and with `bad` if it fails. -/
def Ensures (work : Work σ ε α) (s : σ) (good : α → σ → Prop) (bad : σ → Prop) : Prop :=
  match outcome work s with
  | (.ok value, t) => good value t
  | (.error _, t) => bad t

namespace Ensures
variable {work : Work σ ε α} {s : σ} {good : α → σ → Prop} {bad : σ → Prop}

theorem of_outcome (done : ∀ value t, outcome work s = (.ok value, t) → good value t)
    (failed : ∀ e t, outcome work s = (.error e, t) → bad t) : Ensures work s good bad := by
  unfold Ensures
  rcases ran : outcome work s with ⟨answer, t⟩
  cases answer with
  | ok value => exact done value t ran
  | error e => exact failed e t ran

theorem of_ok (done : Ensures work s good bad) (ran : outcome work s = (.ok value, t)) :
    good value t := by
  unfold Ensures at done
  rw [ran] at done
  exact done

theorem of_error (done : Ensures work s good bad) (ran : outcome work s = (.error e, t)) :
    bad t := by
  unfold Ensures at done
  rw [ran] at done
  exact done

theorem attempt (done : Ensures work s good bad) :
    Ensures work.attempt s
      (fun answer t => (∀ value, answer = .ok value → good value t) ∧
        (∀ e, answer = .error e → bad t)) never := by
  unfold Ensures at done ⊢
  rw [outcome_attempt]
  rcases ran : outcome work s with ⟨answer, t⟩
  rw [ran] at done
  cases answer with
  | ok value => exact ⟨fun other same => Except.ok.inj same ▸ done, fun e same => nomatch same⟩
  | error e => exact ⟨fun value same => (nomatch same), fun other _ => done⟩

theorem bind (first : Ensures work s good bad)
    (rest : ∀ value t, good value t → Ensures (next value) t after bad) :
    Ensures (work >>= next) s after bad := by
  unfold Ensures at first ⊢
  rw [outcome_bind]
  rcases ran : outcome work s with ⟨answer, t⟩
  rw [ran] at first
  cases answer with
  | ok value => exact rest value t first
  | error e => exact first

theorem mono (done : Ensures work s good bad) (ok : ∀ value t, good value t → good' value t)
    (failed : ∀ t, bad t → bad' t) : Ensures work s good' bad' :=
  of_outcome (fun value t ran => ok value t (done.of_ok ran)) fun _ t ran => failed t (done.of_error ran)

theorem imp (done : Ensures work s good bad) (weaken : ∀ value t, good value t → good' value t) :
    Ensures work s good' bad := done.mono weaken fun _ failed => failed

theorem state (done : Ensures work s (fun _ t => kept t) kept) : kept (outcome work s).2 := by
  unfold Ensures at done
  rcases ran : outcome work s with ⟨answer, t⟩
  rw [ran] at done
  cases answer <;> exact done

theorem pure (now : good value s) : Ensures (pure value : Work σ ε α) s good bad := now

theorem throw (now : bad s) : Ensures (throw e : Work σ ε α) s good bad := now

variable {answer : Except ε α}

theorem step (now : ∀ value, answer = .ok value → good value s)
    (failed : bad s) : Ensures (step answer) s good bad := by
  cases answer with
  | ok value => exact now value rfl
  | error e => exact failed

variable {update : σ → σ}

theorem change (now : after () (update s)) :
    Ensures (change fun s => .ok (update s) : Work σ ε Unit) s after bad := now

section
variable {next : α → Work σ ε β} {after : β → σ → Prop}

theorem bind_look {view : σ → α} (rest : Ensures (next (view s)) s after bad) :
    Ensures (Work.look (fun s => .ok (view s)) >>= next) s after bad := rest

theorem bind_step (failed : bad s)
    (rest : ∀ value, answer = .ok value → Ensures (next value) s after bad) :
    Ensures (Work.step answer >>= next) s after bad := by
  refine bind (step (fun value given => ?_) failed) fun value t now => now
  exact rest value given

theorem bind_change {next : Unit → Work σ ε β} (rest : Ensures (next ()) (update s) after bad) :
    Ensures (Work.change (fun s => .ok (update s)) >>= next) s after bad := rest

end

/-- A loop keeps what each of its rounds keeps; the invariant may speak of the items to come. -/
theorem foldlM (kept : List ι → α → σ → Prop)
    (round : ∀ item rest value t, kept (item :: rest) value t →
      Ensures (f value item) t (kept rest) bad) (start : kept items value s) :
    Ensures (items.foldlM f value) s (kept []) bad := by
  induction items generalizing value s with
  | nil => exact start
  | cons item rest ih =>
    exact (round item rest value s start).bind fun _ _ next => ih next

end Ensures

/-- Work that ends in an error, and leaves a state as said. -/
def Fails (work : Work σ ε α) (s : σ) (left : σ → Prop) : Prop :=
  ∃ e t, outcome work s = (.error e, t) ∧ left t

namespace Fails
variable {work : Work σ ε α} {s t : σ} {left : σ → Prop}

theorem bind (failed : Fails work s left) : Fails (work >>= next) s left := by
  obtain ⟨e, u, ran, now⟩ := failed
  exact ⟨e, u, outcome_bind_error ran, now⟩

theorem after (ran : outcome work s = (.ok value, t)) (failed : Fails (next value) t left) :
    Fails (work >>= next) s left := by
  unfold Fails
  rw [outcome_bind_ok ran]
  exact failed

end Fails

end Work

end BigQueryEmulator.Effects
