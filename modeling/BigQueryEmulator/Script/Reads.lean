import BigQueryEmulator.Script.Executor

/-! What the references of a script read. A query reads the variables, a DML statement reads the
constants of the catalog, and a constant keeps the value with which its name was registered
first. So a run reads what was last assigned if the names that DML statements read are bound once,
and if a CALL changes no variable that it should not. -/
namespace BigQueryEmulator.Script
open Storage (Status)
open Effects List FrameStack
open Work (Ensures)
open Work.Ensures (bind_step bind_look bind_change)
open Function (update_of_ne update_self)
variable {α : Type}

def Program.statements (program : Program α) : List (Stmt α) :=
  program.script ++ program.procedures.flatMap fun procedure => procedure.2.body

def Stmt.dmlNames : Stmt α → List Key
  | .dml names => names.map canonicalize
  | _ => []

def Program.dmlNames (program : Program α) : List Key :=
  program.statements.flatMap Stmt.dmlNames

def State.Free (s : State α) (key : Key) : Prop :=
  (s.constants key).isNone ∧ (s.current.frames.visibleBindings key).isNone

instance (s : State α) (key : Key) : Decidable (s.Free key) := inferInstanceAs (Decidable (_ ∧ _))

def evaluatedByArgument (argument : Argument α × CallArgument α) : List String :=
  match argument.2 with
  | .byName name => if argument.1.mode = .output then [] else [name]
  | .expression expr => expr.names

def Stmt.evaluated (program : Program α) : Stmt α → List String
  | .declare _ expr => expr.names
  | .set _ expr => expr.names
  | .call procedure arguments =>
    match program.procedures.lookup procedure with
    | none => []
    | some procedure => (procedure.arguments.zip arguments).flatMap evaluatedByArgument
  | .query _ names => names
  | .dml names => names

def CallArgument.passed : CallArgument α → Option Key
  | .byName name => some (canonicalize name)
  | .expression _ => none

/-- A statement assigns no IN argument that was given as a variable, passes no variable twice, and
binds a name that DML statements read only where it is new: in a DECLARE of the script, or as an
argument of a CALL. -/
def Stmt.BindsOnce (program : Program α) (s : State α) : Stmt α → Prop
  | .declare name _ =>
    canonicalize name ∉ s.current.history.kept ∧
      (canonicalize name ∈ program.dmlNames →
        s.current.isBody = false ∧ s.Free (canonicalize name))
  | .set name _ =>
    canonicalize name ∉ s.current.history.kept ∧ canonicalize name ∉ program.dmlNames
  | .call procedure arguments =>
    (arguments.filterMap CallArgument.passed).Nodup ∧
      ∀ found ∈ program.procedures.lookup procedure, ∀ formal ∈ found.arguments,
        canonicalize formal.name ∈ program.dmlNames → s.Free (canonicalize formal.name)
  | .query _ _ => True
  | .dml _ => True

/-- A value that a body gives back was assigned in the body, and goes to a variable that no DML
statement reads and that is not itself an IN argument. -/
def Binding.GivesBack (program : Program α) (body caller : Activation α) (binding : Binding) :
    Prop :=
  binding.mode ≠ .input →
    canonicalize binding.formal ∉ body.history.unset ∧
      canonicalize binding.caller ∉ program.dmlNames ∧
        canonicalize binding.caller ∉ caller.history.kept

/-- The condition on a state in which a round begins. No OUT argument is evaluated before it is
assigned. -/
def Permitted (program : Program α) (s : State α) : Prop :=
  match s.current.statements with
  | [] => ∀ caller ∈ s.callers.head?, ∀ binding ∈ s.current.bindings,
      binding.GivesBack program s.current caller
  | stmt :: _ =>
    (∀ name ∈ stmt.evaluated program, canonicalize name ∉ s.current.history.unset) ∧
      stmt.BindsOnce program s

instance (program : Program α) (s : State α) :
    (stmt : Stmt α) → Decidable (stmt.BindsOnce program s)
  | .declare _ _ => inferInstanceAs (Decidable (_ ∧ (_ → _ ∧ State.Free s _)))
  | .set _ _ => inferInstanceAs (Decidable (_ ∧ _))
  | .call procedure _ => inferInstanceAs (Decidable (_ ∧
      ∀ found ∈ program.procedures.lookup procedure, ∀ formal ∈ found.arguments,
        canonicalize formal.name ∈ program.dmlNames → s.Free (canonicalize formal.name)))
  | .query _ _ => .isTrue trivial
  | .dml _ => .isTrue trivial

instance (program : Program α) (body caller : Activation α) (binding : Binding) :
    Decidable (binding.GivesBack program body caller) :=
  inferInstanceAs (Decidable (_ → _))

instance (program : Program α) (s : State α) : Decidable (Permitted program s) :=
  match next : s.current.statements with
  | [] => decidable_of_iff (∀ caller ∈ s.callers.head?, ∀ binding ∈ s.current.bindings,
      binding.GivesBack program s.current caller) (by rw [Permitted, next])
  | stmt :: _ => decidable_of_iff
      ((∀ name ∈ stmt.evaluated program, canonicalize name ∉ s.current.history.unset) ∧
        stmt.BindsOnce program s) (by rw [Permitted, next])

/-- The reference gave what was last assigned to the variable. -/
def Read.Right (read : Read α) : Prop := ∀ value, read.assigned = some value → read.value = value

def State.ReadsRight (s : State α) : Prop := ∀ read ∈ s.reads, read.Right

section

/-- The variables hold what was assigned, and the constants of the names that DML statements read
hold the same. -/
structure Sound (program : Program α) (constants : Frame α) (a : Activation α) : Prop where
  tracks : ∀ key value, key ∉ a.history.unset → a.history.assigned key = some value →
    a.frames.visibleBindings key = some value
  steady : ∀ key ∈ program.dmlNames, key ∉ a.history.unset → ∀ value constant,
    a.history.assigned key = some value → constants key = some constant → constant = value
  marked : ∀ key, a.registered key → (constants key).isSome
  known : ∀ stmt ∈ a.statements, stmt ∈ program.statements

def Registered (program : Program α) (constants : Frame α) (a : Activation α) : Prop :=
  ∀ key ∈ program.dmlNames, (a.frames.visibleBindings key).isSome → (constants key).isSome

/-- The IN arguments of a body still have the values of the caller's variables. -/
structure Linked (body caller : Activation α) : Prop where
  unchanged : ∀ binding ∈ body.bindings, binding.mode = .input →
    canonicalize binding.formal ∈ body.history.kept ∧
      ∀ value, caller.frames.visibleBindings (canonicalize binding.caller) = some value →
        body.frames.visibleBindings (canonicalize binding.formal) = some value
  distinct : (body.bindings.map fun binding => canonicalize binding.caller).Nodup

structure Inv (program : Program α) (s : State α) : Prop where
  reads : s.ReadsRight
  sound : Sound program s.constants s.current
  settled : s.current.isBody → Registered program s.constants s.current
  callers : ∀ caller ∈ s.callers,
    Sound program s.constants caller ∧ Registered program s.constants caller
  linked : List.IsChain Linked (s.current :: s.callers)

theorem chain_of_head (linked : List.IsChain Linked (a :: callers))
    (same : ∀ caller, Linked a caller → Linked b caller) : List.IsChain Linked (b :: callers) := by
  cases callers with
  | nil => exact .singleton _
  | cons caller rest =>
    obtain ⟨first, chain⟩ := isChain_cons_cons.mp linked
    exact isChain_cons_cons.mpr ⟨same caller first, chain⟩

variable {program : Program α} {s t : State α}

theorem start_inv (program : Program α) : Inv program (start program) where
  reads := nofun
  sound := ⟨nofun, nofun, nofun, fun _ member => mem_append_left _ member⟩
  settled := nofun
  callers := nofun
  linked := .singleton _

structure Evaluated (s t : State α) : Prop where
  same : t = { s with reads := t.reads }
  right : t.ReadsRight

theorem Inv.evaluated (inv : Inv program s) (later : Evaluated s t) : Inv program t := by
  obtain ⟨same, right⟩ := later
  rw [same]
  exact { inv with reads := right }

/-- The invariant looks at the frames only through what they show. -/
theorem Inv.of_frames (inv : Inv program s)
    (same : frames.visibleBindings = s.current.frames.visibleBindings) :
    Inv program { s with current := { s.current with frames } } where
  reads := inv.reads
  sound :=
    { inv.sound with
      tracks := by
        intro key value set assigned
        rw [same]
        exact inv.sound.tracks key value set assigned }
  settled := by
    intro body key read visible
    rw [same] at visible
    exact inv.settled body key read visible
  callers := inv.callers
  linked := by
    refine chain_of_head inv.linked fun caller linked => ⟨?_, linked.distinct⟩
    intro binding member input
    rw [same]
    exact linked.unchanged binding member input

theorem mem_of_not_mem_filter {unset : List Key}
    (absent : key ∉ unset.filter (· ≠ other)) (different : key ≠ other) : key ∉ unset := by
  intro member
  exact absent (mem_filter.mpr ⟨member, by simpa using different⟩)

/-- An assignment to a variable that no DML statement reads, or to a new variable of the script. -/
theorem Inv.assign (inv : Inv program s) {key : Key} (visible : frames.visibleBindings =
      Function.update s.current.frames.visibleBindings key (some value))
    (same : ∀ other, assigned = some other → value = other) (free : key ∉ s.current.history.kept)
    (plain : key ∉ program.dmlNames ∨ s.current.isBody = false ∧ s.constants key = none) :
    Inv program { s with
      current := { s.current with frames, history := s.current.history.assign key assigned } } where
  reads := inv.reads
  sound :=
    { marked := inv.sound.marked
      known := inv.sound.known
      tracks := by
        intro other held set holds
        dsimp only [History.assign] at holds
        rw [visible]
        by_cases target : other = key
        · subst other
          rw [update_self] at holds
          rw [update_self, same held holds]
        · rw [update_of_ne target] at holds
          rw [update_of_ne target]
          exact inv.sound.tracks other held (mem_of_not_mem_filter set target) holds
      steady := by
        intro other read set held constant holds found
        dsimp only [History.assign] at holds
        by_cases target : other = key
        · subst other
          rcases plain with unread | ⟨-, absent⟩
          · exact absurd read unread
          · exact (nomatch absent.symm.trans found)
        · rw [update_of_ne target] at holds
          exact inv.sound.steady other read (mem_of_not_mem_filter set target) held constant holds
            found }
  settled := by
    intro body other read shown
    rcases plain with unread | ⟨script, -⟩
    · have target : other ≠ key := fun same => unread (same ▸ read)
      rw [visible, update_of_ne target] at shown
      exact inv.settled body other read shown
    · exact (nomatch script.symm.trans body)
  callers := inv.callers
  linked := by
    refine chain_of_head inv.linked fun caller linked => ⟨?_, linked.distinct⟩
    intro binding member input
    obtain ⟨kept, unchanged⟩ := linked.unchanged binding member input
    refine ⟨kept, fun held holds => ?_⟩
    have target : canonicalize binding.formal ≠ key := fun same => free (same ▸ kept)
    rw [visible, update_of_ne target]
    exact unchanged held holds

end

section
variable {program : Program α} {s t : State α}

theorem Evaluated.refl (right : s.ReadsRight) : Evaluated s s := ⟨rfl, right⟩

theorem Evaluated.trans (first : Evaluated s t) (second : Evaluated t u) : Evaluated s u := by
  refine ⟨?_, second.right⟩
  have same := second.same
  rw [first.same] at same
  exact same

theorem evaluated_append (right : s.ReadsRight) (all : ∀ read ∈ reads, read.Right) :
    Evaluated s { s with reads := s.reads ++ reads } := by
  refine ⟨rfl, fun read member => ?_⟩
  rcases mem_append.mp member with old | new
  · exact right read old
  · exact all read new

variable {names : List String}

theorem evalNames_evaluated {scriptVariables : Option (FrameStack α)} (right : s.ReadsRight)
    (each : ∀ name ∈ names, ∀ value,
      evalResolvedConstant s.constants scriptVariables name = .ok value →
        (s.read name value).Right) :
    Ensures (evalNames scriptVariables names) s (fun _ t => Evaluated s t)
      State.ReadsRight := by
  apply bind_look
  apply bind_step right
  intro values evaluated
  apply bind_change
  refine .pure (evaluated_append right ?_)
  rw [← map_uncurry_zip_eq_zipWith, forall_mem_map]
  exact fun pair member => each _ (of_mem_zip member).1 _
    (forall₂_zip (Fallible.mapM_ok_iff.mp evaluated) member)

/-- None of the names is an OUT argument that was not assigned. -/
abbrev AllSet (s : State α) (names : List String) : Prop :=
  ∀ name ∈ names, canonicalize name ∉ s.current.history.unset

theorem read_variable_right (inv : Inv program s)
    (set : canonicalize name ∉ s.current.history.unset)
    (evaluated : evalResolvedConstant s.constants (some s.current.frames) name = .ok value) :
    (s.read name value).Right := by
  intro assigned holds
  have visible := inv.sound.tracks _ assigned set holds
  rw [evalResolvedConstant, Option.bind_some, visible] at evaluated
  cases evaluated
  rfl

theorem evalExpr_evaluated (inv : Inv program s) (set : AllSet s expr.names) :
    Ensures (evalExpr s.current.frames expr) s (fun _ t => Evaluated s t)
      State.ReadsRight := by
  apply (evalNames_evaluated inv.reads ?_).bind
  · intro values t later
    exact .step (fun _ _ => later) later.right
  · exact fun name member value => read_variable_right inv (set name member)

end

section
variable {program : Program α} {s : State α}

/-- What a statement may rely on: the variables of the call are in the catalog. -/
structure Ready (program : Program α) (s : State α) : Prop extends Inv program s where
  registered : Registered program s.constants s.current

abbrev Keeps (program : Program α) (work : Run α β) (s : State α) : Prop :=
  Ensures work s (fun _ t => Inv program t) State.ReadsRight

theorem assigned_inv {place : α → Except Status (FrameStack α)} (inv : Inv program s)
    (set : AllSet s expr.names)
    (visible : ∀ value frames, place value = .ok frames → frames.visibleBindings =
      Function.update s.current.frames.visibleBindings (canonicalize name) (some value))
    (free : canonicalize name ∉ s.current.history.kept)
    (plain : canonicalize name ∉ program.dmlNames ∨
      s.current.isBody = false ∧ s.constants (canonicalize name) = none) :
    Keeps program (do
      let value ← evalExpr s.current.frames expr
      let frames ← Work.step (place value)
      assignVariable name value frames) s := by
  apply (evalExpr_evaluated inv set).bind
  intro value t later
  apply bind_step later.right
  intro frames placed
  have same := later.same
  refine .change ((inv.evaluated later).assign ?_ (fun other same => Option.some.inj same) ?_ ?_)
  · rw [same]
    exact visible value frames placed
  · rw [same]
    exact free
  · rw [same]
    exact plain

end

section
variable {program : Program α} {s : State α}

/-- The callee of a CALL after some of its arguments were bound; `rest` are to come. -/
structure Bound (program : Program α) (s : State α) (rest : List (Argument α × CallArgument α))
    (callee : Activation α) : Prop where
  plain : callee.frames.outer = [fun _ => none]
  tracks : ∀ key value, key ∉ callee.history.unset → callee.history.assigned key = some value →
    callee.frames.visibleBindings key = some value
  fresh : ∀ key ∈ program.dmlNames, (callee.frames.visibleBindings key).isSome → s.Free key
  unchanged : ∀ binding ∈ callee.bindings, binding.mode = .input →
    canonicalize binding.formal ∈ callee.history.kept ∧
      ∀ value, s.current.frames.visibleBindings (canonicalize binding.caller) = some value →
        callee.frames.visibleBindings (canonicalize binding.formal) = some value
  distinct : ((callee.bindings.map fun binding => canonicalize binding.caller) ++
    rest.filterMap fun argument => argument.2.passed).Nodup
  unmarked : callee.registered = fun _ => false
  known : ∀ stmt ∈ callee.statements, stmt ∈ program.statements
  body : callee.isBody = true
  coming : ∀ argument ∈ rest,
    (∀ name ∈ evaluatedByArgument argument, canonicalize name ∉ s.current.history.unset) ∧
      (canonicalize argument.1.name ∈ program.dmlNames → s.Free (canonicalize argument.1.name))

section
variable {argument : Argument α × CallArgument α} {rest : List (Argument α × CallArgument α)}
  {callee : Activation α} {frames : FrameStack α} {value : α}

theorem Bound.unchanged_declare (bound : Bound program s (argument :: rest) callee)
    (declared : callee.frames.declare argument.1.name value = .ok frames) :
    ∀ binding ∈ callee.bindings, binding.mode = .input →
      canonicalize binding.formal ∈ callee.history.kept ∧
        ∀ held, s.current.frames.visibleBindings (canonicalize binding.caller) = some held →
          frames.visibleBindings (canonicalize binding.formal) = some held := by
  intro binding member input
  obtain ⟨kept, unchanged⟩ := bound.unchanged binding member input
  refine ⟨kept, fun held holds => ?_⟩
  have before := unchanged held holds
  have other : canonicalize binding.formal ≠ canonicalize argument.1.name := by
    intro same
    unfold declare at declared
    split at declared
    · cases declared
    · simp_all [visibleBindings, bound.plain]
  rw [visibleBindings_declare declared, update_of_ne other]
  exact before

theorem Bound.fresh_declare (bound : Bound program s (argument :: rest) callee)
    (declared : callee.frames.declare argument.1.name value = .ok frames) :
    ∀ key ∈ program.dmlNames, (frames.visibleBindings key).isSome → s.Free key := by
  intro key read visible
  rw [visibleBindings_declare declared] at visible
  by_cases same : key = canonicalize argument.1.name
  · subst key
    exact (bound.coming argument (.head _)).2 read
  · rw [update_of_ne same] at visible
    exact bound.fresh key read visible

theorem Bound.expression (bound : Bound program s (argument :: rest) callee) {expr : Expr α}
    (given : argument.2 = .expression expr)
    (declared : callee.frames.declare argument.1.name value = .ok frames) :
    Bound program s rest { callee with
      frames
      history := callee.history.assign (canonicalize argument.1.name) (some value) } where
  plain := (outer_declare declared).trans bound.plain
  tracks := by
    intro key held set assigned
    dsimp only [History.assign] at assigned
    rw [visibleBindings_declare declared]
    by_cases same : key = canonicalize argument.1.name
    · subst key
      rw [update_self] at assigned ⊢
      exact assigned
    · rw [update_of_ne same] at assigned ⊢
      exact bound.tracks key held (mem_of_not_mem_filter set same) assigned
  fresh := bound.fresh_declare declared
  unchanged := bound.unchanged_declare declared
  distinct := by
    have distinct := bound.distinct
    rw [filterMap_cons, given] at distinct
    exact distinct
  unmarked := bound.unmarked
  known := bound.known
  body := bound.body
  coming := (forall_mem_cons.mp bound.coming).2

variable {history : History α} {formal : Argument α}

/-- What the history of the callee has for an argument is what the argument was bound to, but for
an OUT argument. -/
theorem bindVariable_tracks (set : key ∉ (history.bindVariable formal seed).unset)
    (assigned : (history.bindVariable formal seed).assigned key = some held) :
    key = canonicalize formal.name ∧ held = seed ∨
      key ≠ canonicalize formal.name ∧ key ∉ history.unset ∧ history.assigned key = some held := by
  unfold History.bindVariable at set assigned
  generalize formal.mode = mode at set assigned
  by_cases same : key = canonicalize formal.name
  · subst key
    refine .inl ⟨rfl, ?_⟩
    cases mode with
    | input | inout => simpa using assigned.symm
    | output => exact absurd (.head _) set
  · refine .inr ⟨same, ?_⟩
    cases mode with
    | input | inout => exact ⟨set, by simpa [same] using assigned⟩
    | output => exact ⟨fun member => set (.tail _ member), by simpa [same] using assigned⟩

theorem Bound.byName (bound : Bound program s (argument :: rest) callee)
    (given : argument.2 = .byName name) (declared : callee.frames.declare argument.1.name
      ((s.current.frames.visibleBindings (canonicalize name)).getD argument.1.null) = .ok frames) :
    Bound program s rest { callee with
      frames
      bindings := callee.bindings ++ [⟨argument.1.name, name, argument.1.mode⟩]
      history := callee.history.bindVariable argument.1
        ((s.current.frames.visibleBindings (canonicalize name)).getD argument.1.null) } where
  plain := (outer_declare declared).trans bound.plain
  tracks := by
    intro key held set assigned
    rw [visibleBindings_declare declared]
    rcases bindVariable_tracks set assigned with ⟨rfl, rfl⟩ | ⟨other, set, assigned⟩
    · rw [update_self]
    · rw [update_of_ne other]
      exact bound.tracks key held set assigned
  fresh := bound.fresh_declare declared
  unchanged := by
    intro binding member input
    rcases mem_append.mp member with old | new
    · obtain ⟨kept, unchanged⟩ := bound.unchanged_declare declared binding old input
      refine ⟨?_, unchanged⟩
      unfold History.bindVariable
      split
      · exact .tail _ kept
      · exact kept
      · exact kept
    cases mem_singleton.mp new
    dsimp only at input ⊢
    constructor
    · rw [History.bindVariable, input]
      exact .head _
    · intro held holds
      rw [visibleBindings_declare declared, update_self, holds,
        Option.getD_some]
  distinct := by
    have distinct := bound.distinct
    rw [filterMap_cons, given] at distinct
    rw [map_append, append_assoc]
    exact distinct
  unmarked := bound.unmarked
  known := bound.known
  body := bound.body
  coming := (forall_mem_cons.mp bound.coming).2

end

theorem evaluated_current (later : Evaluated s t) : t.current = s.current := by
  rw [later.same]

theorem seed_right (inv : Inv program s) (set : canonicalize name ∉ s.current.history.unset) :
    (s.read name ((s.current.frames.visibleBindings (canonicalize name)).getD null)).Right := by
  intro value assigned
  have visible := inv.sound.tracks _ value set assigned
  simp only [State.read, visible, Option.getD_some]

variable {callee : Activation α}

theorem bindArgument_bound (inv : Inv program s)
    (later : Evaluated s t) (bound : Bound program s (argument :: rest) callee) :
    Ensures (bindArgument s.current.frames callee argument) t
      (fun next u => Evaluated s u ∧ Bound program s rest next) State.ReadsRight := by
  have coming := (bound.coming argument (.head _)).1
  have invT := inv.evaluated later
  have current := evaluated_current later
  unfold bindArgument
  cases given : argument.2 with
  | byName name =>
    apply bind_change
    have next : Evaluated s { t with
        reads := if argument.1.mode = .output then t.reads
          else t.reads ++ [t.read name
            ((s.current.frames.visibleBindings (canonicalize name)).getD argument.1.null)] } := by
      refine later.trans ?_
      split
      · exact Evaluated.refl later.right
      rename_i evaluates
      refine evaluated_append later.right fun read member => ?_
      cases mem_singleton.mp member
      rw [← current]
      apply seed_right invT
      rw [current]
      apply coming name
      rw [evaluatedByArgument, given]
      dsimp only
      rw [if_neg evaluates]
      exact mem_singleton_self name
    apply bind_step next.right
    intro frames declared
    exact .pure ⟨next, bound.byName given declared⟩
  | expression expr =>
    rw [← current]
    apply (evalExpr_evaluated invT ?_).bind
    · intro value u after
      apply bind_step after.right
      intro frames declared
      exact .pure ⟨later.trans after, bound.expression given declared⟩
    · intro name member
      rw [current]
      apply coming name
      rw [evaluatedByArgument, given]
      exact member

theorem registerVariables_ready (reads : s.ReadsRight)
    (sound : Sound program s.constants s.current)
    (callers : ∀ caller ∈ s.callers,
      Sound program s.constants caller ∧ Registered program s.constants caller)
    (linked : List.IsChain Linked (s.current :: s.callers)) :
    Ensures registerVariables s
      (fun _ t => Ready program t ∧ t.current.history = s.current.history ∧
        t.current.isBody = s.current.isBody ∧ ∀ key, s.Free key → t.Free key)
      State.ReadsRight := by
  have still : ∀ key, (s.constants key).isSome → ((registerScriptVariablesOnCatalog s.constants
      s.current.frames s.current.registered).1 key).isSome := by
    intro key some
    obtain ⟨value, present⟩ := Option.isSome_iff_exists.mp some
    exact Option.isSome_of_mem (registered_of_constant present)
  refine .change ?_
  refine ⟨?_, rfl, rfl, ?_⟩
  · refine { reads, sound := ?_, settled := ?_, callers := ?_, linked := ?_, registered := ?_ }
    · exact
        { tracks := sound.tracks
          steady := by
            intro key read set value constant assigned found
            rcases constant_or_visible found with old | ⟨-, shown⟩
            · exact sound.steady key read set value constant assigned old
            · exact Option.some.inj (shown.symm.trans (sound.tracks key value set assigned))
          marked := by
            intro key marked
            rcases Bool.or_eq_true_iff.mp marked with before | visible
            · exact still key (sound.marked key before)
            · exact visible_registered sound.marked visible
          known := sound.known }
    · exact fun _ key _ visible => visible_registered sound.marked visible
    · intro caller member
      obtain ⟨sound, registered⟩ := callers caller member
      refine ⟨{ sound with steady := ?_, marked := ?_ }, ?_⟩
      · intro key read set value constant assigned found
        have visible := sound.tracks key value set assigned
        obtain ⟨before, old⟩ := Option.isSome_iff_exists.mp
          (registered key read (by rw [visible]; rfl))
        obtain rfl : constant = before :=
          Option.some.inj (found.symm.trans (registered_of_constant old))
        exact sound.steady key read set value constant assigned old
      · exact fun key marked => still key (sound.marked key marked)
      · exact fun key read visible => still key (registered key read visible)
    · exact chain_of_head linked fun caller linked => ⟨linked.unchanged, linked.distinct⟩
    · exact fun key _ visible => visible_registered sound.marked visible
  · rintro key ⟨constant, visible⟩
    refine ⟨?_, visible⟩
    rw [Option.isNone_iff_eq_none] at constant visible ⊢
    cases found : (registerScriptVariablesOnCatalog s.constants s.current.frames
        s.current.registered).1 key with
    | none => exact found
    | some value =>
      rcases constant_or_visible found with old | ⟨-, shown⟩
      · exact (nomatch constant.symm.trans old)
      · exact (nomatch visible.symm.trans shown)

theorem entered_inv (ready : Ready program s)
    (bound : Bound program s [] callee) (later : Evaluated s t) :
    Keeps program registerVariables
      { t with current := callee, callers := t.current :: t.callers } := by
  have invT := ready.toInv.evaluated later
  have constants : t.constants = s.constants := by rw [later.same]
  have sound : Sound program t.constants callee :=
    { tracks := bound.tracks
      steady := by
        intro key read set value constant assigned found
        have visible := bound.tracks key value set assigned
        have free := bound.fresh key read (by rw [visible]; rfl)
        rw [constants, Option.isNone_iff_eq_none.mp free.1] at found
        cases found
      marked := by
        intro key marked
        rw [bound.unmarked] at marked
        cases marked
      known := bound.known }
  refine .imp (registerVariables_ready later.right sound ?_ ?_) fun _ _ entered => entered.1.toInv
  · refine forall_mem_cons.mpr ⟨⟨invT.sound, ?_⟩, invT.callers⟩
    rw [later.same]
    exact ready.registered
  · refine isChain_cons_cons.mpr ⟨⟨?_, ?_⟩, invT.linked⟩
    · intro binding member input
      rw [evaluated_current later]
      exact bound.unchanged binding member input
    · have distinct := bound.distinct
      rw [filterMap_nil, append_nil] at distinct
      exact distinct

theorem body_known (found : program.procedures.lookup name = some procedure) :
    ∀ stmt ∈ procedure.body, stmt ∈ program.statements := by
  intro stmt member
  obtain ⟨first, second, same, -⟩ := lookup_eq_some_iff.mp found
  refine mem_append_right _ (mem_flatMap.mpr ⟨(name, procedure), ?_, member⟩)
  rw [same]
  exact mem_append_right _ (.head _)

theorem executeCall_inv (ready : Ready program s)
    (set : AllSet s ((Stmt.call procedureName arguments).evaluated program))
    (once : (Stmt.call procedureName arguments).BindsOnce program s) :
    Keeps program (executeCall program procedureName arguments) s := by
  apply bind_look
  apply bind_step ready.reads
  intro _ analyzed
  cases found : program.procedures.lookup procedureName with
  | none => exact .throw ready.reads
  | some procedure =>
    dsimp only
    split
    · exact .throw ready.reads
    rename_i count
    have passed : ((procedure.arguments.zip arguments).filterMap
        fun argument => argument.2.passed) = arguments.filterMap CallArgument.passed := by
      have second := @List.map_snd_zip _ _ procedure.arguments arguments (by omega)
      conv => rhs; rw [← second, filterMap_map]
      rfl
    have start : Bound program s (procedure.arguments.zip arguments) (callee procedure) :=
      { plain := rfl
        tracks := nofun
        fresh := nofun
        unchanged := nofun
        distinct := passed.symm ▸ once.1
        unmarked := rfl
        known := body_known found
        body := rfl
        coming := fun argument member => by
          refine ⟨fun name evaluates => set name ?_, once.2 procedure found argument.1 (of_mem_zip member).1⟩
          rw [Stmt.evaluated, found]
          exact mem_flatMap.mpr ⟨argument, member, evaluates⟩ }
    refine .bind (Ensures.foldlM
      (fun rest callee t => Evaluated s t ∧ Bound program s rest callee) ?_
      ⟨Evaluated.refl ready.reads, start⟩) ?_
    · rintro argument rest callee t ⟨later, bound⟩
      exact bindArgument_bound ready.toInv later bound
    · rintro called t ⟨later, bound⟩
      apply bind_change
      exact entered_inv ready bound later

end

section
variable {program : Program α} {s : State α}

/-- A body's end after some values were given back; `rest` are to come. -/
structure Returning (program : Program α) (body : Activation α) (kept : List Key)
    (rest : List Binding) (s : State α) : Prop where
  inv : Inv program s
  keeps : s.current.history.kept = kept
  settled : Registered program s.constants s.current
  unchanged : ∀ binding ∈ rest, binding.mode = .input →
    ∀ value, s.current.frames.visibleBindings (canonicalize binding.caller) = some value →
      body.frames.visibleBindings (canonicalize binding.formal) = some value
  distinct : (rest.map fun binding => canonicalize binding.caller).Nodup
  coming : ∀ binding ∈ rest, binding.mode ≠ .input →
    canonicalize binding.formal ∉ body.history.unset ∧
      canonicalize binding.caller ∉ program.dmlNames ∧ canonicalize binding.caller ∉ kept

section
variable {body : Activation α} {kept : List Key} {binding : Binding} {rest : List Binding}
  {frames : FrameStack α} {value : α}

section
variable (returning : Returning program body kept (binding :: rest) s)
  (found : body.frames.visibleBindings (canonicalize binding.formal) = some value)
  (assigned : s.current.frames.set binding.caller value = .ok frames)
include returning found assigned

/-- The value of an IN argument goes back to the variable that it came from, which still has it. -/
theorem Returning.input (input : binding.mode = .input) :
    Returning program body kept rest { s with current := { s.current with frames } } := by
  have same : frames.visibleBindings = s.current.frames.visibleBindings := by
    obtain ⟨before, held⟩ := Option.isSome_iff_exists.mp (visible_of_set assigned)
    have unchanged := returning.unchanged binding (.head _) input before held
    cases Option.some.inj (unchanged.symm.trans found)
    rw [visibleBindings_set assigned, ← held, Function.update_eq_self]
  exact
    { inv := returning.inv.of_frames same
      keeps := returning.keeps
      settled := by
        intro key read visible
        rw [same] at visible
        exact returning.settled key read visible
      unchanged := by
        intro later member input held holds
        rw [same] at holds
        exact returning.unchanged later (.tail _ member) input held holds
      distinct := (nodup_cons.mp returning.distinct).2
      coming := (forall_mem_cons.mp returning.coming).2 }

theorem Returning.output (sound : Sound program s.constants body) (output : binding.mode ≠ .input) :
    Returning program body kept rest { s with
      current := { s.current with
        frames
        history := s.current.history.assign (canonicalize binding.caller)
          (body.history.assigned (canonicalize binding.formal)) } } := by
  obtain ⟨set, unread, free⟩ := returning.coming binding (.head _) output
  have visible := visibleBindings_set assigned
  exact
    { inv := by
        apply returning.inv.assign visible
        · intro other holds
          exact Option.some.inj (found.symm.trans (sound.tracks _ other set holds))
        · rw [returning.keeps]
          exact free
        · exact .inl unread
      keeps := returning.keeps
      settled := by
        intro key read shown
        have other : key ≠ canonicalize binding.caller := fun same => unread (same ▸ read)
        rw [visible, update_of_ne other] at shown
        exact returning.settled key read shown
      unchanged := by
        intro later member input held holds
        have other : canonicalize later.caller ≠ canonicalize binding.caller := by
          intro same
          apply (nodup_cons.mp returning.distinct).1
          exact mem_map.mpr ⟨later, member, same⟩
        rw [visible, update_of_ne other] at holds
        exact returning.unchanged later (.tail _ member) input held holds
      distinct := (nodup_cons.mp returning.distinct).2
      coming := (forall_mem_cons.mp returning.coming).2 }

end

theorem copyOut_returning (sound : Sound program s.constants body)
    (returning : Returning program body kept (binding :: rest) s) :
    Ensures (copyOut body () binding) s
      (fun _ t => t.constants = s.constants ∧ Returning program body kept rest t)
      State.ReadsRight := by
  apply bind_step returning.inv.reads
  intro value looked
  have found := lookup_ok looked
  apply bind_look
  apply bind_step returning.inv.reads
  intro frames assigned
  refine .change ?_
  refine ⟨rfl, ?_⟩
  by_cases input : binding.mode = .input
  · simp only [if_pos input]
    exact returning.input found assigned input
  · simp only [if_neg input]
    exact returning.output found assigned sound input

end

theorem leaveBody_inv (inv : Inv program s)
    (given : ∀ caller ∈ s.callers.head?, ∀ binding ∈ s.current.bindings,
      binding.GivesBack program s.current caller) :
    Keeps program leaveBody s := by
  apply bind_look
  cases stack : s.callers with
  | nil => exact .pure inv
  | cons caller callers =>
    apply bind_change
    have linked := inv.linked
    rw [stack, isChain_cons_cons] at linked
    obtain ⟨sound, registered⟩ := inv.callers caller (stack ▸ (.head _))
    have begins : Returning program s.current caller.history.kept s.current.bindings
        { s with current := caller, callers } :=
      { inv :=
          { reads := inv.reads
            sound := sound
            settled := fun _ => registered
            callers := fun later member =>
              inv.callers later (stack ▸ .tail _ member)
            linked := linked.2 }
        keeps := rfl
        settled := registered
        unchanged := fun binding member input => (linked.1.unchanged binding member input).2
        distinct := linked.1.distinct
        coming := fun binding member =>
          given caller (by rw [stack]; exact rfl) binding member }
    refine .imp (Ensures.foldlM
      (fun rest _ t => t.constants = s.constants ∧
        Returning program s.current caller.history.kept rest t) ?_ ⟨rfl, begins⟩) ?_
    · rintro binding rest _ t ⟨same, returning⟩
      refine (copyOut_returning (same ▸ inv.sound) returning).imp ?_
      rintro _ u ⟨next, returning⟩
      exact ⟨next.trans same, returning⟩
    · rintro _ t ⟨-, returning⟩
      exact returning.inv

end

section
variable {program : Program α} {s : State α}

theorem executeOneScriptStatement_inv (ready : Ready program s) (known : stmt ∈ program.statements)
    (set : AllSet s (stmt.evaluated program)) (once : stmt.BindsOnce program s) :
    Keeps program (executeOneScriptStatement program stmt) s := by
  cases stmt with
  | declare name expr =>
    apply bind_look
    apply bind_step ready.reads
    intro _ analyzed
    apply assigned_inv ready.toInv set (fun value frames => visibleBindings_declare) once.1
    by_cases read : canonicalize name ∈ program.dmlNames
    · obtain ⟨script, free⟩ := once.2 read
      exact .inr ⟨script, Option.isNone_iff_eq_none.mp free.1⟩
    · exact .inl read
  | set name expr =>
    apply bind_look
    apply bind_step ready.reads
    intro _ analyzed
    refine assigned_inv ready.toInv set (fun value frames changed => ?_) once.1 (.inl once.2)
    apply visibleBindings_set
    revert changed
    cases s.current.frames.set name value with
    | error e => exact nofun
    | ok after => exact id
  | call procedure arguments => exact executeCall_inv ready set once
  | query semantic names =>
    apply bind_look
    apply bind_step ready.reads
    intro _ analyzed
    split
    · exact (evalNames_evaluated ready.reads fun name member value =>
        read_variable_right ready.toInv (set name member)).bind fun _ t later =>
          .pure (ready.toInv.evaluated later)
    · split
      · exact .pure ready.toInv
      · exact .throw ready.reads
  | dml names =>
    apply bind_look
    apply bind_step ready.reads
    intro _ analyzed
    split
    · refine (evalNames_evaluated ready.reads fun name member value evaluated assigned holds => ?_).bind
        fun _ t later => .pure (ready.toInv.evaluated later)
      -- a reference of a DML statement reads the constant
      rw [evalResolvedConstant, Option.bind_none] at evaluated
      cases found : s.constants (canonicalize name) with
      | none =>
        rw [found] at evaluated
        cases evaluated
      | some constant =>
        rw [found] at evaluated
        cases evaluated
        exact ready.sound.steady _ (mem_flatMap.mpr ⟨.dml names, known, mem_map_of_mem member⟩)
          (set name member) assigned value holds found
    · exact .throw ready.reads

theorem BindsOnce.of_state {stmt : Stmt α} (once : stmt.BindsOnce program s)
    (history : t.current.history = s.current.history) (level : t.current.isBody = s.current.isBody)
    (free : ∀ key, s.Free key → t.Free key) : stmt.BindsOnce program t := by
  cases stmt with
  | declare name expr =>
    refine ⟨history ▸ once.1, fun read => ?_⟩
    obtain ⟨script, new⟩ := once.2 read
    exact ⟨level.trans script, free _ new⟩
  | set name expr => exact ⟨history ▸ once.1, once.2⟩
  | call procedure arguments =>
    exact ⟨once.1, fun found member formal listed read =>
      free _ (once.2 found member formal listed read)⟩
  | query semantic names => trivial
  | dml names => trivial

theorem step_inv (inv : Inv program s) (permitted : Permitted program s) :
    Keeps program (step program) s := by
  apply bind_look
  unfold Permitted at permitted
  cases next : s.current.statements with
  | nil =>
    rw [next] at permitted
    exact leaveBody_inv inv permitted
  | cons stmt rest =>
    rw [next] at permitted
    obtain ⟨set, once⟩ := permitted
    have known : stmt ∈ program.statements :=
      inv.sound.known stmt (by rw [next]; exact .head _)
    apply bind_change
    have consumed : Inv program { s with current := { s.current with statements := rest } } :=
      { inv with
        sound := { inv.sound with
          known := fun other member => inv.sound.known other (by rw [next]; exact .tail _ member) }
        linked := chain_of_head inv.linked fun caller linked =>
          ⟨linked.unchanged, linked.distinct⟩ }
    split
    · rename_i level
      apply executeOneScriptStatement_inv ⟨consumed, inv.settled level⟩ known set
      exact BindsOnce.of_state once rfl rfl fun _ free => free
    · rename_i level
      have script := Bool.eq_false_iff.mpr level
      apply (registerVariables_ready consumed.reads consumed.sound consumed.callers
        consumed.linked).bind
      rintro _ u ⟨ready, history, still, free⟩
      apply executeOneScriptStatement_inv ready known
      · rw [AllSet, history]
        exact set
      · exact BindsOnce.of_state once history still free

theorem run_inv (program : Program α) (rounds : Nat) (permitted : ∀ before < rounds, ∀ s,
      Work.outcome (run program before) (start program) = (.ok (), s) → Permitted program s) :
    Keeps program (run program rounds) (start program) := by
  induction rounds with
  | zero => exact .pure (start_inv program)
  | succ rounds ih =>
    have earlier := ih fun before less => permitted before (Nat.lt_succ_of_lt less)
    have here := permitted rounds (Nat.lt_succ_self rounds)
    unfold Keeps Ensures at earlier ⊢
    rw [run, Work.outcome_bind]
    rcases ran : Work.outcome (run program rounds) (start program) with ⟨answer, s⟩
    rw [ran] at earlier
    cases answer with
    | error e => exact earlier
    | ok value => exact step_inv earlier (here s ran)

/-- Every reference that a run evaluates, in queries and in DML statements, in the script and in
every CALL, reads what was last assigned to the variable. -/
theorem script_reads_assigned (program : Program α) (rounds : Nat)
    (permitted : ∀ before < rounds, ∀ s,
      Work.outcome (run program before) (start program) = (.ok (), s) → Permitted program s) :
    ∀ read ∈ (Work.outcome (run program rounds) (start program)).2.reads,
      ∀ value, read.assigned = some value → read.value = value := by
  have right := (run_inv program rounds permitted).imp fun _ t inv => inv.reads
  exact right.state

def literal (value : Int) : Expr Int := ⟨[], fun _ => .ok value⟩

def plusOne (name : String) : Expr Int := ⟨[name], fun values => .ok (values.headD 0 + 1)⟩

/-- `CREATE PROCEDURE store(IN a INT64) BEGIN INSERT INTO t VALUES (a); END` -/
def storeProcedure : String × Procedure Int := ("store", ⟨[⟨"a", .input, 0⟩], [.dml ["a"]]⟩)

/-- `DECLARE n DEFAULT 1; CALL store(N); SET n = n + 1; SELECT n` -/
def storeOnce : Program Int :=
  { script :=
      [.declare "n" (literal 1), .call "store" [.byName "N"], .set "n" (plusOne "n"),
       .query true ["n"]]
    procedures := [storeProcedure] }

/-- `CALL store(1); CALL store(2)` -/
def storeTwice : Program Int :=
  { script := [.call "store" [.expression (literal 1)], .call "store" [.expression (literal 2)]]
    procedures := [storeProcedure] }

def permittedAfter (program : Program Int) (rounds : Nat) : Bool :=
  match Work.outcome (run program rounds) (start program) with
  | (.ok (), s) => decide (Permitted program s)
  | (.error _, _) => true

theorem storeOnce_reads :
    (Work.outcome (run storeOnce 6) (start storeOnce)).2.reads.map
        (fun read => (read.name, read.value)) = [("N", 1), ("a", 1), ("n", 1), ("n", 2)] ∧
      ∀ read ∈ (Work.outcome (run storeOnce 6) (start storeOnce)).2.reads,
        ∀ value, read.assigned = some value → read.value = value := by
  refine ⟨by decide +kernel, script_reads_assigned storeOnce 6 fun before less s ran => ?_⟩
  have checked : ∀ before < 6, permittedAfter storeOnce before = true := by decide +kernel
  specialize checked before less
  rw [permittedAfter, ran] at checked
  exact of_decide_eq_true checked

/-- The second CALL inserts the value of the first. -/
theorem second_call_stores_first :
    (Work.outcome (run storeTwice 6) (start storeTwice)).1.isOk = true ∧
      (Work.outcome (run storeTwice 6) (start storeTwice)).2.reads.map
        (fun read => (read.name, read.value, read.assigned)) =
          [("a", 1, some 1), ("a", 1, some 2)] := by
  decide +kernel

end

end BigQueryEmulator.Script
