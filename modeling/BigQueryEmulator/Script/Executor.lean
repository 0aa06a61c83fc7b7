import BigQueryEmulator.Effects
import BigQueryEmulator.Storage.Values

/-! Scripts and procedures run statement by statement (`script_executor.cc`,
`script_executor_set.cc`, `declare_stmt.cc`), with their variables in frames (`frame_stack.cc`) and
as catalog constants under which the analyzer finds their names (`script_executor_internal.cc`).
The calls that are in progress form a stack. Beside what the code keeps, a call has a history of
what the script has assigned by the rules of the language; no step looks at it. -/
namespace BigQueryEmulator.Script
open Storage (Status)
open Effects
open Work (look change step)

variable {α : Type}

/-- The characters of a name in lower case. -/
abbrev Key := List Char

def canonicalize (name : String) : Key := name.toList.map Char.toLower

/-- A table of values by name. -/
abbrev Frame (α : Type) := Key → Option α

/-- The frames, innermost first; there is always one. -/
structure FrameStack (α : Type) where
  top : Frame α := fun _ => none
  outer : List (Frame α) := []

namespace FrameStack

def pushFrame (stack : FrameStack α) : FrameStack α := ⟨fun _ => none, stack.top :: stack.outer⟩

/-- The value under a key, in the innermost frame that has it. -/
def visibleBindings (stack : FrameStack α) : Frame α :=
  fun key => (stack.top :: stack.outer).findSome? fun frame => frame key

def declare (stack : FrameStack α) (name : String) (value : α) : Except Status (FrameStack α) :=
  if (stack.top (canonicalize name)).isSome then
    .error ⟨.alreadyExists, "semantic::FrameStack: name already declared in this frame: " ++ name⟩
  else .ok { stack with top := Function.update stack.top (canonicalize name) (some value) }

/-- The frames with the innermost one that has the key updated. -/
def assignIn (key : Key) (value : α) : List (Frame α) → Option (List (Frame α))
  | [] => none
  | frame :: rest =>
    if (frame key).isSome then some (Function.update frame key (some value) :: rest)
    else (assignIn key value rest).map (frame :: ·)

def notDeclared (name : String) : Status :=
  ⟨.notFound, "semantic::FrameStack: name not declared: " ++ name⟩

def set (stack : FrameStack α) (name : String) (value : α) : Except Status (FrameStack α) :=
  if (stack.top (canonicalize name)).isSome then
    .ok { stack with top := Function.update stack.top (canonicalize name) (some value) }
  else
    match assignIn (canonicalize name) value stack.outer with
    | some outer => .ok { stack with outer }
    | none => .error (notDeclared name)

def lookup (stack : FrameStack α) (name : String) : Except Status α :=
  match stack.visibleBindings (canonicalize name) with
  | some value => .ok value
  | none => .error (notDeclared name)

variable {stack : FrameStack α} {name : String} {value : α}

theorem visibleBindings_declare (declared : stack.declare name value = .ok after) :
    after.visibleBindings = Function.update stack.visibleBindings (canonicalize name) (some value) := by
  unfold declare at declared
  split at declared
  · cases declared
  cases declared
  funext key
  by_cases same : key = canonicalize name
  · subst key
    simp [visibleBindings]
  · simp [visibleBindings, List.findSome?_cons, same]

theorem outer_declare
    (declared : stack.declare name value = .ok after) : after.outer = stack.outer := by
  unfold declare at declared
  split at declared
  · cases declared
  · cases declared
    rfl

theorem findSome_assignIn (assigned : assignIn key value frames = some after) (other : Key) :
    after.findSome? (fun frame => frame other) =
      if other = key then some value else frames.findSome? fun frame => frame other := by
  induction frames generalizing after with
  | nil => cases assigned
  | cons frame rest ih =>
    rw [assignIn] at assigned
    split at assigned
    · cases assigned
      by_cases same : other = key
      · simp [same]
      · simp [List.findSome?_cons, same]
    · rename_i absent
      obtain ⟨updated, inner, rfl⟩ := Option.map_eq_some_iff.mp assigned
      rw [Option.not_isSome_iff_eq_none] at absent
      rw [List.findSome?_cons, ih inner, List.findSome?_cons]
      by_cases same : other = key
      · simp [same, absent]
      · simp [same]

theorem findSome_of_assignIn (assigned : assignIn key value frames = some after) :
    (frames.findSome? fun frame => frame key).isSome := by
  induction frames generalizing after with
  | nil => cases assigned
  | cons frame rest ih =>
    rw [assignIn] at assigned
    rw [List.findSome?_cons]
    split at assigned
    · rename_i present
      obtain ⟨held, found⟩ := Option.isSome_iff_exists.mp present
      rw [found]
      rfl
    · obtain ⟨updated, inner, -⟩ := Option.map_eq_some_iff.mp assigned
      split
      · rfl
      · exact ih inner

theorem visibleBindings_set (assigned : stack.set name value = .ok after) :
    after.visibleBindings = Function.update stack.visibleBindings (canonicalize name) (some value) := by
  unfold set at assigned
  split at assigned
  · cases assigned
    funext key
    by_cases same : key = canonicalize name
    · subst key
      simp [visibleBindings]
    · simp [visibleBindings, List.findSome?_cons, same]
  · rename_i absent
    rw [Option.not_isSome_iff_eq_none] at absent
    split at assigned
    · rename_i outer inner
      cases assigned
      funext key
      rw [visibleBindings, List.findSome?_cons, findSome_assignIn inner]
      by_cases same : key = canonicalize name
      · subst key
        simp [absent]
      · simp [visibleBindings, List.findSome?_cons, same]
    · cases assigned

theorem visible_of_set (assigned : stack.set name value = .ok after) :
    (stack.visibleBindings (canonicalize name)).isSome := by
  unfold set at assigned
  rw [visibleBindings, List.findSome?_cons]
  split at assigned
  · rename_i present
    obtain ⟨held, found⟩ := Option.isSome_iff_exists.mp present
    rw [found]
    rfl
  · split at assigned
    · rename_i outer inner
      split
      · rfl
      · exact findSome_of_assignIn inner
    · cases assigned

theorem lookup_ok (found : stack.lookup name = .ok value) :
    stack.visibleBindings (canonicalize name) = some value := by
  unfold lookup at found
  split at found
  · rename_i seen
    cases found
    exact seen
  · cases found

end FrameStack

/-- The constants after each visible variable that is new to the catalog was added with its
present value, and the names that are now known to be there. A name that the catalog has
already keeps its constant. -/
def registerScriptVariablesOnCatalog (constants : Frame α) (frames : FrameStack α)
    (registered : Key → Bool) : Frame α × (Key → Bool) :=
  (fun key =>
    if registered key then constants key
    else
      match constants key with
      | some existing => some existing
      | none => frames.visibleBindings key,
   fun key => registered key || (frames.visibleBindings key).isSome)

section
variable {constants : Frame α} {frames : FrameStack α} {registered : Key → Bool} {key : Key}

theorem registered_of_constant (present : constants key = some value) :
    (registerScriptVariablesOnCatalog constants frames registered).1 key = some value := by
  simp only [registerScriptVariablesOnCatalog, present]
  split <;> rfl

/-- A constant of the catalog was there before, or is a visible variable's. -/
theorem constant_or_visible
    (present : (registerScriptVariablesOnCatalog constants frames registered).1 key = some value) :
    constants key = some value ∨ constants key = none ∧ frames.visibleBindings key = some value := by
  dsimp only [registerScriptVariablesOnCatalog] at present
  split at present
  · exact .inl present
  split at present
  · rename_i known
    cases present
    exact .inl known
  · rename_i absent
    exact .inr ⟨absent, present⟩

theorem visible_registered (known : ∀ key, registered key → (constants key).isSome)
    (visible : (frames.visibleBindings key).isSome) :
    ((registerScriptVariablesOnCatalog constants frames registered).1 key).isSome := by
  dsimp only [registerScriptVariablesOnCatalog]
  split
  · rename_i marked
    exact known key marked
  · split
    · rfl
    · exact visible

end

/-- An expression: the variables that it names, and its value from theirs. -/
structure Expr (α : Type) where
  names : List String
  value : List α → Except Status α

inductive Mode where
  | input | output | inout
deriving DecidableEq

structure Argument (α : Type) where
  name : String
  mode : Mode
  null : α

/-- An argument of a CALL: a variable alone, or any other expression. -/
inductive CallArgument (α : Type) where
  | byName (name : String)
  | expression (expr : Expr α)

/-- A statement. A query tells whether it is routed to the semantic executor. -/
inductive Stmt (α : Type) where
  | declare (name : String) (expr : Expr α)
  | set (name : String) (expr : Expr α)
  | call (procedure : String) (arguments : List (CallArgument α))
  | query (semantic : Bool) (names : List String)
  | dml (names : List String)

structure Procedure (α : Type) where
  arguments : List (Argument α)
  body : List (Stmt α)

structure Program (α : Type) where
  script : List (Stmt α)
  procedures : List (String × Procedure α)

/-- What the script has assigned to the variables of a call by the rules of the language, the IN
arguments that were given as variables, and the OUT arguments that nothing was assigned to. -/
structure History (α : Type) where
  assigned : Frame α := fun _ => none
  kept : List Key := []
  unset : List Key := []

def History.assign (history : History α) (key : Key) (value : Option α) : History α :=
  { history with
    assigned := Function.update history.assigned key value
    unset := history.unset.filter (· ≠ key) }

/-- A variable of the caller that gets the value of a formal argument back. -/
structure Binding where
  formal : String
  caller : String
  mode : Mode

/-- A script or a procedure body in progress. `alone`: the text of the request is the text of
the statement, and not of the whole script. -/
structure Activation (α : Type) where
  statements : List (Stmt α)
  frames : FrameStack α := {}
  isBody : Bool
  alone : Bool
  registered : Key → Bool := fun _ => false
  bindings : List Binding := []
  history : History α := {}

/-- The evaluation of a reference: what it gave, and what was last assigned to the variable. -/
structure Read (α : Type) where
  name : String
  value : α
  assigned : Option α

structure State (α : Type) where
  constants : Frame α
  current : Activation α
  callers : List (Activation α)
  reads : List (Read α)

abbrev Run (α : Type) := Work (State α) Status

def analyzeNames (resolves : Key → Bool) (names : List String) : Except Status Unit :=
  match names.find? fun name => !resolves (canonicalize name) with
  | some name => .error ⟨.invalidArgument, "Unrecognized name: " ++ name⟩
  | none => .ok ()

/-- A variable if there are any and it is one of them, else the constant of the catalog. -/
def evalResolvedConstant (constants : Frame α) (scriptVariables : Option (FrameStack α))
    (name : String) : Except Status α :=
  match scriptVariables.bind fun frames => frames.visibleBindings (canonicalize name) with
  | some value => .ok value
  | none =>
    match constants (canonicalize name) with
    | some value => .ok value
    | none =>
      .error ⟨.invalidArgument, "semantic: constant '" ++ name ++
        "' has no bound value (catalog returned HasValue=false)"⟩

def State.read (s : State α) (name : String) (value : α) : Read α :=
  ⟨name, value, s.current.history.assigned (canonicalize name)⟩

def evalNames (scriptVariables : Option (FrameStack α)) (names : List String) :
    Run α (List α) := do
  let s ← look .ok
  let values ← step (names.mapM (evalResolvedConstant s.constants scriptVariables))
  change fun s => .ok { s with reads := s.reads ++ List.zipWith s.read names values }
  return values

def evalExpr (frames : FrameStack α) (expr : Expr α) : Run α α := do
  let values ← evalNames (some frames) expr.names
  step (expr.value values)

variable (name : String)

def assignVariable (value : α) (frames : FrameStack α) : Run α Unit :=
  change fun s => .ok { s with
    current := { s.current with
      frames
      history := s.current.history.assign (canonicalize name) (some value) } }

def hasConstant (s : State α) (key : Key) : Bool := (s.constants key).isSome

def executeDeclare (expr : Expr α) : Run α Unit := do
  let s ← look .ok
  step (analyzeNames (hasConstant s) expr.names)
  let value ← evalExpr s.current.frames expr
  let frames ← step (s.current.frames.declare name value)
  assignVariable name value frames

def setFailed (status : Status) : Status :=
  ⟨.invalidArgument, "script::ExecuteProcedureSet: cannot assign to '" ++ name ++ "': " ++
    status.message⟩

/-- SET; its expression is analyzed with the visible variables as columns. -/
def executeProcedureSet (expr : Expr α) : Run α Unit := do
  let s ← look .ok
  step (analyzeNames
    (fun key => (s.current.frames.visibleBindings key).isSome || hasConstant s key) expr.names)
  let value ← evalExpr s.current.frames expr
  let frames ← step ((s.current.frames.set name value).mapError (setFailed name))
  assignVariable name value frames

/-- `ExecuteResolvedStatement`: only the semantic executor is given the variables, and the
transpiler covers no constant of the catalog. -/
def executeQuery (semantic : Bool) (names : List String) : Run α Unit := do
  let s ← look .ok
  step (analyzeNames (hasConstant s) names)
  if semantic then
    let _ ← evalNames (some s.current.frames) names
    return
  else if names.isEmpty then return
  else throw ⟨.unimplemented, "duckdb engine: transpiler does not yet cover this query shape"⟩

/-- `ExecuteDml` analyzes the text of the request again, and evaluates without variables. -/
def executeDml (names : List String) : Run α Unit := do
  let s ← look .ok
  step (analyzeNames (hasConstant s) names)
  if s.current.alone then
    let _ ← evalNames none names
    return
  else throw ⟨.invalidArgument, "Syntax error: Expected end of input"⟩

def History.bindVariable (history : History α) (formal : Argument α) (seed : α) : History α :=
  match formal.mode with
  | .input =>
    { history with
      assigned := Function.update history.assigned (canonicalize formal.name) (some seed)
      kept := canonicalize formal.name :: history.kept }
  | .inout =>
    { history with
      assigned := Function.update history.assigned (canonicalize formal.name) (some seed) }
  -- An OUT argument starts as NULL, whatever the variable held.
  | .output =>
    { history with
      assigned := Function.update history.assigned (canonicalize formal.name) (some formal.null)
      unset := canonicalize formal.name :: history.unset }

/-- One argument of a CALL, added to the callee. The mode is not looked at: every variable is
bound to get the value back. -/
def bindArgument (frames : FrameStack α) (callee : Activation α)
    (argument : Argument α × CallArgument α) : Run α (Activation α) :=
  match argument.2 with
  | .byName name => do
    let seed := (frames.visibleBindings (canonicalize name)).getD argument.1.null
    -- A variable given for an OUT argument is not evaluated.
    change fun s => .ok { s with
      reads := if argument.1.mode = .output then s.reads else s.reads ++ [s.read name seed] }
    let declared ← step (callee.frames.declare argument.1.name seed)
    return { callee with
      frames := declared
      bindings := callee.bindings ++ [⟨argument.1.name, name, argument.1.mode⟩]
      history := callee.history.bindVariable argument.1 seed }
  | .expression expr => do
    let value ← evalExpr frames expr
    let declared ← step (callee.frames.declare argument.1.name value)
    return { callee with
      frames := declared
      history := callee.history.assign (canonicalize argument.1.name) (some value) }

def CallArgument.names : CallArgument α → List String
  | .byName name => [name]
  | .expression expr => expr.names

def registerVariables : Run α Unit :=
  change fun s =>
    let (constants, registered) :=
      registerScriptVariablesOnCatalog s.constants s.current.frames s.current.registered
    .ok { s with constants, current := { s.current with registered } }

def callee (procedure : Procedure α) : Activation α :=
  { statements := procedure.body, frames := FrameStack.pushFrame {}, isBody := true, alone := true }

/-- `ExecuteCallStmt` up to the body, whose statements are run next. -/
def executeCall (program : Program α) (name : String) (arguments : List (CallArgument α)) :
    Run α Unit := do
  let s ← look .ok
  step (analyzeNames (hasConstant s) (arguments.flatMap CallArgument.names))
  match program.procedures.lookup name with
  | none =>
    throw ⟨.invalidArgument, "script::ExecuteCall: procedure '" ++ name ++ "' not found"⟩
  | some procedure =>
    if procedure.arguments.length ≠ arguments.length then
      throw ⟨.invalidArgument, "script::ExecuteCall: argument count mismatch"⟩
    let called ← (procedure.arguments.zip arguments).foldlM (bindArgument s.current.frames)
      (callee procedure)
    change fun s => .ok { s with current := called, callers := s.current :: s.callers }
    registerVariables

def copyOut (body : Activation α) (_ : Unit) (binding : Binding) : Run α Unit := do
  let value ← step (body.frames.lookup binding.formal)
  let s ← look .ok
  let frames ← step (s.current.frames.set binding.caller value)
  change fun s => .ok { s with
    current := { s.current with
      frames
      history :=
        if binding.mode = .input then s.current.history
        else s.current.history.assign (canonicalize binding.caller)
          (body.history.assigned (canonicalize binding.formal)) } }

/-- The end of a body: the loop over `out_bindings` of `ExecuteCallStmt`. -/
def leaveBody : Run α Unit := do
  let s ← look .ok
  match s.callers with
  | [] => return
  | caller :: callers =>
    change fun s => .ok { s with current := caller, callers }
    s.current.bindings.foldlM (copyOut s.current) ()

def executeOneScriptStatement (program : Program α) : Stmt α → Run α Unit
  | .declare name expr => executeDeclare name expr
  | .set name expr => executeProcedureSet name expr
  | .call procedure arguments => executeCall program procedure arguments
  | .query semantic names => executeQuery semantic names
  | .dml names => executeDml names

/-- One round of the loop of `ExecuteScriptViaAnalyzeNext` or of `ExecuteProcedureBody`. A
script registers its variables before each statement, a body only once, when it is entered. -/
def step (program : Program α) : Run α Unit := do
  let s ← look .ok
  match s.current.statements with
  | [] => leaveBody
  | stmt :: rest =>
    change fun s => .ok { s with current := { s.current with statements := rest } }
    if s.current.isBody then executeOneScriptStatement program stmt
    else
      registerVariables
      executeOneScriptStatement program stmt

def run (program : Program α) : Nat → Run α Unit
  | 0 => return
  | rounds + 1 => do
    run program rounds
    step program

def start (program : Program α) : State α :=
  { constants := fun _ => none
    current :=
      { statements := program.script, isBody := false, alone := decide (program.script.length ≤ 1) }
    callers := []
    reads := [] }

end BigQueryEmulator.Script
