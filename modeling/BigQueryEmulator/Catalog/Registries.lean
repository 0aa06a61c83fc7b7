import BigQueryEmulator.Dml.Rows

/-! The registries of a project's views, functions, table functions and procedures
(`view_registry.cc`, `udf_registry.cc`, `tvf_registry.cc`, `procedure_registry.cc`), the statements
that create and drop them, and how the catalog of a query resolves a name of a dataset. -/
namespace BigQueryEmulator.Catalog
open Storage (Status)
open Dml (equalsIgnoreCase)
variable {α : Type}

/-- An object with the name it was created under. The registries of table functions and of
procedures keep the name alone; the dataset stands here for the reader. -/
structure Entry (α : Type) where
  dataset : String
  name : String
  object : α

def Entry.named (name : String) (entry : Entry α) : Bool := equalsIgnoreCase entry.name name

/-- The dataset that is asked for, where both sides have one. -/
def Entry.inDataset (dataset : String) (entry : Entry α) : Bool :=
  dataset.isEmpty || entry.dataset.isEmpty || equalsIgnoreCase entry.dataset dataset

/-- The first entry that matches is replaced by a new one at the end. -/
def replaceFirst (same : Entry α → Bool) (entry : Entry α) (entries : List (Entry α)) :
    List (Entry α) := entries.eraseP same ++ [entry]

/-- The first entry of the name is taken out, whatever its dataset. -/
def dropByName (what name : String) (entries : List (Entry α)) : Except Status (List (Entry α)) :=
  if entries.any (Entry.named name) then .ok (entries.eraseP (Entry.named name))
  else .error ⟨.notFound, what ++ " not found: " ++ name⟩

def registerProjectView (entry : Entry α) : List (Entry α) → List (Entry α) :=
  replaceFirst (fun old => old.named entry.name &&
    (entry.dataset.isEmpty || equalsIgnoreCase old.dataset entry.dataset)) entry

def findProjectView (dataset name : String) (views : List (Entry α)) : Option α :=
  (views.find? fun entry => entry.named name && entry.inDataset dataset).map Entry.object

def dropProjectView (name : String) : List (Entry α) → Except Status (List (Entry α)) :=
  dropByName "view" name

def registerProjectFunction (entry : Entry α) : List (Entry α) → List (Entry α) :=
  replaceFirst (fun old => old.named entry.name && old.inDataset entry.dataset) entry

def findProjectFunction (dataset name : String) (functions : List (Entry α)) : Option α :=
  (functions.find? fun entry => entry.named name && entry.inDataset dataset).map Entry.object

def dropProjectFunction (name : String) : List (Entry α) → Except Status (List (Entry α)) :=
  dropByName "function" name

def registerProjectTvf (entry : Entry α) : List (Entry α) → List (Entry α) :=
  replaceFirst (Entry.named entry.name) entry

def dropProjectTvf (name : String) : List (Entry α) → Except Status (List (Entry α)) :=
  dropByName "TVF" name

/-- A new catalog's table functions; a later one takes the place of an earlier one. -/
def replayTvfsIntoCatalog (tvfs : List (Entry α)) : List (Entry α) :=
  tvfs.foldl (fun catalog tvf => catalog.filter (fun old => !old.named tvf.name) ++ [tvf]) []

def registerProjectProcedure (entry : Entry α) : List (Entry α) → List (Entry α) :=
  replaceFirst (Entry.named entry.name) entry

def dropProjectProcedure (name : String) : List (Entry α) → Except Status (List (Entry α)) :=
  dropByName "procedure" name

/-- A new catalog's procedures; an earlier one is kept. -/
def replayProceduresIntoCatalog (procedures : List (Entry α)) : List (Entry α) :=
  procedures.foldl (fun catalog procedure =>
    if catalog.any (Entry.named procedure.name) then catalog else catalog ++ [procedure]) []

inductive Kind where
  | view | function | tableFunction | procedure
deriving DecidableEq

structure Registries (α : Type) where
  views : List (Entry α) := []
  functions : List (Entry α) := []
  tvfs : List (Entry α) := []
  procedures : List (Entry α) := []

/-- The statements on objects of a dataset, and `DeleteRoutine` of the REST API. -/
inductive Statement (α : Type) where
  | create (kind : Kind) (entry : Entry α)
  | drop (kind : Kind) (dataset name : String) (ifExists : Bool)
  | deleteRoutine (dataset name : String)

variable (s : Registries α)

/-- `ExecuteCreateFunctionDdl` and `ExecuteCreateViewTvfProcedureDdl`. -/
def register (entry : Entry α) : Kind → Registries α
  | .view => { s with views := registerProjectView entry s.views }
  | .function => { s with functions := registerProjectFunction entry s.functions }
  | .tableFunction => { s with tvfs := registerProjectTvf entry s.tvfs }
  | .procedure => { s with procedures := registerProjectProcedure entry s.procedures }

def orElse {β : Type} (first second : Except Status β) : Except Status β :=
  match first with
  | .ok value => .ok value
  | .error _ => second

/-- The drop that a statement asks for. DROP FUNCTION tries a procedure where no function has
the name, and no statement drops procedures. -/
def dropObject (name : String) : Kind → Except Status (Registries α)
  | .view => (dropProjectView name s.views).map fun views => { s with views }
  | .function =>
    orElse ((dropProjectFunction name s.functions).map fun functions => { s with functions })
      ((dropProjectProcedure name s.procedures).map fun procedures => { s with procedures })
  | .tableFunction => (dropProjectTvf name s.tvfs).map fun tvfs => { s with tvfs }
  | .procedure => .error ⟨.unimplemented, "control op executor: DROP PROCEDURE is not " ++
      "implemented yet (only DROP TABLE / DROP VIEW are supported); see docs/ENGINE_POLICY.md"⟩

def executeStatement : Statement α → Except Status (Registries α)
  | .create kind entry => .ok (register s entry kind)
  | .drop kind _ name ifExists =>
    match dropObject s name kind with
    | .ok t => .ok t
    | .error e => if ifExists && e.code = .notFound then .ok s else .error e
  | .deleteRoutine _ name =>
    -- The answers of the registries are not looked at.
    orElse ((dropProjectFunction name s.functions).map fun functions => { s with functions })
      (orElse ((dropProjectTvf name s.tvfs).map fun tvfs => { s with tvfs })
        (orElse ((dropProjectProcedure name s.procedures).map fun procedures =>
          { s with procedures }) (.ok s)))

/-- The registries after a statement; one that fails changes nothing. -/
def step (stmt : Statement α) : Registries α :=
  match executeStatement s stmt with
  | .ok t => t
  | .error _ => s

/-- What a query finds under a name of a dataset (`FindTable`, `FindFunction`,
`FindTableValuedFunction`, `FindProcedure`). The catalog has no part for each dataset, so that a
path of two names finds none of its own entries; then a function is looked for in the registry,
and a table function or procedure by its last name alone. -/
def resolve (dataset name : String) : Kind → Option α
  | .view => findProjectView dataset name s.views
  | .function => findProjectFunction dataset name s.functions
  | .tableFunction =>
    ((replayTvfsIntoCatalog s.tvfs).find? (Entry.named name)).map Entry.object
  | .procedure =>
    ((replayProceduresIntoCatalog s.procedures).find? (Entry.named name)).map Entry.object

end BigQueryEmulator.Catalog
