import BigQueryEmulator.Gateway.ScriptText
import BigQueryEmulator.Storage.Values

/-! Scripts that the gateway hands to the engine as one text (`script_runner_engine.go`). The
engine carries the script out; to report a child job per statement, the gateway then sends most
statements once more. -/
namespace BigQueryEmulator.Gateway
open Storage (Status)
open Text List
variable {Db Effect Result : Type}

/-- What became of a request: the answer, the effects on tables and catalog that were carried
out, in their order, and the tables and the catalog after them. -/
structure Served (Db Effect Result : Type) where
  answer : Except Status Result
  applied : List Effect
  db : Db

inductive StatementClass where
  | select | dml | ddl | other
deriving DecidableEq

/-- The engine behind the frontend. What it does to the tables and the catalog is the effects that
it reports. -/
structure Engine (Db Effect Result : Type) where
  apply : Db → Effect → Db
  /-- `AnalyzeStatement` and `ClassifyStatement` -/
  classify : Sql → Db → Except Status StatementClass
  /-- `StreamRows` for one query -/
  rows : Sql → Db → Except Status Result
  dml : Sql → Db → Except Status Result × List Effect
  ddl : Sql → Db → Except Status Result × List Effect
  /-- the statement loop -/
  script : Sql → Db → Except Status Result × List Effect

def needsScriptStatementLoop (sql : Sql) : Bool :=
  contains sql ";" &&
    (["DECLARE", "CALL ", "CREATE CONSTANT", "BEGIN"].any (contains sql) ||
      contains sql " SET " || contains sql "\nSET " ||
      hasPrefix ((trim isAsciiSpace sql).map Char.toUpper) "SET ")

namespace Engine
variable (engine : Engine Db Effect Result)

def serve (db : Db) (reply : Except Status Result × List Effect) : Served Db Effect Result :=
  ⟨reply.1, reply.2, reply.2.foldl engine.apply db⟩

/-- `StreamQueryResults`. -/
def executeQuery (sql : Sql) (db : Db) : Served Db Effect Result :=
  engine.serve db <|
    if needsScriptStatementLoop sql then engine.script sql db
    else
      match engine.classify sql db with
      | .error status => (.error status, [])
      | .ok .select => (engine.rows sql db, [])
      | .ok .dml => engine.dml sql db
      | .ok .ddl => engine.ddl sql db
      | .ok .other =>
        (.error ⟨.unimplemented, "QueryService::ExecuteQuery: statement kind is not supported " ++
          "by the emulator"⟩, [])

end Engine

section

/-- A child job: the query text in its configuration, and its result. -/
structure ChildJob (Result : Type) where
  query : Sql
  answer : Except Status Result

inductive ChildStep where
  | reExecute (stmtSQL : Sql)
  | final
deriving DecidableEq

def lastQueryIdx (statements : List Sql) : Option Nat :=
  (statements.zipIdx.filter fun stmt =>
    (classifyScriptStatement stmt.1).kind = .query).getLast?.map Prod.snd

/-- The `switch` over the kinds of statements. -/
def childStep (last : Option Nat) (stmt : Sql × Nat) : Option ChildStep :=
  let st := classifyScriptStatement stmt.1
  match st.kind with
  | .declare | .call => none
  | .set => some (.reExecute st.sql)
  | .query => if last = some stmt.2 then some .final else some (.reExecute st.sql)

def childSteps (statements : List Sql) : List ChildStep :=
  statements.zipIdx.filterMap (childStep (lastQueryIdx statements))

def resent : List ChildStep → List Sql :=
  filterMap fun
    | .reExecute stmtSQL => some stmtSQL
    | .final => none

/-- The texts that the gateway sends again once the script has run. -/
def reExecuted (sql : Sql) : List Sql :=
  resent (childSteps (splitScriptStatements (unwrapBeginEndBlock sql)))

/-- A job: its result, its child jobs, the effects that were carried out for it, and the tables
and the catalog after it. -/
structure ScriptJob (Db Effect Result : Type) where
  answer : Except Status Result
  children : List (ChildJob Result)
  applied : List Effect
  db : Db

/-- `prepare` is `PrepareEngineSQL`. -/
structure Setup (Db Effect Result : Type) where
  engine : Engine Db Effect Result
  prepare : Sql → Except Status Sql := .ok

variable (setup : Setup Db Effect Result)

def executeScriptStatement (sql : Sql) (db : Db) : Served Db Effect Result :=
  match setup.prepare sql with
  | .error status => ⟨.error status, [], db⟩
  | .ok prepared => setup.engine.executeQuery prepared db

/-- One more child job. A statement that fails this time fails its child job only. -/
def registerChild (sql : Sql) (final : Result) (job : ScriptJob Db Effect Result) :
    ChildStep → ScriptJob Db Effect Result
  | .final => { job with children := job.children ++ [⟨sql, .ok final⟩] }
  | .reExecute stmtSQL =>
    let served := executeScriptStatement setup stmtSQL job.db
    { job with
      children := job.children ++ [⟨stmtSQL, served.answer⟩]
      applied := job.applied ++ served.applied
      db := served.db }

/-- `hasResult`: the engine answered with a schema or with rows. -/
def registerEngineScriptChildJobs (hasResult : Result → Bool) (sql : Sql) (final : Result)
    (job : ScriptJob Db Effect Result) : ScriptJob Db Effect Result :=
  let inner := unwrapBeginEndBlock sql
  if scriptNeedsGoogleSQLExecutor inner then
    if hasResult final then registerChild setup sql final job .final else job
  else (childSteps (splitScriptStatements inner)).foldl (registerChild setup sql final) job

def runEngineScript (hasResult : Result → Bool) (sql : Sql) (db : Db) :
    ScriptJob Db Effect Result :=
  let served := executeScriptStatement setup (transformScriptDeclares sql) db
  match served.answer with
  | .error status => ⟨.error status, [], served.applied, served.db⟩
  | .ok final =>
    registerEngineScriptChildJobs setup hasResult sql final
      ⟨.ok final, [], served.applied, served.db⟩

end

section
variable {setup : Setup Db Effect Result} {sql : Sql} {db : Db}

theorem executeScriptStatement_db (setup : Setup Db Effect Result) (sql : Sql) (db : Db) :
    (executeScriptStatement setup sql db).db =
      (executeScriptStatement setup sql db).applied.foldl setup.engine.apply db := by
  rw [executeScriptStatement]
  cases setup.prepare sql <;> rfl

/-- The text is a query for the engine, or the engine carries nothing of it out. -/
def Idle (setup : Setup Db Effect Result) (db : Db) (text : Sql) : Prop :=
  ∀ prepared, setup.prepare text = .ok prepared →
    if needsScriptStatementLoop prepared then (setup.engine.script prepared db).2 = []
    else
      match setup.engine.classify prepared db with
      | .ok .dml => (setup.engine.dml prepared db).2 = []
      | .ok .ddl => (setup.engine.ddl prepared db).2 = []
      | _ => True

theorem idle_iff (setup : Setup Db Effect Result) (db : Db) (text : Sql) :
    Idle setup db text ↔ (executeScriptStatement setup text db).applied = [] := by
  rw [Idle, executeScriptStatement]
  cases setup.prepare text with
  | error status => exact iff_of_true nofun rfl
  | ok prepared =>
    simp only [Except.ok.injEq, forall_eq', Engine.executeQuery, Engine.serve]
    split
    next => rfl
    cases setup.engine.classify prepared db with
    | error status => exact iff_of_true trivial rfl
    | ok cls =>
      cases cls with
      | select | other => exact iff_of_true trivial rfl
      | dml => rfl
      | ddl => rfl

/-- Effects are only added, and none is added exactly when no text that is sent again has one. -/
theorem foldl_registerChild (setup : Setup Db Effect Result) (sql : Sql) (final : Result)
    (steps : List ChildStep) (job : ScriptJob Db Effect Result) :
    ∃ again, (steps.foldl (registerChild setup sql final) job).applied = job.applied ++ again ∧
      (again = [] ↔ ∀ text ∈ resent steps, Idle setup job.db text) := by
  induction steps generalizing job with
  | nil => exact ⟨[], by simp, by simp [resent]⟩
  | cons step rest ih =>
    cases step with
    | final => exact ih { job with children := job.children ++ [⟨sql, .ok final⟩] }
    | reExecute text =>
      obtain ⟨again, applied, none_iff⟩ :=
        ih (registerChild setup sql final job (.reExecute text))
      refine ⟨(executeScriptStatement setup text job.db).applied ++ again, ?_, ?_⟩
      · rw [foldl_cons, applied, registerChild, append_assoc]
      · rw [append_eq_nil_iff]
        change _ ↔ ∀ other ∈ text :: resent rest, Idle setup job.db other
        rw [forall_mem_cons, idle_iff]
        refine and_congr_right fun idle => none_iff.trans ?_
        rw [registerChild, executeScriptStatement_db, idle, foldl_nil]

/-- The effects that the engine carries out for a script are carried out once, unless the gateway
overlooks an effect in a statement that it sends again. -/
theorem script_applied_once_iff (setup : Setup Db Effect Result) (hasResult : Result → Bool)
    (sql : Sql) (db : Db) :
    (runEngineScript setup hasResult sql db).applied =
        (executeScriptStatement setup (transformScriptDeclares sql) db).applied ↔
      ((executeScriptStatement setup (transformScriptDeclares sql) db).answer.isOk = true →
        scriptNeedsGoogleSQLExecutor (unwrapBeginEndBlock sql) = false →
        ∀ text ∈ reExecuted sql, Idle setup
          (executeScriptStatement setup (transformScriptDeclares sql) db).db text) := by
  rw [runEngineScript]
  split
  next failed => simp [failed, Except.isOk, Except.toBool]
  next final ok =>
    rw [registerEngineScriptChildJobs]
    split
    next flow =>
      refine iff_of_true ?_ (fun _ straight => absurd flow (by simp [straight]))
      split <;> rfl
    next straight =>
      obtain ⟨again, applied, none_iff⟩ := foldl_registerChild setup sql final
        (childSteps (splitScriptStatements (unwrapBeginEndBlock sql)))
        ⟨.ok final, [], (executeScriptStatement setup (transformScriptDeclares sql) db).applied,
          (executeScriptStatement setup (transformScriptDeclares sql) db).db⟩
      rw [applied, append_right_eq_self, none_iff]
      rw [Bool.not_eq_true] at straight
      have succeeded : Except.isOk
          (executeScriptStatement setup (transformScriptDeclares sql) db).answer = true := by
        rw [ok]
        rfl
      exact ⟨fun idle _ _ => idle, fun idle => idle succeeded straight⟩

/-- The engine of a table of rows and a procedure that adds a row, as far as the script below
needs it. -/
def rowSetup : Setup (List Nat) Unit Unit :=
  let perform (text : Sql) : List Unit :=
    if hasPrefix (trimSpace (stripBlockComments text)) "CALL ds.add_row()" then [()] else []
  { engine :=
    { apply := fun table _ => table ++ [1]
      classify := fun text _ =>
        .ok (if hasPrefix (trimSpace (stripBlockComments text)) "CALL" then .ddl else .select)
      rows := fun _ _ => .ok ()
      dml := fun _ _ => (.ok (), [])
      ddl := fun text _ => (.ok (), perform text)
      script := fun text _ => (.ok (), (splitScriptStatements text).flatMap perform) } }

def addRowScript : Sql :=
  "DECLARE n INT64 DEFAULT 1; /* one row */ CALL ds.add_row(); SELECT n".toList

/-- Behind a block comment, the gateway does not recognize the CALL. -/
theorem call_behind_comment_twice :
    (executeScriptStatement rowSetup (transformScriptDeclares addRowScript) []).db = [1] ∧
      (runEngineScript rowSetup (fun _ => true) addRowScript []).db = [1, 1] ∧
      (runEngineScript rowSetup (fun _ => true) addRowScript []).applied ≠
        (executeScriptStatement rowSetup (transformScriptDeclares addRowScript) []).applied := by
  decide +kernel

end
end BigQueryEmulator.Gateway
