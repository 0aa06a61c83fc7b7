import BigQueryEmulator.Read.Service
import BigQueryEmulator.Transition

/-! Read sessions next to concurrent writers. A step is one critical section of the
read service or one storage call; CreateReadSession and ReadRows take two, with other
calls free to run in between. GetSchema is taken together with the step it precedes,
since no write changes a schema. -/
namespace BigQueryEmulator.Read
open Storage Transition

structure Opened where
  session : ReadSession
  counted : CountedSession
  snapshot : List Row

structure Answer where
  request : ReadRowsRequest
  pages : List ReadRowsResponse
  status : Except Status Unit

def Answer.rows (answer : Answer) : List (List Cell) := answer.pages.flatMap ReadRowsResponse.rows

/-- The store, the service and the calls under way. The last three fields are history:
no step reads them. `split` lists session and stream of the successful splits. -/
structure World where
  storage : DuckDBStorage
  svc : StorageReadService := {}
  opening : Nat → Option (CreateReadSessionRequest × CountedSession) := fun _ => none
  reading : Nat → Option (ReadRowsRequest × OpenRead) := fun _ => none
  split : List (String × String) := []
  opened : List Opened := []
  answers : List Answer := []

inductive Step where
  | countRows (call : Nat) (request : CreateReadSessionRequest)
  | openSession (call : Nat)
  | openRead (call : Nat) (request : ReadRowsRequest)
  | fetchRows (call : Nat) (env : ReadEnv)
  | splitReadStream (request : SplitReadStreamRequest)
  | appendRows (table : TableId) (rows : List Row) (env : MutationEnv)
  | overwriteRows (table : TableId) (rows : List Row) (env : MutationEnv)

def setCall {α : Type} (calls : Nat → Option α) (call : Nat) (progress : Option α) : Nat → Option α :=
  fun other => if other = call then progress else calls other

theorem setCall_cases (found : setCall calls call progress other = some x) :
    progress = some x ∨ calls other = some x := by
  unfold setCall at found
  split at found
  · exact .inl found
  · exact .inr found

theorem mapError_ok {result : Except Status α} {f : Status → Status}
    (ok : result.mapError f = .ok value) : result = .ok value := by
  cases result with
  | error e => cases ok
  | ok found => exact ok

variable {storage : DuckDBStorage}

theorem countSession_ok {request : CreateReadSessionRequest}
    (ok : countSession engine storage request = .ok counted) :
    storage.getSchema counted.table = .ok counted.schema ∧
      counted.totalRows = (storage.liveRows counted.table).length := by
  unfold countSession at ok
  simp only [bind, Except.bind] at ok
  split at ok
  · cases ok
  split at ok
  · cases ok
  rename_i project parsed table named
  split at ok
  · cases ok
  split at ok
  · cases ok
  rename_i schema described
  split at ok
  · cases ok
  split at ok
  · cases ok
  split at ok
  · cases ok
  rename_i total number
  cases ok
  refine ⟨?_, ?_⟩
  · exact mapError_ok described
  · exact congrArg Nat.cast (storage.countRows_ok (mapError_ok number))

theorem findStream_ok (ok : findStream svc tag missing readStream = .ok found) :
    (∃ key, parseReadStreamName readStream = .ok (found.1, key)) ∧
      svc.sessions found.1 = some found.2.1 ∧ found.2.1.streams readStream = some found.2.2 := by
  obtain ⟨⟨sessionName, key⟩, parsed, ok⟩ := bind_ok ok
  dsimp only at ok
  split at ok
  · cases ok
  next session known =>
    split at ok
    · cases ok
    next partition held =>
      cases ok
      exact ⟨⟨key, parsed⟩, known, held⟩

namespace World
variable (engine : Engine)

def countRows (w : World) (call : Nat) (request : CreateReadSessionRequest) : World :=
  match countSession engine w.storage request with
  | .error _ => w
  | .ok counted => { w with opening := setCall w.opening call (some (request, counted)) }

def openSession (w : World) (call : Nat) : World :=
  match w.opening call with
  | none => w
  | some (request, counted) =>
    let (svc, session) := Read.openSession w.svc request counted
    let opened : Opened := ⟨session, counted, w.storage.liveRows counted.table⟩
    { w with
      svc := svc
      opening := setCall w.opening call none
      opened := w.opened ++ [opened] }

def openRead (w : World) (call : Nat) (request : ReadRowsRequest) : World :=
  match Read.openRead w.storage w.svc request with
  | .error e => { w with answers := w.answers ++ [⟨request, [], .error e⟩] }
  | .ok read => { w with reading := setCall w.reading call (some (request, read)) }

def fetchRows (w : World) (call : Nat) (env : ReadEnv) : World :=
  match w.reading call with
  | none => w
  | some (request, read) =>
    let (pages, status) := Read.fetchRows engine w.storage read env
    { w with
      reading := setCall w.reading call none
      answers := w.answers ++ [⟨request, pages, status⟩] }

def splitReadStream (w : World) (request : SplitReadStreamRequest) : World :=
  match Read.splitReadStream w.svc request, parseReadStreamName request.name with
  | (svc, .ok _), .ok (sessionName, _) =>
    { w with svc := svc, split := w.split ++ [(sessionName, request.name)] }
  | (svc, _), _ => { w with svc := svc }

/-- A step of a call that is not at that point changes nothing. -/
def step (w : World) : Step → World
  | .countRows call request =>
    if (w.opening call).isSome then w else w.countRows engine call request
  | .openSession call => w.openSession call
  | .openRead call request => if (w.reading call).isSome then w else w.openRead call request
  | .fetchRows call env => w.fetchRows engine call env
  | .splitReadStream request => w.splitReadStream request
  | .appendRows table rows env => { w with storage := (w.storage.appendRows table rows env).1 }
  | .overwriteRows table rows env => { w with storage := (w.storage.overwriteRows table rows env).1 }

/-- Everything a step can do. -/
inductive Move (w : World) : Step → World → Prop where
  | rest (s : Step) : Move w s w
  | count (call : Nat) (request : CreateReadSessionRequest) (counted : CountedSession)
      (checked : countSession engine w.storage request = .ok counted) :
      Move w (.countRows call request)
        { w with opening := setCall w.opening call (some (request, counted)) }
  | enter (call : Nat) (request : CreateReadSessionRequest) (counted : CountedSession)
      (pending : w.opening call = some (request, counted)) :
      Move w (.openSession call)
        { w with
          svc := (Read.openSession w.svc request counted).1
          opening := setCall w.opening call none
          opened := w.opened ++ [⟨(Read.openSession w.svc request counted).2, counted,
            w.storage.liveRows counted.table⟩] }
  | refuse (call : Nat) (request : ReadRowsRequest) (e : Status) :
      Move w (.openRead call request)
        { w with answers := w.answers ++ [⟨request, [], .error e⟩] }
  | read (call : Nat) (request : ReadRowsRequest) (sessionName key : String)
      (session : SessionState) (partition : StreamPartition)
      (named : parseReadStreamName request.readStream = .ok (sessionName, key))
      (known : w.svc.sessions sessionName = some session)
      (found : session.streams request.readStream = some partition) :
      Move w (.openRead call request)
        { w with reading :=
            setCall w.reading call (some (request, session.readOf partition request.offset)) }
  | fetch (call : Nat) (env : ReadEnv) (request : ReadRowsRequest) (read : OpenRead)
      (pending : w.reading call = some (request, read)) :
      Move w (.fetchRows call env)
        { w with
          reading := setCall w.reading call none
          answers := w.answers ++ [⟨request, (Read.fetchRows engine w.storage read env).1,
            (Read.fetchRows engine w.storage read env).2⟩] }
  | split (request : SplitReadStreamRequest) (fraction : ℚ) (sessionName key : String)
      (session : SessionState) (original : StreamPartition) (cut : Int)
      (named : parseReadStreamName request.name = .ok (sessionName, key))
      (known : w.svc.sessions sessionName = some session)
      (found : session.streams request.name = some original)
      (inside : checkFraction request.fraction = .ok fraction)
      (checked : splitAt request.name session original fraction = .ok cut) :
      Move w (.splitReadStream request)
        { w with
          svc := w.svc.setSession sessionName (enterChildren sessionName session original cut).1
          split := w.split ++ [(sessionName, request.name)] }
  | append (table : TableId) (rows : List Row) (env : MutationEnv) :
      Move w (.appendRows table rows env)
        { w with storage := (w.storage.appendRows table rows env).1 }
  | overwrite (table : TableId) (rows : List Row) (env : MutationEnv) :
      Move w (.overwriteRows table rows env)
        { w with storage := (w.storage.overwriteRows table rows env).1 }

variable (w : World)

theorem splitReadStream_moves (request : SplitReadStreamRequest) :
    Move engine w (.splitReadStream request) (w.splitReadStream request) := by
  unfold splitReadStream
  rcases answered : Read.splitReadStream w.svc request with ⟨svc, response⟩
  unfold Read.splitReadStream at answered
  split at answered
  · cases answered
    exact .rest _
  split at answered
  · cases answered
    exact .rest _
  rename_i fraction inside
  split at answered
  · cases answered
    exact .rest _
  rename_i sessionName session original looked
  obtain ⟨⟨key, named⟩, known, held⟩ := findStream_ok looked
  split at answered
  · cases answered
    exact .rest _
  rename_i cut checked
  cases answered
  rw [named]
  exact .split request fraction sessionName key session original cut named known held inside checked

theorem step_moves (s : Step) : Move engine w s (w.step engine s) := by
  cases s with
  | countRows call request =>
    simp only [step, countRows]
    split
    · exact .rest _
    · split
      · exact .rest _
      · rename_i counted checked
        exact .count call request counted checked
  | openSession call =>
    simp only [step, openSession]
    split
    · exact .rest _
    · rename_i request counted pending
      exact .enter call request counted pending
  | openRead call request =>
    simp only [step, openRead]
    split
    · exact .rest _
    split
    · exact .refuse call request _
    · rename_i read ok
      obtain ⟨⟨sessionName, session, partition⟩, looked, ok⟩ := bind_ok ok
      obtain ⟨⟨key, named⟩, known, found⟩ := findStream_ok looked
      obtain ⟨_, -, ok⟩ := bind_ok ok
      split at ok
      · cases ok
      cases ok
      exact .read call request sessionName key session partition named known found
  | fetchRows call env =>
    simp only [step, fetchRows]
    split
    · exact .rest _
    · rename_i request read pending
      exact .fetch call env request read pending
  | splitReadStream request => exact w.splitReadStream_moves engine request
  | appendRows table rows env => exact .append table rows env
  | overwriteRows table rows env => exact .overwrite table rows env

theorem createReadSession_alone (idle : w.opening call = none)
    (request : CreateReadSessionRequest) :
    let alone := execute (step engine) w [.countRows call request, .openSession call]
    let result := createReadSession engine w.storage w.svc request
    alone.svc = result.1 ∧
      alone.opened.map Opened.session = w.opened.map Opened.session ++ result.2.toOption.toList := by
  simp only [execute, step, idle, Option.isSome_none, Bool.false_eq_true, if_false, countRows,
    createReadSession]
  cases countSession engine w.storage request with
  | error e =>
    simp [openSession, idle, Except.toOption]
  | ok counted =>
    simp [openSession, setCall, Except.toOption]

theorem readRows_alone (idle : w.reading call = none) (request : ReadRowsRequest) (env : ReadEnv) :
    let alone := execute (step engine) w [.openRead call request, .fetchRows call env]
    let result := readRows engine w.storage w.svc request env
    alone.svc = w.svc ∧ alone.answers = w.answers ++ [⟨request, result.1, result.2⟩] := by
  simp only [execute, step, idle, Option.isSome_none, Bool.false_eq_true, if_false, openRead,
    readRows]
  cases Read.openRead w.storage w.svc request with
  | error e =>
    simp [fetchRows, idle]
  | ok read =>
    simp [fetchRows, setCall]

/-- A service nobody has called yet, over any store. -/
structure Start (w : World) : Prop where
  sessions : ∀ name, w.svc.sessions name = none
  opening : ∀ call, w.opening call = none
  reading : ∀ call, w.reading call = none
  split : w.split = []
  opened : w.opened = []
  answers : w.answers = []

end World
end BigQueryEmulator.Read
