import BigQueryEmulator.Write.Histories

/-! Concurrent AppendRows, FlushRows and FinalizeWriteStream calls. A step is one
critical section of `mu_` or one storage append, so an append takes up to three: the
finalized check, the storage append, and the buffer or counter update. -/
namespace BigQueryEmulator.Write
open Storage Transition StorageWriteService

/-- Where an append stands: `loaded` is past its finalized check, `stored` past its
storage append. -/
inductive Progress where
  | idle
  | loaded (stream : String) (session : StorageWriteService.StreamSessionSnapshot) (rows : List Row)
  | stored (stream : String) (rows : List Row)
  | done

structure Answer where
  stream : String
  offset : Nat
  rows : List Row

/-- An append whose rows are in the table and whose offset is not assigned yet. -/
structure Waiting where
  call : Nat
  stream : String
  rows : List Row

/-- A FinalizeWriteStream call that returned OK, with the stream's buffer and the rows
AppendRows had put into the table at that moment. -/
structure Closing where
  stream : String
  rowCount : Nat
  buffer : List Row
  appended : List Row

/-- The service with its concurrent appends. The last three fields are history: no
step reads them. -/
structure World where
  svc : StorageWriteService
  calls : Nat → Progress := fun _ => .idle
  answers : List Answer := []
  waiting : List Waiting := []
  closings : List Closing := []

def appended (journal : List Landing) (name : String) : List Row :=
  contributed (journal.filter (fun landing => landing.route = .immediate)) name

inductive Step where
  | createWriteStream (request : CreateWriteStreamRequest) (env : CallEnv)
  | ensureDefaultStream (name : String) (table : TableId) (env : CallEnv)
  | load (call : Nat) (name : String) (request : AppendRowsRequest)
  | advance (call : Nat) (env : MutationEnv)
  | flushRows (name : String) (offset : Int) (env : CallEnv)
  | finalizeWriteStream (name : String)

namespace World

def setCall (w : World) (call : Nat) (progress : Progress) : World :=
  { w with calls := fun other => if other = call then progress else w.calls other }

def load (w : World) (call : Nat) (name : String) (request : AppendRowsRequest) : World :=
  match w.svc.loadStreamSessionForAppend name with
  | .error _ => w.setCall call .done
  | .ok session =>
    match decodeAppendRowBatch session.schema 0 request.protoRows with
    | .error _ => w.setCall call .done
    | .ok rows => w.setCall call (.loaded name session rows)

def buffer (w : World) (call : Nat) (name : String) (rows : List Row) : World :=
  match w.svc.commitBufferedAppendRows name rows with
  | (svc, .error _) => setCall { w with svc := svc } call .done
  | (svc, .ok offset) =>
    setCall { w with svc := svc, answers := w.answers ++ [⟨name, offset, rows⟩] } call .done

def store (w : World) (call : Nat) (name : String) (table : TableId) (rows : List Row)
    (env : MutationEnv) : World :=
  match w.svc.storeImmediateRows name table rows env with
  | (svc, .error _) => setCall { w with svc := svc } call .done
  | (svc, .ok ()) =>
    let waiting := if rows.isEmpty then w.waiting else w.waiting ++ [⟨call, name, rows⟩]
    setCall { w with svc := svc, waiting := waiting } call (.stored name rows)

def count (w : World) (call : Nat) (name : String) (rows : List Row) : World :=
  let (svc, offset) := w.svc.countImmediateRows name rows.length
  let waiting := w.waiting.filter (fun entry => entry.call ≠ call)
  setCall { w with svc := svc, answers := w.answers ++ [⟨name, offset, rows⟩], waiting := waiting }
    call .done

/-- The next step of an append past its finalized check. -/
def advance (w : World) (call : Nat) (env : MutationEnv) : World :=
  match w.calls call with
  | .loaded name session rows =>
    if session.type = .committed then w.store call name session.table rows env
    else w.buffer call name rows
  | .stored name rows => w.count call name rows
  | _ => w

def finalize (w : World) (name : String) : World :=
  match w.svc.finalizeWriteStream name, w.svc.streams name with
  | (svc, .ok rowCount), some stream =>
    let closing : Closing := ⟨name, rowCount, stream.bufferedRows, appended w.svc.journal name⟩
    { w with svc := svc, closings := w.closings ++ [closing] }
  | (svc, _), _ => { w with svc := svc }

/-- A step of a call that is not at that point changes nothing. -/
def step (w : World) : Step → World
  | .createWriteStream request env => { w with svc := (w.svc.createWriteStream request env).1 }
  | .ensureDefaultStream name table env =>
    { w with svc := (w.svc.ensureDefaultStream name table env).1 }
  | .load call name request =>
    match w.calls call with
    | .idle => w.load call name request
    | _ => w
  | .advance call env => w.advance call env
  | .flushRows name offset env => { w with svc := (w.svc.flushRows name offset env).1 }
  | .finalizeWriteStream name => w.finalize name

/-- An append under way belongs to a stream that exists, of the type it was loaded with. -/
def Anchored (svc : StorageWriteService) : Progress → Prop
  | .loaded name session _ => ∃ stream, svc.streams name = some stream ∧
      session.table = stream.table ∧ session.type = stream.type
  | .stored name _ => ∃ stream, svc.streams name = some stream ∧ stream.type = .committed
  | _ => True

def Sessions (w : World) : Prop := ∀ call, Anchored w.svc (w.calls call)

/-- Everything a step can do. -/
inductive Move (w : World) : Step → World → Prop where
  | rest (s : Step) (storage : DuckDBStorage)
      (rows : ∀ table, storage.liveRows table = w.svc.storage.liveRows table) :
      Move w s { w with svc := { w.svc with storage := storage } }
  | number (s : Step) (id : Nat) : Move w s { w with svc := { w.svc with nextStreamId := id } }
  | mint (s : Step) (id : Nat) (name : String) (stream : StreamState)
      (free : w.svc.streams name = none) (fresh : stream.Fresh) :
      Move w s { w with
        svc := setStream { w.svc with nextStreamId := id } name stream }
  | quit (s : Step) (call : Nat) (storage : DuckDBStorage)
      (rows : ∀ table, storage.liveRows table = w.svc.storage.liveRows table)
      (unstored : ∀ name rows, w.calls call ≠ .stored name rows) :
      Move w s (setCall { w with svc := { w.svc with storage := storage } } call .done)
  | load (call : Nat) (name : String) (request : AppendRowsRequest) (stream : StreamState)
      (rows : List Row) (idle : w.calls call = .idle) (found : w.svc.streams name = some stream)
      (ongoing : stream.finalized = false) :
      Move w (.load call name request)
        (w.setCall call (.loaded name ⟨stream.table, stream.schema, stream.type⟩ rows))
  | buffer (call : Nat) (env : MutationEnv) (name : String)
      (session : StorageWriteService.StreamSessionSnapshot) (rows : List Row) (stream : StreamState)
      (loaded : w.calls call = .loaded name session rows)
      (found : w.svc.streams name = some stream) (deferred : stream.type ≠ .committed) :
      Move w (.advance call env) (setCall
        { w with
          svc := w.svc.setStream name { stream with
            committedRows := stream.committedRows + rows.length
            bufferedRows := stream.bufferedRows ++ rows }
          answers := w.answers ++ [⟨name, stream.committedRows, rows⟩] } call .done)
  | pass (call : Nat) (env : MutationEnv) (name : String)
      (session : StorageWriteService.StreamSessionSnapshot) (stream : StreamState)
      (loaded : w.calls call = .loaded name session [])
      (found : w.svc.streams name = some stream) (immediate : stream.type = .committed) :
      Move w (.advance call env) (w.setCall call (.stored name []))
  | store (call : Nat) (env : MutationEnv) (name : String)
      (session : StorageWriteService.StreamSessionSnapshot) (rows : List Row) (stream : StreamState)
      (storage : DuckDBStorage) (loaded : w.calls call = .loaded name session rows)
      (found : w.svc.streams name = some stream) (immediate : stream.type = .committed)
      (nonempty : rows ≠ [])
      (lands : w.svc.Lands ⟨name, .immediate, stream.table, rows⟩ storage) :
      Move w (.advance call env) (setCall
        { w with
          svc := { w.svc with
            storage := storage
            journal := w.svc.journal ++ [⟨name, .immediate, stream.table, rows⟩] }
          waiting := w.waiting ++ [⟨call, name, rows⟩] } call (.stored name rows))
  | count (call : Nat) (env : MutationEnv) (name : String) (rows : List Row) (stream : StreamState)
      (stored : w.calls call = .stored name rows) (found : w.svc.streams name = some stream)
      (immediate : stream.type = .committed) :
      Move w (.advance call env) (setCall
        { w with
          svc := w.svc.setStream name
            { stream with committedRows := stream.committedRows + rows.length }
          answers := w.answers ++ [⟨name, stream.committedRows, rows⟩]
          waiting := w.waiting.filter (fun entry => entry.call ≠ call) } call .done)
  | flush (name : String) (offset : Int) (env : CallEnv) (stream : StreamState) (stop : Nat)
      (storage : DuckDBStorage) (flushable : w.svc.Flushable name stream stop storage) :
      Move w (.flushRows name offset env)
        { w with svc := w.svc.flushed name stream stop storage }
  | close (name : String) (stream : StreamState) (found : w.svc.streams name = some stream)
      (ongoing : stream.finalized = false) :
      Move w (.finalizeWriteStream name) { w with
        svc := w.svc.setStream name { stream with finalized := true }
        closings := w.closings ++ [⟨name, finalRowCount stream,
          stream.bufferedRows, appended w.svc.journal name⟩] }

theorem rest_same (w : World) (s : Step) : Move w s w := .rest s w.svc.storage (fun _ => rfl)

theorem advance_moves (w : World) (sessions : w.Sessions) (call : Nat) (env : MutationEnv) :
    Move w (.advance call env) (w.advance call env) := by
  unfold advance
  split
  · rename_i name session rows loaded
    have anchored := sessions call
    rw [loaded] at anchored
    obtain ⟨stream, found, table, type⟩ := anchored
    have unstored : ∀ name rows, w.calls call ≠ .stored name rows := by simp [loaded]
    split
    · rename_i immediate
      rw [type] at immediate
      unfold store storeImmediateRows
      cases rows with
      | nil => exact .pass call env name session stream loaded found immediate
      | cons first rest =>
        rw [if_neg (by simp), table]
        rcases w.svc.storageAppend_cases ⟨name, .immediate, stream.table, first :: rest⟩ env with
          ⟨storage, lands, _, result⟩ | ⟨storage, e, rows, _, result⟩
        · rw [result]
          exact .store call env name session _ stream storage loaded found immediate (by simp) lands
        · rw [result]
          exact .quit _ call storage rows unstored
    · rename_i deferred
      rw [type] at deferred
      simp only [buffer, commitBufferedAppendRows, found]
      exact .buffer call env name session rows stream loaded found deferred
  · rename_i name rows stored
    have anchored := sessions call
    rw [stored] at anchored
    obtain ⟨stream, found, immediate⟩ := anchored
    simp only [count, countImmediateRows, found]
    exact .count call env name rows stream stored found immediate
  · exact w.rest_same _

theorem emplace_moves (w : World) (s : Step) (id : Nat) (name : String) (fresh : stream.Fresh) :
    Move w s
      { w with svc := emplace { w.svc with nextStreamId := id } name stream } := by
  unfold emplace
  split_ifs with taken
  · exact .number s id
  · exact .mint s id name stream (Option.not_isSome_iff_eq_none.mp taken) fresh

theorem step_moves (w : World) (sessions : w.Sessions) (s : Step) : Move w s (w.step s) := by
  cases s with
  | createWriteStream request env =>
    dsimp only [step, createWriteStream]
    split
    · exact w.rest_same _
    split
    · exact w.rest_same _
    · split
      · exact w.rest_same _
      · exact w.emplace_moves _ _ _ ⟨rfl, rfl, rfl, rfl⟩
  | ensureDefaultStream name table env =>
    dsimp only [step, ensureDefaultStream]
    split
    · exact w.rest_same _
    · exact w.emplace_moves _ w.svc.nextStreamId _ ⟨rfl, rfl, rfl, rfl⟩
  | load call name request =>
    simp only [step]
    split
    · rename_i idle
      have quits : Move w (.load call name request) (w.setCall call .done) :=
        .quit _ call w.svc.storage (fun _ => rfl) (by simp [idle])
      unfold load
      split
      · exact quits
      rename_i session loaded
      obtain ⟨stream, found, ongoing, rfl⟩ := w.svc.loadStreamSession_ok loaded
      split
      · exact quits
      · exact .load call name request stream _ idle found ongoing
    · exact w.rest_same _
  | advance call env => exact w.advance_moves sessions call env
  | flushRows name offset env =>
    dsimp only [step]
    rcases w.svc.flushRows_cases name offset env with ⟨e, refused⟩ | ⟨stream, result, found⟩
    · rw [refused]
      exact w.rest_same _
    rw [result]
    rcases w.svc.commitBufferedPrefix_cases found offset (env.append 0) with
      ⟨storage, e, rows, same⟩ | ⟨_, _, same⟩ | ⟨storage, _, flushable, same⟩ <;> rw [same]
    · exact .rest _ storage rows
    · exact w.rest_same _
    · exact .flush name offset env stream _ storage flushable
  | finalizeWriteStream name =>
    dsimp only [step, finalize, finalizeWriteStream]
    split_ifs
    · exact w.rest_same _
    cases parseStreamName name with
    | error e => exact w.rest_same _
    | ok parsed =>
      cases found : w.svc.streams name with
      | none => exact w.rest_same _
      | some stream =>
        dsimp only
        split_ifs with finalized
        · exact w.rest_same _
        · exact .close name stream found (by simpa using finalized)

@[simp] theorem setCall_same (w : World) (call : Nat) (progress : Progress) :
    (w.setCall call progress).calls call = progress := by
  simp [setCall]

theorem setCall_other (w : World) (progress : Progress) (different : other ≠ call) :
    (w.setCall call progress).calls other = w.calls other := by
  simp [setCall, different]

theorem keeps_setStream {svc : StorageWriteService}
    (found : svc.streams name = some stream) (table : next.table = stream.table)
    (type : next.type = stream.type) : svc.Keeps (svc.setStream name next) := by
  intro other state stored
  by_cases same : other = name
  · subst same
    obtain rfl := Option.some.inj (found.symm.trans stored)
    exact ⟨next, setStream_same _ _ _, table, type⟩
  · exact ⟨state, by rw [setStream_other _ _ same, stored], rfl, rfl⟩

theorem Move.keeps (move : Move w s next) : w.svc.Keeps next.svc := by
  have same : w.svc.Keeps w.svc := fun _ stream found => ⟨stream, found, rfl, rfl⟩
  cases move with
  | mint s id name stream free fresh =>
    intro other state stored
    have different : other ≠ name := by
      rintro rfl
      rw [free] at stored
      cases stored
    exact ⟨state, by rw [setStream_other _ _ different]; exact stored, rfl, rfl⟩
  | buffer call env name session rows stream loaded found
  | count call env name rows stream stored found | close name stream found =>
    exact keeps_setStream found rfl rfl
  | flush name offset env stream stop storage flushable =>
    exact keeps_setStream flushable.found rfl rfl
  | rest | number | quit | load | pass | store => exact same

theorem Anchored.keeps (anchored : Anchored a progress) (keeps : a.Keeps b) :
    Anchored b progress := by
  cases progress with
  | loaded name session rows =>
    obtain ⟨stream, found, table, type⟩ := anchored
    obtain ⟨state, stored, sameTable, sameType⟩ := keeps name stream found
    exact ⟨state, stored, by rw [table, sameTable], by rw [type, sameType]⟩
  | stored name rows =>
    obtain ⟨stream, found, type⟩ := anchored
    obtain ⟨state, known, _, sameType⟩ := keeps name stream found
    exact ⟨state, known, by rw [sameType, type]⟩
  | idle => trivial
  | done => trivial

theorem Sessions.moved {w next : World} (sessions : w.Sessions) (keeps : w.svc.Keeps next.svc)
    (call : Nat) (others : ∀ other, other ≠ call → next.calls other = w.calls other)
    (anchored : Anchored next.svc (next.calls call)) : next.Sessions := by
  intro other
  by_cases same : other = call
  · rw [same]
    exact anchored
  · rw [others other same]
    exact (sessions other).keeps keeps

theorem Sessions.move (sessions : w.Sessions) (move : Move w s next) :
    next.Sessions := by
  have keeps := move.keeps
  have finished (base : World) (call : Nat) (same : base.calls = w.calls)
      (kept : w.svc.Keeps (base.setCall call .done).svc) : (base.setCall call .done).Sessions := by
    refine sessions.moved kept call ?_ (by rw [setCall_same]; trivial)
    intro other different
    rw [setCall_other _ _ different, same]
  cases move with
  | rest | number | mint | flush | close => exact fun call => (sessions call).keeps keeps
  | quit s call | buffer call | count call => exact finished _ call rfl keeps
  | load call name request stream rows idle found ongoing =>
    refine sessions.moved keeps call (fun other different => setCall_other _ _ different) ?_
    rw [setCall_same]
    exact ⟨stream, found, rfl, rfl⟩
  | pass call env name session stream loaded found immediate
  | store call env name session rows stream storage loaded found immediate =>
    refine sessions.moved keeps call (fun other different => setCall_other _ _ different) ?_
    rw [setCall_same]
    exact ⟨stream, found, immediate⟩

theorem accounted_move (accounted : StorageWriteService.Accounted initial w.svc)
    (move : Move w s next) : StorageWriteService.Accounted initial next.svc := by
  have keeps := move.keeps
  cases move with
  | rest s storage rows | quit s call storage rows => exact accounted.carried keeps rfl rows
  | store call env name session rows stream storage loaded found immediate nonempty lands =>
    exact accounted.landed keeps rfl lands found rfl (by rw [immediate, StreamType.route])
  | flush name offset env stream stop storage flushable =>
    exact accounted.landed keeps rfl flushable.lands flushable.found rfl
      (by rw [flushable.buffered, StreamType.route, flushLanding])
  | number | mint | load | buffer | pass | count | close =>
    exact accounted.carried keeps rfl (fun _ => rfl)

/-- A service whose streams have no rows yet, with no append under way. -/
structure Start (w : World) : Prop where
  fresh : ∀ name stream, w.svc.streams name = some stream → stream.Fresh
  journal : w.svc.journal = []
  calls : w.calls = fun _ => .idle
  answers : w.answers = []
  waiting : w.waiting = []
  closings : w.closings = []

theorem Start.sessions {w : World} (start : w.Start) : w.Sessions := by
  intro call
  rw [start.calls]
  trivial

theorem Start.accounted {w : World} (start : w.Start) :
    StorageWriteService.Accounted w.svc.storage w.svc :=
  ⟨by simp [start.journal, rowsFor], by simp [start.journal]⟩

end World
end BigQueryEmulator.Write
