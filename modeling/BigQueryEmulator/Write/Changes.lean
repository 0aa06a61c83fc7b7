import BigQueryEmulator.Write.Service

/-! What the calls of the write service can change, one effect at a time. When calls
run one after another, every effect on an existing stream happens while the stream
is open, so an invariant of the service has one case per effect. -/
namespace BigQueryEmulator.Write
open Storage

def StreamState.Fresh (stream : StreamState) : Prop :=
  stream.committedRows = 0 ∧ stream.bufferedRows = [] ∧ stream.flushedRows = 0 ∧
    stream.finalized = false

/-- The one route by which rows of a stream of this type reach the table. -/
def StreamType.route : StreamType → Route
  | .committed => .immediate
  | .pending => .batchCommit
  | .buffered => .flush

namespace StorageWriteService

@[simp] theorem setStream_same (svc : StorageWriteService) (name : String) (stream : StreamState) :
    (svc.setStream name stream).streams name = some stream := by
  simp [setStream]

theorem setStream_other (svc : StorageWriteService) (stream : StreamState)
    (different : other ≠ name) : (svc.setStream name stream).streams other = svc.streams other := by
  simp [setStream, different]

variable {svc : StorageWriteService}

theorem setStream_self
    (found : svc.streams name = some stream) : (svc.setStream name stream).streams = svc.streams := by
  funext other
  by_cases same : other = name
  · rw [same, setStream_same, found]
  · exact setStream_other _ _ same

theorem setStream_found (found : (svc.setStream name next).streams other = some stream) :
    (other = name ∧ stream = next) ∨ (other ≠ name ∧ svc.streams other = some stream) := by
  by_cases same : other = name
  · subst same
    rw [setStream_same] at found
    exact .inl ⟨rfl, (Option.some.inj found).symm⟩
  · rw [setStream_other _ _ same] at found
    exact .inr ⟨same, found⟩

theorem setStream_missing (missing : (svc.setStream name next).streams other = none) :
    other ≠ name ∧ svc.streams other = none := by
  by_cases same : other = name
  · subst same
    rw [setStream_same] at missing
    cases missing
  · rw [setStream_other _ _ same] at missing
    exact ⟨same, missing⟩

@[simp] theorem setStream_journal (svc : StorageWriteService) (name : String)
    (stream : StreamState) : (svc.setStream name stream).journal = svc.journal := rfl

/-- The table that `landing` was appended to has the rows at its end, and no other
table changed. -/
def Lands (svc : StorageWriteService) (landing : Landing) (storage : DuckDBStorage) : Prop :=
  ∀ table, storage.liveRows table =
    if table = landing.table then svc.storage.liveRows landing.table ++ landing.rows
    else svc.storage.liveRows table

def flushLanding (name : String) (stream : StreamState) (stop : Nat) : Landing :=
  ⟨name, .flush, stream.table, bufferedSlice stream stream.flushedRows stop⟩

def flushed (svc : StorageWriteService) (name : String) (stream : StreamState) (stop : Nat)
    (storage : DuckDBStorage) : StorageWriteService :=
  setStream { svc with storage := storage, journal := svc.journal ++ [flushLanding name stream stop] }
    name { stream with flushedRows := stop }

/-- A flush of an open BUFFERED stream that has rows to move. -/
structure Flushable (svc : StorageWriteService) (name : String) (stream : StreamState)
    (stop : Nat) (storage : DuckDBStorage) : Prop where
  found : svc.streams name = some stream
  ongoing : stream.finalized = false
  buffered : stream.type = .buffered
  start : stream.flushedRows < stop
  bound : stop ≤ stream.bufferedRows.length
  lands : svc.Lands (flushLanding name stream stop) storage

/-- One effect of a call that lands rows only by the allowed routes. -/
inductive Change (allowed : Route → Prop) (svc : StorageWriteService) :
    StorageWriteService → Prop where
  | disturb (storage : DuckDBStorage)
      (rows : ∀ table, storage.liveRows table = svc.storage.liveRows table) :
      Change allowed svc { svc with storage := storage }
  | number (id : Nat) : Change allowed svc { svc with nextStreamId := id }
  | mint (name : String) (stream : StreamState) (free : svc.streams name = none)
      (fresh : stream.Fresh) : Change allowed svc (svc.setStream name stream)
  | buffer (name : String) (stream : StreamState) (rows : List Row)
      (found : svc.streams name = some stream) (ongoing : stream.finalized = false)
      (deferred : stream.type ≠ .committed) :
      Change allowed svc (svc.setStream name { stream with
        committedRows := stream.committedRows + rows.length
        bufferedRows := stream.bufferedRows ++ rows })
  | count (name : String) (stream : StreamState) (rowCount : Nat)
      (found : svc.streams name = some stream) (ongoing : stream.finalized = false)
      (immediate : stream.type = .committed) :
      Change allowed svc (svc.setStream name
        { stream with committedRows := stream.committedRows + rowCount })
  | finalize (name : String) (stream : StreamState) (found : svc.streams name = some stream)
      (ongoing : stream.finalized = false) :
      Change allowed svc (svc.setStream name { stream with finalized := true })
  | land (landing : Landing) (stream : StreamState) (storage : DuckDBStorage)
      (permitted : allowed landing.route) (found : svc.streams landing.stream = some stream)
      (direct : stream.type ≠ .buffered) (routed : landing.route = stream.type.route)
      (owned : landing.table = stream.table) (lands : svc.Lands landing storage) :
      Change allowed svc
        { svc with storage := storage, journal := svc.journal ++ [landing] }
  | flush (name : String) (stream : StreamState) (stop : Nat) (storage : DuckDBStorage)
      (permitted : allowed .flush) (flushable : svc.Flushable name stream stop storage) :
      Change allowed svc (svc.flushed name stream stop storage)

/-- A whole call, as a sequence of effects. -/
abbrev Changes (allowed : Route → Prop) : StorageWriteService → StorageWriteService → Prop :=
  Relation.ReflTransGen (Change allowed)

theorem Changes.preserves {P : StorageWriteService → Prop}
    (step : ∀ a b, P a → Change allowed a b → P b)
    (path : Changes allowed a b) (initial : P a) : P b := by
  induction path with
  | refl => exact initial
  | tail _ last ih => exact step _ _ ih last

section
variable {allowed : Route → Prop} (svc : StorageWriteService)

/-- Every append the service makes either lands or leaves all rows as they were. -/
theorem storageAppend_cases (landing : Landing) (env : MutationEnv) :
    (∃ storage, svc.Lands landing storage ∧
      svc.storage.appendRows landing.table landing.rows env = (storage, .ok ()) ∧
      svc.storageAppend landing env =
        ({ svc with storage := storage, journal := svc.journal ++ [landing] }, .ok ())) ∨
    ∃ storage e, (∀ table, storage.liveRows table = svc.storage.liveRows table) ∧
      svc.storage.appendRows landing.table landing.rows env = (storage, .error e) ∧
      svc.storageAppend landing env = ({ svc with storage := storage }, .error e) := by
  unfold storageAppend
  split
  · rename_i storage result
    refine .inl ⟨storage, ?_, result, rfl⟩
    have writes := svc.storage.appendRows_writes landing.table landing.rows env
    rw [result] at writes
    exact writes.ok rfl
  · rename_i storage e result
    refine .inr ⟨storage, e, ?_, result, rfl⟩
    have writes := svc.storage.appendRows_writes landing.table landing.rows env
    rw [result] at writes
    exact writes.error e rfl

theorem emplace_changes (name : String) (fresh : stream.Fresh) :
    Changes allowed svc (svc.emplace name stream) := by
  unfold emplace
  split
  · exact .refl
  · rename_i free
    exact .single (.mint name stream (Option.not_isSome_iff_eq_none.mp free) fresh)

theorem createWriteStream_changes (request : CreateWriteStreamRequest) (env : CallEnv) :
    Changes allowed svc (svc.createWriteStream request env).1 := by
  unfold createWriteStream
  split
  · exact .refl
  split
  · exact .refl
  · split
    · exact .refl
    · exact .head (.number _) (emplace_changes _ _ ⟨rfl, rfl, rfl, rfl⟩)

theorem bind_changes (bound : String) (request : AppendRowsRequest) (env : CallEnv) :
    Changes allowed svc (svc.bindWriteStreamFromRequest bound request env).1 := by
  have default (name : String) (table : TableId) :
      Changes allowed svc (svc.ensureDefaultStream name table env).1 := by
    unfold ensureDefaultStream
    split
    · exact .refl
    · exact emplace_changes _ _ ⟨rfl, rfl, rfl, rfl⟩
  unfold bindWriteStreamFromRequest
  split
  · split <;> exact .refl
  split
  · exact .refl
  rename_i table streamId _
  split
  · exact .refl
  · split
    · have minted := default request.writeStream table
      split <;> simp_all
    · exact .refl

theorem commitImmediate_changes (found : svc.streams name = some stream)
    (ongoing : stream.finalized = false) (immediate : stream.type = .committed)
    (permitted : allowed .immediate) (rows : List Row) (env : MutationEnv) :
    Changes allowed svc (svc.commitImmediateAppendRows name stream.table rows env).1 := by
  have counted (svc : StorageWriteService) (found : svc.streams name = some stream) :
      Changes allowed svc (svc.countImmediateRows name rows.length).1 := by
    unfold countImmediateRows
    rw [found]
    exact .single (.count name stream rows.length found ongoing immediate)
  unfold commitImmediateAppendRows storeImmediateRows
  by_cases empty : rows.isEmpty = true
  · rw [if_pos empty]
    exact counted svc found
  rw [if_neg empty]
  rcases svc.storageAppend_cases ⟨name, .immediate, stream.table, rows⟩ env with
    ⟨storage, lands, _, result⟩ | ⟨storage, e, rows, _, result⟩
  · rw [result]
    exact .head (.land _ stream storage permitted found (by simp [immediate])
      (by simp [immediate, StreamType.route]) rfl lands) (counted _ found)
  · rw [result]
    exact .single (.disturb storage rows)

theorem loadStreamSession_ok (loaded : svc.loadStreamSessionForAppend name = .ok session) :
    ∃ stream, svc.streams name = some stream ∧ stream.finalized = false ∧
      session = ⟨stream.table, stream.schema, stream.type⟩ := by
  unfold loadStreamSessionForAppend at loaded
  split at loaded
  · cases loaded
  rename_i stream found
  split at loaded
  · cases loaded
  · rename_i ongoing
    exact ⟨stream, found, by simpa using ongoing, (Except.ok.inj loaded).symm⟩

theorem process_changes (permitted : allowed .immediate) (name : String)
    (request : AppendRowsRequest) (env : CallEnv) :
    Changes allowed svc (svc.processAppendRowsRequest name request env).1 := by
  unfold processAppendRowsRequest
  split
  · exact .refl
  rename_i session loaded
  obtain ⟨stream, found, ongoing, rfl⟩ := svc.loadStreamSession_ok loaded
  split
  · exact .refl
  rename_i rows _
  split
  · rename_i immediate
    have committed := svc.commitImmediate_changes found ongoing immediate permitted rows
      (env.append 0)
    split <;> simp_all
  · rename_i deferred
    simp only [commitBufferedAppendRows, found]
    exact .single (.buffer name stream rows found ongoing deferred)

theorem appendRows_changes (permitted : allowed .immediate) (bound : String)
    (messages : List AppendRowsMessage) :
    Changes allowed svc (svc.appendRows bound messages).1 := by
  induction messages generalizing svc bound with
  | nil => exact .refl
  | cons message rest ih =>
    have bind : Changes allowed svc _ := svc.bind_changes bound message.request message.env
    unfold appendRows
    split
    · rename_i next e result
      rwa [result] at bind
    rename_i next name result
    rw [result] at bind
    have processed := next.process_changes permitted name message.request message.env
    split
    · rename_i last e answered
      rw [answered] at processed
      exact bind.trans processed
    · rename_i last response answered
      rw [answered] at processed
      split
      · exact (bind.trans processed).trans (ih last name)
      · exact bind.trans processed

theorem finalizeWriteStream_changes (name : String) :
    Changes allowed svc (svc.finalizeWriteStream name).1 := by
  unfold finalizeWriteStream
  split
  · exact .refl
  split
  · exact .refl
  split
  · exact .refl
  rename_i stream found
  split
  · exact .refl
  · rename_i ongoing
    exact .single (.finalize name stream found (by simpa using ongoing))

/-- The three ways a flush of a stream ends: an error and all rows as they were,
nothing left to flush, or the cursor moved just past the offset. -/
theorem commitBufferedPrefix_cases (found : svc.streams name = some stream) (offset : Int)
    (env : MutationEnv) :
    (∃ storage e, (∀ table, storage.liveRows table = svc.storage.liveRows table) ∧
      svc.commitBufferedPrefix name stream offset env =
        ({ svc with storage := storage }, .error e)) ∨
    (0 ≤ offset ∧ offset < stream.flushedRows ∧
      svc.commitBufferedPrefix name stream offset env = (svc, .ok ())) ∨
    ∃ storage, 0 ≤ offset ∧ svc.Flushable name stream (offset.toNat + 1) storage ∧
      svc.commitBufferedPrefix name stream offset env =
        (svc.flushed name stream (offset.toNat + 1) storage, .ok ()) := by
  have refused (e : Status) : ∃ storage error,
      (∀ table, storage.liveRows table = svc.storage.liveRows table) ∧
        (svc, .error e) = (({ svc with storage := storage }, .error error) :
          StorageWriteService × Except Status Unit) := ⟨svc.storage, e, fun _ => rfl, rfl⟩
  unfold commitBufferedPrefix
  split
  · exact .inl (refused _)
  rename_i buffered
  split
  · exact .inl (refused _)
  rename_i ongoing
  split
  · exact .inl (refused _)
  rename_i range
  split
  · exact .inl (refused _)
  dsimp only
  split
  · exact .inr (.inl ⟨by omega, by omega, rfl⟩)
  rename_i start
  rcases svc.storageAppend_cases (flushLanding name stream (offset.toNat + 1)) env with
    ⟨storage, lands, _, result⟩ | ⟨storage, e, rows, _, result⟩
  · rw [flushLanding] at result
    rw [result]
    exact .inr (.inr ⟨storage, by omega, ⟨found, by simpa using ongoing,
      by simpa using buffered, by omega, by omega, lands⟩, rfl⟩)
  · rw [flushLanding] at result
    rw [result]
    exact .inl ⟨storage, _, rows, rfl⟩

theorem flushRows_cases (name : String) (offset : Int) (env : CallEnv) :
    (∃ e, svc.flushRows name offset env = (svc, .error e)) ∨
    ∃ stream, svc.flushRows name offset env =
      ((svc.commitBufferedPrefix name stream offset (env.append 0)).1,
        (svc.commitBufferedPrefix name stream offset (env.append 0)).2.map (fun _ => offset)) ∧
      svc.streams name = some stream := by
  unfold flushRows
  split
  · exact .inl ⟨_, rfl⟩
  split
  · exact .inl ⟨_, rfl⟩
  split
  · exact .inl ⟨_, rfl⟩
  · rename_i stream found
    refine .inr ⟨stream, ?_, found⟩
    split <;> simp_all [Except.map]

theorem flushRows_changes (permitted : allowed .flush) (name : String) (offset : Int)
    (env : CallEnv) : Changes allowed svc (svc.flushRows name offset env).1 := by
  rcases svc.flushRows_cases name offset env with ⟨e, refused⟩ | ⟨stream, result, found⟩
  · rw [refused]
  rw [result]
  rcases svc.commitBufferedPrefix_cases found offset (env.append 0) with
    ⟨storage, e, rows, same⟩ | ⟨_, _, same⟩ | ⟨storage, _, flushable, same⟩
  · rw [same]
    exact .single (.disturb storage rows)
  · rw [same]
  · rw [same]
    exact .single (.flush name stream _ storage permitted flushable)

end
end StorageWriteService
end BigQueryEmulator.Write
