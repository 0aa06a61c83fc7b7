import BigQueryEmulator.Handlers
import BigQueryEmulator.Storage.RowEffects

/-! The Storage Write service (`storage_write.cc`, `storage_write_internal.cc`,
`storage_write_append_rows.cc`, `storage_write_buffered.cc`). Each function is one critical
section of `mu_`, one storage call, or an RPC put together from them in the order of the source.
Tables are named `projects/…/datasets/…/tables/…`, and a stream's name nests under its table's. -/
namespace BigQueryEmulator.Write
open Storage

def tablePathFor (id : TableId) : String :=
  "projects/" ++ id.projectId ++ "/datasets/" ++ id.datasetId ++ "/tables/" ++ id.tableId

/-- The text before and after the first occurrence of a separator. -/
def breakOn (separator : List Char) : List Char → Option (List Char × List Char)
  | [] => none
  | c :: rest =>
    if separator.isPrefixOf (c :: rest) then some ([], (c :: rest).drop separator.length)
    else (breakOn separator rest).map (fun (before, after) => (c :: before, after))

def parseTableParent (parent : String) : Except Status TableId :=
  if parent.isEmpty then
    .error ⟨.invalidArgument, "StorageWrite.CreateWriteStream: parent is required (expected " ++
      "form projects/\x7bp\x7d/datasets/\x7bd\x7d/tables/\x7bt\x7d)"⟩
  else
    match splitTablePath parent with
    | some table => .ok table
    | none => .error ⟨.invalidArgument, "StorageWrite.CreateWriteStream: malformed parent " ++
        "(expected form projects/\x7bp\x7d/datasets/\x7bd\x7d/tables/\x7bt\x7d): " ++ parent⟩

def parseStreamName (name : String) : Except Status (TableId × String) :=
  if name.isEmpty then .error ⟨.invalidArgument, "StorageWrite: write_stream is required"⟩
  else
    match breakOn "/streams/".toList name.toList with
    | none => .error ⟨.invalidArgument, "StorageWrite: malformed write_stream name (expected form " ++
        "projects/\x7bp\x7d/datasets/\x7bd\x7d/tables/\x7bt\x7d/streams/\x7bid\x7d): " ++ name⟩
    | some (owner, stream) =>
      match splitTablePath (String.ofList owner) with
      | none => .error ⟨.invalidArgument, "StorageWrite: malformed table prefix on " ++
          "write_stream name (expected projects/\x7bp\x7d/datasets/\x7bd\x7d/tables/\x7bt\x7d " ++
          "before /streams/): " ++ name⟩
      | some table =>
        if stream.isEmpty then
          .error ⟨.invalidArgument, "StorageWrite: empty stream id in write_stream name: " ++ name⟩
        else .ok (table, String.ofList stream)

inductive StreamType where
  | committed | pending | buffered
deriving DecidableEq, Repr

/-- `WriteStream.Type` as it arrives on the wire, where any number may stand. -/
inductive WireType where
  | unspecified
  | known (type : StreamType)
  | other (number : Int)
deriving DecidableEq, Repr

structure StreamState where
  table : TableId
  schema : TableSchema
  type : StreamType := .committed
  createTime : String
  committedRows : Nat := 0
  bufferedRows : List Row := []
  flushedRows : Nat := 0
  finalized : Bool := false

inductive Route where
  | immediate | flush | batchCommit
deriving DecidableEq, Repr

structure Landing where
  stream : String
  route : Route
  table : TableId
  rows : List Row

/-- The service's state. `journal` is a history variable: it records the storage
appends in the order they happened, and no branch of the service reads it. -/
structure StorageWriteService where
  storage : DuckDBStorage
  nextStreamId : Nat := 1
  streams : String → Option StreamState := fun _ => none
  journal : List Landing := []

structure CreateWriteStreamRequest where
  parent : String
  writeStreamType : Option WireType := none

structure WriteStream where
  name : String
  type : StreamType
  schema : TableSchema
  createTime : String

structure AppendRowsRequest where
  writeStream : String
  protoRows : List (List Cell)
  traceId : String := ""

inductive AppendOutcome where
  | appendResult (offset rowCount : Nat)
  | errorMessage (message : String)
deriving DecidableEq, Repr

structure AppendRowsResponse where
  traceId : String
  outcome : AppendOutcome
deriving DecidableEq, Repr

structure BatchCommitWriteStreamsRequest where
  parent : String := ""
  writeStreams : List String

/-- What the environment decides about one call: the formatted wall clock and the
fate of its k-th storage append. -/
structure CallEnv where
  rfc3339Now : String := ""
  append : Nat → MutationEnv

/-- One message of an AppendRows call. `delivered` is whether its response can still
be written to the client. -/
structure AppendRowsMessage where
  request : AppendRowsRequest
  env : CallEnv
  delivered : Bool := true

namespace StorageWriteService

def setStream (svc : StorageWriteService) (name : String) (stream : StreamState) :
    StorageWriteService :=
  { svc with streams := fun other => if other = name then some stream else svc.streams other }

/-- `std::map::emplace`: an entry that is already there stays. -/
def emplace (svc : StorageWriteService) (name : String) (stream : StreamState) :
    StorageWriteService :=
  if (svc.streams name).isSome then svc else svc.setStream name stream

/-- `storage_->AppendRows`, with the success entered in the journal. -/
def storageAppend (svc : StorageWriteService) (landing : Landing) (env : MutationEnv) :
    StorageWriteService × Except Status Unit :=
  match svc.storage.appendRows landing.table landing.rows env with
  | (storage, .ok ()) =>
    ({ svc with storage := storage, journal := svc.journal ++ [landing] }, .ok ())
  | (storage, .error e) => ({ svc with storage := storage }, .error e)

def newStreamId (tablePath : String) (id : Nat) : String := tablePath ++ "/streams/s" ++ toString id

def requestedType : Option WireType → Except Status StreamType
  | none | some .unspecified => .ok .committed
  | some (.known type) => .ok type
  | some (.other number) =>
    .error ⟨.invalidArgument, "StorageWrite.CreateWriteStream: unknown stream type " ++
      toString number⟩

def createWriteStream (svc : StorageWriteService) (request : CreateWriteStreamRequest)
    (env : CallEnv) : StorageWriteService × Except Status WriteStream :=
  match parseTableParent request.parent with
  | .error e => (svc, .error e)
  | .ok table =>
    match requestedType request.writeStreamType with
    | .error e => (svc, .error e)
    | .ok type =>
      match svc.storage.getSchema table with
      | .error e => (svc, .error (abslToGrpcStatus e))
      | .ok schema =>
        let name := newStreamId (tablePathFor table) svc.nextStreamId
        let minted := { svc with nextStreamId := svc.nextStreamId + 1 }
        (minted.emplace name
          { table := table, schema := schema, type := type, createTime := env.rfc3339Now },
          .ok ⟨name, type, schema, env.rfc3339Now⟩)

def ensureDefaultStream (svc : StorageWriteService) (name : String) (table : TableId)
    (env : CallEnv) : StorageWriteService × Except Status Unit :=
  match svc.storage.getSchema table with
  | .error e => (svc, .error (abslToGrpcStatus e))
  | .ok schema =>
    (svc.emplace name { table := table, schema := schema, createTime := env.rfc3339Now }, .ok ())

/-- The stream an AppendRows message goes to, given the one bound before (empty at
first). -/
def bindWriteStreamFromRequest (svc : StorageWriteService) (bound : String)
    (request : AppendRowsRequest) (env : CallEnv) : StorageWriteService × Except Status String :=
  if request.writeStream.isEmpty then
    if bound.isEmpty then
      (svc, .error ⟨.invalidArgument,
        "StorageWrite.AppendRows: first message must set write_stream"⟩)
    else (svc, .ok bound)
  else
    match parseStreamName request.writeStream with
    | .error e => (svc, .error e)
    | .ok (table, streamId) =>
      if !bound.isEmpty && bound != request.writeStream then
        (svc, .error ⟨.invalidArgument, "StorageWrite.AppendRows: cannot rebind stream " ++
          "mid-call (first message: " ++ bound ++ ", later message: " ++ request.writeStream ++
          ")"⟩)
      else if streamId = "_default" then
        match svc.ensureDefaultStream request.writeStream table env with
        | (svc, .error e) => (svc, .error e)
        | (svc, .ok ()) => (svc, .ok request.writeStream)
      else (svc, .ok request.writeStream)

structure StreamSessionSnapshot where
  table : TableId
  schema : TableSchema
  type : StreamType

/-- The first critical section of an append: the finalized check. -/
def loadStreamSessionForAppend (svc : StorageWriteService) (name : String) :
    Except Status StreamSessionSnapshot :=
  match svc.streams name with
  | none => .error ⟨.notFound, "StorageWrite.AppendRows: no such stream (call " ++
      "CreateWriteStream first or use the reserved _default suffix): " ++ name⟩
  | some stream =>
    if stream.finalized then
      .error ⟨.failedPrecondition, "StorageWrite.AppendRows: stream is finalized: " ++ name⟩
    else .ok ⟨stream.table, stream.schema, stream.type⟩

def decodeAppendRowBatch (schema : TableSchema) : Nat → List (List Cell) → Except String (List Row)
  | _, [] => .ok []
  | r, cells :: rest =>
    if cells.length ≠ schema.columns.length then
      .error ("AppendRows: row " ++ toString r ++ " has " ++ toString cells.length ++
        " cell(s) but the stream's table has " ++ toString schema.columns.length ++
        " top-level column(s)")
    else (decodeAppendRowBatch schema (r + 1) rest).map (⟨cellsToValues cells⟩ :: ·)

/-- The second critical section of a BUFFERED or PENDING append. It does not look at
`finalized` again. -/
def commitBufferedAppendRows (svc : StorageWriteService) (name : String) (rows : List Row) :
    StorageWriteService × Except Status Nat :=
  match svc.streams name with
  | none => (svc, .error ⟨.notFound, "StorageWrite.AppendRows: no such stream: " ++ name⟩)
  | some stream =>
    let next := { stream with
      committedRows := stream.committedRows + rows.length
      bufferedRows := stream.bufferedRows ++ rows }
    (svc.setStream name next, .ok stream.committedRows)

/-- The storage step of a COMMITTED append, outside `mu_`. -/
def storeImmediateRows (svc : StorageWriteService) (name : String) (table : TableId)
    (rows : List Row) (env : MutationEnv) : StorageWriteService × Except Status Unit :=
  if rows.isEmpty then (svc, .ok ()) else svc.storageAppend ⟨name, .immediate, table, rows⟩ env

/-- The second critical section of a COMMITTED append: the offset is assigned. -/
def countImmediateRows (svc : StorageWriteService) (name : String) (rowCount : Nat) :
    StorageWriteService × Nat :=
  match svc.streams name with
  | none => (svc, 0)
  | some stream =>
    (svc.setStream name { stream with committedRows := stream.committedRows + rowCount },
      stream.committedRows)

/-- The answer to a failed storage append: INVALID_ARGUMENT and FAILED_PRECONDITION
become an `error_message`, anything else ends the call. -/
def immediateFailure (e : Status) : Except Status (Except String Nat) :=
  if e.code = .invalidArgument ∨ e.code = .failedPrecondition then .ok (.error e.message)
  else .error (abslToGrpcStatus e)

def commitImmediateAppendRows (svc : StorageWriteService) (name : String) (table : TableId)
    (rows : List Row) (env : MutationEnv) :
    StorageWriteService × Except Status (Except String Nat) :=
  match svc.storeImmediateRows name table rows env with
  | (svc, .error e) => (svc, immediateFailure e)
  | (svc, .ok ()) =>
    let (svc, priorOffset) := svc.countImmediateRows name rows.length
    (svc, .ok (.ok priorOffset))

def processAppendRowsRequest (svc : StorageWriteService) (name : String)
    (request : AppendRowsRequest) (env : CallEnv) :
    StorageWriteService × Except Status AppendRowsResponse :=
  match svc.loadStreamSessionForAppend name with
  | .error e => (svc, .error e)
  | .ok session =>
    match decodeAppendRowBatch session.schema 0 request.protoRows with
    | .error message => (svc, .ok ⟨request.traceId, .errorMessage message⟩)
    | .ok rows =>
      if session.type = .committed then
        match svc.commitImmediateAppendRows name session.table rows (env.append 0) with
        | (svc, .error e) => (svc, .error e)
        | (svc, .ok (.error message)) => (svc, .ok ⟨request.traceId, .errorMessage message⟩)
        | (svc, .ok (.ok priorOffset)) =>
          (svc, .ok ⟨request.traceId, .appendResult priorOffset rows.length⟩)
      else
        match svc.commitBufferedAppendRows name rows with
        | (svc, .error e) => (svc, .error e)
        | (svc, .ok priorOffset) =>
          (svc, .ok ⟨request.traceId, .appendResult priorOffset rows.length⟩)

def appendRows (svc : StorageWriteService) (bound : String) :
    List AppendRowsMessage → StorageWriteService × List AppendRowsResponse × Except Status Unit
  | [] => (svc, [], .ok ())
  | message :: rest =>
    match svc.bindWriteStreamFromRequest bound message.request message.env with
    | (svc, .error e) => (svc, [], .error e)
    | (svc, .ok name) =>
      match svc.processAppendRowsRequest name message.request message.env with
      | (svc, .error e) => (svc, [], .error e)
      | (svc, .ok response) =>
        if message.delivered then
          let (svc, responses, status) := appendRows svc name rest
          (svc, response :: responses, status)
        else
          (svc, [], .error ⟨.aborted,
            "StorageWrite.AppendRows: client cancelled mid-stream"⟩)

def finalRowCount (stream : StreamState) : Nat :=
  match stream.type with
  | .buffered => stream.flushedRows
  | .pending => stream.bufferedRows.length
  | .committed => stream.committedRows

def finalizeWriteStream (svc : StorageWriteService) (name : String) :
    StorageWriteService × Except Status Nat :=
  if name.isEmpty then
    (svc, .error ⟨.invalidArgument, "StorageWrite.FinalizeWriteStream: name is required"⟩)
  else
    match parseStreamName name with
    | .error e => (svc, .error e)
    | .ok _ =>
      match svc.streams name with
      | none =>
        (svc, .error ⟨.notFound, "StorageWrite.FinalizeWriteStream: no such stream: " ++ name⟩)
      | some stream =>
        if stream.finalized then
          (svc, .error ⟨.failedPrecondition,
            "StorageWrite.FinalizeWriteStream: stream already finalized: " ++ name⟩)
        else
          (svc.setStream name { stream with finalized := true }, .ok (finalRowCount stream))

/-- `buffered_rows[start .. end)`. -/
def bufferedSlice (stream : StreamState) (start stop : Nat) : List Row :=
  (stream.bufferedRows.drop start).take (stop - start)

def commitBufferedPrefix (svc : StorageWriteService) (name : String) (stream : StreamState)
    (offset : Int) (env : MutationEnv) : StorageWriteService × Except Status Unit :=
  if stream.type ≠ .buffered then
    (svc, .error ⟨.failedPrecondition,
      "StorageWrite.FlushRows: FlushRows is only valid for BUFFERED streams"⟩)
  else if stream.finalized then
    (svc, .error ⟨.failedPrecondition, "StorageWrite.FlushRows: stream is finalized"⟩)
  else if offset < 0 ∨ offset ≥ stream.bufferedRows.length then
    (svc, .error ⟨.invalidArgument, "StorageWrite.FlushRows: offset " ++ toString offset ++
      " is out of range for " ++ toString stream.bufferedRows.length ++ " buffered row(s)"⟩)
  else if offset < stream.flushedRows - 1 then
    (svc, .error ⟨.invalidArgument, "StorageWrite.FlushRows: offset " ++ toString offset ++
      " must not precede the prior flush cursor " ++ toString stream.flushedRows⟩)
  else
    let stop := offset.toNat + 1
    if stream.flushedRows ≥ stop then (svc, .ok ())
    else
      let batch := bufferedSlice stream stream.flushedRows stop
      match svc.storageAppend ⟨name, .flush, stream.table, batch⟩ env with
      | (svc, .error e) => (svc, .error (abslToGrpcStatus e))
      | (svc, .ok ()) => (svc.setStream name { stream with flushedRows := stop }, .ok ())

/-- FlushRows holds `mu_` throughout and answers with the offset it was given. -/
def flushRows (svc : StorageWriteService) (name : String) (offset : Int) (env : CallEnv) :
    StorageWriteService × Except Status Int :=
  if name.isEmpty then
    (svc, .error ⟨.invalidArgument, "StorageWrite.FlushRows: write_stream is required"⟩)
  else
    match parseStreamName name with
    | .error e => (svc, .error e)
    | .ok _ =>
      match svc.streams name with
      | none => (svc, .error ⟨.notFound, "StorageWrite.FlushRows: no such stream: " ++ name⟩)
      | some stream =>
        match svc.commitBufferedPrefix name stream offset (env.append 0) with
        | (svc, .error e) => (svc, .error e)
        | (svc, .ok ()) => (svc, .ok offset)

/-- The checks BatchCommitWriteStreams makes of one listed stream, and what it copies. -/
def pendingCommit (svc : StorageWriteService) (parent : Option TableId) (name : String) :
    Except Status Landing :=
  match svc.streams name with
  | none =>
    .error ⟨.notFound, "StorageWrite.BatchCommitWriteStreams: no such stream: " ++ name⟩
  | some stream =>
    if stream.type ≠ .pending then
      .error ⟨.invalidArgument,
        "StorageWrite.BatchCommitWriteStreams: stream is not PENDING: " ++ name⟩
    else if !stream.finalized then
      .error ⟨.failedPrecondition,
        "StorageWrite.BatchCommitWriteStreams: stream is not finalized: " ++ name⟩
    else if parent.any (fun table => stream.table != table) then
      .error ⟨.invalidArgument,
        "StorageWrite.BatchCommitWriteStreams: stream does not belong to parent table: " ++ name⟩
    else .ok ⟨name, .batchCommit, stream.table, stream.bufferedRows⟩

/-- The request checks and the loop under `mu_`. -/
def collectCommits (svc : StorageWriteService) (request : BatchCommitWriteStreamsRequest) :
    Except Status (List Landing) :=
  if request.writeStreams.isEmpty then
    .error ⟨.invalidArgument,
      "StorageWrite.BatchCommitWriteStreams: write_streams is required"⟩
  else if request.parent.isEmpty then
    request.writeStreams.mapM (svc.pendingCommit none)
  else
    match parseTableParent request.parent with
    | .error e => .error e
    | .ok parent => request.writeStreams.mapM (svc.pendingCommit (some parent))

/-- The loop outside `mu_`: one storage append per stream that has rows, stopping at
the first failure. -/
def landCommits (env : Nat → MutationEnv) : Nat → List Landing → StorageWriteService →
    StorageWriteService × Except Status Unit
  | _, [], svc => (svc, .ok ())
  | k, commit :: rest, svc =>
    if commit.rows.isEmpty then landCommits env (k + 1) rest svc
    else
      match svc.storageAppend commit (env k) with
      | (svc, .error e) => (svc, .error (abslToGrpcStatus e))
      | (svc, .ok ()) => landCommits env (k + 1) rest svc

/-- BatchCommitWriteStreams answers with the commit time. No stream's state changes. -/
def batchCommitWriteStreams (svc : StorageWriteService)
    (request : BatchCommitWriteStreamsRequest) (env : CallEnv) :
    StorageWriteService × Except Status String :=
  match svc.collectCommits request with
  | .error e => (svc, .error e)
  | .ok commits =>
    match landCommits env.append 0 commits svc with
    | (svc, .error e) => (svc, .error e)
    | (svc, .ok ()) => (svc, .ok env.rfc3339Now)

end StorageWriteService

inductive Call where
  | createWriteStream (request : CreateWriteStreamRequest) (env : CallEnv)
  | appendRows (messages : List AppendRowsMessage)
  | flushRows (name : String) (offset : Int) (env : CallEnv)
  | finalizeWriteStream (name : String)
  | batchCommitWriteStreams (request : BatchCommitWriteStreamsRequest) (env : CallEnv)

namespace Call

def run (svc : StorageWriteService) : Call → StorageWriteService
  | .createWriteStream request env => (svc.createWriteStream request env).1
  | .appendRows messages => (svc.appendRows "" messages).1
  | .flushRows name offset env => (svc.flushRows name offset env).1
  | .finalizeWriteStream name => (svc.finalizeWriteStream name).1
  | .batchCommitWriteStreams request env => (svc.batchCommitWriteStreams request env).1

end Call

end BigQueryEmulator.Write
