import BigQueryEmulator.Write.BatchCommit

/-! Histories of write calls, one after another. Every row the service puts into a
table is accounted for by the journal, every journal entry belongs to a stream of
the entry's table, and a finalized stream never changes again. -/
namespace BigQueryEmulator.Write
open Storage Transition List

def contributed (journal : List Landing) (name : String) : List Row :=
  (journal.filter (fun landing => landing.stream = name)).flatMap Landing.rows

theorem contributed_append (first second : List Landing) (name : String) :
    contributed (first ++ second) name = contributed first name ++ contributed second name := by
  simp [contributed]

theorem contributed_singleton (landing : Landing) (name : String) :
    contributed [landing] name = if landing.stream = name then landing.rows else [] := by
  by_cases same : landing.stream = name <;> simp [contributed, same]

theorem contributed_elsewhere (journal : List Landing) (other : landing.stream ≠ name) :
    contributed (journal ++ [landing]) name = contributed journal name := by
  rw [contributed_append, contributed_singleton, if_neg other, append_nil]

namespace StorageWriteService
variable {svc : StorageWriteService} {parent : Option TableId}

theorem pendingCommit_ok (checked : svc.pendingCommit parent name = .ok commit) :
    ∃ stream, svc.streams name = some stream ∧ stream.type = .pending ∧ stream.finalized = true ∧
      commit = ⟨name, .batchCommit, stream.table, stream.bufferedRows⟩ := by
  unfold pendingCommit at checked
  split at checked
  · cases checked
  rename_i stream found
  split at checked
  · cases checked
  rename_i pending
  split at checked
  · cases checked
  rename_i finalized
  split at checked
  · cases checked
  · exact ⟨stream, found, by simpa using pending, by simpa using finalized,
      (Except.ok.inj checked).symm⟩

/-- A commit copies the buffer of a finalized PENDING stream. -/
def Committable (svc : StorageWriteService) (commit : Landing) : Prop :=
  ∃ stream, svc.streams commit.stream = some stream ∧ stream.type = .pending ∧
    stream.finalized = true ∧
    commit = ⟨commit.stream, .batchCommit, stream.table, stream.bufferedRows⟩

variable {commits : List Landing}

theorem mapM_pendingCommit (checked : names.mapM (svc.pendingCommit parent) = .ok commits) :
    commits.map Landing.stream = names ∧ ∀ commit ∈ commits, svc.Committable commit := by
  have each := Fallible.mapM_ok_iff.mp checked
  clear checked
  induction each with
  | nil => simp
  | cons first _ ih =>
    obtain ⟨names, committable⟩ := ih
    obtain ⟨stream, found, pending, finalized, rfl⟩ := pendingCommit_ok first
    refine ⟨by simp [names], forall_mem_cons.mpr ⟨?_, committable⟩⟩
    exact ⟨stream, found, pending, finalized, rfl⟩

/-- A request that passes the checks yields one commit per listed stream, in order. -/
theorem collectCommits_ok (collected : svc.collectCommits request = .ok commits) :
    commits.map Landing.stream = request.writeStreams ∧
      ∀ commit ∈ commits, svc.Committable commit := by
  unfold collectCommits at collected
  split at collected
  · cases collected
  split at collected
  · exact mapM_pendingCommit collected
  · split at collected
    · cases collected
    · exact mapM_pendingCommit collected

theorem landCommits_changes (permitted : allowed .batchCommit) (env : Nat → MutationEnv) (k : Nat)
    (listed : ∀ commit ∈ commits, svc.Committable commit) :
    Changes allowed svc (landCommits env k commits svc).1 := by
  induction commits generalizing k svc with
  | nil => exact .refl
  | cons commit rest ih =>
    have later := (forall_mem_cons.mp listed).2
    rw [landCommits]
    split
    · exact ih (k + 1) later
    obtain ⟨stream, found, pending, _, same⟩ := listed commit (.head _)
    have route : commit.route = .batchCommit := by rw [same]
    have owned : commit.table = stream.table := by rw [same]
    rcases svc.storageAppend_cases commit (env k) with
      ⟨storage, lands, _, result⟩ | ⟨storage, e, rows, _, result⟩
    · rw [result]
      refine .head (.land commit stream storage (route ▸ permitted) found (by simp [pending])
        (by simp [pending, route, StreamType.route]) owned lands) ?_
      exact ih (k + 1) later
    · rw [result]
      exact .single (.disturb storage rows)

theorem batchCommit_changes (permitted : allowed .batchCommit)
    (svc : StorageWriteService) (request : BatchCommitWriteStreamsRequest) (env : CallEnv) :
    Changes allowed svc (svc.batchCommitWriteStreams request env).1 := by
  unfold batchCommitWriteStreams
  split
  · exact .refl
  · rename_i commits collected
    have landing : Changes allowed svc (landCommits env.append 0 commits svc).1 :=
      landCommits_changes permitted env.append 0 (collectCommits_ok collected).2
    split <;> simp_all

end StorageWriteService

theorem Call.changes (svc : StorageWriteService) (call : Call) :
    svc.Changes (fun _ => True) (call.run svc) := by
  cases call with
  | createWriteStream request env => exact svc.createWriteStream_changes request env
  | appendRows messages => exact svc.appendRows_changes trivial "" messages
  | flushRows name offset env => exact svc.flushRows_changes trivial name offset env
  | finalizeWriteStream name => exact svc.finalizeWriteStream_changes name
  | batchCommitWriteStreams request env =>
    exact StorageWriteService.batchCommit_changes trivial svc request env

/-- What never happens to a stream: it keeps its table and type, its buffer and flush
cursor only grow, and once finalized it stays as it is. -/
structure StreamState.Extends (before after : StreamState) : Prop where
  table : after.table = before.table
  type : after.type = before.type
  flushed : before.flushedRows ≤ after.flushedRows
  buffered : before.bufferedRows <+: after.bufferedRows
  frozen : before.finalized = true → after = before

theorem StreamState.Extends.refl (stream : StreamState) : stream.Extends stream :=
  ⟨rfl, rfl, le_rfl, prefix_rfl, fun _ => rfl⟩

theorem StreamState.Extends.trans {a b c : StreamState} (first : a.Extends b)
    (second : b.Extends c) : a.Extends c where
  table := second.table.trans first.table
  type := second.type.trans first.type
  flushed := first.flushed.trans second.flushed
  buffered := first.buffered.trans second.buffered
  frozen := by
    intro finalized
    have same := first.frozen finalized
    exact (second.frozen (same ▸ finalized)).trans same

namespace StorageWriteService

def Persists (before after : StorageWriteService) : Prop :=
  ∀ name stream, before.streams name = some stream →
    ∃ next, after.streams name = some next ∧ stream.Extends next

theorem persists_setStream {svc : StorageWriteService} {stream next : StreamState}
    (found : svc.streams name = some stream) (extends_ : stream.Extends next) :
    svc.Persists (svc.setStream name next) := by
  intro other state stored
  by_cases same : other = name
  · subst same
    obtain rfl := Option.some.inj (found.symm.trans stored)
    exact ⟨next, setStream_same _ _ _, extends_⟩
  · exact ⟨state, by rw [setStream_other _ _ same, stored], .refl state⟩

theorem Change.persists (change : Change allowed a b) : a.Persists b := by
  have unchanged (next : StorageWriteService) (same : next.streams = a.streams) :
      a.Persists next :=
    fun name stream found => ⟨stream, by rw [same, found], .refl stream⟩
  cases change with
  | disturb | number | land => exact unchanged _ rfl
  | mint name stream free fresh =>
    intro other state stored
    have different : other ≠ name := by
      rintro rfl
      rw [free] at stored
      cases stored
    exact ⟨state, by rw [setStream_other _ _ different, stored], .refl state⟩
  | buffer name stream rows found ongoing deferred =>
    exact persists_setStream found
      ⟨rfl, rfl, le_rfl, prefix_append _ _, by simp [ongoing]⟩
  | count name stream rowCount found ongoing | finalize name stream found ongoing =>
    exact persists_setStream found ⟨rfl, rfl, le_rfl, prefix_rfl, by simp [ongoing]⟩
  | flush name stream stop storage permitted flushable =>
    exact persists_setStream flushable.found
      ⟨rfl, rfl, flushable.start.le, prefix_rfl, by simp [flushable.ongoing]⟩

variable {allowed : Route → Prop}

theorem Changes.persists {a b : StorageWriteService}
    (path : Changes allowed a b) : a.Persists b := by
  induction path with
  | refl => exact fun name stream found => ⟨stream, found, .refl stream⟩
  | tail _ last ih =>
    intro name stream found
    obtain ⟨middle, reached, first⟩ := ih name stream found
    obtain ⟨next, finished, second⟩ := last.persists name middle reached
    exact ⟨next, finished, first.trans second⟩

/-- Every stream is still there, with its table and type. -/
def Keeps (before after : StorageWriteService) : Prop :=
  ∀ name stream, before.streams name = some stream →
    ∃ next, after.streams name = some next ∧ next.table = stream.table ∧ next.type = stream.type

theorem Persists.keeps {a b : StorageWriteService} (persists : a.Persists b) : a.Keeps b := by
  intro name stream found
  obtain ⟨next, stored, kept⟩ := persists name stream found
  exact ⟨next, stored, kept.table, kept.type⟩

/-- The journal explains every row the service has put into a table. -/
structure Accounted (initial : DuckDBStorage) (svc : StorageWriteService) : Prop where
  rows : ∀ table, svc.storage.liveRows table =
    initial.liveRows table ++ rowsFor table svc.journal
  owned : ∀ landing ∈ svc.journal, ∃ stream, svc.streams landing.stream = some stream ∧
    landing.table = stream.table ∧ landing.route = stream.type.route

theorem Accounted.carried (accounted : Accounted initial a) (keeps : a.Keeps b)
    (journal : b.journal = a.journal)
    (rows : ∀ table, b.storage.liveRows table = a.storage.liveRows table) :
    Accounted initial b where
  rows := by
    intro table
    rw [rows, journal, accounted.rows]
  owned := by
    intro landing member
    obtain ⟨stream, found, table, route⟩ := accounted.owned landing (journal ▸ member)
    obtain ⟨next, stored, sameTable, sameType⟩ := keeps _ _ found
    exact ⟨next, stored, table.trans sameTable.symm, by rw [route, sameType]⟩

theorem Accounted.landed (accounted : Accounted initial a) (keeps : a.Keeps b)
    (journal : b.journal = a.journal ++ [landing]) (lands : a.Lands landing b.storage)
    (found : a.streams landing.stream = some stream) (table : landing.table = stream.table)
    (route : landing.route = stream.type.route) : Accounted initial b where
  rows := by
    intro table
    rw [lands_rowsFor lands, journal, rowsFor_append, accounted.rows, append_assoc]
  owned := by
    intro other member
    rw [journal] at member
    have entry : ∃ state, a.streams other.stream = some state ∧ other.table = state.table ∧
        other.route = state.type.route := by
      rcases mem_append.mp member with old | last
      · exact accounted.owned other old
      · rw [mem_singleton.mp last]
        exact ⟨stream, found, table, route⟩
    obtain ⟨state, known, owner, routed⟩ := entry
    obtain ⟨next, stored, sameTable, sameType⟩ := keeps _ _ known
    exact ⟨next, stored, owner.trans sameTable.symm, by rw [routed, sameType]⟩

theorem Accounted.step (accounted : Accounted initial a) (change : Change allowed a b) :
    Accounted initial b := by
  have keeps := change.persists.keeps
  cases change with
  | disturb storage rows => exact accounted.carried keeps rfl rows
  | land landing stream storage permitted found direct routed owned lands =>
    exact accounted.landed keeps rfl lands found owned routed
  | flush name stream stop storage permitted flushable =>
    exact accounted.landed keeps rfl flushable.lands flushable.found rfl
      (by rw [flushable.buffered, StreamType.route, flushLanding])
  | number | mint | buffer | count | finalize =>
    exact accounted.carried keeps rfl (fun _ => rfl)

end StorageWriteService

/-- After any calls, a table holds its first rows and then what the journal landed. -/
theorem execute_accounted (storage : DuckDBStorage) (calls : List Call) :
    StorageWriteService.Accounted storage (execute Call.run { storage := storage } calls) := by
  apply Transition.invariant
  · intro svc call accounted
    exact (call.changes svc).preserves (fun a b => StorageWriteService.Accounted.step) accounted
  · exact ⟨by simp [StorageWriteService.rowsFor], by simp⟩

/-- Over any calls streams stay and only grow, and finalized ones are frozen. -/
theorem streams_persist (svc : StorageWriteService) (calls : List Call) :
    svc.Persists (execute Call.run svc calls) := by
  apply StorageWriteService.Changes.persists
  apply Transition.invariant
  · exact fun next call path => path.trans (call.changes next)
  · exact .refl

end BigQueryEmulator.Write
