import BigQueryEmulator.Write.Histories

/-! BUFFERED streams over whole histories: what has reached the table is exactly the
buffer up to the flush cursor. -/
namespace BigQueryEmulator.Write
open Storage Transition StorageWriteService

namespace StorageWriteService

/-- The flush cursor of every BUFFERED stream marks what the stream has contributed,
and nothing has landed for a name without a stream. -/
structure CursorExact (svc : StorageWriteService) : Prop where
  buffered : ∀ name stream, svc.streams name = some stream → stream.type = .buffered →
    contributed svc.journal name = stream.bufferedRows.take stream.flushedRows ∧
      stream.flushedRows ≤ stream.bufferedRows.length
  unborn : ∀ name, svc.streams name = none → contributed svc.journal name = []

variable {svc : StorageWriteService} {name : String}

/-- An update of one stream that lands nothing keeps the cursor exact, if it does so
for that stream. -/
theorem CursorExact.update (precise : svc.CursorExact) (updated : next.type = .buffered →
      contributed svc.journal name = next.bufferedRows.take next.flushedRows ∧
        next.flushedRows ≤ next.bufferedRows.length) :
    (svc.setStream name next).CursorExact where
  buffered := by
    intro other stream found type
    rcases setStream_found found with ⟨rfl, rfl⟩ | ⟨_, old⟩
    · exact updated type
    · exact precise.buffered other stream old type
  unborn := by
    intro other missing
    exact precise.unborn other (setStream_missing missing).2

/-- Rows landed for a stream that is not BUFFERED matter to no cursor. -/
theorem CursorExact.elsewhere (precise : svc.CursorExact)
    (landing : Landing) (found : svc.streams landing.stream = some stream)
    (direct : stream.type ≠ .buffered) (storage : DuckDBStorage) :
    CursorExact { svc with storage := storage, journal := svc.journal ++ [landing] } where
  buffered := by
    intro name state known type
    have other : landing.stream ≠ name := by
      rintro rfl
      obtain rfl := Option.some.inj (found.symm.trans known)
      exact direct type
    rw [contributed_elsewhere _ other]
    exact precise.buffered name state known type
  unborn := by
    intro name missing
    have other : landing.stream ≠ name := by
      rintro rfl
      simp [found] at missing
    rw [contributed_elsewhere _ other]
    exact precise.unborn name missing

theorem CursorExact.step
    (precise : a.CursorExact) (change : Change allowed a b) : b.CursorExact := by
  cases change with
  | disturb | number => exact ⟨precise.buffered, precise.unborn⟩
  | mint name stream free fresh =>
    obtain ⟨_, buffer, cursor, _⟩ := fresh
    exact precise.update (fun _ => by simp [precise.unborn name free, buffer, cursor])
  | buffer name stream rows found ongoing deferred =>
    refine precise.update (fun type => ?_)
    obtain ⟨same, bound⟩ := precise.buffered name stream found type
    refine ⟨?_, by simp; omega⟩
    rw [same]
    exact (List.take_append_of_le_length bound).symm
  | count name stream rowCount found ongoing immediate =>
    exact precise.update (fun type => by simp [immediate] at type)
  | finalize name stream found ongoing =>
    exact precise.update (fun type => precise.buffered name stream found type)
  | land landing stream storage permitted found direct routed owned lands =>
    exact precise.elsewhere landing found direct storage
  | flush name stream stop storage permitted flushable =>
    obtain ⟨same, _⟩ := precise.buffered name stream flushable.found flushable.buffered
    unfold flushed flushLanding
    refine ⟨?_, ?_⟩
    · intro other state known type
      rcases setStream_found known with ⟨rfl, rfl⟩ | ⟨different, old⟩
      · refine ⟨?_, flushable.bound⟩
        simp only [setStream_journal, contributed_append, contributed_singleton, if_true, same]
        rw [bufferedSlice, ← List.take_add, Nat.add_sub_cancel' flushable.start.le]
      · rw [setStream_journal, contributed_elsewhere _ (Ne.symm different)]
        exact precise.buffered other state old type
    · intro other missing
      obtain ⟨different, old⟩ := setStream_missing missing
      rw [setStream_journal, contributed_elsewhere _ (Ne.symm different)]
      exact precise.unborn other old

theorem flushRows_error (failed : (svc.flushRows name offset env).2 = .error e) :
    ∃ storage, (∀ table, storage.liveRows table = svc.storage.liveRows table) ∧
      (svc.flushRows name offset env).1 = { svc with storage := storage } := by
  rcases svc.flushRows_cases name offset env with ⟨error, refused⟩ | ⟨stream, flushed, found⟩
  · rw [refused]
    exact ⟨svc.storage, fun _ => rfl, rfl⟩
  rcases svc.commitBufferedPrefix_cases found offset (env.append 0) with
    ⟨storage, error, rows, result⟩ | ⟨_, _, result⟩ | ⟨storage, _, _, result⟩
  · rw [flushed, result]
    exact ⟨storage, rows, rfl⟩
  · rw [flushed, result] at failed
    cases failed
  · rw [flushed, result] at failed
    cases failed

theorem flushRows_ok (ok : (svc.flushRows name offset env).2 = .ok answer) :
    0 ≤ offset ∧ ∃ next, (svc.flushRows name offset env).1.streams name = some next ∧
      offset < next.flushedRows := by
  rcases svc.flushRows_cases name offset env with ⟨error, refused⟩ | ⟨stream, flushed, found⟩
  · rw [refused] at ok
    cases ok
  rcases svc.commitBufferedPrefix_cases found offset (env.append 0) with
    ⟨storage, error, rows, result⟩ | ⟨lower, upper, result⟩ | ⟨storage, lower, _, result⟩
  · rw [flushed, result] at ok
    cases ok
  · rw [flushed, result]
    exact ⟨lower, stream, found, upper⟩
  · rw [flushed, result]
    refine ⟨lower, _, setStream_same _ _ _, ?_⟩
    push_cast
    omega

end StorageWriteService

theorem execute_cursorExact (storage : DuckDBStorage) (calls : List Call) :
    (execute Call.run { storage := storage } calls).CursorExact := by
  apply Transition.invariant
  · intro svc call precise
    exact (call.changes svc).preserves (fun a b => StorageWriteService.CursorExact.step) precise
  · exact ⟨by simp, by simp [contributed]⟩

/-- After any calls, a BUFFERED stream has contributed its buffer up to the flush cursor,
no later call moves the cursor back, a failed flush changes nothing, and a flush that
answers with an offset has the rows up to it in the table. -/
theorem buffered_stream_exact (storage : DuckDBStorage) (calls : List Call) :
    let svc := execute Call.run { storage := storage } calls
    (∀ table, svc.storage.liveRows table =
      storage.liveRows table ++ rowsFor table svc.journal) ∧
    ∀ name stream, svc.streams name = some stream → stream.type = .buffered →
      contributed svc.journal name = stream.bufferedRows.take stream.flushedRows ∧
      stream.flushedRows ≤ stream.bufferedRows.length ∧
      (∀ landing ∈ svc.journal, landing.stream = name → landing.table = stream.table) ∧
      (∀ call : Call, ∃ next, (call.run svc).streams name = some next ∧
        stream.flushedRows ≤ next.flushedRows) ∧
      ∀ offset env,
        (∀ e, (svc.flushRows name offset env).2 = .error e →
          (svc.flushRows name offset env).1.streams = svc.streams ∧
          (svc.flushRows name offset env).1.journal = svc.journal ∧
          ∀ table, (svc.flushRows name offset env).1.storage.liveRows table =
            svc.storage.liveRows table) ∧
        (∀ answer, (svc.flushRows name offset env).2 = .ok answer → 0 ≤ offset ∧
          ∃ next, (svc.flushRows name offset env).1.streams name = some next ∧
            offset < next.flushedRows ∧ next.bufferedRows.take (offset.toNat + 1) <+:
              contributed (svc.flushRows name offset env).1.journal name) := by
  intro svc
  have accounted := execute_accounted storage calls
  refine ⟨accounted.rows, ?_⟩
  intro name stream found type
  obtain ⟨same, bound⟩ := (execute_cursorExact storage calls).buffered name stream found type
  refine ⟨same, bound, ?_, ?_, ?_⟩
  · rintro landing member rfl
    obtain ⟨owner, known, table, _⟩ := accounted.owned landing member
    obtain rfl := Option.some.inj (found.symm.trans known)
    exact table
  · intro call
    obtain ⟨next, stored, kept⟩ := (call.changes svc).persists name stream found
    exact ⟨next, stored, kept.flushed⟩
  · intro offset env
    refine ⟨?_, ?_⟩
    · intro e failed
      obtain ⟨storage, rows, result⟩ := flushRows_error failed
      rw [result]
      exact ⟨rfl, rfl, rows⟩
    · intro answer ok
      obtain ⟨lower, next, stored, upper⟩ := flushRows_ok ok
      refine ⟨lower, next, stored, upper, ?_⟩
      -- the state after the flush is itself reached by a history of calls
      have reached := execute_append Call.run { storage := storage } calls [.flushRows name offset env]
      have exact_ := execute_cursorExact storage (calls ++ [.flushRows name offset env])
      rw [reached] at exact_
      obtain ⟨other, known, kept⟩ := (Call.changes svc (.flushRows name offset env)).persists
        name stream found
      obtain rfl := Option.some.inj (stored.symm.trans known)
      have after := (exact_.buffered name next stored (kept.type.trans type)).1
      exact after ▸ List.take_prefix_take_left (by omega)

/-- A BUFFERED stream of two rows, flushed up to its first one. -/
def flushedOnce : List Call :=
  [.createWriteStream ⟨"projects/p/datasets/d/tables/a", some (.known .buffered)⟩
      quiet,
    .appendRows [⟨⟨"projects/p/datasets/d/tables/a/streams/s1",
      [[.stringValue "1"], [.stringValue "2"]], ""⟩, quiet, true⟩],
    .flushRows "projects/p/datasets/d/tables/a/streams/s1" 0 quiet]

theorem flushedOnce_exact :
    contributed (execute Call.run { storage := sampleStorage }
      flushedOnce).journal "projects/p/datasets/d/tables/a/streams/s1" = [⟨[.string "1"]⟩] := by
  have cursor := (buffered_stream_exact sampleStorage flushedOnce).2
    "projects/p/datasets/d/tables/a/streams/s1" _ rfl rfl
  exact cursor.1

end BigQueryEmulator.Write
