import BigQueryEmulator.Write.Histories

/-! PENDING streams over whole histories. BatchCommitWriteStreams leaves no mark on a
stream, so whether rows land once depends on the requests: a request must not list a
stream with rows twice, nor one whose rows have landed before. -/
namespace BigQueryEmulator.Write
open Storage Transition List StorageWriteService

/-- A commit request that passes the stream checks lists every stream that has rows
once, and none whose rows an earlier commit has landed. -/
def CommitsOnce (svc : StorageWriteService) : Call → Prop
  | .batchCommitWriteStreams request _ => ∀ commits, svc.collectCommits request = .ok commits →
      ((commits.filter (fun commit => !commit.rows.isEmpty)).map Landing.stream).Nodup ∧
      ∀ commit ∈ commits, commit.rows ≠ [] → contributed svc.journal commit.stream = []
  | _ => True

theorem contributed_eq_nil (unlisted : name ∉ landings.map Landing.stream) :
    contributed landings name = [] := by
  simp only [contributed, flatMap_eq_nil_iff, mem_filter, decide_eq_true_eq]
  rintro landing ⟨listed, rfl⟩
  exact absurd (mem_map_of_mem listed) unlisted

theorem contributed_of_distinct (distinct : (landings.map Landing.stream).Nodup)
    (member : landing ∈ landings) : contributed landings landing.stream = landing.rows := by
  induction landings with
  | nil => cases member
  | cons first rest ih =>
    obtain ⟨fresh, distinct⟩ := nodup_cons.mp distinct
    rw [← singleton_append, contributed_append, contributed_singleton]
    rcases mem_cons.mp member with rfl | later
    · rw [if_pos rfl, contributed_eq_nil fresh, append_nil]
    · have other : first.stream ≠ landing.stream := by
        intro same
        exact fresh (same ▸ mem_map_of_mem later)
      rw [if_neg other, nil_append, ih distinct later]

namespace StorageWriteService

theorem due_commits (k : Nat) (commits : List Landing) :
    (due k commits).map Prod.fst = commits.filter (fun commit => !commit.rows.isEmpty) := by
  induction commits generalizing k with
  | nil => rfl
  | cons commit rest ih =>
    have later := ih (k + 1)
    unfold due at later ⊢
    cases empty : commit.rows.isEmpty <;> simp [zipIdx_cons, empty, later]

/-- A PENDING stream has contributed nothing, or its whole buffer after it was
finalized. -/
structure CommitExact (svc : StorageWriteService) : Prop where
  pending : ∀ name stream, svc.streams name = some stream → stream.type = .pending →
    contributed svc.journal name = [] ∨
      stream.finalized = true ∧ contributed svc.journal name = stream.bufferedRows
  unborn : ∀ name, svc.streams name = none → contributed svc.journal name = []

variable {svc : StorageWriteService} {stream : StreamState} {name : String}

theorem CommitExact.ongoing (precise : svc.CommitExact)
    (found : svc.streams name = some stream) (pending : stream.type = .pending)
    (ongoing : stream.finalized = false) : contributed svc.journal name = [] := by
  rcases precise.pending name stream found pending with none | ⟨finalized, _⟩
  · exact none
  · rw [ongoing] at finalized
    cases finalized

theorem CommitExact.update (precise : svc.CommitExact)
    {next : StreamState} (none : next.type = .pending → contributed svc.journal name = []) :
    (svc.setStream name next).CommitExact where
  pending := by
    intro other stream found type
    rcases setStream_found found with ⟨rfl, rfl⟩ | ⟨_, old⟩
    · exact .inl (none type)
    · exact precise.pending other stream old type
  unborn := by
    intro other missing
    exact precise.unborn other (setStream_missing missing).2

/-- Rows landed for a stream that is not PENDING matter to no PENDING stream. -/
theorem CommitExact.elsewhere (precise : svc.CommitExact)
    (landing : Landing) (found : svc.streams landing.stream = some stream)
    (direct : stream.type ≠ .pending) (storage : DuckDBStorage) :
    CommitExact { svc with storage := storage, journal := svc.journal ++ [landing] } where
  pending := by
    intro name state known type
    have other : landing.stream ≠ name := by
      rintro rfl
      obtain rfl := Option.some.inj (found.symm.trans known)
      exact direct type
    rw [contributed_elsewhere _ other]
    exact precise.pending name state known type
  unborn := by
    intro name missing
    have other : landing.stream ≠ name := by
      rintro rfl
      simp [found] at missing
    rw [contributed_elsewhere _ other]
    exact precise.unborn name missing

theorem CommitExact.step {a b : StorageWriteService} (precise : a.CommitExact)
    (change : Change (fun route => route ≠ .batchCommit) a b) : b.CommitExact := by
  cases change with
  | disturb | number => exact ⟨precise.pending, precise.unborn⟩
  | mint name stream free fresh => exact precise.update (fun _ => precise.unborn name free)
  | buffer name stream rows found ongoing | count name stream rowCount found ongoing
  | finalize name stream found ongoing =>
    exact precise.update (fun pending => precise.ongoing found pending ongoing)
  | land landing stream storage permitted found direct routed owned lands =>
    refine precise.elsewhere landing found ?_ storage
    intro pending
    exact permitted (by rw [routed, pending, StreamType.route])
  | flush name stream stop storage permitted flushable =>
    have landed := precise.elsewhere (flushLanding name stream stop) flushable.found
      (by simp [flushable.buffered]) storage
    exact landed.update (fun pending => by simp [flushable.buffered] at pending)

theorem CommitExact.commit (precise : svc.CommitExact)
    (once : CommitsOnce svc (.batchCommitWriteStreams request env)) :
    (svc.batchCommitWriteStreams request env).1.CommitExact := by
  cases collected : svc.collectCommits request with
  | error e =>
    simp only [batchCommitWriteStreams, collected]
    exact precise
  | ok commits =>
    obtain ⟨distinct, unlanded⟩ := once commits collected
    have loop := landCommits_spec env.append 0 commits svc
    have initial : landed svc.storage env.append 0 commits <+:
        commits.filter (fun commit => !commit.rows.isEmpty) := by
      rw [← due_commits 0]
      exact List.IsPrefix.map _ ( takeWhile_prefix _)
    have distinctLanded := (initial.sublist.map Landing.stream).nodup distinct
    have known : ∀ landing ∈ landed svc.storage env.append 0 commits,
        landing ∈ commits ∧ landing.rows ≠ [] := by
      intro landing member
      simpa using mem_filter.mp (initial.subset member)
    rw [batchCommit_collected collected]
    refine ⟨?_, ?_⟩
    · intro name stream found pending
      rw [loop.streams] at found
      rw [loop.journal, contributed_append]
      by_cases listed : name ∈ (landed svc.storage env.append 0 commits).map Landing.stream
      · obtain ⟨landing, member, rfl⟩ := mem_map.mp listed
        obtain ⟨inCommits, nonempty⟩ := known landing member
        obtain ⟨owner, stored, _, finalized, copied⟩ :=
          (collectCommits_ok collected).2 landing inCommits
        obtain rfl := Option.some.inj (found.symm.trans stored)
        rw [unlanded landing inCommits nonempty, contributed_of_distinct distinctLanded member]
        exact .inr ⟨finalized, by rw [nil_append, copied]⟩
      · rw [contributed_eq_nil listed, append_nil]
        exact precise.pending name stream found pending
    · intro name missing
      rw [loop.streams] at missing
      have unlisted : name ∉ (landed svc.storage env.append 0 commits).map Landing.stream := by
        intro listed
        obtain ⟨landing, member, rfl⟩ := mem_map.mp listed
        obtain ⟨_, stored, _⟩ := (collectCommits_ok collected).2 landing (known landing member).1
        rw [missing] at stored
        cases stored
      rw [loop.journal, contributed_append, contributed_eq_nil unlisted, append_nil]
      exact precise.unborn name missing

/-- An OK answer means that every listed stream's rows have landed. -/
theorem batchCommit_ok_landed (ok : (svc.batchCommitWriteStreams request env).2 = .ok time)
    (listed : name ∈ request.writeStreams) :
    ∃ stream, svc.streams name = some stream ∧ stream.type = .pending ∧
      (svc.batchCommitWriteStreams request env).1.streams = svc.streams ∧
      (stream.bufferedRows ≠ [] →
        contributed (svc.batchCommitWriteStreams request env).1.journal name ≠ []) := by
  cases collected : svc.collectCommits request with
  | error e => simp [batchCommitWriteStreams, collected] at ok
  | ok commits =>
    have loop := landCommits_spec env.append 0 commits svc
    obtain ⟨names, committable⟩ := collectCommits_ok collected
    rw [batchCommit_collected collected] at ok ⊢
    have done : (landCommits env.append 0 commits svc).2 = .ok () := by
      cases status : (landCommits env.append 0 commits svc).2 with
      | error e => simp [status, Except.map] at ok
      | ok done => rfl
    rw [← names] at listed
    obtain ⟨commit, member, rfl⟩ := mem_map.mp listed
    obtain ⟨stream, found, pending, _, copied⟩ := committable commit member
    refine ⟨stream, found, pending, loop.streams, ?_⟩
    intro nonempty
    have rows : commit.rows ≠ [] := by
      rw [copied]
      exact nonempty
    have landedHere : commit ∈ landed svc.storage env.append 0 commits := by
      rw [landed, takeWhile_eq_self_iff.mpr (loop.ok.mp done), due_commits]
      simp [member, rows]
    rw [loop.journal, contributed_append]
    simp only [ne_eq, append_eq_nil_iff, not_and]
    intro _ empty
    simp only [contributed, flatMap_eq_nil_iff, mem_filter, decide_eq_true_eq] at empty
    exact rows (empty commit ⟨landedHere, rfl⟩)

end StorageWriteService

theorem StorageWriteService.CommitExact.call (precise : svc.CommitExact) {call : Call}
    (once : CommitsOnce svc call) : (call.run svc).CommitExact := by
  cases call with
  | batchCommitWriteStreams request env => exact precise.commit once
  | createWriteStream request env =>
    exact (svc.createWriteStream_changes request env).preserves
      (fun a b => StorageWriteService.CommitExact.step) precise
  | appendRows messages =>
    exact (svc.appendRows_changes (by simp) "" messages).preserves
      (fun a b => StorageWriteService.CommitExact.step) precise
  | flushRows name offset env =>
    exact (svc.flushRows_changes (by simp) name offset env).preserves
      (fun a b => StorageWriteService.CommitExact.step) precise
  | finalizeWriteStream name =>
    exact (svc.finalizeWriteStream_changes name).preserves
      (fun a b => StorageWriteService.CommitExact.step) precise

/-- In every history whose commit requests keep to `CommitsOnce`, the rows of a PENDING
stream are in its table at most once, and once after a commit of the stream succeeds. -/
theorem pending_rows_commit_once (storage : DuckDBStorage) {calls : List Call}
    (admitted : Admits CommitsOnce Call.run { storage := storage } calls) :
    let svc := execute Call.run { storage := storage } calls
    (∀ table, svc.storage.liveRows table =
      storage.liveRows table ++ rowsFor table svc.journal) ∧
    (∀ name stream, svc.streams name = some stream → stream.type = .pending →
      (contributed svc.journal name = [] ∨ contributed svc.journal name = stream.bufferedRows) ∧
      ∀ landing ∈ svc.journal, landing.stream = name →
        landing.route = .batchCommit ∧ landing.table = stream.table) ∧
    ∀ request env time, CommitsOnce svc (.batchCommitWriteStreams request env) →
      (svc.batchCommitWriteStreams request env).2 = .ok time → ∀ name ∈ request.writeStreams,
        ∃ stream, (svc.batchCommitWriteStreams request env).1.streams name = some stream ∧
          contributed (svc.batchCommitWriteStreams request env).1.journal name =
            stream.bufferedRows := by
  intro svc
  have accounted := execute_accounted storage calls
  have precise : svc.CommitExact := guarded_invariant (fun _ _ precise once => precise.call once)
    ⟨by simp, by simp [contributed]⟩ admitted
  refine ⟨accounted.rows, ?_, ?_⟩
  · intro name stream found pending
    refine ⟨(precise.pending name stream found pending).imp id And.right, ?_⟩
    rintro landing member rfl
    obtain ⟨owner, known, table, route⟩ := accounted.owned landing member
    obtain rfl := Option.some.inj (found.symm.trans known)
    exact ⟨by rw [route, pending, StreamType.route], table⟩
  · intro request env time once ok name listed
    obtain ⟨stream, found, pending, streams, landed⟩ :=
      batchCommit_ok_landed ok listed
    have stored : (svc.batchCommitWriteStreams request env).1.streams name = some stream := by
      rw [streams, found]
    refine ⟨stream, stored, ?_⟩
    rcases (precise.commit once).pending name stream stored pending with none | ⟨_, all⟩
    · by_cases empty : stream.bufferedRows = []
      · rw [none, empty]
      · exact absurd none (landed empty)
    · exact all

theorem both_commit_once :
    contributed ((execute Call.run { storage := sampleStorage }
      fillBoth).batchCommitWriteStreams commitBoth
      quiet).1.journal "projects/p/datasets/d/tables/a/streams/s1" =
        [⟨[.string "1"]⟩] := by
  have admitted : Admits CommitsOnce Call.run { storage := sampleStorage }
      fillBoth :=
    ⟨trivial, trivial, trivial, trivial, trivial, trivial, trivial⟩
  have once : CommitsOnce (execute Call.run { storage := sampleStorage }
      fillBoth)
      (.batchCommitWriteStreams commitBoth quiet) := by
    intro commits collected
    obtain rfl := Except.ok.inj collected
    exact ⟨by decide, fun _ _ _ => rfl⟩
  obtain ⟨stream, found, landed⟩ := (pending_rows_commit_once _ admitted).2.2
    commitBoth quiet "" once rfl _ (.head _)
  obtain rfl := Option.some.inj found
  exact landed

/-- The second commit of the same streams succeeds and lands their rows again. -/
theorem committed_twice :
    ∃ first second, (execute Call.run { storage := sampleStorage }
        fillBoth).batchCommitWriteStreams commitBoth
        quiet = (first, .ok "") ∧
      first.batchCommitWriteStreams commitBoth quiet =
        (second, .ok "") ∧
      second.storage.liveRows ⟨"p", "d", "a"⟩ = [⟨[.string "1"]⟩, ⟨[.string "1"]⟩] :=
  ⟨_, _, rfl, rfl, rfl⟩

end BigQueryEmulator.Write
