import BigQueryEmulator.Write.Changes
import BigQueryEmulator.Transition

/-! BatchCommitWriteStreams: what the commit loop lands when the storage may refuse
any of its appends, and when a failed commit has left every table as it was. -/
namespace BigQueryEmulator.Write.StorageWriteService
open Storage Transition List

def due (k : Nat) (commits : List Landing) : List (Landing × Nat) :=
  (commits.zipIdx k).filter (fun c => !c.1.rows.isEmpty)

def accepts (storage : DuckDBStorage) (env : Nat → MutationEnv) (c : Landing × Nat) : Bool :=
  (storage.appendRows c.1.table c.1.rows (env c.2)).2.isOk

theorem accepts_congr (same : DuckDBStorage.SameCatalog a b) (env : Nat → MutationEnv) :
    accepts a env = accepts b env := by
  funext c
  rw [accepts, accepts, DuckDBStorage.appendRows_verdict same]

def landed (storage : DuckDBStorage) (env : Nat → MutationEnv) (k : Nat) (commits : List Landing) :
    List Landing :=
  ((due k commits).takeWhile (accepts storage env)).map Prod.fst

def rowsFor (table : TableId) (landings : List Landing) : List Row :=
  (landings.filter (fun landing => landing.table = table)).flatMap Landing.rows

theorem rowsFor_append (table : TableId) (first second : List Landing) :
    rowsFor table (first ++ second) = rowsFor table first ++ rowsFor table second := by
  simp [rowsFor]

variable {storage : DuckDBStorage}

theorem lands_rowsFor {svc : StorageWriteService}
    (lands : svc.Lands landing storage) (table : TableId) :
    storage.liveRows table = svc.storage.liveRows table ++ rowsFor table [landing] := by
  rw [lands table]
  by_cases here : table = landing.table
  · subst here
    simp [rowsFor]
  · simp [here, rowsFor, Ne.symm here]

structure CommitLoop (svc : StorageWriteService) (env : Nat → MutationEnv) (k : Nat)
    (commits : List Landing) (result : StorageWriteService × Except Status Unit) : Prop where
  streams : result.1.streams = svc.streams
  journal : result.1.journal = svc.journal ++ landed svc.storage env k commits
  rows : ∀ table, result.1.storage.liveRows table =
    svc.storage.liveRows table ++ rowsFor table (landed svc.storage env k commits)
  ok : result.2 = .ok () ↔ ∀ c ∈ due k commits, accepts svc.storage env c = true

section
variable {svc : StorageWriteService} {storage : DuckDBStorage} {env : Nat → MutationEnv} {k : Nat}
  {commit : Landing} {rest : List Landing}

theorem due_cons (nonempty : ¬ commit.rows.isEmpty = true) :
    due k (commit :: rest) = (commit, k) :: due (k + 1) rest := by
  simp [due, zipIdx_cons, nonempty]

theorem CommitLoop.skip (loop : svc.CommitLoop env (k + 1) rest result)
    (empty : commit.rows.isEmpty = true) : svc.CommitLoop env k (commit :: rest) result := by
  have same : due k (commit :: rest) = due (k + 1) rest := by
    simp [due, zipIdx_cons, empty]
  refine ⟨loop.streams, ?_, ?_, ?_⟩
  · rw [landed, same]
    exact loop.journal
  · rw [landed, same]
    exact loop.rows
  · rw [same]
    exact loop.ok

theorem CommitLoop.accept (nonempty : ¬ commit.rows.isEmpty = true)
    (lands : svc.Lands commit storage)
    (verdict : svc.storage.appendRows commit.table commit.rows (env k) = (storage, .ok ()))
    (loop : CommitLoop { svc with storage := storage, journal := svc.journal ++ [commit] } env
      (k + 1) rest result) : svc.CommitLoop env k (commit :: rest) result := by
  have accepted : accepts svc.storage env (commit, k) = true := by
    simp [accepts, verdict, Except.isOk, Except.toBool]
  have catalog : DuckDBStorage.SameCatalog storage svc.storage := by
    have kept := (svc.storage.appendRows_writes commit.table commit.rows (env k)).catalog
    rwa [verdict] at kept
  have first : landed svc.storage env k (commit :: rest) =
      commit :: landed storage env (k + 1) rest := by
    simp [landed, due_cons nonempty, accepted, accepts_congr catalog]
  refine ⟨loop.streams, ?_, ?_, ?_⟩
  · rw [loop.journal, first, append_assoc]
    rfl
  · intro table
    rw [loop.rows, first, lands_rowsFor lands, append_assoc, ← rowsFor_append]
    rfl
  · rw [loop.ok, due_cons nonempty, accepts_congr catalog]
    simp [accepted]

theorem CommitLoop.refuse (nonempty : ¬ commit.rows.isEmpty = true)
    (rows : ∀ table, storage.liveRows table = svc.storage.liveRows table)
    (verdict : svc.storage.appendRows commit.table commit.rows (env k) = (storage, .error e)) :
    svc.CommitLoop env k (commit :: rest) ({ svc with storage := storage }, .error answer) := by
  have refused : accepts svc.storage env (commit, k) = false := by
    simp [accepts, verdict, Except.isOk, Except.toBool]
  have none : landed svc.storage env k (commit :: rest) = [] := by
    simp [landed, due_cons nonempty, refused]
  refine ⟨rfl, by simp [none], ?_, by simp [due_cons nonempty, refused]⟩
  intro table
  simp [rows table, none, rowsFor]

end

theorem landCommits_spec (env : Nat → MutationEnv) (k : Nat) (commits : List Landing)
    (svc : StorageWriteService) :
    svc.CommitLoop env k commits (landCommits env k commits svc) := by
  induction commits generalizing k svc with
  | nil =>
    exact ⟨rfl, by simp [landed, due, landCommits], by simp [landed, due, landCommits, rowsFor],
      by simp [due, landCommits]⟩
  | cons commit rest ih =>
    by_cases empty : commit.rows.isEmpty = true
    · rw [landCommits, if_pos empty]
      exact (ih (k + 1) svc).skip empty
    rw [landCommits, if_neg empty]
    rcases svc.storageAppend_cases commit (env k) with
      ⟨storage, lands, verdict, result⟩ | ⟨storage, e, rows, verdict, result⟩
    · rw [result]
      exact .accept empty lands verdict (ih (k + 1) _)
    · rw [result]
      exact .refuse empty rows verdict

variable {env : Nat → MutationEnv} {commits : List Landing}

theorem landed_eq_nil_iff
    : landed storage env k commits = [] ↔
      ∀ c ∈ (due k commits).head?, accepts storage env c = false := by
  unfold landed
  cases due k commits with
  | nil => simp
  | cons first rest => cases accepted : accepts storage env first <;> simp [accepted]

theorem rowsFor_landed_eq_nil
    (unchanged : ∀ table, rowsFor table (landed storage env k commits) = []) :
    landed storage env k commits = [] := by
  cases result : landed storage env k commits with
  | nil => rfl
  | cons first rest =>
    have member : first ∈ landed storage env k commits := by rw [result]; exact .head _
    obtain ⟨c, taken, rfl⟩ := mem_map.mp member
    have nonempty := (mem_filter.mp (takeWhile_subset _ taken)).2
    have empty := unchanged c.1.table
    rw [result] at empty
    simp [rowsFor] at empty
    simp [empty.1] at nonempty

theorem batchCommit_collected (collected : svc.collectCommits request = .ok commits)
    (env : CallEnv) :
    svc.batchCommitWriteStreams request env = ((landCommits env.append 0 commits svc).1,
      (landCommits env.append 0 commits svc).2.map (fun _ => env.rfc3339Now)) := by
  simp only [batchCommitWriteStreams, collected]
  rcases landCommits env.append 0 commits svc with ⟨next, status⟩
  cases status <;> rfl

/-- A commit that returns an error has changed no table, exactly when the storage
accepts every append of the loop or refuses the first one. -/
theorem failed_commit_unchanged_iff (svc : StorageWriteService)
    (request : BatchCommitWriteStreamsRequest) (env : CallEnv) :
    ((∃ e, (svc.batchCommitWriteStreams request env).2 = .error e) → ∀ table,
      (svc.batchCommitWriteStreams request env).1.storage.liveRows table =
        svc.storage.liveRows table) ↔
    ∀ commits, svc.collectCommits request = .ok commits →
      (∀ c ∈ due 0 commits, accepts svc.storage env.append c = true) ∨
      ∀ c ∈ (due 0 commits).head?, accepts svc.storage env.append c = false := by
  cases collected : svc.collectCommits request with
  | error e => simp [batchCommitWriteStreams, collected]
  | ok commits =>
    have loop := landCommits_spec env.append 0 commits svc
    simp only [batchCommit_collected collected, Except.ok.injEq, forall_eq', ← loop.ok,
      ← landed_eq_nil_iff]
    cases status : (landCommits env.append 0 commits svc).2 with
    | ok done => simp [Except.map]
    | error e =>
      simp only [Except.map, reduceCtorEq, false_or, Except.error.injEq, exists_eq',
        forall_const]
      constructor
      · intro unchanged
        apply rowsFor_landed_eq_nil
        intro table
        have grown := loop.rows table
        rw [unchanged table] at grown
        exact self_eq_append_right.mp grown
      · intro none table
        rw [loop.rows table, none]
        simp [rowsFor]

def sampleStorage : DuckDBStorage where
  datasetExists := fun _ _ => true
  tables := fun id =>
    if id = ⟨"p", "d", "a"⟩ ∨ id = ⟨"p", "d", "b"⟩ then
      some { schema := ⟨[{ name := "x", type := .string }]⟩, parquet := some [], index := none }
    else none

def quiet : CallEnv := { append := fun _ => { nowMs := 0 } }

/-- Two PENDING streams, `s1` on `a` and `s2` on `b`, each finalized with one row. -/
def fillBoth : List Call :=
  [.createWriteStream ⟨"projects/p/datasets/d/tables/a", some (.known .pending)⟩ quiet,
    .createWriteStream ⟨"projects/p/datasets/d/tables/b", some (.known .pending)⟩ quiet,
    .appendRows [⟨⟨"projects/p/datasets/d/tables/a/streams/s1", [[.stringValue "1"]], ""⟩,
      quiet, true⟩],
    .appendRows [⟨⟨"projects/p/datasets/d/tables/b/streams/s2", [[.stringValue "2"]], ""⟩,
      quiet, true⟩],
    .finalizeWriteStream "projects/p/datasets/d/tables/a/streams/s1",
    .finalizeWriteStream "projects/p/datasets/d/tables/b/streams/s2"]

def commitBoth : BatchCommitWriteStreamsRequest :=
  ⟨"", ["projects/p/datasets/d/tables/a/streams/s1", "projects/p/datasets/d/tables/b/streams/s2"]⟩

/-- The append to `b` fails; the commit reports it, and the row of `a` stays. -/
theorem half_committed :
    ∃ svc, (execute Call.run { storage := sampleStorage } fillBoth).batchCommitWriteStreams commitBoth
        { append := fun k => { nowMs := 0, staging := if k = 1 then some ⟨.internal, "disk"⟩ else none } }
        = (svc, .error ⟨.internal, "disk"⟩) ∧
      svc.storage.liveRows ⟨"p", "d", "a"⟩ = [⟨[.string "1"]⟩] :=
  ⟨_, rfl, rfl⟩

end BigQueryEmulator.Write.StorageWriteService
