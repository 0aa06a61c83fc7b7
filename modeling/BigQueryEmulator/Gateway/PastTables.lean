import BigQueryEmulator.Gateway.CopiedRows
import BigQueryEmulator.Timeline

/-! Copies of a table as it was: the snapshot store (`snapshots/store.go`) over the history of one
table, and what a copy job with the source `table@epoch` leaves in its destination. -/
namespace BigQueryEmulator.Gateway
open Storage (Status Value Row TableId)
open Effects Fallible Work Timeline
open List hiding after all count

structure SnapshotEntry where
  content : Table
  creationTimeMs : Int
  deletionTimeMs : Int

/-- What the store knows of one table. -/
structure Snapshots where
  creationTime : Option Int := none
  deleted : List SnapshotEntry := []

namespace Snapshots
variable (store : Snapshots)

def recordCreation (createdMs : Int) : Snapshots :=
  if store.creationTime.isSome then store else { store with creationTime := some createdMs }

def captureBeforeDelete (content : Table) (now : Int) : Snapshots :=
  let recorded := store.creationTime.getD 0
  { deleted := store.deleted ++ [⟨content, if recorded = 0 then now else recorded, now⟩] }

def resolveAtEpoch (epoch : Int) : Option SnapshotEntry :=
  store.deleted.reverse.find? fun entry => entry.creationTimeMs ≤ epoch && epoch ≤ entry.deletionTimeMs

end Snapshots

/-- A table from its creation on: its columns, and its rows after each write. The creation is
recorded by tables.insert, and by no query, load or copy. -/
structure Life where
  createdMs : Int
  recorded : Bool
  fields : List Field
  writes : List (Int × List Row)

/-- The deletion is captured by tables.delete, and by no statement. -/
structure EndedLife extends Life where
  deletedMs : Int
  captured : Bool

structure TableHistory where
  ended : List EndedLife
  live : Option Life

namespace Life
variable (life : Life)

def table : Table := ⟨life.fields, (life.writes.getLast?.map Prod.snd).getD []⟩

def tableAt (epoch : Int) : Table :=
  ⟨life.fields, ((entryAt life.writes epoch).map Prod.snd).getD []⟩

def start (store : Snapshots) : Snapshots :=
  if life.recorded then store.recordCreation life.createdMs else store

def Settled (epoch : Int) : Prop := ∀ write ∈ life.writes, write.1 ≤ epoch

variable {life}

theorem Settled.table_eq (settled : life.Settled epoch) : life.table = life.tableAt epoch := by
  rw [table, tableAt, entryAt,
    filter_eq_self.mpr fun write among => decide_eq_true (settled write among)]

theorem start_deleted (store : Snapshots) : (life.start store).deleted = store.deleted := by
  unfold start Snapshots.recordCreation
  split
  · split <;> rfl
  · rfl

end Life

namespace EndedLife

def finish (store : Snapshots) (life : EndedLife) : Snapshots :=
  if life.captured then (life.start store).captureBeforeDelete life.table life.deletedMs
  else life.start store

/-- The table is there through the millisecond of its deletion. -/
def Spans (life : EndedLife) (epoch : Int) : Prop := life.createdMs ≤ epoch ∧ epoch ≤ life.deletedMs

instance (life : EndedLife) (epoch : Int) : Decidable (life.Spans epoch) :=
  inferInstanceAs (Decidable (_ ∧ _))

/-- The store has seen the creation and the deletion. -/
def Tracked (life : EndedLife) : Prop :=
  life.recorded = true ∧ life.captured = true ∧ 0 < life.createdMs

def entry (life : EndedLife) : SnapshotEntry := ⟨life.table, life.createdMs, life.deletedMs⟩

theorem Tracked.finish_eq {life : EndedLife} (tracked : life.Tracked) (deleted : List SnapshotEntry) :
    finish ⟨none, deleted⟩ life = ⟨none, deleted ++ [life.entry]⟩ := by
  obtain ⟨recorded, captured, positive⟩ := tracked
  rw [finish, if_pos captured, Life.start, if_pos recorded]
  simp [Snapshots.recordCreation, Snapshots.captureBeforeDelete, entry, positive.ne']

end EndedLife

namespace TableHistory

def snapshots (history : TableHistory) : Snapshots :=
  let store := history.ended.foldl EndedLife.finish {}
  match history.live with
  | none => store
  | some life => life.start store

/-- What the table was at the epoch, if it was there. -/
inductive LiveAt (history : TableHistory) (epoch : Int) : Table → Prop where
  | ended {life : EndedLife} : life ∈ history.ended → life.Spans epoch →
      LiveAt history epoch (life.tableAt epoch)
  | live {life : Life} : history.live = some life → life.createdMs ≤ epoch →
      LiveAt history epoch (life.tableAt epoch)

/-- One life begins after the other has ended. -/
structure Orderly (history : TableHistory) : Prop where
  apart : ∀ first ∈ history.ended, ∀ second ∈ history.ended, first ≠ second →
    first.deletedMs < second.createdMs ∨ second.deletedMs < first.createdMs
  last : ∀ life, history.live = some life → ∀ before ∈ history.ended, before.deletedMs < life.createdMs

/-- The life that spans the epoch has no write after it, and if there is none, there is no table
now. -/
structure Unchanged (history : TableHistory) (epoch : Int) : Prop where
  tracked : ∀ life ∈ history.ended, life.Tracked
  settled : ∀ life ∈ history.ended, life.Spans epoch → life.Settled epoch
  live : ∀ life, history.live = some life → (∀ before ∈ history.ended, ¬ before.Spans epoch) →
    life.createdMs ≤ epoch ∧ life.Settled epoch

variable {history : TableHistory} {epoch : Int}

theorem snapshots_deleted (tracked : ∀ life ∈ history.ended, life.Tracked) :
    history.snapshots.deleted = history.ended.map EndedLife.entry := by
  have closed (lives : List EndedLife) (tracked : ∀ life ∈ lives, life.Tracked)
      (deleted : List SnapshotEntry) : lives.foldl EndedLife.finish ⟨none, deleted⟩ =
        ⟨none, deleted ++ lives.map EndedLife.entry⟩ := by
    induction lives generalizing deleted with
    | nil => simp
    | cons life rest ih =>
      obtain ⟨first, others⟩ := forall_mem_cons.mp tracked
      rw [foldl_cons, first.finish_eq, ih others, map_cons, append_assoc, singleton_append]
  rw [snapshots, closed _ tracked]
  cases history.live with
  | none => rfl
  | some life => exact life.start_deleted _

/-- The store finds the life that spans the epoch, and nothing else. -/
theorem resolveAtEpoch_eq (tracked : ∀ life ∈ history.ended, life.Tracked) :
    history.snapshots.resolveAtEpoch epoch =
      (history.ended.reverse.find? fun life => life.Spans epoch).map EndedLife.entry := by
  rw [Snapshots.resolveAtEpoch, snapshots_deleted tracked, ← map_reverse, find?_map]
  congr 2
  funext life
  exact (Bool.decide_and _ _).symm

/-- What a copy reads: the captured table, or else the live one. -/
theorem liveAt_iff (orderly : history.Orderly) (unchanged : history.Unchanged epoch) :
    history.LiveAt epoch table ↔
      ((history.snapshots.resolveAtEpoch epoch).map SnapshotEntry.content).or
        (history.live.map Life.table) = some table := by
  rw [resolveAtEpoch_eq unchanged.tracked]
  cases found : history.ended.reverse.find? fun life => life.Spans epoch with
  | none =>
    have gone : ∀ before ∈ history.ended, ¬ before.Spans epoch := by simpa using found
    rw [Option.map_none, Option.map_none, Option.none_or]
    constructor
    · rintro (⟨among, spans⟩ | ⟨lives, begun⟩)
      · exact absurd spans (gone _ among)
      · rw [lives, Option.map_some, ((unchanged.live _ lives gone).2).table_eq]
    · intro same
      obtain ⟨life, lives, rfl⟩ := Option.map_eq_some_iff.mp same
      obtain ⟨begun, settled⟩ := unchanged.live life lives gone
      rw [settled.table_eq]
      exact .live lives begun
  | some life =>
    have among : life ∈ history.ended := mem_reverse.mp (mem_of_find?_eq_some found)
    have spans : life.Spans epoch := by simpa using find?_some found
    have settled := unchanged.settled life among spans
    rw [Option.map_some, Option.map_some, Option.some_or, Option.some.injEq, EndedLife.entry,
      settled.table_eq]
    constructor
    · rintro (⟨within, spanning⟩ | ⟨lives, begun⟩)
      · by_contra differ
        have apart := orderly.apart _ within life among fun same => differ (by rw [same])
        exact apart.elim (fun before => absurd spans.1 (by have := spanning.2; omega))
          fun before => absurd spanning.1 (by have := spans.2; omega)
      · exact absurd spans.2 (by have := orderly.last _ lives life among; omega)
    · rintro rfl
      exact .ended among spans

end TableHistory

/-- Every call is served, and a query over one table has its columns and its rows. -/
structure Undisturbed (env : CopyEnv) : Prop where
  calm : ∀ n call, env.fails n call = none
  asks : env.hasQuery = true
  starts : env.starts = none
  ends : env.ends = none
  columns : ∀ fields, env.unionColumns [fields] = .ok fields
  rows : ∀ fields row, env.coerce fields fields row = row

/-- The job makes its destination. -/
structure CopyJob.Makes (job : CopyJob) (st : Store) : Prop where
  empties : job.writeDisposition = "WRITE_EMPTY"
  creates : job.createDisposition ≠ "CREATE_NEVER"
  fresh : st.tables job.destination = none
  housed : st.datasets job.destination.projectId job.destination.datasetId = true

/-- The table can be made under the id, and its values read back from their texts. -/
structure Fit (db : DuckDb) (id : TableId) (table : Table) : Prop where
  shaped : Shaped table
  canonical : canonicalFields table.fields = table.fields
  registrable : Registrable db id table.fields
  readable : ∀ row ∈ table.rows, resentRow db table.fields row = .ok row

section
variable {M : Type} {env : CopyEnv} {w u : World M} {job : CopyJob} {source : TableId} {table : Table}
  {base : String} {epoch : Int} {db : DuckDb} {id : TableId}

theorem Fit.listed (fit : Fit db id table) (go : Go) : ∃ cells,
    table.rows.mapM (fun row => db.valuesToCells row.cells) = .ok cells ∧
      List.Forall₂ (fun row added => Takes db go table.fields table.fields row added.cells)
        (cells.map (copyRowToMap table.fields)) table.rows := by
  have each : ∀ row ∈ table.rows, ∃ cells, db.valuesToCells row.cells = .ok cells ∧
      Takes db go table.fields table.fields (copyRowToMap table.fields cells) row.cells :=
    fun row among => (resentRow_iff go fit.shaped among (decide_eq_true rfl) rfl).mp
      (fit.readable row among)
  simp only [mapM_ok_iff, forall₂_map_left_iff]
  generalize table.rows = rows at each
  induction rows with
  | nil => exact ⟨[], .nil, .nil⟩
  | cons row rest ih =>
    obtain ⟨⟨cells, sent, taken⟩, others⟩ := forall_mem_cons.mp each
    obtain ⟨more, sents, takens⟩ := ih others
    exact ⟨cells :: more, .cons sent sents, .cons taken takens⟩

theorem checkCreateDisposition_run (makes : job.Makes st) (w : World M) :
    outcome (checkCreateDisposition env job) w = (.ok (), w) := by
  unfold checkCreateDisposition
  rw [if_neg makes.creates]
  rfl

theorem serveCopySql_run (calm : Undisturbed env) (makes : job.Makes w.store)
    (fit : Fit env.db job.destination table)
    (found : findTable ⟨job.destination.projectId, source.datasetId, (selectOf env source).2.1⟩
      w.store = .ok table) :
    serveCopySql env job.destination.projectId ⟨.create, job.destination.datasetId,
      job.destination.tableId, [selectOf env source]⟩ w.store =
        .ok (w.store.put job.destination (some table)) := by
  have dataset : (selectOf env source).1 = source.datasetId := by
    unfold selectOf
    split <;> rfl
  have united : unionAll env [table] = .ok table := by
    have same : table.rows.map (env.coerce table.fields table.fields) = table.rows :=
      (map_congr_left fun row _ => calm.rows _ row).trans (map_id' _)
    refine bind_ok_iff.mpr ⟨table.fields, calm.columns _, ?_⟩
    rw [flatMap_cons, flatMap_nil, append_nil, same]
    rfl
  have made : env.db.makeParquet table.fields = .ok () := by
    obtain ⟨-, fields, columns, made⟩ := fit.registrable
    rwa [columnSchemasFromProto_ok columns, fit.canonical] at made
  refine bind_ok_iff.mpr ⟨[table], mapM_ok_iff.mpr (.cons ?_ .nil), bind_ok_iff.mpr ⟨table, united, ?_⟩⟩
  · rw [resolveSelect, dataset]
    exact found
  · dsimp only
    rw [if_pos makes.housed, if_neg (by simp [makes.fresh]), bind_of_ok made]
    rfl

/-- The statement makes the destination of the table that its one source names. -/
theorem executeSqlCopy_run (calm : Undisturbed env) (makes : job.Makes w.store)
    (single : job.sources = [source]) (fit : Fit env.db job.destination table)
    (found : findTable ⟨job.destination.projectId, source.datasetId, (selectOf env source).2.1⟩
      w.store = .ok table) :
    ∃ result t, outcome (executeSqlCopy env job) w = (.ok result, t) ∧
      t.store.tables job.destination = some table := by
  have built : buildCopySql env job = .ok ⟨.create, job.destination.datasetId,
      job.destination.tableId, [selectOf env source]⟩ := by
    simp [buildCopySql, makes.empties, single]
  have queried : outcome (executeQuery env job.destination.projectId ⟨.create,
      job.destination.datasetId, job.destination.tableId, [selectOf env source]⟩) w =
        (.ok (), { w with store := w.store.put job.destination (some table) }) := by
    unfold executeQuery
    rw [outcome, calm.starts]
    dsimp only
    rw [serveCopySql_run calm makes fit found, calm.ends]
  obtain ⟨cells, listed, -⟩ := fit.listed env.go
  have counted : outcome (listRows env.toEnv job.destination 0 0)
      { w with store := w.store.put job.destination (some table) } =
        (.ok (cells, table.rows.length),
          { w with store := w.store.put job.destination (some table), calls := w.calls + 1 }) := by
    refine rpc_ok_iff.mpr ⟨calm.calm _ _, _, bind_ok_iff.mpr ⟨(), validateTableRef_ok_iff.mpr
      (validateTableRef_ok_iff.mp fit.registrable.1), bind_ok_iff.mpr ⟨table, findTable_ok_iff.mpr
        ⟨makes.housed, Store.put_same _ _ _⟩, bind_ok_iff.mpr ⟨cells, listed, rfl⟩⟩⟩, rfl⟩
  refine ⟨⟨table.rows.length, table.rows.length⟩,
    ⟨w.store.put job.destination (some table), w.metadata, w.calls + 1⟩, ?_, Store.put_same _ _ _⟩
  unfold executeSqlCopy countDestinationRows
  rw [outcome_bind_ok (checkCreateDisposition_run makes w), outcome_bind, outcome_step, built]
  dsimp only
  rw [outcome_bind_ok queried, outcome_bind_ok counted]
  rfl

/-- The catalog makes the destination of the table that was captured. -/
theorem executeCatalogCopy_run (calm : Undisturbed env) (makes : job.Makes w.store)
    (single : job.sources = [source]) (fit : Fit env.db job.destination table)
    (decorated : parseDecorator env.now source.tableId = some (base, epoch))
    (captured : env.snapshots { source with tableId := base } epoch = some table) :
    ∃ result t, outcome (executeCatalogCopy env job) w = (.ok result, t) ∧
      t.store.tables job.destination = some table := by
  obtain ⟨cells, listed, taken⟩ := fit.listed env.go
  have read : outcome (readAll env job.sources) w =
      (.ok (table.fields, cells, estimateRowBytes cells), w) := by
    rw [single, readAll, readSource, decorated]
    dsimp only
    rw [captured]
    dsimp only
    rw [listed]
    rfl
  have names := validateTableRef_ok_iff.mp fit.registrable.1
  obtain ⟨v, ensured, tables, housed, -⟩ := ensureDataset_run ⟨names.1, names.2.1⟩ (calm.calm w.calls _)
  have missing : v.store.tables job.destination = none := by rw [tables, makes.fresh]
  have registered := (registerTable_ok_iff (w := { v with calls := v.calls + 1 })).mpr
    ⟨rfl, missing, fit.registrable, calm.calm _ _, housed⟩
  rw [fit.canonical] at registered
  have disposed : outcome (copyDisposition env job table.fields) v = outcome
      (registerTable env.toEnv job.destination table.fields) { v with calls := v.calls + 1 } := by
    unfold copyDisposition
    rw [outcome_bind_ok (tableExists_missing missing), if_neg (by rw [makes.empties]; decide),
      if_pos makes.empties]
    rfl
  have present : Present (v.store.put job.destination (some ⟨table.fields, []⟩)) job.destination
      ⟨table.fields, []⟩ :=
    ⟨validateTableRef_ok_iff.mpr names, findTable_ok_iff.mpr ⟨housed, Store.put_same _ _ _⟩⟩
  obtain ⟨t, inserted, stored⟩ := (insertRows_adds_iff (u := ⟨_, v.metadata, v.calls + 1 + 1⟩)
    present (calm.calm _ _)).mpr taken
  refine ⟨⟨(cells.map (copyRowToMap table.fields)).length, estimateRowBytes cells⟩, t, ?_, stored⟩
  unfold executeCatalogCopy
  rw [outcome_bind_ok read, outcome_bind_ok ensured, outcome_bind_ok (disposed.trans registered)]
  exact Work.bind_ok_iff.mpr ⟨_, t, inserted, rfl⟩

/-- Without a captured table the job asks whether there is a live one. -/
theorem chooseRoute_run (calm : Undisturbed env) (makes : job.Makes w.store)
    (single : job.sources = [source])
    (decorated : parseDecorator env.now source.tableId = some (base, epoch))
    (placed : ∀ table, w.store.tables { source with tableId := base } = some table →
      Present w.store { source with tableId := base } table) :
    ∃ calls, outcome (chooseRoute env job) w = (.ok (
      if env.snapshots { source with tableId := base } epoch = none ∧
        w.store.tables { source with tableId := base } ≠ none then .sql else .catalog),
      { w with calls := calls }) := by
  have past : hasSnapshotSource env job = true := by
    simp [hasSnapshotSource, single, decorated]
  have asked {live : Bool} {u : World M}
      (ran : outcome (anyLiveDecorated env [source]) w = (.ok live, u)) :
      outcome (chooseRoute env job) w = (.ok (if live then .sql else .catalog), u) := by
    unfold chooseRoute shouldUseSqlCopy
    rw [outcome_bind_ok (checkCreateDisposition_run makes w), if_pos calm.asks, single,
      outcome_bind_ok ran, past]
    cases live <;> rfl
  have looked : outcome (anyLiveDecorated env [source]) w =
      if (env.snapshots { source with tableId := base } epoch).isSome then (.ok false, w)
      else outcome (tableExists env.toEnv { source with tableId := base }) w := by
    unfold anyLiveDecorated
    rw [decorated]
    dsimp only
    split
    · rfl
    · obtain ⟨there, ran, -⟩ := tableExists_answers env.toEnv { source with tableId := base } w
      rw [outcome_bind_ok ran, ran]
      cases there <;> rfl
  cases captured : env.snapshots { source with tableId := base } epoch with
  | some table =>
    rw [captured] at looked
    exact ⟨w.calls, by simpa using asked looked⟩
  | none =>
    rw [captured] at looked
    cases stored : w.store.tables { source with tableId := base } with
    | none => exact ⟨w.calls + 1, by simpa using asked (looked.trans (tableExists_missing stored))⟩
    | some table =>
      have there := tableExists_run (placed table stored) (calm.calm w.calls _)
      exact ⟨w.calls + 1, by simpa using asked (looked.trans there)⟩

end

/-- The table t, made at 1 ms and written once. -/
def writtenAt (time : Int) : Life :=
  ⟨1, true, (measures 0).fields, [(time, [⟨[.float64 0x3fe0000000000000]⟩])]⟩

def deletedLife (time : Int) : EndedLife := ⟨writtenAt time, 9, true⟩

def pastEnv (history : TableHistory) : CopyEnv :=
  { copyEnv with snapshots := fun _ epoch =>
      (history.snapshots.resolveAtEpoch epoch).map SnapshotEntry.content }

def pastWorld (history : TableHistory) : World Unit where
  store := ⟨fun _ _ => true, fun id => if id.tableId = "t" then history.live.map Life.table else none⟩
  metadata := fun _ => none
  calls := 0

def copyPast : CopyConfig where
  sourceTable := some ⟨"p", "ds", "t@3"⟩
  destinationTable := some ⟨"p", "ds", "out"⟩

end BigQueryEmulator.Gateway
