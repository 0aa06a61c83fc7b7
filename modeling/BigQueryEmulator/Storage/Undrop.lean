import BigQueryEmulator.Lookup
import BigQueryEmulator.Storage.TombstoneTexts

/-! A dataset that is dropped and restored. The files come back as they were; after that the
registry is restored, and that writes the sidecar of every registered view anew from what the
registry knows, which is the DDL text alone. -/
namespace BigQueryEmulator.Storage
open Text Lookup
open List hiding after
open StoredTable (sidecar)

section
variable {entries : List (String × StoredTable)}

theorem lookup_isSome_iff_mem {id : String} :
    (entries.lookup id).isSome = true ↔ id ∈ entries.map Prod.fst := by
  rw [lookup_isSome_iff, mem_map]
  simp only [beq_iff_eq, @eq_comm _ id]

theorem lookup_eq_none_of_not_mem {id : String} (absent : id ∉ entries.map Prod.fst) :
    entries.lookup id = none := by
  rw [← lookup_isSome_iff_mem] at absent
  exact Option.not_isSome_iff_eq_none.mp absent

end

namespace DatasetDir
variable (dir : DatasetDir)

theorem lookup_add {id : String} (stored : StoredTable) (fresh : id ∉ dir.tables.map Prod.fst)
    (name : String) :
    (dir.add id stored fresh).lookup name = if name = id then some stored else dir.lookup name := by
  unfold DatasetDir.lookup add
  rw [lookup_append]
  by_cases same : name = id
  · subst same
    rw [lookup_eq_none_of_not_mem fresh, if_pos rfl, lookup_cons_self]
    rfl
  · have other : (name == id) = false := by simpa using same
    rw [if_neg same, lookup_cons, other]
    simp

/-- The files of a table after a registered view's sidecar was written over its own. -/
def withSidecar (row : ViewRow) : Option StoredTable → StoredTable
  | some stored => { stored with sidecar := DataDir.viewSidecar row }
  | none => { sidecar := DataDir.viewSidecar row }

theorem lookup_writeSidecar (row : ViewRow) (name : String) :
    (dir.writeSidecar row.viewId (DataDir.viewSidecar row)).lookup name =
      if name = row.viewId then some (withSidecar row (dir.lookup name)) else dir.lookup name := by
  unfold writeSidecar
  split
  · rename_i present
    have mapped (entries : List (String × StoredTable)) :
        (entries.map fun entry => (entry.1,
          if entry.1 = row.viewId then { entry.2 with sidecar := DataDir.viewSidecar row }
          else entry.2)).lookup name =
        (entries.lookup name).map fun stored =>
          if name = row.viewId then { stored with sidecar := DataDir.viewSidecar row }
          else stored := by
      induction entries with
      | nil => rfl
      | cons entry entries ih =>
        obtain ⟨other, stored⟩ := entry
        rw [map_cons, lookup_cons, lookup_cons, ih]
        by_cases same : name = other
        · simp [same]
        · have unequal : (name == other) = false := by simpa using same
          simp only [unequal]
    refine (mapped dir.tables).trans ?_
    by_cases same : name = row.viewId
    · rw [← same] at present
      obtain ⟨stored, found⟩ := Option.isSome_iff_exists.mp (lookup_isSome_iff_mem.mpr present)
      rw [DatasetDir.lookup, found, if_pos same, Option.map_some, if_pos same]
      rfl
    · simp [same, DatasetDir.lookup]
  · rename_i absent
    rw [lookup_add]
    by_cases same : name = row.viewId
    · have missing : dir.lookup name = none := lookup_eq_none_of_not_mem (same ▸ absent)
      rw [if_pos same, if_pos same, missing]
      rfl
    · rw [if_neg same, if_neg same]

theorem perm_listed : dir.listed.Perm (dir.tables.filter fun table => table.1 ≠ "") :=
  perm_insertionSort _ _

theorem distinct_listed : (dir.listed.map Prod.fst).Nodup := by
  rw [(dir.perm_listed.map Prod.fst).nodup_iff]
  exact (filter_sublist.map Prod.fst).nodup dir.distinct

theorem lookup_listed {id : String} :
    dir.listed.lookup id = if id = "" then none else dir.lookup id := by
  ext stored
  rw [lookup_eq_some_iff_mem dir.distinct_listed, dir.perm_listed.mem_iff, mem_filter]
  split
  · rename_i empty
    simp [empty]
  · rename_i named
    rw [DatasetDir.lookup, lookup_eq_some_iff_mem dir.distinct]
    simp [named]

theorem mem_tableIds {id : String} :
    id ∈ dir.tableIds ↔ id ≠ "" ∧ (dir.lookup id).isSome = true := by
  rw [tableIds, ← lookup_isSome_iff_mem, lookup_listed]
  split
  · rename_i empty
    simp [empty]
  · rename_i named
    simp [named]

theorem sorted_tableIds : dir.tableIds.Pairwise (· ≤ ·) := by
  have total : Std.Total fun a b : String × StoredTable => a.1 ≤ b.1 := ⟨fun a b => le_total a.1 b.1⟩
  have trans : IsTrans (String × StoredTable) fun a b => a.1 ≤ b.1 := ⟨fun _ _ _ => le_trans⟩
  exact pairwise_map.mpr (pairwise_insertionSort _ _)

theorem tableIds_congr {other : DatasetDir}
    (same : ∀ id, (dir.lookup id).isSome = (other.lookup id).isSome) :
    dir.tableIds = other.tableIds := by
  refine List.Perm.eq_of_pairwise' dir.sorted_tableIds other.sorted_tableIds ?_
  refine (perm_ext_iff_of_nodup dir.distinct_listed other.distinct_listed).mpr fun id => ?_
  exact dir.mem_tableIds.trans (by rw [same id]; exact other.mem_tableIds.symm)

end DatasetDir

namespace DataDir
variable {st : DataDir} {ds : DatasetId} {dir : DatasetDir} {ms nowMs : Int}

theorem over_none (stored : StoredTable) : StoredTable.over stored none = stored := by
  simp [StoredTable.over]

theorem foldl_move_frame (ds : DatasetId) (ms : Int) (tables : List (String × StoredTable))
    (st : DataDir) :
    tables.foldl (fun st table => st.moveTableToTombstone ds ms table) st =
      { st with tableTombstones :=
          (tables.foldl (fun st table => st.moveTableToTombstone ds ms table) st).tableTombstones } := by
  induction tables generalizing st with
  | nil => rfl
  | cons table tables ih => exact ih (st.moveTableToTombstone ds ms table)

theorem foldl_move_lookup (tables : List (String × StoredTable)) (st : DataDir)
    (distinct : (tables.map Prod.fst).Nodup)
    (fresh : ∀ id, st.tableTombstones (datasetTombstoneKey ds) id ms = none ∨
      id ∉ tables.map Prod.fst) (id : String) :
    (tables.foldl (fun st table => st.moveTableToTombstone ds ms table) st).tableTombstones
        (datasetTombstoneKey ds) id ms =
      (tables.lookup id).or (st.tableTombstones (datasetTombstoneKey ds) id ms) := by
  induction tables generalizing st with
  | nil => rfl
  | cons table tables ih =>
    obtain ⟨name, stored⟩ := table
    rw [map_cons, nodup_cons] at distinct
    have old : st.tableTombstones (datasetTombstoneKey ds) name ms = none :=
      (fresh name).resolve_right fun absent => absent (.head _)
    have moved (other : String) :
        (st.moveTableToTombstone ds ms (name, stored)).tableTombstones (datasetTombstoneKey ds)
          other ms = if other = name then some stored
            else st.tableTombstones (datasetTombstoneKey ds) other ms := by
      simp [moveTableToTombstone, old, over_none]
    rw [foldl_cons, ih _ distinct.2 ?_, moved, lookup_cons]
    · by_cases same : id = name
      · subst same
        simp [lookup_eq_none_of_not_mem distinct.1]
      · have other : (id == name) = false := by simpa using same
        simp [same, other]
    · intro other
      rw [moved]
      by_cases same : other = name
      · exact .inr (same ▸ distinct.1)
      · rw [if_neg same]
        exact (fresh other).imp_right fun absent within => absent (.tail _ within)

structure Fresh (st : DataDir) (ds : DatasetId) (ms : Int) : Prop where
  tables : ∀ id, st.tableTombstones (datasetTombstoneKey ds) id ms = none
  dataset : ∀ entry ∈ st.datasetTombstones (datasetTombstoneKey ds), entry.1 < ms

structure Dropped (st : DataDir) (ds : DatasetId) (dir : DatasetDir) (ms : Int) (after : DataDir) :
    Prop where
  path : after.path = st.path
  gone : after.datasets ds = none
  tables : ∀ id, after.tableTombstones (datasetTombstoneKey ds) id ms = dir.listed.lookup id
  tombstone : after.datasetTombstones (datasetTombstoneKey ds) =
    (ms, st.snapshot ds dir) :: st.datasetTombstones (datasetTombstoneKey ds)

theorem dropDataset_dropped (live : st.datasets ds = some dir) (fresh : Fresh st ds ms) :
    (st.dropDataset ds ms).2 = .ok () ∧ Dropped st ds dir ms (st.dropDataset ds ms).1 := by
  have moved := foldl_move_lookup dir.listed (st.putTombstone ds ms (st.snapshot ds dir))
    dir.distinct_listed fun id => .inl (fresh.tables id)
  have frame := foldl_move_frame ds ms dir.listed
    (st.putTombstone ds ms (st.snapshot ds dir))
  rw [dropDataset, live]
  refine ⟨rfl, (congrArg (fun st => st.path) frame :), if_pos rfl, fun id => ?_, ?_⟩
  · refine (moved id).trans ?_
    rw [show (st.putTombstone ds ms (st.snapshot ds dir)).tableTombstones (datasetTombstoneKey ds) id ms
      = none from fresh.tables id, Option.or_none]
  · refine (congrArg (fun st => st.datasetTombstones (datasetTombstoneKey ds)) frame).trans ?_
    have older : (st.datasetTombstones (datasetTombstoneKey ds)).filter (fun entry => entry.1 ≠ ms) =
        st.datasetTombstones (datasetTombstoneKey ds) :=
      filter_eq_self.mpr fun entry within => by simpa using (fresh.dataset entry within).ne
    simp only [putTombstone, if_true]
    rw [older]

theorem foldl_max_of_le {rest : List Int} (below : ∀ ms ∈ rest, ms ≤ first) :
    rest.foldl max first = first := by
  induction rest with
  | nil => rfl
  | cons ms rest ih =>
    rw [foldl_cons, max_eq_left (below ms (.head _))]
    exact ih (forall_mem_cons.mp below).2

theorem Dropped.latest {after : DataDir} (dropped : Dropped st ds dir ms after)
    (fresh : Fresh st ds ms) (nowMs : Int) :
    (nowMs ≤ ms + timeTravelWindowMs → after.latestDatasetTombstoneMs ds nowMs = .ok ms) ∧
      (ms + timeTravelWindowMs < nowMs → ∃ e, after.latestDatasetTombstoneMs ds nowMs = .error e) := by
  unfold latestDatasetTombstoneMs
  rw [dropped.tombstone, map_cons]
  have older : ∀ time ∈ (st.datasetTombstones (datasetTombstoneKey ds)).map Prod.fst, time < ms := by
    exact forall_mem_map.mpr fun entry among => fresh.dataset entry among
  constructor
  · intro inWindow
    rw [filter_cons_of_pos (by simpa using by omega)]
    dsimp only
    rw [foldl_max_of_le fun time within => (older time (mem_of_mem_filter within)).le]
  · intro late
    have none : (ms :: (st.datasetTombstones (datasetTombstoneKey ds)).map Prod.fst).filter
        (fun time => nowMs - timeTravelWindowMs ≤ time) = [] := by
      refine filter_eq_nil_iff.mpr fun time within => ?_
      rcases mem_cons.mp within with rfl | among
      · simpa using by omega
      · have earlier := older time among
        simpa using by omega
    rw [none]
    exact ⟨_, rfl⟩

variable {id : String}

theorem restoreTables_cons (ids : List String) (absent : id ∉ dir.tables.map Prod.fst)
    (found : st.tableTombstones (datasetTombstoneKey ds) id ms = some stored) :
    restoreTables ds ms st dir (id :: ids) =
      restoreTables ds ms (st.removeTableTombstone ds id ms) (dir.add id stored absent) ids := by
  rw [restoreTables, restoreTableFromTombstone, dif_neg absent, found]

/-- Tables are restored unless one is there already or has no tombstone. -/
theorem restoreTables_ok_iff {ids : List String} (st : DataDir) (dir : DatasetDir) :
    (restoreTables ds ms st dir ids).2 = .ok () ↔ ids.Nodup ∧ ∀ id ∈ ids,
      dir.lookup id = none ∧ (st.tableTombstones (datasetTombstoneKey ds) id ms).isSome = true := by
  induction ids generalizing st dir with
  | nil => simp [restoreTables]
  | cons id ids ih =>
    by_cases present : id ∈ dir.tables.map Prod.fst
    · rw [restoreTables, restoreTableFromTombstone, dif_pos present]
      refine iff_of_false nofun fun good => ?_
      have some := lookup_isSome_iff_mem.mpr present
      rw [show dir.tables.lookup id = none from (good.2 id (.head _)).1] at some
      cases some
    · cases found : st.tableTombstones (datasetTombstoneKey ds) id ms with
      | none =>
        rw [restoreTables, restoreTableFromTombstone, dif_neg present, found]
        refine iff_of_false nofun fun good => ?_
        have some := (good.2 id (.head _)).2
        rw [found] at some
        cases some
      | some stored =>
        rw [restoreTables_cons ids present found, ih, nodup_cons, forall_mem_cons]
        have free : dir.lookup id = none := lookup_eq_none_of_not_mem present
        simp only [dir.lookup_add, removeTableTombstone, found, free, true_and]
        grind

theorem restoreTables_result {ids : List String} (st : DataDir) (dir : DatasetDir)
    (ok : (restoreTables ds ms st dir ids).2 = .ok ()) :
    ∃ dir' kept, (restoreTables ds ms st dir ids).1 =
        { st.setDataset ds (some dir') with tableTombstones := kept } ∧
      ∀ name, dir'.lookup name = if name ∈ ids then
        st.tableTombstones (datasetTombstoneKey ds) name ms else dir.lookup name := by
  induction ids generalizing st dir with
  | nil => exact ⟨dir, st.tableTombstones, rfl, fun name => by simp⟩
  | cons id ids ih =>
    obtain ⟨distinct, all⟩ := (restoreTables_ok_iff st dir).mp ok
    obtain ⟨free, some⟩ := all id (.head _)
    obtain ⟨stored, found⟩ := Option.isSome_iff_exists.mp some
    have absent : id ∉ dir.tables.map Prod.fst := by
      rw [← lookup_isSome_iff_mem, show dir.tables.lookup id = none from free]
      rintro ⟨⟩
    rw [restoreTables_cons ids absent found] at ok ⊢
    obtain ⟨dir', kept, result, lookups⟩ := ih _ _ ok
    refine ⟨dir', kept, result, fun name => ?_⟩
    rw [lookups, dir.lookup_add]
    simp only [removeTableTombstone, mem_cons]
    by_cases same : name = id
    · subst same
      rw [if_neg (nodup_cons.mp distinct).1]
      simp [found]
    · simp [same]

/-- The rows of a snapshot are stored one after another, as they are read. -/
theorem restoreRegistry_rows {row : Type} {reads : row → record}
    (parse : List Char → Except Status record) (upsert : DataDir → record → DataDir)
    (render : row → List Piece) (object : ∀ item, IsObject (join (render item)))
    (parsed : ∀ item, parse (join (render item)) = .ok (reads item)) (rows : List row)
    (st : DataDir) :
    restoreRegistry parse upsert st (splitTopLevelJsonObjects (join (jsonArray (rows.map render)))) =
      ((rows.map reads).foldl upsert st, .ok ()) := by
  rw [splitTopLevelJsonObjects_rows render object]
  induction rows generalizing st with
  | nil => rfl
  | cons item rows ih =>
    rw [map_cons, restoreRegistry, parsed]
    exact ih _

/-- A registered view as it is restored: its newlines and tabs have become letters. -/
def restoredRow (row : ViewRow) : ViewRow :=
  ⟨row.dataset, reread row.viewId, reread row.ddlSql⟩

def writeViews (dir : DatasetDir) (rows : List ViewRow) : DatasetDir :=
  rows.foldl (fun dir row => dir.writeSidecar row.viewId (viewSidecar row)) dir

theorem foldl_upsertView (among : ∀ row ∈ rows, row.dataset = ds) (st : DataDir) (dir : DatasetDir)
    (live : st.datasets ds = some dir) :
    (rows.foldl upsertView st).datasets ds = some (writeViews dir rows) ∧
      (rows.foldl upsertView st).path = st.path := by
  induction rows generalizing st dir with
  | nil => exact ⟨live, rfl⟩
  | cons row rows ih =>
    have here := among row (.head _)
    have stepped : (st.upsertView row).datasets ds =
        some (dir.writeSidecar row.viewId (viewSidecar row)) ∧
        (st.upsertView row).path = st.path := by
      unfold upsertView
      rw [here, live]
      exact ⟨if_pos rfl, rfl⟩
    obtain ⟨written, path⟩ := ih (forall_mem_cons.mp among).2 _ _ stepped.1
    exact ⟨written, path.trans stepped.2⟩

theorem foldl_upsertRoutine (records : List RoutineRecord) (st : DataDir) :
    (records.foldl upsertRoutine st).datasets = st.datasets ∧
      (records.foldl upsertRoutine st).path = st.path := by
  induction records generalizing st with
  | nil => exact ⟨rfl, rfl⟩
  | cons rec records ih => exact ih (st.upsertRoutine rec)

theorem datasetViews_dataset (within : row ∈ st.datasetViews ds) :
    row ∈ st.views.rows ∧ row.dataset = ds := by
  have kept := (mem_insertionSort _).mp within
  obtain ⟨among, here⟩ := mem_filter.mp kept
  exact ⟨among, by simpa using here⟩

theorem mem_datasetViews (among : row ∈ st.views.rows) (here : row.dataset = ds) :
    row ∈ st.datasetViews ds :=
  (mem_insertionSort _).mpr (mem_filter.mpr ⟨among, by simpa using here⟩)

/-- Restoring the registry always succeeds, and writes the sidecars of the views. -/
theorem restoreRegistry_snapshot (before : DataDir) (shown : DatasetDir) (st : DataDir)
    (dir : DatasetDir) (live : st.datasets ds = some dir) :
    ∃ after, st.restoreDatasetRegistryFromTombstone ds (before.snapshot ds shown) = (after, .ok ()) ∧
      after.datasets ds = some (writeViews dir ((before.datasetViews ds).map restoredRow)) ∧
      after.path = st.path := by
  have viewsDone := restoreRegistry_rows (fun json => parseViewRecordJson json ds) upsertView
    renderViewRecordJson isObject_renderViewRecordJson (fun row => parse_view_record row ds)
    (before.datasetViews ds) st
  have restored : (before.datasetViews ds).map
      (fun row => ViewRow.mk ds (reread row.viewId) (reread row.ddlSql)) =
      (before.datasetViews ds).map restoredRow := by
    refine map_congr_left fun row within => ?_
    rw [restoredRow, (datasetViews_dataset within).2]
  rw [restored] at viewsDone
  have among : ∀ row ∈ (before.datasetViews ds).map restoredRow, row.dataset = ds := by
    exact forall_mem_map.mpr fun old found => (datasetViews_dataset found).2
  obtain ⟨written, path⟩ := foldl_upsertView among st dir live
  have routinesDone := restoreRegistry_rows (fun json => parseRoutineRecordJson json ds) upsertRoutine
    renderRoutineRecordJson isObject_renderRoutineRecordJson (fun rec => parse_routine_record rec ds)
    (before.datasetRoutines ds) (((before.datasetViews ds).map restoredRow).foldl upsertView st)
  rw [restoreDatasetRegistryFromTombstone]
  simp only [snapshot]
  rw [viewsDone]
  dsimp only
  rw [routinesDone]
  dsimp only
  rw [restore_snapshot]
  exact ⟨_, rfl, (congrFun (foldl_upsertRoutine _ _).1 ds).trans written,
    (foldl_upsertRoutine _ _).2.trans path⟩

def manifest (dir : DatasetDir) : List String :=
  parseTablesManifestJson (renderTablesManifestJson dir.tableIds)

theorem Dropped.tables_ok_iff (dropped : Dropped st ds dir ms after) :
    (restoreTables ds ms after { metaJson := dir.metaJson } (manifest dir)).2 = .ok () ↔
      (manifest dir).Nodup ∧ ∀ id ∈ manifest dir, (dir.listed.lookup id).isSome = true := by
  refine (restoreTables_ok_iff after _).trans (and_congr_right fun _ => forall₂_congr fun id _ => ?_)
  rw [dropped.tables]
  exact and_iff_right rfl

theorem Dropped.restore_eq (dropped : Dropped st ds dir ms after) (fresh : Fresh st ds ms)
    (inWindow : nowMs ≤ ms + timeTravelWindowMs) :
    after.restoreDataset ds nowMs =
      match restoreTables ds ms after { metaJson := dir.metaJson } (manifest dir) with
      | (after, .error e) => (after, .error e)
      | (after, .ok ()) =>
        match after.restoreDatasetRegistryFromTombstone ds (st.snapshot ds dir) with
        | (after, .error e) => (after, .error e)
        | (after, .ok ()) => (after.removeTombstone ds ms, .ok ()) := by
  have kept : tombstoneRetentionOk ms nowMs = .ok () := if_neg (by omega)
  rw [restoreDataset, dropped.gone, (dropped.latest fresh nowMs).1 inWindow]
  dsimp only [Option.isSome]
  rw [if_neg (by decide), kept]
  dsimp only
  rw [dropped.tombstone, List.lookup_cons_self]
  rfl

section
variable {after : DataDir} (dropped : Dropped st ds dir ms after) (fresh : Fresh st ds ms)
  (inWindow : nowMs ≤ ms + timeTravelWindowMs)
include dropped fresh inWindow

theorem Dropped.restore_tables
    (ok : (restoreTables ds ms after { metaJson := dir.metaJson } (manifest dir)).2 = .ok ()) :
    (after.restoreDataset ds nowMs).2 = .ok () ∧ ∃ tables : DatasetDir,
      (∀ id, tables.lookup id = if id ∈ manifest dir then dir.listed.lookup id else none) ∧
      (after.restoreDataset ds nowMs).1.datasets ds =
        some (writeViews tables ((st.datasetViews ds).map restoredRow)) ∧
      (after.restoreDataset ds nowMs).1.path = st.path := by
  obtain ⟨tables, kept, result, lookups⟩ := restoreTables_result _ _ ok
  have run : restoreTables ds ms after { metaJson := dir.metaJson } (manifest dir) = (_, .ok ()) :=
    Prod.ext result ok
  obtain ⟨restored, registry, written, path⟩ := restoreRegistry_snapshot st dir
    { after.setDataset ds (some tables) with tableTombstones := kept } tables (if_pos rfl)
  rw [dropped.restore_eq fresh inWindow, run]
  dsimp only
  rw [registry]
  refine ⟨rfl, tables, fun id => ?_, written, path.trans dropped.path⟩
  rw [lookups, dropped.tables]
  rfl

end

section
variable {rows : List ViewRow}

theorem lookup_writeViews_cons (row : ViewRow) (rows : List ViewRow) (dir : DatasetDir) :
    writeViews dir (row :: rows) =
      writeViews (dir.writeSidecar row.viewId (viewSidecar row)) rows := rfl

theorem lookup_writeViews_other (absent : id ∉ rows.map ViewRow.viewId)
    (dir : DatasetDir) : (writeViews dir rows).lookup id = dir.lookup id := by
  induction rows generalizing dir with
  | nil => rfl
  | cons row rows ih =>
    rw [map_cons, mem_cons, not_or] at absent
    rw [lookup_writeViews_cons, ih absent.2, dir.lookup_writeSidecar, if_neg absent.1]

theorem sidecar_writeViews (distinct : (rows.map ViewRow.viewId).Nodup) (within : row ∈ rows)
    (dir : DatasetDir) :
    ((writeViews dir rows).lookup row.viewId).map sidecar = some (viewSidecar row) := by
  induction rows generalizing dir with
  | nil => cases within
  | cons first rows ih =>
    rw [map_cons, nodup_cons] at distinct
    rw [lookup_writeViews_cons]
    rcases mem_cons.mp within with rfl | later
    · rw [lookup_writeViews_other distinct.1, dir.lookup_writeSidecar, if_pos rfl]
      cases dir.lookup row.viewId <;> rfl
    · exact ih distinct.2 later _

theorem lookup_writeViews_same (dir : DatasetDir)
    (same : ∀ row ∈ rows, (dir.lookup row.viewId).map sidecar = some (viewSidecar row))
    (id : String) : (writeViews dir rows).lookup id = dir.lookup id := by
  induction rows generalizing dir with
  | nil => rfl
  | cons row rows ih =>
    have unchanged (name : String) :
        (dir.writeSidecar row.viewId (viewSidecar row)).lookup name = dir.lookup name := by
      rw [dir.lookup_writeSidecar]
      split
      · rename_i here
        have kept := same row (.head _)
        rw [← here] at kept
        obtain ⟨stored, found, sidecar⟩ := Option.map_eq_some_iff.mp kept
        rw [found, DatasetDir.withSidecar, ← sidecar]
      · rfl
    rw [lookup_writeViews_cons, ih _ ?_, unchanged]
    intro other within
    rw [unchanged]
    exact same other (.tail _ within)

theorem distinct_datasetViews (st : DataDir) (ds : DatasetId) :
    ((st.datasetViews ds).map ViewRow.viewId).Nodup := by
  have keyed : ((st.datasetViews ds).map ViewRow.key).Nodup :=
    ((perm_insertionSort _ _).map ViewRow.key).nodup_iff.mpr (st.views.select _).keyed
  refine (nodup_map_iff_inj_on keyed.of_map).mpr fun row within other among same => ?_
  refine inj_on_of_nodup_map keyed within among (Prod.ext ?_ same)
  exact (datasetViews_dataset within).2.trans (datasetViews_dataset among).2.symm

end

section

/-- Every read of the dataset gives the same answer. -/
structure SameReads (ds : DatasetId) (before after : DataDir) : Prop where
  listTables : after.listTables ds = before.listTables ds
  getSchema : ∀ id, after.getSchema ds id = before.getSchema ds id
  getTableResourceInfo : ∀ id, after.getTableResourceInfo ds id = before.getTableResourceInfo ds id
  sidecarSchema : ∀ id, after.sidecarSchema ds id = before.sidecarSchema ds id
  scanRows : ∀ id, after.scanRows ds id = before.scanRows ds id
  scanRowsAt : ∀ id asOfMs nowMs clockMs,
    after.scanRowsAt ds id asOfMs nowMs clockMs = before.scanRowsAt ds id asOfMs nowMs clockMs

variable {after : DataDir} {dir' : DatasetDir}

theorem SameReads.of_lookup (live : st.datasets ds = some dir) (live' : after.datasets ds = some dir')
    (path : after.path = st.path) (same : ∀ id, dir'.lookup id = dir.lookup id) :
    SameReads ds st after := by
  have stored (id : String) : after.storedTable ds id = st.storedTable ds id := by
    rw [storedTable, storedTable, live, live']
    dsimp only
    rw [same]
  have sidecar (id : String) : after.readSidecar ds id = st.readSidecar ds id := by
    rw [readSidecar, readSidecar, live, live', path]
    dsimp only [Option.bind]
    rw [same]
  refine ⟨?_, fun id => ?_, fun id => ?_, fun id => ?_, fun id => ?_, fun id _ _ _ => ?_⟩
  · rw [DataDir.listTables, DataDir.listTables, live, live']
    dsimp only
    rw [dir'.tableIds_congr fun id => congrArg Option.isSome (same id)]
  · rw [DataDir.getSchema, DataDir.getSchema, stored]
  · rw [DataDir.getTableResourceInfo, DataDir.getTableResourceInfo, sidecar]
  · rw [DataDir.sidecarSchema, DataDir.sidecarSchema, sidecar]
  · rw [DataDir.scanRows, DataDir.scanRows, stored]
  · rw [DataDir.scanRowsAt, DataDir.scanRowsAt, stored]

theorem SameReads.sidecars (reads : SameReads ds st after) (live : st.datasets ds = some dir)
    (live' : after.datasets ds = some dir') (id : String) :
    (dir'.lookup id).map sidecar = (dir.lookup id).map sidecar := by
  have info := reads.getTableResourceInfo id
  have schema := reads.sidecarSchema id
  rw [DataDir.getTableResourceInfo, DataDir.getTableResourceInfo, readSidecar, readSidecar, live,
    live'] at info
  rw [DataDir.sidecarSchema, DataDir.sidecarSchema, readSidecar, readSidecar, live, live'] at schema
  dsimp only [Option.bind] at info schema
  rcases new : dir'.lookup id with _ | stored' <;> rcases old : dir.lookup id with _ | stored <;>
    rw [new, old] at info schema
  · cases info
  · cases info
  · have fields := Except.ok.inj info
    simp only [TableResourceInfo.mk.injEq] at fields
    obtain ⟨tableType, viewQuery, ddlSql⟩ := fields
    have columns : stored'.sidecar.schema = stored.sidecar.schema := Except.ok.inj schema
    refine congrArg some ?_
    calc stored'.sidecar
        = ⟨stored'.sidecar.tableType, stored'.sidecar.viewQuery, stored'.sidecar.ddlSql,
            stored'.sidecar.schema⟩ := rfl
      _ = stored.sidecar := by rw [tableType, viewQuery, ddlSql, columns]

end

def KeptView (dir : DatasetDir) (row : ViewRow) : Prop :=
  (dir.lookup row.viewId).map sidecar =
    some { tableType := "VIEW", viewQuery := reread row.ddlSql, ddlSql := reread row.ddlSql, schema := ⟨[]⟩ }

/-- An id of a view that its snapshot can hold as well as the manifest. -/
def PlainViewId (id : String) : Prop := PlainId id ∧ reread id = id

theorem escapes_plain (plain : PlainId id) : escapes id.toList = 0 := by
  have quotes := count_eq_zero.mpr plain.2.1
  have backslashes := count_eq_zero.mpr plain.2.2
  unfold escapes
  omega

section
variable {after : DataDir} {tables : DatasetDir}

variable {rows : List ViewRow}

theorem plain_of_same_sidecars
    (plain : ∀ id ∈ rows.map ViewRow.viewId, PlainId id) (once : (manifest dir).Nodup)
    (all : ∀ id ∈ manifest dir, (dir.listed.lookup id).isSome = true)
    (lookups : ∀ id, tables.lookup id = if id ∈ manifest dir then dir.listed.lookup id else none)
    (same : ∀ id, ((writeViews tables rows).lookup id).map sidecar =
      (dir.lookup id).map sidecar) :
    ∀ table ∈ dir.tables, PlainId table.1 := by
  have named {id : String} (present : (dir.lookup id).isSome = true) :
      id ∈ manifest dir ∨ id ∈ rows.map ViewRow.viewId := by
    by_contra unnamed
    rw [not_or] at unnamed
    have gone := same id
    rw [lookup_writeViews_other unnamed.2, lookups, if_neg unnamed.1] at gone
    obtain ⟨stored, found⟩ := Option.isSome_iff_exists.mp present
    rw [found] at gone
    cases gone
  have clean := plain_of_manifest dir.distinct_listed once fun id within special =>
    (named (dir.mem_tableIds.mp within).2).resolve_right fun among =>
      special (escapes_plain (plain id among))
  intro table within
  have present : (dir.lookup table.1).isSome = true :=
    lookup_isSome_iff_mem.mpr (mem_map.mpr ⟨table, within, rfl⟩)
  have nonempty : table.1 ≠ "" := by
    intro empty
    rw [empty] at present
    rcases named present with listed | viewed
    · have some := all "" listed
      rw [dir.lookup_listed, if_pos rfl] at some
      cases some
    · exact (plain "" viewed).1 rfl
  exact ⟨nonempty, clean table.1 (dir.mem_tableIds.mpr ⟨nonempty, present⟩)⟩

theorem manifest_plain (plain : ∀ table ∈ dir.tables, PlainId table.1) :
    manifest dir = dir.tableIds := by
  refine parse_manifest fun id within => ?_
  obtain ⟨table, among, rfl⟩ := mem_map.mp within
  exact plain table (mem_of_mem_filter (dir.perm_listed.mem_iff.mp among))

theorem lookup_listed_plain (plain : ∀ table ∈ dir.tables, PlainId table.1) (id : String) :
    dir.listed.lookup id = dir.lookup id := by
  rw [dir.lookup_listed]
  split
  · rename_i empty
    refine (lookup_eq_none_of_not_mem fun within => ?_).symm
    obtain ⟨table, among, named⟩ := mem_map.mp within
    exact (plain table among).1 (named.trans empty)
  · rfl

end

/-- After a drop and a restore everything reads as before exactly if the restore comes in
time, every table id is plain, and every registered view had no other query than its DDL text,
on one line, and no schema. -/
theorem undrop_same_reads_iff (st : DataDir) (ds : DatasetId) (dir : DatasetDir) (ms nowMs : Int)
    (live : st.datasets ds = some dir) (fresh : Fresh st ds ms)
    (viewIds : ∀ row ∈ st.views.rows, row.dataset = ds → PlainViewId row.viewId) :
    ((st.dropDataset ds ms).2 = .ok () ∧
      ((st.dropDataset ds ms).1.restoreDataset ds nowMs).2 = .ok () ∧
      SameReads ds st ((st.dropDataset ds ms).1.restoreDataset ds nowMs).1) ↔
    nowMs ≤ ms + timeTravelWindowMs ∧ (∀ table ∈ dir.tables, PlainId table.1) ∧
      ∀ row ∈ st.views.rows, row.dataset = ds → KeptView dir row := by
  obtain ⟨done, dropped⟩ := dropDataset_dropped live fresh
  have ids : ((st.datasetViews ds).map restoredRow).map ViewRow.viewId =
      (st.datasetViews ds).map ViewRow.viewId := by
    rw [map_map]
    refine map_congr_left fun row within => ?_
    obtain ⟨among, here⟩ := datasetViews_dataset within
    exact (viewIds row among here).2
  constructor
  · rintro ⟨_, ok, reads⟩
    have inWindow : nowMs ≤ ms + timeTravelWindowMs := by
      by_contra late
      obtain ⟨e, failed⟩ := (dropped.latest fresh nowMs).2 (not_le.mp late)
      rw [restoreDataset, dropped.gone, failed] at ok
      cases ok
    have tablesOk : (restoreTables ds ms (st.dropDataset ds ms).1 { metaJson := dir.metaJson }
        (manifest dir)).2 = .ok () := by
      rw [dropped.restore_eq fresh inWindow] at ok
      split at ok
      · cases ok
      · simp_all
    obtain ⟨once, all⟩ := dropped.tables_ok_iff.mp tablesOk
    obtain ⟨_, tables, lookups, written, _⟩ := dropped.restore_tables fresh inWindow tablesOk
    have same := reads.sidecars live written
    refine ⟨inWindow, plain_of_same_sidecars (fun id within => ?_) once all lookups same, ?_⟩
    · rw [ids] at within
      obtain ⟨row, among, rfl⟩ := mem_map.mp within
      obtain ⟨stored, here⟩ := datasetViews_dataset among
      exact (viewIds row stored here).1
    · intro row among here
      have restored := sidecar_writeViews (ids ▸ distinct_datasetViews st ds)
        (mem_map_of_mem (mem_datasetViews among here)) tables
      rw [same, show (restoredRow row).viewId = row.viewId from (viewIds row among here).2] at restored
      exact restored
  · rintro ⟨inWindow, plain, kept⟩
    have tablesOk : (restoreTables ds ms (st.dropDataset ds ms).1 { metaJson := dir.metaJson }
        (manifest dir)).2 = .ok () := by
      refine dropped.tables_ok_iff.mpr ?_
      rw [manifest_plain plain]
      exact ⟨dir.distinct_listed, fun id within => lookup_isSome_iff_mem.mpr within⟩
    obtain ⟨ok, tables, lookups, written, path⟩ := dropped.restore_tables fresh inWindow tablesOk
    have back (id : String) : tables.lookup id = dir.lookup id := by
      rw [lookups, manifest_plain plain]
      split
      · exact lookup_listed_plain plain id
      · rename_i unlisted
        rw [← lookup_listed_plain plain]
        exact (lookup_eq_none_of_not_mem unlisted).symm
    refine ⟨done, ok, SameReads.of_lookup live written path fun id => ?_⟩
    rw [lookup_writeViews_same tables ?_ id, back]
    intro row within
    obtain ⟨old, among, rfl⟩ := mem_map.mp within
    obtain ⟨stored, here⟩ := datasetViews_dataset among
    rw [back, show (restoredRow old).viewId = old.viewId from (viewIds old stored here).2]
    exact kept old stored here

/-- A table `t` and a view `v` with the given query and DDL text. -/
def salesWith (viewQuery ddlSql : String) : DatasetDir where
  metaJson := ""
  tables := [
    ("t", { sidecar := { schema := ⟨[{ name := "a", type := .int64 }]⟩ }
            parquet := some [⟨[.int64 1]⟩] }),
    ("v", { sidecar := { tableType := "VIEW", viewQuery, ddlSql, schema := ⟨[]⟩ } })]
  distinct := by simp

def storeWith (viewQuery ddlSql : String) : DataDir where
  datasets := fun ds => if ds = sales then some (salesWith viewQuery ddlSql) else none
  views := { rows := [⟨sales, "v", ddlSql⟩], keyed := by simp }

/-- A view whose query is its DDL text comes back as it was. -/
theorem bare_view_restored :
    (((storeWith "SELECT 1" "SELECT 1").dropDataset sales 5).1.restoreDataset sales 9).2 = .ok () ∧
      SameReads sales (storeWith "SELECT 1" "SELECT 1")
        (((storeWith "SELECT 1" "SELECT 1").dropDataset sales 5).1.restoreDataset sales 9).1 := by
  refine ((undrop_same_reads_iff (storeWith "SELECT 1" "SELECT 1") sales
    (salesWith "SELECT 1" "SELECT 1") 5 9 rfl ⟨fun _ => rfl, by decide⟩ ?_).mpr ⟨by decide, ?_, ?_⟩).2
  · exact forall_iff_forall_mem.mp fun _ => ⟨by decide, rfl⟩
  · exact forall_iff_forall_mem.mp (by decide)
  · exact forall_iff_forall_mem.mp fun _ => rfl

/-- The query of any other view is replaced by its DDL text. -/
theorem view_query_replaced :
    (storeWith "SELECT 1" "CREATE VIEW v AS SELECT 1").getTableResourceInfo sales "v" =
      .ok ⟨"VIEW", "SELECT 1", "CREATE VIEW v AS SELECT 1"⟩ ∧
    (((storeWith "SELECT 1" "CREATE VIEW v AS SELECT 1").dropDataset sales 5).1.restoreDataset sales
      9).2 = .ok () ∧
    (((storeWith "SELECT 1" "CREATE VIEW v AS SELECT 1").dropDataset sales 5).1.restoreDataset sales
      9).1.getTableResourceInfo sales "v" =
        .ok ⟨"VIEW", "CREATE VIEW v AS SELECT 1", "CREATE VIEW v AS SELECT 1"⟩ := by
  refine ⟨rfl, rfl, rfl⟩
end DataDir
end BigQueryEmulator.Storage
