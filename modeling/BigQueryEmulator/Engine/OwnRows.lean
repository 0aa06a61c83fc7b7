import BigQueryEmulator.Engine.ScanNames

/-! When every table scan of a fast path query reads its own rows: exactly when no two
scans of different tables or times share a relation name, and no WITH entry hides one. -/
namespace BigQueryEmulator.Engine
open Storage List

variable {db : InMemoryDuckdb} {catalog : GoogleSqlCatalog} {env : Surroundings} {query : Scan}

structure Execution (db : InMemoryDuckdb) (catalog : GoogleSqlCatalog) (env : Surroundings)
    (query : Scan) (reads : List (Option (List Row))) where
  sql : Sql
  collector : TableScanCollector
  governed : TableScanCollector
  conn : Connection
  emitted : emitScan catalog query = some sql
  visited : TableScanCollector.visit query {} = .ok collector
  governs : applyGovernanceToCollector catalog env collector = .ok governed
  attached : db.attachCollectedQueryTables catalog env governed (fun _ => none) = .ok conn
  result : reads = sql.reads db conn []

theorem executeQuery_ok_iff :
    executeQuery db catalog env query = .ok reads ↔
      Nonempty (Execution db catalog env query reads) := by
  constructor
  · intro ok
    unfold executeQuery at ok
    cases emitted : emitScan catalog query with
    | none => simp only [emitted] at ok; cases ok
    | some sql =>
      simp only [emitted] at ok
      obtain ⟨collector, visited, rest⟩ := bind_ok ok
      obtain ⟨governed, governs, rest⟩ := bind_ok rest
      obtain ⟨conn, attached, rest⟩ := bind_ok rest
      cases rest
      exact ⟨⟨sql, collector, governed, conn, emitted, visited, governs, attached, rfl⟩⟩
  · rintro ⟨execution⟩
    simp only [executeQuery, execution.emitted, execution.visited, execution.governs,
      execution.attached, execution.result, bind, Except.bind, pure, Except.pure]

namespace Execution
variable {reads : List (Option (List Row))}

section
variable (execution : Execution db catalog env query reads)
include execution

theorem collected :
    Collected query.tableScans execution.collector :=
  visit_collected execution.visited

theorem isGoverned :
    Governed catalog env execution.collector.tables execution.collector execution.governed :=
  applyGovernance_governed execution.collected.unfiltered execution.governs

theorem storageTables
    (stored : ∀ scan ∈ query.tableScans, ∃ id, catalog.storageId scan.table = some id) :
    ∀ pointer ∈ execution.governed.tables, ∃ id, catalog.storageId pointer = some id := by
  intro pointer member
  rw [execution.isGoverned.tables, execution.collected.tables] at member
  obtain ⟨scan, found, rfl⟩ := member
  exact stored scan found

theorem forall₂_iff :
    List.Forall₂ correct query.tableScans reads ↔
      ∀ place ∈ query.places db [], correct place.2 (readScan db catalog execution.conn place) := by
  have read : reads = (query.places db []).map (readScan db catalog execution.conn) :=
    execution.result.trans (reads_places execution.emitted _ _)
  generalize execution.conn = conn at read ⊢
  rw [read, ← places_tableScans db query [], forall₂_map_left_iff,
    forall₂_map_right_iff, forall₂_same]

end

end Execution

/-- No scan stands where a WITH entry has taken its table's relation name. -/
def Unshadowed (db : InMemoryDuckdb) (catalog : GoogleSqlCatalog) (query : Scan) : Prop :=
  ∀ place ∈ query.places db [], ∀ id, catalog.storageId place.2.table = some id →
    relationOf db id ∉ place.1

/-- Scans that share a relation name are scans of one table at one time. -/
def Apart (db : InMemoryDuckdb) (catalog : GoogleSqlCatalog) (query : Scan) : Prop :=
  ∀ a ∈ query.tableScans, ∀ b ∈ query.tableScans, ∀ idA idB,
    catalog.storageId a.table = some idA → catalog.storageId b.table = some idB →
    relationOf db idA = relationOf db idB → idA = idB ∧ a.asOf = b.asOf

variable {asOf : Option Int} {rows : List Row} {id : TableId}

theorem readsOwnRows_of_apart
    (stored : ∀ scan ∈ query.tableScans, ∃ id, catalog.storageId scan.table = some id)
    (unshadowed : Unshadowed db catalog query) (apart : Apart db catalog query) :
    ReadsOwnRows db catalog query := by
  intro env reads ok
  obtain ⟨execution⟩ := executeQuery_ok_iff.mp ok
  rw [execution.forall₂_iff]
  intro place member
  have scanned : place.2 ∈ query.tableScans := by
    rw [← places_tableScans db query []]
    exact mem_map_of_mem member
  obtain ⟨id, held⟩ := stored place.2 scanned
  rw [readScan_storage held, if_neg (unshadowed place member id held)]
  rcases attached_relation (execution.storageTables stored) execution.attached (relationOf db id)
    with ⟨pointer, attached, other, rows, otherHeld, same, found, relation⟩ | ⟨free, -⟩
  · rw [execution.isGoverned.tables] at attached
    obtain ⟨winner, winning, rfl⟩ := (execution.collected.tables pointer).mp attached
    -- the table that loaded the relation is scanned, under the same name
    obtain ⟨rfl, sameTime⟩ := apart winner winning place.2 scanned other id otherHeld held same
    have time := execution.collected.asOf_eq winning fun third member sharing =>
      (apart third member winner winning other other (sharing ▸ otherHeld) otherHeld rfl).2
    obtain ⟨filter, answered, applied⟩ :=
      execution.isGoverned.filtered winner.table attached other otherHeld
    rw [execution.isGoverned.asOf] at found
    rw [applied] at relation
    refine ⟨_, relation, ?_⟩
    simp only [ownRows, held, sameTime.symm.trans time, answered, found, bind, Except.bind, pure,
      Except.pure]
  · have attached : place.2.table ∈ execution.governed.tables := by
      rw [execution.isGoverned.tables, execution.collected.tables]
      exact ⟨place.2, scanned, rfl⟩
    exact absurd rfl (free place.2.table attached id held)

section

/-- A store in which every table has changed once, at `change`. -/
def changedOnce (start change : Int) (old new : TableId → List Row) : DuckDBStorage where
  datasetExists := fun _ _ => true
  tables := fun id => some {
    schema := ⟨[]⟩
    parquet := some (new id)
    index := some
      { createdTsMs := start, currentTsMs := change, versions := [⟨start, archiveName start⟩] }
    archive := fun _ => some (old id) }

def contentAsOf (change : Int) (old new : TableId → List Row) (id : TableId) :
    Option Int → List Row
  | none => new id
  | some ms => if change ≤ ms then new id else old id

/-- Such a store at the time of another execution, without row access policies. -/
def probe (env : Surroundings) (change : Int) (old new : TableId → List Row) : Surroundings where
  storage := changedOnce (env.nowMs - timeTravelWindowMs) change old new
  nowMs := env.nowMs
  clockMs := env.clockMs

theorem readable_window (found : rowsAt env id (some ms) = .ok rows) :
    env.nowMs - timeTravelWindowMs ≤ ms ∧ ms ≤ env.nowMs := by
  simp only [rowsAt] at found
  split at found
  · cases found
  by_contra outside
  rw [resolveParquetSnapshotAt] at found
  split at found
  · cases found
  · rw [if_pos (by omega)] at found
    cases found

variable {change : Int} {old new : TableId → List Row}

theorem rowsAt_probe
    (within : ∀ ms, asOf = some ms → env.nowMs - timeTravelWindowMs ≤ ms ∧ ms ≤ env.nowMs) :
    rowsAt (probe env change old new) id asOf = .ok (contentAsOf change old new id asOf) := by
  cases asOf with
  | none => rfl
  | some ms =>
    obtain ⟨early, late⟩ := within ms rfl
    simp only [rowsAt, probe, changedOnce, DuckDBStorage.ensureTableMetaExists, if_true,
      resolveParquetSnapshotAt, loadVersionIndexOrInit, Option.getD_some, Option.isNone_some,
      Bool.false_and, Bool.false_eq_true, if_false, Option.isSome_some, latestVersionAt,
      foldl_cons, foldl_nil, contentAsOf]
    rw [if_neg (by omega), if_neg (by omega), if_neg (by omega), if_pos early]
    split <;> rfl

theorem rowsAt_probe_eq (found : rowsAt (probe env change old new) id asOf = .ok rows) :
    rows = contentAsOf change old new id asOf := by
  have within : ∀ ms, asOf = some ms → env.nowMs - timeTravelWindowMs ≤ ms ∧ ms ≤ env.nowMs := by
    rintro ms rfl
    have window := readable_window found
    exact window
  exact Except.ok.inj (found.symm.trans (rowsAt_probe within))

/-- Two tables or two times can be told apart by their content. -/
theorem contents_differ (different : ¬ (idA = idB ∧ timeA = timeB)) :
    ∃ change old new, contentAsOf change old new idA timeA ≠ contentAsOf change old new idB timeB := by
  by_cases same : idA = idB
  · subst idB
    have times : timeA ≠ timeB := fun equal => different ⟨rfl, equal⟩
    cases timeA with
    | none =>
      cases timeB with
      | none => exact absurd rfl times
      | some ms =>
        refine ⟨ms + 1, fun _ => [], fun _ => [⟨[]⟩], ?_⟩
        rw [contentAsOf, contentAsOf, if_neg (by omega)]
        exact cons_ne_nil _ _
    | some msA =>
      cases timeB with
      | none =>
        refine ⟨msA + 1, fun _ => [], fun _ => [⟨[]⟩], ?_⟩
        rw [contentAsOf, contentAsOf, if_neg (by omega)]
        exact (cons_ne_nil _ _).symm
      | some msB =>
        refine ⟨max msA msB, fun _ => [], fun _ => [⟨[]⟩], ?_⟩
        have apart : msA ≠ msB := fun equal => times (congrArg some equal)
        rcases lt_or_gt_of_ne apart with before | after
        · simp [contentAsOf, before, before.le]
        · simp [contentAsOf, after, after.le]
  · refine ⟨0, fun id => if id = idA then [] else [⟨[]⟩],
      fun id => if id = idA then [] else [⟨[]⟩], ?_⟩
    have other : idB ≠ idA := fun equal => same equal.symm
    cases timeA <;> cases timeB <;> simp [contentAsOf, other]

theorem applyGovernance_probe (collector : TableScanCollector) :
    applyGovernanceToCollector catalog (probe env change old new) collector = .ok collector := by
  have unchanged : ∀ pointer,
      setRowAccessFilter catalog (probe env change old new) collector pointer = .ok collector := by
    intro pointer
    unfold setRowAccessFilter
    split <;> rfl
  unfold applyGovernanceToCollector
  induction collector.tables with
  | nil => rfl
  | cons pointer rest ih =>
    rw [foldlM_cons, unchanged]
    exact ih

/-- A query that executes anywhere executes on the probing stores. -/
theorem Execution.probe (execution : Execution db catalog env query reads)
    (stored : ∀ scan ∈ query.tableScans, ∃ id, catalog.storageId scan.table = some id)
    (change : Int) (old new : TableId → List Row) :
    ∃ reads', Nonempty (Execution db catalog (Engine.probe env change old new) query reads') := by
  have tables := execution.storageTables stored
  have loaded := (attached_iff (fun _ => none) tables).mp ⟨_, execution.attached⟩
  rw [execution.isGoverned.tables] at tables loaded
  rw [execution.isGoverned.asOf] at loaded
  have succeeds : ∃ conn, db.attachCollectedQueryTables catalog (Engine.probe env change old new)
      execution.collector (fun _ => none) = .ok conn := by
    refine (attached_iff _ tables).mpr fun pointer member id held => ?_
    obtain ⟨rows, found⟩ := loaded pointer member id held
    refine ⟨_, rowsAt_probe fun ms time => ?_⟩
    rw [time] at found
    exact readable_window found
  obtain ⟨conn, attached⟩ := succeeds
  exact ⟨_, ⟨execution.sql, execution.collector, execution.collector, conn, execution.emitted,
    execution.visited, applyGovernance_probe _, attached, rfl⟩⟩

theorem ownRows_probe
    (stored : catalog.storageId scan.table = some id) (time : scan.asOf = .ok asOf)
    (found : ownRows db catalog (probe env change old new) scan = .ok rows) :
    rows = contentAsOf change old new id asOf := by
  simp only [ownRows, stored, time] at found
  obtain ⟨all, loaded, rest⟩ := bind_ok found
  cases loaded
  obtain ⟨all, loaded, rest⟩ := bind_ok rest
  cases rest
  exact rowsAt_probe_eq loaded

theorem ReadsOwnRows.unshadowed (correct : ReadsOwnRows db catalog query)
    (executes : executeQuery db catalog env query = .ok reads) : Unshadowed db catalog query := by
  obtain ⟨execution⟩ := executeQuery_ok_iff.mp executes
  intro place member id held hidden
  obtain ⟨rows, read, -⟩ := execution.forall₂_iff.mp (correct env reads executes) place member
  rw [readScan_storage held, if_pos hidden] at read
  cases read

theorem ReadsOwnRows.apart (correct : ReadsOwnRows db catalog query)
    (stored : ∀ scan ∈ query.tableScans, ∃ id, catalog.storageId scan.table = some id)
    (executes : executeQuery db catalog env query = .ok reads) : Apart db catalog query := by
  have unshadowed := correct.unshadowed executes
  obtain ⟨execution⟩ := executeQuery_ok_iff.mp executes
  intro a inA b inB idA idB heldA heldB shared
  obtain ⟨timeA, asOfA⟩ := execution.collected.evaluated a inA
  obtain ⟨timeB, asOfB⟩ := execution.collected.evaluated b inB
  by_contra different
  rw [asOfA, asOfB, Except.ok.injEq] at different
  obtain ⟨change, old, new, differ⟩ := contents_differ different
  obtain ⟨probed, ⟨probing⟩⟩ := execution.probe stored change old new
  have all := probing.forall₂_iff.mp (correct _ _ (executeQuery_ok_iff.mpr ⟨probing⟩))
  -- both scans read the one relation of their name, so their contents would be equal
  rw [← places_tableScans db query []] at inA inB
  obtain ⟨placeA, placedA, rfl⟩ := mem_map.mp inA
  obtain ⟨placeB, placedB, rfl⟩ := mem_map.mp inB
  obtain ⟨rowsA, readA, ownA⟩ := all placeA placedA
  obtain ⟨rowsB, readB, ownB⟩ := all placeB placedB
  rw [readScan_storage heldA, if_neg (unshadowed placeA placedA idA heldA)] at readA
  rw [readScan_storage heldB, if_neg (unshadowed placeB placedB idB heldB), ← shared, readA,
    Option.some.injEq] at readB
  exact differ ((ownRows_probe heldA asOfA ownA).symm.trans
    (readB.trans (ownRows_probe heldB asOfB ownB)))

end

/-- For a query over storage tables that can execute at all: every scan reads its own rows
in every execution exactly when scans sharing a relation name are scans of one table at one
time and no WITH entry hides the name of a table scanned in its scope. -/
theorem scans_read_own_rows_iff (db : InMemoryDuckdb) (catalog : GoogleSqlCatalog) (query : Scan)
    (stored : ∀ scan ∈ query.tableScans, ∃ id, catalog.storageId scan.table = some id)
    (executable : ∃ env reads, executeQuery db catalog env query = .ok reads) :
    ReadsOwnRows db catalog query ↔ Unshadowed db catalog query ∧ Apart db catalog query := by
  constructor
  · intro correct
    obtain ⟨env, reads, executes⟩ := executable
    exact ⟨correct.unshadowed executes, correct.apart stored executes⟩
  · rintro ⟨unshadowed, apart⟩
    exact readsOwnRows_of_apart stored unshadowed apart

def exactNames : InMemoryDuckdb where
  identifier := fun quoted => quoted

def tableT : TableId := ⟨"p", "ds1", "t"⟩
def otherT : TableId := ⟨"p", "ds2", "t"⟩
def tableU : TableId := ⟨"p", "ds1", "u"⟩

def filledAt500 : Surroundings where
  storage := changedOnce 0 500 (fun _ => []) fun id =>
    if id = tableT then [⟨[.int64 1]⟩] else [⟨[.int64 2]⟩]
  nowMs := 1000

def catalogOf (ids : List TableId) : GoogleSqlCatalog :=
  ids.zipIdx.foldl (fun catalog (id, address) =>
    match catalog.materializeTablePhysical filledAt500.storage (fun _ => false)
        (fun _ => .ok ()) id address with
    | .ok (_, after) => after
    | .error _ => catalog) {}

def join (first second : TableScan) : Scan :=
  .compound "JoinScan" true (.tableScan first) (.tableScan second)

/-- `ds1.t JOIN ds1.u FOR SYSTEM_TIME AS OF …`. -/
theorem join_of_two_names_reads_own_rows :
    (∃ env reads, executeQuery exactNames (catalogOf [tableT, tableU]) env
        (join { table := 0 } { table := 1, asOf := .ok (some 100) }) = .ok reads) ∧
      ReadsOwnRows exactNames (catalogOf [tableT, tableU])
        (join { table := 0 } { table := 1, asOf := .ok (some 100) }) := by
  have executes : executeQuery exactNames (catalogOf [tableT, tableU]) filledAt500
      (join { table := 0 } { table := 1, asOf := .ok (some 100) }) =
        .ok [some [⟨[.int64 1]⟩], some []] := rfl
  refine ⟨⟨_, _, executes⟩,
    (scans_read_own_rows_iff _ _ _ ?_ ⟨_, _, executes⟩).mpr ⟨?_, ?_⟩⟩
  · intro scan member
    rcases mem_pair.mp member with rfl | rfl
    · exact ⟨tableT, rfl⟩
    · exact ⟨tableU, rfl⟩
  · intro place member id _
    rcases mem_pair.mp member with rfl | rfl <;> exact not_mem_nil
  · intro a inA b inB idA idB heldA heldB shared
    rcases mem_pair.mp inA with rfl | rfl <;> rcases mem_pair.mp inB with rfl | rfl <;>
      cases heldA <;> cases heldB
    · exact ⟨rfl, rfl⟩
    · exact absurd shared (by decide)
    · exact absurd shared (by decide)
    · exact ⟨rfl, rfl⟩

/-- `ds1.t JOIN ds2.t` reads the rows of `ds2.t` twice; a scan of `ds1.t` beside one as of
time 100 reads the old rows; and a WITH entry `t` hides the table from its body. -/
theorem scans_of_one_name_collide :
    (executeQuery exactNames (catalogOf [tableT, otherT]) filledAt500
        (join { table := 0 } { table := 1 }) = .ok [some [⟨[.int64 2]⟩], some [⟨[.int64 2]⟩]] ∧
      executeQuery exactNames (catalogOf [tableT]) filledAt500
        (join { table := 0 } { table := 0, asOf := .ok (some 100) }) = .ok [some [], some []] ∧
      executeQuery exactNames (catalogOf [tableT]) filledAt500
        (.withScan "t" false .singleRowScan (.tableScan { table := 0 })) = .ok [none]) ∧
    ownRows exactNames (catalogOf [tableT, otherT]) filledAt500 { table := 0 } =
        .ok [⟨[.int64 1]⟩] ∧
      ownRows exactNames (catalogOf [tableT]) filledAt500 { table := 0 } = .ok [⟨[.int64 1]⟩] :=
  ⟨⟨rfl, rfl, rfl⟩, rfl, rfl⟩

end BigQueryEmulator.Engine
