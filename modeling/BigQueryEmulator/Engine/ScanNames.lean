import BigQueryEmulator.Engine.FastPath

/-! Which rows a table scan of the fast path reads. The collector keeps one as-of time for
each table pointer, the attach loop one relation for each name, and the emitted SQL refers
to a name alone; a scan reads its own rows as long as nothing else claims its name. -/
namespace BigQueryEmulator.Engine
open Storage DuckDBStorage InMemoryDuckdb Fallible
open List hiding after

def rowsAt (env : Surroundings) (id : TableId) (asOf : Option Int) : Except Status (List Row) :=
  match asOf with
  | none => env.storage.scanRows id
  | some ms =>
    match env.storage.ensureTableMetaExists id with
    | .error e => .error e
    | .ok files =>
      (resolveParquetSnapshotAt id files ms env.nowMs env.clockMs).map fun path =>
        (contentAt files path).getD []

/-- What a scan should read: its own table's rows at its own time, as far as the row access
policies show them. -/
def ownRows (db : InMemoryDuckdb) (catalog : GoogleSqlCatalog) (env : Surroundings)
    (scan : TableScan) : Except Status (List Row) :=
  match catalog.storageId scan.table with
  | none => .error ⟨.notFound, ""⟩
  | some id => do
    let rows ← rowsAt env id (← scan.asOf)
    return db.visible (← env.rowAccessFilter id) rows

/-- Every scan of the emitted SQL reads its own rows, whenever the query executes. -/
def ReadsOwnRows (db : InMemoryDuckdb) (catalog : GoogleSqlCatalog) (query : Scan) : Prop :=
  ∀ env reads, executeQuery db catalog env query = .ok reads →
    List.Forall₂ (fun scan read => ∃ rows, read = some rows ∧ ownRows db catalog env scan = .ok rows)
      query.tableScans reads

section
open TableScanCollector

/-- The collector after the given scans: their tables, and for each table the time of one
of its scans that has one. -/
structure Collected (seen : List TableScan) (collector : TableScanCollector) : Prop where
  tables : ∀ table, table ∈ collector.tables ↔ ∃ scan ∈ seen, scan.table = table
  dated : ∀ table ms, collector.systemTimeAsOfMs table = some ms →
    ∃ scan ∈ seen, scan.table = table ∧ scan.asOf = .ok (some ms)
  kept : ∀ scan ∈ seen, ∀ ms, scan.asOf = .ok (some ms) →
    (collector.systemTimeAsOfMs scan.table).isSome
  evaluated : ∀ scan ∈ seen, ∃ asOf, scan.asOf = .ok asOf
  unfiltered : collector.rowAccessFilterSql = fun _ => none

variable {seen : List TableScan} {collector after : TableScanCollector}

theorem mem_insertTable (tables : List Pointer) (table other : Pointer) :
    other ∈ insertTable tables table ↔ other ∈ tables ∨ other = table := by
  unfold insertTable
  split
  · constructor
    · exact .inl
    · rintro (old | rfl)
      · exact old
      · assumption
  · rw [mem_orderedInsert]
    exact or_comm

theorem mem_insertTable_seen (collected : Collected seen collector) (scan : TableScan)
    (table : Pointer) : table ∈ insertTable collector.tables scan.table ↔
      ∃ other ∈ seen ++ [scan], other.table = table := by
  rw [mem_insertTable, collected.tables]
  simp [or_and_right, exists_or, eq_comm]

theorem Collected.tableScan (collected : Collected seen collector)
    (visited : collector.visitResolvedTableScan scan = .ok after) :
    Collected (seen ++ [scan]) after := by
  unfold visitResolvedTableScan at visited
  have older : ∀ table ms, collector.systemTimeAsOfMs table = some ms → ∃ other ∈ seen ++ [scan],
      other.table = table ∧ other.asOf = .ok (some ms) := fun table ms held =>
    (collected.dated table ms held).imp fun _ found => ⟨mem_append_left _ found.1, found.2⟩
  cases asOf : scan.asOf with
  | error e => simp [asOf] at visited
  | ok time =>
    have evaluated : ∀ other ∈ seen ++ [scan], ∃ asOf, other.asOf = .ok asOf :=
      forall_mem_append.mpr
        ⟨collected.evaluated, forall_mem_singleton.mpr ⟨time, asOf⟩⟩
    cases time with
    | none =>
      simp only [asOf, Except.ok.injEq] at visited
      subst after
      refine ⟨mem_insertTable_seen collected scan, older, ?_, evaluated, collected.unfiltered⟩
      refine forall_mem_append.mpr ⟨collected.kept, forall_mem_singleton.mpr ?_⟩
      intro ms dated
      cases asOf.symm.trans dated
    | some ms =>
      simp only [asOf, Except.ok.injEq] at visited
      subst after
      refine ⟨mem_insertTable_seen collected scan, ?_, ?_, evaluated, collected.unfiltered⟩
      · intro table other held
        dsimp only at held
        split at held
        · rename_i same
          cases held
          exact ⟨scan, mem_append_right _ (mem_singleton_self _), same.symm, asOf⟩
        · exact older table other held
      · refine forall_mem_append.mpr ⟨?_, forall_mem_singleton.mpr ?_⟩
        · intro other member time dated
          dsimp only
          split
          · rfl
          · exact collected.kept other member time dated
        · intro time dated
          simp

theorem Collected.allowSuffixes (collected : Collected seen collector)
    (suffixes : Option (List String)) (input : Scan) :
    Collected seen (collector.allowSuffixes suffixes input) := by
  cases input with
  | tableScan scan =>
    cases suffixes with
    | none => exact collected
    | some allowed => exact { collected with }
  | filterScan | withScan | withRefScan | singleRowScan | compound => exact collected

theorem Collected.visit (collected : Collected seen collector)
    (visited : visit query collector = .ok after) : Collected (seen ++ query.tableScans) after := by
  induction query generalizing seen collector after with
  | tableScan scan => exact collected.tableScan visited
  | filterScan suffixes input condition inputIH conditionIH =>
    obtain ⟨middle, first, second⟩ := bind_ok visited
    rw [Scan.tableScans, ← append_assoc]
    exact conditionIH (inputIH (collected.allowSuffixes suffixes input) first) second
  | withScan name recursive subquery body subqueryIH bodyIH =>
    obtain ⟨middle, first, second⟩ := bind_ok visited
    rw [Scan.tableScans, ← append_assoc]
    exact bodyIH (subqueryIH collected first) second
  | compound kind covered left right leftIH rightIH =>
    obtain ⟨middle, first, second⟩ := bind_ok visited
    rw [Scan.tableScans, ← append_assoc]
    exact rightIH (leftIH collected first) second
  | withRefScan _ | singleRowScan =>
    cases visited
    rw [Scan.tableScans, append_nil]
    exact collected

theorem visit_collected (visited : visit query {} = .ok after) :
    Collected query.tableScans after := by
  have initial : Collected [] {} :=
    ⟨by simp, fun _ _ held => (by cases held), by simp, by simp, rfl⟩
  simpa using initial.visit visited

/-- Where all scans of a table ask for one time, the collector has that time. -/
theorem Collected.asOf_eq (collected : Collected seen collector) (member : scan ∈ seen)
    (uniform : ∀ other ∈ seen, other.table = scan.table → other.asOf = scan.asOf) :
    scan.asOf = .ok (collector.systemTimeAsOfMs scan.table) := by
  obtain ⟨time, asOf⟩ := collected.evaluated scan member
  cases held : collector.systemTimeAsOfMs scan.table with
  | some ms =>
    obtain ⟨other, found, same, dated⟩ := collected.dated scan.table ms held
    rw [← uniform other found same, dated]
  | none =>
    cases time with
    | none => exact asOf
    | some ms =>
      have kept := collected.kept scan member ms asOf
      rw [held] at kept
      cases kept

end

section

variable {catalog : GoogleSqlCatalog} {env : Surroundings}

structure Governed (catalog : GoogleSqlCatalog) (env : Surroundings) (done : List Pointer)
    (before collector : TableScanCollector) : Prop where
  tables : collector.tables = before.tables
  asOf : collector.systemTimeAsOfMs = before.systemTimeAsOfMs
  filters : ∀ table id filter, catalog.storageId table = some id →
    env.rowAccessFilter id = .ok filter → (collector.rowAccessFilterSql table).getD filter = filter
  filtered : ∀ table ∈ done, ∀ id, catalog.storageId table = some id →
    ∃ filter, env.rowAccessFilter id = .ok filter ∧
      (collector.rowAccessFilterSql table).getD "" = filter

theorem Governed.set (governed : Governed catalog env done before collector)
    (set : setRowAccessFilter catalog env collector table = .ok after) :
    Governed catalog env (done ++ [table]) before after := by
  unfold setRowAccessFilter at set
  cases stored : catalog.storageId table with
  | none =>
    simp only [stored, Except.ok.injEq] at set
    subst after
    refine { governed with filtered := ?_ }
    refine forall_mem_append.mpr ⟨governed.filtered, forall_mem_singleton.mpr ?_⟩
    intro id held
    rw [stored] at held
    cases held
  | some id =>
    simp only [stored] at set
    obtain ⟨filter, answered, rest⟩ := bind_ok set
    split at rest
    · rename_i empty
      cases rest
      refine { governed with filtered := ?_ }
      refine forall_mem_append.mpr ⟨governed.filtered, forall_mem_singleton.mpr ?_⟩
      intro other held
      cases stored.symm.trans held
      have blank : filter = "" := by simpa using empty
      subst blank
      exact ⟨"", answered, governed.filters table id "" stored answered⟩
    · cases rest
      refine { governed with filters := ?_, filtered := ?_ }
      · intro other otherId otherFilter held answer
        dsimp only
        split
        · rename_i same
          subst other
          cases stored.symm.trans held
          exact Except.ok.inj (answered.symm.trans answer)
        · exact governed.filters other otherId otherFilter held answer
      · refine forall_mem_append.mpr ⟨?_, forall_mem_singleton.mpr ?_⟩
        · intro other member otherId held
          dsimp only
          split
          · rename_i same
            subst other
            cases stored.symm.trans held
            exact ⟨filter, answered, rfl⟩
          · exact governed.filtered other member otherId held
        · intro other held
          cases stored.symm.trans held
          exact ⟨filter, answered, by simp⟩

theorem Governed.fold {done tables : List Pointer}
    (governed : Governed catalog env done before collector)
    (folded : tables.foldlM (setRowAccessFilter catalog env) collector = .ok after) :
    Governed catalog env (done ++ tables) before after := by
  induction tables generalizing done collector with
  | nil =>
    cases folded
    rwa [append_nil]
  | cons table rest ih =>
    obtain ⟨middle, first, second⟩ := bind_ok folded
    have next := ih (governed.set first) second
    rwa [append_assoc] at next

theorem applyGovernance_governed {collector after : TableScanCollector}
    (unfiltered : collector.rowAccessFilterSql = fun _ => none)
    (applied : applyGovernanceToCollector catalog env collector = .ok after) :
    Governed catalog env collector.tables collector after := by
  have initial : Governed catalog env [] collector collector :=
    ⟨rfl, rfl, fun _ _ _ _ _ => by rw [unfiltered]; rfl, fun _ member => by cases member⟩
  simpa using initial.fold applied

end

section

variable {db : InMemoryDuckdb} {catalog : GoogleSqlCatalog} {env : Surroundings}
  {collector : TableScanCollector}

variable (conn : Connection)

@[simp] theorem put_same (quoted : String) (rows : List Row) :
    db.put conn quoted rows (db.identifier quoted) = some rows := by
  simp [put]

@[simp] theorem put_put (quoted : String) (first second : List Row) :
    db.put (db.put conn quoted first) quoted second = db.put conn quoted second := by
  funext relation
  simp only [put]
  split <;> rfl

variable {id : TableId} {path : SnapshotPath}

theorem resolved_content
    (resolved : resolveParquetSnapshotAt id files asOfMs nowMs clockMs = .ok path) :
    ∃ rows, contentAt files path = some rows := by
  unfold resolveParquetSnapshotAt at resolved
  dsimp only at resolved
  repeat' split at resolved
  all_goals cases resolved
  · rename_i unindexed
    simp only [Bool.and_eq_true] at unindexed
    exact Option.isSome_iff_exists.mp unindexed.2
  · exact Option.isSome_iff_exists.mp (by assumption)
  · exact Option.isSome_iff_exists.mp (by assumption)

theorem attachParquet_eq
    (found : env.storage.readSnapshot id path = some rows) (quoted filter : String)
    (conn : Connection) :
    db.attachParquetTableAt env id quoted path filter conn =
      .ok (db.put conn quoted (db.visible filter rows)) := by
  simp [attachParquetTableAt, createOrReplaceTable, found,
    insertInto]

theorem attachEmpty_eq (quoted filter : String) (conn : Connection) :
    db.applyRowAccessFilterDelete quoted filter (db.createOrReplaceTable conn quoted) =
      db.put conn quoted (db.visible filter []) := by
  unfold applyRowAccessFilterDelete createOrReplaceTable
    visible
  split <;> simp

/-- Attaching replaces the relation of the table's name by the rows storage holds for the
given time. -/
theorem attachStorageTable_eq (table : CatalogTable) (id : TableId) (asOf : Option Int)
    (filter : String) (conn : Connection) :
    db.attachStorageTable env table id asOf filter conn =
      (rowsAt env id asOf).map fun rows =>
        db.put conn (quoteIdent table.name) (db.visible filter rows) := by
  unfold attachStorageTable resolveParquetSnapshotPath rowsAt
  cases found : env.storage.ensureTableMetaExists id with
  | error e =>
    cases asOf <;> simp [parquetSnapshotPath, parquetSnapshotPathAt, scanRows, found, Except.map,
      bind, Except.bind]
  | ok files =>
    have tables : env.storage.tables id = some files :=
      ensureTableMetaExists_ok found
    cases asOf with
    | none =>
      cases live : files.parquet with
      | none =>
        simp [parquetSnapshotPath, scanRows, found, live, attachScannedRowsAt,
          Except.map, bind, Except.bind, attachEmpty_eq, pure, Except.pure]
      | some rows =>
        have read : env.storage.readSnapshot id .live = some rows := by
          simp [readSnapshot, tables, contentAt, live]
        simp [parquetSnapshotPath, scanRows, found, live,
          Except.map, bind, Except.bind, attachParquet_eq read]
    | some ms =>
      cases resolved : resolveParquetSnapshotAt id files ms env.nowMs env.clockMs with
      | error e =>
        simp [parquetSnapshotPathAt, found, resolved, Except.map, bind,
          Except.bind]
      | ok path =>
        obtain ⟨rows, content⟩ := resolved_content resolved
        have read : env.storage.readSnapshot id path = some rows := by
          simp [readSnapshot, tables, content]
        simp [parquetSnapshotPathAt, found, resolved, content, Except.map,
          bind, Except.bind, attachParquet_eq read]

/-- Both ways of attaching a table whose rows are given end in the same multiset of rows. -/
def AttachedAlike (db : InMemoryDuckdb) (env : Surroundings) (table : CatalogTable)
    (id : TableId) (path : SnapshotPath) (quoted filter : String) (rows : List Row)
    (conn : Connection) : Prop :=
  ∃ fast slow fastRows slowRows,
    db.attachParquetTableAt env id quoted path filter conn = .ok fast ∧
    db.attachScannedRowsAt table quoted rows filter conn = .ok slow ∧
    fast (db.identifier quoted) = some fastRows ∧
    slow (db.identifier quoted) = some slowRows ∧ fastRows.Perm slowRows

section
variable {table : CatalogTable} {quoted filter : String} {rows : List Row}

variable (fits : ∀ row ∈ rows, row.cells.length = table.columns.length)
include fits

theorem attachScannedRowsAt_eq :
    db.attachScannedRowsAt table quoted rows filter conn =
      .ok (db.put conn quoted (if filter.isEmpty then rows
        else rows.filter fun row => db.satisfies filter row ≠ some false)) := by
  have inserted : db.insertScannedRowsAt table quoted rows (db.createOrReplaceTable conn quoted) =
      .ok (db.put conn quoted rows) := by
    have whole : rows.findIdx? (fun row => row.cells.length ≠ table.columns.length) = none := by
      simpa using fits
    simp only [insertScannedRowsAt, whole]
    simp [insertInto, createOrReplaceTable]
  cases rows with
  | nil => simp [attachScannedRowsAt, attachEmpty_eq, visible, pure, Except.pure]
  | cons row rest =>
    simp only [attachScannedRowsAt, inserted, bind, Except.bind, applyRowAccessFilterDelete]
    by_cases empty : filter.isEmpty <;> simp [empty, pure, Except.pure]

variable (found : env.storage.readSnapshot id path = some rows)
include found

theorem attachedAlike_iff_perm :
    AttachedAlike db env table id path quoted filter rows conn ↔
      (db.visible filter rows).Perm (if filter.isEmpty then rows
        else rows.filter fun row => db.satisfies filter row ≠ some false) := by
  unfold AttachedAlike
  rw [attachParquet_eq found, attachScannedRowsAt_eq conn fits]
  constructor
  · rintro ⟨_, _, _, _, ⟨⟩, ⟨⟩, fast, slow, same⟩
    simp only [put_same, Option.some.injEq] at fast slow
    rwa [fast, slow]
  · exact fun same => ⟨_, _, _, _, rfl, rfl, put_same .., put_same .., same⟩

/-- WHERE drops a row for which the filter is NULL, and DELETE WHERE NOT keeps it. -/
theorem attachedAlike_iff :
    AttachedAlike db env table id path quoted filter rows conn ↔
      filter.isEmpty ∨ ∀ row ∈ rows, db.satisfies filter row ≠ none := by
  rw [attachedAlike_iff_perm conn fits found]
  unfold visible
  by_cases empty : filter.isEmpty
  · simp [empty]
  simp only [empty, false_or, Bool.false_eq_true, if_false]
  constructor
  · intro same row member unknown
    have kept := same.mem_iff (a := row)
    simp [member, unknown] at kept
  · intro known
    apply List.Perm.of_eq
    apply filter_congr
    intro row member
    cases held : db.satisfies filter row with
    | none => exact absurd held (known row member)
    | some value => cases value <;> simp

end

/-- A table with the one column `region`, filtered by `region = 'US'`. -/
def regionDuckdb : InMemoryDuckdb where
  identifier := fun quoted => quoted
  satisfies := fun _ row => match row.cells with
    | [.string region] => some (region = "US")
    | _ => none

def regionTable : CatalogTable := ⟨"t", ["region"], .other, nofun⟩

def regionsStored (rows : List Row) : Surroundings where
  storage := ⟨fun _ _ => true, fun _ => some { schema := ⟨[]⟩, parquet := some rows, index := none }⟩
  nowMs := 0

theorem known_regions_attachedAlike :
    AttachedAlike regionDuckdb (regionsStored [⟨[.string "US"]⟩, ⟨[.string "EU"]⟩]) regionTable
      ⟨"p", "d", "t"⟩ .live "\"t\"" "region = 'US'" [⟨[.string "US"]⟩, ⟨[.string "EU"]⟩]
      fun _ => none :=
  (attachedAlike_iff _ (by simp [regionTable]) rfl).mpr (.inr (by simp [regionDuckdb]))

theorem null_region_not_attachedAlike :
    ¬ AttachedAlike regionDuckdb (regionsStored [⟨[.null]⟩]) regionTable ⟨"p", "d", "t"⟩ .live
      "\"t\"" "region = 'US'" [⟨[.null]⟩] fun _ => none := by
  rw [attachedAlike_iff_perm _ (by simp [regionTable]) rfl]
  simp [visible, regionDuckdb]

def relationOf (db : InMemoryDuckdb) (id : TableId) : String :=
  db.identifier (quoteIdent id.tableId)

theorem attachTable_eq (stored : catalog.storageId pointer = some id) (conn : Connection) :
    db.attachTable catalog env collector conn pointer =
      (rowsAt env id (collector.systemTimeAsOfMs pointer)).map fun rows =>
        db.put conn (quoteIdent id.tableId)
          (db.visible ((collector.rowAccessFilterSql pointer).getD "") rows) := by
  obtain ⟨table, held, source, named⟩ := GoogleSqlCatalog.storageId_heap stored
  unfold attachTable
  simp only [held, source]
  rw [attachStorageTable_eq, named]

variable {tables : List Pointer}

theorem attached_relation {conn after : Connection}
    (stored : ∀ pointer ∈ tables, ∃ id, catalog.storageId pointer = some id)
    (attached : tables.foldlM (db.attachTable catalog env collector) conn = .ok after)
    (relation : String) :
    (∃ pointer ∈ tables, ∃ id rows, catalog.storageId pointer = some id ∧
      relationOf db id = relation ∧ rowsAt env id (collector.systemTimeAsOfMs pointer) = .ok rows ∧
      after relation =
        some (db.visible ((collector.rowAccessFilterSql pointer).getD "") rows)) ∨
    ((∀ pointer ∈ tables, ∀ id, catalog.storageId pointer = some id → relationOf db id ≠ relation) ∧
      after relation = conn relation) := by
  induction tables generalizing conn with
  | nil =>
    cases attached
    exact .inr ⟨fun _ member => (by cases member), rfl⟩
  | cons pointer rest ih =>
    obtain ⟨middle, first, second⟩ := bind_ok attached
    obtain ⟨id, held⟩ := stored pointer (.head _)
    rw [attachTable_eq held] at first
    rcases ih (forall_mem_cons.mp stored).2 second with
      ⟨other, member, found⟩ | ⟨free, kept⟩
    · exact .inl ⟨other, .tail _ member, found⟩
    obtain ⟨rows, loaded, rfl⟩ := map_ok_iff.mp first
    by_cases same : relationOf db id = relation
    · refine .inl ⟨pointer, .head _, id, rows, held, same, loaded, ?_⟩
      rw [kept, ← same]
      exact put_same _ _ _
    · refine .inr ⟨forall_mem_cons.mpr ⟨fun otherId otherHeld => ?_, free⟩, ?_⟩
      · cases held.symm.trans otherHeld
        exact same
      · rw [kept, put, if_neg (fun equal => same equal.symm)]

theorem attached_iff (stored : ∀ pointer ∈ tables, ∃ id, catalog.storageId pointer = some id) :
    (∃ after, tables.foldlM (db.attachTable catalog env collector) conn = .ok after) ↔
      ∀ pointer ∈ tables, ∀ id, catalog.storageId pointer = some id →
        ∃ rows, rowsAt env id (collector.systemTimeAsOfMs pointer) = .ok rows := by
  induction tables generalizing conn with
  | nil => exact ⟨fun _ _ member => (by cases member), fun _ => ⟨conn, rfl⟩⟩
  | cons pointer rest ih =>
    obtain ⟨id, held⟩ := stored pointer (.head _)
    have later := fun conn => ih conn (forall_mem_cons.mp stored).2
    rw [forall_mem_cons]
    constructor
    · rintro ⟨after, attached⟩
      obtain ⟨middle, first, second⟩ := bind_ok attached
      refine ⟨?_, (later middle).mp ⟨after, second⟩⟩
      intro other otherHeld
      cases held.symm.trans otherHeld
      rw [attachTable_eq held] at first
      obtain ⟨rows, loaded, -⟩ := map_ok_iff.mp first
      exact ⟨rows, loaded⟩
    · rintro ⟨loads, others⟩
      obtain ⟨rows, loaded⟩ := loads id held
      rw [foldlM_cons, attachTable_eq held, loaded]
      exact (later _).mpr others

end

section

variable {db : InMemoryDuckdb} {catalog : GoogleSqlCatalog}

/-- The table scans, each with the WITH entries in scope where it stands. -/
def Scan.places (db : InMemoryDuckdb) : Scan → List String → List (List String × TableScan)
  | .tableScan scan, scope => [(scope, scan)]
  | .filterScan _ first second, scope | .compound _ _ first second, scope =>
    first.places db scope ++ second.places db scope
  | .withScan name recursive subquery body, scope =>
    let inner := db.identifier (quoteIdent name) :: scope
    subquery.places db (if recursive then inner else scope) ++ body.places db inner
  | .withRefScan _, _ | .singleRowScan, _ => []

theorem places_tableScans (db : InMemoryDuckdb) (query : Scan) (scope : List String) :
    (query.places db scope).map Prod.snd = query.tableScans := by
  induction query generalizing scope with
  | tableScan _ | withRefScan _ | singleRowScan => rfl
  | filterScan _ _ _ firstIH secondIH | withScan _ _ _ _ firstIH secondIH
  | compound _ _ _ _ firstIH secondIH =>
    simp only [Scan.places, Scan.tableScans, map_append, firstIH, secondIH]

def readScan (db : InMemoryDuckdb) (catalog : GoogleSqlCatalog) (conn : Connection)
    (place : List String × TableScan) : Option (List Row) :=
  (catalog.heap place.2.table).bind fun table =>
    let relation := db.identifier (quoteIdent table.name)
    if relation ∈ place.1 then none else conn relation

theorem readScan_storage {id : TableId}
    (stored : catalog.storageId place.2.table = some id) (conn : Connection) :
    readScan db catalog conn place =
      if relationOf db id ∈ place.1 then none else conn (relationOf db id) := by
  obtain ⟨table, held, -, named⟩ := GoogleSqlCatalog.storageId_heap stored
  simp only [readScan, held, Option.bind_some, named]
  rfl

theorem reads_places (emitted : emitScan catalog query = some sql) (conn : Connection)
    (scope : List String) :
    sql.reads db conn scope = (query.places db scope).map (readScan db catalog conn) := by
  induction query generalizing sql scope with
  | tableScan scan =>
    simp only [emitScan, emitTableScan, Option.bind_eq_bind, Option.bind_eq_some_iff,
      Option.pure_def, Option.some.injEq] at emitted
    obtain ⟨table, held, projections, -, rfl⟩ := emitted
    simp only [Sql.reads, Scan.places, map_cons, map_nil, readScan, held,
      Option.bind_some]
  | filterScan suffixes input condition inputIH conditionIH =>
    simp only [emitScan, Option.bind_eq_bind, Option.bind_eq_some_iff, Option.pure_def,
      Option.some.injEq] at emitted
    obtain ⟨first, firstEmitted, second, secondEmitted, rfl⟩ := emitted
    simp only [Sql.reads, Scan.places, map_append, inputIH firstEmitted,
      conditionIH secondEmitted]
  | withScan name recursive subquery body subqueryIH bodyIH =>
    simp only [emitScan, Option.bind_eq_bind, Option.bind_eq_some_iff, Option.pure_def] at emitted
    obtain ⟨first, firstEmitted, second, secondEmitted, named⟩ := emitted
    split at named
    · cases named
    · cases named
      simp only [Sql.reads, Scan.places, map_append, subqueryIH firstEmitted,
        bodyIH secondEmitted]
  | withRefScan name =>
    simp only [emitScan] at emitted
    split at emitted
    · cases emitted
    · cases emitted
      rfl
  | singleRowScan =>
    cases emitted
    rfl
  | compound kind covered left right leftIH rightIH =>
    simp only [emitScan, Option.bind_eq_bind, Option.bind_eq_some_iff, Option.pure_def] at emitted
    obtain ⟨first, firstEmitted, second, secondEmitted, lowered⟩ := emitted
    split at lowered
    · cases lowered
      simp only [Sql.reads, Scan.places, map_append, leftIH firstEmitted,
        rightIH secondEmitted]
    · cases lowered

end
end BigQueryEmulator.Engine
