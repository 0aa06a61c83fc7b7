import BigQueryEmulator.Storage.Tables

/-! What a mutation does to the rows of every table. A call that succeeds changes
one table's rows, a call that fails changes none, and whether it succeeds depends
on the catalog alone, which no row mutation changes. -/
namespace BigQueryEmulator.Storage.DuckDBStorage
variable {st : DuckDBStorage} {id : TableId} {rows : List Row} {env : MutationEnv} {e : Status}

/-- The same datasets and tables with the same schemas; rows and versions may differ. -/
def SameCatalog (a b : DuckDBStorage) : Prop :=
  a.datasetExists = b.datasetExists ∧
    ∀ table, (a.tables table).map TableFiles.schema = (b.tables table).map TableFiles.schema

theorem SameCatalog.refl (st : DuckDBStorage) : SameCatalog st st := ⟨rfl, fun _ => rfl⟩

theorem ensureTableMetaExists_ok (present : st.ensureTableMetaExists id = .ok files) :
    st.tables id = some files := by
  unfold ensureTableMetaExists at present
  split at present
  · split at present
    · rename_i found
      rw [found, Except.ok.inj present]
    · cases present
  · cases present

theorem liveRows_setTable (st : DuckDBStorage) (id : TableId) (files : TableFiles) (table : TableId) :
    (st.setTable id files).liveRows table =
      if table = id then files.parquet.getD [] else st.liveRows table := by
  unfold liveRows
  by_cases same : table = id
  · simp [same]
  · simp [setTable_other st files same, same]

theorem countRows_ok (st : DuckDBStorage) (ok : st.countRows id = .ok count) :
    count = (st.liveRows id).length := by
  obtain ⟨files, present, rfl⟩ := Fallible.map_ok_iff.mp ok
  rw [liveRows, ensureTableMetaExists_ok present]

/-- A write of a table's rows: after it the table holds `content`, or nothing has changed, and
the catalog is the same in both cases. -/
structure Writes (st : DuckDBStorage) (id : TableId) (content : List Row)
    (ran : DuckDBStorage × Except Status Unit) : Prop where
  ok : ran.2 = .ok () → ∀ table,
    ran.1.liveRows table = if table = id then content else st.liveRows table
  error : ∀ e, ran.2 = .error e → ∀ table, ran.1.liveRows table = st.liveRows table
  catalog : SameCatalog ran.1 st

theorem Writes.refused (st : DuckDBStorage) (e : Status) : Writes st id content (st, .error e) :=
  ⟨nofun, fun _ _ _ => rfl, .refl st⟩

theorem replaceParquet_writes (found : st.tables id = some files) (content : List Row) :
    Writes st id content (st.replaceParquet id files content env) := by
  have kept (next : TableFiles) (schema : next.schema = files.schema) :
      SameCatalog (st.setTable id next) st := by
    refine ⟨rfl, fun table => ?_⟩
    by_cases same : table = id
    · simp [same, found, schema]
    · rw [setTable_other st next same]
  unfold replaceParquet
  split
  · exact .refused st _
  split
  · refine ⟨nofun, fun _ _ table => ?_, kept _ (archived_schema files _ _)⟩
    rw [liveRows_setTable, archiveParquetBeforeReplace_parquet]
    split
    next same => rw [liveRows, same, found]
    next => rfl
  · refine ⟨fun _ table => ?_, nofun, kept _ (archived_schema files _ _)⟩
    simp [liveRows_setTable]

theorem appendRows_writes (st : DuckDBStorage) (id : TableId) (rows : List Row)
    (env : MutationEnv) :
    Writes st id (st.liveRows id ++ rows) (st.appendRows id rows env) := by
  unfold appendRows
  split
  · exact .refused st _
  next files present =>
    have found := ensureTableMetaExists_ok present
    split
    next empty =>
      refine ⟨fun _ table => ?_, nofun, .refl st⟩
      rw [List.isEmpty_iff.mp empty, List.append_nil]
      split
      next same => rw [same]
      next => rfl
    split
    · exact .refused st _
    · rw [liveRows, found]
      exact replaceParquet_writes found _

theorem overwriteRows_writes (st : DuckDBStorage) (id : TableId) (rows : List Row)
    (env : MutationEnv) : Writes st id rows (st.overwriteRows id rows env) := by
  unfold overwriteRows
  split
  · exact .refused st _
  next files present =>
    split
    · exact .refused st _
    · exact replaceParquet_writes (ensureTableMetaExists_ok present) rows

theorem SameCatalog.metadata (same : SameCatalog a b) (id : TableId) :
    (∃ e, a.ensureTableMetaExists id = .error e ∧ b.ensureTableMetaExists id = .error e) ∨
    ∃ files other, a.ensureTableMetaExists id = .ok files ∧
      b.ensureTableMetaExists id = .ok other ∧ files.schema = other.schema := by
  have schemas := same.2 id
  unfold ensureTableMetaExists
  rw [same.1]
  by_cases dataset : b.datasetExists id.projectId id.datasetId = true
  · cases left : a.tables id <;> cases right : b.tables id <;> simp_all
  · exact .inl ⟨_, if_neg dataset, if_neg dataset⟩

theorem SameCatalog.getSchema (same : SameCatalog a b) (id : TableId) :
    a.getSchema id = b.getSchema id := by
  unfold DuckDBStorage.getSchema
  rcases same.metadata id with ⟨e, left, right⟩ | ⟨files, other, left, right, schema⟩
  · rw [left, right]
  · rw [left, right]
    exact congrArg Except.ok schema

theorem appendRows_verdict {a b : DuckDBStorage} (same : SameCatalog a b) (id : TableId)
    (rows : List Row) (env : MutationEnv) :
    (a.appendRows id rows env).2 = (b.appendRows id rows env).2 := by
  unfold appendRows
  rcases same.metadata id with ⟨e, left, right⟩ | ⟨files, other, left, right, schema⟩
  · rw [left, right]
  rw [left, right]
  dsimp only
  rw [schema]
  split
  · rfl
  · split
    · rfl
    · unfold replaceParquet
      rw [schema]
      split
      · rfl
      · split <;> rfl

end BigQueryEmulator.Storage.DuckDBStorage
