import BigQueryEmulator.Gateway.Copy
import BigQueryEmulator.Gateway.LoadedColumns

/-! Which copy jobs leave the rows of their sources in the destination, once each, and report
their number. -/
namespace BigQueryEmulator.Gateway
open Storage (Status Value Row TableId)
open Effects Fallible Work
open List hiding after all count
variable {M : Type} {env : CopyEnv} {w u v t x : World M} {job : CopyJob} {id source : TableId}

def Store.rows (st : Store) (id : TableId) : List Row := ((st.tables id).map Table.rows).getD []

/-- The table that a source names: a live one, or with a decorator an earlier one. -/
def sourceTable (env : CopyEnv) (st : Store) (source : TableId) : Option Table :=
  match parseDecorator env.now source.tableId with
  | none => st.tables source
  | some (base, epoch) =>
    (env.snapshots { source with tableId := base } epoch).or
      (env.asOf { source with tableId := base } epoch)

def sourceRows (env : CopyEnv) (st : Store) (sources : List TableId) : List Row :=
  sources.flatMap fun source => ((sourceTable env st source).map Table.rows).getD []

def CopyJob.kept (job : CopyJob) (st : Store) : List Row :=
  if job.writeDisposition = "WRITE_APPEND" then st.rows job.destination else []

theorem tableExists_ok {env : Env} (ok : outcome (tableExists env id) u = (.ok there, t)) :
    t = { u with calls := u.calls + 1 } ∧
      (there = true → ∃ table, u.store.tables id = some table) := by
  obtain ⟨answer, ran, exist⟩ := tableExists_answers env id u
  rw [ran] at ok
  cases ok
  exact ⟨rfl, exist⟩

theorem copyPages_ok_iff :
    outcome (copyPages env id rounds start) u = (.ok cells, t) ↔
      outcome (listPages env.toEnv id rounds start) u = (.ok cells, t) := by
  induction rounds generalizing start u t cells with
  | zero => rfl
  | succ rounds ih =>
    rw [copyPages, listPages, Work.bind_ok_iff, Work.bind_ok_iff]
    refine exists_congr fun answer => exists_congr fun v => and_congr wrapped_ok_iff.symm ?_
    dsimp only
    split
    · rfl
    split
    · rfl
    · rw [Work.bind_ok_iff, Work.bind_ok_iff]
      exact exists_congr fun others => exists_congr fun y => and_congr ih Iff.rfl

theorem readSource_ok (ok : outcome (readSource env source) u = (.ok (fields, cells), t)) :
    t.store = u.store ∧ ∃ table, sourceTable env u.store source = some table ∧
      fields = table.fields ∧
      table.rows.mapM (fun row => env.db.valuesToCells row.cells) = .ok cells := by
  unfold readSource at ok
  unfold sourceTable
  cases decorated : parseDecorator env.now source.tableId with
  | some decorator =>
    obtain ⟨base, epoch⟩ := decorator
    rw [decorated] at ok
    dsimp only at ok ⊢
    cases kept : env.snapshots { source with tableId := base } epoch with
    | none =>
      rw [kept] at ok
      cases ok
    | some table =>
      rw [kept] at ok
      obtain ⟨rows, v, listed, ok⟩ := Work.bind_ok_iff.mp ok
      obtain ⟨read, rfl⟩ := Prod.mk.inj listed
      cases ok
      exact ⟨rfl, table, rfl, rfl, read⟩
  | none =>
    rw [decorated] at ok
    obtain ⟨described, v, asked, ok⟩ := Work.bind_ok_iff.mp ok
    obtain ⟨⟨table, stored, rfl⟩, rfl⟩ := describeTable_ok (wrapped_ok_iff.mp asked)
    obtain ⟨rounds, _, looked, ok⟩ := Work.bind_ok_iff.mp ok
    cases looked
    obtain ⟨rows, y, paged, ok⟩ := Work.bind_ok_iff.mp ok
    cases ok
    obtain ⟨store, -, listed⟩ := listPages_ok (by omega) (copyPages_ok_iff.mp paged)
    exact ⟨store, table, stored, rfl, listed table stored⟩

/-- Every source has a table, whose columns are those of the schema by name, type and mode. -/
def Alike (env : CopyEnv) (st : Store) (schema : List Field) (sources : List TableId) : Prop :=
  ∀ source ∈ sources, ∃ table, sourceTable env st source = some table ∧
    schemasCompatible schema table.fields = true

theorem sourceRows_cons (there : sourceTable env st source = some table) :
    sourceRows env st (source :: sources) = table.rows ++ sourceRows env st sources := by
  rw [sourceRows, flatMap_cons, there]
  rfl

theorem readSources_ok
    (ok : outcome (readSources env sources schema rows bytes) u = (.ok (merged, all, size), t)) :
    t.store = u.store ∧ merged = schema ∧ Alike env u.store schema sources ∧
      ∃ more, all = rows ++ more ∧
        (sourceRows env u.store sources).mapM (fun row => env.db.valuesToCells row.cells) =
          .ok more := by
  induction sources generalizing u rows bytes with
  | nil =>
    cases ok
    exact ⟨rfl, rfl, (fun _ among => nomatch among), [], (append_nil _).symm, rfl⟩
  | cons source rest ih =>
    obtain ⟨⟨fields, cells⟩, v, read, ok⟩ := Work.bind_ok_iff.mp ok
    obtain ⟨store, table, there, rfl, listed⟩ := readSource_ok read
    dsimp only at ok
    split at ok
    next compatible =>
      obtain ⟨same, rfl, alike, more, rfl, others⟩ := ih ok
      rw [store] at same alike others
      refine ⟨same, rfl, forall_mem_cons.mpr ⟨⟨table, there, compatible⟩, alike⟩, cells ++ more,
        append_assoc .., ?_⟩
      rw [sourceRows_cons there]
      exact mapM_append_ok listed others
    next => cases ok

/-- The columns of the first source. -/
def firstColumns (env : CopyEnv) (job : CopyJob) (st : Store) : List Field :=
  ((job.sources.head?.bind (sourceTable env st)).map Table.fields).getD []

theorem readAll_ok (ok : outcome (readAll env job.sources) u = (.ok (schema, all, size), t)) :
    t.store = u.store ∧ Alike env u.store schema job.sources ∧
      firstColumns env job u.store = schema ∧
      (sourceRows env u.store job.sources).mapM (fun row => env.db.valuesToCells row.cells) =
        .ok all := by
  unfold firstColumns
  cases listed : job.sources with
  | nil =>
    rw [listed] at ok
    cases ok
  | cons source rest =>
    rw [listed] at ok
    obtain ⟨⟨fields, cells⟩, v, read, ok⟩ := Work.bind_ok_iff.mp ok
    obtain ⟨store, table, there, rfl, first⟩ := readSource_ok read
    obtain ⟨same, rfl, alike, more, rfl, others⟩ := readSources_ok ok
    rw [store] at same alike others
    refine ⟨same, forall_mem_cons.mpr ⟨⟨table, there, ?_⟩, alike⟩, ?_, ?_⟩
    · unfold schemasCompatible
      exact decide_eq_true rfl
    · simp [there]
    · rw [sourceRows_cons there]
      exact mapM_append_ok first others

theorem copyRowToMap_eq (shaped : cells.length = schema.length) :
    copyRowToMap schema cells = protoRowToMap schema cells := by
  rw [protoRowToMap_eq shaped]
  rfl

/-- The columns have different names, and every row has a value for each. -/
structure Shaped (table : Table) : Prop where
  distinct : (table.fields.map Field.name).Nodup
  width : ∀ row ∈ table.rows, row.cells.length = table.fields.length

/-- What becomes of a value that is sent as a text and put into a column. -/
def resentValue (db : DuckDb) (column : Field) (value : Value) : Except Status Value := do
  let cell ← db.valueToCell value
  storeColumn db column (cellToValue (carriedCell cell))

def resentRow (db : DuckDb) (columns : List Field) (row : Row) : Except Status Row :=
  ((columns.zip row.cells).mapM fun entry => resentValue db entry.1 entry.2).map Row.mk

theorem resent_iff {db : DuckDb} {columns : List Field} {values : List Value}
    (width : values.length = columns.length) :
    ((columns.zip values).mapM fun entry => resentValue db entry.1 entry.2) = .ok stored ↔
      ∃ cells, db.valuesToCells values = .ok cells ∧
        db.storeFields columns (cells.map fun cell => cellToValue (carriedCell cell)) = .ok stored := by
  induction columns generalizing values stored with
  | nil =>
    obtain rfl := eq_nil_of_length_eq_zero width
    exact ⟨fun ok => ⟨[], rfl, ok⟩, fun ⟨cells, sent, put⟩ => by cases sent; exact put⟩
  | cons column rest ih =>
    cases values with
    | nil => cases width
    | cons value values =>
      rw [zip_cons_cons, mapM_ok_iff, forall₂_cons_left_iff]
      constructor
      · rintro ⟨first, more, kept, keeps, rfl⟩
        obtain ⟨cell, read, kept⟩ := bind_ok_iff.mp kept
        obtain ⟨cells, reads, keeps⟩ := (ih (Nat.succ.inj width)).mp (mapM_ok_iff.mpr keeps)
        exact ⟨cell :: cells, bind_ok_iff.mpr ⟨cell, read, bind_ok_iff.mpr ⟨cells, reads, rfl⟩⟩,
          storeFields_cons_ok_iff.mpr ⟨first, more, kept, keeps, rfl⟩⟩
      · rintro ⟨cells, sent, put⟩
        obtain ⟨cell, read, sent⟩ := bind_ok_iff.mp sent
        obtain ⟨others, reads, sent⟩ := bind_ok_iff.mp sent
        cases sent
        obtain ⟨first, more, kept, keeps, rfl⟩ := storeFields_cons_ok_iff.mp put
        exact ⟨first, more, bind_ok_iff.mpr ⟨cell, read, kept⟩,
          mapM_ok_iff.mp ((ih (Nat.succ.inj width)).mpr ⟨others, reads, keeps⟩), rfl⟩
theorem resentRow_iff (go : Go) (shaped : Shaped table) (among : row ∈ table.rows)
    (compatible : schemasCompatible schema table.fields = true)
    (fits : schema.length = columns.length) :
    resentRow db columns row = .ok new ↔ ∃ cells, db.valuesToCells row.cells = .ok cells ∧
      Takes db go schema columns (copyRowToMap schema cells) new.cells := by
  have names : schema.map Field.name = table.fields.map Field.name := by
    have same := congrArg (map Prod.fst) (of_decide_eq_true compatible)
    rwa [map_map, map_map] at same
  have width : row.cells.length = schema.length := by
    have columns : schema.length = table.fields.length := by
      simpa using congrArg length names
    rw [shaped.width row among, columns]
  have laid {cells : List Cell} (sent : db.valuesToCells row.cells = .ok cells) :
      cellsToValues (rowToProto go schema (copyRowToMap schema cells)) =
        cells.map fun cell => cellToValue (carriedCell cell) := by
    have cells_width := (valuesToCells_length sent).trans width
    have merged := rowToProto_merged go (by rw [names]; exact shaped.distinct) cells_width
      rfl (show ∀ field ∈ ([] : List Field), _ from fun _ within => nomatch within)
    rw [append_nil, length_nil, replicate_zero, append_nil] at merged
    rw [copyRowToMap_eq cells_width, merged, cellsToValues_eq_map, map_map]
    rfl
  rw [resentRow, map_ok_iff]
  constructor
  · rintro ⟨stored, resent, rfl⟩
    obtain ⟨cells, sent, put⟩ := (resent_iff (width.trans fits)).mp resent
    exact ⟨cells, sent, fits, by rwa [laid sent]⟩
  · rintro ⟨cells, sent, -, put⟩
    rw [laid sent] at put
    exact ⟨new.cells, (resent_iff (width.trans fits)).mpr ⟨cells, sent, put⟩, rfl⟩

def CopyJob.Supported (job : CopyJob) : Prop :=
  job.writeDisposition = "WRITE_TRUNCATE" ∨ job.writeDisposition = "WRITE_EMPTY" ∨
    job.writeDisposition = "WRITE_APPEND"

/-- What the catalog leaves of the destination. A disposition that it does not know appends. -/
def CopyJob.left (job : CopyJob) (st : Store) : Option Table :=
  if job.writeDisposition = "WRITE_TRUNCATE" then none else st.tables job.destination

/-- The columns that the catalog inserts into. -/
def CopyJob.columns (job : CopyJob) (st : Store) (schema : List Field) : List Field :=
  ((job.left st).map Table.fields).getD (canonicalFields schema)

theorem copyDisposition_ok {schema : List Field}
    (ok : outcome (copyDisposition env job schema) u = (.ok (), t)) :
    t.store.rows job.destination = ((job.left u.store).map Table.rows).getD [] ∧
      (job.writeDisposition = "WRITE_EMPTY" → u.store.tables job.destination = none) ∧
      ∀ table, t.store.tables job.destination = some table →
        table.fields = job.columns u.store schema := by
  obtain ⟨there, v, looked, ok⟩ := Work.bind_ok_iff.mp ok
  obtain ⟨rfl, exist⟩ := tableExists_ok looked
  have left : (job.writeDisposition ≠ "WRITE_TRUNCATE" ∧ job.writeDisposition ≠ "WRITE_EMPTY") ∧
        t.store.tables = u.store.tables ∨
      job.left u.store = none ∧
        (job.writeDisposition = "WRITE_EMPTY" → u.store.tables job.destination = none) ∧
        ∃ y, outcome (registerTable env.toEnv job.destination schema) y = (.ok (), t) := by
    split at ok
    next truncates =>
      refine .inr ⟨if_pos truncates, fun empties => ?_, ?_⟩
      · rw [truncates] at empties
        exact absurd empties (by decide)
      · split at ok
        · obtain ⟨_, y, -, registered⟩ := Work.bind_ok_iff.mp ok
          exact ⟨y, registered⟩
        · exact ⟨_, ok⟩
    next not_truncate =>
      have absent {y : World M} (ran : outcome (registerTable env.toEnv job.destination schema)
          { u with calls := u.calls + 1 } = (.ok (), y)) : u.store.tables job.destination = none :=
        (registerTable_ok_iff.mp ran).2.1
      split at ok
      next =>
        split at ok
        · cases ok
        · exact .inr ⟨(if_neg not_truncate).trans (absent ok), fun _ => absent ok, _, ok⟩
      next not_empty =>
        split at ok
        · cases ok
          exact .inl ⟨⟨not_truncate, not_empty⟩, rfl⟩
        obtain ⟨answer, y, tried, ok⟩ := Work.bind_ok_iff.mp ok
        rw [outcome_attempt] at tried
        rcases ran : outcome (registerTable env.toEnv job.destination schema)
          { u with calls := u.calls + 1 } with ⟨registered, z⟩
        rw [ran] at tried
        cases tried
        cases registered with
        | ok _ =>
          cases ok
          exact .inr ⟨(if_neg not_truncate).trans (absent ran), fun _ => absent ran, _, ran⟩
        | error status =>
          dsimp only at ok
          split at ok
          · cases ok
            exact .inl ⟨⟨not_truncate, not_empty⟩, by rw [rpc_failed ran]⟩
          · cases ok
  rcases left with ⟨⟨not_truncate, not_empty⟩, same⟩ | ⟨gone, fresh, y, ran⟩
  · rw [CopyJob.columns, CopyJob.left, if_neg not_truncate, Store.rows, same]
    exact ⟨rfl, fun empties => absurd empties not_empty, fun table stored => by simp [stored]⟩
  · obtain ⟨rfl, -⟩ := registerTable_ok_iff.mp ran
    rw [CopyJob.columns, gone, Store.rows, Store.put_same]
    refine ⟨rfl, fresh, fun table same => ?_⟩
    cases same
    rfl

/-- The rows that the catalog makes of those of the sources. -/
def recopied (env : CopyEnv) (job : CopyJob) (st : Store) : Except Status (List Row) :=
  (sourceRows env st job.sources).mapM
    (resentRow env.db (job.columns st (firstColumns env job st)))

def AllShaped (env : CopyEnv) (job : CopyJob) (st : Store) : Prop :=
  ∀ source ∈ job.sources, ∀ table, sourceTable env st source = some table → Shaped table

theorem executeCatalogCopy_ok (shaped : AllShaped env job u.store)
    (ok : outcome (executeCatalogCopy env job) u = (.ok result, t)) :
    ∃ new, recopied env job u.store = .ok new ∧
      t.store.rows job.destination = ((job.left u.store).map Table.rows).getD [] ++ new ∧
      result.copiedRows = new.length ∧
      (job.writeDisposition = "WRITE_EMPTY" → u.store.tables job.destination = none) := by
  obtain ⟨⟨schema, cells, bytes⟩, v, read, ok⟩ := Work.bind_ok_iff.mp ok
  obtain ⟨store, alike, first, sent⟩ := readAll_ok read
  obtain ⟨_, y, ensured, ok⟩ := Work.bind_ok_iff.mp ok
  have tables : y.store.tables = u.store.tables := by
    rw [((ensureDataset_ensures (Still.refl v)).of_ok ensured).tables, store]
  obtain ⟨_, z, disposed, ok⟩ := Work.bind_ok_iff.mp ok
  obtain ⟨rows, fresh, columns⟩ := copyDisposition_ok disposed
  have left : job.left y.store = job.left u.store := by
    rw [CopyJob.left, CopyJob.left, tables]
  rw [CopyJob.columns, left] at columns
  obtain ⟨count, x, inserted, ok⟩ := Work.bind_ok_iff.mp ok
  cases ok
  obtain ⟨rfl, -, nothing, new, length, stored, put⟩ := insertRows_ok inserted
  have after : t.store.rows job.destination = z.store.rows job.destination ++ new := by
    rw [Store.rows, Store.rows, stored]
    cases before : z.store.tables job.destination with
    | none =>
      rw [nothing before] at length
      rw [eq_nil_of_length_eq_zero length]
      rfl
    | some table => rfl
  refine ⟨new, ?_, by rw [after, rows, left], by rw [length], by rw [← tables]; exact fresh⟩
  have sent := mapM_ok_iff.mp sent
  rw [recopied, first]
  refine mapM_ok_iff.mpr ?_
  cases stored : z.store.tables job.destination with
  | none =>
    have no_rows := nothing stored
    obtain rfl : cells = [] := map_eq_nil_iff.mp no_rows
    obtain rfl : new = [] := eq_nil_of_length_eq_zero (by rw [length, no_rows]; rfl)
    rw [forall₂_nil_right_iff.mp sent]
    exact .nil
  | some destination =>
    have put := put destination stored
    rw [forall₂_map_left_iff] at put
    have within : ∀ row ∈ sourceRows env u.store job.sources,
        row ∈ sourceRows env u.store job.sources := fun _ among => among
    refine ((forall₂_and_left _ _).mpr ⟨within, forall₂_compose.mpr ⟨cells, sent, put⟩⟩).imp ?_
    rintro row added ⟨among, sent_row, read_row, put_row⟩
    obtain ⟨source, listed, among⟩ := mem_flatMap.mp among
    obtain ⟨table, there, compatible⟩ := alike source listed
    rw [there] at among
    rw [columns destination stored] at put_row
    exact (resentRow_iff env.go (shaped source listed table there) among compatible put_row.1).mpr
      ⟨sent_row, read_row, put_row⟩

/-- The statement is executed. -/
structure Executed (env : CopyEnv) (job : CopyJob) (u v : World M) (after : Store) : Prop where
  allowed : outcome (checkCreateDisposition env job) u = (.ok (), v)
  started : env.starts = none
  executed : (buildCopySql env job >>= fun sql =>
    serveCopySql env job.destination.projectId sql u.store) = .ok after

def Answered (env : CopyEnv) (job : CopyJob) (v : World M) (after : Store) : Prop :=
  env.ends = none ∧ ∃ result t,
    outcome (countDestinationRows env job.destination) { v with store := after } = (.ok result, t)

theorem checkCreateDisposition_store
    (ran : outcome (checkCreateDisposition env job) u = (answer, v)) : v.store = u.store := by
  unfold checkCreateDisposition at ran
  split at ran
  · obtain ⟨there, looked, -⟩ := tableExists_answers env.toEnv job.destination u
    rw [outcome_bind_ok looked] at ran
    split at ran
    · cases ran
      rfl
    · cases ran
      rfl
  · cases ran
    rfl

theorem countDestinationRows_failed
    (failed : outcome (countDestinationRows env id) u = (.error status, t)) :
    t.store = u.store := by
  unfold countDestinationRows at failed
  rcases listed : outcome (listRows env.toEnv id 0 0) u with ⟨answer, y⟩
  cases answer with
  | ok page =>
    rw [outcome_bind_ok listed] at failed
    cases failed
  | error error =>
    rw [outcome_bind_error listed] at failed
    cases failed
    rw [rpc_failed listed]

/-- The ends of the copy by SQL: the statement is executed and its answer arrives, or it is executed
and its answer is lost, or it is not executed. -/
inductive SqlEnd (env : CopyEnv) (job : CopyJob) (u : World M) :
    Except Status CopyResult × World M → Prop where
  | answered {v after result t} (done : Executed env job u v after)
      (arrived : Answered env job v after) (store : t.store = after)
      (count : result.copiedRows = (after.rows job.destination).length) :
      SqlEnd env job u (.ok result, t)
  | lost {v after status t} (done : Executed env job u v after)
      (silent : ¬ Answered env job v after) (store : t.store = after) :
      SqlEnd env job u (.error status, t)
  | refused {status t} (never : ∀ v after, ¬ Executed env job u v after)
      (store : t.store = u.store) : SqlEnd env job u (.error status, t)

theorem executeSqlCopy_ends (env : CopyEnv) (job : CopyJob) (u : World M) :
    SqlEnd env job u (outcome (executeSqlCopy env job) u) := by
  unfold executeSqlCopy
  rcases checked : outcome (checkCreateDisposition env job) u with ⟨answer, v⟩
  have store := checkCreateDisposition_store checked
  cases answer with
  | error status =>
    rw [outcome_bind_error checked]
    refine .refused (fun y after done => ?_) store
    cases checked.symm.trans done.allowed
  | ok _ =>
    rw [outcome_bind_ok checked]
    cases built : buildCopySql env job with
    | error status =>
      refine .refused (fun y after done => ?_) store
      obtain ⟨sql, same, -⟩ := bind_ok_iff.mp done.executed
      cases built.symm.trans same
    | ok sql =>
      rw [outcome_bind_ok (show outcome (Work.step (.ok sql)) v = (.ok sql, v) from rfl),
        outcome_bind]
      unfold executeQuery
      rw [outcome]
      cases started : env.starts with
      | some status =>
        refine .refused (fun y after done => ?_) store
        cases started.symm.trans done.started
      | none =>
        rw [store]
        cases served : serveCopySql env job.destination.projectId sql u.store with
        | error status =>
          refine .refused (fun y after done => ?_) store
          obtain ⟨other, same, again⟩ := bind_ok_iff.mp done.executed
          cases built.symm.trans same
          cases served.symm.trans again
        | ok after =>
          have done : Executed env job u v after :=
            ⟨checked, started, bind_ok_iff.mpr ⟨sql, built, served⟩⟩
          cases ended : env.ends with
          | some status =>
            refine .lost done (fun arrived => ?_) rfl
            cases ended.symm.trans arrived.1
          | none =>
            dsimp only
            rcases counted : outcome (countDestinationRows env job.destination)
              { v with store := after } with ⟨answer, t⟩
            cases answer with
            | ok result =>
              obtain ⟨⟨rows, total⟩, y, listed, ok⟩ := Work.bind_ok_iff.mp counted
              obtain ⟨table, stored, rfl, -, rfl⟩ := listRows_ok_iff listed
              cases ok
              refine .answered done ⟨ended, _, _, counted⟩ rfl ?_
              rw [Store.rows, stored]
              rfl
            | error status =>
              refine .lost done (fun arrived => ?_) (countDestinationRows_failed counted)
              obtain ⟨-, result, y, ok⟩ := arrived
              cases counted.symm.trans ok

/-- The table that a source's dataset and name mean in the project of the destination, now. -/
def namesake (env : CopyEnv) (job : CopyJob) (st : Store) (source : TableId) : Option Table :=
  st.tables ⟨job.destination.projectId, source.datasetId, (selectOf env source).2.1⟩

/-- These tables together. -/
def namesakes (env : CopyEnv) (job : CopyJob) (st : Store) : Table :=
  (unionAll env (job.sources.filterMap (namesake env job st))).toOption.getD ⟨[], []⟩

/-- Their rows, in the columns of the table to which they are appended or of a new one. -/
def namesakeRows (env : CopyEnv) (job : CopyJob) (st : Store) : List Row :=
  if job.writeDisposition = "WRITE_APPEND" then
    (namesakes env job st).rows.map (env.coerce (namesakes env job st).fields
      (((st.tables job.destination).map Table.fields).getD []))
  else (namesakes env job st).rows

theorem resolveSelect_ok (ok : resolveSelect job.destination.projectId st (selectOf env source) =
    .ok table) : namesake env job st source = some table := by
  have dataset : (selectOf env source).1 = source.datasetId := by
    unfold selectOf
    split <;> rfl
  rw [namesake, ← dataset]
  exact (findTable_ok_iff.mp ok).2

theorem resolved_namesakes {sources : List TableId} {tables : List Table}
    (resolved : (sources.map (selectOf env)).mapM
      (resolveSelect job.destination.projectId st) = .ok tables) :
    sources.filterMap (namesake env job st) = tables := by
  have each := mapM_ok_iff.mp resolved
  rw [forall₂_map_left_iff] at each
  clear resolved
  induction each with
  | nil => rfl
  | cons found _ ih => rw [filterMap_cons_some (resolveSelect_ok found), ih]

theorem buildCopySql_ok (built : buildCopySql env job = .ok sql) :
    job.Supported ∧ sql.dataset = job.destination.datasetId ∧
      sql.table = job.destination.tableId ∧ sql.selects = job.sources.map (selectOf env) ∧
      (sql.kind = .insert ↔ job.writeDisposition = "WRITE_APPEND") := by
  unfold buildCopySql at built
  unfold CopyJob.Supported
  by_cases truncates : job.writeDisposition = "WRITE_TRUNCATE"
  · rw [if_pos truncates] at built
    cases built
    simp [truncates]
  rw [if_neg truncates] at built
  by_cases empties : job.writeDisposition = "WRITE_EMPTY"
  · rw [if_pos empties] at built
    cases built
    simp [empties]
  rw [if_neg empties] at built
  by_cases appends : job.writeDisposition = "WRITE_APPEND"
  · rw [if_pos appends] at built
    cases built
    simp [appends]
  · rw [if_neg appends] at built
    cases built

theorem Executed.after_eq (done : Executed env job u v after) :
    job.Supported ∧ if job.writeDisposition = "WRITE_APPEND" then
        ∃ table, u.store.tables job.destination = some table ∧
          after = u.store.put job.destination
            (some ⟨table.fields, table.rows ++ namesakeRows env job u.store⟩)
      else after = u.store.put job.destination (some (namesakes env job u.store)) := by
  obtain ⟨⟨kind, dataset, name, selects⟩, built, served⟩ := bind_ok_iff.mp done.executed
  obtain ⟨supported, rfl, rfl, rfl, insert⟩ := buildCopySql_ok built
  refine ⟨supported, ?_⟩
  obtain ⟨tables, resolved, served⟩ := bind_ok_iff.mp served
  obtain ⟨united, union, served⟩ := bind_ok_iff.mp served
  have together : namesakes env job u.store = united := by
    rw [namesakes, resolved_namesakes resolved, union]
    rfl
  dsimp only at insert served
  split at served
  next =>
    obtain ⟨table, found, served⟩ := bind_ok_iff.mp served
    have stored : u.store.tables job.destination = some table := (findTable_ok_iff.mp found).2
    rw [if_pos (insert.mp rfl)]
    split at served
    · cases served
    · cases served
      refine ⟨table, stored, ?_⟩
      rw [namesakeRows, if_pos (insert.mp rfl), together, stored]
      rfl
  next other =>
    rw [if_neg fun appends => other (insert.mpr appends)]
    split at served
    · split at served
      · cases served
      · obtain ⟨-, -, served⟩ := bind_ok_iff.mp served
        cases served
        rw [together]
    · cases served

/-- The destination holds the rows that stay and then every row of every source, and their number
is reported. -/
structure Copied (env : CopyEnv) (job : CopyJob) (before after : Store) (result : CopyResult) :
    Prop where
  rows : after.rows job.destination =
    job.kept before ++ sourceRows env before job.sources
  count : result.copiedRows = (sourceRows env before job.sources).length

/-- The text of every value in the sources is read in its column of the destination as the value. -/
def AllExact (env : CopyEnv) (job : CopyJob) (st : Store) : Prop :=
  ∀ row ∈ sourceRows env st job.sources,
    resentRow env.db (job.columns st (firstColumns env job st)) row = .ok row

theorem recopied_iff : recopied env job st = .ok (sourceRows env st job.sources) ↔
    AllExact env job st := by
  rw [recopied, mapM_ok_iff, forall₂_same]
  rfl

/-- Where the answer of the statement arrives, the tables of the sources' names in the destination's
project have the rows of the sources, and no old row stays. Where it is lost, the catalog copies once
more: these tables have no rows to append, or the sources still have the same rows after they have
replaced the destination. Where the statement is not executed, the catalog copies exact values only,
and keeps old rows also for a disposition that it does not know. -/
structure Faithful (env : CopyEnv) (job : CopyJob) (u : World M) (route : CopyRoute) : Prop where
  answered : ∀ v after, route ≠ .catalog → Executed env job u v after → Answered env job v after →
    namesakeRows env job u.store = sourceRows env u.store job.sources ∧ job.kept u.store = []
  lost : ∀ v after, route ≠ .catalog → Executed env job u v after → ¬ Answered env job v after →
    if job.writeDisposition = "WRITE_APPEND" then
      namesakeRows env job u.store = [] ∧ AllExact env job u.store
    else recopied env job (u.store.put job.destination (some (namesakes env job u.store))) =
      .ok (sourceRows env u.store job.sources)
  refused : (route = .catalog ∨ ∀ v after, ¬ Executed env job u v after) →
    (job.Supported ∨ u.store.rows job.destination = []) ∧ AllExact env job u.store

theorem left_eq_kept_iff (fresh : job.writeDisposition = "WRITE_EMPTY" →
    st.tables job.destination = none) :
    ((job.left st).map Table.rows).getD [] = job.kept st ↔
      job.Supported ∨ st.rows job.destination = [] := by
  unfold CopyJob.left CopyJob.kept CopyJob.Supported Store.rows
  by_cases truncates : job.writeDisposition = "WRITE_TRUNCATE"
  · simp [truncates]
  by_cases appends : job.writeDisposition = "WRITE_APPEND"
  · simp [appends]
  by_cases empties : job.writeDisposition = "WRITE_EMPTY"
  · simp [empties, fresh empties]
  · simp [truncates, appends, empties]

theorem catalog_copied_iff (shaped : AllShaped env job u.store)
    (ok : outcome (executeCatalogCopy env job) u = (.ok result, t)) :
    Copied env job u.store t.store result ↔
      (job.Supported ∨ u.store.rows job.destination = []) ∧ AllExact env job u.store := by
  obtain ⟨new, resent, rows, count, fresh⟩ := executeCatalogCopy_ok shaped ok
  rw [← left_eq_kept_iff fresh, ← recopied_iff, resent, Except.ok.injEq]
  constructor
  · rintro ⟨same, number⟩
    rw [rows] at same
    exact append_inj' same (count.symm.trans number)
  · rintro ⟨same, rfl⟩
    exact ⟨by rw [rows, same], count⟩

theorem Store.put_self {st : Store} (stored : st.tables id = some table) :
    st.put id (some table) = st := by
  have same : (fun other => if other = id then some table else st.tables other) = st.tables := by
    funext other
    split
    next here => rw [here, stored]
    next => rfl
  rw [Store.put, same]

theorem lost_copied_iff (done : Executed env job u v after) (store : x.store = after)
    (shaped : AllShaped env job after)
    (ok : outcome (executeCatalogCopy env job) x = (.ok result, t)) :
    Copied env job u.store t.store result ↔
      if job.writeDisposition = "WRITE_APPEND" then
        namesakeRows env job u.store = [] ∧ AllExact env job u.store
      else recopied env job (u.store.put job.destination (some (namesakes env job u.store))) =
        .ok (sourceRows env u.store job.sources) := by
  obtain ⟨supported, left⟩ := done.after_eq
  obtain ⟨new, resent, rows, count, fresh⟩ := executeCatalogCopy_ok (store ▸ shaped) ok
  rw [store] at resent rows fresh
  by_cases appends : job.writeDisposition = "WRITE_APPEND"
  · rw [if_pos appends] at left ⊢
    obtain ⟨table, was, rfl⟩ := left
    have kept : job.kept u.store = table.rows := by
      rw [CopyJob.kept, if_pos appends, Store.rows, was]
      rfl
    have left : job.left (u.store.put job.destination
        (some ⟨table.fields, table.rows ++ namesakeRows env job u.store⟩)) =
        some ⟨table.fields, table.rows ++ namesakeRows env job u.store⟩ := by
      rw [CopyJob.left, if_neg (by rw [appends]; decide), Store.put_same]
    rw [left, Option.map_some, Option.getD_some, append_assoc] at rows
    -- nothing was appended, so that the catalog has found the tables as they were
    have still (none_added : namesakeRows env job u.store = []) :
        AllExact env job u.store ↔ new = sourceRows env u.store job.sources := by
      rw [none_added, append_nil, Store.put_self was] at resent
      rw [← recopied_iff, resent, Except.ok.injEq]
    constructor
    · rintro ⟨same, number⟩
      rw [rows, kept] at same
      have all : namesakeRows env job u.store ++ new = [] ++ sourceRows env u.store job.sources :=
        append_cancel_left same
      obtain ⟨none_added, copied⟩ := append_inj' all (count.symm.trans number)
      exact ⟨none_added, (still none_added).mpr copied⟩
    · rintro ⟨none_added, exact_⟩
      obtain rfl := (still none_added).mp exact_
      exact ⟨by rw [rows, kept, none_added]; rfl, count⟩
  · rw [if_neg appends] at left ⊢
    subst left
    have truncates : job.writeDisposition = "WRITE_TRUNCATE" :=
      supported.resolve_right fun other => other.elim
        (fun empties => by simpa using fresh empties) appends
    have kept : job.kept u.store = [] := if_neg appends
    rw [CopyJob.left, if_pos truncates] at rows
    rw [resent, Except.ok.injEq]
    constructor
    · rintro ⟨same, -⟩
      rw [rows, kept] at same
      exact same
    · rintro rfl
      exact ⟨by rw [rows, kept]; rfl, count⟩

theorem anyLiveDecorated_store {sources : List TableId}
    (ok : outcome (anyLiveDecorated env sources) u = (.ok live, t)) : t.store = u.store := by
  induction sources generalizing u with
  | nil =>
    cases ok
    rfl
  | cons source rest ih =>
    unfold anyLiveDecorated at ok
    split at ok
    · exact ih ok
    split at ok
    · exact ih ok
    obtain ⟨there, v, looked, ok⟩ := Work.bind_ok_iff.mp ok
    obtain ⟨rfl, -⟩ := tableExists_ok looked
    split at ok
    · cases ok
      rfl
    · exact (ih ok).trans rfl

theorem chooseRoute_store (ok : outcome (chooseRoute env job) w = (.ok route, u)) :
    u.store = w.store := by
  obtain ⟨_, v, checked, ok⟩ := Work.bind_ok_iff.mp ok
  obtain ⟨live, y, decided, ok⟩ := Work.bind_ok_iff.mp ok
  have same : y.store = v.store := by
    unfold shouldUseSqlCopy at decided
    split at decided
    · exact anyLiveDecorated_store decided
    · cases decided
      rfl
  have last : u = y := by
    repeat' split at ok
    all_goals
      cases ok
      rfl
  rw [last, same, checkCreateDisposition_store checked]

theorem Executed.rows (done : Executed env job u v after) :
    after.rows job.destination = job.kept u.store ++ namesakeRows env job u.store := by
  obtain ⟨-, left⟩ := done.after_eq
  rw [CopyJob.kept]
  split at left
  next appends =>
    obtain ⟨table, was, rfl⟩ := left
    rw [if_pos appends, Store.rows, Store.rows, Store.put_same, was]
    rfl
  next other =>
    rw [left, if_neg other, namesakeRows, if_neg other, Store.rows, Store.put_same]
    rfl

theorem answered_copied_iff (done : Executed env job u v after) (store : t.store = after)
    (count : result.copiedRows = (after.rows job.destination).length) :
    Copied env job u.store t.store result ↔
      namesakeRows env job u.store = sourceRows env u.store job.sources ∧
        job.kept u.store = [] := by
  rw [done.rows] at count
  constructor
  · rintro ⟨same, number⟩
    rw [store, done.rows] at same
    have all := append_cancel_left same
    refine ⟨all, eq_nil_of_length_eq_zero ?_⟩
    rw [count, length_append, all] at number
    omega
  · rintro ⟨all, none_kept⟩
    refine ⟨by rw [store, done.rows, all], ?_⟩
    rw [count, none_kept, all]
    rfl

theorem Executed.unique (done : Executed env job u v after)
    (again : Executed env job u y left) : v = y ∧ after = left :=
  ⟨(Prod.mk.inj (done.allowed.symm.trans again.allowed)).2,
    Except.ok.inj (done.executed.symm.trans again.executed)⟩

section
variable {route : CopyRoute}

theorem faithful_answered (done : Executed env job u v after) (arrived : Answered env job v after)
    (asked : route ≠ .catalog) :
    Faithful env job u route ↔
      namesakeRows env job u.store = sourceRows env u.store job.sources ∧
        job.kept u.store = [] := by
  refine ⟨fun faithful => faithful.answered v after asked done arrived, fun same =>
    ⟨fun _ _ _ _ _ => same, fun y left _ again silent => ?_, ?_⟩⟩
  · obtain ⟨rfl, rfl⟩ := done.unique again
    exact absurd arrived silent
  · rintro (catalog | never)
    · exact absurd catalog asked
    · exact absurd done (never v after)

theorem faithful_lost (done : Executed env job u v after) (silent : ¬ Answered env job v after)
    (asked : route ≠ .catalog) :
    Faithful env job u route ↔
      if job.writeDisposition = "WRITE_APPEND" then
        namesakeRows env job u.store = [] ∧ AllExact env job u.store
      else recopied env job (u.store.put job.destination (some (namesakes env job u.store))) =
        .ok (sourceRows env u.store job.sources) := by
  refine ⟨fun faithful => faithful.lost v after asked done silent, fun same =>
    ⟨fun y left _ again arrived => ?_, fun _ _ _ _ _ => same, ?_⟩⟩
  · obtain ⟨rfl, rfl⟩ := done.unique again
    exact absurd arrived silent
  · rintro (catalog | never)
    · exact absurd catalog asked
    · exact absurd done (never v after)

theorem faithful_refused
    (never : route = .catalog ∨ ∀ v after, ¬ Executed env job u v after) :
    Faithful env job u route ↔
      (job.Supported ∨ u.store.rows job.destination = []) ∧ AllExact env job u.store := by
  have other {v : World M} {after : Store} (asked : route ≠ .catalog)
      (done : Executed env job u v after) : False :=
    never.elim asked fun never => never v after done
  exact ⟨fun faithful => faithful.refused never, fun same =>
    ⟨fun _ _ asked done _ => (other asked done).elim,
      fun _ _ asked done _ => (other asked done).elim, fun _ => same⟩⟩

end

/-- An engine in which nothing has to be coerced. -/
def copyEnv : CopyEnv where
  toEnv := sampleEnv
  unionColumns
    | [] => .error ⟨.invalidArgument, "Syntax error"⟩
    | first :: _ => .ok first
  coerce _ _ row := row
  refuses _ _ := none
  asOf _ _ := none

/-- The table measures in two projects, with different rows. -/
def copyWorld : World Unit where
  store := ⟨fun _ _ => true, fun id =>
    if id = sampleId then some (measures 0x3fe0000000000000)
    else if id = { sampleId with projectId := "q" } then some (measures 0x400921fb53c8d4f1)
    else none⟩
  metadata := fun _ => none
  calls := 0

/-- A copy of the table measures of the project into the table out of the project p. -/
def copyMeasures (project : String) : CopyConfig where
  sourceTable := some { sampleId with projectId := project }
  destinationTable := some { sampleId with tableId := "out" }

def measuresCopy : CopyJob := ⟨[sampleId], { sampleId with tableId := "out" }, "WRITE_EMPTY", ""⟩

end BigQueryEmulator.Gateway
