import BigQueryEmulator.Gateway.KeptRows

/-! What a load job, a query job or a patch leaves of its destination when one of its calls
fails. -/
namespace BigQueryEmulator.Gateway
open Storage (Status TableId)
open Effects Fallible Work
variable {M α : Type} {env : Env} {w u t : World M} {id : TableId} {table : Table}

def Rewrites (db : DuckDb) (table : Table) (merging : Except Status (List Field × Bool)) : Prop :=
  (∃ merged, merging = .ok (merged, true)) ∧
    ∀ row ∈ table.rows, ∃ cells, db.valuesToCells row.cells = .ok cells

theorem Rewrites.asked (rewrites : Rewrites db table (mergeSchemas old load opts false)) :
    opts ≠ [] := by
  rintro rfl
  obtain ⟨⟨merged, merge⟩, -⟩ := rewrites
  cases load <;> cases merge

/-- The schemas with which the job may read its sources. Where it asks for the schema of the
destination, a call that fails counts as no schema. -/
def LoadJob.Reads (job : LoadJob) (stored : Option Table) (schema : List Field) : Prop :=
  if job.schema.isEmpty && !job.autodetect then
    schema = [] ∨ ∃ table, stored = some table ∧ schema = schemaFromProto table.fields
  else schema = job.schema

/-- The job may stop between two changes of its destination. -/
def LoadJob.Exposed (db : DuckDb) (job : LoadJob) (stored : Option Table) : Prop :=
  job.destination.tableId ≠ "" ∧ job.hasSources = true ∧
    ∃ read schema rows, job.Reads stored read ∧ job.parse read = .ok (schema, rows) ∧
      match stored with
      | some table => job.disposition = "WRITE_TRUNCATE" ∨ job.disposition = "WRITE_APPEND" ∧
          Rewrites db table (mergeSchemas (schemaFromProto table.fields)
            (job.explicit schema) job.schemaUpdateOptions false)
      | none => rows ≠ [] ∧ Registrable db job.destination (schema.getD [])

def QueryJob.Exposed (db : DuckDb) (job : QueryJob) (stored : Option Table) : Prop :=
  match stored with
  | some table => job.disposition = "WRITE_TRUNCATE" ∨ job.disposition = "WRITE_APPEND" ∧
      Rewrites db table (mergeSchemas (schemaFromProto table.fields) (some job.resultSchema)
        job.schemaUpdateOptions false)
  | none => Registrable db job.destination job.resultSchema ∧
      (job.rows ≠ [] ∧ job.disposition ∈ ["WRITE_TRUNCATE", "WRITE_EMPTY", "WRITE_APPEND"] ∨
        job.rows = [] ∧ job.disposition = "WRITE_APPEND" ∧ job.schemaUpdateOptions ≠ [])

/-- The metadata are changed before anything is checked, or the table may be left between two
changes. -/
def PatchRequest.Exposed (db : DuckDb) (request : PatchRequest M) (stored : Option Table)
    (metadata : Option M) : Prop :=
  request.refused = none ∧
    (some (request.overlay metadata) ≠ metadata ∨
      ∃ table merged, stored = some table ∧ request.schema ≠ [] ∧
        mergeSchemas (request.restSchema table.fields) (some request.schema)
          tablePatchSchemaOptions true = .ok (merged, true) ∧
        Rewrites db table (mergeSchemas (schemaFromProto table.fields) (some merged)
          tablePatchSchemaOptions false))

/-- No table and no metadata were touched. -/
structure Still (w u : World M) : Prop where
  tables : u.store.tables = w.store.tables
  metadata : u.metadata = w.metadata

def Gone (id : TableId) (w : World M) : Prop := w.store.tables id = none

theorem Still.refl (w : World M) : Still w w := ⟨rfl, rfl⟩

abbrev Rests (w : World M) (work : Client M α) (u : World M) : Prop :=
  Ensures work u (fun _ t => Still w t) (Still w)

theorem rpc_failed (failed : outcome (rpc env call serve) u = (.error status, t)) :
    t = { u with calls := u.calls + 1 } := by
  unfold outcome rpc at failed
  split at failed
  next => exact (Prod.mk.inj failed).2.symm
  next =>
    split at failed
    next => cases failed
    next => exact (Prod.mk.inj failed).2.symm

theorem rpc_ensures (unchanged : bad { u with calls := u.calls + 1 })
    (served : ∀ answer t, outcome (rpc env call serve) u = (.ok answer, t) → good answer t) :
    Ensures (rpc env call serve) u good bad :=
  .of_outcome served fun _ _ failed => rpc_failed failed ▸ unchanged

theorem wrapped_ensures (done : Ensures work u good bad) :
    Ensures (wrapped what work) u good bad := by
  unfold Ensures outcome at done ⊢
  rw [wrapped]
  rcases ran : work u with ⟨answer, t⟩
  rw [ran] at done
  cases answer <;> exact done

theorem describeTable_ensures (still : Still w u) :
    Ensures (describeTable env id) u (fun fields t => Still w t ∧
      ∃ table, w.store.tables id = some table ∧ fields = table.fields) (Still w) := by
  refine rpc_ensures ⟨still.tables, still.metadata⟩ fun fields t ok => ?_
  obtain ⟨⟨table, stored, rfl⟩, rfl⟩ := describeTable_ok ok
  rw [still.tables] at stored
  exact ⟨⟨still.tables, still.metadata⟩, table, stored, rfl⟩

theorem tableExists_answers (env : Env) (id : TableId) (u : World M) :
    ∃ there, outcome (tableExists env id) u = (.ok there, { u with calls := u.calls + 1 }) ∧
      (there = true → ∃ table, u.store.tables id = some table) := by
  rw [tableExists, outcome_bind, outcome_attempt]
  rcases ran : outcome (describeTable env id) u with ⟨described, y⟩
  cases described with
  | ok fields =>
    obtain ⟨⟨table, stored, -⟩, rfl⟩ := describeTable_ok ran
    exact ⟨true, rfl, fun _ => ⟨table, stored⟩⟩
  | error status =>
    rw [rpc_failed ran]
    exact ⟨false, rfl, fun there => absurd there Bool.false_ne_true⟩

theorem tableExists_ensures (still : Still w u) :
    Ensures (tableExists env id) u (fun there t => Still w t ∧
      (there = true → ∃ table, w.store.tables id = some table)) (Still w) := by
  obtain ⟨there, ran, exist⟩ := tableExists_answers env id u
  rw [Ensures, ran, ← still.tables]
  exact ⟨⟨still.tables, still.metadata⟩, exist⟩

theorem ensureDataset_ensures (still : Still w u) :
    Rests w (ensureDataset env project dataset) u := by
  have registered : Rests w (registerDataset env project dataset) u := by
    refine rpc_ensures ⟨still.tables, still.metadata⟩ fun _ t ok => ?_
    obtain ⟨-, st, served, rfl⟩ := rpc_ok_iff.mp ok
    unfold serveRegisterDataset at served
    split at served
    · cases served
    split at served
    · cases served
    split at served
    · cases served
    cases served
    exact ⟨still.tables, still.metadata⟩
  refine registered.attempt.bind fun answer t done => ?_
  cases answer with
  | ok _ => exact .pure (done.1 () rfl)
  | error status =>
    have same := done.2 status rfl
    dsimp only
    split
    · exact .pure same
    · exact .throw same

variable {schema : List Field}

theorem insertRows_ensures (still : Still w u) :
    Ensures (insertRows env id schema rows) u (fun _ _ => True) (Still w) := by
  unfold insertRows
  split
  · exact .pure trivial
  · have inserted : Ensures (rpc env .insertRows
        (serveInsertRows env.db id (rows.map (rowToProto env.go schema)))) u (fun _ _ => True)
        (Still w) := rpc_ensures ⟨still.tables, still.metadata⟩ fun _ _ _ => trivial
    exact (wrapped_ensures inserted).bind fun _ _ _ => .pure trivial

/-- The disposition changes nothing, or it makes a table where there was none. -/
theorem applyWriteDisposition_ensures (still : Still w u)
    (fresh : disposition = "WRITE_TRUNCATE" → w.store.tables id = none) :
    Ensures (applyWriteDisposition env disposition id schema) u
      (fun _ t => Still w t ∨ w.store.tables id = none ∧ Registrable env.db id schema)
      (Still w) := by
  refine (tableExists_ensures still).bind fun there t ⟨same, exist⟩ => ?_
  have registered : Ensures (registerTable env id schema) t
      (fun _ _ => w.store.tables id = none ∧ Registrable env.db id schema) (Still w) := by
    refine rpc_ensures ⟨same.tables, same.metadata⟩ fun _ t ok => ?_
    obtain ⟨-, missing, registrable, -⟩ := registerTable_ok_iff.mp ok
    exact ⟨same.tables ▸ missing, registrable⟩
  split
  next truncate =>
    split
    next found =>
      obtain ⟨table, stored⟩ := exist found
      rw [fresh truncate] at stored
      cases stored
    next => exact registered.imp fun _ _ now => .inr now
  next =>
    split
    next =>
      split
      next => exact .throw same
      next => exact registered.imp fun _ _ now => .inr now
    next =>
      split
      next => exact .pure (.inl same)
      refine registered.attempt.bind fun answer v done => ?_
      cases answer with
      | ok _ => exact .pure (.inr (done.1 () rfl))
      | error status =>
        dsimp only
        split
        · exact .pure (.inl (done.2 status rfl))
        · exact .throw (done.2 status rfl)

theorem listPages_ensures (still : Still w u) :
    Rests w (listPages env id rounds start) u := by
  induction rounds generalizing start u with
  | zero => exact .pure still
  | succ rounds ih =>
    have listed : Rests w (listRows env id start 10000) u := by
      refine rpc_ensures ⟨still.tables, still.metadata⟩ fun _ t ok => ?_
      obtain ⟨_, -, -, -, rfl⟩ := listRows_ok_iff ok
      exact ⟨still.tables, still.metadata⟩
    refine (wrapped_ensures listed).bind fun ⟨rows, total⟩ t same => ?_
    dsimp only
    split
    · exact .pure same
    · split
      · exact .pure same
      · exact (ih same).bind fun _ _ again => .pure again

theorem listAllRows_ensures (still : Still w u) (stored : w.store.tables id = some table) :
    Ensures (listAllRows env id schema) u (fun _ t => Still w t ∧
      ∀ row ∈ table.rows, ∃ cells, env.db.valuesToCells row.cells = .ok cells) (Still w) := by
  refine .bind_look ?_
  have paged : Ensures (listPages env id (rowCount u.store id + 1) 0) u (fun _ t => Still w t ∧
      ∀ row ∈ table.rows, ∃ cells, env.db.valuesToCells row.cells = .ok cells) (Still w) := by
    refine .of_outcome (fun cells t ok => ?_) fun status t failed => ?_
    · obtain ⟨store, metadata, read⟩ := listPages_ok (by omega) ok
      refine ⟨⟨store ▸ still.tables, metadata ▸ still.metadata⟩, ?_⟩
      exact mapM_succeeds_iff.mp ⟨cells, read table (still.tables ▸ stored)⟩
    · exact (listPages_ensures still).of_error failed
  exact paged.bind fun _ _ now => .pure now

theorem updateTable_ensures (still : Still w u) (stored : w.store.tables id = some table)
    (calm : ¬ Rewrites env.db table merging) :
    Rests w (updateTable env id table.fields unchanged merging) u := by
  refine .bind_step still fun ⟨merged, changed⟩ merge => ?_
  dsimp only
  split
  next changes =>
    refine (listAllRows_ensures still stored).bind fun rows t ⟨_, listed⟩ => ?_
    exact absurd ⟨⟨merged, by rw [merge, changes]⟩, listed⟩ calm
  next => exact .pure still

theorem applySchemaUpdate_ensures (still : Still w u)
    (calm : ∀ table, w.store.tables id = some table → ¬ Rewrites env.db table
      (mergeSchemas (schemaFromProto table.fields) querySchema opts false)) :
    Rests w (applySchemaUpdate env id querySchema opts) u := by
  refine (wrapped_ensures (describeTable_ensures still)).bind fun fields t described => ?_
  obtain ⟨same, table, stored, rfl⟩ := described
  split
  · exact .pure same
  · exact updateTable_ensures same stored (calm table stored)

theorem resolveDestinationSchema_ensures (still : Still w u)
    (calm : ∀ table, w.store.tables id = some table → cfg.disposition = "WRITE_APPEND" →
      ¬ Rewrites env.db table (mergeSchemas (schemaFromProto table.fields)
        (cfg.explicit loadSchema) cfg.schemaUpdateOptions
        false)) :
    Ensures (resolveDestinationSchema env cfg id loadSchema) u
      (fun schema t => Still w t ∧ (w.store.tables id = none → schema = loadSchema.getD []))
      (Still w) := by
  unfold resolveDestinationSchema
  split
  next => exact .pure ⟨still, fun _ => rfl⟩
  next asked =>
    refine (tableExists_ensures still).bind fun there t ⟨same, _⟩ => ?_
    split
    next => exact .pure ⟨same, fun _ => rfl⟩
    refine (wrapped_ensures (describeTable_ensures same)).bind fun fields v described => ?_
    obtain ⟨again, table, stored, rfl⟩ := described
    have appends : cfg.disposition = "WRITE_APPEND" := by
      by_contra other
      exact asked (.inl other)
    refine (updateTable_ensures again stored (calm table stored appends)).imp ?_
    exact fun schema x kept => ⟨kept, fun gone => by rw [gone] at stored; cases stored⟩

theorem loadParseSchema_ensures (still : Still w u) :
    Ensures (loadParseSchema env job) u
      (fun read t => Still w t ∧ job.Reads (w.store.tables job.destination) read) (Still w) := by
  unfold loadParseSchema LoadJob.Reads
  split
  next =>
    refine (tableExists_ensures still).bind fun there t ⟨same, _⟩ => ?_
    split
    next =>
      refine (describeTable_ensures same).attempt.bind fun answer v described => ?_
      cases answer with
      | ok fields =>
        obtain ⟨again, table, stored, rfl⟩ := described.1 fields rfl
        exact .pure ⟨again, .inr ⟨table, stored, rfl⟩⟩
      | error status => exact .pure ⟨described.2 status rfl, .inl rfl⟩
    next => exact .pure ⟨same, .inl rfl⟩
  next => exact .pure ⟨still, rfl⟩

theorem executeLoad_ensures (calm : ¬ job.Exposed env.db (w.store.tables job.destination)) :
    Ensures (executeLoad env job) w (fun _ _ => True) (Still w) := by
  have start := Still.refl w
  unfold executeLoad
  split
  next => exact .throw start
  next named =>
  split
  next => exact .throw start
  next sources =>
  refine (loadParseSchema_ensures start).bind fun read t ⟨same, reads⟩ => ?_
  refine .bind_step same fun ⟨schema, rows⟩ parsed => ?_
  have safe := fun more =>
    calm ⟨named, by simpa using sources, read, schema, rows, reads, parsed, more⟩
  refine (ensureDataset_ensures same).bind fun _ t same => ?_
  refine (resolveDestinationSchema_ensures same ?_).bind fun proto t ⟨same, unchanged⟩ => ?_
  · intro table stored appends rewrites
    exact safe (by rw [stored]; exact .inr ⟨appends, rewrites⟩)
  refine (applyWriteDisposition_ensures same ?_).bind fun _ t done => ?_
  · intro truncates
    cases stored : w.store.tables job.destination with
    | none => rfl
    | some table => exact absurd (by rw [stored]; exact .inl truncates) safe
  rcases done with same | ⟨fresh, registrable⟩
  · exact insertRows_ensures same
  obtain rfl := unchanged fresh
  have empty : rows = [] := by
    by_contra some_rows
    exact safe (by rw [fresh]; exact ⟨some_rows, registrable⟩)
  rw [empty]
  exact .pure trivial

theorem appendResults_ensures (calm : ¬ job.Exposed env.db (w.store.tables job.destination)) :
    Ensures (appendResults env job) w (fun _ _ => True) (Still w) := by
  have fresh (truncates : job.disposition = "WRITE_TRUNCATE") :
      w.store.tables job.destination = none := by
    cases stored : w.store.tables job.destination with
    | none => rfl
    | some table => exact absurd (by rw [stored]; exact .inl truncates) calm
  have unwritten (appends : job.disposition = "WRITE_APPEND") (table : Table)
      (stored : w.store.tables job.destination = some table) :
      ¬ Rewrites env.db table (mergeSchemas (schemaFromProto table.fields)
        (some job.resultSchema) job.schemaUpdateOptions false) := by
    intro rewrites
    exact calm (by rw [stored]; exact .inr ⟨appends, rewrites⟩)
  have made {t : World M} (more : job.rows ≠ [] ∧
        job.disposition ∈ ["WRITE_TRUNCATE", "WRITE_EMPTY", "WRITE_APPEND"] ∨
      job.rows = [] ∧ job.disposition = "WRITE_APPEND" ∧ job.schemaUpdateOptions ≠ [])
      (done : Still w t ∨ w.store.tables job.destination = none ∧
        Registrable env.db job.destination job.resultSchema) : Still w t := by
    rcases done with same | ⟨none_stored, registrable⟩
    · exact same
    · exact absurd (by rw [none_stored]; exact ⟨registrable, more⟩) calm
  unfold appendResults
  split
  next => exact .pure trivial
  next =>
  refine (ensureDataset_ensures (Still.refl w)).bind fun _ t same => ?_
  split
  next empty =>
    rw [List.isEmpty_iff] at empty
    unfold appendEmptyQueryDestination
    split
    next => exact (applyWriteDisposition_ensures same fresh).imp fun _ _ _ => trivial
    split
    next appends =>
      split
      next => exact .pure trivial
      next asked =>
        refine (wrapped_ensures (applyWriteDisposition_ensures same fun other =>
          absurd other (by decide))).bind fun _ t done => ?_
        have same := made (.inr ⟨empty, appends, asked⟩) done
        refine (applySchemaUpdate_ensures same (unwritten appends)).bind fun _ _ _ => ?_
        exact .pure trivial
    next => exact .pure trivial
  next some_rows =>
    have some_rows : job.rows ≠ [] := by simpa using some_rows
    have insert {t : World M} (proto : List Field) (same : Still w t) :
        Ensures (wrapped "query destination insert rows" (insertRows env job.destination proto
          (restRowsToMaps env.go job.resultSchema job.rows)) >>= fun _ => pure ()) t
          (fun _ _ => True) (Still w) :=
      (wrapped_ensures (insertRows_ensures same)).bind fun _ _ _ => .pure trivial
    unfold resolveDestinationProtoSchema
    split
    next appends =>
      refine .bind ?_ fun proto t same => insert proto same
      refine (wrapped_ensures (applyWriteDisposition_ensures same fun other =>
        absurd other (by decide))).bind fun _ t done => ?_
      have same := made (.inl ⟨some_rows, by simp [appends]⟩) done
      exact applySchemaUpdate_ensures same (unwritten appends)
    next =>
      split
      next other =>
        refine .bind ?_ fun proto t same => insert proto same
        refine (wrapped_ensures (applyWriteDisposition_ensures same fresh)).bind
          fun _ t done => ?_
        refine .pure (made (.inl ⟨some_rows, ?_⟩) done)
        rcases other with truncates | empties
        · simp [truncates]
        · simp [empties]
      next => exact .bind (.throw same) fun proto t same => insert proto same

theorem tablePatch_ensures (calm : ¬ request.Exposed env.db (w.store.tables request.destination)
      (w.metadata request.destination)) :
    Ensures (tablePatch env request) w (fun _ _ => True) (Still w) := by
  unfold tablePatch
  split
  next => exact .throw (Still.refl w)
  next accepted =>
  have kept : some (request.overlay (w.metadata request.destination)) =
      w.metadata request.destination := by
    by_contra changes
    exact calm ⟨accepted, .inl changes⟩
  have merged : Rests w (mergeTable request.destination request.overlay) w := by
    refine ⟨rfl, ?_⟩
    funext other
    change (if other = request.destination then _ else _) = _
    split
    next same => rw [kept, same]
    next => rfl
  refine merged.bind fun _ t same => ?_
  have synced : Rests w (syncPatchedTableSchema env request) t := by
    unfold syncPatchedTableSchema
    split
    next => exact .pure same
    next asked =>
      refine (describeTable_ensures same).bind fun fields v described => ?_
      obtain ⟨same, table, stored, rfl⟩ := described
      refine .bind_step same fun ⟨merged, changed⟩ merge => ?_
      dsimp only
      split
      next changes =>
        refine (applySchemaUpdate_ensures same ?_).bind fun _ _ now => .pure now
        intro other again rewrites
        cases Option.some.inj (stored.symm.trans again)
        rw [changes] at merge
        exact calm ⟨accepted, .inr ⟨table, merged, stored, by simpa using asked, merge, rewrites⟩⟩
      next => exact .pure same
  refine synced.bind fun _ t same => ?_
  exact (describeTable_ensures same).bind fun _ _ _ => .pure trivial

/-- From a call on, every call of one kind fails, and no call of another kind. -/
structure Breaks (env : Env) (broken : Call) (start : Nat) : Prop where
  fails : ∀ n, start ≤ n → ∃ status, env.fails n broken = some status
  serves : ∀ n, start ≤ n → ∀ call, call ≠ broken → env.fails n call = none

theorem Breaks.later {start later : Nat} (breaks : Breaks env broken start)
    (le : start ≤ later) : Breaks env broken later :=
  ⟨fun n from_here => breaks.fails n (le.trans from_here),
    fun n from_here => breaks.serves n (le.trans from_here)⟩

theorem Breaks.up (breaks : Breaks env broken u.calls) (other : call ≠ broken := by decide) :
    env.fails u.calls call = none :=
  breaks.serves _ le_rfl call other

theorem rpc_fails (down : env.fails u.calls call = some status) :
    Fails (rpc env call serve) u (fun t => t.store = u.store ∧ t.metadata = u.metadata) := by
  refine ⟨status, { u with calls := u.calls + 1 }, ?_, rfl, rfl⟩
  unfold outcome rpc
  rw [down]

theorem wrapped_fails (failed : Fails work u left) : Fails (wrapped what work) u left := by
  obtain ⟨status, t, ran, now⟩ := failed
  refine ⟨⟨status.code, what ++ ": " ++ status.message⟩, t, ?_, now⟩
  unfold outcome at ran ⊢
  rw [wrapped, ran]

theorem fails_imp (failed : Fails work u left) (weaken : ∀ t, left t → after t) :
    Fails work u after := by
  obtain ⟨status, t, ran, now⟩ := failed
  exact ⟨status, t, ran, weaken t now⟩

theorem validateTableRef_ok_iff {rpc : String} :
    validateTableRef rpc id = .ok () ↔
      id.projectId ≠ "" ∧ id.datasetId ≠ "" ∧ id.tableId ≠ "" := by
  unfold validateTableRef
  by_cases project : id.projectId = ""
  · simp [project]
  by_cases dataset : id.datasetId = ""
  · simp [project, dataset]
  by_cases name : id.tableId = "" <;> simp [project, dataset, name]

theorem Present.of_tables (present : Present w.store id table)
    (tables : u.store.tables = w.store.tables)
    (housed : u.store.datasets id.projectId id.datasetId = true) : Present u.store id table := by
  refine ⟨present.named, findTable_ok_iff.mpr ⟨housed, ?_⟩⟩
  rw [tables]
  exact present.stored

section
variable {merging : Except Status (List Field × Bool)} {unchanged : List Field}
  {opts : List String} {what : String} {rest : Client M α}
  (present : Present u.store id table)
include present

theorem describeTable_run (up : env.fails u.calls .describeTable = none) :
    outcome (describeTable env id) u = (.ok table.fields, { u with calls := u.calls + 1 }) := by
  refine rpc_ok_iff.mpr ⟨up, u.store, ?_, rfl⟩
  unfold serveDescribeTable
  rw [present.named, present.found]
  rfl

theorem dropTable_run (up : env.fails u.calls .dropTable = none) :
    outcome (dropTable env id) u =
      (.ok (), { u with store := u.store.put id none, calls := u.calls + 1 }) := by
  refine rpc_ok_iff.mpr ⟨up, u.store.put id none, ?_, rfl⟩
  unfold serveDropTable
  rw [validateTableRef_ok_iff.mpr (validateTableRef_ok_iff.mp present.named), present.found]
  rfl

theorem tableExists_run (up : env.fails u.calls .describeTable = none) :
    outcome (tableExists env id) u = (.ok true, { u with calls := u.calls + 1 }) := by
  rw [tableExists_outcome present, up]
  rfl

theorem append_passes (up : env.fails u.calls .describeTable = none) :
    outcome (applyWriteDisposition env "WRITE_APPEND" id schema) u =
      (.ok (), { u with calls := u.calls + 1 }) := by
  unfold applyWriteDisposition
  rw [outcome_bind_ok (tableExists_run present up)]
  rfl

theorem existingDestinationSchema_run (up : ∀ n, env.fails n .describeTable = none) :
    outcome (existingDestinationSchema env id) u =
      (.ok (schemaFromProto table.fields), { u with calls := u.calls + 1 + 1 }) := by
  have described := describeTable_run (u := { u with calls := u.calls + 1 }) present (up _)
  rw [existingDestinationSchema, outcome_bind_ok (tableExists_run present (up _)), if_pos rfl,
    outcome_bind, outcome_attempt, described]
  rfl

theorem resolveDestinationSchema_run {cfg : LoadConfig} {schema : Option (List Field)}
    (up : ∀ n, u.calls ≤ n → env.fails n .describeTable = none)
    (appends : cfg.disposition = "WRITE_APPEND") (asked : cfg.schemaUpdateOptions ≠ []) :
    outcome (resolveDestinationSchema env cfg id schema) u =
      outcome (updateTable env id table.fields (schemaFromProto table.fields)
        (mergeSchemas (schemaFromProto table.fields)
          (cfg.explicit schema) cfg.schemaUpdateOptions false))
        { u with calls := u.calls + 1 + 1 } := by
  have described := describeTable_run (u := { u with calls := u.calls + 1 }) present
    (up _ (Nat.le_succ _))
  unfold resolveDestinationSchema
  rw [if_neg (by rintro (other | none_asked); exacts [other appends, asked none_asked]),
    outcome_bind_ok (tableExists_run present (up _ le_rfl)), if_neg (by decide),
    outcome_bind_ok (wrapped_ok_iff.mpr described)]

theorem listPages_run (rounds start : Nat)
    (listed : ∀ row ∈ table.rows, ∃ cells, env.db.valuesToCells row.cells = .ok cells)
    (up : ∀ n, u.calls ≤ n → env.fails n .listRows = none) :
    ∃ rows t, outcome (listPages env id rounds start) u = (.ok rows, t) ∧ t.store = u.store ∧
      u.calls ≤ t.calls := by
  induction rounds generalizing start u with
  | zero => exact ⟨[], u, rfl, rfl, le_rfl⟩
  | succ rounds ih =>
    obtain ⟨cells, sent⟩ : ∃ cells, ((table.rows.drop start).take 10000).mapM
        (fun row => env.db.valuesToCells row.cells) = .ok cells :=
      mapM_succeeds_iff.mpr fun row among =>
        listed row (List.mem_of_mem_drop (List.mem_of_mem_take among))
    have page : outcome (listRows env id start 10000) u =
        (.ok (cells, table.rows.length), { u with calls := u.calls + 1 }) := by
      refine rpc_ok_iff.mpr ⟨up _ le_rfl, u.store, ?_, rfl⟩
      unfold serveListRows
      rw [validateTableRef_ok_iff.mpr (validateTableRef_ok_iff.mp present.named), present.found]
      change ((List.take 10000 (List.drop start table.rows)).mapM
        (fun row => env.db.valuesToCells row.cells) >>= _) = _
      rw [sent]
      rfl
    unfold listPages
    rw [outcome_bind_ok (wrapped_ok_iff.mpr page)]
    dsimp only
    split
    · exact ⟨[], _, rfl, rfl, Nat.le_succ _⟩
    split
    · exact ⟨cells, _, rfl, rfl, Nat.le_succ _⟩
    obtain ⟨others, t, ran, store, calls⟩ := ih (u := { u with calls := u.calls + 1 })
      present (start + cells.length) fun n later => up n (Nat.le_of_succ_le later)
    refine ⟨cells ++ others, t, ?_, store, Nat.le_of_succ_le calls⟩
    rw [outcome_bind_ok ran]
    rfl

variable (breaks : Breaks env .registerTable u.calls)
include breaks

/-- Between the drop and the registration there is no table. -/
theorem dropTable_fails (next : ∀ t : World M, Fails (registerTable env id schema) t (Gone id) →
      Fails rest t (Gone id)) :
    Fails (wrapped what (dropTable env id) >>= fun _ => rest) u
      (Gone id) := by
  have dropped := dropTable_run present breaks.up
  refine .after (wrapped_ok_iff.mpr dropped) (next _ ?_)
  obtain ⟨status, down⟩ := breaks.fails (u.calls + 1) (by omega)
  refine fails_imp (rpc_fails down) fun t ⟨store, _⟩ => ?_
  rw [Gone, store]
  exact Store.put_same _ _ _

theorem recreateTable_fails :
    Fails (recreateTable env id merged preserved) u (Gone id) :=
  dropTable_fails present breaks fun _ failed => .bind (wrapped_fails failed)

theorem updateTable_fails (rewrites : Rewrites env.db table merging) :
    Fails (updateTable env id table.fields unchanged merging) u
      (Gone id) := by
  obtain ⟨⟨merged, merge⟩, listed⟩ := rewrites
  obtain ⟨rows, t, paged, store, calls⟩ := listPages_run present (rowCount u.store id + 1) 0 listed
    fun n later => breaks.serves n later _ (by decide)
  have all : outcome (listAllRows env id table.fields) u =
      (.ok (rows.map (protoRowToMap table.fields)), t) := by
    unfold listAllRows
    rw [outcome_bind, outcome_look]
    dsimp only
    rw [outcome_bind_ok paged]
    rfl
  refine .after (by rw [outcome_step, merge]) ?_
  refine .after all ?_
  exact recreateTable_fails (store ▸ present) (breaks.later calls)

theorem applySchemaUpdate_fails (rewrites : Rewrites env.db table
      (mergeSchemas (schemaFromProto table.fields) (some schema) opts false)) :
    Fails (applySchemaUpdate env id (some schema) opts) u (Gone id) := by
  have described := describeTable_run present breaks.up
  refine .after (wrapped_ok_iff.mpr described) ?_
  split
  next none_asked => exact absurd (by simpa using none_asked) rewrites.asked
  next => exact updateTable_fails present (breaks.later (Nat.le_succ _)) rewrites

theorem truncate_fails :
    Fails (applyWriteDisposition env "WRITE_TRUNCATE" id schema) u
      (Gone id) := by
  have there := tableExists_run present breaks.up
  exact .after there (dropTable_fails present (breaks.later (Nat.le_succ _)) fun _ failed => failed)

end

theorem ensureDataset_run (named : project ≠ "" ∧ dataset ≠ "")
    (up : env.fails u.calls .registerDataset = none) :
    ∃ t, outcome (ensureDataset env project dataset) u = (.ok (), t) ∧
      t.store.tables = u.store.tables ∧ t.store.datasets project dataset = true ∧
      t.calls = u.calls + 1 := by
  unfold ensureDataset
  rw [outcome_bind, outcome_attempt]
  unfold registerDataset
  rw [outcome, rpc, up]
  unfold serveRegisterDataset
  rw [if_neg (by simpa using named.1), if_neg (by simpa using named.2)]
  by_cases housed : u.store.datasets project dataset = true
  · rw [if_pos housed]
    exact ⟨_, rfl, rfl, housed, rfl⟩
  · rw [if_neg housed]
    exact ⟨_, rfl, rfl, by simp, rfl⟩

theorem ensureDataset_present (present : Present u.store id table)
    (up : env.fails u.calls .registerDataset = none) :
    ∃ t, outcome (ensureDataset env id.projectId id.datasetId) u = (.ok (), t) ∧
      Present t.store id table ∧ t.calls = u.calls + 1 := by
  have named := validateTableRef_ok_iff.mp present.named
  obtain ⟨t, ran, tables, housed, calls⟩ := ensureDataset_run ⟨named.1, named.2.1⟩ up
  exact ⟨t, ran, present.of_tables tables housed, calls⟩

def unavailable : Status := ⟨.unavailable, "connection refused"⟩

/-- No call of the kind is served, nor the call of the number. -/
def failing (broken : Call) (number : Option Nat) (n : Nat) (call : Call) : Option Status :=
  if call = broken ∨ number = some n then some unavailable else none

variable (db : DuckDb) (go : Go)

theorem failing_breaks (broken : Call) (before : ∀ n, number = some n → n < start) :
    Breaks ⟨db, go, failing broken number⟩ broken start := by
  constructor
  · intro n _
    exact ⟨unavailable, if_pos (.inl rfl)⟩
  · intro n later call other
    refine if_neg ?_
    rintro (same | same)
    · exact other same
    · exact absurd (before n same) (by omega)

theorem always_breaks (broken : Call) (start : Nat) :
    Breaks ⟨db, go, failing broken none⟩ broken start :=
  failing_breaks db go broken fun _ same => nomatch same

variable {job : LoadJob}

/-- Each schema that the job may read with is the one that it reads with under some failures
before the failing registration. -/
theorem loadParseSchema_run {read : List Field}
    (present : Present u.store job.destination table) (reads : job.Reads (some table) read) :
    ∃ fails t, outcome (loadParseSchema ⟨db, go, fails⟩ job) u = (.ok read, t) ∧
      t.store = u.store ∧ Breaks ⟨db, go, fails⟩ .registerTable t.calls := by
  have open_breaks := always_breaks db go .registerTable
  unfold loadParseSchema
  unfold LoadJob.Reads at reads
  split at reads
  next asks =>
    rcases reads with rfl | ⟨_, ⟨⟩, rfl⟩
    · refine ⟨failing .registerTable (some u.calls), { u with calls := u.calls + 1 }, ?_, rfl, ?_⟩
      · rw [if_pos asks, existingDestinationSchema, outcome_bind, tableExists_outcome present]
        have down : failing .registerTable (some u.calls) u.calls .describeTable =
            some unavailable := if_pos (.inr rfl)
        dsimp only
        rw [down]
        rfl
      · refine failing_breaks db go .registerTable fun n same => ?_
        cases same
        exact Nat.lt_succ_self _
    · refine ⟨failing .registerTable none, { u with calls := u.calls + 1 + 1 }, ?_, rfl,
        open_breaks _⟩
      rw [if_pos asks]
      exact existingDestinationSchema_run present fun n =>
        (open_breaks n).serves n le_rfl _ (by decide)
  next given =>
    obtain rfl := reads
    exact ⟨failing .registerTable none, u, by rw [if_neg given]; rfl, rfl, open_breaks _⟩

theorem executeLoad_drops (present : Present w.store job.destination table)
    (exposed : job.Exposed db (some table)) :
    ∃ fails, Fails (executeLoad ⟨db, go, fails⟩ job) w
      (Gone job.destination) := by
  obtain ⟨named, sources, read, schema, rows, reads, parsed, more⟩ := exposed
  obtain ⟨fails, u, seen, store, breaks⟩ := loadParseSchema_run db go present reads
  refine ⟨fails, ?_⟩
  obtain ⟨v, housed, present, calls⟩ := ensureDataset_present (store ▸ present)
    breaks.up
  have breaks : Breaks ⟨db, go, fails⟩ .registerTable v.calls := breaks.later (by omega)
  unfold executeLoad
  rw [if_neg named, if_neg (by simp [sources])]
  refine .after seen (.after (by rw [outcome_step, parsed]) (.after housed ?_))
  rcases more with truncates | ⟨appends, rewrites⟩
  · have resolved : outcome (resolveDestinationSchema ⟨db, go, fails⟩ job.toLoadConfig
        job.destination schema) v = (.ok (schema.getD []), v) := by
      unfold resolveDestinationSchema
      rw [if_pos (.inl (by rw [truncates]; decide))]
      rfl
    refine .after resolved (.bind ?_)
    rw [truncates]
    exact truncate_fails present breaks
  · refine .bind ?_
    rw [Fails, resolveDestinationSchema_run present
      (fun n later => breaks.serves n later _ (by decide)) appends rewrites.asked]
    exact updateTable_fails present (breaks.later (by dsimp only; omega)) rewrites

theorem tableExists_missing (missing : u.store.tables id = none) :
    outcome (tableExists env id) u = (.ok false, { u with calls := u.calls + 1 }) := by
  obtain ⟨there, ran, exist⟩ := tableExists_answers env id u
  cases there with
  | false => exact ran
  | true =>
    obtain ⟨table, stored⟩ := exist rfl
    rw [missing] at stored
    cases stored

theorem applyWriteDisposition_run (disposition : String)
    (registrable : Registrable env.db id schema) (missing : u.store.tables id = none)
    (housed : u.store.datasets id.projectId id.datasetId = true)
    (up : env.fails (u.calls + 1) .registerTable = none) :
    outcome (applyWriteDisposition env disposition id schema) u =
      (.ok (), { u with store := u.store.put id (some ⟨canonicalFields schema, []⟩)
                        calls := u.calls + 1 + 1 }) := by
  have registered := (registerTable_ok_iff (w := { u with calls := u.calls + 1 })).mpr
    ⟨rfl, missing, registrable, up, housed⟩
  unfold applyWriteDisposition
  rw [outcome_bind_ok (tableExists_missing missing)]
  split
  · exact registered
  split
  · exact registered
  · rw [if_neg (by decide), outcome_bind, outcome_attempt, registered]
    rfl

theorem insertRows_fails (some_rows : rows ≠ [])
    (down : env.fails u.calls .insertRows = some status) :
    Fails (insertRows env id schema rows) u
      (fun t => t.store = u.store ∧ t.metadata = u.metadata) := by
  unfold insertRows
  rw [if_neg (by simpa using some_rows)]
  exact .bind (wrapped_fails (rpc_fails down))

theorem loadParseSchema_missing (env : Env) {read : List Field}
    (missing : u.store.tables job.destination = none) (reads : job.Reads none read) :
    ∃ t, outcome (loadParseSchema env job) u = (.ok read, t) ∧ t.store = u.store := by
  unfold loadParseSchema
  unfold LoadJob.Reads at reads
  split at reads
  next asks =>
    rcases reads with rfl | ⟨_, ⟨⟩, _⟩
    rw [if_pos asks, existingDestinationSchema, outcome_bind_ok (tableExists_missing missing)]
    exact ⟨_, rfl, rfl⟩
  next given =>
    obtain rfl := reads
    rw [if_neg given]
    exact ⟨u, rfl, rfl⟩

/-- A job whose destination was not there leaves an empty table. -/
theorem executeLoad_leaves
    (missing : w.store.tables job.destination = none) (exposed : job.Exposed db none) :
    Fails (executeLoad ⟨db, go, failing .insertRows none⟩ job) w
      (fun t => t.store.tables job.destination ≠ none) := by
  obtain ⟨named, sources, read, schema, rows, reads, parsed, some_rows, registrable⟩ := exposed
  have breaks := always_breaks db go .insertRows 0
  have names := validateTableRef_ok_iff.mp registrable.1
  obtain ⟨u, seen, store⟩ :=
    loadParseSchema_missing ⟨db, go, failing .insertRows none⟩ missing reads
  obtain ⟨v, ensured, tables, housed, -⟩ := ensureDataset_run (u := u) ⟨names.1, names.2.1⟩
    (breaks.serves u.calls (Nat.zero_le _) .registerDataset (by decide))
  have missing : v.store.tables job.destination = none := by rw [tables, store, missing]
  obtain ⟨x, resolved, store⟩ : ∃ x, outcome (resolveDestinationSchema
      ⟨db, go, failing .insertRows none⟩ job.toLoadConfig job.destination schema) v =
        (.ok (schema.getD []), x) ∧ x.store = v.store := by
    unfold resolveDestinationSchema
    split
    · exact ⟨v, rfl, rfl⟩
    · rw [outcome_bind_ok (tableExists_missing missing)]
      exact ⟨_, rfl, rfl⟩
  rw [← store] at missing housed
  have disposed := applyWriteDisposition_run (u := x) job.disposition registrable
    missing housed (breaks.serves _ (Nat.zero_le _) _ (by decide))
  unfold executeLoad
  rw [if_neg named, if_neg (by simp [sources])]
  refine .after seen (.after (by rw [outcome_step, parsed]) (.after ensured ?_))
  refine .after resolved (.after disposed ?_)
  obtain ⟨status, down⟩ := breaks.fails (x.calls + 1 + 1) (Nat.zero_le _)
  refine fails_imp (insertRows_fails some_rows down) fun t ⟨store, _⟩ => ?_
  rw [store, Store.put_same]
  simp

theorem appendResults_drops {job : QueryJob}
    (present : Present w.store job.destination table) (exposed : job.Exposed db (some table)) :
    Fails (appendResults ⟨db, go, failing .registerTable none⟩ job) w
      (Gone job.destination) := by
  have breaks := always_breaks db go .registerTable
  have names := validateTableRef_ok_iff.mp present.named
  obtain ⟨u, ensured, present, -⟩ := ensureDataset_present present
    (breaks _).up
  unfold appendResults
  rw [if_neg names.2.2]
  refine .after ensured ?_
  rcases exposed with truncates | ⟨appends, rewrites⟩
  · split
    · unfold appendEmptyQueryDestination
      rw [if_pos (.inl truncates), truncates]
      exact truncate_fails present (breaks _)
    · refine .bind ?_
      unfold resolveDestinationProtoSchema
      rw [if_neg (by rw [truncates]; decide), if_pos (.inl truncates), truncates]
      exact .bind (wrapped_fails (truncate_fails present (breaks _)))
  · have updated : Fails (applySchemaUpdate ⟨db, go, failing .registerTable none⟩ job.destination
        (some job.resultSchema) job.schemaUpdateOptions) { u with calls := u.calls + 1 }
        (Gone job.destination) :=
      applySchemaUpdate_fails present (breaks _) rewrites
    split
    · unfold appendEmptyQueryDestination
      rw [if_neg (by rw [appends]; decide), if_pos appends, if_neg rewrites.asked]
      exact .after (wrapped_ok_iff.mpr (append_passes present (breaks _).up)) (.bind updated)
    · refine .bind ?_
      unfold resolveDestinationProtoSchema
      rw [if_pos appends]
      exact .after (wrapped_ok_iff.mpr (append_passes present (breaks _).up)) updated

theorem appendResults_leaves {job : QueryJob}
    (missing : w.store.tables job.destination = none) (exposed : job.Exposed db none) :
    ∃ fails, Fails (appendResults ⟨db, go, fails⟩ job) w
      (fun t => t.store.tables job.destination ≠ none) := by
  obtain ⟨registrable, asked⟩ := exposed
  have names := validateTableRef_ok_iff.mp registrable.1
  -- the call after the registration fails, whichever it is
  let env : Env := ⟨db, go, fun n _ => if n = w.calls + 3 then some unavailable else none⟩
  refine ⟨env.fails, ?_⟩
  have up (n : Nat) (call : Call) (other : n ≠ w.calls + 3) : env.fails n call = none :=
    if_neg other
  obtain ⟨u, ensured, tables, housed, calls⟩ := ensureDataset_run (u := w) ⟨names.1, names.2.1⟩
    (up w.calls .registerDataset (by omega))
  rw [← tables] at missing
  have disposed (disposition : String) :
      outcome (applyWriteDisposition env disposition job.destination job.resultSchema) u =
        (.ok (), { u with
          store := u.store.put job.destination (some ⟨canonicalFields job.resultSchema, []⟩)
          calls := u.calls + 1 + 1 }) :=
    applyWriteDisposition_run disposition registrable missing housed (up _ _ (by omega))
  have down (call : Call) : env.fails (u.calls + 1 + 1) call = some unavailable :=
    if_pos (by omega)
  have left {made : Table} (t : World M)
      (same : t.store = u.store.put job.destination (some made) ∧ t.metadata = u.metadata) :
      t.store.tables job.destination ≠ none := by
    rw [same.1, Store.put_same]
    simp
  have described {made : Table} (v : World M)
      (now : v = { u with store := u.store.put job.destination (some made)
                          calls := u.calls + 1 + 1 }) :
      Fails (applySchemaUpdate env job.destination (some job.resultSchema)
        job.schemaUpdateOptions) v (fun t => t.store.tables job.destination ≠ none) := by
    subst now
    exact .bind (wrapped_fails (fails_imp (rpc_fails (down _)) left))
  unfold appendResults
  rw [if_neg names.2.2]
  refine .after ensured ?_
  rcases asked with ⟨some_rows, disposition⟩ | ⟨empty, appends, options⟩
  · rw [if_neg (by simpa using some_rows)]
    unfold resolveDestinationProtoSchema
    by_cases appends : job.disposition = "WRITE_APPEND"
    · rw [if_pos appends]
      exact .bind (.after (wrapped_ok_iff.mpr (disposed "WRITE_APPEND")) (described _ rfl))
    have replaces : job.disposition = "WRITE_TRUNCATE" ∨ job.disposition = "WRITE_EMPTY" := by
      simpa [appends] using disposition
    rw [if_neg appends, if_pos replaces]
    refine .after (bind_ok_iff.mpr ⟨(), _, wrapped_ok_iff.mpr (disposed _), rfl⟩) ?_
    refine .bind (wrapped_fails ?_)
    refine fails_imp (insertRows_fails ?_ (down _)) left
    simpa [restRowsToMaps] using some_rows
  · rw [if_pos (by simpa using empty)]
    unfold appendEmptyQueryDestination
    rw [if_neg (by rw [appends]; decide), if_pos appends, if_neg options]
    exact .after (wrapped_ok_iff.mpr (disposed "WRITE_APPEND")) (.bind (described _ rfl))

/-- The table and the metadata are what they were. -/
def AsBefore (w t : World M) (id : TableId) : Prop :=
  t.store.tables id = w.store.tables id ∧ t.metadata id = w.metadata id

theorem changed_of_gone (stored : w.store.tables id = some table) (t : World M)
    (gone : t.store.tables id = none) : ¬ AsBefore w t id := by
  rintro ⟨same, -⟩
  rw [gone, stored] at same
  cases same

theorem tablePatch_fails (placed : ∀ table, w.store.tables request.destination = some table →
      Present w.store request.destination table)
    (exposed : request.Exposed db (w.store.tables request.destination)
      (w.metadata request.destination)) :
    ∃ fails, Fails (tablePatch ⟨db, go, fails⟩ request) w
      (fun t => ¬ AsBefore w t request.destination) := by
  obtain ⟨accepted, more⟩ := exposed
  let u := w.describe request.destination (request.overlay (w.metadata request.destination))
  rcases more with changes | ⟨table, merged, stored, asked, merge, rewrites⟩
  · have described : Fails (describeTable ⟨db, go, failing .describeTable none⟩
        request.destination) u (fun t => ¬ AsBefore w t request.destination) := by
      have down : failing .describeTable none u.calls .describeTable = some unavailable :=
        if_pos (.inl rfl)
      refine fails_imp (rpc_fails down) ?_
      rintro t ⟨-, metadata⟩ ⟨-, same⟩
      have described : u.metadata request.destination =
          some (request.overlay (w.metadata request.destination)) := if_pos rfl
      rw [metadata, described] at same
      exact changes same
    refine ⟨failing .describeTable none, ?_⟩
    unfold tablePatch
    rw [accepted]
    refine .after (t := u) rfl ?_
    unfold syncPatchedTableSchema
    split
    · exact .after (t := u) rfl (.bind described)
    · exact .bind (.bind described)
  · have breaks := always_breaks db go .registerTable
    have present : Present u.store request.destination table := placed table stored
    have described := describeTable_run present
      (breaks _).up
    refine ⟨failing .registerTable none, ?_⟩
    unfold tablePatch
    rw [accepted]
    refine .after (t := u) rfl (.bind ?_)
    unfold syncPatchedTableSchema
    rw [if_neg (by simpa using asked)]
    refine .after described (.after (by rw [outcome_step, merge]) ?_)
    exact .bind (fails_imp (applySchemaUpdate_fails present (breaks _) rewrites)
      (changed_of_gone stored))

inductive Operation (M : Type) where
  | load (job : LoadJob)
  | query (job : QueryJob)
  | patch (request : PatchRequest M)

namespace Operation

def destination : Operation M → TableId
  | .load job => job.destination
  | .query job => job.destination
  | .patch request => request.destination

def run (env : Env) : Operation M → Client M Unit
  | .load job => do
    let _ ← executeLoad env job
    return
  | .query job => appendResults env job
  | .patch request => tablePatch env request

def Exposed (db : DuckDb) (w : World M) : Operation M → Prop
  | .load job => job.Exposed db (w.store.tables job.destination)
  | .query job => job.Exposed db (w.store.tables job.destination)
  | .patch request => request.Exposed db (w.store.tables request.destination)
      (w.metadata request.destination)

theorem run_ensures {op : Operation M} (calm : ¬ op.Exposed env.db w) :
    Ensures (op.run env) w (fun _ _ => True) (Still w) := by
  cases op with
  | load job => exact (executeLoad_ensures calm).bind fun _ _ _ => .pure trivial
  | query job => exact appendResults_ensures calm
  | patch request => exact tablePatch_ensures calm

theorem run_fails {op : Operation M} (placed : ∀ table, w.store.tables op.destination = some table →
      Present w.store op.destination table) (exposed : op.Exposed db w) :
    ∃ fails, Fails (op.run ⟨db, go, fails⟩) w
      (fun t => ¬ AsBefore w t op.destination) := by
  have made {id : TableId} (missing : w.store.tables id = none) (t : World M)
      (left : t.store.tables id ≠ none) : ¬ AsBefore w t id :=
    fun kept => left (kept.1.trans missing)
  cases op with
  | load job =>
    change job.Exposed db (w.store.tables job.destination) at exposed
    cases stored : w.store.tables job.destination with
    | some table =>
      rw [stored] at exposed
      obtain ⟨fails, failed⟩ := executeLoad_drops db go (placed table stored) exposed
      exact ⟨fails, .bind (fails_imp failed (changed_of_gone stored))⟩
    | none =>
      rw [stored] at exposed
      exact ⟨_, .bind (fails_imp (executeLoad_leaves db go stored exposed) (made stored))⟩
  | query job =>
    change job.Exposed db (w.store.tables job.destination) at exposed
    cases stored : w.store.tables job.destination with
    | some table =>
      rw [stored] at exposed
      exact ⟨_, fails_imp (appendResults_drops db go (placed table stored) exposed)
        (changed_of_gone stored)⟩
    | none =>
      rw [stored] at exposed
      obtain ⟨fails, failed⟩ := appendResults_leaves db go stored exposed
      exact ⟨fails, fails_imp failed (made stored)⟩
  | patch request => exact tablePatch_fails db go placed exposed

end Operation

/-- Whatever calls fail, an operation that ends in an error has left its destination as it was,
exactly if it is not exposed. -/
theorem error_keeps_destination_iff (db : DuckDb) (go : Go) (op : Operation M) (w : World M)
    (placed : ∀ table, w.store.tables op.destination = some table →
      Present w.store op.destination table) :
    (∀ fails status t, outcome (op.run ⟨db, go, fails⟩) w = (.error status, t) →
        t.store.tables op.destination = w.store.tables op.destination ∧
          t.metadata op.destination = w.metadata op.destination) ↔
      ¬ op.Exposed db w := by
  constructor
  · intro kept exposed
    obtain ⟨fails, status, t, failed, changed⟩ := op.run_fails db go placed exposed
    exact changed (kept fails status t failed)
  · intro calm fails status t failed
    have still : Ensures (op.run ⟨db, go, fails⟩) w (fun _ _ => True) (Still w) :=
      Operation.run_ensures calm
    have kept := still.of_error failed
    exact ⟨congrFun kept.tables _, congrFun kept.metadata _⟩

/-- A load of one row. -/
def reload : LoadJob where
  destination := sampleId
  writeDisposition := "WRITE_TRUNCATE"
  schema := (measures 0).fields
  parse schema := .ok (some schema, [[("value", .string "0.5")]])

theorem error_keeps_appended_destination :
    (measuresWorld 0).store.tables sampleId = some (measures 0) ∧ ∀ fails status t,
      outcome (Operation.run ⟨sampleDb, sampleEnv.go, fails⟩
          (.load { reload with writeDisposition := "WRITE_APPEND" })) (measuresWorld 0) =
        (.error status, t) →
      t.store.tables sampleId = some (measures 0) ∧ t.metadata sampleId = none := by
  refine ⟨rfl, (error_keeps_destination_iff sampleDb sampleEnv.go
    (.load { reload with writeDisposition := "WRITE_APPEND" }) (measuresWorld 0) ?_).mpr ?_⟩
  · intro table stored
    cases stored
    exact ⟨rfl, rfl⟩
  · rintro ⟨-, -, read, schema, rows, -, -, truncates | ⟨-, rewrites⟩⟩
    · exact absurd truncates (by decide)
    · exact rewrites.asked rfl

/-- The table is dropped, its registration fails, and it is gone. -/
theorem truncating_load_loses_table :
    (measuresWorld 0).store.tables sampleId = some (measures 0) ∧
      (outcome (Operation.run ⟨sampleDb, sampleEnv.go, failing .registerTable none⟩
        (.load reload)) (measuresWorld 0)).1 = .error unavailable ∧
      (outcome (Operation.run ⟨sampleDb, sampleEnv.go, failing .registerTable none⟩
        (.load reload)) (measuresWorld 0)).2.store.tables sampleId = none :=
  ⟨rfl, rfl, rfl⟩
end BigQueryEmulator.Gateway
