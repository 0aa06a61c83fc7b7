import BigQueryEmulator.Gateway.CatalogClient

/-! The operations that write into a table that a client names: load jobs (`load/executor.go`),
query jobs with a destination (`query/destination.go`) and tables.patch (`handlers/tables.go`,
`handlers/tables_catalog.go`). In a schema update (`load/schema.go`) the schemas are merged, and if
the merged schema differs, the rows are read, the table is dropped and made again, and the rows are
put back. -/
namespace BigQueryEmulator.Gateway
open Storage (Status Value Row TableId)
open Effects
variable {M : Type}

def fieldByName (fields : List Field) (name : String) : Option Field :=
  fields.find? fun field => field.name = name

def applySchemaFieldAdditions (merged load : List Field) : List Field :=
  load.foldl (fun merged field =>
    if (fieldByName merged field.name).isSome then merged
    else merged ++ [if field.mode = "REQUIRED" then field.withMode "" else field]) merged

variable (load : List Field)

def loadKeepsFieldRequired (name : String) : Bool :=
  match fieldByName load name with
  | some field => field.mode = "REQUIRED"
  | none => false

/-- One round of `applySchemaRelaxationAndDescriptions`. -/
def relaxField (allowRelax : Bool) (field : Field) : Field :=
  let relaxed :=
    if allowRelax && field.mode = "REQUIRED" && !loadKeepsFieldRequired load field.name then
      field.withMode ""
    else field
  match fieldByName load field.name with
  | none => relaxed
  | some patch => if patch.description = "" then relaxed else relaxed.withDescription patch.description

def relaxChanges (allowRelax : Bool) (field : Field) : Bool :=
  (allowRelax && field.mode = "REQUIRED" && !loadKeepsFieldRequired load field.name) ||
    match fieldByName load field.name with
    | none => false
    | some patch => patch.description ≠ "" && field.description ≠ patch.description

def normalizeFieldMode (mode : String) : String :=
  if mode = "" ∨ Dml.equalsIgnoreCase mode "NULLABLE" then "" else mode.map Char.toUpper

def fieldTypesCompatible (existing patch : String) : Bool :=
  let a := toUpper (trimSpace existing.toList)
  let b := toUpper (trimSpace patch.toList)
  let among (names : List String) : Bool :=
    (names.map String.toList).contains a && (names.map String.toList).contains b
  a = b || among ["INT64", "INTEGER"] || among ["FLOAT64", "FLOAT"] || among ["BOOL", "BOOLEAN"]

def validatePatchFieldCompatibility (existing patch : Field) : Except Status Unit :=
  if !fieldTypesCompatible existing.type patch.type then
    .error ⟨.unknown, "schema update: cannot change type of field \"" ++ existing.name ++
      "\" from " ++ existing.type ++ " to " ++ patch.type⟩
  else if normalizeFieldMode existing.mode ≠ "REQUIRED" ∧
      normalizeFieldMode patch.mode = "REQUIRED" then
    .error ⟨.unknown, "schema update: cannot change mode of field \"" ++ existing.name ++
      "\" from " ++ (if normalizeFieldMode existing.mode = "" then "NULLABLE"
        else normalizeFieldMode existing.mode) ++ " to REQUIRED"⟩
  else .ok ()

def validatePatchAgainstExisting (existing load : List Field) : Except Status Unit :=
  load.forM fun field =>
    match fieldByName existing field.name with
    | none => .ok ()
    | some old => validatePatchFieldCompatibility old field

def validateUpdate (strictPatch : Bool) (existing load : List Field) : Except Status Unit :=
  if strictPatch then validatePatchAgainstExisting existing load else .ok ()

def mergeSchemas (existing : List Field) (load : Option (List Field)) (opts : List String)
    (strictPatch : Bool) : Except Status (List Field × Bool) :=
  match load with
  | none => .ok (existing, false)
  | some load =>
    let allowAdd := opts.contains "ALLOW_FIELD_ADDITION"
    let allowRelax := opts.contains "ALLOW_FIELD_RELAXATION"
    if !allowAdd && !allowRelax then .ok (existing, false)
    else do
      validateUpdate strictPatch existing load
      let merged := if allowAdd then applySchemaFieldAdditions existing load else existing
      return (merged.map (relaxField load allowRelax),
        merged.any (relaxChanges load allowRelax) || merged.length ≠ existing.length)

/-- `schemaFromProto` of the package: the nested fields are not copied. -/
def schemaFromProto (fields : List Field) : List Field :=
  fields.map fun field => .mk field.name field.type field.mode field.description []

/-- The entries that were written into a Go map, the last one of a key first. -/
def goMap (writes : List (String × GoValue)) : GoRow := writes.reverse

def protoCellToAny : Cell → GoValue
  | .null => .nil
  | .string value => .string value
  | .array _ | .struct _ => .string ""

def protoRowToMap (schema : List Field) (cells : List Cell) : GoRow :=
  goMap (schema.zipIdx.map fun (field, i) =>
    (field.name, match cells[i]? with
      | none => .nil
      | some cell => protoCellToAny cell))

/-- The pages from `start` on. Every page but the last has rows, so that as many rounds as there
are rows, and one more, are enough. -/
def listPages (env : Env) (id : TableId) : (rounds start : Nat) → Client M (List (List Cell))
  | 0, _ => pure []
  | rounds + 1, start => do
    let (rows, total) ← wrapped "list rows for schema update" (listRows env id start 10000)
    if rows.isEmpty then return []
    else if total ≤ start + rows.length then return rows
    else
      let others ← listPages env id rounds (start + rows.length)
      return rows ++ others

def rowCount (st : Store) (id : TableId) : Nat :=
  match st.tables id with
  | some table => table.rows.length
  | none => 0

def listAllRows (env : Env) (id : TableId) (schema : List Field) : Client M (List GoRow) := do
  let rounds ← Work.look fun w => .ok (rowCount w.store id + 1)
  let rows ← listPages env id rounds 0
  return rows.map (protoRowToMap schema)

/-- Drop the table, make it again with the merged schema, and put the rows back. -/
def recreateTable (env : Env) (id : TableId) (merged : List Field) (preserved : List GoRow) :
    Client M (List Field) := do
  wrapped "schema update drop table" (dropTable env id)
  wrapped "schema update register table" (registerTable env id merged)
  let _ ← wrapped "schema update re-insert rows" (insertRows env id merged preserved)
  return merged

/-- The end of both updates, once the schemas are merged. -/
def updateTable (env : Env) (id : TableId) (described unchanged : List Field)
    (merging : Except Status (List Field × Bool)) : Client M (List Field) := do
  let (merged, changed) ← Work.step merging
  if changed then
    let preserved ← listAllRows env id described
    recreateTable env id merged preserved
  else return unchanged

def applySchemaUpdate (env : Env) (id : TableId) (querySchema : Option (List Field))
    (opts : List String) : Client M (List Field) := do
  let described ← wrapped "describe destination table" (describeTable env id)
  if opts.isEmpty || querySchema.isNone then return described
  else
    updateTable env id described described
      (mergeSchemas (schemaFromProto described) querySchema opts false)

/-- The parts of `JobConfigurationLoad` that decide on the schema. -/
structure LoadConfig where
  writeDisposition : String := ""
  schemaUpdateOptions : List String := []
  schema : List Field := []

/-- WRITE_APPEND if nothing else is asked for. -/
def LoadConfig.disposition (cfg : LoadConfig) : String :=
  if cfg.writeDisposition = "" then "WRITE_APPEND" else cfg.writeDisposition

/-- The sources may be read without a schema. -/
def LoadConfig.explicit (cfg : LoadConfig) (loadSchema : Option (List Field)) :
    Option (List Field) :=
  if cfg.schema.isEmpty then loadSchema else some cfg.schema

def resolveDestinationSchema (env : Env) (cfg : LoadConfig) (id : TableId)
    (loadSchema : Option (List Field)) : Client M (List Field) := do
  if cfg.disposition ≠ "WRITE_APPEND" ∨ cfg.schemaUpdateOptions = [] then
    return loadSchema.getD []
  else if !(← tableExists env id) then return loadSchema.getD []
  else
    let described ← wrapped "describe destination table" (describeTable env id)
    updateTable env id described (schemaFromProto described)
      (mergeSchemas (schemaFromProto described) (cfg.explicit loadSchema) cfg.schemaUpdateOptions
        false)

variable (env : Env)

/-- `applyWriteDisposition`, and `EnsureDestinationTable` around it. -/
def applyWriteDisposition (writeDisposition : String) (id : TableId)
    (schema : List Field) : Client M Unit := do
  let there ← tableExists env id
  if writeDisposition = "WRITE_TRUNCATE" then
    if there then
      wrapped "WRITE_TRUNCATE drop table" (dropTable env id)
      registerTable env id schema
    else registerTable env id schema
  else if writeDisposition = "WRITE_EMPTY" then
    if there then
      throw ⟨.unknown, "destination table " ++ tableName id ++ " is not empty"⟩
    else registerTable env id schema
  else if there then return
  else
    match ← (registerTable env id schema).attempt with
    | .ok _ => return
    | .error status => if status.code = .alreadyExists then return else throw status

/-- A load job: its configuration, and what its sources hold when they are read with a schema. -/
structure LoadJob extends LoadConfig where
  destination : TableId
  autodetect : Bool := false
  hasSources : Bool := true
  parse : List Field → Except Status (Option (List Field) × List GoRow)

/-- `existingDestinationSchema`; no schema is the empty one. -/
def existingDestinationSchema (id : TableId) : Client M (List Field) := do
  if ← tableExists env id then
    match ← (describeTable env id).attempt with
    | .ok described => return schemaFromProto described
    | .error _ => return []
  else return []

def loadParseSchema (job : LoadJob) : Client M (List Field) :=
  if job.schema.isEmpty && !job.autodetect then existingDestinationSchema env job.destination
  else return job.schema

/-- `load.execute`; the answer is the number of rows. -/
def executeLoad (job : LoadJob) : Client M Nat := do
  if job.destination.tableId = "" then throw ⟨.unknown, "destinationTable.tableId is required"⟩
  else if !job.hasSources then throw ⟨.unknown, "sourceUris or upload media is required"⟩
  else
    let parseSchema ← loadParseSchema env job
    let (schema, rows) ← Work.step (job.parse parseSchema)
    ensureDataset env job.destination.projectId job.destination.datasetId
    let protoSchema ← resolveDestinationSchema env job.toLoadConfig job.destination schema
    applyWriteDisposition env job.disposition job.destination protoSchema
    insertRows env job.destination protoSchema rows

def restValue (go : Go) : RestCell → GoValue
  | .null => .nil
  | .string value => .string value
  | cell => .other (go.printed cell)

/-- The elements of an array in a repeated field are made one by one. -/
def repeatedValue (field : Field) (plain : RestCell → GoValue) (cell : RestCell) : GoValue :=
  match cell with
  | .list elements =>
    if Dml.equalsIgnoreCase field.mode "REPEATED" then .list (elements.map plain)
    else plain (.list elements)
  | other => plain other

mutual

/-- `restFieldValue` without the branch for arrays. -/
def plainValue (go : Go) : Field → RestCell → GoValue
  | .mk _ type _ _ fields, .row cells =>
    if isStructFieldType type then .map (goMap (fieldValues go fields cells))
    else restValue go (.row cells)
  | _, cell => restValue go cell

def fieldValues (go : Go) : List Field → List RestCell → List (String × GoValue)
  | field :: rest, cell :: cells =>
    (field.name, repeatedValue field (fun element => plainValue go field element) cell) ::
      fieldValues go rest cells
  | _, _ => []

end

def restRowsToMaps (go : Go) (schema : List Field) (rows : List (List RestCell)) : List GoRow :=
  rows.map fun cells => goMap (fieldValues go schema cells)

/-- The part of a query job that writes its result into the destination table. -/
structure QueryJob where
  destination : TableId
  writeDisposition : String := ""
  schemaUpdateOptions : List String := []
  resultSchema : List Field
  rows : List (List RestCell)

variable (job : QueryJob)

/-- WRITE_TRUNCATE if nothing else is asked for. -/
def QueryJob.disposition : String :=
  if job.writeDisposition = "" then "WRITE_TRUNCATE" else job.writeDisposition

def appendEmptyQueryDestination : Client M Unit := do
  if job.disposition = "WRITE_TRUNCATE" ∨ job.disposition = "WRITE_EMPTY" then
    applyWriteDisposition env job.disposition job.destination job.resultSchema
  else if job.disposition = "WRITE_APPEND" then
    if job.schemaUpdateOptions = [] then return
    else
      wrapped "ensure query destination table"
        (applyWriteDisposition env "WRITE_APPEND" job.destination job.resultSchema)
      let _ ← applySchemaUpdate env job.destination (some job.resultSchema) job.schemaUpdateOptions
      return
  else return

def resolveDestinationProtoSchema : Client M (List Field) := do
  if job.disposition = "WRITE_APPEND" then
    wrapped "ensure query destination table"
      (applyWriteDisposition env "WRITE_APPEND" job.destination job.resultSchema)
    applySchemaUpdate env job.destination (some job.resultSchema) job.schemaUpdateOptions
  else if job.disposition = "WRITE_TRUNCATE" ∨ job.disposition = "WRITE_EMPTY" then
    wrapped "ensure query destination table"
      (applyWriteDisposition env job.disposition job.destination job.resultSchema)
    return job.resultSchema
  else
    throw ⟨.unknown, "query destination writeDisposition \"" ++ job.disposition ++
      "\" is not supported"⟩

def appendResults : Client M Unit := do
  if job.destination.tableId = "" then return
  else
    ensureDataset env job.destination.projectId job.destination.datasetId
    if job.rows.isEmpty then appendEmptyQueryDestination env job
    else
      let protoSchema ← resolveDestinationProtoSchema env job
      let _ ← wrapped "query destination insert rows" (insertRows env job.destination protoSchema
        (restRowsToMaps env.go job.resultSchema job.rows))
      return

/-- A tables.patch request: whether it is refused at once, the metadata after it by the metadata
before it, and the schema that it gives. `restSchema` is `schemaFromProto` of the handlers. -/
structure PatchRequest (M : Type) where
  destination : TableId
  refused : Option Status := none
  overlay : Option M → M
  schema : List Field
  restSchema : List Field → List Field

def World.describe (w : World M) (id : TableId) (metadata : M) : World M :=
  { w with metadata := fun other => if other = id then some metadata else w.metadata other }

def mergeTable (id : TableId) (overlay : Option M → M) : Client M Unit := fun w =>
  (.ok (), w.describe id (overlay (w.metadata id)))

def tablePatchSchemaOptions : List String := ["ALLOW_FIELD_ADDITION", "ALLOW_FIELD_RELAXATION"]

def syncPatchedTableSchema (request : PatchRequest M) : Client M Unit := do
  if request.schema.isEmpty then return
  else
    let described ← describeTable env request.destination
    let (merged, changed) ← Work.step (mergeSchemas (request.restSchema described)
      (some request.schema) tablePatchSchemaOptions true)
    if changed then
      let _ ← applySchemaUpdate env request.destination (some merged) tablePatchSchemaOptions
      return
    else return

def tablePatch (request : PatchRequest M) : Client M Unit := do
  match request.refused with
  | some status => throw status
  | none =>
    mergeTable request.destination request.overlay
    syncPatchedTableSchema env request
    let _ ← describeTable env request.destination
    return

end BigQueryEmulator.Gateway
