import BigQueryEmulator.Gateway.SchemaUpdate
import BigQueryEmulator.Lookup

/-! What a schema update does to the fields and the rows of a table. -/
namespace BigQueryEmulator.Gateway
open Storage (Status Value Row ColumnType TableId)
open Effects Fallible Store
open List hiding after count
open Work
open BigQueryEmulator.Gateway.Field (canonical)
variable {M : Type} {env : Env} {w t : World M} {id : TableId} {table : Table}

def Described (field : Field) : Prop := field.canonical = field

@[simp] theorem canonical_name (field : Field) : field.canonical.name = field.name := by
  cases field
  rfl

@[simp] theorem canonical_type (field : Field) :
    field.canonical.type = canonicalType field.type := by
  cases field
  rfl

@[simp] theorem canonical_mode (field : Field) :
    field.canonical.mode = canonicalMode field.mode := by
  cases field
  rfl

@[simp] theorem canonical_fields (field : Field) :
    field.canonical.fields = canonicalFields field.fields := by
  cases field
  rfl

theorem eq_map_of {F : List α → List β} (empty : F [] = [])
    (more : ∀ x rest, F (x :: rest) = f x :: F rest) (xs : List α) : F xs = xs.map f := by
  induction xs with
  | nil => exact empty
  | cons x rest ih => rw [more, ih, map_cons]

theorem canonicalFields_eq_map : ∀ fields, canonicalFields fields = fields.map canonical :=
  eq_map_of rfl fun _ _ => rfl

mutual

theorem columnSchemaFromProto_ok :
    ∀ {field : Field}, columnSchemaFromProto field = .ok column → column = field.canonical
  | .mk name type mode description fields, ok => by
    rw [columnSchemaFromProto] at ok
    split at ok
    · cases ok
    split at ok
    next columns nested =>
      cases ok
      rw [canonical, columnSchemasFromProto_ok nested]
    next => cases ok

theorem columnSchemasFromProto_ok :
    ∀ {fields : List Field}, columnSchemasFromProto fields = .ok columns →
      columns = canonicalFields fields
  | [], ok => by
    cases ok
    rfl
  | field :: rest, ok => by
    obtain ⟨column, first, ok⟩ := bind_ok_iff.mp ok
    obtain ⟨others, rest_ok, ok⟩ := bind_ok_iff.mp ok
    cases ok
    rw [canonicalFields, columnSchemaFromProto_ok first, columnSchemasFromProto_ok rest_ok]

end

theorem listRows_ok_iff {start max : Nat} :
    outcome (listRows env id start max) w = (.ok (cells, total), t) →
      ∃ table, w.store.tables id = some table ∧ total = table.rows.length ∧
        (if max = 0 then table.rows.drop start else (table.rows.drop start).take max).mapM
          (fun row => env.db.valuesToCells row.cells) = .ok cells ∧
        t = { w with calls := w.calls + 1 } := by
  intro ok
  obtain ⟨-, st, served, rfl⟩ := rpc_ok_iff.mp ok
  obtain ⟨-, -, served⟩ := bind_ok_iff.mp served
  obtain ⟨table, found, served⟩ := bind_ok_iff.mp served
  obtain ⟨page, listed, served⟩ := bind_ok_iff.mp served
  cases served
  exact ⟨table, (findTable_ok_iff.mp found).2, rfl, listed, rfl⟩

theorem mapM_append_ok {ε α β : Type} {f : α → Except ε β} {first second : List α}
    {left right : List β} (front : first.mapM f = .ok left) (back : second.mapM f = .ok right) :
    (first ++ second).mapM f = .ok (left ++ right) :=
  mapM_ok_iff.mpr (rel_append (mapM_ok_iff.mp front) (mapM_ok_iff.mp back))

theorem listPages_ok (enough : rowCount w.store id < start + rounds)
    (ok : outcome (listPages env id rounds start) w = (.ok cells, t)) :
    t.store = w.store ∧ t.metadata = w.metadata ∧
      ∀ table, w.store.tables id = some table →
        (table.rows.drop start).mapM (fun row => env.db.valuesToCells row.cells) = .ok cells := by
  induction rounds generalizing start w cells with
  | zero =>
    cases ok
    refine ⟨rfl, rfl, fun table stored => ?_⟩
    rw [rowCount, stored] at enough
    rw [drop_eq_nil_of_le (by simpa using enough.le)]
    rfl
  | succ rounds ih =>
    obtain ⟨⟨rows, total⟩, u, read, ok⟩ := bind_ok_iff.mp ok
    obtain ⟨table, stored, rfl, listed, rfl⟩ := listRows_ok_iff (wrapped_ok_iff.mp read)
    have length_rows : rows.length = min 10000 (table.rows.length - start) := by
      have same := (mapM_ok_iff.mp listed).length_eq
      simpa using same.symm
    rw [rowCount, stored] at enough
    dsimp only at enough ok
    have whole (short : table.rows.length - start ≤ 10000) :
        (table.rows.drop start).mapM (fun row => env.db.valuesToCells row.cells) = .ok rows := by
      rw [take_of_length_le (by simpa using short)] at listed
      exact listed
    split at ok
    next empty =>
      cases ok
      rw [isEmpty_iff.mp empty] at length_rows whole
      refine ⟨rfl, rfl, fun other same => ?_⟩
      cases Option.some.inj (stored.symm.trans same)
      exact whole (by simp at length_rows; omega)
    next some_rows =>
      split at ok
      next last =>
        cases ok
        refine ⟨rfl, rfl, fun other same => ?_⟩
        cases Option.some.inj (stored.symm.trans same)
        exact whole (by omega)
      next more =>
        obtain ⟨others, v, rest, ok⟩ := bind_ok_iff.mp ok
        cases ok
        have nonempty : rows.length ≠ 0 := by simpa using some_rows
        obtain ⟨same_store, same_meta, rest_rows⟩ := ih
          (by rw [rowCount, stored]; dsimp only; omega) rest
        refine ⟨same_store, same_meta, fun other same => ?_⟩
        cases Option.some.inj (stored.symm.trans same)
        have full : rows.length = 10000 := by omega
        rw [← take_append_drop 10000 (table.rows.drop start), drop_drop]
        rw [full] at rest_rows
        exact mapM_append_ok listed (rest_rows table stored)

/-- The new field is the old one, with its mode relaxed or not, and any description. -/
structure Relaxed (old new : Field) : Prop where
  name : new.name = old.name
  type : new.type = old.type
  fields : new.fields = old.fields
  mode : new.mode = old.mode ∨ old.mode = "REQUIRED" ∧ new.mode = ""

theorem relaxed_relaxField (load : List Field) (allowRelax : Bool) (field : Field) :
    Relaxed field (relaxField load allowRelax field) := by
  cases field with
  | mk name type mode description fields =>
    have moded : Relaxed (.mk name type mode description fields)
        (if allowRelax && mode = "REQUIRED" && !loadKeepsFieldRequired load name then
          .mk name type "" description fields
        else .mk name type mode description fields) := by
      split
      next relaxes =>
        simp only [Bool.and_eq_true, decide_eq_true_eq] at relaxes
        exact ⟨rfl, rfl, rfl, .inr ⟨relaxes.1.2, rfl⟩⟩
      next => exact ⟨rfl, rfl, rfl, .inl rfl⟩
    have described : ∀ {new : Field} (text : String),
        Relaxed (.mk name type mode description fields) new →
        Relaxed (.mk name type mode description fields) (new.withDescription text) := by
      intro new text relaxed
      cases new with
      | mk => exact ⟨relaxed.name, relaxed.type, relaxed.fields, relaxed.mode⟩
    unfold relaxField
    dsimp only
    split
    · exact moded
    · split
      · exact moded
      · exact described _ moded

theorem fieldByName_isSome_iff :
    (fieldByName fields name).isSome = true ↔ name ∈ fields.map Field.name := by
  simp [fieldByName, find?_isSome]

theorem applySchemaFieldAdditions_eq (existing load : List Field) :
    ∃ added, applySchemaFieldAdditions existing load = existing ++ added ∧
      ∀ field ∈ added, field.name ∉ existing.map Field.name := by
  rw [applySchemaFieldAdditions]
  suffices grows : ∀ front : List Field, (∀ field ∈ front, field.name ∉ existing.map Field.name) →
      ∃ added, load.foldl (fun merged field =>
          if (fieldByName merged field.name).isSome then merged
          else merged ++ [if field.mode = "REQUIRED" then field.withMode "" else field])
        (existing ++ front) = existing ++ added ∧
        ∀ field ∈ added, field.name ∉ existing.map Field.name by
    simpa using grows [] (by simp)
  induction load with
  | nil => exact fun front fresh => ⟨front, rfl, fresh⟩
  | cons field rest ih =>
    intro front fresh
    rw [foldl_cons]
    split
    next => exact ih front fresh
    next unknown =>
      rw [append_assoc]
      apply ih
      intro other among
      rcases mem_append.mp among with old | new
      · exact fresh other old
      rw [fieldByName_isSome_iff, map_append] at unknown
      have same : other.name = field.name := by
        rw [mem_singleton.mp new]
        split
        · cases field
          rfl
        · rfl
      rw [same]
      exact fun known => unknown (mem_append_left _ known)

theorem mergeSchemas_ok (ok : mergeSchemas existing load opts strict = .ok (merged, changed)) :
    ∃ kept added, merged = kept ++ added ∧ List.Forall₂ Relaxed existing kept ∧
      ∀ field ∈ added, field.name ∉ existing.map Field.name := by
  have itself : List.Forall₂ Relaxed existing existing :=
    forall₂_same.mpr fun _ _ => ⟨rfl, rfl, rfl, .inl rfl⟩
  cases load with
  | none =>
    cases ok
    exact ⟨existing, [], by simp, itself, by simp⟩
  | some load =>
    unfold mergeSchemas at ok
    dsimp only at ok
    split at ok
    next =>
      cases ok
      exact ⟨existing, [], by simp, itself, by simp⟩
    obtain ⟨-, -, ok⟩ := bind_ok_iff.mp ok
    cases ok
    obtain ⟨added, grown, fresh⟩ :
        ∃ added, (if opts.contains "ALLOW_FIELD_ADDITION" then
            applySchemaFieldAdditions existing load else existing) = existing ++ added ∧
          ∀ field ∈ added, field.name ∉ existing.map Field.name := by
      split
      · exact applySchemaFieldAdditions_eq existing load
      · exact ⟨[], by simp, by simp⟩
    refine ⟨existing.map (relaxField load (opts.contains "ALLOW_FIELD_RELAXATION")),
      added.map (relaxField load (opts.contains "ALLOW_FIELD_RELAXATION")),
      by rw [grown, map_append], ?_, ?_⟩
    · rw [forall₂_map_right_iff]
      exact forall₂_same.mpr fun field _ => relaxed_relaxField _ _ field
    · rw [forall_mem_map]
      intro field among
      rw [(relaxed_relaxField load _ field).name]
      exact fresh field among

section
variable {db : DuckDb}

/-- What a column of the type can hold. The text that DuckDB writes for a value, it reads as the
value; of doubles the engine writes the text itself. -/
def HeldScalar (db : DuckDb) : ColumnType → Value → Prop
  | .bool, .bool value => db.cast .bool (if value then "true" else "false") = .ok (.bool value)
  | .int64, .int64 value => db.cast .int64 (toString value) = .ok (.int64 value)
  | .float64, .float64 _ => True
  | .bytes, .bytes value => ∀ text, db.text value = some text → db.bytes text = value
  | type, .string text => db.storeScalar type (.string text) = .ok (.string text)
  | _, _ => False

def Held (db : DuckDb) (field : Field) (value : Value) : Prop :=
  value = .null ∨
    if DuckDb.isRepeated field then ∃ elements, value = .array elements
    else if parseColumnType field.type = .struct then ∃ fields, value = .struct fields
    else HeldScalar db (parseColumnType field.type) value

def Exact (db : DuckDb) : Value → Prop
  | .float64 bits => db.cast .float64 (db.doubleText bits) = .ok (.float64 bits)
  | _ => True

def carriedCell : Cell → Cell
  | .null => .null
  | .string value => .string value
  | .array _ | .struct _ => .string ""

def storeColumn (db : DuckDb) (field : Field) (value : Value) : Except Status Value :=
  DuckDb.storeRepeated field (db.storePlain field) value

theorem storeFields_cons_ok_iff :
    db.storeFields (field :: rest) (value :: values) = .ok stored ↔
      ∃ first others, storeColumn db field value = .ok first ∧
        db.storeFields rest values = .ok others ∧ stored = first :: others := by
  constructor
  · intro ok
    obtain ⟨first, column, ok⟩ := bind_ok_iff.mp ok
    obtain ⟨others, columns, ok⟩ := bind_ok_iff.mp ok
    cases ok
    exact ⟨first, others, column, columns, rfl⟩
  · rintro ⟨first, others, column, columns, rfl⟩
    exact bind_ok_iff.mpr ⟨first, column, bind_ok_iff.mpr ⟨others, columns, rfl⟩⟩

@[simp] theorem storeColumn_null (db : DuckDb) (field : Field) :
    storeColumn db field .null = .ok .null := by
  rw [storeColumn, DuckDb.storeRepeated]
  split
  · rfl
  · rw [DuckDb.storePlain]

theorem storeColumn_string (ok : storeColumn db field (.string text) = .ok stored) :
    DuckDb.isRepeated field = false ∧ db.storePlain field (.string text) = .ok stored := by
  unfold storeColumn DuckDb.storeRepeated at ok
  split at ok
  next => cases ok
  next single => exact ⟨by simpa using single, ok⟩

theorem storePlain_scalar (scalar : parseColumnType field.type ≠ .struct) (text : String) :
    db.storePlain field (.string text) =
      db.storeScalar (parseColumnType field.type) (.string text) := by
  cases field with
  | mk name type mode description fields =>
    change parseColumnType type ≠ .struct at scalar
    rw [DuckDb.storePlain, if_neg scalar]
    rfl

theorem storePlain_struct_empty (struct : parseColumnType field.type = .struct) (stored : Value) :
    db.storePlain field (.string "") ≠ .ok stored := by
  cases field with
  | mk name type mode description fields =>
    change parseColumnType type = .struct at struct
    rw [DuckDb.storePlain, if_pos struct]
    simp

def SameColumn (field other : Field) : Prop :=
  parseColumnType other.type = parseColumnType field.type ∧
    DuckDb.isRepeated other = DuckDb.isRepeated field

/-- The text of a scalar brings the scalar back, unless it is a double that its text does not
fix. -/
theorem HeldScalar.sent (held : HeldScalar db type value)
    (sent : db.valueToCell value = .ok cell) :
    ∃ text, cell = .string text ∧ ∀ stored, db.storeScalar type (.string text) = .ok stored →
      (stored = value ↔ Exact db value) := by
  have back {text : String} (held : db.storeScalar type (.string text) = .ok value)
      (exact_ : Exact db value) (stored : Value)
      (ok : db.storeScalar type (.string text) = .ok stored) : stored = value ↔ Exact db value :=
    iff_of_true (Except.ok.inj (ok.symm.trans held)) exact_
  unfold HeldScalar at held
  split at held
  next => exact ⟨_, (Except.ok.inj sent).symm, back held trivial⟩
  next => exact ⟨_, (Except.ok.inj sent).symm, back held trivial⟩
  next bits =>
    refine ⟨_, (Except.ok.inj sent).symm, fun stored ok => ⟨?_, fun exact_ => ?_⟩⟩
    · rintro rfl
      exact ok
    · exact Except.ok.inj (ok.symm.trans exact_)
  next value =>
    rw [DuckDb.valueToCell] at sent
    split at sent
    next text known =>
      exact ⟨text, (Except.ok.inj sent).symm,
        back (congrArg (Except.ok ∘ Value.bytes) (held text known)) trivial⟩
    next => cases sent
  next => exact ⟨_, (Except.ok.inj sent).symm, back held trivial⟩
  next => exact held.elim

theorem storeColumn_carried (held : Held db field value) (same : SameColumn field other)
    (sent : db.valueToCell value = .ok cell)
    (ok : storeColumn db other (cellToValue (carriedCell cell)) = .ok stored) :
    stored = value ↔ Exact db value := by
  rcases held with rfl | held
  · cases sent
    rw [carriedCell, cellToValue, storeColumn_null] at ok
    cases ok
    exact iff_of_true rfl trivial
  · split at held
    next repeated =>
      obtain ⟨elements, rfl⟩ := held
      obtain ⟨cells, -, rfl⟩ := map_ok_iff.mp sent
      have single := (storeColumn_string ok).1
      rw [same.2, repeated] at single
      cases single
    next =>
      split at held
      next struct =>
        obtain ⟨fields, rfl⟩ := held
        obtain ⟨cells, -, rfl⟩ := map_ok_iff.mp sent
        exact absurd (storeColumn_string ok).2 (storePlain_struct_empty (same.1.trans struct) _)
      next scalar =>
        obtain ⟨text, rfl, back⟩ := held.sent sent
        have plain := (storeColumn_string ok).2
        rw [storePlain_scalar (fun struct => scalar (same.1.symm.trans struct)), same.1] at plain
        exact back stored plain

theorem cellsToValues_eq_map : ∀ cells, cellsToValues cells = cells.map cellToValue :=
  eq_map_of rfl fun _ _ => rfl

theorem storeFields_nulls (ok : db.storeFields added (replicate added.length .null) = .ok stored) :
    stored = replicate added.length .null := by
  induction added generalizing stored with
  | nil =>
    cases ok
    rfl
  | cons field rest ih =>
    obtain ⟨first, others, column, columns, rfl⟩ := storeFields_cons_ok_iff.mp ok
    rw [storeColumn_null] at column
    cases column
    rw [ih columns]
    rfl

/-- A row that was read and put back: the old columns hold what they held, as far as the doubles
are exact, and the added ones NULL. -/
theorem storeFields_carried (same : List.Forall₂ SameColumn fields kept)
    (held : List.Forall₂ (Held db) fields values) (sent : db.valuesToCells values = .ok cells)
    (ok : db.storeFields (kept ++ added)
      ((cells.map fun cell => cellToValue (carriedCell cell)) ++
        replicate added.length .null) = .ok stored) :
    ∃ front, stored = front ++ replicate added.length .null ∧
      List.Forall₂ (fun value back => back = value ↔ Exact db value) values front := by
  induction same generalizing values cells stored with
  | nil =>
    cases held
    cases sent
    exact ⟨[], storeFields_nulls ok, .nil⟩
  | cons column _ ih =>
    cases held with
    | cons first rest =>
      obtain ⟨cell, read, sent⟩ := bind_ok_iff.mp sent
      obtain ⟨others, reads, sent⟩ := bind_ok_iff.mp sent
      cases sent
      obtain ⟨back, backs, put, puts, rfl⟩ := storeFields_cons_ok_iff.mp ok
      obtain ⟨front, rfl, all⟩ := ih rest reads puts
      exact ⟨back :: front, rfl, .cons (storeColumn_carried first column read put) all⟩

end

/-- Go values that make a cell without regard to the field. -/
def GoValue.IsFlat : GoValue → Prop
  | .nil | .string _ => True
  | _ => False

/-- `cellFromJSONForField`. -/
def fieldCell (go : Go) (field : Field) (value : GoValue) : Cell :=
  repeatedCell go field (fun element => plainCell go field element) value

def columnCell (go : Go) (row : GoRow) (field : Field) : Cell :=
  match row.lookup field.name with
  | none => .null
  | some value => fieldCell go field value

theorem rowToProto_eq_map (row : GoRow) (schema : List Field) :
    rowToProto go schema row = schema.map (columnCell go row) :=
  eq_map_of (F := fun schema => rowToProto go schema row) (by rw [rowToProto, fieldCells])
    (fun _ _ => by rw [rowToProto, fieldCells]; rfl) schema

/-- A row that is laid out by one schema is stored in columns of another one. -/
def Takes (db : DuckDb) (go : Go) (laid taken : List Field) (row : GoRow) (added : List Value) :
    Prop :=
  laid.length = taken.length ∧
    db.storeFields taken (cellsToValues (rowToProto go laid row)) = .ok added

def entryCell (go : Go) (row : GoRow) (name : String) : Cell :=
  match row.lookup name with
  | none => .null
  | some value => goValueToCell go value

theorem rowToProto_of_flat (go : Go) (fields : List Field) (flat : ∀ entry ∈ row, entry.2.IsFlat) :
    rowToProto go fields row = fields.map fun field => entryCell go row field.name := by
  rw [rowToProto_eq_map]
  refine map_congr_left fun field _ => ?_
  unfold columnCell entryCell
  cases found : row.lookup field.name with
  | none => rfl
  | some value =>
    obtain ⟨before, after, split_row, -⟩ := lookup_eq_some_iff.mp found
    have flat := flat (field.name, value) (by simp [split_row])
    dsimp only
    unfold fieldCell repeatedCell
    cases value with
    | nil | string => cases field; split <;> rfl
    | _ => exact flat.elim

theorem protoRowToMap_eq (shaped : cells.length = fields.length) : protoRowToMap fields cells =
      ((fields.zip cells).map fun entry => (entry.1.name, protoCellToAny entry.2)).reverse := by
  rw [protoRowToMap]
  congr 1
  refine ext_getElem (by simp [shaped]) fun i _ there => ?_
  have within : i < cells.length := by
    simp only [length_map, length_zip] at there
    omega
  simp [getElem?_eq_getElem within]

/-- The row of the merged schema: the old cells as Go has carried them, and NULL for what was
added. -/
theorem rowToProto_merged (go : Go) (distinct : (fields.map Field.name).Nodup)
    (shaped : cells.length = fields.length) (names : kept.map Field.name = fields.map Field.name)
    (fresh : ∀ field ∈ added, field.name ∉ fields.map Field.name) :
    rowToProto go (kept ++ added) (protoRowToMap fields cells) =
      cells.map carriedCell ++ replicate added.length .null := by
  have keys : (protoRowToMap fields cells).map Prod.fst = (fields.map Field.name).reverse := by
    rw [protoRowToMap_eq shaped, map_reverse, map_map]
    congr 1
    rw [show (Prod.fst ∘ fun entry : Field × Cell => (entry.1.name, protoCellToAny entry.2)) =
      Field.name ∘ Prod.fst from rfl, ← map_map, map_fst_zip shaped.ge]
  have flat : ∀ entry ∈ protoRowToMap fields cells, entry.2.IsFlat := by
    intro entry among
    rw [protoRowToMap_eq shaped, mem_reverse] at among
    obtain ⟨⟨field, cell⟩, -, rfl⟩ := mem_map.mp among
    cases cell <;> trivial
  have old : kept.map (fun field => entryCell go (protoRowToMap fields cells) field.name) =
      cells.map carriedCell := by
    calc kept.map (fun field => entryCell go (protoRowToMap fields cells) field.name)
        = (kept.map Field.name).map (entryCell go (protoRowToMap fields cells)) := by
          rw [map_map]
          rfl
      _ = (fields.map Field.name).map (entryCell go (protoRowToMap fields cells)) := by rw [names]
      _ = cells.map carriedCell := by
          refine ext_getElem (by simp [shaped]) fun i there here => ?_
          simp only [length_map] at there here
          have entry : (fields[i].name, protoCellToAny cells[i]) ∈ protoRowToMap fields cells := by
            rw [protoRowToMap_eq shaped, mem_reverse, mem_map]
            exact ⟨(fields[i], cells[i]), mem_iff_getElem.mpr ⟨i, by simp [here, there], by simp⟩,
              rfl⟩
          have found := (Lookup.lookup_eq_some_iff_mem
            (by rw [keys]; exact nodup_reverse.mpr distinct)).mpr entry
          simp only [getElem_map]
          rw [entryCell, found]
          cases cells[i] <;> rfl
  have new : added.map (fun field => entryCell go (protoRowToMap fields cells) field.name) =
      replicate added.length .null := by
    rw [← map_const']
    refine map_congr_left fun field among => ?_
    have absent : (protoRowToMap fields cells).lookup field.name = none := by
      rw [lookup_eq_none_iff]
      intro entry within
      have known : entry.1 ∈ (protoRowToMap fields cells).map Prod.fst :=
        mem_map_of_mem within
      rw [keys, mem_reverse] at known
      rw [bne_iff_ne]
      intro same
      exact fresh field among (same ▸ known)
    rw [entryCell, absent]
  rw [rowToProto_of_flat go _ flat, map_append, old, new]

theorem parse_columnTypeName (type : ColumnType) : parseColumnType (columnTypeName type) = type := by
  cases type <;> decide +kernel

@[simp] theorem parse_canonicalType (type : String) :
    parseColumnType (canonicalType type) = parseColumnType type := by
  unfold canonicalType
  split
  · rfl
  · exact parse_columnTypeName _

@[simp] theorem parse_canonicalMode (mode : String) :
    parseColumnMode (canonicalMode mode) = parseColumnMode mode := by
  rw [canonicalMode]
  cases parseColumnMode mode <;> decide +kernel

def bareField (field : Field) : Field :=
  .mk field.name field.type field.mode field.description []

theorem sameColumn_of_relaxed (relaxed : Relaxed (bareField field) new) :
    SameColumn field new.canonical := by
  constructor
  · rw [canonical_type, parse_canonicalType, relaxed.type]
    rfl
  unfold DuckDb.isRepeated
  rw [canonical_mode, parse_canonicalMode]
  rcases relaxed.mode with same | ⟨required, none⟩
  · rw [same]
    rfl
  · rw [none, show field.mode = "REQUIRED" from required]
    decide +kernel

/-- The new field has the name, the type, the mode and the nested fields of the old one, except
that REQUIRED may have become NULLABLE. -/
structure Keeps (old new : Field) : Prop where
  name : new.name = old.name
  type : new.type = old.type
  fields : new.fields = old.fields
  mode : new.mode = old.mode ∨ old.mode = "REQUIRED" ∧ new.mode = "NULLABLE"

theorem keeps_iff_of_relaxed (described : Described field)
    (relaxed : Relaxed (bareField field) new) : Keeps field new.canonical ↔ field.fields = [] := by
  have bare : new.canonical.fields = [] := by
    rw [canonical_fields, relaxed.fields]
    rfl
  constructor
  · intro keeps
    rw [← keeps.fields, bare]
  intro flat
  refine ⟨?_, ?_, by rw [bare, flat], ?_⟩
  · rw [canonical_name, relaxed.name]
    rfl
  · rw [canonical_type, relaxed.type]
    exact (canonical_type field).symm.trans (congrArg Field.type described)
  rw [canonical_mode]
  rcases relaxed.mode with same | ⟨required, none⟩
  · rw [same]
    exact .inl ((canonical_mode field).symm.trans (congrArg Field.mode described))
  · rw [none]
    exact .inr ⟨required, by decide +kernel⟩

/-- Every existing field is kept, every row is there with its cells, and the columns that were
added are NULL in it. -/
def Preserved (before after : Table) : Prop :=
  ∃ kept added, after.fields = kept ++ added ∧ List.Forall₂ Keeps before.fields kept ∧
    after.rows = before.rows.map fun row => ⟨row.cells ++ replicate added.length .null⟩

structure Sound (db : DuckDb) (table : Table) : Prop where
  described : ∀ field ∈ table.fields, Described field
  distinct : (table.fields.map Field.name).Nodup
  held : ∀ row ∈ table.rows, List.Forall₂ (Held db) table.fields row.cells

/-- No column has fields of its own, and every double reads back from its text. -/
def Carriable (db : DuckDb) (table : Table) : Prop :=
  (∀ field ∈ table.fields, field.fields = []) ∧
    ∀ row ∈ table.rows, ∀ value ∈ row.cells, Exact db value

def PutBack (db : DuckDb) (added : Nat) (old new : Row) : Prop :=
  ∃ front, new.cells = front ++ replicate added .null ∧
    List.Forall₂ (fun value back => back = value ↔ Exact db value) old.cells front

theorem putBack_eq_iff (put : PutBack db added old new) :
    new = ⟨old.cells ++ replicate added .null⟩ ↔ ∀ value ∈ old.cells, Exact db value := by
  obtain ⟨front, cells, all⟩ := put
  have same : front = old.cells ↔ ∀ value ∈ old.cells, Exact db value := by
    clear cells
    generalize old.cells = values at all
    induction all with
    | nil => simp
    | cons first _ ih => rw [cons.injEq, first, ih, forall_mem_cons]
  cases new with
  | mk newCells =>
    change newCells = _ at cells
    rw [Row.mk.injEq, cells, append_left_inj, same]

theorem rows_eq_iff (put : List.Forall₂ (PutBack db added) before after) :
    (after = before.map fun row => ⟨row.cells ++ replicate added .null⟩) ↔
      ∀ row ∈ before, ∀ value ∈ row.cells, Exact db value := by
  induction put with
  | nil => simp
  | cons first _ ih =>
    rw [map_cons, cons.injEq, putBack_eq_iff first, ih, forall_mem_cons]

theorem preserved_iff (sound : Sound db before)
    (relaxed : List.Forall₂ (fun field new => Relaxed (bareField field) new) before.fields kept)
    (put : List.Forall₂ (PutBack db added.length) before.rows rows) :
    Preserved before ⟨canonicalFields (kept ++ added), rows⟩ ↔ Carriable db before := by
  have keeps : List.Forall₂ Keeps before.fields (kept.map canonical) ↔
      ∀ field ∈ before.fields, field.fields = [] := by
    have described := sound.described
    generalize before.fields = fields at relaxed described
    induction relaxed with
    | nil => simp
    | cons first _ ih =>
      obtain ⟨here, there⟩ := forall_mem_cons.mp described
      rw [map_cons, forall₂_cons, forall_mem_cons]
      exact and_congr (keeps_iff_of_relaxed here first) (ih there)
  rw [Carriable, ← keeps, ← rows_eq_iff put]
  simp only [canonicalFields_eq_map, map_append]
  constructor
  · rintro ⟨front, back, split_fields, kept_fields, same_rows⟩
    have length_front : (kept.map canonical).length = front.length := by
      rw [length_map, ← relaxed.length_eq, kept_fields.length_eq]
    obtain ⟨rfl, rfl⟩ := append_inj split_fields length_front
    rw [length_map] at same_rows
    exact ⟨kept_fields, same_rows⟩
  · rintro ⟨kept_fields, same_rows⟩
    refine ⟨_, added.map canonical, rfl, kept_fields, ?_⟩
    rw [length_map]
    exact same_rows

def Registrable (db : DuckDb) (id : TableId) (schema : List Field) : Prop :=
  validateTableRef "RegisterTable" id = .ok () ∧
    ∃ fields, columnSchemasFromProto schema = .ok fields ∧ db.makeParquet fields = .ok ()

theorem registerTable_ok_iff :
    outcome (registerTable env id schema) w = (.ok (), t) ↔
      t = { w with store := w.store.put id (some ⟨canonicalFields schema, []⟩)
                   calls := w.calls + 1 } ∧ w.store.tables id = none ∧ Registrable env.db id schema ∧
        env.fails w.calls .registerTable = none ∧
        w.store.datasets id.projectId id.datasetId = true := by
  rw [registerTable, rpc_ok_iff]
  constructor
  · rintro ⟨up, st, served, rfl⟩
    obtain ⟨_, named, served⟩ := bind_ok_iff.mp served
    obtain ⟨fields, columns, served⟩ := bind_ok_iff.mp served
    split at served
    next housed =>
      split at served
      next => cases served
      next fresh =>
        obtain ⟨_, made, served⟩ := bind_ok_iff.mp served
        cases served
        rw [← columnSchemasFromProto_ok columns]
        exact ⟨rfl, by simpa using fresh, ⟨named, fields, columns, made⟩, up, housed⟩
    next => cases served
  · rintro ⟨rfl, missing, ⟨named, fields, columns, made⟩, up, housed⟩
    refine ⟨up, _, ?_, rfl⟩
    rw [← columnSchemasFromProto_ok columns, serveRegisterTable, named, columns]
    change (if w.store.datasets id.projectId id.datasetId = true then _ else _) = _
    rw [if_pos housed, missing, if_neg (by decide), made]
    rfl

theorem insertRows_ok (ok : outcome (insertRows env id schema rows) w = (.ok count, t)) :
    count = rows.length ∧ (∀ other ≠ id, t.store.tables other = w.store.tables other) ∧
      (w.store.tables id = none → rows = []) ∧
      ∃ new, new.length = rows.length ∧
        t.store.tables id = (w.store.tables id).map (fun table => ⟨table.fields, table.rows ++ new⟩) ∧
        ∀ table, w.store.tables id = some table →
          List.Forall₂ (fun row added =>
            Takes env.db env.go schema table.fields row added.cells) rows new := by
  rw [insertRows] at ok
  split at ok
  next empty =>
    cases ok
    rw [isEmpty_iff.mp empty]
    exact ⟨rfl, fun _ _ => rfl, fun _ => rfl, [], rfl, by simp, fun _ _ => .nil⟩
  next some_rows =>
    obtain ⟨row, among⟩ := exists_mem_of_ne_nil rows (by simpa using some_rows)
    obtain ⟨_, u, inserted, ok⟩ := bind_ok_iff.mp ok
    cases ok
    obtain ⟨-, st, served, rfl⟩ := rpc_ok_iff.mp (wrapped_ok_iff.mp inserted)
    obtain ⟨-, -, served⟩ := bind_ok_iff.mp served
    obtain ⟨table, there, served⟩ := bind_ok_iff.mp served
    rw [(findTable_ok_iff.mp there).2]
    dsimp only at served
    split at served
    next nothing =>
      exact absurd nothing (by simp_all)
    obtain ⟨_, shaped, served⟩ := bind_ok_iff.mp served
    have width := Storage.DuckDBStorage.validateRowsShape_ok_iff.mp shaped ⟨_⟩
      (mem_map_of_mem (mem_map_of_mem among))
    rw [cellsToValues_eq_map, length_map, rowToProto_eq_map, length_map] at width
    obtain ⟨new, put, served⟩ := bind_ok_iff.mp served
    cases served
    rw [mapM_ok_iff, forall₂_map_left_iff, forall₂_map_left_iff] at put
    refine ⟨rfl, fun other differ => put_other _ _ differ, nofun, new, put.length_eq.symm,
      put_same _ _ _, fun _ same => ?_⟩
    cases same
    refine put.imp fun row added each => ?_
    obtain ⟨cells, kept, rfl⟩ := map_ok_iff.mp each
    exact ⟨width, kept⟩

theorem describeTable_ok (ok : outcome (describeTable env id) w = (.ok fields, t)) :
    (∃ table, w.store.tables id = some table ∧ fields = table.fields) ∧
      t = { w with calls := w.calls + 1 } := by
  obtain ⟨-, st, served, rfl⟩ := rpc_ok_iff.mp ok
  obtain ⟨-, -, served⟩ := bind_ok_iff.mp served
  obtain ⟨found, there, served⟩ := bind_ok_iff.mp served
  cases served
  exact ⟨⟨found, (findTable_ok_iff.mp there).2, rfl⟩, rfl⟩

theorem Preserved.refl (table : Table) : Preserved table table := by
  refine ⟨table.fields, [], by simp, ?_, by simp⟩
  exact forall₂_same.mpr fun _ _ => ⟨rfl, rfl, rfl, .inl rfl⟩

theorem valuesToCells_length {db : DuckDb}
    (sent : db.valuesToCells values = .ok cells) : cells.length = values.length := by
  induction values generalizing cells with
  | nil =>
    cases sent
    rfl
  | cons value rest ih =>
    obtain ⟨cell, -, sent⟩ := bind_ok_iff.mp sent
    obtain ⟨others, reads, sent⟩ := bind_ok_iff.mp sent
    cases sent
    rw [length_cons, ih reads, length_cons]

theorem recreateTable_ok
    (ok : outcome (recreateTable env id merged preserved) w = (.ok schema, t)) :
    ∃ new, t.store.tables id = some ⟨canonicalFields merged, new⟩ ∧
      List.Forall₂ (fun row added =>
        Takes env.db env.go merged (canonicalFields merged) row added.cells) preserved new := by
  obtain ⟨_, u, dropped, ok⟩ := bind_ok_iff.mp ok
  obtain ⟨_, v, registered, ok⟩ := bind_ok_iff.mp ok
  obtain ⟨_, x, inserted, ok⟩ := bind_ok_iff.mp ok
  cases ok
  obtain ⟨rfl, -⟩ := registerTable_ok_iff.mp (wrapped_ok_iff.mp registered)
  obtain ⟨-, -, -, new, -, stored, put⟩ := insertRows_ok (wrapped_ok_iff.mp inserted)
  rw [put_same] at stored
  exact ⟨new, stored, put _ (put_same _ _ _)⟩

theorem updateTable_ok (sound : Sound env.db table) (stored : w.store.tables id = some table)
    (ok : outcome (updateTable env id table.fields unchanged
      (mergeSchemas (schemaFromProto table.fields) load opts strict)) w = (.ok schema, t)) :
    ∃ merged changed, mergeSchemas (schemaFromProto table.fields) load opts strict =
        .ok (merged, changed) ∧
      ∃ after, t.store.tables id = some after ∧
        (Preserved table after ↔ (changed = true → Carriable env.db table)) := by
  obtain ⟨⟨merged, changed⟩, u, merge, ok⟩ := bind_ok_iff.mp ok
  obtain ⟨merging, same⟩ := Prod.mk.inj merge
  subst u
  refine ⟨merged, changed, merging, ?_⟩
  dsimp only at ok
  split at ok
  next changes =>
    obtain ⟨preserved, v, listed, ok⟩ := bind_ok_iff.mp ok
    obtain ⟨rounds, _, looked, listed⟩ := bind_ok_iff.mp listed
    cases looked
    obtain ⟨cells, x, pages, listed⟩ := bind_ok_iff.mp listed
    cases listed
    obtain ⟨-, -, read⟩ := listPages_ok (by omega) pages
    obtain ⟨kept, added, rfl, relaxed, fresh⟩ := mergeSchemas_ok merging
    obtain ⟨new, after, put⟩ := recreateTable_ok ok
    have bare : List.Forall₂ (fun field new => Relaxed (bareField field) new) table.fields kept :=
      forall₂_map_left_iff.mp relaxed
    have names : (schemaFromProto table.fields).map Field.name = table.fields.map Field.name := by
      rw [schemaFromProto, map_map]
      rfl
    rw [names] at fresh
    have keptNames : kept.map Field.name = table.fields.map Field.name := by
      refine (ext_getElem (by simp [bare.length_eq]) fun i here there => ?_).symm
      simp only [length_map] at here there
      rw [getElem_map, getElem_map]
      exact (bare.get here there).name.symm
    have same : List.Forall₂ SameColumn table.fields (kept.map canonical) := by
      rw [forall₂_map_right_iff]
      exact bare.imp fun _ _ each => sameColumn_of_relaxed each
    have all : List.Forall₂ (PutBack env.db added.length) table.rows new := by
      have sent := mapM_ok_iff.mp (read table stored)
      rw [forall₂_map_left_iff] at put
      have both := forall₂_compose.mpr ⟨cells, sent, put⟩
      have within : ∀ row ∈ table.rows, row ∈ table.rows := fun _ among => among
      refine ((forall₂_and_left _ _).mpr ⟨within, both⟩).imp ?_
      rintro row back ⟨among, cells, read, put⟩
      have held := sound.held row among
      have put := put.2
      rw [rowToProto_merged env.go sound.distinct (by rw [valuesToCells_length read, held.length_eq])
        keptNames fresh, cellsToValues_eq_map, map_append, map_map, map_replicate,
        canonicalFields_eq_map, map_append] at put
      rw [← length_map (f := canonical)]
      exact storeFields_carried same held read (by rw [length_map]; exact put)
    exact ⟨_, after, (preserved_iff sound bare all).trans (by simp [changes])⟩
  next same =>
    cases ok
    exact ⟨table, stored, iff_of_true (Preserved.refl table) fun changes => absurd changes same⟩

inductive SchemaUpdate where
  | apply (querySchema : Option (List Field)) (opts : List String)
  | resolve (cfg : LoadConfig) (loadSchema : Option (List Field))

namespace SchemaUpdate

def run (env : Env) (id : TableId) : SchemaUpdate → Client M (List Field)
  | .apply querySchema opts => applySchemaUpdate env id querySchema opts
  | .resolve cfg loadSchema => resolveDestinationSchema env cfg id loadSchema

def merging (fields : List Field) : SchemaUpdate → Option (Except Status (List Field × Bool))
  | .apply querySchema opts =>
    if opts.isEmpty || querySchema.isNone then none
    else some (mergeSchemas (schemaFromProto fields) querySchema opts false)
  | .resolve cfg loadSchema =>
    if cfg.disposition ≠ "WRITE_APPEND" ∨ cfg.schemaUpdateOptions = [] then none
    else some (mergeSchemas (schemaFromProto fields)
      (cfg.explicit loadSchema) cfg.schemaUpdateOptions false)

def Changes (update : SchemaUpdate) (fields : List Field) : Prop :=
  ∃ merged, update.merging fields = some (.ok (merged, true))

end SchemaUpdate

structure Present (st : Store) (id : TableId) (table : Table) : Prop where
  named : validateTableRef "DescribeTable" id = .ok ()
  found : findTable id st = .ok table

theorem Present.stored (present : Present st id table) : st.tables id = some table :=
  (findTable_ok_iff.mp present.found).2

/-- The answer of DescribeTable decides whether the table counts as existing. -/
theorem tableExists_outcome (present : Present w.store id table) :
    outcome (tableExists env id) w =
      (.ok (env.fails w.calls .describeTable).isNone, { w with calls := w.calls + 1 }) := by
  rw [tableExists, outcome_bind, outcome_attempt]
  unfold describeTable
  rw [outcome, rpc]
  cases env.fails w.calls .describeTable with
  | some status => rfl
  | none =>
    rw [serveDescribeTable, present.named, present.found]
    rfl

variable {update : SchemaUpdate}

theorem SchemaUpdate.changes_iff (merge : update.merging fields = some (.ok (merged, changed))) :
    update.Changes fields ↔ changed = true := by
  constructor
  · rintro ⟨other, changes⟩
    cases merge.symm.trans changes
    rfl
  · rintro rfl
    exact ⟨merged, merge⟩

/-- A schema update keeps the fields and the rows of a table, unless it changes the schema of a
table with nested fields, or with a double that its text of six digits does not fix. -/
theorem update_preserves_iff (present : Present w.store id table) (sound : Sound env.db table)
    (update : SchemaUpdate) {schema : List Field}
    (ok : outcome (update.run env id) w = (.ok schema, t)) :
    ∃ after, t.store.tables id = some after ∧
      (Preserved table after ↔
        (env.fails w.calls .describeTable = none → update.Changes table.fields →
          Carriable env.db table)) := by
  -- It comes to no merge, or the table is updated by the merged schema.
  have ended : t.store.tables id = some table ∧
        (env.fails w.calls .describeTable = none → update.merging table.fields = none) ∨
      env.fails w.calls .describeTable = none ∧ ∃ (u : World M) (load : Option (List Field)) (opts : _)
        (unchanged : _), u.store.tables id = some table ∧ update.merging table.fields =
          some (mergeSchemas (schemaFromProto table.fields) load opts false) ∧
        outcome (updateTable env id table.fields unchanged
          (mergeSchemas (schemaFromProto table.fields) load opts false)) u = (.ok schema, t) := by
    have stored := present.stored
    cases update with
    | apply querySchema opts =>
      obtain ⟨described, u, read, ok⟩ := bind_ok_iff.mp ok
      have up := (rpc_ok_iff.mp (wrapped_ok_iff.mp read)).1
      obtain ⟨⟨found, same, rfl⟩, rfl⟩ := describeTable_ok (wrapped_ok_iff.mp read)
      cases Option.some.inj (same.symm.trans stored)
      split at ok
      next idle =>
        cases ok
        exact .inl ⟨stored, fun _ => if_pos idle⟩
      next merges => exact .inr ⟨up, { w with calls := w.calls + 1 }, _, _, _, stored, if_neg merges, ok⟩
    | resolve cfg loadSchema =>
      change outcome (resolveDestinationSchema env cfg id loadSchema) w = _ at ok
      rw [resolveDestinationSchema] at ok
      split at ok
      next idle =>
        cases ok
        exact .inl ⟨stored, fun _ => if_pos idle⟩
      next merges =>
        rw [outcome_bind, tableExists_outcome present] at ok
        cases failed : env.fails w.calls .describeTable with
        | some status =>
          rw [failed] at ok
          cases ok
          exact .inl ⟨stored, nofun⟩
        | none =>
          rw [failed] at ok
          obtain ⟨described, u, read, ok⟩ := bind_ok_iff.mp ok
          obtain ⟨⟨found, same, rfl⟩, rfl⟩ := describeTable_ok (wrapped_ok_iff.mp read)
          cases Option.some.inj (same.symm.trans stored)
          exact .inr ⟨rfl, { w with calls := w.calls + 1 + 1 }, _, _, _, stored, if_neg merges, ok⟩
  rcases ended with ⟨stored, idle⟩ | ⟨up, u, load, opts, unchanged, stored, merge, ok⟩
  · refine ⟨table, stored, iff_of_true (Preserved.refl table) ?_⟩
    rintro up ⟨merged, changes⟩
    rw [idle up] at changes
    cases changes
  · obtain ⟨merged, changed, merging, after, put, preserved⟩ := updateTable_ok sound stored ok
    rw [merging] at merge
    refine ⟨after, put, preserved.trans ?_⟩
    rw [SchemaUpdate.changes_iff merge]
    exact ⟨fun carriable _ => carriable, fun carriable => carriable up⟩

/-- DuckDB and absl on the values below: the double 3.14159265 has the text 3.14159, which is
another double. -/
def sampleDb : DuckDb where
  doubleText bits :=
    if bits = 0 then "0" else if bits = 0x3fe0000000000000 then "0.5" else "3.14159"
  text _ := none
  bytes _ := []
  cast
    | .float64, text => .ok (.float64 (if text = "0" then 0
        else if text = "0.5" then 0x3fe0000000000000 else 0x400921f9f01b866e))
    | _, text => .ok (.string text)
  structText _ _ := .error ⟨.internal, "Parser Error"⟩
  packedDate _ := none
  time := Semantic.gregorian
  creates _ := .ok ()

def sampleEnv : Env where
  db := sampleDb
  go := ⟨fun _ => "", fun _ => "", fun _ => "", fun _ _ => none⟩

def sampleId : TableId := ⟨"p", "ds", "measures"⟩

def measures (bits : UInt64) : Table :=
  ⟨[.mk "value" "FLOAT64" "REQUIRED" "" []], [⟨[.float64 bits]⟩]⟩

def measuresWorld (bits : UInt64) : World Unit where
  store := ⟨fun _ _ => true, fun _ => some (measures bits)⟩
  metadata := fun _ => none
  calls := 0

/-- A query whose result has one more column. -/
def addUnit : SchemaUpdate :=
  .apply (some [.mk "value" "FLOAT64" "NULLABLE" "" [], .mk "unit" "STRING" "NULLABLE" "" []])
    ["ALLOW_FIELD_ADDITION"]

theorem measures_sound : Sound sampleDb (measures 0x3fe0000000000000) := by
  refine ⟨fun field among => ?_, by decide, fun row among => ?_⟩
  · cases mem_singleton.mp among
    rfl
  · cases mem_singleton.mp among
    exact .cons (.inr trivial) .nil

theorem update_keeps_half :
    addUnit.Changes (measures 0x3fe0000000000000).fields ∧ ∃ schema t after,
      outcome (addUnit.run sampleEnv sampleId) (measuresWorld 0x3fe0000000000000) = (.ok schema, t) ∧
        t.store.tables sampleId = some after ∧ Preserved (measures 0x3fe0000000000000) after := by
  have present : Present (measuresWorld 0x3fe0000000000000).store sampleId
      (measures 0x3fe0000000000000) := ⟨by decide +kernel, rfl⟩
  obtain ⟨schema, t, ran⟩ : ∃ schema t, outcome (addUnit.run sampleEnv sampleId)
      (measuresWorld 0x3fe0000000000000) = (.ok schema, t) := ⟨_, _, rfl⟩
  obtain ⟨after, stored, preserved⟩ := update_preserves_iff present measures_sound addUnit ran
  refine ⟨⟨_, rfl⟩, schema, t, after, ran, stored, preserved.mpr fun _ _ => ⟨?_, ?_⟩⟩
  · intro field among
    cases mem_singleton.mp among
    rfl
  · intro row among value within
    cases mem_singleton.mp among
    cases mem_singleton.mp within
    rfl

/-- Adding a column changes a double in an old row. -/
theorem update_rounds_double : ∃ schema after,
    (outcome (addUnit.run sampleEnv sampleId) (measuresWorld 0x400921fb53c8d4f1)).1 =
        .ok schema ∧
      (outcome (addUnit.run sampleEnv sampleId)
        (measuresWorld 0x400921fb53c8d4f1)).2.store.tables sampleId = some after ∧
      ¬ Preserved (measures 0x400921fb53c8d4f1) after := by
  refine ⟨_, _, rfl, rfl, ?_⟩
  rintro ⟨kept, added, -, -, rows⟩
  have cells := congrArg Row.cells (cons.inj rows).1
  exact absurd (Value.float64.inj (cons.inj cells).1) (by decide)
end BigQueryEmulator.Gateway
