import BigQueryEmulator.Ddl.LoadedFiles
import BigQueryEmulator.Gateway.FailedJobs

/-! In which columns of an existing table a load puts the values of its source. The rows of a
load job are laid out by one schema and taken by position in another one; LOAD DATA does not look
at the names at all. -/
namespace BigQueryEmulator.Gateway
open Storage (Status Value Row TableId)
open Effects Fallible Work
open List hiding after count
variable {M : Type} {env : Env} {w u t : World M} {id : TableId} {table : Table}

section
variable {db : DuckDb} {go : Go}

theorem goValueToCell_ne_null (given : value ≠ .nil) : goValueToCell go value ≠ .null := by
  cases value with
  | nil => exact absurd rfl given
  | _ => rw [goValueToCell]; exact fun same => by cases same

theorem plainCell_ne_null (field : Field) (given : value ≠ .nil) :
    plainCell go field value ≠ .null := by
  unfold plainCell
  split
  next =>
    split
    · exact fun same => by cases same
    · exact goValueToCell_ne_null given
  next => exact goValueToCell_ne_null given

theorem fieldCell_ne_null (field : Field) (given : value ≠ .nil) :
    fieldCell go field value ≠ .null := by
  unfold fieldCell repeatedCell
  split
  next =>
    split
    · exact fun same => by cases same
    · exact goValueToCell_ne_null given
  next => exact plainCell_ne_null field given

theorem cellToValue_ne_null (given : cell ≠ .null) : cellToValue cell ≠ .null := by
  cases cell with
  | null => exact absurd rfl given
  | _ => rw [cellToValue]; exact fun same => by cases same

/-- No literal but NULL is stored as NULL. -/
def Solid (db : DuckDb) : Prop :=
  (∀ type text, db.cast type text ≠ .ok .null) ∧ ∀ fields text, db.structText fields text ≠ .ok .null

theorem storeScalar_ne_null (solid : Solid db) (type : Storage.ColumnType) (value : Value) :
    db.storeScalar type value ≠ .ok .null := by
  unfold DuckDb.storeScalar
  split
  all_goals first
    | exact solid.1 _ _
    | exact fun same => by cases same

theorem storePlain_ne_null (solid : Solid db) (field : Field) (given : value ≠ .null) :
    db.storePlain field value ≠ .ok .null := by
  cases field with
  | mk name type mode description fields =>
    intro null
    rw [DuckDb.storePlain.eq_def] at null
    split at null
    next => exact given rfl
    split at null
    next =>
      split at null
      next =>
        split at null
        · obtain ⟨_, -, same⟩ := map_ok_iff.mp null
          cases same
        · cases null
      next =>
        split at null
        · exact solid.2 _ _ null
        · cases null
      next => cases null
    next => exact storeScalar_ne_null solid _ _ null

theorem storeColumn_ne_null (solid : Solid db) (given : value ≠ .null)
    (ok : storeColumn db field value = .ok stored) : stored ≠ .null := by
  rintro rfl
  unfold storeColumn DuckDb.storeRepeated at ok
  split at ok
  next =>
    split at ok
    · exact given rfl
    · obtain ⟨_, -, same⟩ := map_ok_iff.mp ok
      cases same
    · cases ok
  next => exact storePlain_ne_null solid field given ok

theorem storeFields_ok_iff (shaped : values.length = fields.length) :
    db.storeFields fields values = .ok stored ↔
      List.Forall₂ (fun column cell => storeColumn db column.1 column.2 = .ok cell)
        (fields.zip values) stored := by
  induction fields generalizing values stored with
  | nil =>
    rw [zip_nil_left, forall₂_nil_left_iff, DuckDb.storeFields.eq_2]
    · exact ⟨fun ok => by cases ok; rfl, fun empty => by rw [empty]⟩
    · intro field rest value values impossible
      cases impossible
  | cons field rest ih =>
    cases values with
    | nil => cases shaped
    | cons value values =>
      rw [storeFields_cons_ok_iff, zip_cons_cons, forall₂_cons_left_iff]
      simp only [ih (Nat.succ.inj shaped)]

theorem takes_iff :
    Takes db go laid taken row added ↔ laid.length = taken.length ∧ added.length = taken.length ∧
      ∀ i (l : i < laid.length) (f : i < taken.length) (a : i < added.length),
        storeColumn db taken[i] (cellToValue (columnCell go row laid[i])) = .ok added[i] := by
  unfold Takes
  refine and_congr_right fun shaped => ?_
  rw [cellsToValues_eq_map, rowToProto_eq_map, storeFields_ok_iff (by simpa using shaped),
    forall₂_iff_get]
  constructor
  · rintro ⟨length, each⟩
    refine ⟨by simpa [shaped] using length.symm, fun i l f a => ?_⟩
    simpa using each i (by simp [l, f]) a
  · rintro ⟨length, each⟩
    refine ⟨by simp [shaped, length], fun i zipped a => ?_⟩
    have f : i < taken.length := length ▸ a
    simpa using each i (shaped ▸ f) f a

/-- The values of a source field reach the column as they would if they were laid out for it. -/
def Carries (db : DuckDb) (go : Go) (laid taken : Field) : Prop :=
  ∀ value stored, storeColumn db taken (cellToValue (fieldCell go laid value)) = .ok stored ↔
    storeColumn db taken (cellToValue (fieldCell go taken value)) = .ok stored

/-- The names of the fields are those of the columns, in their order, and the fields of STRUCT
columns carry the values of the columns. -/
def Matches (db : DuckDb) (go : Go) (laid taken : List Field) : Prop :=
  laid.map Field.name = taken.map Field.name ∧
    List.Forall₂ (fun field column =>
      parseColumnType column.type = .struct → Carries db go field column) laid taken

def Storable (db : DuckDb) (go : Go) (field : Field) : Prop :=
  ∃ value stored, value ≠ .nil ∧
    storeColumn db field (cellToValue (fieldCell go field value)) = .ok stored

/-- What a column that is no STRUCT can tell of a cell. -/
def Cell.outline : Cell → Cell
  | .array _ => .array []
  | .struct _ => .struct []
  | cell => cell

/-- What a REPEATED column whose elements are no STRUCTs can tell of a cell. -/
def Cell.elementOutlines : Cell → Cell
  | .array elements => .array (elements.map Cell.outline)
  | cell => cell.outline

theorem goValuesToCells_eq_map :
    ∀ values, goValuesToCells go values = values.map (goValueToCell go) :=
  eq_map_of (by rw [goValuesToCells]) fun _ _ => by rw [goValuesToCells]

/-- The outlines of a cell do not depend on the field for which it was made. -/
theorem fieldCell_outlines (field : Field) (value : GoValue) :
    (fieldCell go field value).elementOutlines = (goValueToCell go value).elementOutlines := by
  unfold fieldCell repeatedCell
  split
  next =>
    split
    next elements =>
      rw [goValueToCell, goValuesToCells_eq_map, Cell.elementOutlines, Cell.elementOutlines,
        map_map, map_map]
      congr 1
      refine map_congr_left fun element _ => ?_
      dsimp only [Function.comp_apply]
      unfold plainCell
      split
      next => split <;> rfl
      next => rfl
    next => rfl
  next =>
    change (plainCell go field value).elementOutlines = _
    unfold plainCell
    split
    next =>
      split <;> rfl
    next => rfl

theorem storeScalar_outline (type : Storage.ColumnType) (cell : Cell) :
    db.storeScalar type (cellToValue cell.outline) = db.storeScalar type (cellToValue cell) := by
  cases cell with
  | null => rfl
  | string text => rfl
  | array | struct =>
    rw [Cell.outline, cellToValue, cellToValue]
    cases type <;> rfl

theorem storePlain_outline (scalar : parseColumnType field.type ≠ .struct) (cell : Cell) :
    db.storePlain field (cellToValue cell.outline) = db.storePlain field (cellToValue cell) := by
  have as_scalar (value : Value) (given : value ≠ .null) :
      db.storePlain field value = db.storeScalar (parseColumnType field.type) value := by
    cases field with
    | mk name type mode description fields =>
      rw [DuckDb.storePlain.eq_def]
      cases value with
      | null => exact absurd rfl given
      | _ => exact if_neg scalar
  cases cell with
  | null => rfl
  | string text => rfl
  | array | struct =>
    rw [as_scalar _ (cellToValue_ne_null (by rintro ⟨⟩)), storeScalar_outline,
      as_scalar _ (cellToValue_ne_null (by rintro ⟨⟩))]

theorem storeColumn_outlines (scalar : parseColumnType field.type ≠ .struct) (cell : Cell) :
    storeColumn db field (cellToValue cell.elementOutlines) =
      storeColumn db field (cellToValue cell) := by
  unfold storeColumn DuckDb.storeRepeated
  split
  next =>
    cases cell with
    | null => rfl
    | string text => rfl
    | array elements =>
      rw [Cell.elementOutlines, cellToValue, cellToValue, cellsToValues_eq_map,
        cellsToValues_eq_map, map_map]
      dsimp only
      congr 1
      rw [mapM_map, mapM_map]
      congr 1
      funext element
      exact storePlain_outline scalar element
    | struct fields =>
      rw [Cell.elementOutlines, Cell.outline, cellToValue, cellToValue]
      · rintro _ ⟨⟩
  next =>
    have same : db.storePlain field (cellToValue cell.elementOutlines) =
        db.storePlain field (cellToValue cell.outline) := by
      cases cell with
      | array elements =>
        rw [← storePlain_outline scalar (Cell.elementOutlines _)]
        rfl
      | _ => rfl
    rw [same, storePlain_outline scalar]

/-- A column that is no STRUCT takes what every field lays out for it. -/
theorem carries_of_scalar (scalar : parseColumnType taken.type ≠ .struct) :
    Carries db go laid taken := by
  intro value stored
  rw [← storeColumn_outlines scalar (fieldCell go laid value), fieldCell_outlines,
    ← fieldCell_outlines taken value, storeColumn_outlines scalar]

theorem columnCell_single (go : Go) (name : String) (value : GoValue) (field : Field) :
    columnCell go [(name, value)] field =
      if field.name = name then fieldCell go field value else .null := by
  unfold columnCell
  by_cases same : field.name = name
  · rw [if_pos same, lookup_cons, same, beq_self_eq_true]
  · rw [if_neg same, lookup_cons, beq_false_of_ne same, lookup_nil]

theorem name_at {laid taken : List Field} (names : laid.map Field.name = taken.map Field.name)
    (l : i < laid.length) (f : i < taken.length) : laid[i].name = taken[i].name := by
  have at_i := congrArg (fun list => list[i]?) names
  simpa [l, f] using at_i

theorem takes_single_iff (names : laid.map Field.name = taken.map Field.name) :
    Takes db go laid taken [(name, value)]
        (taken.map fun field => if field.name = name then stored else .null) ↔
      ∀ i (l : i < laid.length) (f : i < taken.length), taken[i].name = name →
        storeColumn db taken[i] (cellToValue (fieldCell go laid[i] value)) = .ok stored := by
  have shaped : laid.length = taken.length := by simpa using congrArg length names
  rw [takes_iff, and_iff_right shaped, and_iff_right (length_map _)]
  constructor
  · intro each i l f here
    have at_i := each i l f (by simpa using f)
    rwa [columnCell_single, getElem_map, name_at names l f, if_pos here, if_pos here] at at_i
  · intro ok i l f a
    rw [columnCell_single, getElem_map, name_at names l f]
    by_cases here : taken[i].name = name
    · rw [if_pos here, if_pos here]
      exact ok i l f here
    · rw [if_neg here, if_neg here]
      exact storeColumn_null db _

theorem takes_by_name (fits : Matches db go laid taken) :
    Takes db go taken taken row added ↔ Takes db go laid taken row added := by
  obtain ⟨names, structs⟩ := fits
  have carries : List.Forall₂ (Carries db go) laid taken := by
    refine structs.imp fun field column carried => ?_
    by_cases struct : parseColumnType column.type = .struct
    · exact carried struct
    · exact carries_of_scalar struct
  have shaped : laid.length = taken.length := by simpa using congrArg length names
  rw [takes_iff, takes_iff]
  refine and_congr (iff_of_true rfl shaped) (and_congr_right fun length => ?_)
  have each (i : Nat) (l : i < laid.length) (f : i < taken.length) (stored : Value) :
      storeColumn db taken[i] (cellToValue (columnCell go row taken[i])) = .ok stored ↔
        storeColumn db taken[i] (cellToValue (columnCell go row laid[i])) = .ok stored := by
    unfold columnCell
    rw [name_at names l f]
    cases row.lookup taken[i].name with
    | none => exact Iff.rfl
    | some value => exact ((forall₂_iff_get.mp carries).2 i l f value stored).symm
  constructor
  · exact fun all i l f a => (each i l f _).mp (all i f f a)
  · exact fun all i _ f a => (each i (shaped ▸ f) f _).mpr (all i (shaped ▸ f) f a)

/-- Rows of every content are taken by name exactly if the two schemas match. -/
theorem takes_by_name_iff (solid : Solid db) (distinct : (taken.map Field.name).Nodup)
    (storable : ∀ field ∈ taken, Storable db go field) :
    (∀ row added, Takes db go taken taken row added ↔ Takes db go laid taken row added) ↔
      Matches db go laid taken := by
  constructor
  · intro by_name
    have empty : Takes db go taken taken [] (taken.map fun _ => .null) :=
      takes_iff.mpr ⟨rfl, length_map _, fun i l f a => by
        rw [getElem_map]; exact storeColumn_null db _⟩
    have shaped : laid.length = taken.length := ((by_name _ _).mp empty).1
    have names : laid.map Field.name = taken.map Field.name := by
      refine ext_getElem (by simpa using shaped) fun i l f => ?_
      rw [getElem_map, getElem_map]
      rw [length_map] at l f
      by_contra differ
      obtain ⟨value, stored, given, own⟩ : ∃ value stored, value ≠ GoValue.nil ∧
          ∀ j (g : j < taken.length), taken[j].name = laid[i].name →
            storeColumn db taken[j] (cellToValue (fieldCell go taken[j] value)) = .ok stored := by
        by_cases there : ∃ field ∈ taken, field.name = laid[i].name
        · obtain ⟨field, among, same⟩ := there
          obtain ⟨value, stored, given, ok⟩ := storable field among
          refine ⟨value, stored, given, fun j g named => ?_⟩
          have one : taken[j] = field :=
            inj_on_of_nodup_map distinct (getElem_mem g) among (named.trans same.symm)
          rw [one]
          exact ok
        · refine ⟨.string "", .null, by rintro ⟨⟩, fun j g named => ?_⟩
          exact absurd ⟨taken[j], getElem_mem g, named⟩ there
      have taken_by_name := (takes_single_iff rfl).mpr fun j _ g named => own j g named
      have at_i := (takes_iff.mp ((by_name _ _).mp taken_by_name)).2.2 i l f (by simpa using f)
      rw [columnCell_single, if_pos rfl, getElem_map,
        if_neg fun same => differ same.symm] at at_i
      exact storeColumn_ne_null solid (cellToValue_ne_null (fieldCell_ne_null _ given)) at_i rfl
    refine ⟨names, forall₂_iff_get.mpr ⟨shaped, fun i l f _ value stored => ?_⟩⟩
    have one {j : Nat} (g : j < taken.length) (named : taken[j].name = taken[i].name) : j = i := by
      have at_j := distinct.get_inj_iff (i := ⟨j, by simpa using g⟩) (j := ⟨i, by simpa using f⟩)
      simpa using at_j.mp (by simpa using named)
    have single {fields : List Field} (named : fields.map Field.name = taken.map Field.name)
        (g : i < fields.length) : Takes db go fields taken [(taken[i].name, value)]
          (taken.map fun field => if field.name = taken[i].name then stored else .null) ↔
        storeColumn db taken[i] (cellToValue (fieldCell go fields[i] value)) = .ok stored := by
      refine (takes_single_iff named).trans ⟨fun all => all i g f rfl, fun ok j _ here same => ?_⟩
      obtain rfl := one here same
      exact ok
    exact (single names l).symm.trans ((by_name _ _).symm.trans (single rfl f))
  · intro fits row added
    exact takes_by_name fits

section
variable {laid taken : Field}

theorem storePlain_struct_iff (struct : parseColumnType taken.type = .struct) (cells : List Cell) :
    db.storePlain taken (cellToValue (.struct cells)) = .ok stored ↔
      cells.length = taken.fields.length ∧ ∃ added,
        db.storeFields taken.fields (cellsToValues cells) = .ok added ∧ .struct added = stored := by
  obtain ⟨name, type, mode, description, fields⟩ := taken
  change parseColumnType type = .struct at struct
  rw [cellToValue, DuckDb.storePlain.eq_def]
  simp only [struct, cellsToValues_eq_map, length_map, if_true, Field.fields]
  split
  next fits => rw [map_ok_iff, and_iff_right fits]
  next differs => exact iff_of_false (by rintro ⟨⟩) fun both => differs both.1

theorem storeColumn_array_iff (repeated : DuckDb.isRepeated taken = true) :
    storeColumn db taken (cellToValue (.array cells)) = .ok stored ↔ ∃ elements,
      List.Forall₂ (fun cell element => db.storePlain taken (cellToValue cell) = .ok element) cells
        elements ∧ .array elements = stored := by
  have ran : storeColumn db taken (cellToValue (.array cells)) =
      ((cells.map cellToValue).mapM (db.storePlain taken)).map .array := by
    rw [cellToValue, cellsToValues_eq_map]
    exact if_pos repeated
  rw [ran, map_ok_iff]
  simp only [mapM_ok_iff, forall₂_map_left_iff]

theorem storeColumn_single (single : DuckDb.isRepeated taken = false) (value : Value) :
    storeColumn db taken value = db.storePlain taken value := by
  unfold storeColumn DuckDb.storeRepeated
  rw [single]
  rfl

theorem plainCell_map (field : Field) (row : GoRow) : plainCell go field (.map row) =
    if isStructFieldType field.type then .struct (rowToProto go field.fields row)
    else goValueToCell go (.map row) := by
  cases field
  exact plainCell.eq_1 ..

theorem takes_iff_storePlain (struct : parseColumnType taken.type = .struct)
    (typed : isStructFieldType laid.type = true) :
    Takes db go laid.fields taken.fields row added ↔
      db.storePlain taken (cellToValue (plainCell go laid (.map row))) = .ok (.struct added) := by
  rw [plainCell_map, if_pos typed, storePlain_struct_iff struct, Takes, rowToProto_eq_map, length_map]
  simp

/-- Of the objects that are laid out in their own order, the one without entries has too few of them
for a column with fields, and one with an entry has too many for a column without. -/
theorem not_taken_in_order (struct : parseColumnType taken.type = .struct)
    (typed : isStructFieldType taken.type = true) :
    ¬ ∀ row stored, db.storePlain taken (cellToValue (goValueToCell go (.map row))) = .ok stored ↔
      db.storePlain taken (cellToValue (plainCell go taken (.map row))) = .ok stored := by
  intro same
  have sized (row : GoRow) (missing : ∀ field ∈ taken.fields, row.lookup field.name = none) :
      (goEntriesToCells go row).length = taken.fields.length := by
    have nulls : Takes db go taken.fields taken.fields row (taken.fields.map fun _ => .null) :=
      takes_iff.mpr ⟨rfl, length_map _, fun i l f a => by
        rw [getElem_map, columnCell, missing _ (getElem_mem f)]; exact storeColumn_null db _⟩
    have ok := (same row _).mpr ((takes_iff_storePlain struct typed).mp nulls)
    rw [goValueToCell] at ok
    exact ((storePlain_struct_iff struct _).mp ok).1
  have empty : taken.fields = [] := eq_nil_of_length_eq_zero (sized [] fun _ _ => rfl).symm
  have one := sized [("", .nil)] (by simp [empty])
  rw [empty] at one
  cases one

/-- What a field of the other mode lays out for an object is in the order of the object. -/
theorem Carries.objects (carries : Carries db go laid taken)
    (moded : isRepeatedFieldMode taken.mode = DuckDb.isRepeated taken) (row : GoRow) (stored : Value) :
    db.storePlain taken (cellToValue (
        if isRepeatedFieldMode laid.mode = isRepeatedFieldMode taken.mode then
          plainCell go laid (.map row)
        else goValueToCell go (.map row))) = .ok stored ↔
      db.storePlain taken (cellToValue (plainCell go taken (.map row))) = .ok stored := by
  cases repeated : isRepeatedFieldMode taken.mode with
  | false =>
    have one := carries (.map row) stored
    rw [storeColumn_single (moded ▸ repeated), storeColumn_single (moded ▸ repeated)] at one
    unfold fieldCell repeatedCell at one
    rw [repeated] at one
    cases other : isRepeatedFieldMode laid.mode <;> simpa [other] using one
  | true =>
    have one := carries (.list [.map row]) (.array [stored])
    have element (field : Field) : fieldCell go field (.list [.map row]) =
        .array [if isRepeatedFieldMode field.mode = true then plainCell go field (.map row)
          else goValueToCell go (.map row)] := by
      unfold fieldCell repeatedCell
      split
      · rfl
      · cases field
        simp [plainCell, goValueToCell, goValuesToCells]
    rw [element, element, if_pos repeated, storeColumn_array_iff (moded ▸ repeated),
      storeColumn_array_iff (moded ▸ repeated)] at one
    simpa using one

/-- A STRUCT column is carried exactly by a STRUCT field of the same mode whose fields have the names
of the column's, in their order, and carry the STRUCTs among them. -/
theorem carries_struct_iff (struct : parseColumnType taken.type = .struct)
    (typed : isStructFieldType taken.type = true)
    (moded : isRepeatedFieldMode taken.mode = DuckDb.isRepeated taken) (solid : Solid db)
    (distinct : (taken.fields.map Field.name).Nodup)
    (storable : ∀ field ∈ taken.fields, Storable db go field) :
    Carries db go laid taken ↔ isStructFieldType laid.type = true ∧
      isRepeatedFieldMode laid.mode = isRepeatedFieldMode taken.mode ∧
        Matches db go laid.fields taken.fields := by
  rw [← takes_by_name_iff solid distinct storable]
  constructor
  · intro carries
    have objects := carries.objects moded
    have mode : isRepeatedFieldMode laid.mode = isRepeatedFieldMode taken.mode := by
      by_contra other
      simp only [if_neg other] at objects
      exact not_taken_in_order struct typed objects
    simp only [if_pos mode] at objects
    have kind : isStructFieldType laid.type = true := by
      by_contra other
      simp only [plainCell_map laid, if_neg other] at objects
      exact not_taken_in_order struct typed objects
    refine ⟨kind, mode, fun row added => ?_⟩
    rw [takes_iff_storePlain struct typed, takes_iff_storePlain struct kind]
    exact (objects row _).symm
  · rintro ⟨kind, mode, by_name⟩
    have plain (value : GoValue) (stored : Value) :
        db.storePlain taken (cellToValue (plainCell go laid value)) = .ok stored ↔
          db.storePlain taken (cellToValue (plainCell go taken value)) = .ok stored := by
      cases value with
      | map row =>
        rw [plainCell_map, plainCell_map, if_pos kind, if_pos typed, storePlain_struct_iff struct,
          storePlain_struct_iff struct]
        simp only [Takes, ← exists_and_left, ← and_assoc, rowToProto_eq_map, length_map] at by_name ⊢
        simp only [by_name]
      | _ => cases laid; cases taken; rfl
    intro value stored
    unfold fieldCell repeatedCell
    rw [mode]
    split
    next repeated =>
      cases value with
      | list => simp [storeColumn_array_iff (moded ▸ repeated), plain]
      | _ => rfl
    next single =>
      rw [Bool.not_eq_true, moded] at single
      rw [storeColumn_single single, storeColumn_single single]
      exact plain _ _

end

end

theorem insertRows_adds_iff (present : Present u.store id table)
    (up : env.fails u.calls .insertRows = none) :
    (∃ t, outcome (insertRows env id laid rows) u = (.ok rows.length, t) ∧
        t.store.tables id = some ⟨table.fields, table.rows ++ new⟩) ↔
      List.Forall₂ (fun row added => Takes env.db env.go laid table.fields row added.cells) rows
        new := by
  constructor
  · rintro ⟨t, ran, stored⟩
    obtain ⟨-, -, -, added, -, put, takes⟩ := insertRows_ok ran
    rw [stored, present.stored] at put
    obtain rfl := append_cancel_left (congrArg Table.rows (Option.some.inj put))
    exact takes table present.stored
  · intro takes
    cases takes with
    | nil => exact ⟨u, rfl, by rw [append_nil]; exact present.stored⟩
    | @cons row added rest others first more =>
      have served : serveInsertRows env.db id ((row :: rest).map (rowToProto env.go laid)) u.store =
          .ok ((), u.store.put id (some ⟨table.fields, table.rows ++ added :: others⟩)) := by
        unfold serveInsertRows
        rw [bind_of_ok (validateTableRef_ok_iff.mpr (validateTableRef_ok_iff.mp present.named)),
          bind_of_ok present.found, if_neg (by simp)]
        refine bind_ok_iff.mpr ⟨(),
          Storage.DuckDBStorage.validateRowsShape_ok_iff.mpr fun values among => ?_,
          bind_ok_iff.mpr ⟨added :: others, ?_, rfl⟩⟩
        · obtain ⟨cells, listed, rfl⟩ := mem_map.mp among
          obtain ⟨source, -, rfl⟩ := mem_map.mp listed
          rw [cellsToValues_eq_map, length_map, rowToProto_eq_map, length_map, first.1]
        · rw [mapM_ok_iff, forall₂_map_left_iff, forall₂_map_left_iff]
          exact .cons (map_ok_iff.mpr ⟨added.cells, first.2, rfl⟩)
            (more.imp fun _ added each => map_ok_iff.mpr ⟨added.cells, each.2, rfl⟩)
      exact ⟨_, Work.bind_ok_iff.mpr ⟨(), _, wrapped_ok_iff.mpr (rpc_ok_iff.mpr
        ⟨up, _, served, rfl⟩), rfl⟩, Store.put_same _ _ _⟩

section
variable {job : LoadJob} {schema : Option (List Field)} {rows : List GoRow}

def LoadJob.merging (job : LoadJob) (table : Table) (schema : Option (List Field)) :
    Except Status (List Field × Bool) :=
  mergeSchemas (schemaFromProto table.fields)
    (job.explicit schema) job.schemaUpdateOptions false

/-- The schema by which the rows are laid out, where the destination keeps its own: that of the
load, and with schema update options that of the destination without the nested fields. -/
def LoadJob.laid (job : LoadJob) (table : Table) (schema : Option (List Field)) : List Field :=
  if job.schemaUpdateOptions = [] then schema.getD [] else schemaFromProto table.fields

structure LoadJob.Appends (job : LoadJob) (schema : Option (List Field)) (rows : List GoRow) :
    Prop where
  disposition : job.disposition = "WRITE_APPEND"
  sources : job.hasSources = true
  parsed : ∀ read, job.parse read = .ok (schema, rows)

/-- If every call is served, the job comes down to the schema, the disposition and the rows. -/
theorem executeLoad_run (present : Present w.store job.destination table)
    (calm : ∀ n call, env.fails n call = none) (appends : job.Appends schema rows) :
    ∃ v : World M, Present v.store job.destination table ∧
      outcome (executeLoad env job) w = outcome (do
        let proto ← resolveDestinationSchema env job.toLoadConfig job.destination schema
        applyWriteDisposition env job.disposition job.destination proto
        insertRows env job.destination proto rows) v := by
  have names := validateTableRef_ok_iff.mp present.named
  obtain ⟨read, u, seen, store⟩ : ∃ read u, outcome (loadParseSchema env job) w = (.ok read, u) ∧
      u.store = w.store := by
    unfold loadParseSchema
    split
    · exact ⟨_, _, existingDestinationSchema_run present fun n => calm n _, rfl⟩
    · exact ⟨job.schema, w, rfl, rfl⟩
  rw [← store] at present
  obtain ⟨v, ensured, present, -⟩ := ensureDataset_present present (calm u.calls .registerDataset)
  refine ⟨v, present, ?_⟩
  unfold executeLoad
  rw [if_neg names.2.2, if_neg (by simp [appends.sources]), outcome_bind_ok seen, outcome_bind,
    outcome_step, appends.parsed]
  dsimp only
  rw [outcome_bind_ok ensured]

section
variable (job) (present : Present w.store job.destination table)
  (calm : ∀ n call, env.fails n call = none) (appends : job.Appends schema rows)
include present calm appends

/-- Where the schema stays, the job is one insertion. -/
theorem executeLoad_unchanged
    (unchanged : ∀ merged, job.merging table schema ≠ .ok (merged, true)) :
    ∃ u : World M, Present u.store job.destination table ∧ outcome (executeLoad env job) w =
      outcome (insertRows env job.destination (job.laid table schema) rows) u := by
  obtain ⟨v, present, run⟩ := executeLoad_run present calm appends
  obtain ⟨x, resolved, present⟩ : ∃ x : World M,
      outcome (resolveDestinationSchema env job.toLoadConfig job.destination schema) v =
        (.ok (job.laid table schema), x) ∧ Present x.store job.destination table := by
    unfold LoadJob.laid
    by_cases asked : job.schemaUpdateOptions = []
    · rw [if_pos asked]
      unfold resolveDestinationSchema
      rw [if_pos (.inr asked)]
      exact ⟨v, rfl, present⟩
    rw [resolveDestinationSchema_run present (fun n _ => calm n _) appends.disposition asked,
      ← LoadJob.merging, if_neg asked]
    obtain ⟨merged, changed, merge⟩ : ∃ merged changed,
        job.merging table schema = .ok (merged, changed) := by
      unfold LoadJob.merging mergeSchemas
      split
      · exact ⟨_, _, rfl⟩
      dsimp only
      split <;> exact ⟨_, _, rfl⟩
    cases changed with
    | true => exact absurd merge (unchanged merged)
    | false =>
      rw [merge]
      exact ⟨_, rfl, present⟩
  refine ⟨{ x with calls := x.calls + 1 }, present, ?_⟩
  rw [run, outcome_bind_ok resolved, appends.disposition,
    outcome_bind_ok (append_passes present (calm _ _))]

/-- Where the schema changes, the rows are laid out by the merged one. -/
theorem executeLoad_changed (changed : job.merging table schema = .ok (merged, true))
    (ok : outcome (executeLoad env job) w = (.ok count, t)) :
    ∃ old new, t.store.tables job.destination = some ⟨canonicalFields merged, old ++ new⟩ ∧
      List.Forall₂ (fun row added =>
        Takes env.db env.go merged (canonicalFields merged) row added.cells) rows new := by
  obtain ⟨v, present, run⟩ := executeLoad_run present calm appends
  have asked : job.schemaUpdateOptions ≠ [] := by
    intro none_asked
    rw [LoadJob.merging, none_asked] at changed
    generalize job.explicit schema = load at changed
    cases load <;> cases changed
  rw [run] at ok
  obtain ⟨proto, x, resolved, ok⟩ := Work.bind_ok_iff.mp ok
  obtain ⟨_, y, disposed, inserted⟩ := Work.bind_ok_iff.mp ok
  rw [resolveDestinationSchema_run present (fun n _ => calm n _) appends.disposition asked,
    ← LoadJob.merging, changed] at resolved
  obtain ⟨_, u, merges, resolved⟩ := Work.bind_ok_iff.mp resolved
  cases merges
  obtain ⟨preserved, z, -, recreated⟩ := Work.bind_ok_iff.mp resolved
  obtain ⟨old, stored, -⟩ := recreateTable_ok recreated
  obtain ⟨_, _, -, ended⟩ := Work.bind_ok_iff.mp recreated
  obtain ⟨_, _, -, ended⟩ := Work.bind_ok_iff.mp ended
  obtain ⟨_, _, -, ended⟩ := Work.bind_ok_iff.mp ended
  cases ended
  have kept : Still x y := by
    refine ((applyWriteDisposition_ensures (Still.refl x) ?_).of_ok disposed).resolve_right ?_
    · intro truncates
      rw [appends.disposition] at truncates
      exact absurd truncates (by decide)
    · rintro ⟨gone, -⟩
      rw [gone] at stored
      cases stored
  rw [← kept.tables] at stored
  obtain ⟨-, -, -, new, -, added, each⟩ := insertRows_ok inserted
  rw [stored] at added
  exact ⟨old, new, added, each _ stored⟩

end

/-- The job stores exactly the rows that hold the values of the source by name: those that are
laid out by the columns of the table themselves, where a missing name is NULL. -/
def LoadJob.LoadsByName (env : Env) (job : LoadJob) (w : World M) (table : Table)
    (rows : List GoRow) : Prop :=
  ∀ new : List Row,
    List.Forall₂ (fun row added =>
        Takes env.db env.go table.fields table.fields row added.cells) rows new ↔
      ∃ t, outcome (executeLoad env job) w = (.ok rows.length, t) ∧
        t.store.tables job.destination = some ⟨table.fields, table.rows ++ new⟩

theorem loads_by_name_iff (solid : Solid env.db) (present : Present w.store job.destination table)
    (distinct : (table.fields.map Field.name).Nodup)
    (storable : ∀ field ∈ table.fields, Storable env.db env.go field)
    (calm : ∀ n call, env.fails n call = none) (disposition : job.disposition = "WRITE_APPEND")
    (sources : job.hasSources = true)
    (unchanged : ∀ merged, job.merging table schema ≠ .ok (merged, true)) :
    (∀ rows, LoadJob.LoadsByName env { job with parse := fun _ => .ok (schema, rows) } w table
        rows) ↔
      Matches env.db env.go (job.laid table schema) table.fields := by
  have single_iff (rows : List GoRow) :
      LoadJob.LoadsByName env { job with parse := fun _ => .ok (schema, rows) } w table rows ↔
        ∀ new : List Row,
          List.Forall₂ (fun row added =>
              Takes env.db env.go table.fields table.fields row added.cells) rows new ↔
            List.Forall₂ (fun row added =>
              Takes env.db env.go (job.laid table schema) table.fields row added.cells) rows new := by
    obtain ⟨u, present, run⟩ := executeLoad_unchanged
      { job with parse := fun _ => .ok (schema, rows) } present calm
      ⟨disposition, sources, fun _ => rfl⟩ unchanged
    refine forall_congr' fun new => iff_congr Iff.rfl ?_
    rw [run]
    exact insertRows_adds_iff present (calm _ _)
  rw [← takes_by_name_iff solid distinct storable]
  constructor
  · intro by_name row added
    have one := (single_iff [row]).mp (by_name [row]) [⟨added⟩]
    simpa using one
  · intro by_name rows
    refine (single_iff rows).mpr fun new => ?_
    simp only [by_name]

end

def pairs : Table :=
  ⟨[.mk "a" "STRING" "NULLABLE" "" [], .mk "b" "STRING" "NULLABLE" "" []],
    [⟨[.string "0", .string "0"]⟩]⟩

def pairsWorld : World Unit where
  store := ⟨fun _ _ => true, fun _ => some pairs⟩
  metadata := fun _ => none
  calls := 0

def pairsRow : GoRow := [("a", .string "1"), ("b", .string "2")]

/-- A load of one row, with the columns in the order of the fields. -/
def pairsLoad (schema : List Field) : LoadJob where
  destination := sampleId
  schema := schema
  parse _ := .ok (schema, [pairsRow])

/-- The same with one more column, which is added to the table. -/
def tripleFields : List Field := pairs.fields ++ [.mk "c" "STRING" "NULLABLE" "" []]

def triplesLoad : LoadJob :=
  { pairsLoad tripleFields with schemaUpdateOptions := ["ALLOW_FIELD_ADDITION"] }

/-- LOAD DATA INTO a table with the same columns. -/
def pairsFile : Ddl.LoadDataStmt where
  namePath := ["ds", "pairs"]
  insertionMode := .append
  fromFilesOptions := [⟨"uris", .ok "", .ok ["pairs.csv"]⟩]

def pairsRelation : Ddl.Table where
  schema := ⟨[{ name := "a", type := .string }, { name := "b", type := .string }]⟩
  rows := [⟨[.string "0", .string "0"]⟩]
  shaped := by simp

theorem sampleDb_solid : Solid sampleDb := by
  constructor
  · intro type text null
    cases type <;> cases null
  · intro fields text null
    cases null

theorem pairs_storable : ∀ field ∈ pairs.fields, Storable sampleDb sampleEnv.go field := by
  intro field among
  simp only [pairs, mem_cons, not_mem_nil, or_false] at among
  rcases among with rfl | rfl <;> exact ⟨.string "", .string "", by rintro ⟨⟩, rfl⟩

theorem matches_self (fields : List Field) : Matches db go fields fields :=
  ⟨rfl, forall₂_same.mpr fun _ _ _ _ _ => Iff.rfl⟩

end BigQueryEmulator.Gateway
