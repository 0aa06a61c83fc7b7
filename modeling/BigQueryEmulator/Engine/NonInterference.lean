import BigQueryEmulator.Engine.Flow
import BigQueryEmulator.Engine.OwnRows

/-! What a principal learns from a SELECT on the DuckDB executor. Two stores look alike to a
principal when the rows that the row access policies admit agree outside the masked columns.
The masks are put on the finished rows, by the names of the output columns, and everything
before that runs on the stored cells: the answers are alike where a masked cell goes nowhere
but into an output column that is masked too. -/
namespace BigQueryEmulator.Engine
open Storage Fallible List RowAccessPolicyRecord

/-- A policy that grants the principal is TRUE for the row, or there is none at all. -/
def admitted (db : InMemoryDuckdb) (policies : List RowAccessPolicyRecord) (principal : String)
    (row : Row) : Bool :=
  policies.isEmpty || (applicablePolicies policies principal).any fun policy =>
    db.satisfies policy.filterPredicate row = some true

def maskedColumns (governance : TableGovernance) (principal : String) (schema : TableSchema) :
    Flags := fun i =>
  match (parquetStorageSchema schema).columns[i]? with
  | none => false
  | some column =>
    match findColumnGovernance governance.columns column.name with
    | none => false
    | some record => effectiveColumnMask record column.type principal ≠ .none

/-- Contents whose admitted rows agree outside the masked columns. -/
def SameView (db : InMemoryDuckdb) (governance : TableGovernance) (principal : String)
    (schema : TableSchema) (rows₁ rows₂ : List Row) : Prop :=
  List.Forall₂ (RowsAgree (maskedColumns governance principal schema))
    (rows₁.filter (admitted db governance.rowAccessPolicies principal))
    (rows₂.filter (admitted db governance.rowAccessPolicies principal))

/-- A table in two stores, alike to the principal now and at every archived time. -/
structure TableAlike (db : InMemoryDuckdb) (governance : TableGovernance) (principal : String)
    (files₁ files₂ : TableFiles) : Prop where
  schema : files₁.schema = files₂.schema
  index : files₁.index = files₂.index
  live : Option.Rel (SameView db governance principal files₁.schema) files₁.parquet files₂.parquet
  archived : ∀ file, Option.Rel (SameView db governance principal files₁.schema)
    (files₁.archive file) (files₂.archive file)

/-- Stores that differ only in rows that no applicable policy admits and in cells of columns
that are masked for the principal. -/
structure DifferInHidden (db : InMemoryDuckdb) (governing : Governing)
    (st₁ st₂ : DuckDBStorage) : Prop where
  datasets : st₁.datasetExists = st₂.datasetExists
  tables : ∀ id, Option.Rel (TableAlike db (governing.governance id) governing.principal)
    (st₁.tables id) (st₂.tables id)

def secretColumns (catalog : GoogleSqlCatalog) (governing : Governing) (st : DuckDBStorage) :
    Pointer → Flags := fun table =>
  match catalog.storageId table with
  | none => fun _ => false
  | some id =>
    match st.tables id with
    | none => fun _ => false
    | some files => maskedColumns (governing.governance id) governing.principal files.schema

/-- DuckDB on filters made of the given predicates: each stays what it is in parentheses, and a
disjunction is TRUE where a part is. -/
structure EvaluatesFilters (db : InMemoryDuckdb) (predicates : List String) : Prop where
  falsum : ∀ row, db.satisfies "(FALSE)" row ≠ some true
  enclosed : ∀ predicate ∈ predicates, ∀ row,
    db.satisfies (parenthesized predicate) row = some true ↔ db.satisfies predicate row = some true
  disjunction : ∀ parts : List String, parts.Sublist predicates → ∀ row,
    db.satisfies (parenthesized (" OR ".intercalate (parts.map parenthesized))) row = some true ↔
      ∃ predicate ∈ parts, db.satisfies predicate row = some true

section

variable {db : InMemoryDuckdb} {policies : List RowAccessPolicyRecord} {principal filter : String}

theorem parenthesized_isEmpty (predicate : String) : (parenthesized predicate).isEmpty = false := by
  rw [parenthesized, Bool.eq_false_iff]
  intro empty
  have blank := congrArg String.toList (String.isEmpty_iff.mp empty)
  simp at blank

theorem visible_of_iff (nonempty : filter.isEmpty = false)
    (same : ∀ row, db.satisfies filter row = some true ↔ keep row = true) (rows : List Row) :
    db.visible filter rows = rows.filter keep := by
  rw [InMemoryDuckdb.visible, nonempty, if_neg Bool.false_ne_true]
  refine filter_congr fun row _ => ?_
  rw [Bool.eq_iff_iff, decide_eq_true_iff]
  exact same row

theorem visible_composed (evaluates : EvaluatesFilters db (policies.map filterPredicate))
    (composed : composeRowAccessFilterSql policies principal = .ok filter) (rows : List Row) :
    db.visible filter rows = rows.filter (admitted db policies principal) := by
  unfold composeRowAccessFilterSql at composed
  split at composed
  next none =>
    cases composed
    have all : admitted db policies principal = fun _ => true := by
      funext row
      rw [admitted, none, Bool.true_or]
    rw [all, filter_true]
    rfl
  next some =>
    have any : ∀ row, admitted db policies principal row = true ↔
        ∃ policy ∈ applicablePolicies policies principal,
          db.satisfies policy.filterPredicate row = Option.some true := by
      intro row
      simp only [admitted, some, Bool.false_or, any_eq_true, decide_eq_true_eq]
    have chosen : ((applicablePolicies policies principal).map
        filterPredicate).Sublist
          (policies.map filterPredicate) :=
      filter_sublist.map _
    generalize applicablePolicies policies principal = applicable at composed any chosen
    split at composed
    next => cases composed
    split at composed
    next nobody =>
      cases composed
      cases map_eq_nil_iff.mp nobody
      refine visible_of_iff rfl (fun row => ?_) rows
      rw [any]
      simpa using evaluates.falsum row
    next part single =>
      cases composed
      obtain ⟨policy, rfl, rfl⟩ := map_eq_singleton_iff.mp single
      refine visible_of_iff (parenthesized_isEmpty _) (fun row => ?_) rows
      rw [any, evaluates.enclosed _ (chosen.subset (.head _))]
      simp
    next =>
      cases composed
      refine visible_of_iff (parenthesized_isEmpty _) (fun row => ?_) rows
      have parts := evaluates.disjunction _ chosen row
      rw [map_map] at parts
      rw [any]
      refine parts.trans ?_
      simp only [mem_map, exists_exists_and_eq_and]

end

section

variable {db : InMemoryDuckdb} {catalog : GoogleSqlCatalog} {governing : Governing}
  {st₁ st₂ : DuckDBStorage} {nowMs clockMs : Int}

theorem ensureTableMetaExists_alike (differ : DifferInHidden db governing st₁ st₂) (id : TableId) :
    Alike (fun files₁ files₂ => st₁.tables id = some files₁ ∧
        TableAlike db (governing.governance id) governing.principal files₁ files₂)
      (st₁.ensureTableMetaExists id) (st₂.ensureTableMetaExists id) := by
  have table := differ.tables id
  unfold DuckDBStorage.ensureTableMetaExists
  rw [differ.datasets]
  split
  · generalize st₁.tables id = first at table ⊢
    generalize st₂.tables id = second at table ⊢
    cases table with
    | none => exact .error _
    | some alike => exact .ok ⟨rfl, alike⟩
  · exact .error _

theorem rowAccessFilter_eq (differ : DifferInHidden db governing st₁ st₂) (id : TableId) :
    (governing.surroundings st₁ nowMs clockMs).rowAccessFilter id =
      (governing.surroundings st₂ nowMs clockMs).rowAccessFilter id := by
  have governance : getTableGovernance st₁ governing id = getTableGovernance st₂ governing id :=
    ((ensureTableMetaExists_alike differ id).bind fun _ _ _ => .ok rfl).eq
  simp only [Governing.surroundings, governance]

theorem isSome_eq (related : Option.Rel R a b) : a.isSome = b.isSome := by
  cases related with
  | none | some _ => rfl

theorem TableAlike.resolve_eq (alike : TableAlike db governance principal files₁ files₂)
    (id : TableId) (asOfMs nowMs clockMs : Int) :
    resolveParquetSnapshotAt id files₁ asOfMs nowMs clockMs =
      resolveParquetSnapshotAt id files₂ asOfMs nowMs clockMs := by
  simp only [resolveParquetSnapshotAt, loadVersionIndexOrInit, alike.index, isSome_eq alike.live,
    fun file => isSome_eq (alike.archived file)]
  rfl

theorem SameView.getD (related : Option.Rel (SameView db governance principal schema) a b) :
    SameView db governance principal schema (a.getD []) (b.getD []) := by
  cases related with
  | none => exact .nil
  | some same => exact same

theorem TableAlike.contentAt (alike : TableAlike db governance principal files₁ files₂)
    (path : SnapshotPath) :
    SameView db governance principal files₁.schema ((contentAt files₁ path).getD [])
      ((Storage.contentAt files₂ path).getD []) := by
  cases path with
  | live => exact SameView.getD alike.live
  | version file => exact SameView.getD (alike.archived file)

theorem rowsAt_alike (differ : DifferInHidden db governing st₁ st₂) (id : TableId)
    (asOf : Option Int) :
    Alike (fun rows₁ rows₂ => ∃ files, st₁.tables id = some files ∧
        SameView db (governing.governance id) governing.principal files.schema rows₁ rows₂)
      (rowsAt (governing.surroundings st₁ nowMs clockMs) id asOf)
      (rowsAt (governing.surroundings st₂ nowMs clockMs) id asOf) := by
  have metaExists := ensureTableMetaExists_alike differ id
  cases asOf with
  | none =>
    refine metaExists.map fun files₁ files₂ both => ⟨files₁, both.1, ?_⟩
    exact both.2.contentAt .live
  | some ms =>
    simp only [rowsAt, Governing.surroundings]
    generalize st₁.ensureTableMetaExists id = first at metaExists ⊢
    generalize st₂.ensureTableMetaExists id = second at metaExists ⊢
    cases metaExists with
    | error e => exact .error e
    | ok both =>
      dsimp only
      rw [both.2.resolve_eq]
      refine (Alike.refl _).map fun path _ equal => ⟨_, both.1, ?_⟩
      subst equal
      exact both.2.contentAt path

theorem ownRows_alike (evaluates : ∀ id, EvaluatesFilters db
      ((governing.governance id).rowAccessPolicies.map filterPredicate))
    (differ : DifferInHidden db governing st₁ st₂) (scan : TableScan) :
    Alike (List.Forall₂ (RowsAgree (secretColumns catalog governing st₁ scan.table)))
      (ownRows db catalog (governing.surroundings st₁ nowMs clockMs) scan)
      (ownRows db catalog (governing.surroundings st₂ nowMs clockMs) scan) := by
  unfold ownRows secretColumns
  cases catalog.storageId scan.table with
  | none => exact .error _
  | some id =>
    dsimp only
    refine (Alike.refl scan.asOf).bind fun asOf _ equal => ?_
    subst equal
    refine (rowsAt_alike differ id asOf).bind fun rows₁ rows₂ same => ?_
    obtain ⟨files, held, view⟩ := same
    rw [← rowAccessFilter_eq differ id, held]
    cases answered : (governing.surroundings st₁ nowMs clockMs).rowAccessFilter id with
    | error e => exact .error e
    | ok filter =>
      obtain ⟨governance, governed, composed⟩ := bind_ok answered
      obtain ⟨-, -, rfl⟩ : ∃ files, _ ∧ governing.governance id = governance := by
        obtain ⟨files, found, rest⟩ := bind_ok governed
        exact ⟨files, found, Except.ok.inj rest⟩
      refine .ok ?_
      rw [visible_composed (evaluates id) composed, visible_composed (evaluates id) composed]
      exact view

end

section

variable {db : InMemoryDuckdb} {catalog : GoogleSqlCatalog} {governing : Governing}
  {st₁ st₂ : DuckDBStorage} {nowMs clockMs : Int}

/-- Every scan of a query whose names are apart reads rows that differ in secret columns
alone. -/
theorem readsAlike_of_apart (evaluates : ∀ id, EvaluatesFilters db
      ((governing.governance id).rowAccessPolicies.map filterPredicate))
    (differ : DifferInHidden db governing st₁ st₂)
    (stored : ∀ scan ∈ query.tableScans, ∃ id, catalog.storageId scan.table = some id)
    (unshadowed : Unshadowed db catalog query) (apart : Apart db catalog query)
    (execution₁ : Execution db catalog (governing.surroundings st₁ nowMs clockMs) query reads₁)
    (execution₂ : Execution db catalog (governing.surroundings st₂ nowMs clockMs) query reads₂) :
    ∀ place ∈ query.places db [], ReadsAlike db catalog (secretColumns catalog governing st₁)
      execution₁.conn execution₂.conn place := by
  intro place member
  have own := readsOwnRows_of_apart stored unshadowed apart
  obtain ⟨rows₁, read₁, own₁⟩ := execution₁.forall₂_iff.mp
    (own _ _ (executeQuery_ok_iff.mpr ⟨execution₁⟩)) place member
  obtain ⟨rows₂, read₂, own₂⟩ := execution₂.forall₂_iff.mp
    (own _ _ (executeQuery_ok_iff.mpr ⟨execution₂⟩)) place member
  refine ⟨rows₁, rows₂, read₁, read₂, ?_⟩
  have alike : Alike (List.Forall₂ (RowsAgree (secretColumns catalog governing st₁ place.2.table)))
      (.ok rows₁) (.ok rows₂) := own₁ ▸ own₂ ▸ ownRows_alike evaluates differ place.2
  cases alike with
  | ok same => exact same

end

def Blind (sha256Hex : Value → String) (mask : OutputColumnMask) : Prop :=
  ∀ a b, applyOutputColumnMask sha256Hex mask a = applyOutputColumnMask sha256Hex mask b

variable {masks : List OutputColumnMask}

theorem mapM_zip_eq {f : OutputColumnMask × Value → Except Status Value}
    (long : xs.length = ys.length)
    (each : ∀ (i : Nat) mask x y, masks[i]? = some mask → xs[i]? = some x → ys[i]? = some y →
      f (mask, x) = f (mask, y)) :
    (masks.zip xs).mapM f = (masks.zip ys).mapM f := by
  induction masks generalizing xs ys with
  | nil => rfl
  | cons mask rest ih =>
    cases xs with
    | nil =>
      cases eq_nil_of_length_eq_zero long.symm
      rfl
    | cons x xs =>
      cases ys with
      | nil => cases long
      | cons y ys =>
        have first := each 0 mask x y rfl rfl rfl
        have others := ih (Nat.succ.inj long) fun i => each (i + 1)
        simp only [zip_cons_cons, mapM_cons, first, others]

theorem applyOutputColumnMasks_eq {sha256Hex : Value → String} (agree : Agree flags a b)
    (blind : ∀ (i : Nat) mask, masks[i]? = some mask → flags i = true → Blind sha256Hex mask) :
    applyOutputColumnMasks sha256Hex masks ⟨listed width a⟩ =
      applyOutputColumnMasks sha256Hex masks ⟨listed width b⟩ := by
  have long : (listed width a).length = (listed width b).length := by simp [listed]
  have cells : (masks.zip (listed width a)).mapM
        (fun (mask, cell) => applyOutputColumnMask sha256Hex mask cell) =
      (masks.zip (listed width b)).mapM
        (fun (mask, cell) => applyOutputColumnMask sha256Hex mask cell) := by
    refine mapM_zip_eq long fun i mask x y found atA atB => ?_
    simp only [listed, getElem?_map, Option.map_eq_some_iff] at atA atB
    obtain ⟨_, position, rfl⟩ := atA
    obtain ⟨_, position', rfl⟩ := atB
    cases position.symm.trans position'
    obtain ⟨-, rfl⟩ := List.getElem?_eq_some_iff.mp position
    rw [getElem_range]
    cases flagged : flags i with
    | true => exact blind i mask found flagged _ _
    | false => rw [agree i flagged]
  simp only [applyOutputColumnMasks, long, cells]

def Select.governedColumns (catalog : GoogleSqlCatalog) (governing : Governing) (select : Select) :
    List (String × ColumnGovernanceRecord) :=
  match TableScanCollector.visit select.plan.scan {} with
  | .ok collector => mergedColumns catalog governing.governance collector.tables
  | .error _ => []

/-- Masked cells go nowhere but into output columns whose names are masked blindly. -/
structure Select.Confined (catalog : GoogleSqlCatalog) (governing : Governing) (st : DuckDBStorage)
    (select : Select) : Prop where
  discreet : select.plan.Discreet (secretColumns catalog governing st) fun _ _ => false
  masked : ∀ (i : Nat) column, select.output[i]? = some column →
    select.plan.carries (secretColumns catalog governing st) (fun _ _ => false) i = true →
    Blind governing.sha256Hex
      (outputColumnMask (select.governedColumns catalog governing) governing.principal column)

/-- Stores that differ only in what is hidden from the principal answer the same, rows and
errors, to every SELECT over storage tables that is confined, as long as each scan has its
table's relation to itself. -/
theorem select_blind_to_hidden (db : InMemoryDuckdb) (catalog : GoogleSqlCatalog)
    (governing : Governing) (st₁ st₂ : DuckDBStorage) (nowMs clockMs : Int) (select : Select)
    (evaluates : ∀ id, EvaluatesFilters db
      ((governing.governance id).rowAccessPolicies.map filterPredicate))
    (differ : DifferInHidden db governing st₁ st₂)
    (stored : ∀ scan ∈ select.plan.scan.tableScans, ∃ id, catalog.storageId scan.table = some id)
    (unshadowed : Unshadowed db catalog select.plan.scan)
    (apart : Apart db catalog select.plan.scan) (confined : select.Confined catalog governing st₁) :
    executeSelect db catalog governing st₁ nowMs clockMs select =
      executeSelect db catalog governing st₂ nowMs clockMs select := by
  refine Alike.eq ?_
  unfold executeSelect
  cases emitted : emitScan catalog select.plan.scan with
  | none => exact .error _
  | some sql =>
    refine (Alike.refl _).bind_of_ok fun collector _ visited _ equal => ?_
    subst equal
    have step : setRowAccessFilter catalog (governing.surroundings st₁ nowMs clockMs) =
        setRowAccessFilter catalog (governing.surroundings st₂ nowMs clockMs) := by
      funext sofar pointer
      simp only [setRowAccessFilter, rowAccessFilter_eq differ]
    refine (Alike.of_eq (by simp only [applyGovernanceToCollector, step])).bind_of_ok
      fun governed _ governs₁ governs₂ equal => ?_
    subst equal
    have tables : ∀ pointer ∈ governed.tables, ∃ id, catalog.storageId pointer = some id := by
      have collected := visit_collected visited
      intro pointer member
      rw [(applyGovernance_governed collected.unfiltered governs₁).tables,
        collected.tables] at member
      obtain ⟨scan, found, rfl⟩ := member
      exact stored scan found
    refine (Alike.foldlM (fun pointer member _ _ (_ : True) => ?_) trivial).bind_of_ok
      fun conn₁ conn₂ attached₁ attached₂ _ => ?_
    · obtain ⟨id, held⟩ := tables pointer member
      rw [attachTable_eq held, attachTable_eq held]
      exact (rowsAt_alike differ id _).map fun _ _ _ => trivial
    have reads := readsAlike_of_apart evaluates differ stored unshadowed apart
      ⟨sql, collector, governed, conn₁, emitted, visited, governs₁, attached₁, rfl⟩
      ⟨sql, collector, governed, conn₂, emitted, visited, governs₂, attached₂, rfl⟩
    refine (Plan.eval_alike (fun _ => .none) select.plan confined.discreet reads).bind
      fun rows₁ rows₂ same => ?_
    refine .ok (same.map_eq fun a b agree => applyOutputColumnMasks_eq agree ?_)
    intro i mask found flagged
    rw [buildOutputColumnMasks, getElem?_map, Option.map_eq_some_iff] at found
    obtain ⟨column, named, rfl⟩ := found
    have blind := confined.masked i column named flagged
    rwa [Select.governedColumns, visited] at blind

def people : TableId := ⟨"p", "ds", "people"⟩

def peopleSchema : TableSchema :=
  ⟨[{ name := "id", type := .int64 }, { name := "ssn", type := .string }]⟩

def peopleCatalog : GoogleSqlCatalog where
  heap := fun pointer =>
    if pointer = 0 then some (GoogleSqlCatalog.storageTable people peopleSchema) else none

def peopleStore (rows : List Row) : DuckDBStorage where
  datasetExists := fun _ _ => true
  tables := fun id =>
    if id = people then some { schema := peopleSchema, parquet := some rows, index := none }
    else none

def smallId (row : Row) : Bool :=
  match row.cells with
  | .int64 id :: _ => id < 10
  | _ => false

def knowsSmallId : InMemoryDuckdb where
  identifier := fun quoted => quoted
  satisfies := fun filter row =>
    some (filter ∈ ["id < 10", "(id < 10)", "((id < 10))"] && smallId row)

def ssnHidden : Governing where
  governance := fun _ => {
    rowAccessPolicies := [
      { policyId := "small", filterPredicate := "id < 10", grantees := ["allUsers"] }]
    columns := [("ssn", { maskKind := .nullify })] }
  principal := "someone@example.com"
  sha256Hex := fun _ => ""

def scanPeople : Plan := .tableScan { table := 0, columns := [(0, "id"), (1, "ssn")] }

/-- `SELECT id, ssn FROM people WHERE id = 1`. -/
def selectFirst : Select where
  plan := .choose "FilterScan" (fun _ : Fin 1 => .column 0) (fun keys => .ok
    (keys.zipIdx.filterMap fun (key, i) =>
      match key with
      | [.int64 1] => some i
      | _ => none)) scanPeople
  output := [{ name := "id", type := .int64 }, { name := "ssn", type := .string }]
  shaped := rfl

/-- `SELECT ssn AS x FROM people`. -/
def selectAlias : Select where
  plan := .project (fun _ : Fin 1 => .column 1) scanPeople
  output := [{ name := "x", type := .string }]
  shaped := rfl

/-- `SELECT id FROM people WHERE ssn = '123'`. -/
def selectBySsn : Select where
  plan := .project (fun _ : Fin 1 => .column 0) (.choose "FilterScan" (fun _ : Fin 1 => .column 1)
    (fun keys => .ok (keys.zipIdx.filterMap fun (key, i) =>
      match key with
      | [.string "123"] => some i
      | _ => none)) scanPeople)
  output := [{ name := "id", type := .int64 }]
  shaped := rfl

theorem evaluates_small : EvaluatesFilters knowsSmallId ["id < 10"] where
  falsum := fun row => by simp [knowsSmallId]
  enclosed := fun predicate member row => by
    cases mem_singleton.mp member
    rfl
  disjunction := fun parts chosen row => by
    rcases sublist_singleton.mp chosen with rfl | rfl <;> simp [knowsSmallId, parenthesized]

theorem peopleStore_differ (first second : String) {hidden : List Row}
    (large : ∀ row ∈ hidden, smallId row = false) :
    DifferInHidden knowsSmallId ssnHidden (peopleStore (⟨[.int64 1, .string first]⟩ :: hidden))
      (peopleStore [⟨[.int64 1, .string second]⟩]) where
  datasets := rfl
  tables := fun id => by
    have none : hidden.filter (admitted knowsSmallId (ssnHidden.governance id).rowAccessPolicies
        ssnHidden.principal) = [] := by
      refine filter_eq_nil_iff.mpr fun row member => ?_
      simp [admitted, ssnHidden, applicablePolicies, granteesIncludePrincipal,
        granteeMatchesPrincipal, knowsSmallId, large row member]
    have same : RowsAgree (maskedColumns (ssnHidden.governance id) ssnHidden.principal peopleSchema)
        ⟨[.int64 1, .string first]⟩ ⟨[.int64 1, .string second]⟩ := by
      intro i unflagged
      match i with
      | 0 => rfl
      | 1 => exact absurd unflagged (by simp [maskedColumns, parquetStorageSchema, peopleSchema,
          findColumnGovernance, ssnHidden, effectiveColumnMask])
      | i + 2 => rfl
    simp only [peopleStore]
    split
    · refine .some ⟨rfl, rfl, .some ?_, fun _ => .none⟩
      rw [SameView, filter_cons_of_pos rfl, none]
      exact .cons same .nil
    · exact .none

/-- A masked number and a row that no policy admits do not show in the answer. -/
theorem selectFirst_blind :
    executeSelect knowsSmallId peopleCatalog ssnHidden
        (peopleStore [⟨[.int64 1, .string "123"]⟩, ⟨[.int64 20, .string "999"]⟩]) 0 0 selectFirst =
      executeSelect knowsSmallId peopleCatalog ssnHidden
        (peopleStore [⟨[.int64 1, .string "456"]⟩]) 0 0 selectFirst ∧
    executeSelect knowsSmallId peopleCatalog ssnHidden
        (peopleStore [⟨[.int64 1, .string "456"]⟩]) 0 0 selectFirst =
      .ok [.ok ⟨[.int64 1, .null]⟩] := by
  refine ⟨select_blind_to_hidden _ _ _ _ _ _ _ _ (fun _ => evaluates_small)
    (peopleStore_differ "123" "456" (forall_mem_singleton.mpr rfl)) ?_ ?_ ?_ ⟨?_, ?_⟩, rfl⟩
  · intro scan member
    cases mem_singleton.mp member
    exact ⟨people, rfl⟩
  · intro place member id _
    cases mem_singleton.mp member
    exact not_mem_nil
  · intro a inA b inB idA idB heldA heldB _
    cases mem_singleton.mp inA
    cases mem_singleton.mp inB
    cases heldA.symm.trans heldB
    exact ⟨rfl, rfl⟩
  · exact ⟨trivial, fun _ => rfl⟩
  · intro i column named flagged a b
    match i with
    | 0 => cases flagged
    | 1 =>
      cases named
      rfl
    | i + 2 => cases named

/-- Under another name the masked number is answered as it is stored, and a filter on it tells
stores apart that differ in it alone. -/
theorem alias_and_filter_show_masked :
    DifferInHidden knowsSmallId ssnHidden (peopleStore [⟨[.int64 1, .string "123"]⟩])
        (peopleStore [⟨[.int64 1, .string "456"]⟩]) ∧
      (executeSelect knowsSmallId peopleCatalog ssnHidden
          (peopleStore [⟨[.int64 1, .string "123"]⟩]) 0 0 selectAlias =
            .ok [.ok ⟨[.string "123"]⟩] ∧
        executeSelect knowsSmallId peopleCatalog ssnHidden
          (peopleStore [⟨[.int64 1, .string "456"]⟩]) 0 0 selectAlias =
            .ok [.ok ⟨[.string "456"]⟩]) ∧
      executeSelect knowsSmallId peopleCatalog ssnHidden
          (peopleStore [⟨[.int64 1, .string "123"]⟩]) 0 0 selectBySsn = .ok [.ok ⟨[.int64 1]⟩] ∧
        executeSelect knowsSmallId peopleCatalog ssnHidden
          (peopleStore [⟨[.int64 1, .string "456"]⟩]) 0 0 selectBySsn = .ok [] := by
  exact ⟨peopleStore_differ "123" "456" (fun _ member => by cases member), ⟨rfl, rfl⟩, rfl, rfl⟩

end BigQueryEmulator.Engine
