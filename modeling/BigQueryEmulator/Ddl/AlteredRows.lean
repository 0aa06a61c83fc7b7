import BigQueryEmulator.Ddl.AlterTable

/-! What ALTER TABLE should leave: each column with the place it had before the statement.
Copying by position follows the places, copying by name loses a renamed column. -/
namespace BigQueryEmulator.Ddl
open Storage Effects Fallible
open List hiding count

/-- A column and its place before the statement, if it had one. -/
structure Tracked where
  column : ColumnSchema
  origin : Option Nat

open Tracked (origin column)

def Tracked.hasName (name : String) (tracked : Tracked) : Bool := Ddl.hasName name tracked.column

def Tracked.cell (row : Row) (tracked : Tracked) : Value :=
  match tracked.origin with
  | some place => row.cells.getD place .null
  | none => .null

def evolve (columns : List Tracked) : AlterAction → List Tracked
  | .addColumn definition _ =>
    match definition.schema with
    | .error _ => columns
    | .ok column =>
      if columns.any (Tracked.hasName definition.name) then columns
      else columns ++ [⟨column, none⟩]
  | .dropColumn name _ => columns.eraseP (Tracked.hasName name)
  | .renameColumn name newName _ =>
    updateFirst (Tracked.hasName name)
      (fun tracked => { tracked with column.name := newName }) columns
  | .setOptions | .unsupported _ => columns

def places (columns : List ColumnSchema) : List Tracked :=
  columns.zipIdx.map fun (column, place) => ⟨column, some place⟩

def evolution (columns : List ColumnSchema) (actions : List AlterAction) : List Tracked :=
  actions.foldl evolve (places columns)

def addsColumn : List Tracked → List AlterAction → Bool
  | _, [] => false
  | columns, action :: rest =>
    decide (columns.length < (evolve columns action).length) || addsColumn (evolve columns action) rest

def AlterAction.dropsOrRenames : AlterAction → Bool
  | .dropColumn _ _ | .renameColumn _ _ _ => true
  | .addColumn _ _ | .setOptions | .unsupported _ => false

def evolvedTable (table : Table) (actions : List AlterAction) : List ColumnSchema × List Row :=
  let columns := evolution table.schema.columns actions
  (columns.map column, table.rows.map fun row => ⟨columns.map (Tracked.cell row)⟩)

/-- The rows are copied by position, not at all, or by names that give the same values. -/
def CopiesRight (table : Table) (actions : List AlterAction) : Prop :=
  addsColumn (places table.schema.columns) actions = true ∨
    actions.any AlterAction.dropsOrRenames = false ∨
    ∀ row ∈ table.rows, ∀ tracked ∈ evolution table.schema.columns actions,
      cellNamed table.schema.columns row tracked.column.name = tracked.cell row

section
variable {α β : Type}

theorem updateFirst_map {update : β → β} {f : α → β} {update' : α → α}
    (commutes : ∀ x, f (update' x) = update (f x)) (xs : List α) :
    (updateFirst (fun x => matched (f x)) update' xs).map f =
      updateFirst matched update (xs.map f) := by
  induction xs with
  | nil => rfl
  | cons x rest ih =>
    rw [updateFirst, map_cons, updateFirst]
    split
    · rw [map_cons, commutes]
    · rw [map_cons, ih]

variable {matched : α → Bool}

theorem updateFirst_absent {xs : List α} (absent : xs.any matched = false)
    (update : α → α) : updateFirst matched update xs = xs := by
  induction xs with
  | nil => rfl
  | cons x rest ih =>
    rw [any_cons, Bool.or_eq_false_iff] at absent
    rw [updateFirst, if_neg (by simp [absent.1]), ih absent.2]

theorem updateFirst_keeps {f : α → β} (kept : ∀ x, f (update x) = f x) (xs : List α) :
    (updateFirst matched update xs).map f = xs.map f := by
  induction xs with
  | nil => rfl
  | cons x rest ih =>
    rw [updateFirst]
    split
    · rw [map_cons, kept, map_cons]
    · rw [map_cons, ih, map_cons]

theorem eraseP_absent {xs : List α} (absent : xs.any matched = false) :
    xs.eraseP matched = xs :=
  eraseP_of_forall_not fun x among => any_eq_false.mp absent x among

end

section
variable {target : TableId} {alteration next : Alteration} {columns : List Tracked}
  {action : AlterAction}

/-- Where the columns of the alteration are, after some actions on `count` columns. -/
structure Follows (count : Nat) (alteration : Alteration) (columns : List Tracked) : Prop where
  same : alteration.columns = columns.map column
  /-- Unless a column was dropped, all are at their places, with the added ones behind them. -/
  origins : columns.length < count + alteration.added.length ∨
    columns.map origin =
      (range count).map some ++ replicate alteration.added.length none

theorem Follows.length_le (follows : Follows count alteration columns) :
    columns.length ≤ count + alteration.added.length := by
  rcases follows.origins with fewer | all
  · exact fewer.le
  · have lengths := congrArg length all
    simp only [length_map, length_append, length_range, length_replicate]
      at lengths
    exact lengths.le

theorem result_of_found {columns found : List ColumnSchema}
    (absent : columns.any p = false → found = columns)
    (ok : (if columns.any p then .ok found else if ifExists = true then .ok columns
      else .error e : Except Status (List ColumnSchema)) = .ok result) : result = found := by
  split at ok
  · cases ok
    rfl
  next none =>
    split at ok
    · cases ok
      exact (absent (Bool.eq_false_iff.mpr none)).symm
    · cases ok

theorem applyAlterAction_cases (same : alteration.columns = columns.map column)
    (ok : applyAlterAction target alteration action = .ok next) :
    (next = alteration ∧ evolve columns action = columns ∧ action.dropsOrRenames = false) ∨
    (∃ column, next = ⟨alteration.columns ++ [column], alteration.added ++ [column], true⟩ ∧
      evolve columns action = columns ++ [⟨column, none⟩] ∧ action.dropsOrRenames = false) ∨
    (next = { alteration with columns := (evolve columns action).map column, changed := true } ∧
      action.dropsOrRenames = true ∧
      ((evolve columns action).length < columns.length ∨
        (evolve columns action).map origin = columns.map origin)) := by
  cases action with
  | addColumn definition ifNotExists =>
    obtain ⟨found, processed, ok⟩ := bind_ok ok
    rw [processAddColumnAction, same, any_map] at processed
    split at processed
    next already =>
      split at processed
      · cases processed
        cases ok
        refine .inl ⟨rfl, ?_, rfl⟩
        rw [evolve]
        split
        · rfl
        · exact if_pos already
      · cases processed
    next fresh =>
      obtain ⟨⟨type, mode⟩, converted, rfl⟩ := map_ok_iff.mp processed
      cases ok
      refine .inr (.inl ⟨_, rfl, ?_, rfl⟩)
      rw [evolve, converted]
      exact if_neg fresh
  | dropColumn name ifExists =>
    obtain ⟨dropped, processed, rfl⟩ := map_ok_iff.mp ok
    refine .inr (.inr ⟨?_, rfl, ?_⟩)
    · rw [result_of_found eraseP_absent processed, evolve, same, eraseP_map]
      rfl
    · cases found : columns.any (Tracked.hasName name) with
      | true =>
        obtain ⟨tracked, among, matches_⟩ := any_eq_true.mp found
        have shorter := length_eraseP_add_one among matches_
        rw [evolve]
        omega
      | false => exact .inr (by rw [evolve, eraseP_absent found])
  | renameColumn name newName ifExists =>
    obtain ⟨renamed, processed, rfl⟩ := map_ok_iff.mp ok
    refine .inr (.inr ⟨?_, rfl, .inr ?_⟩)
    · rw [result_of_found (fun absent => updateFirst_absent absent _) processed, same]
      refine congrArg (Alteration.mk · _ true) (Eq.symm ?_)
      refine @updateFirst_map _ _ (hasName name) _ column _ ?_ columns
      exact fun _ => rfl
    · apply updateFirst_keeps
      exact fun _ => rfl
  | setOptions =>
    cases ok
    exact .inl ⟨rfl, rfl, rfl⟩
  | unsupported kind => cases ok

theorem columns_step (same : alteration.columns = columns.map column)
    (ok : applyAlterAction target alteration action = .ok next) :
    next.columns = (evolve columns action).map column := by
  rcases applyAlterAction_cases same ok with ⟨rfl, evolved, -⟩ | ⟨column, rfl, evolved, -⟩ | ⟨rfl, -⟩
  · rw [evolved, same]
  · rw [evolved, map_append, same]
    rfl
  · rfl

theorem Follows.step (follows : Follows count alteration columns)
    (ok : applyAlterAction target alteration action = .ok next) :
    Follows count next (evolve columns action) := by
  refine ⟨columns_step follows.same ok, ?_⟩
  have shorter := follows.length_le
  rcases applyAlterAction_cases follows.same ok with
    ⟨rfl, evolved, -⟩ | ⟨column, rfl, evolved, -⟩ | ⟨rfl, -, erased⟩
  · rw [evolved]
    exact follows.origins
  · rw [evolved, length_append, length_append, length_singleton,
      length_singleton]
    rcases follows.origins with fewer | all
    · left
      omega
    · right
      rw [map_append, all, append_assoc, replicate_succ']
      rfl
  · rcases erased with fewer | origins
    · exact .inl (fewer.trans_le shorter)
    rcases follows.origins with fewer | all
    · have lengths := congrArg length origins
      rw [length_map, length_map] at lengths
      exact .inl (lengths ▸ fewer)
    · exact .inr (origins.trans all)

end

section
variable {target : TableId} {alteration final : Alteration} {columns : List Tracked}
  {actions : List AlterAction} {count : Nat}

theorem Follows.run (follows : Follows count alteration columns)
    (ok : actions.foldlM (applyAlterAction target) alteration = .ok final) :
    Follows count final (actions.foldl evolve columns) := by
  induction actions generalizing alteration columns with
  | nil =>
    cases ok
    exact follows
  | cons action rest ih =>
    obtain ⟨next, stepped, ok⟩ := bind_ok ok
    exact ih (follows.step stepped) ok

section
variable (same : alteration.columns = columns.map column)
  (ok : actions.foldlM (applyAlterAction target) alteration = .ok final)
include same ok

theorem added_iff :
    final.added ≠ [] ↔ alteration.added ≠ [] ∨ addsColumn columns actions = true := by
  induction actions generalizing alteration columns with
  | nil =>
    cases ok
    simp [addsColumn]
  | cons action rest ih =>
    obtain ⟨next, stepped, ok⟩ := bind_ok ok
    rw [ih (columns_step same stepped) ok, addsColumn]
    rcases applyAlterAction_cases same stepped with
      ⟨rfl, evolved, -⟩ | ⟨column, rfl, evolved, -⟩ | ⟨rfl, -, erased⟩
    · simp [evolved]
    · simp [evolved]
    have noLonger : ¬ columns.length < (evolve columns action).length := by
      rcases erased with fewer | origins
      · omega
      · have lengths := congrArg length origins
        rw [length_map, length_map] at lengths
        omega
    simp [noLonger]

theorem unchanged_iff :
    final.changed = false ↔ alteration.changed = false ∧ addsColumn columns actions = false ∧
      actions.any AlterAction.dropsOrRenames = false := by
  induction actions generalizing alteration columns with
  | nil =>
    cases ok
    simp [addsColumn]
  | cons action rest ih =>
    obtain ⟨next, stepped, ok⟩ := bind_ok ok
    rw [ih (columns_step same stepped) ok, addsColumn, any_cons]
    rcases applyAlterAction_cases same stepped with
      ⟨rfl, evolved, keeps⟩ | ⟨column, rfl, evolved, -⟩ | ⟨rfl, drops, -⟩
    · simp [evolved, keeps]
    · simp [evolved]
    · simp [drops]

theorem evolution_unchanged
    (unchanged : final.changed = false) : actions.foldl evolve columns = columns := by
  induction actions generalizing alteration columns with
  | nil => rfl
  | cons action rest ih =>
    obtain ⟨next, stepped, ok⟩ := bind_ok ok
    have still := (unchanged_iff (columns_step same stepped) ok).mp unchanged
    rw [foldl_cons, ih (columns_step same stepped) ok]
    rcases applyAlterAction_cases same stepped with
      ⟨rfl, evolved, -⟩ | ⟨column, rfl, -⟩ | ⟨rfl, -⟩
    · exact evolved
    · cases still.1
    · cases still.1

end

end

section
variable {table : Table} {row : Row} (columns : List ColumnSchema)

theorem map_column_places :
    (places columns).map column = columns := by
  rw [places, map_map]
  exact zipIdx_map_fst 0 columns

theorem map_origin_places :
    (places columns).map origin = (range columns.length).map some := by
  rw [places, map_map, range_eq_range', ← zipIdx_map_snd 0 columns, map_map]
  rfl

theorem follows_places :
    Follows columns.length ⟨columns, [], false⟩ (places columns) where
  same := (map_column_places columns).symm
  origins := .inr (by rw [map_origin_places]; simp)

theorem cells_in_place {columns : List Tracked} (origins : columns.map origin =
      (range row.cells.length).map some ++ replicate added none) :
    columns.map (Tracked.cell row) = row.cells ++ replicate added .null := by
  have placed : columns.map (Tracked.cell row) = (columns.map origin).map fun origin =>
      match origin with
      | some place => row.cells.getD place .null
      | none => .null := by
    rw [map_map]
    rfl
  rw [placed, origins, map_append, map_map, map_replicate]
  congr 1
  apply ext_getElem
  · simp
  · intro place first second
    simp [getElem?_eq_getElem second]

end

section
variable {target : TableId} {table : Table} {actions : List AlterAction} {env : StorageFaults}
  {st after : Store}

theorem rebuild_ok
    (ok : (rebuildTableWithColumns target schema rows env).outcome st = (.ok done, after)) :
    ∃ rebuilt, after.tables target = some rebuilt ∧ rebuilt.schema = schema ∧
      rebuilt.rows = rows := by
  obtain ⟨_, dropped, drop, ok⟩ := Work.bind_ok_iff.mp ok
  obtain ⟨_, created, create, ok⟩ := Work.bind_ok_iff.mp ok
  obtain ⟨-, -, home, rfl⟩ := createTable_ok create
  split at ok
  next empty =>
    obtain ⟨-, rfl⟩ := Prod.mk.inj ok
    exact ⟨.empty schema, Store.put_same, rfl, (isEmpty_iff.mp empty).symm⟩
  next =>
    obtain ⟨-, stored, shaped, home, found, rfl⟩ := writeChecked_ok ok
    cases Store.put_same.symm.trans found
    exact ⟨_, Store.put_same, rfl, nil_append rows⟩

def Table.content (table : Table) : List ColumnSchema × List Row :=
  (table.schema.columns, table.rows)

theorem evolvedTable_unchanged
    (same : evolution table.schema.columns actions = places table.schema.columns) :
    evolvedTable table actions = table.content := by
  have rows : ∀ row ∈ table.rows,
      (⟨(places table.schema.columns).map (Tracked.cell row)⟩ : Row) = row := by
    intro row stored
    have origins : (places table.schema.columns).map origin =
        (range row.cells.length).map some ++ replicate 0 none := by
      rw [map_origin_places, table.shaped row stored]
      simp
    rw [cells_in_place origins]
    simp
  rw [evolvedTable, same, map_column_places, Table.content]
  congr 1
  exact (map_congr_left rows).trans (map_id _)

/-- The table after the statement is the one that the actions make of it exactly when the rows
are copied right. -/
theorem alterTable_ok_iff (stored : st.tables target = some table)
    (ok : (alterTable target table.schema.columns actions env).outcome st = (.ok done, after)) :
    (after.tables target).map Table.content = some (evolvedTable table actions) ↔
      CopiesRight table actions := by
  obtain ⟨alteration, middle, folded, ok⟩ := Work.bind_ok_iff.mp ok
  obtain ⟨applied, rfl⟩ := Prod.mk.inj folded
  have same : table.schema.columns = (places table.schema.columns).map column :=
    (map_column_places _).symm
  have follows : Follows table.schema.columns.length alteration
      (evolution table.schema.columns actions) := (follows_places _).run applied
  have unchanged := unchanged_iff same applied
  have added := added_iff same applied
  rw [CopiesRight]
  cases changed : alteration.changed with
  | false =>
    rw [changed] at ok
    obtain ⟨-, rfl⟩ := Prod.mk.inj ok
    have kept := (unchanged.mp changed).2.2
    have evolved : evolution table.schema.columns actions = places table.schema.columns :=
      evolution_unchanged same applied changed
    rw [stored, Option.map_some, evolvedTable_unchanged evolved]
    exact iff_of_true rfl (.inr (.inl kept))
  | true =>
    simp only [changed, Bool.not_true, Bool.false_eq_true, if_false] at ok
    have altered : addsColumn (places table.schema.columns) actions = true ∨
        actions.any AlterAction.dropsOrRenames = true := by
      by_contra none
      simp only [not_or, Bool.not_eq_true] at none
      rw [unchanged.mpr ⟨rfl, none⟩] at changed
      cases changed
    rw [copied_outcome alteration env stored] at ok
    obtain ⟨rows, middle, copied, ok⟩ := Work.bind_ok_iff.mp ok
    cases (perform_ok (Prod.mk.inj copied).1).1
    obtain ⟨rebuilt, found, schema, contents⟩ := rebuild_ok ok
    have columns : rebuilt.schema.columns = alteration.columns := by rw [schema]
    have fit := rebuilt.shaped
    rw [contents, columns] at fit
    rw [found, Option.map_some, Option.some.injEq, Table.content, columns, contents]
    unfold copiedRows at fit ⊢
    split at fit
    next byName =>
      have none : addsColumn (places table.schema.columns) actions = false := by
        by_contra adds
        exact added.mpr (.inr (by simpa using adds)) (isEmpty_iff.mp byName)
      rw [if_pos byName, follows.same, evolvedTable, Prod.mk.injEq, eq_self_iff_true, true_and]
      simp only [Row.mk.injEq, map_map, map_inj_left, Function.comp_apply]
      rw [none] at altered
      simp [none, altered.resolve_left Bool.false_ne_true]
    next byPlace =>
      have adds : addsColumn (places table.schema.columns) actions = true :=
        (added.mp fun empty => byPlace (by rw [empty]; rfl)).resolve_left fun some => some rfl
      refine iff_of_true ?_ (.inl adds)
      rw [map_const'] at fit ⊢
      rw [if_neg byPlace, follows.same]
      refine Prod.ext rfl (map_congr_left fun row stored => ?_)
      have shaped := table.shaped row stored
      have long := fit _ (mem_map.mpr ⟨row, stored, rfl⟩)
      rw [follows.same, length_map, length_append, length_replicate, shaped] at long
      rcases follows.origins with fewer | origins
      · omega
      · rw [cells_in_place (by rw [shaped]; exact origins)]

/-- ALTER TABLE leaves the table that its actions make of it, each column with its values,
exactly when the rows are copied right. -/
theorem altered_table_iff {request : QueryRequest} {stmt : AlterTableStmt} {done : Unit}
    (named : namePathToTableId stmt.namePath request.projectId request.defaultDatasetId = .ok target)
    (stored : st.tables target = some table)
    (ok : (runAlterTable request stmt env).outcome st = (.ok done, after)) :
    (after.tables target).map Table.content = some (evolvedTable table stmt.actions) ↔
      CopiesRight table stmt.actions := by
  obtain ⟨found, middle, resolved, ok⟩ := Work.bind_ok_iff.mp ok
  rw [named] at resolved
  cases resolved
  obtain ⟨answer, middle, looked, ok⟩ := Work.bind_ok_iff.mp ok
  rw [Work.outcome_attempt] at looked
  obtain ⟨answered, rfl⟩ := Prod.mk.inj looked
  cases answer with
  | error e =>
    -- the table is there, so that only a breakdown is an error
    cases broken : env.getSchema with
    | none =>
      rw [broken, getSchema_stored stored] at answered
      cases answered
    | some breakdown =>
      rw [broken, getSchema_stored stored] at answered
      cases answered
      have code : ¬ (decide (breakdown.status.code = .notFound) && stmt.ifExists) = true := by
        simp [breakdown.found]
      simp only [if_neg code] at ok
      cases (Prod.mk.inj ok).1
  | ok existing =>
    obtain ⟨-, stored', present, rfl⟩ := look_ok (Prod.ext (Except.ok.inj answered) rfl)
    cases stored.symm.trans present
    exact alterTable_ok_iff stored ok

def accounts : TableId := ⟨"p", "bank", "accounts"⟩

def balances : Table where
  schema := ⟨[{ name := "a", type := .int64 }, { name := "b", type := .int64 }]⟩
  rows := [⟨[.int64 7, .int64 8]⟩]
  shaped := by simp

def bank : Store := .single accounts (by decide) balances

def dropOnly : AlterTableStmt := ⟨["bank", "accounts"], false, [.dropColumn "a" false]⟩

theorem drop_keeps_column :
    (((runAlterTable ⟨"", "p", ""⟩ dropOnly {}).outcome bank).2.tables
      accounts).map Table.content = some ([{ name := "b", type := .int64 }], [⟨[.int64 8]⟩]) ∧
    CopiesRight balances dropOnly.actions :=
  ⟨rfl, (@altered_table_iff accounts balances {} bank _ ⟨"", "p", ""⟩ dropOnly
    () rfl rfl rfl).mp rfl⟩

def renameOnly : AlterTableStmt := ⟨["bank", "accounts"], false, [.renameColumn "a" "c" false]⟩

/-- A renamed column loses its values. -/
theorem rename_nulls_column :
    ∃ after, (runAlterTable ⟨"", "p", ""⟩ renameOnly {}).outcome bank =
        (.ok (), after) ∧
      (after.tables accounts).map Table.content =
        some ([{ name := "c", type := .int64 }, { name := "b", type := .int64 }],
          [⟨[.null, .int64 8]⟩]) ∧
      evolvedTable balances renameOnly.actions =
        ([{ name := "c", type := .int64 }, { name := "b", type := .int64 }],
          [⟨[.int64 7, .int64 8]⟩]) :=
  ⟨_, rfl, rfl, rfl⟩

end

end BigQueryEmulator.Ddl
