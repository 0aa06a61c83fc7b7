import BigQueryEmulator.Engine.Select

/-! How cells of given table columns flow through a plan. A plan is discreet when it only ever
passes such cells on as they are; two runs on relations that differ in such cells alone then
answer rows that differ, if at all, in the columns the cells are passed on to. -/
namespace BigQueryEmulator.Engine
open Storage Fallible List

section

/-- Which columns of a relation hold secret cells. -/
abbrev Flags := Nat → Bool

abbrev EntryFlags := String → Flags

def EntryFlags.bind (entries : EntryFlags) (name : String) (flags : Flags) : EntryFlags :=
  fun other => if other = name then flags else entries other

def SqlExpr.copies (flags : Flags) : SqlExpr → Bool
  | .column position => flags position
  | .call _ _ | .subquery _ _ _ => false

variable (secret : Pointer → Flags)

/-- The output columns of a plan that hold cells of secret table columns. -/
def Plan.carries (entries : EntryFlags) : Plan → Flags
  | .tableScan scan => fun i =>
      match scan.columns[i]? with
      | some (index, _) => secret scan.table index
      | none => false
  | .withRef name _ => entries name
  | .withScan name definition body =>
    body.carries (entries.bind name (definition.carries entries))
  | .project (n := n) exprs input => fun i =>
      if inside : i < n then (exprs ⟨i, inside⟩).copies (input.carries entries) else false
  | .choose _ _ _ input => input.carries entries
  | .join _ _ _ left right => fun i =>
      if i < left.width then left.carries entries i else right.carries entries (i - left.width)
  | .derive _ _ _ _ _ => fun _ => false
  | .unionAll left right => fun i => left.carries entries i || right.carries entries i

mutual

/-- The expression reads no secret cell. -/
def SqlExpr.Clear (entries : EntryFlags) (flags : Flags) : SqlExpr → Prop
  | .column position => flags position = false
  | .call _ args => ∀ i, (args i).Clear entries flags
  | .subquery _ args plan => (∀ i, (args i).Clear entries flags) ∧ plan.Discreet entries ∧
      ∀ i < plan.width, plan.carries secret entries i = false

/-- The plan reads no secret cell: it does no more with it than pass it on. -/
def Plan.Discreet (entries : EntryFlags) : Plan → Prop
  | .tableScan _ | .withRef _ _ => True
  | .withScan name definition body => definition.Discreet entries ∧
      body.Discreet (entries.bind name (definition.carries secret entries))
  | .project exprs input => input.Discreet entries ∧ ∀ i, (∃ position, exprs i = .column position) ∨
      (exprs i).Clear entries (input.carries secret entries)
  | .choose _ keys _ input | .derive _ _ keys _ input => input.Discreet entries ∧
      ∀ i, (keys i).Clear entries (input.carries secret entries)
  | .join leftKeys rightKeys _ left right => left.Discreet entries ∧ right.Discreet entries ∧
      (∀ i, (leftKeys i).Clear entries (left.carries secret entries)) ∧
      ∀ i, (rightKeys i).Clear entries (right.carries secret entries)
  | .unionAll left right => left.Discreet entries ∧ right.Discreet entries

end

end

def Agree (flags : Flags) (a b : Cells) : Prop := ∀ i, flags i = false → a i = b i

def AgreeAll (flags : Flags) : List Cells → List Cells → Prop := List.Forall₂ (Agree flags)

theorem Agree.weaken (agree : Agree flags a b) (wide : ∀ i, wider i = false → flags i = false) :
    Agree wider a b :=
  fun i unflagged => agree i (wide i unflagged)

theorem AgreeAll.weaken (agree : AgreeAll flags xs ys)
    (wide : ∀ i, wider i = false → flags i = false) : AgreeAll wider xs ys :=
  agree.imp fun _ _ each => each.weaken wide

theorem AgreeAll.refl (flags : Flags) (rows : List Cells) : AgreeAll flags rows rows :=
  forall₂_same.mpr fun _ _ _ _ => rfl

theorem AgreeAll.map_eq (agree : AgreeAll flags xs ys) (each : ∀ a b, Agree flags a b → f a = f b) :
    xs.map f = ys.map f := by
  rw [← forall₂_eq_eq_eq]
  exact rel_map each agree

theorem AgreeAll.getElem? (agree : AgreeAll flags xs ys) (position : Nat) :
    Option.Rel (Agree flags) xs[position]? ys[position]? := by
  induction agree generalizing position with
  | nil => exact .none
  | cons first _ ih =>
    cases position with
    | zero => exact .some first
    | succ position => exact ih position

theorem AgreeAll.choose (agree : AgreeAll flags xs ys) (positions : List Nat) :
    AgreeAll flags (positions.filterMap fun position => xs[position]?)
      (positions.filterMap fun position => ys[position]?) := by
  refine rel_filterMap (R := Eq) ?_ (forall₂_same.mpr fun _ _ => rfl)
  rintro position _ rfl
  exact agree.getElem? position

theorem AgreeAll.bind_getElem? (agree : AgreeAll flags xs ys) (position : Option Nat) :
    Option.Rel (Agree flags) (position.bind (xs[·]?)) (position.bind (ys[·]?)) := by
  cases position with
  | none => exact .none
  | some position => exact agree.getElem? position

theorem Agree.beside (first : Option.Rel (Agree left) a b) (second : Option.Rel (Agree right) c d) :
    Agree (fun i => if i < width then left i else right (i - width)) (beside width a c)
      (beside width b d) := by
  intro i unflagged
  simp only [Engine.beside]
  dsimp only at unflagged
  split at unflagged
  next inside =>
    rw [if_pos inside, if_pos inside]
    cases first with
    | none => rfl
    | some both => exact both i unflagged
  next outside =>
    rw [if_neg outside, if_neg outside]
    cases second with
    | none => rfl
    | some both => exact both _ unflagged

section

variable {db : InMemoryDuckdb} {catalog : GoogleSqlCatalog} {secret : Pointer → Flags}
  {conn₁ conn₂ : Connection}

def RowsAgree (flags : Flags) (a b : Row) : Prop := Agree flags (ofList a.cells) (ofList b.cells)

/-- On both connections the scan reads rows that differ in secret columns alone. -/
def ReadsAlike (db : InMemoryDuckdb) (catalog : GoogleSqlCatalog) (secret : Pointer → Flags)
    (conn₁ conn₂ : Connection) (place : List String × TableScan) : Prop :=
  ∃ rows₁ rows₂, readScan db catalog conn₁ place = some rows₁ ∧
    readScan db catalog conn₂ place = some rows₂ ∧
    List.Forall₂ (RowsAgree (secret place.2.table)) rows₁ rows₂

def EntriesAgree (flags : EntryFlags) (entries₁ entries₂ : WithEntries) : Prop :=
  ∀ name, Option.Rel (AgreeAll (flags name)) (entries₁ name) (entries₂ name)

theorem EntriesAgree.bind (agree : EntriesAgree flags entries₁ entries₂) (name : String)
    (same : AgreeAll bound rows₁ rows₂) :
    EntriesAgree (flags.bind name bound) (entries₁.bind name rows₁)
      (entries₂.bind name rows₂) := by
  intro other
  unfold EntryFlags.bind WithEntries.bind
  split
  · exact .some same
  · exact agree other

theorem gather_places {scans : Fin k → Scan} {P : List String × TableScan → Prop}
    (reads : ∀ place ∈ (gather scans).places db scope, P place) (i : Fin k) :
    ∀ place ∈ (scans i).places db scope, P place := by
  have all : ∀ list : List Scan, (∀ place ∈
      (list.foldr (Scan.compound "Expr" true) .singleRowScan).places db scope, P place) →
        ∀ scan ∈ list, ∀ place ∈ scan.places db scope, P place := by
    intro list
    induction list with
    | nil => nofun
    | cons first rest ih =>
      intro reads
      exact forall_mem_cons.mpr ((forall_mem_append.mp reads).imp_right ih)
  exact all _ reads _ (mem_ofFn.mpr ⟨i, rfl⟩)

theorem ofFn_alike (flags : Flags)
    (each : ∀ i : Fin n, Alike (fun a b => flags i = false → a = b) (f i) (g i)) :
    Alike (fun as bs => Agree flags (ofList as) (ofList bs)) ((ofFn f).mapM id)
      ((ofFn g).mapM id) := by
  induction n generalizing flags with
  | zero => exact .ok fun _ _ => rfl
  | succ n ih =>
    rw [ofFn_succ, ofFn_succ, mapM_cons, mapM_cons]
    refine (each 0).bind fun a b head => ?_
    refine (ih (fun i => flags (i + 1)) fun i => each i.succ).bind fun as bs tail => ?_
    refine .ok fun i unflagged => ?_
    cases i with
    | zero => exact head unflagged
    | succ i => exact tail i unflagged

theorem keyed_alike {f g : Fin k → Cells → Except Status Value}
    {h h' : List Cells → List (List Value) → Except Status (List Cells)}
    (rows : Alike (AgreeAll flags) a b) (each : ∀ i x y, Agree flags x y → f i x = g i y)
    (next : ∀ xs ys seen, AgreeAll flags xs ys → Alike R (h xs seen) (h' ys seen)) :
    Alike R (a >>= fun xs => xs.mapM (fun cells => (ofFn fun i => f i cells).mapM id) >>= h xs)
      (b >>= fun ys => ys.mapM (fun cells => (ofFn fun i => g i cells).mapM id) >>= h' ys) := by
  refine rows.bind fun xs ys same => ?_
  refine (Alike.mapM (S := Eq) (fun x y both => ?_) same).bind fun seen seen' equal => ?_
  · rw [show (fun i => f i x) = fun i => g i y from funext fun i => each i x y both]
    exact .refl _
  · rw [forall₂_eq_eq_eq] at equal
    exact equal ▸ next xs ys seen same

mutual

theorem SqlExpr.eval_eq (agree : EntriesAgree flags entries₁ entries₂) :
    ∀ expr : SqlExpr, expr.Clear secret flags row →
      (∀ place ∈ expr.scan.places db scope, ReadsAlike db catalog secret conn₁ conn₂ place) →
      ∀ a b, Agree row a b →
        expr.eval db catalog conn₁ scope entries₁ a = expr.eval db catalog conn₂ scope entries₂ b
  | .column position, clear, _, a, b, same => by
    unfold SqlExpr.Clear at clear
    simp only [SqlExpr.eval, same position clear]
  | .call f args, clear, reads, a, b, same => by
    unfold SqlExpr.Clear at clear
    have each : ∀ i, (args i).eval db catalog conn₁ scope entries₁ a =
        (args i).eval db catalog conn₂ scope entries₂ b := fun i =>
      SqlExpr.eval_eq agree (args i) (clear i) (gather_places reads i) a b same
    simp only [SqlExpr.eval, each]
  | .subquery f args plan, clear, reads, a, b, same => by
    unfold SqlExpr.Clear at clear
    obtain ⟨argsClear, discreet, unflagged⟩ := clear
    have each : ∀ i, (args i).eval db catalog conn₁ scope entries₁ a =
        (args i).eval db catalog conn₂ scope entries₂ b := fun i =>
      SqlExpr.eval_eq agree (args i) (argsClear i)
        (gather_places (forall_mem_append.mp reads).1 i) a b same
    have rows := Plan.eval_alike agree plan discreet (forall_mem_append.mp reads).2
    simp only [SqlExpr.eval, each]
    refine (Alike.bind (.refl _) fun values _ equal => ?_).eq
    subst equal
    refine rows.bind fun xs ys both => ?_
    have listed_eq : xs.map (listed _) = ys.map (listed _) := both.map_eq fun _ _ same =>
      map_congr_left fun i inside => same i (unflagged i (mem_range.mp inside))
    rw [listed_eq]
    exact .refl _

theorem Plan.eval_alike (agree : EntriesAgree flags entries₁ entries₂) {scope : List String} :
    ∀ plan : Plan, plan.Discreet secret flags →
      (∀ place ∈ plan.scan.places db scope, ReadsAlike db catalog secret conn₁ conn₂ place) →
      Alike (AgreeAll (plan.carries secret flags)) (plan.eval db catalog conn₁ scope entries₁)
        (plan.eval db catalog conn₂ scope entries₂)
  | .tableScan scan, _, reads => by
    obtain ⟨rows₁, rows₂, read₁, read₂, same⟩ := reads _ (mem_singleton_self _)
    simp only [Plan.eval, read₁, read₂]
    refine .ok ?_
    rw [AgreeAll, forall₂_map_left_iff, forall₂_map_right_iff]
    refine same.imp fun a b each i unflagged => ?_
    unfold Plan.carries at unflagged
    unfold scannedCells
    cases read : scan.columns[i]? with
    | none => rfl
    | some column =>
      simp only [read] at unflagged ⊢
      exact each column.1 unflagged
  | .withRef name _, _, _ => by
    have entry := agree name
    simp only [Plan.eval]
    generalize entries₁ name = first at entry ⊢
    generalize entries₂ name = second at entry ⊢
    cases entry with
    | none => exact .error _
    | some same => exact .ok (by unfold Plan.carries; exact same)
  | .withScan name definition body, discreet, reads => by
    unfold Plan.Discreet at discreet
    simp only [Plan.eval]
    refine (Plan.eval_alike agree definition discreet.1 (forall_mem_append.mp reads).1).bind
      fun rows₁ rows₂ same => ?_
    rw [Plan.carries]
    exact Plan.eval_alike (agree.bind name same) body discreet.2 (forall_mem_append.mp reads).2
  | .project exprs input, discreet, reads => by
    unfold Plan.Discreet at discreet
    simp only [Plan.eval]
    refine (Plan.eval_alike agree input discreet.1 (forall_mem_append.mp reads).1).bind
      fun rows₁ rows₂ same => ?_
    refine Alike.mapM (fun a b each => ?_) same
    refine (ofFn_alike ((Plan.project exprs input).carries secret flags) fun i => ?_).bind
      fun as bs values => .ok values
    rcases discreet.2 i with ⟨position, column⟩ | clear
    · simp only [column, SqlExpr.eval]
      refine .ok fun unflagged => each position ?_
      simpa only [Plan.carries, i.isLt, dif_pos, Fin.eta, column, SqlExpr.copies] using unflagged
    · rw [SqlExpr.eval_eq agree (exprs i) clear
        (gather_places (forall_mem_append.mp reads).2 i) a b each]
      exact (Alike.refl _).imp fun _ _ equal _ => equal
  | .choose _ keys pick input, discreet, reads => by
    unfold Plan.Discreet at discreet
    simp only [Plan.eval]
    refine keyed_alike (Plan.eval_alike agree input discreet.1 (forall_mem_append.mp reads).1)
      (fun i => SqlExpr.eval_eq agree (keys i) (discreet.2 i)
        (gather_places (forall_mem_append.mp reads).2 i)) fun rows₁ rows₂ seen same => ?_
    refine (Alike.refl (pick seen)).bind fun positions _ equal => ?_
    subst equal
    rw [Plan.carries]
    exact .ok (same.choose positions)
  | .join leftKeys rightKeys pick left right, discreet, reads => by
    unfold Plan.Discreet at discreet
    obtain ⟨leftDiscreet, rightDiscreet, leftClear, rightClear⟩ := discreet
    have leftReads := forall_mem_append.mp (forall_mem_append.mp reads).1
    have rightReads := forall_mem_append.mp (forall_mem_append.mp reads).2
    simp only [Plan.eval]
    refine keyed_alike (Plan.eval_alike agree left leftDiscreet leftReads.1)
      (fun i => SqlExpr.eval_eq agree (leftKeys i) (leftClear i) (gather_places leftReads.2 i))
      fun lefts₁ lefts₂ leftSeen leftSame => ?_
    refine keyed_alike (Plan.eval_alike agree right rightDiscreet rightReads.1)
      (fun i => SqlExpr.eval_eq agree (rightKeys i) (rightClear i) (gather_places rightReads.2 i))
      fun rights₁ rights₂ rightSeen rightSame => ?_
    refine (Alike.refl (pick leftSeen rightSeen)).bind fun pairs _ equal => ?_
    subst equal
    rw [Plan.carries]
    refine .ok ?_
    rw [AgreeAll, forall₂_map_left_iff, forall₂_map_right_iff, forall₂_same]
    exact fun pair _ => Agree.beside (leftSame.bind_getElem? pair.1)
      (rightSame.bind_getElem? pair.2)
  | .derive _ width keys f input, discreet, reads => by
    unfold Plan.Discreet at discreet
    simp only [Plan.eval]
    refine keyed_alike (Plan.eval_alike agree input discreet.1 (forall_mem_append.mp reads).1)
      (fun i => SqlExpr.eval_eq agree (keys i) (discreet.2 i)
        (gather_places (forall_mem_append.mp reads).2 i)) fun rows₁ rows₂ seen same => ?_
    exact (Alike.refl _).imp fun rows _ equal => equal ▸ AgreeAll.refl _ rows
  | .unionAll left right, discreet, reads => by
    unfold Plan.Discreet at discreet
    simp only [Plan.eval]
    refine (Plan.eval_alike agree left discreet.1 (forall_mem_append.mp reads).1).bind
      fun lefts₁ lefts₂ leftSame => ?_
    refine (Plan.eval_alike agree right discreet.2 (forall_mem_append.mp reads).2).bind
      fun rights₁ rights₂ rightSame => ?_
    rw [Plan.carries]
    refine .ok (rel_append (leftSame.weaken fun i unflagged => ?_)
      (rightSame.weaken fun i unflagged => ?_))
    · exact (Bool.or_eq_false_iff.mp unflagged).1
    · exact (Bool.or_eq_false_iff.mp unflagged).2

end

end

end BigQueryEmulator.Engine
