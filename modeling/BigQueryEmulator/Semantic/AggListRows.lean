import BigQueryEmulator.Semantic.AggLists

/-! The lists that ARRAY_AGG and STRING_AGG build for a group. The collecting loop goes over all
rows of the input but reads an argument column with one value for each row of the group, so that
it reads past the end of the column unless the group, after HAVING, is the whole input. -/
namespace BigQueryEmulator.Semantic
open Storage (Status)
open Fallible List

structure RowValues where
  groupKeys : ColumnBindings → List Value
  having : ColumnBindings → Value
  value : ColumnBindings → Value
  delimiter : ColumnBindings → Value
  sortKeys : ColumnBindings → List Value

structure RowValues.OfRows (values : RowValues) (ctx : AggregateContext) (scan : AggregateScan)
    (call : ListCall) (rows : List ColumnBindings) : Prop where
  groupKeys : ∀ row ∈ rows, Semantic.groupKeys ctx scan row = .ok (values.groupKeys row)
  having : ∀ modifier ∈ call.having, ∀ row ∈ rows,
    evalExpr ctx.plain row modifier.2 = .ok (values.having row)
  value : ∀ row ∈ rows, evalExpr (ctx.named row) row call.value = .ok (values.value row)
  delimiter : ∀ expr ∈ call.delimiter, ∀ row ∈ rows,
    evalExpr (ctx.named row) row expr = .ok (values.delimiter row)
  sortKeys : ∀ row ∈ rows, (call.orderBy.mapM fun item =>
    evalExpr ctx.plain row (.columnRef item.ref)) = .ok (values.sortKeys row)

def RowValues.group (values : RowValues) (print : Value → String) (row : ColumnBindings) : String :=
  groupKeyFingerprint print (values.groupKeys row)

def ListCall.keptRows (call : ListCall) (print : Value → String) (values : RowValues)
    (rows : List ColumnBindings) : List ColumnBindings :=
  match call.having with
  | none => rows
  | some (kind, _) =>
    rows.filter fun row => havingKeeps (kind.best print (rows.map values.having)) (values.having row)

/-- Each row with its own argument value and its own sort keys, without the NULLs if asked. -/
def ListCall.ownRows (call : ListCall) (values : RowValues) (rows : List ColumnBindings) :
    List AggListRow :=
  (rows.map fun row => ⟨values.value row, values.sortKeys row⟩).filter fun row =>
    !(call.ignoreNulls && row.val.isNull)

/-- What a call is for a group of rows: HAVING filters them, NULLs are dropped, then DISTINCT,
ORDER BY and LIMIT arrange the rest. -/
def ListCall.ownList (call : ListCall) (print : Value → String) (values : RowValues)
    (rows : List ColumnBindings) : Except Status ListValue :=
  let kept := call.keptRows print values rows
  let arranged := arrangeAggRows print call (call.ownRows values kept)
  let delimiters := call.delimiter.map fun _ => kept.map values.delimiter
  match call.function with
  | .arrayAgg =>
    if delimiters.isSome then .error (semanticError .invalidArgument "ARRAY_AGG expects one argument")
    else arranged.map fun rows => .array (rows.map AggListRow.val)
  | .stringAgg =>
    match stringAggDelimiter delimiters with
    | .error answer => answer
    | .ok delimiter => arranged.map (joinAggRows print call delimiter)

/-- The call does not answer from its delimiter alone. -/
def ListCall.Lists (call : ListCall) (values : RowValues) (kept : List ColumnBindings) : Prop :=
  match call.function with
  | .arrayAgg => call.delimiter = none
  | .stringAgg => ∃ delimiter,
      stringAggDelimiter (call.delimiter.map fun _ => kept.map values.delimiter) = .ok delimiter

/-- All rows have one HAVING value, which is not NULL. -/
def ListCall.HavingUniform (call : ListCall) (values : RowValues) (rows : List ColumnBindings) :
    Prop :=
  call.having.isSome = true → ∀ row ∈ rows, (values.having row).isNull = false ∧
    ∀ other ∈ rows, valueEqual (values.having row) (values.having other) = true

section
variable {ctx : ExprContext} {call : ListCall} {values : RowValues}

theorem collect_own {rows : List ColumnBindings}
    (keys : ∀ row ∈ rows, (call.orderBy.mapM fun item =>
      evalExpr ctx row (.columnRef item.ref)) = .ok (values.sortKeys row)) :
    collectOrderedAggRows ctx call (before ++ rows.map values.value) before.length rows =
      .ok (call.ownRows values rows) := by
  induction rows generalizing before with
  | nil => rfl
  | cons row rest ih =>
    have read : at? (before ++ (row :: rest).map values.value) before.length =
        .ok (values.value row) := by
      rw [at?, map_cons, getElem?_append_right (Nat.le_refl _), Nat.sub_self]
      rfl
    have others := @ih (before ++ [values.value row])
      (forall_mem_cons.mp keys).2
    rw [append_assoc, singleton_append, ← map_cons, length_append] at others
    rw [collectOrderedAggRows, read]
    refine bind_ok_iff.mpr ⟨_, rfl, ?_⟩
    rw [ListCall.ownRows, @map_cons _ AggListRow, filter_cons]
    by_cases dropped : (call.ignoreNulls && (values.value row).isNull) = true
    · rw [if_pos dropped, if_neg (by simp [dropped])]
      exact others
    · rw [if_neg dropped, if_pos (Bool.not_eq_true' _ ▸ Bool.eq_false_iff.mpr dropped), keys row (.head _)]
      exact bind_ok_iff.mpr ⟨_, rfl, bind_ok_iff.mpr ⟨_, others, rfl⟩⟩

theorem collect_past_end {r : Nat} (keys : ∀ row ∈ rows, (call.orderBy.mapM fun item =>
      evalExpr ctx row (.columnRef item.ref)) = .ok (values.sortKeys row))
    (rowLeft : r ≤ column.length) (short : column.length < r + rows.length) :
    collectOrderedAggRows ctx call column r rows = .error .outOfBounds := by
  induction rows generalizing r with
  | nil => exact absurd short (by simpa using rowLeft)
  | cons row rest ih =>
    rw [collectOrderedAggRows, at?]
    by_cases last : r = column.length
    · rw [getElem?_eq_none (Nat.le_of_eq last.symm)]
      rfl
    have inside : r < column.length := Nat.lt_of_le_of_ne rowLeft last
    have others := ih (forall_mem_cons.mp keys).2 inside
      (by rw [length_cons] at short; omega)
    rw [getElem?_eq_getElem inside, others, keys row (.head _)]
    by_cases dropped : (call.ignoreNulls && (column[r]).isNull) = true
    · exact if_pos dropped
    · exact if_neg dropped

end

section
variable {inputRows : List ColumnBindings}

/-- The rows that a list of indices stands for. -/
def Indexes (inputRows : List ColumnBindings) (indices : List Nat) (rows : List ColumnBindings) :
    Prop := List.Forall₂ (fun r row => inputRows[r]? = some row) indices rows

variable {indices : List Nat} {rows : List ColumnBindings}

theorem mapM_indexed {f : Nat → ColumnBindings → ListWork β}
    (indexes : Indexes inputRows indices rows) (each : ∀ r, ∀ row ∈ rows, f r row = .ok (g r row)) :
    (indices.mapM fun r => do
      let row ← at? inputRows r
      f r row) = .ok (zipWith g indices rows) := by
  induction indexes with
  | nil => rfl
  | @cons r row indices rows first _ ih =>
    have others := ih fun r row within => each r row (.tail _ within)
    have read : at? inputRows r = .ok row := by rw [at?, first]
    rw [mapM_cons, others, read]
    refine bind_ok_iff.mpr ⟨g r row, each r row (.head _), rfl⟩

theorem zipWith_rows (indexes : Indexes inputRows indices rows) :
    zipWith (fun _ row => g row) indices rows = rows.map g := by
  induction indexes with
  | nil => rfl
  | cons _ _ ih => rw [zipWith_cons_cons, ih, map_cons]

theorem indexes_filter {keep : β → Bool} {g : ColumnBindings → β}
    (indexes : Indexes inputRows indices rows) :
    Indexes inputRows
      (((zipWith (fun r row => (r, g row)) indices rows).filter fun pair => keep pair.2).map
        Prod.fst) (rows.filter fun row => keep (g row)) := by
  induction indexes with
  | nil => exact .nil
  | @cons r row indices rows first _ ih =>
    rw [zipWith_cons_cons, filter_cons, filter_cons]
    cases keep (g row) with
    | true => exact .cons first ih
    | false => exact ih

end

section
variable {fingerprint : String} {keys : List Value} {r : Nat} {groups : List Group}

def SortedGroups (groups : List Group) : Prop :=
  groups.Pairwise fun a b => compare a.fingerprint b.fingerprint = .lt

theorem ne_of_compare_lt {a b : String} (less : compare a b = .lt) : a ≠ b := by
  rintro rfl
  rw [show compare a a = .eq from Std.ReflCmp.compare_self] at less
  cases less

theorem compare_gt_of_not {a b : String} (differ : a ≠ b) (notLess : ¬ (compare a b).isLT = true) :
    compare b a = .lt := by
  rw [← Std.OrientedCmp.gt_iff_lt]
  cases order : compare a b with
  | lt => exact absurd (by rw [order]; rfl) notLess
  | eq => exact absurd (Std.LawfulEqCmp.eq_of_compare order) differ
  | gt => rfl

/-- A row joins the group of its fingerprint, or begins one in its place. -/
theorem addToGroups_shape (sorted : SortedGroups groups) :
    ∃ before rest group after, groups = before ++ rest ∧
      addToGroups fingerprint keys r groups = before ++ group :: after ∧
      (∀ other ∈ before, compare other.fingerprint fingerprint = .lt) ∧
      (∀ other ∈ after, compare fingerprint other.fingerprint = .lt) ∧
      (rest = after ∧ group = ⟨fingerprint, keys, [r]⟩ ∨ ∃ old, rest = old :: after ∧
        old.fingerprint = fingerprint ∧ group = { old with rows := old.rows ++ [r] }) := by
  induction groups with
  | nil => exact ⟨[], [], _, [], rfl, rfl, nofun, nofun, .inl ⟨rfl, rfl⟩⟩
  | cons first rest ih =>
    obtain ⟨least, others⟩ := pairwise_cons.mp sorted
    rw [addToGroups]
    split
    next same =>
      subst same
      exact ⟨[], _, _, rest, rfl, rfl, nofun, least, .inr ⟨first, rfl, rfl, rfl⟩⟩
    next differ =>
      split
      next less =>
        have less : compare fingerprint first.fingerprint = .lt := Ordering.isLT_iff_eq_lt.mp less
        refine ⟨[], _, _, first :: rest, rfl, rfl, nofun, ?_, .inl ⟨rfl, rfl⟩⟩
        exact forall_mem_cons.mpr ⟨less, fun other among =>
          Std.TransCmp.lt_trans less (least other among)⟩
      next notLess =>
        obtain ⟨before, tail, group, after, rfl, added, smaller, larger, joins⟩ := ih others
        refine ⟨first :: before, tail, group, after, rfl, by rw [added]; rfl, ?_, larger, joins⟩
        exact forall_mem_cons.mpr ⟨compare_gt_of_not differ notLess, smaller⟩

variable {ctx : AggregateContext} {scan : AggregateScan} {call : ListCall} {values : RowValues}

/-- The groups of the rows that were seen: each holds exactly the rows of its fingerprint. -/
structure GroupsOf (inputRows : List ColumnBindings) (groupOf : ColumnBindings → String)
    (seen : List ColumnBindings) (groups : List Group) : Prop where
  sorted : SortedGroups groups
  own : ∀ group ∈ groups, Indexes inputRows group.rows
    (seen.filter fun row => decide (groupOf row = group.fingerprint))
  covered : ∀ row ∈ seen, ∃ group ∈ groups, group.fingerprint = groupOf row

theorem GroupsOf.add (so : GroupsOf inputRows groupOf seen groups) (read : inputRows[r]? = some row)
    (keys : List Value) :
    GroupsOf inputRows groupOf (seen ++ [row]) (addToGroups (groupOf row) keys r groups) := by
  obtain ⟨before, rest, group, after, rfl, added, smaller, larger, joins⟩ :
      ∃ before rest group after, groups = before ++ rest ∧
        addToGroups (groupOf row) keys r groups = before ++ group :: after ∧ _ :=
    addToGroups_shape so.sorted
  obtain ⟨front, back, -⟩ := pairwise_append.mp so.sorted
  have named : group.fingerprint = groupOf row := by
    rcases joins with ⟨-, rfl⟩ | ⟨old, -, same, rfl⟩
    · rfl
    · exact same
  have behind : SortedGroups after ∧ ∀ other ∈ after, other ∈ rest := by
    rcases joins with ⟨rfl, -⟩ | ⟨old, rfl, -⟩
    · exact ⟨back, fun _ among => among⟩
    · exact ⟨back.of_cons, fun _ => .tail _⟩
  rw [added]
  constructor
  · refine pairwise_append.mpr ⟨front, pairwise_cons.mpr ⟨named ▸ larger, behind.1⟩, ?_⟩
    intro other among
    refine forall_mem_cons.mpr ⟨named ▸ smaller other among, fun later within => ?_⟩
    exact Std.TransCmp.lt_trans (smaller other among) (larger later within)
  · intro other within
    rw [filter_append]
    have elsewhere (among : other ∈ before ++ rest) (differs : groupOf row ≠ other.fingerprint) :
        Indexes inputRows other.rows (seen.filter (fun row => groupOf row = other.fingerprint) ++
          [row].filter fun row => groupOf row = other.fingerprint) := by
      rw [filter_cons_of_neg (by simpa using differs), filter_nil, append_nil]
      exact so.own other among
    rcases mem_append.mp within with among | within
    · exact elsewhere (mem_append_left _ among) (ne_of_compare_lt (smaller other among)).symm
    rcases mem_cons.mp within with rfl | among
    · rw [filter_cons_of_pos (by simpa using named.symm)]
      rcases joins with ⟨rfl, rfl⟩ | ⟨old, rfl, same, rfl⟩
      · have before : seen.filter (fun other => decide (groupOf other = groupOf row)) = [] := by
          refine filter_eq_nil_iff.mpr fun other among => ?_
          obtain ⟨group, within, same⟩ := so.covered other among
          rw [decide_eq_true_eq, ← same]
          rcases mem_append.mp within with within | within
          · exact ne_of_compare_lt (smaller group within)
          · exact (ne_of_compare_lt (larger group within)).symm
        rw [before]
        exact .cons read .nil
      · exact rel_append (so.own old (mem_append_right _ (.head _))) (.cons read .nil)
    · exact elsewhere (mem_append_right _ (behind.2 other among)) (ne_of_compare_lt (larger other among))
  · intro other among
    rcases mem_append.mp among with among | among
    · obtain ⟨old, within, same⟩ := so.covered other among
      rcases mem_append.mp within with within | within
      · exact ⟨old, mem_append_left _ within, same⟩
      rcases joins with ⟨rfl, rfl⟩ | ⟨first, rfl, -, rfl⟩
      · exact ⟨old, mem_append_right _ (.tail _ within), same⟩
      rcases mem_cons.mp within with rfl | within
      · exact ⟨_, mem_append_right _ (.head _), same⟩
      · exact ⟨old, mem_append_right _ (.tail _ within), same⟩
    · rw [mem_singleton.mp among]
      exact ⟨group, mem_append_right _ (.head _), named⟩

theorem groupRows_own
    (evaluated : ∀ row ∈ rest, groupKeys ctx scan row = .ok (values.groupKeys row))
    (all : inputRows = seen ++ rest) (so : GroupsOf inputRows (values.group ctx.print) seen groups)
    (ran : groupRows ctx scan groups seen.length rest = .ok final) :
    GroupsOf inputRows (values.group ctx.print) inputRows final := by
  induction rest generalizing seen groups with
  | nil =>
    cases ran
    rw [append_nil] at all
    exact all ▸ so
  | cons row rest ih =>
    rw [groupRows, evaluated row (.head _)] at ran
    have read : inputRows[seen.length]? = some row := by
      rw [all, getElem?_append_right (Nat.le_refl _), Nat.sub_self]
      rfl
    refine ih (forall_mem_cons.mp evaluated).2 ?_
      (so.add read (values.groupKeys row)) ?_
    · rw [all, append_assoc, singleton_append]
    · rw [length_append]
      exact ran

/-- A group holds the rows of the input that have its keys, in the order of the input. -/
theorem scanGroups_own (evaluated : values.OfRows ctx scan call inputRows)
    (grouped : scanGroups ctx scan inputRows = .ok groups) (within : group ∈ groups) :
    Indexes inputRows group.rows
      (inputRows.filter fun row => decide (values.group ctx.print row = group.fingerprint)) := by
  rw [scanGroups] at grouped
  split at grouped
  next plain =>
    cases grouped
    rw [mem_singleton.mp within]
    have same : ∀ row ∈ inputRows, values.group ctx.print row = "" := by
      intro row among
      have keys := evaluated.groupKeys row among
      rw [groupKeys, isEmpty_iff.mp plain] at keys
      rw [RowValues.group, ← Except.ok.inj keys]
      rfl
    rw [filter_eq_self.mpr fun row among => decide_eq_true (same row among)]
    refine forall₂_iff_get.mpr ⟨length_range, fun i _ inside => ?_⟩
    rw [get_eq_getElem, get_eq_getElem, getElem_range]
    exact getElem?_eq_getElem inside
  next =>
    refine (groupRows_own evaluated.groupKeys (nil_append _).symm ⟨?_, ?_, ?_⟩ grouped).own group within
    · exact List.Pairwise.nil
    · exact fun _ absent => nomatch absent
    · exact fun _ absent => nomatch absent

end

section
variable {print : Value → String} {kind : HavingKind}

theorem best_cases (values : List Value) :
    (kind.best print values = none ∧ ∀ value ∈ values, value.isNull = true) ∨
    ∃ best ∈ values, best.isNull = false ∧ kind.best print values = some best := by
  induction values using reverseRecOn with
  | nil => exact .inl ⟨rfl, fun _ absent => nomatch absent⟩
  | append_singleton values last ih =>
    have step : kind.best print (values ++ [last]) =
        if last.isNull then kind.best print values
        else
          some ((kind.best print values).elim last fun best =>
            if kind.isBetter print last best then last else best) := by
      rw [HavingKind.best, HavingKind.best, foldl_append, foldl_cons, foldl_nil]
      cases foldl _ none values <;> rfl
    rw [step]
    cases null : last.isNull with
    | true =>
      rcases ih with ⟨absent, nulls⟩ | ⟨best, among, notNull, found⟩
      · refine .inl ⟨absent, fun value within => ?_⟩
        rcases mem_append.mp within with within | within
        · exact nulls value within
        · rw [mem_singleton.mp within, null]
      · exact .inr ⟨best, mem_append_left _ among, notNull, found⟩
    | false =>
      have own : last ∈ values ++ [last] := mem_append_right _ (.head _)
      rcases ih with ⟨absent, -⟩ | ⟨best, among, notNull, found⟩
      · exact .inr ⟨last, own, null, by rw [absent]; rfl⟩
      rw [found, if_neg Bool.false_ne_true, Option.elim_some]
      cases kind.isBetter print last best with
      | true => exact .inr ⟨last, own, null, rfl⟩
      | false => exact .inr ⟨best, mem_append_left _ among, notNull, rfl⟩

/-- HAVING keeps every row exactly if all rows have one value, which is not NULL. -/
theorem keptRows_eq_self_iff {call : ListCall} :
    call.keptRows print values rows = rows ↔ call.HavingUniform values rows := by
  rw [ListCall.keptRows, ListCall.HavingUniform]
  cases call.having with
  | none => exact ⟨fun _ absent => (nomatch absent), fun _ => rfl⟩
  | some modifier =>
    obtain ⟨kind, expr⟩ := modifier
    simp only [Option.isSome_some, forall_const, filter_eq_self]
    rcases @best_cases print kind (rows.map values.having) with
      ⟨absent, nulls⟩ | ⟨best, among, notNull, found⟩
    · rw [absent]
      constructor
      · exact fun keeps row within => nomatch keeps row within
      · intro uniform row within
        have null := nulls _ (mem_map_of_mem within)
        rw [(uniform row within).1] at null
        cases null
    · rw [found]
      obtain ⟨first, within, rfl⟩ := mem_map.mp among
      have kept : ∀ row, havingKeeps (some (values.having first)) (values.having row) = true ↔
          (values.having row).isNull = false ∧
            valueEqual (values.having row) (values.having first) = true := by
        intro row
        rw [havingKeeps, Bool.and_eq_true, Bool.not_eq_true']
      simp only [kept]
      constructor
      · intro keeps row ofRows
        have same := keeps row ofRows
        refine ⟨same.1, fun other ofOthers => ?_⟩
        have others := keeps other ofOthers
        rw [valueEqual_iff same.1 others.1, (valueEqual_iff same.1 notNull).mp same.2,
          (valueEqual_iff others.1 notNull).mp others.2]
      · exact fun uniform row ofRows => ⟨(uniform row ofRows).1, (uniform row ofRows).2 first within⟩

end

section
variable {ctx : AggregateContext} {scan : AggregateScan} {call : ListCall} {values : RowValues}
variable {inputRows rows : List ColumnBindings} {indices : List Nat}

theorem keptRows_sublist (print : Value → String) : (call.keptRows print values rows).Sublist rows := by
  rw [ListCall.keptRows]
  cases call.having with
  | none => exact List.Sublist.refl _
  | some modifier => exact filter_sublist

theorem filterRows_ok (indexes : Indexes inputRows indices rows)
    (having : ∀ modifier ∈ call.having, ∀ row ∈ rows,
      evalExpr ctx.plain row modifier.2 = .ok (values.having row)) :
    ∃ effective, filterRowsByHavingModifier ctx call inputRows indices = .ok effective ∧
      Indexes inputRows effective (call.keptRows ctx.print values rows) := by
  rw [filterRowsByHavingModifier, ListCall.keptRows]
  cases modified : call.having with
  | none => exact ⟨indices, rfl, indexes⟩
  | some modifier =>
    obtain ⟨kind, expr⟩ := modifier
    have evaluated : ∀ r : Nat, ∀ row ∈ rows, (do
        return (r, ← query (evalExpr ctx.plain row expr)) : ListWork (Nat × Value)) =
          .ok (r, values.having row) := by
      intro r row within
      rw [having _ modified row within]
      rfl
    refine ⟨_, bind_ok_iff.mpr ⟨_, mapM_indexed indexes evaluated, rfl⟩, ?_⟩
    rw [map_zipWith, zipWith_rows indexes]
    exact indexes_filter indexes

theorem evalArguments_ok (evaluated : values.OfRows ctx scan call inputRows)
    (within : row ∈ inputRows) :
    evalArguments ctx call row =
      .ok (values.value row, call.delimiter.map fun _ => values.delimiter row) := by
  rw [evalArguments, evaluated.value row within]
  cases separated : call.delimiter with
  | none => rfl
  | some expr =>
    refine bind_ok_iff.mpr ⟨_, rfl, bind_ok_iff.mpr ⟨_, ?_, rfl⟩⟩
    exact evaluated.delimiter expr separated row within

theorem query_ne_outOfBounds (answer : Except Status α) : query answer ≠ .error .outOfBounds := by
  cases answer <;> exact fun same => nomatch same

/-- The rows a call lists are read in step with its column exactly if they are the whole input. -/
theorem collect_bind_iff (sublist : kept.Sublist inputRows)
    (evaluated : values.OfRows ctx scan call inputRows)
    (finish : List AggListRow → Except Status ListValue) :
    (do
      let rows ← collectOrderedAggRows ctx.plain call (kept.map values.value) 0 inputRows
      query (finish rows)) = query (finish (call.ownRows values kept)) ↔ kept = inputRows := by
  by_cases whole : kept = inputRows
  · subst whole
    exact iff_of_true (bind_of_ok (@collect_own _ _ _ [] _ evaluated.sortKeys) _) rfl
  · have short : kept.length < inputRows.length :=
      Nat.lt_of_le_of_ne sublist.length_le fun same => whole (sublist.eq_of_length same)
    rw [collect_past_end evaluated.sortKeys (Nat.zero_le _) (by rwa [length_map, Nat.zero_add])]
    exact iff_of_false (fun same => query_ne_outOfBounds _ same.symm) whole

theorem finish_iff (sublist : rows.Sublist inputRows)
    (evaluated : values.OfRows ctx scan call inputRows) :
    finishAggregateFromArgColumns ctx call ((call.keptRows ctx.print values rows).map values.value)
        (call.delimiter.map fun _ => (call.keptRows ctx.print values rows).map values.delimiter)
        inputRows = query (call.ownList ctx.print values rows) ↔
      ¬ call.Lists values (call.keptRows ctx.print values rows) ∨
        call.keptRows ctx.print values rows = inputRows := by
  have kept := (@keptRows_sublist call values rows ctx.print).trans sublist
  rw [finishAggregateFromArgColumns, ListCall.ownList, ListCall.Lists]
  cases call.function with
  | arrayAgg =>
    cases separated : call.delimiter with
    | some expr => exact iff_of_true rfl (.inl fun same => nomatch same)
    | none =>
      refine (collect_bind_iff kept evaluated _).trans (or_iff_right ?_).symm
      exact fun unlisted => unlisted rfl
  | stringAgg =>
    rw [evalStringAgg]
    cases stringAggDelimiter (call.delimiter.map fun _ =>
        (call.keptRows ctx.print values rows).map values.delimiter) with
    | error answer => exact iff_of_true rfl (.inl fun ⟨_, same⟩ => nomatch same)
    | ok delimiter =>
      refine (collect_bind_iff kept evaluated _).trans (or_iff_right ?_).symm
      exact fun unlisted => unlisted ⟨delimiter, rfl⟩

theorem filterMap_delimiters (kept : List ColumnBindings) :
    (call.delimiter.map fun _ => (kept.map fun row =>
      (values.value row, call.delimiter.map fun _ => values.delimiter row)).filterMap Prod.snd) =
    call.delimiter.map fun _ => kept.map values.delimiter := by
  cases call.delimiter with
  | none => rfl
  | some expr =>
    rw [Option.map_some, Option.map_some, filterMap_map]
    exact congrArg some (congrFun filterMap_eq_map kept)

theorem evalAggregateForRows_iff (indexes : Indexes inputRows indices rows)
    (sublist : rows.Sublist inputRows) (evaluated : values.OfRows ctx scan call inputRows) :
    evalAggregateForRows ctx call inputRows indices = query (call.ownList ctx.print values rows) ↔
      ¬ call.Lists values (call.keptRows ctx.print values rows) ∨
        call.keptRows ctx.print values rows = inputRows := by
  obtain ⟨effective, filtered, kept⟩ := filterRows_ok indexes fun modifier modified row within =>
    evaluated.having modifier modified row (sublist.subset within)
  have keptIn := ((@keptRows_sublist call values rows ctx.print).trans sublist).subset
  have arguments := mapM_indexed kept fun _ row within =>
    congrArg query (evalArguments_ok evaluated (keptIn within))
  rw [zipWith_rows kept] at arguments
  rw [← finish_iff sublist evaluated, ← filterMap_delimiters]
  refine Eq.congr_left ((bind_of_ok filtered _).trans ((bind_of_ok arguments _).trans ?_))
  rw [map_map]
  rfl

/-- For every group of an aggregate scan, ARRAY_AGG and STRING_AGG build the list of the group's own
rows, and read no argument column past its end, exactly if the call answers without a list, or
all rows of the input are of this one group and have one HAVING value. -/
theorem own_lists_iff (ctx : AggregateContext) (scan : AggregateScan) (call : ListCall)
    (values : RowValues) (inputRows : List ColumnBindings) (groups : List Group)
    (evaluated : values.OfRows ctx scan call inputRows)
    (grouped : scanGroups ctx scan inputRows = .ok groups) :
    (∀ group ∈ groups, evalAggregateForRows ctx call inputRows group.rows =
      query (call.ownList ctx.print values
        (inputRows.filter fun row => decide (values.group ctx.print row = group.fingerprint)))) ↔
    ∀ group ∈ groups,
      ¬ call.Lists values (call.keptRows ctx.print values
        (inputRows.filter fun row => decide (values.group ctx.print row = group.fingerprint))) ∨
      ((∀ row ∈ inputRows, values.group ctx.print row = group.fingerprint) ∧
        call.HavingUniform values inputRows) := by
  refine forall₂_congr fun group within => ?_
  have sublist : (inputRows.filter fun row =>
      decide (values.group ctx.print row = group.fingerprint)).Sublist inputRows := filter_sublist
  rw [evalAggregateForRows_iff (scanGroups_own evaluated grouped within) sublist evaluated]
  refine or_congr_right ?_
  rw [← @keptRows_eq_self_iff ctx.print]
  constructor
  · intro whole
    have back := @keptRows_sublist call values
      (inputRows.filter fun row => decide (values.group ctx.print row = group.fingerprint)) ctx.print
    rw [whole] at back
    have all := sublist.antisymm back
    rw [all] at whole
    exact ⟨fun row among => of_decide_eq_true (filter_eq_self.mp all row among), whole⟩
  · rintro ⟨one, kept⟩
    rw [filter_eq_self.mpr fun row among => decide_eq_true (one row among), kept]

end

def saleShop : Column := ⟨1, "shop", .int64⟩
def saleAmount : Column := ⟨2, "amount", .int64⟩

def saleRow (shop amount : Int) : ColumnBindings
  | 1 => some (.int64 shop)
  | 2 => some (.int64 amount)
  | _ => none

def amounts : ListCall where
  function := .arrayAgg
  value := .columnRef ⟨saleAmount, false⟩

/-- `SELECT shop, ARRAY_AGG(amount) FROM sales GROUP BY shop`. -/
def salesByShop : AggregateScan where
  groupBy := [(⟨3, "shop", .int64⟩, .columnRef ⟨saleShop, false⟩)]
  aggregates := [(⟨4, "amounts", .array⟩, amounts)]

def salesContext : AggregateContext where
  plain := plainContext
  named _ := plainContext
  print := plainPrint

def saleValues : RowValues where
  groupKeys row := [(row 1).getD (.null .int64)]
  having _ := .null .int64
  value row := (row 2).getD (.null .int64)
  delimiter _ := .null .string
  sortKeys _ := []

theorem saleValues_ofRows {rows : List (Int × Int)} :
    saleValues.OfRows salesContext salesByShop amounts (rows.map fun sale => saleRow sale.1 sale.2) where
  groupKeys row within := by
    obtain ⟨sale, -, rfl⟩ := mem_map.mp within
    rfl
  having _ modified := nomatch modified
  value row within := by
    obtain ⟨sale, -, rfl⟩ := mem_map.mp within
    rfl
  delimiter _ separated := nomatch separated
  sortKeys _ _ := rfl

/-- Two sales of one shop are listed. -/
theorem one_shop_listed : evalAggregateForRows salesContext amounts [saleRow 1 10, saleRow 1 20] [0, 1] =
    .ok (.array [.int64 10, .int64 20]) := by
  have lists := (own_lists_iff salesContext salesByShop amounts saleValues
    [saleRow 1 10, saleRow 1 20] [⟨"1\x1e", [.int64 1], [0, 1]⟩]
    (@saleValues_ofRows [(1, 10), (1, 20)]) (by rfl)).mpr ?_
  · exact lists _ (.head _)
  · intro group within
    rw [mem_singleton.mp within]
    exact .inr ⟨by decide, fun modified => nomatch modified⟩

/-- With a second shop, the list of the first is read past the end of its column. -/
theorem two_shops_past_end :
    materializeAggregateScan salesContext salesByShop (.ok [saleRow 1 10, saleRow 2 20]) =
      .error .outOfBounds ∧
    evalAggregateForRows salesContext amounts [saleRow 1 10, saleRow 2 20] [0] = .error .outOfBounds ∧
    amounts.ownList plainPrint saleValues [saleRow 1 10] = .ok (.array [.int64 10]) :=
  ⟨by rfl, by rfl, by rfl⟩

end BigQueryEmulator.Semantic
