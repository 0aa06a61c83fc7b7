import BigQueryEmulator.Dml.Atomicity
import BigQueryEmulator.Dml.MergeReference

/-! MERGE against its reference. The executor first correlates all rows and then goes over
them clause by clause, with flags for the rows already acted on; the reference takes one row
at a time. -/
namespace BigQueryEmulator.Dml
open Storage Serial Fallible List
open Eval (alone)

section
variable {st : DuckDBStorage}

/-- An error of the condition is taken for FALSE. -/
@[simp] theorem alone_evalBoolExpr (condition : Option Expr) (bindings : ColumnBindings) :
    alone (evalBoolExpr condition bindings) st = .ok (holds st condition bindings) := by
  have caught : alone (evalBoolExpr condition bindings) st =
      .ok ((alone (evalWherePredicate condition bindings) st).toOption.getD false) := by
    refine (Query.run_bind _ _ st).trans ?_
    rw [alone, ExceptT.run]
    cases Query.run (evalWherePredicate condition bindings) st <;> rfl
  rw [caught, holds]
  cases alone (evalWherePredicate condition bindings) st <;> rfl

variable (st) in
def meet (mergeExpr : Option Expr) (target : TargetMergeState) (source : ColumnBindings) :
    TargetMergeState :=
  if holds st mergeExpr (mergeColumnBindings target.targetBind source) then
    { target with
      hasSourceMatch := true
      matchCount := target.matchCount + 1
      matchedBind := mergeColumnBindings target.targetBind source }
  else target

variable (mergeExpr : Option Expr)

@[simp] theorem meet_targetBind (target : TargetMergeState)
    (source : ColumnBindings) : (meet st mergeExpr target source).targetBind = target.targetBind := by
  unfold meet
  split <;> rfl

theorem correlatePair_alone (source : SourceMergeState) (target : TargetMergeState) :
    alone (correlatePair mergeExpr source target) st = .ok
      (meet st mergeExpr target source.sourceBind,
        holds st mergeExpr (mergeColumnBindings target.targetBind source.sourceBind)) := by
  unfold correlatePair meet
  rw [alone_bind, alone_evalBoolExpr]
  cases holds st mergeExpr (mergeColumnBindings target.targetBind source.sourceBind) <;> rfl

variable (st) in
def markMatched (mergeExpr : Option Expr) (targets : List TargetMergeState)
    (source : SourceMergeState) : SourceMergeState :=
  { source with
    hasTargetMatch := source.hasTargetMatch || targets.any fun target =>
      holds st mergeExpr (mergeColumnBindings target.targetBind source.sourceBind) }

theorem correlateSource_alone (sofar : MergeParticipants) (source : SourceMergeState) :
    alone (correlateSource mergeExpr sofar source) st = .ok
      ⟨sofar.targets.map fun target => meet st mergeExpr target source.sourceBind,
        sofar.sources ++ [markMatched st mergeExpr sofar.targets source]⟩ := by
  unfold correlateSource
  rw [alone_bind, alone_mapM, mapM_same fun target _ => correlatePair_alone mergeExpr source target]
  simp only [bind, Except.bind, alone_pure, map_map, any_map, markMatched]
  rfl

@[simp] theorem foldl_meet_targetBind (sources : List SourceMergeState) (target : TargetMergeState) :
    (sources.foldl (fun t source => meet st mergeExpr t source.sourceBind) target).targetBind =
      target.targetBind := by
  induction sources generalizing target with
  | nil => rfl
  | cons source rest ih => rw [foldl_cons, ih, meet_targetBind]

theorem correlate_alone (participants : MergeParticipants) :
    alone (correlateMergeTargetsAndSources mergeExpr participants) st = .ok
      ⟨participants.targets.map fun target =>
          participants.sources.foldl (fun t source => meet st mergeExpr t source.sourceBind) target,
        participants.sources.map (markMatched st mergeExpr participants.targets)⟩ := by
  obtain ⟨targets, sources⟩ := participants
  rw [correlateMergeTargetsAndSources, alone_foldlM]
  simp only [correlateSource_alone]
  refine foldlM_pure.trans (congrArg Except.ok ?_)
  induction sources using reverseRecOn with
  | nil => simp
  | append_singleton sources source ih =>
    rw [foldl_append, ih]
    simp [markMatched, Function.comp_def]

/-- The flags of a target row say how many source rows match it and which one is the last. -/
theorem foldl_meet (merge : MergeStmt) (sources : List ColumnBindings) (bind : ColumnBindings)
    (row : Row) :
    let found := matchesOf merge st sources bind
    sources.foldl (meet st merge.mergeExpr) ({ targetBind := bind, row } : TargetMergeState) =
      { targetBind := bind, row
        hasSourceMatch := !found.isEmpty
        matchCount := found.length
        matchedBind := found.getLast?.getD fun _ => none } := by
  induction sources using reverseRecOn with
  | nil => rfl
  | append_singleton sources source ih =>
    rw [foldl_append, ih]
    simp only [matchesOf, map_append, filter_append, map_cons, map_nil, filter_cons, filter_nil,
      foldl_cons, foldl_nil, meet]
    split <;> simp

end

section
variable (merge : MergeStmt) (st : DuckDBStorage)

namespace TargetMergeState
variable (state : TargetMergeState)

def kind : MatchType :=
  if state.hasSourceMatch then .matched else .notMatchedBySource

def bindings : ColumnBindings :=
  if state.hasSourceMatch then state.matchedBind else state.targetBind

def settle : Fate → TargetMergeState
  | .kept _ => state
  | .updated row => { state with row, acted := true }
  | .deleted => { state with deleted := true, acted := true }

def isUpdated : Bool := state.acted && !state.deleted

end TargetMergeState

def stepTarget (clause : MergeWhen) (state : TargetMergeState) : Except Status TargetMergeState :=
  if state.acted || state.deleted || !applies st state.kind state.bindings clause then .ok state
  else (fateUnder merge st state.bindings state.row clause).map state.settle

def stepSource (clause : MergeWhen) (state : SourceMergeState) :
    Except Status (SourceMergeState × Option Row) :=
  if state.hasTargetMatch || state.acted || !applies st .notMatchedByTarget state.sourceBind clause
  then .ok (state, none)
  else (insertedUnder merge st state.sourceBind clause).map fun row =>
    ({ state with acted := true }, some row)

/-- The counters that go with the rows' flags and the inserts so far. -/
def tallied (targets : List TargetMergeState) (inserts : List Row) : DmlStats where
  insertedRowCount := inserts.length
  updatedRowCount := targets.countP TargetMergeState.isUpdated
  deletedRowCount := targets.countP TargetMergeState.deleted

variable {merge st}

theorem applies_false (bindings : ColumnBindings) (other : clause.matchType ≠ kind) :
    applies st kind bindings clause = false := by
  simp [applies, other]

theorem applies_same (bindings : ColumnBindings) (same : clause.matchType = kind) :
    applies st kind bindings clause = holds st clause.matchExpr bindings := by
  simp [applies, same]

theorem stepTarget_other (other : clause.matchType ≠ state.kind) :
    stepTarget merge st clause state = .ok state := by
  simp [stepTarget, applies_false _ other]

section
variable {state : TargetMergeState} {done rest : List TargetMergeState} {inserts : List Row}

end

/-- A visit does to a row what `stepTarget` says and keeps the counters right. -/
def Steps (merge : MergeStmt) (st : DuckDBStorage) (clause : MergeWhen) (inserts : List Row)
    (visit : DmlStats → TargetMergeState → Eval (TargetMergeState × DmlStats)) : Prop :=
  ∀ done state rest, alone (visit (tallied (done ++ state :: rest) inserts) state) st =
    (stepTarget merge st clause state).map
      fun after => (after, tallied (done ++ after :: rest) inserts)

theorem applyTargetMergeWhen_steps (text : unexpected = unexpectedAction clause.matchType)
    (kinds : ∀ state, eligible state = decide (clause.matchType = state.kind))
    (binds : ∀ state, clause.matchType = state.kind → bindings state = state.bindings) :
    Steps merge st clause inserts
      (applyTargetMergeWhen eligible bindings unexpected merge.target clause) := by
  intro done state rest
  have sameKind := kinds state
  have sameBindings := binds state
  subst text
  unfold applyTargetMergeWhen
  by_cases other : clause.matchType = state.kind
  case neg =>
    rw [stepTarget_other other, sameKind, decide_eq_false other]
    rfl
  simp only [sameKind, decide_eq_true other, Bool.not_true, Bool.false_or, sameBindings other,
    stepTarget, applies_same _ other]
  cases acted : state.acted with
  | true => rfl
  | false =>
    cases deleted : state.deleted with
    | true => rfl
    | false =>
      simp only [Bool.or_self, Bool.false_eq_true, if_false, Bool.false_or, alone_bind,
        alone_evalBoolExpr]
      cases holds st clause.matchExpr state.bindings with
      | false => rfl
      | true =>
        simp only [bind, Except.bind, Bool.not_true, Bool.false_eq_true, if_false, fateUnder]
        cases clause.action with
        | insert columns values => rfl
        | delete =>
          refine congrArg Except.ok (Prod.ext rfl ?_)
          simp [tallied, TargetMergeState.settle, TargetMergeState.isUpdated, acted, deleted,
            Nat.add_assoc]
        | update items =>
          cases items with
          | error e => rfl
          | ok sets =>
            refine (alone_bind _ _ st).trans ?_
            dsimp only
            cases alone (sets.foldlM (applySet merge.target state.bindings)
              state.row) st with
            | error e => rfl
            | ok row =>
              refine congrArg Except.ok (Prod.ext ?_ ?_) <;>
                simp [tallied, TargetMergeState.settle, TargetMergeState.isUpdated, acted, deleted,
                  Nat.add_assoc]

theorem stepSource_alone (state : SourceMergeState)
    (same : clause.matchType = .notMatchedByTarget) :
    alone (applyNotMatchedByTargetMergeWhen merge.target clause state) st =
      stepSource merge st clause state := by
  unfold applyNotMatchedByTargetMergeWhen stepSource
  rw [applies_same _ same]
  cases state.hasTargetMatch || state.acted with
  | true => rfl
  | false =>
    simp only [Bool.false_eq_true, if_false, Bool.false_or, alone_bind, alone_evalBoolExpr]
    cases holds st clause.matchExpr state.sourceBind with
    | false => rfl
    | true =>
      simp only [bind, Except.bind, Bool.not_true, Bool.false_eq_true, if_false, insertedUnder]
      cases clause.action with
      | delete => rfl
      | update items => rfl
      | insert columns values =>
        dsimp only
        cases columns.isEmpty with
        | true => rfl
        | false =>
          refine (alone_bind _ _ st).trans ?_
          cases mergeInsertColumnIndexMapping merge.target.schema columns with
          | error e => rfl
          | ok columnIdx =>
            refine (alone_bind _ _ st).trans ?_
            simp only [if_neg Bool.false_ne_true]
            cases alone (buildInsertRow merge.target columnIdx values
              state.sourceBind) st with
            | error e => rfl
            | ok row => rfl

def MergeProgress.counted (targets : List TargetMergeState) (sources : List SourceMergeState)
    (inserts : List Row) : MergeProgress :=
  { participants := ⟨targets, sources⟩, stats := tallied targets inserts, inserts }

theorem applyToTargets_alone (sources : List SourceMergeState)
    (steps : Steps merge st clause inserts visit) (targets : List TargetMergeState) :
    alone (applyToTargets visit (.counted targets sources inserts)) st =
      (targets.mapM (stepTarget merge st clause)).map
        fun after => .counted after sources inserts := by
  -- the loop counts the rows it has done as they are now and the others as they were
  suffices general : ∀ done : List TargetMergeState,
      targets.foldlM (fun (sofar : List TargetMergeState × DmlStats) state =>
          alone (visit sofar.2 state) st >>= fun after => .ok (sofar.1 ++ [after.1], after.2))
          (done, tallied (done ++ targets) inserts) =
        (targets.mapM (stepTarget merge st clause)).map
          fun after => (done ++ after, tallied (done ++ after) inserts) by
    have started := general []
    unfold applyToTargets
    rw [alone_bind, alone_foldlM]
    simp only [alone_bind]
    refine (congrArg (· >>= _) started).trans ?_
    cases targets.mapM (stepTarget merge st clause) <;> rfl
  induction targets with
  | nil => intro done; simp [Except.map, pure, Except.pure]
  | cons state rest ih =>
    intro done
    rw [foldlM_cons, steps, mapM_cons]
    cases stepTarget merge st clause state with
    | error e => rfl
    | ok after =>
      have continued := ih (done ++ [after])
      simp only [append_assoc, singleton_append] at continued
      refine continued.trans ?_
      cases rest.mapM (stepTarget merge st clause) <;> rfl

section
variable (merge st)

def sweepTargets (targets : List TargetMergeState) (clause : MergeWhen) :
    Except Status (List TargetMergeState) :=
  targets.mapM (stepTarget merge st clause)

def sweepSources (sofar : List SourceMergeState × List Row) (clause : MergeWhen) :
    Except Status (List SourceMergeState × List Row) := do
  let visited ← sofar.1.mapM (stepSource merge st clause)
  return (visited.map Prod.fst, sofar.2 ++ visited.filterMap Prod.snd)

def sweep (sofar : List TargetMergeState × List SourceMergeState × List Row) (clause : MergeWhen) :
    Except Status (List TargetMergeState × List SourceMergeState × List Row) := do
  let targets ← sweepTargets merge st sofar.1 clause
  let sources ← sweepSources merge st sofar.2 clause
  return (targets, sources)

end

section
variable {clause : MergeWhen} {inserts : List Row}

theorem applyMatchedMergeWhen_steps (ofKind : clause.matchType = .matched) :
    Steps merge st clause inserts (applyMatchedMergeWhen merge.target clause) := by
  refine applyTargetMergeWhen_steps (by rw [ofKind]; rfl) ?_ ?_ <;> intro state <;>
    cases found : state.hasSourceMatch <;>
    simp [ofKind, found, TargetMergeState.kind, TargetMergeState.bindings]

theorem applyNotMatchedBySourceMergeWhen_steps (ofKind : clause.matchType = .notMatchedBySource) :
    Steps merge st clause inserts (applyNotMatchedBySourceMergeWhen merge.target clause) := by
  refine applyTargetMergeWhen_steps (by rw [ofKind]; rfl) ?_ ?_ <;> intro state <;>
    cases found : state.hasSourceMatch <;>
    simp [ofKind, found, TargetMergeState.kind, TargetMergeState.bindings]

theorem sweep_targets (other : clause.matchType ≠ .notMatchedByTarget)
    (targets : List TargetMergeState) (sources : List SourceMergeState) :
    sweep merge st (targets, sources, inserts) clause =
      (targets.mapM (stepTarget merge st clause)).map fun after => (after, sources, inserts) := by
  have kept : sources.mapM (stepSource merge st clause) =
      .ok (sources.map fun source => (source, none)) :=
    mapM_same fun source _ => by simp [stepSource, applies_false _ other]
  unfold sweep sweepTargets sweepSources
  rw [kept]
  cases targets.mapM (stepTarget merge st clause) with
  | error e => rfl
  | ok after => simp [Except.map, bind, Except.bind, pure, Except.pure, Function.comp_def]

theorem sweep_sources (ofKind : clause.matchType = .notMatchedByTarget)
    (targets : List TargetMergeState) (sources : List SourceMergeState) :
    sweep merge st (targets, sources, inserts) clause =
      (sources.mapM (stepSource merge st clause)).map fun visited =>
        (targets, visited.map Prod.fst, inserts ++ visited.filterMap Prod.snd) := by
  have kept : targets.mapM (stepTarget merge st clause) = .ok (targets.map id) := by
    refine mapM_same fun state _ => stepTarget_other ?_
    rw [ofKind, TargetMergeState.kind]
    cases state.hasSourceMatch <;> decide
  unfold sweep sweepTargets sweepSources
  rw [kept, map_id]
  cases sources.mapM (stepSource merge st clause) <;> rfl

end

theorem applyMergeWhen_alone (clause : MergeWhen) (targets : List TargetMergeState)
    (sources : List SourceMergeState) (inserts : List Row) :
    alone (applyMergeWhen merge.target (.counted targets sources inserts) clause) st =
      (sweep merge st (targets, sources, inserts) clause).map
        fun after => .counted after.1 after.2.1 after.2.2 := by
  unfold applyMergeWhen
  cases ofKind : clause.matchType with
  | matched =>
    rw [sweep_targets (by rw [ofKind]; decide), except_map_map]
    exact applyToTargets_alone sources (applyMatchedMergeWhen_steps ofKind) targets
  | notMatchedBySource =>
    rw [sweep_targets (by rw [ofKind]; decide), except_map_map]
    exact applyToTargets_alone sources (applyNotMatchedBySourceMergeWhen_steps ofKind) targets
  | notMatchedByTarget =>
    rw [sweep_sources ofKind]
    refine (alone_bind _ _ st).trans ?_
    rw [alone_mapM]
    simp only [stepSource_alone _ ofKind, MergeProgress.counted]
    cases sources.mapM (stepSource merge st clause) with
    | error e => rfl
    | ok visited =>
      simp only [bind, Except.bind, alone_pure, Except.map, tallied, length_append]

theorem applyMergeWhenClauses_alone (fresh : tallied targets [] = {})
    (sources : List SourceMergeState) :
    alone (applyMergeWhenClauses merge.target merge.whens ⟨targets, sources⟩) st =
      (merge.whens.foldlM (sweep merge st) (targets, sources, [])).map
        fun after => .counted after.1 after.2.1 after.2.2 := by
  have started : ({ participants := ⟨targets, sources⟩ } : MergeProgress) =
      .counted targets sources [] := by
    rw [MergeProgress.counted, fresh]
  rw [applyMergeWhenClauses, alone_foldlM, started]
  generalize ([] : List Row) = inserts
  clear fresh started
  induction merge.whens generalizing targets sources inserts with
  | nil => rfl
  | cons clause rest ih =>
    rw [foldlM_cons, foldlM_cons, applyMergeWhen_alone]
    cases sweep merge st (targets, sources, inserts) clause with
    | error e => rfl
    | ok after => exact ih _ _

end

section
variable {merge : MergeStmt} {st : DuckDBStorage}

theorem foldlM_stepTarget_acted (acted : state.acted = true) (whens : List MergeWhen) :
    whens.foldlM (fun state clause => stepTarget merge st clause state) state = .ok state := by
  induction whens with
  | nil => rfl
  | cons clause rest ih =>
    rw [foldlM_cons, stepTarget, acted]
    exact ih

theorem fateUnder_acts (ok : fateUnder merge st bindings row clause = .ok fate) :
    fate = .deleted ∨ ∃ after, fate = .updated after := by
  unfold fateUnder at ok
  split at ok
  · cases ok
    exact .inl rfl
  · cases ok
  · obtain ⟨after, -, rfl⟩ := map_ok_iff.mp ok
    exact .inr ⟨after, rfl⟩
  · cases ok

theorem foldlM_stepTarget (fresh : state.acted = false) (present : state.deleted = false)
    (whens : List MergeWhen) :
    whens.foldlM (fun state clause => stepTarget merge st clause state) state =
      match whens.find? (applies st state.kind state.bindings) with
      | none => .ok state
      | some clause => (fateUnder merge st state.bindings state.row clause).map state.settle := by
  induction whens with
  | nil => rfl
  | cons clause rest ih =>
    rw [foldlM_cons, find?_cons]
    cases applied : applies st state.kind state.bindings clause with
    | false =>
      rw [stepTarget, applied, Bool.not_false, Bool.or_true]
      exact ih
    | true =>
      rw [stepTarget, fresh, present, applied]
      dsimp only
      cases decided : fateUnder merge st state.bindings state.row clause with
      | error e => rfl
      | ok fate =>
        have acted : (state.settle fate).acted = true := by
          rcases fateUnder_acts decided with rfl | ⟨after, rfl⟩ <;> rfl
        exact foldlM_stepTarget_acted acted rest

variable (merge st) in
def correlatedTarget (sources : List ColumnBindings) (target : ColumnBindings × Row) :
    TargetMergeState :=
  let found := matchesOf merge st sources target.1
  { targetBind := target.1, row := target.2
    hasSourceMatch := !found.isEmpty
    matchCount := found.length
    matchedBind := found.getLast?.getD fun _ => none }

variable (targets : List (ColumnBindings × Row))

variable (merge st) in
def correlatedSource (source : ColumnBindings) :
    SourceMergeState :=
  { sourceBind := source, hasTargetMatch := !unmatched merge st targets source }

theorem correlatedTarget_situation (sources : List ColumnBindings) (target : ColumnBindings × Row) :
    situationOf merge st sources target.1 =
      ((correlatedTarget merge st sources target).kind,
        (correlatedTarget merge st sources target).bindings) := by
  unfold situationOf TargetMergeState.kind TargetMergeState.bindings correlatedTarget
  dsimp only
  cases found : (matchesOf merge st sources target.1).getLast? with
  | none => simp [getLast?_eq_none_iff.mp found]
  | some merged =>
    have some : matchesOf merge st sources target.1 ≠ [] := by
      intro empty
      rw [empty] at found
      cases found
    simp [some]

def TargetMergeState.fate (state : TargetMergeState) : Fate :=
  if state.deleted then .deleted else if state.acted then .updated state.row else .kept state.row

theorem correlatedTarget_clauses (sources : List ColumnBindings) (target : ColumnBindings × Row) :
    merge.whens.foldlM (fun state clause => stepTarget merge st clause state)
        (correlatedTarget merge st sources target) =
      (fateOf merge st sources target).map (correlatedTarget merge st sources target).settle := by
  rw [foldlM_stepTarget rfl rfl, fateOf, correlatedTarget_situation]
  dsimp only
  cases merge.whens.find? (applies st (correlatedTarget merge st sources target).kind
      (correlatedTarget merge st sources target).bindings) <;> rfl

theorem correlatedTarget_fate (ok : fateOf merge st sources target = .ok fate) :
    ((correlatedTarget merge st sources target).settle fate).fate = fate := by
  unfold fateOf at ok
  dsimp only at ok
  split at ok
  · cases ok
    rfl
  · rcases fateUnder_acts ok with rfl | ⟨after, rfl⟩ <;> rfl

theorem sweepTargets_outcome :
    (∃ finals, merge.whens.foldlM (sweepTargets merge st)
        (targets.map (correlatedTarget merge st sources)) = .ok finals ∧
        finals.map TargetMergeState.fate = fates) ↔
      targets.mapM (fateOf merge st sources) = .ok fates := by
  unfold sweepTargets
  simp only [rounds_ok_iff, mapM_ok_iff, forall₂_map_left_iff, correlatedTarget_clauses]
  constructor
  · rintro ⟨finals, settled, rfl⟩
    rw [forall₂_map_right_iff]
    refine settled.imp fun target final ok => ?_
    obtain ⟨fate, decided, rfl⟩ := map_ok_iff.mp ok
    rw [decided, correlatedTarget_fate decided]
  · intro decided
    induction decided with
    | nil => exact ⟨[], .nil, rfl⟩
    | cons first _ ih =>
      obtain ⟨finals, settled, rfl⟩ := ih
      refine ⟨_, .cons (map_ok_iff.mpr ⟨_, first, rfl⟩) settled, ?_⟩
      rw [map_cons, correlatedTarget_fate first]

def stillOpen (sources : List SourceMergeState) : List ColumnBindings :=
  (sources.filter fun source => !source.hasTargetMatch && !source.acted).map
    SourceMergeState.sourceBind

variable (merge st) in
def insertedBy (clause : MergeWhen) (pending : List ColumnBindings) : List (Except Status Row) :=
  (pending.filter fun source => applies st .notMatchedByTarget source clause).map
    fun source => insertedUnder merge st source clause

variable (st) in
def leftBy (clause : MergeWhen) (pending : List ColumnBindings) : List ColumnBindings :=
  pending.filter fun source => !applies st .notMatchedByTarget source clause

variable (merge st) in
def pendingInserts : List MergeWhen → List ColumnBindings → List (Except Status Row)
  | [], _ => []
  | clause :: rest, pending =>
    insertedBy merge st clause pending ++ pendingInserts rest (leftBy st clause pending)

@[simp] theorem stillOpen_cons (source : SourceMergeState) (rest : List SourceMergeState) :
    stillOpen (source :: rest) =
      if !source.hasTargetMatch && !source.acted then source.sourceBind :: stillOpen rest
      else stillOpen rest := by
  unfold stillOpen
  rw [filter_cons]
  split <;> rfl

/-- A clause inserts the open source rows it applies to, and leaves the others open. -/
theorem mapM_stepSource (clause : MergeWhen) (sources : List SourceMergeState) :
    (sources.mapM (stepSource merge st clause)).map (fun visited =>
        (visited.filterMap Prod.snd, stillOpen (visited.map Prod.fst))) =
      ((insertedBy merge st clause (stillOpen sources)).mapM id).map fun rows =>
        (rows, leftBy st clause (stillOpen sources)) := by
  induction sources with
  | nil => rfl
  | cons source rest ih =>
    rw [mapM_cons_map, stepSource, stillOpen_cons, ← Bool.not_or]
    cases closed : source.hasTargetMatch || source.acted with
    | true => simpa [bind, Except.bind, ← Bool.not_or, closed] using ih
    | false =>
      cases applied : applies st .notMatchedByTarget source.sourceBind clause with
      | false =>
        have longer := congrArg (Except.map fun answer =>
          (answer.1, source.sourceBind :: answer.2)) ih
        simpa [bind, Except.bind, ← Bool.not_or, closed, insertedBy, leftBy, applied,
          except_map_map] using longer
      | true =>
        have first : insertedBy merge st clause (source.sourceBind :: stillOpen rest) =
            insertedUnder merge st source.sourceBind clause ::
              insertedBy merge st clause (stillOpen rest) := by
          simp [insertedBy, applied]
        simp only [Bool.not_false, if_true, first, mapM_cons_map]
        cases insertedUnder merge st source.sourceBind clause with
        | error e => rfl
        | ok row =>
          have longer := congrArg (Except.map fun answer => (row :: answer.1, answer.2)) ih
          rw [except_map_map, except_map_map] at longer
          simpa [bind, Except.bind, Except.map, leftBy, applied] using longer

variable (whens : List MergeWhen)

theorem foldlM_sweepSources (sources : List SourceMergeState) (inserts : List Row) :
    (whens.foldlM (sweepSources merge st) (sources, inserts)).map Prod.snd =
      ((pendingInserts merge st whens (stillOpen sources)).mapM id).map
        fun rows => inserts ++ rows := by
  induction whens generalizing sources inserts with
  | nil => simp [pendingInserts, Except.map, pure, Except.pure]
  | cons clause rest ih =>
    let continued (answer : List Row × List ColumnBindings) : Except Status (List Row) :=
      ((pendingInserts merge st rest answer.2).mapM id).map
        fun rows => inserts ++ answer.1 ++ rows
    calc ((clause :: rest).foldlM (sweepSources merge st) (sources, inserts)).map Prod.snd
        = (sources.mapM (stepSource merge st clause)).map (fun visited =>
            (visited.filterMap Prod.snd, stillOpen (visited.map Prod.fst))) >>= continued := by
          rw [foldlM_cons, sweepSources]
          cases sources.mapM (stepSource merge st clause) with
          | error e => rfl
          | ok visited => exact ih _ _
      _ = ((insertedBy merge st clause (stillOpen sources)).mapM id).map (fun rows =>
            (rows, leftBy st clause (stillOpen sources))) >>= continued := by
          rw [mapM_stepSource]
      _ = ((pendingInserts merge st (clause :: rest) (stillOpen sources)).mapM id).map
            fun rows => inserts ++ rows := by
          rw [pendingInserts, mapM_append]
          cases (insertedBy merge st clause (stillOpen sources)).mapM id with
          | error e => rfl
          | ok rows =>
            simp only [continued, Except.map, bind, Except.bind, pure, Except.pure]
            cases (pendingInserts merge st rest (leftBy st clause (stillOpen sources))).mapM id with
            | error e => rfl
            | ok others => simp only [append_assoc]

/-- The clauses in order and in each the rows in order: every open row goes to the first
clause that applies to it. -/
theorem pendingInserts_eq (pending : List ColumnBindings) :
    pendingInserts merge st whens pending =
      (whens.zipIdx.map Prod.swap).flatMap fun place =>
        (pending.filter fun source =>
          whens.findIdx? (applies st .notMatchedByTarget source) = some place.1).map
            fun source => insertedUnder merge st source place.2 := by
  induction whens generalizing pending with
  | nil => rfl
  | cons clause rest ih =>
    have shifted : ∀ place, (pending.filter fun source =>
        (clause :: rest).findIdx? (applies st .notMatchedByTarget source) = some (place + 1)) =
        (leftBy st clause pending).filter fun source =>
          rest.findIdx? (applies st .notMatchedByTarget source) = some place := by
      intro place
      rw [leftBy, filter_filter]
      refine filter_congr fun source _ => ?_
      rw [findIdx?_cons]
      cases applies st .notMatchedByTarget source clause <;> simp
    have now : (pending.filter fun source =>
        (clause :: rest).findIdx? (applies st .notMatchedByTarget source) = some 0) =
        pending.filter fun source => applies st .notMatchedByTarget source clause := by
      refine filter_congr fun source _ => ?_
      rw [findIdx?_cons]
      cases applies st .notMatchedByTarget source clause <;> simp
    rw [pendingInserts, ih, zipIdx_cons, map_cons, flatMap_cons]
    simp only [Prod.swap_prod_mk, now, zipIdx_succ, map_map, flatMap_map]
    refine congrArg (_ ++ ·) (flatMap_congr fun place _ => ?_)
    simp only [Function.comp_apply, Prod.fst_swap, Prod.snd_swap, shifted]

theorem stillOpen_correlated (sources : List ColumnBindings) :
    stillOpen (sources.map (correlatedSource merge st targets)) =
      sources.filter (unmatched merge st targets) := by
  unfold stillOpen
  rw [filter_map]
  simp [Function.comp_def, correlatedSource]

theorem insertsOf_eq (input : MergeInput) :
    insertsOf merge st input = pendingInserts merge st merge.whens
      (stillOpen (input.sources.map (correlatedSource merge st input.targets))) := by
  rw [stillOpen_correlated, pendingInserts_eq]
  refine flatMap_congr fun place _ => ?_
  rw [filter_filter]
  exact congrArg (map _) (filter_congr fun source _ => Bool.and_comm _ _)

theorem sweepSources_outcome :
    (∃ after, merge.whens.foldlM (sweepSources merge st)
        (input.sources.map (correlatedSource merge st input.targets), []) = .ok after ∧
        after.2 = rows) ↔
      (insertsOf merge st input).mapM id = .ok rows := by
  rw [← map_ok_iff, foldlM_sweepSources, ← insertsOf_eq, map_ok_iff]
  simp only [nil_append, exists_eq_right]

variable (merge st) in
def sweepAll (input : MergeInput) :
    Except Status (List TargetMergeState × List SourceMergeState × List Row) :=
  merge.whens.foldlM (sweep merge st) (input.targets.map (correlatedTarget merge st input.sources),
    input.sources.map (correlatedSource merge st input.targets), [])

theorem sweepAll_outcome :
    (∃ after, sweepAll merge st input = .ok after ∧
        after.1.map TargetMergeState.fate = effect.fates ∧ after.2.2 = effect.inserts) ↔
      mergeEffect merge st input = .ok effect := by
  have split : ∀ after, sweepAll merge st input = .ok after ↔
      merge.whens.foldlM (sweepTargets merge st)
          (input.targets.map (correlatedTarget merge st input.sources)) = .ok after.1 ∧
        merge.whens.foldlM (sweepSources merge st)
          (input.sources.map (correlatedSource merge st input.targets), []) = .ok after.2 :=
    fun after => foldlM_both_ok_iff
  simp only [split, mergeEffect, bind_ok_iff, ← sweepTargets_outcome, ← sweepSources_outcome]
  constructor
  · rintro ⟨⟨finals, swept⟩, ⟨done, done'⟩, fated, inserted⟩
    exact ⟨_, ⟨finals, done, rfl⟩, _, ⟨swept, done', rfl⟩, by rw [fated, inserted]; rfl⟩
  · rintro ⟨_, ⟨finals, done, rfl⟩, _, ⟨swept, done', rfl⟩, ended⟩
    cases ended
    exact ⟨(finals, swept), ⟨done, done'⟩, rfl, rfl⟩

variable (state : TargetMergeState)

theorem TargetMergeState.fate_isUpdated :
    state.fate.isUpdated = state.isUpdated := by
  unfold fate isUpdated
  cases state.deleted <;> cases state.acted <;> rfl

theorem TargetMergeState.fate_isDeleted :
    state.fate.isDeleted = state.deleted := by
  unfold fate
  cases state.deleted <;> cases state.acted <;> rfl

theorem TargetMergeState.fate_row? :
    state.fate.row? = if state.deleted then none else some state.row := by
  unfold fate
  cases state.deleted <;> cases state.acted <;> rfl

/-- The flags of the target rows hold the rows that are left and the counts. -/
theorem counted_outcome (finals : List TargetMergeState) (sources : List SourceMergeState)
    (inserts : List Row) :
    let effect : MergeEffect := ⟨finals.map TargetMergeState.fate, inserts⟩
    buildMergeFinalRows (.counted finals sources inserts) = effect.rows ∧
      (MergeProgress.counted finals sources inserts).stats = effect.stats := by
  have left : (finals.filter fun state => !state.deleted).map (fun state => state.row) =
      (finals.map TargetMergeState.fate).filterMap Fate.row? := by
    induction finals with
    | nil => rfl
    | cons state rest ih =>
      rw [filter_cons, map_cons, filterMap_cons, ← ih, state.fate_row?]
      cases state.deleted <;> rfl
  refine ⟨congrArg (· ++ inserts) left, ?_⟩
  simp only [MergeProgress.counted, tallied, MergeEffect.stats, countP_map]
  congr 1
  · exact countP_congr fun state _ => by rw [Function.comp_apply, state.fate_isUpdated]
  · exact countP_congr fun state _ => by rw [Function.comp_apply, state.fate_isDeleted]

end

end BigQueryEmulator.Dml
