import BigQueryEmulator.Catalog.Registries
import BigQueryEmulator.Lookup

/-! What a name of a dataset resolves to after a history of CREATE and DROP statements, and when
that is the object last created under this name. -/
namespace BigQueryEmulator.Catalog
open Dml (equalsIgnoreCase)
open Lookup Transition List Statement
open Entry (named)
variable {α : Type}

theorem equalsIgnoreCase_iff :
    equalsIgnoreCase a b = true ↔ a.toList.map Char.toLower = b.toList.map Char.toLower := beq_iff_eq

theorem equalsIgnoreCase_refl (a : String) : equalsIgnoreCase a a = true :=
  equalsIgnoreCase_iff.mpr rfl

theorem equalsIgnoreCase_trans (first : equalsIgnoreCase a b = true)
    (second : equalsIgnoreCase b c = true) : equalsIgnoreCase a c = true :=
  equalsIgnoreCase_iff.mpr
    ((equalsIgnoreCase_iff.mp first).trans (equalsIgnoreCase_iff.mp second))

theorem equalsIgnoreCase_symm (same : equalsIgnoreCase a b = true) : equalsIgnoreCase b a = true :=
  equalsIgnoreCase_iff.mpr (equalsIgnoreCase_iff.mp same).symm

theorem named_same {e f : Entry α} (first : e.named name) (second : f.named name) :
    e.named f.name = true :=
  equalsIgnoreCase_trans first (equalsIgnoreCase_symm second)

theorem named_congr (same : equalsIgnoreCase other name = true) :
    (named other : Entry α → Bool) = named name := by
  funext entry
  rw [Bool.eq_iff_iff]
  exact ⟨fun found => equalsIgnoreCase_trans found same,
    fun found => equalsIgnoreCase_trans found (equalsIgnoreCase_symm same)⟩

def Entry.isAt (dataset name : String) (entry : Entry α) : Bool :=
  entry.named name && equalsIgnoreCase entry.dataset dataset

open Entry (isAt)

/-- A registry that keeps datasets: at most one entry for each name of each dataset. -/
structure Scoped (entries : List (Entry α)) : Prop where
  once : entries.Pairwise fun e f => ¬(e.isAt f.dataset f.name)
  qualified : ∀ entry ∈ entries, entry.dataset ≠ ""

def Bare (entries : List (Entry α)) : Prop := entries.Pairwise fun e f => ¬(e.named f.name)

theorem isAt_same {e f : Entry α} (first : e.isAt dataset name)
    (second : f.isAt dataset name) : e.isAt f.dataset f.name = true := by
  unfold isAt at *
  rw [Bool.and_eq_true] at *
  exact ⟨named_same first.1 second.1,
    equalsIgnoreCase_trans first.2 (equalsIgnoreCase_symm second.2)⟩

theorem Scoped.once_at {entries : List (Entry α)} (clean : Scoped entries) (dataset name : String) :
    entries.Pairwise fun e f => ¬(e.isAt dataset name ∧ f.isAt dataset name) :=
  clean.once.imp fun different both => different (isAt_same both.1 both.2)

theorem Bare.once_named {entries : List (Entry α)} (bare : Bare entries) (name : String) :
    entries.Pairwise fun e f => ¬(e.named name ∧ f.named name) :=
  bare.imp fun different both => different (named_same both.1 both.2)

theorem inDataset_qualified (clean : Scoped entries) (qualified : dataset ≠ "")
    (member : entry ∈ entries) :
    entry.inDataset dataset = equalsIgnoreCase entry.dataset dataset := by
  have asked : dataset.isEmpty = false := by simpa using qualified
  have given : entry.dataset.isEmpty = false := by simpa using clean.qualified entry member
  rw [Entry.inDataset, asked, given]
  rfl

theorem find_qualified {entries : List (Entry α)} (clean : Scoped entries)
    (qualified : dataset ≠ "") (name : String) :
    entries.find? (fun entry => entry.named name && entry.inDataset dataset) =
      entries.find? (isAt dataset name) := by
  apply find?_congr
  intro entry member
  rw [inDataset_qualified clean qualified member, isAt]

theorem find_replaceFirst (once : entries.Pairwise fun e f => ¬(p e ∧ p f))
    (alike : ∀ e ∈ entries, same e → p e = p entry)
    (covers : p entry → ∀ e ∈ entries, p e → same e) :
    (replaceFirst same entry entries).find? p =
      if p entry then some entry else entries.find? p := by
  rw [replaceFirst, find?_append]
  by_cases found : p entry
  · have gone : (entries.eraseP same).find? p = none := by
      cases hit : entries.find? same with
      | none =>
        have absent := find?_eq_none.mp hit
        rw [eraseP_of_forall_not absent, find?_eq_none]
        exact fun e member searched => absent e member (covers found e member searched)
      | some old =>
        have member := mem_of_find?_eq_some hit
        apply find?_eraseP_of_hit once hit
        rw [alike old member (find?_some hit)]
        exact found
    rw [gone, if_pos found, Option.none_or, find?_cons_of_pos found]
  · have kept : (entries.eraseP same).find? p = entries.find? p := by
      apply find?_eraseP_of_other
      intro old hit
      rw [alike old (mem_of_find?_eq_some hit) (find?_some hit)]
      exact Bool.eq_false_iff.mpr found
    rw [kept, if_neg found, find?_cons_of_neg found, find?_nil, Option.or_none]

/-- The dataset of the first entry of a name is the one given. -/
def firstIn (dataset name : String) (entries : List (Entry α)) : Bool :=
  (entries.find? (named name)).any fun entry => equalsIgnoreCase entry.dataset dataset

theorem find_erase_scoped {entries : List (Entry α)} (clean : Scoped entries)
    (dataset name other : String) :
    (entries.eraseP (named other)).find? (isAt dataset name) =
      if equalsIgnoreCase other name && firstIn dataset name entries then none
      else entries.find? (isAt dataset name) := by
  by_cases same : equalsIgnoreCase other name
  · rw [named_congr same, same, Bool.true_and, firstIn]
    cases first : entries.find? (named name) with
    | none =>
      rw [eraseP_of_forall_not (find?_eq_none.mp first)]
      rfl
    | some entry =>
      rw [Option.any_some]
      by_cases here : equalsIgnoreCase entry.dataset dataset
      · rw [if_pos here]
        apply find?_eraseP_of_hit (clean.once_at dataset name) first
        rw [isAt, find?_some first, here]
        rfl
      · rw [if_neg here]
        apply find?_eraseP_of_other
        intro hit found
        cases first.symm.trans found
        rw [isAt, Bool.eq_false_iff.mpr here, Bool.and_false]
  · rw [Bool.eq_false_iff.mpr same, Bool.false_and, if_neg Bool.false_ne_true]
    apply find?_eraseP_of_other
    intro hit found
    have named : hit.named other = true := find?_some found
    have different : hit.named name = false := Bool.eq_false_iff.mpr fun also =>
      same (equalsIgnoreCase_trans (equalsIgnoreCase_symm named) also)
    rw [isAt, different, Bool.false_and]

theorem find_erase_same {entries : List (Entry α)}
    (once : entries.Pairwise fun e f => ¬(same e ∧ same f)) :
    (entries.eraseP same).find? same = none := by
  cases hit : entries.find? same with
  | none => rw [eraseP_of_forall_not (find?_eq_none.mp hit), hit]
  | some f => exact find?_eraseP_of_hit once hit (find?_some hit)

theorem foldl_bare {step : List (Entry α) → Entry α → List (Entry α)} (adds : ∀ done entry,
      (∀ old ∈ done, ¬ old.named entry.name = true) → step done entry = done ++ [entry])
    (clean : Bare (done ++ rest)) : rest.foldl step done = done ++ rest := by
  induction rest generalizing done with
  | nil => exact (append_nil done).symm
  | cons entry rest ih =>
    have others := fun old member => (pairwise_append.mp clean).2.2 old member entry (.head _)
    rw [foldl_cons, adds done entry others, ih (by rwa [append_assoc]), append_assoc]
    rfl

theorem replayTvfs_bare {tvfs : List (Entry α)} (clean : Bare tvfs) :
    replayTvfsIntoCatalog tvfs = tvfs := by
  refine foldl_bare (fun done tvf others => ?_) (show Bare ([] ++ tvfs) from clean)
  rw [filter_eq_self.mpr fun old member => by simpa using others old member]

theorem replayProcedures_bare {procedures : List (Entry α)} (clean : Bare procedures) :
    replayProceduresIntoCatalog procedures = procedures := by
  refine foldl_bare (fun done procedure others => ?_) (show Bare ([] ++ procedures) from clean)
  exact if_neg (by simpa using others)

def Statement.Qualified : Statement α → Prop
  | .create _ entry => entry.dataset ≠ ""
  | .drop _ dataset _ _ => dataset ≠ ""
  | .deleteRoutine dataset _ => dataset ≠ ""

def Registries.entries (s : Registries α) : Kind → List (Entry α)
  | .view => s.views
  | .function => s.functions
  | .tableFunction => s.tvfs
  | .procedure => s.procedures

def Kind.isScoped : Kind → Bool
  | .view => true
  | .function => true
  | .tableFunction => false
  | .procedure => false

def Entry.answers (dataset name : String) (kind : Kind) (entry : Entry α) : Bool :=
  if kind.isScoped then entry.isAt dataset name else entry.named name

open Entry (answers)

theorem answers_scoped (keeps : kind.isScoped) :
    answers dataset name kind = (isAt dataset name : Entry α → Bool) := funext fun _ => if_pos keeps

theorem answers_bare (keeps : ¬ kind.isScoped) :
    answers dataset name kind = (named name : Entry α → Bool) := funext fun _ => if_neg keeps

/-- No registry has two entries that are found under one name. -/
structure Clean (s : Registries α) : Prop where
  keyed : ∀ kind, kind.isScoped → Scoped (s.entries kind)
  bare : ∀ kind, ¬ kind.isScoped → Bare (s.entries kind)

theorem clean_empty : Clean ({} : Registries α) where
  keyed := by
    intro kind _
    cases kind <;> exact ⟨.nil, nofun⟩
  bare := by
    intro kind _
    cases kind <;> exact .nil

theorem Scoped.erase (clean : Scoped entries) (q : Entry α → Bool) :
    Scoped (entries.eraseP q) where
  once := clean.once.eraseP q
  qualified := fun entry member => clean.qualified entry (mem_of_mem_eraseP member)

theorem Scoped.replace (clean : Scoped entries) {entry : Entry α} (qualified : entry.dataset ≠ "") :
    Scoped (replaceFirst (isAt entry.dataset entry.name) entry entries) where
  once := pairwise_concat (clean.erase _).once
    (find?_eq_none.mp (find_erase_same (clean.once_at entry.dataset entry.name)))
  qualified := by
    intro e member
    rcases mem_append.mp member with old | new
    · exact clean.qualified e (mem_of_mem_eraseP old)
    · rw [mem_singleton.mp new]
      exact qualified

theorem Bare.replace {entries : List (Entry α)} (clean : Bare entries) (entry : Entry α) :
    Bare (replaceFirst (named entry.name) entry entries) :=
  pairwise_concat (clean.eraseP _) (find?_eq_none.mp (find_erase_same (clean.once_named entry.name)))

section
variable {s : Registries α} {dataset name : String} {ifExists : Bool}

theorem dropByName_of_any (present : entries.any (named name)) :
    dropByName what name entries = .ok (entries.eraseP (named name)) := if_pos present

theorem dropByName_of_none (what : String) (absent : ¬ entries.any (named name)) :
    dropByName what name entries = .error ⟨.notFound, what ++ " not found: " ++ name⟩ ∧
      entries.eraseP (named name) = entries := by
  refine ⟨if_neg absent, eraseP_of_forall_not fun entry member named => ?_⟩
  exact absent (any_eq_true.mpr ⟨entry, member, named⟩)

theorem step_drop_ok (dropped : dropObject s name kind = .ok t) :
    step s (.drop kind dataset name ifExists) = t := by
  rw [step, executeStatement, dropped]

theorem step_drop_error (failed : dropObject s name kind = .error e) :
    step s (.drop kind dataset name ifExists) = s := by
  rw [step, executeStatement, failed]
  dsimp only
  split
  · rename_i t same
    split at same
    · cases same
      rfl
    · cases same
  · rfl

theorem step_drop_by (what : String) (set : List (Entry α) → Registries α)
    (drops : dropObject s name kind = (dropByName what name entries).map set)
    (whole : set entries = s) :
    step s (.drop kind dataset name ifExists) = set (entries.eraseP (named name)) := by
  by_cases present : entries.any (named name)
  · apply step_drop_ok
    rw [drops, dropByName_of_any present]
    rfl
  · obtain ⟨failed, same⟩ := dropByName_of_none what present
    rw [same, whole]
    apply step_drop_error
    rw [drops, failed]
    rfl

theorem step_drop_view :
    step s (.drop .view dataset name ifExists) =
      { s with views := s.views.eraseP (named name) } :=
  step_drop_by "view" (fun views => { s with views }) rfl rfl

theorem step_drop_tvf :
    step s (.drop .tableFunction dataset name ifExists) =
      { s with tvfs := s.tvfs.eraseP (named name) } :=
  step_drop_by "TVF" (fun tvfs => { s with tvfs }) rfl rfl

theorem step_drop_procedure : step s (.drop .procedure dataset name ifExists) = s :=
  step_drop_error rfl

theorem step_drop_function :
    step s (.drop .function dataset name ifExists) =
      if s.functions.any (named name) then
        { s with functions := s.functions.eraseP (named name) }
      else { s with procedures := s.procedures.eraseP (named name) } := by
  by_cases present : s.functions.any (named name)
  · rw [if_pos present]
    apply step_drop_ok
    rw [dropObject, dropProjectFunction, dropByName_of_any present]
    rfl
  · rw [if_neg present]
    refine step_drop_by "procedure" (fun procedures => { s with procedures }) ?_ rfl
    rw [dropObject, dropProjectFunction, (dropByName_of_none "function" present).1]
    rfl

theorem step_deleteRoutine :
    step s (.deleteRoutine dataset name) =
      if s.functions.any (named name) then
        { s with functions := s.functions.eraseP (named name) }
      else if s.tvfs.any (named name) then
        { s with tvfs := s.tvfs.eraseP (named name) }
      else { s with procedures := s.procedures.eraseP (named name) } := by
  rw [step, executeStatement]
  by_cases function : s.functions.any (named name)
  · rw [if_pos function, dropProjectFunction, dropByName_of_any function]
    rfl
  rw [if_neg function, dropProjectFunction,
    (dropByName_of_none "function" function).1]
  by_cases tvf : s.tvfs.any (named name)
  · rw [if_pos tvf, dropProjectTvf, dropByName_of_any tvf]
    rfl
  rw [if_neg tvf, dropProjectTvf, (dropByName_of_none "TVF" tvf).1]
  by_cases procedure : s.procedures.any (named name)
  · rw [dropProjectProcedure, dropByName_of_any procedure]
    rfl
  · obtain ⟨failed, same⟩ := dropByName_of_none "procedure" procedure
    rw [same, dropProjectProcedure, failed]
    rfl

/-- What a statement does to the registry of a kind. -/
inductive Change (α : Type) where
  | keep
  | put (entry : Entry α)
  | eraseFirst (name : String)

/-- DROP FUNCTION takes out a procedure where no function has the name; `DeleteRoutine` takes out a
function, else a table function, else a procedure. -/
def Statement.change (s : Registries α) (kind : Kind) : Statement α → Change α
  | .create made entry => if made = kind then .put entry else .keep
  | .drop .view _ name _ => if kind = .view then .eraseFirst name else .keep
  | .drop .function _ name _ =>
    if kind = .function ∨ kind = .procedure ∧ ¬ s.functions.any (named name) then
      .eraseFirst name
    else .keep
  | .drop .tableFunction _ name _ => if kind = .tableFunction then .eraseFirst name else .keep
  | .drop .procedure _ _ _ => .keep
  | .deleteRoutine _ name =>
    if kind = .function ∨
        kind = .tableFunction ∧ ¬ s.functions.any (named name) ∨
        kind = .procedure ∧ ¬ s.functions.any (named name) ∧
          ¬ s.tvfs.any (named name) then
      .eraseFirst name
    else .keep

def Change.apply (kind : Kind) (entries : List (Entry α)) : Change α → List (Entry α)
  | .keep => entries
  | .put entry => replaceFirst (answers entry.dataset entry.name kind) entry entries
  | .eraseFirst name => entries.eraseP (named name)

variable {stmt : Statement α}

theorem create_of_put (changed : stmt.change s kind = .put entry) :
    ∃ made, stmt = .create made entry := by
  cases stmt with
  | create made created =>
    rw [change] at changed
    split at changed
    · cases changed
      exact ⟨made, rfl⟩
    · cases changed
  | drop dropped place name ifExists =>
    cases dropped with
    | view | function | tableFunction =>
      rw [change] at changed
      split at changed <;> cases changed
    | procedure => cases changed
  | deleteRoutine place name =>
    rw [change] at changed
    split at changed <;> cases changed

theorem register_entries (clean : Clean s) (qualified : entry.dataset ≠ "") :
    (register s entry made).entries kind =
      ((create made entry).change s kind).apply kind (s.entries kind) := by
  by_cases same : made = kind
  · subst same
    cases made with
    | view =>
      have asked : entry.dataset.isEmpty = false := by simpa using qualified
      change registerProjectView entry _ = _
      rw [registerProjectView, asked]
      rfl
    | function =>
      have same : ∀ old ∈ s.functions, (old.named entry.name && old.inDataset entry.dataset) =
          old.isAt entry.dataset entry.name := by
        intro old member
        rw [inDataset_qualified (clean.keyed .function rfl) qualified member, isAt]
      change registerProjectFunction entry _ = replaceFirst (isAt entry.dataset entry.name) entry _
      rw [registerProjectFunction, replaceFirst, replaceFirst, eraseP_of_eq same]
      rfl
    | tableFunction => rfl
    | procedure => rfl
  · cases made <;> cases kind <;> first | rfl | exact absurd rfl same

theorem erase_of_none {entries : List (Entry α)} (absent : ¬ entries.any (named name)) :
    entries.eraseP (named name) = entries := (dropByName_of_none "" absent).2

/-- Each statement changes each registry as `Statement.change` tells. -/
theorem step_entries (clean : Clean s) (qualified : stmt.Qualified) (kind : Kind) :
    (step s stmt).entries kind = (stmt.change s kind).apply kind (s.entries kind) := by
  cases stmt with
  | create made entry => exact register_entries clean qualified
  | drop dropped place name ifExists =>
    cases dropped with
    | view =>
      rw [step_drop_view]
      cases kind <;> rfl
    | function =>
      rw [step_drop_function]
      by_cases present : s.functions.any (named name) <;> cases kind <;>
        simp [change, present, Change.apply, Registries.entries, erase_of_none]
    | tableFunction =>
      rw [step_drop_tvf]
      cases kind <;> rfl
    | procedure =>
      rw [step_drop_procedure]
      rfl
  | deleteRoutine place name =>
    rw [step_deleteRoutine]
    by_cases function : s.functions.any (named name) <;>
      by_cases tvf : s.tvfs.any (named name) <;> cases kind <;>
      simp [change, function, tvf, Change.apply, Registries.entries, erase_of_none]

theorem Clean.step (clean : Clean s) (qualified : stmt.Qualified) :
    Clean (step s stmt) where
  keyed := by
    intro kind keeps
    have old := clean.keyed kind keeps
    rw [step_entries clean qualified]
    cases changed : stmt.change s kind with
    | keep => exact old
    | eraseFirst name => exact old.erase _
    | put entry =>
      obtain ⟨made, rfl⟩ := create_of_put changed
      rw [Change.apply, answers_scoped keeps]
      exact old.replace qualified
  bare := by
    intro kind keeps
    have old := clean.bare kind keeps
    rw [step_entries clean qualified]
    cases changed : stmt.change s kind with
    | keep => exact old
    | eraseFirst name => exact old.eraseP _
    | put entry =>
      rw [Change.apply, answers_bare keeps]
      exact old.replace entry

end

section
variable {s : Registries α} {dataset name : String} {kind : Kind}

/-- Under a name of a dataset a query finds the entry that answers to it. -/
theorem resolve_eq (clean : Clean s) (qualified : dataset ≠ "") :
    resolve s dataset name kind =
      ((s.entries kind).find? (answers dataset name kind)).map Entry.object := by
  cases kind with
  | view =>
    have views : Scoped s.views := clean.keyed .view rfl
    rw [resolve, findProjectView, find_qualified views qualified]
    rfl
  | function =>
    have functions : Scoped s.functions := clean.keyed .function rfl
    rw [resolve, findProjectFunction, find_qualified functions qualified]
    rfl
  | tableFunction =>
    have tvfs : Bare s.tvfs := clean.bare .tableFunction Bool.false_ne_true
    rw [resolve, replayTvfs_bare tvfs]
    rfl
  | procedure =>
    have procedures : Bare s.procedures := clean.bare .procedure Bool.false_ne_true
    rw [resolve, replayProcedures_bare procedures]
    rfl

def Statement.captures (s : Registries α) (dataset name : String) (kind : Kind)
    (stmt : Statement α) : Option α :=
  match stmt.change s kind with
  | .put entry => if entry.answers dataset name kind then some entry.object else none
  | _ => none

/-- The statement takes out the first entry of the name, and this is what the name resolves to. -/
def Statement.hits (s : Registries α) (dataset name : String) (kind : Kind)
    (stmt : Statement α) : Bool :=
  match stmt.change s kind with
  | .eraseFirst dropped =>
    equalsIgnoreCase dropped name && (!kind.isScoped || firstIn dataset name (s.entries kind))
  | _ => false

theorem answers_put (clean : Clean s) :
    ((Change.put entry).apply kind (s.entries kind)).find? (answers dataset name kind) =
      if entry.answers dataset name kind then some entry
      else (s.entries kind).find? (answers dataset name kind) := by
  by_cases keeps : kind.isScoped
  · rw [Change.apply, answers_scoped keeps, answers_scoped keeps]
    apply find_replaceFirst ((clean.keyed kind keeps).once_at dataset name)
    · intro old _ like
      rw [Bool.eq_iff_iff]
      unfold isAt named at *
      rw [Bool.and_eq_true] at *
      rw [Bool.and_eq_true]
      constructor
      · exact fun found => ⟨equalsIgnoreCase_trans (equalsIgnoreCase_symm like.1) found.1,
          equalsIgnoreCase_trans (equalsIgnoreCase_symm like.2) found.2⟩
      · exact fun found => ⟨equalsIgnoreCase_trans like.1 found.1,
          equalsIgnoreCase_trans like.2 found.2⟩
    · exact fun found old _ here => isAt_same here found
  · rw [Change.apply, answers_bare keeps, answers_bare keeps]
    apply find_replaceFirst ((clean.bare kind keeps).once_named name)
    · intro old _ like
      rw [Bool.eq_iff_iff]
      exact ⟨fun found => equalsIgnoreCase_trans (equalsIgnoreCase_symm like) found,
        fun found => equalsIgnoreCase_trans like found⟩
    · exact fun found old _ here => named_same here found

theorem answers_erase (clean : Clean s) :
    ((Change.eraseFirst dropped).apply kind (s.entries kind)).find?
        (answers dataset name kind) =
      if equalsIgnoreCase dropped name && (!kind.isScoped || firstIn dataset name (s.entries kind))
      then none
      else (s.entries kind).find? (answers dataset name kind) := by
  by_cases keeps : kind.isScoped
  · rw [Change.apply, answers_scoped keeps, keeps]
    exact find_erase_scoped (clean.keyed kind keeps) dataset name dropped
  · rw [Change.apply, answers_bare keeps, Bool.eq_false_iff.mpr keeps, Bool.not_false, Bool.true_or,
      Bool.and_true]
    by_cases same : equalsIgnoreCase dropped name
    · rw [named_congr same, if_pos same, find_erase_same ((clean.bare kind keeps).once_named name)]
    · rw [if_neg same]
      apply find?_eraseP_of_other
      intro hit found
      have named : hit.named dropped = true := find?_some found
      exact Bool.eq_false_iff.mpr fun also => same (equalsIgnoreCase_trans
        (equalsIgnoreCase_symm named) also)

/-- What a statement does to a name: it makes it resolve to the created object, or takes out what
it resolves to, or leaves it. -/
theorem resolve_step (clean : Clean s) (qualified : dataset ≠ "") (subject : stmt.Qualified) :
    resolve (step s stmt) dataset name kind =
      match stmt.captures s dataset name kind with
      | some object => some object
      | none => if stmt.hits s dataset name kind then none else resolve s dataset name kind := by
  rw [resolve_eq (clean.step subject) qualified, resolve_eq clean qualified,
    step_entries clean subject, captures, hits]
  cases stmt.change s kind with
  | keep => rfl
  | put entry =>
    rw [answers_put clean]
    by_cases answers : entry.answers dataset name kind
    · simp only [if_pos answers, Option.map_some]
    · simp only [if_neg answers, Bool.false_eq_true, if_false]
  | eraseFirst dropped =>
    rw [answers_erase clean]
    split <;> rfl

end

section
variable {dataset name : String} {kind : Kind}

def Statement.creates (dataset name : String) (kind : Kind) : Statement α → Option α
  | .create made entry =>
    if made = kind ∧ entry.dataset = dataset ∧ entry.name = name then some entry.object else none
  | _ => none

/-- The statement drops the object of this very name. DROP PROCEDURE fails, and `DeleteRoutine`
drops a routine of any kind. -/
def Statement.removes (dataset name : String) (kind : Kind) : Statement α → Bool
  | .create _ _ => false
  | .drop dropped place called _ =>
    dropped = kind && kind ≠ .procedure && place = dataset && called = name
  | .deleteRoutine place called => kind ≠ .view && place = dataset && called = name

/-- The object last created under the name and not dropped since. -/
def lastCreated (dataset name : String) (kind : Kind) (held : Option α) (stmt : Statement α) :
    Option α :=
  match stmt.creates dataset name kind with
  | some object => some object
  | none => if stmt.removes dataset name kind then none else held

/-- The condition on a statement and the registries before it: an object that the name comes to
resolve to is created under the very name (or is what it resolves to already), and, where the name
resolves, the first entry of the name is taken out exactly by the drops of the very name. -/
def Keeps (dataset name : String) (kind : Kind) (s : Registries α) (stmt : Statement α) : Prop :=
  match stmt.captures s dataset name kind with
  | some object =>
    stmt.creates dataset name kind = some object ∨ resolve s dataset name kind = some object
  | none =>
    (resolve s dataset name kind).isSome →
      stmt.hits s dataset name kind = stmt.removes dataset name kind

instance [DecidableEq α] (s : Registries α) (stmt : Statement α) :
    Decidable (Keeps dataset name kind s stmt) :=
  match captured : stmt.captures s dataset name kind with
  | some object => decidable_of_iff
      (stmt.creates dataset name kind = some object ∨ resolve s dataset name kind = some object)
      (by rw [Keeps, captured])
  | none => decidable_of_iff
      ((resolve s dataset name kind).isSome →
        stmt.hits s dataset name kind = stmt.removes dataset name kind)
      (by rw [Keeps, captured])

variable {s : Registries α}

theorem captures_of_creates {stmt : Statement α}
    (creates : stmt.creates dataset name kind = some object) :
    stmt.captures s dataset name kind = some object := by
  cases stmt with
  | create made entry =>
    rw [Statement.creates] at creates
    split at creates
    · rename_i same
      obtain ⟨rfl, rfl, rfl⟩ := same
      rw [captures, change, if_pos rfl]
      have answers : entry.answers entry.dataset entry.name made = true := by
        unfold answers isAt named
        rw [equalsIgnoreCase_refl, equalsIgnoreCase_refl]
        split <;> rfl
      dsimp only
      rw [if_pos answers]
      exact creates
    · cases creates
  | drop | deleteRoutine => cases creates

theorem keeps_iff (clean : Clean s) (qualified : dataset ≠ "")
    {stmt : Statement α} (subject : stmt.Qualified) (agrees : resolve s dataset name kind = held) :
    resolve (step s stmt) dataset name kind = lastCreated dataset name kind held stmt ↔
      Keeps dataset name kind s stmt := by
  rw [resolve_step clean qualified subject, lastCreated, Keeps, ← agrees]
  cases captured : stmt.captures s dataset name kind with
  | some object =>
    cases created : stmt.creates dataset name kind with
    | some other =>
      have same := (captures_of_creates created).symm.trans captured
      cases same
      simp
    | none =>
      obtain ⟨made, entry, rfl⟩ : ∃ made entry, stmt = .create made entry := by
        rw [captures] at captured
        split at captured
        · rename_i entry put
          obtain ⟨made, same⟩ := create_of_put put
          exact ⟨made, entry, same⟩
        · cases captured
      constructor
      · exact fun same => .inr same.symm
      · rintro (⟨⟨⟩⟩ | same)
        exact same.symm
  | none =>
    have missing : stmt.creates dataset name kind = none := by
      cases created : stmt.creates dataset name kind with
      | none => rfl
      | some object => exact (nomatch captured.symm.trans (captures_of_creates created))
    rw [missing]
    cases resolve s dataset name kind with
    | none => simp
    | some object =>
      cases stmt.hits s dataset name kind <;> cases stmt.removes dataset name kind <;> simp

theorem agrees_iff_admits (clean : Clean s) (qualified : dataset ≠ "")
    (subjects : ∀ stmt ∈ stmts, stmt.Qualified) (agrees : resolve s dataset name kind = held) :
    (∀ done rest, stmts = done ++ rest →
        resolve (execute step s done) dataset name kind =
          done.foldl (lastCreated dataset name kind) held) ↔
      Admits (Keeps dataset name kind) step s stmts := by
  induction stmts generalizing s held with
  | nil =>
    refine ⟨fun _ => trivial, fun _ done rest split => ?_⟩
    rw [(append_eq_nil_iff.mp split.symm).1]
    exact agrees
  | cons stmt stmts ih =>
    have subject := subjects stmt (.head _)
    have later := (forall_mem_cons.mp subjects).2
    have next := keeps_iff clean qualified subject agrees
    constructor
    · intro all
      have keeps := next.mp (all [stmt] stmts rfl)
      refine ⟨keeps, (ih (clean.step subject) later (next.mpr keeps)).mp ?_⟩
      intro done rest split
      exact all (stmt :: done) rest (by rw [split, cons_append])
    · rintro ⟨keeps, admitted⟩ done rest split
      cases done with
      | nil => exact agrees
      | cons first done =>
        obtain ⟨same, tail⟩ := cons.inj split
        subst first
        exact (ih (clean.step subject) later (next.mpr keeps)).mpr admitted done rest tail

/-- After every part of a history the name resolves to the object last created under it, exactly
if each statement keeps this in the registries that it finds. -/
theorem resolves_last_created_iff (stmts : List (Statement α))
    (subjects : ∀ stmt ∈ stmts, stmt.Qualified) (dataset name : String) (kind : Kind)
    (qualified : dataset ≠ "") :
    (∀ done rest, stmts = done ++ rest →
        resolve (execute step {} done) dataset name kind =
          done.foldl (lastCreated dataset name kind) none) ↔
      Admits (Keeps dataset name kind) step {} stmts := by
  apply agrees_iff_admits clean_empty qualified subjects
  cases kind <;> rfl

/-- Views of one name in two datasets, and the drop of the older one. -/
def profilesHistory : List (Statement Nat) :=
  [.create .view ⟨"a", "profiles", 1⟩, .create .view ⟨"b", "profiles", 2⟩,
   .drop .view "a" "profiles" false]

theorem profilesHistory_resolves :
    (∀ stmt ∈ profilesHistory, stmt.Qualified) ∧ "b" ≠ "" ∧
      ∀ done rest, profilesHistory = done ++ rest →
        resolve (execute step {} done) "b" "profiles" .view =
          done.foldl (lastCreated "b" "profiles" .view) none := by
  have subjects : ∀ stmt ∈ profilesHistory, stmt.Qualified := by
    simp [profilesHistory, Statement.Qualified]
  refine ⟨subjects, by decide,
    (resolves_last_created_iff profilesHistory subjects "b" "profiles" .view (by decide)).mpr ?_⟩
  refine ⟨?_, ?_, ?_, trivial⟩ <;> decide +kernel

/-- The drop of the newer one of two views takes out the older one. A table function of one
dataset answers to the name in every dataset. -/
theorem drop_takes_older_view :
    (resolve (execute step {} [.create .view ⟨"a", "profiles", 1⟩,
        .create .view ⟨"b", "profiles", 2⟩, .drop .view "b" "profiles" false])
        "a" "profiles" .view : Option Nat) = none ∧
      (resolve (execute step {} [.create .view ⟨"a", "profiles", 1⟩,
        .create .view ⟨"b", "profiles", 2⟩, .drop .view "b" "profiles" false])
        "b" "profiles" .view : Option Nat) = some 2 ∧
      (resolve (execute step {} [.create .tableFunction ⟨"a", "recent", 1⟩])
        "b" "recent" .tableFunction : Option Nat) = some 1 := by
  decide +kernel

end

end BigQueryEmulator.Catalog
