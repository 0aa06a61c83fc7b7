import BigQueryEmulator.Storage.Tables
import BigQueryEmulator.Timeline
import BigQueryEmulator.Transition

/-! The version log refines a timeline of the table's contents: the live parquet is
its last entry, and the index and archive hold its earlier entries as far back as
pruning left them. So which instants of the window the resolver answers is known after any
sequence of mutations. -/
namespace BigQueryEmulator.Storage
open Timeline Transition List DuckDBStorage
open Operation (run)

theorem archiveName_injective (same : archiveName a = archiveName b) : a = b := by
  have text := congrArg String.toList same
  simp only [archiveName, String.toList_append] at text
  exact Int.repr_injective (String.toList_injective (append_cancel_right text))

/-- The contents a table has held: `past` with the instants they began, oldest
first, and the content live since `current`. -/
structure History where
  past : List (Int × List Row)
  current : Int
  live : List Row

def logged (cutoff : Int) (history : List (Int × List Row)) : List VersionEntry :=
  (history.filter (fun e => cutoff ≤ e.1)).map (fun e => ⟨e.1, archiveName e.1⟩)

theorem sortVersions_logged (ordered : Ordered history) (cutoff : Int) :
    sortVersions (logged cutoff history) = logged cutoff history := by
  have sorted : (logged cutoff history).Pairwise (fun a b => a.validFromMs ≤ b.validFromMs) :=
    pairwise_map.mpr (List.Pairwise.filter _ ordered)
  exact sorted.insertionSort_eq

theorem logged_pruned (history : List (Int × List Row)) (later : early ≤ late) :
    (logged early history).filter (fun v => !decide (v.validFromMs < late)) = logged late history := by
  unfold logged
  rw [filter_map, filter_filter]
  congr 1
  apply filter_congr
  intro e _
  rw [Bool.eq_iff_iff]
  simp only [Function.comp_apply, Bool.and_eq_true, Bool.not_eq_true', decide_eq_true_eq,
    decide_eq_false_iff_not, not_lt]
  omega

namespace History

def entries (h : History) : List (Int × List Row) := h.past ++ [(h.current, h.live)]

def advance (id : TableId) (schema : TableSchema) (h : History) (op : Operation) : History :=
  if op.replaces id schema then ⟨h.entries, op.env.nowMs, op.content h.live⟩ else h

def cutoff (h : History) : Int := h.current - timeTravelWindowMs

theorem cutoff_le (h : History) : h.cutoff ≤ h.current := by
  unfold cutoff timeTravelWindowMs
  omega

/-- The files of a table created at `createdMs` that has had history `h`. -/
structure Refines (schema : TableSchema) (createdMs : Int) (files : TableFiles) (h : History) :
    Prop where
  schema : files.schema = schema
  parquet : files.parquet = some h.live
  index : files.index = some ⟨max createdMs h.cutoff, h.current, logged h.cutoff h.past⟩
  archive : ∀ e ∈ h.past, h.cutoff ≤ e.1 →
    files.archive (archiveName e.1) = (entryAt h.past e.1).map Prod.snd
  ordered : Ordered h.entries
  created : ∃ content, (createdMs, content) ∈ h.entries

theorem Refines.joined {schema : TableSchema} {h : History}
    (refines : h.Refines schema createdMs files) :
    sortVersions (logged h.cutoff h.past ++ [⟨h.current, archiveName h.current⟩]) =
      logged h.cutoff h.entries := by
  refine Eq.trans ?_ (sortVersions_logged refines.ordered _)
  simp [logged, History.entries, filter_append, h.cutoff_le]

end History

section
variable {schema : TableSchema} {createdMs mutationTsMs : Int} {files : TableFiles} {h : History}

theorem archived_content (refines : h.Refines schema createdMs files) (clockMs : Int)
    {e : Int × List Row} (member : e ∈ h.entries)
    (retained : mutationTsMs - timeTravelWindowMs ≤ e.1) (later : h.current ≤ mutationTsMs) :
    (archiveParquetBeforeReplace files mutationTsMs clockMs).archive (archiveName e.1) =
      (entryAt h.entries e.1).map Prod.snd := by
  have moved : h.cutoff ≤ mutationTsMs - timeTravelWindowMs := Int.sub_le_sub_right later _
  -- names determine timestamps, so pruning removes no file of a retained version
  have safe : ((logged h.cutoff h.entries).filter
      (fun v => v.validFromMs < mutationTsMs - timeTravelWindowMs)).any
      (fun v => v.file == archiveName e.1) = false := by
    rw [any_eq_false]
    intro v kept same
    obtain ⟨inLog, expired⟩ := mem_filter.mp kept
    obtain ⟨a, _, rfl⟩ := mem_map.mp inLog
    have equal := archiveName_injective (beq_iff_eq.mp same)
    simp only [decide_eq_true_eq] at expired
    omega
  simp only [archiveParquetBeforeReplace, loadVersionIndexOrInit, refines.parquet, refines.index,
    Option.getD_some, refines.joined, pruneOldVersions, safe, Bool.false_eq_true, if_false]
  have early := refines.ordered.of_append.2
  rcases mem_append.mp member with old | last
  · by_cases same : e.1 = h.current
    · rw [if_pos (by rw [same]), History.entries, entryAt_append_reached _ (by rw [same])]
      rfl
    · have before : e.1 < h.current := lt_of_le_of_ne (early e old) same
      rw [if_neg (fun equal => same (archiveName_injective equal)),
        refines.archive e old (moved.trans retained), History.entries,
        entryAt_append_later h.past before]
  · rw [mem_singleton.mp last, if_pos rfl, History.entries, entryAt_append_reached _ le_rfl]
    rfl

/-- One call keeps the refinement, with the history advanced by the call. -/
theorem History.Refines.step {id : TableId} (refines : h.Refines schema createdMs files)
    (dataset : st.datasetExists id.projectId id.datasetId = true)
    (found : st.tables id = some files) (later : h.current ≤ op.env.nowMs) :
    ∃ next, (op.run id st).tables id = some next ∧
      (op.run id st).datasetExists = st.datasetExists ∧
      (h.advance id schema op).Refines schema createdMs next := by
  rw [op.run_eq dataset found refines.parquet, refines.schema, History.advance]
  split
  · refine ⟨_, DuckDBStorage.setTable_same _ _ _, rfl, ?_⟩
    refine ⟨?_, rfl, ?_, ?_, ?_, ?_⟩
    · exact (archived_schema files _ _).trans refines.schema
    · have moved : h.cutoff ≤ op.env.nowMs - timeTravelWindowMs := Int.sub_le_sub_right later _
      have created : (if max createdMs h.cutoff < op.env.nowMs - timeTravelWindowMs
          then op.env.nowMs - timeTravelWindowMs else max createdMs h.cutoff) =
          max createdMs (op.env.nowMs - timeTravelWindowMs) := by
        split <;> omega
      simp only [archiveParquetBeforeReplace, loadVersionIndexOrInit, refines.parquet,
        refines.index, Option.getD_some, refines.joined, pruneOldVersions,
        logged_pruned h.entries moved, created]
      rfl
    · intro e member retained
      exact archived_content refines _ member retained later
    · refine Ordered.append refines.ordered ?_
      intro a member
      rcases mem_append.mp member with old | last
      · exact (refines.ordered.of_append.2 a old).trans later
      · rw [mem_singleton.mp last]
        exact later
    · obtain ⟨content, member⟩ := refines.created
      exact ⟨content, mem_append_left _ member⟩
  · exact ⟨files, found, rfl, refines⟩

end

theorem latestVersionAt_eq (versions : List VersionEntry) (asOfMs : Int) :
    latestVersionAt versions asOfMs =
      (versions.filter (fun v => v.validFromMs ≤ asOfMs)).getLast? := by
  induction versions using reverseRecOn with
  | nil => rfl
  | append_singleton before v ih =>
    unfold latestVersionAt at ih
    rw [latestVersionAt, foldl_append, ih, filter_append]
    by_cases reached : v.validFromMs ≤ asOfMs <;> simp [reached]

theorem latestVersionAt_logged (cutoff asOfMs : Int) (history : List (Int × List Row)) :
    latestVersionAt (logged cutoff history) asOfMs =
      (entryAt (history.filter (fun e => cutoff ≤ e.1)) asOfMs).map
        (fun e => ⟨e.1, archiveName e.1⟩) := by
  rw [latestVersionAt_eq, logged, filter_map, getLast?_map]
  rfl

/-- The resolver reads the content in force at `asOfMs` exactly when that content is
still live or its version began after the last cutoff. -/
theorem resolve_refines
    {h : History} (refines : h.Refines schema createdMs files) (id : TableId) (clockMs : Int)
    (created : createdMs ≤ asOfMs) (past : asOfMs ≤ nowMs)
    (window : nowMs - timeTravelWindowMs ≤ asOfMs) (ran : h.current ≤ nowMs)
    (found : entryAt h.entries asOfMs = some e) :
    (∃ path, resolveParquetSnapshotAt id files asOfMs nowMs clockMs = .ok path ∧
      contentAt files path = some e.2) ↔ h.current ≤ asOfMs ∨ h.cutoff ≤ e.1 := by
  have readable : ¬ asOfMs < max createdMs h.cutoff := by
    have := Int.sub_le_sub_right ran timeTravelWindowMs
    unfold History.cutoff
    omega
  simp only [resolveParquetSnapshotAt, loadVersionIndexOrInit, refines.index, Option.getD_some,
    if_neg (not_lt.mpr past), if_neg (not_lt.mpr window), Option.isNone_some, Bool.false_and,
    Bool.false_eq_true, if_false, if_neg readable, refines.parquet, Option.isSome_some, if_true,
    latestVersionAt_logged]
  by_cases live : h.current ≤ asOfMs
  · rw [History.entries, entryAt_append_reached _ live] at found
    obtain rfl := Option.some.inj found
    simp [live, contentAt, refines.parquet]
  · rw [History.entries, entryAt_append_later _ (not_le.mp live)] at found
    have ordered := refines.ordered.of_append.1
    by_cases retained : h.cutoff ≤ e.1
    · have kept := refines.archive e (entryAt_mem found).1 retained
      rw [entryAt_begun ordered found] at kept
      simp [live, retained, entryAt_filter_retained found retained, kept, contentAt]
    · simp [live, retained, entryAt_filter_expired ordered found (not_le.mp retained)]

/-- The calls ran at `start` or later, each no earlier than the one before it. -/
def Chronological : Int → List Operation → Prop
  | _, [] => True
  | start, op :: rest => start ≤ op.env.nowMs ∧ Chronological op.env.nowMs rest

def begun (id : TableId) (schema : TableSchema) : Int → List Operation → Int
  | start, [] => start
  | start, op :: rest => begun id schema (if op.replaces id schema then op.env.nowMs else start) rest

/-- The calls made by the end of millisecond `asOfMs`. -/
def madeBy (asOfMs : Int) (ops : List Operation) : List Operation :=
  ops.takeWhile (fun op => op.env.nowMs ≤ asOfMs)

namespace Chronological
variable {start : Int} {ops : List Operation}

theorem earlier (chronological : Chronological start ops) (order : before ≤ start) :
    Chronological before ops := by
  cases ops with
  | nil => trivial
  | cons op rest => exact ⟨order.trans chronological.1, chronological.2⟩

theorem le_of_mem (chronological : Chronological start ops) (member : op ∈ ops) :
    start ≤ op.env.nowMs := by
  induction ops generalizing start with
  | nil => cases member
  | cons first rest ih =>
    rcases mem_cons.mp member with rfl | later
    · exact chronological.1
    · exact chronological.1.trans (ih chronological.2 later)

theorem madeBy (chronological : Chronological start ops) (asOfMs : Int) :
    Chronological start (madeBy asOfMs ops) := by
  induction ops generalizing start with
  | nil => trivial
  | cons op rest ih =>
    rw [Storage.madeBy, takeWhile_cons]
    split
    · exact ⟨chronological.1, ih chronological.2⟩
    · trivial

end Chronological

section
variable {id : TableId} {schema : TableSchema} {h : History} {ops : List Operation}

theorem advance_current (id : TableId) (schema : TableSchema) (h : History) (op : Operation) :
    (h.advance id schema op).current = if op.replaces id schema then op.env.nowMs else h.current := by
  unfold History.advance
  split <;> rfl

theorem Chronological.advance (chronological : Chronological h.current (op :: rest)) :
    Chronological (h.advance id schema op).current rest := by
  rw [advance_current]
  split
  · exact chronological.2
  · exact chronological.2.earlier chronological.1

theorem execute_current (id : TableId) (schema : TableSchema) (h : History) (ops : List Operation) :
    (execute (History.advance id schema) h ops).current = begun id schema h.current ops := by
  induction ops generalizing h with
  | nil => rfl
  | cons op rest ih =>
    rw [execute, ih, begun, advance_current]

theorem History.Refines.run (refines : h.Refines schema createdMs files)
    (dataset : st.datasetExists id.projectId id.datasetId = true)
    (found : st.tables id = some files) (chronological : Chronological h.current ops) :
    ∃ next, (execute (run id) st ops).tables id = some next ∧
      (execute (run id) st ops).datasetExists = st.datasetExists ∧
      (execute (History.advance id schema) h ops).Refines schema createdMs next := by
  induction ops generalizing h st files with
  | nil => exact ⟨files, found, rfl, refines⟩
  | cons op rest ih =>
    obtain ⟨next, stored, same, stepped⟩ := refines.step dataset found chronological.1
    obtain ⟨last, reached, kept, finished⟩ :=
      ih stepped (same ▸ dataset) stored chronological.advance
    exact ⟨last, reached, kept.trans same, finished⟩

theorem entryAt_later (asOfMs : Int) (later : ∀ op ∈ ops, asOfMs < op.env.nowMs) :
    entryAt (execute (History.advance id schema) h ops).entries asOfMs =
      entryAt h.entries asOfMs := by
  induction ops generalizing h with
  | nil => rfl
  | cons op rest ih =>
    rw [execute, ih (forall_mem_cons.mp later).2,
      History.advance]
    split
    · exact entryAt_append_later _ (later op (.head _))
    · rfl

/-- The content in force at `asOfMs` is the one left by the calls made by then. -/
theorem entryAt_run (begins : h.current ≤ asOfMs) (chronological : Chronological h.current ops) :
    entryAt (execute (History.advance id schema) h ops).entries asOfMs =
      some (begun id schema h.current (madeBy asOfMs ops),
        (execute (History.advance id schema) h (madeBy asOfMs ops)).live) := by
  induction ops generalizing h with
  | nil => exact entryAt_append_reached _ begins
  | cons op rest ih =>
    by_cases reached : op.env.nowMs ≤ asOfMs
    · have begins' : (h.advance id schema op).current ≤ asOfMs := by
        rw [advance_current]
        split <;> assumption
      rw [execute, ih begins' chronological.advance, madeBy, madeBy,
        takeWhile_cons_of_pos (by simpa using reached), begun, execute, advance_current]
    · have later : ∀ other ∈ op :: rest, asOfMs < other.env.nowMs :=
        forall_mem_cons.mpr ⟨not_le.mp reached, fun other after =>
          (not_le.mp reached).trans_le (chronological.2.le_of_mem after)⟩
      rw [entryAt_later asOfMs later, madeBy, takeWhile_cons_of_neg (by simpa using reached)]
      exact entryAt_append_reached _ begins

end
section
variable {id : TableId} {schema : TableSchema} {st : DuckDBStorage} {env : MutationEnv}

theorem createTable_ok (created : (st.createTable id schema env).2 = .ok ()) :
    st.datasetExists id.projectId id.datasetId = true ∧
      (st.createTable id schema env).1 = st.setTable id
        (if (parquetStorageSchema schema).columns = [] then
          { schema := schema, parquet := none, index := none }
        else
          { schema := schema, parquet := some [], index := some ⟨env.nowMs, env.nowMs, []⟩ }) := by
  unfold createTable at created ⊢
  split at created
  · cases created
  split at created
  · cases created
  split at created
  · cases created
  · rename_i named dataset fresh
    cases staged : env.staging <;>
      by_cases columns : (parquetStorageSchema schema).columns = [] <;> simp_all

/-- A fresh table has had its empty content since its creation. -/
theorem created_refines (schema : TableSchema) (nowMs : Int) :
    History.Refines schema nowMs
      { schema := schema, parquet := some [], index := some ⟨nowMs, nowMs, []⟩ }
      ⟨[], nowMs, []⟩ where
  schema := rfl
  parquet := rfl
  index := by
    have window : nowMs - timeTravelWindowMs ≤ nowMs := by unfold timeTravelWindowMs; omega
    simp [History.cutoff, logged, window]
  archive := by simp
  ordered := pairwise_singleton _ _
  created := ⟨[], mem_singleton_self _⟩

/-- Without physical columns every staging attempt is refused. -/
theorem run_without_columns (found : st.tables id = some files)
    (dataset : st.datasetExists id.projectId id.datasetId = true)
    (empty : (parquetStorageSchema files.schema).columns = []) (ops : List Operation) :
    execute (run id) st ops = st := by
  have refused (content : List Row) (env : MutationEnv) :
      (st.replaceParquet id files content env).1 = st := by
    simp [replaceParquet, stagingError, empty]
  have present : st.ensureTableMetaExists id = .ok files := by
    simp only [ensureTableMetaExists, dataset, found, if_true]
  have unchanged (op : Operation) : op.run id st = st := by
    cases op with
    | createTable schema env =>
      simp only [run, createTable, dataset, found]
      split <;> rfl
    | appendRows rows env =>
      simp only [run, appendRows, present]
      split
      · rfl
      · split
        · rfl
        · exact refused _ env
    | overwriteRows rows env =>
      simp only [run, overwriteRows, present]
      split
      · rfl
      · exact refused _ env
  induction ops with
  | nil => rfl
  | cons op rest ih => rw [execute, unchanged op, ih]

end

theorem begun_eq_or_mem (id : TableId) (schema : TableSchema) (start : Int) (ops : List Operation) :
    begun id schema start ops = start ∨
      ∃ op ∈ ops, op.replaces id schema = true ∧ begun id schema start ops = op.env.nowMs := by
  induction ops generalizing start with
  | nil => exact .inl rfl
  | cons op rest ih =>
    rw [begun]
    split
    · rename_i replaced
      rcases ih op.env.nowMs with same | ⟨other, member, replaces, same⟩
      · exact .inr ⟨op, .head _, replaced, same⟩
      · exact .inr ⟨other, .tail _ member, replaces, same⟩
    · rcases ih start with same | ⟨other, member, replaces, same⟩
      · exact .inl same
      · exact .inr ⟨other, .tail _ member, replaces, same⟩

variable {schema : TableSchema} {ops : List Operation} {id : TableId}

theorem begun_ge (chronological : Chronological start ops) : start ≤ begun id schema start ops := by
  rcases begun_eq_or_mem id schema start ops with same | ⟨op, member, _, same⟩
  · exact same.ge
  · exact same ▸ chronological.le_of_mem member

theorem le_begun (chronological : Chronological start ops) (member : op ∈ ops)
    (replaces : op.replaces id schema = true) : op.env.nowMs ≤ begun id schema start ops := by
  induction ops generalizing start with
  | nil => cases member
  | cons first rest ih =>
    rw [begun]
    rcases mem_cons.mp member with rfl | later
    · rw [if_pos replaces]
      exact begun_ge chronological.2
    · split
      · exact ih chronological.2 later
      · exact ih (chronological.2.earlier chronological.1) later

/-- The last version's age against the one asked for, in terms of the calls between. -/
theorem retained_iff (chronological : Chronological start ops) (begins : start ≤ asOfMs) :
    (begun id schema start ops ≤ asOfMs ∨
        begun id schema start ops - timeTravelWindowMs ≤ since) ↔
      ∀ op ∈ ops, asOfMs < op.env.nowMs → op.replaces id schema = true →
        op.env.nowMs ≤ since + timeTravelWindowMs := by
  constructor
  · intro either op member later replaces
    have bound := le_begun chronological member replaces
    omega
  · intro recent
    rcases begun_eq_or_mem id schema start ops with same | ⟨op, member, replaces, same⟩
    · exact .inl (same.trans_le begins)
    · by_cases reached : op.env.nowMs ≤ asOfMs
      · exact .inl (same.trans_le reached)
      · have bound := recent op member (not_le.mp reached) replaces
        exact .inr (by omega)

theorem resolve_without_parquet (id : TableId) (schema : TableSchema) (asOfMs nowMs clockMs : Int) :
    ∃ error, resolveParquetSnapshotAt id { schema := schema, parquet := none, index := none }
      asOfMs nowMs clockMs = .error error := by
  unfold resolveParquetSnapshotAt loadVersionIndexOrInit
  dsimp only [Option.getD_none]
  split
  · exact ⟨_, rfl⟩
  split
  · exact ⟨_, rfl⟩
  rw [if_neg (by simp)]
  split
  · exact ⟨_, rfl⟩
  · rw [if_pos (by omega), if_neg (by simp)]
    exact ⟨_, rfl⟩

theorem snapshotPathAt_ok_iff {st : DuckDBStorage}
    (dataset : st.datasetExists id.projectId id.datasetId = true)
    (found : st.tables id = some files) (asOfMs nowMs clockMs : Int) (content : List Row) :
    (∃ path, st.parquetSnapshotPathAt id asOfMs nowMs clockMs = .ok (some path) ∧
      st.readSnapshot id path = some content) ↔
    ∃ path, resolveParquetSnapshotAt id files asOfMs nowMs clockMs = .ok path ∧
      contentAt files path = some content := by
  simp only [parquetSnapshotPathAt, ensureTableMetaExists, dataset,
    found, if_true, readSnapshot, Option.bind_some]
  cases resolveParquetSnapshotAt id files asOfMs nowMs clockMs <;> simp [Except.map]

/-- Every instant of the window resolves to its content exactly when no call after it
started a version more than seven days after the content it asks for began. -/
theorem snapshotAt_iff_begun_recently {st : DuckDBStorage} {id : TableId} {schema : TableSchema}
    {env : MutationEnv} {ops : List Operation} {asOfMs nowMs : Int} (clockMs : Int)
    (created : (st.createTable id schema env).2 = .ok ())
    (chronological : Chronological env.nowMs ops) (ran : ∀ op ∈ ops, op.env.nowMs ≤ nowMs)
    (lower : max env.nowMs (nowMs - timeTravelWindowMs) ≤ asOfMs) (upper : asOfMs ≤ nowMs) :
    (∃ path,
      (execute (run id) (st.createTable id schema env).1 ops).parquetSnapshotPathAt id
        asOfMs nowMs clockMs = .ok (some path) ∧
      (execute (run id) (st.createTable id schema env).1 ops).readSnapshot id path =
        some ((execute (run id) (st.createTable id schema env).1
          (madeBy asOfMs ops)).liveRows id)) ↔
      (parquetStorageSchema schema).columns ≠ [] ∧
        ∀ op ∈ ops, asOfMs < op.env.nowMs → op.replaces id schema = true →
          op.env.nowMs ≤ begun id schema env.nowMs (madeBy asOfMs ops) + timeTravelWindowMs := by
  obtain ⟨dataset, state⟩ := createTable_ok created
  have dataset' : (st.createTable id schema env).1.datasetExists id.projectId id.datasetId = true := by
    rw [state]
    exact dataset
  by_cases columns : (parquetStorageSchema schema).columns = []
  · have found : (st.createTable id schema env).1.tables id =
        some { schema := schema, parquet := none, index := none } := by
      rw [state, if_pos columns]
      exact setTable_same _ _ _
    obtain ⟨error, refused⟩ := resolve_without_parquet id schema asOfMs nowMs clockMs
    rw [run_without_columns found dataset' columns, snapshotPathAt_ok_iff dataset' found, refused]
    simp [columns]
  · have found : (st.createTable id schema env).1.tables id =
        some { schema := schema, parquet := some [], index := some ⟨env.nowMs, env.nowMs, []⟩ } := by
      rw [state, if_neg columns]
      exact setTable_same _ _ _
    have begins : env.nowMs ≤ asOfMs := (le_max_left _ _).trans lower
    have fresh := created_refines schema env.nowMs
    obtain ⟨files, stored, same, refines⟩ := fresh.run dataset' found chronological
    obtain ⟨made, storedMade, _, refinesMade⟩ :=
      fresh.run dataset' found (chronological.madeBy asOfMs)
    have current := execute_current id schema ⟨[], env.nowMs, []⟩ ops
    have ran' : begun id schema env.nowMs ops ≤ nowMs := by
      rcases begun_eq_or_mem id schema env.nowMs ops with equal | ⟨op, member, _, equal⟩
      · exact equal.trans_le (begins.trans upper)
      · exact equal.trans_le (ran op member)
    rw [snapshotPathAt_ok_iff (same ▸ dataset') stored]
    simp only [liveRows, storedMade, refinesMade.parquet, Option.getD_some]
    rw [resolve_refines refines id clockMs begins upper ((le_max_right _ _).trans lower)
      (current.trans_le ran')
      (entryAt_run begins chronological), History.cutoff, current,
      retained_iff chronological begins]
    simp [columns]

def DuckDBStorage.fresh : DuckDBStorage := ⟨fun _ _ => true, fun _ => none⟩

def dayMs : Int := 24 * 60 * 60 * 1000

def sampleTable : TableId := ⟨"p", "d", "t"⟩

/-- The sample table, created empty at time 0, after some calls. -/
def sampleRun (ops : List Operation) : DuckDBStorage :=
  execute (run sampleTable)
    (fresh.createTable sampleTable ⟨[{ name := "x" }]⟩ { nowMs := 0 }).1 ops

theorem snapshotAt_within_days :
    ∃ path, (sampleRun [.appendRows [⟨[.int64 1]⟩] { nowMs := dayMs },
        .overwriteRows [] { nowMs := 8 * dayMs }]).parquetSnapshotPathAt sampleTable
        (5 * dayMs) (9 * dayMs) (9 * dayMs) = .ok (some path) ∧
      (sampleRun [.appendRows [⟨[.int64 1]⟩] { nowMs := dayMs },
        .overwriteRows [] { nowMs := 8 * dayMs }]).readSnapshot sampleTable path =
        some [⟨[.int64 1]⟩] :=
  (snapshotAt_iff_begun_recently (9 * dayMs) rfl (by simp [Chronological, Operation.env, dayMs])
    (by simp [Operation.env, dayMs]) (by decide) (by decide)).mpr
    ⟨by decide, by simp [Operation.env, dayMs]; decide⟩

/-- The content of day 0 is live until day 10, yet on day 10 it cannot be read for
day 5: the append of day 10 pruned the version because of when it began. -/
theorem live_version_pruned :
    (sampleRun [.appendRows [⟨[.int64 1]⟩] { nowMs := 1 },
      .appendRows [⟨[.int64 2]⟩] { nowMs := 10 * dayMs }]).parquetSnapshotPathAt sampleTable
      (5 * dayMs) (10 * dayMs) (10 * dayMs) =
        .error (invalidSnapshotTimeError sampleTable (5 * dayMs) (3 * dayMs)) ∧
    (sampleRun (madeBy (5 * dayMs) [.appendRows [⟨[.int64 1]⟩] { nowMs := 1 },
      .appendRows [⟨[.int64 2]⟩] { nowMs := 10 * dayMs }])).liveRows sampleTable =
        [⟨[.int64 1]⟩] := by
  constructor <;> rfl

end BigQueryEmulator.Storage
