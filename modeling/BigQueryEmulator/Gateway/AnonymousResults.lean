import BigQueryEmulator.Gateway.FailedJobs

/-! The anonymous result tables of query jobs without a destination (`query/destination.go`,
`handlers/jobs.go`), and which tables they may take the place of. -/
namespace BigQueryEmulator.Gateway
open Storage (Status TableId)
open Effects Fallible Work List
variable {M : Type} {env : Env} {w u t : World M} {id : TableId}

/-- `[a-zA-Z0-9_]`. -/
def isIdentChar (c : Char) : Bool := c.isAlphanum || c = '_'

/-- `nonIdentRE.ReplaceAllString(text, "_")`: a run of other characters becomes one underscore.
The flag says whether such a run is going on. -/
def replaceNonIdent (running : Bool) : List Char → List Char
  | [] => []
  | c :: rest =>
    if isIdentChar c then c :: replaceNonIdent false rest
    else if running then replaceNonIdent true rest
    else '_' :: replaceNonIdent true rest

def sanitizeJobTableId (jobId : String) : String :=
  let id := String.ofList (replaceNonIdent false jobId.toList)
  if id = "" then "query_results" else id

def newJobId (nanos seq : Nat) : String := "job_" ++ toString nanos ++ "_" ++ toString seq

def pendingJobId (posted : String) (nanos seq : Nat) : String :=
  if posted = "" then newJobId nanos seq else posted

theorem pendingJobId_ne_empty (posted : String) (nanos seq : Nat) :
    pendingJobId posted nanos seq ≠ "" := by
  unfold pendingJobId
  split
  next =>
    intro empty
    have none_left := congrArg String.toList empty
    simp [newJobId] at none_left
  next given => exact given

def implicitDestDatasetId : String := "_bqemu_query_results"

theorem replaceNonIdent_clean (clean : ∀ c ∈ text, isIdentChar c = true) :
    replaceNonIdent running text = text := by
  induction text generalizing running with
  | nil => rfl
  | cons c rest ih =>
    obtain ⟨first, clean⟩ := forall_mem_cons.mp clean
    rw [replaceNonIdent, if_pos first, ih clean]

theorem replaceNonIdent_append (clean : ∀ c ∈ front, isIdentChar c = true) (rest : List Char) :
    replaceNonIdent false (front ++ rest) = front ++ replaceNonIdent false rest := by
  induction front with
  | nil => rfl
  | cons c front ih =>
    obtain ⟨first, clean⟩ := forall_mem_cons.mp clean
    rw [cons_append, replaceNonIdent, if_pos first, ih clean, cons_append]

theorem isIdentChar_of_replaced : ∀ c ∈ replaceNonIdent running text, isIdentChar c = true := by
  induction text generalizing running with
  | nil => simp [replaceNonIdent]
  | cons c rest ih =>
    rw [replaceNonIdent]
    split
    next first => exact forall_mem_cons.mpr ⟨first, ih⟩
    next =>
      split
      · exact ih
      · exact forall_mem_cons.mpr ⟨by decide, ih⟩

theorem replaceNonIdent_alphanum (plain : ∀ c ∈ replaceNonIdent false text, c.isAlphanum = true) :
    ∀ c ∈ text, isIdentChar c = true := by
  induction text with
  | nil => simp
  | cons c rest ih =>
    rw [replaceNonIdent] at plain
    split at plain
    next first =>
      obtain ⟨-, plain⟩ := forall_mem_cons.mp plain
      exact forall_mem_cons.mpr ⟨first, ih plain⟩
    next =>
      rw [if_neg (by decide)] at plain
      exact absurd (plain '_' (.head _)) (by decide)

theorem sanitize_clean (given : jobId ≠ "") (clean : ∀ c ∈ jobId.toList, isIdentChar c = true) :
    sanitizeJobTableId jobId = jobId := by
  unfold sanitizeJobTableId
  rw [replaceNonIdent_clean clean, String.ofList_toList]
  exact if_neg given

def IsPlain (jobId : String) : Prop := jobId ≠ "" ∧ ∀ c ∈ jobId.toList, c.isAlphanum = true

theorem IsPlain.clean (plain : IsPlain jobId) : ∀ c ∈ jobId.toList, isIdentChar c = true := by
  intro c among
  rw [isIdentChar, plain.2 c among]
  rfl

theorem IsPlain.sanitize (plain : IsPlain jobId) :
    sanitizeJobTableId jobId = jobId := sanitize_clean plain.1 plain.clean

theorem IsPlain.only (plain : IsPlain jobId)
    (same : sanitizeJobTableId other = sanitizeJobTableId jobId) : other = jobId := by
  rw [plain.sanitize] at same
  unfold sanitizeJobTableId at same
  dsimp only at same
  split at same
  next =>
    have underscore := plain.2 '_' (by rw [← same]; decide)
    exact absurd underscore (by decide)
  next given =>
    have replaced : replaceNonIdent false other.toList = jobId.toList := by
      rw [← same, String.toList_ofList]
    have clean := replaceNonIdent_alphanum (by rw [replaced]; exact plain.2)
    rw [replaceNonIdent_clean clean] at replaced
    exact String.toList_inj.mp replaced

theorem sanitize_ne_empty (jobId : String) : sanitizeJobTableId jobId ≠ "" := by
  unfold sanitizeJobTableId
  dsimp only
  split
  next => decide
  next given => exact given

theorem isIdentChar_of_sanitized (jobId : String) :
    ∀ c ∈ (sanitizeJobTableId jobId).toList, isIdentChar c = true := by
  unfold sanitizeJobTableId
  dsimp only
  split
  next => decide
  next =>
    rw [String.toList_ofList]
    exact isIdentChar_of_replaced

/-- Every id that is not plain shares its table name with another id that is not empty. -/
theorem exists_same_sanitized (given : jobId ≠ "") (mixed : ¬ IsPlain jobId) :
    ∃ other, other ≠ "" ∧ other ≠ jobId ∧ sanitizeJobTableId other = sanitizeJobTableId jobId := by
  by_cases clean : ∀ c ∈ jobId.toList, isIdentChar c = true
  · -- there is an underscore, and a dash in its place becomes one
    obtain ⟨c, among, other⟩ : ∃ c ∈ jobId.toList, c.isAlphanum = false := by
      by_contra all
      exact mixed ⟨given, fun c among => by
        by_contra other
        exact all ⟨c, among, by simpa using other⟩⟩
    have underscore : c = '_' := by
      have ident := clean c among
      rw [isIdentChar, other] at ident
      simpa using ident
    subst underscore
    obtain ⟨front, rest, parts⟩ := append_of_mem among
    rw [parts] at clean
    have front_clean : ∀ c ∈ front, isIdentChar c = true := (forall_mem_append.mp clean).1
    have rest_clean : ∀ c ∈ rest, isIdentChar c = true := fun c among =>
      clean c (mem_append_right _ (.tail _ among))
    refine ⟨String.ofList (front ++ '-' :: rest), ?_, ?_, ?_⟩
    · intro empty
      have none_left := congrArg String.toList empty
      simp at none_left
    · intro same
      have listed := congrArg String.toList same
      rw [String.toList_ofList, parts] at listed
      cases cons.inj (append_cancel_left listed) with
      | intro dash _ => exact absurd dash (by decide)
    · have replaced : replaceNonIdent false (front ++ '-' :: rest) =
          replaceNonIdent false jobId.toList := by
        rw [parts, replaceNonIdent_clean clean, replaceNonIdent_append front_clean, replaceNonIdent,
          if_neg (by decide), if_neg (by decide), replaceNonIdent_clean rest_clean]
      unfold sanitizeJobTableId
      rw [String.toList_ofList, replaced]
  · -- the table name itself is an id
    refine ⟨sanitizeJobTableId jobId, sanitize_ne_empty jobId, ?_, ?_⟩
    · intro same
      refine clean fun c among => isIdentChar_of_sanitized jobId c ?_
      rw [same]
      exact among
    · exact sanitize_clean (sanitize_ne_empty jobId) (isIdentChar_of_sanitized jobId)

/-- A query job without a destination table, once the engine has answered its SELECT. -/
structure SelectJob where
  projectId : String
  defaultDatasetId : String := ""
  postedJobId : String := ""
  nanos : Nat := 0
  seq : Nat := 0
  resultSchema : List Field
  rows : List (List RestCell)

namespace SelectJob

def jobId (job : SelectJob) : String := pendingJobId job.postedJobId job.nanos job.seq

def datasetId (job : SelectJob) : String :=
  let trimmed := String.ofList (trimSpace job.defaultDatasetId.toList)
  if trimmed = "" then implicitDestDatasetId else trimmed

def destination (job : SelectJob) : TableId :=
  ⟨job.projectId, job.datasetId, sanitizeJobTableId job.jobId⟩

end SelectJob

def materializeImplicitDestination (env : Env) (job : SelectJob) : Client M TableId := do
  if job.rows.isEmpty then
    throw ⟨.unknown, "implicit destination requires catalog, schema, and rows"⟩
  else
    ensureDataset env job.projectId job.datasetId
    applyWriteDisposition env "WRITE_TRUNCATE" job.destination job.resultSchema
    let _ ← insertRows env job.destination job.resultSchema
      (restRowsToMaps env.go job.resultSchema job.rows)
    return job.destination

/-- The end of `runSyncQueryInsert` for a SELECT: an error of the materialization is dropped. -/
def finishSelect (env : Env) (job : SelectJob) : Client M (Option TableId) := do
  if job.rows.isEmpty then return none
  else
    match ← (materializeImplicitDestination env job).attempt with
    | .ok destination => return some destination
    | .error _ => return none

/-- No table but that of the id was touched. -/
def Elsewhere (id : TableId) (w t : World M) : Prop :=
  ∀ other, other ≠ id → t.store.tables other = w.store.tables other

theorem elsewhere_of_still (kept : Elsewhere id w u) (quiet : Ensures work u good (Still u))
    (still : ∀ answer t, good answer t → Still u t) :
    Ensures work u (fun _ t => Elsewhere id w t) (Elsewhere id w) := by
  have same (t : World M) (quiet : Still u t) : Elsewhere id w t := by
    intro other differ
    rw [quiet.tables]
    exact kept other differ
  exact quiet.mono (fun answer t done => same t (still answer t done)) same

theorem dropTable_elsewhere (kept : Elsewhere id w u) :
    Ensures (dropTable env id) u (fun _ t => Elsewhere id w t) (Elsewhere id w) := by
  refine rpc_ensures kept fun _ t ok other differ => ?_
  obtain ⟨-, st, served, rfl⟩ := rpc_ok_iff.mp ok
  obtain ⟨-, -, served⟩ := bind_ok_iff.mp served
  obtain ⟨_, -, served⟩ := bind_ok_iff.mp served
  cases served
  exact (Store.put_other _ _ differ).trans (kept other differ)

variable {schema : List Field}

theorem registerTable_elsewhere (kept : Elsewhere id w u) :
    Ensures (registerTable env id schema) u (fun _ t => Elsewhere id w t) (Elsewhere id w) := by
  refine rpc_ensures kept fun _ t ok other differ => ?_
  rw [(registerTable_ok_iff.mp ok).1]
  exact (Store.put_other _ _ differ).trans (kept other differ)

theorem insertRows_elsewhere (kept : Elsewhere id w u) :
    Ensures (insertRows env id schema rows) u (fun _ t => Elsewhere id w t) (Elsewhere id w) := by
  refine .of_outcome (fun count t ok other differ => ?_) fun status t failed other differ => ?_
  · exact ((insertRows_ok ok).2.1 other differ).trans (kept other differ)
  · rw [((insertRows_ensures (Still.refl u)).of_error failed).tables]
    exact kept other differ

theorem materializeImplicitDestination_elsewhere (env : Env) (job : SelectJob) (w : World M) :
    Ensures (materializeImplicitDestination env job) w
      (fun _ t => Elsewhere job.destination w t) (Elsewhere job.destination w) := by
  have kept : Elsewhere job.destination w w := fun _ _ => rfl
  unfold materializeImplicitDestination
  split
  · exact .throw kept
  · refine (elsewhere_of_still kept (ensureDataset_ensures (Still.refl w)) fun _ _ done => done).bind
      fun _ t kept => ?_
    refine ((elsewhere_of_still kept (tableExists_ensures (Still.refl t)) fun _ _ done =>
      done.1).bind fun there u kept => ?_ : Ensures _ _ (fun _ t => Elsewhere job.destination w t)
        (Elsewhere job.destination w)).bind fun _ t kept => ?_
    · rw [if_pos rfl]
      split
      · exact (wrapped_ensures (dropTable_elsewhere kept)).bind fun _ _ kept =>
          registerTable_elsewhere kept
      · exact registerTable_elsewhere kept
    exact (insertRows_elsewhere kept).bind fun _ _ kept => .pure kept

theorem finishSelect_elsewhere (env : Env) (job : SelectJob) (w : World M) :
    Elsewhere job.destination w (outcome (finishSelect env job) w).2 := by
  refine Ensures.state ?_
  unfold finishSelect
  split
  · exact .pure fun _ _ => rfl
  · refine (materializeImplicitDestination_elsewhere env job w).attempt.bind fun answer t done => ?_
    cases answer with
    | ok destination => exact .pure (done.1 destination rfl)
    | error status => exact .pure (done.2 status rfl)

theorem finishSelect_drops (db : DuckDb) (go : Go) (some_rows : job.rows ≠ [])
    (present : Present w.store job.destination table) :
    (outcome (finishSelect ⟨db, go, failing .registerTable none⟩ job) w).2.store.tables
      job.destination = none := by
  have breaks := always_breaks db go .registerTable
  have failed : Fails (materializeImplicitDestination ⟨db, go, failing .registerTable none⟩ job) w
      (fun t => t.store.tables job.destination = none) := by
    obtain ⟨u, ensured, present, -⟩ := ensureDataset_present present
      ((breaks _).serves _ le_rfl .registerDataset (by decide))
    unfold materializeImplicitDestination
    rw [if_neg (by simpa using some_rows)]
    exact .after ensured (.bind (truncate_fails present (breaks _)))
  obtain ⟨status, t, ran, gone⟩ := failed
  unfold finishSelect
  rw [if_neg (by simpa using some_rows), outcome_bind, outcome_attempt, ran]
  exact gone

theorem isPlain_jobId_iff {job : SelectJob} : IsPlain job.jobId ↔ IsPlain job.postedJobId := by
  unfold SelectJob.jobId pendingJobId
  split
  next unposted =>
    refine iff_of_false ?_ fun plain => plain.1 unposted
    rintro ⟨-, plain⟩
    have underscore := plain '_' (by simp [newJobId])
    exact absurd underscore (by decide)
  next => exact Iff.rfl

theorem jobId_ne_empty (job : SelectJob) : job.jobId ≠ "" := pendingJobId_ne_empty _ _ _

/-- No job but the one itself has its anonymous table, exactly if its id is plain. -/
theorem destination_apart_iff (job : SelectJob) :
    (∀ other : SelectJob, (other.projectId, other.jobId) ≠ (job.projectId, job.jobId) →
        other.destination ≠ job.destination) ↔ IsPlain job.jobId := by
  constructor
  · intro apart
    by_contra mixed
    obtain ⟨other, given, differ, same⟩ := exists_same_sanitized (jobId_ne_empty job) mixed
    have posted : ({ job with postedJobId := other } : SelectJob).jobId = other := if_neg given
    refine apart { job with postedJobId := other } ?_ ?_
    · rw [posted]
      exact fun pair => differ (Prod.mk.inj pair).2
    · unfold SelectJob.destination
      rw [posted, same]
      rfl
  · intro plain other differ same
    have project : other.projectId = job.projectId := congrArg TableId.projectId same
    have name : sanitizeJobTableId other.jobId = sanitizeJobTableId job.jobId :=
      congrArg TableId.tableId same
    exact differ (by rw [project, plain.only name])

/-- The tables of a user keep their rows and schemas whatever calls fail, and no other job has the
same anonymous table, exactly if the job was posted with an id of letters and digits, and has no
rows or no table of the user is called like the id. -/
theorem select_job_apart_iff (db : DuckDb) (go : Go) (job : SelectJob) (w : World M)
    (user : TableId → Prop) (stored : ∀ id, user id → ∃ table, Present w.store id table) :
    ((∀ fails id, user id →
        (outcome (finishSelect ⟨db, go, fails⟩ job) w).2.store.tables id = w.store.tables id) ∧
      ∀ other : SelectJob, (other.projectId, other.jobId) ≠ (job.projectId, job.jobId) →
        other.destination ≠ job.destination) ↔
      IsPlain job.postedJobId ∧
        (job.rows = [] ∨ ¬ user ⟨job.projectId, job.datasetId, job.postedJobId⟩) := by
  rw [destination_apart_iff, isPlain_jobId_iff, and_comm]
  refine and_congr_right fun plain => ?_
  have named : job.destination = ⟨job.projectId, job.datasetId, job.postedJobId⟩ := by
    rw [SelectJob.destination, SelectJob.jobId, pendingJobId, if_neg plain.1, plain.sanitize]
  rw [← named]
  constructor
  · intro kept
    by_contra exposed
    obtain ⟨some_rows, taken⟩ := not_or.mp exposed
    obtain ⟨table, present⟩ := stored _ (not_not.mp taken)
    have gone := finishSelect_drops db go some_rows present
    rw [kept _ _ (not_not.mp taken), present.stored] at gone
    cases gone
  · rintro (empty | free) fails id owned
    · unfold finishSelect
      rw [if_pos (by simpa using empty)]
      rfl
    · exact finishSelect_elsewhere _ job w id fun same => free (same ▸ owned)

/-- A job with the id `measures` and the default dataset of the table `measures`. -/
def measuresJob : SelectJob where
  projectId := "p"
  defaultDatasetId := "ds"
  postedJobId := "measures"
  resultSchema := [.mk "unit" "STRING" "NULLABLE" "" []]
  rows := [[.string "m"]]

theorem other_job_apart :
    (∀ fails id, id = sampleId →
        (outcome (finishSelect ⟨sampleDb, sampleEnv.go, fails⟩
          { measuresJob with postedJobId := "run1" }) (measuresWorld 0)).2.store.tables id =
            some (measures 0)) ∧
      ∀ other : SelectJob, (other.projectId, other.jobId) ≠ ("p", "run1") →
        other.destination ≠ ⟨"p", "ds", "run1"⟩ :=
  (select_job_apart_iff sampleDb sampleEnv.go { measuresJob with postedJobId := "run1" }
    (measuresWorld 0) (· = sampleId) fun id same => ⟨measures 0, by rw [same]; exact ⟨rfl, rfl⟩⟩).mpr
    ⟨⟨by decide, by decide⟩, .inr (by decide)⟩

/-- No call fails, and the table of the user holds the result of the query. -/
theorem select_job_overwrites_table :
    (measuresWorld 0).store.tables sampleId = some (measures 0) ∧
      (outcome (finishSelect sampleEnv measuresJob) (measuresWorld 0)).2.store.tables sampleId =
        some ⟨[.mk "unit" "STRING" "NULLABLE" "" []], [⟨[.string "m"]⟩]⟩ :=
  ⟨rfl, rfl⟩
end BigQueryEmulator.Gateway
