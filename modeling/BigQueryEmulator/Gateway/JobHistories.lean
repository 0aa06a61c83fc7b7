import BigQueryEmulator.Gateway.AnonymousResults
import BigQueryEmulator.Gateway.QueryResults
import BigQueryEmulator.Text.Numbers

/-! The jobs of the gateway: the registry (`jobs/registry.go`) and the handlers that insert, report
and list jobs (`handlers/jobs.go`, `jobs_upload.go`, `queries.go`); which job is reported under an
id, and what a client sees that follows the page tokens of a list. -/
namespace BigQueryEmulator.Gateway
open List

inductive JobState where
  | pending | running | done
deriving DecidableEq

/-- A job as far as the registry reads it; the rest of it is its content. -/
structure Job (R : Type) where
  projectId : String
  jobId : String
  location : String := ""
  parentJobId : String := ""
  state : JobState
  creationTime : Int
  content : R

/-- The jobs in the order in which they came, by distinct ids. -/
structure Registry (R : Type) where
  jobs : List (Job R)
  distinct : (jobs.map Job.jobId).Nodup

namespace Registry
variable {R : Type} (registry : Registry R)

def get (jobId : String) : Option (Job R) := registry.jobs.find? fun job => job.jobId = jobId

/-- Nothing is done for a job without an id, or with one that is taken. -/
def register (job : Job R) : Registry R :=
  if free : job.jobId ≠ "" ∧ job.jobId ∉ registry.jobs.map Job.jobId then
    { jobs := registry.jobs ++ [job]
      distinct := by
        rw [map_append]
        refine registry.distinct.append (nodup_singleton _) ?_
        simpa using free.2 }
  else registry

def write (job : Job R) : Registry R where
  jobs := registry.jobs.map fun other => if other.jobId = job.jobId then job else other
  distinct := by
    have ids : (registry.jobs.map fun other => if other.jobId = job.jobId then job else other).map
        Job.jobId = registry.jobs.map Job.jobId := by
      rw [map_map]
      refine map_congr_left fun other _ => ?_
      simp only [Function.comp]
      split <;> simp_all
    rw [ids]
    exact registry.distinct

def keep (kept : Job R → Bool) : Registry R where
  jobs := registry.jobs.filter kept
  distinct := registry.distinct.sublist (filter_sublist.map _)

/-- The children go with their parent. -/
def delete (jobId : String) : Registry R :=
  if (registry.get jobId).isNone then registry
  else registry.keep fun job => job.jobId ≠ jobId && job.parentJobId ≠ jobId

end Registry

section

structure ListOptions where
  maxResults : Int := 0
  pageToken : String := ""
  parentJobId : String := ""
  minCreationTime : Int := 0
  maxCreationTime : Int := 0
  stateFilter : List String := []

/-- `strings.ToLower`, as far as words of ASCII letters are looked for. -/
def lowerChar (c : Char) : Char :=
  if c = '\u0130' then 'i' else if c = '\u212a' then 'k' else c.toLower

def stateFilterAlias (text : String) : Option JobState :=
  let word := (trimSpace text.toList).map lowerChar
  if word = "pending".toList then some .pending
  else if word = "running".toList then some .running
  else if word = "done".toList then some .done
  else none

def normalizeStateFilters (filters : List String) : List JobState := filters.filterMap stateFilterAlias

variable {R : Type}

def jobMatchesProject (projectId : String) (opts : ListOptions) (job : Job R) : Bool :=
  let states := normalizeStateFilters opts.stateFilter
  job.projectId = projectId &&
    (opts.parentJobId = "" || job.parentJobId = opts.parentJobId) &&
    (states.isEmpty || states.contains job.state) &&
    (opts.minCreationTime = 0 || opts.minCreationTime ≤ job.creationTime) &&
    (opts.maxCreationTime = 0 || job.creationTime ≤ opts.maxCreationTime)

/-- The loop of `ListByProject`: how many were skipped, and the jobs of the page so far. -/
def listFrom (fits : Job R → Bool) (maxResults : Nat) (start : Int) :
    Int → List (Job R) → List (Job R) → List (Job R) × String
  | _, page, [] => (page, "")
  | skipped, page, job :: rest =>
    if !fits job then listFrom fits maxResults start skipped page rest
    else if skipped < start then listFrom fits maxResults start (skipped + 1) page rest
    else if maxResults ≤ page.length then (page, toString (start + page.length))
    else listFrom fits maxResults start skipped (page ++ [job]) rest

def ListOptions.pageSize (opts : ListOptions) : Nat :=
  if opts.maxResults ≤ 0 then 50 else opts.maxResults.toNat

/-- `strconv.Atoi` without its error, which comes with zero, or with the nearest integer. -/
def pageStart (token : String) : Int :=
  match atoi token.toList, token.toList with
  | some start, _ => start
  | none, '-' :: digits => if isDecimalIntString digits then -2 ^ 63 else 0
  | none, '+' :: digits | none, digits => if isDecimalIntString digits then 2 ^ 63 - 1 else 0

def listByProject (registry : Registry R) (projectId : String) (opts : ListOptions) :
    List (Job R) × String :=
  listFrom (jobMatchesProject projectId opts) opts.pageSize
    (pageStart opts.pageToken) 0 [] registry.jobs.reverse

end

section
variable {C R σ : Type}

inductive JobKind where
  | query | load | copy | extract
deriving DecidableEq

/-- A request body; an id that is not given is empty. -/
structure PostedJob (C : Type) where
  projectId : String
  jobId : String
  location : String
  configuration : Option C
  /-- the time, in nanoseconds and in milliseconds -/
  nanos : Nat
  creationTime : Int

/-- What the execution of a job does: the content it leaves, the error with which a script is
answered, the children that a script registers with their times, and all other effects. -/
structure Execution (R σ : Type) where
  content : R
  scriptError : Option String
  children : List (Nat × Int × R)
  world : σ

structure JobsEnv (C R σ : Type) where
  /-- the first part that a configuration has -/
  kind : C → Option JobKind
  hasQuery : Bool
  pending : C → R
  execute : String → String → C → σ → Execution R σ

structure JobsState (R σ : Type) where
  registry : Registry R
  counter : Nat
  world : σ
  /-- how many jobs were executed -/
  executed : Nat

inductive JobAnswer (R : Type) where
  | refused (code : Nat) (message : String)
  | job (job : Job R)

def registerChildJob (parent : Job R) (state : Registry R × Nat) (child : Nat × Int × R) :
    Registry R × Nat :=
  (state.1.register
    { projectId := parent.projectId
      jobId := newJobId child.1 (state.2 + 1)
      location := parent.location
      parentJobId := parent.jobId
      state := .done
      creationTime := child.2.1
      content := child.2.2 }, state.2 + 1)

def newPendingJob (env : JobsEnv C R σ) (posted : PostedJob C) (config : C)
    (state : JobsState R σ) : Job R × Nat :=
  ({ projectId := posted.projectId
     jobId := pendingJobId posted.jobId posted.nanos (state.counter + 1)
     location := posted.location
     state := .pending
     creationTime := posted.creationTime
     content := env.pending config },
    if posted.jobId = "" then state.counter + 1 else state.counter)

variable (env : JobsEnv C R σ) (posted : PostedJob C) (config : C) (state : JobsState R σ)

def execution : Execution R σ :=
  env.execute posted.projectId (newPendingJob env posted config state).1.jobId config state.world

def finishedJob : Job R :=
  { (newPendingJob env posted config state).1 with
    state := .done
    content := (execution env posted config state).content }

/-- A job is registered and executed. Its holder writes into the job that it made, which is in the
registry only if the id was free. -/
def runJob : JobsState R σ :=
  let (pending, counter) := newPendingJob env posted config state
  let (registry, counter) := (execution env posted config state).children.foldl
    (registerChildJob pending) (state.registry.register pending, counter)
  let registered := (state.registry.get pending.jobId).isNone
  { registry := if registered then registry.write (finishedJob env posted config state) else registry
    counter := counter
    world := (execution env posted config state).world
    executed := state.executed + 1 }

def admitted : Except (JobAnswer R) C :=
  match posted.configuration with
  | none => .error (.refused 400 "Job configuration is required.")
  | some config =>
    match env.kind config with
    | none => .error (.refused 501
        "jobs.insert: configuration must include query, load, copy, or extract.")
    | some kind =>
      if kind = .query ∧ !env.hasQuery then .error (.refused 501 "Not Implemented")
      else .ok config

def jobInsert : JobAnswer R × JobsState R σ :=
  match admitted env posted with
  | .error answer => (answer, state)
  | .ok config =>
    (match (execution env posted config state).scriptError with
      | some message => .refused 400 message
      | none => .job (finishedJob env posted config state), runJob env posted config state)

/-- `JobGet` and `QueryGetResults` without a location: the job of which they report. -/
def jobGet (registry : Registry R) (projectId jobId : String) : Option (Job R) :=
  (registry.get jobId).filter fun job => job.projectId = projectId

end

open Registry
variable {C R σ : Type} {env : JobsEnv C R σ} {state : JobsState R σ} {registry : Registry R}

namespace Registry

theorem get_register (registry : Registry R) (job : Job R) (jobId : String) :
    (registry.register job).get jobId = (registry.get jobId).or
      (if job.jobId = jobId ∧ jobId ≠ "" then some job else none) := by
  unfold register
  split
  · rename_i free
    rw [get, find?_append, get]
    congr 1
    have := free.1
    by_cases same : job.jobId = jobId <;> simp_all
  · rename_i taken
    rw [not_and_or, not_not, not_not] at taken
    split
    · rename_i same
      obtain ⟨rfl, given⟩ := same
      obtain ⟨other, within, sameId⟩ := mem_map.mp (taken.resolve_left given)
      have found : (registry.get job.jobId).isSome := by
        rw [get, find?_isSome]
        exact ⟨other, within, by simpa using sameId⟩
      obtain ⟨known, known_eq⟩ := Option.isSome_iff_exists.mp found
      rw [known_eq, Option.some_or]
    · rw [Option.or_none]

theorem get_write (job : Job R) (jobId : String) :
    (registry.write job).get jobId =
      if jobId = job.jobId then (registry.get jobId).map fun _ => job else registry.get jobId := by
  simp only [get, write]
  induction registry.jobs with
  | nil => simp
  | cons other rest ih =>
    by_cases written : other.jobId = job.jobId <;> by_cases found : other.jobId = jobId <;>
      by_cases same : jobId = job.jobId <;> simp_all

theorem get_register_of_some (known : registry.get jobId = some job) (other : Job R) :
    (registry.register other).get jobId = some job := by
  rw [get_register, known, Option.some_or]

end Registry

theorem get_children (parent : Job R) (children : List (Nat × Int × R)) (counter : Nat)
    (known : registry.get jobId = some job) :
    (children.foldl (registerChildJob parent) (registry, counter)).1.get jobId = some job := by
  induction children generalizing registry counter with
  | nil => exact known
  | cons child rest ih => exact ih _ (get_register_of_some known _)

section
variable (env : JobsEnv C R σ) (posted : PostedJob C) (config : C) (state : JobsState R σ)

theorem finishedJob_jobId : (finishedJob env posted config state).jobId =
    (newPendingJob env posted config state).1.jobId := rfl

theorem finishedJob_projectId :
    (finishedJob env posted config state).projectId = posted.projectId := rfl

theorem runJob_keeps (known : state.registry.get jobId = some job) :
    (runJob env posted config state).registry.get jobId = some job := by
  have children := get_children (newPendingJob env posted config state).1
    (execution env posted config state).children (newPendingJob env posted config state).2
    (get_register_of_some known (newPendingJob env posted config state).1)
  simp only [runJob]
  split
  · rename_i free
    have apart : jobId ≠ (newPendingJob env posted config state).1.jobId := by
      rintro rfl
      simp [known] at free
    rw [get_write, finishedJob_jobId, if_neg apart, children]
  · exact children

theorem runJob_records
    (free : state.registry.get (newPendingJob env posted config state).1.jobId = none) :
    (runJob env posted config state).registry.get (newPendingJob env posted config state).1.jobId =
      some (finishedJob env posted config state) := by
  have registered := state.registry.get_register
    (newPendingJob env posted config state).1 (newPendingJob env posted config state).1.jobId
  rw [free, Option.none_or, if_pos ⟨rfl, pendingJobId_ne_empty _ _ _⟩]
    at registered
  have children := get_children (newPendingJob env posted config state).1
    (execution env posted config state).children (newPendingJob env posted config state).2 registered
  simp only [runJob, free, Option.isNone_none, if_true]
  rw [get_write, finishedJob_jobId, if_pos rfl, children, Option.map_some]

def laterStates : JobsState R σ → List (PostedJob C) → List (JobsState R σ)
  | _, [] => []
  | state, posted :: rest =>
    (jobInsert env posted state).2 :: laterStates (jobInsert env posted state).2 rest

/-- Every request that is executed has its job reported from then on, under its project and id;
none is executed for a project and id that have a job. -/
def Identified : JobsState R σ → List (PostedJob C) → Prop
  | _, [] => True
  | state, posted :: rest =>
    (∀ config, admitted (R := R) env posted = .ok config →
      (∀ later ∈ laterStates env state (posted :: rest),
        jobGet later.registry posted.projectId (newPendingJob env posted config state).1.jobId =
          some (finishedJob env posted config state)) ∧
      ((jobGet state.registry posted.projectId
          (newPendingJob env posted config state).1.jobId).isSome →
        (jobInsert env posted state).2.executed = state.executed)) ∧
    Identified (jobInsert env posted state).2 rest

/-- No request that is executed has an id that a job of any project has. -/
def FreshIds : JobsState R σ → List (PostedJob C) → Prop
  | _, [] => True
  | state, posted :: rest =>
    (∀ config, admitted (R := R) env posted = .ok config →
      state.registry.get (newPendingJob env posted config state).1.jobId = none) ∧
    FreshIds (jobInsert env posted state).2 rest

variable {env posted config state}

theorem jobInsert_admitted (ok : admitted env posted = .ok config) :
    (jobInsert env posted state).2 = runJob env posted config state := by
  rw [jobInsert, ok]

theorem jobInsert_keeps (known : state.registry.get jobId = some job) :
    (jobInsert env posted state).2.registry.get jobId = some job := by
  cases ok : admitted (R := R) env posted with
  | error answer => rwa [jobInsert, ok]
  | ok config =>
    rw [jobInsert_admitted ok]
    exact runJob_keeps env posted config state known

theorem laterStates_keep (known : state.registry.get jobId = some job) :
    ∀ later ∈ laterStates env state requests, later.registry.get jobId = some job := by
  induction requests generalizing state with
  | nil => simp [laterStates]
  | cons posted rest ih =>
    have next : (jobInsert env posted state).2.registry.get jobId = some job := jobInsert_keeps known
    exact forall_mem_cons.mpr ⟨next, ih next⟩

/-- A history in which every id is used once, in whatever project, is the one in which jobs keep
their identity. -/
theorem identified_iff (env : JobsEnv C R σ) (state : JobsState R σ)
    (requests : List (PostedJob C)) : Identified env state requests ↔ FreshIds env state requests := by
  induction requests generalizing state with
  | nil => rfl
  | cons posted rest ih =>
    refine and_congr (forall₂_congr fun config ok => ?_) (ih _)
    constructor
    · rintro ⟨reported, refused⟩
      by_contra taken
      obtain ⟨other, known⟩ := Option.ne_none_iff_exists'.mp taken
      by_cases same : other.projectId = posted.projectId
      · -- a second job of the project is executed all the same
        have executed := refused (by simp [jobGet, known, same])
        rw [jobInsert_admitted ok] at executed
        simp [runJob] at executed
      · have first := reported _ (.head _)
        rw [jobGet, jobInsert_keeps known, Option.filter_some, if_neg (by simpa using same)] at first
        cases first
    · intro free
      have recorded := runJob_records env posted config state free
      rw [← jobInsert_admitted ok] at recorded
      refine ⟨fun later within => ?_, fun present => ?_⟩
      · have known : later.registry.get (newPendingJob env posted config state).1.jobId =
            some (finishedJob env posted config state) := by
          revert later
          exact forall_mem_cons.mpr ⟨recorded, laterStates_keep recorded⟩
        simp [jobGet, known, finishedJob_projectId]
      · simp [jobGet, free] at present

def sampleJobs : JobsEnv String String (List String) where
  kind _ := some .query
  hasQuery := true
  pending sql := sql
  execute _ _ sql world := ⟨sql, none, [], world ++ [sql]⟩

def sampleInsert (sql : String) : PostedJob String := ⟨"p", "nightly", "", some sql, 0, 0⟩

/-- The second job of an id is executed, and the first one is reported for it. -/
theorem second_insert_executed :
    ¬ Identified sampleJobs ⟨⟨[], by decide⟩, 0, [], 0⟩
      [sampleInsert "INSERT INTO t VALUES (1)", sampleInsert "INSERT INTO t VALUES (2)"] := by
  intro identified
  obtain ⟨reported, -⟩ := identified.2.1 "INSERT INTO t VALUES (2)" rfl
  have content := congrArg (Option.map Job.content) (reported _ (.head _))
  exact absurd content (by decide)

end

section
variable {fits : Job R → Bool} {maxResults start : Nat}

theorem listFrom_filter (skipped : Int) (page jobs : List (Job R)) :
    listFrom fits maxResults start skipped page jobs =
      listFrom (fun _ => true) maxResults start skipped page (jobs.filter fits) := by
  induction jobs generalizing skipped page with
  | nil => rfl
  | cons job rest ih => by_cases fit : fits job = true <;> simp [listFrom, fit, ih]

theorem listFrom_drop (skipped : Nat) (jobs : List (Job R)) (before : skipped ≤ start) :
    listFrom (fun _ => true) maxResults start skipped [] jobs =
      listFrom (fun _ => true) maxResults start start [] (jobs.drop (start - skipped)) := by
  induction jobs generalizing skipped with
  | nil => simp [listFrom]
  | cons job rest ih =>
    by_cases skips : skipped < start
    · have next := ih (skipped + 1) (by omega)
      rw [show start - skipped = start - (skipped + 1) + 1 by omega, drop_succ_cons, ← next]
      simp [listFrom, skips]
    · rw [show skipped = start by omega, Nat.sub_self, drop_zero]

theorem listFrom_take (page jobs : List (Job R)) (small : page.length ≤ maxResults) :
    listFrom (fun _ => true) maxResults start start page jobs =
      (page ++ jobs.take (maxResults - page.length),
        if maxResults < page.length + jobs.length then toString (start + maxResults : Int) else "") := by
  induction jobs generalizing page with
  | nil => simp [listFrom, small]
  | cons job rest ih =>
    by_cases full : maxResults ≤ page.length
    · have exact_size : page.length = maxResults := by omega
      simp [listFrom, exact_size]
    · have next := ih (page ++ [job]) (by simp; omega)
      rw [show maxResults - page.length = maxResults - (page ++ [job]).length + 1 by simp; omega,
        take_succ_cons]
      simp only [listFrom, lt_self_iff_false, full, Bool.not_true, Bool.false_eq_true, if_false, next]
      simp [add_assoc, add_comm 1]

def matching (registry : Registry R) (projectId : String) (opts : ListOptions) : List (Job R) :=
  registry.jobs.reverse.filter (jobMatchesProject projectId opts)

theorem atoi_digits (given : text ≠ []) (digits : ∀ c ∈ text, c.isDigit = true)
    (small : Nat.ofDigitChars 10 text 0 < 2 ^ 63) :
    atoi text = some (Nat.ofDigitChars 10 text 0 : Int) := by
  have number : isDecimalIntString text = true := by
    simp [isDecimalIntString, given, all_eq_true.mpr digits]
  have value : text.foldl (fun value c => value * 10 + (c.toNat - '0'.toNat)) 0 =
      Nat.ofDigitChars 10 text 0 := by
    simp only [Nat.ofDigitChars, mul_comm]
  unfold atoi
  split
  rename_i negative rest split_eq
  have unsigned : (negative, rest) = (false, text) := by
    rw [← split_eq]
    split
    · exact absurd (digits _ (.head _)) (by decide)
    · exact absurd (digits _ (.head _)) (by decide)
    · rfl
  obtain ⟨rfl, rfl⟩ := Prod.mk.inj unsigned
  simp only [number, value, if_true, Bool.false_eq_true, if_false]
  exact if_pos (by omega)

theorem pageStart_toString {n : Nat} (small : n < 2 ^ 63) : pageStart (toString (n : Int)) = n := by
  have digits : (toString (n : Int)).toList = Nat.toDigits 10 n := by
    exact Nat.toList_repr
  have read : Nat.ofDigitChars 10 (Nat.toDigits 10 n) 0 = n := Nat.ofDigitChars_ten_toDigits
  rw [pageStart, digits, atoi_digits Nat.toDigits_ne_nil (fun c => Text.isDigit_of_mem_decimal)
    (by omega), read]

inductive JobEvent (R : Type) where
  | register (job : Job R)
  | delete (jobId : String)

def JobEvent.apply (registry : Registry R) : JobEvent R → Registry R
  | .register job => registry.register job
  | .delete jobId => registry.delete jobId

def afterGap (registry : Registry R) (gap : List (JobEvent R)) : Registry R :=
  gap.foldl JobEvent.apply registry

variable (projectId : String) (opts : ListOptions)

/-- The jobs that a client gets which follows the tokens to the end, with what happens after each
page but the last. -/
def followPages : Registry R → String → List (List (JobEvent R)) → Option (List (Job R))
  | registry, token, [] =>
    let (page, next) := listByProject registry projectId { opts with pageToken := token }
    if next = "" then some page else none
  | registry, token, gap :: gaps =>
    let (page, next) := listByProject registry projectId { opts with pageToken := token }
    if next = "" then none else (followPages (afterGap registry gap) next gaps).map (page ++ ·)

/-- No job that fits is added, and none of the jobs that were returned is removed. A job whose id is
taken is not added, and one that is not there is not removed. -/
def Spares (returned : List (Job R)) (registry : Registry R) : JobEvent R → Prop
  | .register job => jobMatchesProject projectId opts job = false ∨ job.jobId = "" ∨
      job.jobId ∈ registry.jobs.map Job.jobId
  | .delete jobId => (registry.get jobId).isNone ∨
      ∀ job ∈ returned, job.jobId ≠ jobId ∧ job.parentJobId ≠ jobId

def AllSpare (returned : List (Job R)) : Registry R → List (JobEvent R) → Prop
  | _, [] => True
  | registry, event :: gap =>
    Spares projectId opts returned registry event ∧ AllSpare returned (event.apply registry) gap

def Calm : Registry R → String → List (Job R) → List (List (JobEvent R)) → Prop
  | _, _, _, [] => True
  | registry, token, returned, gap :: gaps =>
    let (page, next) := listByProject registry projectId { opts with pageToken := token }
    AllSpare projectId opts (returned ++ page) registry gap ∧
      Calm (afterGap registry gap) next (returned ++ page) gaps

variable {projectId opts}

theorem matching_apply (event : JobEvent R) (spares : Spares projectId opts returned registry event)
    (split : matching registry projectId opts = returned ++ rest) :
    ∃ rest', matching (event.apply registry) projectId opts = returned ++ rest' ∧
      rest'.length ≤ rest.length := by
  cases event with
  | register job =>
    refine ⟨rest, ?_, le_rfl⟩
    rw [← split, JobEvent.apply, register]
    split
    next free =>
      have misses : jobMatchesProject projectId opts job = false :=
        spares.resolve_right fun refused => refused.elim free.1 free.2
      simp [matching, misses]
    next => rfl
  | delete jobId =>
    rw [JobEvent.apply, delete]
    split
    next => exact ⟨rest, split, le_rfl⟩
    next known =>
      have kept : returned.filter (fun job => job.jobId ≠ jobId && job.parentJobId ≠ jobId) =
          returned :=
        filter_eq_self.mpr fun job within => by simpa using spares.resolve_left known job within
      refine ⟨rest.filter fun job => job.jobId ≠ jobId && job.parentJobId ≠ jobId, ?_,
        length_filter_le _ _⟩
      rw [matching, keep, ← filter_reverse, filter_comm, ← matching, split,
        filter_append, kept]

theorem matching_afterGap (gap : List (JobEvent R))
    (spares : AllSpare projectId opts returned registry gap)
    (split : matching registry projectId opts = returned ++ rest) :
    ∃ rest', matching (afterGap registry gap) projectId opts = returned ++ rest' ∧
      rest'.length ≤ rest.length := by
  induction gap generalizing registry rest with
  | nil => exact ⟨rest, split, le_rfl⟩
  | cons event gap ih =>
    obtain ⟨first, split, fewer⟩ := matching_apply event spares.1 split
    obtain ⟨second, split, fewer'⟩ := ih spares.2 split
    exact ⟨second, split, fewer'.trans fewer⟩

theorem page_eq (split : matching registry projectId opts = returned ++ rest)
    (token_eq : pageStart token = returned.length) :
    listByProject registry projectId { opts with pageToken := token } =
      (rest.take opts.pageSize, if opts.pageSize < rest.length then
        toString (returned.length + opts.pageSize : Int) else "") := by
  have whole : matching registry projectId { opts with pageToken := token } = returned ++ rest := split
  have from_start : listFrom _ opts.pageSize returned.length (0 : Nat) [] (returned ++ rest) = _ :=
    listFrom_drop 0 _ (Nat.zero_le _)
  rw [Nat.cast_zero] at from_start
  rw [listByProject, token_eq, listFrom_filter, ← matching, whole]
  refine from_start.trans ?_
  rw [listFrom_take _ _ (Nat.zero_le _), Nat.sub_zero, drop_left]
  simp

/-- What is returned so far are the first jobs that fit, and stays so. -/
theorem followPages_eq (split : matching registry projectId opts = returned ++ rest)
    (small : returned.length + rest.length < 2 ^ 63) (token_eq : pageStart token = returned.length)
    (calm : Calm projectId opts registry token returned gaps)
    (followed : followPages projectId opts registry token gaps = some total) :
    returned ++ total = matching (gaps.foldl afterGap registry) projectId opts := by
  have page := page_eq split token_eq
  induction gaps generalizing registry returned rest token total with
  | nil =>
    simp only [followPages, page] at followed
    by_cases more : opts.pageSize < rest.length
    · rw [if_pos more, if_neg (Text.toString_int_ne_empty _)] at followed
      cases followed
    · rw [if_neg more, if_pos rfl, take_of_length_le (by omega)] at followed
      cases followed
      exact split.symm
  | cons gap gaps ih =>
    simp only [followPages, page] at followed
    simp only [Calm, page] at calm
    by_cases more : opts.pageSize < rest.length
    · rw [if_pos more, if_neg (Text.toString_int_ne_empty _)] at followed
      obtain ⟨later, after, rfl⟩ := Option.map_eq_some_iff.mp followed
      rw [if_pos more] at calm
      have divided : matching registry projectId opts =
          (returned ++ rest.take opts.pageSize) ++ rest.drop opts.pageSize := by
        rw [split, append_assoc, take_append_drop]
      obtain ⟨rest', split', fewer⟩ := matching_afterGap gap calm.1 divided
      have length : (returned ++ rest.take opts.pageSize).length = returned.length + opts.pageSize := by
        rw [length_append, length_take, min_eq_left more.le]
      have token' : pageStart (toString (returned.length + opts.pageSize : Int)) =
          (returned ++ rest.take opts.pageSize).length := by
        rw [length, ← Nat.cast_add, pageStart_toString (by omega)]
      rw [length_drop] at fewer
      rw [← append_assoc]
      exact ih split' (by omega) token' calm.2 after (page_eq split' token')
    · rw [if_neg more, if_pos rfl] at followed
      cases followed

/-- A client that follows the tokens, while no job that fits is added and none of those that it
has got is removed, gets every job once that fits and is there at every page. -/
theorem pages_complete {registry : Registry R} {gaps : List (List (JobEvent R))}
    {total : List (Job R)} (small : registry.jobs.length < 2 ^ 63)
    (calm : Calm projectId opts registry "" [] gaps)
    (followed : followPages projectId opts registry "" gaps = some total) (job : Job R)
    (fit : jobMatchesProject projectId opts job)
    (there : ∀ pages, job ∈ ((gaps.take pages).foldl afterGap registry).jobs) :
    (total.map Job.jobId).count job.jobId = 1 := by
  have bound : (matching registry projectId opts).length ≤ registry.jobs.length :=
    (length_filter_le _ _).trans_eq length_reverse
  have all := followPages_eq (nil_append _).symm (by rw [length_nil]; omega) rfl calm followed
  rw [nil_append] at all
  have last := there gaps.length
  rw [take_length] at last
  have listed : job ∈ total := by
    rw [all, matching, mem_filter, mem_reverse]
    exact ⟨last, fit⟩
  refine count_eq_one_of_mem ?_ (mem_map_of_mem listed)
  rw [all, matching]
  refine ((filter_sublist).map _).nodup ?_
  rw [map_reverse]
  exact nodup_reverse.mpr (distinct _)

def nightlyJob (project jobId : String) : Job Unit :=
  { projectId := project, jobId := jobId, state := .done, creationTime := 0, content := () }

def nightlyJobs : Registry Unit :=
  ⟨[nightlyJob "p" "load", nightlyJob "p" "merge", nightlyJob "p" "export"], by decide⟩

theorem nightly_pages_complete :
    followPages "p" { maxResults := 2 } nightlyJobs "" [[.register (nightlyJob "q" "load2")]] =
        some nightlyJobs.jobs.reverse ∧
      (nightlyJobs.jobs.reverse.map Job.jobId).count "merge" = 1 := by
  have followed : followPages "p" { maxResults := 2 } nightlyJobs ""
      [[.register (nightlyJob "q" "load2")]] = some nightlyJobs.jobs.reverse := rfl
  refine ⟨followed, pages_complete ?_ ?_ followed (nightlyJob "p" "merge") rfl ?_⟩
  · decide
  · exact ⟨⟨.inl rfl, trivial⟩, trivial⟩
  · intro pages
    cases pages <;> simp [afterGap, JobEvent.apply, register, nightlyJobs, nightlyJob]

/-- The token counts a job that is not there any more, and the next page begins one too far. -/
theorem deletion_skips_job :
    (followPages "p" { maxResults := 1 } nightlyJobs "" [[.delete "export"]]).map
        (map Job.jobId) = some ["export", "load"] ∧
      ∀ pages, nightlyJob "p" "merge" ∈
        (([[.delete "export"]].take pages).foldl afterGap nightlyJobs).jobs := by
  refine ⟨by decide +kernel, fun pages => ?_⟩
  cases pages <;> simp [afterGap, JobEvent.apply, Registry.delete, Registry.get, Registry.keep,
    nightlyJobs, nightlyJob]

end

end BigQueryEmulator.Gateway
