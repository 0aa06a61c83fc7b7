import BigQueryEmulator.Read.Splitting

/-! What ReadRows returns for the streams of a session. A session fixes row numbers, not
rows, so its reads give the rows it was opened on as long as these keep their numbers:
appends are harmless, an overwrite that changes them is not. -/
namespace BigQueryEmulator.Read
open Storage Transition
open List hiding partition

theorem streamRowsToWriter_ok
    (ok : streamRowsToWriter engine rowSchema batchSize delivered rows page written =
      (pages, .ok ())) :
    pages.flatMap ReadRowsResponse.rows =
      written.flatMap ReadRowsResponse.rows ++ page ++ rows.map (encodeRow engine rowSchema) := by
  induction rows generalizing page written with
  | nil =>
    rw [streamRowsToWriter] at ok
    split at ok
    · split at ok
      · cases ok
        simp
      · cases ok
    · rename_i empty
      cases ok
      simp [length_eq_zero_iff.mp (Nat.eq_zero_of_not_pos empty)]
  | cons row rest ih =>
    rw [streamRowsToWriter] at ok
    split at ok
    · cases ok
    dsimp only at ok
    split at ok
    · split at ok
      · simp [ih ok]
      · cases ok
    · simp [ih ok]

theorem slices_join (keep : α → Bool) (rows : List α) {bound : Nat → Int}
    (monotone : Monotone bound) (zero : bound 0 = 0) (count : Nat) :
    (range count).flatMap (fun i =>
      ((rows.take (bound (i + 1)).toNat).drop (bound i).toNat).filter keep) =
        (rows.take (bound count).toNat).filter keep := by
  induction count with
  | zero => simp [zero]
  | succ count ih =>
    have earlier : (bound count).toNat ≤ (bound (count + 1)).toNat :=
      Int.toNat_le_toNat (monotone (Nat.le_succ count))
    have front : rows.take (bound count).toNat =
        (rows.take (bound (count + 1)).toNat).take (bound count).toNat := by
      rw [take_take, Nat.min_eq_left earlier]
    rw [range_succ, flatMap_append, ih, front, flatMap_singleton,
      ← filter_append, take_append_drop]

theorem flatMap_eq_of_map_eq {xs : List α} {ys : List β} (same : xs.map f = ys.map g)
    (each : ∀ x ∈ xs, ∀ y ∈ ys, f x = g y → F x = G y) : xs.flatMap F = ys.flatMap G := by
  induction xs generalizing ys with
  | nil =>
    cases ys with
    | nil => rfl
    | cons y ys => cases same
  | cons x xs ih =>
    cases ys with
    | nil => cases same
    | cons y ys =>
      obtain ⟨head, tail⟩ := cons.inj same
      rw [flatMap_cons, flatMap_cons,
        each x ((.head _) ..) y ((.head _) ..) head,
        ih tail (fun x' left y' right =>
          each x' (.tail _ left) y' (.tail _ right))]

namespace CountedSession

def keeps (engine : Engine) (counted : CountedSession) (row : Row) : Bool :=
  ReadFilter.restricts { whereSql := counted.whereSql } engine.duckdb
    (parquetStorageSchema counted.schema) row

def encode (engine : Engine) (counted : CountedSession) (row : Row) : List Cell :=
  encodeRow engine
    (if counted.selectedFields.isEmpty then counted.schema
      else projectSchemaForResponse counted.schema counted.selectedFields)
    (projectRow (parquetStorageSchema counted.schema) counted.selectedFields row)

/-- What a stream of the session returns from an offset on, read over `rows`. -/
def answer (engine : Engine) (counted : CountedSession) (partition : StreamPartition) (offset : Int)
    (rows : List Row) : List (List Cell) :=
  ((((rows.take partition.rowEnd.toNat).drop partition.rowStart.toNat).filter
    (counted.keeps engine)).drop offset.toNat).map (counted.encode engine)

end CountedSession

namespace SessionState

structure Records (session : SessionState) (counted : CountedSession) : Prop where
  table : session.table = counted.table
  schema : session.schema = counted.schema
  whereSql : session.whereSql = counted.whereSql
  selectedFields : session.selectedFields = counted.selectedFields
  totalRows : session.totalRows = counted.totalRows

structure Grows (old new : SessionState) : Prop where
  table : new.table = old.table
  schema : new.schema = old.schema
  whereSql : new.whereSql = old.whereSql
  selectedFields : new.selectedFields = old.selectedFields
  totalRows : new.totalRows = old.totalRows
  streams : ∀ name part, old.streams name = some part → new.streams name = some part

theorem Grows.refl (session : SessionState) : session.Grows session :=
  ⟨rfl, rfl, rfl, rfl, rfl, fun _ _ held => held⟩

variable {old new : SessionState}

theorem Grows.trans (first : old.Grows new) (second : new.Grows last) : old.Grows last := by
  cases first
  cases second
  constructor <;> grind

theorem Records.grows (records : old.Records counted) (grows : old.Grows new) :
    new.Records counted :=
  ⟨grows.table.trans records.table, grows.schema.trans records.schema,
    grows.whereSql.trans records.whereSql, grows.selectedFields.trans records.selectedFields,
    grows.totalRows.trans records.totalRows⟩

theorem Grows.readOf (grows : old.Grows new) (partition : StreamPartition) (offset : Int) :
    new.readOf partition offset = old.readOf partition offset := by
  simp only [SessionState.readOf, grows.table, grows.schema, grows.whereSql, grows.selectedFields]

end SessionState

theorem paginate_offset (filter : ReadFilter) (unlimited : filter.rowLimit = 0) (rows : List Row) :
    paginate filter rows = rows.drop filter.offset.toNat := by
  by_cases positive : filter.offset > 0
  · simp [paginate, unlimited, positive]
  · have none : filter.offset.toNat = 0 := by omega
    simp [paginate, unlimited, positive, none]

variable {storage : DuckDBStorage} {session : SessionState} {engine : Engine}

variable {counted : CountedSession}

/-- A read that ends with OK has returned the rows of its slice of the live table. -/
theorem fetchRows_ok (records : session.Records counted)
    (schema : storage.getSchema counted.table = .ok counted.schema) (stop : 0 ≤ partition.rowEnd)
    (ok : (fetchRows engine storage (session.readOf partition offset) env).2 = .ok ()) :
    (fetchRows engine storage (session.readOf partition offset) env).1.flatMap
        ReadRowsResponse.rows =
      counted.answer engine partition offset (storage.liveRows counted.table) := by
  have read : session.readOf partition offset =
      { table := counted.table
        filter :=
          { offset := offset, selectedFields := counted.selectedFields
            whereSql := counted.whereSql, rowStart := partition.rowStart
            rowEnd := partition.rowEnd }
        rowSchema :=
          if counted.selectedFields.isEmpty then counted.schema
          else projectSchemaForResponse counted.schema counted.selectedFields } := by
    simp only [SessionState.readOf, records.table, records.schema, records.whereSql,
      records.selectedFields]
  rw [read] at ok ⊢
  unfold fetchRows at ok ⊢
  cases answered : storage.createReadStream engine.duckdb counted.table
      { offset := offset, selectedFields := counted.selectedFields, whereSql := counted.whereSql,
        rowStart := partition.rowStart, rowEnd := partition.rowEnd } env.failure with
  | error e =>
    rw [answered] at ok
    cases ok
  | ok rows =>
    rw [answered] at ok
    rw [streamRowsToWriter_ok (Prod.ext rfl ok),
      DuckDBStorage.createReadStream_ok schema stop answered, paginate_offset _ rfl]
    simp only [flatMap_nil, nil_append, map_map]
    rfl

def StorageReadService.Grows (old new : StorageReadService) : Prop :=
  ∀ sessionName session, old.sessions sessionName = some session →
    ∃ session', new.sessions sessionName = some session' ∧ session.Grows session'

structure Located (svc : StorageReadService) (readStream sessionName : String)
    (session : SessionState) (partition : StreamPartition) : Prop where
  named : ∃ key, parseReadStreamName readStream = .ok (sessionName, key)
  known : svc.sessions sessionName = some session
  found : session.streams readStream = some partition

theorem Located.grows (grows : old.Grows new)
    (located : Located old readStream sessionName session partition) :
    ∃ session', session.Grows session' ∧ Located new readStream sessionName session' partition := by
  obtain ⟨session', known, bigger⟩ := grows sessionName session located.known
  exact ⟨session', bigger, located.named, known, bigger.streams _ _ located.found⟩

/-- What an answered session keeps: its table still starts with the rows it was opened
on, and the service still has its streams. -/
structure Opened.Kept (opened : Opened) (storage : DuckDBStorage) (svc : StorageReadService) :
    Prop where
  schema : storage.getSchema opened.counted.table = .ok opened.counted.schema
  rows : (storage.liveRows opened.counted.table).take opened.snapshot.length = opened.snapshot
  total : opened.counted.totalRows = opened.snapshot.length
  streams : ∃ streamCount, 1 ≤ streamCount ∧ opened.counted.totalRows * streamCount < 2 ^ 63 ∧
    opened.session.streams = (buildPartitions opened.session.name streamCount
      opened.counted.totalRows).map StreamPartition.name ∧
    ∃ session, svc.sessions opened.session.name = some session ∧
      session.Records opened.counted ∧
      ∀ part ∈ buildPartitions opened.session.name streamCount opened.counted.totalRows,
        session.streams part.name = some part

theorem Opened.Kept.grows {opened : Opened}
    (kept : opened.Kept storage svc) (grows : svc.Grows svc') :
    opened.Kept storage svc' := by
  obtain ⟨streamCount, positive, fits, listed, session, known, records, held⟩ := kept.streams
  obtain ⟨session', known', bigger⟩ := grows _ session known
  exact { kept with streams := ⟨streamCount, positive, fits, listed, session', known',
    records.grows bigger, fun part member => bigger.streams _ _ (held part member)⟩ }

namespace World

/-- At its return a session has counted the rows its table then holds, and no overwrite
changes the rows a session was opened on. -/
def Steady (w : World) : Step → Prop
  | .openSession call => ∀ request counted, w.opening call = some (request, counted) →
      counted.totalRows = (w.storage.liveRows counted.table).length ∧
      counted.totalRows * negotiateStreamCount request.maxStreamCount counted.totalRows < 2 ^ 63
  | .overwriteRows table rows _ => ∀ opened ∈ w.opened, opened.counted.table = table →
      rows.take opened.snapshot.length = opened.snapshot
  | _ => True

/-- A successful read has returned its stream's part of the rows its session was opened on. -/
def Sound (engine : Engine) (w : World) (answer : Answer) : Prop :=
  ∃ sessionName session partition,
    Located w.svc answer.request.readStream sessionName session partition ∧
    ∀ opened ∈ w.opened, opened.session.name = sessionName →
      answer.rows =
        opened.counted.answer engine partition answer.request.offset opened.snapshot

structure Consistent (engine : Engine) (w : World) : Prop where
  numbered : ∀ sessionName session, w.svc.sessions sessionName = some session →
    ∃ project id, sessionName = newSessionId project id ∧ id < w.svc.nextSessionId
  bounded : ∀ sessionName session, w.svc.sessions sessionName = some session →
    ∀ name part, session.streams name = some part →
      0 ≤ part.rowStart ∧ part.rowStart ≤ part.rowEnd ∧ part.rowEnd ≤ session.totalRows
  counted : ∀ call request counted, w.opening call = some (request, counted) →
    w.storage.getSchema counted.table = .ok counted.schema
  opened : ∀ opened ∈ w.opened, opened.Kept w.storage w.svc
  reading : ∀ call request read, w.reading call = some (request, read) →
    ∃ sessionName session partition,
      Located w.svc request.readStream sessionName session partition ∧
      read = session.readOf partition request.offset
  answers : ∀ answer ∈ w.answers, answer.status = .ok () → Sound engine w answer

theorem Sound.grows {w w' : World} (sound : w.Sound engine answer)
    (grows : w.svc.Grows w'.svc) (entered : ∀ opened ∈ w'.opened,
      opened ∈ w.opened ∨ w.svc.sessions opened.session.name = none) :
    w'.Sound engine answer := by
  obtain ⟨sessionName, session, partition, located, correct⟩ := sound
  obtain ⟨session', _, located'⟩ := located.grows grows
  refine ⟨sessionName, session', partition, located', ?_⟩
  intro opened member same
  rcases entered opened member with old | new
  · exact correct opened old same
  · rw [same, located.known] at new
    cases new

section
variable {engine : Engine} {w : World}

theorem enterChildren_grows {svc : StorageReadService} (known : svc.sessions name = some session)
    (original : StreamPartition) (cut : Int) :
    svc.Grows (svc.setSession name (enterChildren name session original cut).1) := by
  intro other state held
  by_cases same : other = name
  · subst same
    rw [known] at held
    cases held
    exact ⟨_, if_pos rfl, rfl, rfl, rfl, rfl, rfl,
      fun _ _ held => emplace_kept (emplace_kept held _ _) _ _⟩
  · exact ⟨state, by simp only [StorageReadService.setSession, if_neg same, held], .refl state⟩

theorem Move.grows (move : Move engine w s w') : w.svc.Grows w'.svc := by
  cases move with
  | enter =>
    intro name session known
    exact ⟨session, by rw [openSession_sessions, emplace_kept known], .refl session⟩
  | split _ _ _ _ _ original cut _ known => exact enterChildren_grows known original cut
  | _ => exact fun name session known => ⟨session, known, .refl session⟩

/-- In any run a session keeps what it was opened on, and its streams their rows. -/
theorem sessions_persist (engine : Engine) (w : World) (steps : List Step) :
    w.svc.Grows (execute (step engine) w steps).svc := by
  refine Transition.invariant (P := fun w' : World => w.svc.Grows w'.svc) ?_ ?_ steps
  · intro w' s grown name session known
    obtain ⟨held, found, first⟩ := grown name session known
    obtain ⟨last, kept, second⟩ := (w'.step_moves engine s).grows name held found
    exact ⟨last, kept, first.trans second⟩
  · exact fun name session known => ⟨session, known, .refl session⟩

section
variable (consistent : w.Consistent engine)
include consistent

variable {request : ReadRowsRequest} {call : Nat}

theorem Consistent.reading_grows {svc : StorageReadService}
    (grows : w.svc.Grows svc) {read : OpenRead} (pending : w.reading call = some (request, read)) :
    ∃ sessionName session partition,
      Located svc request.readStream sessionName session partition ∧
      read = session.readOf partition request.offset := by
  obtain ⟨sessionName, session, partition, located, rfl⟩ := consistent.reading call request read pending
  obtain ⟨session', bigger, located'⟩ := located.grows grows
  exact ⟨sessionName, session', partition, located', (bigger.readOf partition _).symm⟩

theorem Consistent.unused (project : String) :
    w.svc.sessions (newSessionId project w.svc.nextSessionId) = none := by
  cases taken : w.svc.sessions (newSessionId project w.svc.nextSessionId) with
  | none => rfl
  | some session =>
    obtain ⟨other, id, same, earlier⟩ := consistent.numbered _ session taken
    have number := newSessionId_number same
    omega

theorem Consistent.enter {request : CreateReadSessionRequest}
    (pending : w.opening call = some (request, counted))
    (total : counted.totalRows = (w.storage.liveRows counted.table).length)
    (fits : counted.totalRows * negotiateStreamCount request.maxStreamCount counted.totalRows < 2 ^ 63) :
    Consistent engine { w with
      svc := (Read.openSession w.svc request counted).1
      opening := setCall w.opening call none
      opened := w.opened ++ [⟨(Read.openSession w.svc request counted).2, counted,
        w.storage.liveRows counted.table⟩] } := by
  have free := consistent.unused counted.project
  have positive := negotiateStreamCount_positive request.maxStreamCount counted.totalRows
  have sessions (name : String) : (Read.openSession w.svc request counted).1.sessions name =
      if name = newSessionId counted.project w.svc.nextSessionId then
        some (openedState w.svc request counted)
      else w.svc.sessions name := by
    rw [openSession_sessions, emplace_free _ free]
  have grows := (Move.enter call request counted pending : Move engine w _ _).grows
  refine ⟨?_, ?_, ?_, ?_, ?_, ?_⟩
  · intro name session known
    rw [sessions] at known
    split at known
    · rename_i same
      exact ⟨counted.project, w.svc.nextSessionId, same, Nat.lt_succ_self _⟩
    · obtain ⟨project, id, same, earlier⟩ := consistent.numbered name session known
      exact ⟨project, id, same, Nat.lt_succ_of_lt earlier⟩
  · intro name session known
    rw [sessions] at known
    split at known
    · cases known
      intro stream part held
      exact buildPartitions_bounded _ positive (by omega) fits
        ((openedState_streams w.svc request counted stream part).mp held).1
    · exact consistent.bounded name session known
  · intro other request' counted' ongoing
    rcases setCall_cases ongoing with none | ongoing
    · cases none
    exact consistent.counted other request' counted' ongoing
  · intro opened member
    rcases mem_append.mp member with old | new
    · exact (consistent.opened opened old).grows grows
    rw [mem_singleton.mp new]
    refine ⟨consistent.counted call request counted pending, take_length, total,
      _, positive, fits, rfl, openedState w.svc request counted, ?_, ⟨rfl, rfl, rfl, rfl, rfl⟩, ?_⟩
    · exact (sessions _).trans (if_pos rfl)
    · intro part member
      exact (openedState_streams w.svc request counted part.name part).mpr ⟨member, rfl⟩
  · intro other request' read ongoing
    exact consistent.reading_grows grows ongoing
  · intro answer member ok
    refine (consistent.answers answer member ok).grows grows ?_
    intro opened member
    rcases mem_append.mp member with old | new
    · exact .inl old
    · rw [mem_singleton.mp new]
      exact .inr free

theorem Consistent.split {sessionName name : String} {original : StreamPartition}
    (known : w.svc.sessions sessionName = some session)
    (found : session.streams name = some original)
    (checked : splitAt name session original fraction = .ok cut) (split : List (String × String)) :
    Consistent engine { w with
      svc := w.svc.setSession sessionName (enterChildren sessionName session original cut).1
      split := split } := by
  have bounds := consistent.bounded sessionName session known name original found
  have cuts := splitAt_ok checked (by omega)
  have grows := enterChildren_grows known original cut
  refine ⟨?_, ?_, consistent.counted, ?_, ?_, ?_⟩
  · intro other state held
    by_cases same : other = sessionName
    · subst same
      exact consistent.numbered other session known
    · simp only [StorageReadService.setSession, if_neg same] at held
      exact consistent.numbered other state held
  · intro other state held
    by_cases same : other = sessionName
    · simp only [StorageReadService.setSession, if_pos same] at held
      cases held
      intro stream part entered
      rcases emplace_cases entered with entered | ⟨_, rfl⟩
      · rcases emplace_cases entered with old | ⟨_, rfl⟩
        · exact consistent.bounded sessionName session known stream part old
        · exact ⟨bounds.1, by simp only [primaryOf]; omega, by simp only [primaryOf, enterChildren]; omega⟩
      · exact ⟨by simp only [remainderOf]; omega, by simp only [remainderOf]; omega, bounds.2.2⟩
    · simp only [StorageReadService.setSession, if_neg same] at held
      exact consistent.bounded other state held
  · intro opened member
    exact (consistent.opened opened member).grows grows
  · intro call request read pending
    exact consistent.reading_grows grows pending
  · intro answer member ok
    exact (consistent.answers answer member ok).grows grows (fun opened member => .inl member)

/-- A write that leaves the catalog and the first rows of every session's table alone. -/
theorem Consistent.stored (catalog : DuckDBStorage.SameCatalog storage w.storage)
    (rows : ∀ opened ∈ w.opened, (storage.liveRows opened.counted.table).take
      opened.snapshot.length = opened.snapshot) :
    Consistent engine { w with storage := storage } := by
  refine ⟨consistent.numbered, consistent.bounded, ?_, ?_, consistent.reading, consistent.answers⟩
  · intro call request counted pending
    rw [← consistent.counted call request counted pending]
    exact catalog.getSchema counted.table
  · intro opened member
    have kept := consistent.opened opened member
    exact ⟨(catalog.getSchema _).trans kept.schema, rows opened member, kept.total, kept.streams⟩

theorem Consistent.write (writes : DuckDBStorage.Writes w.storage table content (written, verdict))
    (steady : ∀ opened ∈ w.opened, opened.counted.table = table →
      content.take opened.snapshot.length = opened.snapshot) :
    Consistent engine { w with storage := written } := by
  refine consistent.stored writes.catalog fun opened member => ?_
  have kept := consistent.opened opened member
  cases verdict with
  | error e => rw [writes.error e rfl, kept.rows]
  | ok done =>
    rw [writes.ok rfl]
    split
    next same => exact steady opened member same
    next => exact kept.rows

theorem Consistent.append (table : TableId) (rows : List Row) (env : MutationEnv) :
    Consistent engine { w with storage := (w.storage.appendRows table rows env).1 } := by
  refine consistent.write (w.storage.appendRows_writes table rows env) fun opened member same => ?_
  have kept := consistent.opened opened member
  have long : opened.snapshot.length ≤ (w.storage.liveRows opened.counted.table).length := by
    have lengths := congrArg length kept.rows
    rw [length_take] at lengths
    omega
  rw [← same, take_append_of_le_length long, kept.rows]

theorem Consistent.overwrite (env : MutationEnv)
    (steady : w.Steady (.overwriteRows table rows env)) :
    Consistent engine { w with storage := (w.storage.overwriteRows table rows env).1 } :=
  consistent.write (w.storage.overwriteRows_writes table rows env) steady

end

theorem Consistent.move {next : World} (consistent : w.Consistent engine)
    (steady : w.Steady s) (move : Move engine w s next) : next.Consistent engine := by
  cases move with
  | rest => exact consistent
  | count call request counted checked =>
    refine { consistent with counted := ?_ }
    intro other request' counted' ongoing
    rcases setCall_cases ongoing with new | ongoing
    · cases new
      exact (countSession_ok checked).1
    · exact consistent.counted other request' counted' ongoing
  | enter call request counted pending =>
    obtain ⟨total, fits⟩ := steady request counted pending
    exact consistent.enter pending total fits
  | refuse call request e =>
    refine { consistent with answers := ?_ }
    intro answer member ok
    rcases mem_append.mp member with old | new
    · exact consistent.answers answer old ok
    · rw [mem_singleton.mp new] at ok
      cases ok
  | read call request sessionName key session partition named known found =>
    refine { consistent with reading := ?_ }
    intro other request' read ongoing
    rcases setCall_cases ongoing with new | ongoing
    · cases new
      exact ⟨sessionName, session, partition, ⟨⟨key, named⟩, known, found⟩, rfl⟩
    · exact consistent.reading other request' read ongoing
  | fetch call env request read pending =>
    refine { consistent with reading := ?_, answers := ?_ }
    · intro other request' read' ongoing
      rcases setCall_cases ongoing with none | ongoing
      · cases none
      exact consistent.reading other request' read' ongoing
    · intro answer member ok
      rcases mem_append.mp member with old | new
      · exact consistent.answers answer old ok
      · rw [mem_singleton.mp new] at ok ⊢
        obtain ⟨sessionName, session, partition, located, rfl⟩ :=
          consistent.reading call request read pending
        refine ⟨sessionName, session, partition, located, ?_⟩
        rintro opened member rfl
        have kept := consistent.opened opened member
        obtain ⟨_, _, _, _, state, known, records, _⟩ := kept.streams
        rw [located.known] at known
        cases known
        have bounds := consistent.bounded _ session located.known _ partition located.found
        -- the slice lies within the rows the session was opened on
        have within : partition.rowEnd.toNat ≤ opened.snapshot.length := by
          have total := records.totalRows.trans kept.total
          omega
        rw [Answer.rows, fetchRows_ok records kept.schema (by omega) ok]
        simp only [CountedSession.answer]
        conv_rhs => rw [← kept.rows, take_take, Nat.min_eq_left within]
  | split request fraction sessionName key session original cut named known found inside checked =>
    exact consistent.split known found checked _
  | append table rows env => exact consistent.append table rows env
  | overwrite table rows env => exact consistent.overwrite env steady

end

theorem Start.consistent {w : World} (start : w.Start) : w.Consistent engine where
  numbered := by simp [start.sessions]
  bounded := by simp [start.sessions]
  counted := by simp [start.opening]
  opened := by simp [start.opened]
  reading := by simp [start.reading]
  answers := by simp [start.answers]

theorem Consistent.answered {w : World} (consistent : w.Consistent engine)
    {opened : Opened} (listed : opened ∈ w.opened)
    (member : part ∈ buildPartitions opened.session.name streamCount opened.counted.totalRows)
    (known : w.svc.sessions opened.session.name = some session)
    (held : session.streams part.name = some part)
    (recorded : answer ∈ w.answers) (ok : answer.status = .ok ())
    (same : answer.request.readStream = part.name) :
    answer.rows =
      opened.counted.answer engine part answer.request.offset opened.snapshot := by
  obtain ⟨sessionName, state, partition, located, correct⟩ :=
    consistent.answers answer recorded ok
  obtain ⟨i, _, rfl⟩ := mem_map.mp member
  obtain ⟨key, named⟩ := located.named
  have own : parseReadStreamName (streamName opened.session.name (StreamKey.initial i).text) =
      .ok (opened.session.name, (StreamKey.initial i).text) :=
    parseReadStreamName_streamName _ (StreamKey.initial_plain i) (StreamKey.initial_nonempty i)
  rw [same] at named
  obtain ⟨rfl, _⟩ := Prod.mk.inj (Except.ok.inj (own.symm.trans named))
  have states : state = session := Option.some.inj (located.known.symm.trans known)
  subst states
  have found := located.found
  rw [same, held] at found
  cases found
  exact correct opened listed rfl

/-- In every run that meets `Steady`, reading all streams of a session returns, in stream
order, the rows that satisfied its restriction when CreateReadSession returned. -/
theorem session_reads_opened_rows {engine : Engine} {w : World} {steps : List Step}
    (start : w.Start) (admitted : Admits Steady (step engine) w steps) :
    let last := execute (step engine) w steps
    ∀ opened ∈ last.opened, ∀ reads : List Answer,
      (∀ read ∈ reads, read ∈ last.answers ∧ read.status = .ok () ∧ read.request.offset ≤ 0) →
      reads.map (fun read => read.request.readStream) = opened.session.streams →
        reads.flatMap Answer.rows =
          (opened.snapshot.filter (opened.counted.keeps engine)).map
            (opened.counted.encode engine) := by
  intro last opened listed reads successful inOrder
  have consistent : last.Consistent engine :=
    guarded_invariant (fun w' s consistent steady => consistent.move steady (w'.step_moves engine s))
      start.consistent admitted
  have kept := consistent.opened opened listed
  obtain ⟨streamCount, positive, fits, streams, session, known, records, held⟩ := kept.streams
  have rows : 0 ≤ opened.counted.totalRows := by
    have total := kept.total
    omega
  rw [streams] at inOrder
  have slices : reads.flatMap Answer.rows =
      (buildPartitions opened.session.name streamCount opened.counted.totalRows).flatMap
        (fun part => opened.counted.answer engine part 0 opened.snapshot) := by
    refine flatMap_eq_of_map_eq inOrder ?_
    intro read member part inParts same
    obtain ⟨recorded, ok, offset⟩ := successful read member
    rw [consistent.answered listed inParts known (held part inParts) recorded ok same,
      CountedSession.answer, Int.toNat_of_nonpos offset]
    rfl
  rw [slices, buildPartitions_range _ positive rows fits, flatMap_map]
  have joined := slices_join (opened.counted.keeps engine) opened.snapshot
    (boundary_monotone positive rows) (boundary_zero _ _) streamCount.toNat
  rw [boundary_last positive, kept.total, Int.toNat_natCast, take_length] at joined
  rw [← joined, map_flatMap, kept.total]
  rfl

/-- Both streams of a session are read, with a row appended in between. -/
def appendBetweenReads : List Step :=
  [.countRows 0 ⟨"projects/p", "projects/p/datasets/d/tables/a", none, 2⟩, .openSession 0,
    .openRead 0 ⟨"projects/p/locations/-/sessions/s1/streams/0", 0⟩, .fetchRows 0 {},
    .appendRows ⟨"p", "d", "a"⟩ [⟨[.string "4"]⟩] { nowMs := 0 },
    .openRead 1 ⟨"projects/p/locations/-/sessions/s1/streams/1", 0⟩, .fetchRows 1 {}]

theorem append_between_reads_unseen :
    ∃ opened, (execute (step plainEngine) fourRows appendBetweenReads).opened = [opened] ∧
      (execute (step plainEngine) fourRows appendBetweenReads).answers.flatMap Answer.rows =
        (opened.snapshot.filter (opened.counted.keeps plainEngine)).map
          (opened.counted.encode plainEngine) := by
  have start : fourRows.Start := ⟨fun _ => rfl, fun _ => rfl, fun _ => rfl, rfl, rfl, rfl⟩
  have admitted : Admits Steady (step plainEngine) fourRows appendBetweenReads := by
    refine ⟨trivial, ?_, trivial, trivial, trivial, trivial, trivial, trivial⟩
    rintro request counted ⟨⟩
    exact ⟨rfl, by decide⟩
  refine ⟨_, rfl, session_reads_opened_rows start admitted _ (mem_singleton_self _) _ ?_ rfl⟩
  intro read member
  refine ⟨member, ?_⟩
  rcases mem_cons.mp member with rfl | member
  · exact ⟨rfl, by decide⟩
  · rcases mem_cons.mp member with rfl | member
    · exact ⟨rfl, by decide⟩
    · cases member

/-- A DELETE of row `0` overwrites the table before the session's stream is read. -/
def deleteBeforeRead : List Step :=
  [.countRows 0 ⟨"projects/p", "projects/p/datasets/d/tables/a", none, 1⟩, .openSession 0,
    .overwriteRows ⟨"p", "d", "a"⟩ [⟨[.string "1"]⟩, ⟨[.string "2"]⟩, ⟨[.string "3"]⟩]
      { nowMs := 0 },
    .openRead 0 ⟨"projects/p/locations/-/sessions/s1/streams/0", 0⟩, .fetchRows 0 {}]

/-- The read succeeds without row `0`, which the table held when the session was opened. -/
theorem deleted_row_missing :
    (execute (step plainEngine) fourRows deleteBeforeRead).opened.map Opened.snapshot =
      [[⟨[.string "0"]⟩, ⟨[.string "1"]⟩, ⟨[.string "2"]⟩, ⟨[.string "3"]⟩]] ∧
    (execute (step plainEngine) fourRows deleteBeforeRead).answers.map
        (fun answer => (answer.status, answer.rows)) =
      [(.ok (), [[.stringValue "1"], [.stringValue "2"], [.stringValue "3"]])] :=
  ⟨rfl, rfl⟩

end World
end BigQueryEmulator.Read
