import BigQueryEmulator.Read.World
import BigQueryEmulator.Read.Partitions

/-! Splitting. The streams of a session that were never split tile its rows, as long
as no stream is split twice: a split stream stays in the session, and nothing stops a
second split of it from handing out its rows again. -/
namespace BigQueryEmulator.Read
open Storage Tiling Transition List

namespace StreamKey

/-- Whether a session whose next split has the number `next` can have given out the key. -/
def Issued (next : Nat) : StreamKey → Prop
  | .initial _ => True
  | .primary split | .remainder split => split < next

theorem Issued.later {next : Nat} {key : StreamKey} (issued : key.Issued next) :
    key.Issued (next + 1) := by
  cases key with
  | initial index => trivial
  | primary | remainder => exact Nat.lt_succ_of_lt issued

end StreamKey

def StreamPartition.range (part : StreamPartition) : Set Int := Set.Ico part.rowStart part.rowEnd

/-- Every stream is stored under its own name, and its key has been given out. -/
def Keyed (sessionName : String) (session : SessionState) : Prop :=
  ∀ name part, session.streams name = some part → part.name = name ∧
    ∃ key : StreamKey, name = streamName sessionName key.text ∧ key.Issued session.nextSplitId

/-- `leaves` lists the streams never split, and they tile the session's rows. -/
structure Leaves (sessionName : String) (session : SessionState) (split : List (String × String))
    (leaves : List StreamPartition) : Prop where
  distinct : leaves.Nodup
  exact : ∀ part, part ∈ leaves ↔
    session.streams part.name = some part ∧ (sessionName, part.name) ∉ split
  tiles : Tiles (leaves.map StreamPartition.range) (Set.Ico 0 session.totalRows)
  ordered : ∀ part ∈ leaves, 0 ≤ part.rowStart ∧ part.rowStart ≤ part.rowEnd
  filled : 0 < session.totalRows → ∀ part ∈ leaves, part.rowStart < part.rowEnd

theorem splitAt_ok (ok : splitAt name session original fraction = .ok cut)
    (bounded : 0 ≤ original.rowEnd) : original.rowStart < cut ∧ cut < original.rowEnd := by
  have stop : original.rangeEnd session.totalRows = original.rowEnd := by
    rw [StreamPartition.rangeEnd, if_neg (by omega)]
  simp only [splitAt, stop] at ok
  split at ok
  · cases ok
  split at ok
  · cases ok
  · rename_i inside
    cases ok
    omega

section
variable {sessionName : String} {session : SessionState} {original : StreamPartition} {cut : Int}

theorem unissued (keyed : Keyed sessionName session) (key : StreamKey)
    (fresh : ¬ key.Issued session.nextSplitId) :
    session.streams (streamName sessionName key.text) = none := by
  cases found : session.streams (streamName sessionName key.text) with
  | none => rfl
  | some part =>
    obtain ⟨_, other, same, issued⟩ := keyed _ part found
    have keys := StreamKey.text_injective (streamName_injective sessionName same)
    exact absurd (keys ▸ issued) fresh

theorem primary_unused (keyed : Keyed sessionName session) :
    session.streams (primaryOf sessionName session original cut).name = none :=
  unissued keyed (.primary session.nextSplitId) (lt_irrefl _)

theorem remainder_unused (keyed : Keyed sessionName session) :
    session.streams (remainderOf sessionName session original cut).name = none :=
  unissued keyed (.remainder session.nextSplitId) (lt_irrefl _)

theorem primary_ne_remainder :
    (primaryOf sessionName session original cut).name ≠
      (remainderOf sessionName session original cut).name := by
  intro same
  have texts := streamName_injective sessionName same
  cases @StreamKey.text_injective (.primary session.nextSplitId)
    (.remainder session.nextSplitId) texts

theorem enterChildren_streams (keyed : Keyed sessionName session) (name : String) :
    (enterChildren sessionName session original cut).1.streams name =
      if name = (remainderOf sessionName session original cut).name then
        some (remainderOf sessionName session original cut)
      else if name = (primaryOf sessionName session original cut).name then
        some (primaryOf sessionName session original cut)
      else session.streams name := by
  simp only [enterChildren]
  rw [emplace_free _ ?_ name, emplace_free _ (primary_unused keyed) name]
  rw [emplace_free _ (primary_unused keyed), if_neg primary_ne_remainder.symm,
    remainder_unused keyed]

theorem enterChildren_held (keyed : Keyed sessionName session) (part : StreamPartition) :
    (enterChildren sessionName session original cut).1.streams part.name = some part ↔
      part = primaryOf sessionName session original cut ∨
        part = remainderOf sessionName session original cut ∨
        session.streams part.name = some part := by
  rw [enterChildren_streams keyed]
  constructor
  · intro held
    split at held
    · exact .inr (.inl (Option.some.inj held).symm)
    · split at held
      · exact .inl (Option.some.inj held).symm
      · exact .inr (.inr held)
  · rintro (rfl | rfl | held)
    · rw [if_neg primary_ne_remainder, if_pos rfl]
    · rw [if_pos rfl]
    · rw [if_neg (fun same => by rw [same, remainder_unused keyed] at held; cases held),
        if_neg (fun same => by rw [same, primary_unused keyed] at held; cases held), held]

theorem Keyed.split (keyed : Keyed sessionName session) :
    Keyed sessionName (enterChildren sessionName session original cut).1 := by
  intro name part found
  rw [enterChildren_streams keyed] at found
  split at found
  · rename_i same
    cases found
    exact ⟨same.symm, .remainder session.nextSplitId, same, Nat.lt_succ_self _⟩
  · split at found
    · rename_i same
      cases found
      exact ⟨same.symm, .primary session.nextSplitId, same, Nat.lt_succ_self _⟩
    · obtain ⟨own, key, named, issued⟩ := keyed name part found
      exact ⟨own, key, named, issued.later⟩

theorem unused_unsplit
    (recorded : ∀ other, (sessionName, other) ∈ split → (session.streams other).isSome)
    (found : session.streams name = some original) (unused : session.streams fresh = none) :
    (sessionName, fresh) ∉ split ++ [(sessionName, name)] := by
  intro member
  rcases mem_append.mp member with old | now
  · have used := recorded fresh old
    rw [unused] at used
    cases used
  · obtain rfl := (Prod.mk.inj (mem_singleton.mp now)).2
    rw [unused] at found
    cases found

section
variable {done : List (String × String)} {leaves : List StreamPartition} {fraction : ℚ}

section
variable (tiled : Leaves sessionName session done leaves) (keyed : Keyed sessionName session)
include tiled keyed

theorem Leaves.split_exact (found : session.streams original.name = some original)
    (recorded : ∀ other, (sessionName, other) ∈ done → (session.streams other).isSome)
    (part : StreamPartition) :
    part ∈ primaryOf sessionName session original cut ::
        remainderOf sessionName session original cut :: leaves.erase original ↔
      (enterChildren sessionName session original cut).1.streams part.name = some part ∧
        (sessionName, part.name) ∉ done ++ [(sessionName, original.name)] := by
  rw [enterChildren_held keyed, mem_cons, mem_cons, tiled.distinct.mem_erase_iff,
    tiled.exact]
  constructor
  · rintro (rfl | rfl | ⟨other, held, kept⟩)
    · exact ⟨.inl rfl, unused_unsplit recorded found (primary_unused keyed)⟩
    · exact ⟨.inr (.inl rfl), unused_unsplit recorded found (remainder_unused keyed)⟩
    refine ⟨.inr (.inr held), fun member => ?_⟩
    rcases mem_append.mp member with old | now
    · exact kept old
    · rw [(Prod.mk.inj (mem_singleton.mp now)).2, found] at held
      exact other (Option.some.inj held).symm
  · rintro ⟨rfl | rfl | held, kept⟩
    · exact .inl rfl
    · exact .inr (.inl rfl)
    · refine .inr (.inr ⟨?_, held, fun old => kept (mem_append_left _ old)⟩)
      rintro rfl
      exact kept (mem_append_right _ (mem_singleton_self _))

theorem Leaves.split_distinct :
    (primaryOf sessionName session original cut ::
      remainderOf sessionName session original cut :: leaves.erase original).Nodup := by
  have used {part : StreamPartition} (member : part ∈ leaves.erase original) :
      session.streams part.name ≠ none := by
    rw [((tiled.exact part).mp (mem_of_mem_erase member)).1]
    exact Option.some_ne_none part
  refine nodup_cons.mpr ⟨?_, nodup_cons.mpr ⟨?_, tiled.distinct.erase original⟩⟩
  · intro member
    rcases mem_cons.mp member with same | member
    · exact primary_ne_remainder (congrArg StreamPartition.name same)
    · exact used member (primary_unused keyed)
  · exact fun member => used member (remainder_unused keyed)

theorem Leaves.split (found : session.streams name = some original)
    (unsplit : (sessionName, name) ∉ done)
    (recorded : ∀ other, (sessionName, other) ∈ done → (session.streams other).isSome)
    (checked : splitAt name session original fraction = .ok cut) :
    Leaves sessionName (enterChildren sessionName session original cut).1
      (done ++ [(sessionName, name)])
      (primaryOf sessionName session original cut ::
        remainderOf sessionName session original cut :: leaves.erase original) := by
  obtain rfl : original.name = name := (keyed name original found).1
  have leaf : original ∈ leaves := (tiled.exact original).mpr ⟨found, unsplit⟩
  have bounds := tiled.ordered original leaf
  have cuts := splitAt_ok checked (by omega)
  refine ⟨tiled.split_distinct keyed, tiled.split_exact keyed found recorded, ?_, ?_, ?_⟩
  · have whole := tiled.tiles.perm ((perm_cons_erase leaf).map StreamPartition.range)
    exact whole.cut (le_of_lt cuts.1) (le_of_lt cuts.2)
  · refine forall_mem_cons.mpr ⟨⟨bounds.1, le_of_lt cuts.1⟩, forall_mem_cons.mpr ⟨?_, ?_⟩⟩
    · exact ⟨bounds.1.trans (le_of_lt cuts.1), le_of_lt cuts.2⟩
    · exact fun part member => tiled.ordered part (mem_of_mem_erase member)
  · refine fun rows => forall_mem_cons.mpr ⟨cuts.1, forall_mem_cons.mpr ⟨cuts.2, ?_⟩⟩
    exact fun part member => tiled.filled rows part (mem_of_mem_erase member)

end

end
end

variable {session : SessionState} {leaves : List StreamPartition}

theorem Leaves.elsewhere
    {split : List (String × String)} (name : String)
    (tiled : Leaves other session split leaves) (different : other ≠ sessionName) :
    Leaves other session (split ++ [(sessionName, name)]) leaves := by
  refine { tiled with exact := ?_ }
  intro part
  rw [tiled.exact part]
  simp [different]

section
variable (svc : StorageReadService) (request : CreateReadSessionRequest) (counted : CountedSession)

def openedState : SessionState where
  table := counted.table
  schema := counted.schema
  whereSql := counted.whereSql
  selectedFields := counted.selectedFields
  totalRows := counted.totalRows
  streams := (buildPartitions (newSessionId counted.project svc.nextSessionId)
    (negotiateStreamCount request.maxStreamCount counted.totalRows) counted.totalRows).foldl
      (fun streams part => emplace streams part.name part) (fun _ => none)

theorem openSession_sessions :
    (openSession svc request counted).1.sessions =
      emplace svc.sessions (newSessionId counted.project svc.nextSessionId)
        (openedState svc request counted) := rfl

theorem openedState_streams (name : String) (part : StreamPartition) :
    (openedState svc request counted).streams name = some part ↔
      part ∈ buildPartitions (newSessionId counted.project svc.nextSessionId)
        (negotiateStreamCount request.maxStreamCount counted.totalRows) counted.totalRows ∧
      part.name = name := by
  rw [← find_named (buildPartitions_distinct _ _ _)]
  simp only [openedState, emplace_all, Option.none_or]

theorem openedState_keyed :
    Keyed (newSessionId counted.project svc.nextSessionId) (openedState svc request counted) := by
  intro name part found
  obtain ⟨member, own⟩ := (openedState_streams svc request counted name part).mp found
  obtain ⟨i, _, rfl⟩ := mem_map.mp member
  exact ⟨own, .initial i, own.symm, trivial⟩

theorem openedState_leaves (rows : 0 ≤ counted.totalRows)
    (fits : counted.totalRows * negotiateStreamCount request.maxStreamCount counted.totalRows < 2 ^ 63)
    (unsplit : ∀ name, (newSessionId counted.project svc.nextSessionId, name) ∉ split) :
    Leaves (newSessionId counted.project svc.nextSessionId) (openedState svc request counted) split
      (buildPartitions (newSessionId counted.project svc.nextSessionId)
        (negotiateStreamCount request.maxStreamCount counted.totalRows) counted.totalRows) := by
  have positive := negotiateStreamCount_positive request.maxStreamCount counted.totalRows
  have monotone := boundary_monotone positive rows
  refine ⟨(buildPartitions_distinct _ _ _).of_map _, ?_, ?_, ?_, ?_⟩
  · intro part
    rw [openedState_streams]
    simp [unsplit]
  · have steps := Tiles.steps monotone
      (negotiateStreamCount request.maxStreamCount counted.totalRows).toNat
    rw [boundary_zero, boundary_last positive] at steps
    rw [buildPartitions_range _ positive rows fits, map_map]
    exact steps
  · intro part member
    have bounds := buildPartitions_bounded _ positive rows fits member
    exact ⟨bounds.1, bounds.2.1⟩
  · rw [buildPartitions_range _ positive rows fits]
    intro some part member
    obtain ⟨i, _, rfl⟩ := mem_map.mp member
    exact boundary_lt positive (negotiateStreamCount_le_rows _ some) i

end

def SessionState.rowsOf (session : SessionState) (name : String) : Set Int :=
  match session.streams name with
  | some part => Set.Ico part.rowStart (part.rangeEnd session.totalRows)
  | none => ∅

theorem SessionState.rowsOf_held
    (held : session.streams name = some part) (bounded : 0 ≤ part.rowEnd) :
    session.rowsOf name = part.range := by
  simp [rowsOf, held, StreamPartition.rangeEnd, StreamPartition.range, not_lt.mpr bounded]

namespace World

/-- The products of `BuildPartitions` fit into 64 bits, and no stream is split twice. -/
def SplitsOnce (w : World) : Step → Prop
  | .openSession call => ∀ request counted, w.opening call = some (request, counted) →
      counted.totalRows * negotiateStreamCount request.maxStreamCount counted.totalRows < 2 ^ 63
  | .splitReadStream request => ∀ sessionName key,
      parseReadStreamName request.name = .ok (sessionName, key) →
        (sessionName, request.name) ∉ w.split
  | _ => True

structure Partitioned (w : World) : Prop where
  counted : ∀ call request counted, w.opening call = some (request, counted) → 0 ≤ counted.totalRows
  recorded : ∀ sessionName name, (sessionName, name) ∈ w.split →
    ∃ session, w.svc.sessions sessionName = some session ∧ (session.streams name).isSome
  sessions : ∀ sessionName session, w.svc.sessions sessionName = some session →
    Keyed sessionName session ∧ ∃ leaves, Leaves sessionName session w.split leaves

variable {w : World}

theorem Partitioned.enter (partitioned : w.Partitioned) {counted : CountedSession}
    (pending : w.opening call = some (request, counted))
    (fits : counted.totalRows * negotiateStreamCount request.maxStreamCount counted.totalRows < 2 ^ 63)
    (opened : List Opened) :
    Partitioned { w with
      svc := (Read.openSession w.svc request counted).1
      opening := setCall w.opening call none
      opened := opened } := by
  refine ⟨?_, ?_, ?_⟩
  · intro other request' counted' ongoing
    rcases setCall_cases ongoing with none | ongoing
    · cases none
    exact partitioned.counted other request' counted' ongoing
  · intro sessionName name split
    obtain ⟨session, known, held⟩ := partitioned.recorded sessionName name split
    exact ⟨session, by rw [openSession_sessions, emplace_kept known], held⟩
  · intro sessionName session known
    rw [openSession_sessions] at known
    cases taken : w.svc.sessions (newSessionId counted.project w.svc.nextSessionId) with
    | some old =>
      rw [emplace, if_pos (by rw [taken]; rfl)] at known
      exact partitioned.sessions sessionName session known
    | none =>
      rw [emplace_free _ taken] at known
      split at known
      · rename_i same
        subst same
        cases known
        refine ⟨openedState_keyed w.svc request counted, _,
          openedState_leaves w.svc request counted (partitioned.counted _ _ _ pending) fits ?_⟩
        intro name split
        obtain ⟨session, known, _⟩ := partitioned.recorded _ name split
        rw [taken] at known
        cases known
      · exact partitioned.sessions sessionName session known

theorem Partitioned.split (partitioned : w.Partitioned) {original : StreamPartition}
    (known : w.svc.sessions sessionName = some session)
    (found : session.streams name = some original) (unsplit : (sessionName, name) ∉ w.split)
    (checked : splitAt name session original fraction = .ok cut) :
    Partitioned { w with
      svc := w.svc.setSession sessionName (enterChildren sessionName session original cut).1
      split := w.split ++ [(sessionName, name)] } := by
  obtain ⟨keyed, leaves, tiled⟩ := partitioned.sessions sessionName session known
  have recorded (other : String) (split : (sessionName, other) ∈ w.split) :
      (session.streams other).isSome := by
    obtain ⟨held, same, some⟩ := partitioned.recorded sessionName other split
    rw [known] at same
    cases same
    exact some
  have grows (other : String) (some : (session.streams other).isSome) :
      ((enterChildren sessionName session original cut).1.streams other).isSome := by
    obtain ⟨part, held⟩ := Option.isSome_iff_exists.mp some
    simp only [enterChildren, emplace_kept (emplace_kept held _ _), Option.isSome_some]
  refine ⟨partitioned.counted, ?_, ?_⟩
  · intro other stream split
    by_cases same : other = sessionName
    · subst same
      refine ⟨_, if_pos rfl, grows stream ?_⟩
      rcases mem_append.mp split with old | now
      · exact recorded stream old
      · rw [(Prod.mk.inj (mem_singleton.mp now)).2, found]
        rfl
    · have old : (other, stream) ∈ w.split := by
        rcases mem_append.mp split with old | now
        · exact old
        · exact absurd (Prod.mk.inj (mem_singleton.mp now)).1 same
      simp only [StorageReadService.setSession, if_neg same]
      exact partitioned.recorded other stream old
  · intro other state held
    by_cases same : other = sessionName
    · subst same
      simp only [StorageReadService.setSession, if_pos] at held
      cases held
      exact ⟨keyed.split, _, tiled.split keyed found unsplit recorded checked⟩
    · simp only [StorageReadService.setSession, if_neg same] at held
      obtain ⟨otherKeyed, otherLeaves, otherTiled⟩ := partitioned.sessions other state held
      exact ⟨otherKeyed, otherLeaves, otherTiled.elsewhere name same⟩

theorem Partitioned.move {next : World}
    (partitioned : w.Partitioned) (once : w.SplitsOnce s) (move : Move engine w s next) :
    next.Partitioned := by
  cases move with
  | rest => exact partitioned
  | count call request counted checked =>
    refine ⟨?_, partitioned.recorded, partitioned.sessions⟩
    intro other request' counted' ongoing
    rcases setCall_cases ongoing with new | ongoing
    · cases new
      have total := (countSession_ok checked).2
      omega
    · exact partitioned.counted other request' counted' ongoing
  | enter call request counted pending =>
    exact partitioned.enter pending (once request counted pending) _
  | refuse | read | fetch | append | overwrite =>
    exact ⟨partitioned.counted, partitioned.recorded, partitioned.sessions⟩
  | split request fraction sessionName key session original cut named known found inside checked =>
    exact partitioned.split known found (once sessionName key named) checked

theorem Start.partitioned (start : w.Start) : w.Partitioned where
  counted := by simp [start.opening]
  recorded := by simp [start.split]
  sessions := by simp [start.sessions]

def leafStreams (w : World) (sessionName : String) (session : SessionState) : Set String :=
  {name | (session.streams name).isSome ∧ (sessionName, name) ∉ w.split}

theorem Leaves.part (keyed : Keyed sessionName session)
    (tiled : Leaves sessionName session w.split leaves)
    (leaf : name ∈ w.leafStreams sessionName session) :
    ∃ part ∈ leaves, part.name = name ∧ session.rowsOf name = part.range := by
  obtain ⟨some, unsplit⟩ := leaf
  obtain ⟨part, held⟩ := Option.isSome_iff_exists.mp some
  obtain rfl := (keyed name part held).1
  have member := (tiled.exact part).mpr ⟨held, unsplit⟩
  have bounds := tiled.ordered part member
  exact ⟨part, member, rfl, SessionState.rowsOf_held held (by omega)⟩

/-- In every run that splits no stream twice, the streams of each session that were
never split cover its rows without overlap, each with some row if there is any. -/
theorem leaf_streams_partition_rows {engine : Engine} {w : World} {steps : List Step}
    (start : w.Start) (admitted : Admits SplitsOnce (step engine) w steps) :
    let last := execute (step engine) w steps
    ∀ sessionName session, last.svc.sessions sessionName = some session →
      (last.leafStreams sessionName session).PairwiseDisjoint session.rowsOf ∧
      (0 < session.totalRows → ∀ name ∈ last.leafStreams sessionName session,
        (session.rowsOf name).Nonempty) ∧
      ⋃ name ∈ last.leafStreams sessionName session, session.rowsOf name =
        Set.Ico 0 session.totalRows := by
  intro last sessionName session known
  have partitioned : last.Partitioned :=
    guarded_invariant (fun w' s partitioned once => partitioned.move once (w'.step_moves engine s))
      start.partitioned admitted
  obtain ⟨keyed, leaves, tiled⟩ := partitioned.sessions sessionName session known
  refine ⟨?_, ?_, ?_⟩
  · intro first isFirst second isSecond different
    obtain ⟨a, inA, rfl, rowsA⟩ := Leaves.part keyed tiled isFirst
    obtain ⟨b, inB, rfl, rowsB⟩ := Leaves.part keyed tiled isSecond
    have apart := tiled.tiles.disjoint inA inB
      (fun same => different (congrArg StreamPartition.name same))
    simpa only [Function.onFun, rowsA, rowsB] using apart
  · intro rows name leaf
    obtain ⟨part, member, rfl, covered⟩ := Leaves.part keyed tiled leaf
    rw [covered]
    exact Set.nonempty_Ico.mpr (tiled.filled rows part member)
  · ext x
    rw [tiled.tiles.2 x, Set.mem_iUnion₂]
    constructor
    · rintro ⟨name, leaf, inside⟩
      obtain ⟨part, member, rfl, covered⟩ := Leaves.part keyed tiled leaf
      exact ⟨part.range, mem_map_of_mem member, covered ▸ inside⟩
    · rintro ⟨cell, member, inside⟩
      obtain ⟨part, listed, rfl⟩ := mem_map.mp member
      obtain ⟨held, unsplit⟩ := (tiled.exact part).mp listed
      have bounds := tiled.ordered part listed
      refine ⟨part.name, ⟨by rw [held]; rfl, unsplit⟩, ?_⟩
      rw [SessionState.rowsOf_held held (by omega)]
      exact inside

def fourRows : World where
  storage :=
    { datasetExists := fun _ _ => true
      tables := fun id =>
        if id = ⟨"p", "d", "a"⟩ then
          some {
            schema := ⟨[{ name := "x", type := .string }]⟩
            parquet := some [⟨[.string "0"]⟩, ⟨[.string "1"]⟩, ⟨[.string "2"]⟩, ⟨[.string "3"]⟩]
            index := none }
        else none }

/-- DuckDB with every WHERE body true and every restriction taken as it stands. -/
def plainEngine : Engine where
  duckdb := ⟨fun id => id.tableId, fun _ _ _ => true⟩
  transpile := fun _ _ restriction => .ok restriction
  text := ⟨fun _ => "", fun _ => ""⟩
  parseTime := fun _ _ => none

/-- One session over the table with a single stream, which is then split in the middle. -/
def splitInTwo : List Step :=
  [.countRows 0 ⟨"projects/p", "projects/p/datasets/d/tables/a", none, 1⟩, .openSession 0,
    .splitReadStream ⟨"projects/p/locations/-/sessions/s1/streams/0", ⟨some (1 / 2), "0.5"⟩⟩]

theorem split_in_two_covers :
    ∃ session, (execute (step plainEngine) fourRows splitInTwo).svc.sessions
        "projects/p/locations/-/sessions/s1" = some session ∧
      ⋃ name ∈ (execute (step plainEngine) fourRows splitInTwo).leafStreams
        "projects/p/locations/-/sessions/s1" session, session.rowsOf name =
          Set.Ico 0 session.totalRows := by
  have start : fourRows.Start := ⟨fun _ => rfl, fun _ => rfl, fun _ => rfl, rfl, rfl, rfl⟩
  have admitted : Admits SplitsOnce (step plainEngine) fourRows splitInTwo := by
    refine ⟨trivial, ?_, ?_, trivial⟩
    · rintro request counted ⟨⟩
      decide
    · intro sessionName key named member
      cases member
  have known : ((execute (step plainEngine) fourRows splitInTwo).svc.sessions
      "projects/p/locations/-/sessions/s1").isSome := by decide +kernel
  obtain ⟨session, found⟩ := Option.isSome_iff_exists.mp known
  exact ⟨session, found, (leaf_streams_partition_rows start admitted _ session found).2.2⟩

def splitTwice : List Step :=
  splitInTwo ++
    [.splitReadStream ⟨"projects/p/locations/-/sessions/s1/streams/0", ⟨some (1 / 2), "0.5"⟩⟩]

/-- After the second split of stream 0, rows 0 and 1 are in two streams never split. -/
theorem split_twice_overlaps :
    ∃ session, (execute (step plainEngine) fourRows splitTwice).svc.sessions
        "projects/p/locations/-/sessions/s1" = some session ∧
      ¬ ((execute (step plainEngine) fourRows splitTwice).leafStreams
        "projects/p/locations/-/sessions/s1" session).PairwiseDisjoint session.rowsOf := by
  have first : ((execute (step plainEngine) fourRows splitTwice).svc.sessions
      "projects/p/locations/-/sessions/s1").bind
        (fun session => session.streams "projects/p/locations/-/sessions/s1/streams/split0p") =
          some ⟨"projects/p/locations/-/sessions/s1/streams/split0p", 0, 2⟩ := by decide +kernel
  have second : ((execute (step plainEngine) fourRows splitTwice).svc.sessions
      "projects/p/locations/-/sessions/s1").bind
        (fun session => session.streams "projects/p/locations/-/sessions/s1/streams/split1p") =
          some ⟨"projects/p/locations/-/sessions/s1/streams/split1p", 0, 2⟩ := by decide +kernel
  have unsplit : ("projects/p/locations/-/sessions/s1",
        "projects/p/locations/-/sessions/s1/streams/split0p") ∉
          (execute (step plainEngine) fourRows splitTwice).split ∧
      ("projects/p/locations/-/sessions/s1",
        "projects/p/locations/-/sessions/s1/streams/split1p") ∉
          (execute (step plainEngine) fourRows splitTwice).split := by decide +kernel
  obtain ⟨session, known, held⟩ := Option.bind_eq_some_iff.mp first
  rw [known] at second
  refine ⟨session, known, fun apart => ?_⟩
  have overlap := apart ⟨by rw [held]; rfl, unsplit.1⟩
    ⟨by rw [show session.streams _ = _ from second]; rfl, unsplit.2⟩ (by decide)
  rw [Function.onFun, SessionState.rowsOf_held held (by decide),
    SessionState.rowsOf_held second (by decide)] at overlap
  have row : (0 : Int) ∈ Set.Ico 0 2 := by simp
  exact Set.disjoint_left.mp overlap row row

end World
end BigQueryEmulator.Read
