import BigQueryEmulator.Write.Answers
import BigQueryEmulator.Tiling

/-! The offsets of concurrent appends to a COMMITTED stream. They always tile the rows
counted so far, but the storage append and the count are two steps: the offsets follow
the order of the rows in the table only if batches are counted in the order they
landed. -/
namespace BigQueryEmulator.Write
open Storage Transition Tiling List StorageWriteService

def Answer.range (answer : Answer) : Set Nat :=
  Set.Ico answer.offset (answer.offset + answer.rows.length)

theorem Consecutive.tiles (consecutive : Consecutive start answers) :
    Tiles (answers.map Answer.range)
      (Set.Ico start (start + (answers.map (fun answer => answer.rows.length)).sum)) := by
  induction answers generalizing start with
  | nil => simpa using Tiles.nil
  | cons answer rest ih =>
    have later := ih consecutive.2
    have here : answer.range = Set.Ico start (start + answer.rows.length) := by
      rw [Answer.range, consecutive.1]
    have joined := later.append (Set.Ico_disjoint_Ico_same (a := start)
      (b := start + answer.rows.length)).symm
    rw [Set.union_comm, Set.Ico_union_Ico_eq_Ico (by omega) (by omega), Nat.add_assoc] at joined
    rw [map_cons, here]
    exact joined.perm (perm_append_singleton _ _)

/-- The rows of an answer stand at its offset in the rows answered for. -/
theorem Consecutive.placed (consecutive : Consecutive start answers) (member : answer ∈ answers)
    (rest : List Row) :
    start ≤ answer.offset ∧
      ((answers.flatMap Answer.rows ++ rest).drop (answer.offset - start)).take answer.rows.length =
        answer.rows := by
  induction answers generalizing start with
  | nil => cases member
  | cons first others ih =>
    rcases mem_cons.mp member with rfl | later
    · rw [consecutive.1]
      simp
    obtain ⟨lower, same⟩ := ih consecutive.2 later
    refine ⟨by omega, ?_⟩
    have skip : answer.offset - start =
        first.rows.length + (answer.offset - (start + first.rows.length)) := by omega
    rw [flatMap_cons, append_assoc, skip, ← drop_drop, drop_left]
    exact same

def waitingFor (waiting : List Waiting) (name : String) : List Waiting :=
  waiting.filter (fun entry => entry.stream = name)

variable (waiting : List Waiting)

theorem waitingFor_append (entry : Waiting) (name : String) :
    waitingFor (waiting ++ [entry]) name =
      if entry.stream = name then waitingFor waiting name ++ [entry] else waitingFor waiting name := by
  by_cases same : entry.stream = name <;> simp [waitingFor, same]

theorem waitingFor_filter (keep : Waiting → Bool) (name : String) :
    waitingFor (waiting.filter keep) name = (waitingFor waiting name).filter keep :=
  filter_comm _ _ _

namespace World

/-- An append with rows takes its offset only when its batch is the first of the
stream that landed and has no offset yet. -/
def InTurn (w : World) : Step → Prop
  | .advance call _ => ∀ name rows, w.calls call = .stored name rows → rows ≠ [] →
      (waitingFor w.waiting name).head? = some ⟨call, name, rows⟩
  | _ => True

/-- What the stream contributed is the batches answered for and then those waiting. -/
def Lined (w : World) (name : String) : Prop :=
  contributed w.svc.journal name =
    (answersOf w.answers name).flatMap Answer.rows ++ (waitingFor w.waiting name).flatMap Waiting.rows

/-- The waiting batches are those of the appends past their storage step. -/
structure Queued (w : World) : Prop where
  stored : ∀ entry ∈ w.waiting, w.calls entry.call = .stored entry.stream entry.rows
  nonempty : ∀ entry ∈ w.waiting, entry.rows ≠ []
  distinct : (w.waiting.map Waiting.call).Nodup

structure InOrder (w : World) : Prop where
  queued : w.Queued
  lined : ∀ name stream, w.svc.streams name = some stream → stream.type = .committed → w.Lined name
  unborn : ∀ name, w.svc.streams name = none → w.Lined name

variable {next : World} {w : World}

theorem Queued.unrelated (queued : w.Queued) (waiting : next.waiting = w.waiting)
    (call : Nat) (others : ∀ other, other ≠ call → next.calls other = w.calls other)
    (unstored : ∀ name rows, rows ≠ [] → w.calls call ≠ .stored name rows) : next.Queued where
  stored := by
    intro entry member
    rw [waiting] at member
    have at_ := queued.stored entry member
    have other : entry.call ≠ call := by
      rintro rfl
      exact unstored _ _ (queued.nonempty entry member) at_
    rw [others _ other, at_]
  nonempty := by rw [waiting]; exact queued.nonempty
  distinct := by rw [waiting]; exact queued.distinct

variable {name : String} {rows : List Row} {call : Nat}

theorem Queued.push (queued : w.Queued) (waiting : next.waiting = w.waiting ++ [⟨call, name, rows⟩])
    (others : ∀ other, other ≠ call → next.calls other = w.calls other)
    (unstored : ∀ name rows, w.calls call ≠ .stored name rows)
    (here : next.calls call = .stored name rows) (nonempty : rows ≠ []) : next.Queued := by
  have fresh : ∀ entry ∈ w.waiting, entry.call ≠ call := by
    rintro entry member rfl
    exact unstored _ _ (queued.stored entry member)
  refine ⟨?_, ?_, ?_⟩
  · intro entry member
    rw [waiting] at member
    rcases mem_append.mp member with old | new
    · rw [others _ (fresh entry old), queued.stored entry old]
    · obtain rfl := mem_singleton.mp new
      exact here
  · intro entry member
    rw [waiting] at member
    rcases mem_append.mp member with old | new
    · exact queued.nonempty entry old
    · obtain rfl := mem_singleton.mp new
      exact nonempty
  · rw [waiting, map_append, map_singleton]
    refine List.Nodup.append queued.distinct (nodup_singleton _) ?_
    intro other listed single
    obtain ⟨entry, member, rfl⟩ := mem_map.mp listed
    exact fresh entry member (mem_singleton.mp single)

theorem Queued.pop (queued : w.Queued)
    (waiting : next.waiting = w.waiting.filter (fun entry => entry.call ≠ call))
    (others : ∀ other, other ≠ call → next.calls other = w.calls other) : next.Queued where
  stored := by
    intro entry member
    rw [waiting, mem_filter, decide_eq_true_eq] at member
    rw [others _ member.2, queued.stored entry member.1]
  nonempty := by
    intro entry member
    rw [waiting] at member
    exact queued.nonempty entry (mem_of_mem_filter member)
  distinct := by
    rw [waiting]
    exact (filter_sublist.map _).nodup queued.distinct

/-- Counting a batch takes it out of its own stream's queue only. -/
theorem Queued.waitingFor_pop (queued : w.Queued)
    (stored : w.calls call = .stored name rows) (elsewhere : other ≠ name ∨ rows = []) :
    waitingFor (w.waiting.filter (fun entry => entry.call ≠ call)) other =
      waitingFor w.waiting other := by
  rw [waitingFor_filter, filter_eq_self]
  intro entry member
  rw [waitingFor, mem_filter, decide_eq_true_eq] at member
  rw [decide_eq_true_eq]
  rintro rfl
  have at_ := queued.stored entry member.1
  rw [stored] at at_
  obtain ⟨rfl, rfl⟩ := Progress.stored.inj at_
  rcases elsewhere with different | empty
  · exact different member.2.symm
  · exact queued.nonempty entry member.1 empty

theorem Queued.waitingFor_first (queued : w.Queued)
    (first : waitingFor w.waiting name = entry :: rest) :
    waitingFor (w.waiting.filter (fun other => other.call ≠ entry.call)) name = rest := by
  have distinct : ((waitingFor w.waiting name).map Waiting.call).Nodup :=
    (filter_sublist.map _).nodup queued.distinct
  rw [first, map_cons, nodup_cons] at distinct
  rw [waitingFor_filter, first, filter_cons_of_neg (by simp), filter_eq_self]
  intro other member
  rw [decide_eq_true_eq]
  intro equal
  exact distinct.1 (equal ▸ mem_map_of_mem member)

theorem Lined.congr (lined : w.Lined name)
    (journal : contributed next.svc.journal name = contributed w.svc.journal name)
    (answers : answersOf next.answers name = answersOf w.answers name)
    (waiting : waitingFor next.waiting name = waitingFor w.waiting name) : next.Lined name := by
  rw [Lined, journal, answers, waiting]
  exact lined

/-- The streams a move does not write to stay lined up, if they were. -/
theorem InOrder.others (inOrder : w.InOrder) (queued : next.Queued)
    (streams : next.svc.streams = (w.svc.setStream name state).streams)
    (lined : ∀ other, other ≠ name → w.Lined other → next.Lined other)
    (here : state.type = .committed → next.Lined name) : next.InOrder where
  queued := queued
  lined := by
    intro other stream found type
    rw [streams] at found
    rcases setStream_found found with ⟨rfl, rfl⟩ | ⟨different, old⟩
    · exact here type
    · exact lined other different (inOrder.lined other stream old type)
  unborn := by
    intro other missing
    rw [streams] at missing
    obtain ⟨different, old⟩ := setStream_missing missing
    exact lined other different (inOrder.unborn other old)

theorem InOrder.steady (inOrder : w.InOrder) (queued : next.Queued)
    (streams : next.svc.streams = w.svc.streams) (journal : next.svc.journal = w.svc.journal)
    (answers : next.answers = w.answers) (waiting : next.waiting = w.waiting) : next.InOrder := by
  have lined (name : String) (before : w.Lined name) : next.Lined name :=
    before.congr (by rw [journal]) (by rw [answers]) (by rw [waiting])
  refine ⟨queued, ?_, ?_⟩
  · rw [streams]
    exact fun name stream found type => lined name (inOrder.lined name stream found type)
  · rw [streams]
    exact fun name missing => lined name (inOrder.unborn name missing)

theorem Lined.count
    (lined : w.Lined name) (queued : w.Queued) (stored : w.calls call = .stored name rows)
    (turn : rows ≠ [] → (waitingFor w.waiting name).head? = some ⟨call, name, rows⟩)
    (journal : next.svc.journal = w.svc.journal)
    (answers : next.answers = w.answers ++ [⟨name, offset, rows⟩])
    (waiting : next.waiting = w.waiting.filter (fun entry => entry.call ≠ call)) :
    next.Lined name := by
  rw [Lined, journal, answers, waiting, answersOf_append, if_pos rfl, lined]
  by_cases empty : rows = []
  · rw [queued.waitingFor_pop stored (.inr empty)]
    simp [empty]
  · obtain ⟨rest, first⟩ := head?_eq_some_iff.mp (turn empty)
    rw [queued.waitingFor_first first, first]
    simp

theorem InOrder.move (inOrder : w.InOrder) (turn : w.InTurn s)
    (move : Move w s next) : next.InOrder := by
  have queued := inOrder.queued
  have idle (base : World) (call : Nat) (progress : Progress) (same : base.calls = w.calls)
      (other : Nat) (different : other ≠ call) :
      (base.setCall call progress).calls other = w.calls other := by
    rw [setCall_other _ _ different, same]
  cases move with
  | rest | number =>
    exact inOrder.steady ⟨queued.stored, queued.nonempty, queued.distinct⟩ rfl rfl rfl rfl
  | mint s id name stream free fresh =>
    exact inOrder.others ⟨queued.stored, queued.nonempty, queued.distinct⟩ rfl
      (fun other _ lined => lined) (fun _ => inOrder.unborn name free)
  | quit s call storage rows unstored =>
    exact inOrder.steady (queued.unrelated rfl call (idle _ call _ rfl)
      (fun name rows _ => unstored name rows)) rfl rfl rfl rfl
  | load call name request stream rows idle_ found ongoing =>
    exact inOrder.steady (queued.unrelated rfl call (idle _ call _ rfl) (by simp [idle_]))
      rfl rfl rfl rfl
  | buffer call env name session rows stream loaded found deferred =>
    refine inOrder.others (queued.unrelated rfl call (idle _ call _ rfl) (by simp [loaded])) rfl
      ?_ (fun type => absurd type deferred)
    intro other different lined
    exact lined.congr rfl ((answersOf_append _ _ _).trans (if_neg (Ne.symm different))) rfl
  | pass call env name session stream loaded found immediate =>
    exact inOrder.steady (queued.unrelated rfl call (idle _ call _ rfl) (by simp [loaded]))
      rfl rfl rfl rfl
  | store call env name session rows stream storage loaded found immediate nonempty lands =>
    refine inOrder.others (queued.push rfl (idle _ call _ rfl) (by simp [loaded])
      (setCall_same _ _ _) nonempty) (setStream_self found).symm ?_ ?_
    · intro other different lined
      refine lined.congr (contributed_elsewhere _ (Ne.symm different)) rfl ?_
      · exact (waitingFor_append _ _ _).trans (if_neg (Ne.symm different))
    · intro _
      have lined := inOrder.lined name stream found immediate
      simp only [Lined, setCall, contributed_append, contributed_singleton, if_true,
        waitingFor_append, flatMap_append, flatMap_singleton]
      rw [lined, append_assoc]
  | count call env name rows stream stored found immediate =>
    refine inOrder.others (queued.pop rfl (idle _ call _ rfl)) rfl ?_ ?_
    · intro other different lined
      refine lined.congr rfl ?_ (queued.waitingFor_pop stored (.inl different))
      exact (answersOf_append _ _ _).trans (if_neg (Ne.symm different))
    · intro _
      exact (inOrder.lined name stream found immediate).count queued stored (turn name rows stored)
        rfl rfl rfl
  | flush name offset env stream stop storage flushable =>
    refine inOrder.others ⟨queued.stored, queued.nonempty, queued.distinct⟩ rfl ?_ ?_
    · intro other different lined
      exact lined.congr (contributed_elsewhere _ (Ne.symm different)) rfl rfl
    · intro type
      exact absurd (flushable.buffered.symm.trans type) (by simp)
  | close name stream found ongoing =>
    exact inOrder.others ⟨queued.stored, queued.nonempty, queued.distinct⟩ rfl
      (fun other _ lined => lined) (fun type => inOrder.lined name stream found type)

theorem Start.inOrder (start : w.Start) : w.InOrder := by
  have lined (name : String) : w.Lined name := by
    simp [Lined, start.journal, start.answers, start.waiting, contributed, answersOf, waitingFor]
  refine ⟨⟨?_, ?_, ?_⟩, fun name _ _ _ => lined name, fun name _ => lined name⟩ <;>
    simp [start.waiting]

/-- In every run in which batches are counted in the order they landed, the ranges of a
COMMITTED stream's answers tile its counted rows, and each batch stands at its offset
in what the stream has contributed to its table. -/
theorem committed_offsets_follow_table {w : World} {steps : List Step} (start : w.Start)
    (admitted : Admits InTurn step w steps) :
    let last := execute step w steps
    StorageWriteService.Accounted w.svc.storage last.svc ∧
    ∀ name stream, last.svc.streams name = some stream → stream.type = .committed →
      Tiles ((answersOf last.answers name).map Answer.range) (Set.Ico 0 stream.committedRows) ∧
      ∀ answer ∈ answersOf last.answers name,
        ((contributed last.svc.journal name).drop answer.offset).take answer.rows.length =
          answer.rows := by
  intro last
  have reached : last.Sessions ∧ StorageWriteService.Accounted w.svc.storage last.svc ∧
      last.Counted ∧ last.InOrder := by
    refine guarded_invariant (P := fun w' => w'.Sessions ∧
      StorageWriteService.Accounted w.svc.storage w'.svc ∧ w'.Counted ∧ w'.InOrder) ?_ ?_ admitted
    · rintro w' s ⟨sessions, accounted, counted, inOrder⟩ turn
      have move := w'.step_moves sessions s
      exact ⟨sessions.move move, accounted_move accounted move, counted.move move,
        inOrder.move turn move⟩
    · exact ⟨start.sessions, start.accounted, start.counted, start.inOrder⟩
  obtain ⟨_, accounted, counted, inOrder⟩ := reached
  refine ⟨accounted, ?_⟩
  intro name stream found type
  have consecutive := counted.consecutive name
  refine ⟨?_, ?_⟩
  · have tiles := consecutive.tiles
    rw [Nat.zero_add] at tiles
    rw [(counted.total name stream found).1]
    exact tiles
  · intro answer member
    have placed := (consecutive.placed member
      ((waitingFor last.waiting name).flatMap Waiting.rows)).2
    rw [inOrder.lined name stream found type]
    exact placed

def oneCommitted : World where
  svc := {
    storage := sampleStorage
    streams := fun name =>
      if name = "projects/p/datasets/d/tables/a/streams/s1" then
        some ⟨⟨"p", "d", "a"⟩, ⟨[{ name := "x", type := .string }]⟩, .committed, "", 0, [], 0, false⟩
      else none }

/-- Calls 0 and 1 append the rows `1` and `2`; both batches have landed, in this order. -/
def bothLanded : List Step :=
  [.load 0 "projects/p/datasets/d/tables/a/streams/s1" ⟨"", [[.stringValue "1"]], ""⟩,
    .load 1 "projects/p/datasets/d/tables/a/streams/s1" ⟨"", [[.stringValue "2"]], ""⟩,
    .advance 0 { nowMs := 0 }, .advance 1 { nowMs := 0 }]

theorem counted_in_turn :
    oneCommitted.Start ∧
    ∀ answer ∈ answersOf (execute step oneCommitted
      (bothLanded ++ [.advance 0 { nowMs := 0 }, .advance 1 { nowMs := 0 }])).answers
        "projects/p/datasets/d/tables/a/streams/s1",
      (([⟨[.string "1"]⟩, ⟨[.string "2"]⟩] : List Row).drop answer.offset).take
        answer.rows.length = answer.rows := by
  have start : oneCommitted.Start := by
    refine ⟨?_, rfl, rfl, rfl, rfl, rfl⟩
    intro name stream found
    simp only [oneCommitted] at found
    split at found
    · obtain rfl := Option.some.inj found
      exact ⟨rfl, rfl, rfl, rfl⟩
    · cases found
  have admitted : Admits InTurn step oneCommitted
      (bothLanded ++ [.advance 0 { nowMs := 0 }, .advance 1 { nowMs := 0 }]) := by
    refine ⟨trivial, trivial, ?_, ?_, ?_, ?_, trivial⟩
    · rintro name rows ⟨⟩
    · rintro name rows ⟨⟩
    · rintro name rows ⟨⟩ _
      rfl
    · rintro name rows ⟨⟩ _
      rfl
  exact ⟨start, ((committed_offsets_follow_table start admitted).2
    "projects/p/datasets/d/tables/a/streams/s1" _ rfl rfl).2⟩

/-- Call 1 is counted first: row `2` is answered with offset 0 and stands at position 1. -/
theorem offsets_swapped :
    (execute step oneCommitted (bothLanded ++
      [.advance 1 { nowMs := 0 }, .advance 0 { nowMs := 0 }])).answers =
        [⟨"projects/p/datasets/d/tables/a/streams/s1", 0, [⟨[.string "2"]⟩]⟩,
          ⟨"projects/p/datasets/d/tables/a/streams/s1", 1, [⟨[.string "1"]⟩]⟩] ∧
    contributed (execute step oneCommitted (bothLanded ++
      [.advance 1 { nowMs := 0 }, .advance 0 { nowMs := 0 }])).svc.journal
        "projects/p/datasets/d/tables/a/streams/s1" = [⟨[.string "1"]⟩, ⟨[.string "2"]⟩] :=
  ⟨rfl, rfl⟩

end World
end BigQueryEmulator.Write
