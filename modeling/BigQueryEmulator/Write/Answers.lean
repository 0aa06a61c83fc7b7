import BigQueryEmulator.Write.Interleaving

/-! The answers of concurrent appends. Whatever the interleaving, the offsets a stream
hands out are consecutive and its counters agree with the rows answered for. -/
namespace BigQueryEmulator.Write
open Storage Transition StorageWriteService

def answersOf (answers : List Answer) (name : String) : List Answer :=
  answers.filter (fun answer => answer.stream = name)

def answered (answers : List Answer) (name : String) : Nat :=
  ((answersOf answers name).map (fun answer => answer.rows.length)).sum

theorem answersOf_append (answers : List Answer) (answer : Answer) (name : String) :
    answersOf (answers ++ [answer]) name =
      if answer.stream = name then answersOf answers name ++ [answer] else answersOf answers name := by
  by_cases same : answer.stream = name <;> simp [answersOf, same]

theorem answered_append (answers : List Answer) (answer : Answer) (name : String) :
    answered (answers ++ [answer]) name =
      if answer.stream = name then answered answers name + answer.rows.length
      else answered answers name := by
  by_cases same : answer.stream = name <;> simp [answered, answersOf_append, same]

/-- Each answer's offset is where the one before it ended. -/
def Consecutive : Nat → List Answer → Prop
  | _, [] => True
  | start, answer :: rest =>
    answer.offset = start ∧ Consecutive (start + answer.rows.length) rest

theorem Consecutive.append (consecutive : Consecutive start answers)
    (next : answer.offset = start + (answers.map (fun a => a.rows.length)).sum) :
    Consecutive start (answers ++ [answer]) := by
  induction answers generalizing start with
  | nil => exact ⟨by simpa using next, trivial⟩
  | cons first rest ih =>
    refine ⟨consecutive.1, ih consecutive.2 ?_⟩
    simp only [List.map_cons, List.sum_cons] at next
    omega

namespace World

/-- A stream's counter is the number of rows answered for, and so is the size of a
BUFFERED or PENDING stream's buffer. -/
structure Counted (w : World) : Prop where
  total : ∀ name stream, w.svc.streams name = some stream →
    stream.committedRows = answered w.answers name ∧
      (stream.type ≠ .committed → stream.bufferedRows.length = answered w.answers name)
  unborn : ∀ name, w.svc.streams name = none → answered w.answers name = 0
  consecutive : ∀ name, Consecutive 0 (answersOf w.answers name)

variable {w : World}

theorem Start.counted (start : w.Start) : w.Counted where
  total := by
    intro name stream found
    obtain ⟨counter, buffer, _⟩ := start.fresh name stream found
    simp [start.answers, answered, answersOf, counter, buffer]
  unborn := by simp [start.answers, answered, answersOf]
  consecutive := by simp [start.answers, answersOf, Consecutive]

variable {name : String} {next : World}

theorem Counted.change (counted : w.Counted)
    (streams : next.svc.streams = (w.svc.setStream name state).streams)
    (others : ∀ other, other ≠ name → answersOf next.answers other = answersOf w.answers other)
    (total : state.committedRows = answered next.answers name ∧
      (state.type ≠ .committed → state.bufferedRows.length = answered next.answers name))
    (consecutive : Consecutive 0 (answersOf next.answers name)) : next.Counted where
  total := by
    intro other after known
    rw [streams] at known
    rcases setStream_found known with ⟨rfl, rfl⟩ | ⟨different, old⟩
    · exact total
    · rw [answered, others other different]
      exact counted.total other after old
  unborn := by
    intro other missing
    rw [streams] at missing
    obtain ⟨different, old⟩ := setStream_missing missing
    rw [answered, others other different]
    exact counted.unborn other old
  consecutive := by
    intro other
    by_cases same : other = name
    · rw [same]
      exact consecutive
    · rw [others other same]
      exact counted.consecutive other

theorem Counted.answer (counted : w.Counted) (found : w.svc.streams name = some stream)
    (streams : next.svc.streams = (w.svc.setStream name state).streams)
    (answers : next.answers = w.answers ++ [⟨name, stream.committedRows, rows⟩])
    (counter : state.committedRows = stream.committedRows + rows.length)
    (buffer : state.type ≠ .committed → stream.type ≠ .committed ∧
      state.bufferedRows = stream.bufferedRows ++ rows) : next.Counted := by
  obtain ⟨total, buffered⟩ := counted.total name stream found
  refine counted.change streams ?_ ⟨?_, ?_⟩ ?_
  · intro other different
    rw [answers, answersOf_append, if_neg (Ne.symm different)]
  · rw [answers, answered_append, if_pos rfl, counter, total]
  · intro type
    obtain ⟨deferred, grown⟩ := buffer type
    rw [answers, answered_append, if_pos rfl, grown, List.length_append, buffered deferred]
  · rw [answers, answersOf_append, if_pos rfl]
    refine (counted.consecutive name).append ?_
    rw [Nat.zero_add]
    exact total

theorem Counted.move (counted : w.Counted) (move : Move w s next) :
    next.Counted := by
  cases move with
  | rest | number | quit | load | pass | store =>
    exact ⟨counted.total, counted.unborn, counted.consecutive⟩
  | mint s id name stream free fresh =>
    obtain ⟨counter, buffer, _⟩ := fresh
    have none := counted.unborn name free
    exact counted.change rfl (fun _ _ => rfl) ⟨by rw [counter, none], by simp [buffer, none]⟩
      (counted.consecutive name)
  | buffer call env name session rows stream loaded found deferred =>
    exact counted.answer found rfl rfl rfl (fun _ => ⟨deferred, rfl⟩)
  | count call env name rows stream stored found immediate =>
    exact counted.answer found rfl rfl rfl (fun type => absurd immediate type)
  | flush name offset env stream stop storage flushable =>
    exact counted.change rfl (fun _ _ => rfl) (counted.total name stream flushable.found)
      (counted.consecutive name)
  | close name stream found ongoing =>
    exact counted.change rfl (fun _ _ => rfl) (counted.total name stream found)
      (counted.consecutive name)

end World
end BigQueryEmulator.Write
