import BigQueryEmulator.Write.Answers

/-! FinalizeWriteStream among concurrent appends. The finalized check and the update it
guards are two critical sections, so a stream is sealed only if no append with rows
stands between the two when it is finalized. -/
namespace BigQueryEmulator.Write
open Storage Transition StorageWriteService

/-- An append past its finalized check, not finished, on the stream with these rows. -/
def Progress.Carries (progress : Progress) (name : String) (rows : List Row) : Prop :=
  (∃ session, progress = .loaded name session rows) ∨ progress = .stored name rows

namespace World

/-- No append that holds rows is between its finalized check and its end when its
stream is finalized. -/
def Quiescent (w : World) : Step → Prop
  | .finalizeWriteStream name => ∀ call rows, (w.calls call).Carries name rows → rows = []
  | _ => True

/-- Since the closing, nothing was added to the buffer or by AppendRows to the table,
nothing is about to be, and the row count is still the number of rows answered for. -/
structure Sealed (w : World) (closing : Closing) (stream : StreamState) : Prop where
  found : w.svc.streams closing.stream = some stream
  finalized : stream.finalized = true
  buffer : stream.bufferedRows = closing.buffer
  appended : appended w.svc.journal closing.stream = closing.appended
  rowCount : stream.type ≠ .buffered → closing.rowCount = answered w.answers closing.stream
  idle : ∀ call rows, (w.calls call).Carries closing.stream rows → rows = []

def Closed (w : World) : Prop := ∀ closing ∈ w.closings, ∃ stream, w.Sealed closing stream

theorem Sealed.carried {w next : World} (sealed : w.Sealed closing stream)
    (streams : next.svc.streams closing.stream = w.svc.streams closing.stream)
    (journal : Write.appended next.svc.journal closing.stream =
      Write.appended w.svc.journal closing.stream)
    (answers : answered next.answers closing.stream = answered w.answers closing.stream)
    (calls : ∀ call rows, (next.calls call).Carries closing.stream rows →
      (w.calls call).Carries closing.stream rows ∨ rows = []) : next.Sealed closing stream where
  found := streams.trans sealed.found
  finalized := sealed.finalized
  buffer := sealed.buffer
  appended := journal.trans sealed.appended
  rowCount := fun type => (sealed.rowCount type).trans answers.symm
  idle := fun call rows carries => (calls call rows carries).elim (sealed.idle call rows) id

theorem carries_done (name : String) (rows : List Row) : ¬ Progress.done.Carries name rows := by
  rintro (⟨_, ⟨⟩⟩ | ⟨⟨⟩⟩)

theorem carries_setCall {w : World}
    (position : ∀ rows, progress.Carries name rows → rows = []) (other : Nat) (rows : List Row)
    (carries : ((w.setCall call progress).calls other).Carries name rows) :
    (w.calls other).Carries name rows ∨ rows = [] := by
  by_cases same : other = call
  · rw [same, setCall_same] at carries
    exact .inr (position rows carries)
  · rw [setCall_other _ _ same] at carries
    exact .inl carries

theorem appended_append (journal : List Landing) (landing : Landing) (name : String) :
    appended (journal ++ [landing]) name =
      appended journal name ++
        if landing.route = .immediate ∧ landing.stream = name then landing.rows else [] := by
  by_cases route : landing.route = .immediate
  · simp [appended, route, contributed_append, contributed_singleton]
  · simp [appended, route]

section
variable {w next : World} {closing : Closing} {state : StreamState}

theorem Sealed.apart (sealed : w.Sealed closing state) (found : w.svc.streams name = some stream)
    (ongoing : stream.finalized = false) : name ≠ closing.stream := by
  rintro rfl
  obtain rfl := Option.some.inj (found.symm.trans sealed.found)
  rw [sealed.finalized] at ongoing
  cases ongoing

theorem Sealed.answer (sealed : w.Sealed closing state) {call : Nat}
    (carries : (w.calls call).Carries name rows)
    (found : w.svc.streams name = some stream) (same : rows = [] → updated = stream)
    (streams : next.svc.streams = (w.svc.setStream name updated).streams)
    (journal : next.svc.journal = w.svc.journal)
    (answers : next.answers = w.answers ++ [⟨name, stream.committedRows, rows⟩])
    (calls : ∀ other rows, (next.calls other).Carries closing.stream rows →
      (w.calls other).Carries closing.stream rows ∨ rows = []) : next.Sealed closing state := by
  by_cases here : name = closing.stream
  · have empty : rows = [] := sealed.idle call rows (here ▸ carries)
    refine sealed.carried ?_ (by rw [journal]) ?_ calls
    · rw [streams, ← here, setStream_same, same empty, found]
    · rw [answers, answered_append, if_pos here, empty, List.length_nil, Nat.add_zero]
  · refine sealed.carried ?_ (by rw [journal]) ?_ calls
    · rw [streams, setStream_other _ _ (Ne.symm here)]
    · rw [answers, answered_append, if_neg here]

theorem Sealed.move {s : Step} (sealed : w.Sealed closing state) (move : Move w s next) :
    next.Sealed closing state := by
  have finished (base : World) (call : Nat) (same : base.calls = w.calls) (other : Nat)
      (rows : List Row) (carries : ((base.setCall call .done).calls other).Carries closing.stream rows) :
      (w.calls other).Carries closing.stream rows ∨ rows = [] := by
    rw [← same]
    exact carries_setCall (fun rows done => absurd done (carries_done _ _)) other rows carries
  cases move with
  | rest | number => exact sealed.carried rfl rfl rfl (fun _ _ => .inl)
  | mint s id name stream free fresh =>
    have other : closing.stream ≠ name := by
      rintro rfl
      rw [sealed.found] at free
      cases free
    exact sealed.carried (setStream_other _ _ other) rfl rfl (fun _ _ => .inl)
  | quit s call storage rows unstored =>
    exact sealed.carried rfl rfl rfl (finished _ call rfl)
  | load call name request stream rows idle found ongoing =>
    refine sealed.carried rfl rfl rfl (carries_setCall ?_)
    rintro held (⟨_, ⟨⟩⟩ | ⟨⟨⟩⟩)
    exact absurd rfl (sealed.apart found ongoing)
  | buffer call env name session rows stream loaded found deferred =>
    refine sealed.answer (.inl ⟨session, loaded⟩) found ?_ rfl rfl rfl (finished _ call rfl)
    rintro rfl
    simp
  | pass call env name session stream loaded found immediate =>
    refine sealed.carried rfl rfl rfl (carries_setCall ?_)
    rintro held (⟨_, ⟨⟩⟩ | ⟨⟨⟩⟩)
    rfl
  | store call env name session rows stream storage loaded found immediate nonempty lands =>
    have other : name ≠ closing.stream := by
      rintro rfl
      exact nonempty (sealed.idle call rows (.inl ⟨session, loaded⟩))
    refine sealed.carried rfl ?_ rfl (fun c held carries => ?_)
    · simp [World.setCall, appended_append, other]
    · refine carries_setCall ?_ c held carries
      rintro held (⟨_, ⟨⟩⟩ | ⟨⟨⟩⟩)
      exact absurd rfl other
  | count call env name rows stream stored found immediate =>
    refine sealed.answer (.inr stored) found ?_ rfl rfl rfl (finished _ call rfl)
    rintro rfl
    simp
  | flush name offset env stream stop storage flushable =>
    have other := sealed.apart flushable.found flushable.ongoing
    refine sealed.carried (setStream_other _ _ (Ne.symm other)) ?_ rfl
      (fun _ _ => .inl)
    simp [flushed, flushLanding, appended_append]
  | close name stream found ongoing =>
    have other := sealed.apart found ongoing
    exact sealed.carried (setStream_other _ _ (Ne.symm other)) rfl rfl
      (fun _ _ => .inl)

end

theorem Closed.move (closed : w.Closed) (counted : w.Counted) (quiescent : w.Quiescent s)
    (move : Move w s next) : next.Closed := by
  intro closing member
  by_cases old : closing ∈ w.closings
  · obtain ⟨stream, sealed⟩ := closed closing old
    exact ⟨stream, sealed.move move⟩
  cases move with
  | close name stream found ongoing =>
    rcases List.mem_append.mp member with earlier | new
    · exact absurd earlier old
    obtain rfl := List.mem_singleton.mp new
    obtain ⟨total, buffered⟩ := counted.total name stream found
    refine ⟨_, setStream_same _ _ _, rfl, rfl, rfl, ?_, quiescent⟩
    intro type
    unfold finalRowCount
    cases kind : stream.type with
    | buffered => exact absurd kind type
    | pending => exact buffered (by simp [kind])
    | committed => exact total
  | rest | number | mint | quit | load | buffer | pass | store | count | flush =>
    exact absurd member old

/-- In every run that finalizes streams only while no append with rows is under way on
them, a finalized stream's buffer and the rows AppendRows put into its table never
change again, and the row count it was answered with stays the number of rows of its
successful appends. -/
theorem finalized_streams_sealed {w : World} {steps : List Step} (start : w.Start)
    (admitted : Admits Quiescent step w steps) :
    let last := execute step w steps
    StorageWriteService.Accounted w.svc.storage last.svc ∧
    ∀ closing ∈ last.closings, ∃ stream, last.svc.streams closing.stream = some stream ∧
      stream.bufferedRows = closing.buffer ∧
      Write.appended last.svc.journal closing.stream = closing.appended ∧
      (stream.type ≠ .buffered → closing.rowCount = answered last.answers closing.stream) := by
  intro last
  have reached : last.Sessions ∧ StorageWriteService.Accounted w.svc.storage last.svc ∧
      last.Counted ∧ last.Closed := by
    refine guarded_invariant (P := fun w' => w'.Sessions ∧
      StorageWriteService.Accounted w.svc.storage w'.svc ∧ w'.Counted ∧ w'.Closed) ?_ ?_ admitted
    · rintro w' s ⟨sessions, accounted, counted, closed⟩ quiescent
      have move := w'.step_moves sessions s
      exact ⟨sessions.move move, accounted_move accounted move, counted.move move,
        closed.move counted quiescent move⟩
    · exact ⟨start.sessions, start.accounted, start.counted, by simp [Closed, start.closings]⟩
  obtain ⟨_, accounted, _, closed⟩ := reached
  refine ⟨accounted, ?_⟩
  intro closing member
  obtain ⟨stream, sealed⟩ := closed closing member
  exact ⟨stream, sealed.found, sealed.buffer, sealed.appended, sealed.rowCount⟩

def onePending : World where
  svc := {
    storage := sampleStorage
    streams := fun name =>
      if name = "projects/p/datasets/d/tables/a/streams/s1" then
        some ⟨⟨"p", "d", "a"⟩, ⟨[{ name := "x", type := .string }]⟩, .pending, "", 0, [], 0, false⟩
      else none }

def appendOne : Step :=
  .load 0 "projects/p/datasets/d/tables/a/streams/s1"
    ⟨"projects/p/datasets/d/tables/a/streams/s1", [[.stringValue "1"]], ""⟩

def finalizeOne : Step := .finalizeWriteStream "projects/p/datasets/d/tables/a/streams/s1"

theorem onePending_start : onePending.Start := by
  refine ⟨?_, rfl, rfl, rfl, rfl, rfl⟩
  intro name stream found
  simp only [onePending] at found
  split at found
  · obtain rfl := Option.some.inj found
    exact ⟨rfl, rfl, rfl, rfl⟩
  · cases found

theorem appended_then_finalized :
    ∃ closing, (execute step onePending [appendOne, .advance 0 { nowMs := 0 }, finalizeOne]).closings =
        [closing] ∧ closing.rowCount =
      answered (execute step onePending
        [appendOne, .advance 0 { nowMs := 0 }, finalizeOne]).answers closing.stream := by
  have admitted : Admits Quiescent step onePending
      [appendOne, .advance 0 { nowMs := 0 }, finalizeOne] := by
    refine ⟨trivial, trivial, ?_, trivial⟩
    intro call rows carries
    have position : ((onePending.step appendOne).step (.advance 0 { nowMs := 0 })).calls call =
        if call = 0 then .done else .idle := by
      cases call <;> rfl
    rw [position] at carries
    split at carries
    · exact absurd carries (carries_done _ _)
    · rcases carries with ⟨_, ⟨⟩⟩ | ⟨⟨⟩⟩
  refine ⟨_, rfl, ?_⟩
  obtain ⟨stream, found, _, _, counted⟩ :=
    (finalized_streams_sealed onePending_start admitted).2 _ (List.mem_singleton_self _)
  obtain rfl := Option.some.inj found
  exact counted (by simp)

/-- An append past its check adds its row after the stream was finalized with count 0. -/
theorem row_after_finalize :
    ∃ stream closing, (execute step onePending
        [appendOne, finalizeOne, .advance 0 { nowMs := 0 }]).svc.streams
          "projects/p/datasets/d/tables/a/streams/s1" = some stream ∧
      stream.bufferedRows = [⟨[.string "1"]⟩] ∧
      (execute step onePending [appendOne, finalizeOne, .advance 0 { nowMs := 0 }]).closings =
        [closing] ∧
      closing.buffer = [] ∧ closing.rowCount = 0 ∧
      answered (execute step onePending
        [appendOne, finalizeOne, .advance 0 { nowMs := 0 }]).answers
          "projects/p/datasets/d/tables/a/streams/s1" = 1 :=
  ⟨_, _, rfl, rfl, rfl, rfl, rfl, rfl⟩

end World
end BigQueryEmulator.Write
