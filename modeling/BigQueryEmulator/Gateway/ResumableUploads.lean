import BigQueryEmulator.Gateway.ScriptText
import BigQueryEmulator.Transition

/-! The PUTs of a resumable upload (`load/upload.go`, `handlers/jobs_upload.go`). The session has
one buffer, whose length counts as what was received. -/
namespace BigQueryEmulator.Gateway
open List

/-- `strconv.ParseInt` in base 10, and the longest slice that `make` gives. -/
structure Machine where
  parseInt : Sql → Option Int
  maxAlloc : Nat
  bounded : maxAlloc < 2 ^ 62

/-- A Content-Range; a total that is not known is -1. -/
structure ContentRange where
  start : Int
  last : Int
  total : Int

def parseContentRange (m : Machine) (header : Sql) : Option ContentRange :=
  if hasPrefix (trimSpace header) "bytes " then
    match ((trimSpace header).drop 6).splitOn '/' with
    | [range, total] => do
      let total ← if total = ['*'] then some (-1) else m.parseInt total
      if range = ['*'] then return ⟨0, 0, total⟩
      else
        match range.splitOn '-' with
        | [start, last] => return ⟨← m.parseInt start, ← m.parseInt last, total⟩
        | _ => none
    | _ => none
  else none

/-- A session; its total is -1 if it was not declared. -/
structure UploadSession where
  data : List UInt8 := []
  total : Int
  expires : Int
deriving DecidableEq

/-- A PUT: its header, empty if there is none, its body, and the times at which the session is
looked up, appended to and looked up again. -/
structure Put (m : Machine) where
  contentRange : Sql
  body : List UInt8
  held : body.length ≤ m.maxAlloc
  looked : Int
  appended : Int
  relooked : Int

inductive UploadAnswer where
  | panic
  | refused (code : Nat) (message : String)
  /-- 308 with `Range: 0-(received - 1)`, without the header if nothing was received. -/
  | incomplete (received : Nat)
  | complete (media : List UInt8)
deriving DecidableEq

/-- `AppendBytes` on the buffer, and whether it ends without a panic. Lengths have 64 bits. -/
def appendBytes (m : Machine) (data chunk : List UInt8) (start : Int) : List UInt8 × Bool :=
  let need := Int.bmod (start + chunk.length) (2 ^ 64)
  if data.length < need ∧ m.maxAlloc < need then (data, false)
  else
    let grown := data ++ replicate (need - data.length).toNat 0
    if 0 ≤ start ∧ start ≤ grown.length then
      (grown.take start.toNat ++ chunk.take (grown.length - start.toNat) ++
        grown.drop (start.toNat + chunk.length), true)
    else (grown, false)

/-- What a PUT asks for. A chunk that comes without a range goes to the front. -/
inductive Demand where
  | status
  | finish
  | chunk (start total : Int)
  | invalid (message : String)
deriving DecidableEq

section
variable {m : Machine}

def Put.demand (put : Put m) : Demand :=
  if put.contentRange ≠ [] then
    if put.body = [] then .status
    else
      match parseContentRange m put.contentRange with
      | none => .invalid "invalid Content-Range"
      | some range =>
        if put.body.length ≠ Int.bmod (range.last - range.start + 1) (2 ^ 64) then
          .invalid "Content-Range length mismatch"
        else .chunk range.start range.total
  else if put.body ≠ [] then .chunk 0 (-1)
  else .finish

/-- `finalizeResumableChunk`, and the answer of `handleJobInsertUploadPut`. -/
def finalizeResumableChunk (session : UploadSession) (put : Put m) :
    Option UploadSession × UploadAnswer :=
  match put.demand with
  | .invalid message => (some session, .refused 400 message)
  | .status => (some session, .incomplete session.data.length)
  | .finish =>
    if 0 < session.total ∧ session.data.length < session.total then
      (some session, .incomplete session.data.length)
    else (none, .complete session.data)
  | .chunk start total =>
    if session.expires < put.appended then (none, .refused 400 "upload session not found")
    else
      match appendBytes m session.data put.body start with
      | (data, false) => (some { session with data }, .panic)
      | (data, true) =>
        if 0 < total ∧ data.length < total then
          (some { session with data }, .incomplete data.length)
        else if session.expires < put.relooked then (none, .panic)
        else (none, .complete data)

def handleJobInsertUploadPut (store : Option UploadSession) (put : Put m) :
    Option UploadSession × UploadAnswer :=
  match store.filter (put.looked ≤ ·.expires) with
  | none => (none, .refused 404 "upload session not found")
  | some session => finalizeResumableChunk session put

end

section
variable {m : Machine}

/-- The session, and the bytes that the client has sent, by their positions. -/
structure Upload where
  store : Option UploadSession
  sent : Nat → Option UInt8 := fun _ => none

/-- The bytes sent, with those of the PUT. -/
def Put.over (put : Put m) (sent : Nat → Option UInt8) (i : Nat) : Option UInt8 :=
  match put.demand with
  | .chunk start _ => (if start ≤ i then put.body[(i - start).toNat]? else none).or (sent i)
  | _ => sent i

def Upload.put (upload : Upload) (put : Put m) : Upload where
  store := (handleJobInsertUploadPut upload.store put).1
  sent := put.over upload.sent

/-- The total that the PUT or else the session declares; a PUT without a range has the whole
file. -/
def Put.declared (put : Put m) (session : UploadSession) : Option Int :=
  match put.demand with
  | .chunk _ total =>
    if 0 ≤ total then some total
    else if 0 ≤ session.total then some session.total
    else if put.contentRange = [] then some put.body.length else none
  | _ => if 0 ≤ session.total then some session.total else none

/-- No panic; a 308 names the longest front of the file that was received; a file that is complete
has the bytes that were sent, and all those of the total. -/
def UploadAnswer.Right (sent : Nat → Option UInt8) (declared : Option Int) : UploadAnswer → Prop
  | .panic => False
  | .refused _ _ => True
  | .incomplete received => (∀ i < received, sent i ≠ none) ∧ sent received = none
  | .complete media => (∀ i, media[i]? = sent i) ∧
      ∃ total ∈ declared, ∀ i : Nat, i < total → sent i ≠ none

def Upload.Right (upload : Upload) (put : Put m) : Prop :=
  (handleJobInsertUploadPut upload.store put).2.Right (put.over upload.sent)
    (upload.store.bind put.declared)

/-- A chunk leaves no gap, fits into memory, and comes with a total, or with all that the session
has declared; the session does not run out before the chunk is handled. -/
def Put.Careful (put : Put m) (session : UploadSession) : Prop :=
  match put.demand with
  | .chunk start total => put.appended ≤ session.expires →
      0 ≤ start ∧ start ≤ session.data.length ∧ start + put.body.length ≤ m.maxAlloc ∧
        (total ≤ max (session.data.length : Int) (start + put.body.length) →
          put.relooked ≤ session.expires ∧ ∃ declared ∈ put.declared session,
            declared ≤ max (session.data.length : Int) (start + put.body.length))
  | .finish => 0 ≤ session.total
  | _ => True

end

section
variable {m : Machine} {data chunk : List UInt8} {start : Int}

theorem appendBytes_fits (lower : 0 ≤ start) (upper : start ≤ data.length)
    (fits : start + chunk.length ≤ m.maxAlloc) :
    ∃ next, appendBytes m data chunk start = (next, true) ∧
      (next.length : Int) = max (data.length : Int) (start + chunk.length) ∧
      ∀ i : Nat, next[i]? =
        (if start ≤ i then chunk[(i - start).toNat]? else none).or data[i]? := by
  have bounded := m.bounded
  have need : Int.bmod (start + chunk.length) (2 ^ 64) = start + chunk.length :=
    Int.bmod_eq_of_le (by omega) (by omega)
  unfold appendBytes
  simp only [need]
  rw [if_neg (by omega), if_pos ⟨lower, by simp; omega⟩]
  refine ⟨_, rfl, ?_, fun i => ?_⟩
  · simp only [length_append, length_take, length_drop, length_replicate]
    omega
  obtain ⟨n, rfl⟩ := Int.eq_ofNat_of_zero_le lower
  have whole : chunk.length ≤ (data ++ replicate
      ((n : Int) + chunk.length - data.length).toNat 0).length - (n : Int).toNat := by
    simp only [length_append, length_replicate]
    omega
  rw [take_of_length_le whole, append_assoc, Int.toNat_natCast]
  rcases lt_or_ge i n with before | here
  · rw [getElem?_append_left (by simp; omega), getElem?_take_of_lt before,
      getElem?_append_left (by omega), if_neg (by omega), Option.none_or]
  rw [getElem?_append_right (by simp; omega), length_take_of_le (by simp; omega),
    if_pos (by omega), show ((i : Int) - n).toNat = i - n by omega]
  rcases lt_or_ge (i - n) chunk.length with inside | after
  · rw [getElem?_append_left inside, getElem?_eq_getElem inside, Option.some_or]
  rw [getElem?_append_right after, getElem?_drop, getElem?_eq_none after,
    Option.none_or, show n + chunk.length + (i - n - chunk.length) = i by omega]
  rcases lt_or_ge i data.length with old | new
  · rw [getElem?_append_left old]
  · rw [getElem?_eq_none new, getElem?_eq_none (by simp; omega)]

end

section
variable {m : Machine} {upload : Upload} {put : Put m} {session next : UploadSession}
  {data : List UInt8} {sent : Nat → Option UInt8}

theorem longest (same : ∀ i, data[i]? = sent i) :
    (∀ i < data.length, sent i ≠ none) ∧ sent data.length = none := by
  refine ⟨fun i within => ?_, by simp [← same]⟩
  rw [← same, getElem?_eq_getElem within]
  exact Option.some_ne_none _

/-- The buffer holds what was sent. -/
structure Buffered (m : Machine) (sent : Nat → Option UInt8) (session : UploadSession) : Prop where
  within : session.data.length ≤ m.maxAlloc
  same : ∀ i, session.data[i]? = sent i

theorem finalize_right (held : Buffered m sent session) (careful : put.Careful session) :
    (finalizeResumableChunk session put).2.Right (put.over sent) (put.declared session) ∧
      ∀ next, (finalizeResumableChunk session put).1 = some next → Buffered m (put.over sent) next := by
  have := held.within
  have covered (other : ∀ start total, put.demand ≠ .chunk start total) :
      Buffered m (put.over sent) session := by
    refine ⟨held.within, fun i => ?_⟩
    unfold Put.over
    split
    · exact absurd ‹_› (other _ _)
    · exact held.same i
  have stays (other : ∀ start total, put.demand ≠ .chunk start total) (next)
      (kept : some session = some next) : Buffered m (put.over sent) next := by
    cases kept
    exact covered other
  cases asked : put.demand with
  | chunk start total =>
    simp only [finalizeResumableChunk, Put.Careful, asked] at careful ⊢
    split
    · exact ⟨trivial, nofun⟩
    obtain ⟨lower, upper, fits, ends⟩ := careful (by omega)
    obtain ⟨data, taken, length, bytes⟩ := appendBytes_fits lower upper fits
    have covered : ∀ i, data[i]? = put.over sent i := by
      simpa only [Put.over, asked, ← held.same] using bytes
    rw [taken]
    dsimp only
    split
    next =>
      refine ⟨longest covered, ?_⟩
      rintro _ ⟨⟩
      exact ⟨by dsimp only; omega, covered⟩
    next =>
      obtain ⟨alive, declared, known, few⟩ := ends (by omega)
      rw [if_neg (by omega)]
      exact ⟨⟨covered, declared, known, fun i within => (longest covered).1 i (by omega)⟩, nofun⟩
  | invalid =>
    simp only [finalizeResumableChunk, asked]
    exact ⟨trivial, stays (by simp [asked])⟩
  | status =>
    simp only [finalizeResumableChunk, asked]
    exact ⟨longest (covered (by simp [asked])).same, stays (by simp [asked])⟩
  | finish =>
    have same := (covered (by simp [asked])).same
    simp only [finalizeResumableChunk, Put.Careful, asked] at careful ⊢
    split
    · exact ⟨longest same, stays (by simp [asked])⟩
    · refine ⟨⟨same, session.total, ?_, fun i within => (longest same).1 i (by omega)⟩, nofun⟩
      simp [Put.declared, asked, careful]

def Upload.Careful (upload : Upload) (put : Put m) : Prop :=
  ∀ session, upload.store.filter (put.looked ≤ ·.expires) = some session → put.Careful session

theorem put_right (held : ∀ session, upload.store = some session → Buffered m upload.sent session)
    (careful : upload.Careful put) :
    upload.Right put ∧ ∀ session, (upload.put put).store = some session →
      Buffered m (upload.put put).sent session := by
  unfold Upload.Right Upload.put handleJobInsertUploadPut
  cases found : upload.store.filter (put.looked ≤ ·.expires) with
  | none => exact ⟨trivial, nofun⟩
  | some session =>
    have store := (Option.filter_eq_some_iff.mp found).1
    rw [store]
    exact finalize_right (held session store) (careful session found)

end

/-- After careful PUTs to a new session, the answer to a careful PUT is right. -/
theorem upload_right {m : Machine} {total expires : Int} {puts : List (Put m)} {put : Put m}
    (careful : Transition.Admits Upload.Careful Upload.put ⟨some { total, expires }, fun _ => none⟩
      puts)
    (last : (Transition.execute Upload.put ⟨some { total, expires }, fun _ => none⟩ puts).Careful
      put) :
    (Transition.execute Upload.put ⟨some { total, expires }, fun _ => none⟩ puts).Right put := by
  refine (put_right (Transition.guarded_invariant (fun _ _ held careful =>
    (put_right held careful).2) ?_ careful) last).1
  rintro _ ⟨⟩
  exact ⟨Nat.zero_le _, fun _ => rfl⟩

/-- A machine that reads one digit. -/
def machine : Machine := ⟨fun text => text.head?.map fun c => c.toNat - '0'.toNat, 100, by decide⟩

def chunkPut (range : String) (body : List UInt8) (held : body.length ≤ machine.maxAlloc) :
    Put machine :=
  ⟨range.toList, body, held, 0, 0, 0⟩

/-- A new session to which three bytes are sent. -/
def started (range : String) : Upload :=
  Transition.execute Upload.put ⟨some { total := -1, expires := 60 }, fun _ => none⟩
    [chunkPut range [1, 2, 3] (by decide)]

theorem halves_right : (started "bytes 0-2/6").Right (chunkPut "bytes 3-5/6" [4, 5, 6] (by decide)) := by
  have front : (chunkPut "bytes 0-2/6" [1, 2, 3] (by decide)).demand = .chunk 0 6 := by
    decide +kernel
  have back : (chunkPut "bytes 3-5/6" [4, 5, 6] (by decide)).demand = .chunk 3 6 := by
    decide +kernel
  have stored : (started "bytes 0-2/6").store = some ⟨[1, 2, 3], -1, 60⟩ := by decide +kernel
  refine upload_right ⟨?_, trivial⟩ ?_
  · rintro _ ⟨⟩
    exact fun _ => ⟨by decide, by decide, by decide, fun all => absurd all (by decide)⟩
  · intro session found
    cases found
    exact fun _ => ⟨by decide, by decide, by decide, fun _ =>
      ⟨by decide, 6, by simp [Put.declared, back], by decide⟩⟩

/-- Bytes behind a gap: the answer names eight, of which two were not sent. -/
theorem gap_received :
    ¬(started "bytes 0-2/9").Right (chunkPut "bytes 5-7/9" [6, 7, 8] (by decide)) := by
  intro right
  have answer : (handleJobInsertUploadPut (started "bytes 0-2/9").store
      (chunkPut "bytes 5-7/9" [6, 7, 8] (by decide))).2 = .incomplete 8 := by decide +kernel
  exact right.1 3 (by decide) (by decide +kernel)

end BigQueryEmulator.Gateway
