import BigQueryEmulator.Read.Service
import BigQueryEmulator.Tiling

/-! The names of sessions and streams, and the streams a session opens with. Distinct keys give
distinct stream names, a stream's name leads back to its session, and a session number is used for
one name only. Unless the products of `BuildPartitions` overflow, the ranges of the streams tile
the counted rows. -/
namespace BigQueryEmulator.Read
open Storage Tiling
open List hiding map after

/-- What follows `/streams/` in a stream's name. -/
inductive StreamKey where
  | initial (index : Nat)
  | primary (split : Nat)
  | remainder (split : Nat)

namespace StreamKey

def text : StreamKey → String
  | .initial index => toString index
  | .primary split => "split" ++ toString split ++ "p"
  | .remainder split => "split" ++ toString split ++ "r"

theorem digits_only {n : Nat} (member : c ∈ (toString n).toList) : c.isDigit = true := by
  apply Nat.isDigit_of_mem_toDigits (b := 10) (n := n) (by decide) (by decide)
  simpa [toString, Nat.repr] using member

theorem initial_ne_split (index : Nat) (rest : String) : toString index ≠ "split" ++ rest := by
  intro same
  have letter : 's' ∈ (toString index).toList := by simp [same]
  have digit := digits_only letter
  contradiction

theorem split_ends {a b : Nat} (first second : String)
    (aligned : first.toList.length = second.toList.length)
    (same : "split" ++ toString a ++ first = "split" ++ toString b ++ second) :
    a = b ∧ first = second := by
  have letters := congrArg String.toList same
  simp only [String.toList_append] at letters
  obtain ⟨body, last⟩ := append_inj' letters aligned
  have digits := String.toList_injective (append_cancel_left body)
  exact ⟨Nat.repr_injective digits, String.toList_injective last⟩

theorem text_injective : Function.Injective text := by
  intro a b same
  cases a with
  | initial i =>
    cases b with
    | initial j => exact congrArg _ (Nat.repr_injective same)
    | primary | remainder =>
      rw [text, text, String.append_assoc] at same
      exact absurd same (initial_ne_split i _)
  | primary i =>
    cases b with
    | initial j =>
      rw [text, text, String.append_assoc] at same
      exact absurd same.symm (initial_ne_split j _)
    | primary k => exact congrArg _ (split_ends "p" "p" rfl same).1
    | remainder k => exact absurd (split_ends "p" "r" rfl same).2 (by decide)
  | remainder i =>
    cases b with
    | initial j =>
      rw [text, text, String.append_assoc] at same
      exact absurd same.symm (initial_ne_split j _)
    | primary k => exact absurd (split_ends "r" "p" rfl same).2 (by decide)
    | remainder k => exact congrArg _ (split_ends "r" "r" rfl same).1

end StreamKey

variable (sessionName : String)

theorem streamName_injective : Function.Injective (streamName sessionName) := by
  intro a b same
  have letters := congrArg String.toList same
  simp only [streamName, String.toList_append] at letters
  exact String.toList_injective (append_cancel_left letters)

section
variable {separator : List Char}

theorem breakOnLast_sound (found : breakOnLast separator text = some (before, after)) :
    text = before ++ separator ++ after := by
  induction text generalizing before with
  | nil => cases found
  | cons c rest ih =>
    rw [breakOnLast] at found
    split at found
    · rename_i tail later earlier
      cases found
      rw [ih earlier]
      rfl
    · split at found
      · rename_i here
        cases found
        have same := prefix_iff_eq_append.mp (List.isPrefixOf_iff_prefix.mp here)
        simpa using same.symm
      · cases found

theorem breakOnLast_append (last : breakOnLast (c :: rest) (rest ++ after) = none)
    (before : List Char) :
    breakOnLast (c :: rest) (before ++ (c :: rest) ++ after) = some (before, after) := by
  induction before with
  | nil =>
    rw [nil_append, cons_append, breakOnLast, last]
    have here : (c :: rest).isPrefixOf (c :: (rest ++ after)) = true :=
      List.isPrefixOf_iff_prefix.mpr ⟨after, rfl⟩
    simp [here]
  | cons d before ih =>
    rw [cons_append, cons_append, breakOnLast, ih]

end

theorem parseReadStreamName_streamName (plain : '/' ∉ key.toList) (some : key ≠ "") :
    parseReadStreamName (streamName sessionName key) = .ok (sessionName, key) := by
  have last : breakOnLast "/streams/".toList ("streams/".toList ++ key.toList) = none := by
    cases found : breakOnLast "/streams/".toList ("streams/".toList ++ key.toList) with
    | none => rfl
    | some parts =>
      have slashes := congrArg (count '/') (breakOnLast_sound found)
      simp only [count_append, count_eq_zero.mpr plain] at slashes
      have one : count '/' "streams/".toList = 1 := by decide
      have two : count '/' "/streams/".toList = 2 := by decide
      omega
  have broken : breakOnLast "/streams/".toList (streamName sessionName key).toList =
      Option.some (sessionName.toList, key.toList) := by
    rw [streamName, String.toList_append, String.toList_append]
    exact breakOnLast_append last sessionName.toList
  have nonempty : ¬ (streamName sessionName key).isEmpty = true := by simp [streamName]
  have keyed : ¬ key.toList.isEmpty = true := by simpa using some
  unfold parseReadStreamName
  rw [if_neg nonempty]
  simp only [broken, if_neg keyed, String.ofList_toList]

theorem StreamKey.initial_plain (index : Nat) : '/' ∉ (StreamKey.initial index).text.toList := by
  intro member
  have digit := StreamKey.digits_only member
  contradiction

theorem StreamKey.initial_nonempty (index : Nat) : (StreamKey.initial index).text ≠ "" := by
  intro empty
  have digits := congrArg String.toList empty
  simp [text, Nat.toDigits_ne_nil] at digits

theorem eq_of_last_letter (plain : letter ∉ first) (plain' : letter ∉ second)
    (same : first ++ letter :: before = second ++ letter :: after) : first = second := by
  induction first generalizing second with
  | nil =>
    cases second with
    | nil => rfl
    | cons c rest =>
      obtain ⟨rfl, _⟩ := cons.inj same
      exact absurd ((.head _) ..) plain'
  | cons c rest ih =>
    cases second with
    | nil =>
      obtain ⟨rfl, _⟩ := cons.inj same
      exact absurd ((.head _) ..) plain
    | cons d rest' =>
      obtain ⟨rfl, tails⟩ := cons.inj same
      rw [ih (fun member => plain (.tail _ member))
        (fun member => plain' (.tail _ member)) tails]

/-- The number of a session can be read off its name, whatever its project. -/
theorem newSessionId_number {project project' : String} {id id' : Nat}
    (same : newSessionId project id = newSessionId project' id') : id = id' := by
  have letters := congrArg (fun text => text.toList.reverse) same
  have plain (n : Nat) : 's' ∉ (toString n).toList.reverse := by
    intro member
    have digit := StreamKey.digits_only (mem_reverse.mp member)
    contradiction
  simp only [newSessionId, String.toList_append, reverse_append] at letters
  have digits := eq_of_last_letter (plain id) (plain id') letters
  exact Nat.repr_injective (String.toList_injective (reverse_injective digits))

theorem emplace_free (entry : α) (free : map name = none) (other : String) :
    emplace map name entry other = if other = name then some entry else map other := by
  simp [emplace, free]

theorem emplace_kept {old : α} (held : map other = some old) (name : String) (entry : α) :
    emplace map name entry other = some old := by
  unfold emplace
  split
  · exact held
  rename_i free
  have different : other ≠ name := by
    rintro rfl
    simp [held] at free
  simp [different, held]

theorem emplace_cases (found : emplace map name entry other = some held) :
    map other = some held ∨ (other = name ∧ held = entry) := by
  unfold emplace at found
  split at found
  · exact .inl found
  dsimp only at found
  split at found
  · rename_i same
    exact .inr ⟨same, (Option.some.inj found).symm⟩
  · exact .inl found

theorem emplace_all (parts : List StreamPartition) (streams : String → Option StreamPartition)
    (name : String) :
    parts.foldl (fun streams part => emplace streams part.name part) streams name =
      (streams name).or (parts.find? (fun part => part.name == name)) := by
  induction parts generalizing streams with
  | nil => simp
  | cons part rest ih =>
    rw [foldl_cons, ih]
    unfold emplace
    by_cases taken : (streams part.name).isSome = true
    · rw [if_pos taken]
      by_cases same : part.name = name
      · subst same
        obtain ⟨entry, found⟩ := Option.isSome_iff_exists.mp taken
        simp [found]
      · rw [find?_cons_of_neg (by simpa using same)]
    · rw [if_neg taken]
      have empty : streams part.name = none := by simpa using taken
      by_cases same : part.name = name
      · subst same
        simp [empty]
      · rw [find?_cons_of_neg (by simpa using same), if_neg (Ne.symm same)]

theorem find_named {parts : List StreamPartition}
    (distinct : (parts.map StreamPartition.name).Nodup) (name : String) (part : StreamPartition) :
    parts.find? (fun part => part.name == name) = some part ↔ part ∈ parts ∧ part.name = name := by
  constructor
  · intro found
    exact ⟨mem_of_find?_eq_some found, by simpa using find?_some found⟩
  rintro ⟨member, rfl⟩
  induction parts with
  | nil => cases member
  | cons first rest ih =>
    obtain ⟨fresh, distinct⟩ := nodup_cons.mp distinct
    rcases mem_cons.mp member with rfl | later
    · simp
    have other : first.name ≠ part.name := by
      intro same
      exact fresh (same ▸ mem_map_of_mem later)
    rw [find?_cons_of_neg (by simpa using other)]
    exact ih distinct later

section
variable (sessionName : String) {streamCount totalRows : Int}

theorem buildPartitions_distinct (streamCount totalRows : Int) :
    ((buildPartitions sessionName streamCount totalRows).map StreamPartition.name).Nodup := by
  rw [buildPartitions, map_map]
  refine nodup_range.map ?_
  intro i j same
  exact Nat.repr_injective (streamName_injective sessionName same)

theorem negotiateStreamCount_positive (requested totalRows : Int) :
    1 ≤ negotiateStreamCount requested totalRows := by
  unfold negotiateStreamCount kMaxStreamCount
  split
  · omega
  · split <;> omega

theorem negotiateStreamCount_le_rows (requested : Int) (rows : 0 < totalRows) :
    negotiateStreamCount requested totalRows ≤ totalRows := by
  unfold negotiateStreamCount
  split
  · omega
  · split <;> omega

theorem int64_of_small (lower : 0 ≤ x) (upper : x < 2 ^ 63) : int64 x = x := by
  apply Int.bmod_eq_of_le <;> omega

/-- The i-th boundary between the ranges, when no product overflows. -/
def boundary (streamCount totalRows : Int) (i : Nat) : Int := totalRows * i / streamCount

theorem boundary_monotone (positive : 1 ≤ streamCount) (rows : 0 ≤ totalRows) :
    Monotone (boundary streamCount totalRows) := by
  intro i j before
  apply Int.ediv_le_ediv (by omega)
  exact Int.mul_le_mul_of_nonneg_left (by omega) rows

theorem boundary_zero (streamCount totalRows : Int) : boundary streamCount totalRows 0 = 0 := by
  simp [boundary]

theorem boundary_last (positive : 1 ≤ streamCount) :
    boundary streamCount totalRows streamCount.toNat = totalRows := by
  rw [boundary, Int.toNat_of_nonneg (by omega)]
  exact Int.mul_ediv_cancel _ (by omega)

theorem boundary_lt (positive : 1 ≤ streamCount) (enough : streamCount ≤ totalRows) (i : Nat) :
    boundary streamCount totalRows i < boundary streamCount totalRows (i + 1) := by
  have later : totalRows * i + streamCount ≤ totalRows * (i + 1 : Nat) := by
    push_cast
    rw [Int.mul_add]
    omega
  calc totalRows * i / streamCount
      < totalRows * i / streamCount + 1 := by omega
    _ = (totalRows * i + streamCount) / streamCount := by
        rw [Int.add_ediv_of_dvd_right (Int.dvd_refl _), Int.ediv_self (by omega)]
    _ ≤ totalRows * (i + 1 : Nat) / streamCount := Int.ediv_le_ediv (by omega) later

theorem buildPartitions_range (positive : 1 ≤ streamCount) (rows : 0 ≤ totalRows)
    (fits : totalRows * streamCount < 2 ^ 63) :
    buildPartitions sessionName streamCount totalRows =
      (range streamCount.toNat).map fun i =>
        ⟨streamName sessionName (StreamKey.initial i).text, boundary streamCount totalRows i,
          boundary streamCount totalRows (i + 1)⟩ := by
  have product (i : Nat) (small : i ≤ streamCount) :
      (int64 (totalRows * i)).tdiv streamCount = boundary streamCount totalRows i := by
    have lower : 0 ≤ totalRows * i := Int.mul_nonneg rows (by omega)
    have upper : totalRows * i ≤ totalRows * streamCount :=
      Int.mul_le_mul_of_nonneg_left small rows
    rw [int64_of_small lower (by omega), Int.tdiv_eq_ediv_of_nonneg lower, boundary]
  apply map_congr_left
  intro i member
  have index := mem_range.mp member
  have next := product (i + 1) (by omega)
  push_cast at next
  rw [product i (by omega), next]
  rfl

theorem buildPartitions_bounded (positive : 1 ≤ streamCount) (rows : 0 ≤ totalRows)
    (fits : totalRows * streamCount < 2 ^ 63) {part : StreamPartition}
    (member : part ∈ buildPartitions sessionName streamCount totalRows) :
    0 ≤ part.rowStart ∧ part.rowStart ≤ part.rowEnd ∧ part.rowEnd ≤ totalRows := by
  have monotone := boundary_monotone positive rows
  rw [buildPartitions_range _ positive rows fits] at member
  obtain ⟨i, index, rfl⟩ := mem_map.mp member
  have last : i + 1 ≤ streamCount.toNat := mem_range.mp index
  refine ⟨?_, monotone (Nat.le_succ i), ?_⟩
  · calc (0 : Int) = boundary streamCount totalRows 0 := (boundary_zero _ _).symm
      _ ≤ boundary streamCount totalRows i := monotone (Nat.zero_le i)
  · calc boundary streamCount totalRows (i + 1)
        ≤ boundary streamCount totalRows streamCount.toNat := monotone last
      _ = totalRows := boundary_last positive

end

end BigQueryEmulator.Read
