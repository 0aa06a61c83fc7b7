import BigQueryEmulator.Bits
import BigQueryEmulator.Storage.Values

/-! TO_BASE32 and FROM_BASE32 (`string_extra_helpers.cc`). Both loops keep their bits in an `int` that
they never mask; only the lowest ones, those still to be written, matter. -/
namespace BigQueryEmulator.Semantic
open List Bits
open Storage (Status)

def base32Alphabet : List Char := "ABCDEFGHIJKLMNOPQRSTUVWXYZ234567".toList

/-- `kAlphabet[index & 0x1F]`. -/
def base32Letter (index : BitVec 32) : Char := base32Alphabet.getD (index &&& 0x1F#32).toNat '\x00'

/-- The inner loop, with the number of bits it leaves. -/
def emitLetters (buffer : BitVec 32) (bits : Nat) : List Char × Nat :=
  if 5 ≤ bits then
    let (out, left) := emitLetters buffer (bits - 5)
    (base32Letter (buffer.sshiftRight (bits - 5)) :: out, left)
  else ([], bits)

def encodeBytes (buffer : BitVec 32) (bits : Nat) : List (BitVec 8) → List Char
  | [] => if 0 < bits then [base32Letter (buffer <<< (5 - bits))] else []
  | c :: input =>
    let buffer := buffer <<< 8 ||| c.setWidth 32
    let (out, bits) := emitLetters buffer (bits + 8)
    out ++ encodeBytes buffer bits input

def encodeBase32 (input : List (BitVec 8)) : List Char :=
  let out := encodeBytes 0 0 input
  out ++ replicate ((8 - out.length % 8) % 8) '='

/-- `std::strchr`, which finds the end of the alphabet for a NUL. -/
def base32Index (c : Char) : Option Nat := (base32Alphabet ++ ['\x00']).idxOf? c

def decodeLetters (buffer : BitVec 32) (bits : Nat) : List Char → Except Status (List (BitVec 8))
  | [] => .ok []
  | c :: input =>
    if c = '=' then .ok []
    else
      match base32Index c.toUpper with
      | none => .error ⟨.invalidArgument, "semantic: invalid base32 input"⟩
      | some index =>
        let buffer := buffer <<< 5 ||| BitVec.ofNat 32 index
        let bits := bits + 5
        if 8 ≤ bits then
          (decodeLetters buffer (bits - 8) input).map
            ((buffer.sshiftRight (bits - 8) &&& 0xFF#32).setWidth 8 :: ·)
        else decodeLetters buffer bits input

def decodeBase32 (input : List Char) : Except Status (List (BitVec 8)) := decodeLetters 0 0 input

def letter (digit : BitVec 5) : Char := base32Alphabet.getD digit.toNat '\x00'

theorem base32Letter_eq (index : BitVec 32) : base32Letter index = letter (index.setWidth 5) := by
  unfold base32Letter letter
  rw [BitVec.toNat_setWidth, BitVec.toNat_and]
  exact congrArg (base32Alphabet.getD · _) (Nat.and_two_pow_sub_one_eq_mod _ 5)

theorem base32Index_letter (digit : BitVec 5) : letter digit ≠ '=' ∧
    base32Index (letter digit).toUpper = some digit.toNat := by
  revert digit
  decide +kernel

theorem emitLetters_spec (buffer : BitVec 32) (fits : bits ≤ 32) :
    ∃ digits : List (BitVec 5), (emitLetters buffer bits).1 = digits.map letter ∧
      (emitLetters buffer bits).2 < 5 ∧
      low buffer bits = digits.flatMap (low · 5) ++ low buffer (emitLetters buffer bits).2 := by
  induction bits using Nat.strongRecOn with
  | ind bits ih =>
    rw [emitLetters]
    split
    next enough =>
      obtain ⟨digits, letters, short, same⟩ := ih (bits - 5) (by omega) (by omega)
      refine ⟨(buffer.sshiftRight (bits - 5)).setWidth 5 :: digits, ?_, short, ?_⟩
      · rw [map_cons, ← letters, base32Letter_eq]
      · rw [flatMap_cons, append_assoc, ← same, ← low_top buffer (by omega),
          Nat.add_sub_cancel' enough]
    next few => exact ⟨[], rfl, by omega, rfl⟩

/-- The letters hold the pending bits, those of the input and fewer than five more. -/
theorem encodeBytes_spec (buffer : BitVec 32) (few : bits < 5) (input : List (BitVec 8)) :
    ∃ (digits : List (BitVec 5)) (rest : List Bool),
      encodeBytes buffer bits input = digits.map letter ∧ rest.length < 5 ∧
      digits.flatMap (low · 5) = low buffer bits ++ input.flatMap (low · 8) ++ rest := by
  induction input generalizing buffer bits with
  | nil =>
    rw [encodeBytes]
    split
    next some =>
      refine ⟨[(buffer <<< (5 - bits)).setWidth 5], low 0#(5 - bits) (5 - bits), ?_, ?_, ?_⟩
      · rw [base32Letter_eq]
        rfl
      · rw [length_low]
        omega
      · have shifted := low_shiftIn buffer 0#(5 - bits) (by omega : bits + (5 - bits) ≤ 32)
        rw [Nat.add_sub_cancel' (by omega), BitVec.setWidth_zero, BitVec.or_zero] at shifted
        rw [flatMap_singleton, flatMap_nil, append_nil, ← shifted, low_setWidth _ (by decide)]
    next none =>
      obtain rfl : bits = 0 := by omega
      exact ⟨[], [], rfl, by decide, rfl⟩
  | cons c input ih =>
    obtain ⟨digits, letters, short, same⟩ :=
      emitLetters_spec (buffer <<< 8 ||| c.setWidth 32) (by omega : bits + 8 ≤ 32)
    obtain ⟨more, rest, others, below, after⟩ := ih (buffer <<< 8 ||| c.setWidth 32) short
    refine ⟨digits ++ more, rest, ?_, below, ?_⟩
    · rw [encodeBytes, map_append, ← letters, ← others]
    · rw [flatMap_append, after, ← append_assoc, ← append_assoc, ← same,
        low_shiftIn buffer c (by omega), flatMap_cons, append_assoc (low buffer bits)]

/-- The bytes hold the pending bits and those of the letters, but for fewer than eight. -/
theorem decodeLetters_spec (buffer : BitVec 32) (few : bits < 8) (digits : List (BitVec 5))
    (padding : Nat) :
    ∃ bytes rest, rest.length < 8 ∧
      decodeLetters buffer bits (digits.map letter ++ replicate padding '=') = .ok bytes ∧
      low buffer bits ++ digits.flatMap (low · 5) = bytes.flatMap (low · 8) ++ rest := by
  induction digits generalizing buffer bits with
  | nil =>
    refine ⟨[], low buffer bits, by simpa using few, ?_, by simp⟩
    cases padding <;> rfl
  | cons digit digits ih =>
    obtain ⟨other, index⟩ := base32Index_letter digit
    have shifted := low_shiftIn buffer digit (by omega : bits + 5 ≤ 32)
    rw [map_cons, cons_append, decodeLetters, if_neg other, index]
    dsimp only
    rw [BitVec.ofNat_toNat, flatMap_cons, ← append_assoc, ← shifted]
    generalize buffer <<< 5 ||| digit.setWidth 32 = buffer
    split
    next enough =>
      obtain ⟨bytes, rest, short, decoded, same⟩ := ih buffer (by omega : bits + 5 - 8 < 8)
      refine ⟨_ :: bytes, rest, short, by rw [decoded]; rfl, ?_⟩
      have split := low_top buffer (by omega : 8 + (bits + 5 - 8) ≤ 32)
      rw [Nat.add_sub_cancel' enough] at split
      rw [split, append_assoc, same, flatMap_cons, append_assoc]
      exact congrArg (fun byte => low byte 8 ++ _) (setWidth_mask _ 8).symm
    next few => exact ih buffer (by omega)

/-- Every string of bytes is read back, from a text of whole groups of eight letters. -/
theorem base32_round_trip (input : List (BitVec 8)) :
    decodeBase32 (encodeBase32 input) = .ok input ∧
      (encodeBase32 input).length = 8 * ((input.length + 4) / 5) := by
  obtain ⟨digits, more, letters, below, same⟩ := encodeBytes_spec 0 (by decide : 0 < 5) input
  rw [encodeBase32, letters]
  constructor
  · obtain ⟨bytes, rest, short, decoded, read⟩ :=
      decodeLetters_spec 0 (by decide : 0 < 8) digits ((8 - (digits.map letter).length % 8) % 8)
    rw [decodeBase32, decoded, flatMap_low_injective (read.symm.trans same) short (by omega)]
  · have long := congrArg length same
    simp at long ⊢
    omega

end BigQueryEmulator.Semantic
