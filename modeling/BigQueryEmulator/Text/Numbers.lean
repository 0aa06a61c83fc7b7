import Mathlib

/-! Decimal texts of integers. -/
namespace BigQueryEmulator.Text
variable (n : Int)

/-- The decimal text of an integer: digits, after a minus sign where it is negative. -/
theorem toString_int_cases :
    (∃ m : Nat, n = m ∧ (toString n).toList = Nat.toDigits 10 m) ∨
      ∃ m : Nat, n = -m ∧ (toString n).toList = '-' :: Nat.toDigits 10 m := by
  cases n with
  | ofNat m =>
    refine .inl ⟨m, rfl, ?_⟩
    exact Nat.toList_repr
  | negSucc m =>
    refine .inr ⟨m + 1, rfl, ?_⟩
    change ("-" ++ Nat.repr (m + 1)).toList = _
    rw [String.toList_append, Nat.toList_repr]
    rfl

theorem toString_int_ne_nil : (toString n).toList ≠ [] := by
  rcases toString_int_cases n with ⟨m, -, text⟩ | ⟨m, -, text⟩
  · rw [text]
    exact Nat.toDigits_ne_nil
  · rw [text]
    exact List.cons_ne_nil _ _

theorem toString_int_ne_empty : toString n ≠ "" :=
  fun empty => toString_int_ne_nil n (by rw [empty]; rfl)

theorem isDigit_of_mem_decimal (within : c ∈ Nat.toDigits 10 m) : c.isDigit = true :=
  Nat.isDigit_of_mem_toDigits (by decide) (by decide) within

theorem toString_int_chars (within : c ∈ (toString n).toList) :
    c.isDigit = true ∨ c = '-' := by
  rcases toString_int_cases n with ⟨m, -, text⟩ | ⟨m, -, text⟩
  · rw [text] at within
    exact .inl (isDigit_of_mem_decimal within)
  · rw [text] at within
    rcases List.mem_cons.mp within with sign | digit
    · exact .inr sign
    · exact .inl (isDigit_of_mem_decimal digit)

/-- Digits with zeros before them, up to the width. -/
def padded (width n : Nat) : List Char :=
  .replicate (width - (Nat.toDigits 10 n).length) '0' ++ Nat.toDigits 10 n

section
variable {width m : Nat}

theorem isDigit_of_mem_padded (within : c ∈ padded width m) : c.isDigit = true := by
  rcases List.mem_append.mp within with zero | digit
  · rw [List.eq_of_mem_replicate zero]
    decide
  · exact isDigit_of_mem_decimal digit

theorem padded_ne_nil : padded width m ≠ [] :=
  List.append_ne_nil_of_right_ne_nil _ Nat.toDigits_ne_nil

theorem length_padded (fits : m < 10 ^ (width + 1)) : (padded (width + 1) m).length = width + 1 := by
  have short := (Nat.length_toDigits_le_iff (by decide) (Nat.succ_pos width)).mpr fits
  rw [padded, List.length_append, List.length_replicate]
  omega

theorem ofDigitChars_padded (width m : Nat) : Nat.ofDigitChars 10 (padded width m) 0 = m := by
  rw [padded, Nat.ofDigitChars_append, Nat.ofDigitChars_replicate_zero, Nat.mul_zero,
    Nat.ofDigitChars_ten_toDigits]

end

end BigQueryEmulator.Text
