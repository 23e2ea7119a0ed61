/-
**Decimal digits.**

The digits of a natural number stand for that number, there are as many as the number needs, and
the first of them is a zero for zero alone.

* `decimalValue_digits`: the number that the digits of a number stand for.
* `decimalValue_zeros_append`, `decimalValue_append_zeros`: zeros before and behind digits.
* `lt_pow_length_digits`, `pow_length_digits_le`: how many digits a number has.
* `digits_leading`: a leading zero stands alone.
-/

import KeyedRecord.Number.Decimal
import KeyedRecord.Text.Digit
import Mathlib.Tactic.Linarith

namespace KeyedRecord

open Text (decimalValue)

/-! ### What digits stand for -/

@[simp]
theorem decimalValue_digits (n : Nat) : decimalValue (decimalDigits n) = n :=
  Nat.ofDigitChars_ten_toDigits

/-- Digits behind other digits push them up. -/
theorem decimalValue_append (first second : List Char) :
    decimalValue (first ++ second) =
      10 ^ second.length * decimalValue first + decimalValue second := by
  have joined : decimalValue (first ++ second) =
      Nat.ofDigitChars 10 second (Nat.ofDigitChars 10 first 0) := Nat.ofDigitChars_append 0
  rw [joined]
  exact Nat.ofDigitChars_eq_ofDigitChars_zero

theorem decimalValue_zeros (count : Nat) : decimalValue (List.replicate count '0') = 0 := by
  have zeros : decimalValue (List.replicate count '0') = 10 ^ count * 0 :=
    Nat.ofDigitChars_replicate_zero
  rw [zeros, Nat.mul_zero]

/-- Zeros before digits change nothing. -/
theorem decimalValue_zeros_append (count : Nat) (digits : List Char) :
    decimalValue (List.replicate count '0' ++ digits) = decimalValue digits := by
  rw [decimalValue_append, decimalValue_zeros, Nat.mul_zero, Nat.zero_add]

/-- Every zero behind digits is a factor of ten. -/
theorem decimalValue_append_zeros (digits : List Char) (count : Nat) :
    decimalValue (digits ++ List.replicate count '0') = 10 ^ count * decimalValue digits := by
  rw [decimalValue_append, decimalValue_zeros, List.length_replicate, Nat.add_zero]

/-- Digits stand for less than the power of ten of their length. -/
theorem decimalValue_lt {digits : List Char} (proper : ∀ c ∈ digits, c.isDigit = true) :
    decimalValue digits < 10 ^ digits.length := by
  induction digits with
  | nil => exact Nat.one_pos
  | cons c rest ih =>
    have shorter := ih fun other member => proper other (List.mem_cons_of_mem c member)
    have digit : decimalValue [c] ≤ 9 := by
      have isDigit := proper c List.mem_cons_self
      have atMost : c.toNat ≤ 57 := by
        simp only [Char.isDigit, Bool.and_eq_true, decide_eq_true_eq] at isDigit
        exact isDigit.2
      show 10 * 0 + (c.toNat - 48) ≤ 9
      omega
    have parts : decimalValue (c :: rest) =
        10 ^ rest.length * decimalValue [c] + decimalValue rest := decimalValue_append [c] rest
    have scaled : 10 ^ rest.length * decimalValue [c] ≤ 10 ^ rest.length * 9 :=
      Nat.mul_le_mul_left _ digit
    rw [parts, List.length_cons, Nat.pow_succ]
    omega

/-! ### The digits of a number -/

theorem digits_ne_nil (n : Nat) : decimalDigits n ≠ [] :=
  Nat.toDigits_ne_nil

theorem length_digits_pos (n : Nat) : 0 < (decimalDigits n).length :=
  Nat.length_toDigits_pos

theorem isDigit_of_mem_digits {n : Nat} {c : Char} (member : c ∈ decimalDigits n) :
    c.isDigit = true :=
  Nat.isDigit_of_mem_toDigits (by decide) (Nat.le_refl 10) member

/-- A number is less than the power of ten of its length. -/
theorem lt_pow_length_digits (n : Nat) : n < 10 ^ (decimalDigits n).length :=
  (Nat.length_toDigits_le_iff (by decide) (length_digits_pos n)).mp (Nat.le_refl _)

/-- A positive number reaches the power of ten of its first digit. -/
theorem pow_length_digits_le {n : Nat} (positive : 0 < n) :
    10 ^ ((decimalDigits n).length - 1) ≤ n := by
  rcases Nat.eq_zero_or_pos ((decimalDigits n).length - 1) with single | more
  · rw [single, Nat.pow_zero]
    exact positive
  · refine Nat.le_of_not_lt fun less => ?_
    have shorter : (decimalDigits n).length ≤ (decimalDigits n).length - 1 :=
      (Nat.length_toDigits_le_iff (by decide) more).mpr less
    omega

/-- The first digit of a positive number is no zero. -/
theorem digits_head_ne_zero {n : Nat} (positive : 0 < n) : (decimalDigits n).head? ≠ some '0' := by
  intro head
  -- The other digits alone would stand for the number, and they are too few.
  obtain ⟨rest, digits⟩ := List.head?_eq_some_iff.mp head
  have length : (decimalDigits n).length = rest.length + 1 := by rw [digits, List.length_cons]
  have value : decimalValue rest = n := by
    rw [← decimalValue_zeros_append 1 rest, ← decimalValue_digits n, digits]
    rfl
  have less : decimalValue rest < 10 ^ rest.length := by
    refine decimalValue_lt fun c member => isDigit_of_mem_digits (n := n) ?_
    rw [digits]
    exact List.mem_cons_of_mem _ member
  have reached := pow_length_digits_le positive
  rw [length, Nat.add_sub_cancel] at reached
  omega

/-- A zero stands first only in zero, where it stands alone. -/
theorem digits_leading (n : Nat) :
    (decimalDigits n).length = 1 ∨ (decimalDigits n).head? ≠ some '0' := by
  rcases Nat.eq_zero_or_pos n with rfl | positive
  · exact .inl rfl
  · exact .inr (digits_head_ne_zero positive)

end KeyedRecord
