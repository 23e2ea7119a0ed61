/-
**The shortest decimal reads back.**

A decimal reads as the magnitude that encloses it, and that depends on the number it stands for
only, not on its coefficient and its power of ten. The search for the shortest decimal of a
magnitude looks at such decimals only.

* `Decimal.ReadsAs`: the decimal, as a fraction, is enclosed by the magnitude.
* `BinaryFormat.shortest_readsAs`: the shortest decimal of a positive magnitude reads as it.
* `Decimal.magnitude_of_readsAs`: reading a decimal gives the finite magnitude it reads as.
* `Decimal.magnitude_of_same_shortest`: whatever stands for the same number as the shortest decimal
  of a finite magnitude reads back as that magnitude.
-/

import KeyedRecord.Proofs.Number.Digits
import KeyedRecord.Proofs.Number.Rounding

namespace KeyedRecord

namespace Decimal

/-- The decimal, as a fraction, lies between the middles of the magnitude. -/
def ReadsAs (format : BinaryFormat) (decimal : Decimal) (magnitude : Nat) : Prop :=
  format.Encloses magnitude
    (2 * (decimal.coefficient * 10 ^ decimal.exponent.toNat * 2 ^ format.unitBits))
    (10 ^ (-decimal.exponent).toNat)

/-- The decimals stand for the same number. -/
def Same (first second : Decimal) : Prop :=
  first.coefficient * 10 ^ first.exponent.toNat * 10 ^ (-second.exponent).toNat =
    second.coefficient * 10 ^ second.exponent.toNat * 10 ^ (-first.exponent).toNat

theorem Same.of_eq {first second : Decimal}
    (coefficient : first.coefficient = second.coefficient)
    (exponent : first.exponent = second.exponent) : first.Same second := by
  unfold Same
  rw [coefficient, exponent]

/-- Factors of ten may stand in the coefficient. -/
theorem Same.of_scaled {first second : Decimal} {zeros : Nat}
    (coefficient : second.coefficient = 10 ^ zeros * first.coefficient)
    (exponent : first.exponent = second.exponent + zeros) : first.Same second := by
  have powers : first.exponent.toNat + (-second.exponent).toNat =
      zeros + second.exponent.toNat + (-first.exponent).toNat := by omega
  unfold Same
  rw [coefficient, mul_assoc, ← pow_add, powers]
  ring

/-- What a decimal reads as depends on the number it stands for only. -/
theorem ReadsAs.congr {format : BinaryFormat} {first second : Decimal} {magnitude : Nat}
    (reads : first.ReadsAs format magnitude) (same : first.Same second) :
    second.ReadsAs format magnitude := by
  have positive : ∀ power, 0 < 10 ^ power := fun power => Nat.pow_pos (by decide)
  refine BinaryFormat.Encloses.congr reads (positive _) (positive _) ?_
  unfold Same at same
  calc 2 * (first.coefficient * 10 ^ first.exponent.toNat * 2 ^ format.unitBits) *
        10 ^ (-second.exponent).toNat
      = 2 * 2 ^ format.unitBits * (first.coefficient * 10 ^ first.exponent.toNat *
          10 ^ (-second.exponent).toNat) := by ring
    _ = 2 * (second.coefficient * 10 ^ second.exponent.toNat * 2 ^ format.unitBits) *
          10 ^ (-first.exponent).toNat := by
        rw [same]
        ring

end Decimal

/-! ### The search -/

namespace BinaryFormat

variable {format : BinaryFormat}

/-- The bounds between which a multiple is searched are the middles. -/
theorem encloses_of_reads {magnitude point scale : Nat}
    (reads : (if magnitude % 2 = 0 then
        decide ((format.units (magnitude - 1) + format.units magnitude) * scale ≤ point) &&
        decide (point ≤ (format.units magnitude + format.units (magnitude + 1)) * scale)
      else
        decide ((format.units (magnitude - 1) + format.units magnitude) * scale < point) &&
        decide (point < (format.units magnitude + format.units (magnitude + 1)) * scale)) =
      true) : format.Encloses magnitude point scale := by
  by_cases even : magnitude % 2 = 0
  · rw [if_pos even, Bool.and_eq_true, decide_eq_true_eq, decide_eq_true_eq] at reads
    exact ⟨reads.1, reads.2, fun odd => absurd even (by omega)⟩
  · rw [if_neg even, Bool.and_eq_true, decide_eq_true_eq, decide_eq_true_eq] at reads
    exact .of_lt reads.1 reads.2

/-- A multiple of a power of ten that is found reads as the magnitude. -/
theorem readsAs_of_multiple? {tie : Tie} {magnitude coefficient : Nat} {exponent : Int}
    (found : format.multiple? tie magnitude exponent = some coefficient) :
    Decimal.ReadsAs format ⟨coefficient, exponent⟩ magnitude := by
  have point : 2 * (coefficient * 10 ^ exponent.toNat * 2 ^ format.unitBits) =
      coefficient * (10 ^ exponent.toNat * 2 ^ (format.unitBits + 1)) := by ring
  unfold Decimal.ReadsAs
  rw [point]
  refine encloses_of_reads ?_
  simp only [multiple?, Nat.pow_eq] at found
  split at found
  · cases found
  · rename_i reads _
    cases found
    exact reads
  · rename_i reads
    cases found
    exact reads
  · rename_i lower upper
    split at found
    · cases found
      exact lower
    · split at found
      · cases found
        exact upper
      · split at found
        · cases found
          exact upper
        · cases found
          exact lower

/-- Every decimal that the search gives reads as the magnitude. -/
theorem shortestFrom_readsAs (tie : Tie) {magnitude : Nat} (positive : 0 < magnitude)
    (rest : Nat) : (format.shortestFrom tie magnitude rest).ReadsAs format magnitude := by
  induction rest with
  | zero =>
    have exponents : (-(-(format.unitBits : Int))).toNat = format.unitBits ∧
        (-(format.unitBits : Int)).toNat = 0 := by omega
    have exact : 2 * (format.units magnitude * 5 ^ format.unitBits * 10 ^ 0 *
        2 ^ format.unitBits) = 2 * format.units magnitude * 10 ^ format.unitBits := by
      have tens : 5 ^ format.unitBits * 2 ^ format.unitBits = 10 ^ format.unitBits :=
        (mul_pow 5 2 _).symm
      rw [pow_zero, mul_one, mul_assoc _ (5 ^ _), tens, ← mul_assoc]
    show format.Encloses magnitude (2 * (format.units magnitude * 5 ^ format.unitBits *
      10 ^ (-(format.unitBits : Int)).toNat * 2 ^ format.unitBits))
      (10 ^ (-(-(format.unitBits : Int))).toNat)
    rw [exponents.1, exponents.2, exact]
    exact encloses_exact positive (Nat.pow_pos (by decide))
  | succ rest ih =>
    simp only [shortestFrom]
    split
    · rename_i coefficient found
      exact readsAs_of_multiple? found
    · exact ih

/-- **The shortest decimal of a positive magnitude reads as it.** -/
theorem shortest_readsAs (tie : Tie) {magnitude : Nat} (positive : 0 < magnitude) :
    (format.shortest tie magnitude).ReadsAs format magnitude := by
  simp only [shortest, if_neg positive.ne']
  exact shortestFrom_readsAs tie positive _

end BinaryFormat

/-! ### Reading -/

namespace Decimal

variable {format : BinaryFormat}

/-- A decimal that reads as a positive magnitude is not zero. -/
theorem ReadsAs.coefficient_pos {decimal : Decimal} {magnitude : Nat}
    (reads : decimal.ReadsAs format magnitude) (positive : 0 < magnitude) :
    0 < decimal.coefficient := by
  refine Nat.pos_of_ne_zero fun zero => ?_
  have lowest := reads.lowest
  rw [zero, zero_mul, zero_mul, mul_zero] at lowest
  have below := Nat.mul_pos (Nat.add_pos_right (format.units (magnitude - 1))
    (format.units_pos positive)) (Nat.pow_pos (n := (-decimal.exponent).toNat)
      (by decide : 0 < 10))
  omega

/-- The shortest decimal is zero in one way only. -/
theorem shortest_exponent {tie : Tie} {magnitude : Nat}
    (zero : (format.shortest tie magnitude).coefficient = 0) :
    (format.shortest tie magnitude).exponent = 0 := by
  rcases Nat.eq_zero_or_pos magnitude with rfl | positive
  · rfl
  · exact absurd zero ((BinaryFormat.shortest_readsAs tie positive).coefficient_pos positive).ne'

/-- A decimal that reads as a positive magnitude does not have too many places behind its point. -/
theorem ReadsAs.le_places {decimal : Decimal} {magnitude : Nat}
    (reads : decimal.ReadsAs format magnitude) (positive : 0 < magnitude) :
    -(format.unitBits : Int) ≤ decimal.exponent + (decimalDigits decimal.coefficient).length := by
  refine Int.le_of_not_gt fun small => ?_
  -- The decimal would be less than half of the smallest positive number.
  have noFactor : decimal.exponent.toNat = 0 := by omega
  have far : (decimalDigits decimal.coefficient).length + (format.unitBits + 1) ≤
      (-decimal.exponent).toNat := by omega
  have lowest : 10 ^ (-decimal.exponent).toNat ≤
      2 * (decimal.coefficient * 10 ^ decimal.exponent.toNat * 2 ^ format.unitBits) := by
    refine (Nat.le_mul_of_pos_left _ ?_).trans reads.lowest
    exact Nat.add_pos_right _ (format.units_pos positive)
  have bound : 2 * (decimal.coefficient * 10 ^ decimal.exponent.toNat * 2 ^ format.unitBits) <
      10 ^ (-decimal.exponent).toNat := by
    calc 2 * (decimal.coefficient * 10 ^ decimal.exponent.toNat * 2 ^ format.unitBits)
        = decimal.coefficient * 2 ^ (format.unitBits + 1) := by
          rw [noFactor]
          ring
      _ < 10 ^ (decimalDigits decimal.coefficient).length * 2 ^ (format.unitBits + 1) :=
          Nat.mul_lt_mul_of_pos_right (lt_pow_length_digits _) (Nat.two_pow_pos _)
      _ ≤ 10 ^ (decimalDigits decimal.coefficient).length * 10 ^ (format.unitBits + 1) :=
          Nat.mul_le_mul_left _ (Nat.pow_le_pow_left (by decide) _)
      _ = 10 ^ ((decimalDigits decimal.coefficient).length + (format.unitBits + 1)) :=
          (pow_add _ _ _).symm
      _ ≤ 10 ^ (-decimal.exponent).toNat := Nat.pow_le_pow_right (by decide) far
  exact Nat.not_le_of_lt bound lowest

/-- A decimal that reads as a finite magnitude does not have too many places before its point. -/
theorem ReadsAs.places_le {decimal : Decimal} {magnitude : Nat}
    (reads : decimal.ReadsAs format magnitude) (positive : 0 < magnitude)
    (finite : magnitude < format.infinity)
    (wide : format.units format.infinity < 20 ^ format.unitBits) :
    decimal.exponent + (decimalDigits decimal.coefficient).length ≤ format.unitBits := by
  refine Int.le_of_not_gt fun large => ?_
  -- The decimal would be greater than every finite number.
  have coefficient := pow_length_digits_le (reads.coefficient_pos positive)
  have atLeast : 1 ≤ (decimalDigits decimal.coefficient).length := length_digits_pos _
  have far : format.unitBits + (-decimal.exponent).toNat ≤
      (decimalDigits decimal.coefficient).length - 1 + decimal.exponent.toNat := by omega
  have units : format.units magnitude + format.units (magnitude + 1) <
      2 * 2 ^ format.unitBits * 10 ^ format.unitBits := by
    have first : format.units magnitude ≤ format.units format.infinity :=
      format.units_strictMono.monotone finite.le
    have second : format.units (magnitude + 1) ≤ format.units format.infinity :=
      format.units_strictMono.monotone finite
    have twenty : 2 ^ format.unitBits * 10 ^ format.unitBits = 20 ^ format.unitBits :=
      (mul_pow 2 10 _).symm
    rw [mul_assoc, twenty]
    omega
  have bound : (format.units magnitude + format.units (magnitude + 1)) *
        10 ^ (-decimal.exponent).toNat <
      2 * (decimal.coefficient * 10 ^ decimal.exponent.toNat * 2 ^ format.unitBits) := by
    calc (format.units magnitude + format.units (magnitude + 1)) * 10 ^ (-decimal.exponent).toNat
        < 2 * 2 ^ format.unitBits * 10 ^ format.unitBits * 10 ^ (-decimal.exponent).toNat :=
          Nat.mul_lt_mul_of_pos_right units (Nat.pow_pos (by decide))
      _ = 2 * 2 ^ format.unitBits * 10 ^ (format.unitBits + (-decimal.exponent).toNat) := by
          rw [pow_add, mul_assoc (2 * _)]
      _ ≤ 2 * 2 ^ format.unitBits * 10 ^ ((decimalDigits decimal.coefficient).length - 1 +
            decimal.exponent.toNat) :=
          Nat.mul_le_mul_left _ (Nat.pow_le_pow_right (by decide) far)
      _ = 2 * 2 ^ format.unitBits * (10 ^ ((decimalDigits decimal.coefficient).length - 1) *
            10 ^ decimal.exponent.toNat) := by rw [pow_add]
      _ ≤ 2 * 2 ^ format.unitBits * (decimal.coefficient * 10 ^ decimal.exponent.toNat) :=
          Nat.mul_le_mul_left _ (Nat.mul_le_mul_right _ coefficient)
      _ = _ := by ring
  exact Nat.not_le_of_lt bound reads.highest

/-- **Reading a decimal gives the finite magnitude that it reads as.** -/
theorem magnitude_of_readsAs {decimal : Decimal} {magnitude : Nat}
    (hasFraction : 0 < format.fractionBits)
    (wide : format.units format.infinity < 20 ^ format.unitBits)
    (positive : 0 < magnitude) (finite : magnitude < format.infinity)
    (reads : decimal.ReadsAs format magnitude) : decimal.magnitude format = magnitude := by
  have nonzero := reads.coefficient_pos positive
  have behind := reads.le_places positive
  have before := reads.places_le positive finite wide
  have small : ¬(decimal.coefficient = 0 || decide (decimal.exponent +
      (decimalDigits decimal.coefficient).length < -(format.unitBits : Int))) = true := by
    rw [Bool.or_eq_true, decide_eq_true_eq, decide_eq_true_eq]
    omega
  simp only [Decimal.magnitude, Nat.pow_eq]
  rw [if_neg small, if_neg (Int.not_lt_of_ge before)]
  exact format.round_of_encloses hasFraction (Nat.pow_pos (by decide)) finite reads

/-- The numbers of 64 bits do not reach the cutoff. -/
theorem binary64_wide : binary64.units binary64.infinity < 20 ^ binary64.unitBits := by
  decide +kernel

/-- **What stands for the same number as the shortest decimal of a finite magnitude reads back as
that magnitude.** -/
theorem magnitude_of_same_shortest {tie : Tie} {magnitude : Nat} {decimal : Decimal}
    (finite : magnitude < binary64.infinity)
    (same : (binary64.shortest tie magnitude).Same decimal) :
    decimal.magnitude binary64 = magnitude := by
  rcases Nat.eq_zero_or_pos magnitude with rfl | positive
  · have zero : decimal.coefficient = 0 := by
      unfold Same at same
      simp only [BinaryFormat.shortest, if_true, zero_mul] at same
      have tens : ∀ power, 10 ^ power ≠ 0 := fun power => (Nat.pow_pos (by decide)).ne'
      have scaled := (Nat.mul_eq_zero.mp same.symm).resolve_right (tens _)
      exact (Nat.mul_eq_zero.mp scaled).resolve_right (tens _)
    simp only [Decimal.magnitude, zero, decide_true, Bool.true_or, if_true]
  · exact magnitude_of_readsAs (by decide) binary64_wide positive finite
      ((BinaryFormat.shortest_readsAs tie positive).congr same)

end Decimal

end KeyedRecord
