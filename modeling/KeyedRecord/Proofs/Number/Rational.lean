/-
**The rational numbers of a format.**

The bits of a finite number denote a rational number: a sign, a significand that has a leading one
unless the exponent is the least, and a power of two. It is a whole number of smallest positive
numbers, so that greater magnitudes denote greater numbers.

* `Binary.toRat`: the rational number that the bits of a finite number denote.
* `BinaryFormat.toRat_eq_units`: the same, counted in smallest positive numbers.
* `BinaryFormat.Represents`: the rational numbers that finite numbers of the format denote.
* `BinaryFormat.represents_of_short`: short significands with an exponent in range are represented.
* `BinaryFormat.IsWithin.represents`: a wider format represents all that a narrower one does.
-/

import KeyedRecord.Proofs.Number.Rounding
import Mathlib.Data.Finite.Prod
import Mathlib.Data.Rat.Cast.Order
import Mathlib.Tactic.FieldSimp
import Mathlib.Tactic.Positivity

namespace KeyedRecord

/-! ### Signs -/

/-- A rational number with a sign before it. -/
def withSign (isNegative : Bool) (absolute : ℚ) : ℚ :=
  if isNegative then -absolute else absolute

@[simp]
theorem abs_withSign (isNegative : Bool) (absolute : ℚ) :
    |withSign isNegative absolute| = |absolute| := by
  cases isNegative <;> simp [withSign]

@[simp]
theorem withSign_not (isNegative : Bool) (absolute : ℚ) :
    withSign (!isNegative) absolute = -withSign isNegative absolute := by
  cases isNegative <;> simp [withSign]

theorem withSign_abs (value : ℚ) : withSign (value < 0) |value| = value := by
  unfold withSign
  by_cases negative : value < 0
  · rw [if_pos (decide_eq_true negative), abs_of_neg negative, neg_neg]
  · rw [if_neg (by simpa using negative), abs_of_nonneg (not_lt.mp negative)]

/-! ### Magnitudes -/

namespace BinaryFormat

variable (format : BinaryFormat)

/-- The format has fractions, and an exponent between that of zero and that of infinity. -/
structure IsProper : Prop where
  hasFraction : 0 < format.fractionBits
  hasExponent : 1 < format.exponentBits

theorem binary64_isProper : binary64.IsProper :=
  ⟨by decide, by decide⟩

theorem binary32_isProper : binary32.IsProper :=
  ⟨by decide, by decide⟩

/-- By how much the field of an exponent exceeds the exponent. -/
def bias : Int :=
  2 ^ (format.exponentBits - 1) - 1

/-- The rational number that the two fields of a finite magnitude denote. With the least exponent
the significand has no leading one. -/
def toRat (magnitude : Nat) : ℚ :=
  let exponent := magnitude / 2 ^ format.fractionBits
  let fraction : ℚ := (magnitude % 2 ^ format.fractionBits : Nat) / 2 ^ format.fractionBits
  if exponent = 0 then fraction * 2 ^ (1 - format.bias)
  else (1 + fraction) * 2 ^ (exponent - format.bias)

variable {format}

/-- The powers of two that significands are multiplied with, in smallest positive numbers. -/
theorem IsProper.two_zpow (proper : format.IsProper) (exponent : Nat) :
    (2 : ℚ) ^ ((exponent : Int) + 1 - format.bias) =
      2 ^ exponent * 2 ^ format.fractionBits / 2 ^ format.unitBits := by
  have two : 2 ^ 1 ≤ 2 ^ (format.exponentBits - 1) :=
    Nat.pow_le_pow_right Nat.two_pos (Nat.le_sub_one_of_lt proper.hasExponent)
  have unitBits : (format.unitBits : Int) = format.bias - 1 + format.fractionBits := by
    have power : ((2 ^ (format.exponentBits - 1) : Nat) : Int) = 2 ^ (format.exponentBits - 1) :=
      Nat.cast_pow 2 _
    simp only [BinaryFormat.unitBits, bias, Nat.pow_eq]
    omega
  rw [eq_div_iff (by positivity), ← pow_add, ← zpow_natCast, ← zpow_natCast,
    ← zpow_add₀ two_ne_zero]
  congr 1
  push_cast
  omega

/-- **A magnitude denotes its units**, counted in smallest positive numbers. -/
theorem toRat_eq_units (proper : format.IsProper) (magnitude : Nat) :
    format.toRat magnitude = format.units magnitude / 2 ^ format.unitBits := by
  simp only [toRat, units, Nat.pow_eq]
  generalize magnitude % 2 ^ format.fractionBits = fraction
  rcases Nat.eq_zero_or_pos (magnitude / 2 ^ format.fractionBits) with zero | positive
  · have power := proper.two_zpow 0
    rw [Nat.cast_zero, zero_add, pow_zero, one_mul] at power
    rw [if_pos zero, if_pos zero, power]
    field_simp
  · obtain ⟨exponent, next⟩ := Nat.exists_eq_add_of_le' positive
    rw [next, if_neg (Nat.succ_ne_zero _), if_neg (Nat.succ_ne_zero _), Nat.add_sub_cancel]
    push_cast
    rw [proper.two_zpow exponent]
    field_simp

/-- Greater magnitudes denote greater numbers. -/
theorem toRat_strictMono (proper : format.IsProper) : StrictMono format.toRat := by
  intro lower upper less
  rw [toRat_eq_units proper, toRat_eq_units proper]
  exact div_lt_div_of_pos_right (Nat.cast_lt.mpr (format.units_strictMono less)) (by positivity)

@[simp]
theorem toRat_zero (format : BinaryFormat) : format.toRat 0 = 0 := by
  simp [toRat]

theorem toRat_nonneg (proper : format.IsProper) (magnitude : Nat) :
    0 ≤ format.toRat magnitude := by
  rw [← format.toRat_zero]
  exact (toRat_strictMono proper).monotone (Nat.zero_le magnitude)

end BinaryFormat

/-! ### Numbers -/

namespace Binary

variable {format : BinaryFormat}

/-- The rational number that the bits of a finite number denote. -/
def toRat (number : Binary format) : ℚ :=
  withSign number.isNegative (format.toRat number.magnitude)

/-- The number with the other sign. -/
def opposite (number : Binary format) : Binary format :=
  { number with isNegative := !number.isNegative }

@[simp]
theorem opposite_opposite (number : Binary format) : number.opposite.opposite = number := by
  simp [opposite]

@[simp]
theorem toRat_opposite (number : Binary format) : number.opposite.toRat = -number.toRat := by
  simp [toRat, opposite]

/-- Opposite numbers are equally far from opposite numbers. -/
theorem abs_toRat_opposite_sub (number : Binary format) (exact : ℚ) :
    |number.opposite.toRat - -exact| = |number.toRat - exact| := by
  rw [toRat_opposite, neg_sub_neg, abs_sub_comm]

/-- The number of a finite magnitude that has no sign. -/
def ofMagnitude (magnitude : Nat) (finite : magnitude < format.infinity) : Binary format :=
  ⟨false, magnitude, finite.trans format.infinity_lt⟩

@[simp]
theorem toRat_ofMagnitude {magnitude : Nat} (finite : magnitude < format.infinity) :
    (ofMagnitude magnitude finite).toRat = format.toRat magnitude :=
  rfl

@[simp]
theorem isFinite_ofMagnitude {magnitude : Nat} (finite : magnitude < format.infinity) :
    (ofMagnitude magnitude finite).isFinite = true :=
  decide_eq_true finite

theorem magnitude_lt_infinity {number : Binary format} (finite : number.isFinite = true) :
    number.magnitude < format.infinity :=
  of_decide_eq_true finite

/-- Without its sign a number denotes what its magnitude does. -/
theorem abs_toRat (proper : format.IsProper) (number : Binary format) :
    |number.toRat| = format.toRat number.magnitude := by
  rw [toRat, abs_withSign, abs_of_nonneg (BinaryFormat.toRat_nonneg proper _)]

/-- Minus one and a half, and the smallest positive number of 32 bits. -/
example : (Binary.ofBits 0xbff8000000000000 : Double).toRat = -3 / 2 ∧
    (Binary.ofBits 0x00000001 : Single).toRat = 1 / 2 ^ 149 := by
  decide +kernel

/-- There are finitely many numbers of a format. -/
instance finite : Finite (Binary format) :=
  Finite.of_injective
    (fun number : Binary format =>
      (number.isNegative, (⟨number.magnitude, number.bounded⟩ : Fin (Nat.pow 2 format.width))))
    (by
      rintro ⟨sign, magnitude, bounded⟩ ⟨sign', magnitude', bounded'⟩ equal
      simp_all)

end Binary

/-! ### Represented numbers -/

namespace BinaryFormat

/-- A finite number of the format denotes the rational number. -/
def Represents (format : BinaryFormat) (exact : ℚ) : Prop :=
  ∃ number : Binary format, number.isFinite = true ∧ number.toRat = exact

variable {format : BinaryFormat}

theorem Represents.neg {exact : ℚ} (represents : format.Represents exact) :
    format.Represents (-exact) := by
  obtain ⟨number, finite, rfl⟩ := represents
  exact ⟨number.opposite, finite, number.toRat_opposite⟩

theorem Represents.withSign {exact : ℚ} (represents : format.Represents exact)
    (isNegative : Bool) : format.Represents (withSign isNegative exact) := by
  cases isNegative with
  | false => exact represents
  | true => exact represents.neg

/-- **Short significands with an exponent in range are represented.** -/
theorem represents_of_short (proper : format.IsProper) {significand exponent : Nat}
    (short : significand < 2 ^ (format.fractionBits + 1))
    (inRange : exponent + format.unitBits + 2 < 2 ^ format.exponentBits) :
    format.Represents (significand * 2 ^ exponent) := by
  obtain ⟨magnitude, finite, units⟩ :=
    format.exists_units_eq significand (exponent + format.unitBits) short inRange
  refine ⟨.ofMagnitude magnitude finite, Binary.isFinite_ofMagnitude finite, ?_⟩
  rw [Binary.toRat_ofMagnitude, toRat_eq_units proper, units]
  push_cast
  rw [pow_add]
  field_simp

/-- Integers whose digits fit into a significand are represented, and so is the next power of
two. -/
theorem represents_int (proper : format.IsProper) {value : Int}
    (short : |value| ≤ 2 ^ (format.fractionBits + 1))
    (inRange : format.fractionBits + 1 + format.unitBits + 2 < 2 ^ format.exponentBits) :
    format.Represents value := by
  have magnitude : format.Represents ((|value| : Int) : ℚ) := by
    obtain ⟨natural, same⟩ := Int.eq_ofNat_of_zero_le (abs_nonneg value)
    rw [same] at short ⊢
    rcases Nat.lt_or_eq_of_le (by exact_mod_cast short) with less | equal
    · have short : format.Represents (natural * 2 ^ 0) :=
        represents_of_short proper less (by omega)
      simpa using short
    · have power : format.Represents ((1 : Nat) * 2 ^ (format.fractionBits + 1)) :=
        represents_of_short proper (Nat.one_lt_two_pow (Nat.succ_ne_zero _)) inRange
      rw [equal]
      simpa using power
  rw [← withSign_abs value, ← Int.cast_abs]
  exact magnitude.withSign _

/-- **A wider format represents all that a narrower one does.** -/
theorem IsWithin.represents {source target : BinaryFormat} (within : source.IsWithin target)
    (sourceProper : source.IsProper) (targetProper : target.IsProper) {exact : ℚ}
    (represents : source.Represents exact) : target.Represents exact := by
  obtain ⟨number, finite, rfl⟩ := represents
  obtain ⟨wide, wideFinite, same⟩ := within.exists_units_eq (Binary.magnitude_lt_infinity finite)
  have equal : target.toRat wide = source.toRat number.magnitude := by
    rw [toRat_eq_units targetProper, toRat_eq_units sourceProper,
      div_eq_div_iff (by positivity) (by positivity)]
    exact_mod_cast same
  have magnitude : target.Represents (source.toRat number.magnitude) :=
    ⟨.ofMagnitude wide wideFinite, Binary.isFinite_ofMagnitude wideFinite, equal⟩
  exact magnitude.withSign number.isNegative

end BinaryFormat

end KeyedRecord
