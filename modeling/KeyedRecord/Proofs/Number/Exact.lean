/-
**Exact conversions of binary numbers.**

A finite magnitude is subnormal, and then it is its own number of units, or it is an exponent with
a significand of full length (`BinaryFormat.magnitude_cases`). In both cases rounding a fraction
that is exactly the number of a magnitude gives that magnitude.

* `BinaryFormat.round_of_exact`: rounding keeps what the format can hold.
* `BinaryFormat.exists_units_eq`: what the format can hold.
* `Binary.convert_convert`: a number that goes through a wider format comes back.
* `Binary.convert_isNaN`: what is no number stays none, with its sign.
-/

import KeyedRecord.Number.Binary
import Mathlib.Tactic.Linarith
import Mathlib.Tactic.Ring

namespace KeyedRecord

namespace BinaryFormat

variable (format : BinaryFormat)

/-! ### Magnitudes and their units -/

/-- A subnormal magnitude is its own number of units. -/
theorem units_of_subnormal {magnitude : Nat} (small : magnitude < 2 ^ format.fractionBits) :
    format.units magnitude = magnitude := by
  simp only [units, Nat.pow_eq, Nat.div_eq_of_lt small, Nat.mod_eq_of_lt small, if_true]

/-- A significand of full length, with an exponent, stands for that many units. -/
theorem units_of_normal (exponent : Nat) {significand : Nat}
    (lower : 2 ^ format.fractionBits ≤ significand)
    (upper : significand < 2 ^ (format.fractionBits + 1)) :
    format.units (exponent * 2 ^ format.fractionBits + significand) =
      significand * 2 ^ exponent := by
  obtain ⟨fraction, rfl⟩ := Nat.exists_eq_add_of_le lower
  have small : fraction < 2 ^ format.fractionBits := by
    rw [pow_succ] at upper
    omega
  have arranged : exponent * 2 ^ format.fractionBits + (2 ^ format.fractionBits + fraction) =
      fraction + 2 ^ format.fractionBits * (exponent + 1) := by ring
  simp only [units, Nat.pow_eq]
  rw [arranged, Nat.add_mul_div_left _ _ (Nat.two_pow_pos _), Nat.add_mul_mod_self_left,
    Nat.div_eq_of_lt small, Nat.mod_eq_of_lt small, Nat.zero_add, if_neg (Nat.succ_ne_zero _),
    Nat.add_sub_cancel]

/-- A magnitude is subnormal, or an exponent with a significand of full length. -/
theorem magnitude_cases (magnitude : Nat) :
    magnitude < 2 ^ format.fractionBits ∨
      ∃ exponent significand, 2 ^ format.fractionBits ≤ significand ∧
        significand < 2 ^ (format.fractionBits + 1) ∧
        magnitude = exponent * 2 ^ format.fractionBits + significand := by
  rcases Nat.lt_or_ge magnitude (2 ^ format.fractionBits) with small | large
  · exact .inl small
  have fraction := Nat.mod_lt magnitude (Nat.two_pow_pos format.fractionBits)
  refine .inr ⟨magnitude / 2 ^ format.fractionBits - 1,
    2 ^ format.fractionBits + magnitude % 2 ^ format.fractionBits, Nat.le_add_right _ _, ?_, ?_⟩
  · rw [pow_succ]
    omega
  · have positive : 1 ≤ magnitude / 2 ^ format.fractionBits :=
      (Nat.one_le_div_iff (Nat.two_pow_pos _)).mpr large
    have parts := Nat.div_add_mod' magnitude (2 ^ format.fractionBits)
    obtain ⟨exponent, next⟩ := Nat.exists_eq_add_of_le' positive
    rw [next] at parts ⊢
    rw [Nat.add_sub_cancel]
    linarith

/-- An exponent whose magnitudes are finite is less than the greatest by two. -/
theorem exponent_add_two_lt {exponent significand : Nat}
    (lower : 2 ^ format.fractionBits ≤ significand)
    (finite : exponent * 2 ^ format.fractionBits + significand < format.infinity) :
    exponent + 2 < 2 ^ format.exponentBits := by
  have below : (exponent + 1) * 2 ^ format.fractionBits <
      (2 ^ format.exponentBits - 1) * 2 ^ format.fractionBits := by
    rw [add_mul, one_mul]
    exact lt_of_le_of_lt (Nat.add_le_add_left lower _) finite
  have exponents := Nat.lt_of_mul_lt_mul_right below
  omega

end BinaryFormat

/-! ### Rounding -/

/-- A multiple of the denominator is rounded to what it is a multiple by. -/
theorem roundHalfEven_mul (quotient : Nat) {denominator : Nat} (positive : 0 < denominator) :
    roundHalfEven (quotient * denominator) denominator = quotient := by
  simp only [roundHalfEven, Nat.mul_mod_left, Nat.mul_div_cancel _ positive, Nat.mul_zero,
    if_pos positive]

namespace BinaryFormat

variable (format : BinaryFormat)

/-- **Rounding keeps what the format can hold**: a fraction that is exactly the number of a finite
magnitude is rounded to that magnitude. -/
theorem round_of_exact {numerator denominator magnitude : Nat} (positive : 0 < denominator)
    (finite : magnitude < format.infinity)
    (exact : numerator * 2 ^ format.unitBits = format.units magnitude * denominator) :
    format.round numerator denominator = magnitude := by
  simp only [round, Nat.pow_eq]
  rw [exact, Nat.mul_div_cancel _ positive]
  rcases format.magnitude_cases magnitude with
    small | ⟨exponent, significand, lower, upper, rfl⟩
  · have noExponent : magnitude.log2 - format.fractionBits = 0 := by
      rcases Nat.eq_zero_or_pos magnitude with rfl | nonzero
      · rw [Nat.log2_zero, Nat.zero_sub]
      · exact Nat.sub_eq_zero_of_le ((Nat.log2_lt nonzero.ne').mpr small).le
    rw [format.units_of_subnormal small, noExponent, pow_zero, mul_one,
      roundHalfEven_mul _ positive, zero_mul, zero_add]
    exact min_eq_left finite.le
  · have exponents : (significand * 2 ^ exponent).log2 - format.fractionBits = exponent := by
      have nonzero : significand * 2 ^ exponent ≠ 0 :=
        Nat.mul_ne_zero ((Nat.two_pow_pos _).trans_le lower).ne' (Nat.two_pow_pos _).ne'
      have length : (significand * 2 ^ exponent).log2 = format.fractionBits + exponent := by
        refine (Nat.log2_eq_iff nonzero).mpr ⟨?_, ?_⟩
        · rw [pow_add]
          exact Nat.mul_le_mul_right _ lower
        · rw [Nat.add_right_comm, pow_add _ _ exponent]
          exact Nat.mul_lt_mul_of_pos_right upper (Nat.two_pow_pos _)
      rw [length, Nat.add_sub_cancel_left]
    rw [format.units_of_normal exponent lower upper, exponents, mul_assoc,
      mul_comm (2 ^ exponent) denominator,
      roundHalfEven_mul _ (Nat.mul_pos positive (Nat.two_pow_pos _))]
    exact min_eq_left finite.le

/-- What the format can hold: a significand that is not too long, with an exponent in range. -/
theorem exists_units_eq (significand exponent : Nat)
    (short : significand < 2 ^ (format.fractionBits + 1))
    (inRange : exponent + 2 < 2 ^ format.exponentBits) :
    ∃ magnitude < format.infinity, format.units magnitude = significand * 2 ^ exponent := by
  have finite : ∀ scale, scale ≤ exponent → ∀ number < 2 ^ (format.fractionBits + 1),
      scale * 2 ^ format.fractionBits + number < format.infinity := by
    intro scale atMost number bounded
    have next : (scale + 2) * 2 ^ format.fractionBits ≤
        (2 ^ format.exponentBits - 1) * 2 ^ format.fractionBits :=
      Nat.mul_le_mul_right _ (by omega)
    refine lt_of_lt_of_le ?_ next
    rw [add_mul, mul_comm 2, ← pow_succ]
    exact Nat.add_lt_add_left bounded _
  -- A short significand is doubled until it has full length or no exponent is left.
  induction exponent generalizing significand with
  | zero =>
    have bounded := finite 0 (Nat.le_refl 0) significand short
    rw [zero_mul, zero_add] at bounded
    refine ⟨significand, bounded, ?_⟩
    rw [pow_zero, mul_one]
    rcases Nat.lt_or_ge significand (2 ^ format.fractionBits) with small | large
    · exact format.units_of_subnormal small
    · simpa using format.units_of_normal 0 large short
  | succ exponent ih =>
    rcases Nat.lt_or_ge significand (2 ^ format.fractionBits) with small | large
    · have doubled : 2 * significand < 2 ^ (format.fractionBits + 1) := by
        rw [pow_succ]
        omega
      obtain ⟨magnitude, bounded, exact⟩ := ih (2 * significand) doubled (by omega)
        fun scale atMost => finite scale (atMost.trans (Nat.le_succ exponent))
      refine ⟨magnitude, bounded, ?_⟩
      rw [exact, pow_succ]
      ring
    · exact ⟨_, finite _ (Nat.le_refl _) significand short, format.units_of_normal _ large short⟩

/-! ### Wider formats -/

/-- The target can hold every finite number of the source. -/
structure IsWithin (source target : BinaryFormat) : Prop where
  fractions : source.fractionBits ≤ target.fractionBits
  unitBits : source.unitBits ≤ target.unitBits
  proper : 2 < 2 ^ source.exponentBits
  exponents :
    2 ^ source.exponentBits + (target.unitBits - source.unitBits) ≤ 2 ^ target.exponentBits

theorem binary32_isWithin_binary64 : IsWithin binary32 binary64 :=
  ⟨by decide, by decide, by decide, by decide⟩

/-- A finite number of the source is the number of a finite magnitude of the target. -/
theorem IsWithin.exists_units_eq {source target : BinaryFormat} (within : source.IsWithin target)
    {magnitude : Nat} (finite : magnitude < source.infinity) :
    ∃ wide < target.infinity,
      target.units wide * 2 ^ source.unitBits = source.units magnitude * 2 ^ target.unitBits := by
  have longer : 2 ^ (source.fractionBits + 1) ≤ 2 ^ (target.fractionBits + 1) :=
    Nat.pow_le_pow_right Nat.two_pos (Nat.succ_le_succ within.fractions)
  have exponents := within.exponents
  have parts : ∃ significand exponent, significand < 2 ^ (source.fractionBits + 1) ∧
      exponent + 2 < 2 ^ source.exponentBits ∧
      source.units magnitude = significand * 2 ^ exponent := by
    rcases source.magnitude_cases magnitude with
      small | ⟨exponent, significand, lower, upper, rfl⟩
    · refine ⟨magnitude, 0, small.trans_le (Nat.pow_le_pow_right Nat.two_pos (Nat.le_succ _)),
        within.proper, ?_⟩
      rw [source.units_of_subnormal small, pow_zero, mul_one]
    · exact ⟨significand, exponent, upper, source.exponent_add_two_lt lower finite,
        source.units_of_normal exponent lower upper⟩
  obtain ⟨significand, exponent, short, inRange, exact⟩ := parts
  obtain ⟨wide, bounded, units⟩ := target.exists_units_eq significand
    (exponent + (target.unitBits - source.unitBits)) (short.trans_le longer) (by omega)
  refine ⟨wide, bounded, ?_⟩
  rw [units, exact, mul_assoc, mul_assoc, ← pow_add, ← pow_add, Nat.add_assoc,
    Nat.sub_add_cancel within.unitBits]

end BinaryFormat

namespace Binary

variable {source target : BinaryFormat}

/-- **A number that goes through a wider format comes back.** -/
theorem convert_convert (within : source.IsWithin target) (number : Binary source)
    (isNumber : number.isNaN = false) :
    (number.convert : Binary target).convert = number := by
  obtain ⟨isNegative, magnitude, bounded⟩ := number
  rcases Nat.lt_or_ge magnitude source.infinity with finite | infinite
  · obtain ⟨wide, wideFinite, exact⟩ := within.exists_units_eq finite
    have widened : target.round (source.units magnitude) (2 ^ source.unitBits) = wide :=
      target.round_of_exact (Nat.two_pow_pos _) wideFinite exact.symm
    have narrowed : source.round (target.units wide) (2 ^ target.unitBits) = magnitude :=
      source.round_of_exact (Nat.two_pow_pos _) finite exact
    simp only [convert, isFinite, decide_eq_true finite, if_true, ofFraction, Nat.pow_eq, widened,
      decide_eq_true wideFinite, narrowed]
  · have atInfinity : magnitude = source.infinity :=
      Nat.le_antisymm (Nat.le_of_not_lt (of_decide_eq_false isNumber)) infinite
    subst atInfinity
    simp [convert, isFinite, isNaN, Binary.infinite]

/-- **What is no number stays none**, with its sign, in a format with a fraction. -/
theorem convert_isNaN (hasFraction : 0 < target.fractionBits) {number : Binary source}
    (isNaN : number.isNaN = true) :
    (number.convert : Binary target).isNaN = true ∧
      (number.convert : Binary target).isNegative = number.isNegative := by
  have notFinite : number.isFinite = false :=
    decide_eq_false (Nat.lt_asymm (of_decide_eq_true isNaN))
  have converted : (number.convert : Binary target) = ofPayload number.isNegative
      ((number.magnitude - source.infinity) * 2 ^ target.fractionBits /
        2 ^ source.fractionBits) := by
    simp only [convert, notFinite, isNaN, if_true, Bool.false_eq_true, if_false, Nat.pow_eq]
  rw [converted]
  refine ⟨decide_eq_true ?_, rfl⟩
  simp only [ofPayload, Nat.pow_eq]
  generalize ((number.magnitude - source.infinity) * 2 ^ target.fractionBits /
    2 ^ source.fractionBits) = payload
  have quiet := Nat.two_pow_pos (target.fractionBits - 1)
  have remainder := Nat.mod_lt payload quiet
  have halves : 2 ^ target.fractionBits = 2 * 2 ^ (target.fractionBits - 1) := by
    rw [← pow_succ', Nat.sub_add_cancel hasFraction]
  have width : target.infinity + 2 ^ target.fractionBits = 2 ^ target.width := by
    simp only [BinaryFormat.infinity, BinaryFormat.width, Nat.pow_eq]
    rw [pow_add, ← Nat.succ_mul, Nat.succ_eq_add_one, Nat.sub_add_cancel (Nat.two_pow_pos _)]
  rw [Nat.mod_eq_of_lt (by omega)]
  omega

end Binary

end KeyedRecord
