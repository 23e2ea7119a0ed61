/-
**The nearest number of a format.**

A finite number is nearest to a rational number if no other finite number is nearer, and if it is
the even one where another is equally near. Rounding gives the nearest number, unless the fraction
is beyond all finite numbers. Of two numbers that are equally near one is odd (`exists_between`);
so the nearest numbers are ordered like the numbers they are nearest to.

* `Binary.IsNearest`: the number is nearest, ties to even.
* `Binary.ofFraction_isNearest`: rounding a fraction gives the nearest number.
* `Binary.ofInt_isNearest`, `Binary.convert_isNearest`: so do integers and other formats.
* `Binary.IsNearest.mono`: what is nearest to a greater number is not less.
-/

import KeyedRecord.Proofs.Number.Rational
import Mathlib.Algebra.Order.Ring.Abs

namespace KeyedRecord

/-! ### Distances -/

/-- The upper one of two numbers is no farther than the lower one from what is not below their
middle. -/
theorem abs_upper_sub_le_iff {lower upper exact : ℚ} (less : lower < upper) :
    |upper - exact| ≤ |lower - exact| ↔ lower + upper ≤ 2 * exact := by
  have product : (lower - exact) ^ 2 - (upper - exact) ^ 2 =
      (upper - lower) * (2 * exact - (lower + upper)) := by ring
  rw [← sq_le_sq, ← sub_nonneg, product, mul_nonneg_iff_of_pos_left (sub_pos.mpr less),
    sub_nonneg]

/-- The lower one of two numbers is no farther than the upper one from what is not above their
middle. -/
theorem abs_lower_sub_le_iff {lower upper exact : ℚ} (less : lower < upper) :
    |lower - exact| ≤ |upper - exact| ↔ 2 * exact ≤ lower + upper := by
  have product : (upper - exact) ^ 2 - (lower - exact) ^ 2 =
      (upper - lower) * (lower + upper - 2 * exact) := by ring
  rw [← sq_le_sq, ← sub_nonneg, product, mul_nonneg_iff_of_pos_left (sub_pos.mpr less),
    sub_nonneg]

/-! ### Nearest numbers -/

namespace Binary

variable {format : BinaryFormat}

/-- No finite number is nearer to the exact one, and of two that are equally near this is the even
one. -/
structure IsNearest (number : Binary format) (exact : ℚ) : Prop where
  finite : number.isFinite = true
  nearest : ∀ other : Binary format, other.isFinite = true →
    |number.toRat - exact| ≤ |other.toRat - exact|
  even : ∀ other : Binary format, other.isFinite = true → other.toRat ≠ number.toRat →
    |other.toRat - exact| = |number.toRat - exact| → number.magnitude % 2 = 0

/-- What is nearest to the opposite is the opposite. -/
theorem IsNearest.opposite {number : Binary format} {exact : ℚ}
    (isNearest : number.IsNearest exact) : number.opposite.IsNearest (-exact) := by
  refine ⟨isNearest.finite, fun other finite => ?_, fun other finite different tie => ?_⟩
  · rw [← other.opposite_opposite, abs_toRat_opposite_sub, abs_toRat_opposite_sub]
    exact isNearest.nearest other.opposite finite
  · rw [← other.opposite_opposite, abs_toRat_opposite_sub, abs_toRat_opposite_sub] at tie
    refine isNearest.even other.opposite finite (fun same => different ?_) tie
    rw [← other.opposite_opposite, toRat_opposite, same, toRat_opposite]

/-- No number lies between what a magnitude denotes and what its neighbours do. -/
theorem toRat_cases (proper : format.IsProper) (magnitude : Nat) (other : Binary format) :
    other.toRat ≤ format.toRat (magnitude - 1) ∨ other.toRat = format.toRat magnitude ∨
      format.toRat (magnitude + 1) ≤ other.toRat := by
  have monotone := (BinaryFormat.toRat_strictMono proper).monotone
  unfold toRat withSign
  split
  · have negative := neg_nonpos.mpr (BinaryFormat.toRat_nonneg proper other.magnitude)
    exact .inl (negative.trans (BinaryFormat.toRat_nonneg proper _))
  · rcases lt_trichotomy other.magnitude magnitude with less | rfl | greater
    · exact .inl (monotone (Nat.le_sub_one_of_lt less))
    · exact .inr (.inl rfl)
    · exact .inr (.inr (monotone greater))

end Binary

/-! ### Rounding -/

namespace BinaryFormat

variable {format : BinaryFormat}

/-- Whether the sum of two magnitudes is at most twice a fraction can be seen from their units. -/
theorem toRat_add_le_iff (proper : format.IsProper) {denominator : Nat}
    (positive : 0 < denominator) (lower upper numerator : Nat) :
    format.toRat lower + format.toRat upper ≤ 2 * (numerator / denominator : ℚ) ↔
      (format.units lower + format.units upper) * denominator ≤
        2 * (numerator * 2 ^ format.unitBits) := by
  rw [toRat_eq_units proper, toRat_eq_units proper, ← add_div, mul_div_assoc',
    div_le_div_iff₀ (by positivity) (Nat.cast_pos.mpr positive), mul_assoc 2]
  norm_cast

/-- Whether the sum of two magnitudes is at least twice a fraction can be seen from their units. -/
theorem le_toRat_add_iff (proper : format.IsProper) {denominator : Nat}
    (positive : 0 < denominator) (lower upper numerator : Nat) :
    2 * (numerator / denominator : ℚ) ≤ format.toRat lower + format.toRat upper ↔
      2 * (numerator * 2 ^ format.unitBits) ≤
        (format.units lower + format.units upper) * denominator := by
  rw [toRat_eq_units proper, toRat_eq_units proper, ← add_div, mul_div_assoc',
    div_le_div_iff₀ (Nat.cast_pos.mpr positive) (by positivity), mul_assoc 2]
  norm_cast

/-- The middles that enclose a fraction, as rational numbers. -/
theorem Encloses.middles (proper : format.IsProper) {magnitude numerator denominator : Nat}
    (positive : 0 < denominator)
    (encloses : format.Encloses magnitude (2 * (numerator * 2 ^ format.unitBits)) denominator) :
    format.toRat (magnitude - 1) + format.toRat magnitude ≤ 2 * (numerator / denominator : ℚ) ∧
      2 * (numerator / denominator : ℚ) ≤ format.toRat magnitude + format.toRat (magnitude + 1) ∧
      (magnitude % 2 = 1 →
        format.toRat (magnitude - 1) + format.toRat magnitude < 2 * (numerator / denominator : ℚ) ∧
        2 * (numerator / denominator : ℚ) <
          format.toRat magnitude + format.toRat (magnitude + 1)) := by
  have below := fun lower upper => toRat_add_le_iff proper positive lower upper numerator
  have above := fun lower upper => le_toRat_add_iff proper positive lower upper numerator
  refine ⟨(below _ _).mpr encloses.lowest, (above _ _).mpr encloses.highest, fun odd => ⟨?_, ?_⟩⟩
  · exact (lt_iff_lt_of_le_iff_le (above _ _)).mpr (encloses.inside odd).1
  · exact (lt_iff_lt_of_le_iff_le (below _ _)).mpr (encloses.inside odd).2

/-- **The finite magnitude that encloses a fraction is nearest to it.** -/
theorem Encloses.isNearest (proper : format.IsProper) {magnitude numerator denominator : Nat}
    (positive : 0 < denominator) (finite : magnitude < format.infinity)
    (encloses : format.Encloses magnitude (2 * (numerator * 2 ^ format.unitBits)) denominator) :
    (Binary.ofMagnitude magnitude finite).IsNearest (numerator / denominator) := by
  obtain ⟨lowest, highest, inside⟩ := encloses.middles proper positive
  have strict := toRat_strictMono proper
  have before : format.toRat (magnitude - 1) ≤ format.toRat magnitude :=
    strict.monotone (Nat.sub_le _ _)
  have after : format.toRat magnitude < format.toRat (magnitude + 1) :=
    strict (Nat.lt_succ_self _)
  refine ⟨Binary.isFinite_ofMagnitude finite, fun other _ => ?_, fun other _ different tie => ?_⟩
  · rcases eq_or_ne other.toRat (format.toRat magnitude) with same | different
    · rw [same, Binary.toRat_ofMagnitude]
    rcases Binary.toRat_cases proper magnitude other with less | same | greater
    · exact (abs_upper_sub_le_iff (lt_of_le_of_ne (less.trans before) different)).mpr
        (by linarith)
    · exact absurd same different
    · exact (abs_lower_sub_le_iff (after.trans_le greater)).mpr (by linarith)
  · -- An odd magnitude does not reach its middles, so that nothing else is equally near.
    refine (Nat.mod_two_eq_zero_or_one magnitude).resolve_right fun odd => ?_
    obtain ⟨lowestStrict, highestStrict⟩ := inside odd
    rw [Binary.toRat_ofMagnitude] at different tie
    rcases Binary.toRat_cases proper magnitude other with less | same | greater
    · have middle := (abs_lower_sub_le_iff (lt_of_le_of_ne (less.trans before) different)).mp tie.le
      linarith
    · exact different same
    · have middle := (abs_upper_sub_le_iff (after.trans_le greater)).mp tie.le
      linarith

/-- The rational number is not beyond all finite numbers. -/
def Reaches (format : BinaryFormat) (exact : ℚ) : Prop :=
  ∃ bound, format.Represents bound ∧ |exact| ≤ bound

@[simp]
theorem reaches_withSign {isNegative : Bool} {absolute : ℚ} :
    format.Reaches (withSign isNegative absolute) ↔ format.Reaches absolute := by
  simp only [Reaches, abs_withSign]

/-- A fraction that is not beyond all finite numbers is rounded to a finite magnitude, which
encloses it. -/
theorem encloses_round (proper : format.IsProper) {numerator denominator : Nat}
    (positive : 0 < denominator) (reached : format.Reaches (numerator / denominator)) :
    format.round numerator denominator < format.infinity ∧
      format.Encloses (format.round numerator denominator)
        (2 * (numerator * 2 ^ format.unitBits)) denominator := by
  have encloses := format.encloses_nearest proper.hasFraction (numerator * 2 ^ format.unitBits)
    positive
  have lowest := (encloses.middles proper positive).1
  rw [round_eq_min]
  generalize format.nearest (numerator * 2 ^ format.unitBits) denominator = magnitude at *
  obtain ⟨_, ⟨bound, finite, rfl⟩, atMost⟩ := reached
  have fraction : (numerator / denominator : ℚ) ≤ format.toRat bound.magnitude := by
    rw [← Binary.abs_toRat proper]
    exact (le_abs_self _).trans (atMost.trans (le_abs_self _))
  have bounded : magnitude ≤ bound.magnitude := by
    refine Nat.le_of_not_lt fun greater => ?_
    have strict := toRat_strictMono proper greater
    have previous := (toRat_strictMono proper).monotone (Nat.le_sub_one_of_lt greater)
    linarith
  have below := bounded.trans_lt (Binary.magnitude_lt_infinity finite)
  rw [Nat.min_eq_left below.le]
  exact ⟨below, encloses⟩

end BinaryFormat

namespace Binary

variable {format : BinaryFormat}

/-- **Rounding a fraction gives the nearest number**, unless it is beyond all finite numbers. -/
theorem ofFraction_isNearest (proper : format.IsProper) {isNegative : Bool}
    {numerator denominator : Nat} (positive : 0 < denominator)
    (reached : format.Reaches (withSign isNegative (numerator / denominator))) :
    (ofFraction isNegative numerator denominator : Binary format).IsNearest
      (withSign isNegative (numerator / denominator)) := by
  obtain ⟨finite, encloses⟩ :=
    BinaryFormat.encloses_round proper positive (BinaryFormat.reaches_withSign.mp reached)
  have unsigned := encloses.isNearest proper positive finite
  cases isNegative with
  | false => exact unsigned
  | true => exact unsigned.opposite

/-- **An integer becomes the nearest number**, unless it is beyond all finite numbers. -/
theorem ofInt_isNearest (proper : format.IsProper) {value : Int}
    (reached : format.Reaches value) : (ofInt value : Binary format).IsNearest value := by
  have fraction : (value : ℚ) = withSign (value < 0) (value.natAbs / (1 : Nat)) := by
    rw [Nat.cast_one, div_one, Nat.cast_natAbs, Int.cast_abs]
    simpa using (withSign_abs value).symm
  rw [fraction] at reached ⊢
  exact ofFraction_isNearest proper Nat.one_pos reached

/-- **A finite number becomes the nearest number of another format**, unless it is beyond all
finite numbers there. -/
theorem convert_isNearest {source target : BinaryFormat} (sourceProper : source.IsProper)
    (targetProper : target.IsProper) {number : Binary source} (finite : number.isFinite = true)
    (reached : target.Reaches number.toRat) :
    (number.convert : Binary target).IsNearest number.toRat := by
  have fraction : number.toRat = withSign number.isNegative
      (source.units number.magnitude / (2 ^ source.unitBits : Nat)) := by
    rw [toRat, BinaryFormat.toRat_eq_units sourceProper, Nat.cast_pow, Nat.cast_ofNat]
  rw [fraction] at reached ⊢
  rw [convert, if_pos finite]
  exact ofFraction_isNearest targetProper (Nat.two_pow_pos _) reached

/-! ### Order -/

/-- Between two different numbers that are both even there is a third one, if the upper one is
positive. -/
theorem exists_between_of_pos (proper : format.IsProper) (lower upper : Binary format)
    (finite : upper.isFinite = true) (lowerEven : lower.magnitude % 2 = 0)
    (upperEven : upper.magnitude % 2 = 0) (less : lower.toRat < upper.toRat)
    (positive : 0 < upper.toRat) :
    ∃ between : Binary format, between.isFinite = true ∧ lower.toRat < between.toRat ∧
      between.toRat < upper.toRat := by
  have strict := BinaryFormat.toRat_strictMono proper
  have upperPlain : upper.toRat = format.toRat upper.magnitude := by
    rw [← abs_toRat proper, abs_of_pos positive]
  rw [upperPlain] at less positive ⊢
  have nonzero : 0 < upper.magnitude := by
    rw [← format.toRat_zero] at positive
    exact strict.lt_iff_lt.mp positive
  have bounded : upper.magnitude - 1 < format.infinity :=
    (Nat.sub_le _ _).trans_lt (magnitude_lt_infinity finite)
  refine ⟨ofMagnitude (upper.magnitude - 1) bounded, isFinite_ofMagnitude bounded, ?_,
    strict (Nat.sub_lt nonzero Nat.one_pos)⟩
  rw [toRat_ofMagnitude]
  rcases toRat_cases proper upper.magnitude lower with below | same | above
  · refine lt_of_le_of_ne below fun same => ?_
    -- The number before an even one is odd.
    have magnitudes : format.toRat lower.magnitude = format.toRat (upper.magnitude - 1) := by
      rw [← abs_toRat proper, same, abs_of_nonneg (BinaryFormat.toRat_nonneg proper _)]
    have equal := strict.injective magnitudes
    omega
  · exact absurd same less.ne
  · exact absurd (above.trans_lt less) (strict (Nat.lt_succ_self _)).not_gt

/-- **Between two different numbers that are both even there is a third one.** -/
theorem exists_between (proper : format.IsProper) {lower upper : Binary format}
    (lowerFinite : lower.isFinite = true) (upperFinite : upper.isFinite = true)
    (lowerEven : lower.magnitude % 2 = 0) (upperEven : upper.magnitude % 2 = 0)
    (less : lower.toRat < upper.toRat) :
    ∃ between : Binary format, between.isFinite = true ∧ lower.toRat < between.toRat ∧
      between.toRat < upper.toRat := by
  rcases lt_or_ge 0 upper.toRat with positive | nonpositive
  · exact exists_between_of_pos proper lower upper upperFinite lowerEven upperEven less positive
  · have opposite : upper.opposite.toRat < lower.opposite.toRat := by
      simpa using less
    obtain ⟨between, finite, above, below⟩ :=
      exists_between_of_pos proper upper.opposite lower.opposite lowerFinite upperEven lowerEven
        opposite (by simpa using less.trans_le nonpositive)
    rw [toRat_opposite] at above below
    exact ⟨between.opposite, finite, by simpa using neg_lt_neg below,
      by simpa using neg_lt_neg above⟩

/-- **What is nearest to a greater number is not less.** -/
theorem IsNearest.mono (proper : format.IsProper) {first second : Binary format} {x y : ℚ}
    (nearestFirst : first.IsNearest x) (nearestSecond : second.IsNearest y) (ordered : x ≤ y) :
    first.toRat ≤ second.toRat := by
  refine le_of_not_gt fun less => ?_
  -- Otherwise both numbers would be equally near to one exact number, in the middle between them.
  have above := (abs_upper_sub_le_iff less).mp (nearestFirst.nearest second nearestSecond.finite)
  have below := (abs_lower_sub_le_iff less).mp (nearestSecond.nearest first nearestFirst.finite)
  obtain rfl : x = y := by linarith
  have tie : |first.toRat - x| = |second.toRat - x| :=
    le_antisymm (nearestFirst.nearest second nearestSecond.finite)
      (nearestSecond.nearest first nearestFirst.finite)
  obtain ⟨between, finite, greater, smaller⟩ := exists_between proper nearestSecond.finite
    nearestFirst.finite
    (nearestSecond.even first nearestFirst.finite less.ne' tie)
    (nearestFirst.even second nearestSecond.finite less.ne tie.symm) less
  have nearer := (abs_upper_sub_le_iff smaller).mp (nearestFirst.nearest between finite)
  linarith

end Binary

end KeyedRecord
