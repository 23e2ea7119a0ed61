/-
**Faithful numbers, and rounding twice.**

A number is faithful to an exact one if it is that number or, where the format does not represent
it, one of the two consecutive numbers that enclose it. That no number of the format lies between
the two says the same (`Adjoins.isFaithful`), and this survives a second rounding to a narrower
format, whose numbers the wider one represents. Being nearest does not survive it.

* `Binary.Adjoins`: no finite number lies between the number and the exact one.
* `Binary.Adjoins.trans`: rounding first to a wider format and then to a narrower one.
* `Binary.IsFaithful`: the exact number itself, or one of its two neighbours.
* `BinaryFormat.exists_consecutive`: the two consecutive numbers that enclose an exact one.
* `Binary.IsNearest.convert_isFaithful`: the nearest number is still faithful when it is converted.
-/

import KeyedRecord.Proofs.Number.Nearest
import Mathlib.Data.Set.Finite.Lemmas
import Mathlib.Data.Set.Finite.Range

namespace KeyedRecord

/-! ### Nothing between -/

namespace Binary

variable {format : BinaryFormat}

/-- No represented number lies between the finite number and the exact one. -/
structure Adjoins (number : Binary format) (exact : ℚ) : Prop where
  finite : number.isFinite = true
  below : ∀ bound, format.Represents bound → bound ≤ exact → bound ≤ number.toRat
  above : ∀ bound, format.Represents bound → exact ≤ bound → number.toRat ≤ bound

/-- Nothing lies between a number and its nearest one. -/
theorem IsNearest.adjoins {number : Binary format} {exact : ℚ}
    (isNearest : number.IsNearest exact) : number.Adjoins exact := by
  refine ⟨isNearest.finite, ?_, ?_⟩
  · rintro _ ⟨bound, finite, rfl⟩ atMost
    refine le_of_not_gt fun less => ?_
    have middle := (abs_lower_sub_le_iff less).mp (isNearest.nearest bound finite)
    linarith
  · rintro _ ⟨bound, finite, rfl⟩ atLeast
    refine le_of_not_gt fun less => ?_
    have middle := (abs_upper_sub_le_iff less).mp (isNearest.nearest bound finite)
    linarith

/-- What adjoins a represented number is that number. -/
theorem Adjoins.eq_of_represents {number : Binary format} {exact : ℚ}
    (adjoins : number.Adjoins exact) (represents : format.Represents exact) :
    number.toRat = exact :=
  le_antisymm (adjoins.above exact represents le_rfl) (adjoins.below exact represents le_rfl)

/-- What adjoins a number is not beyond what bounds that number. -/
theorem Adjoins.bounded {number : Binary format} {exact bound : ℚ}
    (adjoins : number.Adjoins exact) (represents : format.Represents bound)
    (bounded : |exact| ≤ bound) : |number.toRat| ≤ bound := by
  obtain ⟨atLeast, atMost⟩ := abs_le.mp bounded
  exact abs_le.mpr ⟨adjoins.below _ represents.neg atLeast, adjoins.above _ represents atMost⟩

/-- **Rounding first to a wider format and then to a narrower one leaves nothing between.** -/
theorem Adjoins.trans {source target : BinaryFormat} (within : source.IsWithin target)
    (sourceProper : source.IsProper) (targetProper : target.IsProper) {wide : Binary target}
    {narrow : Binary source} {exact : ℚ} (first : wide.Adjoins exact)
    (second : narrow.Adjoins wide.toRat) : narrow.Adjoins exact := by
  refine ⟨second.finite, fun bound represents atMost => ?_, fun bound represents atLeast => ?_⟩
  · have widened := within.represents sourceProper targetProper represents
    exact second.below bound represents (first.below bound widened atMost)
  · have widened := within.represents sourceProper targetProper represents
    exact second.above bound represents (first.above bound widened atLeast)

end Binary

/-! ### Consecutive numbers -/

namespace BinaryFormat

/-- The format represents both numbers and none between them. -/
structure Consecutive (format : BinaryFormat) (lower upper : ℚ) : Prop where
  lowerRepresented : format.Represents lower
  upperRepresented : format.Represents upper
  ordered : lower < upper
  empty : ∀ between, format.Represents between → ¬(lower < between ∧ between < upper)

variable {format : BinaryFormat}

/-- A format represents finitely many numbers. -/
theorem finite_represented (format : BinaryFormat) :
    {exact : ℚ | format.Represents exact}.Finite := by
  refine (Set.finite_range fun number : Binary format => number.toRat).subset ?_
  rintro _ ⟨number, -, rfl⟩
  exact ⟨number, rfl⟩

/-- **What a format does not represent lies between two consecutive numbers**, unless it is beyond
all of them. -/
theorem exists_consecutive {exact : ℚ} (reached : format.Reaches exact)
    (unrepresented : ¬format.Represents exact) :
    ∃ lower upper, format.Consecutive lower upper ∧ lower < exact ∧ exact < upper := by
  obtain ⟨bound, represents, bounded⟩ := reached
  obtain ⟨atLeast, atMost⟩ := abs_le.mp bounded
  have different : ∀ other, format.Represents other → other ≠ exact :=
    fun other represented same => unrepresented (same ▸ represented)
  obtain ⟨lower, ⟨lowerRepresented, below⟩, greatest⟩ :=
    Set.exists_max_image {other | format.Represents other ∧ other < exact} id
      (format.finite_represented.subset fun _ inside => inside.1)
      ⟨-bound, represents.neg, lt_of_le_of_ne atLeast (different _ represents.neg)⟩
  obtain ⟨upper, ⟨upperRepresented, above⟩, least⟩ :=
    Set.exists_min_image {other | format.Represents other ∧ exact < other} id
      (format.finite_represented.subset fun _ inside => inside.1)
      ⟨bound, represents, lt_of_le_of_ne atMost (different _ represents).symm⟩
  refine ⟨lower, upper, ⟨lowerRepresented, upperRepresented, below.trans above, ?_⟩, below, above⟩
  rintro between represented ⟨greater, less⟩
  rcases lt_or_gt_of_ne (different between represented) with inside | inside
  · exact (greatest between ⟨represented, inside⟩).not_gt greater
  · exact (least between ⟨represented, inside⟩).not_gt less

end BinaryFormat

/-! ### Faithful numbers -/

namespace Binary

variable {format : BinaryFormat}

/-- The number is finite and denotes the exact one or, if the format does not represent that, one
of the two consecutive numbers that enclose it. -/
structure IsFaithful (number : Binary format) (exact : ℚ) : Prop where
  finite : number.isFinite = true
  represented : format.Represents exact → number.toRat = exact
  enclosed : ¬format.Represents exact → ∃ lower upper, format.Consecutive lower upper ∧
    lower < exact ∧ exact < upper ∧ (number.toRat = lower ∨ number.toRat = upper)

/-- **A number is faithful if nothing lies between.** -/
theorem Adjoins.isFaithful {number : Binary format} {exact : ℚ} (adjoins : number.Adjoins exact)
    (reached : format.Reaches exact) : number.IsFaithful exact := by
  refine ⟨adjoins.finite, adjoins.eq_of_represents, fun unrepresented => ?_⟩
  obtain ⟨lower, upper, consecutive, below, above⟩ :=
    BinaryFormat.exists_consecutive reached unrepresented
  refine ⟨lower, upper, consecutive, below, above, ?_⟩
  have atLeast := adjoins.below lower consecutive.lowerRepresented below.le
  have atMost := adjoins.above upper consecutive.upperRepresented above.le
  have empty := consecutive.empty number.toRat ⟨number, adjoins.finite, rfl⟩
  rcases atLeast.eq_or_lt with same | greater
  · exact .inl same.symm
  · exact .inr (atMost.eq_or_lt.resolve_right fun less => empty ⟨greater, less⟩)

/-! ### Rounding twice -/

section Twice

variable {source target : BinaryFormat} (within : source.IsWithin target)
  (sourceProper : source.IsProper) (targetProper : target.IsProper) {wide : Binary target}
  {exact : ℚ}

include within sourceProper targetProper

/-- The second rounding is to the number that is nearest to the result of the first one. -/
theorem IsNearest.convert_isNearest (isNearest : wide.IsNearest exact)
    (reached : source.Reaches exact) : (wide.convert : Binary source).IsNearest wide.toRat := by
  obtain ⟨bound, represents, bounded⟩ := reached
  have widened := within.represents sourceProper targetProper represents
  exact Binary.convert_isNearest targetProper sourceProper isNearest.finite
    ⟨bound, represents, isNearest.adjoins.bounded widened bounded⟩

/-- **The nearest number is still faithful when it is converted** to a narrower format. -/
theorem IsNearest.convert_isFaithful (isNearest : wide.IsNearest exact)
    (reached : source.Reaches exact) : (wide.convert : Binary source).IsFaithful exact := by
  have second := isNearest.convert_isNearest within sourceProper targetProper reached
  exact (isNearest.adjoins.trans within sourceProper targetProper second.adjoins).isFaithful
    reached

/-- **It is still nearest if the first rounding is exact.** -/
theorem IsNearest.convert_of_represents (isNearest : wide.IsNearest exact)
    (reached : source.Reaches exact) (represents : target.Represents exact) :
    (wide.convert : Binary source).IsNearest exact := by
  have second := isNearest.convert_isNearest within sourceProper targetProper reached
  rwa [isNearest.adjoins.eq_of_represents represents] at second

end Twice

end Binary

end KeyedRecord
