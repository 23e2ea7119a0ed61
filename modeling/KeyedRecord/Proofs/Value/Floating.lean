/-
**Integers that are read as floating-point numbers.**

An integer of 64 bits is read as the nearest number of 64 bits, and as a number of 32 bits by
rounding that one again. None is beyond the numbers of 32 bits, so that both are faithful
(`Binary.IsNearest.convert_isFaithful`). Up to two to the power of 53 the first rounding is exact,
and the second one gives the nearest number.

* `BinaryFormat.reaches_int64`: integers of 64 bits are not beyond the numbers of a format.
* `MemberType.integers_read_faithfully`: both readings of every integer, and their order.
-/

import KeyedRecord.Proofs.Number.Faithful
import KeyedRecord.Value.Conversion

namespace KeyedRecord

/-- Integers of 64 bits are not beyond the numbers of a format with enough exponents. -/
theorem BinaryFormat.reaches_int64 {format : BinaryFormat} (proper : format.IsProper)
    (inRange : 63 + format.unitBits + 2 < 2 ^ format.exponentBits) (number : Int64) :
    format.Reaches number.toInt := by
  have bound : format.Represents ((1 : Nat) * 2 ^ 63) :=
    represents_of_short proper (Nat.one_lt_two_pow (Nat.succ_ne_zero _)) inRange
  refine ⟨_, bound, ?_⟩
  have atLeast := number.le_toInt
  have atMost := number.toInt_lt
  rw [Nat.cast_one, one_mul, abs_le]
  constructor
  · exact_mod_cast atLeast
  · exact_mod_cast atMost.le

theorem binary64_reaches_int64 (number : Int64) : binary64.Reaches number.toInt :=
  BinaryFormat.reaches_int64 BinaryFormat.binary64_isProper (by decide) number

theorem binary32_reaches_int64 (number : Int64) : binary32.Reaches number.toInt :=
  BinaryFormat.reaches_int64 BinaryFormat.binary32_isProper (by decide) number

/-- An integer of 64 bits becomes the nearest number of 64 bits. -/
theorem Double.ofInt_isNearest (number : Int64) :
    (Binary.ofInt number.toInt : Double).IsNearest number.toInt :=
  Binary.ofInt_isNearest BinaryFormat.binary64_isProper (binary64_reaches_int64 number)

/-- **Integers are read faithfully as floating-point numbers.** Every integer is read as a number
of 64 bits and as one of 32 bits, both finite: the integer itself where the format represents it,
and one of the two consecutive numbers that enclose it otherwise. Up to two to the power of 53 the
number of 32 bits is the nearest one. Greater integers are read as numbers that are not less. -/
theorem MemberType.integers_read_faithfully :
    (∀ number : Int64, ∃ (wide : Double) (narrow : Single),
      (MemberType.scalar .double).ofValue (.integer number) = .ok wide ∧
      (MemberType.scalar .single).ofValue (.integer number) = .ok narrow ∧
      wide.IsFaithful number.toInt ∧ narrow.IsFaithful number.toInt ∧
      (|number.toInt| ≤ 2 ^ 53 → narrow.IsNearest number.toInt)) ∧
    ∀ first second : Int64, first.toInt ≤ second.toInt →
      ∃ (wide wide' : Double) (narrow narrow' : Single),
        (MemberType.scalar .double).ofValue (.integer first) = .ok wide ∧
        (MemberType.scalar .double).ofValue (.integer second) = .ok wide' ∧
        (MemberType.scalar .single).ofValue (.integer first) = .ok narrow ∧
        (MemberType.scalar .single).ofValue (.integer second) = .ok narrow' ∧
        wide.toRat ≤ wide'.toRat ∧ narrow.toRat ≤ narrow'.toRat := by
  have within := BinaryFormat.binary32_isWithin_binary64
  have proper32 := BinaryFormat.binary32_isProper
  have proper64 := BinaryFormat.binary64_isProper
  refine ⟨fun number => ?_, fun first second ordered => ?_⟩
  · have isNearest := Double.ofInt_isNearest number
    have reached := binary32_reaches_int64 number
    refine ⟨_, _, rfl, rfl, isNearest.adjoins.isFaithful (binary64_reaches_int64 number),
      isNearest.convert_isFaithful within proper32 proper64 reached, fun short => ?_⟩
    exact isNearest.convert_of_represents within proper32 proper64 reached
      (BinaryFormat.represents_int proper64 short (by decide))
  · have nearestFirst := Double.ofInt_isNearest first
    have nearestSecond := Double.ofInt_isNearest second
    have wideOrdered := nearestFirst.mono proper64 nearestSecond (Int.cast_le.mpr ordered)
    refine ⟨_, _, _, _, rfl, rfl, rfl, rfl, wideOrdered, ?_⟩
    exact (nearestFirst.convert_isNearest within proper32 proper64
      (binary32_reaches_int64 first)).mono proper32
      (nearestSecond.convert_isNearest within proper32 proper64 (binary32_reaches_int64 second))
      wideOrdered

/-- The last integer before the bound becomes the bound. Far beyond it, the middle between two
numbers of 32 bits and the integer after that middle are still in order. -/
theorem MemberType.integers_read_faithfully_samples :
    (|(9007199254740991 : Int64).toInt| ≤ 2 ^ 53 ∧
      (MemberType.scalar .single).ofValue (.integer 9007199254740991) =
        .ok (Binary.ofBits 0x5a000000 : Single) ∧
      (Binary.ofBits 0x5a000000 : Single).IsNearest (9007199254740991 : Int64).toInt) ∧
    (1152921573326323712 : Int64).toInt ≤ (1152921573326323713 : Int64).toInt ∧
    ∃ (wide wide' : Double) (narrow narrow' : Single),
      (MemberType.scalar .double).ofValue (.integer 1152921573326323712) = .ok wide ∧
      (MemberType.scalar .double).ofValue (.integer 1152921573326323713) = .ok wide' ∧
      (MemberType.scalar .single).ofValue (.integer 1152921573326323712) = .ok narrow ∧
      (MemberType.scalar .single).ofValue (.integer 1152921573326323713) = .ok narrow' ∧
      wide.toRat ≤ wide'.toRat ∧ narrow.toRat ≤ narrow'.toRat := by
  have short : |(9007199254740991 : Int64).toInt| ≤ 2 ^ 53 := by decide
  have rounded : (Binary.ofInt (9007199254740991 : Int64).toInt : Double).convert =
      (Binary.ofBits 0x5a000000 : Single) := by decide +kernel
  have evaluated : (MemberType.scalar .single).ofValue (.integer 9007199254740991) =
      .ok (Binary.ofBits 0x5a000000 : Single) := congrArg Except.ok rounded
  have ordered : (1152921573326323712 : Int64).toInt ≤ (1152921573326323713 : Int64).toInt := by
    decide
  obtain ⟨_, narrow, -, read, -, -, isNearest⟩ :=
    MemberType.integers_read_faithfully.1 9007199254740991
  obtain rfl : Binary.ofBits 0x5a000000 = narrow := Except.ok.inj (evaluated.symm.trans read)
  exact ⟨⟨short, evaluated, isNearest short⟩, ordered,
    MemberType.integers_read_faithfully.2 _ _ ordered⟩

/-- After the middle the nearest number of 32 bits is the upper one, but rounding twice gives the
lower one. -/
example :
    (Binary.ofInt 1152921573326323713 : Double).convert = (Binary.ofBits 0x5d800000 : Single) ∧
    (Binary.ofInt 1152921573326323713 : Single) = Binary.ofBits 0x5d800001 := by
  decide +kernel

end KeyedRecord
