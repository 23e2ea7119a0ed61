/-
**Binary floating-point numbers.**

A number of a binary format is a sign and a magnitude. Magnitudes count the numbers of the format
from zero upwards, so that they are ordered like the numbers: first the finite ones, then infinity,
then what is no number. Every finite magnitude is a multiple of the smallest positive one, and
`BinaryFormat.units` says which. Everything is computed on natural numbers.

* `BinaryFormat.round`: the magnitude nearest to a fraction, of two equally near ones the even one.
* `Binary.convert`: the same number in another format.
-/

namespace KeyedRecord

/-- A binary format, by the widths of its two fields. -/
structure BinaryFormat where
  exponentBits : Nat
  fractionBits : Nat
deriving DecidableEq, Repr

/-- The format of 64 bits. -/
def binary64 : BinaryFormat := ⟨11, 52⟩

/-- The format of 32 bits. -/
def binary32 : BinaryFormat := ⟨8, 23⟩

namespace BinaryFormat

variable (format : BinaryFormat)

/-- The number of bits of a magnitude. -/
def width : Nat :=
  format.exponentBits + format.fractionBits

/-- The magnitude of infinity. -/
def infinity : Nat :=
  (Nat.pow 2 format.exponentBits - 1) * Nat.pow 2 format.fractionBits

/-- The smallest positive number is one over two to this power. -/
def unitBits : Nat :=
  Nat.pow 2 (format.exponentBits - 1) - 2 + format.fractionBits

/-- A finite magnitude as a multiple of the smallest positive number. -/
def units (magnitude : Nat) : Nat :=
  let exponent := magnitude / Nat.pow 2 format.fractionBits
  let fraction := magnitude % Nat.pow 2 format.fractionBits
  if exponent = 0 then fraction
  else (Nat.pow 2 format.fractionBits + fraction) * Nat.pow 2 (exponent - 1)

end BinaryFormat

/-- The natural number nearest to a fraction, of two equally near ones the even one. -/
def roundHalfEven (numerator denominator : Nat) : Nat :=
  let quotient := numerator / denominator
  let twice := 2 * (numerator % denominator)
  if twice < denominator then quotient
  else if denominator < twice then quotient + 1
  else quotient + quotient % 2

/-- The magnitude nearest to a fraction. What lies beyond the largest finite one is infinity. -/
def BinaryFormat.round (format : BinaryFormat) (numerator denominator : Nat) : Nat :=
  let scaled := numerator * Nat.pow 2 format.unitBits
  let exponent := (scaled / denominator).log2 - format.fractionBits
  let significand := roundHalfEven scaled (denominator * Nat.pow 2 exponent)
  min (exponent * Nat.pow 2 format.fractionBits + significand) format.infinity

/-- Infinity is a magnitude of the format. -/
theorem BinaryFormat.infinity_lt (format : BinaryFormat) :
    format.infinity < Nat.pow 2 format.width := by
  have powers : Nat.pow 2 format.width =
      Nat.pow 2 format.exponentBits * Nat.pow 2 format.fractionBits :=
    Nat.pow_add 2 _ _
  rw [powers]
  exact Nat.mul_lt_mul_of_pos_right (Nat.sub_lt (Nat.two_pow_pos _) Nat.one_pos)
    (Nat.two_pow_pos _)

/-- A number of a binary format. -/
structure Binary (format : BinaryFormat) where
  isNegative : Bool
  magnitude : Nat
  bounded : magnitude < Nat.pow 2 format.width
deriving DecidableEq

/-- The numbers of 64 bits. -/
abbrev Double := Binary binary64

/-- The numbers of 32 bits. -/
abbrev Single := Binary binary32

namespace Binary

variable {format : BinaryFormat}

/-- The number whose sign is above the bits of its magnitude. -/
def ofBits (bits : Nat) : Binary format where
  isNegative := bits.testBit format.width
  magnitude := bits % Nat.pow 2 format.width
  bounded := Nat.mod_lt _ (Nat.two_pow_pos _)

/-- The bits of a number. -/
def toBits (number : Binary format) : Nat :=
  (if number.isNegative then Nat.pow 2 format.width else 0) + number.magnitude

/-- Zero, with a sign. -/
def zero (isNegative : Bool) : Binary format :=
  ⟨isNegative, 0, Nat.two_pow_pos _⟩

/-- Infinity, with a sign. -/
def infinite (isNegative : Bool) : Binary format :=
  ⟨isNegative, format.infinity, format.infinity_lt⟩

/-- Whether the number is finite. -/
def isFinite (number : Binary format) : Bool :=
  number.magnitude < format.infinity

/-- Whether it is no number. -/
def isNaN (number : Binary format) : Bool :=
  format.infinity < number.magnitude

/-- The number nearest to a fraction with a sign. -/
def ofFraction (isNegative : Bool) (numerator denominator : Nat) : Binary format where
  isNegative := isNegative
  magnitude := format.round numerator denominator
  bounded := Nat.lt_of_le_of_lt (Nat.min_le_right _ _) format.infinity_lt

/-- The number nearest to an integer. -/
def ofInt (value : Int) : Binary format :=
  ofFraction (value < 0) value.natAbs 1

/-- What is no number, with the leading bits of another that is none. It is marked as quiet. -/
def ofPayload (isNegative : Bool) (payload : Nat) : Binary format :=
  let quiet := Nat.pow 2 (format.fractionBits - 1)
  ⟨isNegative, (format.infinity + quiet + payload % quiet) % Nat.pow 2 format.width,
    Nat.mod_lt _ (Nat.two_pow_pos _)⟩

/-- The number in another format, rounded to the nearest one there. -/
def convert {target : BinaryFormat} (number : Binary format) : Binary target :=
  if number.isFinite then
    ofFraction number.isNegative (format.units number.magnitude) (Nat.pow 2 format.unitBits)
  else if number.isNaN then
    ofPayload number.isNegative
      ((number.magnitude - format.infinity) * Nat.pow 2 target.fractionBits /
        Nat.pow 2 format.fractionBits)
  else infinite number.isNegative

end Binary

end KeyedRecord
