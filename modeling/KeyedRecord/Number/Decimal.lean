/-
**Decimals.**

A decimal is a coefficient times a power of ten. Reading one as a binary number rounds it once, to
the nearest (`Decimal.toBinary`). Writing a binary number takes the coarsest power of ten that has
a multiple which reads back as the number; that gives the fewest digits. Of several multiples the
nearest one is taken (`BinaryFormat.shortest`).

* `DecimalLayout`: where the point stands and when an exponent is written.
* `DecimalLayout.text`: the text of a finite number.
-/

import KeyedRecord.Number.Binary

namespace KeyedRecord

/-- A coefficient times a power of ten. -/
structure Decimal where
  coefficient : Nat
  exponent : Int
deriving DecidableEq, Repr

/-- The digits of a natural number, first digit first. -/
def decimalDigits (n : Nat) : List Char :=
  Nat.toDigits 10 n

/-- The magnitude nearest to a decimal. A decimal with so many places before or behind its point
that it is above every finite number, or below half of the smallest positive one, is not written
out. -/
def Decimal.magnitude (format : BinaryFormat) (decimal : Decimal) : Nat :=
  let places := decimal.exponent + (decimalDigits decimal.coefficient).length
  if decimal.coefficient = 0 || places < -format.unitBits then 0
  else if format.unitBits < places then format.infinity
  else
    format.round (decimal.coefficient * Nat.pow 10 decimal.exponent.toNat)
      (Nat.pow 10 (-decimal.exponent).toNat)

/-- A magnitude that is rounded is at most infinity. -/
theorem Decimal.magnitude_le (format : BinaryFormat) (decimal : Decimal) :
    decimal.magnitude format ≤ format.infinity := by
  simp only [Decimal.magnitude]
  split
  · exact Nat.zero_le _
  · split
    · exact Nat.le_refl _
    · exact Nat.min_le_right _ _

/-- The number nearest to a decimal with a sign. -/
def Decimal.toBinary {format : BinaryFormat} (isNegative : Bool) (decimal : Decimal) :
    Binary format where
  isNegative := isNegative
  magnitude := decimal.magnitude format
  bounded := Nat.lt_of_le_of_lt (decimal.magnitude_le format) format.infinity_lt

/-- Which of two equally near neighbours is taken. -/
inductive Tie
  | even
  | up
deriving DecidableEq, Repr

/-- Whether the upper of two equally near neighbours is taken. -/
def Tie.takesUpper (tie : Tie) (lower : Nat) : Bool :=
  match tie with
  | .even => lower % 2 == 1
  | .up => true

namespace BinaryFormat

variable (format : BinaryFormat) (tie : Tie)

/-- The multiple of a power of ten that reads back as a positive magnitude and is nearest to it.
Distances are counted in halves of the smallest positive number. -/
def multiple? (magnitude : Nat) (exponent : Int) : Option Nat :=
  let scale := Nat.pow 10 (-exponent).toNat
  let step := Nat.pow 10 exponent.toNat * Nat.pow 2 (format.unitBits + 1)
  let value := 2 * format.units magnitude * scale
  let lowest := (format.units (magnitude - 1) + format.units magnitude) * scale
  let highest := (format.units magnitude + format.units (magnitude + 1)) * scale
  let reads (point : Nat) : Bool :=
    if magnitude % 2 = 0 then lowest ≤ point && point ≤ highest
    else lowest < point && point < highest
  let lower := value / step
  let below := lower * step
  let above := (lower + 1) * step
  match reads below, reads above with
  | false, false => none
  | true, false => some lower
  | false, true => some (lower + 1)
  | true, true =>
    if value - below < above - value then some lower
    else if above - value < value - below then some (lower + 1)
    else if tie.takesUpper lower then some (lower + 1)
    else some lower

/-- The search for the coarsest power of ten, from the power `rest` above the smallest one that
can be needed. -/
def shortestFrom (magnitude : Nat) : Nat → Decimal
  | 0 => ⟨format.units magnitude * Nat.pow 5 format.unitBits, -format.unitBits⟩
  | rest + 1 =>
    let exponent : Int := (rest + 1 : Nat) - (format.unitBits : Int)
    match format.multiple? tie magnitude exponent with
    | some coefficient => ⟨coefficient, exponent⟩
    | none => shortestFrom magnitude rest

/-- The decimal with the fewest digits that reads back as the magnitude, and the nearest of
those. -/
def shortest (magnitude : Nat) : Decimal :=
  if magnitude = 0 then ⟨0, 0⟩
  else
    let whole := format.units (magnitude + 1) / Nat.pow 2 format.unitBits
    format.shortestFrom tie magnitude (format.unitBits + whole.log2 + 1)

end BinaryFormat

/-- How numbers are laid out. -/
structure DecimalLayout where
  /-- The least and the greatest power of the first digit that are written without an exponent;
  if absent, all are. -/
  positional : Option (Int × Int)
  /-- Whether a digit stands after the point even where none is needed. -/
  showsPoint : Bool
  /-- Which of two equally near decimals is written. -/
  tie : Tie

namespace DecimalLayout

variable (layout : DecimalLayout)

/-- A fraction after its point. -/
def fraction (digits : List Char) : List Char :=
  if digits.isEmpty then (if layout.showsPoint then ['.', '0'] else []) else '.' :: digits

/-- Digits without an exponent. The power is that of the first digit. -/
def withoutExponent (digits : List Char) (power : Int) : List Char :=
  if power < 0 then
    '0' :: '.' :: (List.replicate (-power - 1).toNat '0' ++ digits)
  else
    let places := power.toNat + 1
    digits.take places ++ List.replicate (places - digits.length) '0' ++
      layout.fraction (digits.drop places)

/-- Digits with an exponent, which always has a sign. -/
def withExponent (digits : List Char) (power : Int) : List Char :=
  let sign := if power < 0 then '-' else '+'
  let fraction := if digits.length ≤ 1 then [] else '.' :: digits.drop 1
  digits.take 1 ++ fraction ++ ('e' :: sign :: decimalDigits power.natAbs)

/-- The text of a decimal. -/
def ofDecimal (decimal : Decimal) : List Char :=
  let digits := decimalDigits decimal.coefficient
  let power := decimal.exponent + digits.length - 1
  let isPositional :=
    match layout.positional with
    | none => true
    | some (least, greatest) => least ≤ power && power ≤ greatest
  if isPositional then layout.withoutExponent digits power
  else withExponent digits power

/-- The text of a finite number. -/
def text {format : BinaryFormat} (number : Binary format) : String :=
  let magnitude := layout.ofDecimal (format.shortest layout.tie number.magnitude)
  String.ofList (if number.isNegative then '-' :: magnitude else magnitude)

end DecimalLayout

end KeyedRecord
