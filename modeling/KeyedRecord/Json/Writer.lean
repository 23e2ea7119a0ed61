/-
**JSON texts of values.**

No blanks are written, and fields stand in the order of their names. Bytes are an array of numbers.
A floating-point number always shows that it is one, by a point or an exponent; what is not finite
is written as `null`.

* `Json.write`: the JSON text of a value.
-/

import KeyedRecord.Json.Text
import KeyedRecord.Number.Decimal
import KeyedRecord.Value.Basic

namespace KeyedRecord.Json

/-- Numbers have a point or an exponent; from a hundred-thousandth up to the sixteenth power of ten
they have no exponent. -/
def numberLayout : DecimalLayout := ⟨some (-5, 15), true, .even⟩

/-- The text of an integer. -/
def writeInteger (value : Int) : List Char :=
  if value < 0 then '-' :: decimalDigits value.natAbs else decimalDigits value.natAbs

/-- The text of a floating-point number. -/
def writeDouble (number : Double) : List Char :=
  if number.isFinite then (numberLayout.text number).toList else "null".toList

/-- Texts with commas between them. -/
def commaSeparated : List (List Char) → List Char
  | [] => []
  | [text] => text
  | text :: rest => text ++ ',' :: commaSeparated rest

/-- The text of a value whose fields are in order. -/
def writeForm : Value → List Char
  | .integer value => writeInteger value.toInt
  | .boolean value => if value then "true".toList else "false".toList
  | .text value => writeText value
  | .binary bytes =>
    '[' :: commaSeparated (bytes.map fun byte => decimalDigits byte.toNat) ++ [']']
  | .double value => writeDouble value
  | .struct fields => '\x7b' :: commaSeparated (writeFields fields) ++ ['\x7d']
  | .array items => '[' :: commaSeparated (writeItems items) ++ [']']
where
  /-- The texts of the fields. -/
  writeFields : List (String × Value) → List (List Char)
    | [] => []
    | (name, value) :: rest => (writeText name ++ ':' :: writeForm value) :: writeFields rest
  /-- The texts of the items. -/
  writeItems : List Value → List (List Char)
    | [] => []
    | item :: rest => writeForm item :: writeItems rest

/-- The JSON text of a value. -/
def write (value : Value) : String :=
  String.ofList (writeForm value.canonical)

end KeyedRecord.Json
