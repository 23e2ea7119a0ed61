/-
**The text of a value for readers.**

Integers and truth values in words, texts in quotes, bytes by their number, floating-point numbers
without an exponent, and fields in the order of their names, which are not quoted.

* `Value.display`: the text of a value.
-/

import KeyedRecord.Number.Decimal
import KeyedRecord.Text.Quoted
import KeyedRecord.Value.Basic

namespace KeyedRecord

/-- Numbers for readers have no exponent, and no point where none is needed. -/
def displayLayout : DecimalLayout := ⟨none, false, .up⟩

/-- The text of a floating-point number for readers. -/
def Binary.display {format : BinaryFormat} (number : Binary format) : String :=
  if number.isNaN then "NaN"
  else if number.isFinite then displayLayout.text number
  else if number.isNegative then "-inf" else "inf"

/-- The text of a value whose fields are in order. -/
def Value.displayForm : Value → String
  | .integer value => toString value.toInt
  | .boolean value => if value then "true" else "false"
  | .text value => Text.quote value
  | .binary bytes => "<binary " ++ toString bytes.length ++ " bytes>"
  | .double value => value.display
  | .struct fields => "\x7b " ++ displayFields fields ++ " \x7d"
  | .array items => "[" ++ displayItems items ++ "]"
where
  /-- The texts of the fields, with commas between them. -/
  displayFields : List (String × Value) → String
    | [] => ""
    | [(name, value)] => name ++ ": " ++ value.displayForm
    | (name, value) :: rest => name ++ ": " ++ value.displayForm ++ ", " ++ displayFields rest
  /-- The texts of the items, with commas between them. -/
  displayItems : List Value → String
    | [] => ""
    | [item] => item.displayForm
    | item :: rest => item.displayForm ++ ", " ++ displayItems rest

/-- The text of a value. -/
def Value.display (value : Value) : String :=
  value.canonical.displayForm

end KeyedRecord
