/-
**Values from JSON texts.**

A text is read from the front, and the first thing that is wrong with it is why it has no value: it
is malformed there, or it holds something that no value stands for. An integer without a fraction
and an exponent that fits 64 bits is an integer, with a sign or without one; any other number is a
floating-point number, and one too large for that is malformed. Arrays and objects may nest
`nestingLimit` deep. Of several fields of one name the last one counts.

* `Json.read`: the value of a JSON text, or why it has none.
-/

import KeyedRecord.Json.Text
import KeyedRecord.Number.Decimal
import KeyedRecord.Value.Source

namespace KeyedRecord.Json

/-- Why a JSON text has no value. -/
inductive ReadError
  | malformed
  | rejected (cause : Rejection)
deriving DecidableEq, Repr

/-- How deep arrays and objects may nest. -/
def nestingLimit : Nat := 127

/-- A reader takes something from the front of a text and gives the rest. -/
abbrev TextReader (α : Type) := List Char → Except ReadError (α × List Char)

/-- Whether the character is a blank. -/
def isBlank (c : Char) : Bool :=
  c == ' ' || c == '\t' || c == '\n' || c == '\r'

/-- The text without the blanks at its front. -/
def skipBlanks (text : List Char) : List Char :=
  text.dropWhile isBlank

/-- The value of a datum, as the result of reading it. -/
def accept (source : Source) (rest : List Char) : Except ReadError (Value × List Char) :=
  match Value.ofSource source with
  | .ok value => .ok (value, rest)
  | .error cause => .error (.rejected cause)

/-! ## Numbers -/

/-- The parts of a written number: its digits before and after the point, and its exponent. -/
structure Numeral where
  isNegative : Bool
  whole : List Char
  fraction : Option (List Char)
  exponent : Option Int

/-- Reads digits, at least one. -/
def readDigits : TextReader (List Char) := fun text =>
  match text.takeWhile Char.isDigit with
  | [] => .error .malformed
  | digits => .ok (digits, text.dropWhile Char.isDigit)

/-- Reads the digits before the point. A zero stands alone. -/
def readWhole : TextReader (List Char) := fun text => do
  let (digits, rest) ← readDigits text
  if digits.length != 1 && digits.head? == some '0' then .error .malformed
  else .ok (digits, rest)

/-- Reads a point and the digits after it, if there is a point. -/
def readFraction : TextReader (Option (List Char))
  | '.' :: rest => do
    let (digits, rest) ← readDigits rest
    return (some digits, rest)
  | rest => .ok (none, rest)

/-- Reads an exponent, if there is one. -/
def readExponent : TextReader (Option Int)
  | c :: rest =>
    if c == 'e' || c == 'E' then
      match rest with
      | '-' :: rest => do
        let (digits, rest) ← readDigits rest
        return (some (-(Text.decimalValue digits : Int)), rest)
      | '+' :: rest => do
        let (digits, rest) ← readDigits rest
        return (some (Text.decimalValue digits), rest)
      | rest => do
        let (digits, rest) ← readDigits rest
        return (some (Text.decimalValue digits), rest)
    else .ok (none, c :: rest)
  | [] => .ok (none, [])

/-- Reads a number. -/
def readNumeral : TextReader Numeral := fun text => do
  let (isNegative, text) :=
    match text with
    | '-' :: rest => (true, rest)
    | text => (false, text)
  let (whole, text) ← readWhole text
  let (fraction, text) ← readFraction text
  let (exponent, text) ← readExponent text
  return (⟨isNegative, whole, fraction, exponent⟩, text)

/-- The decimal that a number writes, without its sign. -/
def Numeral.decimal (numeral : Numeral) : Decimal where
  coefficient := Text.decimalValue (numeral.whole ++ numeral.fraction.getD [])
  exponent := numeral.exponent.getD 0 - (numeral.fraction.getD []).length

/-- The floating-point number nearest to what a number writes, if that is finite. It is assumed that
numbers are handed over correctly rounded, however many digits they are written with. -/
def Numeral.double? (numeral : Numeral) : Option Double :=
  let number : Double := numeral.decimal.toBinary numeral.isNegative
  if number.isFinite then some number else none

/-- The integer of 64 bits that a number without a fraction and an exponent writes. The zero with a
sign is none. -/
def Numeral.integer? (numeral : Numeral) : Option Source :=
  match numeral.fraction, numeral.exponent with
  | none, none =>
    let value := Text.decimalValue numeral.whole
    if numeral.isNegative then
      if 0 < value && value ≤ 9223372036854775808 then some (.signed (Int64.ofInt (-value))) else none
    else if value < 18446744073709551616 then some (.unsigned (UInt64.ofNat value))
    else none
  | _, _ => none

/-- The datum that a number writes. -/
def Numeral.source? (numeral : Numeral) : Option Source :=
  numeral.integer?.or (numeral.double?.map Source.double)

/-- Reads a number as a value. -/
def readNumber : TextReader Value := fun text => do
  let (numeral, rest) ← readNumeral text
  match numeral.source? with
  | some source => accept source rest
  | none => .error .malformed

/-! ## Arrays and objects -/

/-- Reads the items of an array that has some, up to its closing bracket. The number bounds how
many there can be. -/
def readItems (item : TextReader Value) : Nat → TextReader (List Value)
  | 0, _ => .error .malformed
  | bound + 1, text => do
    let (value, rest) ← item text
    match skipBlanks rest with
    | ',' :: rest =>
      let (values, rest) ← readItems item bound rest
      return (value :: values, rest)
    | ']' :: rest => return ([value], rest)
    | _ => .error .malformed

/-- Reads an array from behind its opening bracket. -/
def readArray (item : TextReader Value) : TextReader Value := fun text =>
  match skipBlanks text with
  | ']' :: rest => .ok (.array [], rest)
  | _ => do
    let (values, rest) ← readItems item text.length text
    return (.array values, rest)

/-- Reads the name of a field and the colon after it. -/
def readName : TextReader String := fun text =>
  match skipBlanks text with
  | '"' :: rest =>
    match readText? rest with
    | some (name, rest) =>
      match skipBlanks rest with
      | ':' :: rest => .ok (String.ofList name, rest)
      | _ => .error .malformed
    | none => .error .malformed
  | _ => .error .malformed

/-- Reads the fields of an object that has some, up to its closing bracket. The number bounds how
many there can be. -/
def readFields (item : TextReader Value) : Nat → TextReader (List (String × Value))
  | 0, _ => .error .malformed
  | bound + 1, text => do
    let (name, rest) ← readName text
    let (value, rest) ← item rest
    match skipBlanks rest with
    | ',' :: rest =>
      let (fields, rest) ← readFields item bound rest
      return ((name, value) :: fields, rest)
    | '\x7d' :: rest => return ([(name, value)], rest)
    | _ => .error .malformed

/-- Reads an object from behind its opening bracket. -/
def readObject (item : TextReader Value) : TextReader Value := fun text =>
  match skipBlanks text with
  | '\x7d' :: rest => .ok (Value.ofFields [], rest)
  | _ => do
    let (fields, rest) ← readFields item text.length text
    return (Value.ofFields fields, rest)

/-! ## Values -/

/-- Reads a value whose parts, if it may have any, are read by the given reader. -/
def readValueOver (part : Option (TextReader Value)) : TextReader Value := fun text =>
  match skipBlanks text with
  | 'n' :: 'u' :: 'l' :: 'l' :: rest => accept .null rest
  | 't' :: 'r' :: 'u' :: 'e' :: rest => accept (.boolean true) rest
  | 'f' :: 'a' :: 'l' :: 's' :: 'e' :: rest => accept (.boolean false) rest
  | '"' :: rest =>
    match readText? rest with
    | some (content, rest) => accept (.text (String.ofList content)) rest
    | none => .error .malformed
  | '[' :: rest =>
    match part with
    | some item => readArray item rest
    | none => .error .malformed
  | '\x7b' :: rest =>
    match part with
    | some item => readObject item rest
    | none => .error .malformed
  | text => readNumber text

/-- Reads a value that nests at most so deep. -/
def readValue : Nat → TextReader Value
  | 0 => readValueOver none
  | depth + 1 => readValueOver (some (readValue depth))

/-- The value of a JSON text. -/
def read (text : String) : Except ReadError Value := do
  let (value, rest) ← readValue nestingLimit text.toList
  if (skipBlanks rest).isEmpty then .ok value else .error .malformed

end KeyedRecord.Json
