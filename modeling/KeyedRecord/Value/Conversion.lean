/-
**Types of members, and values as data of a type.**

Every type of members has its data (`MemberType.Carrier`). A datum stands in a document as a value,
and a value is read back as a datum of a type if it is of the right kind and in range. Integers are
also read as truth values and as floating-point numbers, which are rounded to the nearest.

* `MemberType.toValue`: the value of a datum.
* `MemberType.ofValue`: the datum of a value, or why there is none.
-/

import KeyedRecord.Value.Basic

namespace KeyedRecord

/-- The types of integers, by sign and number of bits. -/
inductive IntegerType
  | i8
  | i16
  | i32
  | i64
  | u8
  | u16
  | u32
deriving DecidableEq, Repr

/-- The least integer of a type. -/
def IntegerType.least : IntegerType → Int
  | .i8 => -128
  | .i16 => -32768
  | .i32 => -2147483648
  | .i64 => -9223372036854775808
  | .u8 => 0
  | .u16 => 0
  | .u32 => 0

/-- The greatest integer of a type. -/
def IntegerType.greatest : IntegerType → Int
  | .i8 => 127
  | .i16 => 32767
  | .i32 => 2147483647
  | .i64 => 9223372036854775807
  | .u8 => 255
  | .u16 => 65535
  | .u32 => 4294967295

/-- The integers of a type. -/
def IntegerType.Carrier (type : IntegerType) : Type :=
  { value : Int // type.least ≤ value ∧ value ≤ type.greatest }

/-- Types without parts. -/
inductive ScalarType
  | integer (type : IntegerType)
  | boolean
  | single
  | double
  | text
deriving DecidableEq, Repr

/-- The data of a type without parts. -/
def ScalarType.Carrier : ScalarType → Type
  | .integer type => type.Carrier
  | .boolean => Bool
  | .single => Single
  | .double => Double
  | .text => String

/-- The types of members. -/
inductive MemberType
  | scalar (type : ScalarType)
  | bytes
  | list (element : ScalarType)
deriving DecidableEq, Repr

/-- The data of a type. -/
def MemberType.Carrier : MemberType → Type
  | .scalar type => type.Carrier
  | .bytes => List UInt8
  | .list element => List element.Carrier

/-- The types of members by the words that declare them. -/
def MemberType.names : List (String × MemberType) :=
  [("i8", .scalar (.integer .i8)), ("i16", .scalar (.integer .i16)),
   ("i32", .scalar (.integer .i32)), ("i64", .scalar (.integer .i64)),
   ("u8", .scalar (.integer .u8)), ("u16", .scalar (.integer .u16)),
   ("u32", .scalar (.integer .u32)), ("bool", .scalar .boolean), ("f32", .scalar .single),
   ("f64", .scalar .double), ("String", .scalar .text), ("Vec<u8>", .bytes),
   ("Vec<i64>", .list (.integer .i64)), ("Vec<f64>", .list .double), ("Vec<bool>", .list .boolean),
   ("Vec<String>", .list .text)]

/-- The type that the words declare. -/
def MemberType.ofName? (name : String) : Option MemberType :=
  names.lookup name

/-- Why a value is no datum of a type. -/
inductive ConversionError
  | mismatch (expected actual : Kind)
  | outOfRange (value : Int)
deriving DecidableEq, Repr

/-- The words for the cause. -/
def ConversionError.message : ConversionError → String
  | .mismatch expected actual => "expected " ++ expected.name ++ ", got " ++ actual.name
  | .outOfRange value => "integer " ++ toString value ++ " out of range"

/-- The integer of a type, if it is in range. -/
def IntegerType.ofInt? (type : IntegerType) (value : Int) : Option type.Carrier :=
  if inRange : type.least ≤ value ∧ value ≤ type.greatest then some ⟨value, inRange⟩ else none

/-- The value of a datum without parts. -/
def ScalarType.toValue : (type : ScalarType) → type.Carrier → Value
  | .integer _, datum => .integer (Int64.ofInt datum.val)
  | .boolean, datum => .boolean datum
  | .single, datum => .double (Binary.convert datum)
  | .double, datum => .double datum
  | .text, datum => .text datum

/-- The floating-point number of a value. -/
def Value.toDouble : Value → Except ConversionError Double
  | .double value => .ok value
  | .integer value => .ok (Binary.ofInt value.toInt)
  | value => .error (.mismatch .double value.kind)

/-- The datum of a value, for a type without parts. -/
def ScalarType.ofValue : (type : ScalarType) → Value → Except ConversionError type.Carrier
  | .integer type, value =>
    match value with
    | .integer value =>
      match type.ofInt? value.toInt with
      | some datum => .ok datum
      | none => .error (.outOfRange value.toInt)
    | value => .error (.mismatch .integer value.kind)
  | .boolean, value =>
    match value with
    | .boolean value => .ok value
    | .integer value => .ok (value.toInt != 0)
    | value => .error (.mismatch .boolean value.kind)
  | .single, value => value.toDouble.map Binary.convert
  | .double, value => value.toDouble
  | .text, value =>
    match value with
    | .text value => .ok value
    | value => .error (.mismatch .text value.kind)

/-- The value of a datum. -/
def MemberType.toValue : (type : MemberType) → type.Carrier → Value
  | .scalar type, datum => type.toValue datum
  | .bytes, datum => .binary datum
  | .list element, data => .array (List.map element.toValue data)

/-- The data of the items, or why the first item that has none has none. -/
def ScalarType.ofItems (type : ScalarType) : List Value → Except ConversionError (List type.Carrier)
  | [] => .ok []
  | item :: rest => do
    let datum ← type.ofValue item
    return datum :: (← ofItems type rest)

/-- The datum of a value. -/
def MemberType.ofValue : (type : MemberType) → Value → Except ConversionError type.Carrier
  | .scalar type, value => type.ofValue value
  | .bytes, value =>
    match value with
    | .binary content => .ok content
    | value => .error (.mismatch .binary value.kind)
  | .list element, value =>
    match value with
    | .array items => element.ofItems items
    | value => .error (.mismatch .array value.kind)

/-- The datum of a value, or the words for why there is none. -/
def MemberType.convert (type : MemberType) (value : Value) : Except String type.Carrier :=
  (type.ofValue value).mapError ConversionError.message

/-- The default of a type of integers. -/
def IntegerType.zero (type : IntegerType) : type.Carrier :=
  ⟨0, by cases type <;> decide⟩

/-- The default of a type without parts. -/
def ScalarType.default : (type : ScalarType) → type.Carrier
  | .integer type => type.zero
  | .boolean => false
  | .single => Binary.zero false
  | .double => Binary.zero false
  | .text => ""

/-- The default of a type. -/
def MemberType.default : (type : MemberType) → type.Carrier
  | .scalar type => type.default
  | .bytes => []
  | .list _ => []

end KeyedRecord
