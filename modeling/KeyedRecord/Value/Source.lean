/-
**Values from other data.**

Data of a document format are read as values if they are of a form that values have: numbers of up
to 64 bits, truth values, texts, bytes, sequences, and mappings from texts. The first datum that
has no such form, reading from the front, is why the whole has none.

* `Value.ofSource`: the value of a datum, or why there is none.
* `Rejection.message`: the words for each cause.
-/

import KeyedRecord.Value.Basic

namespace KeyedRecord

/-- A datum that stands before another one in a mapping. -/
inductive SourceKey
  | text (value : String)
  | integer (value : Int)

/-- A datum of a document format. -/
inductive Source
  | signed (value : Int64)
  | unsigned (value : UInt64)
  /-- An integer of 128 bits. -/
  | wide (isSigned : Bool) (value : Int)
  | double (value : Double)
  | single (value : Single)
  | boolean (value : Bool)
  | text (value : String)
  | bytes (value : List UInt8)
  | null
  | unit
  | sequence (items : List Source)
  | mapping (entries : List (SourceKey × Source))

/-- A datum that no value stands for. -/
inductive Unexpected
  | null
  | unit
  | wide (isSigned : Bool) (value : Int)
deriving DecidableEq, Repr

/-- Why data have no value. -/
inductive Rejection
  | outOfRange (value : UInt64)
  | invalidValue (found : Unexpected)
  | invalidKey (found : Int)
deriving DecidableEq, Repr

/-- A datum in words. -/
def Unexpected.phrase : Unexpected → String
  | .null => "null"
  | .unit => "unit value"
  | .wide isSigned value =>
    "integer `" ++ toString value ++ "` as " ++ (if isSigned then "i128" else "u128")

/-- The forms of data that have values. -/
def expectedForms : String :=
  "an integer, boolean, double, string, bytes, sequence or map"

/-- The words for the cause. -/
def Rejection.message : Rejection → String
  | .outOfRange value => "integer " ++ toString value.toNat ++ " out of range"
  | .invalidValue found => "invalid type: " ++ found.phrase ++ ", expected " ++ expectedForms
  | .invalidKey found => "invalid type: integer `" ++ toString found ++ "`, expected a string"

/-- The name that a key stands for. -/
def SourceKey.name : SourceKey → Except Rejection String
  | .text value => .ok value
  | .integer value => .error (.invalidKey value)

/-- The value of an integer without a sign. -/
def Value.ofUnsigned (value : UInt64) : Except Rejection Value :=
  if value.toNat < 9223372036854775808 then .ok (.integer (Int64.ofNat value.toNat))
  else .error (.outOfRange value)

/-- The value of a datum. -/
def Value.ofSource : Source → Except Rejection Value
  | .signed value => .ok (.integer value)
  | .unsigned value => Value.ofUnsigned value
  | .wide isSigned value => .error (.invalidValue (.wide isSigned value))
  | .double value => .ok (.double value)
  | .single value => .ok (.double value.convert)
  | .boolean value => .ok (.boolean value)
  | .text value => .ok (.text value)
  | .bytes value => .ok (.binary value)
  | .null => .error (.invalidValue .null)
  | .unit => .error (.invalidValue .unit)
  | .sequence items => do return .array (← ofSources items)
  | .mapping entries => do return Value.ofFields (← ofEntries entries)
where
  /-- The values of the items. -/
  ofSources : List Source → Except Rejection (List Value)
    | [] => .ok []
    | item :: rest => do
      let value ← Value.ofSource item
      return value :: (← ofSources rest)
  /-- The bindings of the entries. -/
  ofEntries : List (SourceKey × Source) → Except Rejection (List (String × Value))
    | [] => .ok []
    | (key, item) :: rest => do
      let name ← key.name
      let value ← Value.ofSource item
      return (name, value) :: (← ofEntries rest)

end KeyedRecord
