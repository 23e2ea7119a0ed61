/-
**Writing and reading by keys.**

A document is written field by field, each under the key of a variant. A key that is already there
is not written again: the step fails and leaves the fields as they are. Reading a variant looks up
its key and converts what stands there.

* `Keys.write`, `Keys.writeIfPresent`: the fields with one more.
* `Keys.read`, `Keys.readIfPresent`: what stands under the key of a variant, converted.
* `Keys.present`: the variants whose keys are there.
-/

import KeyedRecord.Document.Error
import KeyedRecord.Document.Keys

namespace KeyedRecord

/-- The fields of a document that is a structure. -/
def Value.fields? : Value → Except DecodeError Fields
  | .struct fields => .ok fields
  | value => .error (.expectedStruct value.kind)

namespace Keys

section

variable {Variant : Type} (keys : Keys Variant)

/-- Writes a value under the key of a variant. -/
def write (fields : Fields) (variant : Variant) (value : Value) : Except EncodeError Fields :=
  let key := keys.key variant
  if Fields.contains fields key then .error (.duplicateKey key)
  else .ok (Fields.insert key value fields)

/-- Writes a value if there is one. -/
def writeIfPresent (fields : Fields) (variant : Variant) (value : Option Value) :
    Except EncodeError Fields :=
  match value with
  | some value => keys.write fields variant value
  | none => .ok fields

/-- Whether the key of a variant is there. -/
def isPresent (fields : Fields) (variant : Variant) : Bool :=
  Fields.contains fields (keys.key variant)

/-- The variants whose keys are there, in order of declaration. -/
def present (fields : Fields) : List Variant :=
  keys.all.filter (keys.isPresent fields)

variable {Datum : Type} (convert : Value → Except String Datum)

/-- Reads what stands under the key of a variant, if the key is there. What cannot be converted is
explained in words. -/
def readIfPresent (fields : Fields) (variant : Variant) : Except DecodeError (Option Datum) :=
  let key := keys.key variant
  match Fields.get? fields key with
  | none => .ok none
  | some value =>
    match convert value with
    | .ok datum => .ok (some datum)
    | .error words => .error (.typeMismatch key words)

/-- Reads what stands under the key of a variant. -/
def read (fields : Fields) (variant : Variant) : Except DecodeError Datum := do
  match ← keys.readIfPresent convert fields variant with
  | some datum => return datum
  | none => .error (.missingKey (keys.key variant))

end

end Keys

end KeyedRecord
