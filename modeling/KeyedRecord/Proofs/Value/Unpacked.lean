/-
**Values without bytes.**

In a format that has no bytes they are written as an array of numbers. A value is unpacked if every
run of bytes in it is replaced by such an array and nothing else is changed; the names of the fields
and their order stay the same.

* `Value.unpacked`: the unpacked value.
* `Fields.get?_unpacked`: what unpacked fields bind to a name.
-/

import KeyedRecord.Proofs.Value.Order

namespace KeyedRecord.Value

/-- A byte as an integer. -/
def ofByte (byte : UInt8) : Value :=
  .integer (Int64.ofNat byte.toNat)

/-- The value with its bytes as arrays of numbers. -/
def unpacked : Value → Value
  | .binary bytes => .array (bytes.map ofByte)
  | .struct fields => .struct (unpackedFields fields)
  | .array items => .array (unpackedItems items)
  | value => value
where
  /-- The fields with the bytes in what they hold as arrays of numbers. -/
  unpackedFields : List (String × Value) → Fields
    | [] => []
    | (name, value) :: rest => (name, value.unpacked) :: unpackedFields rest
  /-- The items with their bytes as arrays of numbers. -/
  unpackedItems : List Value → List Value
    | [] => []
    | item :: rest => item.unpacked :: unpackedItems rest

/-- The fields of an unpacked structure. -/
theorem unpacked_struct (fields : Fields) :
    (struct fields).unpacked = .struct (fields.map fun field => (field.1, field.2.unpacked)) := by
  rw [unpacked]
  congr 1
  induction fields with
  | nil => rfl
  | cons field rest ih => rw [unpacked.unpackedFields, ih, List.map_cons]

/-- The items of an unpacked array. -/
theorem unpacked_array (items : List Value) :
    (array items).unpacked = .array (items.map unpacked) := by
  rw [unpacked]
  congr 1
  induction items with
  | nil => rfl
  | cons item rest ih => rw [unpacked.unpackedItems, ih, List.map_cons]

end KeyedRecord.Value

namespace KeyedRecord.Fields

/-- Unpacking keeps the names, so it keeps fields in order. -/
theorem IsOrdered.unpacked {fields : Fields} (ordered : fields.IsOrdered) :
    IsOrdered (fields.map fun field => (field.1, field.2.unpacked)) :=
  List.pairwise_map.mpr ordered

/-- What unpacked fields bind to a name. -/
theorem get?_unpacked (fields : Fields) (name : String) :
    get? (fields.map fun field => (field.1, field.2.unpacked)) name =
      (fields.get? name).map Value.unpacked := by
  unfold get?
  induction fields with
  | nil => rfl
  | cons field rest ih =>
    rw [List.map_cons, List.lookup_cons, List.lookup_cons, ih]
    cases name == field.1 <;> rfl

end KeyedRecord.Fields
