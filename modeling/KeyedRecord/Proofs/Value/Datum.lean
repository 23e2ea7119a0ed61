/-
**The values of data.**

The value of a datum has no structures in it, nests at most one deep, and is its own unpacked value
unless the datum is a run of bytes. If its floating-point numbers are finite, the only datum that
agrees with it is the datum itself: what is no number cannot stand in it.

* `Datum.unpacked_toValue`: the value of a datum that is no bytes is unpacked.
* `Datum.Agree.eq_of_isFinite`: agreement with a finite datum is equality.
-/

import KeyedRecord.Proofs.Value.Conversion
import KeyedRecord.Proofs.Value.Unpacked

namespace KeyedRecord

/-! ### The form of values -/

theorem ScalarType.toValue_isOrdered (type : ScalarType) (datum : type.Carrier) :
    (type.toValue datum).IsOrdered := by
  cases type with
  | integer type => exact .integer _
  | boolean => exact .boolean _
  | single => exact .double _
  | double => exact .double _
  | text => exact .text _

theorem ScalarType.nesting_toValue (type : ScalarType) (datum : type.Carrier) :
    (type.toValue datum).nesting = 0 := by
  cases type <;> rfl

theorem ScalarType.unpacked_toValue (type : ScalarType) (datum : type.Carrier) :
    (type.toValue datum).unpacked = type.toValue datum := by
  cases type <;> rfl

theorem ScalarType.unpacked_items (type : ScalarType) (data : List type.Carrier) :
    (Value.array (data.map type.toValue)).unpacked = .array (data.map type.toValue) := by
  rw [Value.unpacked_array, List.map_map]
  exact congrArg Value.array (List.map_congr_left fun datum _ => type.unpacked_toValue datum)

/-- The value of a datum is in order. -/
theorem Datum.toValue_isOrdered (datum : Datum) : datum.toValue.IsOrdered := by
  obtain ⟨type, content⟩ := datum
  cases type with
  | scalar type => exact type.toValue_isOrdered content
  | bytes => exact .binary content
  | list element =>
    exact .array (List.forall_mem_map.mpr fun item _ => element.toValue_isOrdered item)

/-- The value of a datum nests at most one deep. -/
theorem Datum.nesting_toValue_le (datum : Datum) : datum.toValue.nesting ≤ 1 := by
  obtain ⟨type, content⟩ := datum
  cases type with
  | scalar type => exact (type.nesting_toValue content).trans_le (Nat.zero_le 1)
  | bytes => exact Nat.le_refl 1
  | list element =>
    exact (Value.nesting_array_le_iff _ 0).mpr
      (List.forall_mem_map.mpr fun item _ => (element.nesting_toValue item).le)

/-- **The value of a datum that is no bytes is unpacked.** -/
theorem Datum.unpacked_toValue {datum : Datum} (noBytes : datum.type ≠ .bytes) :
    datum.toValue.unpacked = datum.toValue := by
  obtain ⟨type, content⟩ := datum
  cases type with
  | scalar type => exact type.unpacked_toValue content
  | bytes => exact absurd rfl noBytes
  | list element => exact element.unpacked_items content

/-! ### Agreement of finite data -/

/-- What is no number is not finite. -/
theorem Binary.isFinite_eq_false_of_isNaN {format : BinaryFormat} {number : Binary format}
    (isNaN : number.isNaN = true) : number.isFinite = false :=
  decide_eq_false (Nat.lt_asymm (of_decide_eq_true isNaN))

/-- A datum without parts that agrees with a finite one is the same. -/
theorem ScalarType.eq_of_agree {type : ScalarType} {first second : type.Carrier}
    (agree : type.Agree first second) (finite : (type.toValue first).IsFinite) :
    second = first := by
  cases type with
  | integer type => exact agree
  | boolean => exact agree
  | double => exact agree
  | text => exact agree
  | single =>
    simp only [ScalarType.Agree, Binary.IsAlike] at agree
    split at agree
    · rename_i isNaN
      have wide := (Value.isFinite_double_iff _).mp finite
      have notFinite := Binary.isFinite_eq_false_of_isNaN
        (@Binary.convert_isNaN binary32 binary64 (by decide) first isNaN).1
      rw [wide] at notFinite
      cases notFinite
    · exact agree

/-- Data that agree with finite ones, item by item, are the same. -/
theorem ScalarType.eq_of_agree_items {type : ScalarType} {first second : List type.Carrier}
    (agree : List.Forall₂ type.Agree first second)
    (finite : ∀ datum ∈ first, (type.toValue datum).IsFinite) : second = first := by
  induction agree with
  | nil => rfl
  | cons agreeHead _ ih =>
    obtain ⟨finiteHead, finiteTail⟩ := List.forall_mem_cons.mp finite
    rw [ScalarType.eq_of_agree agreeHead finiteHead, ih finiteTail]

/-- **A datum that agrees with a finite one is the same.** -/
theorem Datum.Agree.eq_of_isFinite {first second : Datum} (agree : first.Agree second)
    (finite : first.toValue.IsFinite) : second = first := by
  cases agree with
  | @intro type first second agree =>
    cases type with
    | scalar type => rw [ScalarType.eq_of_agree agree finite]
    | bytes =>
      have same : second = first := agree
      rw [same]
    | list element =>
      have each : ∀ item ∈ List.map element.toValue first, item.IsFinite :=
        (Value.isFinite_array_iff _).mp finite
      have same : second = first :=
        ScalarType.eq_of_agree_items agree (List.forall_mem_map.mp each)
      rw [same]

end KeyedRecord
