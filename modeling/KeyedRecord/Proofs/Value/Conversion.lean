/-
**The way of a datum through a value.**

The value of a datum is read back as a datum of the same type that agrees with it
(`MemberType.ofValue_toValue`). Data agree if they are the same, except that numbers of 32 bits
may also be none, with the same sign: widening marks what is no number as quiet.
-/

import KeyedRecord.Behaviour.Datum
import KeyedRecord.Proofs.Number.Exact

namespace KeyedRecord

/-! ### Agreement -/

/-- The same number, or what is no number with the same sign. -/
def Binary.IsAlike {format : BinaryFormat} (first second : Binary format) : Prop :=
  if first.isNaN then second.isNaN = true ∧ second.isNegative = first.isNegative
  else second = first

/-- Data of a type without parts agree. -/
def ScalarType.Agree : (type : ScalarType) → type.Carrier → type.Carrier → Prop
  | .single, first, second => Binary.IsAlike first second
  | .integer _, first, second => second = first
  | .boolean, first, second => second = first
  | .double, first, second => second = first
  | .text, first, second => second = first

/-- Data of a type agree. -/
def MemberType.Agree : (type : MemberType) → type.Carrier → type.Carrier → Prop
  | .scalar type, first, second => type.Agree first second
  | .bytes, first, second => second = first
  | .list element, first, second => List.Forall₂ element.Agree first second

/-- Data are of one type and agree. -/
inductive Datum.Agree : Datum → Datum → Prop
  | intro {type : MemberType} {first second : type.Carrier} (agree : type.Agree first second) :
    Datum.Agree ⟨type, first⟩ ⟨type, second⟩

/-- A number of 32 bits is alike after it has been widened to 64 bits. -/
theorem Single.isAlike_convert (number : Single) :
    number.IsAlike (number.convert : Double).convert := by
  unfold Binary.IsAlike
  split
  · rename_i isNaN
    obtain ⟨wideNaN, wideSign⟩ : (number.convert : Double).isNaN = true ∧
        (number.convert : Double).isNegative = number.isNegative :=
      Binary.convert_isNaN (by decide) isNaN
    obtain ⟨narrowNaN, narrowSign⟩ : ((number.convert : Double).convert : Single).isNaN = true ∧
        ((number.convert : Double).convert : Single).isNegative =
          (number.convert : Double).isNegative :=
      Binary.convert_isNaN (by decide) wideNaN
    exact ⟨narrowNaN, narrowSign.trans wideSign⟩
  · rename_i isNumber
    exact Binary.convert_convert BinaryFormat.binary32_isWithin_binary64 number
      (Bool.eq_false_iff.mpr isNumber)

/-! ### Round trips -/

/-- Every integer of a type is one of 64 bits. -/
theorem IntegerType.toInt_ofInt {type : IntegerType} (datum : type.Carrier) :
    (Int64.ofInt datum.val).toInt = datum.val := by
  obtain ⟨value, atLeast, atMost⟩ := datum
  have bounds : -2 ^ 63 ≤ type.least ∧ type.greatest < 2 ^ 63 := by
    cases type <;> decide
  exact Int64.toInt_ofInt_of_le (bounds.1.trans atLeast) (lt_of_le_of_lt atMost bounds.2)

/-- The value of a datum without parts is read back as one that agrees. -/
theorem ScalarType.ofValue_toValue (type : ScalarType) (datum : type.Carrier) :
    ∃ decoded, type.ofValue (type.toValue datum) = .ok decoded ∧ type.Agree datum decoded := by
  cases type with
  | integer type =>
    refine ⟨datum, ?_, rfl⟩
    simp only [ScalarType.toValue, ScalarType.ofValue, IntegerType.toInt_ofInt datum,
      IntegerType.ofInt?, dif_pos datum.property]
    rfl
  | boolean => exact ⟨datum, rfl, rfl⟩
  | single => exact ⟨_, rfl, Single.isAlike_convert datum⟩
  | double => exact ⟨datum, rfl, rfl⟩
  | text => exact ⟨datum, rfl, rfl⟩

/-- The values of data are read back item by item. -/
theorem ScalarType.ofItems_map (type : ScalarType) (data : List type.Carrier) :
    ∃ decoded, type.ofItems (data.map type.toValue) = .ok decoded ∧
      List.Forall₂ type.Agree data decoded := by
  induction data with
  | nil => exact ⟨[], rfl, .nil⟩
  | cons datum rest ih =>
    obtain ⟨first, readFirst, agreeFirst⟩ := type.ofValue_toValue datum
    obtain ⟨others, readOthers, agreeOthers⟩ := ih
    refine ⟨first :: others, ?_, .cons agreeFirst agreeOthers⟩
    rw [List.map_cons, ScalarType.ofItems, readFirst, readOthers]
    rfl

/-- **The value of a datum is read back as one that agrees with it.** -/
theorem MemberType.ofValue_toValue (type : MemberType) (datum : type.Carrier) :
    ∃ decoded, type.ofValue (type.toValue datum) = .ok decoded ∧ type.Agree datum decoded := by
  cases type with
  | scalar type => exact type.ofValue_toValue datum
  | bytes => exact ⟨datum, rfl, rfl⟩
  | list element => exact element.ofItems_map datum

/-- The value of a datum is read back by the datum's type. -/
theorem Datum.ofValue_toValue (datum : Datum) :
    ∃ decoded, Datum.ofValue datum.type datum.toValue = .ok decoded ∧
      datum.Agree decoded := by
  obtain ⟨type, content⟩ := datum
  obtain ⟨decoded, read, agree⟩ := type.ofValue_toValue content
  refine ⟨⟨type, decoded⟩, ?_, .intro agree⟩
  simp only [Datum.ofValue, Datum.toValue, read]
  rfl

end KeyedRecord
