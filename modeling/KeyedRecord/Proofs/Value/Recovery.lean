/-
**Values that come back from their data.**

What a type reads from a value has a value of its own. That value is the one that was read, unless
reading has converted it: an integer may be read as a truth value or as a floating-point number,
and whatever is read as a number of 32 bits is rounded (`ScalarType.Keeps`). Of an array each item
comes back that has not been converted.

* `ScalarType.toValue_of_ofValue`, `ScalarType.toValue_of_ofItems`: values and items that come back.
* `MemberType.toValue_of_ofValue`: values of every type.
* `MemberType.conversions_invert`: both ways between the values and the data of a type.
-/

import KeyedRecord.Proofs.Value.Conversion
import KeyedRecord.Proofs.Value.Equality

namespace KeyedRecord

/-! ### Types without parts -/

/-- The type reads the value without converting it. -/
def ScalarType.Keeps : ScalarType → Value → Prop
  | .integer _, _ => True
  | .text, _ => True
  | .boolean, value => value.kind ≠ .integer
  | .double, value => value.kind ≠ .integer
  | .single, _ => False

/-- An integer that is found to be in range is the datum. -/
theorem IntegerType.val_of_ofInt? {type : IntegerType} {value : Int} {datum : type.Carrier}
    (found : type.ofInt? value = some datum) : datum.val = value := by
  unfold IntegerType.ofInt? at found
  split at found
  · rw [← Option.some.inj found]
  · cases found

/-- **What is read without being converted comes back**, for a type without parts. -/
theorem ScalarType.toValue_of_ofValue {type : ScalarType} {value : Value} {datum : type.Carrier}
    (read : type.ofValue value = .ok datum) (kept : type.Keeps value) :
    type.toValue datum = value := by
  cases type with
  | integer type =>
    cases value with
    | integer value =>
      simp only [ScalarType.ofValue] at read
      split at read
      · rename_i found
        cases read
        rw [ScalarType.toValue, IntegerType.val_of_ofInt? found, Int64.ofInt_toInt]
      · cases read
    | _ => cases read
  | boolean =>
    cases value with
    | boolean value => rw [← Except.ok.inj read]; rfl
    | integer value => exact absurd rfl kept
    | _ => cases read
  | single => exact kept.elim
  | double =>
    cases value with
    | double value => rw [← Except.ok.inj read]; rfl
    | integer value => exact absurd rfl kept
    | _ => cases read
  | text =>
    cases value with
    | text value => rw [← Except.ok.inj read]; rfl
    | _ => cases read

/-- **The items that are read without being converted come back**, each in its place. -/
theorem ScalarType.toValue_of_ofItems {type : ScalarType} {items : List Value}
    {data : List type.Carrier} (read : type.ofItems items = .ok data) :
    List.Forall₂ (fun item datum => type.Keeps item → type.toValue datum = item) items data := by
  induction items generalizing data with
  | nil =>
    rw [← Except.ok.inj read]
    exact .nil
  | cons item rest ih =>
    rw [ScalarType.ofItems] at read
    cases first : type.ofValue item with
    | error cause =>
      rw [first] at read
      cases read
    | ok datum =>
      cases others : type.ofItems rest with
      | error cause =>
        rw [first, others] at read
        cases read
      | ok more =>
        rw [first, others] at read
        rw [← Except.ok.inj read]
        exact .cons (ScalarType.toValue_of_ofValue first) (ih others)

/-! ### All types -/

/-- The type reads the value, or each of its items, without converting it. -/
def MemberType.Keeps : MemberType → Value → Prop
  | .scalar type, value => type.Keeps value
  | .bytes, _ => True
  | .list element, value => ∀ items, value = .array items → ∀ item ∈ items, element.Keeps item

/-- Only an array is read as a list. -/
theorem MemberType.exists_items {element : ScalarType} {value : Value}
    {data : List element.Carrier} (read : (MemberType.list element).ofValue value = .ok data) :
    ∃ items, value = .array items ∧ element.ofItems items = .ok data := by
  cases value with
  | array items => exact ⟨items, rfl, read⟩
  | _ => cases read

/-- **What is read without being converted comes back.** -/
theorem MemberType.toValue_of_ofValue {type : MemberType} {value : Value} {datum : type.Carrier}
    (read : type.ofValue value = .ok datum) (kept : type.Keeps value) :
    type.toValue datum = value := by
  cases type with
  | scalar type => exact ScalarType.toValue_of_ofValue read kept
  | bytes =>
    cases value with
    | binary bytes => rw [← Except.ok.inj read]; rfl
    | _ => cases read
  | list element =>
    obtain ⟨items, rfl, readItems⟩ := MemberType.exists_items read
    have keeps : ∀ item ∈ items, element.Keeps item := kept items rfl
    have each := ScalarType.toValue_of_ofItems readItems
    rw [MemberType.toValue, Value.array.injEq]
    clear read kept readItems
    induction each with
    | nil => rfl
    | cons head _ ih =>
      obtain ⟨keepsFirst, keepsRest⟩ := List.forall_mem_cons.mp keeps
      rw [List.map_cons, head keepsFirst, ih keepsRest]

/-- **Values and data are converted into each other without loss.** The value of a datum is read
back as one that agrees with it. What a type has read from a value has an equal value, if the type
has not converted it: integers, texts and bytes never are, and what is read as a truth value or as
a number of 64 bits is only if it was an integer. In a list this holds of each item. -/
theorem MemberType.conversions_invert :
    (∀ (type : MemberType) (datum : type.Carrier), ∃ decoded,
      type.ofValue (type.toValue datum) = .ok decoded ∧ type.Agree datum decoded) ∧
    (∀ (type : MemberType) (value : Value) (datum : type.Carrier),
      type.ofValue value = .ok datum → type.Keeps value → (type.toValue datum == value) = true) ∧
    ∀ (element : ScalarType) (value : Value) (data : List element.Carrier),
      (MemberType.list element).ofValue value = .ok data → ∃ items, value = .array items ∧
        List.Forall₂ (fun item datum => element.Keeps item →
          (element.toValue datum == item) = true) items data := by
  refine ⟨MemberType.ofValue_toValue, fun type value datum read kept => ?_,
    fun element value data read => ?_⟩
  · exact Value.beq_of_eq (MemberType.toValue_of_ofValue read kept)
  · obtain ⟨items, same, readItems⟩ := MemberType.exists_items read
    refine ⟨items, same, (ScalarType.toValue_of_ofItems readItems).imp fun item datum back => ?_⟩
    exact fun kept => Value.beq_of_eq (back kept)

/-- What is no number of 32 bits, integers at both ends of their range, and truth values one of
which has been an integer. -/
theorem MemberType.conversions_invert_samples :
    (∃ decoded : Single, (MemberType.scalar .single).ofValue
        ((MemberType.scalar .single).toValue (Binary.ofBits 0xff800001 : Single)) = .ok decoded ∧
      Binary.IsAlike (Binary.ofBits 0xff800001) decoded) ∧
    (∃ data : List (IntegerType.i64.Carrier),
      (MemberType.list (.integer .i64)).ofValue
        (.array [.integer Int64.minValue, .integer Int64.maxValue]) = .ok data ∧
      ((MemberType.list (.integer .i64)).toValue data ==
        .array [.integer Int64.minValue, .integer Int64.maxValue]) = true) ∧
    (MemberType.list .boolean).ofValue (.array [.boolean false, .integer 5]) =
      .ok [false, true] ∧
    ∃ items, Value.array [.boolean false, .integer 5] = .array items ∧
      List.Forall₂ (fun item datum => ScalarType.boolean.Keeps item →
        (ScalarType.boolean.toValue datum == item) = true) items [false, true] := by
  refine ⟨MemberType.conversions_invert.1 (.scalar .single) _, ?_, rfl, ?_⟩
  · have read : (MemberType.list (.integer .i64)).ofValue
        (.array [.integer Int64.minValue, .integer Int64.maxValue]) =
          .ok [⟨-9223372036854775808, by decide⟩, ⟨9223372036854775807, by decide⟩] := rfl
    exact ⟨_, read, MemberType.conversions_invert.2.1 _ _ _ read fun _ _ _ _ => trivial⟩
  · exact MemberType.conversions_invert.2.2 .boolean _ [false, true] rfl

end KeyedRecord
