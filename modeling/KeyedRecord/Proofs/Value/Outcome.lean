/-
**What becomes of a value that is read as a datum.**

Every type of members reads some kinds of values and refuses the others. What it makes of each value
is said by rules that do not say in which order to look (`MemberType.Yields`): the datum, or the
cause for which there is none. Of an array the first item that has no datum decides.

* `ScalarType.ofValue_eq_iff`: types without parts.
* `ScalarType.ofItems_eq_ok_iff`, `ScalarType.ofItems_eq_error_iff`: the items of an array.
* `MemberType.ofValue_eq_iff`: every type of members.
-/

import KeyedRecord.Proofs.Value.Recovery
import Mathlib.Data.List.Forall2

namespace KeyedRecord

/-! ### Types without parts -/

/-- The kind of values that a type is named after when it refuses one. -/
def ScalarType.expected : ScalarType → Kind
  | .integer _ => .integer
  | .boolean => .boolean
  | .single => .double
  | .double => .double
  | .text => .text

/-- The kinds of values that a type reads: its own, and integers as truth values and as
floating-point numbers. -/
def ScalarType.readKinds : ScalarType → List Kind
  | .integer _ => [.integer]
  | .boolean => [.boolean, .integer]
  | .single => [.double, .integer]
  | .double => [.double, .integer]
  | .text => [.text]

/-- What a type without parts makes of a value. -/
inductive ScalarType.Yields : (type : ScalarType) → Value →
    Except ConversionError type.Carrier → Prop
  /-- An integer that is in the range of the type is kept. -/
  | inRange {type : IntegerType} {number : Int64} {datum : type.Carrier} :
      datum.val = number.toInt → Yields (.integer type) (.integer number) (.ok datum)
  /-- An integer that is not is named. -/
  | outOfRange {type : IntegerType} {number : Int64} :
      ¬(type.least ≤ number.toInt ∧ number.toInt ≤ type.greatest) →
      Yields (.integer type) (.integer number) (.error (.outOfRange number.toInt))
  | boolean (flag : Bool) : Yields .boolean (.boolean flag) (.ok flag)
  /-- An integer is true if it is not zero. -/
  | nonzero {number : Int64} {flag : Bool} :
      (flag = true ↔ number.toInt ≠ 0) → Yields .boolean (.integer number) (.ok flag)
  | double (number : Double) : Yields .double (.double number) (.ok number)
  | doubleOfInteger (number : Int64) :
      Yields .double (.integer number) (.ok (Binary.ofInt number.toInt))
  | single (number : Double) : Yields .single (.double number) (.ok number.convert)
  | singleOfInteger (number : Int64) :
      Yields .single (.integer number) (.ok (Binary.ofInt number.toInt : Double).convert)
  | text (content : String) : Yields .text (.text content) (.ok content)
  /-- A value of a kind that the type does not read is refused. -/
  | mismatch {type : ScalarType} {value : Value} :
      value.kind ∉ type.readKinds → Yields type value (.error (.mismatch type.expected value.kind))

/-- An integer is found to be in range exactly as the datum that it is. -/
theorem IntegerType.ofInt?_eq_some_iff (type : IntegerType) (number : Int)
    (datum : type.Carrier) : type.ofInt? number = some datum ↔ datum.val = number := by
  refine ⟨IntegerType.val_of_ofInt?, ?_⟩
  rintro rfl
  exact dif_pos datum.property

theorem IntegerType.ofInt?_eq_none_iff (type : IntegerType) (number : Int) :
    type.ofInt? number = none ↔ ¬(type.least ≤ number ∧ number ≤ type.greatest) := by
  unfold IntegerType.ofInt?
  split <;> simp_all

/-- A value of a kind that the type does not read is refused. -/
theorem ScalarType.ofValue_of_unread {type : ScalarType} {value : Value}
    (unread : value.kind ∉ type.readKinds) :
    type.ofValue value = .error (.mismatch type.expected value.kind) := by
  cases type <;> cases value <;> first
    | rfl
    | simp [ScalarType.readKinds, Value.kind] at unread

/-- Of an integer that the type reads, it decides whether it is in range. -/
theorem ScalarType.ofValue_integer (type : IntegerType) (number : Int64) :
    (ScalarType.integer type).Yields (.integer number)
      ((ScalarType.integer type).ofValue (.integer number)) := by
  simp only [ScalarType.ofValue]
  cases found : type.ofInt? number.toInt with
  | some datum => exact .inRange ((type.ofInt?_eq_some_iff _ _).mp found)
  | none => exact .outOfRange ((type.ofInt?_eq_none_iff _).mp found)

/-- **Every value is dealt with by a rule**, for a type without parts. -/
theorem ScalarType.yields_ofValue (type : ScalarType) (value : Value) :
    type.Yields value (type.ofValue value) := by
  by_cases read : value.kind ∈ type.readKinds
  · -- Only the kinds that the type reads are left.
    cases type <;> cases value <;> simp [ScalarType.readKinds, Value.kind] at read
    case integer.integer type number => exact ScalarType.ofValue_integer type number
    case boolean.integer number => exact .nonzero bne_iff_ne
    case boolean.boolean flag => exact .boolean flag
    case single.integer number => exact .singleOfInteger number
    case single.double number => exact .single number
    case double.integer number => exact .doubleOfInteger number
    case double.double number => exact .double number
    case text.text content => exact .text content
  · rw [ScalarType.ofValue_of_unread read]
    exact .mismatch read

/-- **The rules leave no choice.** -/
theorem ScalarType.Yields.ofValue_eq {type : ScalarType} {value : Value}
    {outcome : Except ConversionError type.Carrier} (yields : type.Yields value outcome) :
    type.ofValue value = outcome := by
  cases yields with
  | @inRange type number datum same =>
    simp only [ScalarType.ofValue, (type.ofInt?_eq_some_iff _ datum).mpr same]
  | @outOfRange type number outside =>
    simp only [ScalarType.ofValue, (type.ofInt?_eq_none_iff _).mpr outside]
  | nonzero isTrue => exact congrArg Except.ok (Bool.eq_iff_iff.mpr (bne_iff_ne.trans isTrue.symm))
  | mismatch unread => exact ScalarType.ofValue_of_unread unread
  | _ => rfl

theorem ScalarType.ofValue_eq_iff (type : ScalarType) (value : Value)
    (outcome : Except ConversionError type.Carrier) :
    type.ofValue value = outcome ↔ type.Yields value outcome :=
  ⟨fun same => same ▸ type.yields_ofValue value, ScalarType.Yields.ofValue_eq⟩

/-! ### The items of an array -/

/-- The items have data exactly if each of them has, and the data stand in the same order. -/
theorem ScalarType.ofItems_eq_ok_iff (type : ScalarType) (items : List Value)
    (data : List type.Carrier) : type.ofItems items = .ok data ↔
      List.Forall₂ (fun item datum => type.ofValue item = .ok datum) items data := by
  induction items generalizing data with
  | nil =>
    rw [List.forall₂_nil_left_iff]
    exact ⟨fun same => (Except.ok.inj same).symm, fun same => same ▸ rfl⟩
  | cons item rest ih =>
    rw [List.forall₂_cons_left_iff]
    simp only [← ih]
    constructor
    · intro read
      rw [ScalarType.ofItems] at read
      cases first : type.ofValue item with
      | error cause =>
        rw [first] at read
        cases read
      | ok datum =>
        cases others : type.ofItems rest with
        | error cause =>
          rw [first, others] at read
          cases read
        | ok more =>
          rw [first, others] at read
          exact ⟨datum, more, rfl, rfl, (Except.ok.inj read).symm⟩
    · rintro ⟨datum, more, first, others, rfl⟩
      rw [ScalarType.ofItems, first, others]
      rfl

/-- The items have no data exactly if one of them has none while all before it have, and that item
gives the cause. -/
theorem ScalarType.ofItems_eq_error_iff (type : ScalarType) (items : List Value)
    (cause : ConversionError) : type.ofItems items = .error cause ↔
      ∃ before item after, items = before ++ item :: after ∧
        (∀ earlier ∈ before, ∃ datum, type.ofValue earlier = .ok datum) ∧
        type.ofValue item = .error cause := by
  induction items with
  | nil =>
    refine iff_of_false (fun failed => by cases failed) ?_
    rintro ⟨before, item, after, split, -⟩
    exact List.append_ne_nil_of_right_ne_nil before (List.cons_ne_nil item after) split.symm
  | cons head rest ih =>
    rw [ScalarType.ofItems]
    cases first : type.ofValue head with
    | error other =>
      constructor
      · intro failed
        cases failed
        exact ⟨[], head, rest, rfl, fun _ absent => (List.not_mem_nil absent).elim, first⟩
      · rintro ⟨_ | ⟨earlier, before⟩, item, after, split, readable, failed⟩
        · rw [← (List.cons.inj split).1, first] at failed
          exact congrArg Except.error (Except.error.inj failed)
        · obtain ⟨datum, read⟩ := readable earlier List.mem_cons_self
          rw [← (List.cons.inj split).1, first] at read
          cases read
    | ok datum =>
      have onward : (do return datum :: (← type.ofItems rest)) = .error cause ↔
          type.ofItems rest = .error cause := by
        cases type.ofItems rest with
        | error other => exact Iff.rfl
        | ok more => exact iff_of_false (fun same => by cases same) (fun same => by cases same)
      refine onward.trans (ih.trans ?_)
      constructor
      · rintro ⟨before, item, after, rfl, readable, failed⟩
        exact ⟨head :: before, item, after, rfl,
          List.forall_mem_cons.mpr ⟨⟨datum, first⟩, readable⟩, failed⟩
      · rintro ⟨_ | ⟨earlier, before⟩, item, after, split, readable, failed⟩
        · rw [← (List.cons.inj split).1, first] at failed
          cases failed
        · exact ⟨before, item, after, (List.cons.inj split).2,
            (List.forall_mem_cons.mp readable).2, failed⟩

/-! ### All types -/

/-- The kind of values that a type of members is named after when it refuses one. -/
def MemberType.expected : MemberType → Kind
  | .scalar type => type.expected
  | .bytes => .binary
  | .list _ => .array

/-- The kinds of values that a type of members reads. -/
def MemberType.readKinds : MemberType → List Kind
  | .scalar type => type.readKinds
  | .bytes => [.binary]
  | .list _ => [.array]

/-- What a type of members makes of a value. -/
inductive MemberType.Yields : (type : MemberType) → Value →
    Except ConversionError type.Carrier → Prop
  | scalar {type : ScalarType} {value : Value} {outcome : Except ConversionError type.Carrier} :
      type.Yields value outcome → Yields (.scalar type) value outcome
  | bytes (content : List UInt8) : Yields .bytes (.binary content) (.ok content)
  /-- An array all of whose items have data has these data, in the same order. -/
  | list {element : ScalarType} {items : List Value} {data : List element.Carrier} :
      List.Forall₂ (fun item datum => element.Yields item (.ok datum)) items data →
      Yields (.list element) (.array items) (.ok data)
  /-- Otherwise the leftmost item that has none gives the cause. -/
  | leftmost {element : ScalarType} {before after : List Value} {item : Value}
      {cause : ConversionError} :
      (∀ earlier ∈ before, ∃ datum, element.Yields earlier (.ok datum)) →
      element.Yields item (.error cause) →
      Yields (.list element) (.array (before ++ item :: after)) (.error cause)
  /-- A value of a kind that the type does not read is refused. -/
  | mismatch {type : MemberType} {value : Value} :
      value.kind ∉ type.readKinds → Yields type value (.error (.mismatch type.expected value.kind))

/-- A value of a kind that the type does not read is refused. -/
theorem MemberType.ofValue_of_unread {type : MemberType} {value : Value}
    (unread : value.kind ∉ type.readKinds) :
    type.ofValue value = .error (.mismatch type.expected value.kind) := by
  cases type with
  | scalar type => exact ScalarType.ofValue_of_unread unread
  | bytes => cases value <;> first | rfl | exact absurd List.mem_cons_self unread
  | list element => cases value <;> first | rfl | exact absurd List.mem_cons_self unread

/-- Every array is dealt with by a rule. -/
theorem ScalarType.yields_ofItems (element : ScalarType) (items : List Value) :
    (MemberType.list element).Yields (.array items) (element.ofItems items) := by
  cases read : element.ofItems items with
  | ok data =>
    refine .list (((element.ofItems_eq_ok_iff items data).mp read).imp fun item datum first => ?_)
    exact (element.ofValue_eq_iff item _).mp first
  | error cause =>
    obtain ⟨before, item, after, rfl, readable, failed⟩ :=
      (element.ofItems_eq_error_iff items cause).mp read
    refine .leftmost (fun earlier inside => ?_) ((element.ofValue_eq_iff item _).mp failed)
    obtain ⟨datum, first⟩ := readable earlier inside
    exact ⟨datum, (element.ofValue_eq_iff earlier _).mp first⟩

/-- **Every value is dealt with by a rule.** -/
theorem MemberType.yields_ofValue (type : MemberType) (value : Value) :
    type.Yields value (type.ofValue value) := by
  by_cases read : value.kind ∈ type.readKinds
  · cases type with
    | scalar type => exact .scalar (type.yields_ofValue value)
    | bytes =>
      cases value <;> simp [MemberType.readKinds, Value.kind] at read
      case binary content => exact .bytes content
    | list element =>
      cases value <;> simp [MemberType.readKinds, Value.kind] at read
      case array items => exact element.yields_ofItems items
  · rw [MemberType.ofValue_of_unread read]
    exact .mismatch read

/-- **The rules leave no choice.** -/
theorem MemberType.Yields.ofValue_eq {type : MemberType} {value : Value}
    {outcome : Except ConversionError type.Carrier} (yields : type.Yields value outcome) :
    type.ofValue value = outcome := by
  cases yields with
  | scalar yields => exact yields.ofValue_eq
  | bytes content => rfl
  | @list element items data each =>
    exact (element.ofItems_eq_ok_iff items data).mpr (each.imp fun _ _ first => first.ofValue_eq)
  | @leftmost element before after item cause readable failed =>
    refine (element.ofItems_eq_error_iff _ cause).mpr
      ⟨before, item, after, rfl, fun earlier inside => ?_, failed.ofValue_eq⟩
    obtain ⟨datum, first⟩ := readable earlier inside
    exact ⟨datum, first.ofValue_eq⟩
  | mismatch unread => exact MemberType.ofValue_of_unread unread

theorem MemberType.ofValue_eq_iff (type : MemberType) (value : Value)
    (outcome : Except ConversionError type.Carrier) :
    type.ofValue value = outcome ↔ type.Yields value outcome :=
  ⟨fun same => same ▸ type.yields_ofValue value, MemberType.Yields.ofValue_eq⟩

/-! ### What is accepted -/

/-- A type of integers accepts the integers in its range. -/
theorem IntegerType.accepts_iff (type : IntegerType) (value : Value) :
    (∃ datum, (MemberType.scalar (.integer type)).ofValue value = .ok datum) ↔
      ∃ number, value = .integer number ∧
        type.least ≤ number.toInt ∧ number.toInt ≤ type.greatest := by
  simp only [MemberType.ofValue_eq_iff]
  constructor
  · rintro ⟨datum, ⟨⟨same⟩⟩⟩
    exact ⟨_, rfl, same ▸ datum.property⟩
  · rintro ⟨number, rfl, inRange⟩
    exact ⟨⟨number.toInt, inRange⟩, .scalar (.inRange rfl)⟩

/-- A type of lists accepts the arrays all of whose items its element type accepts. -/
theorem MemberType.accepts_list_iff (element : ScalarType) (value : Value) :
    (∃ data, (MemberType.list element).ofValue value = .ok data) ↔
      ∃ items, value = .array items ∧
        ∀ item ∈ items, ∃ datum, element.ofValue item = .ok datum := by
  constructor
  · rintro ⟨data, read⟩
    cases (MemberType.ofValue_eq_iff _ _ _).mp read with
    | @list _ items _ each =>
      refine ⟨items, rfl, ?_⟩
      clear read
      induction each with
      | nil => exact List.forall_mem_nil _
      | cons first _ ih => exact List.forall_mem_cons.mpr ⟨⟨_, first.ofValue_eq⟩, ih⟩
  · rintro ⟨items, rfl, readable⟩
    cases read : element.ofItems items with
    | ok data => exact ⟨data, read⟩
    | error cause =>
      obtain ⟨before, item, after, rfl, -, failed⟩ :=
        (element.ofItems_eq_error_iff items cause).mp read
      obtain ⟨datum, first⟩ := readable item (List.mem_append_right before List.mem_cons_self)
      rw [first] at failed
      cases failed

/-- **What becomes of every value, for every type of members.** The outcome is the one that the
rules say: the datum, or the cause for which there is none. So a type of integers accepts exactly
the integers in its range, as they are, and names each other integer; and a type of lists accepts
exactly the arrays all of whose items are accepted. -/
theorem MemberType.ofValue_outcome :
    (∀ (type : MemberType) (value : Value) (outcome : Except ConversionError type.Carrier),
      type.ofValue value = outcome ↔ type.Yields value outcome) ∧
    (∀ (type : IntegerType) (value : Value),
      (∃ datum, (MemberType.scalar (.integer type)).ofValue value = .ok datum) ↔
        ∃ number, value = .integer number ∧
          type.least ≤ number.toInt ∧ number.toInt ≤ type.greatest) ∧
    ∀ (element : ScalarType) (value : Value),
      (∃ data, (MemberType.list element).ofValue value = .ok data) ↔
        ∃ items, value = .array items ∧
          ∀ item ∈ items, ∃ datum, element.ofValue item = .ok datum :=
  ⟨MemberType.ofValue_eq_iff, IntegerType.accepts_iff, MemberType.accepts_list_iff⟩

/-- Of two texts that are none, the first one decides. -/
example : (MemberType.list .text).ofValue (.array [.text "a", .integer 1, .boolean true]) =
    .error (.mismatch .text .integer) :=
  rfl

end KeyedRecord
