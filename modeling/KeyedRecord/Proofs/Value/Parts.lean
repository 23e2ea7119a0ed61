/-
**The parts of values.**

The parts of a structure are what its fields hold, and the parts of an array are its items. What
holds of every value follows from what holds of its parts (`Value.inductionOnParts`). The nesting of
a value and the floating-point numbers that stand in it are those of its parts.

* `Value.doubles`: the floating-point numbers anywhere in a value.
* `Value.IsFinite`: all of them are finite.
* `nesting_struct_le_iff`, `isFinite_struct_iff`: the same of a structure, by its parts.
-/

import KeyedRecord.Value.Basic

namespace KeyedRecord.Value

/-! ### Induction -/

/-- What holds of a value if it holds of its parts holds of every value. -/
@[elab_as_elim]
theorem inductionOnParts {motive : Value → Prop} (integer : ∀ value, motive (.integer value))
    (boolean : ∀ value, motive (.boolean value)) (text : ∀ value, motive (.text value))
    (binary : ∀ bytes, motive (.binary bytes)) (double : ∀ value, motive (.double value))
    (struct : ∀ fields : Fields, (∀ field ∈ fields, motive field.2) → motive (.struct fields))
    (array : ∀ items : List Value, (∀ item ∈ items, motive item) → motive (.array items)) :
    ∀ value : Value, motive value :=
  @Value.rec motive (fun fields => ∀ field ∈ fields, motive field.2)
    (fun items => ∀ item ∈ items, motive item) (fun field => motive field.2)
    integer boolean text binary double struct array
    (fun _ inside => by cases inside)
    (fun _ _ first rest => List.forall_mem_cons.mpr ⟨first, rest⟩)
    (fun _ inside => by cases inside)
    (fun _ _ first rest => List.forall_mem_cons.mpr ⟨first, rest⟩)
    (fun _ _ holds => holds)

/-! ### Nesting -/

theorem nestingOfFields_le_iff (fields : Fields) (depth : Nat) :
    nesting.nestingOfFields fields ≤ depth ↔ ∀ field ∈ fields, field.2.nesting ≤ depth := by
  induction fields with
  | nil => simp [nesting.nestingOfFields]
  | cons field rest ih => rw [nesting.nestingOfFields, Nat.max_le, ih, List.forall_mem_cons]

theorem nestingOfItems_le_iff (items : List Value) (depth : Nat) :
    nesting.nestingOfItems items ≤ depth ↔ ∀ item ∈ items, item.nesting ≤ depth := by
  induction items with
  | nil => simp [nesting.nestingOfItems]
  | cons item rest ih => rw [nesting.nestingOfItems, Nat.max_le, ih, List.forall_mem_cons]

/-- A structure nests one deeper than its fields. -/
theorem nesting_struct_le_iff (fields : Fields) (depth : Nat) :
    (struct fields).nesting ≤ depth + 1 ↔ ∀ field ∈ fields, field.2.nesting ≤ depth := by
  rw [nesting, Nat.add_comm, Nat.add_le_add_iff_right, nestingOfFields_le_iff]

/-- An array nests one deeper than its items. -/
theorem nesting_array_le_iff (items : List Value) (depth : Nat) :
    (array items).nesting ≤ depth + 1 ↔ ∀ item ∈ items, item.nesting ≤ depth := by
  rw [nesting, Nat.add_comm, Nat.add_le_add_iff_right, nestingOfItems_le_iff]

/-! ### Floating-point numbers -/

/-- The floating-point numbers anywhere in a value. -/
def doubles : Value → List Double
  | .double value => [value]
  | .struct fields => doublesOfFields fields
  | .array items => doublesOfItems items
  | _ => []
where
  /-- The numbers anywhere in the fields. -/
  doublesOfFields : List (String × Value) → List Double
    | [] => []
    | (_, value) :: rest => value.doubles ++ doublesOfFields rest
  /-- The numbers anywhere in the items. -/
  doublesOfItems : List Value → List Double
    | [] => []
    | item :: rest => item.doubles ++ doublesOfItems rest

theorem mem_doubles_struct (fields : Fields) (number : Double) :
    number ∈ (struct fields).doubles ↔ ∃ field ∈ fields, number ∈ field.2.doubles := by
  rw [doubles]
  induction fields with
  | nil => simp [doubles.doublesOfFields]
  | cons field rest ih => simp [doubles.doublesOfFields, ih]

theorem mem_doubles_array (items : List Value) (number : Double) :
    number ∈ (array items).doubles ↔ ∃ item ∈ items, number ∈ item.doubles := by
  rw [doubles]
  induction items with
  | nil => simp [doubles.doublesOfItems]
  | cons item rest ih => simp [doubles.doublesOfItems, ih]

/-- Every floating-point number in the value is finite. -/
def IsFinite (value : Value) : Prop :=
  ∀ number ∈ value.doubles, number.isFinite = true

instance decidableIsFinite (value : Value) : Decidable value.IsFinite :=
  inferInstanceAs (Decidable (∀ number ∈ value.doubles, number.isFinite = true))

theorem isFinite_double_iff (number : Double) :
    (double number).IsFinite ↔ number.isFinite = true := by
  simp [IsFinite, doubles]

theorem isFinite_struct_iff (fields : Fields) :
    (struct fields).IsFinite ↔ ∀ field ∈ fields, field.2.IsFinite := by
  unfold IsFinite
  simp only [mem_doubles_struct]
  exact ⟨fun all field inside number found => all number ⟨field, inside, found⟩,
    fun all number ⟨field, inside, found⟩ => all field inside number found⟩

theorem isFinite_array_iff (items : List Value) :
    (array items).IsFinite ↔ ∀ item ∈ items, item.IsFinite := by
  unfold IsFinite
  simp only [mem_doubles_array]
  exact ⟨fun all item inside number found => all number ⟨item, inside, found⟩,
    fun all number ⟨item, inside, found⟩ => all item inside number found⟩

end KeyedRecord.Value
