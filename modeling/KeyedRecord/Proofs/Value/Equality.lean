/-
**Equality of values.**

Values are compared in canonical form, part by part. Two forms are found to be the same exactly if
they are equal (`Value.sameForm_iff`), so values are equal exactly if their canonical forms are
(`Value.beq_iff`). Values whose fields are in order are equal only to themselves among each other.
-/

import KeyedRecord.Proofs.Value.Order
import KeyedRecord.Value.Equality

namespace KeyedRecord.Value

/-- Fields have the same form exactly if they are equal, if this holds of what they hold. -/
theorem sameFields_iff {fields : Fields}
    (parts : ∀ field ∈ fields, ∀ other, field.2.sameForm other = true ↔ field.2 = other)
    (others : Fields) : sameForm.sameFields fields others = true ↔ fields = others := by
  induction fields generalizing others with
  | nil => cases others <;> simp [sameForm.sameFields]
  | cons first rest ih =>
    obtain ⟨part, partsRest⟩ := List.forall_mem_cons.mp parts
    cases others with
    | nil => simp [sameForm.sameFields]
    | cons other others =>
      rw [sameForm.sameFields, Bool.and_eq_true, Bool.and_eq_true, beq_iff_eq, part,
        ih partsRest, List.cons.injEq, Prod.ext_iff]

/-- Items have the same form exactly if they are equal, if this holds of each of them. -/
theorem sameItems_iff {items : List Value}
    (parts : ∀ item ∈ items, ∀ other, item.sameForm other = true ↔ item = other)
    (others : List Value) : sameForm.sameItems items others = true ↔ items = others := by
  induction items generalizing others with
  | nil => cases others <;> simp [sameForm.sameItems]
  | cons first rest ih =>
    obtain ⟨part, partsRest⟩ := List.forall_mem_cons.mp parts
    cases others with
    | nil => simp [sameForm.sameItems]
    | cons other others =>
      rw [sameForm.sameItems, Bool.and_eq_true, part, ih partsRest, List.cons.injEq]

/-- **Values have the same form exactly if they are equal.** -/
theorem sameForm_iff (value other : Value) : value.sameForm other = true ↔ value = other := by
  induction value using inductionOnParts generalizing other with
  | integer value => cases other <;> simp [sameForm]
  | boolean value => cases other <;> simp [sameForm]
  | text value => cases other <;> simp [sameForm]
  | binary bytes => cases other <;> simp [sameForm]
  | double value => cases other <;> simp [sameForm]
  | struct fields parts =>
    cases other with
    | struct others => rw [sameForm, sameFields_iff parts, struct.injEq]
    | _ => simp [sameForm]
  | array items parts =>
    cases other with
    | array others => rw [sameForm, sameItems_iff parts, array.injEq]
    | _ => simp [sameForm]

/-- **Values are equal exactly if their canonical forms are.** -/
theorem beq_iff (value other : Value) :
    (value == other) = true ↔ value.canonical = other.canonical :=
  sameForm_iff value.canonical other.canonical

theorem beq_of_eq {value other : Value} (same : value = other) : (value == other) = true :=
  (beq_iff value other).mpr (same ▸ rfl)

/-- Values in order are equal only if they are the same. -/
theorem beq_iff_of_ordered {value other : Value} (ordered : value.IsOrdered)
    (orderedOther : other.IsOrdered) : (value == other) = true ↔ value = other := by
  rw [beq_iff, canonical_of_ordered ordered, canonical_of_ordered orderedOther]

end KeyedRecord.Value
