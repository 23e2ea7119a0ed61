/-
**Fields as finite maps.**

A list of fields is read by `Fields.get?`. Binding a name changes what is read under that name and
nothing else (`get?_insert`), whatever the order of the list.

* `Fields.IsExtension`: fields that hold what others hold, and some bindings beside.
* `Keys.write_of_free`, `Keys.write_of_taken`: writing succeeds exactly at a key that is free.
* `Keys.read_eq`: what reading a variant gives.
-/

import KeyedRecord.Document.Container
import KeyedRecord.Proofs.Lookup

namespace KeyedRecord

namespace Fields

theorem get?_cons (field : String × Value) (rest : Fields) (key : String) :
    get? (field :: rest) key = if key = field.1 then some field.2 else get? rest key := by
  obtain ⟨name, value⟩ := field
  by_cases same : key = name
  · simp [get?, same]
  · rw [get?, List.lookup_cons, beq_eq_false_iff_ne.mpr same, if_neg same]
    rfl

/-- Binding a name changes what stands under it, and nothing else. -/
theorem get?_insert (fields : Fields) (name : String) (value : Value) (key : String) :
    get? (insert name value fields) key = if key = name then some value else get? fields key := by
  induction fields with
  | nil => exact get?_cons (name, value) [] key
  | cons field rest ih =>
    rw [insert]
    split
    · exact get?_cons (name, value) (field :: rest) key
    split
    · rename_i replaced
      have same : name = field.1 := eq_of_beq replaced
      rw [get?_cons, get?_cons]
      by_cases asked : key = name
      · rw [if_pos asked, if_pos asked]
      · rw [if_neg asked, if_neg asked, if_neg (same ▸ asked)]
    · rename_i kept
      have other : name ≠ field.1 := fun same => kept (beq_iff_eq.mpr same)
      rw [get?_cons, get?_cons, ih]
      by_cases asked : key = field.1
      · rw [if_pos asked, if_pos asked, if_neg (asked ▸ other.symm)]
      · rw [if_neg asked, if_neg asked]

/-- A name is bound exactly if something is read under it. -/
theorem contains_eq (fields : Fields) (name : String) :
    contains fields name = (get? fields name).isSome := by
  rw [Bool.eq_iff_iff, get?, List.lookup_isSome_iff, contains, List.any_eq_true]
  simp only [beq_iff_eq, @eq_comm String name]

/-- The fields hold what was there before and, beside it, each of the bindings. -/
def IsExtension (before : Fields) (bindings : List (String × Value)) (after : Fields) : Prop :=
  ∀ key, get? after key = (bindings.lookup key).or (get? before key)

theorem IsExtension.refl (fields : Fields) : IsExtension fields [] fields :=
  fun _ => rfl

/-- A first binding and then the others are bound together. -/
theorem IsExtension.cons {before after : Fields} {name : String} {value : Value}
    {bindings : List (String × Value)}
    (rest : IsExtension (insert name value before) bindings after)
    (fresh : name ∉ bindings.map Prod.fst) :
    IsExtension before ((name, value) :: bindings) after := by
  intro key
  rw [rest key, get?_insert]
  by_cases same : key = name
  · subst same
    have absent : bindings.lookup key = none := by
      rw [List.lookup_eq_none_iff]
      intro binding member
      exact bne_iff_ne.mpr fun same => fresh (same ▸ List.mem_map_of_mem member)
    rw [absent, Option.none_or, if_pos rfl, List.lookup_cons_self, Option.some_or]
  · rw [if_neg same, List.lookup_cons, beq_eq_false_iff_ne.mpr same]

end Fields

namespace Keys

variable {Variant Datum : Type} (keys : Keys Variant) (fields : Fields) (variant : Variant)

/-- At a free key a value is written. -/
theorem write_of_free (value : Value) (free : Fields.get? fields (keys.key variant) = none) :
    keys.write fields variant value = .ok (Fields.insert (keys.key variant) value fields) := by
  have absent : Fields.contains fields (keys.key variant) = false := by
    rw [Fields.contains_eq, free]
    rfl
  simp [write, absent]

/-- A key that is taken is not written again. -/
theorem write_of_taken (value : Value) (taken : Fields.get? fields (keys.key variant) ≠ none) :
    keys.write fields variant value = .error (.duplicateKey (keys.key variant)) := by
  have present : Fields.contains fields (keys.key variant) = true := by
    rw [Fields.contains_eq, Option.isSome_iff_ne_none]
    exact taken
  simp [write, present]

variable (convert : Value → Except String Datum)

/-- Reading a variant looks up its key, converts what stands there, and says what is wrong. -/
theorem read_eq : keys.read convert fields variant =
    match Fields.get? fields (keys.key variant) with
    | none => .error (.missingKey (keys.key variant))
    | some value => (convert value).mapError (.typeMismatch (keys.key variant)) := by
  simp only [read, readIfPresent]
  cases Fields.get? fields (keys.key variant) with
  | none => rfl
  | some value =>
    simp only
    cases convert value with
    | ok datum => rfl
    | error words => rfl

end Keys

end KeyedRecord
