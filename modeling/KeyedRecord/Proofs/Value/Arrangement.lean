/-
**Fields in any order.**

The fields of a structure have no order of their own, so a value can be written out with the fields
of every structure in it, however deep, in any order (`Value.Rearranged`). Rearranging keeps the
floating-point numbers of a value and its nesting. As long as each name is bound once
(`Value.BindsOnce`), it keeps the canonical form too, and it reaches every value of that form: such
values are rearrangements of one another exactly if they are equal.

* `Value.Rearranged.canonical_eq`: a rearranged value has the same canonical form.
* `Value.rearranged_iff_beq`: what can be reached by rearranging.
* `Value.Rearranged.reread_eq`: what a format without bytes gives back of a rearranged value.
-/

import KeyedRecord.Proofs.Value.Equality
import KeyedRecord.Proofs.Value.Unpacked
import Mathlib.Data.List.Forall2
import Mathlib.Order.Nat

namespace KeyedRecord

namespace Value

/-! ### Names that are bound once -/

/-- Every structure in the value binds each name once. -/
inductive BindsOnce : Value → Prop
  | integer (value : Int64) : BindsOnce (.integer value)
  | boolean (value : Bool) : BindsOnce (.boolean value)
  | text (value : String) : BindsOnce (.text value)
  | binary (bytes : List UInt8) : BindsOnce (.binary bytes)
  | double (value : Double) : BindsOnce (.double value)
  | struct {fields : Fields} (once : fields.names.Nodup)
      (parts : ∀ field ∈ fields, BindsOnce field.2) : BindsOnce (.struct fields)
  | array {items : List Value} (parts : ∀ item ∈ items, BindsOnce item) : BindsOnce (.array items)

theorem bindsOnce_struct_iff (fields : Fields) :
    (struct fields).BindsOnce ↔ fields.names.Nodup ∧ ∀ field ∈ fields, field.2.BindsOnce :=
  ⟨fun | .struct once parts => ⟨once, parts⟩, fun both => .struct both.1 both.2⟩

theorem bindsOnce_array_iff (items : List Value) :
    (array items).BindsOnce ↔ ∀ item ∈ items, item.BindsOnce :=
  ⟨fun | .array parts => parts, .array⟩

/-- A value in order binds each name once. -/
theorem IsOrdered.bindsOnce {value : Value} (ordered : value.IsOrdered) : value.BindsOnce := by
  induction ordered with
  | integer value => exact .integer value
  | boolean value => exact .boolean value
  | text value => exact .text value
  | binary bytes => exact .binary bytes
  | double value => exact .double value
  | struct ordered _ parts => exact .struct ordered.nodup_names parts
  | array _ parts => exact .array parts

/-! ### Rearranging -/

/-- **The same value with fields in another order**, those of the value itself or of any part. -/
inductive Rearranged : Value → Value → Prop
  | refl (value : Value) : Rearranged value value
  | trans {first second third : Value} :
      Rearranged first second → Rearranged second third → Rearranged first third
  | struct {fields others : Fields} : fields.Perm others →
      Rearranged (.struct fields) (.struct others)
  | field {before after : Fields} {name : String} {value other : Value} :
      Rearranged value other →
      Rearranged (.struct (before ++ (name, value) :: after))
        (.struct (before ++ (name, other) :: after))
  | item {before after : List Value} {value other : Value} : Rearranged value other →
      Rearranged (.array (before ++ value :: after)) (.array (before ++ other :: after))

namespace Rearranged

variable {value other : Value}

theorem symm (rearranged : value.Rearranged other) : other.Rearranged value := by
  induction rearranged with
  | refl value => exact .refl value
  | trans _ _ ihFirst ihSecond => exact .trans ihSecond ihFirst
  | struct permuted => exact .struct permuted.symm
  | field _ ih => exact .field ih
  | item _ ih => exact .item ih

theorem bindsOnce_iff (rearranged : value.Rearranged other) :
    value.BindsOnce ↔ other.BindsOnce := by
  induction rearranged with
  | refl value => rfl
  | trans _ _ ihFirst ihSecond => exact ihFirst.trans ihSecond
  | struct permuted =>
    have names : _ ↔ _ := (permuted.map Prod.fst).nodup_iff
    simp only [bindsOnce_struct_iff, Fields.names, names, permuted.mem_iff]
  | field _ ih => simp only [bindsOnce_struct_iff, Fields.names, List.map_append, List.map_cons,
      List.forall_mem_append, List.forall_mem_cons, ih]
  | item _ ih =>
    simp only [bindsOnce_array_iff, List.forall_mem_append, List.forall_mem_cons, ih]

theorem isFinite_iff (rearranged : value.Rearranged other) : value.IsFinite ↔ other.IsFinite := by
  induction rearranged with
  | refl value => rfl
  | trans _ _ ihFirst ihSecond => exact ihFirst.trans ihSecond
  | struct permuted => simp only [isFinite_struct_iff, permuted.mem_iff]
  | field _ ih =>
    simp only [isFinite_struct_iff, List.forall_mem_append, List.forall_mem_cons, ih]
  | item _ ih =>
    simp only [isFinite_array_iff, List.forall_mem_append, List.forall_mem_cons, ih]

theorem nesting_eq (rearranged : value.Rearranged other) : value.nesting = other.nesting := by
  induction rearranged with
  | refl value => rfl
  | trans _ _ ihFirst ihSecond => exact ihFirst.trans ihSecond
  | struct permuted =>
    refine congrArg (1 + ·) (eq_of_forall_ge_iff fun depth => ?_)
    simp only [nestingOfFields_le_iff, permuted.mem_iff]
  | field _ ih =>
    refine congrArg (1 + ·) (eq_of_forall_ge_iff fun depth => ?_)
    simp only [nestingOfFields_le_iff, List.forall_mem_append, List.forall_mem_cons, ih]
  | item _ ih =>
    refine congrArg (1 + ·) (eq_of_forall_ge_iff fun depth => ?_)
    simp only [nestingOfItems_le_iff, List.forall_mem_append, List.forall_mem_cons, ih]

theorem unpacked (rearranged : value.Rearranged other) :
    value.unpacked.Rearranged other.unpacked := by
  induction rearranged with
  | refl value => exact .refl _
  | trans _ _ ihFirst ihSecond => exact .trans ihFirst ihSecond
  | struct permuted =>
    rw [unpacked_struct, unpacked_struct]
    exact .struct (permuted.map _)
  | field _ ih =>
    simp only [unpacked_struct, List.map_append, List.map_cons]
    exact .field ih
  | item _ ih =>
    simp only [unpacked_array, List.map_append, List.map_cons]
    exact .item ih

/-- **A rearranged value has the same canonical form**, as long as each name is bound once. -/
theorem canonical_eq (rearranged : value.Rearranged other) (once : value.BindsOnce) :
    value.canonical = other.canonical := by
  induction rearranged with
  | refl value => rfl
  | trans first _ ihFirst ihSecond =>
    exact (ihFirst once).trans (ihSecond (first.bindsOnce_iff.mp once))
  | struct permuted =>
    have distinct := ((bindsOnce_struct_iff _).mp once).1
    refine congrArg Value.struct ((isOrdered_canonicalFields _).ext (isOrdered_canonicalFields _)
      fun name => ?_)
    rw [get?_canonicalFields, get?_canonicalFields, Fields.get?,
      lookup_eq_of_perm permuted distinct]
    rfl
  | field _ ih =>
    obtain ⟨-, parts⟩ := (bindsOnce_struct_iff _).mp once
    have same := ih (parts _ (List.mem_append_right _ List.mem_cons_self))
    refine congrArg Value.struct ((isOrdered_canonicalFields _).ext (isOrdered_canonicalFields _)
      fun name => ?_)
    rw [get?_canonicalFields, get?_canonicalFields, Fields.get?, Fields.get?, List.lookup_append,
      List.lookup_append, Option.map_or, Option.map_or, List.lookup_cons, List.lookup_cons]
    split
    · rw [Option.map_some, Option.map_some, same]
    · rfl
  | item _ ih =>
    have same := ih ((bindsOnce_array_iff _).mp once _ (by simp))
    simp only [canonical_array, List.map_append, List.map_cons, same]

/-- Parts of fields can be rearranged one after the other. -/
theorem struct_of_parts {change : Value → Value} (before : Fields) {fields : Fields}
    (parts : ∀ field ∈ fields, (change field.2).Rearranged field.2) :
    Rearranged (.struct (before ++ fields.map fun field => (field.1, change field.2)))
      (.struct (before ++ fields)) := by
  induction fields generalizing before with
  | nil => exact .refl _
  | cons first rest ih =>
    obtain ⟨part, parts⟩ := List.forall_mem_cons.mp parts
    have others := ih (before ++ [first]) parts
    simp only [List.append_assoc, List.singleton_append] at others
    exact .trans (.field part) others

/-- The items of an array can be rearranged one after the other. -/
theorem array_of_parts {change : Value → Value} (before : List Value) {items : List Value}
    (parts : ∀ item ∈ items, (change item).Rearranged item) :
    Rearranged (.array (before ++ items.map change)) (.array (before ++ items)) := by
  induction items generalizing before with
  | nil => exact .refl _
  | cons first rest ih =>
    obtain ⟨part, parts⟩ := List.forall_mem_cons.mp parts
    have others := ih (before ++ [first]) parts
    simp only [List.append_assoc, List.singleton_append] at others
    exact .trans (.item part) others

end Rearranged

/-! ### Canonical forms -/

/-- Fields that bind each name once are canonical fields in another order. -/
theorem perm_canonicalFields {fields : Fields} (once : fields.names.Nodup) :
    (canonical.canonicalFields fields).Perm
      (fields.map fun field => (field.1, field.2.canonical)) := by
  have ordered := isOrdered_canonicalFields fields
  have names : (fields.map fun field => (field.1, field.2.canonical)).map Prod.fst =
      fields.names := by
    rw [List.map_map]
    rfl
  have distinct : (fields.map fun field => (field.1, field.2.canonical)).Nodup :=
    List.Nodup.of_map Prod.fst (names ▸ once)
  refine (List.perm_ext_iff_of_nodup ordered.nodup_names.of_map distinct).mpr fun field => ?_
  rw [ordered.mem_iff, get?_canonicalFields, Option.map_eq_some_iff, List.mem_map]
  constructor
  · rintro ⟨value, bound, same⟩
    exact ⟨(field.1, value), mem_of_lookup bound, Prod.ext rfl same⟩
  · rintro ⟨found, inside, rfl⟩
    exact ⟨found.2, lookup_of_nodup once inside, rfl⟩

/-- **A value is its canonical form, rearranged**, if it binds each name once. -/
theorem canonical_rearranged {value : Value} (once : value.BindsOnce) :
    value.canonical.Rearranged value := by
  induction once with
  | integer | boolean | text | binary | double => exact .refl _
  | struct once _ ih =>
    rw [canonical]
    exact .trans (.struct (perm_canonicalFields once)) (.struct_of_parts [] ih)
  | array _ ih =>
    rw [canonical_array]
    exact .array_of_parts [] ih

/-- **Values that bind each name once are rearrangements of one another exactly if they are
equal.** -/
theorem rearranged_iff_beq {value other : Value} (once : value.BindsOnce)
    (onceOther : other.BindsOnce) : value.Rearranged other ↔ (value == other) = true := by
  rw [beq_iff]
  refine ⟨fun rearranged => rearranged.canonical_eq once, fun same => ?_⟩
  exact (canonical_rearranged once).symm.trans (same ▸ canonical_rearranged onceOther)

/-- Fields that bind each name once have the canonical form that binding them one after the other
gives. -/
theorem canonicalFields_eq_ofList {fields : Fields} (once : fields.names.Nodup) :
    canonical.canonicalFields fields =
      Fields.ofList (fields.map fun field => (field.1, field.2.canonical)) := by
  have distinct : ((canonical.canonicalFields fields).map Prod.fst).Nodup :=
    (isOrdered_canonicalFields fields).nodup_names
  refine (isOrdered_canonicalFields fields).ext (Fields.isOrdered_ofList _) fun name => ?_
  rw [Fields.get?_ofList, Fields.get?]
  exact lookup_eq_of_perm ((perm_canonicalFields once).trans (List.reverse_perm _).symm) distinct
    name

/-! ### Unpacking -/

theorem IsOrdered.unpacked {value : Value} (ordered : value.IsOrdered) :
    value.unpacked.IsOrdered := by
  induction ordered with
  | integer value => exact .integer value
  | boolean value => exact .boolean value
  | text value => exact .text value
  | double value => exact .double value
  | binary bytes =>
    refine .array fun item inside => ?_
    obtain ⟨byte, -, rfl⟩ := List.mem_map.mp inside
    exact .integer _
  | struct ordered _ parts =>
    rw [unpacked_struct]
    exact .struct ordered.unpacked (List.forall_mem_map.mpr parts)
  | array _ parts =>
    rw [unpacked_array]
    exact .array (List.forall_mem_map.mpr parts)

/-- The value as a format without bytes gives it back: bytes are arrays of numbers, and fields are
in order. -/
def reread (value : Value) : Value :=
  value.unpacked.canonical

theorem reread_binary (bytes : List UInt8) :
    (binary bytes).reread = .array (bytes.map ofByte) :=
  canonical_of_ordered (IsOrdered.binary bytes).unpacked

theorem reread_array (items : List Value) : (array items).reread = .array (items.map reread) := by
  rw [reread, unpacked_array, canonical_array, List.map_map]
  rfl

theorem reread_struct {fields : Fields} (once : fields.names.Nodup) :
    (struct fields).reread = ofFields (fields.map fun field => (field.1, field.2.reread)) := by
  have names : Fields.names (fields.map fun field => (field.1, field.2.unpacked)) =
      fields.names := by
    rw [Fields.names, List.map_map]
    rfl
  rw [reread, unpacked_struct, canonical, canonicalFields_eq_ofList (names ▸ once), List.map_map]
  rfl

/-- **However a value is arranged, it is given back as its canonical form, unpacked.** -/
theorem Rearranged.reread_eq {value arranged : Value}
    (rearranged : value.canonical.Rearranged arranged) :
    arranged.reread = value.canonical.unpacked := by
  have ordered := value.canonical_isOrdered.unpacked
  rw [reread, ← rearranged.unpacked.canonical_eq ordered.bindsOnce, canonical_of_ordered ordered]

end Value

end KeyedRecord
