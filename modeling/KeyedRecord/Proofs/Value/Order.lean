/-
**Fields in order.**

Fields are in order if their names increase, so that each name stands once, and what they bind
determines them (`Fields.IsOrdered.ext`). Binding a name keeps them in order
(`Fields.IsOrdered.insert`). Of bindings one after the other the last one of a name counts
(`Fields.get?_ofList`), and binding the fields of an ordered list one after the other gives the list
itself (`Fields.ofList_of_ordered`). A value is in order if the fields of each
of its structures are. Canonical values are in order (`Value.canonical_isOrdered`), and a value in
order is its own canonical form (`Value.canonical_of_ordered`).
-/

import KeyedRecord.Proofs.Document.Fields
import KeyedRecord.Proofs.Value.Parts

namespace KeyedRecord

namespace Fields

/-- The names increase. -/
def IsOrdered (fields : Fields) : Prop :=
  fields.Pairwise fun first second => first.1 < second.1

/-- What stands in fields after a binding is the binding or has been there before. -/
theorem mem_insert {name : String} {value : Value} {fields : Fields} {field : String × Value}
    (inside : field ∈ insert name value fields) : field = (name, value) ∨ field ∈ fields := by
  induction fields with
  | nil => exact .inl (List.mem_singleton.mp inside)
  | cons first rest ih =>
    rw [insert] at inside
    split at inside
    · exact List.mem_cons.mp inside
    split at inside
    · exact (List.mem_cons.mp inside).imp_right (List.mem_cons_of_mem first)
    · rcases List.mem_cons.mp inside with rfl | inside
      · exact .inr List.mem_cons_self
      · exact (ih inside).imp_right (List.mem_cons_of_mem first)

/-- A binding before all others stands in front of them. -/
theorem insert_of_lt {name : String} {value : Value} {fields : Fields}
    (before : ∀ field ∈ fields, name < field.1) :
    insert name value fields = (name, value) :: fields := by
  cases fields with
  | nil => rfl
  | cons first rest => rw [insert, if_pos (before first List.mem_cons_self)]

/-- A binding after all others stands behind them. -/
theorem insert_of_gt {name : String} {value : Value} {fields : Fields}
    (after : ∀ field ∈ fields, field.1 < name) :
    insert name value fields = fields ++ [(name, value)] := by
  induction fields with
  | nil => rfl
  | cons first rest ih =>
    have less : first.1 < name := after first List.mem_cons_self
    have notLess : ¬ name < first.1 := fun greater =>
      String.lt_irrefl _ (String.lt_trans less greater)
    have other : ¬ (name == first.1) = true := by
      rw [beq_iff_eq]
      exact fun same => String.lt_irrefl _ (same ▸ less)
    rw [insert, if_neg notLess, if_neg other,
      ih fun field inside => after field (List.mem_cons_of_mem first inside)]
    rfl

/-- Binding a name keeps fields in order. -/
theorem IsOrdered.insert {fields : Fields} (ordered : fields.IsOrdered) (name : String)
    (value : Value) : IsOrdered (Fields.insert name value fields) := by
  induction fields with
  | nil => exact List.pairwise_singleton _ _
  | cons first rest ih =>
    obtain ⟨least, orderedRest⟩ := List.pairwise_cons.mp ordered
    rw [Fields.insert]
    split
    · rename_i less
      refine List.pairwise_cons.mpr ⟨fun field inside => ?_, ordered⟩
      rcases List.mem_cons.mp inside with rfl | inside
      · exact less
      · exact String.lt_trans less (least field inside)
    split
    · rename_i same
      have equal : name = first.1 := eq_of_beq same
      subst equal
      exact List.pairwise_cons.mpr ⟨least, orderedRest⟩
    · rename_i notLess other
      have greater : first.1 < name := by
        rw [beq_iff_eq] at other
        grind
      refine List.pairwise_cons.mpr ⟨fun field inside => ?_, ih orderedRest⟩
      rcases mem_insert inside with rfl | inside
      · exact greater
      · exact least field inside

/-- In ordered fields each name stands once. -/
theorem IsOrdered.nodup_names {fields : Fields} (ordered : fields.IsOrdered) :
    fields.names.Nodup := by
  refine List.pairwise_map.mpr (ordered.imp fun less same => ?_)
  exact String.lt_irrefl _ (same ▸ less)

/-- Binding the fields of an ordered list after others that come before them appends the list. -/
theorem foldl_insert {before fields : Fields} (ordered : IsOrdered (before ++ fields)) :
    fields.foldl (fun fields field => insert field.1 field.2 fields) before =
      before ++ fields := by
  induction fields generalizing before with
  | nil => exact (List.append_nil before).symm
  | cons first rest ih =>
    have last : ∀ field ∈ before, field.1 < first.1 := fun field inside =>
      (List.pairwise_append.mp ordered).2.2 field inside first List.mem_cons_self
    have arranged : before ++ first :: rest = (before ++ [first]) ++ rest := by simp
    rw [List.foldl_cons, insert_of_gt last, arranged]
    rw [arranged] at ordered
    exact ih ordered

/-- **Ordered fields are what binding them one after the other gives.** -/
theorem ofList_of_ordered {fields : Fields} (ordered : fields.IsOrdered) :
    ofList fields = fields :=
  @foldl_insert [] fields ordered

/-- What stands in ordered fields is what they bind. -/
theorem IsOrdered.mem_iff {fields : Fields} (ordered : fields.IsOrdered) (field : String × Value) :
    field ∈ fields ↔ get? fields field.1 = some field.2 :=
  ⟨fun inside => lookup_of_nodup ordered.nodup_names inside, mem_of_lookup⟩

/-- **Fields in order are determined by what they bind.** -/
theorem IsOrdered.ext {fields others : Fields} (ordered : fields.IsOrdered)
    (orderedOthers : others.IsOrdered) (same : ∀ name, get? fields name = get? others name) :
    fields = others := by
  have rearranged : fields.Perm others := by
    refine (List.perm_ext_iff_of_nodup ordered.nodup_names.of_map
      orderedOthers.nodup_names.of_map).mpr fun field => ?_
    rw [ordered.mem_iff, orderedOthers.mem_iff, same]
  refine rearranged.eq_of_pairwise (fun first second _ _ less greater => ?_) ordered orderedOthers
  exact absurd (String.lt_trans less greater) (String.lt_irrefl _)

/-- Bindings one after the other: the last one of a name counts, before what was bound already. -/
theorem get?_foldl_insert (bindings : List (String × Value)) (fields : Fields) (name : String) :
    get? (bindings.foldl (fun fields field => insert field.1 field.2 fields) fields) name =
      (bindings.reverse.lookup name).or (get? fields name) := by
  induction bindings generalizing fields with
  | nil => rfl
  | cons first rest ih =>
    have single : List.lookup name [first] = if name = first.1 then some first.2 else none :=
      get?_cons first [] name
    rw [List.foldl_cons, ih, get?_insert, List.reverse_cons, List.lookup_append, Option.or_assoc,
      single]
    by_cases same : name = first.1
    · simp only [if_pos same, Option.some_or]
    · simp only [if_neg same, Option.none_or]

theorem get?_ofList (bindings : List (String × Value)) (name : String) :
    get? (ofList bindings) name = bindings.reverse.lookup name := by
  rw [ofList, get?_foldl_insert]
  exact Option.or_none

theorem isOrdered_ofList (bindings : List (String × Value)) : IsOrdered (ofList bindings) := by
  suffices holds : ∀ fields : Fields, fields.IsOrdered →
      IsOrdered (bindings.foldl (fun fields field => insert field.1 field.2 fields) fields) from
    holds [] .nil
  induction bindings with
  | nil => exact fun _ ordered => ordered
  | cons first rest ih => exact fun fields ordered => ih _ (ordered.insert first.1 first.2)

end Fields

namespace Value

/-- The fields of every structure in the value are in order. -/
inductive IsOrdered : Value → Prop
  | integer (value : Int64) : IsOrdered (.integer value)
  | boolean (value : Bool) : IsOrdered (.boolean value)
  | text (value : String) : IsOrdered (.text value)
  | binary (bytes : List UInt8) : IsOrdered (.binary bytes)
  | double (value : Double) : IsOrdered (.double value)
  | struct {fields : Fields} (ordered : fields.IsOrdered)
      (parts : ∀ field ∈ fields, IsOrdered field.2) : IsOrdered (.struct fields)
  | array {items : List Value} (parts : ∀ item ∈ items, IsOrdered item) : IsOrdered (.array items)

/-- **A canonical value is in order.** -/
theorem canonical_isOrdered (value : Value) : value.canonical.IsOrdered := by
  induction value using inductionOnParts with
  | integer value => exact .integer value
  | boolean value => exact .boolean value
  | text value => exact .text value
  | binary bytes => exact .binary bytes
  | double value => exact .double value
  | struct fields parts =>
    rw [canonical]
    suffices both : Fields.IsOrdered (canonical.canonicalFields fields) ∧
        ∀ field ∈ canonical.canonicalFields fields, field.2.IsOrdered from .struct both.1 both.2
    induction fields with
    | nil => exact ⟨.nil, fun _ inside => by cases inside⟩
    | cons first rest ih =>
      obtain ⟨part, partsRest⟩ := List.forall_mem_cons.mp parts
      obtain ⟨ordered, orderedParts⟩ := ih partsRest
      refine ⟨ordered.insert first.1 first.2.canonical, fun field inside => ?_⟩
      rcases Fields.mem_insert inside with rfl | inside
      · exact part
      · exact orderedParts field inside
  | array items parts =>
    rw [canonical]
    refine .array fun item inside => ?_
    induction items with
    | nil => cases inside
    | cons first rest ih =>
      obtain ⟨part, partsRest⟩ := List.forall_mem_cons.mp parts
      rcases List.mem_cons.mp inside with rfl | inside
      · exact part
      · exact ih partsRest inside

/-- **A value in order is its own canonical form.** -/
theorem canonical_of_ordered {value : Value} (ordered : value.IsOrdered) :
    value.canonical = value := by
  induction ordered with
  | integer value => rfl
  | boolean value => rfl
  | text value => rfl
  | binary bytes => rfl
  | double value => rfl
  | struct ordered parts same =>
    rename_i fields
    rw [canonical]
    congr 1
    induction fields with
    | nil => rfl
    | cons first rest ih =>
      obtain ⟨least, orderedRest⟩ := List.pairwise_cons.mp ordered
      obtain ⟨sameFirst, sameRest⟩ := List.forall_mem_cons.mp same
      rw [canonical.canonicalFields, sameFirst,
        ih orderedRest (List.forall_mem_cons.mp parts).2 sameRest]
      exact Fields.insert_of_lt least
  | array parts same =>
    rename_i items
    rw [canonical]
    congr 1
    induction items with
    | nil => rfl
    | cons first rest ih =>
      obtain ⟨sameFirst, sameRest⟩ := List.forall_mem_cons.mp same
      rw [canonical.canonicalItems, sameFirst, ih (List.forall_mem_cons.mp parts).2 sameRest]

/-! ### Canonical forms, part by part -/

/-- Canonical fields bind the canonical forms of what is bound. -/
theorem get?_canonicalFields (fields : Fields) (name : String) :
    Fields.get? (canonical.canonicalFields fields) name = (fields.get? name).map canonical := by
  induction fields with
  | nil => rfl
  | cons first rest ih =>
    rw [canonical.canonicalFields, Fields.get?_insert, Fields.get?_cons, ih]
    by_cases same : name = first.1
    · simp [same]
    · simp [same]

theorem isOrdered_canonicalFields (fields : Fields) :
    Fields.IsOrdered (canonical.canonicalFields fields) := by
  have ordered := canonical_isOrdered (.struct fields)
  rw [canonical] at ordered
  cases ordered with
  | struct ordered parts => exact ordered

/-- The items of a canonical array. -/
theorem canonical_array (items : List Value) :
    (array items).canonical = .array (items.map canonical) := by
  rw [canonical]
  congr 1
  induction items with
  | nil => rfl
  | cons item rest ih => rw [canonical.canonicalItems, ih, List.map_cons]

end Value

end KeyedRecord
