/-
**The code for documents, member by member.**

The mapped members of a record (`Record.mapped`) are the ones that stand in its documents. The code
that the record gets for them is made of four walks: the steps of writing go through the roles, the
variants through the entries, the steps of reading through the entries or the typed members, and
the filled fields through the declared members. `Conformance.Serves` says what the four have in
common: each of them is the list of the mapped members, or of the stored ones among them.

* `TypeExpr.phrase_of_bareName`: a bare type name is all that its type is written as.
* `Conformance.serves_of_emitted`: the code that an expansion emits serves the record.
* `Conformance.Serves.key_eq`: the variant of a mapped member stands for the member's key.
* `Member.IsReadBy.typePhrase_eq`: a step reads the declared type of its member.
-/

import KeyedRecord.Behaviour.Basic
import KeyedRecord.Proofs.Lookup
import KeyedRecord.Proofs.Schema.Classification
import KeyedRecord.Proofs.Schema.Variants

namespace KeyedRecord

/-- A type that is a bare name is written as that name alone. -/
theorem Grammar.TypeExpr.phrase_of_bareName {type : Grammar.TypeExpr} {name : Ident}
    (bare : type.bareName = some name) : type.phrase = name.phrase := by
  unfold Grammar.TypeExpr.bareName at bare
  split at bare
  · rename_i whole
    unfold Grammar.Path.ident? at bare
    split at bare
    · obtain rfl := Option.some.inj bare
      rfl
    · cases bare
  · obtain rfl := Option.some.inj bare
    rfl
  · cases bare

/-! ### The mapped members of a record -/

/-- The key of a member in documents. -/
def Member.wireKey (member : Member) : String :=
  member.facts.wireKey

/-- The mapped members, in order of declaration. -/
def Record.mapped (record : Record) : List Member :=
  record.members.filter fun member => member.facts.IsMapped record.facts

/-- The stored ones among the mapped members. -/
def Record.mappedStored (record : Record) : List Member :=
  record.mapped.filter fun member => !member.isComputed

theorem Record.mapped_facts (record : Record) :
    MemberFacts.mapped record.facts = record.mapped.map Member.facts := by
  show (record.members.map Member.facts).filter _ = _
  rw [List.filter_map]
  rfl

/-- Without need of types no mapped member is computed. -/
theorem Record.mappedStored_eq {record : Record} (free : ¬ NeedsTypes record.facts) :
    record.mappedStored = record.mapped := by
  unfold Record.mappedStored
  rw [List.filter_eq_self]
  intro member inside
  have declared := List.mem_filter.mp inside
  have mapped : member.facts.IsMapped record.facts := of_decide_eq_true declared.2
  rw [Bool.not_eq_true', Bool.eq_false_iff]
  exact fun computed => free ⟨member.facts, List.mem_map_of_mem declared.1, mapped.1, computed⟩

/-! ### What the code has in common -/

/-- What stands on the right of a relation of lists is related to something on the left. -/
theorem exists_related {α β : Type} {related : α → β → Prop} {list : List α} {others : List β}
    (relation : List.Forall₂ related list others) {b : β} (inside : b ∈ others) :
    ∃ a ∈ list, related a b := by
  induction relation with
  | nil => cases inside
  | cons head _ ih =>
    rcases List.mem_cons.mp inside with rfl | inside
    · exact ⟨_, List.mem_cons_self, head⟩
    · obtain ⟨a, member, holds⟩ := ih inside
      exact ⟨a, List.mem_cons_of_mem _ member, holds⟩

/-- The step that writes a mapped member. -/
def Member.writeStep (member : Member) : WriteStep where
  member := member.name
  source := if member.isComputed then .getter else .field
  variant := member.name.variant

/-- The variant of a mapped member, with the member's key. -/
def Member.keyVariant (member : Member) : KeyVariant :=
  ⟨member.name.variant, member.wireKey⟩

/-- A step reads a member: it binds the member's name, under the member's variant, and if it names
a type, it is the declared one. -/
structure Member.IsReadBy (member : Member) (step : ReadStep) : Prop where
  binds : step.member = member.name
  names : step.variant = member.name.variant
  types : ∀ type, step.type = some type → type.phrase = member.type.phrase

/-- Steps that read members bind their names. -/
theorem Member.names_of_isReadBy {members : List Member} {steps : List ReadStep}
    (read : List.Forall₂ Member.IsReadBy members steps) :
    steps.map ReadStep.member = members.map Member.name := by
  induction read with
  | nil => rfl
  | cons isRead _ ih => rw [List.map_cons, List.map_cons, isRead.binds, ih]

/-- **The code serves a record**: it writes the mapped members, declares their variants, which are
distinct, reads the stored ones among them, and fills these from what has been read. -/
structure Conformance.Serves (code : Conformance) (record : Record) : Prop where
  writes : code.writes = record.mapped.map Member.writeStep
  variants : code.keys.variants = record.mapped.map Member.keyVariant
  distinct : (record.mapped.map fun member => member.name.variant).Nodup
  steps : List.Forall₂ Member.IsReadBy record.mappedStored code.reading.steps
  fields : code.reading.fields =
    record.storedMembers.map (Member.filled (record.mappedStored.map Member.name))

/-- An expansion has code for documents if its record has a schema without conflict. -/
theorem exists_schema_of_emitted {record : Record} {code : Conformance}
    (emitted : (Expansion.ofRecord record).conformance? = some code) :
    ∃ schema, record.schema = some schema ∧ schema.keys.conflict? = none ∧
      code = Conformance.ofSchema record schema := by
  unfold Expansion.conformance? Expansion.ofRecord DocumentCode.ofRecord at emitted
  cases found : record.schema with
  | none =>
    rw [found] at emitted
    cases emitted
  | some schema =>
    simp only [found] at emitted
    cases free : schema.keys.conflict? with
    | none =>
      rw [free] at emitted
      exact ⟨schema, rfl, free, (Option.some.inj emitted).symm⟩
    | some cause =>
      rw [free] at emitted
      cases emitted

/-- The entries of a record's schema have the variants and keys of the mapped members. -/
theorem entries_of_schema {record : Record} {schema : Schema}
    (found : record.schema = some schema) :
    schema.keys.entries = record.mapped.map fun member => member.facts.role.entry := by
  rw [(schema_parts found).2.1, record.mapped_facts, List.map_map]
  rfl

/-- The steps that read a record read the stored mapped members. -/
theorem steps_of_schema {record : Record} {schema : Schema}
    (found : record.schema = some schema) :
    List.Forall₂ Member.IsReadBy record.mappedStored (schema.reading record).steps := by
  have typedEq := (schema_parts found).2.2
  unfold Schema.reading
  by_cases needed : NeedsTypes record.facts
  · obtain ⟨typed, isTyped, read⟩ := typedMembers?_eq needed
    rw [typedEq, isTyped]
    have stored : (MemberFacts.mapped record.facts).filter (fun facts => !facts.isComputed) =
        record.mappedStored.map Member.facts := by
      rw [record.mapped_facts, List.filter_map]
      rfl
    rw [stored, List.forall₂_map_left_iff] at read
    refine List.forall₂_map_right_iff.mpr (read.imp fun member typed isRead => ?_)
    obtain ⟨name, declared⟩ := isRead
    refine ⟨name, congrArg Ident.variant name, fun type isType => ?_⟩
    obtain rfl := Option.some.inj isType
    exact (Grammar.TypeExpr.phrase_of_bareName declared).symm
  · rw [typedEq, typedMembers?_eq_none needed, Record.mappedStored_eq needed]
    refine List.forall₂_map_right_iff.mpr ?_
    rw [entries_of_schema found, List.forall₂_map_right_iff, List.forall₂_same]
    exact fun member _ => ⟨rfl, rfl, fun type isType => by cases isType⟩

/-- What a record is filled with depends on the steps by the names that they bind. -/
theorem reading_fields {record : Record} {schema : Schema} :
    (schema.reading record).fields = record.storedMembers.map
      (Member.filled ((schema.reading record).steps.map ReadStep.member)) := by
  unfold Schema.reading
  cases schema.typed with
  | none => rfl
  | some members => rfl

/-- **The code that an expansion emits serves its record.** -/
theorem Conformance.serves_of_emitted {record : Record} {code : Conformance}
    (emitted : (Expansion.ofRecord record).conformance? = some code) : code.Serves record := by
  obtain ⟨schema, found, free, rfl⟩ := exists_schema_of_emitted emitted
  have entries := entries_of_schema found
  have steps := steps_of_schema found
  refine ⟨?_, ?_, ?_, steps, ?_⟩
  · show (schema.roles.filter MemberRole.isIncluded).map MemberRole.writeStep = _
    rw [(schema_parts found).1, roles_included, record.mapped_facts, List.map_map, List.map_map]
    rfl
  · show schema.keys.entries.map (fun entry => (⟨entry.variant, entry.key⟩ : KeyVariant)) = _
    rw [entries, List.map_map]
    refine List.map_congr_left fun member _ => ?_
    exact congrArg (KeyVariant.mk member.name.variant) member.facts.role_entry_key
  · have distinct := KeyTable.variants_nodup free
    rw [KeyTable.variants, entries, List.map_map] at distinct
    exact distinct
  · have bound : (schema.reading record).steps.map ReadStep.member =
        record.mappedStored.map Member.name := Member.names_of_isReadBy steps
    exact reading_fields.trans (by rw [bound])

namespace Conformance.Serves

variable {code : Conformance} {record : Record}

/-- The variant of a mapped member stands for the member's key. -/
theorem key_eq (serves : code.Serves record) {member : Member} (mapped : member ∈ record.mapped) :
    code.keys.keys.key member.name.variant = member.wireKey := by
  have distinct : (code.keys.variants.map KeyVariant.name).Nodup := by
    rw [serves.variants, List.map_map]
    exact serves.distinct
  have listed : member.keyVariant ∈ code.keys.variants := by
    rw [serves.variants]
    exact List.mem_map_of_mem mapped
  have found := find?_of_nodup distinct listed
  simp only [KeyEnumeration.keys]
  rw [show member.name.variant = member.keyVariant.name from rfl, found]
  rfl

end Conformance.Serves

/-- The structure can be declared: no two of its fields have the same name. -/
def Structure.IsDeclarable (declaration : Structure) : Prop :=
  (declaration.fields.map Field.name).Nodup

theorem Record.isDeclarable_structure {record : Record}
    (distinct : (record.members.map Member.name).Nodup) : record.structure.IsDeclarable := by
  show ((record.storedMembers.map Member.field).map Field.name).Nodup
  rw [List.map_map]
  exact distinct.sublist (List.filter_sublist.map _)

/-- The structure of a record gives a stored member its declared type. -/
theorem Record.typeOf_eq {record : Record} (declarable : record.structure.IsDeclarable)
    {member : Member} (stored : member ∈ record.storedMembers) :
    record.structure.typeOf member.name = member.type.phrase := by
  have found := find?_of_nodup declarable (List.mem_map_of_mem (f := Member.field) stored)
  unfold Structure.typeOf
  rw [show member.name = member.field.name from rfl, found]
  rfl

/-- The stored mapped members are stored members of the record. -/
theorem Record.mem_storedMembers {record : Record} {member : Member}
    (mapped : member ∈ record.mappedStored) : member ∈ record.storedMembers := by
  obtain ⟨inside, stored⟩ := List.mem_filter.mp mapped
  exact List.mem_filter.mpr ⟨List.mem_of_mem_filter inside, stored⟩

/-- **A step reads the declared type of its member**, whether it names the type or not. -/
theorem Member.IsReadBy.typePhrase_eq {record : Record} {member : Member} {step : ReadStep}
    (isRead : member.IsReadBy step) (declarable : record.structure.IsDeclarable)
    (stored : member ∈ record.storedMembers) :
    step.typePhrase record.structure = member.type.phrase := by
  unfold ReadStep.typePhrase
  cases named : step.type with
  | none =>
    rw [isRead.binds]
    exact Record.typeOf_eq declarable stored
  | some type => exact isRead.types type named

end KeyedRecord
