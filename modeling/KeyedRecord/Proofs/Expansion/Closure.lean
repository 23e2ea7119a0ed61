/-
**Closed code.**

The code for the documents of a record refers to itself: steps name variants of the enumeration, and
the fields that are filled name what steps have bound. `Conformance.IsClosed` says that every such
reference has its target, and the right one, and that writing and reading are about the same stored
members.

* `KeyEnumeration.StandsFor`: a variant that is declared once, with the key of a member.
* `Member.IsFilledBy`: where a field of the literal has its value from.
* `Conformance.isClosed_of_emitted`: the code that an expansion emits is closed.
-/

import KeyedRecord.Proofs.Expansion.Service
import KeyedRecord.Sample.Catalogue

namespace KeyedRecord

/-! ### What closed code is -/

/-- The enumeration declares the variant exactly once, and gives it the key of the member. -/
def KeyEnumeration.StandsFor (enumeration : KeyEnumeration) (variant : String) (member : Member) :
    Prop :=
  (enumeration.variants.map KeyVariant.name).count variant = 1 ∧
    enumeration.keys.key variant = member.wireKey

/-- A field of the literal fills a member: from the local of its name exactly if that is bound, and
otherwise from the member's initial value, or from the default of its type if none is declared. -/
structure Member.IsFilledBy (bound : List Ident) (member : Member) (field : FilledField) :
    Prop where
  names : field.name = member.name
  fromLocal : field.source = .bound ↔ member.name ∈ bound
  fromInitial : member.name ∉ bound → ∀ value, member.initial = some value →
    field.source = .initial value
  fromType : member.name ∉ bound → member.initial = none → field.source = .typeDefault

/-- The names that the steps of reading bind, in order. -/
def Reading.bound (reading : Reading) : List Ident :=
  reading.steps.map ReadStep.member

/-- The code refers to members of the record and to itself without a gap. -/
structure Conformance.IsClosed (code : Conformance) (record : Record) : Prop where
  /-- Each step of writing writes a member, a stored one from its field and a computed one from its
  getter, under a variant that stands for this very member. -/
  writes : ∀ step ∈ code.writes, ∃ member ∈ record.members, step.member = member.name ∧
    step.source = (if member.isComputed then .getter else .field) ∧
    code.keys.StandsFor step.variant member
  /-- Each step of reading reads a stored member, under a variant that stands for this very
  member. -/
  reads : ∀ step ∈ code.reading.steps, ∃ member ∈ record.members, step.member = member.name ∧
    member.isComputed = false ∧ code.keys.StandsFor step.variant member
  /-- A stored member is written exactly if it is read. -/
  written_iff_read : ∀ member ∈ record.storedMembers,
    member.name ∈ code.writes.map WriteStep.member ↔ member.name ∈ code.reading.bound
  /-- No computed member is assigned, neither by a step nor in the literal. -/
  computed : ∀ member ∈ record.members, member.isComputed = true →
    member.name ∉ code.reading.bound ∧
      member.name ∉ code.reading.fields.map FilledField.name
  /-- The literal names the fields of the structure, each once and in order of declaration. -/
  names : code.reading.fields.map FilledField.name =
    (Expansion.ofRecord record).declaration.fields.map Field.name
  once : (code.reading.fields.map FilledField.name).Nodup
  /-- Each field of the literal is filled from what is bound before it, or else from what its
  member declares. -/
  fills : List.Forall₂ (Member.IsFilledBy code.reading.bound) record.storedMembers
    code.reading.fields

/-! ### The walks, one by one -/

/-- The field that fills a stored member has its value from where it should. -/
theorem Member.isFilledBy_filled (bound : List Ident) (member : Member) :
    member.IsFilledBy bound (member.filled bound) := by
  by_cases isBound : member.name ∈ bound
  · refine ⟨rfl, ?_, fun unbound => absurd isBound unbound, fun unbound => absurd isBound unbound⟩
    simp [Member.filled, isBound]
  · refine ⟨rfl, ?_, fun _ value declared => ?_, fun _ declared => ?_⟩
    · cases declared : member.initial with
      | none => simp [Member.filled, isBound, declared]
      | some value => simp [Member.filled, isBound, declared]
    · simp [Member.filled, isBound, declared]
    · simp [Member.filled, isBound, declared]

/-- Among members with distinct names, a member is in a part of them exactly if its name is. -/
theorem Record.name_mem_iff {record : Record}
    (distinct : (record.members.map Member.name).Nodup) {part : List Member}
    (inside : ∀ member ∈ part, member ∈ record.members) {member : Member}
    (declared : member ∈ record.members) :
    member.name ∈ part.map Member.name ↔ member ∈ part := by
  refine ⟨fun named => ?_, fun isPart => List.mem_map_of_mem isPart⟩
  obtain ⟨other, isPart, same⟩ := List.mem_map.mp named
  have equal : other = member :=
    List.inj_on_of_nodup_map distinct (inside other isPart) declared same
  exact equal ▸ isPart

namespace Conformance.Serves

variable {code : Conformance} {record : Record}

/-- The variant of a mapped member stands for the member. -/
theorem standsFor (serves : code.Serves record) {member : Member}
    (mapped : member ∈ record.mapped) : code.keys.StandsFor member.name.variant member := by
  have names : code.keys.variants.map KeyVariant.name =
      record.mapped.map fun member => member.name.variant := by
    rw [serves.variants, List.map_map]
    rfl
  have listed : member.name.variant ∈ record.mapped.map fun member => member.name.variant :=
    List.mem_map_of_mem (f := fun member : Member => member.name.variant) mapped
  refine ⟨?_, serves.key_eq mapped⟩
  rw [names]
  exact List.count_eq_one_of_mem serves.distinct listed

/-- The members that are written are the mapped ones. -/
theorem written_eq (serves : code.Serves record) :
    code.writes.map WriteStep.member = record.mapped.map Member.name := by
  rw [serves.writes, List.map_map]
  rfl

/-- The names that are bound are those of the stored mapped members. -/
theorem bound_eq (serves : code.Serves record) :
    code.reading.bound = record.mappedStored.map Member.name :=
  Member.names_of_isReadBy serves.steps

/-- The literal names the stored members. -/
theorem filled_eq (serves : code.Serves record) :
    code.reading.fields.map FilledField.name = record.storedMembers.map Member.name := by
  rw [serves.fields, List.map_map]
  rfl

section

variable (serves : code.Serves record) (distinct : (record.members.map Member.name).Nodup)
  {member : Member} (declared : member ∈ record.members)

include serves distinct declared

theorem name_mem_written_iff :
    member.name ∈ code.writes.map WriteStep.member ↔ member ∈ record.mapped := by
  rw [serves.written_eq]
  exact Record.name_mem_iff distinct (fun _ mapped => List.mem_of_mem_filter mapped) declared

theorem name_mem_bound_iff : member.name ∈ code.reading.bound ↔ member ∈ record.mappedStored := by
  rw [serves.bound_eq]
  exact Record.name_mem_iff distinct
    (fun _ mapped => List.mem_of_mem_filter (List.mem_of_mem_filter mapped)) declared

theorem name_mem_filled_iff :
    member.name ∈ code.reading.fields.map FilledField.name ↔ member ∈ record.storedMembers := by
  rw [serves.filled_eq]
  exact Record.name_mem_iff distinct (fun _ stored => List.mem_of_mem_filter stored) declared

end

end Conformance.Serves

/-- **The code that an expansion emits is closed**, if the members of the record have distinct
names. -/
theorem Conformance.isClosed_of_emitted {record : Record} {code : Conformance}
    (distinct : (record.members.map Member.name).Nodup)
    (emitted : (Expansion.ofRecord record).conformance? = some code) : code.IsClosed record := by
  have serves := Conformance.serves_of_emitted emitted
  have mappedDeclared : ∀ member ∈ record.mapped, member ∈ record.members :=
    fun member mapped => List.mem_of_mem_filter mapped
  constructor
  case writes =>
    intro step isWritten
    rw [serves.writes] at isWritten
    obtain ⟨member, mapped, rfl⟩ := List.mem_map.mp isWritten
    exact ⟨member, mappedDeclared member mapped, rfl, rfl, serves.standsFor mapped⟩
  case reads =>
    intro step isRead
    obtain ⟨member, mappedStored, reads⟩ := exists_related serves.steps isRead
    obtain ⟨mapped, stored⟩ := List.mem_filter.mp mappedStored
    refine ⟨member, mappedDeclared member mapped, reads.binds, ?_, ?_⟩
    · simpa using stored
    · rw [reads.names]
      exact serves.standsFor mapped
  case written_iff_read =>
    intro member isStored
    obtain ⟨declared, stored⟩ := List.mem_filter.mp isStored
    rw [serves.name_mem_written_iff distinct declared, serves.name_mem_bound_iff distinct declared]
    exact ⟨fun mapped => List.mem_filter.mpr ⟨mapped, stored⟩, List.mem_of_mem_filter⟩
  case computed =>
    intro member declared computed
    rw [serves.name_mem_bound_iff distinct declared, serves.name_mem_filled_iff distinct declared]
    constructor
    · intro mappedStored
      have stored := (List.mem_filter.mp mappedStored).2
      simp [computed] at stored
    · intro isStored
      have stored := (List.mem_filter.mp isStored).2
      simp [computed] at stored
  case names =>
    rw [serves.filled_eq]
    show record.storedMembers.map Member.name =
      (record.storedMembers.map Member.field).map Field.name
    rw [List.map_map]
    rfl
  case once =>
    rw [serves.filled_eq]
    exact distinct.sublist (List.filter_sublist.map _)
  case fills =>
    rw [serves.fields, serves.bound_eq, List.forall₂_map_right_iff, List.forall₂_same]
    exact fun member _ => member.isFilledBy_filled _

/-- The code of a record whose list is dropped is closed, and so is that of a record with raw
names. -/
theorem isClosed_samples :
    ((Sample.tagged.record.members.map Member.name).Nodup ∧
      ∃ code, (Expansion.ofRecord Sample.tagged.record).conformance? = some code ∧
        code.IsClosed Sample.tagged.record) ∧
    (Sample.token.record.members.map Member.name).Nodup ∧
      ∃ code, (Expansion.ofRecord Sample.token.record).conformance? = some code ∧
        code.IsClosed Sample.token.record := by
  have distinctTagged : (Sample.tagged.record.members.map Member.name).Nodup := by decide +kernel
  have distinctToken : (Sample.token.record.members.map Member.name).Nodup := by decide +kernel
  have emittedTagged : (Expansion.ofRecord Sample.tagged.record).conformance?.isSome = true := by
    decide +kernel
  have emittedToken : (Expansion.ofRecord Sample.token.record).conformance?.isSome = true := by
    decide +kernel
  obtain ⟨tagged, foundTagged⟩ := Option.isSome_iff_exists.mp emittedTagged
  obtain ⟨token, foundToken⟩ := Option.isSome_iff_exists.mp emittedToken
  exact ⟨⟨distinctTagged, tagged, foundTagged,
      Conformance.isClosed_of_emitted distinctTagged foundTagged⟩,
    distinctToken, token, foundToken, Conformance.isClosed_of_emitted distinctToken foundToken⟩

end KeyedRecord
