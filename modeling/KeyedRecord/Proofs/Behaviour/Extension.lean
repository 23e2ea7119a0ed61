/-
**Computed members beside the others.**

A record with an included computed member reads its stored members one by one by their declared
types; without one it reads all mapped members by the types of their fields. If the included
members of a record are stored and have bare type names, adding computed members with keys of their
own takes it from the second way to the first. The stored members that are read, the keys and types
by which they are, and the fields that are filled stay the same, and so does what is read from every
value.

* `Record.IsExtendedBy`: a record with members added to its body.
* `Record.IsExtendedBy.mappedStored_eq`: the members that are read stay the same.
* `Conformance.ofValue_extended`: the two ways of reading agree on every value.
-/

import KeyedRecord.Proofs.Behaviour.Reading
import KeyedRecord.Proofs.Expansion.Emission
import KeyedRecord.Sample.Computed

namespace KeyedRecord

/-! ### Adding members -/

/-- Members are added to the items of a body, each anywhere between the others. -/
inductive BodyItem.Adds : List Member → List BodyItem → List BodyItem → Prop
  | nil : Adds [] [] []
  | keep (item : BodyItem) {added : List Member} {items result : List BodyItem}
      (rest : Adds added items result) : Adds added (item :: items) (item :: result)
  | add (member : Member) {added : List Member} {items result : List BodyItem}
      (rest : Adds added items result) : Adds (member :: added) items (.member member :: result)

/-- The extended record is the record with the added members in its body. -/
structure Record.IsExtendedBy (record : Record) (added : List Member) (extended : Record) :
    Prop where
  attributes : extended.attributes = record.attributes
  visibility : extended.visibility = record.visibility
  name : extended.name = record.name
  items : BodyItem.Adds added record.items extended.items

/-- A computed member with a key of its own. -/
structure Member.IsKeyedComputed (member : Member) : Prop where
  computed : member.isComputed = true
  keyed : ∃ key, Directive.first member.attributes = some (.rename (some key))

/-- Every included member is stored and has a bare type name. -/
def Record.IsPlain (record : Record) : Prop :=
  ∀ member ∈ record.members, member.facts.TakesPart →
    member.isComputed = false ∧ member.type.bareName ≠ none

instance decidableIsPlain (record : Record) : Decidable record.IsPlain :=
  inferInstanceAs (Decidable (∀ member ∈ record.members, member.facts.TakesPart →
    member.isComputed = false ∧ member.type.bareName ≠ none))

theorem Member.IsKeyedComputed.takesPart {member : Member} (keyed : member.IsKeyedComputed) :
    member.facts.TakesPart :=
  .inl keyed.keyed

/-- The members of a body are the added ones and those that were there before. -/
theorem BodyItem.Adds.members_perm {added : List Member} {items result : List BodyItem}
    (adds : BodyItem.Adds added items result) :
    (result.filterMap BodyItem.member?).Perm (added ++ items.filterMap BodyItem.member?) := by
  induction adds with
  | nil => exact .nil
  | keep item rest ih =>
    cases item with
    | member declared => exact (ih.cons declared).trans List.perm_middle.symm
    | item declared => exact ih
  | add member rest ih => exact ih.cons member

/-- Adding computed members leaves the stored ones as they are, in order. -/
theorem BodyItem.Adds.storedMembers_eq {added : List Member} {items result : List BodyItem}
    (adds : BodyItem.Adds added items result)
    (computed : ∀ member ∈ added, member.isComputed = true) :
    (result.filterMap BodyItem.member?).filter (fun member => !member.isComputed) =
      (items.filterMap BodyItem.member?).filter fun member => !member.isComputed := by
  induction adds with
  | nil => rfl
  | keep item rest ih =>
    cases item with
    | member declared =>
      show (declared :: _).filter _ = (declared :: _).filter _
      rw [List.filter_cons, List.filter_cons, ih computed]
    | item declared => exact ih computed
  | add member rest ih =>
    obtain ⟨first, others⟩ := List.forall_mem_cons.mp computed
    show (member :: _).filter _ = _
    rw [List.filter_cons_of_neg (by simp [first]), ih others]

/-! ### What stays the same -/

/-- In a plain record no included computed member needs types. -/
theorem Record.IsPlain.not_needsTypes {record : Record} (plain : record.IsPlain) :
    ¬NeedsTypes record.facts := by
  rintro ⟨facts, inside, takesPart, computed⟩
  obtain ⟨member, declared, rfl⟩ := List.mem_map.mp inside
  have stored := (plain member declared takesPart).1
  simp [Member.facts, stored] at computed

/-- What takes part in a plain record is never dropped, whatever other members there are. -/
theorem Record.IsPlain.isMapped_iff {record : Record} (plain : record.IsPlain) {member : Member}
    (declared : member ∈ record.members) (members : List MemberFacts) :
    member.facts.IsMapped members ↔ member.facts.TakesPart := by
  refine ⟨fun mapped => mapped.1, fun takesPart => ⟨takesPart, fun dropped => ?_⟩⟩
  exact (plain member declared takesPart).2 dropped.2.2

/-- A keyed computed member is mapped, whatever other members there are. -/
theorem Member.IsKeyedComputed.isMapped {member : Member} (keyed : member.IsKeyedComputed)
    (members : List MemberFacts) : member.facts.IsMapped members :=
  ⟨keyed.takesPart, MemberFacts.not_isDropped keyed.computed⟩

namespace Record.IsExtendedBy

variable {record extended : Record} {added : List Member}
  (extension : record.IsExtendedBy added extended)

include extension

theorem members_perm : extended.members.Perm (added ++ record.members) :=
  extension.items.members_perm

theorem mem_members_iff (member : Member) :
    member ∈ extended.members ↔ member ∈ added ∨ member ∈ record.members := by
  rw [extension.members_perm.mem_iff, List.mem_append]

variable (keyed : ∀ member ∈ added, member.IsKeyedComputed)

include keyed

theorem storedMembers_eq : extended.storedMembers = record.storedMembers :=
  extension.items.storedMembers_eq fun member inside => (keyed member inside).computed

/-- The structure of the record stays the same. -/
theorem structure_eq : extended.structure = record.structure := by
  simp only [Record.structure, extension.attributes, extension.visibility, extension.name,
    extension.storedMembers_eq keyed]

/-- Once a member has been added, stored members are read by their types. -/
theorem needsTypes (some : added ≠ []) : NeedsTypes extended.facts := by
  obtain ⟨member, inside⟩ := List.exists_mem_of_ne_nil added some
  have declared := (extension.mem_members_iff member).mpr (.inl inside)
  exact ⟨member.facts, List.mem_map_of_mem declared, (keyed member inside).takesPart,
    (keyed member inside).computed⟩

variable (plain : record.IsPlain)

include plain

/-- The mapped members are those of the record and the added ones. -/
theorem mapped_perm : extended.mapped.Perm (added ++ record.mapped) := by
  have old : record.members.filter (fun member => member.facts.IsMapped extended.facts) =
      record.mapped := by
    refine List.filter_congr fun member declared => ?_
    simp only [plain.isMapped_iff declared]
  have new : added.filter (fun member => member.facts.IsMapped extended.facts) = added := by
    rw [List.filter_eq_self]
    exact fun member inside => decide_eq_true ((keyed member inside).isMapped extended.facts)
  have filtered := extension.members_perm.filter fun member =>
    decide (member.facts.IsMapped extended.facts)
  rw [List.filter_append, old, new] at filtered
  exact filtered

/-- **The members that are read stay the same.** -/
theorem mappedStored_eq : extended.mappedStored = record.mappedStored := by
  -- Both are the stored members that take part, since nothing that takes part is dropped.
  have commuted : ∀ record : Record, record.mappedStored =
      record.storedMembers.filter fun member => member.facts.IsMapped record.facts := by
    intro record
    simp only [Record.mappedStored, Record.mapped, Record.storedMembers, List.filter_filter,
      Bool.and_comm]
  rw [commuted, commuted, extension.storedMembers_eq keyed]
  refine List.filter_congr fun member stored => ?_
  have declared := List.mem_of_mem_filter stored
  simp only [plain.isMapped_iff declared]

/-- The extended record gets code for its documents if the new variants are usable and new. -/
theorem not_hasConflict (free : ¬record.HasConflict)
    (usable : ∀ member ∈ added, Text.isPlainIdentifier member.name.variant = true)
    (new : (added.map fun member => member.name.variant).Nodup)
    (apart : ∀ member ∈ added, ∀ other ∈ record.mapped,
      member.name.variant ≠ other.name.variant) :
    ¬extended.HasConflict := by
  have mapped := extension.mapped_perm keyed plain
  obtain ⟨usableBefore, distinct⟩ := Record.not_hasConflict_iff.mp free
  refine Record.not_hasConflict_iff.mpr ⟨fun member inside => ?_, ?_⟩
  · rcases List.mem_append.mp (mapped.mem_iff.mp inside) with inside | inside
    · exact usable member inside
    · exact usableBefore member inside
  · rw [(mapped.map _).nodup_iff, List.map_append, List.nodup_append]
    refine ⟨new, distinct, fun variant isNew other isOld => ?_⟩
    obtain ⟨member, inside, rfl⟩ := List.mem_map.mp isNew
    obtain ⟨earlier, mapped, rfl⟩ := List.mem_map.mp isOld
    exact apart member inside earlier mapped

end Record.IsExtendedBy

/-! ### Reading -/

/-- Steps name their types exactly if types are needed. -/
theorem Conformance.isTyped_iff {record : Record} {code : Conformance}
    (emitted : (Expansion.ofRecord record).conformance? = some code) :
    code.reading.isTyped = true ↔ NeedsTypes record.facts := by
  obtain ⟨schema, found, -, rfl⟩ := exists_schema_of_emitted emitted
  have typed := (schema_parts found).2.2
  show (schema.reading record).isTyped = true ↔ _
  unfold Schema.reading
  by_cases needed : NeedsTypes record.facts
  · obtain ⟨members, isTyped, -⟩ := typedMembers?_eq needed
    simp [typed, isTyped, needed, Reading.ofSteps]
  · simp [typed, typedMembers?_eq_none needed, needed, Reading.ofSteps]

/-- Codes that fill the same fields from the same members read every value alike. -/
theorem Conformance.Serves.ofValue_eq {Datum : Type} (model : Model Datum)
    {code other : Conformance} {record extended : Record} (serves : code.Serves record)
    (servesOther : other.Serves extended) (declarable : record.structure.IsDeclarable)
    (structures : extended.structure = record.structure)
    (stored : extended.storedMembers = record.storedMembers)
    (mapped : extended.mappedStored = record.mappedStored) (value : Value) :
    other.ofValue model extended.structure value = code.ofValue model record.structure value := by
  have fields : other.reading.fields = code.reading.fields := by
    rw [serves.fields, servesOther.fields, stored, mapped]
  have fill : other.reading.fill model extended.structure =
      code.reading.fill model record.structure := by
    funext bindings name
    simp only [Reading.fill, fields, structures]
  have read : other.read model extended.structure = code.read model record.structure := by
    funext given
    rw [serves.read_eq model declarable, servesOther.read_eq model (structures ▸ declarable),
      mapped, fill]
  simp only [Conformance.ofValue, read]

/-- **The two ways of reading agree.** Let the included members of a record be stored and have bare
type names, and let its structure be one that can be declared. If keyed computed members with usable
and new variants are added anywhere in its body, the record still gets code for its documents; the
steps of reading now name their types, which they did not before; and from every value the new code
reads what the old code reads: the same state or the same error. -/
theorem Conformance.ofValue_extended {record extended : Record} {added : List Member}
    {code : Conformance} (declarable : record.structure.IsDeclarable)
    (emitted : (Expansion.ofRecord record).conformance? = some code) (plain : record.IsPlain)
    (extension : record.IsExtendedBy added extended) (some : added ≠ [])
    (keyed : ∀ member ∈ added, member.IsKeyedComputed)
    (usable : ∀ member ∈ added, Text.isPlainIdentifier member.name.variant = true)
    (new : (added.map fun member => member.name.variant).Nodup ∧
      ∀ member ∈ added, ∀ other ∈ record.mapped, member.name.variant ≠ other.name.variant) :
    code.reading.isTyped = false ∧
    ∃ extendedCode, (Expansion.ofRecord extended).conformance? = .some extendedCode ∧
      extendedCode.reading.isTyped = true ∧
      ∀ {Datum : Type} (model : Model Datum) (value : Value),
        extendedCode.ofValue model extended.structure value =
          code.ofValue model record.structure value := by
  have free : ¬record.HasConflict := (Conformance.emitted_iff.mp ⟨code, emitted⟩).2
  have needed := extension.needsTypes keyed some
  have part : extended.HasPart := by
    obtain ⟨member, inside⟩ := List.exists_mem_of_ne_nil added some
    exact ⟨member, (extension.mem_members_iff member).mpr (.inl inside),
      (keyed member inside).takesPart⟩
  obtain ⟨extendedCode, emittedExtended⟩ := Conformance.emitted_iff.mpr
    ⟨part, extension.not_hasConflict keyed plain free usable new.1 new.2⟩
  refine ⟨?_, extendedCode, emittedExtended, ?_, fun model value => ?_⟩
  · rw [Bool.eq_false_iff, ne_eq, Conformance.isTyped_iff emitted]
    exact plain.not_needsTypes
  · exact (Conformance.isTyped_iff emittedExtended).mpr needed
  · exact (Conformance.serves_of_emitted emitted).ofValue_eq model
      (Conformance.serves_of_emitted emittedExtended) declarable (extension.structure_eq keyed)
      (extension.storedMembers_eq keyed) (extension.mappedStored_eq keyed plain) value

/-- The record with a text, a truth value, a number and an excluded member with an initial value,
before a computed text is added. -/
def Sample.plainSummary : Record :=
  { Sample.summary.record with items := Sample.summary.record.items.take 4 }

/-- The computed text that is added to it. -/
def Sample.summaryText : List Member :=
  Sample.summary.record.members.drop 4

/-- The computed text changes nothing of what is read. -/
theorem ofValue_extended_sample :
    Sample.plainSummary.structure.IsDeclarable ∧ Sample.plainSummary.IsPlain ∧
      Sample.plainSummary.IsExtendedBy Sample.summaryText Sample.summary.record ∧
      ∃ code extendedCode, code.reading.isTyped = false ∧ extendedCode.reading.isTyped = true ∧
        (Expansion.ofRecord Sample.plainSummary).conformance? = some code ∧
        (Expansion.ofRecord Sample.summary.record).conformance? = some extendedCode ∧
        ∀ value, extendedCode.ofValue Sample.summary.model Sample.summary.record.structure value =
          code.ofValue Sample.summary.model Sample.plainSummary.structure value := by
  have declarable : Sample.plainSummary.structure.IsDeclarable := by
    unfold Structure.IsDeclarable
    decide +kernel
  have plain : Sample.plainSummary.IsPlain := by decide +kernel
  have extension : Sample.plainSummary.IsExtendedBy Sample.summaryText Sample.summary.record :=
    ⟨rfl, rfl, rfl, .keep _ (.keep _ (.keep _ (.keep _ (.add _ .nil))))⟩
  have keyed : ∀ member ∈ Sample.summaryText, member.IsKeyedComputed := by
    have all : (Sample.summaryText.all fun member => member.isComputed &&
        Directive.first member.attributes == some (.rename (some "computeStr"))) = true := by
      decide +kernel
    intro member inside
    have both := List.all_eq_true.mp all member inside
    rw [Bool.and_eq_true, beq_iff_eq] at both
    exact ⟨both.1, "computeStr", both.2⟩
  have emitted : (Expansion.ofRecord Sample.plainSummary).conformance?.isSome = true := by
    decide +kernel
  obtain ⟨code, found⟩ := Option.isSome_iff_exists.mp emitted
  obtain ⟨untyped, extendedCode, foundExtended, typed, same⟩ :=
    Conformance.ofValue_extended declarable found plain extension (by decide +kernel) keyed
      (by decide +kernel) (by decide +kernel)
  exact ⟨declarable, plain, extension, code, extendedCode, untyped, typed, found, foundExtended,
    same Sample.summary.model⟩

end KeyedRecord
