/-
**What a record gets for its documents.**

A record of which no member takes part gets a warning and nothing else. If a mapped member has a
variant that can name nothing, or two of them have the same variant, the record gets an error that
stops the compilation. Every other record gets the code for its documents. Beside that, each of
them gets its own code: its structure and its own implementation.

* `DocumentCode.ofRecord_cases`: the three outcomes, with the conditions under which they occur.
* `Conformance.emitted_iff`: when a record gets code for its documents.
* `Expansion.phraseBy_congr`: the wording names no variants but the accepted ones.
* `Expansion.outcome`: what the wording of an expansion consists of.
-/

import KeyedRecord.Proofs.Expansion.Bodies

namespace KeyedRecord

/-! ### The conditions -/

/-- A mapped member has a variant that can name nothing, or two of them have the same one. -/
def Record.HasConflict (record : Record) : Prop :=
  (∃ member ∈ record.mapped, Text.isPlainIdentifier member.name.variant = false) ∨
    ¬(record.mapped.map fun member => member.name.variant).Nodup

/-- Some member of the record takes part in documents. -/
def Record.HasPart (record : Record) : Prop :=
  ∃ member ∈ record.members, member.facts.TakesPart

variable {record : Record}

theorem Record.hasPart_iff : record.HasPart ↔ ∃ facts ∈ record.facts, facts.TakesPart := by
  simp [Record.HasPart, Record.facts]

/-- No member is mapped exactly if none takes part: dropping never takes the last one. -/
theorem Record.mapped_eq_nil_iff : record.mapped = [] ↔ ¬record.HasPart := by
  rw [Record.hasPart_iff, ← exists_mapped, not_not, record.mapped_facts, List.map_eq_nil_iff]

/-- Without a conflict every variant can name something, and no two are the same. -/
theorem Record.not_hasConflict_iff : ¬record.HasConflict ↔
    (∀ member ∈ record.mapped, Text.isPlainIdentifier member.name.variant = true) ∧
      (record.mapped.map fun member => member.name.variant).Nodup := by
  simp [Record.HasConflict]

/-- Where there is a conflict, a member is mapped. -/
theorem Record.HasConflict.hasPart (conflict : record.HasConflict) : record.HasPart := by
  by_contra noPart
  have none := Record.mapped_eq_nil_iff.mpr noPart
  rcases conflict with ⟨member, inside, -⟩ | repeated
  · simp [none] at inside
  · simp [none] at repeated

/-! ### The schema -/

/-- A record has a schema, and no warning, exactly if a member takes part. -/
theorem Record.schema_cases (record : Record) :
    (¬record.HasPart ∧ record.schema = none ∧ Warning.ofFacts record.facts = [.empty]) ∨
      (record.HasPart ∧ ∃ schema, record.schema = some schema ∧
        Warning.ofFacts record.facts = []) := by
  by_cases part : record.HasPart
  · obtain ⟨schema, synthesized, -⟩ := synthesize_of_some [] (Record.hasPart_iff.mp part)
    refine .inr ⟨part, schema, ?_, ?_⟩
    · simp [Record.schema, Schema.ofFacts, synthesized]
    · simp [Warning.ofFacts, synthesized]
  · have synthesized := synthesize_of_none [] fun facts inside takesPart =>
      part (Record.hasPart_iff.mpr ⟨facts, inside, takesPart⟩)
    refine .inl ⟨part, ?_, ?_⟩
    · simp [Record.schema, Schema.ofFacts, synthesized]
    · simp [Warning.ofFacts, synthesized]

/-- The variants of a schema are those of the mapped members. -/
theorem Record.variants_of_schema {schema : Schema} (found : record.schema = some schema) :
    schema.keys.variants = record.mapped.map fun member => member.name.variant := by
  rw [KeyTable.variants, entries_of_schema found, List.map_map]
  rfl

/-- The check of a schema accepts exactly the variants of a record without conflict. -/
theorem Record.conflict?_eq_none_iff {schema : Schema} (found : record.schema = some schema) :
    schema.keys.conflict? = none ↔ ¬record.HasConflict := by
  have variants := Record.variants_of_schema found
  rw [KeyTable.variants] at variants
  rw [KeyTable.conflict?, KeyEntry.firstConflict?_eq_none_iff, variants, entries_of_schema found,
    Record.not_hasConflict_iff, List.forall_mem_map]
  constructor
  · rintro ⟨plain, distinct, -⟩
    exact ⟨plain, distinct⟩
  · rintro ⟨plain, distinct⟩
    exact ⟨plain, distinct, fun _ _ _ earlier => by cases earlier⟩

/-! ### The three outcomes -/

/-- **What a record gets for its documents**, and the warnings beside it: nothing, an error or the
code, each under its condition. -/
theorem DocumentCode.ofRecord_cases (record : Record) :
    (¬record.HasPart ∧ DocumentCode.ofRecord record = .nothing ∧
      Warning.ofFacts record.facts = [.empty]) ∨
    ∃ schema, record.schema = some schema ∧ Warning.ofFacts record.facts = [] ∧
      ((record.HasConflict ∧ ∃ cause, schema.keys.conflict? = some cause ∧
          DocumentCode.ofRecord record = .conflict cause) ∨
        (record.HasPart ∧ ¬record.HasConflict ∧ schema.keys.conflict? = none ∧
          DocumentCode.ofRecord record = .conformance (Conformance.ofSchema record schema))) := by
  rcases record.schema_cases with ⟨noPart, absent, warned⟩ | ⟨part, schema, found, silent⟩
  · exact .inl ⟨noPart, by simp [DocumentCode.ofRecord, absent], warned⟩
  · refine .inr ⟨schema, found, silent, ?_⟩
    have accepts := Record.conflict?_eq_none_iff found
    cases checked : schema.keys.conflict? with
    | none =>
      have free : ¬record.HasConflict := accepts.mp checked
      exact .inr ⟨part, free, rfl, by simp [DocumentCode.ofRecord, found, checked]⟩
    | some cause =>
      have conflict : record.HasConflict := by
        by_contra free
        simp [accepts.mpr free] at checked
      exact .inl ⟨conflict, cause, rfl, by simp [DocumentCode.ofRecord, found, checked]⟩

/-- **When a record gets code for its documents**: a member takes part, and the mapped members have
usable variants of their own. -/
theorem Conformance.emitted_iff : (∃ code, (Expansion.ofRecord record).conformance? = some code) ↔
    record.HasPart ∧ ¬record.HasConflict := by
  have expanded : (Expansion.ofRecord record).documentCode = DocumentCode.ofRecord record := rfl
  unfold Expansion.conformance?
  rw [expanded]
  rcases DocumentCode.ofRecord_cases record with
    ⟨noPart, nothing, -⟩ | ⟨schema, -, -, ⟨conflict, cause, -, stopped⟩ | ⟨part, free, -, emitted⟩⟩
  · simp [nothing, noPart]
  · simp [stopped, conflict]
  · simp [emitted, part, free]

/-! ### Names of variants -/

/-- The identifier of a name, which can be built only if the name has the shape of one. -/
def Ident.build? (name : String) : Option Ident :=
  if Text.isIdentifierText name.toList then some (Ident.plain name) else none

-- Of underscores alone no variant is left to build an identifier of.
example : Ident.build? (Ident.plain "__").variant = none := by decide

/-- The variants that the check of the record's schema has accepted. -/
def Record.acceptedVariants (record : Record) : List String :=
  match record.schema with
  | some schema => if schema.keys.conflict? = none then schema.keys.variants else []
  | none => []

/-- What can name something has the shape of an identifier. -/
theorem Ident.build?_of_plain {name : String} (plain : Text.isPlainIdentifier name = true) :
    Ident.build? name = some (Ident.plain name) := by
  rw [Text.isPlainIdentifier, Bool.and_eq_true] at plain
  simp [Ident.build?, plain.1]

/-- Where the check has accepted the variants, they are those of the mapped members. -/
theorem Record.acceptedVariants_eq {schema : Schema} (found : record.schema = some schema)
    (free : schema.keys.conflict? = none) :
    record.acceptedVariants = record.mapped.map fun member => member.name.variant := by
  simp only [Record.acceptedVariants, found, free, if_true]
  exact Record.variants_of_schema found

/-- From an accepted variant an identifier can be built. -/
theorem Record.build?_of_accepted {name : String} (accepted : name ∈ record.acceptedVariants) :
    Ident.build? name = some (Ident.plain name) := by
  cases found : record.schema with
  | none => simp [Record.acceptedVariants, found] at accepted
  | some schema =>
    by_cases free : schema.keys.conflict? = none
    · rw [Record.acceptedVariants_eq found free] at accepted
      obtain ⟨member, mapped, rfl⟩ := List.mem_map.mp accepted
      have usable := (Record.not_hasConflict_iff.mp ((Record.conflict?_eq_none_iff found).mp free)).1
      exact Ident.build?_of_plain (usable member mapped)
    · simp [Record.acceptedVariants, found, free] at accepted

section

variable {code : Conformance} {write : String → Phrase}

/-- The wording of the enumeration names the variants that it declares, and no others. -/
theorem KeyEnumeration.phrase_congr {keys : KeyEnumeration}
    (agree : ∀ variant ∈ keys.variants, write variant.name = variantPhrase variant.name) :
    keys.phrase write = keys.phrase variantPhrase := by
  have names : (keys.variants.map KeyVariant.name).map write =
      (keys.variants.map KeyVariant.name).map variantPhrase := by
    simpa using agree
  have own : (keys.variants.map KeyVariant.name).map (ownVariantPhrase write) =
      (keys.variants.map KeyVariant.name).map (ownVariantPhrase variantPhrase) := by
    simpa [ownVariantPhrase] using agree
  have arms : (keys.variants.flatMap fun variant => ownVariantPhrase write variant.name ++
        Phrase.template "=>" ++ Phrase.ofText variant.key ++ Phrase.template ",") =
      keys.variants.flatMap fun variant => ownVariantPhrase variantPhrase variant.name ++
        Phrase.template "=>" ++ Phrase.ofText variant.key ++ Phrase.template "," := by
    refine List.flatMap_congr fun variant declared => ?_
    rw [ownVariantPhrase, ownVariantPhrase, agree variant declared]
  simp only [KeyEnumeration.phrase, names, own, arms]

/-- The code names no variants but those of the mapped members, in the enumeration as in the steps
of writing and of reading. -/
theorem Conformance.Serves.phrase_congr (serves : code.Serves record)
    (agree : ∀ member ∈ record.mapped,
      write member.name.variant = variantPhrase member.name.variant) :
    code.phrase write = code.phrase variantPhrase := by
  have keys : code.keys.phrase write = code.keys.phrase variantPhrase := by
    refine KeyEnumeration.phrase_congr fun variant declared => ?_
    rw [serves.variants] at declared
    obtain ⟨member, mapped, rfl⟩ := List.mem_map.mp declared
    exact agree member mapped
  have writes : code.writes.flatMap (WriteStep.phrase write code.keys.name) =
      code.writes.flatMap (WriteStep.phrase variantPhrase code.keys.name) := by
    refine List.flatMap_congr fun step isStep => ?_
    rw [serves.writes] at isStep
    obtain ⟨member, mapped, rfl⟩ := List.mem_map.mp isStep
    simp only [WriteStep.phrase, variantOf, Member.writeStep, agree member mapped]
  have reads : code.reading.steps.flatMap (ReadStep.phrase write code.keys.name) =
      code.reading.steps.flatMap (ReadStep.phrase variantPhrase code.keys.name) := by
    refine List.flatMap_congr fun step isStep => ?_
    -- A step of reading names the variant of the member that it reads.
    obtain ⟨member, mapped, isRead⟩ := exists_related serves.steps isStep
    have named := agree member (List.mem_of_mem_filter mapped)
    simp only [ReadStep.phrase, variantOf, isRead.names, named]
  simp only [Conformance.phrase, writingPhrase, Reading.phrase, keys, writes, reads]

end

/-- **The wording of an expansion takes the names of variants from the accepted ones alone**: how
any other name would be written does not matter. -/
theorem Expansion.phraseBy_congr {write : String → Phrase}
    (agree : ∀ name ∈ record.acceptedVariants, write name = variantPhrase name) :
    (Expansion.ofRecord record).phraseBy write = (Expansion.ofRecord record).phrase := by
  have code : (DocumentCode.ofRecord record).phrase write =
      (DocumentCode.ofRecord record).phrase variantPhrase := by
    rcases DocumentCode.ofRecord_cases record with ⟨-, nothing, -⟩ |
      ⟨schema, found, -, ⟨-, cause, -, stopped⟩ | ⟨-, -, free, emitted⟩⟩
    · rw [nothing]
      rfl
    · rw [stopped]
      rfl
    · have serves : (Conformance.ofSchema record schema).Serves record := by
        refine Conformance.serves_of_emitted ?_
        simp [Expansion.conformance?, Expansion.ofRecord, emitted]
      rw [emitted]
      refine serves.phrase_congr fun member mapped => agree _ ?_
      rw [Record.acceptedVariants_eq found free]
      exact List.mem_map_of_mem (f := fun member : Member => member.name.variant) mapped
  show _ ++ (DocumentCode.ofRecord record).phrase write ++ _ = _
  rw [code]
  rfl

/-! ### What is emitted -/

/-- The record's own code, which it gets in any case: its structure, and its implementation with
the accessors and the declared items. -/
def Record.ownPhrase (record : Record) : Phrase :=
  record.structure.phrase ++ inherentPhrase record.name record.inherentItems

/-- The phrase is the declaration of an enumeration with the given variants. -/
def Phrase.IsEnumeration (name : Ident) (variants : List String) (phrase : Phrase) : Prop :=
  ∃ derived visibility, phrase = Phrase.attributed "derive" derived ++ visibility ++
    Phrase.template "enum" ++ name.phrase ++
      Phrase.braced (Phrase.commaSeparated (variants.map variantPhrase))

/-- The phrase is an implementation of an interface, given by its words, for a type. -/
def Phrase.IsImplementation (interface : String) (type : Ident) (phrase : Phrase) : Prop :=
  ∃ body, phrase = Phrase.implementation interface type body

/-- The phrase is one constant whose value uses a constant that is deprecated with a note. -/
def Phrase.IsDeprecatedUse (note : String) (phrase : Phrase) : Prop :=
  ∃ (constant : Ident) (allowed : Phrase), phrase =
    Phrase.template "const _ :" ++ Phrase.parenthesized [] ++ Phrase.template "=" ++
      Phrase.braced
        (Phrase.attributed "deprecated" (Phrase.template "note =" ++ Phrase.ofText note) ++
          Phrase.attributed "allow" allowed ++ Phrase.template "const" ++ constant.phrase ++
          Phrase.template ":" ++ Phrase.parenthesized [] ++ Phrase.template "=" ++
          Phrase.parenthesized [] ++ Phrase.template "; let _ =" ++ constant.phrase ++
          Phrase.template ";") ++
      Phrase.template ";"

/-- Beside the record's own code there is a warning, and nothing else. -/
def Expansion.OnlyWarns (expansion : Expansion) (own : Phrase) : Prop :=
  expansion.documentCode = .nothing ∧ expansion.warnings = [.empty] ∧
    ∃ warning, expansion.phrase = own ++ warning ∧
      Phrase.IsDeprecatedUse "no codable members found" warning

/-- Beside the record's own code there is an error that stops the compilation, and nothing else. -/
def Expansion.OnlyStops (expansion : Expansion) (own : Phrase) : Prop :=
  ∃ cause, expansion.documentCode = .conflict cause ∧ expansion.warnings = [] ∧
    expansion.phrase = own ++ (Phrase.template ":: core :: compile_error !" ++
      Phrase.braced (Phrase.ofText cause.message))

/-- The phrase is the wording of code for the documents of a record: the enumeration and the four
implementations. The one that writes consists of statements of the steps that are run when a record
is written, the one that reads of those of the steps that are run when it is read
(`Conformance.runs_writing_iff`, `Conformance.runs_reading_iff`). -/
def Conformance.IsWorded (code : Conformance) (record : Record) (phrase : Phrase) : Prop :=
  ∃ enumeration codingKey codable encodable decodable,
    phrase = enumeration ++ codingKey ++ codable ++ encodable ++ decodable ∧
    Phrase.IsEnumeration record.keysName
      (record.mapped.map fun member => member.name.variant) enumeration ∧
    Phrase.IsImplementation "CodingKey for" record.keysName codingKey ∧
    codable = Phrase.implementation "Codable for" record.name
      (Phrase.template "type CodingKeys =" ++ record.keysName.phrase ++ Phrase.template ";") ∧
    Phrase.IsWriting record.name record.keysName code.writes encodable ∧
    Phrase.IsReading record code.reading decodable

/-- Beside the record's own code there are the enumeration and the four implementations, and
nothing else. -/
def Expansion.HasDocumentCode (expansion : Expansion) (record : Record) (own : Phrase) : Prop :=
  ∃ code, expansion.documentCode = .conformance code ∧ expansion.warnings = [] ∧
    code.record = record.name ∧ code.keys.name = record.keysName ∧
    ∃ phrase, expansion.phrase = own ++ phrase ∧ code.IsWorded record phrase

/-- The expansion of a record is its own code, what it gets for its documents, and the warnings. -/
theorem Expansion.phrase_eq (record : Record) : (Expansion.ofRecord record).phrase =
    record.ownPhrase ++ (DocumentCode.ofRecord record).phrase variantPhrase ++
      (Warning.ofFacts record.facts).flatMap Warning.phrase :=
  rfl

/-- The words of the warning say that no member was found. -/
theorem Warning.isDeprecatedUse_phrase (warning : Warning) :
    Phrase.IsDeprecatedUse warning.message warning.phrase :=
  ⟨Ident.plain ("codable_block_" ++ warning.id), Phrase.template "non_upper_case_globals", rfl⟩

/-- The wording of an enumeration of keys: its declaration, and its implementation. -/
theorem KeyEnumeration.phrase_parts (keys : KeyEnumeration) :
    ∃ enumeration codingKey, keys.phrase variantPhrase = enumeration ++ codingKey ∧
      Phrase.IsEnumeration keys.name (keys.variants.map KeyVariant.name) enumeration ∧
      Phrase.IsImplementation "CodingKey for" keys.name codingKey := by
  refine ⟨_, _, ?worded, ⟨?derived, keys.visibility, rfl⟩, ⟨?body, rfl⟩⟩
  simp only [KeyEnumeration.phrase, Phrase.implementation, List.append_assoc]
  rfl

/-- **The wording of the code for documents**: the enumeration, and the four implementations. -/
theorem Conformance.isWorded_phrase {record : Record} {schema : Schema}
    (found : record.schema = some schema) :
    (Conformance.ofSchema record schema).IsWorded record
      ((Conformance.ofSchema record schema).phrase variantPhrase) := by
  have variants : (schema.keys.enumeration record).variants.map KeyVariant.name =
      record.mapped.map fun member => member.name.variant := by
    rw [← Record.variants_of_schema found, KeyTable.enumeration, List.map_map]
    rfl
  obtain ⟨enumeration, codingKey, worded, isEnumeration, isCodingKey⟩ :=
    (schema.keys.enumeration record).phrase_parts
  rw [variants] at isEnumeration
  have writing := Phrase.isWriting_writingPhrase record.name record.keysName
    (Conformance.ofSchema record schema).writes
  have reading := Phrase.isReading_phrase record schema
  refine ⟨enumeration, codingKey, _, _, _, ?_, isEnumeration, isCodingKey, rfl, writing, reading⟩
  simp only [Conformance.phrase, Conformance.ofSchema, worded, Phrase.implementation,
    List.append_assoc]
  rfl

/-- There is a warning beside the record's own code exactly if no member takes part. -/
theorem Expansion.onlyWarns_iff :
    (Expansion.ofRecord record).OnlyWarns record.ownPhrase ↔ ¬record.HasPart := by
  rcases DocumentCode.ofRecord_cases record with ⟨noPart, nothing, warned⟩ |
    ⟨schema, -, -, ⟨conflict, cause, -, stopped⟩ | ⟨part, -, -, emitted⟩⟩
  · refine iff_of_true ⟨nothing, warned, Warning.empty.phrase, ?_, ?_⟩ noPart
    · simp [Expansion.phrase_eq, nothing, warned, DocumentCode.phrase]
    · exact Warning.empty.isDeprecatedUse_phrase
  · simp [Expansion.OnlyWarns, Expansion.ofRecord, stopped, conflict.hasPart]
  · simp [Expansion.OnlyWarns, Expansion.ofRecord, emitted, part]

/-- There is an error beside the record's own code exactly if the mapped members have a
conflict. -/
theorem Expansion.onlyStops_iff :
    (Expansion.ofRecord record).OnlyStops record.ownPhrase ↔ record.HasConflict := by
  rcases DocumentCode.ofRecord_cases record with ⟨noPart, nothing, -⟩ |
    ⟨schema, -, silent, ⟨conflict, cause, -, stopped⟩ | ⟨-, free, -, emitted⟩⟩
  · have free : ¬record.HasConflict := fun conflict => noPart conflict.hasPart
    simp [Expansion.OnlyStops, Expansion.ofRecord, nothing, free]
  · refine iff_of_true ⟨cause, stopped, silent, ?_⟩ conflict
    simp [Expansion.phrase_eq, stopped, silent, DocumentCode.phrase]
  · simp [Expansion.OnlyStops, Expansion.ofRecord, emitted, free]

/-- There is code for documents beside the record's own code exactly if a member takes part and the
mapped members have no conflict. -/
theorem Expansion.hasDocumentCode_iff :
    (Expansion.ofRecord record).HasDocumentCode record record.ownPhrase ↔
      record.HasPart ∧ ¬record.HasConflict := by
  rcases DocumentCode.ofRecord_cases record with ⟨noPart, nothing, -⟩ |
    ⟨schema, found, silent, ⟨conflict, cause, -, stopped⟩ | ⟨part, free, -, emitted⟩⟩
  · simp [Expansion.HasDocumentCode, Expansion.ofRecord, nothing, noPart]
  · simp [Expansion.HasDocumentCode, Expansion.ofRecord, stopped, conflict]
  · have worded := Conformance.isWorded_phrase found
    refine iff_of_true ⟨_, emitted, silent, rfl, rfl, _, ?_, worded⟩ ⟨part, free⟩
    rw [Expansion.phrase_eq, emitted, silent, DocumentCode.phrase]
    simp

/-- **What an expansion consists of.** It always starts with the record's own code. After that
there is a warning alone exactly if no member takes part, an error alone exactly if a mapped member
has no usable variant of its own, and the code for documents alone exactly in all other cases. The
wording takes the names of variants from the accepted ones, and of each of these an identifier can
be built. -/
theorem Expansion.outcome (record : Record) :
    ((Expansion.ofRecord record).OnlyWarns record.ownPhrase ↔ ¬record.HasPart) ∧
    ((Expansion.ofRecord record).OnlyStops record.ownPhrase ↔ record.HasConflict) ∧
    ((Expansion.ofRecord record).HasDocumentCode record record.ownPhrase ↔
      record.HasPart ∧ ¬record.HasConflict) ∧
    ¬(¬record.HasPart ∧ record.HasConflict) ∧
    (∀ write, (∀ name ∈ record.acceptedVariants, write name = variantPhrase name) →
      (Expansion.ofRecord record).phraseBy write = (Expansion.ofRecord record).phrase) ∧
    ∀ name ∈ record.acceptedVariants, Ident.build? name = some (Ident.plain name) := by
  refine ⟨Expansion.onlyWarns_iff, Expansion.onlyStops_iff, Expansion.hasDocumentCode_iff, ?_,
    fun write agree => Expansion.phraseBy_congr agree,
    fun name accepted => Record.build?_of_accepted accepted⟩
  rintro ⟨noPart, conflict⟩
  exact noPart conflict.hasPart

end KeyedRecord
