/-
**The expansion of a record.**

A record stands for a structure of its stored members, for an implementation with getters, setters
and the declared items, and for the code that writes the record into a document and reads it back.
This module says what that code consists of, without its wording: which variant each step of
writing and reading names, and where each field comes from.

* `Expansion.ofRecord`: the expansion of a record.
* `Conformance.ofSchema`: the code for the documents of a record with a schema.
-/

import KeyedRecord.Schema.Basic

namespace KeyedRecord

/-- A field of a structure. -/
structure Field where
  attributes : List Grammar.Attribute
  visibility : Phrase
  name : Ident
  type : Phrase

/-- The structure that holds the stored members. -/
structure Structure where
  attributes : List Grammar.Attribute
  visibility : Phrase
  name : Ident
  fields : List Field

/-- The field of a stored member. -/
def Member.field (member : Member) : Field where
  attributes := withoutDirectives member.attributes
  visibility := member.visibility
  name := member.name
  type := member.type.phrase

/-- The structure of a record. -/
def Record.structure (record : Record) : Structure where
  attributes := record.attributes
  visibility := record.visibility
  name := record.name
  fields := record.storedMembers.map Member.field

/-- The function that reads a computed member. -/
structure Getter where
  attributes : List Grammar.Attribute
  visibility : Phrase
  name : Ident
  type : Phrase
  body : Phrase

/-- The function that changes an observed member. -/
structure Setter where
  visibility : Phrase
  member : Ident
  type : Phrase
  observers : Observers

/-- The name of the setter: the member's name without its raw mark, after `set_`. -/
def Setter.name (setter : Setter) : Ident :=
  Ident.plain ("set_" ++ setter.member.name)

/-- An item of a record's own implementation. -/
inductive InherentItem
  | getter (getter : Getter)
  | setter (setter : Setter)
  | declared (item : Grammar.ImplItem)

/-- What a member adds to the implementation. -/
def Member.inherentItem? (member : Member) : Option InherentItem :=
  match member.form with
  | .stored _ => none
  | .observed _ observers =>
    some (.setter ⟨member.visibility, member.name, member.type.phrase, observers⟩)
  | .computed body =>
    some (.getter ⟨withoutDirectives member.attributes, member.visibility, member.name,
      member.type.phrase, body⟩)

/-- What an item of the body adds to the implementation. -/
def BodyItem.inherentItem? : BodyItem → Option InherentItem
  | .member declared => declared.inherentItem?
  | .item declared => some (.declared declared)

/-- The items of a record's own implementation, in order of declaration. -/
def Record.inherentItems (record : Record) : List InherentItem :=
  record.items.filterMap BodyItem.inherentItem?

/-- A variant of an enumeration of keys, and its key in documents. -/
structure KeyVariant where
  name : String
  key : String
deriving DecidableEq, Repr

/-- An enumeration of keys. -/
structure KeyEnumeration where
  visibility : Phrase
  name : Ident
  variants : List KeyVariant

/-- Where a written value comes from. -/
inductive ValueSource
  | field
  | getter
deriving DecidableEq, Repr

/-- A step that writes a member. -/
structure WriteStep where
  member : Ident
  source : ValueSource
  variant : String
deriving DecidableEq, Repr

/-- A step that reads a member and binds it to its name. Without a type of its own the step reads
the type of the field. -/
structure ReadStep where
  member : Ident
  type : Option Ident
  variant : String
deriving DecidableEq, Repr

/-- Where the value of a field comes from when a record is read. -/
inductive FieldSource
  /-- The name that a step has bound. -/
  | bound
  /-- The initial value of the declaration. -/
  | initial (value : Phrase)
  /-- The default of the field's type. -/
  | typeDefault

/-- A field that is filled when a record is read. -/
structure FilledField where
  name : Ident
  source : FieldSource

/-- The code that reads a record. -/
structure Reading where
  /-- Whether the steps name their types. -/
  isTyped : Bool
  steps : List ReadStep
  fields : List FilledField

/-- The code for the documents of a record. -/
structure Conformance where
  record : Ident
  keys : KeyEnumeration
  writes : List WriteStep
  reading : Reading

/-- The enumeration of a record's keys. -/
def KeyTable.enumeration (table : KeyTable) (record : Record) : KeyEnumeration where
  visibility := record.visibility
  name := record.keysName
  variants := table.entries.map fun entry => ⟨entry.variant, entry.key⟩

/-- The step that writes the member of a role. -/
def MemberRole.writeStep (role : MemberRole) : WriteStep where
  member := role.name
  source := if role.isComputed then .getter else .field
  variant := role.name.variant

/-- The step that reads the member of an entry. -/
def KeyEntry.readStep (entry : KeyEntry) : ReadStep where
  member := entry.name
  type := none
  variant := entry.variant

/-- The step that reads a member by its type. -/
def TypedMember.readStep (member : TypedMember) : ReadStep where
  member := member.name
  type := some member.type
  variant := member.name.variant

/-- How a stored member is filled when the named members have been read. -/
def Member.filled (bound : List Ident) (member : Member) : FilledField where
  name := member.name
  source :=
    if bound.contains member.name then .bound
    else
      match member.initial with
      | some value => .initial value
      | none => .typeDefault

/-- The code that fills a record after the steps. -/
def Reading.ofSteps (record : Record) (isTyped : Bool) (steps : List ReadStep) : Reading where
  isTyped := isTyped
  steps := steps
  fields := record.storedMembers.map (Member.filled (steps.map ReadStep.member))

/-- The code that reads a record. -/
def Schema.reading (schema : Schema) (record : Record) : Reading :=
  match schema.typed with
  | some members => Reading.ofSteps record true (members.map TypedMember.readStep)
  | none => Reading.ofSteps record false (schema.keys.entries.map KeyEntry.readStep)

/-- The code for the documents of a record with a schema. -/
def Conformance.ofSchema (record : Record) (schema : Schema) : Conformance where
  record := record.name
  keys := schema.keys.enumeration record
  writes := (schema.roles.filter MemberRole.isIncluded).map MemberRole.writeStep
  reading := schema.reading record

/-- What a record gets for its documents. -/
inductive DocumentCode
  /-- Nothing: no member is included. -/
  | nothing
  /-- An error that stops the compilation. -/
  | conflict (cause : VariantConflict)
  | conformance (code : Conformance)

/-- What a record gets for its documents. -/
def DocumentCode.ofRecord (record : Record) : DocumentCode :=
  match record.schema with
  | none => .nothing
  | some schema =>
    match schema.keys.conflict? with
    | some cause => .conflict cause
    | none => .conformance (Conformance.ofSchema record schema)

/-- The expansion of a record. -/
structure Expansion where
  declaration : Structure
  inherentItems : List InherentItem
  documentCode : DocumentCode
  warnings : List Warning

/-- The expansion of a record. -/
def Expansion.ofRecord (record : Record) : Expansion where
  declaration := record.structure
  inherentItems := record.inherentItems
  documentCode := DocumentCode.ofRecord record
  warnings := Warning.ofFacts record.facts

end KeyedRecord
