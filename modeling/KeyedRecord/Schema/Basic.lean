/-
**Schemas.**

The schema of a record says which members stand in its documents, and under which keys. Where a
computed member is included, it also lists the stored members to read back and their types. A
record of which no member is included has no schema, and a warning says so.

* `Schema.synthesize`: the schema of a record with such members, if it has one, and the warnings.
* `Schema.ofFacts`, `Warning.ofFacts`: the two apart, where nothing has been reported before.
-/

import KeyedRecord.Schema.KeyTable

namespace KeyedRecord

/-- A stored member that is read back by its declared type. -/
structure TypedMember where
  name : Ident
  type : Ident
deriving DecidableEq, Repr

/-- The member that a role wants read back by its declared type. -/
def MemberRole.typedMember? (role : MemberRole) : Option TypedMember :=
  if role.isIncluded && !role.isComputed then
    role.declaredType.map fun type => ⟨role.name, type⟩
  else none

/-- The members to read back by their types, if some computed member is included. -/
def typedMembers? (roles : List MemberRole) : Option (List TypedMember) :=
  if roles.any fun role => role.isIncluded && role.isComputed then
    some (roles.filterMap MemberRole.typedMember?)
  else none

/-- Which members stand in the documents of a record, and how they are read back. -/
structure Schema where
  roles : List MemberRole
  keys : KeyTable
  /-- The members to read back by their types, where that differs from reading back all. -/
  typed : Option (List TypedMember)

/-- The schema of a record with such members, and the warnings after those reported before. -/
def Schema.synthesize (members : List MemberFacts) (reported : List Warning) :
    Option Schema × List Warning :=
  let roles := MemberRole.ofFacts members
  match KeyTable.synthesize roles reported with
  | (some keys, reported) => (some ⟨roles, keys, typedMembers? roles⟩, reported)
  | (none, reported) => (none, reported)

/-- The schema of a record with such members. -/
def Schema.ofFacts (members : List MemberFacts) : Option Schema :=
  (Schema.synthesize members []).1

/-- The warnings about a record with such members. -/
def Warning.ofFacts (members : List MemberFacts) : List Warning :=
  (Schema.synthesize members []).2

/-- The schema of a record. -/
def Record.schema (record : Record) : Option Schema :=
  Schema.ofFacts record.facts

end KeyedRecord
