/-
**The roles of members in documents.**

Each member has a key and may be included in documents. Once a computed member is included,
members are read back one by one by their declared types, so a stored member whose type is no bare
name gets no role at all (`MemberRole.ofFacts`).
-/

import KeyedRecord.Schema.Facts

namespace KeyedRecord

/-- The role of a member in documents. -/
structure MemberRole where
  name : Ident
  key : String
  isIncluded : Bool
  isComputed : Bool
  declaredType : Option Ident
deriving DecidableEq, Repr

/-- The role that the facts give a member. -/
def MemberFacts.role (facts : MemberFacts) : MemberRole where
  name := facts.name
  key := facts.participation.rename.getD facts.name.name
  isIncluded := facts.participation.isIncluded
  isComputed := facts.isComputed
  declaredType := facts.declaredType

/-- Whether the member is computed and included. -/
def MemberFacts.isIncludedComputed (facts : MemberFacts) : Bool :=
  facts.participation.isIncluded && facts.isComputed

/-- Whether the member can be read back by its declared type, or need not be read back. -/
def MemberFacts.isTyped (facts : MemberFacts) : Bool :=
  facts.isComputed || facts.declaredType.isSome

/-- The roles of the members, in order of declaration. -/
def MemberRole.ofFacts (members : List MemberFacts) : List MemberRole :=
  let needsTypes := members.any MemberFacts.isIncludedComputed
  (members.filter fun facts => !needsTypes || facts.isTyped).map MemberFacts.role

end KeyedRecord
