/-
**Facts about members.**

What decides how a member takes part in documents: its name, whether its type is a bare name,
whether it is computed, and its directive. A rename brings a computed member in, an exclusion
keeps any member out, and otherwise exactly the stored members take part.

* `Record.facts`: the facts about a record's members, in order of declaration.
* `MemberFacts.participation`: whether a member takes part, and under which key of its own.
-/

import KeyedRecord.Record.Basic
import KeyedRecord.Schema.Directive

namespace KeyedRecord

/-- What is known about a member. -/
structure MemberFacts where
  name : Ident
  /-- The type, if it is a single name without arguments. -/
  declaredType : Option Ident
  isComputed : Bool
  directive : Option Directive
deriving DecidableEq, Repr

/-- The facts about a member. -/
def Member.facts (member : Member) : MemberFacts where
  name := member.name
  declaredType := member.type.bareName
  isComputed := member.isComputed
  directive := Directive.first member.attributes

/-- The facts about the members of a record, in order of declaration. -/
def Record.facts (record : Record) : List MemberFacts :=
  record.members.map Member.facts

/-- Whether a member takes part in documents, and its key if that is not its name. -/
structure Participation where
  isIncluded : Bool
  rename : Option String
deriving DecidableEq, Repr

/-- How a member takes part in documents. -/
def MemberFacts.participation (facts : MemberFacts) : Participation :=
  match facts.directive with
  | some .exclude => ⟨false, none⟩
  | some (.rename (some key)) => ⟨true, if key == facts.name.name then none else some key⟩
  | _ => ⟨!facts.isComputed, none⟩

end KeyedRecord
