/-
**Records.**

A record is declared like a structure with named members, together with the functions and
constants that belong to it. A member is stored, stored with observers of its changes, or computed
by a body whenever it is read (`MemberForm`). Only a stored member can have an initial value.

* `Record.members`: the members in order of declaration.
* `Member.decodeDefault`: the expression for a member that no document fills.
-/

import KeyedRecord.Grammar.Signature

namespace KeyedRecord

/-- The blocks that run before and after a change of a member. -/
structure Observers where
  willSet : Option Phrase
  didSet : Option Phrase

/-- Observers that do nothing. -/
def Observers.none : Observers :=
  ⟨Option.none, Option.none⟩

/-- How a member comes by its value. -/
inductive MemberForm
  | stored (initial : Option Phrase)
  | observed (initial : Option Phrase) (observers : Observers)
  | computed (body : Phrase)

/-- A member of a record. -/
structure Member where
  attributes : List Grammar.Attribute
  visibility : Phrase
  name : Ident
  type : Grammar.TypeExpr
  form : MemberForm

/-- Whether the member is computed. -/
def Member.isComputed (member : Member) : Bool :=
  match member.form with
  | .computed _ => true
  | _ => false

/-- The expression that the declaration gives for the first value. -/
def Member.initial (member : Member) : Option Phrase :=
  match member.form with
  | .stored initial => initial
  | .observed initial _ => initial
  | .computed _ => none

/-- The default of the type, whatever the type is. -/
def defaultValue : Phrase :=
  Phrase.ofWords ["::", "core", "::", "default", "::", "Default", "::", "default"] ++
    Phrase.parenthesized []

/-- The expression for a member that no document fills: its initial value, or its type's default. -/
def Member.decodeDefault (member : Member) : Phrase :=
  member.initial.getD defaultValue

/-- What stands in the body of a record. -/
inductive BodyItem
  | member (member : Member)
  | item (item : Grammar.ImplItem)

/-- A record. -/
structure Record where
  attributes : List Grammar.Attribute
  visibility : Phrase
  name : Ident
  items : List BodyItem

/-- The member that an item of the body is. -/
def BodyItem.member? : BodyItem → Option Member
  | .member declared => some declared
  | .item _ => none

/-- The members in order of declaration. -/
def Record.members (record : Record) : List Member :=
  record.items.filterMap BodyItem.member?

/-- The members that are stored, in order of declaration. -/
def Record.storedMembers (record : Record) : List Member :=
  record.members.filter fun member => !member.isComputed

/-- The name of the enumeration of the record's keys. -/
def Record.keysName (record : Record) : Ident :=
  Ident.plain (record.name.name ++ "CodingKeys")

end KeyedRecord
