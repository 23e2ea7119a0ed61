/-
**Directives.**

Two attributes tell what to do with a member: one gives its key in documents, the other keeps it
out of them. Only the first attribute of a member counts, comments of documentation aside.

* `Directive.first`: the directive of a list of attributes.
* `withoutDirectives`: the attributes that are left for others to read.
-/

import KeyedRecord.Grammar.Language

namespace KeyedRecord

open Grammar

/-- What the first attribute of a member says. -/
inductive Directive
  /-- The member's key; no key if the attribute does not begin with a text. -/
  | rename (key : Option String)
  /-- The member is kept out of documents. -/
  | exclude
  /-- The attribute says nothing about documents. -/
  | other
deriving DecidableEq, Repr

/-- The attribute that gives the key of a member. -/
def renameWord : String := "codable_key"

/-- The attribute that keeps a member out of documents. -/
def excludeWord : String := "uncodable_key"

/-- Whether the attribute's path is the word alone. -/
def Grammar.Attribute.isNamed (word : String) (attr : Attribute) : Bool :=
  attr.path.ident? == some (Ident.plain word)

/-- Whether the attribute is a comment of documentation. -/
def Grammar.Attribute.isDocumentation (attr : Attribute) : Bool :=
  attr.isNamed "doc"

/-- Whether the attribute is one of the two directives. -/
def Grammar.Attribute.isDirective (attr : Attribute) : Bool :=
  attr.isNamed renameWord || attr.isNamed excludeWord

/-- The text that opens a list of expressions, if all of the list can be read. -/
def leadingText? (phrase : Phrase) : Option String :=
  match (commaElements List.isEmpty ((Rules.forPhrase phrase).expr true)).complete phrase with
  | .ok (⟨⟨_, .text content⟩, _⟩ :: _) => some content
  | _ => none

/-- The key that an attribute gives. -/
def Grammar.Attribute.key? (attr : Attribute) : Option String :=
  match attr.arguments with
  | .list _ content => leadingText? content
  | _ => none

/-- The directive of one attribute. -/
def Directive.ofAttribute (attr : Attribute) : Directive :=
  if attr.isNamed renameWord then .rename attr.key?
  else if attr.isNamed excludeWord then .exclude
  else .other

/-- The directive of the first attribute that is not documentation. -/
def Directive.first (attributes : List Attribute) : Option Directive :=
  (attributes.find? fun attr => !attr.isDocumentation).map Directive.ofAttribute

/-- The attributes that are no directives. -/
def withoutDirectives (attributes : List Attribute) : List Attribute :=
  attributes.filter fun attr => !attr.isDirective

end KeyedRecord
