/-
**Sample records.**

A sample is a record together with the meaning of its bodies, so that it can be run. Its members
are declared by the words below: all are public, and their types are names or lists of names.

* `Sample.declare`: a record of the given members and items.
* `Sample.model`: the model of a sample.
-/

import KeyedRecord.Behaviour.Datum
import KeyedRecord.Expansion.Wording

namespace KeyedRecord

/-- A record with the meaning of its bodies. -/
structure Sample where
  record : Record
  bodies : Bodies

namespace Sample

open Grammar

/-- The attribute of a name alone. -/
def mark (name : String) : Attribute :=
  ⟨Path.ofIdent (Ident.plain name), .none⟩

/-- The attribute of a name with arguments in round brackets. -/
def markWith (name : String) (arguments : Phrase) : Attribute :=
  ⟨Path.ofIdent (Ident.plain name), .list .parenthesis arguments⟩

/-- The attribute that gives a member its key. -/
def renamed (key : String) : Attribute :=
  markWith renameWord (Phrase.ofText key)

/-- The attribute that keeps a member out of documents. -/
def excluded : Attribute :=
  mark excludeWord

/-- A type that is a name. -/
def named (name : String) : TypeExpr :=
  .path (Path.ofIdent (Ident.plain name))

/-- The type of lists of a named type. -/
def listOf (element : String) : TypeExpr :=
  .path ⟨false, [⟨Ident.plain "Vec", .angled (Phrase.ofWords ["<", element, ">"]) false⟩]⟩

/-- A public member. -/
def member (attributes : List Attribute) (name : String) (type : TypeExpr) (form : MemberForm) :
    BodyItem :=
  .member ⟨attributes, Phrase.template "pub", Ident.ofText name, type, form⟩

/-- A public member that is stored and has no initial value. -/
def stored (attributes : List Attribute) (name : String) (type : TypeExpr) : BodyItem :=
  member attributes name type (.stored none)

/-- A public member that is stored and has an initial value. -/
def initialized (attributes : List Attribute) (name : String) (type : TypeExpr) (value : String) :
    BodyItem :=
  member attributes name type (.stored (some (Phrase.template value)))

/-- A public member that is computed. -/
def computed (attributes : List Attribute) (name : String) (type : TypeExpr) (body : Phrase) :
    BodyItem :=
  member attributes name type (.computed body)

/-- A public record. -/
def declare (name : String) (items : List BodyItem) : Record where
  attributes := [markWith "derive" (Phrase.template "Clone , Debug , Default")]
  visibility := Phrase.template "pub"
  name := Ident.plain name
  items := items

/-- A block of statements. -/
def block (statements : Phrase) : Phrase :=
  Phrase.braced statements

/-- A text with the named members in its places. -/
def formatted (pattern : String) (members : List String) : Phrase :=
  let arguments := members.map fun name => Phrase.template ("self . " ++ name)
  Phrase.template "format !" ++
    Phrase.parenthesized (Phrase.commaSeparated (Phrase.ofText pattern :: arguments))

/-- The integer that a state holds. -/
def integerOf (state : State Datum) (name : String) : Int :=
  (state (Ident.ofText name)).toInt

/-- The text that a state holds. -/
def textOf (state : State Datum) (name : String) : String :=
  (state (Ident.ofText name)).toText

/-- The model of a sample. -/
def model (sample : Sample) : Model Datum :=
  Model.ofBodies sample.bodies

/-- The expansion of a sample. -/
def expansion (sample : Sample) : Expansion :=
  Expansion.ofRecord sample.record

end Sample

end KeyedRecord
